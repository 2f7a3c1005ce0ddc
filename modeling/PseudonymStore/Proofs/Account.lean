import PseudonymStore.Proofs.Custody
import PseudonymStore.Proofs.Owned
/-!
# What an account shows

The view of an account and the operator's query of it show the same events after every cursor.  With the events come the
secrets of their users, and none is missing, since a secret is bound to each pseudonym with events
(`Session.showsAccount_life`).
-/
namespace PseudonymStore

variable {σ : Type}

def AccountView.returned (view : AccountView) : List EventView :=
  view.events.elim [] EventsByAccount.all

/-- **A view of an account agrees with a query of it** and with the secrets that are bound in it. -/
structure AccountView.Agrees (t : Tables) (account : String) (m : EventsByAccount) (view : AccountView) : Prop where
  noEvents : view.events = none ↔ m = .empty
  events : m ≠ .empty → view.events = some m
  noSecrets : view.secrets = none ↔ ∀ v ∈ view.returned, v.user = none
  /-- Secrets come for the users of the events that are returned, each once. -/
  users : ∀ secrets, view.secrets = some secrets → (secrets.rows.map (·.1)).Nodup ∧
    ∀ p, p ∈ secrets.rows.map (·.1) ↔ ∃ v ∈ view.returned, v.user = some p
  /-- The secret of a user is the one that is bound now, also in the user's events. -/
  bound : ∀ secrets, view.secrets = some secrets → ∀ v ∈ view.returned, ∀ p, v.user = some p →
    ∃ secret, t.secret? account p = some secret ∧ secrets.get? p = some secret ∧ v.secret = some secret

/-- **What a session shows of an account** after a cursor. -/
structure Session.ShowsAccount (env : Environment σ) (s : Session σ) (account : String) (since : Option String) :
    Prop where
  shown : ∃ m view,
    s.after env (.query { EventQuery.operator [account] with cursor := since }) = (.ok (.events m), s) ∧
      s.after env (.viewAccount account true since) = (.ok (.account view), s) ∧ view.Agrees s.tables account m
  /-- Where the events are not asked for, nothing comes with the public part. -/
  bare : ∃ view, s.after env (.viewAccount account false since) = (.ok (.account view), s) ∧ view.events = none ∧
    view.secrets = none ∧ view.sealedKey = none
  unset : since = some "" →
    s.after env (.query { EventQuery.operator [account] with cursor := since }) =
        s.after env (.query (.operator [account])) ∧
      ∀ withEvents,
        s.after env (.viewAccount account withEvents since) = s.after env (.viewAccount account withEvents none)

/-! ## Answers as maps -/

namespace EventsByAccount

theorem isEmpty_iff {m : EventsByAccount} : m.isEmpty = true ↔ m = .empty := by
  rw [OrderedMap.isEmpty, List.isEmpty_iff, OrderedMap.ext_iff]
  rfl

theorem all_ofLists_singleton (account : String) (events : List EventView) :
    (ofLists [(account, events)]).all = events := by
  cases events with
  | nil => rfl
  | cons v vs => simp [ofLists, OrderedMap.ofRows, OrderedMap.insert, OrderedMap.empty, all]

end EventsByAccount

namespace SecretsByUser

variable {events : List EventView} (hone : ∀ v ∈ events, ∀ w ∈ events, v.user = w.user → v.secret = w.secret)

include hone

theorem mem_rows_ofEvents {p : Pseudonym} {secret : String} :
    (p, secret) ∈ (ofEvents events).rows ↔ ∃ v ∈ events, v.user = some p ∧ v.secret = some secret := by
  unfold ofEvents
  generalize hrows : List.filterMap _ events = rows
  have hmem (x : Pseudonym × String) : x ∈ rows ↔ ∃ v ∈ events, v.user = some x.1 ∧ v.secret = some x.2 := by
    rw [← hrows, List.mem_filterMap]
    refine exists_congr fun v => and_congr_right fun _ => ?_
    cases v.user <;> cases v.secret <;> simp [Prod.ext_iff]
  rw [OrderedMap.mem_ofRows, hmem]
  intro x hx y hy heq
  obtain ⟨v, hv, hvp, hvs⟩ := (hmem x).1 hx
  obtain ⟨w, hw, hwp, hws⟩ := (hmem y).1 hy
  have hsame := hone v hv w hw (by rw [hvp, hwp, heq])
  rw [hvs, hws] at hsame
  exact Prod.ext heq (Option.some.inj hsame)

theorem isEmpty_ofEvents_iff :
    (ofEvents events).isEmpty = true ↔ ∀ v ∈ events, ∀ p secret, v.user = some p → v.secret ≠ some secret := by
  rw [OrderedMap.isEmpty, List.isEmpty_iff, List.eq_nil_iff_forall_not_mem, Prod.forall]
  simp only [mem_rows_ofEvents hone]
  constructor
  · intro h v hv p secret hp hsecret
    exact h p secret ⟨v, hv, hp, hsecret⟩
  · rintro h p secret ⟨v, hv, hp, hsecret⟩
    exact h v hv p secret hp hsecret

end SecretsByUser

/-! ## The view of an account -/

def AccountView.withEvents (row : AccountRow) (events : List EventView) : AccountView :=
  { ofRow row with
    sealedKey := some row.sealedKey
    events := if (EventsByAccount.ofLists [(row.account, events)]).isEmpty then none
      else some (.ofLists [(row.account, events)])
    secrets := if (SecretsByUser.ofEvents events).isEmpty then none else some (.ofEvents events) }

namespace AccountView

variable {t : Tables} {row : AccountRow} {events : List EventView}

theorem returned_withEvents (row : AccountRow) (events : List EventView) : (withEvents row events).returned = events := by
  have hall := EventsByAccount.all_ofLists_singleton row.account events
  unfold returned withEvents
  dsimp only
  split
  · next hempty =>
    rw [EventsByAccount.isEmpty_iff.1 hempty] at hall
    exact hall
  · exact hall

theorem agrees_withEvents (hjoin : ∀ v ∈ events, v.secret = v.user.bind (t.secret? row.account))
    (hbound : ∀ v ∈ events, ∀ p, v.user = some p → ∃ secret, t.secret? row.account p = some secret) :
    (withEvents row events).Agrees t row.account (.ofLists [(row.account, events)]) := by
  have hone (v : EventView) (hv : v ∈ events) (w : EventView) (hw : w ∈ events) (heq : v.user = w.user) :
      v.secret = w.secret := by
    rw [hjoin v hv, hjoin w hw, heq]
  have hjoined (v : EventView) (hv : v ∈ events) (p : Pseudonym) (hp : v.user = some p) :
      ∃ secret, t.secret? row.account p = some secret ∧ v.secret = some secret := by
    obtain ⟨secret, hsecret⟩ := hbound v hv p hp
    exact ⟨secret, hsecret, by rw [hjoin v hv, hp, Option.bind_some, hsecret]⟩
  have hsecrets (secrets : SecretsByUser) (h : (withEvents row events).secrets = some secrets) :
      secrets = .ofEvents events := by
    unfold withEvents at h
    dsimp only at h
    split at h
    · cases h
    · exact (Option.some.inj h).symm
  have hreturned := returned_withEvents row events
  refine ⟨?_, ?_, ?_, ?_, ?_⟩
  · unfold withEvents
    rw [ite_eq_left_iff, ← EventsByAccount.isEmpty_iff]
    simp
  · intro hne
    unfold withEvents
    exact if_neg (mt EventsByAccount.isEmpty_iff.1 hne)
  · have hnone : (withEvents row events).secrets = none ↔ (SecretsByUser.ofEvents events).isEmpty = true := by
      unfold withEvents
      simp
    rw [hreturned, hnone, SecretsByUser.isEmpty_ofEvents_iff hone]
    refine forall₂_congr fun v hv => ⟨fun h => ?_, fun h p _ hp => ?_⟩
    · refine Option.eq_none_iff_forall_ne_some.2 fun p hp => ?_
      obtain ⟨secret, -, hsecret⟩ := hjoined v hv p hp
      exact h p secret hp hsecret
    · rw [h] at hp
      cases hp
  · intro secrets h
    obtain rfl := hsecrets secrets h
    refine ⟨OrderedMap.nodup_keys _, fun p => ?_⟩
    rw [hreturned, List.mem_map]
    constructor
    · rintro ⟨⟨q, secret⟩, hmem, rfl⟩
      obtain ⟨v, hv, hp, -⟩ := (SecretsByUser.mem_rows_ofEvents hone).1 hmem
      exact ⟨v, hv, hp⟩
    · rintro ⟨v, hv, hp⟩
      obtain ⟨secret, -, hsecret⟩ := hjoined v hv p hp
      exact ⟨(p, secret), (SecretsByUser.mem_rows_ofEvents hone).2 ⟨v, hv, hp, hsecret⟩, rfl⟩
  · intro secrets h v hv p hp
    obtain rfl := hsecrets secrets h
    rw [hreturned] at hv
    obtain ⟨secret, hbound, hsecret⟩ := hjoined v hv p hp
    exact ⟨secret, hbound,
      OrderedMap.get?_eq_some_iff.2 ((SecretsByUser.mem_rows_ofEvents hone).2 ⟨v, hv, hp, hsecret⟩), hsecret⟩

end AccountView

namespace Session

variable {env : Environment σ} {s : Session σ}

theorem showsAccount_of_secured (env : Environment σ) (h : s.tables.Secured) {account : String} {row : AccountRow}
    (hrow : s.tables.account account = .ok row) (since : Option String) : s.ShowsAccount env account since where
  shown := by
    obtain ⟨rfl, hnul⟩ := h.account_of_eq_ok hrow
    obtain ⟨es, hevents, -, hmem⟩ := h.scan hnul (given since)
    have hview : s.tables.accountView row.account true since =
        .ok (.withEvents row (es.map (s.tables.operatorView row.account))) := by
      rw [Tables.accountView, hrow, hevents]
      rfl
    have hquery : s.tables.operatorQuery { EventQuery.operator [row.account] with cursor := since } =
        .ok (.ofLists [(row.account, es.map (s.tables.operatorView row.account))]) := by
      unfold Tables.operatorQuery EventQuery.operator
      rw [List.mapM_cons, hrow, hevents]
      rfl
    refine ⟨_, _, after_query_of_ok ?_, after_viewAccount hview, AccountView.agrees_withEvents ?_ ?_⟩
    · show MonadExcept.ofExcept (s.tables.operatorQuery _) = _
      rw [hquery]
      rfl
    · intro v hv
      obtain ⟨e, -, rfl⟩ := List.mem_map.1 hv
      rfl
    · intro v hv p hp
      obtain ⟨e, he, rfl⟩ := List.mem_map.1 hv
      obtain ⟨hstored, haccount, -⟩ := (hmem e).1 he
      exact haccount ▸ Option.isSome_iff_exists.1 (h.secret?_isSome hstored hp)
  bare := by
    refine ⟨.ofRow row, after_viewAccount ?_, rfl, rfl, rfl⟩
    rw [Tables.accountView, hrow]
    rfl
  unset := by
    rintro rfl
    exact ⟨rfl, fun _ => rfl⟩

/-- **Over every life** an account shows what the operator's query of it shows, with a secret for every user. -/
theorem showsAccount_life (henv : env.Proper) (world : σ) (acts : List Act) {account : String}
    (hexists : ∃ row, ((opened .empty world).life env acts).tables.account account = .ok row) (since : Option String) :
    ((opened .empty world).life env acts).ShowsAccount env account since := by
  obtain ⟨row, hrow⟩ := hexists
  exact showsAccount_of_secured env (secured_life henv acts .empty) hrow since

/-- A life in which an ID is issued twice, so that a user's own query is not exact any more. -/
theorem showsAccount_life_reissued :
    (∃ row, ((opened .empty ()).life .still reissued).tables.account "a" = .ok row) ∧
      ((opened .empty ()).life .still reissued).ShowsAccount .still "a" none := by
  obtain ⟨row, l, h, -, hrow, -⟩ := keeps_started
  have hread := (h.tables.account_eq h.sound "a").trans (Ledger.account_eq_ok_iff.2 hrow)
  rw [← life_operate] at hread
  have hexists : ∃ row, ((opened .empty ()).life .still reissued).tables.account "a" = .ok row := by
    rw [reissued, life_append]
    exact ⟨row, (grows_life .still _ _).account_eq hread⟩
  exact ⟨hexists, showsAccount_life Environment.still_proper () reissued hexists none⟩

end Session

end PseudonymStore
