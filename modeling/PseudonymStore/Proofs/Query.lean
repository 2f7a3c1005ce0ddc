import PseudonymStore.Proofs.Legible
import PseudonymStore.Proofs.Operation.Answer
/-!
# What a query shows

A query answers, account by account, the events that it asks for, or names the first account that is not known
(`Session.Exact`).  An operator's view reads the events of an account, and a user's view reads the index: both show the
same events of the user, as long as the index lists what there is.  It does while no ID is issued twice, so always within
one session; a store that is opened again may issue an ID that is stored already, and then a user may be shown an event of
somebody else (`Session.not_exact_reissued`).
-/
namespace PseudonymStore

variable {σ : Type}

def EventQuery.Covers (q : EventQuery) (account : String) : Prop :=
  account ∈ q.accounts ∨ (given q.userId).isSome = true ∧ q.accounts = []

def EventsByAccount.eventsIn (m : EventsByAccount) (account : String) : List EventView :=
  (m.get? account).getD []

namespace Tables

/-- A query shows an event of an account: one after the cursor, for a user one of the user's own and without its secret,
for an operator any with the secret that is bound to its user. -/
def Shows (env : Environment σ) (t : Tables) (q : EventQuery) (row : AccountRow) (v : EventView) : Prop :=
  ∃ e, t.Stores e ∧ e.account = row.account ∧ (∀ cursor, given q.cursor = some cursor → utf8 cursor < utf8 e.id) ∧
    match given q.userId with
    | some user => e.user = some (env.hash user row.salt) ∧ v = .ofRow e none
    | none => v = .ofRow e (e.user.bind (t.secret? row.account))

/-- **An answer to a query.** -/
structure Answers (env : Environment σ) (t : Tables) (q : EventQuery) (m : EventsByAccount) : Prop where
  accounts : ∀ account, m.contains account = true ↔
    q.Covers account ∧ ∃ row v, t.account account = .ok row ∧ t.Shows env q row v
  ascending : ∀ account, (m.eventsIn account).Pairwise (·.id < ·.id)
  events : ∀ account row, q.Covers account → t.account account = .ok row →
    ∀ v, v ∈ m.eventsIn account ↔ t.Shows env q row v

def reply (env : Environment σ) (t : Tables) (q : EventQuery) : Reading EventsByAccount :=
  match given q.userId with
  | some user => t.userView (env.hash user) q
  | none => MonadExcept.ofExcept (t.operatorQuery q)

end Tables

namespace Session

/-- What a user is shown of an account is what the operator is shown, of the user's events alone and without secrets. -/
def Agrees (env : Environment σ) (s : Session σ) (q : EventQuery) (m : EventsByAccount) : Prop :=
  ∀ user account row, given q.userId = some user → q.Covers account → s.tables.account account = .ok row →
    ∃ all, s.after env (.query { q with accounts := [account], userId := none }) = (.ok (.events all), s) ∧
      m.eventsIn account = ((all.eventsIn account).filter (·.user = some (env.hash user row.salt))).map
        ({ · with secret := none })

/-- **A query is exact**, whether all accounts that it names are known or one is not. -/
structure Exact (env : Environment σ) (s : Session σ) (q : EventQuery) : Prop where
  unknown : ∀ before account after, q.accounts = before ++ account :: after →
    (∀ a ∈ before, ∃ row, s.tables.account a = .ok row) → (¬∃ row, s.tables.account account = .ok row) →
    s.after env (.query q) = (.error (.unknownAccount account), s)
  known : (∀ a ∈ q.accounts, ∃ row, s.tables.account a = .ok row) →
    ∃ m, s.after env (.query q) = (.ok (.events m), s) ∧ s.tables.Answers env q m ∧ s.Agrees env q m

end Session

/-! ## Reading lists -/

theorem exists_mapM_eq_pure {m : Type → Type} [Monad m] [LawfulMonad m] {α β : Type} {f : α → m β} {P : α → β → Prop} :
    ∀ {xs : List α}, (∀ x ∈ xs, ∃ y, f x = pure y ∧ P x y) →
    ∃ ys, xs.mapM f = pure ys ∧ (∀ y ∈ ys, ∃ x ∈ xs, P x y) ∧ ∀ x ∈ xs, ∃ y ∈ ys, P x y
  | [], _ => ⟨[], List.mapM_nil, by simp, by simp⟩
  | x :: xs, h => by
    obtain ⟨y, hy, hxy⟩ := h x List.mem_cons_self
    obtain ⟨ys, hys, hof, hgives⟩ := exists_mapM_eq_pure fun z hz => h z (List.mem_cons_of_mem _ hz)
    refine ⟨y :: ys, ?_, List.forall_mem_cons.2 ⟨⟨x, List.mem_cons_self, hxy⟩, fun z hz => ?_⟩,
      List.forall_mem_cons.2 ⟨⟨y, List.mem_cons_self, hxy⟩, fun z hz => ?_⟩⟩
    · rw [List.mapM_cons, hy, hys, pure_bind, pure_bind]
    · obtain ⟨w, hw, hwz⟩ := hof z hz
      exact ⟨w, List.mem_cons_of_mem _ hw, hwz⟩
    · obtain ⟨w, hw, hzw⟩ := hgives z hz
      exact ⟨w, List.mem_cons_of_mem _ hw, hzw⟩

theorem mapM_eq_error {ε α β : Type} {f : α → Except ε β} {x : α} {e : ε} (hx : f x = .error e) (after : List α) :
    ∀ {before : List α}, (∀ y ∈ before, ∃ b, f y = .ok b) → (before ++ x :: after).mapM f = .error e
  | [], _ => by
    rw [List.nil_append, List.mapM_cons, hx]
    rfl
  | y :: before, h => by
    obtain ⟨b, hb⟩ := h y List.mem_cons_self
    have ih := mapM_eq_error hx after fun z hz => h z (List.mem_cons_of_mem _ hz)
    rw [List.cons_append, List.mapM_cons, hb, ih]
    rfl

theorem comesAfter_iff {since : Option String} {id : String} :
    comesAfter since id = true ↔ ∀ cursor, since = some cursor → utf8 cursor < utf8 id := by
  cases since <;> simp [Utf8.utf8_lt_utf8_iff]

namespace Tables

variable {env : Environment σ} {t : Tables} {q : EventQuery}

def IsListed (t : Tables) (shows : AccountRow → EventView → Prop) (x : String × List EventView) : Prop :=
  ∃ row, t.account x.1 = .ok row ∧ x.2.Pairwise (·.id < ·.id) ∧ ∀ v, v ∈ x.2 ↔ shows row v

structure Lists (t : Tables) (covers : String → Prop) (shows : AccountRow → EventView → Prop)
    (lists : List (String × List EventView)) : Prop where
  sound : ∀ x ∈ lists, covers x.1 ∧ t.IsListed shows x
  complete : ∀ account row, t.account account = .ok row → covers account → ∃ x ∈ lists, x.1 = account

namespace Lists

variable {covers : String → Prop} {shows : AccountRow → EventView → Prop} {lists : List (String × List EventView)}

theorem one (h : t.Lists covers shows lists) : ∀ x ∈ lists, ∀ y ∈ lists, x.1 = y.1 → x = y := by
  intro x hx y hy heq
  obtain ⟨-, row, hrow, hascending, hevents⟩ := h.sound x hx
  obtain ⟨-, row', hrow', hascending', hevents'⟩ := h.sound y hy
  rw [heq, hrow'] at hrow
  cases hrow
  exact Prod.ext heq (OrderedMap.eq_of_ascending hascending hascending' fun v => (hevents v).trans (hevents' v).symm)

theorem eventsIn_eq (h : t.Lists covers shows lists) {x : String × List EventView} (hx : x ∈ lists) :
    (EventsByAccount.ofLists lists).eventsIn x.1 = x.2 := by
  unfold EventsByAccount.eventsIn
  cases hget : (EventsByAccount.ofLists lists).get? x.1 with
  | some events =>
    obtain ⟨hmem, -⟩ := (EventsByAccount.mem_rows_ofLists h.one).1 (OrderedMap.get?_eq_some_iff.1 hget)
    rw [← h.one _ hmem x hx rfl, Option.getD_some]
  | none =>
    by_contra hne
    refine OrderedMap.get?_eq_none_iff.1 hget x.2 ((EventsByAccount.mem_rows_ofLists h.one).2 ⟨hx, Ne.symm hne⟩)

theorem answers (h : t.Lists q.Covers (t.Shows env q) lists) : t.Answers env q (.ofLists lists) where
  accounts := by
    intro account
    rw [OrderedMap.contains_iff]
    constructor
    · rintro ⟨events, hmem⟩
      obtain ⟨hx, hne⟩ := (EventsByAccount.mem_rows_ofLists h.one).1 hmem
      obtain ⟨hcovers, row, hrow, -, hevents⟩ := h.sound _ hx
      obtain ⟨v, hv⟩ := List.exists_mem_of_ne_nil _ hne
      exact ⟨hcovers, row, v, hrow, (hevents v).1 hv⟩
    · rintro ⟨hcovers, row, v, hrow, hv⟩
      obtain ⟨x, hx, rfl⟩ := h.complete account row hrow hcovers
      obtain ⟨-, row', hrow', -, hevents⟩ := h.sound x hx
      rw [hrow'] at hrow
      cases hrow
      exact ⟨x.2, (EventsByAccount.mem_rows_ofLists h.one).2 ⟨hx, List.ne_nil_of_mem ((hevents v).2 hv)⟩⟩
  ascending := by
    intro account
    unfold EventsByAccount.eventsIn
    cases hget : (EventsByAccount.ofLists lists).get? account with
    | some events =>
      obtain ⟨hmem, -⟩ := (EventsByAccount.mem_rows_ofLists h.one).1 (OrderedMap.get?_eq_some_iff.1 hget)
      obtain ⟨-, row, -, hascending, -⟩ := h.sound _ hmem
      exact hascending
    | none => exact .nil
  events := by
    intro account row hcovers hrow v
    obtain ⟨x, hx, rfl⟩ := h.complete account row hrow hcovers
    obtain ⟨-, row', hrow', -, hevents⟩ := h.sound x hx
    rw [hrow'] at hrow
    cases hrow
    rw [h.eventsIn_eq hx]
    exact hevents v

end Lists

namespace Legible

theorem allAccounts (h : t.Legible) :
    ∃ rows, t.allAccounts = .ok rows ∧ ∀ row, row ∈ rows ↔ t.account row.account = .ok row := by
  have hread (row : Bytes × Bytes) (hrow : row ∈ t.accounts.rows) :
      ∃ r, (t.account r.account = .ok r ∧ AccountRow.ofBytes r.bytes = .ok r) ∧
        row = (RowKey.account r.account, r.bytes) := by
    obtain ⟨r, heq, -, htime⟩ := h.account row hrow
    have hr := AccountRow.ofBytes_bytes htime
    exact ⟨r, ⟨account_eq_ok_iff.2 ⟨_, heq ▸ hrow, hr⟩, hr⟩, heq⟩
  obtain ⟨rows, hrows, hall⟩ := exists_eq_map hread
  refine ⟨rows, ?_, fun row => ⟨fun hmem => (hall row hmem).1, fun hrow => ?_⟩⟩
  · have hmap : rows.mapM (fun r => AccountRow.ofBytes r.bytes) = pure (rows.map fun r => r) :=
      mapM_eq_pure fun r hr => (hall r hr).2
    rw [List.map_id'] at hmap
    rw [Tables.allAccounts, OrderedMap.values, hrows, List.map_map, List.mapM_map]
    simp only [Function.comp_def]
    exact hmap
  · obtain ⟨bytes, hmem, hread⟩ := account_eq_ok_iff.1 hrow
    rw [hrows] at hmem
    obtain ⟨r, hr, heq⟩ := List.mem_map.1 hmem
    rw [← (Prod.mk.inj heq).2, (hall r hr).2] at hread
    exact Except.ok.inj hread ▸ hr

theorem coveredAccounts (h : t.Legible) (huser : (given q.userId).isSome = true)
    (hknown : ∀ a ∈ q.accounts, ∃ row, t.account a = .ok row) :
    ∃ rows, (if q.accounts.isEmpty then t.allAccounts else q.accounts.mapM t.account) = .ok rows ∧
      ∀ row, row ∈ rows ↔ t.account row.account = .ok row ∧ q.Covers row.account := by
  cases hnone : q.accounts.isEmpty with
  | true =>
    obtain ⟨rows, hrows, hmem⟩ := h.allAccounts
    refine ⟨rows, hrows, fun row => (hmem row).trans (and_iff_left ?_).symm⟩
    exact Or.inr ⟨huser, List.isEmpty_iff.1 hnone⟩
  | false =>
    have hread (a : String) (ha : a ∈ q.accounts) :
        ∃ row, t.account a = pure row ∧ t.account a = .ok row := by
      obtain ⟨row, hrow⟩ := hknown a ha
      exact ⟨row, hrow, hrow⟩
    obtain ⟨rows, hrows, hof, hgives⟩ := exists_mapM_eq_pure hread
    refine ⟨rows, hrows, fun row => ⟨fun hmem => ?_, ?_⟩⟩
    · obtain ⟨a, ha, hrow⟩ := hof row hmem
      obtain ⟨rfl, -⟩ := h.account_of_eq_ok hrow
      exact ⟨hrow, Or.inl ha⟩
    · rintro ⟨hrow, ha | ⟨-, hempty⟩⟩
      · obtain ⟨row', hmem, hrow'⟩ := hgives _ ha
        rw [hrow] at hrow'
        exact Except.ok.inj hrow' ▸ hmem
      · rw [hempty] at hnone
        cases hnone

theorem exists_operatorQuery_eq (h : t.Legible) (env : Environment σ) (huser : given q.userId = none)
    (hknown : ∀ a ∈ q.accounts, ∃ row, t.account a = .ok row) :
    ∃ lists, t.operatorQuery q = .ok (.ofLists lists) ∧ t.Lists q.Covers (t.Shows env q) lists := by
  have hread (a : String) (ha : a ∈ q.accounts) :
      ∃ x, (do
        let _ ← t.account a
        let events ← t.operatorEvents a (given q.cursor)
        return (a, events) : Except StoreError _) = pure x ∧ x.1 = a ∧ t.IsListed (t.Shows env q) x := by
    obtain ⟨row, hrow⟩ := hknown a ha
    obtain ⟨hname, hnul⟩ := h.account_of_eq_ok hrow
    obtain ⟨es, hes, hascending, hmem⟩ := h.scan hnul (given q.cursor)
    refine ⟨(a, es.map (t.operatorView a)), by rw [hrow, hes]; rfl, rfl, row, hrow, ?_, fun v => ?_⟩
    · exact List.pairwise_map.2 hascending
    · simp only [Shows, huser, List.mem_map, hmem, comesAfter_iff, hname, and_assoc, operatorView, eq_comm (a := v)]
  obtain ⟨lists, hlists, hof, hgives⟩ := exists_mapM_eq_pure hread
  refine ⟨lists, by rw [operatorQuery, hlists]; rfl, fun x hx => ?_, fun account row hrow hcovers => ?_⟩
  · obtain ⟨a, ha, rfl, hlisted⟩ := hof x hx
    exact ⟨Or.inl ha, hlisted⟩
  · have ha : account ∈ q.accounts := hcovers.resolve_right (by simp [huser])
    obtain ⟨x, hx, hname, -⟩ := hgives account ha
    exact ⟨x, hx, hname⟩

theorem exists_userView_eq (h : t.Legible) (hindexed : t.Indexed) (henv : env.Proper) {user : String}
    (huser : given q.userId = some user) (hknown : ∀ a ∈ q.accounts, ∃ row, t.account a = .ok row) :
    ∃ lists, t.userView (env.hash user) q = pure (.ofLists lists) ∧ t.Lists q.Covers (t.Shows env q) lists := by
  obtain ⟨rows, hrows, hcovered⟩ := h.coveredAccounts (by rw [huser]; rfl) hknown
  have hread (row : AccountRow) (hmem : row ∈ rows) :
      ∃ x, (do
        let events ← t.eventsOf row.account (t.userEventIds row.account (env.hash user row.salt) (given q.cursor))
        return (row.account, events) : Reading _) = pure x ∧ x.1 = row.account ∧ t.IsListed (t.Shows env q) x := by
    obtain ⟨hrow, -⟩ := (hcovered row).1 hmem
    obtain ⟨-, hnul⟩ := h.account_of_eq_ok hrow
    obtain ⟨es, hes, hascending, hmem⟩ := hindexed.scan h hnul (henv.nulFree_hash user row.salt) (given q.cursor)
    refine ⟨(row.account, es.map (EventView.ofRow · none)), by rw [hes, pure_bind], rfl, row, hrow, ?_, fun v => ?_⟩
    · exact List.pairwise_map.2 hascending
    · simp only [Shows, huser, List.mem_map, hmem, comesAfter_iff, and_assoc, eq_comm (a := v)]
  obtain ⟨lists, hlists, hof, hgives⟩ := exists_mapM_eq_pure hread
  refine ⟨lists, ?_, fun x hx => ?_, fun account row hrow hcovers => ?_⟩
  · unfold userView
    rw [hrows]
    show (pure rows >>= fun rows => _) = _
    rw [pure_bind, hlists, pure_bind]
  · obtain ⟨row, hmem, hname, hlisted⟩ := hof x hx
    exact ⟨hname ▸ ((hcovered row).1 hmem).2, hlisted⟩
  · obtain ⟨hname, -⟩ := h.account_of_eq_ok hrow
    subst hname
    obtain ⟨x, hx, hname, -⟩ := hgives row ((hcovered row).2 ⟨hrow, hcovers⟩)
    exact ⟨x, hx, hname⟩

theorem reply_eq_error (h : t.Legible) (env : Environment σ) {before after : List String} {account : String}
    (heq : q.accounts = before ++ account :: after) (hbefore : ∀ a ∈ before, ∃ row, t.account a = .ok row)
    (hunknown : ¬∃ row, t.account account = .ok row) :
    t.reply env q = MonadExcept.ofExcept (.error (.unknownAccount account)) := by
  unfold reply
  have herror : t.account account = .error (.unknownAccount account) :=
    (h.account_cases account).resolve_left fun ⟨row, hrow, _⟩ => hunknown ⟨row, hrow⟩
  cases given q.userId with
  | some user =>
    have hnonempty : q.accounts.isEmpty = false := by simp [heq]
    unfold userView
    dsimp only
    rw [hnonempty, if_neg Bool.false_ne_true, heq, mapM_eq_error herror after hbefore]
    rfl
  | none =>
    have hread (a : String) (ha : a ∈ before) : ∃ x, (do
        let _ ← t.account a
        let events ← t.operatorEvents a (given q.cursor)
        return (a, events) : Except StoreError _) = .ok x := by
      obtain ⟨row, hrow⟩ := hbefore a ha
      obtain ⟨es, hes, -⟩ := h.scan (h.account_of_eq_ok hrow).2 (given q.cursor)
      exact ⟨_, by rw [hrow, hes]; rfl⟩
    dsimp only
    rw [operatorQuery, heq, mapM_eq_error (by rw [herror]; rfl) after hread]
    rfl

end Legible

theorem userView_singleton {hash : String → Pseudonym} {account : String}
    {row : AccountRow} {events : List EventView} (hq : q.accounts = [account]) (hrow : t.account account = .ok row)
    (hname : row.account = account)
    (hevents : t.eventsOf account (t.userEventIds account (hash row.salt) (given q.cursor)) = pure events) :
    t.userView hash q = pure (.ofLists [(account, events)]) := by
  have hrows : [account].mapM t.account = .ok [row] := by
    rw [List.mapM_cons, hrow]
    rfl
  have hnonempty : [account].isEmpty = false := rfl
  unfold userView
  rw [hq, hnonempty, if_neg Bool.false_ne_true, hrows]
  show (pure [row] >>= fun rows => _) = _
  rw [pure_bind, List.mapM_cons, hname, hevents]
  rfl

end Tables

/-! ## Queries to a session -/

namespace Session

variable {env : Environment σ} {s : Session σ} {q : EventQuery}

theorem after_query_of_ok {m : EventsByAccount} (h : s.tables.reply env q = pure m) :
    s.after env (.query q) = (.ok (.events m), s) := by
  have hquery : Action.query env q s = .ok m s := by
    show Action.read "query" none (Tables.reply env · q) s = _
    rw [Action.read_eq, h]
    rfl
  rw [after, Operation.perform, Action.map_eq, hquery]

theorem after_query_of_error {e : StoreError} (h : s.tables.reply env q = MonadExcept.ofExcept (.error e)) :
    s.after env (.query q) = (.error (e.inOperation "query" none), s) := by
  have hquery : Action.query env q s = .error (e.inOperation "query" none) s := by
    show Action.read "query" none (Tables.reply env · q) s = _
    rw [Action.read_eq, h]
    rfl
  rw [after, Operation.perform, Action.map_eq, hquery]

theorem exists_operatorAnswer (h : s.tables.Legible) (env : Environment σ) (huser : given q.userId = none)
    (hknown : ∀ a ∈ q.accounts, ∃ row, s.tables.account a = .ok row) :
    ∃ m, s.after env (.query q) = (.ok (.events m), s) ∧ s.tables.Answers env q m := by
  obtain ⟨lists, hquery, hlists⟩ := h.exists_operatorQuery_eq env huser hknown
  refine ⟨_, after_query_of_ok ?_, hlists.answers⟩
  rw [Tables.reply, huser, hquery]
  rfl

theorem exists_userAnswer (h : s.tables.Legible) (hindexed : s.tables.Indexed) (henv : env.Proper) {user : String}
    (huser : given q.userId = some user) (hknown : ∀ a ∈ q.accounts, ∃ row, s.tables.account a = .ok row) :
    ∃ m, s.after env (.query q) = (.ok (.events m), s) ∧ s.tables.Answers env q m := by
  obtain ⟨lists, hview, hlists⟩ := h.exists_userView_eq hindexed henv huser hknown
  refine ⟨_, after_query_of_ok ?_, hlists.answers⟩
  rw [Tables.reply, huser]
  exact hview

theorem agrees_of_answers (h : s.tables.Legible) {m : EventsByAccount} (hanswers : s.tables.Answers env q m) :
    s.Agrees env q m := by
  intro user account row huser hcovers hrow
  have hname := (h.account_of_eq_ok hrow).1
  obtain ⟨all, hall, hanswersAll⟩ := exists_operatorAnswer (q := { q with accounts := [account], userId := none }) h env rfl
    (by simpa using ⟨row, hrow⟩)
  refine ⟨all, hall, OrderedMap.eq_of_ascending (hanswers.ascending account) ?_ fun v => ?_⟩
  · exact List.pairwise_map.2 ((hanswersAll.ascending account).filter _)
  · rw [hanswers.events account row hcovers hrow, List.mem_map]
    simp only [List.mem_filter, decide_eq_true_iff,
      hanswersAll.events account row (Or.inl (List.mem_singleton_self account)) hrow]
    constructor
    · rintro ⟨e, he, ha, hcursor, hshown⟩
      rw [huser] at hshown
      obtain ⟨hp, rfl⟩ := hshown
      exact ⟨_, ⟨⟨e, he, ha, hcursor, rfl⟩, hp⟩, rfl⟩
    · rintro ⟨w, ⟨⟨e, he, ha, hcursor, rfl⟩, hp⟩, rfl⟩
      refine ⟨e, he, ha, hcursor, ?_⟩
      rw [huser]
      exact ⟨hp, rfl⟩

theorem exact_of_legible (henv : env.Proper) (h : s.tables.Legible) (hindexed : given q.userId = none ∨ s.tables.Indexed) :
    s.Exact env q where
  unknown := fun before account after heq hbefore hunknown =>
    after_query_of_error (h.reply_eq_error env heq hbefore hunknown)
  known := by
    intro hknown
    have hanswer : ∃ m, s.after env (.query q) = (.ok (.events m), s) ∧ s.tables.Answers env q m := by
      cases huser : given q.userId with
      | none => exact exists_operatorAnswer h env huser hknown
      | some user => exact exists_userAnswer h (hindexed.resolve_left (by simp [huser])) henv huser hknown
    obtain ⟨m, hafter, hanswers⟩ := hanswer
    exact ⟨m, hafter, hanswers, agrees_of_answers h hanswers⟩

theorem exact_of_edits (henv : env.Proper) {ids : List EventId} (hedits : Tables.empty.Edits env ids s.tables)
    (hdistinct : given q.userId = none ∨ ids.Nodup) : s.Exact env q :=
  exact_of_legible henv (.edits henv hedits) (hdistinct.imp_right (.edits henv hedits))

theorem nodup_issuedAlong (henv : env.Proper) (ops : List Operation) (s : Session σ) : (s.issuedAlong env ops).Nodup :=
  ((evolves_run env ops s).ascending henv.fits).1.imp fun hlt heq => Nat.ne_of_lt hlt (congrArg EventId.toNat heq)

theorem life_operate (env : Environment σ) : ∀ (ops : List Operation) (s : Session σ),
    s.life env (ops.map .operate) = (s.run env ops).2
  | [], _ => rfl
  | op :: ops, s => life_operate env ops (s.after env op).2

theorem issuedOver_operate (env : Environment σ) : ∀ (ops : List Operation) (s : Session σ),
    s.issuedOver env (ops.map .operate) = s.issuedAlong env ops
  | [], _ => rfl
  | op :: ops, s => congrArg (s.issuedBy env op ++ ·) (issuedOver_operate env ops (s.after env op).2)

/-- **Queries are exact over every life of a store**: an operator's always, and a user's while no ID has been issued
twice. -/
theorem query_life (henv : env.Proper) (world : σ) (acts : List Act) (q : EventQuery)
    (hdistinct : given q.userId = none ∨ ((opened .empty world).issuedOver env acts).Nodup) :
    ((opened .empty world).life env acts).Exact env q :=
  exact_of_edits henv (edits_life env acts (opened .empty world)) hdistinct

/-- A life in which `u` has a secret and has inserted an event. -/
theorem query_life_still : ((opened .empty ()).issuedOver .still (started.map .operate)).Nodup ∧
    ((opened .empty ()).life .still (started.map .operate)).Exact .still ((EventQuery.user "u").inAccounts ["a"]) := by
  have hdistinct : ((opened .empty ()).issuedOver .still (started.map .operate)).Nodup := by
    rw [issuedOver_operate]
    exact nodup_issuedAlong Environment.still_proper started _
  exact ⟨hdistinct, query_life Environment.still_proper () _ _ (Or.inr hdistinct)⟩

/-! ## An ID that is issued again -/

/-- **A stale index entry shows**: where it leads to an event that is under another pseudonym or none, a query of the user
is not exact. -/
theorem not_exact_of_stale {user account : String} {row : AccountRow} {e : EventRow} (huser : user ≠ "")
    (hrow : s.tables.account account = .ok row) (hname : row.account = account)
    (hids : s.tables.userEventIds account (env.hash user row.salt) none = [e.id])
    (hevent : s.tables.event? account e.id = .ok (some e)) (hforeign : e.user ≠ some (env.hash user row.salt)) :
    ¬s.Exact env ((EventQuery.user user).inAccounts [account]) := by
  intro hexact
  have hasked : given ((EventQuery.user user).inAccounts [account]).userId = some user := by
    simp [given, EventQuery.user, EventQuery.inAccounts, huser]
  have hevents : s.tables.eventsOf account [e.id] = pure [.ofRow e none] :=
    @Tables.eventsOf_eq s.tables account [e] (by simpa using hevent)
  have hreply : s.tables.reply env ((EventQuery.user user).inAccounts [account]) =
      pure (.ofLists [(account, [.ofRow e none])]) := by
    rw [Tables.reply, hasked]
    exact Tables.userView_singleton rfl hrow hname ((congrArg _ hids).trans hevents)
  obtain ⟨m, hm, hanswers, -⟩ := hexact.known (by simpa [EventQuery.inAccounts] using ⟨row, hrow⟩)
  rw [after_query_of_ok hreply] at hm
  cases hm
  -- An exact answer would hold only events that are stored under the user's pseudonym.
  have hshown := (hanswers.events account row (Or.inl (List.mem_singleton_self account)) hrow (.ofRow e none)).1 (by
    simp [EventsByAccount.eventsIn, EventsByAccount.ofLists, OrderedMap.ofRows])
  obtain ⟨f, -, -, -, hshown⟩ := hshown
  rw [hasked] at hshown
  have hsame : e.user = f.user := congrArg EventView.user hshown.2
  exact hforeign (hsame.trans hshown.1)

/-- The session of `u` is closed; in the next one somebody else inserts an event in the same millisecond with the same
draw. -/
def reissued : List Act :=
  started.map .operate ++ [.reopen, .operate (.insert none "a" "q")]

/-- **A user is shown an event of somebody else** whose ID was that of an event of the user: the index entry is still
there. -/
theorem not_exact_reissued : Environment.still.Proper ∧
    ¬((opened .empty ()).life .still reissued).Exact .still ((EventQuery.user "u").inAccounts ["a"]) := by
  obtain ⟨row, l, h, -, hrow, hevents, -⟩ := keeps_started
  have hnul := h.sound.nulFree_of_get? hrow
  have hhash := Environment.still_proper.nulFree_hash "u" row.salt
  have hread := (h.tables.account_eq h.sound "a").trans (Ledger.account_eq_ok_iff.2 hrow)
  have hids := h.tables.userEventIds_none h.sound hnul hhash
  rw [hevents] at hids
  -- The session is named, so that nothing evaluates the run.
  obtain ⟨s, hs⟩ : ∃ s, ((opened .empty ()).run .still started).2 = s := ⟨_, rfl⟩
  rw [hs] at hread hids
  let e : EventRow := ⟨stillId.text, "a", none, "q"⟩
  have hlife : ((opened .empty ()).life .still reissued).tables = s.tables.putEvent e := by
    have hnext := @nextEventId_still (opened s.tables s.world) rfl
    have hinsert := @Action.insert_anonymous _ .still (opened s.tables s.world) _ "a" row stillId hread hnext "q"
    rw [reissued, life_append, life_operate, hs, life_cons, life_cons, life_nil, act, act, hinsert]
    rfl
  generalize (opened .empty ()).life .still reissued = r at hlife ⊢
  have hevent : r.tables.event? "a" e.id = .ok (some e) := by
    rw [hlife, Tables.event?, Tables.events_putEvent, OrderedMap.get?_insert_self]
    dsimp only
    rw [EventRow.ofBytes_bytes]
    rfl
  refine ⟨Environment.still_proper, not_exact_of_stale (by decide) (hlife ▸ hread) (h.sound.account_of_get? hrow)
    (hlife ▸ hids) hevent ?_⟩
  intro heq
  cases heq

end Session

end PseudonymStore
