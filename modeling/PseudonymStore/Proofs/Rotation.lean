import PseudonymStore.Proofs.Consistency
import PseudonymStore.Proofs.Evolution
import PseudonymStore.Proofs.Operation.Answer
/-!
# What a rotation changes

Associating a secret with a free pseudonym adds one row to the table of secrets.  Where the pseudonym owns a secret and
the parked one is free, the old secret and the events of the pseudonym are replaced by as many under the parked
pseudonym, in their order and under later IDs (`Session.associate_run`); every other row of every table stays, whatever
its key begins with.
-/
namespace PseudonymStore

variable {σ : Type}

theorem filterMap_user {α : Type} {p : Pseudonym} : ∀ {es : List EventRow}, (∀ e ∈ es, e.user = some p) →
    ∀ f : EventRow → Pseudonym → α, es.filterMap (fun e => e.user.map (f e)) = es.map (f · p)
  | [], _, _ => rfl
  | e :: es, h, f => by
    rw [List.filterMap_cons_some (b := f e p) (by rw [h e List.mem_cons_self]; rfl), List.map_cons,
      filterMap_user (fun e he => h e (List.mem_cons_of_mem _ he)) f]

namespace Tables

/-- Some key of the tables names an event's ID. -/
def Mentions (t : Tables) (id : String) : Prop :=
  (∃ row ∈ t.events.rows, RowKey.leaf? row.1 = some id) ∨
    (∃ row ∈ t.eventAccounts.rows, row.1 = RowKey.eventAccount id) ∨
    ∃ row ∈ t.userEvents.rows, RowKey.leaf? row.1 = some id

/-- **Tables after a rotation**, which has moved some events. -/
structure Rotated (t : Tables) (account : String) (user parked : Pseudonym) (old secret : String)
    (es fs : List EventRow) (u : Tables) : Prop where
  source : ∀ e, e ∈ es ↔ t.Stores e ∧ e.account = account ∧ e.user = some user
  sourceAscending : es.Pairwise (·.id < ·.id)
  /-- One by one they are under the parked pseudonym, with their payloads. -/
  moved : List.Forall₂ (fun e f => f.account = e.account ∧ f.user = some parked ∧ f.payload = e.payload) es fs
  targetAscending : fs.Pairwise (·.id < ·.id)
  accounts : u.accounts = t.accounts
  secrets : t.userSecrets.Replaced [RowKey.secret account user]
    [(RowKey.secret account parked, old), (RowKey.secret account user, secret)] u.userSecrets
  events : t.events.Replaced (es.map fun e => RowKey.event e.account e.id)
    (fs.map fun f => (RowKey.event f.account f.id, f.bytes)) u.events
  homes : t.eventAccounts.Replaced (es.map fun e => RowKey.eventAccount e.id)
    (fs.map fun f => (RowKey.eventAccount f.id, f.account)) u.eventAccounts
  index : t.userEvents.Replaced (es.map fun e => RowKey.userEvent e.account user e.id)
    (fs.map fun f => (RowKey.userEvent f.account parked f.id, ())) u.userEvents
  gone : ∀ e ∈ es, ¬u.Mentions e.id
  left : ∀ e, u.Stores e → ¬(e.account = account ∧ e.user = some user)

namespace Keeps

variable {t u : Tables} {l : Ledger}

theorem exists_of_mentions (h : t.Keeps l) (hl : l.Sound) {id : String} (hid : t.Mentions id) :
    ∃ e ∈ l.events, e.id = id := by
  rcases hid with ⟨row, hrow, hleaf⟩ | ⟨row, hrow, hkey⟩ | ⟨row, hrow, hleaf⟩
  · obtain ⟨e, he, rfl⟩ := (h.event _).1 hrow
    dsimp only at hleaf
    rw [RowKey.event_eq, RowKey.leaf?_append_zero _ (hl.nulFree_id he)] at hleaf
    exact ⟨e, he, Option.some.inj hleaf⟩
  · obtain ⟨e, he, rfl⟩ := (h.home _).1 hrow
    exact ⟨e, he, RowKey.eventAccount_inj.1 hkey⟩
  · obtain ⟨⟨e, p⟩, hx, rfl⟩ := (h.index _).1 hrow
    obtain ⟨he, -⟩ := Ledger.mem_identified.1 hx
    dsimp only at hleaf
    rw [RowKey.leaf?_userEvent _ _ (hl.nulFree_id he)] at hleaf
    exact ⟨e, he, Option.some.inj hleaf⟩

theorem rotated (h : t.Keeps l) (hl : l.Sound) {account : String} {user parked : Pseudonym} {old secret : String}
    {fs : List EventRow} {issued : Nat} (h' : u.Keeps (l.rotate account user parked old secret fs issued))
    (hl' : (l.rotate account user parked old secret fs issued).Sound)
    (hfs : List.Forall₂ (Ledger.Moved parked l.issued issued) (l.eventsOf account user) fs) (hne : parked ≠ user)
    (hsecrets : t.userSecrets.Replaced [RowKey.secret account user]
      [(RowKey.secret account parked, old), (RowKey.secret account user, secret)] u.userSecrets) :
    t.Rotated account user parked old secret (l.eventsOf account user) fs u := by
  have hparked : ∀ f ∈ fs, f.user = some parked := fun f hf => by
    obtain ⟨e, -, id, -, -, rfl⟩ := Ledger.Moved.of_mem hfs f hf
    rfl
  have hlate : ∀ f ∈ fs, ∀ e ∈ l.events, e.id < f.id := fun f hf e he => by
    obtain ⟨e', -, id, hid, -, rfl⟩ := Ledger.Moved.of_mem hfs f hf
    exact hl.lt_of_issued_le he hid
  have hascending := hl'.ascending
  rw [Ledger.events_rotate] at hascending
  have huser : ∀ e ∈ l.events.filter (Ledger.isOf account user), e.user = some user := fun e he =>
    (Ledger.mem_eventsOf.1 he).2.2
  have hindex := h.replaced_index hl h' (Ledger.events_rotate ..)
  rw [filterMap_user huser, filterMap_user hparked] at hindex
  refine ⟨?_, hl.ascending.filter _, ?_, (List.pairwise_append.1 hascending).2.1, h.account.unique h'.account, hsecrets,
    h.replaced_events hl h' (Ledger.events_rotate ..), h.replaced_homes hl h' (Ledger.events_rotate ..), hindex, ?_, ?_⟩
  · intro e
    rw [Ledger.mem_eventsOf, h.stores_iff]
  · refine hfs.imp ?_
    rintro e _ ⟨id, -, -, rfl⟩
    exact ⟨rfl, rfl, rfl⟩
  · intro e he hmention
    obtain ⟨hel, hof⟩ := List.mem_filter.1 he
    obtain ⟨f, hf, hid⟩ := h'.exists_of_mentions hl' hmention
    rcases List.mem_append.1 hf with hf | hf
    · obtain ⟨hfl, hkept⟩ := List.mem_filter.1 hf
      rw [hl.eq_of_id hfl hel hid, hof] at hkept
      cases hkept
    · have hlt := hlate f hf e hel
      rw [hid] at hlt
      exact String.lt_irrefl _ hlt
  · rintro e he ⟨ha, hu⟩
    rcases List.mem_append.1 (h'.stores_iff.1 he) with he | he
    · have hkept := (List.mem_filter.1 he).2
      rw [Ledger.isOf_iff.2 ⟨ha, hu⟩] at hkept
      cases hkept
    · exact hne (Option.some.inj ((hparked e he).symm.trans hu))

end Keeps

end Tables

/-! ## What moving events does to secrets -/

namespace Action

variable {env : Environment σ}

theorem moveEvent_secrets (account : String) (source target : Pseudonym) (id : String) (s : Session σ) :
    (moveEvent env account source target id).Meets s (fun _ t => t.tables.userSecrets = s.tables.userSecrets)
      fun _ _ => True := by
  unfold moveEvent
  apply Meets.tables_bind
  refine Meets.ofExcept_bind ?_ fun _ _ => trivial
  rintro ⟨row, taken⟩ htake
  rcases Tables.takeEvent_eq_ok htake with ⟨e, -, rfl, rfl⟩ | ⟨-, rfl, rfl⟩
  · refine Meets.bind (P := fun _ t => t.tables.userSecrets = s.tables.userSecrets)
      (Meets.change (Tables.userSecrets_dropEvent _ _ _ _)) fun _ t ht => ?_
    refine ((nextEventId_evolves t).mono (fun _ _ h => h.2) fun _ _ _ => trivial).bind fun next u hu => ?_
    refine Meets.bind (P := fun _ v => v.tables.userSecrets = s.tables.userSecrets) (Meets.change ?_) fun _ _ hv => hv
    rw [Tables.userSecrets_putEvent, hu, ht]
  · exact rfl

theorem moveEvents_secrets (account : String) (source target : Pseudonym) : ∀ (ids : List String) (s : Session σ),
    (moveEvents env account source target ids).Meets s (fun _ t => t.tables.userSecrets = s.tables.userSecrets)
      fun _ _ => True
  | [], _ => Meets.pure rfl
  | id :: ids, s => by
    rw [moveEvents]
    refine (moveEvent_secrets account source target id s).bind fun _ t ht => ?_
    refine (moveEvents_secrets account source target ids t).bind fun _ u hu => ?_
    exact Meets.pure (hu.trans ht)

theorem park_secrets (row : AccountRow) (user : Pseudonym) (secret : String) (s : Session σ) :
    (park env row user secret).Meets s (fun _ t => t.tables.userSecrets =
      ((s.tables.dropSecret row.account user).bindSecret row.account (env.parked s.world row.salt) secret).userSecrets)
      fun _ _ => True := by
  unfold park
  refine (drawIdentifier_meets env s).bind ?_
  rintro _ _ ⟨rfl, rfl⟩
  refine Meets.bind (P := fun _ t => t.tables.userSecrets =
    ((s.tables.dropSecret row.account user).bindSecret row.account (env.parked s.world row.salt) secret).userSecrets)
    (Meets.change rfl) fun _ t ht => ?_
  apply Meets.tables_bind
  exact (moveEvents_secrets row.account user _ _ t).mono (fun _ _ hu => hu.trans ht) fun _ _ _ => trivial

theorem associate_secrets {s : Session σ} {account user old : String} {row : AccountRow}
    (hrow : s.tables.account account = .ok row) (hold : s.tables.secret? account (env.hash user row.salt) = some old)
    (secret : String) :
    (associate env account user secret).Meets s (fun _ t => t.tables.userSecrets =
      (((s.tables.dropSecret row.account (env.hash user row.salt)).bindSecret row.account
        (env.parked s.world row.salt) old).bindSecret account (env.hash user row.salt) secret).userSecrets)
      fun _ _ => True := by
  rw [associate_eq]
  split
  · exact Meets.throw trivial
  refine Meets.bind (P := fun _ t => t.tables.userSecrets =
      (((s.tables.dropSecret row.account (env.hash user row.salt)).bindSecret row.account
        (env.parked s.world row.salt) old).bindSecret account (env.hash user row.salt) secret).userSecrets)
      (Meets.write ?_) fun _ _ ht => Meets.report ht
  apply Meets.tables_bind
  rw [hrow]
  apply Meets.ok_bind
  unfold makeRoom
  have hpark := @park_secrets σ env row (env.hash user row.salt) old s
  refine Meets.bind (P := fun _ t => t.tables.userSecrets = ((s.tables.dropSecret row.account
    (env.hash user row.salt)).bindSecret row.account (env.parked s.world row.salt) old).userSecrets) ?_ ?_
  · apply Meets.tables_bind
    rw [hold]
    exact Meets.map (Meets.mapError (hpark.mono (fun _ _ ht => ht) fun _ _ _ => trivial))
  · intro moved t ht
    refine Meets.bind (P := fun _ u => u.tables.userSecrets = _) (Meets.change ?_) fun _ _ hu => Meets.pure hu
    exact congrArg (OrderedMap.insert · _ secret) ht

end Action

namespace Tables

theorem replaced_secrets {t : Tables} {account : String} {user parked : Pseudonym}
    (hkey : RowKey.secret account parked ≠ RowKey.secret account user) (hfree : t.secret? account parked = none)
    (old secret : String) :
    t.userSecrets.Replaced [RowKey.secret account user]
      [(RowKey.secret account parked, old), (RowKey.secret account user, secret)]
      (((t.dropSecret account user).bindSecret account parked old).bindSecret account user secret).userSecrets := by
  intro r
  have hnone : ∀ r ∈ t.userSecrets.rows, r.1 ≠ RowKey.secret account parked := by
    rintro ⟨key, value⟩ hr rfl
    exact OrderedMap.get?_eq_none_iff.1 hfree value hr
  simp only [bindSecret, dropSecret, OrderedMap.mem_insert, OrderedMap.mem_erase, List.mem_cons, List.not_mem_nil,
    or_false]
  constructor
  · rintro (rfl | ⟨hne, rfl | ⟨-, -, hr⟩⟩)
    · exact Or.inl (Or.inr rfl)
    · exact Or.inl (Or.inl rfl)
    · exact Or.inr ⟨hr, hne⟩
  · rintro ((rfl | rfl) | ⟨hr, hne⟩)
    · exact Or.inr ⟨hkey, Or.inl rfl⟩
    · exact Or.inl rfl
    · exact Or.inr ⟨hne, Or.inr ⟨hnone r hr, hne, hr⟩⟩

end Tables

namespace Session

variable {env : Environment σ} {s t : Session σ} {l : Ledger} {account user secret : String} {row : AccountRow}

theorem associate_of_after (h : s.after env (.associate account user secret) = (.ok .done, t)) :
    Action.associate env account user secret s = .ok () t := by
  rw [Session.after, Operation.perform, Action.bind_eq] at h
  cases hx : Action.associate env account user secret s with
  | ok a u =>
    rw [hx] at h
    cases h
    rfl
  | error e u =>
    rw [hx] at h
    cases h

theorem Keeps.after_associate_rotates (henv : env.Proper) (h : s.Keeps l) {old : String}
    (hrow : l.accounts.get? account = some row) (hold : l.secret? account (env.hash user row.salt) = some old)
    (hparked : l.secret? account (env.parked s.world row.salt) = none)
    (hafter : s.after env (.associate account user secret) = (.ok .done, t)) :
    ∃ fs, s.tables.Rotated account (env.hash user row.salt) (env.parked s.world row.salt) old secret
        (l.eventsOf account (env.hash user row.salt)) fs t.tables ∧
      ∀ f ∈ fs, ∃ id : EventId, l.issued ≤ id.toNat ∧ f.id = id.text := by
  obtain ⟨l', hstep, h'⟩ := h.after henv (.associate account user secret)
  rw [hafter] at hstep h'
  have haccount := h.sound.account_of_get? hrow
  have hnul := h.sound.nulFree_of_get? hrow
  have hread : s.tables.account account = .ok row := h.account_eq_ok_iff.2 hrow
  have hsecret := h.secret?_hash henv hrow
  have hne : env.parked s.world row.salt ≠ env.hash user row.salt := fun heq => by
    rw [heq, hold] at hparked
    cases hparked
  have hkey : RowKey.secret account (env.parked s.world row.salt) ≠ RowKey.secret account (env.hash user row.salt) :=
    fun heq => hne ((RowKey.secret_inj hnul hnul).1 heq).2
  have hsecrets := (Action.associate_secrets hread ((hsecret user).trans hold) secret).of_ok (associate_of_after hafter)
  rw [haccount] at hsecrets
  have hreplaced := Tables.replaced_secrets hkey ((hsecret _).trans hparked) old secret
  rw [← hsecrets] at hreplaced
  cases hstep with
  | read hread => cases hread
  | associate _ hrow' hfree =>
    rw [hrow] at hrow'
    cases hrow'
    rw [hold] at hfree
    cases hfree
  | @rotate _ _ _ old' row' fs issued _ hrow' hold' hissued hmoved =>
    rw [hrow] at hrow'
    cases hrow'
    rw [hold] at hold'
    cases hold'
    refine ⟨fs, h.tables.rotated h.sound h'.tables h'.sound hmoved hne hreplaced, fun f hf => ?_⟩
    obtain ⟨e, -, id, hid, -, rfl⟩ := Ledger.Moved.of_mem hmoved f hf
    exact ⟨id, hid, rfl⟩

/-- **What associating a secret changes**, after every run: one row is new where the pseudonym is free, and where it owns
a secret and the parked pseudonym does not, all that it has moves there under later IDs. -/
theorem associate_run (henv : env.Proper) (world : σ) (ops : List Operation)
    (hs : ((opened .empty world).run env ops).2 = s) (huser : user ≠ "") (hrow : s.tables.account account = .ok row)
    (hafter : s.after env (.associate account user secret) = (.ok .done, t)) :
    (s.tables.secret? account (env.hash user row.salt) = none →
      t = { s with
        tables := { s.tables with userSecrets := t.tables.userSecrets }
        log := s.log ++ [.associated account] } ∧
      s.tables.userSecrets.Replaced [] [(RowKey.secret account (env.hash user row.salt), secret)] t.tables.userSecrets) ∧
    ∀ old, s.tables.secret? account (env.hash user row.salt) = some old →
      s.tables.secret? account (env.parked s.world row.salt) = none →
      ∃ es fs, s.tables.Rotated account (env.hash user row.salt) (env.parked s.world row.salt) old secret es fs t.tables ∧
        ∀ f ∈ fs, ∀ id ∈ (opened .empty world).issuedAlong env ops, id.text < f.id := by
  obtain ⟨l, h⟩ := keeps_run henv world ops
  have hevolves := evolves_run env ops (opened .empty world)
  rw [hs] at h hevolves
  rw [h.tables.account_eq h.sound, Ledger.account_eq_ok_iff] at hrow
  have hnul := h.sound.nulFree_of_get? hrow
  have hsecret (u : String) := h.tables.secret account (env.hash u row.salt) hnul (henv.nulFree_hash u row.salt)
  constructor
  · intro hfree
    have hnone := (hsecret user).symm.trans hfree
    have hbound := h.after_associate_free henv huser hrow hnone secret
    rw [hafter] at hbound
    obtain ⟨-, rfl⟩ := Prod.mk.inj hbound
    refine ⟨rfl, fun r => ?_⟩
    have hnew : r ∈ s.tables.userSecrets.rows → r.1 ≠ RowKey.secret account (env.hash user row.salt) := by
      rintro hr heq
      exact OrderedMap.get?_eq_none_iff.1 hfree r.2 (heq ▸ hr)
    simp only [Tables.bindSecret, OrderedMap.mem_insert, List.mem_singleton, List.not_mem_nil, not_false_eq_true,
      and_true]
    exact or_congr_right ⟨And.right, fun hr => ⟨hnew hr, hr⟩⟩
  · intro old hold hparked
    obtain ⟨fs, hrotated, hlate⟩ := h.after_associate_rotates henv hrow ((hsecret user).symm.trans hold)
      ((hsecret _).symm.trans hparked) hafter
    refine ⟨_, fs, hrotated, fun f hf id hid => ?_⟩
    obtain ⟨next, hnext, hfid⟩ := hlate f hf
    have hlt := hevolves.lt_issued henv.fits hid
    rw [hfid, EventId.text_lt_text_iff]
    rw [h.issued] at hlt
    omega

/-- The rotation parks the event that `u` has inserted. -/
theorem associate_run_still : ∃ (s t : Session Unit) (row : AccountRow) (es fs : List EventRow),
    ((opened .empty ()).run .still started).2 = s ∧ s.after .still (.associate "a" "u" "t") = (.ok .done, t) ∧
    s.tables.Rotated "a" (Environment.still.hash "u" row.salt) (Environment.still.parked s.world row.salt) "s" "t" es fs
      t.tables ∧ es ≠ [] := by
  have henv := Environment.still_proper
  have huser : "u" ≠ "" := by decide
  obtain ⟨row, l, h, hissued, hrow, hevents, hsecret⟩ := keeps_started
  -- The session is named, so that nothing evaluates the run.
  obtain ⟨s, hs⟩ : ∃ s, ((opened .empty ()).run .still started).2 = s := ⟨_, rfl⟩
  rw [hs] at h
  have hnul := h.sound.nulFree_of_get? hrow
  have hread := (h.tables.account_eq h.sound "a").trans (Ledger.account_eq_ok_iff.2 hrow)
  have hold : l.secret? "a" (Environment.still.hash "u" row.salt) = some "s" := by rw [hsecret, if_pos rfl]
  have hfree : l.secret? "a" (Environment.still.parked s.world row.salt) = none := by
    rw [hsecret, Environment.hash_still, if_neg (Environment.parked_still_ne row.salt)]
  obtain ⟨g, hids⟩ := issueIds_still (s := s) (h.issued.trans hissued)
  obtain ⟨t, -, -, hafter, -⟩ := h.after_associate_issued henv huser hrow hold "t"
    (by rw [hevents]; exact hids)
  obtain ⟨es, fs, hrotated, -⟩ := (associate_run henv () started hs huser hread hafter).2 "s"
    ((h.tables.secret _ _ hnul (henv.nulFree_hash _ _)).trans hold)
    ((h.tables.secret _ _ hnul (henv.nulFree_hash _ _)).trans hfree)
  refine ⟨s, t, row, es, fs, hs, hafter, hrotated, ?_⟩
  obtain ⟨e, hmem⟩ := List.exists_mem_of_ne_nil _ (hevents ▸ List.cons_ne_nil _ _)
  obtain ⟨he, ha, hu⟩ := Ledger.mem_eventsOf.1 hmem
  exact List.ne_nil_of_mem ((hrotated.source e).2 ⟨h.tables.stores_iff.2 he, ha, hu⟩)

end Session

end PseudonymStore
