import PseudonymStore.Proofs.Operation.Run
/-!
# The tables agree with each other

After every run from an empty store, the rows can be read and stand under their own keys, the indexes list exactly the
events, every pseudonym with events has a secret, and no event that is written later can take the place of another
(`Session.consistent_run`).  So an index entry without an event is never found and no warning of one is ever logged.
None of this depends on what is drawn: a parked pseudonym may be one that is in use.
-/
namespace PseudonymStore

variable {σ : Type}

namespace Tables

def Stores (t : Tables) (e : EventRow) : Prop :=
  ∃ bytes, (RowKey.event e.account e.id, bytes) ∈ t.events.rows ∧ EventRow.ofBytes bytes = .ok e

/-- **Tables that agree with each other.** -/
structure Consistent (t : Tables) : Prop where
  account : ∀ key bytes, (key, bytes) ∈ t.accounts.rows →
    ∃ r, AccountRow.ofBytes bytes = .ok r ∧ key = RowKey.account r.account ∧ r.account ≠ "" ∧ NulFree r.account
  /-- An event's row is read as one that bears the account and the ID under which it stands; the account exists. -/
  event : ∀ key bytes, (key, bytes) ∈ t.events.rows →
    ∃ e, EventRow.ofBytes bytes = .ok e ∧ key = RowKey.event e.account e.id ∧ ∃ r, t.account e.account = .ok r
  home : ∀ key account, (key, account) ∈ t.eventAccounts.rows ↔
    ∃ e, t.Stores e ∧ key = RowKey.eventAccount e.id ∧ account = e.account
  one : ∀ e f, t.Stores e → t.Stores f → e.id = f.id → e = f
  /-- The index by user lists exactly the events with a user. -/
  index : ∀ key, (key, ()) ∈ t.userEvents.rows ↔
    ∃ e p, t.Stores e ∧ e.user = some p ∧ key = RowKey.userEvent e.account p e.id
  owned : ∀ e p, t.Stores e → e.user = some p → (t.secret? e.account p).isSome = true

theorem Keeps.stores_iff {t : Tables} {l : Ledger} (h : t.Keeps l) {e : EventRow} : t.Stores e ↔ e ∈ l.events := by
  constructor
  · rintro ⟨bytes, hmem, hread⟩
    obtain ⟨f, hf, heq⟩ := (h.event _).1 hmem
    obtain ⟨-, hbytes⟩ := Prod.mk.inj heq
    rw [hbytes, EventRow.ofBytes_bytes] at hread
    exact Except.ok.inj hread ▸ hf
  · exact fun he => ⟨e.bytes, (h.event _).2 ⟨e, he, rfl⟩, EventRow.ofBytes_bytes e⟩

theorem Keeps.consistent {t : Tables} {l : Ledger} (h : t.Keeps l) (hl : l.Sound) (howned : l.Owned) :
    t.Consistent where
  account := by
    intro key bytes hmem
    obtain ⟨⟨a, r⟩, hr, heq⟩ := (h.account _).1 hmem
    cases heq
    obtain ⟨hname, hne, hnul, htime⟩ := hl.named _ hr
    dsimp only at hname hne hnul
    subst hname
    exact ⟨r, AccountRow.ofBytes_bytes htime, rfl, hne, hnul⟩
  event := by
    intro key bytes hmem
    obtain ⟨e, he, heq⟩ := (h.event _).1 hmem
    cases heq
    obtain ⟨r, hr⟩ := hl.housed e he
    refine ⟨e, EventRow.ofBytes_bytes e, rfl, r, ?_⟩
    rw [h.account_eq hl, Ledger.account_eq_ok_iff, OrderedMap.get?_eq_some_iff]
    exact hr
  home := by
    intro key account
    simp only [h.home (key, account), h.stores_iff, Prod.mk.injEq]
  one := by
    intro e f he hf hid
    exact hl.eq_of_id (h.stores_iff.1 he) (h.stores_iff.1 hf) hid
  index := by
    intro key
    simp only [h.index (key, ()), h.stores_iff, Prod.mk.injEq, and_true, Prod.exists, Ledger.mem_identified, and_assoc]
  owned := by
    intro e p he hp
    have he := h.stores_iff.1 he
    rw [h.secret _ _ (hl.nulFree_account he) (hl.nulFree_user e he p hp)]
    exact howned e he p hp

end Tables

/-- **A session that is in order**: its tables agree with each other, the ID that it issues next is after all others and
finds its place free, and nothing has been found amiss. -/
structure Session.Consistent (env : Environment σ) (s : Session σ) : Prop extends s.tables.Consistent where
  issued : ∀ e, s.tables.Stores e → ∃ last, s.lastIssued = some last ∧ e.id ≤ last.text
  next : ∀ id t, Action.nextEventId env s = .ok id t → t.lastIssued = some id ∧
    (∀ last, s.lastIssued = some last → last.text < id.text) ∧ ∀ e, s.tables.Stores e → e.id < id.text
  /-- No row is under a key of the next ID. -/
  free : ∀ id t, Action.nextEventId env s = .ok id t → ∀ account r, s.tables.account account = .ok r →
    s.tables.events.contains (RowKey.event account id.text) = false ∧
      s.tables.eventAccounts.contains (RowKey.eventAccount id.text) = false ∧
      ∀ user, s.tables.isIndexed account (env.hash user r.salt) id.text = false
  /-- No operation puts another event in the place of one. -/
  kept : ∀ op e f, s.tables.Stores e → (s.after env op).2.tables.Stores f → f.id = e.id → f = e
  quiet : ∀ account id, .indexedEventMissing account id ∉ s.log ∧ .indexEntryDropped account id ∉ s.log

theorem Session.lt_of_issued_le {s : Session σ} {last id : EventId} (hlast : s.lastIssued = some last)
    (hid : s.issued ≤ id.toNat) :
    last.text < id.text := by
  rw [issued, hlast] at hid
  rw [EventId.text_lt_text_iff]
  exact hid

theorem Session.Keeps.consistent {env : Environment σ} (henv : env.Proper) {s : Session σ} {l : Ledger}
    (h : s.Keeps l) :
    s.Consistent env where
  toConsistent := h.tables.consistent h.sound h.owned
  issued := by
    intro e he
    obtain ⟨id, hid, hlt⟩ := h.sound.below e (h.tables.stores_iff.1 he)
    rw [← h.issued, Session.issued] at hlt
    cases hlast : s.lastIssued with
    | none =>
      rw [hlast] at hlt
      exact absurd hlt (Nat.not_lt_zero _)
    | some last =>
      rw [hlast] at hlt
      refine ⟨last, rfl, ?_⟩
      rw [hid, ← String.not_lt, EventId.text_lt_text_iff]
      exact Nat.not_lt_of_le (Nat.le_of_lt_succ hlt)
  next := by
    intro id t hnext
    obtain ⟨hid, world, rfl⟩ := (Action.nextEventId_meets henv s).of_ok hnext
    refine ⟨rfl, fun last hlast => lt_of_issued_le hlast hid, fun e he => ?_⟩
    exact h.sound.lt_of_issued_le (h.tables.stores_iff.1 he) (h.issued ▸ hid)
  free := by
    intro id t hnext account r hr
    obtain ⟨hid, -⟩ := (Action.nextEventId_meets henv s).of_ok hnext
    have hnew (e : EventRow) (he : e ∈ l.events) : e.id ≠ id.text := fun heq => by
      have hlt := h.sound.lt_of_issued_le he (h.issued ▸ hid)
      rw [heq] at hlt
      exact String.lt_irrefl _ hlt
    rw [h.account_eq_ok_iff] at hr
    have hnul := h.sound.nulFree_of_get? hr
    refine ⟨?_, ?_, fun user => ?_⟩
    · rw [← Bool.not_eq_true, OrderedMap.contains_iff]
      rintro ⟨bytes, hmem⟩
      obtain ⟨e, he, heq⟩ := (h.tables.event _).1 hmem
      exact hnew e he ((RowKey.event_inj hnul (h.sound.nulFree_account he)).1 (Prod.mk.inj heq).1).2.symm
    · rw [← Bool.not_eq_true, OrderedMap.contains_iff]
      rintro ⟨a, hmem⟩
      obtain ⟨e, he, heq⟩ := (h.tables.home _).1 hmem
      exact hnew e he (RowKey.eventAccount_inj.1 (Prod.mk.inj heq).1).symm
    · rw [← Bool.not_eq_true, h.tables.isIndexed_iff h.sound hnul (henv.nulFree_hash user r.salt)]
      rintro ⟨e, he, hid, -⟩
      exact hnew e he hid
  kept := by
    intro op e f he hf hid
    obtain ⟨l', hstep, h'⟩ := h.after henv op
    have he := h.tables.stores_iff.1 he
    rcases hstep.mem_or_issued (h'.tables.stores_iff.1 hf) with hf | ⟨id, hfid, hissued⟩
    · exact h.sound.eq_of_id hf he hid
    · have hlt := h.sound.lt_of_issued_le he hissued
      rw [← hfid, hid] at hlt
      exact absurd hlt (String.lt_irrefl _)
  quiet := fun account id =>
    ⟨fun hmem => h.quiet _ hmem rfl, fun hmem => h.quiet _ hmem rfl⟩

/-- **After every run from an empty store the session is in order**, whatever is drawn and whichever operations fail. -/
theorem Session.consistent_run {env : Environment σ} (henv : env.Proper) (world : σ) (ops : List Operation) :
    ((opened .empty world).run env ops).2.Consistent env := by
  obtain ⟨l, hl, -⟩ := run_induction henv (P := fun _ _ => True) trivial (fun _ _ _ _ _ _ _ _ _ => trivial) world ops
  exact hl.consistent henv

/-- Where the world stands still, the second rotation parks under a pseudonym that is in use. -/
theorem Session.consistent_run_still : ((opened .empty ()).run .still
    [.createAccount "a" "A", .associate "a" "u" "s", .insert (some "u") "a" "p", .associate "a" "u" "t",
      .associate "a" "u" "v"]).2.Consistent .still :=
  consistent_run Environment.still_proper () _

end PseudonymStore
