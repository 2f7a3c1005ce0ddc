import PseudonymStore.Proofs.Operation.Answer
import Mathlib.Data.List.Perm.Basic
/-!
# History is kept

What the store must remember is told by the moments of a run alone (`History.ofMoments`): every insert that succeeds is
recorded with the secret that its author's pseudonym had then; a rotation lets the records of a pseudonym pass to the
parked one, and a purge strikes out the records that are under the user's pseudonym then.  Where rotations park freshly,
the operator's view of all accounts is that history, event for event (`Session.history_run`): no event is lost, doubled
or joined to another secret.
-/
namespace PseudonymStore

variable {σ : Type}

/-- What is recorded of an insert: the account, the pseudonym that the event is under by now, the payload, and the
secret that its author's pseudonym had when it was inserted. -/
structure Record where
  account : String
  user : Option Pseudonym
  payload : String
  secret : Option String

namespace Record

def ofView (v : EventView) : Record :=
  ⟨v.account, v.user, v.payload, v.secret⟩

def isOf (account : String) (user : Pseudonym) (r : Record) : Bool :=
  r.account = account ∧ r.user = some user

/-- The record after a rotation, which passes it on if it is under the rotated pseudonym. -/
def pass (account : String) (user parked : Pseudonym) (r : Record) : Record :=
  if r.isOf account user then { r with user := some parked } else r

def isHeld (env : Environment σ) (s : Session σ) (user : String) (r : Record) : Bool :=
  r.user.any fun p => s.pseudonym? env r.account user = some p

end Record

namespace History

def next (env : Environment σ) (history : List Record) (m : Moment σ) : List Record :=
  match m.op, m.answer with
  | .insert user account payload, .ok _ =>
    let author := (given user).bind (m.session.pseudonym? env account)
    history ++ [⟨account, author, payload, author.bind (m.session.tables.secret? account)⟩]
  | .associate account user _, .ok _ =>
    match m.session.pseudonym? env account user,
      m.session.pseudonym? env account (Uuid.text (env.drawIdentifier m.session.world).1) with
    | some rotated, some parked =>
      if (m.session.tables.secret? account rotated).isSome then history.map (Record.pass account rotated parked)
      else history
    | _, _ => history
  | .purge user, .ok _ => if user = "" then history else history.filter (!Record.isHeld env m.session user ·)
  | _, _ => history

/-- **The history of a run.** -/
def ofMoments (env : Environment σ) (moments : List (Moment σ)) : List Record :=
  moments.foldl (next env) []

end History

namespace Ledger

def record (l : Ledger) (e : EventRow) : Record :=
  .ofView (l.view e)

def records (l : Ledger) : List Record :=
  l.events.map l.record

variable {l : Ledger}

theorem isOf_record (account : String) (user : Pseudonym) (e : EventRow) :
    (l.record e).isOf account user = isOf account user e :=
  rfl

theorem records_bind (h : l.Owned) {account : String} {user : Pseudonym} (hfree : l.secret? account user = none)
    (secret : Option String) : (l.bind account user secret).records = l.records :=
  List.map_congr_left fun _ he => congrArg Record.ofView (view_bind h hfree secret he)

theorem records_rotate (h : l.Owned) {account : String} {user parked : Pseudonym} {old secret : String}
    {moved : List EventRow} {start issued : Nat} (hold : l.secret? account user = some old)
    (hfree : l.secret? account parked = none)
    (hmoved : List.Forall₂ (Moved parked start issued) (l.eventsOf account user) moved) :
    (l.rotate account user parked old secret moved issued).records.Perm
      (l.records.map (Record.pass account user parked)) := by
  have hne : parked ≠ user := fun heq => by
    rw [heq, hold] at hfree
    cases hfree
  -- The ledger lists what stays before what has moved, and the records are in the order of the inserts.
  have hstay : (l.events.filter (!isOf account user ·)).map
      (l.rotate account user parked old secret moved issued).record =
      (l.events.filter (!isOf account user ·)).map fun e => (l.record e).pass account user parked := by
    refine List.map_congr_left fun e he => ?_
    obtain ⟨hel, hof⟩ := List.mem_filter.1 he
    rw [Bool.not_eq_true', ← Bool.not_eq_true] at hof
    rw [Record.pass, isOf_record, if_neg hof, record, view_rotate h hfree old secret moved issued hel hof, record]
  have hpass : moved.map (l.rotate account user parked old secret moved issued).record =
      (l.eventsOf account user).map fun e => (l.record e).pass account user parked := by
    refine Moved.map_eq hmoved fun e he f hf => ?_
    obtain ⟨hel, hof⟩ := List.mem_filter.1 he
    rw [Record.pass, isOf_record, if_pos hof]
    obtain ⟨rfl, hp⟩ := isOf_iff.1 hof
    obtain ⟨id, -, -, rfl⟩ := hf
    have hnew := l.secret?_rotate e.account user parked old secret moved issued e.account parked
    rw [if_neg (fun heq => hne heq.2), if_pos ⟨rfl, rfl⟩] at hnew
    simp only [record, Record.ofView, view, EventView.ofRow, Option.bind_some, hnew, hp, hold]
  have hperm : (l.events.filter (!isOf account user ·) ++ l.eventsOf account user).Perm l.events :=
    List.perm_append_comm.trans (List.filter_append_perm _ _)
  rw [records, events_rotate, List.map_append, hstay, hpass, ← List.map_append, records, List.map_map]
  exact hperm.map _

theorem records_purge (l : Ledger) (hash : String → Pseudonym) (rows : List AccountRow) :
    (l.purge hash rows).records = l.records.filter fun r => !r.user.any (isHeld hash rows r.account) := by
  rw [records, purge, records, List.filter_map]
  exact List.map_congr_left fun _ he => congrArg Record.ofView (view_purge he)

end Ledger

namespace History

variable {env : Environment σ} {s : Session σ} {l l' : Ledger}

theorem next_of_reading {op : Operation} (hop : op.isReading = true) (history : List Record)
    (answer : Except StoreError Answer) :
    next env history ⟨s, op, answer⟩ = history := by
  cases op <;> first | rfl | cases hop

theorem next_of_error (history : List Record) (op : Operation) (e : StoreError) :
    next env history ⟨s, op, .error e⟩ = history := by
  cases op <;> rfl

theorem next_of_insert (henv : env.Proper) (h : s.Keeps l) {user : Option String} {account payload : String}
    {row : AccountRow} (hrow : l.accounts.get? account = some row) (history : List Record) (id : EventId) :
    next env history ⟨s, .insert user account payload, .ok (.inserted id)⟩ =
      history ++ [l.record { id := id.text, account, user := (given user).map (env.hash · row.salt), payload }] := by
  have hauthor : (given user).bind (s.pseudonym? env account) = (given user).map (env.hash · row.salt) := by
    cases given user with
    | none => rfl
    | some u => rw [Option.bind_some, h.pseudonym?_eq, hrow, Option.map_some, Option.map_some]
  have hsecret : ((given user).map (env.hash · row.salt)).bind (s.tables.secret? account) =
      ((given user).map (env.hash · row.salt)).bind (l.secret? account) := by
    cases given user with
    | none => rfl
    | some u => exact h.secret?_hash henv hrow u
  simp only [next, hauthor, hsecret]
  rfl

theorem next_of_associate (henv : env.Proper) (h : s.Keeps l) {account user secret : String} {row : AccountRow}
    (hrow : l.accounts.get? account = some row) (history : List Record) :
    next env history ⟨s, .associate account user secret, .ok .done⟩ =
      if (l.secret? account (env.hash user row.salt)).isSome then
        history.map (Record.pass account (env.hash user row.salt) (env.parked s.world row.salt))
      else history := by
  have hsecret := h.secret?_hash henv hrow user
  simp only [next, h.pseudonym?_eq, hrow, Option.map_some, hsecret]
  rfl

theorem next_of_purge (h : s.Keeps l) {user : String} (huser : user ≠ "") (history : List Record) :
    next env history ⟨s, .purge user, .ok .done⟩ =
      history.filter fun r => !r.user.any (Ledger.isHeld (env.hash user) l.accounts.values r.account) := by
  have hheld (r : Record) (p : Pseudonym) : decide (s.pseudonym? env r.account user = some p) =
      Ledger.isHeld (env.hash user) l.accounts.values r.account p := by
    rw [Bool.eq_iff_iff, decide_eq_true_iff, Ledger.isHeld_values_iff h.sound, h.pseudonym?_eq, Option.map_eq_some_iff]
  simp only [next, huser, if_false, Record.isHeld, hheld]

theorem records_step (henv : env.Proper) (h : s.Keeps l) {op : Operation} {answer : Except StoreError Answer}
    (hstep : l.Step env s.world op answer l') (hfresh : Moment.ParksFreshly env ⟨s, op, answer⟩) {history : List Record}
    (hperm : l.records.Perm history) : l'.records.Perm (next env history ⟨s, op, answer⟩) := by
  cases hstep with
  | read hread => rwa [next_of_reading hread]
  | fail hissued => rwa [next_of_error]
  | purgeNobody => exact hperm
  | create hname hnew => exact hperm
  | insert hrow hbound hid =>
    rw [next_of_insert henv h hrow]
    refine List.Perm.trans (List.Perm.of_eq ?_) (hperm.append_right _)
    exact List.map_append
  | associate huser hrow hfree =>
    rwa [next_of_associate henv h hrow, hfree, Ledger.records_bind h.owned hfree]
  | rotate huser hrow hold hissued hmoved =>
    have hfree := h.secret?_parked henv hrow hold hfresh
    rw [next_of_associate henv h hrow, hold]
    exact (Ledger.records_rotate h.owned hold hfree hmoved).trans (hperm.map _)
  | purge huser =>
    rw [next_of_purge h huser, Ledger.records_purge]
    exact hperm.filter _

end History

/-- **An operator who asks for all accounts sees every event once.** -/
theorem Ledger.all_perm (env : Environment σ) {l : Ledger} (hl : l.Sound) {accounts : List String}
    (hall : ∀ a, a ∈ accounts ↔ (l.accounts.get? a).isSome = true) :
    ∃ m, l.answer env (.operator accounts) = .ok m ∧ m.all.Perm (l.events.map l.view) := by
  have hrows : l.covered (.operator accounts) = .ok (accounts.filterMap l.accounts.get?) :=
    named_eq_ok fun a ha => (hall a).1 ha
  have hanswer : ∃ m, l.answer env (.operator accounts) = .ok m := by
    rw [answer, hrows]
    exact ⟨_, rfl⟩
  obtain ⟨m, hm⟩ := hanswer
  refine ⟨m, hm, (List.perm_ext_iff_of_nodup (nodup_answer hl hm) (hl.nodup_map (.refl _) fun _ => rfl)).2 fun v => ?_⟩
  have hshown (r : AccountRow) : v ∈ l.shown env (.operator accounts) r ↔ v ∈ l.operatorEvents none r := Iff.rfl
  simp only [mem_answer hl hrows hm, hshown, mem_operatorEvents, List.mem_map, comesAfter_none]
  constructor
  · rintro ⟨r, -, e, he, -, -, rfl⟩
    exact ⟨e, he, rfl⟩
  · rintro ⟨e, he, rfl⟩
    obtain ⟨r, hr⟩ := hl.housed e he
    have hget := OrderedMap.get?_eq_some_iff.2 hr
    refine ⟨r, List.mem_filterMap.2 ⟨e.account, (hall _).2 (hget ▸ rfl), hget⟩, e, he, ?_, trivial, rfl⟩
    exact (hl.account_of_get? hget).symm

/-- **History is kept** through every run from an empty store in which rotations park freshly: an operator who asks for
all accounts sees exactly the recorded inserts that no purge has struck out, each once and with the secret recorded with
it. -/
theorem Session.history_run {env : Environment σ} (henv : env.Proper) (world : σ) (ops : List Operation)
    (hfresh : ∀ m ∈ (opened .empty world).moments env ops, m.ParksFreshly env) (accounts : List String)
    (hall : ∀ a, a ∈ accounts ↔ ∃ r, ((opened .empty world).run env ops).2.tables.account a = .ok r) :
    ∃ m, (((opened .empty world).run env ops).2.after env (.query (.operator accounts))).1 = .ok (.events m) ∧
      (m.all.map Record.ofView).Perm (History.ofMoments env ((opened .empty world).moments env ops)) := by
  obtain ⟨l, hl, hp⟩ := run_induction henv
    (P := fun past l => (∀ m ∈ past, m.ParksFreshly env) → l.records.Perm (History.ofMoments env past))
    (fun _ => List.Perm.nil) (fun past s l op answer l' hk hstep hp hfresh => by
      rw [History.ofMoments, List.foldl_append]
      refine History.records_step henv hk hstep (hfresh _ (List.mem_append_right _ (List.mem_singleton.2 rfl))) ?_
      exact hp fun m hm => hfresh m (List.mem_append_left _ hm)) world ops
  have hall : ∀ a, a ∈ accounts ↔ (l.accounts.get? a).isSome = true := fun a => by
    rw [hall, hl.tables.account_eq hl.sound, Option.isSome_iff_exists]
    exact exists_congr fun r => Ledger.account_eq_ok_iff
  obtain ⟨m, hm, hperm⟩ := Ledger.all_perm env hl.sound hall
  refine ⟨m, ?_, (hperm.map Record.ofView).trans ?_⟩
  · rw [hl.after_query henv, hm]
  · rw [List.map_map]
    exact hp hfresh

/-- Where the world stands still, a user's secret is changed between two events. -/
theorem Session.history_run_still :
    let ops : List Operation := [.createAccount "a" "A", .associate "a" "u" "s", .insert (some "u") "a" "p",
      .associate "a" "u" "t", .insert (some "u") "a" "q"]
    ∃ m, (((opened .empty ()).run .still ops).2.after .still (.query (.operator ["a"]))).1 = .ok (.events m) ∧
      (m.all.map Record.ofView).Perm (History.ofMoments .still ((opened .empty ()).moments .still ops)) := by
  refine history_run Environment.still_proper () _ parksFreshly_still ["a"] fun a => ?_
  exact List.mem_singleton.trans (account_of_created Environment.still_proper () created_still (by simp) a).symm

end PseudonymStore
