import PseudonymStore.Proofs.Operation.Provision
import PseudonymStore.Proofs.Operation.Insert
import PseudonymStore.Proofs.Operation.Associate
import PseudonymStore.Proofs.Operation.Purge
import PseudonymStore.Proofs.Operation.Lookup
import Mathlib.Data.List.Induction
/-!
# What a run does

Every operation takes a session that keeps a ledger to one that keeps the next ledger (`Session.Keeps.after`), so a
property of ledgers that every step preserves holds after every run from an empty store (`Session.run_induction`).  Such
a property may speak of what has happened: of the moments of the run, each an operation with the session it met and its
answer.
-/
namespace PseudonymStore

variable {σ : Type}

structure Moment (σ : Type) where
  session : Session σ
  op : Operation
  answer : Except StoreError Answer

/-- **A rotation parks freshly** when the parked pseudonym owns no secret in the account at that moment. -/
def Moment.ParksFreshly (env : Environment σ) (m : Moment σ) : Prop :=
  ∀ account user secret row, m.op = .associate account user secret → m.answer = .ok .done →
    m.session.tables.account account = .ok row →
    (m.session.tables.secret? account (env.hash user row.salt)).isSome = true →
    m.session.tables.secret? account (env.parked m.session.world row.salt) = none

theorem Environment.hash_still (salt : String) : still.hash "u" salt = ⟨"u"⟩ := by
  have heq : still.hash "u" "" = ⟨"u"⟩ := by decide
  exact heq

theorem Environment.parked_still_ne (salt : String) : still.parked () salt ≠ ⟨"u"⟩ := by
  have hne : still.parked () "" ≠ ⟨"u"⟩ := by decide
  exact hne

namespace Session

def pseudonym? (env : Environment σ) (s : Session σ) (account user : String) : Option Pseudonym :=
  match s.tables.account account with
  | .ok row => some (env.hash user row.salt)
  | .error _ => none

def moments (env : Environment σ) (s : Session σ) : List Operation → List (Moment σ)
  | [] => []
  | op :: ops => ⟨s, op, (s.after env op).1⟩ :: (s.after env op).2.moments env ops

@[simp] theorem run_nil (env : Environment σ) (s : Session σ) : (s.run env []).2 = s := rfl

@[simp] theorem run_cons (env : Environment σ) (s : Session σ) (op : Operation) (ops : List Operation) :
    (s.run env (op :: ops)).2 = ((s.after env op).2.run env ops).2 := rfl

@[simp] theorem moments_nil (env : Environment σ) (s : Session σ) : s.moments env [] = [] := rfl

@[simp] theorem moments_cons (env : Environment σ) (s : Session σ) (op : Operation) (ops : List Operation) :
    s.moments env (op :: ops) = ⟨s, op, (s.after env op).1⟩ :: (s.after env op).2.moments env ops := rfl

theorem run_append (env : Environment σ) (s : Session σ) : ∀ ops ops' : List Operation,
    (s.run env (ops ++ ops')).2 = ((s.run env ops).2.run env ops').2
  | [], _ => rfl
  | op :: ops, ops' => (s.after env op).2.run_append env ops ops'

theorem moments_append (env : Environment σ) (s : Session σ) : ∀ ops ops' : List Operation,
    s.moments env (ops ++ ops') = s.moments env ops ++ (s.run env ops).2.moments env ops'
  | [], _ => rfl
  | op :: ops, ops' => congrArg (_ :: ·) ((s.after env op).2.moments_append env ops ops')

theorem Holds.pseudonym?_eq {s : Session σ} {l : Ledger} (h : s.Holds l) (env : Environment σ) (account user : String) :
    s.pseudonym? env account user = (l.accounts.get? account).map fun r => env.hash user r.salt := by
  rw [pseudonym?, h.tables.account_eq h.sound, Ledger.account]
  cases l.accounts.get? account <;> rfl

theorem Holds.secret?_parked {env : Environment σ} (henv : env.Proper) {s : Session σ} {l : Ledger} (h : s.Holds l)
    {account user secret old : String} {row : AccountRow} (hrow : l.accounts.get? account = some row)
    (hold : l.secret? account (env.hash user row.salt) = some old)
    (hfresh : Moment.ParksFreshly env ⟨s, .associate account user secret, .ok .done⟩) :
    l.secret? account (env.parked s.world row.salt) = none := by
  refine (h.secret?_hash henv hrow _).symm.trans ?_
  refine hfresh account user secret row rfl rfl (h.account_eq_ok_iff.2 hrow) ?_
  rw [h.secret?_hash henv hrow, hold]
  rfl

theorem Keeps.perform_meets {env : Environment σ} (henv : env.Proper) {s : Session σ} {l : Ledger} (h : s.Keeps l)
    (op : Operation) :
    (op.perform env).Meets s (fun answer t => ∃ l', l.Step env s.world op (.ok answer) l' ∧ t.Keeps l')
      fun _ t => t.Idles l := by
  have hread {α : Type} {x : Action σ α} {f : α → Answer} (hop : op.isReading = true)
      (hx : x.Meets s (fun _ t => s = t) fun _ t => s = t) :
      (f <$> x).Meets s (fun answer t => ∃ l', l.Step env s.world op (.ok answer) l' ∧ t.Keeps l')
        fun _ t => t.Idles l :=
    Action.Meets.map (hx.mono (fun _ _ ht => ⟨l, .read hop, ht ▸ h⟩) fun _ _ ht => ht ▸ h.idles)
  cases op with
  | createAccount account name =>
    exact (Action.createAccount_meets henv h account name).bind fun _ _ ht => Action.Meets.pure ht
  | viewAccount account withEvents since => exact hread rfl (Action.Meets.read (fun _ _ => rfl) fun _ _ => rfl)
  | privateKey account => exact hread rfl (Action.privateKey_meets s account)
  | associate account user secret =>
    exact (Action.associate_meets henv h account user secret).bind fun _ _ ht => Action.Meets.pure ht
  | insert user account payload => exact Action.Meets.map (Action.insert_meets henv h user account payload)
  | query q =>
    refine hread rfl ?_
    unfold Action.Meets
    rw [Action.query_eq henv h.toHolds]
    cases l.answer env q <;> rfl
  | deletedEvents ids user => exact hread rfl (Action.Meets.read (fun _ _ => rfl) fun _ _ => rfl)
  | purge user =>
    refine ((Action.purge_meets henv h user).mono (fun _ _ ht => ht) fun _ _ => False.elim).bind ?_
    exact fun _ _ ht => Action.Meets.pure ht
  | checkHealth => exact ⟨l, .read rfl, h⟩

/-- **A session that keeps a ledger keeps the next one** after every operation. -/
theorem Keeps.after {env : Environment σ} (henv : env.Proper) {s : Session σ} {l : Ledger} (h : s.Keeps l)
    (op : Operation) :
    ∃ l', l.Step env s.world op (s.after env op).1 l' ∧ (s.after env op).2.Keeps l' := by
  have hmeets := h.perform_meets henv op
  unfold Session.after
  cases hop : op.perform env s with
  | ok answer t => exact hmeets.of_ok hop
  | error e t =>
    obtain ⟨issued, hissued, ht⟩ := hmeets.of_error hop
    exact ⟨_, .fail hissued, ht⟩

theorem Keeps.view_eq {env : Environment σ} (henv : env.Proper) {s : Session σ} {l l' : Ledger} (h : s.Keeps l)
    {op : Operation} {answer : Except StoreError Answer} (hstep : l.Step env s.world op answer l')
    (hfresh : Moment.ParksFreshly env ⟨s, op, answer⟩) {e : EventRow} (he : e ∈ l.events) (he' : e ∈ l'.events) :
    l'.view e = l.view e := by
  cases hstep with
  | read | fail | purgeNobody | create | insert => rfl
  | associate huser hrow hfree => exact Ledger.view_bind h.owned hfree _ he
  | rotate huser hrow hold hissued hmoved =>
    rcases List.mem_append.1 he' with he' | he'
    · obtain ⟨-, hof⟩ := List.mem_filter.1 he'
      rw [Bool.not_eq_true', ← Bool.not_eq_true] at hof
      exact Ledger.view_rotate h.owned (h.secret?_parked henv hrow hold hfresh) _ _ _ _ he hof
    · obtain ⟨f, -, id, hid, -, rfl⟩ := Ledger.Moved.of_mem hmoved e he'
      exact absurd (h.sound.lt_of_issued_le he hid) (String.lt_irrefl _)
  | purge huser => exact Ledger.view_purge he'

/-- **Runs by induction**: what holds of the empty ledger before the first moment, and goes on holding from moment to
moment, holds of the ledger that is kept after every run. -/
theorem run_induction {env : Environment σ} (henv : env.Proper) {P : List (Moment σ) → Ledger → Prop}
    (hstart : P [] .empty)
    (hstep : ∀ past s l op answer l', s.Keeps l → l.Step env s.world op answer l' → P past l →
      P (past ++ [⟨s, op, answer⟩]) l')
    (world : σ) (ops : List Operation) :
    ∃ l, ((opened .empty world).run env ops).2.Keeps l ∧ P ((opened .empty world).moments env ops) l := by
  -- The last moment has all others as its past, so the induction takes a run from its end.
  induction ops using List.reverseRecOn with
  | nil => exact ⟨.empty, keeps_opened world, hstart⟩
  | append_singleton ops op ih =>
    obtain ⟨l, hl, hp⟩ := ih
    obtain ⟨l', hl', hk⟩ := hl.after henv op
    rw [run_append, moments_append]
    simp only [run_cons, run_nil, moments_cons, moments_nil]
    exact ⟨l', hk, hstep _ _ l op _ l' hl hl' hp⟩

theorem keeps_run {env : Environment σ} (henv : env.Proper) (world : σ) (ops : List Operation) :
    ∃ l, ((opened .empty world).run env ops).2.Keeps l := by
  obtain ⟨l, hl, -⟩ := run_induction henv (P := fun _ _ => True) trivial (fun _ _ _ _ _ _ _ _ _ => trivial) world ops
  exact ⟨l, hl⟩

theorem account_run {env : Environment σ} (henv : env.Proper) (world : σ) (ops : List Operation) (account : String) :
    (∃ r, ((opened .empty world).run env ops).2.tables.account account = .ok r) ↔
      ∃ m ∈ (opened .empty world).moments env ops, ∃ name, m.op = .createAccount account name ∧ m.answer = .ok .done := by
  obtain ⟨l, hl, hp⟩ := run_induction henv (P := fun past l => (l.accounts.get? account).isSome = true ↔
    ∃ m ∈ past, ∃ name, m.op = .createAccount account name ∧ m.answer = .ok .done) (by simp [Ledger.empty])
    (fun past s l op answer l' _ hstep h => by
      rw [hstep.isSome_get?_iff, h]
      simp only [List.mem_append, List.mem_singleton, or_and_right, exists_or, exists_eq_left]) world ops
  rw [← hp, Option.isSome_iff_exists]
  exact exists_congr fun r => hl.account_eq_ok_iff

theorem op_mem_of_mem_moments {env : Environment σ} {s : Session σ} {ops : List Operation} {m : Moment σ}
    (hm : m ∈ s.moments env ops) : m.op ∈ ops := by
  induction ops generalizing s with
  | nil => cases hm
  | cons op ops ih =>
    rcases List.mem_cons.1 hm with rfl | hm
    · exact List.mem_cons_self
    · exact List.mem_cons_of_mem _ (ih hm)

theorem account_of_created {env : Environment σ} (henv : env.Proper) (world : σ) {a name : String}
    (hcreated : ((opened .empty world).after env (.createAccount a name)).1 = .ok .done) {ops : List Operation}
    (hops : ∀ op ∈ ops, ∀ account name, op ≠ .createAccount account name) (account : String) :
    (∃ r, ((opened .empty world).run env (.createAccount a name :: ops)).2.tables.account account = .ok r) ↔
      account = a := by
  rw [account_run henv]
  constructor
  · rintro ⟨m, hm, name, hop, -⟩
    rcases List.mem_cons.1 hm with rfl | hm
    · cases hop
      rfl
    · exact absurd hop (hops _ (op_mem_of_mem_moments hm) account name)
  · rintro rfl
    exact ⟨_, List.mem_cons_self, name, rfl, hcreated⟩

/-! ## Where the world stands still -/

theorem Holds.parksFreshly_still {s : Session Unit} {l : Ledger} (h : s.Holds l)
    (honly : ∀ a p, p ≠ ⟨"u"⟩ → l.secret? a p = none) (op : Operation) (answer : Except StoreError Answer) :
    Moment.ParksFreshly .still ⟨s, op, answer⟩ := by
  intro account user secret row _ _ hrow _
  have hparked := h.secret?_hash Environment.still_proper (h.account_eq_ok_iff.1 hrow) (Uuid.text (List.replicate 16 1))
  exact hparked.trans (honly _ _ (Environment.parked_still_ne row.salt))

theorem created_still : ((opened .empty ()).after .still (.createAccount "a" "A")).1 = .ok .done := by
  decide +kernel

theorem parksFreshly_still : ∀ m ∈ (opened .empty ()).moments .still [.createAccount "a" "A", .associate "a" "u" "s",
    .insert (some "u") "a" "p", .associate "a" "u" "t", .insert (some "u") "a" "q"], m.ParksFreshly .still := by
  have henv := Environment.still_proper
  have hpark {s : Session Unit} {l : Ledger} (h : s.Keeps l) := h.parksFreshly_still
  have hhash := Environment.hash_still
  -- What follows holds of every such world, and the world that stands still must not be evaluated for it.
  generalize Environment.still = env at *
  obtain ⟨l₁, hstep₁, h₁⟩ := (keeps_opened ()).after henv (.createAccount "a" "A")
  obtain ⟨l₂, hstep₂, h₂⟩ := h₁.after henv (.associate "a" "u" "s")
  obtain ⟨l₃, hstep₃, h₃⟩ := h₂.after henv (.insert (some "u") "a" "p")
  have hnone (a : String) (p : Pseudonym) : l₁.secret? a p = none := hstep₁.secret?_eq_none (by simp) rfl
  have honly (a : String) (p : Pseudonym) (hp : p ≠ ⟨"u"⟩) : l₃.secret? a p = none :=
    hstep₃.secret?_eq_none (by simp)
      (hstep₂.secret?_of_associate (fun _ _ => hnone _ _) (fun salt => (hhash salt).symm ▸ hp) (hnone a p))
  simp only [moments_cons, moments_nil, List.forall_mem_cons]
  refine ⟨?_, ?_, ?_, ?_, ?_, by simp⟩
  · exact fun _ _ _ _ heq => by cases heq
  · exact hpark h₁ (fun a p _ => hnone a p) _ _
  · exact fun _ _ _ _ heq => by cases heq
  · exact hpark h₃ honly _ _
  · exact fun _ _ _ _ heq => by cases heq

end Session

end PseudonymStore
