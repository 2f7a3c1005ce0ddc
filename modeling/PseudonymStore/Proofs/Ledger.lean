import PseudonymStore.View.Event
import PseudonymStore.Proofs.EventId
import PseudonymStore.Proofs.OrderedMap
import PseudonymStore.Proofs.Row
import Mathlib.Data.List.Pairwise
/-!
# The ledger of a store

What the five tables say together: the accounts by name, the secret bound to each pseudonym, and one list of the events
in the order in which their IDs were issued.  The two indexes have no part of their own here.  A ledger is sound
(`Ledger.Sound`) when its names can be parts of row keys and its IDs ascend below what has been issued; that every
pseudonym with events has a secret (`Ledger.Owned`) is apart, because a rotation breaks it while it moves events.
-/
namespace PseudonymStore

/-- What the tables of a store say. -/
@[ext] structure Ledger where
  accounts : OrderedMap String AccountRow
  secret? : String → Pseudonym → Option String
  events : List EventRow
  issued : Nat

namespace Ledger

def empty : Ledger where
  accounts := .empty
  secret? := fun _ _ => none
  events := []
  issued := 0

def account (l : Ledger) (name : String) : Except StoreError AccountRow :=
  match l.accounts.get? name with
  | some r => .ok r
  | none => .error (.unknownAccount name)

def enter (l : Ledger) (r : AccountRow) : Ledger :=
  { l with accounts := l.accounts.insert r.account r }

/-- The ledger with a secret bound to a pseudonym, or with none bound to it. -/
def bind (l : Ledger) (account : String) (user : Pseudonym) (secret : Option String) : Ledger :=
  { l with secret? := fun a p => if a = account ∧ p = user then secret else l.secret? a p }

def append (l : Ledger) (e : EventRow) : Ledger :=
  { l with events := l.events ++ [e] }

def restrict (l : Ledger) (p : EventRow → Bool) : Ledger :=
  { l with events := l.events.filter p }

def issue (l : Ledger) (issued : Nat) : Ledger :=
  { l with issued }

def isOf (account : String) (user : Pseudonym) (e : EventRow) : Bool :=
  e.account = account ∧ e.user = some user

def eventsOf (l : Ledger) (account : String) (user : Pseudonym) : List EventRow :=
  l.events.filter (isOf account user)

def identified (l : Ledger) : List (EventRow × Pseudonym) :=
  l.events.filterMap fun e => e.user.map fun p => (e, p)

def view (l : Ledger) (e : EventRow) : EventView :=
  .ofRow e (e.user.bind (l.secret? e.account))

theorem account_eq_ok_iff {l : Ledger} {name : String} {r : AccountRow} :
    l.account name = .ok r ↔ l.accounts.get? name = some r := by
  rw [account]
  cases l.accounts.get? name <;> simp

@[simp] theorem isOf_iff {account : String} {user : Pseudonym} {e : EventRow} :
    isOf account user e = true ↔ e.account = account ∧ e.user = some user := by
  simp [isOf]

theorem mem_eventsOf {l : Ledger} {account : String} {user : Pseudonym} {e : EventRow} :
    e ∈ l.eventsOf account user ↔ e ∈ l.events ∧ e.account = account ∧ e.user = some user := by
  rw [eventsOf, List.mem_filter, isOf_iff]

theorem mem_of_mem_eventsOf {l : Ledger} {account : String} {user : Pseudonym} :
    ∀ e ∈ l.eventsOf account user, e ∈ l.events ∧ e.account = account := fun _ he =>
  ⟨(mem_eventsOf.1 he).1, (mem_eventsOf.1 he).2.1⟩

theorem filter_not_mem_eventsOf (l : Ledger) (account : String) (user : Pseudonym) :
    l.events.filter (· ∉ l.eventsOf account user) = l.events.filter (!isOf account user ·) :=
  List.filter_congr fun e he => by simp [eventsOf, he, isOf]

theorem mem_identified {l : Ledger} {e : EventRow} {p : Pseudonym} :
    (e, p) ∈ l.identified ↔ e ∈ l.events ∧ e.user = some p := by
  simp only [identified, List.mem_filterMap, Option.map_eq_some_iff, Prod.mk.injEq]
  constructor
  · rintro ⟨f, hf, q, hq, rfl, rfl⟩
    exact ⟨hf, hq⟩
  · rintro ⟨he, hp⟩
    exact ⟨e, he, p, hp, rfl, rfl⟩

theorem identified_append (l : Ledger) (e : EventRow) :
    (l.append e).identified = l.identified ++ (e.user.map fun p => (e, p)).toList := by
  rw [identified, append, List.filterMap_append]
  cases h : e.user <;> simp [identified, h]

theorem identified_restrict (l : Ledger) (p : EventRow → Bool) :
    (l.restrict p).identified = l.identified.filter (p ·.1) := by
  rw [identified, restrict, List.filterMap_filter, identified, List.filter_filterMap]
  refine List.filterMap_congr fun e _ => ?_
  cases hu : e.user <;> simp [Option.filter]

theorem identified_of_events {l l' : Ledger} {keep : EventRow → Bool} {new : List EventRow}
    (h : l'.events = l.events.filter keep ++ new) :
    l'.identified = l.identified.filter (keep ·.1) ++ new.filterMap fun e => e.user.map fun p => (e, p) := by
  rw [identified, h, List.filterMap_append]
  exact congrArg (· ++ _) (l.identified_restrict keep)

theorem secret?_bind (l : Ledger) (account : String) (user : Pseudonym) (secret : Option String) (a : String)
    (p : Pseudonym) :
    (l.bind account user secret).secret? a p = if a = account ∧ p = user then secret else l.secret? a p := rfl

/-- **A sound ledger**: its names and pseudonyms can be parts of row keys, every event is in an account that is there,
and the IDs of the events ascend below what has been issued. -/
structure Sound (l : Ledger) : Prop where
  named : ∀ r ∈ l.accounts.rows, r.2.account = r.1 ∧ r.1 ≠ "" ∧ NulFree r.1 ∧ r.2.createdAt.Readable
  housed : ∀ e ∈ l.events, ∃ r, (e.account, r) ∈ l.accounts.rows
  nulFree_user : ∀ e ∈ l.events, ∀ p, e.user = some p → NulFree p.text
  below : ∀ e ∈ l.events, ∃ id : EventId, e.id = id.text ∧ id.toNat < l.issued
  ascending : l.events.Pairwise fun e f => e.id < f.id

def Owned (l : Ledger) : Prop :=
  ∀ e ∈ l.events, ∀ p, e.user = some p → (l.secret? e.account p).isSome = true

theorem sound_empty : empty.Sound where
  named := by intro r hr; cases hr
  housed := by intro e he; cases he
  nulFree_user := by intro e he; cases he
  below := by intro e he; cases he
  ascending := .nil

theorem owned_empty : empty.Owned := by
  intro e he
  cases he

namespace Sound

variable {l : Ledger}

theorem nulFree_of_mem (h : l.Sound) {a : String} {r : AccountRow} (hr : (a, r) ∈ l.accounts.rows) : NulFree a :=
  (h.named _ hr).2.2.1

theorem account_of_get? (h : l.Sound) {a : String} {r : AccountRow} (hr : l.accounts.get? a = some r) : r.account = a :=
  (h.named _ (OrderedMap.get?_eq_some_iff.1 hr)).1

theorem nulFree_of_get? (h : l.Sound) {a : String} {r : AccountRow} (hr : l.accounts.get? a = some r) : NulFree a :=
  h.nulFree_of_mem (OrderedMap.get?_eq_some_iff.1 hr)

theorem nulFree_account (h : l.Sound) {e : EventRow} (he : e ∈ l.events) : NulFree e.account := by
  obtain ⟨r, hr⟩ := h.housed e he
  exact h.nulFree_of_mem hr

theorem nulFree_id (h : l.Sound) {e : EventRow} (he : e ∈ l.events) : NulFree e.id := by
  obtain ⟨id, hid, -⟩ := h.below e he
  exact hid ▸ id.nulFree_text

theorem eq_of_id (h : l.Sound) {e f : EventRow} (he : e ∈ l.events) (hf : f ∈ l.events) (hid : e.id = f.id) :
    e = f := by
  have hne : l.events.Pairwise fun e f => e.id ≠ f.id := h.ascending.imp fun {e f} hlt heq => by
    rw [heq] at hlt
    exact String.lt_irrefl _ hlt
  have : Std.Symm fun e f : EventRow => e.id ≠ f.id := ⟨fun _ _ h => h.symm⟩
  by_contra hef
  exact hne.forall he hf hef hid

theorem id_eq_iff (h : l.Sound) {e f : EventRow} (he : e ∈ l.events) (hf : f ∈ l.events) : e.id = f.id ↔ e = f :=
  ⟨h.eq_of_id he hf, fun heq => heq ▸ rfl⟩

theorem mem_restrict (h : l.Sound) {e f : EventRow} (he : e ∈ l.events) (hf : f ∈ l.events) (hne : f ≠ e) :
    f ∈ (l.restrict (·.id ≠ e.id)).events := by
  refine List.mem_filter.2 ⟨hf, decide_eq_true ?_⟩
  rwa [ne_eq, h.id_eq_iff hf he]

/-- Where a key tells the ID of an event, an event is among some just where its key is among theirs. -/
theorem not_mem_map_filter_iff (h : l.Sound) {κ : Type} {key : EventRow → κ} {e : EventRow}
    (hkey : ∀ f ∈ l.events, key f = key e → f.id = e.id) (gone : EventRow → Bool) (he : e ∈ l.events) :
    (!gone e) = true ↔ key e ∉ (l.events.filter gone).map key := by
  rw [Bool.not_eq_true', ← Bool.not_eq_true]
  refine not_congr ⟨fun hgone => List.mem_map_of_mem (List.mem_filter.2 ⟨he, hgone⟩), fun hmem => ?_⟩
  obtain ⟨f, hf, heq⟩ := List.mem_map.1 hmem
  obtain ⟨hf, hgone⟩ := List.mem_filter.1 hf
  exact h.eq_of_id hf he (hkey f hf heq) ▸ hgone

theorem nodup (h : l.Sound) : l.events.Nodup := by
  refine List.nodup_iff_pairwise_ne.2 (h.ascending.imp fun {e f} hlt heq => ?_)
  rw [heq] at hlt
  exact String.lt_irrefl _ hlt

theorem nodup_map (h : l.Sound) {es : List EventRow} (hes : es.Sublist l.events) {f : EventRow → EventView}
    (hf : ∀ e, (f e).id = e.id) : (es.map f).Nodup := by
  refine List.nodup_iff_pairwise_ne.2 (List.pairwise_map.2 ((h.ascending.sublist hes).imp fun {e e'} hlt heq => ?_))
  rw [← hf e, ← hf e', heq] at hlt
  exact String.lt_irrefl _ hlt

theorem lt_of_issued_le (h : l.Sound) {e : EventRow} (he : e ∈ l.events) {id : EventId} (hid : l.issued ≤ id.toNat) :
    e.id < id.text := by
  obtain ⟨id', hid', hlt⟩ := h.below e he
  rw [hid', EventId.text_lt_text_iff]
  omega

theorem enter (h : l.Sound) {r : AccountRow} (hname : r.account ≠ "") (hnul : NulFree r.account)
    (htime : r.createdAt.Readable) (hnew : l.accounts.get? r.account = none) : (l.enter r).Sound where
  named := by
    intro q hq
    rcases OrderedMap.mem_insert.1 hq with rfl | ⟨-, hq⟩
    · exact ⟨rfl, hname, hnul, htime⟩
    · exact h.named q hq
  housed := by
    intro e he
    obtain ⟨q, hq⟩ := h.housed e he
    refine ⟨q, OrderedMap.mem_insert.2 (Or.inr ⟨fun (heq : e.account = r.account) => ?_, hq⟩)⟩
    rw [heq] at hq
    exact OrderedMap.get?_eq_none_iff.1 hnew q hq
  nulFree_user := h.nulFree_user
  below := h.below
  ascending := h.ascending

theorem bind (h : l.Sound) (account : String) (user : Pseudonym) (secret : Option String) :
    (l.bind account user secret).Sound := { h with }

theorem restrict (h : l.Sound) (p : EventRow → Bool) : (l.restrict p).Sound where
  named := h.named
  housed := fun e he => h.housed e (List.mem_of_mem_filter he)
  nulFree_user := fun e he => h.nulFree_user e (List.mem_of_mem_filter he)
  below := fun e he => h.below e (List.mem_of_mem_filter he)
  ascending := h.ascending.filter p

theorem issue (h : l.Sound) {issued : Nat} (hle : l.issued ≤ issued) : (l.issue issued).Sound where
  named := h.named
  housed := h.housed
  nulFree_user := h.nulFree_user
  below := fun e he =>
    have ⟨id, hid, hlt⟩ := h.below e he
    ⟨id, hid, Nat.lt_of_lt_of_le hlt hle⟩
  ascending := h.ascending

theorem append (h : l.Sound) {e : EventRow} {id : EventId} (hid : e.id = id.text) (hissued : l.issued ≤ id.toNat)
    (hhoused : ∃ r, (e.account, r) ∈ l.accounts.rows) (huser : ∀ p, e.user = some p → NulFree p.text) :
    ((l.append e).issue (id.toNat + 1)).Sound where
  named := h.named
  housed := by
    intro f hf
    rcases List.mem_append.1 hf with hf | hf
    · exact h.housed f hf
    · exact List.mem_singleton.1 hf ▸ hhoused
  nulFree_user := by
    intro f hf
    rcases List.mem_append.1 hf with hf | hf
    · exact h.nulFree_user f hf
    · exact List.mem_singleton.1 hf ▸ huser
  below := by
    intro f hf
    rcases List.mem_append.1 hf with hf | hf
    · obtain ⟨id', hid', hlt⟩ := h.below f hf
      exact ⟨id', hid', by change _ < id.toNat + 1; omega⟩
    · rw [List.mem_singleton.1 hf]
      exact ⟨id, hid, Nat.lt_succ_self _⟩
  ascending := by
    refine List.pairwise_append.2 ⟨h.ascending, List.pairwise_singleton _ _, fun f hf g hg => ?_⟩
    rw [List.mem_singleton.1 hg, hid]
    exact h.lt_of_issued_le hf hissued

end Sound

end Ledger

end PseudonymStore
