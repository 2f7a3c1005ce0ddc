import PseudonymStore.Operation.Run
import PseudonymStore.Proofs.Session
import PseudonymStore.Proofs.Tables
/-!
# What an operation does to a ledger

All that an operation can do to the ledger of a store (`Ledger.Step`).  Reading and failing leave it as it is; an
account is entered, an event appended, a secret bound to a free pseudonym; a rotation moves the old secret and the
events of a pseudonym to the parked one, under new IDs; a purge strikes a user out of every account.

A session keeps a ledger (`Session.Keeps`) when its tables do and its log holds no warning.  Within a transaction events
may lack a secret for a while (`Session.Holds`).
-/
namespace PseudonymStore

variable {σ : Type}

/-- The pseudonym under which a rotation that starts now parks history. -/
def Environment.parked (env : Environment σ) (world : σ) (salt : String) : Pseudonym :=
  env.hash (Uuid.text (env.drawIdentifier world).1) salt

def Operation.isReading : Operation → Bool
  | viewAccount .. | privateKey _ | query _ | deletedEvents .. | checkHealth => true
  | createAccount .. | associate .. | insert .. | purge _ => false

namespace Ledger

/-- How a moved event differs from what it was: by its pseudonym, and by an ID from those issued meanwhile. -/
def Moved (parked : Pseudonym) (start stop : Nat) (e f : EventRow) : Prop :=
  ∃ id : EventId, start ≤ id.toNat ∧ id.toNat < stop ∧ f = { e with id := id.text, user := some parked }

/-- The ledger after a rotation: the events of the pseudonym have moved, and the parked pseudonym has its secret. -/
def rotate (l : Ledger) (account : String) (user parked : Pseudonym) (old secret : String) (moved : List EventRow)
    (issued : Nat) : Ledger :=
  { ((l.bind account user none).bind account parked (some old)).bind account user (some secret) with
    events := l.events.filter (!isOf account user ·) ++ moved
    issued }

def isHeld (hash : String → Pseudonym) (rows : List AccountRow) (account : String) (user : Pseudonym) : Bool :=
  rows.any fun r => r.account = account ∧ hash r.salt = user

def purge (l : Ledger) (hash : String → Pseudonym) (rows : List AccountRow) : Ledger :=
  { l with
    events := l.events.filter fun e => !e.user.any (isHeld hash rows e.account)
    secret? := fun a p => if isHeld hash rows a p then none else l.secret? a p }

/-- **All that an operation can do**, with the answer that it gives. -/
inductive Step (env : Environment σ) (world : σ) (l : Ledger) : Operation → Except StoreError Answer → Ledger → Prop
  | read {op : Operation} {answer : Except StoreError Answer} (hread : op.isReading = true) : Step env world l op answer l
  | fail {op : Operation} {e : StoreError} {issued : Nat} (hissued : l.issued ≤ issued) :
    Step env world l op (.error e) (l.issue issued)
  | purgeNobody : Step env world l (.purge "") (.ok .done) l
  | create {account name : String} {row : AccountRow} (hname : row.account = account)
    (hnew : l.accounts.get? account = none) : Step env world l (.createAccount account name) (.ok .done) (l.enter row)
  | insert {user : Option String} {account payload : String} {row : AccountRow} {id : EventId}
    (hrow : l.accounts.get? account = some row)
    (hbound : ∀ u, given user = some u → (l.secret? account (env.hash u row.salt)).isSome = true)
    (hid : l.issued ≤ id.toNat) :
    Step env world l (.insert user account payload) (.ok (.inserted id))
      ((l.append { id := id.text, account, user := (given user).map (env.hash · row.salt), payload }).issue
        (id.toNat + 1))
  | associate {account user secret : String} {row : AccountRow} (huser : user ≠ "")
    (hrow : l.accounts.get? account = some row) (hfree : l.secret? account (env.hash user row.salt) = none) :
    Step env world l (.associate account user secret) (.ok .done) (l.bind account (env.hash user row.salt) (some secret))
  | rotate {account user secret old : String} {row : AccountRow} {moved : List EventRow} {issued : Nat}
    (huser : user ≠ "") (hrow : l.accounts.get? account = some row) (hold : l.secret? account (env.hash user row.salt) = some old)
    (hissued : l.issued ≤ issued)
    (hmoved : List.Forall₂ (Moved (env.parked world row.salt) l.issued issued)
      (l.eventsOf account (env.hash user row.salt)) moved) :
    Step env world l (.associate account user secret) (.ok .done)
      (l.rotate account (env.hash user row.salt) (env.parked world row.salt) old secret moved issued)
  | purge {user : String} (huser : user ≠ "") :
    Step env world l (.purge user) (.ok .done) (l.purge (env.hash user) l.accounts.values)

theorem secret?_rotate (l : Ledger) (account : String) (user parked : Pseudonym) (old secret : String)
    (moved : List EventRow) (issued : Nat) (a : String) (p : Pseudonym) :
    (l.rotate account user parked old secret moved issued).secret? a p =
      if a = account ∧ p = user then some secret else if a = account ∧ p = parked then some old else l.secret? a p := by
  simp only [rotate, secret?_bind]
  grind

theorem events_rotate (l : Ledger) (account : String) (user parked : Pseudonym) (old secret : String)
    (moved : List EventRow) (issued : Nat) :
    (l.rotate account user parked old secret moved issued).events = l.events.filter (!isOf account user ·) ++ moved := rfl

theorem secret?_purge (l : Ledger) (hash : String → Pseudonym) (rows : List AccountRow) (a : String) (p : Pseudonym) :
    (l.purge hash rows).secret? a p = if isHeld hash rows a p then none else l.secret? a p := rfl

theorem view_congr {l l' : Ledger} {e : EventRow}
    (h : ∀ p, e.user = some p → l'.secret? e.account p = l.secret? e.account p) :
    l'.view e = l.view e := by
  have hsecret : e.user.bind (l'.secret? e.account) = e.user.bind (l.secret? e.account) := by
    cases hu : e.user with
    | none => rfl
    | some p => exact h p hu
  rw [view, view, hsecret]

theorem Owned.ne_of_free {l : Ledger} (h : l.Owned) {account : String} {user : Pseudonym}
    (hfree : l.secret? account user = none) {e : EventRow} (he : e ∈ l.events) {p : Pseudonym} (hp : e.user = some p) :
    ¬(e.account = account ∧ p = user) := by
  rintro ⟨rfl, rfl⟩
  have := h e he p hp
  rw [hfree] at this
  cases this

theorem view_bind {l : Ledger} (h : l.Owned) {account : String} {user : Pseudonym}
    (hfree : l.secret? account user = none) (secret : Option String) {e : EventRow} (he : e ∈ l.events) :
    (l.bind account user secret).view e = l.view e := by
  refine view_congr fun p hp => ?_
  rw [secret?_bind, if_neg (h.ne_of_free hfree he hp)]

theorem view_rotate {l : Ledger} (h : l.Owned) {account : String} {user parked : Pseudonym}
    (hfree : l.secret? account parked = none) (old secret : String) (moved : List EventRow) (issued : Nat)
    {e : EventRow} (he : e ∈ l.events) (hof : ¬isOf account user e = true) :
    (l.rotate account user parked old secret moved issued).view e = l.view e := by
  refine view_congr fun p hp => ?_
  rw [secret?_rotate, if_neg, if_neg (h.ne_of_free hfree he hp)]
  rintro ⟨rfl, rfl⟩
  exact hof (isOf_iff.2 ⟨rfl, hp⟩)

theorem view_purge {l : Ledger} {hash : String → Pseudonym} {rows : List AccountRow} {e : EventRow}
    (he : e ∈ (l.purge hash rows).events) : (l.purge hash rows).view e = l.view e := by
  refine view_congr fun p hp => ?_
  have hheld := (List.mem_filter.1 he).2
  rw [hp, Option.any_some, Bool.not_eq_true'] at hheld
  rw [secret?_purge, if_neg (Bool.not_eq_true _ ▸ hheld)]

theorem Moved.mono {parked : Pseudonym} {start start' stop stop' : Nat} {e f : EventRow}
    (h : Moved parked start stop e f) (hstart : start' ≤ start) (hstop : stop ≤ stop') :
    Moved parked start' stop' e f := by
  obtain ⟨id, h₁, h₂, rfl⟩ := h
  exact ⟨id, by omega, by omega, rfl⟩

theorem Moved.of_mem {parked : Pseudonym} {start stop : Nat} : ∀ {es fs : List EventRow},
    List.Forall₂ (Moved parked start stop) es fs → ∀ f ∈ fs, ∃ e ∈ es, Moved parked start stop e f
  | _, _, .cons h hs, f, hf => by
    rcases List.mem_cons.1 hf with rfl | hf
    · exact ⟨_, List.mem_cons_self, h⟩
    · obtain ⟨e, he, hmoved⟩ := of_mem hs f hf
      exact ⟨e, List.mem_cons_of_mem _ he, hmoved⟩

theorem Moved.map_eq {β : Type} {f g : EventRow → β} {parked : Pseudonym} {start stop : Nat} :
    ∀ {es fs : List EventRow},
    List.Forall₂ (Moved parked start stop) es fs → (∀ e ∈ es, ∀ e', Moved parked start stop e e' → f e' = g e) →
      fs.map f = es.map g
  | _, _, .nil, _ => rfl
  | _, _, .cons h hs, hfg => by
    rw [List.map_cons, List.map_cons, hfg _ List.mem_cons_self _ h,
      map_eq hs fun e he => hfg e (List.mem_cons_of_mem _ he)]

variable {l : Ledger} {account : String} {p : Pseudonym}

theorem eventsOf_append (l : Ledger) (account : String) (p : Pseudonym) (e : EventRow) :
    (l.append e).eventsOf account p = l.eventsOf account p ++ if isOf account p e then [e] else [] := by
  rw [eventsOf, append, List.filter_append, List.filter_singleton, eventsOf]
  cases isOf account p e <;> rfl

theorem eventsOf_rotate {a : String} {user parked : Pseudonym} {old secret : String} {moved : List EventRow}
    {issued : Nat} (hmoved : List.Forall₂ (Moved parked l.issued issued) (l.eventsOf a user) moved)
    (hapart : account = a → parked ≠ p) : (l.rotate a user parked old secret moved issued).eventsOf account p =
      if account = a ∧ p = user then [] else l.eventsOf account p := by
  have hnone : moved.filter (isOf account p) = [] := by
    rw [List.filter_eq_nil_iff]
    intro f hf hof
    obtain ⟨e, he, id, -, -, rfl⟩ := Moved.of_mem hmoved f hf
    obtain ⟨-, ha, -⟩ := mem_eventsOf.1 he
    obtain ⟨ha', hp⟩ := isOf_iff.1 hof
    exact hapart (ha'.symm.trans ha) (Option.some.inj hp)
  rw [eventsOf, events_rotate, List.filter_append, hnone, List.append_nil, List.filter_filter]
  split
  · next heq =>
    rw [List.filter_eq_nil_iff, heq.1, heq.2]
    simp
  · next hne =>
    refine List.filter_congr fun e _ => ?_
    by_cases hof : isOf account p e = true
    · obtain ⟨rfl, hp⟩ := isOf_iff.1 hof
      have hother : isOf a user e = false := by
        rw [← Bool.not_eq_true, isOf_iff, hp]
        exact fun h => hne ⟨h.1, Option.some.inj h.2⟩
      rw [hof, hother]
      rfl
    · rw [Bool.not_eq_true] at hof
      rw [hof, Bool.false_and]

theorem eventsOf_purge (l : Ledger) (hash : String → Pseudonym) (rows : List AccountRow) (account : String)
    (p : Pseudonym) :
    (l.purge hash rows).eventsOf account p = if isHeld hash rows account p then [] else l.eventsOf account p := by
  have hof {e : EventRow} (h : isOf account p e = true) :
      e.user.any (isHeld hash rows e.account) = isHeld hash rows account p := by
    obtain ⟨rfl, hp⟩ := isOf_iff.1 h
    rw [hp, Option.any_some]
  rw [eventsOf, purge, List.filter_filter]
  cases hheld : isHeld hash rows account p with
  | true =>
    rw [if_pos rfl, List.filter_eq_nil_iff]
    intro e _ h
    obtain ⟨h, hkept⟩ := Bool.and_eq_true_iff.1 h
    rw [hof h, hheld] at hkept
    cases hkept
  | false =>
    rw [if_neg Bool.false_ne_true]
    refine List.filter_congr fun e _ => ?_
    cases h : isOf account p e with
    | false => rfl
    | true => rw [hof h, hheld, Bool.not_false, Bool.and_true]

theorem Owned.eventsOf_eq_nil (h : l.Owned) (hfree : l.secret? account p = none) : l.eventsOf account p = [] := by
  rw [eventsOf, List.filter_eq_nil_iff]
  intro e he hof
  obtain ⟨ha, hp⟩ := isOf_iff.1 hof
  exact h.ne_of_free hfree he hp ⟨ha, rfl⟩

namespace Step

variable {env : Environment σ} {world : σ} {l l' : Ledger} {op : Operation} {answer : Except StoreError Answer}

theorem get?_eq_some (h : l.Step env world op answer l') {a : String} {r : AccountRow} (hr : l.accounts.get? a = some r) :
    l'.accounts.get? a = some r := by
  cases h with
  | create hname hnew =>
    have hne : a ≠ _ := fun heq => by
      rw [heq, hnew] at hr
      cases hr
    rw [enter, OrderedMap.get?_insert_of_ne _ (hname ▸ hne)]
    exact hr
  | _ => exact hr

theorem isSome_get?_iff (h : l.Step env world op answer l') (account : String) :
    (l'.accounts.get? account).isSome = true ↔
      (l.accounts.get? account).isSome = true ∨ ∃ name, op = .createAccount account name ∧ answer = .ok .done := by
  cases h with
  | @create a name row hname hnew =>
    by_cases ha : account = a
    · subst ha
      simp [enter, hname]
    · rw [enter, hname, OrderedMap.get?_insert_of_ne _ ha]
      simp [Ne.symm ha]
  | read hread =>
    have hop (name : String) : op ≠ .createAccount account name := by
      rintro rfl
      cases hread
    simp [hop]
  | _ => simp [Ledger.purge, Ledger.rotate, Ledger.bind, Ledger.issue, Ledger.append]

theorem issued_le (h : l.Step env world op answer l') : l.issued ≤ l'.issued := by
  cases h with
  | fail hissued => exact hissued
  | insert hrow hbound hid => exact Nat.le_succ_of_le hid
  | rotate huser hrow hold hissued hmoved => exact hissued
  | _ => exact Nat.le_refl _

theorem mem_or_issued (h : l.Step env world op answer l') {e : EventRow} (he : e ∈ l'.events) :
    e ∈ l.events ∨ ∃ id : EventId, e.id = id.text ∧ l.issued ≤ id.toNat := by
  cases h with
  | insert hrow hbound hid =>
    rcases List.mem_append.1 he with he | he
    · exact Or.inl he
    · refine Or.inr ⟨_, ?_, hid⟩
      rw [List.mem_singleton.1 he]
  | rotate huser hrow hold hissued hmoved =>
    rcases List.mem_append.1 he with he | he
    · exact Or.inl (List.mem_of_mem_filter he)
    · obtain ⟨f, -, id, hid, -, rfl⟩ := Moved.of_mem hmoved e he
      exact Or.inr ⟨id, rfl, hid⟩
  | purge huser => exact Or.inl (List.mem_of_mem_filter he)
  | _ => exact Or.inl he

theorem secret?_eq_none (h : l.Step env world op answer l')
    (hop : ∀ account user secret, op ≠ .associate account user secret) {a : String} {p : Pseudonym}
    (hfree : l.secret? a p = none) : l'.secret? a p = none := by
  cases h with
  | associate => exact absurd rfl (hop _ _ _)
  | rotate => exact absurd rfl (hop _ _ _)
  | purge =>
    rw [secret?_purge, hfree, ite_self]
  | _ => exact hfree

theorem secret?_of_associate {account user secret : String} (h : l.Step env world (.associate account user secret) answer l')
    (hfree : ∀ row, l.accounts.get? account = some row → l.secret? account (env.hash user row.salt) = none)
    {a : String} {p : Pseudonym} (hp : ∀ salt, p ≠ env.hash user salt) (hnone : l.secret? a p = none) :
    l'.secret? a p = none := by
  cases h with
  | associate huser hrow _ =>
    rw [secret?_bind, if_neg fun heq => hp _ heq.2]
    exact hnone
  | rotate huser hrow hold hissued hmoved =>
    rw [hfree _ hrow] at hold
    cases hold
  | _ => exact hnone

theorem secret?_of_unhoused (h : l.Step env world op answer l') {account : String} {p : Pseudonym}
    (hfree : l.accounts.get? account = none → l.secret? account p = none) (hnone' : l'.accounts.get? account = none) :
    l'.secret? account p = none := by
  have hnone : l.accounts.get? account = none := by
    cases hget : l.accounts.get? account with
    | none => rfl
    | some r =>
      rw [h.get?_eq_some hget] at hnone'
      cases hnone'
  have hne {a : String} {r : AccountRow} (hr : l.accounts.get? a = some r) : account ≠ a := fun heq => by
    rw [← heq, hnone] at hr
    cases hr
  cases h with
  | associate huser hrow _ =>
    rw [secret?_bind, if_neg fun heq => hne hrow heq.1]
    exact hfree hnone
  | rotate huser hrow hold hissued hmoved =>
    rw [secret?_rotate, if_neg fun heq => hne hrow heq.1, if_neg fun heq => hne hrow heq.1]
    exact hfree hnone
  | purge huser =>
    rw [secret?_purge]
    split
    · rfl
    · exact hfree hnone
  | _ => exact hfree hnone

end Step

end Ledger

namespace Tables

variable {t : Tables} {l : Ledger}

theorem Keeps.issue (h : t.Keeps l) (issued : Nat) : t.Keeps (l.issue issued) := { h with }

end Tables

namespace Session

def Quiet (s : Session σ) : Prop :=
  ∀ e ∈ s.log, e.level ≠ .warn

/-- **A session holds a ledger** when its tables keep it, IDs are issued above it and no warning has been logged. -/
structure Holds (s : Session σ) (l : Ledger) : Prop where
  tables : s.tables.Keeps l
  sound : l.Sound
  issued : s.issued = l.issued
  quiet : s.Quiet

/-- **A session keeps a ledger** when it holds it between operations, where every pseudonym with events has a secret. -/
structure Keeps (s : Session σ) (l : Ledger) : Prop extends s.Holds l where
  owned : l.Owned

/-- **A session that keeps a ledger as it is** may still have issued IDs. -/
def Idles (s : Session σ) (l : Ledger) : Prop :=
  ∃ issued, l.issued ≤ issued ∧ s.Keeps (l.issue issued)

theorem keeps_opened (world : σ) : (opened .empty world).Keeps .empty where
  tables := Tables.keeps_empty
  sound := Ledger.sound_empty
  issued := rfl
  quiet := by simp [Quiet, opened, Log.Event.level]
  owned := Ledger.owned_empty

namespace Holds

variable {s t : Session σ} {l : Ledger}

theorem account_eq_ok_iff (h : s.Holds l) {account : String} {row : AccountRow} :
    s.tables.account account = .ok row ↔ l.accounts.get? account = some row := by
  rw [h.tables.account_eq h.sound, Ledger.account_eq_ok_iff]

theorem secret?_hash {env : Environment σ} (henv : env.Proper) (h : s.Holds l) {account : String} {row : AccountRow}
    (hrow : l.accounts.get? account = some row) (user : String) :
    s.tables.secret? account (env.hash user row.salt) = l.secret? account (env.hash user row.salt) :=
  h.tables.secret _ _ (h.sound.nulFree_of_get? hrow) (henv.nulFree_hash user row.salt)

theorem turn (h : s.Holds l) (world : σ) : ({ s with world } : Session σ).Holds l :=
  ⟨h.tables, h.sound, h.issued, h.quiet⟩

theorem report (h : s.Holds l) {e : Log.Event} (he : e.level ≠ .warn) :
    ({ s with log := s.log ++ [e] } : Session σ).Holds l where
  tables := h.tables
  sound := h.sound
  issued := h.issued
  quiet := by
    intro f hf
    rcases List.mem_append.1 hf with hf | hf
    · exact h.quiet f hf
    · exact List.mem_singleton.1 hf ▸ he

theorem append (h : s.Holds l) {e : EventRow} {id : EventId} (hid : e.id = id.text) (hissued : l.issued ≤ id.toNat)
    (hhoused : ∃ r, (e.account, r) ∈ l.accounts.rows) (huser : ∀ p, e.user = some p → NulFree p.text) (world : σ) :
    ({ s with tables := s.tables.putEvent e, lastIssued := some id, world } : Session σ).Holds
      ((l.append e).issue (id.toNat + 1)) where
  tables := by
    obtain ⟨r, hr⟩ := hhoused
    refine (h.tables.putEvent h.sound (fun f hf heq => ?_) (h.sound.nulFree_of_mem hr) huser).issue _
    have := h.sound.lt_of_issued_le hf hissued
    rw [heq, hid] at this
    exact String.lt_irrefl _ this
  sound := h.sound.append hid hissued hhoused huser
  issued := rfl
  quiet := h.quiet

theorem drop (h : s.Holds l) {e : EventRow} (he : e ∈ l.events) :
    ({ s with tables := s.tables.dropEvent e.account e.id e.user } : Session σ).Holds (l.restrict (·.id ≠ e.id)) :=
  ⟨h.tables.dropEvent h.sound he, h.sound.restrict _, h.issued, h.quiet⟩

theorem rollback (h : s.Holds l) (hissued : l.issued ≤ t.issued) (hquiet : t.Quiet) :
    ({ t with tables := s.tables } : Session σ).Holds (l.issue t.issued) :=
  ⟨h.tables.issue _, h.sound.issue hissued, rfl, hquiet⟩

end Holds

namespace Keeps

variable {s t : Session σ} {l : Ledger}

theorem turn (h : s.Keeps l) (world : σ) : ({ s with world } : Session σ).Keeps l :=
  ⟨h.toHolds.turn world, h.owned⟩

theorem idles (h : s.Keeps l) : s.Idles l := ⟨l.issued, Nat.le_refl _, h⟩

theorem rollback (h : s.Keeps l) (hissued : l.issued ≤ t.issued) (hquiet : t.Quiet) :
    ({ t with tables := s.tables } : Session σ).Idles l :=
  ⟨t.issued, hissued, h.toHolds.rollback hissued hquiet, h.owned⟩

end Keeps

end Session

end PseudonymStore
