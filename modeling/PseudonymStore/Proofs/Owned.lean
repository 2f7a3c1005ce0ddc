import PseudonymStore.Proofs.Query
/-!
# Every pseudonym with events has a secret

Over every life of a store, also one in which an ID is issued twice, the index by user lists all events that name a user
(`Tables.Traceable`) and a secret is bound to each pseudonym that an event names (`Tables.Secured`).  A rotation takes the
secret of a pseudonym away before its events have moved, so inside its transaction one pseudonym lacks a secret; the
rotation or a purge finds all its events by the index.
-/
namespace PseudonymStore

variable {σ : Type}

namespace Tables

/-- **Tables that can be read and whose index lists every event** with a user, and perhaps entries without one. -/
structure Traceable (t : Tables) : Prop extends t.Legible where
  listed : ∀ e p, t.Stores e → e.user = some p → (RowKey.userEvent e.account p e.id, ()) ∈ t.userEvents.rows

/-- A pseudonym lacks a secret: events of the account name it, and none is bound to it. -/
def Lacks (t : Tables) (account : String) (p : Pseudonym) : Prop :=
  t.secret? account p = none ∧ ∃ e, t.Stores e ∧ e.account = account ∧ e.user = some p

def Owned (t : Tables) : Prop :=
  ∀ account p, ¬t.Lacks account p

structure Secured (t : Tables) : Prop extends t.Traceable where
  owned : t.Owned

variable {t u v : Tables}

theorem Secured.secret?_isSome (h : t.Secured) {e : EventRow} {p : Pseudonym} (he : t.Stores e) (hp : e.user = some p) :
    (t.secret? e.account p).isSome = true :=
  Option.isSome_iff_ne_none.2 fun hnone => h.owned e.account p ⟨hnone, e, he, rfl, hp⟩

/-! ## The index lists every event -/

namespace Traceable

theorem congr (h : t.Traceable) (hl : u.Legible) (hevents : u.events = t.events) (hindex : u.userEvents = t.userEvents) :
    u.Traceable where
  toLegible := hl
  listed := by
    intro e p he hp
    rw [Stores, hevents] at he
    rw [hindex]
    exact h.listed e p he hp

theorem putEvent (h : t.Traceable) {e : EventRow} (hl : (t.putEvent e).Legible) : (t.putEvent e).Traceable where
  toLegible := hl
  listed := by
    intro f p hf hp
    rw [mem_userEvents_putEvent]
    rcases stores_putEvent.1 hf with rfl | ⟨-, hf⟩
    · exact Or.inl ⟨p, hp, rfl⟩
    · exact Or.inr (h.listed f p hf hp)

theorem dropEvent (h : t.Traceable) {e : EventRow} (he : t.Stores e) :
    (t.dropEvent e.account e.id e.user).Traceable where
  toLegible := h.toLegible.dropEvent _ _ _
  listed := by
    intro f p hf hp
    obtain ⟨hkey, hf⟩ := stores_dropEvent.1 hf
    rw [mem_userEvents_dropEvent]
    refine ⟨h.listed f p hf hp, fun q hq => h.userEvent_ne he hq (fun heq => hkey ?_) p⟩
    rw [heq.1, heq.2]

theorem dropIndexEntry (h : t.Traceable) {account id : String} (hevent : t.event? account id = .ok none)
    (user : Pseudonym) : (t.dropIndexEntry account (some user) id).Traceable where
  toLegible := ⟨by simpa using h.account, by simpa using h.event⟩
  listed := by
    intro e p he hp
    rw [Stores, events_dropIndexEntry] at he
    rw [mem_userEvents_dropIndexEntry]
    exact ⟨h.listed e p he hp, fun q _ => (h.userEvent_ne he hp (h.not_at_of_none hevent he) q).symm⟩

theorem edit {env : Environment σ} (henv : env.Proper) (h : t.Traceable) {ids : List EventId} (hedit : t.Edit env ids u) :
    u.Traceable := by
  have hl := h.toLegible.edit henv hedit
  cases hedit with
  | enter | bind | unbind => exact h.congr hl rfl rfl
  | put => exact h.putEvent hl
  | take hevent =>
    obtain ⟨he, rfl, rfl⟩ := h.event?_eq_some_iff.1 hevent
    exact h.dropEvent he
  | move hevent =>
    obtain ⟨he, rfl, rfl⟩ := h.event?_eq_some_iff.1 hevent
    exact (h.dropEvent he).putEvent hl
  | forget hevent user => exact h.dropIndexEntry hevent user
  | discard => exact h

theorem edits {env : Environment σ} (henv : env.Proper) (h : t.Traceable) {ids : List EventId}
    (hedits : t.Edits env ids u) : u.Traceable := by
  induction hedits with
  | refl => exact h
  | step _ hedit ih => exact ih.edit henv hedit

theorem mem_userEventIds (h : t.Traceable) {e : EventRow} {p : Pseudonym} (he : t.Stores e) (hp : e.user = some p) :
    e.id ∈ t.userEventIds e.account p none := by
  obtain ⟨-, ha, hi, hu⟩ := h.row_of_stores he
  have hrange := (KeyRange.contains_userEvents_iff none e.id ha ha (hu p hp) (hu p hp)).2 ⟨rfl, rfl, rfl⟩
  exact List.mem_filterMap.2 ⟨_, List.mem_filter.2 ⟨h.listed e p he hp, hrange⟩, RowKey.leaf?_userEvent e.account p hi⟩

end Traceable

theorem Legible.takeEvent (h : t.Legible) {account id : String} {row : Option EventRow}
    (htake : t.takeEvent account id = .ok (row, u)) :
    u.Legible ∧ u.userSecrets = t.userSecrets ∧ ∀ e, u.Stores e → t.Stores e ∧ ¬(e.account = account ∧ e.id = id) := by
  rcases takeEvent_eq_ok htake with ⟨f, -, -, rfl⟩ | ⟨hevent, -, rfl⟩
  · refine ⟨h.dropEvent _ _ _, userSecrets_dropEvent .., fun e he => ?_⟩
    obtain ⟨hkey, he⟩ := stores_dropEvent.1 he
    exact ⟨he, fun heq => hkey (by rw [heq.1, heq.2])⟩
  · exact ⟨h, rfl, fun e he => ⟨he, fun heq => h.not_at_of_none hevent he ⟨heq.1.symm, heq.2.symm⟩⟩⟩

/-! ## What leaves a pseudonym without a secret -/

namespace Lacks

variable {account : String} {p : Pseudonym}

theorem congr (h : u.Lacks account p) (hevents : ∀ e, u.Stores e → t.Stores e)
    (hsecrets : u.userSecrets = t.userSecrets) : t.Lacks account p := by
  obtain ⟨hnone, e, he, hof⟩ := h
  rw [secret?, hsecrets] at hnone
  exact ⟨hnone, e, hevents e he, hof⟩

theorem of_dropEvent {a id : String} {user : Option Pseudonym} (h : (t.dropEvent a id user).Lacks account p) :
    t.Lacks account p :=
  h.congr (fun _ he => (stores_dropEvent.1 he).2) (userSecrets_dropEvent ..)

theorem of_dropIndexEntry {a id : String} {user : Option Pseudonym} (h : (t.dropIndexEntry a user id).Lacks account p) :
    t.Lacks account p := by
  refine h.congr (fun e he => ?_) (userSecrets_dropIndexEntry ..)
  rwa [Stores, events_dropIndexEntry] at he

theorem of_putEvent {e : EventRow} (h : (t.putEvent e).Lacks account p) :
    t.Lacks account p ∨ t.secret? account p = none ∧ e.account = account ∧ e.user = some p := by
  obtain ⟨hnone, f, hf, hof⟩ := h
  rw [secret?, userSecrets_putEvent] at hnone
  rcases stores_putEvent.1 hf with rfl | ⟨-, hf⟩
  · exact Or.inr ⟨hnone, hof⟩
  · exact Or.inl ⟨hnone, f, hf, hof⟩

theorem of_bindSecret {a secret : String} {user : Pseudonym} (h : (t.bindSecret a user secret).Lacks account p) :
    t.Lacks account p ∧ ¬(account = a ∧ p = user) := by
  obtain ⟨hnone, hstores⟩ := h
  have hne : RowKey.secret account p ≠ RowKey.secret a user := by
    intro heq
    rw [secret?, bindSecret, heq, OrderedMap.get?_insert_self] at hnone
    cases hnone
  rw [secret?, bindSecret, OrderedMap.get?_insert_of_ne _ hne] at hnone
  exact ⟨⟨hnone, hstores⟩, fun heq => hne (by rw [heq.1, heq.2])⟩

theorem of_dropSecret (hl : t.Legible) {a : String} (ha : NulFree a) {user : Pseudonym}
    (h : (t.dropSecret a user).Lacks account p) : t.Lacks account p ∨ account = a ∧ p = user := by
  obtain ⟨hnone, e, he, rfl, hp⟩ := h
  by_cases heq : RowKey.secret e.account p = RowKey.secret a user
  · obtain ⟨-, hae, -⟩ := hl.row_of_stores he
    exact Or.inr ((RowKey.secret_inj hae ha).1 heq)
  · rw [secret?, dropSecret, OrderedMap.get?_erase_of_ne _ heq] at hnone
    exact Or.inl ⟨hnone, e, he, rfl, hp⟩

end Lacks

/-- **What a transaction carries** from event to event: no pseudonym comes to lack a secret. -/
structure Carries (t u : Tables) : Prop where
  traceable : u.Traceable
  secrets : u.userSecrets = t.userSecrets
  lacks : ∀ account p, u.Lacks account p → t.Lacks account p

namespace Carries

theorem refl (h : t.Traceable) : t.Carries t := ⟨h, rfl, fun _ _ => id⟩

theorem trans (h : t.Carries u) (h' : u.Carries v) : t.Carries v :=
  ⟨h'.traceable, h'.secrets.trans h.secrets, fun account p hlacks => h.lacks account p (h'.lacks account p hlacks)⟩

theorem move {env : Environment σ} (henv : env.Proper) (h : t.Traceable) {account id : String} {e : EventRow}
    (hevent : t.event? account id = .ok (some e)) (next : EventId) {target : Pseudonym}
    (htarget : ∃ name salt, target = env.hash name salt) (hbound : t.secret? account target ≠ none) :
    t.Carries ((t.dropEvent account id e.user).putEvent { e with id := next.text, user := some target }) where
  traceable := h.edit henv (.move hevent next htarget)
  secrets := by simp
  lacks := by
    intro a p hlacks
    obtain ⟨-, rfl, -⟩ := h.event?_eq_some_iff.1 hevent
    rcases hlacks.of_putEvent with hlacks | ⟨hnone, rfl, hp⟩
    · exact hlacks.of_dropEvent
    · rw [secret?, userSecrets_dropEvent] at hnone
      exact absurd (Option.some.inj hp ▸ hnone) hbound

end Carries

end Tables

/-! ## Rotations and inserts -/

namespace Action

variable {env : Environment σ} {s : Session σ}

theorem moveEvent_carries (henv : env.Proper) (account : String) (source : Pseudonym) {target : Pseudonym}
    (htarget : ∃ name salt, target = env.hash name salt) (id : String) {s : Session σ} (hs : s.tables.Traceable)
    (hbound : s.tables.secret? account target ≠ none) :
    (moveEvent env account source target id).Meets s (fun _ t => s.tables.Carries t.tables) fun _ _ => True := by
  unfold moveEvent
  apply Meets.tables_bind
  refine Meets.ofExcept_bind ?_ fun _ _ => trivial
  rintro ⟨row, taken⟩ htake
  rcases Tables.takeEvent_eq_ok htake with ⟨e, hevent, rfl, rfl⟩ | ⟨hevent, rfl, rfl⟩
  · refine Meets.bind (P := fun _ t => t.tables = s.tables.dropEvent account id e.user) (Meets.change rfl) ?_
    rintro _ t ht
    refine ((nextEventId_evolves t).mono (fun _ _ h => h.2) fun _ _ _ => trivial).bind ?_
    intro next u hu
    refine Meets.bind (P := fun _ u => s.tables.Carries u.tables) (Meets.change ?_) fun _ _ h => Meets.pure h
    dsimp only
    rw [hu, ht]
    exact .move henv hs hevent next htarget hbound
  · exact ⟨hs.dropIndexEntry hevent source, Tables.userSecrets_dropIndexEntry .., fun _ _ h => h.of_dropIndexEntry⟩

theorem moveEvents_carries (henv : env.Proper) (account : String) (source : Pseudonym) {target : Pseudonym}
    (htarget : ∃ name salt, target = env.hash name salt) : ∀ (ids : List String) {s : Session σ}, s.tables.Traceable →
    s.tables.secret? account target ≠ none →
    (moveEvents env account source target ids).Meets s (fun _ t => s.tables.Carries t.tables) fun _ _ => True
  | [], _, hs, _ => Meets.pure (.refl hs)
  | id :: ids, s, hs, hbound => by
    rw [moveEvents]
    refine (moveEvent_carries henv account source htarget id hs hbound).bind fun _ t h => ?_
    have hbound' : t.tables.secret? account target ≠ none := by rwa [Tables.secret?, h.secrets]
    exact (moveEvents_carries henv account source htarget ids h.traceable hbound').bind fun _ _ h' =>
      Meets.pure (h.trans h')

/-- **Parking** leaves the pseudonym that it empties without a secret, and no other. -/
theorem park_lacks (henv : env.Proper) (hs : s.tables.Secured) {row : AccountRow} (hrow : NulFree row.account)
    (user : Pseudonym) (secret : String) :
    (park env row user secret).Meets s (fun _ t => ∀ a p, t.tables.Lacks a p → a = row.account ∧ p = user)
      fun _ _ => True := by
  unfold park
  refine (drawIdentifier_meets env s).bind ?_
  rintro _ _ ⟨rfl, rfl⟩
  dsimp only
  refine Meets.bind (P := fun _ t => t.tables = (s.tables.dropSecret row.account user).bindSecret row.account
    (env.parked s.world row.salt) secret) (Meets.change rfl) ?_
  rintro _ t ht
  apply Meets.tables_bind
  have hunbound : s.tables.Edit env [] (s.tables.dropSecret row.account user) := .unbind row.account user
  have htraceable : t.tables.Traceable :=
    ht ▸ hs.toTraceable.edits henv (hunbound.edits.step (.bind row.account (env.parked s.world row.salt) secret))
  have hbound : t.tables.secret? row.account (env.parked s.world row.salt) ≠ none := by
    rw [ht, Tables.secret?, Tables.bindSecret, OrderedMap.get?_insert_self]
    exact Option.some_ne_none secret
  refine (moveEvents_carries henv row.account user ⟨_, _, rfl⟩ _ htraceable hbound).mono ?_ fun _ _ h => h
  intro _ u hu a p hlacks
  have hstart := hu.lacks a p hlacks
  rw [ht] at hstart
  exact (hstart.of_bindSecret.1.of_dropSecret hs.toLegible hrow).resolve_left (hs.owned a p)

theorem makeRoom_lacks (henv : env.Proper) (hs : s.tables.Secured) {row : AccountRow} {account : String}
    (hname : row.account = account) (hnul : NulFree account) (user : Pseudonym) :
    (makeRoom env row account user).Meets s (fun _ t => ∀ a p, t.tables.Lacks a p → a = account ∧ p = user)
      fun _ _ => True := by
  subst hname
  unfold makeRoom
  apply Meets.tables_bind
  cases s.tables.secret? row.account user with
  | none => exact Meets.pure fun a p hlacks => absurd hlacks (hs.owned a p)
  | some old => exact Meets.map (Meets.mapError (park_lacks henv hs hnul user old))

theorem associate_owned (henv : env.Proper) (hs : s.tables.Secured) (account user secret : String) :
    (associate env account user secret).Meets s (fun _ t => t.tables.Owned) fun _ _ => True := by
  rw [associate_eq]
  by_cases huser : user = ""
  · rw [if_pos huser]
    exact Meets.throw trivial
  rw [if_neg huser]
  refine Meets.bind (P := fun _ t => t.tables.Owned) (Meets.write ?_) fun _ _ h => Meets.report h
  apply Meets.tables_bind
  refine Meets.ofExcept_bind (fun row hrow => ?_) fun _ _ => trivial
  obtain ⟨hname, hnul⟩ := hs.account_of_eq_ok hrow
  refine (makeRoom_lacks henv hs hname hnul (env.hash user row.salt)).bind fun moved t ht => ?_
  refine Meets.bind (P := fun _ t => t.tables.Owned) (Meets.change fun a p hlacks => ?_) fun _ _ h => Meets.pure h
  obtain ⟨hlacks, hother⟩ := Tables.Lacks.of_bindSecret hlacks
  exact hother (ht a p hlacks)

theorem secret?_of_author {t : Tables} {row : AccountRow} {account : String} {user : Option String} {p : Pseudonym}
    (h : author env t row account user = .ok (some p)) : t.secret? account p ≠ none := by
  cases user with
  | none => cases h
  | some user =>
    rw [author] at h
    split at h
    · next hbound =>
      cases h
      exact Option.isSome_iff_ne_none.1 hbound
    · cases h

theorem insert_owned (hs : s.tables.Owned) (user : Option String) (account payload : String) :
    (insert env user account payload).Meets s (fun _ t => t.tables.Owned) fun _ _ => True := by
  unfold insert
  apply Meets.write
  apply Meets.tables_bind
  refine Meets.ofExcept_bind (fun row _ => ?_) fun _ _ => trivial
  refine Meets.ofExcept_bind (fun author hauthor => ?_) fun _ _ => trivial
  refine ((nextEventId_evolves s).mono (fun _ _ h => h.2) fun _ _ _ => trivial).bind ?_
  intro id t ht
  refine Meets.bind (P := fun _ t => t.tables.Owned) (Meets.change fun a p hlacks => ?_) fun _ _ h => Meets.pure h
  rw [ht] at hlacks
  rcases hlacks.of_putEvent with hlacks | ⟨hnone, rfl, rfl⟩
  · exact hs a p hlacks
  · exact secret?_of_author hauthor hnone

/-! ## Purges -/

theorem deleteEvents_stores (account : String) : ∀ (ids : List String) {s : Session σ},
    s.tables.Legible → (deleteEvents account ids).Meets s
      (fun _ t => t.tables.userSecrets = s.tables.userSecrets ∧
        ∀ e, t.tables.Stores e → s.tables.Stores e ∧ ¬(e.account = account ∧ e.id ∈ ids)) fun _ _ => True
  | [], _, _ => Meets.pure ⟨rfl, fun _ he => ⟨he, fun h => by cases h.2⟩⟩
  | id :: ids, s, hs => by
    rw [deleteEvents]
    apply Meets.tables_bind
    refine Meets.ofExcept_bind ?_ fun _ _ => trivial
    rintro ⟨row, taken⟩ htake
    obtain ⟨hlegible, hsecrets, hstores⟩ := hs.takeEvent htake
    refine Meets.bind (P := fun _ t => t.tables = taken) (Meets.change rfl) ?_
    rintro _ t rfl
    refine (deleteEvents_stores account ids hlegible).bind fun count u hu => Meets.pure ?_
    refine ⟨hu.1.trans hsecrets, fun e he => ?_⟩
    obtain ⟨he, hrest⟩ := hu.2 e he
    obtain ⟨he, hfirst⟩ := hstores e he
    refine ⟨he, fun h => ?_⟩
    rcases List.mem_cons.1 h.2 with heq | hmem
    · exact hfirst ⟨h.1, heq⟩
    · exact hrest ⟨h.1, hmem⟩

theorem deletePseudonym_secures (henv : env.Proper) (hs : s.tables.Secured) {account : String} (haccount : NulFree account)
    (user : Pseudonym) :
    (deletePseudonym account user).Meets s (fun _ t => t.tables.Secured) fun _ _ => True := by
  have howned : (deletePseudonym account user).Meets s (fun _ t => t.tables.Owned) fun _ _ => True := by
    unfold deletePseudonym
    apply Meets.tables_bind
    refine (deleteEvents_stores account _ hs.toLegible).bind fun count t ht => ?_
    apply Meets.tables_bind
    refine Meets.bind (P := fun _ t => t.tables.Owned) (Meets.change fun a p hlacks => ?_) fun _ _ h => Meets.pure h
    obtain ⟨hnone, e, hleft, rfl, hp⟩ := hlacks
    obtain ⟨he, hkept⟩ := ht.2 e hleft
    have hne : ¬(e.account = account ∧ p = user) := by
      rintro ⟨rfl, rfl⟩
      exact hkept ⟨rfl, hs.mem_userEventIds he hp⟩
    obtain ⟨-, hnul, -⟩ := hs.row_of_stores he
    have hkey : RowKey.secret e.account p ≠ RowKey.secret account user := fun heq =>
      hne ((RowKey.secret_inj hnul haccount).1 heq)
    rw [Tables.secret?, Tables.dropSecret, ht.1, OrderedMap.get?_erase_of_ne _ hkey] at hnone
    exact hs.owned e.account p ⟨hnone, e, he, rfl, hp⟩
  exact ((@deletePseudonym_evolves σ env account user s).and howned).mono
    (fun _ _ h => ⟨hs.toTraceable.edits henv h.1.edits, h.2⟩) fun _ _ _ => trivial

theorem deleteUser_secures (henv : env.Proper) (user : String) : ∀ (rows : List AccountRow) {s : Session σ},
    s.tables.Secured → (∀ row ∈ rows, NulFree row.account) →
    (deleteUser env user rows).Meets s (fun _ t => t.tables.Secured) fun _ _ => True
  | [], _, hs, _ => Meets.pure hs
  | row :: rows, _, hs, hnul => by
    rw [deleteUser]
    refine (deletePseudonym_secures henv hs (hnul row List.mem_cons_self) _).bind fun _ t ht => ?_
    refine (deleteUser_secures henv user rows ht fun r hr => hnul r (List.mem_cons_of_mem _ hr)).bind ?_
    exact fun _ _ h => Meets.pure h

theorem purge_owned (henv : env.Proper) (hs : s.tables.Secured) (user : String) :
    (purge env user).Meets s (fun _ t => t.tables.Owned) fun _ _ => True := by
  unfold purge
  by_cases huser : user = ""
  · rw [if_pos huser]
    exact Meets.report hs.owned
  · rw [if_neg huser]
    refine Meets.bind (P := fun _ t => t.tables.Owned) (Meets.write ?_) fun _ _ h => Meets.report h
    apply Meets.tables_bind
    refine Meets.ofExcept_bind (fun rows hrows => ?_) fun _ _ => trivial
    refine (deleteUser_secures henv user rows hs fun row hrow => ?_).mono (fun _ _ h => h.owned) fun _ _ _ => trivial
    obtain ⟨rows', hrows', hmem⟩ := hs.allAccounts
    rw [hrows] at hrows'
    cases hrows'
    exact (hs.account_of_eq_ok ((hmem row).1 hrow)).2

/-! ## Operations -/

theorem perform_owned (henv : env.Proper) (hs : s.tables.Secured) (op : Operation) :
    (op.perform env).Meets s (fun _ t => t.tables.Owned) fun _ _ => True := by
  have hread {α : Type} (operation : String) (account : Option String) (x : Tables → Reading α) :
      (read operation account x).Meets s (fun _ t => t.tables.Owned) fun _ _ => True := by
    unfold Meets
    rw [read_eq]
    cases x s.tables s.log with
    | ok => exact hs.owned
    | error => trivial
  cases op with
  | createAccount account name =>
    have hcreate := @createAccount_provides σ env account name s
    refine (hcreate.mono ?_ fun _ _ _ => trivial).bind fun _ _ h => Meets.pure h
    rintro _ _ ⟨-, r, -, -, world, rfl⟩
    exact hs.owned
  | viewAccount | query | deletedEvents => exact Meets.map (hread _ _ _)
  | privateKey account =>
    refine Meets.map ((privateKey_meets s account).mono ?_ fun _ _ _ => trivial)
    rintro _ _ rfl
    exact hs.owned
  | associate account user secret => exact (associate_owned henv hs account user secret).bind fun _ _ h => Meets.pure h
  | insert user account payload => exact Meets.map (insert_owned hs.owned user account payload)
  | purge user => exact (purge_owned henv hs user).bind fun _ _ h => Meets.pure h
  | checkHealth => exact (hread _ _ _).bind fun _ _ h => Meets.pure h

end Action

namespace Session

variable {env : Environment σ} {s : Session σ}

theorem secured_after (henv : env.Proper) (hs : s.tables.Secured) (op : Operation) :
    (s.after env op).2.tables.Secured := by
  have htraceable := hs.toTraceable.edits henv (s.evolves_after env op).edits
  have hperform := Action.perform_owned henv hs op
  refine ⟨htraceable, ?_⟩
  cases hanswer : (s.after env op).1 with
  | error e =>
    rw [tables_of_error hanswer]
    exact hs.owned
  | ok answer =>
    unfold after at hanswer ⊢
    cases hx : op.perform env s with
    | ok a t => exact hperform.of_ok hx
    | error e t =>
      rw [hx] at hanswer
      cases hanswer

/-- **Over every life each pseudonym with events has a secret.** -/
theorem secured_life (henv : env.Proper) : ∀ (acts : List Act) {s : Session σ}, s.tables.Secured →
    (s.life env acts).tables.Secured
  | [], _, hs => hs
  | .operate op :: acts, _, hs => secured_life henv acts (secured_after henv hs op)
  | .reopen :: acts, s, hs => secured_life henv acts (s := opened s.tables s.world) hs

end Session

theorem Tables.Secured.empty : Tables.empty.Secured where
  toLegible := .empty
  listed := by
    rintro e p ⟨bytes, hrow, -⟩
    cases hrow
  owned := by
    rintro account p ⟨-, e, ⟨bytes, hrow, -⟩, -⟩
    cases hrow

end PseudonymStore
