import PseudonymStore.Proofs.Edits
import PseudonymStore.Proofs.Operation.Run
/-!
# What operations add to a session

From any session on, whatever its tables hold, an operation issues IDs that ascend and edits the tables
(`Session.Evolves`), so it keeps every account's row as it is and writes events only under the IDs that it issues
(`Tables.Grows`); one that fails leaves the tables as they were (`Session.tables_of_error`).  The IDs are told from the
session that the operation meets (`Session.issuedBy`): a rotation issues one for every event that it moves, up to the
event at which it fails.
-/
namespace PseudonymStore

variable {σ : Type}

namespace Tables

/-- What tables have become: accounts are as they were, and every event was there or bears one of some new IDs. -/
structure Grows (t : Tables) (ids : List EventId) (u : Tables) : Prop where
  account : ∀ row ∈ t.accounts.rows, row ∈ u.accounts.rows
  event : ∀ row ∈ u.events.rows, row ∈ t.events.rows ∨
    ∃ e : EventRow, ∃ id ∈ ids, e.id = id.text ∧ row = (RowKey.event e.account e.id, e.bytes)

namespace Grows

variable {t u v : Tables} {ids ids' : List EventId}

theorem refl (t : Tables) : t.Grows [] t where
  account := fun _ hrow => hrow
  event := fun _ => Or.inl

theorem mono (h : t.Grows ids u) (hids : ∀ id ∈ ids, id ∈ ids') : t.Grows ids' u where
  account := h.account
  event := by
    intro row hrow
    rcases h.event row hrow with hold | ⟨e, id, hid, he⟩
    · exact Or.inl hold
    · exact Or.inr ⟨e, id, hids id hid, he⟩

theorem trans (h : t.Grows ids u) (h' : u.Grows ids' v) : t.Grows (ids ++ ids') v where
  account := fun row hrow => h'.account row (h.account row hrow)
  event := by
    intro row hrow
    rcases h'.event row hrow with hrow | ⟨e, id, hid, he⟩
    · exact (h.mono fun _ => List.mem_append_left _).event row hrow
    · exact Or.inr ⟨e, id, List.mem_append_right _ hid, he⟩

theorem account_eq (h : t.Grows ids u) {a : String} {r : AccountRow} (hr : t.account a = .ok r) : u.account a = .ok r := by
  obtain ⟨bytes, hmem, hread⟩ := account_eq_ok_iff.1 hr
  exact account_eq_ok_iff.2 ⟨bytes, h.account _ hmem, hread⟩

theorem bindSecret (t : Tables) (account : String) (user : Pseudonym) (secret : String) :
    t.Grows [] (t.bindSecret account user secret) := ⟨(refl t).account, (refl t).event⟩

theorem dropSecret (t : Tables) (account : String) (user : Pseudonym) : t.Grows [] (t.dropSecret account user) :=
  ⟨(refl t).account, (refl t).event⟩

theorem dropIndexEntry (t : Tables) (account : String) (user : Option Pseudonym) (id : String) :
    t.Grows [] (t.dropIndexEntry account user id) := by
  cases user <;> exact ⟨(refl t).account, (refl t).event⟩

theorem putEvent (t : Tables) {e : EventRow} {id : EventId} (hid : e.id = id.text) : t.Grows [id] (t.putEvent e) where
  account := by
    rw [accounts_putEvent]
    exact fun _ hrow => hrow
  event := by
    intro row hrow
    rw [events_putEvent, OrderedMap.mem_insert] at hrow
    rcases hrow with rfl | ⟨-, hold⟩
    · exact Or.inr ⟨e, id, List.mem_singleton_self id, hid, rfl⟩
    · exact Or.inl hold

theorem dropEvent (t : Tables) (account id : String) (user : Option Pseudonym) :
    t.Grows [] (t.dropEvent account id user) where
  account := by
    rw [accounts_dropEvent]
    exact fun _ hrow => hrow
  event := by
    intro row hrow
    rw [events_dropEvent] at hrow
    exact Or.inl (OrderedMap.mem_erase.1 hrow).2

theorem putAccount (t : Tables) {r : AccountRow} (h : t.accounts.contains (RowKey.account r.account) = false) :
    t.Grows [] (t.putAccount r) where
  account := by
    intro row hrow
    refine OrderedMap.mem_insert.2 (Or.inr ⟨fun heq => ?_, hrow⟩)
    have hcontains : t.accounts.contains (RowKey.account r.account) = true :=
      OrderedMap.contains_iff.2 ⟨row.2, heq ▸ hrow⟩
    rw [h] at hcontains
    cases hcontains
  event := fun _ => Or.inl

end Grows

theorem Edit.grows {env : Environment σ} {t u : Tables} {ids : List EventId} (h : t.Edit env ids u) : t.Grows ids u := by
  cases h with
  | enter _ _ hnew => exact .putAccount t hnew
  | bind account user secret => exact .bindSecret t account user secret
  | unbind account user => exact .dropSecret t account user
  | put hid _ _ => exact .putEvent t hid
  | take _ => exact .dropEvent t _ _ _
  | move _ next _ => exact (Grows.dropEvent t _ _ _).trans (.putEvent _ rfl)
  | forget _ user => exact .dropIndexEntry t _ _ _
  | discard id => exact (Grows.refl t).mono fun _ h => by cases h

theorem Edits.grows {env : Environment σ} {t u : Tables} {ids : List EventId} (h : t.Edits env ids u) : t.Grows ids u := by
  induction h with
  | refl => exact .refl t
  | step _ hstep ih => exact ih.trans hstep.grows

end Tables

namespace Session

/-- **What a session has become** by issuing some IDs. -/
structure Evolves (env : Environment σ) (s : Session σ) (ids : List EventId) (t : Session σ) : Prop where
  last : t.lastIssued = ids.getLast?.or s.lastIssued
  ascending : env.Fits → ids.Pairwise (·.toNat < ·.toNat) ∧ ∀ id ∈ ids, s.issued ≤ id.toNat
  edits : s.tables.Edits env ids t.tables

namespace Evolves

variable {env : Environment σ} {s t u : Session σ} {ids ids' : List EventId}

theorem tables (h : s.Evolves env ids t) : s.tables.Grows ids t.tables :=
  h.edits.grows

theorem of_edits (hlast : t.lastIssued = s.lastIssued) (hedits : s.tables.Edits env [] t.tables) : s.Evolves env [] t where
  last := hlast
  ascending := fun _ => ⟨.nil, fun _ hid => by cases hid⟩
  edits := hedits

theorem refl (s : Session σ) : s.Evolves env [] s :=
  of_edits rfl .refl

theorem lt_issued (h : s.Evolves env ids t) (hfits : env.Fits) {id : EventId} (hid : id ∈ ids) :
    id.toNat < t.issued := by
  obtain ⟨first, last, rfl⟩ := (List.eq_nil_or_concat' ids).resolve_left (List.ne_nil_of_mem hid)
  have hlast := h.last
  rw [List.getLast?_concat, Option.some_or] at hlast
  rw [issued, hlast, Option.elim_some]
  rcases List.mem_append.1 hid with hid | hid
  · have hbefore := (List.pairwise_append.1 (h.ascending hfits).1).2.2 id hid last (List.mem_singleton_self last)
    omega
  · rw [List.mem_singleton.1 hid]
    exact Nat.lt_succ_self _

theorem issued_le (h : s.Evolves env ids t) (hfits : env.Fits) : s.issued ≤ t.issued := by
  cases ids with
  | nil =>
    have hlast := h.last
    rw [List.getLast?_nil, Option.none_or] at hlast
    rw [issued, issued, hlast]
  | cons id ids =>
    have hfirst := (h.ascending hfits).2 id List.mem_cons_self
    have hlt := h.lt_issued hfits (List.mem_cons_self (a := id))
    omega

theorem trans (h : s.Evolves env ids t) (h' : t.Evolves env ids' u) : s.Evolves env (ids ++ ids') u where
  last := by rw [h'.last, h.last, List.getLast?_append, Option.or_assoc]
  ascending := by
    intro hfits
    obtain ⟨hids, hfirst⟩ := h.ascending hfits
    obtain ⟨hids', hfirst'⟩ := h'.ascending hfits
    have hbefore (id : EventId) (hid : id ∈ ids) (id' : EventId) (hid' : id' ∈ ids') : id.toNat < id'.toNat :=
      Nat.lt_of_lt_of_le (h.lt_issued hfits hid) (hfirst' id' hid')
    refine ⟨List.pairwise_append.2 ⟨hids, hids', hbefore⟩, fun id hid => ?_⟩
    rcases List.mem_append.1 hid with hid | hid
    · exact hfirst id hid
    · exact Nat.le_trans (h.issued_le hfits) (hfirst' id hid)
  edits := h.edits.trans h'.edits

theorem rollback (h : s.Evolves env ids t) : s.Evolves env ids { t with tables := s.tables } where
  last := h.last
  ascending := h.ascending
  edits := .discard env s.tables ids

theorem report (h : s.Evolves env ids t) (e : Log.Event) : s.Evolves env ids { t with log := t.log ++ [e] } :=
  ⟨h.last, h.ascending, h.edits⟩

end Evolves

/-! ## The IDs of an operation -/

/-- The IDs that moving events issues: one for each that there is, up to the first that cannot be moved. -/
def movedIds (env : Environment σ) (account : String) (source target : Pseudonym) : List String → Session σ → List EventId
  | [], _ => []
  | id :: ids, s =>
    match Action.moveEvent env account source target id s with
    | .ok true t => t.lastIssued.toList ++ movedIds env account source target ids t
    | .ok false t => movedIds env account source target ids t
    | .error _ _ => []

def parkedIds (env : Environment σ) (s : Session σ) (row : AccountRow) (user : Pseudonym) (secret : String) :
    List EventId :=
  let parked := env.parked s.world row.salt
  let tables := (s.tables.dropSecret row.account user).bindSecret row.account parked secret
  movedIds env row.account user parked (tables.userEventIds row.account user none)
    { s with tables, world := (env.drawIdentifier s.world).2 }

def rotated? (env : Environment σ) (s : Session σ) (account user : String) : Option (AccountRow × String) :=
  if user = "" then none
  else
    match s.tables.account account with
    | .ok row => (s.tables.secret? account (env.hash user row.salt)).map (row, ·)
    | .error _ => none

/-- The IDs that an operation issues, in order.  What fails in an insert fails before an ID is issued. -/
def issuedBy (env : Environment σ) (s : Session σ) : Operation → List EventId
  | .insert user account payload =>
    match s.after env (.insert user account payload) with
    | (.ok (.inserted id), _) => [id]
    | _ => []
  | .associate account user _ =>
    (s.rotated? env account user).elim [] fun r => s.parkedIds env r.1 (env.hash user r.1.salt) r.2
  | _ => []

theorem issuedBy_insert (env : Environment σ) (s : Session σ) (user : Option String) (account payload : String) :
    s.issuedBy env (.insert user account payload) =
      match (s.after env (.insert user account payload)).1 with
      | .ok (.inserted id) => [id]
      | _ => [] := by
  unfold issuedBy
  dsimp only
  obtain ⟨answer, t⟩ := s.after env (.insert user account payload)
  rcases answer with e | answer
  · rfl
  · cases answer <;> rfl

end Session

/-! ## Actions -/

namespace Action

variable {env : Environment σ} {s : Session σ}

theorem nextEventId_evolves (s : Session σ) :
    (nextEventId env).Meets s (fun id t => s.Evolves env [id] t ∧ t.tables = s.tables)
      (fun _ t => s.Evolves env [] t ∧ t.tables = s.tables) := by
  refine (nextEventId_issues env s).mono ?_ ?_
  · rintro id _ ⟨hid, world, rfl⟩
    refine ⟨⟨rfl, fun hfits => ⟨List.pairwise_singleton _ _, ?_⟩, .discard env s.tables [id]⟩, rfl⟩
    simpa using hid (hfits s.world)
  · rintro _ _ ⟨world, rfl⟩
    exact ⟨.of_edits rfl .refl, rfl⟩

theorem moveEvent_evolves (account : String) (source : Pseudonym) {target : Pseudonym}
    (htarget : ∃ name salt, target = env.hash name salt) (id : String) (s : Session σ) :
    (moveEvent env account source target id).Meets s
      (fun moved t => s.Evolves env (if moved then t.lastIssued.toList else []) t) (fun _ t => s.Evolves env [] t) := by
  unfold moveEvent
  apply Meets.tables_bind
  refine Meets.ofExcept_bind ?_ fun _ _ => .refl s
  rintro ⟨row, taken⟩ htake
  rcases Tables.takeEvent_eq_ok htake with ⟨e, hevent, rfl, rfl⟩ | ⟨hevent, rfl, rfl⟩
  · have hstart : s.Evolves env [] { s with tables := s.tables.dropEvent account id e.user } :=
      .of_edits rfl (Tables.Edit.take hevent).edits
    refine Meets.bind (P := fun _ t => { s with tables := s.tables.dropEvent account id e.user } = t)
      (Meets.change rfl) ?_
    rintro _ _ rfl
    refine ((nextEventId_evolves _).mono (fun _ _ h => h) fun _ t h => hstart.trans h.1).bind ?_
    rintro next t ⟨hnext, htables⟩
    refine Meets.bind (P := fun _ u => s.Evolves env u.lastIssued.toList u) (Meets.change ?_) fun _ _ h => Meets.pure h
    have hlast : t.lastIssued.toList = [next] := by rw [hnext.last]; rfl
    show s.Evolves env t.lastIssued.toList _
    rw [hlast]
    refine ⟨hnext.last, hnext.ascending, ?_⟩
    rw [htables]
    exact (Tables.Edit.move hevent next htarget).edits
  · exact .of_edits rfl (Tables.Edit.forget hevent source).edits

theorem moveEvents_evolves (account : String) (source : Pseudonym) {target : Pseudonym}
    (htarget : ∃ name salt, target = env.hash name salt) : ∀ (ids : List String) (s : Session σ),
    (moveEvents env account source target ids).Meets s
      (fun _ t => s.Evolves env (Session.movedIds env account source target ids s) t)
      (fun _ t => s.Evolves env (Session.movedIds env account source target ids s) t)
  | [], s => Meets.pure (.refl s)
  | id :: ids, s => by
    have hmove := moveEvent_evolves account source htarget id s
    unfold Meets moveEvents Session.movedIds
    rw [bind_eq]
    cases hx : moveEvent env account source target id s with
    | error e t => exact hmove.of_error hx
    | ok moved t =>
      have hfirst := hmove.of_ok hx
      have hrest := (moveEvents_evolves account source htarget ids t).mono (fun _ _ h => hfirst.trans h)
        fun _ _ h => hfirst.trans h
      cases moved <;> exact hrest.bind fun _ _ h => Meets.pure h

theorem park_evolves (row : AccountRow) (user : Pseudonym) (secret : String) (s : Session σ) :
    (park env row user secret).Meets s (fun _ t => s.Evolves env (s.parkedIds env row user secret) t)
      (fun _ t => s.Evolves env (s.parkedIds env row user secret) t) := by
  unfold park
  refine (drawIdentifier_meets env s).bind ?_
  rintro _ _ ⟨rfl, rfl⟩
  dsimp only
  refine Meets.bind (P := fun _ t => t = { s with
      tables := (s.tables.dropSecret row.account user).bindSecret row.account (env.parked s.world row.salt) secret
      world := (env.drawIdentifier s.world).2 }) (Meets.change rfl) ?_
  rintro _ _ rfl
  apply Meets.tables_bind
  have hunbound : s.tables.Edit env [] (s.tables.dropSecret row.account user) := .unbind row.account user
  have hbound := hunbound.edits.step (.bind row.account (env.parked s.world row.salt) secret)
  have hstart : s.Evolves env [] { s with
      tables := (s.tables.dropSecret row.account user).bindSecret row.account (env.parked s.world row.salt) secret
      world := (env.drawIdentifier s.world).2 } := .of_edits rfl hbound
  exact (moveEvents_evolves row.account user ⟨_, _, rfl⟩ _ _).mono (fun _ _ h => hstart.trans h) fun _ _ h => hstart.trans h

theorem makeRoom_evolves (row : AccountRow) (account : String) (user : Pseudonym) (s : Session σ) :
    (makeRoom env row account user).Meets s
      (fun _ t => s.Evolves env ((s.tables.secret? account user).elim [] (s.parkedIds env row user)) t)
      (fun _ t => s.Evolves env ((s.tables.secret? account user).elim [] (s.parkedIds env row user)) t) := by
  unfold makeRoom
  apply Meets.tables_bind
  cases s.tables.secret? account user with
  | none => exact Meets.pure (.refl s)
  | some secret => exact Meets.map (Meets.mapError (park_evolves row user secret s))

theorem associate_evolves (account user secret : String) (s : Session σ) :
    (associate env account user secret).Meets s
      (fun _ t => s.Evolves env (s.issuedBy env (.associate account user secret)) t)
      (fun _ t => s.Evolves env (s.issuedBy env (.associate account user secret)) t ∧ t.tables = s.tables) := by
  rw [associate_eq]
  by_cases huser : user = ""
  · have hids : s.issuedBy env (.associate account user secret) = [] := by
      simp [Session.issuedBy, Session.rotated?, huser]
    rw [if_pos huser, hids]
    exact Meets.throw ⟨.refl s, rfl⟩
  rw [if_neg huser]
  refine Meets.bind (P := fun _ t => s.Evolves env (s.issuedBy env (.associate account user secret)) t) (Meets.write ?_)
    fun _ _ h => Meets.report (h.report _)
  apply Meets.tables_bind
  cases hrow : s.tables.account account with
  | error e =>
    have hids : s.issuedBy env (.associate account user secret) = [] := by
      simp [Session.issuedBy, Session.rotated?, huser, hrow]
    rw [hids]
    exact ⟨.refl s, rfl⟩
  | ok row =>
    have hids : s.issuedBy env (.associate account user secret) =
        (s.tables.secret? account (env.hash user row.salt)).elim [] (s.parkedIds env row (env.hash user row.salt)) := by
      simp only [Session.issuedBy, Session.rotated?, if_neg huser, hrow]
      cases s.tables.secret? account (env.hash user row.salt) <;> rfl
    rw [hids]
    apply Meets.ok_bind
    refine ((makeRoom_evolves row account _ s).mono (fun _ _ h => h) fun _ _ h => ⟨h.rollback, rfl⟩).bind ?_
    intro moved t ht
    refine Meets.bind (P := fun _ t => s.Evolves env _ t) (Meets.change ?_) fun _ _ h => Meets.pure h
    exact ⟨ht.last, ht.ascending, by simpa using ht.edits.step (.bind _ _ _)⟩

theorem insert_evolves (user : Option String) (account payload : String) (s : Session σ) :
    (insert env user account payload).Meets s (fun id t => s.Evolves env [id] t)
      (fun _ t => s.Evolves env [] t ∧ t.tables = s.tables) := by
  unfold insert
  apply Meets.write
  apply Meets.tables_bind
  refine Meets.ofExcept_bind (fun row hrow => ?_) fun _ _ => ⟨.refl s, rfl⟩
  refine Meets.ofExcept_bind (fun author hauthor => ?_) fun _ _ => ⟨.refl s, rfl⟩
  have huser (p : Pseudonym) (hp : author = some p) : ∃ name salt, p = env.hash name salt := by
    subst hp
    cases hgiven : given user with
    | none =>
      rw [hgiven] at hauthor
      cases hauthor
    | some u =>
      rw [hgiven, Action.author] at hauthor
      split at hauthor
      · cases hauthor
        exact ⟨u, row.salt, rfl⟩
      · cases hauthor
  refine ((nextEventId_evolves s).mono (fun _ _ h => h) fun _ _ h => ⟨h.1.rollback, rfl⟩).bind ?_
  rintro id t ⟨hid, htables⟩
  refine Meets.bind (P := fun _ t => s.Evolves env [id] t) (Meets.change ?_) fun _ _ h => Meets.pure h
  have hput : s.tables.Edit env [id] (s.tables.putEvent { id := id.text, account, user := author, payload }) :=
    .put rfl ⟨row, hrow⟩ huser
  exact ⟨hid.last, hid.ascending, htables ▸ hput.edits⟩

theorem createAccount_evolves (account name : String) (s : Session σ) :
    (createAccount env account name).Meets s (fun _ t => s.Evolves env [] t)
      (fun _ t => s.Evolves env [] t ∧ t.tables = s.tables) := by
  refine (createAccount_provides account name s).mono ?_ ?_
  · rintro _ _ ⟨hvalid, r, hr, hnew, world, rfl⟩
    obtain ⟨-, hnul⟩ := validateAccount_eq_ok_iff.1 hvalid
    exact .of_edits rfl (Tables.Edit.enter (hr.account ▸ hnul) hr.time hnew).edits
  · rintro _ _ ⟨world, rfl⟩
    exact ⟨.of_edits rfl .refl, rfl⟩

theorem deleteEvents_evolves (account : String) : ∀ (ids : List String) (s : Session σ),
    (deleteEvents account ids).Meets s (fun _ t => s.Evolves env [] t) (fun _ t => s.Evolves env [] t)
  | [], s => Meets.pure (.refl s)
  | id :: ids, s => by
    rw [deleteEvents]
    apply Meets.tables_bind
    refine Meets.ofExcept_bind ?_ fun _ _ => .refl s
    rintro ⟨row, taken⟩ htake
    have htaken : s.Evolves env [] { s with tables := taken } := .of_edits rfl (.takeEvent htake)
    refine Meets.bind (P := fun _ t => { s with tables := taken } = t) (Meets.change rfl) ?_
    rintro _ _ rfl
    refine ((deleteEvents_evolves account ids _).mono (fun _ _ h => h) fun _ _ h => htaken.trans h).bind ?_
    exact fun _ _ h => Meets.pure (htaken.trans h)

theorem deletePseudonym_evolves (account : String) (user : Pseudonym) (s : Session σ) :
    (deletePseudonym account user).Meets s (fun _ t => s.Evolves env [] t) (fun _ t => s.Evolves env [] t) := by
  unfold deletePseudonym
  apply Meets.tables_bind
  refine (deleteEvents_evolves account _ s).bind fun count t h => ?_
  apply Meets.tables_bind
  refine Meets.bind (P := fun _ u => s.Evolves env [] u) (Meets.change ?_) fun _ _ h => Meets.pure h
  exact h.trans (.of_edits rfl (Tables.Edit.unbind account user).edits)

theorem deleteUser_evolves (user : String) : ∀ (rows : List AccountRow) (s : Session σ),
    (deleteUser env user rows).Meets s (fun _ t => s.Evolves env [] t) (fun _ t => s.Evolves env [] t)
  | [], s => Meets.pure (.refl s)
  | row :: rows, s => by
    rw [deleteUser]
    refine (deletePseudonym_evolves row.account _ s).bind fun _ t h => ?_
    refine ((deleteUser_evolves user rows t).mono (fun _ _ h' => h.trans h') fun _ _ h' => h.trans h').bind ?_
    exact fun _ _ h => Meets.pure h

theorem purge_evolves (user : String) (s : Session σ) :
    (purge env user).Meets s (fun _ t => s.Evolves env [] t) (fun _ t => s.Evolves env [] t ∧ t.tables = s.tables) := by
  unfold purge
  by_cases huser : user = ""
  · rw [if_pos huser]
    exact Meets.report ((Session.Evolves.refl s).report _)
  · rw [if_neg huser]
    refine Meets.bind (P := fun _ t => s.Evolves env [] t) (Meets.write ?_) fun _ _ h => Meets.report (h.report _)
    apply Meets.tables_bind
    refine Meets.ofExcept_bind (fun rows _ => ?_) fun _ _ => ⟨.refl s, rfl⟩
    exact (deleteUser_evolves user rows s).mono (fun _ _ h => h) fun _ _ h => ⟨h.rollback, rfl⟩

theorem read_evolves {α : Type} (operation : String) (account : Option String) (x : Tables → Reading α) (s : Session σ) :
    (read operation account x).Meets s (fun _ t => s.Evolves env [] t)
      (fun _ t => s.Evolves env [] t ∧ t.tables = s.tables) := by
  unfold Meets
  rw [read_eq]
  cases x s.tables s.log with
  | ok a log => exact .of_edits rfl .refl
  | error e log => exact ⟨.of_edits rfl .refl, rfl⟩

theorem perform_evolves (op : Operation) (s : Session σ) :
    (op.perform env).Meets s (fun _ t => s.Evolves env (s.issuedBy env op) t)
      (fun _ t => s.Evolves env (s.issuedBy env op) t ∧ t.tables = s.tables) := by
  cases op with
  | createAccount account name => exact (createAccount_evolves account name s).bind fun _ _ h => Meets.pure h
  | viewAccount account withEvents since => exact Meets.map (read_evolves _ _ _ s)
  | privateKey account =>
    refine Meets.map ((privateKey_meets s account).mono ?_ ?_)
    · rintro _ _ rfl
      exact .refl s
    · rintro _ _ rfl
      exact ⟨.refl s, rfl⟩
  | associate account user secret => exact (associate_evolves account user secret s).bind fun _ _ h => Meets.pure h
  | insert user account payload =>
    have hinsert := @insert_evolves σ env user account payload s
    unfold Meets at hinsert ⊢
    rw [Operation.perform, map_eq]
    simp only [Session.issuedBy, Session.after, Operation.perform, map_eq]
    cases hx : insert env user account payload s with
    | ok id t =>
      rw [hx] at hinsert
      exact hinsert
    | error e t =>
      rw [hx] at hinsert
      exact hinsert
  | query q => exact Meets.map (read_evolves _ _ _ s)
  | deletedEvents ids user => exact Meets.map (read_evolves _ _ _ s)
  | purge user => exact (purge_evolves user s).bind fun _ _ h => Meets.pure h
  | checkHealth => exact (read_evolves _ _ _ s).bind fun _ _ h => Meets.pure h

end Action

/-! ## Operations and runs -/

namespace Session

/-- **An operation issues IDs that ascend**, keeps all accounts and writes events only under its IDs. -/
theorem evolves_after (env : Environment σ) (s : Session σ) (op : Operation) :
    s.Evolves env (s.issuedBy env op) (s.after env op).2 := by
  have hperform := @Action.perform_evolves σ env op s
  unfold after
  cases hop : op.perform env s with
  | ok answer t => exact hperform.of_ok hop
  | error e t => exact (hperform.of_error hop).1

theorem tables_of_error {env : Environment σ} {s : Session σ} {op : Operation} {e : StoreError}
    (h : (s.after env op).1 = .error e) : (s.after env op).2.tables = s.tables := by
  have hperform := @Action.perform_evolves σ env op s
  unfold after at h ⊢
  cases hop : op.perform env s with
  | ok answer t =>
    rw [hop] at h
    cases h
  | error e t => exact (hperform.of_error hop).2

def issuedAlong (env : Environment σ) (s : Session σ) (ops : List Operation) : List EventId :=
  (s.moments env ops).flatMap fun m => m.session.issuedBy env m.op

theorem evolves_run (env : Environment σ) : ∀ (ops : List Operation) (s : Session σ),
    s.Evolves env (s.issuedAlong env ops) (s.run env ops).2
  | [], s => .refl s
  | op :: ops, s => (s.evolves_after env op).trans (evolves_run env ops _)

end Session

end PseudonymStore
