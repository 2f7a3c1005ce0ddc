import PseudonymStore.Session
import PseudonymStore.Proofs.EventId
import PseudonymStore.Proofs.Instant
/-!
# Actions step by step

What an action does to a session is told by what holds when it answers and what holds when it fails (`Action.Meets`);
the parts of an action are taken one after the other (`Action.Meets.bind`).  IDs ascend: no ID is issued below
`Session.issued`, and issuing one moves it on (`Action.nextEventId_issues`).  Where no engine is named, it never fails.
-/
namespace PseudonymStore

variable {σ α β : Type}

/-- **What the store relies on**: pseudonyms hold no NUL, and the clock reads times that an event ID can tell apart. -/
structure Environment.Proper (env : Environment σ) : Prop where
  nulFree_hash : ∀ user salt, NulFree (env.hash user salt).text
  reading : ∀ world, (env.now world).1.IsReading
  fits : ∀ world, (env.now world).1.millis < EventId.millisSpan

def Environment.Fits (env : Environment σ) : Prop :=
  ∀ world, (env.now world).1.millis < EventId.millisSpan

/-- A world that stands still: its pseudonyms are the users' names without NUL, and all its bytes are one. -/
def Environment.still : Environment Unit where
  hash := fun user _ => ⟨String.ofList (user.toList.filter (· ≠ '\x00'))⟩
  encrypt := .ok
  decrypt := .ok
  draw := fun length world => (some ⟨List.replicate length 1, List.length_replicate⟩, world)
  drawIdentifier := fun world => (List.replicate 16 1, world)
  now := fun world => (⟨0, 0⟩, world)

theorem Environment.still_proper : still.Proper where
  nulFree_hash := by simp [still, NulFree]
  reading := by simp [still, Instant.IsReading]
  fits := by simp [still, Instant.millis]

/-- A world that counts what is asked of it: a draw succeeds, and the clock reads milliseconds, as told for the count. -/
def Environment.told (succeeds : Nat → Bool) (millis : Nat → Nat) : Environment Nat where
  hash := still.hash
  encrypt := .ok
  decrypt := .ok
  draw := fun length count =>
    (if succeeds count then some ⟨List.replicate length 1, List.length_replicate⟩ else none, count + 1)
  drawIdentifier := fun count => (List.replicate 16 1, count + 1)
  now := fun count => (.ofMillis (millis count) 0, count + 1)

theorem Environment.millis_told (succeeds : Nat → Bool) (millis : Nat → Nat) (count : Nat) :
    ((told succeeds millis).now count).1.millis = millis count := by
  simp only [told, Instant.ofMillis, Instant.millis]
  omega

theorem Environment.told_proper {succeeds : Nat → Bool} {millis : Nat → Nat}
    (h : ∀ count, millis count < EventId.millisSpan) : (told succeeds millis).Proper where
  nulFree_hash := still_proper.nulFree_hash
  reading := by
    intro count
    simp only [told, Instant.ofMillis, Instant.IsReading]
    omega
  fits := fun count => Environment.millis_told succeeds millis count ▸ h count

/-- The least number that is above all IDs that a session has issued. -/
def Session.issued (s : Session σ) : Nat :=
  s.lastIssued.elim 0 (·.toNat + 1)

def Session.Passed (s : Session σ) (millis : Nat) : Prop :=
  ∀ last, s.lastIssued = some last → last.millis < millis

theorem Session.passed_or (s : Session σ) (millis : Nat) :
    s.Passed millis ∨ ∃ last, s.lastIssued = some last ∧ millis ≤ last.millis := by
  unfold Passed
  cases s.lastIssued with
  | none => exact Or.inl fun last hlast => by cases hlast
  | some last =>
    rcases Nat.lt_or_ge last.millis millis with hlt | hle
    · exact Or.inl fun _ hlast => Option.some.inj hlast ▸ hlt
    · exact Or.inr ⟨last, rfl, hle⟩

namespace Action

/-- An action on a session either answers so that `done` holds, or fails so that `failed` holds. -/
def Meets (x : Action σ α) (s : Session σ) (done : α → Session σ → Prop) (failed : StoreError → Session σ → Prop) :
    Prop :=
  match x s with
  | .ok a t => done a t
  | .error e t => failed e t

theorem bind_eq (x : Action σ α) (f : α → Action σ β) (s : Session σ) :
    (x >>= f) s = match x s with
      | .ok a t => f a t
      | .error e t => .error e t := by
  show EStateM.bind x f s = _
  rw [EStateM.bind]
  cases x s <;> rfl

theorem map_eq (f : α → β) (x : Action σ α) (s : Session σ) :
    (f <$> x) s = match x s with
      | .ok a t => .ok (f a) t
      | .error e t => .error e t := by
  show EStateM.map f x s = _
  rw [EStateM.map]
  cases x s <;> rfl

theorem tables_bind (f : Tables → Action σ β) (s : Session σ) : (Action.tables >>= f) s = f s.tables s := rfl

theorem get_bind (f : Session σ → Action σ β) (s : Session σ) : (get >>= f) s = f s s := rfl

theorem ok_bind (a : α) (f : α → Action σ β) (s : Session σ) :
    ((MonadExcept.ofExcept (.ok a : Except StoreError α) : Action σ α) >>= f) s = f a s := rfl

/-! ## Where the engine never fails -/

theorem engine_eq (call : EngineCall) (s : Session σ) : (engine call : Action σ Unit) s = .ok () s := rfl

theorem transaction_eq {γ : Type} (operation : String) (account : Option String) (cell : γ)
    (x : EStateM StoreError (Session σ × γ) α) (s : Session σ) :
    transaction operation account cell x s = match x (s, cell) with
      | .ok a (t, cell) => .ok (.ok a, cell) t
      | .error e (t, cell) => .ok (.error (e.inOperation operation account), cell) { t with tables := s.tables } := by
  rw [transaction, engine_eq]
  dsimp only
  cases x (s, cell) <;> rfl

theorem write_eq (operation : String) (account : Option String) (x : Action σ α) (s : Session σ) :
    write operation account x s = match x s with
      | .ok a t => .ok a t
      | .error e t => .error (e.inOperation operation account) { t with tables := s.tables } := by
  rw [write, bind_eq, transaction_eq, beside]
  cases x s <;> rfl

theorem write_eq_ok_iff {operation : String} {account : Option String} {x : Action σ α} {s t : Session σ} {a : α} :
    write operation account x s = .ok a t ↔ x s = .ok a t := by
  rw [write_eq]
  cases x s <;> simp

theorem read_eq (operation : String) (account : Option String) (x : Tables → Reading α) (s : Session σ) :
    read operation account x s = match x s.tables s.log with
      | .ok a log => .ok a { s with log }
      | .error e log => .error (e.inOperation operation account) { s with log } := rfl

theorem openTables_eq (tables : Tables) (world : σ) :
    openTables ⟨tables, none, [], world⟩ = .ok () (.opened tables world) := rfl

/-! ## What an action meets -/

namespace Meets

variable {x : Action σ α} {s : Session σ} {done : α → Session σ → Prop} {failed : StoreError → Session σ → Prop}

theorem mono {done' : α → Session σ → Prop} {failed' : StoreError → Session σ → Prop} (h : x.Meets s done failed)
    (hdone : ∀ a t, done a t → done' a t) (hfailed : ∀ e t, failed e t → failed' e t) : x.Meets s done' failed' := by
  unfold Meets at *
  split <;> simp_all

theorem and {done' : α → Session σ → Prop} {failed' : StoreError → Session σ → Prop} (h : x.Meets s done failed)
    (h' : x.Meets s done' failed') :
    x.Meets s (fun a t => done a t ∧ done' a t) fun e t => failed e t ∧ failed' e t := by
  unfold Meets at *
  cases hx : x s <;> rw [hx] at h h' <;> exact ⟨h, h'⟩

theorem bind {f : α → Action σ β} {P : α → Session σ → Prop} {Q : β → Session σ → Prop} (h : x.Meets s P failed)
    (hf : ∀ a t, P a t → (f a).Meets t Q failed) : (x >>= f).Meets s Q failed := by
  unfold Meets at *
  rw [bind_eq]
  cases hx : x s with
  | ok a t =>
    rw [hx] at h
    exact hf a t h
  | error e t =>
    rw [hx] at h
    exact h

theorem map {f : α → β} {done' : β → Session σ → Prop} (h : x.Meets s (fun a => done' (f a)) failed) :
    (f <$> x).Meets s done' failed := by
  unfold Meets at *
  rw [map_eq]
  cases hx : x s <;> rwa [hx] at h

theorem pure {a : α} (h : done a s) : (Pure.pure a : Action σ α).Meets s done failed := h

theorem throw {e : StoreError} (h : failed e s) : (MonadExcept.throw e : Action σ α).Meets s done failed := h

theorem of_ok {a : α} {t : Session σ} (h : x.Meets s done failed) (hx : x s = .ok a t) : done a t := by
  unfold Meets at h
  rwa [hx] at h

theorem of_error {e : StoreError} {t : Session σ} (h : x.Meets s done failed) (hx : x s = .error e t) : failed e t := by
  unfold Meets at h
  rwa [hx] at h

theorem ofExcept {r : Except StoreError α} (hok : ∀ a, r = .ok a → done a s) (herror : ∀ e, r = .error e → failed e s) :
    (MonadExcept.ofExcept r : Action σ α).Meets s done failed := by
  cases r with
  | ok a => exact hok a rfl
  | error e => exact herror e rfl

theorem ok_bind {f : α → Action σ β} {Q : β → Session σ → Prop} {a : α} (h : (f a).Meets s Q failed) :
    ((MonadExcept.ofExcept (.ok a : Except StoreError α) : Action σ α) >>= f).Meets s Q failed := h

theorem ofExcept_bind {r : Except StoreError α} {f : α → Action σ β} {Q : β → Session σ → Prop}
    (hok : ∀ a, r = .ok a → (f a).Meets s Q failed) (herror : ∀ e, r = .error e → failed e s) :
    ((MonadExcept.ofExcept r : Action σ α) >>= f).Meets s Q failed := by
  cases r with
  | ok a => exact hok a rfl
  | error e => exact herror e rfl

theorem tables_bind {f : Tables → Action σ β} {Q : β → Session σ → Prop} (h : (f s.tables).Meets s Q failed) :
    (Action.tables >>= f).Meets s Q failed := h

theorem change {f : Tables → Tables} {done : Unit → Session σ → Prop} (h : done () { s with tables := f s.tables }) :
    (Action.change f : Action σ Unit).Meets s done failed := h

theorem report {e : Log.Event} {done : Unit → Session σ → Prop} (h : done () { s with log := s.log ++ [e] }) :
    (Action.report e : Action σ Unit).Meets s done failed := h

theorem mapError {f : StoreError → StoreError} (h : x.Meets s done fun e t => failed (f e) t) :
    (Action.mapError f x).Meets s done failed := by
  unfold Meets Action.mapError at *
  split <;> split at * <;> simp_all

/-- **A failed transaction leaves no trace in the tables.** -/
theorem write {operation : String} {account : Option String}
    (h : x.Meets s done fun e t => failed (e.inOperation operation account) { t with tables := s.tables }) :
    (Action.write operation account x).Meets s done failed := by
  unfold Meets at *
  rw [Action.write_eq]
  cases hx : x s <;> rwa [hx] at h

theorem read {operation : String} {account : Option String} {f : Tables → Except StoreError α}
    (hok : ∀ a, f s.tables = .ok a → done a s)
    (herror : ∀ e, f s.tables = .error e → failed (e.inOperation operation account) s) :
    (Action.read operation account fun t => MonadExcept.ofExcept (f t)).Meets s done failed := by
  unfold Meets
  rw [read_eq]
  cases hf : f s.tables with
  | ok a => exact hok a hf
  | error e => exact herror e hf

end Meets

/-! ## Draws and IDs -/

theorem now_meets (env : Environment σ) (s : Session σ) {failed : StoreError → Session σ → Prop} :
    (now env).Meets s (fun time t => time = (env.now s.world).1 ∧ t = { s with world := (env.now s.world).2 }) failed :=
  ⟨rfl, rfl⟩

theorem drawIdentifier_meets (env : Environment σ) (s : Session σ) {failed : StoreError → Session σ → Prop} :
    (drawIdentifier env).Meets s
      (fun bytes t => bytes = (env.drawIdentifier s.world).1 ∧ t = { s with world := (env.drawIdentifier s.world).2 })
      failed :=
  ⟨rfl, rfl⟩

theorem draw_eq (env : Environment σ) (length : Nat) (s : Session σ) :
    draw env length s = match (env.draw length s.world).1 with
      | some bytes => .ok bytes.val { s with world := (env.draw length s.world).2 }
      | none => .error (.randomness "error reading random bytes: ring::error::Unspecified")
          { s with world := (env.draw length s.world).2 } := by
  unfold draw
  rw [bind_eq]
  show (do
    set { s with world := (env.draw length s.world).2 }
    match (env.draw length s.world).1 with
    | some bytes => Pure.pure bytes.val
    | none => MonadExcept.throw _ : Action σ Bytes) s = _
  cases (env.draw length s.world).1 <;> rfl

theorem draw_meets (env : Environment σ) (length : Nat) (s : Session σ) :
    (draw env length).Meets s
      (fun bytes t => (env.draw length s.world).1.map (·.val) = some bytes ∧
        t = { s with world := (env.draw length s.world).2 })
      (fun e t => (∃ text, e = .randomness text) ∧ t = { s with world := (env.draw length s.world).2 }) := by
  unfold Meets
  rw [draw_eq]
  cases (env.draw length s.world).1 with
  | some bytes => exact ⟨rfl, rfl⟩
  | none => exact ⟨⟨_, rfl⟩, rfl⟩

theorem nextEventId_of_last {env : Environment σ} {s : Session σ} {last : EventId} (hlast : s.lastIssued = some last)
    (hle : (env.now s.world).1.millis ≤ last.millis) :
    nextEventId env s = match last.successor? with
      | some id => .ok id { s with lastIssued := some id, world := (env.now s.world).2 }
      | none => .error (.randomness s!"event id space exhausted for millisecond {last.millis}")
          { s with world := (env.now s.world).2 } := by
  have hnow : now env s = .ok (env.now s.world).1 { s with world := (env.now s.world).2 } := rfl
  rw [nextEventId, bind_eq, hnow]
  dsimp only
  rw [get_bind]
  dsimp only
  rw [hlast]
  dsimp only
  rw [if_pos hle]
  cases last.successor? <;> rfl

theorem nextEventId_of_passed {env : Environment σ} {s : Session σ} (h : s.Passed (env.now s.world).1.millis) :
    nextEventId env s = match (env.draw EventId.drawLength (env.now s.world).2).1 with
      | some drawn => .ok (.fresh (env.now s.world).1.millis drawn.val) { s with
          lastIssued := some (.fresh (env.now s.world).1.millis drawn.val)
          world := (env.draw EventId.drawLength (env.now s.world).2).2 }
      | none => .error (.randomness "error reading random bytes: ring::error::Unspecified")
          { s with world := (env.draw EventId.drawLength (env.now s.world).2).2 } := by
  have hnow : now env s = .ok (env.now s.world).1 { s with world := (env.now s.world).2 } := rfl
  have hdraw := draw_eq env EventId.drawLength { s with world := (env.now s.world).2 }
  dsimp only at hdraw
  rw [nextEventId, bind_eq, hnow]
  dsimp only
  rw [get_bind]
  dsimp only
  rcases hlast : s.lastIssued with _ | last <;> dsimp only
  case' some => rw [if_neg (Nat.not_le_of_lt (h last hlast))]
  all_goals
    rw [hlast] at hdraw
    rw [bind_eq, map_eq, hdraw]
    cases (env.draw EventId.drawLength (env.now s.world).2).1 <;> rfl

/-- **IDs ascend** while the clock fits them: an ID is not below what was issued before and becomes the last one; when none
can be issued, nothing but the world moves. -/
theorem nextEventId_issues (env : Environment σ) (s : Session σ) :
    (nextEventId env).Meets s
      (fun id t => ((env.now s.world).1.millis < EventId.millisSpan → s.issued ≤ id.toNat) ∧
        ∃ world, t = { s with lastIssued := some id, world })
      (fun _ t => ∃ world, t = { s with world }) := by
  unfold Meets
  rcases s.passed_or (env.now s.world).1.millis with hpassed | ⟨last, hlast, hle⟩
  · rw [nextEventId_of_passed hpassed]
    cases (env.draw EventId.drawLength (env.now s.world).2).1 with
    | none => exact ⟨_, rfl⟩
    | some drawn =>
      refine ⟨fun hfits => ?_, _, rfl⟩
      rw [Session.issued]
      cases hlast : s.lastIssued with
      | none => exact Nat.zero_le _
      | some last => exact EventId.toNat_lt_fresh drawn.val hfits (hpassed last hlast)
  · rw [nextEventId_of_last hlast hle]
    cases hnext : last.successor? with
    | none => exact ⟨_, rfl⟩
    | some id =>
      refine ⟨fun _ => Nat.le_of_eq ?_, _, rfl⟩
      rw [Session.issued, hlast, Option.elim_some, EventId.toNat_of_successor? hnext]

theorem nextEventId_meets {env : Environment σ} (henv : env.Proper) (s : Session σ) :
    (nextEventId env).Meets s
      (fun id t => s.issued ≤ id.toNat ∧ ∃ world, t = { s with lastIssued := some id, world })
      (fun _ t => ∃ world, t = { s with world }) :=
  (nextEventId_issues env s).mono (fun _ _ ⟨hid, ht⟩ => ⟨hid (henv.fits s.world), ht⟩) fun _ _ => id

end Action

end PseudonymStore
