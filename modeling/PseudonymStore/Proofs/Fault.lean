import PseudonymStore.Operation.Run
import PseudonymStore.Proofs.Operation.Provision
/-!
# How operations fail

A fault arises in a row or in the engine and knows nothing of the operation that met it; on its way out it is put under one
name and one account.  What an action can fail with is told by the kind of its errors (`FailsAs`), whatever the tables hold
and wherever the engine fails: every operation but a rotation lets no fault pass under another name than its own
(`Action.perform_goesUnder`).
-/
namespace PseudonymStore

variable {σ τ α β : Type}

def Operation.name : Operation → String
  | createAccount _ _ => "create_account"
  | viewAccount _ _ _ => "get_account"
  | privateKey _ => "decrypt_private_key"
  | associate _ _ _ => "associate_user_secret"
  | insert _ _ _ => "insert"
  | query _ => "query"
  | deletedEvents _ _ => "get_deleted_events"
  | purge _ => "purge"
  | checkHealth => "check_health"

def Operation.account? : Operation → Option String
  | createAccount account _ | viewAccount account _ _ | privateKey account | associate account _ _
  | insert _ account _ => some account
  | query _ | deletedEvents _ _ | purge _ | checkHealth => none

theorem Operation.name_ne_unattributed (op : Operation) : op.name ≠ StoreError.unattributed := by
  cases op <;> simp [name, StoreError.unattributed]

namespace StoreError

/-- An error is no rotation's, and if it is a fault it goes under a name and an account. -/
def GoesUnder (operation : String) (account : Option String) : StoreError → Prop
  | storage op a _ => op = operation ∧ a = account
  | migration _ _ => False
  | _ => True

/-- An error as it arises: no rotation's, and if it is a fault, one that no operation has taken on. -/
def Arises : StoreError → Prop :=
  GoesUnder unattributed none

theorem Arises.inOperation {e : StoreError} (h : e.Arises) (operation : String) (account : Option String) :
    (e.inOperation operation account).GoesUnder operation account := by
  cases e with
  | storage op a fault =>
    obtain ⟨rfl, rfl⟩ := h
    exact ⟨rfl, rfl⟩
  | migration => exact h.elim
  | _ => exact trivial

def OfLookup (account : String) (e : StoreError) : Prop :=
  e = .unknownAccount account ∨ ∃ fault, e = .ofFault fault

theorem OfProvision.goesUnder {e : StoreError} (h : e.OfProvision) (operation : String) (account : Option String) :
    e.GoesUnder operation account := by
  cases e with
  | storage | migration => exact h.elim
  | _ => exact trivial

theorem OfLookup.arises {account : String} {e : StoreError} (h : e.OfLookup account) : e.Arises := by
  rcases h with rfl | ⟨fault, rfl⟩
  · exact trivial
  · exact ⟨rfl, rfl⟩

def OfRelocation (e : StoreError) : Prop :=
  (∃ text, e = .randomness text) ∨ ∃ fault, e = .ofFault fault

end StoreError

/-! ## Kinds of errors -/

/-- An outcome is a value or an error of some kind. -/
def ErrsAs (P : StoreError → Prop) (r : Except StoreError α) : Prop :=
  ∀ e, r = .error e → P e

namespace ErrsAs

variable {P Q : StoreError → Prop} {r : Except StoreError α}

theorem ok (a : α) : ErrsAs P (.ok a) := nofun

theorem error {e : StoreError} (h : P e) : ErrsAs P (.error e : Except StoreError α) := by
  rintro _ ⟨⟩
  exact h

theorem mono (h : ErrsAs P r) (hpq : ∀ e, P e → Q e) : ErrsAs Q r :=
  fun e he => hpq e (h e he)

theorem bind {f : α → Except StoreError β} (h : ErrsAs P r) (hf : ∀ a, ErrsAs P (f a)) : ErrsAs P (r >>= f) := by
  cases r with
  | ok a => exact hf a
  | error e => exact error (h e rfl)

theorem map {f : α → β} (h : ErrsAs P r) : ErrsAs P (f <$> r) := by
  cases r with
  | ok a => exact ok (f a)
  | error e => exact error (h e rfl)

theorem mapM {f : α → Except StoreError β} (hf : ∀ a, ErrsAs P (f a)) : ∀ xs : List α, ErrsAs P (xs.mapM f)
  | [] => ok []
  | x :: xs => by
    rw [List.mapM_cons]
    exact (hf x).bind fun y => (mapM hf xs).bind fun ys => ok (y :: ys)

end ErrsAs

/-- A program, from whatever state it starts, fails with errors of some kind only. -/
def FailsAs (P : StoreError → Prop) (x : EStateM StoreError τ α) : Prop :=
  ∀ s e t, x s = .error e t → P e

namespace FailsAs

variable {P : StoreError → Prop} {x : EStateM StoreError τ α}

theorem pure (a : α) : FailsAs P (Pure.pure a : EStateM StoreError τ α) := nofun

theorem modify (f : τ → τ) : FailsAs P (modify f : EStateM StoreError τ PUnit) := nofun

theorem throw {e : StoreError} (h : P e) : FailsAs P (MonadExcept.throw e : EStateM StoreError τ α) := by
  rintro _ _ _ ⟨⟩
  exact h

theorem ofExcept {r : Except StoreError α} (h : ErrsAs P r) :
    FailsAs P (MonadExcept.ofExcept r : EStateM StoreError τ α) := by
  cases r with
  | ok a => exact pure a
  | error e => exact throw (h e rfl)

theorem bind {f : α → EStateM StoreError τ β} (h : FailsAs P x) (hf : ∀ a, FailsAs P (f a)) : FailsAs P (x >>= f) := by
  intro s e t hbind
  change (x >>= f).run s = _ at hbind
  rw [EStateM.run_bind] at hbind
  cases hx : x.run s with
  | ok a u =>
    rw [hx] at hbind
    exact hf a u e t hbind
  | error e' u =>
    rw [hx] at hbind
    cases hbind
    exact h s _ _ hx

theorem map {f : α → β} (h : FailsAs P x) : FailsAs P (f <$> x) := by
  rw [map_eq_pure_bind]
  exact h.bind fun a => pure (f a)

theorem mapM {f : α → EStateM StoreError τ β} (hf : ∀ a, FailsAs P (f a)) : ∀ xs : List α, FailsAs P (xs.mapM f)
  | [] => pure []
  | x :: xs => by
    rw [List.mapM_cons]
    exact (hf x).bind fun y => (mapM hf xs).bind fun ys => pure (y :: ys)

end FailsAs

/-! ## Tables -/

namespace Tables

open StoreError

variable (t : Tables) (account : String)

theorem errsAs_readRow {P : StoreError → Prop} (hfault : ∀ fault, P (.ofFault fault)) (reader : Json.Reader α)
    (bs : Bytes) : ErrsAs P (readRow reader bs) := by
  unfold readRow
  cases Json.readBytes reader bs with
  | ok a => exact .ok a
  | error problem => exact .error (hfault _)

theorem arises_ofFault (fault : Fault) : (ofFault fault).Arises :=
  ⟨rfl, rfl⟩

theorem errsAs_account : ErrsAs (OfLookup account) (t.account account) := by
  unfold Tables.account
  cases t.accounts.get? (RowKey.account account) with
  | some bytes => exact errsAs_readRow (fun fault => Or.inr ⟨fault, rfl⟩) AccountRow.reader bytes
  | none => exact .error (Or.inl rfl)

theorem account_arises : ErrsAs Arises (t.account account) :=
  (t.errsAs_account account).mono fun _ he => he.arises

theorem allAccounts_arises : ErrsAs Arises t.allAccounts :=
  .mapM (fun bytes => errsAs_readRow arises_ofFault AccountRow.reader bytes) _

theorem errsAs_event? {P : StoreError → Prop} (hfault : ∀ fault, P (.ofFault fault)) (id : String) :
    ErrsAs P (t.event? account id) := by
  unfold event?
  cases t.events.get? (RowKey.event account id) with
  | some bytes => exact (errsAs_readRow hfault EventRow.reader bytes).map
  | none => exact .ok none

theorem errsAs_takeEvent {P : StoreError → Prop} (hfault : ∀ fault, P (.ofFault fault)) (id : String) :
    ErrsAs P (t.takeEvent account id) := by
  have hevent := t.errsAs_event? account hfault id
  unfold takeEvent
  cases hx : t.event? account id with
  | ok row => cases row <;> exact .ok _
  | error e => exact .error (hevent e hx)

theorem operatorEvents_arises (since : Option String) : ErrsAs Arises (t.operatorEvents account since) := by
  unfold operatorEvents
  exact .mapM (fun row : Bytes × Bytes => (errsAs_readRow arises_ofFault EventRow.reader row.2).map) _

theorem operatorQuery_arises (q : EventQuery) : ErrsAs Arises (t.operatorQuery q) := by
  unfold operatorQuery
  refine .bind (.mapM (fun account => ?_) _) fun lists => .ok _
  refine (t.account_arises account).bind fun _ => ?_
  exact (t.operatorEvents_arises account _).bind fun events => .ok (account, events)

theorem accountView_arises (withEvents : Bool) (since : Option String) :
    ErrsAs Arises (t.accountView account withEvents since) := by
  unfold accountView
  refine (t.account_arises account).bind fun row => ?_
  cases withEvents with
  | false => exact .ok _
  | true => exact (t.operatorEvents_arises account _).bind fun events => .ok _

theorem remember_arises (hash : String → Pseudonym) (known : OrderedMap String Pseudonym) :
    ErrsAs Arises (t.remember hash known account) := by
  unfold remember
  cases known.get? account with
  | some user => exact .ok _
  | none => exact (t.account_arises account).bind fun row => .ok _

theorem goneKnowing_arises : ∀ (hash : Option (String → Pseudonym)) (known : OrderedMap String Pseudonym)
    (ids : List String), ErrsAs Arises (t.goneKnowing hash known ids)
  | _, _, [] => .ok []
  | hash, known, id :: ids => by
    rw [goneKnowing.eq_def]
    dsimp only
    cases t.accountOf? id with
    | none => exact (goneKnowing_arises hash known ids).map
    | some account =>
      cases hash with
      | none => exact goneKnowing_arises none known ids
      | some ask =>
        refine (t.remember_arises account ask known).bind fun user => ?_
        exact (goneKnowing_arises (some ask) user.2 ids).bind fun rest => .ok _

theorem eventsOf_arises : ∀ ids : List String, FailsAs Arises (t.eventsOf account ids)
  | [] => .pure []
  | id :: ids => by
    rw [eventsOf]
    refine .bind (.ofExcept (t.errsAs_event? account arises_ofFault id)) fun row => ?_
    cases row with
    | some row => exact .bind (eventsOf_arises ids) fun events => .pure _
    | none => exact .bind (.modify _) fun _ => eventsOf_arises ids

theorem userView_arises (hash : String → Pseudonym) (q : EventQuery) : FailsAs Arises (t.userView hash q) := by
  have haccounts : ErrsAs Arises (if q.accounts.isEmpty then t.allAccounts else q.accounts.mapM t.account) := by
    split
    · exact t.allAccounts_arises
    · exact .mapM t.account_arises _
  unfold userView
  refine .bind (.ofExcept haccounts) fun rows => .bind (.mapM (fun row => ?_) rows) fun lists => .pure _
  exact .bind (t.eventsOf_arises row.account _) fun events => .pure _

end Tables

theorem PrivateKey.errsAs_ofPem {P : StoreError → Prop} (hkey : ∀ text, P (.invalidKey text)) (bytes : Bytes) :
    ErrsAs P (ofPem bytes) := by
  unfold ofPem
  cases Utf8.firstProblem bytes with
  | some problem => exact .error (hkey _)
  | none =>
    dsimp only
    cases Pem.parse ((Utf8.decode bytes).filterMap id) with
    | error problem => exact .error (hkey _)
    | ok block =>
      dsimp only
      cases (Pkcs8.decode? block.contents).or (Sec1.decode? block.contents) with
      | some key => exact .ok key
      | none => exact .error (hkey _)

/-! ## Actions -/

namespace Action

open StoreError

variable {γ : Type} {P Q : StoreError → Prop} {operation : String} {account : Option String}

variable [Engine σ] {env : Environment σ}

theorem engine_failsAs (hfault : ∀ fault, P (.ofFault fault)) (call : EngineCall) :
    FailsAs P (engine call : Action σ Unit) := by
  intro s e t hx
  unfold engine at hx
  split at hx <;> cases hx
  exact hfault _

theorem tables_failsAs (hfault : ∀ fault, P (.ofFault fault)) : FailsAs P (tables : Action σ Tables) :=
  .bind (engine_failsAs hfault .access) fun _ => .bind (nofun : FailsAs P get) fun s => .pure s.tables

theorem change_failsAs (hfault : ∀ fault, P (.ofFault fault)) (f : Tables → Tables) :
    FailsAs P (change f : Action σ Unit) :=
  .bind (engine_failsAs hfault .access) fun _ => .modify _

theorem Meets.engine_bind {call : EngineCall} {f : Unit → Action σ α} {s : Session σ} {done : α → Session σ → Prop}
    {failed : StoreError → Session σ → Prop}
    (hdone : ∀ world, Engine.call call s.world = (none, world) → (f ()).Meets { s with world } done failed)
    (hfailed : ∀ fault world, Engine.call call s.world = (some fault, world) →
      failed (.ofFault fault) { s with world }) :
    (engine call >>= f).Meets s done failed := by
  unfold Meets
  rw [bind_eq, engine]
  rcases hcall : Engine.call call s.world with ⟨_ | fault, world⟩
  · exact hdone world hcall
  · exact hfailed fault world hcall

theorem Meets.access_bind {f : Tables → Action σ α} {s : Session σ} {done : α → Session σ → Prop}
    {failed : StoreError → Session σ → Prop}
    (hdone : ∀ world, Engine.call .access s.world = (none, world) → (f s.tables).Meets { s with world } done failed)
    (hfailed : ∀ fault world, Engine.call .access s.world = (some fault, world) →
      failed (.ofFault fault) { s with world }) :
    (Action.tables >>= f).Meets s done failed := by
  unfold Action.tables
  rw [bind_assoc]
  exact .engine_bind hdone hfailed

theorem change_eq_error {f : Tables → Tables} {s t : Session σ} {e : StoreError}
    (h : change f s = .error e t) : ∃ fault, e = .ofFault fault :=
  change_failsAs (P := fun e => ∃ fault, e = .ofFault fault) (fun fault => ⟨fault, rfl⟩) f s e t h

theorem engine_eq_error {call : EngineCall} {s t : Session σ} {e : StoreError}
    (h : engine call s = .error e t) : ∃ fault, e = .ofFault fault :=
  engine_failsAs (P := fun e => ∃ fault, e = .ofFault fault) (fun fault => ⟨fault, rfl⟩) call s e t h

def EndsAs (D : γ → Prop) (F : StoreError → γ → Prop) : Except StoreError α × γ → Prop
  | (.ok _, cell) => D cell
  | (.error e, cell) => F e cell

/-- **A transaction tells how it came out** and does not fail itself: the engine's faults at its beginning and at its end
pass under its name as what fails within. -/
theorem Meets.transaction {cell : γ} {x : EStateM StoreError (Session σ × γ) α} {s : Session σ} {D : γ → Prop}
    {F : StoreError → γ → Prop}
    (hstart : ∀ fault t, engine .start s = .error (.ofFault fault) t → F (.storage operation account fault) cell)
    (hx : ∀ t, engine .start s = .ok () t → match x (t, cell) with
      | .ok _ (_, cell) => D cell ∧ ∀ fault, F (.storage operation account fault) cell
      | .error e (_, cell) => F (e.inOperation operation account) cell) :
    (Action.transaction operation account cell x).Meets s (fun out _ => EndsAs D F out) fun _ _ => False := by
  unfold Meets Action.transaction
  rcases hbegun : engine .start s with ⟨_, t⟩ | ⟨e, t⟩
  · have hwithin := hx t hbegun
    dsimp only
    rcases hdone : x (t, cell) with ⟨a, u, left⟩ | ⟨e, u, left⟩
    · rw [hdone] at hwithin
      dsimp only
      rcases hended : engine .commit u with ⟨_, v⟩ | ⟨e, v⟩
      · exact hwithin.1
      · obtain ⟨fault, rfl⟩ := engine_eq_error hended
        exact hwithin.2 fault
    · rw [hdone] at hwithin
      exact hwithin
  · obtain ⟨fault, rfl⟩ := engine_eq_error hbegun
    exact hstart fault t hbegun

theorem write_goesUnder (operation : String) (account : Option String) {x : Action σ α} (h : FailsAs Arises x) :
    FailsAs (GoesUnder operation account) (write operation account x) := by
  have htransaction (s : Session σ) : (transaction operation account () (beside x)).Meets s
      (fun out _ => EndsAs (fun _ => True) (fun e _ => e.GoesUnder operation account) out) fun _ _ => False := by
    refine .transaction (fun fault _ _ => ⟨rfl, rfl⟩) fun t _ => ?_
    unfold beside
    dsimp only
    cases hx : x t with
    | ok a u => exact ⟨trivial, fun fault => ⟨rfl, rfl⟩⟩
    | error e u => exact (h t e u hx).inOperation operation account
  have hwrite (s : Session σ) :
      (write operation account x).Meets s (fun _ _ => True) fun e _ => e.GoesUnder operation account := by
    refine ((htransaction s).mono (fun _ _ hout => hout) fun _ _ => False.elim).bind ?_
    rintro ⟨_ | a, _⟩ t hout
    · exact .throw hout
    · exact .pure trivial
  exact fun s e t hx => (hwrite s).of_error hx

theorem read_goesUnder (operation : String) (account : Option String) {x : Tables → Reading α}
    (h : ∀ t, FailsAs Arises (x t)) : FailsAs (GoesUnder operation account) (read operation account x : Action σ α) := by
  have hengine : FailsAs Arises (do engine .start; engine .access : Action σ Unit) :=
    .bind (engine_failsAs Tables.arises_ofFault .start) fun _ => engine_failsAs Tables.arises_ofFault .access
  intro s e t hx
  unfold read at hx
  cases hs : (do engine .start; engine .access : Action σ Unit) s with
  | error e' u =>
    rw [hs] at hx
    cases hx
    exact (hengine s _ _ hs).inOperation operation account
  | ok _ u =>
    rw [hs] at hx
    dsimp only at hx
    split at hx
    · cases hx
    · next e' log hfailed =>
      cases hx
      exact (h _ _ e' log hfailed).inOperation operation account

omit [Engine σ] in
theorem nextEventId_failsAs {P : StoreError → Prop} (hrandom : ∀ text, P (.randomness text)) :
    FailsAs P (nextEventId env) := by
  intro s e t hx
  rcases s.passed_or (env.now s.world).1.millis with hpassed | ⟨last, hlast, hle⟩
  · rw [nextEventId_of_passed hpassed] at hx
    split at hx
    · cases hx
    · cases hx
      exact hrandom _
  · rw [nextEventId_of_last hlast hle] at hx
    split at hx
    · cases hx
    · cases hx
      exact hrandom _

theorem ofRelocation_ofFault (fault : Fault) : OfRelocation (.ofFault fault) :=
  Or.inr ⟨fault, rfl⟩

theorem moveEvent_failsAs (account : String) (source target : Pseudonym) (id : String) :
    FailsAs OfRelocation (moveEvent env account source target id) := by
  unfold moveEvent
  refine .bind (tables_failsAs ofRelocation_ofFault) fun t => ?_
  refine .bind (.ofExcept (t.errsAs_takeEvent account ofRelocation_ofFault id)) ?_
  rintro ⟨row, taken⟩
  cases row with
  | some row =>
    refine .bind (change_failsAs ofRelocation_ofFault _) fun _ => ?_
    refine .bind (nextEventId_failsAs fun text => Or.inl ⟨text, rfl⟩) fun next => ?_
    exact .bind (change_failsAs ofRelocation_ofFault _) fun _ => .pure true
  | none => exact .bind (.modify _) fun _ => .bind (change_failsAs ofRelocation_ofFault _) fun _ => .pure false

theorem moveEvents_failsAs (account : String) (source target : Pseudonym) : ∀ ids : List String,
    FailsAs OfRelocation (moveEvents env account source target ids)
  | [] => .pure 0
  | id :: ids => by
    rw [moveEvents]
    refine .bind (moveEvent_failsAs account source target id) fun moved => ?_
    exact .bind (moveEvents_failsAs account source target ids) fun count => .pure _

theorem park_failsAs (row : AccountRow) (user : Pseudonym) (secret : String) :
    FailsAs OfRelocation (park env row user secret) := by
  unfold park
  refine .bind (nofun : FailsAs _ (drawIdentifier env)) fun bytes => ?_
  refine .bind (change_failsAs ofRelocation_ofFault _) fun _ => ?_
  exact .bind (tables_failsAs ofRelocation_ofFault) fun t => moveEvents_failsAs row.account user _ _

theorem deleteEvents_arises (account : String) : ∀ ids : List String,
    FailsAs Arises (deleteEvents account ids : Action σ Nat)
  | [] => .pure 0
  | id :: ids => by
    rw [deleteEvents]
    refine .bind (tables_failsAs Tables.arises_ofFault) fun t => ?_
    refine .bind (.ofExcept (t.errsAs_takeEvent account Tables.arises_ofFault id)) fun r => ?_
    refine .bind (change_failsAs Tables.arises_ofFault _) fun _ => ?_
    exact .bind (deleteEvents_arises account ids) fun count => .pure _

theorem deletePseudonym_arises (account : String) (user : Pseudonym) :
    FailsAs Arises (deletePseudonym account user : Action σ (Nat × Nat)) := by
  unfold deletePseudonym
  refine .bind (tables_failsAs Tables.arises_ofFault) fun t => .bind (deleteEvents_arises account _) fun events => ?_
  refine .bind (tables_failsAs Tables.arises_ofFault) fun t => ?_
  exact .bind (change_failsAs Tables.arises_ofFault _) fun _ => .pure _

theorem deleteUser_arises (user : String) : ∀ rows : List AccountRow, FailsAs Arises (deleteUser env user rows)
  | [] => .pure (0, 0)
  | row :: rows => by
    rw [deleteUser]
    refine .bind (deletePseudonym_arises row.account _) fun counts => ?_
    exact .bind (deleteUser_arises user rows) fun more => .pure _

theorem purge_goesUnder (user : String) : FailsAs (GoesUnder "purge" none) (purge env user) := by
  unfold purge
  split
  · exact .modify _
  · refine .bind (write_goesUnder _ _ ?_) fun counts => .modify _
    refine .bind (tables_failsAs Tables.arises_ofFault) fun t => ?_
    exact .bind (.ofExcept t.allAccounts_arises) fun rows => deleteUser_arises user rows

theorem insert_goesUnder (user : Option String) (account payload : String) :
    FailsAs (GoesUnder "insert" (some account)) (insert env user account payload) := by
  have hauthor (t : Tables) (row : AccountRow) : ErrsAs Arises (author env t row account (given user)) := by
    unfold author
    split
    · exact .ok none
    · dsimp only
      split
      · exact .ok _
      · exact .error trivial
  unfold insert
  refine write_goesUnder _ _ (.bind (tables_failsAs Tables.arises_ofFault) fun t => ?_)
  refine .bind (.ofExcept (t.account_arises account)) fun row => ?_
  refine .bind (.ofExcept (hauthor t row)) fun author => .bind (nextEventId_failsAs fun _ => trivial) fun id => ?_
  exact .bind (change_failsAs Tables.arises_ofFault _) fun _ => .pure id

theorem createAccount_goesUnder (account name : String) :
    FailsAs (GoesUnder "create_account" (some account)) (createAccount env account name) := by
  have hvalid : ErrsAs (GoesUnder "create_account" (some account)) (validateAccount account) := by
    unfold validateAccount
    split
    · exact .error trivial
    · split
      · exact .error trivial
      · exact .ok ()
  have hnew : FailsAs (GoesUnder "create_account" (some account)) (newAccount env account name) := by
    intro s e t hx
    exact ((newAccount_provides account name s).of_error hx).1.goesUnder _ _
  have hadd (row : AccountRow) : FailsAs Arises (addAccount row : Action σ Unit) := by
    refine .bind (tables_failsAs Tables.arises_ofFault) fun t => ?_
    have hput : FailsAs Arises (change (·.putAccount row) : Action σ Unit) := change_failsAs Tables.arises_ofFault _
    split
    · exact .bind (.throw trivial) fun _ => hput
    · exact hput
  refine .bind (.ofExcept hvalid) fun _ => .bind hnew fun row => ?_
  exact .bind (write_goesUnder _ _ (hadd row)) fun _ => .modify _

theorem privateKey_goesUnder (account : String) :
    FailsAs (GoesUnder "decrypt_private_key" (some account)) (privateKey env account) := by
  have hopened (sealed : Bytes) : ErrsAs (GoesUnder "decrypt_private_key" (some account))
      ((env.decrypt sealed).mapError .encryption) := by
    cases env.decrypt sealed with
    | ok pem => exact .ok pem
    | error text => exact .error trivial
  refine .bind (read_goesUnder _ _ fun t => .ofExcept (t.account_arises account)) fun row => ?_
  cases Base64.decode? row.sealedKey.toList with
  | none => exact .throw trivial
  | some sealed => exact .bind (.ofExcept (hopened sealed)) fun pem => .ofExcept (PrivateKey.errsAs_ofPem (fun _ => trivial) pem)

theorem query_goesUnder (q : EventQuery) : FailsAs (GoesUnder "query" none) (query env q) := by
  refine read_goesUnder _ _ fun t => ?_
  cases given q.userId with
  | some user => exact t.userView_arises (env.hash user) q
  | none => exact .ofExcept (t.operatorQuery_arises q)

/-- **Every operation but a rotation** lets no fault pass under another name than its own. -/
theorem perform_goesUnder (op : Operation) (hop : ∀ account user secret, op ≠ .associate account user secret) :
    FailsAs (GoesUnder op.name op.account?) (op.perform env) := by
  cases op with
  | createAccount account name => exact .bind (createAccount_goesUnder account name) fun _ => .pure _
  | viewAccount account withEvents since =>
    exact (read_goesUnder _ _ fun t => .ofExcept (t.accountView_arises account withEvents since)).map
  | privateKey account => exact (privateKey_goesUnder account).map
  | associate account user secret => exact absurd rfl (hop account user secret)
  | insert user account payload => exact (insert_goesUnder user account payload).map
  | query q => exact (query_goesUnder q).map
  | deletedEvents ids user =>
    exact (read_goesUnder _ _ fun t => .ofExcept (t.goneKnowing_arises _ .empty ids)).map
  | purge user => exact .bind (purge_goesUnder user) fun _ => .pure _
  | checkHealth => exact .bind (read_goesUnder _ _ fun _ => .pure ()) fun _ => .pure _

end Action

end PseudonymStore
