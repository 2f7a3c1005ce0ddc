import PseudonymStore.Proofs.Key.File
import PseudonymStore.Proofs.Life
/-!
# Accounts are written once and their keys are kept

Once an account has been created, its row stays as it is over the whole life of the store, whoever tries to create it
again, and its private key can be had as long as the gateway opens what it has sealed (`Session.custody_life`).
-/
namespace PseudonymStore

variable {σ : Type}

theorem mapM_isOk {ε α β : Type} {f : α → Except ε β} : ∀ {xs : List α}, (∀ x ∈ xs, ∃ y, f x = .ok y) →
    ∃ ys, xs.mapM f = .ok ys
  | [], _ => ⟨[], rfl⟩
  | x :: xs, h => by
    obtain ⟨y, hy⟩ := h x List.mem_cons_self
    obtain ⟨ys, hys⟩ := mapM_isOk fun z hz => h z (List.mem_cons_of_mem _ hz)
    refine ⟨y :: ys, ?_⟩
    rw [List.mapM_cons, hy, hys]
    rfl

namespace Tables

theorem Grows.operatorEvents_isOk {t : Tables} {ids : List EventId} (h : empty.Grows ids t) (account : String)
    (since : Option String) : ∃ events, t.operatorEvents account since = .ok events := by
  refine mapM_isOk fun row hrow => ?_
  rcases h.event row (List.mem_of_mem_filter hrow) with hnone | ⟨e, -, -, -, rfl⟩
  · cases hnone
  · exact ⟨t.operatorView account e, by rw [EventRow.ofBytes_bytes]; rfl⟩

theorem accountView_isOk {t : Tables} {account : String} {r : AccountRow} (hr : t.account account = .ok r)
    (hevents : ∀ since, ∃ events, t.operatorEvents account since = .ok events) (withEvents : Bool)
    (since : Option String) :
    ∃ view, t.accountView account withEvents since = .ok view ∧ view.account = r.account ∧ view.name = r.name ∧
      view.publicKey = r.publicKey := by
  obtain ⟨events, hevents⟩ := hevents (given since)
  unfold accountView
  rw [hr, hevents]
  cases withEvents <;> exact ⟨_, rfl, rfl, rfl, rfl⟩

end Tables

namespace Action

variable {env : Environment σ} {s : Session σ}

theorem read_of_ok {α : Type} {operation : String} {account : Option String} {f : Tables → Except StoreError α} {a : α}
    (h : f s.tables = .ok a) : read operation account (fun t => ofExcept (f t)) s = .ok a s := by
  rw [read_eq, h]
  rfl

theorem createAccount_taken {account : String} (hvalid : validateAccount account = .ok ())
    (htaken : s.tables.accounts.contains (RowKey.account account) = true) (name : String) :
    (createAccount env account name).Meets s (fun _ _ => False) fun e _ =>
      match newAccount env account name s with
      | .ok _ _ => e = .accountExists account
      | .error e' _ => e = e' ∧ e'.OfProvision := by
  have hnew := @newAccount_provides σ env account name s
  unfold createAccount
  rw [hvalid]
  apply Meets.ok_bind
  cases hx : newAccount env account name s with
  | error e t =>
    have he := hnew.of_error hx
    unfold Meets
    rw [bind_eq, hx]
    exact ⟨rfl, he.1⟩
  | ok r t =>
    obtain ⟨hr, world, rfl⟩ := hnew.of_ok hx
    obtain rfl := hr.account
    unfold Meets
    rw [bind_eq, hx]
    refine Meets.bind (P := fun _ _ => False) (Meets.write ((addAccount_puts r _).mono ?_ ?_)) fun _ _ h => h.elim
    · rintro _ _ ⟨hfree, -⟩
      exact absurd hfree (by simp [htaken])
    · rintro _ _ ⟨-, rfl, -⟩
      rfl

/-- **The private key of an account** depends on nothing but what the gateway makes of the bytes that it has sealed. -/
theorem privateKey_eq {account : String} {r : AccountRow} {cipher : Bytes} (hr : s.tables.account account = .ok r)
    (hcipher : r.sealedKey = String.ofList (Base64.encode cipher)) :
    privateKey env account s =
      (ofExcept ((env.decrypt cipher).mapError .encryption >>= PrivateKey.ofPem) : Action σ PrivateKey) s := by
  unfold privateKey
  rw [bind_eq, read_of_ok hr]
  dsimp only
  rw [hcipher, String.toList_ofList, Base64.decode?_encode]
  dsimp only
  cases env.decrypt cipher <;> rfl

end Action

namespace Session

/-- **What an account is held to**: its row as it was first written, its name and the key that was made for it. -/
structure Custody (env : Environment σ) (account name : String) (key : PrivateKey) (cipher row : Bytes) (t : Session σ) :
    Prop where
  row : t.tables.accounts.get? (RowKey.account account) = some row
  view : ∀ withEvents since, ∃ view, (t.after env (.viewAccount account withEvents since)).1 = .ok (.account view) ∧
    view.name = name ∧ view.publicKey = key.point.pem
  privateKey : (t.after env (.privateKey account)).1 = .ok (.privateKey key)
  /-- Whatever opens them, what is opened are the bytes that have been sealed. -/
  opened : ∀ env' : Environment σ, (t.after env' (.privateKey account)).1 =
    .privateKey <$> ((env'.decrypt cipher).mapError .encryption >>= PrivateKey.ofPem)
  /-- The account is not created again: if a new key can be made at all, its name is taken. -/
  taken : ∀ name, match Action.newAccount env account name t with
    | .ok _ _ => (t.after env (.createAccount account name)).1 = .error (.accountExists account)
    | .error e _ => (t.after env (.createAccount account name)).1 = .error e ∧ e.OfProvision

theorem after_createAccount (env : Environment σ) (s : Session σ) (account name : String) :
    s.after env (.createAccount account name) = match Action.createAccount env account name s with
      | .ok _ t => (.ok .done, t)
      | .error e t => (.error e, t) := by
  unfold after
  rw [Operation.perform, Action.bind_eq]
  cases Action.createAccount env account name s <;> rfl

theorem after_viewAccount {env : Environment σ} {s : Session σ} {account : String} {withEvents : Bool}
    {since : Option String} {view : AccountView} (h : s.tables.accountView account withEvents since = .ok view) :
    s.after env (.viewAccount account withEvents since) = (.ok (.account view), s) := by
  rw [after, Operation.perform, Action.map_eq, Action.viewAccount, Action.read_of_ok h]

theorem after_privateKey (env : Environment σ) {s : Session σ} {account : String} {r : AccountRow} {cipher : Bytes}
    (hr : s.tables.account account = .ok r) (hcipher : r.sealedKey = String.ofList (Base64.encode cipher)) :
    (s.after env (.privateKey account)).1 =
      .privateKey <$> ((env.decrypt cipher).mapError .encryption >>= PrivateKey.ofPem) := by
  unfold after
  rw [Operation.perform, Action.map_eq, Action.privateKey_eq hr hcipher]
  cases (env.decrypt cipher).mapError .encryption >>= PrivateKey.ofPem <;> rfl

theorem after_createAccount_taken (env : Environment σ) {s : Session σ} {account : String}
    (hvalid : Action.validateAccount account = .ok ())
    (htaken : s.tables.accounts.contains (RowKey.account account) = true) (name : String) :
    match Action.newAccount env account name s with
    | .ok _ _ => (s.after env (.createAccount account name)).1 = .error (.accountExists account)
    | .error e _ => (s.after env (.createAccount account name)).1 = .error e ∧ e.OfProvision := by
  have hmeets := @Action.createAccount_taken σ env s account hvalid htaken name
  rw [after_createAccount]
  cases hx : Action.createAccount env account name s with
  | ok _ t => exact (hmeets.of_ok hx).elim
  | error e t =>
    have he := hmeets.of_error hx
    cases hnew : Action.newAccount env account name s with
    | ok _ _ =>
      rw [hnew] at he
      exact congrArg _ he
    | error e' _ =>
      rw [hnew] at he
      exact ⟨congrArg _ he.1, he.2⟩

theorem custody_of_mem {env : Environment σ} {account name : String} {key : PrivateKey} {cipher : Bytes} {r : AccountRow}
    {t : Session σ} (hmem : (RowKey.account account, r.bytes) ∈ t.tables.accounts.rows) (hread : r.createdAt.Readable)
    (hvalid : Action.validateAccount account = .ok ()) (hname : r.name = name) (hpublic : r.publicKey = key.point.pem)
    (hsealed : r.sealedKey = String.ofList (Base64.encode cipher)) (hopen : env.decrypt cipher = .ok (utf8 key.pem))
    (hevents : ∀ since, ∃ events, t.tables.operatorEvents account since = .ok events) :
    t.Custody env account name key cipher r.bytes := by
  have hr : t.tables.account account = .ok r :=
    Tables.account_eq_ok_iff.2 ⟨r.bytes, hmem, AccountRow.ofBytes_bytes hread⟩
  refine ⟨OrderedMap.get?_eq_some_iff.2 hmem, fun withEvents since => ?_, ?_,
    fun env' => after_privateKey env' hr hsealed,
    after_createAccount_taken env hvalid (OrderedMap.contains_iff.2 ⟨_, hmem⟩)⟩
  · obtain ⟨view, hview, -, hviewName, hviewKey⟩ := Tables.accountView_isOk hr hevents withEvents since
    exact ⟨view, congrArg Prod.fst (after_viewAccount hview), hviewName.trans hname, hviewKey.trans hpublic⟩
  · have hpem := PrivateKey.ofPem_pem key
    generalize utf8 key.pem = pem at hopen hpem
    rw [after_privateKey env hr hsealed, hopen]
    show (Answer.privateKey <$> PrivateKey.ofPem pem : Except StoreError Answer) = _
    rw [hpem]
    rfl

/-- **An account is written once and its key is kept.**  From the moment at which it has been created, its row, its name
and its key stay as they are over the whole life of the store. -/
theorem custody_life {env : Environment σ}
    (hgateway : ∀ plain cipher, env.encrypt plain = .ok cipher → env.decrypt cipher = .ok plain)
    (hclock : ∀ world, (env.now world).1.IsReading ∧ (env.now world).1.millis ≤ 2 ^ 50) (world : σ) (before : List Act)
    {account name : String}
    (hcreate : (((opened .empty world).life env before).after env (.createAccount account name)).1 = .ok .done) :
    ∃ key cipher row, Action.newKey? env ((opened .empty world).life env before).world = some key ∧
      env.encrypt (utf8 key.pem) = .ok cipher ∧ ∀ later,
        ((opened .empty world).life env (before ++ .operate (.createAccount account name) :: later)).Custody env account
          name key cipher row := by
  have hputs := @Action.createAccount_provides σ env account name ((opened .empty world).life env before)
  have hact (later : List Act) :
      (opened .empty world).life env (before ++ .operate (.createAccount account name) :: later) =
        (((opened .empty world).life env before).after env (.createAccount account name)).2.life env later := by
    rw [life_append, life_cons, act]
  rw [after_createAccount] at hcreate hact
  cases hx : Action.createAccount env account name ((opened .empty world).life env before) with
  | error e t =>
    rw [hx] at hcreate
    cases hcreate
  | ok _ t =>
    rw [hx] at hact
    obtain ⟨hvalid, r, hr, -, moved, ht⟩ := hputs.of_ok hx
    obtain ⟨key, cipher, hkey, hpublic, hencrypt, hsealed⟩ := hr.key
    obtain ⟨moment, htime⟩ := hr.time
    have hread : r.createdAt.Readable :=
      htime ▸ Instant.readable_of_reading (hclock moment).1 (hclock moment).2
    refine ⟨key, cipher, r.bytes, hkey, hencrypt, fun later => ?_⟩
    have hgrows := grows_life env (before ++ .operate (.createAccount account name) :: later) (opened .empty world)
    rw [hact] at hgrows ⊢
    have hmem : (RowKey.account account, r.bytes) ∈ t.tables.accounts.rows := by
      rw [ht, ← hr.account]
      exact OrderedMap.mem_insert.2 (Or.inl rfl)
    refine custody_of_mem ((grows_life env later t).account _ hmem) hread hvalid hr.name hpublic hsealed
      (hgateway _ _ hencrypt) ?_
    exact hgrows.operatorEvents_isOk account

theorem custody_life_still :
    ((opened .empty ()).after .still (.createAccount "a" "A")).1 = .ok .done ∧
      ∃ key cipher row, Action.newKey? .still () = some key ∧ Environment.still.encrypt (utf8 key.pem) = .ok cipher ∧
        ∀ later, ((opened .empty ()).life .still (.operate (.createAccount "a" "A") :: later)).Custody .still "a" "A" key
          cipher row := by
  have hcreate : ((opened .empty ()).after .still (.createAccount "a" "A")).1 = .ok .done := rfl
  refine ⟨hcreate, custody_life (fun plain cipher h => ?_) (fun world => ?_) () [] hcreate⟩
  · cases h
    rfl
  · have hzero : (⟨0, 0⟩ : Instant).millis ≤ 2 ^ 50 := by decide
    exact ⟨Environment.still_proper.reading world, hzero⟩

/-- **An account that is there need not be why it is not created**: where a draw fails, this is what is told. -/
theorem createAccount_again_undrawn :
    let env := Environment.told (· < 3) fun _ => 0
    let s := (opened .empty 0).after env (.createAccount "a" "A")
    (∀ plain cipher, env.encrypt plain = .ok cipher → env.decrypt cipher = .ok plain) ∧
      (∀ world, (env.now world).1.millis ≤ 2 ^ 50) ∧ s.1 = .ok .done ∧
        (s.2.after env (.createAccount "a" "B")).1 =
          .error (.randomness "error reading random bytes: ring::error::Unspecified") ∧
        (s.2.after env (.createAccount "a" "B")).1 ≠ .error (.accountExists "a") := by
  dsimp only
  have hagain : (((opened .empty 0).after (.told (· < 3) fun _ => 0) (.createAccount "a" "A")).2.after
      (.told (· < 3) fun _ => 0) (.createAccount "a" "B")).1 =
        .error (.randomness "error reading random bytes: ring::error::Unspecified") := rfl
  refine ⟨fun plain cipher h => ?_, fun world => ?_, rfl, hagain, ?_⟩
  · cases h
    rfl
  · rw [Environment.millis_told]
    exact Nat.zero_le _
  · rw [hagain]
    simp

end Session

end PseudonymStore
