import PseudonymStore.Proofs.Step
/-!
# What providing accounts does

Creating an account enters it in the ledger, or leaves the ledger as it is; opening a private key only reads.
-/
namespace PseudonymStore

def StoreError.OfProvision : StoreError → Prop
  | .randomness _ | .keyGeneration _ | .encryption _ => True
  | _ => False

namespace Action

variable {σ : Type} {env : Environment σ} {s : Session σ} {l : Ledger}

theorem validateAccount_eq_ok_iff {account : String} :
    validateAccount account = .ok () ↔ account ≠ "" ∧ NulFree account := by
  unfold validateAccount NulFree
  split
  · simp_all
  · split <;> simp_all

theorem newToken_meets (length : Nat) (s : Session σ) :
    (newToken env length).Meets s (fun _ t => t = { s with world := (env.draw (Token.drawLength length) s.world).2 })
      fun e t => e.OfProvision ∧ ∃ world, t = { s with world } := by
  refine Meets.map ((draw_meets env _ s).mono (fun _ _ ht => ht.2) ?_)
  rintro _ _ ⟨⟨_, rfl⟩, rfl⟩
  exact ⟨trivial, _, rfl⟩

theorem newKeyPair_meets (s : Session σ) :
    (newKeyPair env).Meets s
      (fun pair t => ∃ key,
        (env.draw KeyPair.drawLength s.world).1.bind (fun bytes => PrivateKey.ofNat? (Bytes.toNat bytes.val)) = some key ∧
          pair = .ofKey key ∧ ∃ world, t = { s with world })
      fun e t => e.OfProvision ∧ ∃ world, t = { s with world } := by
  unfold newKeyPair
  refine ((draw_meets env _ s).mono (fun _ _ ht => ht) ?_).bind ?_
  · rintro _ _ ⟨⟨_, rfl⟩, rfl⟩
    exact ⟨trivial, _, rfl⟩
  rintro bytes t ⟨hbytes, ht⟩
  obtain ⟨drawn, hdrawn, rfl⟩ := Option.map_eq_some_iff.1 hbytes
  unfold KeyPair.ofBytes
  cases hkey : PrivateKey.ofNat? (Bytes.toNat drawn.val) with
  | some key => exact ⟨key, by rw [hdrawn]; exact hkey, rfl, _, ht⟩
  | none => exact ⟨trivial, _, ht⟩

/-- The key of a new account: of the bytes that are drawn after those of the salt. -/
def newKey? (env : Environment σ) (world : σ) : Option PrivateKey :=
  (env.draw KeyPair.drawLength (env.draw (Token.drawLength Token.saltLength) world).2).1.bind fun bytes =>
    PrivateKey.ofNat? (Bytes.toNat bytes.val)

/-- **The row of a new account** has a time of the clock and a key pair whose private key the gateway has sealed. -/
structure Provides (env : Environment σ) (account name : String) (world : σ) (r : AccountRow) : Prop where
  account : r.account = account
  name : r.name = name
  time : ∃ world, r.createdAt = (env.now world).1
  key : ∃ key sealed, newKey? env world = some key ∧ r.publicKey = key.point.pem ∧
    env.encrypt (utf8 key.pem) = .ok sealed ∧ r.sealedKey = String.ofList (Base64.encode sealed)

theorem newAccount_provides (account name : String) (s : Session σ) :
    (newAccount env account name).Meets s
      (fun r t => Provides env account name s.world r ∧ ∃ world, t = { s with world })
      fun e t => e.OfProvision ∧ ∃ world, t = { s with world } := by
  unfold newAccount
  refine (newToken_meets _ s).bind ?_
  rintro salt _ rfl
  refine (newKeyPair_meets _).bind ?_
  rintro _ _ ⟨key, hkey, rfl, world, rfl⟩
  have hpem : (KeyPair.ofKey key).privatePem = key.pem := rfl
  rw [hpem]
  cases hsealed : env.encrypt (utf8 key.pem) with
  | error e => exact ⟨trivial, _, rfl⟩
  | ok cipher =>
    apply Meets.ok_bind
    refine (now_meets env _).bind ?_
    rintro time _ ⟨rfl, rfl⟩
    exact Meets.pure ⟨⟨rfl, rfl, ⟨_, rfl⟩, key, cipher, hkey, rfl, hsealed, rfl⟩, _, rfl⟩

theorem addAccount_puts (row : AccountRow) (s : Session σ) :
    (addAccount row).Meets s
      (fun _ t => s.tables.accounts.contains (RowKey.account row.account) = false ∧
        t = { s with tables := s.tables.putAccount row })
      fun e t => s.tables.accounts.contains (RowKey.account row.account) = true ∧ e = .accountExists row.account ∧ t = s := by
  unfold addAccount
  apply Meets.tables_bind
  by_cases hcontains : s.tables.accounts.contains (RowKey.account row.account) = true
  · rw [if_pos hcontains]
    exact Meets.throw ⟨hcontains, rfl, rfl⟩
  · rw [if_neg hcontains]
    exact Meets.change ⟨Bool.not_eq_true _ ▸ hcontains, rfl⟩

theorem createAccount_provides (account name : String) (s : Session σ) :
    (createAccount env account name).Meets s
      (fun _ t => validateAccount account = .ok () ∧ ∃ r, Provides env account name s.world r ∧
        s.tables.accounts.contains (RowKey.account r.account) = false ∧
          ∃ world, t = { s with tables := s.tables.putAccount r, log := s.log ++ [.accountCreated account], world })
      fun _ t => ∃ world, t = { s with world } := by
  unfold createAccount
  refine Meets.ofExcept_bind (fun _ hvalid => ?_) fun _ _ => ⟨_, rfl⟩
  refine ((newAccount_provides account name s).mono (fun _ _ h => h) fun _ _ ht => ht.2).bind ?_
  rintro r _ ⟨hr, world, rfl⟩
  refine (Meets.write ((addAccount_puts r _).mono (fun _ _ h => h) ?_)).bind ?_
  · rintro _ _ ⟨-, -, rfl⟩
    exact ⟨_, rfl⟩
  · rintro _ _ ⟨hnew, rfl⟩
    exact Meets.report ⟨hvalid, r, hr, hnew, _, rfl⟩

theorem createAccount_meets (henv : env.Proper) (h : s.Keeps l) (account name : String) :
    (createAccount env account name).Meets s
      (fun _ t => ∃ l', l.Step env s.world (.createAccount account name) (.ok .done) l' ∧ t.Keeps l')
      (fun _ t => t.Idles l) := by
  refine (createAccount_provides account name s).mono ?_ ?_
  · rintro _ _ ⟨hvalid, r, hr, hfree, world, rfl⟩
    obtain ⟨hname, hnul⟩ := validateAccount_eq_ok_iff.1 hvalid
    obtain ⟨moment, htime⟩ := hr.time
    have hread : r.createdAt.Readable :=
      htime ▸ Instant.readable_of_reading (henv.reading moment) (Nat.le_of_lt (Nat.lt_trans (henv.fits moment) (by decide)))
    have hnew : l.accounts.get? r.account = none := by
      rwa [← Bool.not_eq_true, h.tables.contains_account, Bool.not_eq_true, Option.isSome_eq_false_iff,
        Option.isNone_iff_eq_none] at hfree
    rw [← hr.account] at hname hnul
    have hput : ({ s with tables := s.tables.putAccount r } : Session σ).Keeps (l.enter r) :=
      ⟨⟨h.tables.putAccount r, h.sound.enter hname hnul hread hnew, h.issued, h.quiet⟩, h.owned⟩
    have hmoved := hput.turn world
    exact ⟨_, .create hr.account (hr.account ▸ hnew), hmoved.toHolds.report (by simp [Log.Event.level]), hmoved.owned⟩
  · rintro _ _ ⟨world, rfl⟩
    exact (h.turn world).idles

theorem privateKey_meets (s : Session σ) (account : String) :
    (privateKey env account).Meets s (fun _ t => s = t) fun _ t => s = t := by
  unfold privateKey
  refine Meets.bind (P := fun _ t => s = t) (Meets.read (fun _ _ => rfl) fun _ _ => rfl) ?_
  rintro row _ rfl
  cases Base64.decode? row.sealedKey.toList with
  | none => exact Meets.throw rfl
  | some sealed =>
    refine Meets.ofExcept_bind (fun pem _ => ?_) fun _ _ => rfl
    exact Meets.ofExcept (fun _ _ => rfl) fun _ _ => rfl

end Action

end PseudonymStore
