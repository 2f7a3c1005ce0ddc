import PseudonymStore.Proofs.Fault
import PseudonymStore.Proofs.Rollback
/-!
# Errors name the operation that they come from

A rotation's error is the answer of every call that fails after it has found a secret bound, and of nothing else; under it
lies what failed, and the relocation's name if that did (`Session.attributes`).  A call that finds one may fail later than
in the relocation: where the secret is bound, and where the transaction is committed.
-/
namespace PseudonymStore

variable {σ : Type}

/-- The world after calls of the engine, if none of them fails. -/
def Engine.world? [Engine σ] : List EngineCall → σ → Option σ
  | [], world => some world
  | call :: calls, world =>
    match Engine.call call world with
    | (none, world) => world? calls world
    | (some _, _) => none

namespace Session

variable [Engine σ]

/-- What moving the old owner's history comes to, where a call finds a secret bound.  By then the engine has been called
for the beginning of the transaction and for the two tables that the secret is found with. -/
def relocation? (env : Environment σ) (s : Session σ) (account user : String) :
    Option (EStateM.Result StoreError (Session σ) Nat) := do
  let (row, old) ← s.rotated? env account user
  let world ← Engine.world? [.start, .access, .access] s.world
  return Action.park env row (env.hash user row.salt) old { s with world }

/-- A call finds a secret bound to the user's pseudonym: there is one, and the engine does not fail before it is read. -/
def Finds (env : Environment σ) (s : Session σ) (op : Operation) : Prop :=
  s.Rotates env op ∧ (Engine.world? [.start, .access, .access] s.world).isSome = true

def RelocationFails (env : Environment σ) (s : Session σ) (op : Operation) (e : StoreError) : Prop :=
  ∃ account user secret t, op = .associate account user secret ∧ s.relocation? env account user = some (.error e t)

inductive AssociationFails (env : Environment σ) (s : Session σ) (account user : String) : StoreError → Prop where
  | nobody (huser : user = "") : AssociationFails env s account user (.invalidInput "user id must not be empty")
  | unknown (huser : user ≠ "") (hnone : s.relocation? env account user = none) :
    AssociationFails env s account user (.unknownAccount account)
  | unrotated (huser : user ≠ "") (hnone : s.relocation? env account user = none) (fault : Fault) :
    AssociationFails env s account user (.storage "associate_user_secret" (some account) fault)
  | unmoved {e : StoreError} {t : Session σ} (hmove : s.relocation? env account user = some (.error e t)) :
    AssociationFails env s account user (.migration account (e.inOperation "migrate_user_events" (some account)))
  | unbound {count : Nat} {t : Session σ} (hmove : s.relocation? env account user = some (.ok count t)) (fault : Fault) :
    AssociationFails env s account user (.migration account (.storage "associate_user_secret" (some account) fault))

theorem holder_meets (env : Environment σ) (s : Session σ) (account : String) {user : String} (huser : user ≠ "") :
    (do Action.engine .start; Action.holder env account user).Meets s
      (fun found t => s.relocation? env account user = found.2.2.map fun old => Action.park env found.1 found.2.1 old t)
      fun e _ => s.relocation? env account user = none ∧ e.OfLookup account := by
  have hunserved (hworld : Engine.world? [.start, .access, .access] s.world = none) :
      s.relocation? env account user = none := by
    simp [relocation?, hworld]
  refine .engine_bind (fun world hstart => ?_) fun fault world hstart => ?_
  · refine .access_bind (fun world haccounts => ?_) fun fault world haccounts => ?_
    · refine .ofExcept_bind (fun row hrow => ?_) fun e he => ?_
      · refine .access_bind (fun world hsecrets => ?_) fun fault world hsecrets => ?_
        · refine .pure ?_
          simp only [relocation?, rotated?, if_neg huser, hrow, Engine.world?, hstart, haccounts, hsecrets]
          cases s.tables.secret? account (env.hash user row.salt) <;> rfl
        · exact ⟨hunserved (by simp only [Engine.world?, hstart, haccounts, hsecrets]), Or.inr ⟨fault, rfl⟩⟩
      · exact ⟨by simp [relocation?, rotated?, he], s.tables.errsAs_account account e he⟩
    · exact ⟨hunserved (by simp only [Engine.world?, hstart, haccounts]), Or.inr ⟨fault, rfl⟩⟩
  · exact ⟨hunserved (by simp only [Engine.world?, hstart]), Or.inr ⟨fault, rfl⟩⟩

/-- **What comes of the transaction** of a call: what fails in it, and what is left in the cell. -/
theorem rebinding_meets (env : Environment σ) (s : Session σ) (account : String) {user : String} (huser : user ≠ "")
    (secret : String) :
    (Action.transaction "associate_user_secret" (some account) false (Action.rebind env account user secret)).Meets s
      (fun out _ => Action.EndsAs (fun _ => ∀ e t, s.relocation? env account user ≠ some (.error e t))
        (fun e rotating => AssociationFails env s account user (if rotating then e.asMigration account else e)) out)
      fun _ _ => False := by
  have hlookup := holder_meets env s account huser
  unfold Action.Meets at hlookup
  rw [Action.bind_eq] at hlookup
  refine .transaction (fun fault t hstart => ?_) fun t hstart => ?_
  · rw [hstart] at hlookup
    exact .unrotated huser hlookup.1 fault
  rw [hstart] at hlookup
  dsimp only at hlookup
  rw [Action.rebind_eq]
  rcases hfound : Action.holder env account user t with ⟨⟨row, pseudonym, _ | stale⟩, u⟩ | ⟨e, u⟩ <;>
    rw [hfound] at hlookup <;> dsimp only at hlookup ⊢
  · have hnone : s.relocation? env account user = none := hlookup
    rcases hbound : (Action.change (·.bindSecret account pseudonym secret) : Action σ Unit) u with ⟨_, v⟩ | ⟨e, v⟩
    · exact ⟨fun e t h => by simp [hnone] at h, fun fault => .unrotated huser hnone fault⟩
    · obtain ⟨fault, rfl⟩ := Action.change_eq_error hbound
      exact .unrotated huser hnone fault
  · -- The cell is set from here on, so what fails now is wrapped, be it the relocation or what comes after it.
    have hmove : s.relocation? env account user = some (Action.park env row pseudonym stale u) := hlookup
    rcases hpark : Action.park env row pseudonym stale u with ⟨count, v⟩ | ⟨e, v⟩ <;> rw [hpark] at hmove
    · dsimp only
      rcases hbound : (Action.change (·.bindSecret account pseudonym secret) : Action σ Unit) v with ⟨_, w⟩ | ⟨e, w⟩
      · exact ⟨fun e t h => by simp [hmove] at h, fun fault => .unbound hmove fault⟩
      · obtain ⟨fault, rfl⟩ := Action.change_eq_error hbound
        exact .unbound hmove fault
    · have hunmoved := AssociationFails.unmoved hmove
      rcases Action.park_failsAs row pseudonym stale u e v hpark with ⟨text, rfl⟩ | ⟨fault, rfl⟩ <;> exact hunmoved
  · obtain ⟨hnone, rfl | ⟨fault, rfl⟩⟩ := hlookup
    · exact .unknown huser hnone
    · exact .unrotated huser hnone fault

theorem associate_fails (env : Environment σ) (s : Session σ) (account user secret : String) :
    (Action.associate env account user secret).Meets s
      (fun _ _ => user ≠ "" ∧ ∀ e t, s.relocation? env account user ≠ some (.error e t))
      fun e _ => AssociationFails env s account user e := by
  unfold Action.associate
  by_cases huser : user = ""
  · rw [if_pos huser]
    exact .throw (.nobody huser)
  rw [if_neg huser]
  refine ((rebinding_meets env s account huser secret).mono (fun _ _ hout => hout) fun _ _ => False.elim).bind ?_
  rintro ⟨out, rotating⟩ t hout
  refine .ofExcept_bind (fun moved hmoved => .report ⟨huser, ?_⟩) fun e he => ?_
  · cases out with
    | ok a => exact hout
    | error e => cases hmoved
  · cases out with
    | ok a => cases he
    | error e =>
      cases he
      exact hout

/-- **What the errors of an operation tell** of it, whatever the tables hold and wherever the engine fails. -/
structure Attributes (env : Environment σ) (s : Session σ) (op : Operation) : Prop where
  fault : ∀ operation account fault, (s.after env op).1 = .error (.storage operation account fault) →
    operation = op.name ∧ operation ≠ StoreError.unattributed ∧ account = op.account?
  /-- An error is a rotation's just when the operation fails after it has found a secret bound. -/
  rotation_iff : (∃ account source, (s.after env op).1 = .error (.migration account source)) ↔
    s.Finds env op ∧ ∃ e, (s.after env op).1 = .error e
  source : ∀ account source, (s.after env op).1 = .error (.migration account source) →
    op.account? = some account ∧ ∀ inner deeper, source ≠ .migration inner deeper
  /-- A failed relocation is what the caller is told, with a fault under the relocation's name. -/
  relocation : ∀ e, s.RelocationFails env op e → ∃ account, op.account? = some account ∧
    (s.after env op).1 = .error (.migration account (e.inOperation "migrate_user_events" (some account)))
  /-- A fault under a rotation's error names the account, and the relocation just when that failed. -/
  sourceFault : ∀ account operation inner fault,
    (s.after env op).1 = .error (.migration account (.storage operation inner fault)) → inner = some account ∧
      ((∃ e, s.RelocationFails env op e) ∧ operation = "migrate_user_events" ∨
        (¬∃ e, s.RelocationFails env op e) ∧ operation = op.name)
  nobody_iff : ∀ account user secret, op = .associate account user secret →
    ((∃ text, (s.after env op).1 = .error (.invalidInput text)) ↔ user = "")
  /-- Where no secret is found, all that can go wrong is the look-up of the account and the operation's own faults. -/
  unrotated : ∀ account user secret e, op = .associate account user secret → user ≠ "" → ¬ s.Finds env op →
    (s.after env op).1 = .error e →
    e = .unknownAccount account ∨ ∃ fault, e = .storage "associate_user_secret" (some account) fault

theorem error_of_after {env : Environment σ} {s : Session σ} {op : Operation} {e : StoreError}
    (h : (s.after env op).1 = .error e) : ∃ t, op.perform env s = .error e t := by
  unfold after at h
  cases hx : op.perform env s with
  | ok answer t =>
    rw [hx] at h
    cases h
  | error e' t =>
    rw [hx] at h
    cases h
    exact ⟨t, rfl⟩

theorem perform_associate_meets (env : Environment σ) (s : Session σ) (account user secret : String) :
    ((Operation.associate account user secret).perform env).Meets s
      (fun _ _ => ∀ e t, s.relocation? env account user ≠ some (.error e t))
      fun e _ => AssociationFails env s account user e :=
  (associate_fails env s account user secret).bind fun _ _ hdone => .pure hdone.2

theorem associationFails_of_after {env : Environment σ} {s : Session σ} {account user secret : String} {e : StoreError}
    (h : (s.after env (.associate account user secret)).1 = .error e) : AssociationFails env s account user e := by
  obtain ⟨t, ht⟩ := error_of_after h
  exact (perform_associate_meets env s account user secret).of_error ht

theorem after_associate_of_unmoved {env : Environment σ} {s t : Session σ} {account user : String} {e : StoreError}
    (h : s.relocation? env account user = some (.error e t)) (secret : String) :
    (s.after env (.associate account user secret)).1 =
      .error (.migration account (e.inOperation "migrate_user_events" (some account))) := by
  have hmeets := perform_associate_meets env s account user secret
  unfold after
  cases hx : (Operation.associate account user secret).perform env s with
  | ok answer u => exact absurd h (hmeets.of_ok hx e t)
  | error e' u =>
    cases hmeets.of_error hx with
    | nobody huser => simp [relocation?, rotated?, huser] at h
    | unknown _ hnone | unrotated _ hnone =>
      rw [hnone] at h
      cases h
    | unmoved hmove | unbound hmove =>
      rw [hmove] at h
      cases h <;> rfl

theorem ofRelocation_of_relocation? {env : Environment σ} {s t : Session σ} {account user : String} {e : StoreError}
    (h : s.relocation? env account user = some (.error e t)) : e.OfRelocation := by
  unfold relocation? at h
  cases hfound : s.rotated? env account user with
  | none => simp [hfound] at h
  | some found =>
    cases hworld : Engine.world? [.start, .access, .access] s.world with
    | none => simp [hfound, hworld] at h
    | some world =>
      simp only [hfound, hworld] at h
      exact Action.park_failsAs _ _ _ _ e t (Option.some.inj h)

theorem finds_associate_iff {env : Environment σ} {s : Session σ} {account user secret : String} :
    s.Finds env (.associate account user secret) ↔ (s.relocation? env account user).isSome = true := by
  have hrotates : s.Rotates env (.associate account user secret) ↔ (s.rotated? env account user).isSome = true := by
    constructor
    · rintro ⟨_, _, _, hop, hsome⟩
      cases hop
      exact hsome
    · exact fun hsome => ⟨account, user, secret, rfl, hsome⟩
  rw [Finds, hrotates, relocation?]
  cases s.rotated? env account user <;> cases Engine.world? [.start, .access, .access] s.world <;> simp

theorem relocationFails_associate_iff {env : Environment σ} {s : Session σ} {account user secret : String}
    {e : StoreError} : s.RelocationFails env (.associate account user secret) e ↔
      ∃ t, s.relocation? env account user = some (.error e t) := by
  constructor
  · rintro ⟨_, _, _, t, hop, hmove⟩
    cases hop
    exact ⟨t, hmove⟩
  · exact fun ⟨t, hmove⟩ => ⟨account, user, secret, t, rfl, hmove⟩

theorem after_associate_nobody (env : Environment σ) (s : Session σ) (account secret : String) :
    (s.after env (.associate account "" secret)).1 = .error (.invalidInput "user id must not be empty") := rfl

theorem attributes_of_goesUnder {env : Environment σ} {s : Session σ} {op : Operation}
    (hop : ∀ account user secret, op ≠ .associate account user secret) : s.Attributes env op where
  fault := by
    intro operation account fault h
    obtain ⟨t, ht⟩ := error_of_after h
    obtain ⟨hname, haccount⟩ := Action.perform_goesUnder op hop s _ t ht
    exact ⟨hname, hname ▸ op.name_ne_unattributed, haccount⟩
  rotation_iff := by
    constructor
    · rintro ⟨account, source, h⟩
      obtain ⟨t, ht⟩ := error_of_after h
      exact (Action.perform_goesUnder op hop s _ t ht).elim
    · rintro ⟨⟨⟨account, user, secret, rfl, -⟩, -⟩, -⟩
      exact absurd rfl (hop account user secret)
  source := by
    intro account source h
    obtain ⟨t, ht⟩ := error_of_after h
    exact (Action.perform_goesUnder op hop s _ t ht).elim
  relocation := by
    rintro e ⟨account, user, secret, t, rfl, -⟩
    exact absurd rfl (hop account user secret)
  sourceFault := by
    intro account operation inner fault h
    obtain ⟨t, ht⟩ := error_of_after h
    exact (Action.perform_goesUnder op hop s _ t ht).elim
  nobody_iff := fun account user secret h => absurd h (hop account user secret)
  unrotated := fun account user secret _ h => absurd h (hop account user secret)

theorem attributes_associate (env : Environment σ) (s : Session σ) (account user secret : String) :
    s.Attributes env (.associate account user secret) where
  fault := by
    intro operation inner fault h
    cases associationFails_of_after h
    exact ⟨rfl, Operation.name_ne_unattributed (.associate account user secret), rfl⟩
  rotation_iff := by
    rw [finds_associate_iff]
    constructor
    · rintro ⟨inner, source, h⟩
      cases associationFails_of_after h with
      | unmoved hmove | unbound hmove => exact ⟨by rw [hmove]; rfl, _, h⟩
    · rintro ⟨hsome, e, h⟩
      cases associationFails_of_after h with
      | nobody huser => simp [relocation?, rotated?, huser] at hsome
      | unknown huser hnone | unrotated huser hnone =>
        rw [hnone] at hsome
        cases hsome
      | unmoved | unbound => exact ⟨_, _, h⟩
  source := by
    intro inner source h
    cases associationFails_of_after h with
    | unmoved hmove =>
      refine ⟨rfl, fun _ _ hsource => ?_⟩
      rcases ofRelocation_of_relocation? hmove with ⟨text, rfl⟩ | ⟨fault, rfl⟩ <;> cases hsource
    | unbound => exact ⟨rfl, fun _ _ hsource => by cases hsource⟩
  relocation := by
    intro e h
    obtain ⟨t, hmove⟩ := relocationFails_associate_iff.1 h
    exact ⟨account, rfl, after_associate_of_unmoved hmove secret⟩
  sourceFault := by
    intro outer operation inner fault h
    simp only [relocationFails_associate_iff]
    generalize hsource : StoreError.storage operation inner fault = source at h
    cases associationFails_of_after h with
    | unmoved hmove =>
      rcases ofRelocation_of_relocation? hmove with ⟨text, rfl⟩ | ⟨fault', rfl⟩ <;> cases hsource
      exact ⟨rfl, Or.inl ⟨⟨_, _, hmove⟩, rfl⟩⟩
    | unbound hmove =>
      cases hsource
      refine ⟨rfl, Or.inr ⟨?_, rfl⟩⟩
      rintro ⟨e, t, hfailed⟩
      rw [hmove] at hfailed
      cases hfailed
  nobody_iff := by
    rintro _ _ _ ⟨⟩
    constructor
    · rintro ⟨text, h⟩
      cases associationFails_of_after h with
      | nobody huser => exact huser
    · rintro rfl
      exact ⟨_, after_associate_nobody env s account secret⟩
  unrotated := by
    rintro _ _ _ e ⟨⟩ huser hfinds h
    rw [finds_associate_iff] at hfinds
    cases associationFails_of_after h with
    | nobody hnobody => exact absurd hnobody huser
    | unknown => exact Or.inl rfl
    | unrotated _ _ fault => exact Or.inr ⟨fault, rfl⟩
    | unmoved hmove | unbound hmove => exact absurd (by rw [hmove]; rfl) hfinds

/-- **Errors name the operation that they come from**, on every session, whatever its tables hold and wherever the engine
fails. -/
theorem attributes (env : Environment σ) (s : Session σ) (op : Operation) : s.Attributes env op := by
  by_cases hop : ∃ account user secret, op = .associate account user secret
  · obtain ⟨account, user, secret, rfl⟩ := hop
    exact attributes_associate env s account user secret
  · exact attributes_of_goesUnder fun account user secret heq => hop ⟨account, user, secret, heq⟩

-- An event whose row is empty stops the rotation that comes upon it.
example :
    let damaged : Tables := { (((Tables.empty.putAccount ⟨"a", "A", "", "", "", ⟨946684800, 0⟩⟩).bindSecret "a" ⟨"u"⟩
      "s").putIndexEntry "a" (some ⟨"u"⟩) "1") with events := Tables.empty.events.insert (RowKey.event "a" "1") [] }
    ((opened damaged ()).after .still (.associate "a" "u" "t")).1 = .error (.migration "a"
      (.storage "migrate_user_events" (some "a") (.unreadable Json.Problem.unfinished.message))) := by
  decide +kernel

-- A rotation that cannot be committed has relocated what there was, and fails under the operation's own name.
example :
    let _ : Engine Unit := ⟨fun call world => (match call with | .commit => some ⟨.commit, "full"⟩ | _ => none, world)⟩
    let bound := (Tables.empty.putAccount ⟨"a", "A", "", "", "", ⟨946684800, 0⟩⟩).bindSecret "a" ⟨"u"⟩ "s"
    ((opened bound ()).after .still (.associate "a" "u" "t")).1 =
      .error (.migration "a" (.storage "associate_user_secret" (some "a") ⟨.commit, "full"⟩)) := by
  decide +kernel

end Session

end PseudonymStore
