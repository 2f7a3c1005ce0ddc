import PseudonymStore.Proofs.Agreement
import PseudonymStore.Proofs.Veil
/-!
# User IDs and salts show in nothing but pseudonyms

Two runs whose user IDs, salts and hashers differ, but give the same pseudonyms, cannot be told apart: they answer and log
the same, and their tables differ in nothing but the salts (`Session.veiled_run`).  So spellings of a user ID that have one
normal form can be exchanged where pseudonyms are keyed digests.
-/
namespace PseudonymStore

variable {σ σ' : Type}

section

variable {U : String → String → Prop} {W : σ → σ' → Prop} {env : Environment σ} {env' : Environment σ'}
  {s : Session σ} {s' : Session σ'}

theorem HashesAgree.of_grows {t t' u u' : Tables} {ids ids' : List EventId} (h : HashesAgree U env env' u u')
    (ht : t.Grows ids u) (ht' : t'.Grows ids' u') : HashesAgree U env env' t t' :=
  fun account r r' hr hr' => h account r r' (ht.account_eq hr) (ht'.account_eq hr')

namespace Session

open Tables (SameButSalts)

theorem after_alike (hempty : TellsEmpty U) (henv : env.Alike W env')
    (hs : s.Alike SameButSalts W s') (hhash : HashesAgree U env env' s.tables s'.tables) {op op' : Operation}
    (hop : op.Alike U op')
    (hparked : s.Rotates env op → U (env.stranger s.world) (env.stranger s.world)) :
    (s'.after env' op').1 = (s.after env op).1 ∧ (s.after env op).2.Alike SameButSalts W (s'.after env' op').2 := by
  have hsalt : Action.SaltsAgree (fun _ _ => True) SameButSalts W env env' := fun _ _ ht => .map (.drawSalt henv ht)
  have hperform := Action.perform_agree SameButSalts.correspondence henv hs hsalt hempty (hs.tables.accountsAgree hhash)
    hop hparked
  rw [Operation.recast_id] at hperform
  obtain ⟨hanswer, ht⟩ := after_agree hperform
  refine ⟨hanswer.trans ?_, ht⟩
  cases (s.after env op).1 <;> simp [Except.map]

theorem run_alike (hempty : TellsEmpty U) (henv : env.Alike W env') :
    ∀ {ops ops' : List Operation}, List.Forall₂ (Operation.Alike U) ops ops' →
    ∀ {s : Session σ} {s' : Session σ'}, s.Alike SameButSalts W s' →
    (∀ m ∈ s.moments env ops, m.session.Rotates env m.op →
      U (env.stranger m.session.world) (env.stranger m.session.world)) →
    HashesAgree U env env' (s.run env ops).2.tables (s'.run env' ops').2.tables →
    (s'.run env' ops').1 = (s.run env ops).1 ∧ (s.run env ops).2.Alike SameButSalts W (s'.run env' ops').2
  | _, _, .nil, _, _, hs, _, _ => ⟨rfl, hs⟩
  | op :: ops, op' :: ops', .cons hop hops, s, s', hs, hparked, hhash => by
    -- The accounts of a moment are still there at the end, so their salts give the same pseudonyms.
    have hgrows := evolves_run env (op :: ops) s
    have hgrows' := evolves_run env' (op' :: ops') s'
    obtain ⟨hanswer, ht⟩ := after_alike hempty henv hs (hhash.of_grows hgrows.tables hgrows'.tables) hop
      (hparked ⟨s, op, _⟩ List.mem_cons_self)
    obtain ⟨hanswers, hu⟩ := run_alike hempty henv hops ht (fun m hm => hparked m (List.mem_cons_of_mem _ hm)) hhash
    refine ⟨?_, hu⟩
    show (s'.after env' op').1 :: _ = (s.after env op).1 :: _
    rw [hanswer]
    exact congrArg _ hanswers

end Session

end

/-! ## Spellings of a user ID -/

/-- Two spellings of a user ID: they have one normal form, and are both empty or neither is. -/
def SameSpelling (user user' : String) : Prop :=
  (user = "" ↔ user' = "") ∧ Normal.nfc user = Normal.nfc user'

theorem Pseudonym.hmac_eq {user user' : String} (h : SameSpelling user user') : hmac user' = hmac user := by
  funext salt
  unfold hmac
  rw [h.2]

section

variable {env : Environment σ} (henv : env.hash = Pseudonym.hmac)

include henv

theorem hash_eq {user user' : String} (h : SameSpelling user user') : env.hash user' = env.hash user := by
  rw [henv, Pseudonym.hmac_eq h]

theorem given_cases {user user' : Option String} (h : Option.Rel SameSpelling user user') :
    given user = none ∧ given user' = none ∨ ∃ u u', given user = some u ∧ given user' = some u' ∧
      env.hash u' = env.hash u := by
  have hgiven := given_rel (fun _ _ => And.left) h
  generalize given user = author at hgiven ⊢
  generalize given user' = author' at hgiven ⊢
  cases hgiven with
  | none => exact Or.inl ⟨rfl, rfl⟩
  | some h => exact Or.inr ⟨_, _, rfl, rfl, hash_eq henv h⟩

namespace Action

theorem associate_spelling {user user' : String} (h : SameSpelling user user') (account secret : String) :
    associate env account user' secret = associate env account user secret := by
  rw [associate_eq, associate_eq]
  simp only [hash_eq henv h, h.1]

theorem insert_spelling {user user' : Option String} (h : Option.Rel SameSpelling user user') (account payload : String) :
    insert env user' account payload = insert env user account payload := by
  unfold insert
  obtain ⟨hnone, hnone'⟩ | ⟨u, u', hsome, hsome', hhash⟩ := given_cases henv h
  · rw [hnone, hnone']
  · simp only [hsome, hsome', author, hhash]

theorem query_spelling {q : EventQuery} {user : Option String} (h : Option.Rel SameSpelling q.userId user) :
    query env { q with userId := user } = query env q := by
  unfold query
  obtain ⟨hnone, hnone'⟩ | ⟨u, u', hsome, hsome', hhash⟩ := given_cases henv h
  · rw [hnone, hnone']
    rfl
  · rw [hsome, hsome']
    dsimp only
    rw [hhash]
    rfl

theorem deletedEvents_spelling {user user' : Option String} (h : Option.Rel SameSpelling user user') (ids : List String) :
    deletedEvents env ids user' = deletedEvents env ids user := by
  unfold deletedEvents
  obtain ⟨hnone, hnone'⟩ | ⟨u, u', hsome, hsome', hhash⟩ := given_cases henv h
  · rw [hnone, hnone']
  · rw [hsome, hsome', Option.map_some, Option.map_some, hhash]

theorem deleteUser_spelling {user user' : String} (h : SameSpelling user user') :
    ∀ rows, deleteUser env user' rows = deleteUser env user rows
  | [] => rfl
  | row :: rows => by rw [deleteUser, deleteUser, hash_eq henv h, deleteUser_spelling h rows]

theorem purge_spelling {user user' : String} (h : SameSpelling user user') : purge env user' = purge env user := by
  unfold purge
  simp only [deleteUser_spelling henv h, h.1]

end Action

theorem Operation.perform_eq {op op' : Operation} (h : op.Alike SameSpelling op') :
    op'.perform env = op.perform env := by
  cases h with
  | createAccount | viewAccount | privateKey | checkHealth => rfl
  | associate account secret huser => rw [perform, perform, Action.associate_spelling henv huser]
  | insert account payload huser => rw [perform, perform, Action.insert_spelling henv huser]
  | query q huser => rw [perform, perform, Action.query_spelling henv huser]
  | deletedEvents ids huser => rw [perform, perform, Action.deletedEvents_spelling henv huser]
  | purge huser => rw [perform, perform, Action.purge_spelling henv huser]

theorem Session.run_eq {ops ops' : List Operation} (hops : List.Forall₂ (Operation.Alike SameSpelling) ops ops')
    (s : Session σ) : s.run env ops' = s.run env ops := by
  induction hops generalizing s with
  | nil => rfl
  | @cons op op' _ _ hop _ ih =>
    have hafter : s.after env op' = s.after env op := by rw [after, after, Operation.perform_eq henv hop]
    simp only [run, hafter, ih]

end

/-! ## Secrecy -/

/-- **User IDs and salts show in nothing but pseudonyms.**  From empty tables, two runs whose user IDs and salts have the
same pseudonyms have the same answers, logs and tables but for the salts; and where pseudonyms are keyed digests, spelling
user IDs in another way changes nothing. -/
theorem Session.veiled_run {env : Environment σ} :
    (∀ {σ' : Type} {U : String → String → Prop} {W : σ → σ' → Prop} {env' : Environment σ'}, TellsEmpty U →
      env.Alike W env' → ∀ {world world'}, W world world' → ∀ {ops ops'}, List.Forall₂ (Operation.Alike U) ops ops' →
      (∀ m ∈ (opened .empty world).moments env ops, m.session.Rotates env m.op →
        U (env.stranger m.session.world) (env.stranger m.session.world)) →
      HashesAgree U env env' ((opened .empty world).run env ops).2.tables
        ((opened .empty world').run env' ops').2.tables →
      ((opened .empty world').run env' ops').1 = ((opened .empty world).run env ops).1 ∧
        ((opened .empty world).run env ops).2.Alike Tables.SameButSalts W ((opened .empty world').run env' ops').2) ∧
    (env.hash = Pseudonym.hmac → ∀ {ops ops'}, List.Forall₂ (Operation.Alike SameSpelling) ops ops' →
      ∀ s : Session σ, s.run env ops' = s.run env ops) :=
  ⟨fun hempty henv _ _ hworld _ _ hops => run_alike hempty henv hops ⟨.empty, rfl, rfl, hworld⟩,
    fun henv _ _ hops s => run_eq henv hops s⟩

/-! ## A user under another name -/

/-- A world that draws other salts, and in which what was said of one user is said of another. -/
def masked : Environment Unit where
  hash := fun user salt => Environment.still.hash (if user = "w" then "u" else user) salt
  encrypt := .ok
  decrypt := .ok
  draw := fun length world =>
    (some ⟨List.replicate length (if length = Token.drawLength Token.saltLength then 2 else 1), List.length_replicate⟩,
      world)
  drawIdentifier := Environment.still.drawIdentifier
  now := Environment.still.now

theorem masked_alike : Environment.still.Alike Eq masked where
  encrypt := rfl
  decrypt := rfl
  now := fun h => ⟨rfl, h⟩
  drawIdentifier := fun h => ⟨rfl, h⟩
  draw := by
    intro length hlength _ _ _
    simp [masked, Environment.still, hlength]
  drawSalt := fun _ => rfl
  turn := fun _ _ _ h => h

/-- Who is known by another name, and who parks. -/
def Masks (user user' : String) : Prop :=
  user = "u" ∧ user' = "w" ∨ user = Environment.still.stranger () ∧ user' = Environment.still.stranger ()

theorem masked_hash {user user' : String} (h : Masks user user') (salt salt' : String) :
    masked.hash user' salt' = Environment.still.hash user salt := by
  rcases h with ⟨rfl, rfl⟩ | ⟨rfl, rfl⟩
  · rfl
  · have hne : Environment.still.stranger () ≠ "w" := by decide
    exact congrArg (Environment.still.hash · salt') (if_neg hne)

theorem tellsEmpty_masks : TellsEmpty Masks := by
  rintro _ _ (⟨rfl, rfl⟩ | ⟨rfl, rfl⟩)
  · decide
  · exact Iff.rfl

/-- The second association rotates, and what it parks is parked alike. -/
theorem Session.veiled_run_masked :
    ((opened .empty ()).run masked
        [.createAccount "a" "A", .associate "a" "w" "s", .insert (some "w") "a" "p", .associate "a" "w" "t"]).1 =
      ((opened .empty ()).run .still
        [.createAccount "a" "A", .associate "a" "u" "s", .insert (some "u") "a" "p", .associate "a" "u" "t"]).1 ∧
    ∀ s : Session Unit, s.run { Environment.still with hash := Pseudonym.hmac } [.purge "e\u0301"] =
      s.run { Environment.still with hash := Pseudonym.hmac } [.purge "\u00e9"] := by
  have hmask : Masks "u" "w" := Or.inl ⟨rfl, rfl⟩
  constructor
  · refine (veiled_run.1 tellsEmpty_masks masked_alike rfl ?_ ?_ ?_).1
    · exact .cons (.createAccount "a" "A") (.cons (.associate "a" "s" hmask) (.cons (.insert "a" "p" (.some hmask))
        (.cons (.associate "a" "t" hmask) .nil)))
    · exact fun _ _ _ => Or.inr ⟨rfl, rfl⟩
    · exact fun _ r r' _ _ _ _ h => masked_hash h r.salt r'.salt
  · have hspelling : SameSpelling "\u00e9" "e\u0301" := ⟨by decide, by decide +kernel⟩
    exact veiled_run.2 rfl (.cons (.purge hspelling) .nil)

end PseudonymStore
