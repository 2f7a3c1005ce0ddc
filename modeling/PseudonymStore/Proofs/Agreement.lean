import PseudonymStore.Proofs.Correspondence
import PseudonymStore.Proofs.Rollback
/-!
# Operations that agree

On tables that correspond, operations that differ in user IDs, in payloads and in secrets take the same steps, so they
fail with the same errors or answer the same but for payloads and secrets, and leave tables that correspond
(`Action.perform_agree`).
-/
namespace PseudonymStore

variable {σ σ' : Type}

/-- **Two operations that differ in nothing but user IDs**, which correspond. -/
inductive Operation.Alike (U : String → String → Prop) : Operation → Operation → Prop where
  | createAccount (account name : String) : Alike U (.createAccount account name) (.createAccount account name)
  | viewAccount (account : String) (withEvents : Bool) (since : Option String) :
    Alike U (.viewAccount account withEvents since) (.viewAccount account withEvents since)
  | privateKey (account : String) : Alike U (.privateKey account) (.privateKey account)
  | associate {user user' : String} (account secret : String) (h : U user user') :
    Alike U (.associate account user secret) (.associate account user' secret)
  | insert {user user' : Option String} (account payload : String) (h : Option.Rel U user user') :
    Alike U (.insert user account payload) (.insert user' account payload)
  | query (q : EventQuery) {user : Option String} (h : Option.Rel U q.userId user) :
    Alike U (.query q) (.query { q with userId := user })
  | deletedEvents (ids : List String) {user user' : Option String} (h : Option.Rel U user user') :
    Alike U (.deletedEvents ids user) (.deletedEvents ids user')
  | purge {user user' : String} (h : U user user') : Alike U (.purge user) (.purge user')
  | checkHealth : Alike U .checkHealth .checkHealth

/-- A correspondence of user IDs that tells the empty one from the others. -/
def TellsEmpty (U : String → String → Prop) : Prop :=
  ∀ user user', U user user' → (user = "" ↔ user' = "")

/-- The random user ID whose pseudonym a rotation parks under. -/
def Environment.stranger (env : Environment σ) (world : σ) : String :=
  Uuid.text (env.drawIdentifier world).1

/-- An answer with each payload and each secret changed; nothing else of it is. -/
def Answer.recast (f g : String → String) : Answer → Answer
  | account view => account (view.recast f g)
  | events m => events (EventsByAccount.recast f g m)
  | answer => answer

/-- An operation with another payload or another secret. -/
def Operation.recast (f g : String → String) : Operation → Operation
  | associate account user secret => associate account user (g secret)
  | insert user account payload => insert user account (f payload)
  | op => op

@[simp] theorem Answer.recast_id (a : Answer) : a.recast id id = a := by
  cases a <;> simp [recast]

@[simp] theorem Operation.recast_id (op : Operation) : op.recast id id = op := by
  cases op <;> rfl

section

variable {U : String → String → Prop}

theorem given_rel (hempty : TellsEmpty U) {user user' : Option String}
    (h : Option.Rel U user user') : Option.Rel U (given user) (given user') := by
  cases h with
  | none => exact .none
  | @some u u' h =>
    have hiff := hempty u u' h
    unfold given
    by_cases hu : u = ""
    · rw [hu, hiff.1 hu]
      exact .none
    · rw [Option.filter_some_pos (by simpa using hu), Option.filter_some_pos (by simpa using mt hiff.2 hu)]
      exact .some h

end

namespace Action

variable {f g : String → String} {L : String → String → Prop} {T : Tables → Tables → Prop}
  {U : String → String → Prop} {W : σ → σ' → Prop} {env : Environment σ} {env' : Environment σ'}
  {s : Session σ} {s' : Session σ'}

/-- **New salts that correspond**, whatever has been done before. -/
def SaltsAgree (L : String → String → Prop) (T : Tables → Tables → Prop) (W : σ → σ' → Prop) (env : Environment σ)
    (env' : Environment σ') : Prop :=
  ∀ s s', s.Alike T W s' → Agree T W L (newToken env Token.saltLength) (newToken env' Token.saltLength) s s'

variable (hT : Tables.Correspondence f g L T) (henv : env.Alike W env') (hs : s.Alike T W s')

/-! ## Providing accounts -/

section

variable (hsalt : SaltsAgree L T W env env')

include henv hsalt hs

theorem newAccount_agree (account name : String) :
    Agree T W (fun row row' => row' = { row with salt := row'.salt } ∧ L row.salt row'.salt)
      (newAccount env account name) (newAccount env' account name) s s' := by
  have hpair {t : Session σ} {t' : Session σ'} (ht : t.Alike T W t') :
      Agree T W Eq (newKeyPair env) (newKeyPair env') t t' := by
    unfold newKeyPair
    refine (Agree.draw henv (by decide) ht).bind ?_
    rintro bytes _ u u' rfl hu
    exact .ofExcept (.refl _) hu
  unfold newAccount
  refine (hsalt s s' hs).bind fun salt salt' t t' hsalts ht => ?_
  refine (hpair ht).bind ?_
  rintro pair _ u u' rfl hu
  rw [henv.encrypt]
  refine (Agree.ofExcept (.refl _) hu).bind ?_
  rintro cipher _ v v' rfl hv
  refine (Agree.now henv hv).bind ?_
  rintro time _ w w' rfl hw
  exact .pure ⟨rfl, hsalts⟩ hw

include hT

theorem createAccount_agree (account name : String) :
    Agree T W Eq (createAccount env account name) (createAccount env' account name) s s' := by
  unfold createAccount
  refine (Agree.ofExcept (.refl _) hs).bind fun _ _ t t' _ ht => ?_
  refine (newAccount_agree henv ht hsalt account name).bind fun row row' u u' ⟨hrow, hsalts⟩ hu => ?_
  have hadd : Agree T W Eq (addAccount row) (addAccount row') u u' := by
    unfold addAccount
    apply Agree.tables_bind
    rw [hrow, hT.contains hu.tables]
    by_cases hcontains : u.tables.accounts.contains (RowKey.account row.account) = true
    · rw [if_pos hcontains, if_pos hcontains]
      exact .throw _ hu
    · rw [if_neg hcontains, if_neg hcontains]
      exact .change (hT.putAccount hu.tables row row'.salt hsalts) hu
  exact (hadd.write _ _ hu).bind fun _ _ v v' _ hv => .report _ hv

end

include henv hs in
theorem privateKey_agree (haccounts : AccountsAgree U env env' s.tables s'.tables) (account : String) :
    Agree T W Eq (privateKey env account) (privateKey env' account) s s' := by
  unfold privateKey
  refine (Agree.read_ofExcept _ _ (haccounts.one account) hs).bind fun row row' t t' hrow ht => ?_
  rw [hrow.sealedKey, henv.decrypt]
  cases Base64.decode? row.sealedKey.toList with
  | none => exact .throw _ ht
  | some sealed =>
    refine (Agree.ofExcept (.refl _) ht).bind ?_
    rintro pem _ u u' rfl hu
    exact .ofExcept (.refl _) hu

/-! ## Associating secrets -/

include hT

section

include henv

theorem moveEvent_agree (hs : s.Alike T W s') (account : String) (source target : Pseudonym) (id : String) :
    Agree T W Eq (moveEvent env account source target id) (moveEvent env' account source target id) s s' := by
  unfold moveEvent
  apply Agree.tables_bind
  refine Agree.ofExcept_bind (hT.takeEvent hs.tables account id) hs ?_
  rintro ⟨row, taken⟩ ⟨row', taken'⟩ - ⟨hrow, htaken⟩
  obtain rfl : row' = row.map (EventRow.recast f) := hrow
  cases row with
  | none =>
    refine (Agree.report _ hs).bind fun _ _ u u' _ hu => ?_
    refine (Agree.change (hT.dropIndexEntry hu.tables account (some source) id) hu).bind fun _ _ v v' _ hv => ?_
    exact .pure rfl hv
  | some row =>
    have htake : Agree T W Eq (change fun _ => taken) (change fun _ => taken') s s' := .change htaken hs
    refine htake.bind fun _ _ u u' _ hu => ?_
    refine (Agree.nextEventId henv hu).bind ?_
    rintro next _ v v' rfl hv
    refine (Agree.change (hT.putEvent hv.tables { row with id := next.text, user := some target }) hv).bind ?_
    exact fun _ _ w w' _ hw => .pure rfl hw

theorem moveEvents_agree (account : String) (source target : Pseudonym) :
    ∀ (ids : List String) {s : Session σ} {s' : Session σ'}, s.Alike T W s' →
    Agree T W Eq (moveEvents env account source target ids) (moveEvents env' account source target ids) s s'
  | [], _, _, hs => .pure rfl hs
  | id :: ids, s, s', hs => by
    unfold moveEvents
    refine (moveEvent_agree hT henv hs account source target id).bind ?_
    rintro moved _ t t' rfl ht
    refine (moveEvents_agree account source target ids ht).bind ?_
    rintro count _ u u' rfl hu
    exact .pure rfl hu

include hs

theorem park_agree {row row' : AccountRow} (hrow : SameAccount U env env' row row') (user : Pseudonym) (secret : String)
    (hparked : U (env.stranger s.world) (env.stranger s.world)) :
    Agree T W Eq (park env row user secret) (park env' row' user (g secret)) s s' := by
  unfold park
  refine (Agree.drawIdentifier henv hs).bind ?_
  rintro _ _ t t' ⟨rfl, rfl⟩ ht
  have hhash : env'.hash (Uuid.text (env.drawIdentifier s.world).1) row'.salt =
      env.hash (Uuid.text (env.drawIdentifier s.world).1) row.salt := hrow.hash _ _ hparked
  dsimp only
  rw [hrow.account, hhash]
  have hbind := hT.bindSecret (hT.dropSecret ht.tables row.account user) row.account
    (env.hash (Uuid.text (env.drawIdentifier s.world).1) row.salt) secret
  refine (Agree.change hbind ht).bind fun _ _ u u' _ hu => ?_
  apply Agree.tables_bind
  rw [hT.userEventIds hu.tables]
  exact moveEvents_agree hT henv _ _ _ _ hu

theorem makeRoom_agree {row row' : AccountRow} (hrow : SameAccount U env env' row row') (account : String)
    (user : Pseudonym)
    (hparked : (s.tables.secret? account user).isSome = true → U (env.stranger s.world) (env.stranger s.world)) :
    Agree T W Eq (makeRoom env row account user) (makeRoom env' row' account user) s s' := by
  unfold makeRoom
  apply Agree.tables_bind
  rw [hT.secret? hs.tables]
  cases hsecret : s.tables.secret? account user with
  | none => exact .pure rfl hs
  | some secret =>
    rw [hsecret] at hparked
    refine .map (Agree.mapError _ ((park_agree hT henv hs hrow user secret (hparked rfl)).mono ?_))
    rintro count _ rfl
    rfl

end

section

variable (hempty : TellsEmpty U) (haccounts : AccountsAgree U env env' s.tables s'.tables)

include hs hempty haccounts

section

include henv

theorem associate_agree {user user' : String} (huser : U user user') (account secret : String)
    (hparked : (s.rotated? env account user).isSome = true → U (env.stranger s.world) (env.stranger s.world)) :
    Agree T W Eq (associate env account user secret) (associate env' account user' (g secret)) s s' := by
  rw [associate_eq, associate_eq]
  have hiff := hempty user user' huser
  by_cases hnone : user = ""
  · rw [if_pos hnone, if_pos (hiff.1 hnone)]
    exact .throw _ hs
  rw [if_neg hnone, if_neg (mt hiff.2 hnone)]
  refine (Agree.write _ _ (Agree.tables_bind ?_) hs).bind (Q := Eq) ?_
  · refine Agree.ofExcept_bind (haccounts.one account) hs fun row row' hread hrow => ?_
    rw [hrow.hash _ _ huser]
    refine (makeRoom_agree hT henv hs hrow account _ fun hsecret => hparked ?_).bind ?_
    · rw [Session.rotated?, if_neg hnone, hread]
      simpa using hsecret
    · rintro moved _ t t' rfl ht
      exact (Agree.change (hT.bindSecret ht.tables account _ secret) ht).bind fun _ _ u u' _ hu => .pure rfl hu
  · rintro moved _ t t' rfl ht
    exact .report _ ht

/-! ## Inserting events -/

theorem insert_agree {user user' : Option String} (huser : Option.Rel U user user') (account payload : String) :
    Agree T W Eq (insert env user account payload) (insert env' user' account (f payload)) s s' := by
  have hauthor {row row' : AccountRow} (hrow : SameAccount U env env' row row') :
      author env' s'.tables row' account (given user') = author env s.tables row account (given user) := by
    have hgiven := given_rel hempty huser
    generalize given user = asker at hgiven
    generalize given user' = asker' at hgiven
    cases hgiven with
    | none => rfl
    | some hasker =>
      unfold author
      dsimp only
      rw [hrow.hash _ _ hasker, hT.secret? hs.tables, Option.isSome_map]
  unfold insert
  refine Agree.write _ _ (Agree.tables_bind ?_) hs
  refine Agree.ofExcept_bind (haccounts.one account) hs fun row row' _ hrow => ?_
  rw [hauthor hrow]
  refine Agree.ofExcept_bind (.refl _) hs ?_
  rintro author _ - rfl
  refine (Agree.nextEventId henv hs).bind ?_
  rintro id _ t t' rfl ht
  refine (Agree.change (hT.putEvent ht.tables { id := id.text, account, user := author, payload }) ht).bind ?_
  exact fun _ _ u u' _ hu => .pure rfl hu

end

/-! ## Looking up -/

theorem query_agree (q : EventQuery) {user : Option String} (huser : Option.Rel U q.userId user) :
    Agree T W (fun m m' => m' = EventsByAccount.recast f g m) (query env q) (query env' { q with userId := user })
      s s' := by
  unfold query
  refine Agree.read_map _ _ _ ?_ hs
  have hgiven := given_rel hempty huser
  dsimp only
  generalize given q.userId = asker at hgiven
  generalize given user = asker' at hgiven
  cases hgiven with
  | none =>
    have hquery := hT.operatorQuery_eq hs.tables haccounts q user
    dsimp only
    rw [hquery]
    cases s.tables.operatorQuery q <;> rfl
  | some hasker => exact hT.userView_eq hs.tables haccounts hasker q user

theorem deletedEvents_agree (ids : List String) {user user' : Option String} (huser : Option.Rel U user user') :
    Agree T W Eq (deletedEvents env ids user) (deletedEvents env' ids user') s s' := by
  unfold deletedEvents
  refine Agree.read _ _ ?_ hs
  rw [Tables.goneKnowing_empty, Tables.goneKnowing_empty,
    hT.goneAmong_eq hs.tables haccounts (given_rel hempty huser)]

end

/-! ## Purging -/

theorem deleteEvents_agree (account : String) : ∀ (ids : List String) {s : Session σ} {s' : Session σ'},
    s.Alike T W s' → Agree T W Eq (deleteEvents account ids) (deleteEvents account ids) s s'
  | [], _, _, hs => .pure rfl hs
  | id :: ids, s, s', hs => by
    unfold deleteEvents
    apply Agree.tables_bind
    refine Agree.ofExcept_bind (hT.takeEvent hs.tables account id) hs ?_
    rintro ⟨row, taken⟩ ⟨row', taken'⟩ - ⟨hrow, htaken⟩
    obtain rfl : row' = row.map (EventRow.recast f) := hrow
    have htake : Agree T W Eq (change fun _ => taken) (change fun _ => taken') s s' := .change htaken hs
    refine htake.bind fun _ _ t t' _ ht => ?_
    refine (deleteEvents_agree account ids ht).bind ?_
    rintro count _ u u' rfl hu
    rw [Option.isSome_map]
    exact .pure rfl hu

theorem deletePseudonym_agree (hs : s.Alike T W s') (account : String) (user : Pseudonym) :
    Agree T W Eq (deletePseudonym account user) (deletePseudonym account user) s s' := by
  unfold deletePseudonym
  apply Agree.tables_bind
  rw [hT.userEventIds hs.tables]
  refine (deleteEvents_agree hT account _ hs).bind ?_
  rintro count _ t t' rfl ht
  apply Agree.tables_bind
  rw [hT.secret? ht.tables, Option.isSome_map]
  exact (Agree.change (hT.dropSecret ht.tables account user) ht).bind fun _ _ u u' _ hu => .pure rfl hu

theorem deleteUser_agree {user user' : String} (huser : U user user') {rows rows' : List AccountRow}
    (hrows : List.Forall₂ (SameAccount U env env') rows rows') (hs : s.Alike T W s') :
    Agree T W Eq (deleteUser env user rows) (deleteUser env' user' rows') s s' := by
  induction hrows generalizing s s' with
  | nil => exact .pure rfl hs
  | cons hrow _ ih =>
    unfold deleteUser
    rw [hrow.account, hrow.hash _ _ huser]
    refine (deletePseudonym_agree hT hs _ _).bind ?_
    rintro counts _ t t' rfl ht
    refine (ih ht).bind ?_
    rintro more _ u u' rfl hu
    exact .pure rfl hu

include hs in
theorem purge_agree (hempty : TellsEmpty U) (haccounts : AccountsAgree U env env' s.tables s'.tables)
    {user user' : String} (huser : U user user') : Agree T W Eq (purge env user) (purge env' user') s s' := by
  unfold purge
  have hiff := hempty user user' huser
  by_cases hnone : user = ""
  · rw [if_pos hnone, if_pos (hiff.1 hnone)]
    exact .report _ hs
  rw [if_neg hnone, if_neg (mt hiff.2 hnone)]
  refine (Agree.write _ _ (Agree.tables_bind ?_) hs).bind (Q := Eq) ?_
  · refine Agree.ofExcept_bind haccounts.all hs fun rows rows' _ hrows => ?_
    exact deleteUser_agree hT huser hrows hs
  · rintro counts _ t t' rfl ht
    exact .report _ ht

/-! ## Operations -/

include henv hs in
/-- **Operations agree** that differ in nothing but user IDs, payloads and secrets. -/
theorem perform_agree (hsalt : SaltsAgree L T W env env') (hempty : TellsEmpty U)
    (haccounts : AccountsAgree U env env' s.tables s'.tables) {op op' : Operation} (hop : op.Alike U op')
    (hparked : s.Rotates env op → U (env.stranger s.world) (env.stranger s.world)) :
    Agree T W (fun a a' => a' = a.recast f g) (op.perform env) ((op'.recast f g).perform env') s s' := by
  have hdone {x : Action σ Unit} {x' : Action σ' Unit} (h : Agree T W Eq x x' s s') :
      Agree T W (fun a a' => a' = a.recast f g) (do x; return .done : Action σ Answer)
        (do x'; return .done : Action σ' Answer) s s' :=
    h.bind fun _ _ _ _ _ ht => .pure rfl ht
  cases hop with
  | createAccount account name => exact hdone (createAccount_agree hT henv hs hsalt account name)
  | viewAccount account withEvents since =>
    have hview := hT.accountView_eq hs.tables haccounts account withEvents since
    have hread : Agree T W (fun v v' => v' = v.recast f g) (viewAccount account withEvents since)
        (viewAccount account withEvents since) s s' := by
      refine Agree.read_map _ _ _ ?_ hs
      rw [hview]
      cases s.tables.accountView account withEvents since <;> rfl
    refine .map (hread.mono ?_)
    rintro view _ rfl
    rfl
  | privateKey account =>
    refine .map ((privateKey_agree henv hs haccounts account).mono ?_)
    rintro key _ rfl
    rfl
  | associate account secret huser =>
    exact hdone (associate_agree hT henv hs hempty haccounts huser account secret fun h => hparked ⟨_, _, _, rfl, h⟩)
  | insert account payload huser =>
    refine .map ((insert_agree hT henv hs hempty haccounts huser account payload).mono ?_)
    rintro id _ rfl
    rfl
  | query q huser =>
    refine .map ((query_agree hT hs hempty haccounts q huser).mono ?_)
    rintro m _ rfl
    rfl
  | deletedEvents ids huser =>
    refine .map ((deletedEvents_agree hT hs hempty haccounts ids huser).mono ?_)
    rintro gone _ rfl
    rfl
  | purge huser => exact hdone (purge_agree hT hs hempty haccounts huser)
  | checkHealth => exact hdone (Agree.read _ _ rfl hs)

end Action

namespace Session

theorem after_agree {T : Tables → Tables → Prop} {W : σ → σ' → Prop} {φ : Answer → Answer} {env : Environment σ}
    {env' : Environment σ'} {s : Session σ} {s' : Session σ'} {op op' : Operation}
    (h : Action.Agree T W (fun a a' => a' = φ a) (op.perform env) (op'.perform env') s s') :
    (s'.after env' op').1 = (s.after env op).1.map φ ∧ (s.after env op).2.Alike T W (s'.after env' op').2 := by
  unfold after
  rcases h.elim with ⟨a, t, _, t', hx, hx', rfl, ht⟩ | ⟨e, t, t', hx, hx', ht⟩
  · rw [hx, hx']
    exact ⟨rfl, ht⟩
  · rw [hx, hx']
    exact ⟨rfl, ht⟩

/-! ## IDs -/

variable {f g : String → String} {L : String → String → Prop} {T : Tables → Tables → Prop}
  {U : String → String → Prop} {W : σ → σ' → Prop} {env : Environment σ} {env' : Environment σ'}
  {s : Session σ} {s' : Session σ'} (hT : Tables.Correspondence f g L T) (henv : env.Alike W env')

include hT henv

theorem movedIds_agree (account : String) (source target : Pseudonym) :
    ∀ (ids : List String) {s : Session σ} {s' : Session σ'}, s.Alike T W s' →
    movedIds env' account source target ids s' = movedIds env account source target ids s
  | [], _, _, _ => rfl
  | id :: ids, s, s', hs => by
    unfold movedIds
    rcases (Action.moveEvent_agree hT henv hs account source target id).elim with
      ⟨moved, t, _, t', hx, hx', rfl, ht⟩ | ⟨e, t, t', hx, hx', -⟩
    · rw [hx, hx']
      cases moved with
      | true => exact congrArg₂ (·.toList ++ ·) ht.lastIssued (movedIds_agree account source target ids ht)
      | false => exact movedIds_agree account source target ids ht
    · rw [hx, hx']

theorem parkedIds_agree (hs : s.Alike T W s') {row row' : AccountRow} (hrow : SameAccount U env env' row row')
    (user : Pseudonym) (secret : String) (hparked : U (env.stranger s.world) (env.stranger s.world)) :
    s'.parkedIds env' row' user (g secret) = s.parkedIds env row user secret := by
  have hdraw := henv.drawIdentifier hs.world
  have hpseudonym : env'.parked s'.world row'.salt = env.parked s.world row.salt := by
    unfold Environment.parked
    rw [hdraw.1]
    exact hrow.hash _ _ hparked
  unfold parkedIds
  dsimp only
  rw [hpseudonym, hrow.account]
  have hbound := hT.bindSecret (hT.dropSecret hs.tables row.account user) row.account (env.parked s.world row.salt) secret
  rw [hT.userEventIds hbound]
  exact movedIds_agree hT henv _ _ _ _ ⟨hbound, hs.lastIssued, hs.log, hdraw.2⟩

theorem issuedBy_agree (hs : s.Alike T W s') (hsalt : Action.SaltsAgree L T W env env') (hempty : TellsEmpty U)
    (haccounts : AccountsAgree U env env' s.tables s'.tables) {op op' : Operation} (hop : op.Alike U op')
    (hparked : s.Rotates env op → U (env.stranger s.world) (env.stranger s.world)) :
    s'.issuedBy env' (op'.recast f g) = s.issuedBy env op := by
  have hafter := (after_agree (Action.perform_agree hT henv hs hsalt hempty haccounts hop hparked)).1
  cases hop with
  | @insert user user' account payload huser =>
    have hanswer : (s'.after env' (.insert user' account (f payload))).1 =
      (s.after env (.insert user account payload)).1.map (Answer.recast f g) := hafter
    show s'.issuedBy env' (.insert user' account (f payload)) = _
    rw [issuedBy_insert, issuedBy_insert, hanswer]
    rcases (s.after env (.insert user account payload)).1 with e | answer
    · rfl
    · cases answer <;> rfl
  | @associate user user' account secret huser =>
    have hiff := hempty user user' huser
    have hrotates (h : (s.rotated? env account user).isSome = true) := hparked ⟨_, _, _, rfl, h⟩
    have hone := haccounts.one account
    show Option.elim (s'.rotated? env' account user') _ _ = Option.elim (s.rotated? env account user) _ _
    unfold rotated? at hrotates ⊢
    by_cases hnone : user = ""
    · rw [if_pos hnone, if_pos (hiff.1 hnone)]
      rfl
    rw [if_neg hnone] at hrotates
    rw [if_neg hnone, if_neg (mt hiff.2 hnone)]
    generalize s.tables.account account = read at hone hrotates ⊢
    generalize s'.tables.account account = read' at hone ⊢
    cases hone with
    | error e => rfl
    | @ok row row' hrow =>
      dsimp only at hrotates ⊢
      rw [hrow.hash _ _ huser, hT.secret? hs.tables]
      cases hsecret : s.tables.secret? account (env.hash user row.salt) with
      | none => rfl
      | some old =>
        rw [hsecret] at hrotates
        dsimp only [Option.map_some, Option.elim_some]
        rw [hrow.hash _ _ huser]
        exact parkedIds_agree hT henv hs hrow _ old (hrotates rfl)
  | _ => rfl

end Session

end PseudonymStore
