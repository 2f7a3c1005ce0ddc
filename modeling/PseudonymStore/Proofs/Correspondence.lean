import PseudonymStore.Operation.Lookup
import PseudonymStore.Proofs.OrderedMap
import PseudonymStore.Proofs.Recall
import PseudonymStore.Proofs.Simulation
/-!
# Tables that correspond

Payloads and secrets are texts of the callers.  Two sets of tables correspond when one holds what the other holds with each
payload changed by one function and each secret by another, and every step keeps them so (`Tables.Correspondence`).  What
is read of one is then what is read of the other with its payloads and secrets changed.  How the rows of accounts
correspond is left open but for what is read of them (`AccountsAgree`).
-/
namespace PseudonymStore

variable {σ σ' : Type}

/-! ## Other payloads and other secrets -/

def EventRow.recast (f : String → String) (r : EventRow) : EventRow :=
  { r with payload := f r.payload }

def EventView.recast (f g : String → String) (v : EventView) : EventView :=
  { v with payload := f v.payload, secret := v.secret.map g }

def EventsByAccount.recast (f g : String → String) (m : EventsByAccount) : EventsByAccount :=
  m.mapValues (List.map (EventView.recast f g))

def AccountView.recast (f g : String → String) (v : AccountView) : AccountView :=
  { v with events := v.events.map (EventsByAccount.recast f g), secrets := v.secrets.map (OrderedMap.mapValues g) }

section

variable {f g : String → String}

theorem EventsByAccount.ofLists_recast (lists : List (String × List EventView)) :
    EventsByAccount.recast f g (.ofLists lists) = .ofLists (lists.map fun x => (x.1, x.2.map (EventView.recast f g))) := by
  rw [EventsByAccount.recast, EventsByAccount.ofLists, EventsByAccount.ofLists, OrderedMap.mapValues_ofRows,
    List.filter_map]
  simp only [Function.comp_def, List.isEmpty_map]

theorem SecretsByUser.ofEvents_recast (events : List EventView) :
    (SecretsByUser.ofEvents events).mapValues g = SecretsByUser.ofEvents (events.map (EventView.recast f g)) := by
  rw [SecretsByUser.ofEvents, SecretsByUser.ofEvents, OrderedMap.mapValues_ofRows, List.map_filterMap, List.filterMap_map]
  congr 1
  refine List.filterMap_congr fun v _ => ?_
  rcases v with ⟨account, id, user, payload, secret⟩
  cases user <;> cases secret <;> rfl

@[simp] theorem recast_row_id : EventRow.recast id = id := rfl

@[simp] theorem recast_view_id : EventView.recast id id = id := by
  funext v
  simp [EventView.recast]

@[simp] theorem EventsByAccount.recast_id (m : EventsByAccount) : EventsByAccount.recast id id m = m := by
  rw [EventsByAccount.recast, recast_view_id, List.map_id_fun, OrderedMap.mapValues_id]

@[simp] theorem AccountView.recast_id (v : AccountView) : v.recast id id = v := by
  rcases v with ⟨account, name, publicKey, sealedKey, events, secrets⟩
  cases events <;> cases secrets <;> simp [recast]

end

/-! ## Accounts -/

/-- Two accounts that differ in nothing but the salt, where user IDs have the same pseudonyms. -/
structure SameAccount (U : String → String → Prop) (env : Environment σ) (env' : Environment σ') (r r' : AccountRow) :
    Prop where
  row : r' = { r with salt := r'.salt }
  hash : ∀ user user', U user user' → env'.hash user' r'.salt = env.hash user r.salt

namespace SameAccount

variable {U : String → String → Prop} {env : Environment σ} {env' : Environment σ'} {r r' : AccountRow}

theorem account (h : SameAccount U env env' r r') : r'.account = r.account := by rw [h.row]

theorem sealedKey (h : SameAccount U env env' r r') : r'.sealedKey = r.sealedKey := by rw [h.row]

theorem view (h : SameAccount U env env' r r') : AccountView.ofRow r' = AccountView.ofRow r := by rw [h.row]; rfl

end SameAccount

/-- **Accounts that agree**: what is read of them is the same but for the salts, or is the same error. -/
structure AccountsAgree (U : String → String → Prop) (env : Environment σ) (env' : Environment σ') (t t' : Tables) :
    Prop where
  one : ∀ account, SameOutcome (SameAccount U env env') (t.account account) (t'.account account)
  all : SameOutcome (List.Forall₂ (SameAccount U env env')) t.allAccounts t'.allAccounts

namespace Tables

/-- **Tables that correspond** give the same when they are looked up, but for payloads and secrets, and correspond after the
same step.  The salts of a new account correspond too. -/
structure Correspondence (f g : String → String) (L : String → String → Prop) (T : Tables → Tables → Prop) : Prop where
  contains : ∀ {t t'}, T t t' → ∀ key, t'.accounts.contains key = t.accounts.contains key
  secret? : ∀ {t t'}, T t t' → ∀ account user, t'.secret? account user = (t.secret? account user).map g
  event? : ∀ {t t'}, T t t' → ∀ account id, t'.event? account id = Option.map (EventRow.recast f) <$> t.event? account id
  accountOf? : ∀ {t t'}, T t t' → ∀ id, t'.accountOf? id = t.accountOf? id
  isIndexed : ∀ {t t'}, T t t' → ∀ account user id, t'.isIndexed account user id = t.isIndexed account user id
  userEventIds : ∀ {t t'}, T t t' → ∀ account user since,
    t'.userEventIds account user since = t.userEventIds account user since
  operatorEvents : ∀ {t t'}, T t t' → ∀ account since,
    t'.operatorEvents account since = List.map (EventView.recast f g) <$> t.operatorEvents account since
  putAccount : ∀ {t t'}, T t t' → ∀ r salt, L r.salt salt → T (t.putAccount r) (t'.putAccount { r with salt })
  bindSecret : ∀ {t t'}, T t t' → ∀ account user secret,
    T (t.bindSecret account user secret) (t'.bindSecret account user (g secret))
  dropSecret : ∀ {t t'}, T t t' → ∀ account user, T (t.dropSecret account user) (t'.dropSecret account user)
  putEvent : ∀ {t t'}, T t t' → ∀ e, T (t.putEvent e) (t'.putEvent (e.recast f))
  dropEvent : ∀ {t t'}, T t t' → ∀ account id user, T (t.dropEvent account id user) (t'.dropEvent account id user)
  dropIndexEntry : ∀ {t t'}, T t t' → ∀ account user id,
    T (t.dropIndexEntry account user id) (t'.dropIndexEntry account user id)

namespace Correspondence

variable {f g : String → String} {L : String → String → Prop} {T : Tables → Tables → Prop} {U : String → String → Prop}
  {env : Environment σ} {env' : Environment σ'} {t t' : Tables} (hT : Correspondence f g L T) (h : T t t')

include hT h

theorem takeEvent (account id : String) :
    SameOutcome (fun p p' => p'.1 = p.1.map (EventRow.recast f) ∧ T p.2 p'.2) (t.takeEvent account id)
      (t'.takeEvent account id) := by
  unfold Tables.takeEvent
  rw [hT.event? h]
  cases t.event? account id with
  | error e => exact .error e
  | ok row =>
    cases row with
    | none => exact .ok ⟨rfl, h⟩
    | some row => exact .ok ⟨rfl, hT.dropEvent h account id row.user⟩

theorem eventsOf_eq (account : String) : ∀ ids : List String,
    t'.eventsOf account ids = List.map (EventView.recast f g) <$> t.eventsOf account ids
  | [] => rfl
  | id :: ids => by
    have ih := eventsOf_eq account ids
    unfold Tables.eventsOf
    rw [hT.event? h, ih]
    cases t.event? account id with
    | error e => rfl
    | ok row =>
      show (pure (row.map (EventRow.recast f)) >>= fun _ => _) = List.map _ <$> (pure row >>= fun _ => _)
      rw [pure_bind, pure_bind]
      cases row with
      | none =>
        dsimp only [Option.map_none]
        rw [map_bind]
      | some row =>
        dsimp only [Option.map_some]
        simp only [map_bind, bind_map_left, map_pure]
        rfl

variable (haccounts : AccountsAgree U env env' t t')

include haccounts

theorem accountView_eq (account : String) (withEvents : Bool) (since : Option String) :
    t'.accountView account withEvents since = AccountView.recast f g <$> t.accountView account withEvents since := by
  refine (haccounts.one account).bind_map fun row row' hrow => ?_
  rw [hrow.view, hrow.account, hrow.sealedKey, hT.operatorEvents h]
  cases withEvents with
  | false => rfl
  | true =>
    cases t.operatorEvents account (given since) with
    | error e => rfl
    | ok events =>
      have hevents : EventsByAccount.ofLists [(row.account, events.map (EventView.recast f g))] =
          EventsByAccount.recast f g (.ofLists [(row.account, events)]) :=
        (EventsByAccount.ofLists_recast [(row.account, events)]).symm
      show Except.ok (_ : AccountView) = Except.ok (_ : AccountView)
      dsimp only
      rw [hevents, ← SecretsByUser.ofEvents_recast, AccountView.recast, EventsByAccount.recast,
        OrderedMap.isEmpty_mapValues, OrderedMap.isEmpty_mapValues]
      cases (EventsByAccount.ofLists [(row.account, events)]).isEmpty <;> cases (SecretsByUser.ofEvents events).isEmpty <;> rfl

theorem userView_eq {user user' : String} (huser : U user user') (q : EventQuery) (userId : Option String) :
    t'.userView (env'.hash user') { q with userId } = EventsByAccount.recast f g <$> t.userView (env.hash user) q := by
  have hrows : SameOutcome (List.Forall₂ (SameAccount U env env'))
      (if q.accounts.isEmpty then t.allAccounts else q.accounts.mapM t.account)
      (if q.accounts.isEmpty then t'.allAccounts else q.accounts.mapM t'.account) := by
    by_cases hall : q.accounts.isEmpty = true
    · rw [if_pos hall, if_pos hall]
      exact haccounts.all
    · rw [if_neg hall, if_neg hall]
      refine SameOutcome.mapM (List.forall₂_eq_eq_eq ▸ rfl : List.Forall₂ Eq q.accounts q.accounts) ?_
      rintro a - _ - rfl
      exact haccounts.one a
  unfold Tables.userView
  revert hrows
  dsimp only
  generalize (if q.accounts.isEmpty then t.allAccounts else q.accounts.mapM t.account) = rows
  generalize (if q.accounts.isEmpty then t'.allAccounts else q.accounts.mapM t'.account) = rows'
  intro hrows
  cases hrows with
  | error e => rfl
  | @ok rows rows' hrows =>
    have hlists : (rows'.mapM fun row => do
        let events ← t'.eventsOf row.account (t'.userEventIds row.account (env'.hash user' row.salt) (given q.cursor))
        return (row.account, events) : Reading _) =
        List.map (fun x => (x.1, x.2.map (EventView.recast f g))) <$> rows.mapM fun row => do
          let events ← t.eventsOf row.account (t.userEventIds row.account (env.hash user row.salt) (given q.cursor))
          return (row.account, events) := by
      refine mapM_map₂ _ (hrows.imp fun row row' hrow => ?_)
      rw [hrow.account, hrow.hash _ _ huser, hT.userEventIds h, hT.eventsOf_eq h]
      simp only [map_bind, bind_map_left, map_pure]
    show (pure rows' >>= fun rows => _) = _ <$> (pure rows >>= fun rows => _)
    rw [pure_bind, pure_bind, hlists]
    simp only [map_bind, bind_map_left, map_pure, EventsByAccount.ofLists_recast]

theorem operatorQuery_eq (q : EventQuery) (userId : Option String) :
    t'.operatorQuery { q with userId } = EventsByAccount.recast f g <$> t.operatorQuery q := by
  have hlists : q.accounts.mapM (fun account => (do
      let _ ← t'.account account
      let events ← t'.operatorEvents account (given q.cursor)
      return (account, events) : Except StoreError _)) =
      List.map (fun x => (x.1, x.2.map (EventView.recast f g))) <$> q.accounts.mapM fun account => do
        let _ ← t.account account
        let events ← t.operatorEvents account (given q.cursor)
        return (account, events) := by
    refine mapM_map₂ _ (List.forall₂_same.2 fun account _ => ?_)
    refine (haccounts.one account).bind_map fun _ _ _ => ?_
    rw [hT.operatorEvents h]
    simp only [map_bind, bind_map_left, map_pure]
  unfold Tables.operatorQuery
  rw [hlists]
  simp only [map_bind, bind_map_left, map_pure, EventsByAccount.ofLists_recast]

theorem isGone_eq {user user' : Option String} (huser : Option.Rel U user user') (id : String) :
    t'.isGone (user'.map env'.hash) id = t.isGone (user.map env.hash) id := by
  unfold Tables.isGone
  rw [hT.accountOf? h]
  cases t.accountOf? id with
  | none => rfl
  | some account =>
    cases huser with
    | none => rfl
    | some huser =>
      refine (haccounts.one account).bind_eq fun row row' hrow => ?_
      rw [hrow.hash _ _ huser, hT.isIndexed h]

theorem goneAmong_eq {user user' : Option String} (huser : Option.Rel U user user') :
    ∀ ids, t'.goneAmong (user'.map env'.hash) ids = t.goneAmong (user.map env.hash) ids
  | [] => rfl
  | id :: ids => by
    rw [Tables.goneAmong, Tables.goneAmong, hT.isGone_eq h haccounts huser, goneAmong_eq huser ids]

end Correspondence

end Tables

end PseudonymStore
