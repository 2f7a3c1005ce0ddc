import PseudonymStore.Proofs.Agreement
import PseudonymStore.Proofs.Life
/-!
# Payloads and secrets are opaque

The store keeps payloads and secrets and never looks into them.  Where each payload is changed by one function and each
secret by another, which need not tell two texts apart, a store goes through the same life: it fails where it failed, issues
the same IDs, logs the same, and answers the same but for the payloads and secrets in the answers (`Session.recast_run`).
-/
namespace PseudonymStore

variable {σ : Type} {f g : String → String}

/-- The bytes of an event with another payload; bytes that cannot be read stay as they are. -/
def EventRow.recode (f : String → String) (bytes : Bytes) : Bytes :=
  match EventRow.ofBytes bytes with
  | .ok r => (r.recast f).bytes
  | .error _ => bytes

theorem EventRow.recode_bytes (r : EventRow) : recode f r.bytes = (r.recast f).bytes := by
  rw [recode, ofBytes_bytes]

theorem EventRow.ofBytes_recode (bytes : Bytes) : ofBytes (recode f bytes) = recast f <$> ofBytes bytes := by
  unfold recode
  cases hread : ofBytes bytes with
  | ok r => exact ofBytes_bytes (r.recast f)
  | error e => exact hread

namespace Tables

def recast (f g : String → String) (t : Tables) : Tables :=
  { t with userSecrets := t.userSecrets.mapValues g, events := t.events.mapValues (EventRow.recode f) }

variable (t : Tables)

theorem secret?_recast (account : String) (user : Pseudonym) :
    (t.recast f g).secret? account user = (t.secret? account user).map g :=
  OrderedMap.get?_mapValues g t.userSecrets _

theorem event?_recast (account id : String) :
    (t.recast f g).event? account id = Option.map (EventRow.recast f) <$> t.event? account id := by
  unfold event?
  rw [recast, OrderedMap.get?_mapValues]
  cases t.events.get? (RowKey.event account id) with
  | none => rfl
  | some bytes =>
    dsimp only [Option.map_some]
    rw [EventRow.ofBytes_recode]
    cases EventRow.ofBytes bytes <;> rfl

theorem operatorView_recast (account : String) (r : EventRow) :
    (t.recast f g).operatorView account (r.recast f) = (t.operatorView account r).recast f g := by
  have hsecret : (t.recast f g).secret? account = fun user => (t.secret? account user).map g :=
    funext fun user => t.secret?_recast account user
  unfold operatorView
  rw [hsecret]
  obtain ⟨id, home, user, payload⟩ := r
  cases user <;> rfl

theorem operatorEvents_recast (account : String) (since : Option String) :
    (t.recast f g).operatorEvents account since =
      List.map (EventView.recast f g) <$> t.operatorEvents account since := by
  have hrows : (t.recast f g).events.rows = t.events.rows.map fun row => (row.1, EventRow.recode f row.2) := rfl
  unfold operatorEvents
  rw [hrows, List.filter_map, List.mapM_map]
  refine mapM_map₂ _ (List.forall₂_same.2 fun row _ => ?_)
  rw [Function.comp_apply, EventRow.ofBytes_recode]
  cases EventRow.ofBytes row.2 with
  | error e => rfl
  | ok r => exact congrArg Except.ok (t.operatorView_recast account r)

theorem putEvent_recast (e : EventRow) : (t.putEvent e).recast f g = (t.recast f g).putEvent (e.recast f) := by
  have hevents : (t.events.insert (RowKey.event e.account e.id) e.bytes).mapValues (EventRow.recode f) =
      (t.events.mapValues (EventRow.recode f)).insert (RowKey.event e.account e.id) (e.recast f).bytes := by
    rw [OrderedMap.mapValues_insert, EventRow.recode_bytes]
  have hput := congrArg (fun events => ({ (t.recast f g).putEvent (e.recast f) with events } : Tables)) hevents
  obtain ⟨id, account, user, payload⟩ := e
  cases user <;> exact hput

theorem dropEvent_recast (account id : String) (user : Option Pseudonym) :
    (t.dropEvent account id user).recast f g = (t.recast f g).dropEvent account id user := by
  have hevents := OrderedMap.mapValues_erase (EventRow.recode f) t.events (RowKey.event account id)
  have hdrop := congrArg (fun events => ({ (t.recast f g).dropEvent account id user with events } : Tables)) hevents
  cases user <;> exact hdrop

theorem correspondence_recast : Correspondence f g Eq fun t t' => t' = t.recast f g where
  contains := by
    rintro t _ rfl key
    rfl
  secret? := by
    rintro t _ rfl
    exact t.secret?_recast
  event? := by
    rintro t _ rfl
    exact t.event?_recast
  accountOf? := by
    rintro t _ rfl id
    rfl
  isIndexed := by
    rintro t _ rfl account user id
    rfl
  userEventIds := by
    rintro t _ rfl account user since
    rfl
  operatorEvents := by
    rintro t _ rfl
    exact t.operatorEvents_recast
  putAccount := by
    rintro t _ rfl r _ rfl
    rfl
  bindSecret := by
    rintro t _ rfl account user secret
    have hsecrets := OrderedMap.mapValues_insert g t.userSecrets (RowKey.secret account user) secret
    exact congrArg (fun userSecrets => ({ t.recast f g with userSecrets } : Tables)) hsecrets.symm
  dropSecret := by
    rintro t _ rfl account user
    have hsecrets := OrderedMap.mapValues_erase g t.userSecrets (RowKey.secret account user)
    exact congrArg (fun userSecrets => ({ t.recast f g with userSecrets } : Tables)) hsecrets.symm
  putEvent := by
    rintro t _ rfl e
    exact (t.putEvent_recast e).symm
  dropEvent := by
    rintro t _ rfl account id user
    exact (t.dropEvent_recast account id user).symm
  dropIndexEntry := by
    rintro t _ rfl account user id
    cases user <;> rfl

theorem accountsAgree_recast (env : Environment σ) : AccountsAgree Eq env env t (t.recast f g) := by
  have hsame (r : AccountRow) : SameAccount Eq env env r r := ⟨rfl, fun user user' h => h ▸ rfl⟩
  refine ⟨fun account => (SameOutcome.refl (t.account account)).mono fun r _ _ _ h => h ▸ hsame r, ?_⟩
  exact (SameOutcome.refl t.allAccounts).mono fun rows _ _ _ h => h ▸ List.forall₂_same.2 fun r _ => hsame r

end Tables

theorem Operation.Alike.refl (op : Operation) : op.Alike Eq op := by
  have hrel (user : Option String) : Option.Rel Eq user user := by
    cases user with
    | none => exact .none
    | some user => exact .some rfl
  cases op with
  | createAccount account name => exact .createAccount account name
  | viewAccount account withEvents since => exact .viewAccount account withEvents since
  | privateKey account => exact .privateKey account
  | associate account user secret => exact .associate account secret rfl
  | insert user account payload => exact .insert account payload (hrel user)
  | query q => exact .query q (hrel q.userId)
  | deletedEvents ids user => exact .deletedEvents ids (hrel user)
  | purge user => exact .purge rfl
  | checkHealth => exact .checkHealth

theorem tellsEmpty_eq : TellsEmpty Eq := by
  rintro user _ rfl
  exact Iff.rfl

def Act.recast (f g : String → String) : Act → Act
  | operate op => operate (op.recast f g)
  | reopen => reopen

namespace Session

variable {env : Environment σ}

def recast (f g : String → String) (s : Session σ) : Session σ :=
  { s with tables := s.tables.recast f g }

theorem alike_recast (s : Session σ) : s.Alike (fun t t' => t' = t.recast f g) Eq (s.recast f g) :=
  ⟨rfl, rfl, rfl, rfl⟩

theorem eq_recast {s s' : Session σ} (h : s.Alike (fun t t' => t' = t.recast f g) Eq s') : s' = s.recast f g := by
  obtain ⟨tables, lastIssued, log, world⟩ := s'
  obtain ⟨rfl, rfl, rfl, rfl⟩ := h
  rfl

section

variable (env) (s : Session σ) (op : Operation)

theorem saltsAgree_recast : Action.SaltsAgree Eq (fun t t' => t' = t.recast f g) Eq env env := fun _ _ ht =>
  .map ((Action.Agree.draw_same env _ ht).mono fun _ _ h => congrArg _ h)

theorem after_recast (f g : String → String) : (s.recast f g).after env (op.recast f g) =
    ((s.after env op).1.map (Answer.recast f g), (s.after env op).2.recast f g) := by
  have hperform := Action.perform_agree (Tables.correspondence_recast (f := f) (g := g)) (.refl env) s.alike_recast
    (saltsAgree_recast env) tellsEmpty_eq (s.tables.accountsAgree_recast env) (.refl op) fun _ => rfl
  obtain ⟨hanswer, ht⟩ := after_agree hperform
  exact Prod.ext hanswer (eq_recast ht)

theorem issuedBy_recast (f g : String → String) :
    (s.recast f g).issuedBy env (op.recast f g) = s.issuedBy env op :=
  issuedBy_agree Tables.correspondence_recast (.refl env) s.alike_recast (saltsAgree_recast env) tellsEmpty_eq
    (s.tables.accountsAgree_recast env) (.refl op) fun _ => rfl

end

theorem act_recast (env : Environment σ) (s : Session σ) (a : Act) :
    (s.recast f g).act env (a.recast f g) = (s.act env a).recast f g := by
  cases a with
  | operate op => exact congrArg Prod.snd (after_recast env s op f g)
  | reopen => rfl

theorem life_recast (env : Environment σ) : ∀ (acts : List Act) (s : Session σ),
    (s.recast f g).life env (acts.map (Act.recast f g)) = (s.life env acts).recast f g
  | [], _ => rfl
  | a :: acts, s => by rw [List.map_cons, life_cons, life_cons, act_recast, life_recast env acts]

theorem issuedOver_recast (env : Environment σ) : ∀ (acts : List Act) (s : Session σ),
    (s.recast f g).issuedOver env (acts.map (Act.recast f g)) = s.issuedOver env acts
  | [], _ => rfl
  | .operate op :: acts, s => by
    rw [List.map_cons, Act.recast, issuedOver, issuedOver, issuedBy_recast, after_recast, issuedOver_recast env acts]
  | .reopen :: acts, s => issuedOver_recast env acts (opened s.tables s.world)

theorem run_recast (env : Environment σ) : ∀ (ops : List Operation) (s : Session σ),
    (s.recast f g).run env (ops.map (Operation.recast f g)) =
      ((s.run env ops).1.map (Except.map (Answer.recast f g)), (s.run env ops).2.recast f g)
  | [], _ => rfl
  | op :: ops, s => by
    rw [List.map_cons, run, run]
    dsimp only
    rw [after_recast, run_recast env ops, List.map_cons]

/-- **Payloads and secrets are opaque.**  Where each payload that is inserted and each secret that is associated is
changed, what was answered and logged and what IDs were issued over a life of a store stays the same, but for the payloads
and the secrets in the answers and in the tables. -/
theorem recast_run (env : Environment σ) (f g : String → String) (world : σ) (acts : List Act) (ops : List Operation) :
    let s := (opened .empty world).life env acts
    let s' := (opened .empty world).life env (acts.map (Act.recast f g))
    s'.run env (ops.map (Operation.recast f g)) =
      ((s.run env ops).1.map (Except.map (Answer.recast f g)), (s.run env ops).2.recast f g) ∧
    s' = s.recast f g ∧
    (opened .empty world).issuedOver env (acts.map (Act.recast f g)) = (opened .empty world).issuedOver env acts := by
  have hempty : (opened .empty world).recast f g = opened .empty world := rfl
  have hlife := life_recast (f := f) (g := g) env acts (opened .empty world)
  have hissued := issuedOver_recast (f := f) (g := g) env acts (opened .empty world)
  rw [hempty] at hlife hissued
  refine ⟨?_, hlife, hissued⟩
  rw [hlife]
  exact run_recast env ops _

end Session

end PseudonymStore
