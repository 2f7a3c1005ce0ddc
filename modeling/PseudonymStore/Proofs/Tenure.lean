import PseudonymStore.Proofs.Operation.Answer
import Mathlib.Data.List.DropRight
/-!
# Tenures

A pseudonym of an account passes from hand to hand: an association gives it to a user, and a purge leaves it to nobody.
What its user sees is told by what has happened since then (`Session.tenure_run`), which is the user's own inserts and
nothing else: what the pseudonym had before is gone or parked elsewhere.  Operations on other pseudonyms or in other
accounts make no difference, as long as no rotation parks under the pseudonym itself.
-/
namespace PseudonymStore

variable {σ : Type}

section

variable (hash : String → Pseudonym) (account : String) (p : Pseudonym)

/-- Whether an operation is one for a user who has the pseudonym in the account.  The empty user is nobody. -/
def Operation.isOn : Operation → Bool
  | associate a user _ => a = account ∧ hash user = p
  | insert user a _ => a = account ∧ (given user).map hash = some p
  | purge user => user ≠ "" ∧ hash user = p
  | _ => false

theorem Operation.isOn_of_isReading {op : Operation} (hread : op.isReading = true) :
    op.isOn hash account p = false := by
  cases op <;> first | rfl | cases hread

namespace Moment

def begins (m : Moment σ) : Bool :=
  match m.op, m.answer with
  | .associate .., .ok _ => m.op.isOn hash account p
  | _, _ => false

def ends (m : Moment σ) : Bool :=
  match m.op, m.answer with
  | .purge _, .ok _ => m.op.isOn hash account p
  | _, _ => false

def inserted? (m : Moment σ) : Option EventView :=
  match m.op, m.answer with
  | .insert _ _ payload, .ok (.inserted id) =>
    if m.op.isOn hash account p then some ⟨account, id.text, some p, payload, none⟩ else none
  | _, _ => none

end Moment

namespace Tenure

def isHeld (past : List (Moment σ)) : Bool :=
  (past.rtakeWhile fun m => !m.ends hash account p).any (·.begins hash account p)

/-- The events that were inserted under the pseudonym since it was last given to somebody or purged. -/
def events (past : List (Moment σ)) : List EventView :=
  (past.rtakeWhile fun m => !(m.begins hash account p || m.ends hash account p)).filterMap (·.inserted? hash account p)

variable {hash account p}

theorem isHeld_append (past : List (Moment σ)) (m : Moment σ) : isHeld hash account p (past ++ [m]) =
    (!m.ends hash account p && (isHeld hash account p past || m.begins hash account p)) := by
  rw [isHeld, List.rtakeWhile_concat]
  cases m.ends hash account p <;> simp [isHeld]

theorem events_append (past : List (Moment σ)) (m : Moment σ) : events hash account p (past ++ [m]) =
    if m.begins hash account p || m.ends hash account p then []
    else events hash account p past ++ (m.inserted? hash account p).toList := by
  rw [events, List.rtakeWhile_concat]
  cases m.begins hash account p || m.ends hash account p with
  | true => rfl
  | false =>
    simp only [Bool.not_false, if_true, Bool.false_eq_true, if_false, List.filterMap_append, events]
    cases hm : m.inserted? hash account p <;> simp [hm]

theorem append_of_associate (hash : String → Pseudonym) (account : String) (s : Session σ) {user : String}
    (secret : String) (huser : hash user = p) (past : List (Moment σ)) :
    isHeld hash account p (past ++ [⟨s, .associate account user secret, .ok .done⟩]) = true ∧
      events hash account p (past ++ [⟨s, .associate account user secret, .ok .done⟩]) = [] := by
  rw [isHeld_append, events_append]
  simp [Moment.begins, Moment.ends, Operation.isOn, huser]

theorem append_of_purge (hash : String → Pseudonym) (account : String) (s : Session σ) {user : String}
    (huser : user ≠ "") (hhash : hash user = p) (past : List (Moment σ)) :
    isHeld hash account p (past ++ [⟨s, .purge user, .ok .done⟩]) = false ∧
      events hash account p (past ++ [⟨s, .purge user, .ok .done⟩]) = [] := by
  rw [isHeld_append, events_append]
  simp [Moment.begins, Moment.ends, Operation.isOn, huser, hhash]

theorem append_of_insert (hash : String → Pseudonym) (account : String) (s : Session σ) {user : Option String}
    (payload : String) (id : EventId) (huser : (given user).map hash = some p) (past : List (Moment σ)) :
    isHeld hash account p (past ++ [⟨s, .insert user account payload, .ok (.inserted id)⟩]) =
        isHeld hash account p past ∧
      events hash account p (past ++ [⟨s, .insert user account payload, .ok (.inserted id)⟩]) =
        events hash account p past ++ [⟨account, id.text, some p, payload, none⟩] := by
  have hon : (Operation.insert user account payload).isOn hash account p = true := decide_eq_true ⟨rfl, huser⟩
  rw [isHeld_append, events_append]
  simp [Moment.begins, Moment.ends, Moment.inserted?, hon]

theorem append_of_not_on {m : Moment σ} (hm : m.op.isOn hash account p = false ∨ ∃ e, m.answer = .error e)
    (past : List (Moment σ)) : isHeld hash account p (past ++ [m]) = isHeld hash account p past ∧
      events hash account p (past ++ [m]) = events hash account p past := by
  have hnone : m.begins hash account p = false ∧ m.ends hash account p = false ∧ m.inserted? hash account p = none := by
    unfold Moment.begins Moment.ends Moment.inserted?
    rcases hm with hon | ⟨e, he⟩
    · rw [hon]
      refine ⟨?_, ?_, ?_⟩ <;> split <;> rfl
    · rw [he]
      refine ⟨?_, ?_, ?_⟩ <;> split <;> first | rfl | contradiction
  obtain ⟨hbegins, hends, hinserted⟩ := hnone
  rw [isHeld_append, events_append, hbegins, hends, hinserted]
  simp

end Tenure

end

namespace Ledger

variable {env : Environment σ} {world : σ} {l l' : Ledger} {account salt : String} {p : Pseudonym}

def Salts (l : Ledger) (account salt : String) : Prop :=
  ∀ row, l.accounts.get? account = some row → row.salt = salt

theorem Salts.isHeld_iff (h : l.Salts account salt) (hl : l.Sound) {hash : String → String → Pseudonym}
    {user : String} :
    isHeld (hash user) l.accounts.values account p = true ↔
      (l.accounts.get? account).isSome = true ∧ hash user salt = p := by
  rw [isHeld_values_iff hl, Option.isSome_iff_exists]
  constructor
  · rintro ⟨r, hr, hp⟩
    exact ⟨⟨r, hr⟩, h r hr ▸ hp⟩
  · rintro ⟨⟨r, hr⟩, hp⟩
    exact ⟨r, hr, (h r hr).symm ▸ hp⟩

def ParksApart (l : Ledger) (env : Environment σ) (world : σ) (account : String) (p : Pseudonym) (op : Operation)
    (answer : Except StoreError Answer) : Prop :=
  ∀ user secret row, op = .associate account user secret → answer = .ok .done → l.accounts.get? account = some row →
    (l.secret? account (env.hash user row.salt)).isSome = true → env.parked world row.salt ≠ p

/-- **An operation that is on another pseudonym** leaves the secret and the events of this one alone. -/
theorem frame_of_step (hl : l.Sound) (hsalt : l.Salts account salt) {op : Operation} {answer : Except StoreError Answer}
    (hstep : l.Step env world op answer l') (hon : op.isOn (env.hash · salt) account p = false)
    (hapart : l.ParksApart env world account p op answer) :
    l'.secret? account p = l.secret? account p ∧ l'.eventsOf account p = l.eventsOf account p := by
  cases hstep with
  | read | fail | purgeNobody | create => exact ⟨rfl, rfl⟩
  | @insert user a payload row id hrow hbound hid =>
    refine ⟨rfl, (eventsOf_append l account p _).trans ?_⟩
    rw [if_neg, List.append_nil]
    intro hof
    obtain ⟨ha, hp⟩ : a = account ∧ (given user).map (env.hash · row.salt) = some p := isOf_iff.1 hof
    subst ha
    rw [hsalt row hrow] at hp
    have hon' : (Operation.insert user a payload).isOn (env.hash · salt) a p = true := decide_eq_true ⟨rfl, hp⟩
    rw [hon'] at hon
    cases hon
  | @associate a user secret row huser hrow hfree =>
    refine ⟨?_, rfl⟩
    rw [secret?_bind, if_neg]
    rintro ⟨rfl, rfl⟩
    rw [hsalt row hrow] at hon
    simp [Operation.isOn] at hon
  | @rotate a user secret old row moved issued huser hrow hold hissued hmoved =>
    have hother : ¬(account = a ∧ p = env.hash user row.salt) := by
      rintro ⟨rfl, rfl⟩
      rw [hsalt row hrow] at hon
      simp [Operation.isOn] at hon
    have hparked (ha : account = a) : env.parked world row.salt ≠ p := by
      subst ha
      exact hapart user secret row rfl rfl hrow (hold ▸ rfl)
    rw [secret?_rotate, eventsOf_rotate hmoved hparked, if_neg hother, if_neg hother, if_neg]
    · exact ⟨rfl, rfl⟩
    · exact fun h => hparked h.1 h.2.symm
  | @purge user huser =>
    have hfree : isHeld (env.hash user) l.accounts.values account p = false := by
      rw [← Bool.not_eq_true, hsalt.isHeld_iff hl]
      rintro ⟨-, rfl⟩
      simp [Operation.isOn, huser] at hon
    rw [eventsOf_purge, secret?_purge, hfree]
    exact ⟨rfl, rfl⟩

end Ledger

namespace Tenure

variable {env : Environment σ} {s : Session σ} {l l' : Ledger} {account salt : String} {p : Pseudonym}
  {past : List (Moment σ)}

/-- **The past tells** whether a pseudonym has a secret, and which events it has. -/
structure Tells (env : Environment σ) (account salt : String) (p : Pseudonym) (past : List (Moment σ)) (l : Ledger) :
    Prop where
  unhoused : l.accounts.get? account = none → l.secret? account p = none
  held : (l.secret? account p).isSome = isHeld (env.hash · salt) account p past
  events : (l.eventsOf account p).map (EventView.ofRow · none) = Tenure.events (env.hash · salt) account p past

theorem tells_empty : Tells env account salt p [] .empty where
  unhoused := fun _ => rfl
  held := rfl
  events := rfl

theorem Tells.pass (h : Tells env account salt p past l) {m : Moment σ}
    (hm : m.op.isOn (env.hash · salt) account p = false ∨ ∃ e, m.answer = .error e)
    (hunhoused : l'.accounts.get? account = none → l'.secret? account p = none)
    (hsecret : l'.secret? account p = l.secret? account p) (hevents : l'.eventsOf account p = l.eventsOf account p) :
    Tells env account salt p (past ++ [m]) l' := by
  obtain ⟨hheld, hlist⟩ := append_of_not_on hm past
  refine ⟨hunhoused, ?_, ?_⟩
  · rw [hsecret, hheld, h.held]
  · rw [hevents, hlist, h.events]

theorem Tells.insert (h : Tells env account salt p past l) {row : AccountRow} (hsalt : row.salt = salt)
    {user : Option String} (huser : (given user).map (env.hash · salt) = some p) (payload : String) (id : EventId) :
    Tells env account salt p (past ++ [⟨s, .insert user account payload, .ok (.inserted id)⟩])
      ((l.append { id := id.text, account, user := (given user).map (env.hash · row.salt), payload }).issue
        (id.toNat + 1)) := by
  subst hsalt
  obtain ⟨hheld, hlist⟩ := append_of_insert (env.hash · row.salt) account s payload id huser past
  refine ⟨h.unhoused, h.held.trans hheld.symm, ?_⟩
  let e : EventRow := { id := id.text, account, user := (given user).map (env.hash · row.salt), payload }
  have hof : Ledger.isOf account p e = true := Ledger.isOf_iff.2 ⟨rfl, huser⟩
  have hevents : (l.append e).eventsOf account p = l.eventsOf account p ++ [e] := by
    rw [Ledger.eventsOf_append, if_pos hof]
  refine Eq.trans (congrArg _ hevents) ?_
  rw [hlist, List.map_append, h.events, List.map_singleton, EventView.ofRow]
  dsimp only [e]
  rw [huser]

/-- A binding, be it a rotation or not, begins the pseudonym's tenure anew. -/
theorem tells_of_associate {user : String} (hhash : env.hash user salt = p) (secret : String)
    (hunhoused : l.accounts.get? account = none → l.secret? account p = none)
    (hsecret : l.secret? account p = some secret) (hevents : l.eventsOf account p = []) :
    Tells env account salt p (past ++ [⟨s, .associate account user secret, .ok .done⟩]) l := by
  obtain ⟨hheld, hlist⟩ := append_of_associate (env.hash · salt) account s secret hhash past
  refine ⟨hunhoused, ?_, ?_⟩
  · rw [hheld, hsecret]
    rfl
  · rw [hlist, hevents]
    rfl

theorem Tells.purge (h : Tells env account salt p past l) (hl : l.Sound) (howned : l.Owned)
    (hsalt : l.Salts account salt) {user : String} (huser : user ≠ "") (hhash : env.hash user salt = p)
    (hunhoused : l.accounts.get? account = none → (l.purge (env.hash user) l.accounts.values).secret? account p = none) :
    Tells env account salt p (past ++ [⟨s, .purge user, .ok .done⟩]) (l.purge (env.hash user) l.accounts.values) := by
  obtain ⟨hheld, hlist⟩ := append_of_purge (env.hash · salt) account s huser hhash past
  -- The purge may find no such account yet, and then nobody has the pseudonym.
  have hnobody (hfree : ¬Ledger.isHeld (env.hash user) l.accounts.values account p = true) :
      l.secret? account p = none := by
    rw [hsalt.isHeld_iff hl, not_and] at hfree
    cases hget : l.accounts.get? account with
    | none => exact h.unhoused hget
    | some r => exact absurd hhash (hfree (hget ▸ rfl))
  refine ⟨hunhoused, ?_, ?_⟩
  · rw [hheld, Ledger.secret?_purge]
    split
    · rfl
    · next hfree =>
      rw [hnobody hfree]
      rfl
  · rw [hlist, Ledger.eventsOf_purge]
    split
    · rfl
    · next hfree =>
      rw [howned.eventsOf_eq_nil (hnobody hfree)]
      rfl

theorem Tells.step (hl : l.Sound) (howned : l.Owned) (hsalt : l.Salts account salt) {op : Operation}
    {answer : Except StoreError Answer} (hstep : l.Step env s.world op answer l')
    (hapart : l.ParksApart env s.world account p op answer) (h : Tells env account salt p past l) :
    Tells env account salt p (past ++ [⟨s, op, answer⟩]) l' := by
  have hunhoused := hstep.secret?_of_unhoused h.unhoused
  -- Only an operation on the pseudonym counts for the past, and every other one is in the frame.
  by_cases hon : op.isOn (env.hash · salt) account p = true
  · cases hstep with
    | read hread =>
      rw [Operation.isOn_of_isReading _ _ _ hread] at hon
      cases hon
    | fail hissued => exact h.pass (.inr ⟨_, rfl⟩) hunhoused rfl rfl
    | purgeNobody | create => cases hon
    | @insert user a payload row id hrow hbound hid =>
      obtain ⟨rfl, huser⟩ := of_decide_eq_true hon
      exact h.insert (hsalt row hrow) huser payload id
    | @associate a user secret row huser hrow hfree =>
      obtain ⟨rfl, hhash⟩ := of_decide_eq_true hon
      obtain rfl : env.hash user row.salt = p := by rw [hsalt row hrow]; exact hhash
      refine tells_of_associate hhash secret hunhoused ?_ (howned.eventsOf_eq_nil hfree)
      rw [Ledger.secret?_bind, if_pos ⟨rfl, rfl⟩]
    | @rotate a user secret old row moved issued huser hrow hold hissued hmoved =>
      obtain ⟨rfl, hhash⟩ := of_decide_eq_true hon
      obtain rfl : env.hash user row.salt = p := by rw [hsalt row hrow]; exact hhash
      refine tells_of_associate hhash secret hunhoused ?_ ?_
      · rw [Ledger.secret?_rotate, if_pos ⟨rfl, rfl⟩]
      · rw [Ledger.eventsOf_rotate hmoved fun _ => hapart user secret row rfl rfl hrow (hold ▸ rfl), if_pos ⟨rfl, rfl⟩]
    | @purge user huser => exact h.purge hl howned hsalt huser (of_decide_eq_true hon).2 hunhoused
  · rw [Bool.not_eq_true] at hon
    obtain ⟨hsecret, hevents⟩ := Ledger.frame_of_step hl hsalt hstep hon hapart
    exact h.pass (.inl hon) hunhoused hsecret hevents

end Tenure

def Moment.ParksApart (env : Environment σ) (account : String) (p : Pseudonym) (m : Moment σ) : Prop :=
  ∀ user secret row, m.op = .associate account user secret → m.answer = .ok .done →
    m.session.tables.account account = .ok row →
    (m.session.tables.secret? account (env.hash user row.salt)).isSome = true →
    env.parked m.session.world row.salt ≠ p

namespace Session

variable {env : Environment σ} {s : Session σ} {l : Ledger}

theorem Keeps.parksApart (henv : env.Proper) (h : s.Keeps l) {account : String} {p : Pseudonym} {op : Operation}
    {answer : Except StoreError Answer} (hapart : Moment.ParksApart env account p ⟨s, op, answer⟩) :
    l.ParksApart env s.world account p op answer := by
  intro user secret row hop hanswer hrow hsecret
  exact hapart user secret row hop hanswer (h.account_eq_ok_iff.2 hrow) (by rwa [h.secret?_hash henv hrow])

theorem tells_run (henv : env.Proper) (world : σ) (ops : List Operation) (account salt : String) (p : Pseudonym) :
    ∃ l, ((opened .empty world).run env ops).2.Keeps l ∧
      ((∀ m ∈ (opened .empty world).moments env ops, m.ParksApart env account p) → l.Salts account salt →
        Tenure.Tells env account salt p ((opened .empty world).moments env ops) l) := by
  refine run_induction henv (P := fun past l => (∀ m ∈ past, m.ParksApart env account p) → l.Salts account salt →
    Tenure.Tells env account salt p past l) (fun _ _ => Tenure.tells_empty) ?_ world ops
  intro past s l op answer l' hk hstep h hapart hsalt'
  have hsalt : l.Salts account salt := fun row hrow => hsalt' row (hstep.get?_eq_some hrow)
  refine Tenure.Tells.step hk.sound hk.owned hsalt hstep ?_ (h (fun m hm => hapart m (List.mem_append_left _ hm)) hsalt)
  exact hk.parksApart henv (hapart _ (List.mem_append_right _ (List.mem_singleton.2 rfl)))

/-- **A user's tenure is told by the past**: in the view of the account the user has the events of the tenure, in the
order in which they were inserted; the user may insert while there is a tenure; and no operation on another pseudonym
changes the view. -/
structure Tenured (env : Environment σ) (past : List (Moment σ)) (s : Session σ) (account user salt : String) :
    Prop where
  view : (s.after env (.query ((EventQuery.user user).inAccounts [account]))).1 =
    .ok (.events (.ofLists [(account, Tenure.events (env.hash · salt) account (env.hash user salt) past)]))
  insert : ∀ payload id t, Action.nextEventId env s = .ok id t → (s.after env (.insert (some user) account payload)).1 =
    if Tenure.isHeld (env.hash · salt) account (env.hash user salt) past then .ok (.inserted id)
    else .error (.unknownUser account)
  frame : ∀ op, op.isOn (env.hash · salt) account (env.hash user salt) = false →
    Moment.ParksApart env account (env.hash user salt) ⟨s, op, (s.after env op).1⟩ →
    ((s.after env op).2.after env (.query ((EventQuery.user user).inAccounts [account]))).1 =
      (s.after env (.query ((EventQuery.user user).inAccounts [account]))).1

/-- **After every run** in which no rotation parks under the user's pseudonym, the user's tenure is told by the past. -/
theorem tenure_run (henv : env.Proper) (world : σ) (ops : List Operation) {account user : String} {row : AccountRow}
    (huser : user ≠ "") (hrow : ((opened .empty world).run env ops).2.tables.account account = .ok row)
    (hapart : ∀ m ∈ (opened .empty world).moments env ops, m.ParksApart env account (env.hash user row.salt)) :
    ((opened .empty world).run env ops).2.Tenured env ((opened .empty world).moments env ops) account user row.salt := by
  obtain ⟨l, hk, htells⟩ := tells_run henv world ops account row.salt (env.hash user row.salt)
  have hget : l.accounts.get? account = some row := by
    rwa [hk.tables.account_eq hk.sound, Ledger.account_eq_ok_iff] at hrow
  have hsalt : l.Salts account row.salt := fun r hr => by
    rw [hget] at hr
    rw [Option.some.inj hr]
  have htells := htells hapart hsalt
  have hview := hk.after_userQuery henv huser hget
  refine ⟨?_, fun payload id t hid => ?_, fun op hon hparks => ?_⟩
  · rw [hview, htells.events]
  · rw [← htells.held]
    exact hk.after_insert henv huser hget payload hid
  · obtain ⟨l', hstep, hk'⟩ := hk.after henv op
    obtain ⟨-, hevents⟩ := Ledger.frame_of_step hk.sound hsalt hstep hon (hk.parksApart henv hparks)
    rw [hview, ← hevents]
    exact hk'.after_userQuery henv huser (hstep.get?_eq_some hget)

theorem tenure_run_still :
    let ops : List Operation := [.createAccount "a" "A", .associate "a" "u" "s", .insert (some "u") "a" "p",
      .associate "a" "u" "t", .insert (some "u") "a" "q"]
    ∃ row, ((opened .empty ()).run .still ops).2.tables.account "a" = .ok row ∧
      ((opened .empty ()).run .still ops).2.Tenured .still ((opened .empty ()).moments .still ops) "a" "u" row.salt := by
  intro ops
  obtain ⟨row, hrow⟩ : ∃ row, ((opened .empty ()).run .still ops).2.tables.account "a" = .ok row := by
    rw [account_of_created Environment.still_proper () created_still (by simp)]
  refine ⟨row, hrow, tenure_run Environment.still_proper () _ (by decide) hrow fun _ _ _ _ r _ _ _ _ => ?_⟩
  rw [Environment.hash_still]
  exact Environment.parked_still_ne r.salt

/-- **A purge of the empty user ends no tenure**, whichever pseudonym the empty user has. -/
theorem insert_after_purgeNobody (henv : env.Proper) (world : σ) {account name user : String} (secret payload : String)
    (huser : user ≠ "") (hcreated : ((opened .empty world).after env (.createAccount account name)).1 = .ok .done)
    (hid : ∀ s : Session σ, s.lastIssued = none → ∃ id t, Action.nextEventId env s = .ok id t) :
    let ops : List Operation := [.createAccount account name, .associate account user secret, .purge ""]
    (∀ m ∈ (opened .empty world).moments env ops, m.answer = .ok .done) ∧
      ∃ id, (((opened .empty world).run env ops).2.after env (.insert (some user) account payload)).1 =
        .ok (.inserted id) := by
  obtain ⟨row, s₁, hafter₁, hlast₁, h₁, hrow⟩ := after_created henv world hcreated
  obtain ⟨s₂, hafter₂, hlast₂, h₂⟩ := h₁.after_associate henv huser hrow rfl secret
  obtain ⟨hafter₃, h₃⟩ := h₂.after_purgeNobody env
  obtain ⟨id, t, hid⟩ := hid { s₂ with log := s₂.log ++ [.purgedNobody] } (hlast₂.trans hlast₁)
  have hsecret := Ledger.secret?_bind (Ledger.empty.enter row) account (env.hash user row.salt) (some secret) account
    (env.hash user row.salt)
  simp only [moments_cons, moments_nil, run_cons, run_nil, hafter₁, hafter₂, hafter₃]
  refine ⟨by simp, id, ?_⟩
  rw [if_pos ⟨rfl, rfl⟩] at hsecret
  rw [h₃.after_insert henv huser hrow payload hid, hsecret]
  rfl

end Session

def Environment.alike : Environment Unit :=
  { Environment.still with hash := fun _ _ => ⟨"h"⟩ }

theorem Environment.alike_proper : alike.Proper where
  nulFree_hash := fun _ _ => by simp [alike, NulFree]
  reading := still_proper.reading
  fits := still_proper.fits

/-- Where all users have one pseudonym, a user may insert an event although the last operation was a purge of the empty
user, who has the same pseudonym. -/
theorem Session.insert_after_purgeNobody_alike :
    let ops : List Operation := [.createAccount "a" "A", .associate "a" "alice" "s", .purge ""]
    (∀ user salt, Environment.alike.hash user salt = ⟨"h"⟩) ∧
      (∀ m ∈ (opened .empty ()).moments .alike ops, m.answer = .ok .done) ∧
      ∃ id, (((opened .empty ()).run .alike ops).2.after .alike (.insert (some "alice") "a" "p")).1 =
        .ok (.inserted id) := by
  have hcreated : ((opened .empty ()).after .alike (.createAccount "a" "A")).1 = .ok .done := by decide +kernel
  refine ⟨fun _ _ => rfl, insert_after_purgeNobody Environment.alike_proper () "s" "p" (by decide) hcreated ?_⟩
  rintro ⟨tables, _, log, world⟩ rfl
  exact ⟨_, _, rfl⟩

end PseudonymStore
