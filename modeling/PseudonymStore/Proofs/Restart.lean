import PseudonymStore.Proofs.Consistency
import PseudonymStore.Proofs.Operation.Answer
import PseudonymStore.Proofs.Life
/-!
# IDs across reopenings

Within a session IDs ascend whatever the clock reads.  A session that has just been opened knows of no ID: its first one
is of the clock's millisecond, so it comes before stored ones when the clock has not gone on, and all that is promised of
the order of events fails there (`Session.not_inOrder_rewinding`).  Where the clock has passed every ID before the first
one of each session is issued, IDs ascend over the whole life of a store, no event takes the place of another and no
cursor misses one (`Session.inOrder_life`).
-/
namespace PseudonymStore

variable {σ : Type}

namespace Action

variable {env : Environment σ} {s : Session σ}

theorem nextEventId_of_none (hfits : env.Fits) (h : s.lastIssued = none) :
    (nextEventId env).Meets s (fun id t => id.millis = (env.now s.world).1.millis ∧ t.lastIssued = some id)
      fun _ _ => True := by
  have hpassed : s.Passed (env.now s.world).1.millis := fun last hlast => by
    rw [h] at hlast
    cases hlast
  unfold Meets
  rw [nextEventId_of_passed hpassed]
  cases (env.draw EventId.drawLength (env.now s.world).2).1 with
  | none => trivial
  | some drawn => exact ⟨Nat.mod_eq_of_lt (hfits s.world), rfl⟩

theorem insert_of_none (hfits : env.Fits) (h : s.lastIssued = none) (user : Option String) (account payload : String) :
    (insert env user account payload).Meets s (fun id _ => id.millis = (env.now s.world).1.millis) fun _ _ => True := by
  unfold insert
  apply Meets.write
  apply Meets.tables_bind
  refine Meets.ofExcept_bind (fun row _ => ?_) fun _ _ => trivial
  refine Meets.ofExcept_bind (fun author _ => ?_) fun _ _ => trivial
  refine (nextEventId_of_none hfits h).bind ?_
  exact fun id t hid => hid.1

theorem moveEvent_of_none (hfits : env.Fits) (h : s.lastIssued = none) (account : String) (source target : Pseudonym)
    (id : String) :
    (moveEvent env account source target id).Meets s
      (fun moved t => if moved then ∃ id, t.lastIssued = some id ∧ id.millis = (env.now s.world).1.millis
        else t.lastIssued = none ∧ t.world = s.world)
      fun _ _ => True := by
  unfold moveEvent
  apply Meets.tables_bind
  refine Meets.ofExcept_bind ?_ fun _ _ => trivial
  rintro ⟨row, taken⟩ -
  cases row with
  | none => exact ⟨h, rfl⟩
  | some row =>
    refine Meets.bind (P := fun _ t => t = { s with tables := taken }) (Meets.change rfl) ?_
    rintro _ _ rfl
    refine (nextEventId_of_none (s := { s with tables := taken }) hfits h).bind ?_
    exact fun next t hnext => ⟨next, hnext.2, hnext.1⟩

end Action

/-- The world in which an operation reads the clock for its first ID: a rotation has drawn an identifier before. -/
def Operation.clockWorld (op : Operation) (env : Environment σ) (world : σ) : σ :=
  match op with
  | .associate .. => (env.drawIdentifier world).2
  | _ => world

namespace Session

variable {env : Environment σ} {s : Session σ}

theorem millis_of_movedIds (hfits : env.Fits) (account : String) (source target : Pseudonym) :
    ∀ (ids : List String) (s : Session σ), s.lastIssued = none →
      ∀ first ∈ (movedIds env account source target ids s).head?, first.millis = (env.now s.world).1.millis
  | [], s, _, first, hfirst => by cases hfirst
  | id :: ids, s, h, first, hfirst => by
    have hmove := Action.moveEvent_of_none hfits h account source target id
    unfold movedIds at hfirst
    cases hx : Action.moveEvent env account source target id s with
    | error e t =>
      rw [hx] at hfirst
      cases hfirst
    | ok moved t =>
      rw [hx] at hfirst
      have ht := hmove.of_ok hx
      cases moved with
      | true =>
        obtain ⟨next, hnext, hmillis⟩ := ht
        dsimp only at hfirst
        rw [hnext] at hfirst
        cases hfirst
        exact hmillis
      | false =>
        obtain ⟨hnone, hworld⟩ := ht
        rw [← hworld]
        exact millis_of_movedIds hfits account source target ids t hnone first hfirst

theorem millis_of_issuedBy (hfits : env.Fits) (h : s.lastIssued = none) (op : Operation) :
    ∀ first ∈ (s.issuedBy env op).head?, first.millis = (env.now (op.clockWorld env s.world)).1.millis := by
  intro first hfirst
  cases op with
  | insert user account payload =>
    have hinsert := Action.insert_of_none hfits h user account payload
    simp only [issuedBy, after, Operation.perform, Action.map_eq] at hfirst
    cases hx : Action.insert env user account payload s with
    | error e t =>
      rw [hx] at hfirst
      cases hfirst
    | ok id t =>
      rw [hx] at hfirst
      cases hfirst
      exact hinsert.of_ok hx
  | associate account user secret =>
    rw [issuedBy] at hfirst
    cases hrotated : s.rotated? env account user with
    | none =>
      rw [hrotated] at hfirst
      cases hfirst
    | some r =>
      rw [hrotated, Option.elim_some, parkedIds] at hfirst
      exact millis_of_movedIds (s := { s with
        tables := (s.tables.dropSecret _ _).bindSecret _ _ _, world := (env.drawIdentifier s.world).2 })
        hfits _ _ _ _ h first hfirst
  | createAccount | viewAccount | privateKey | query | deletedEvents | purge | checkHealth => cases hfirst

theorem issuedBy_of_inserted {user : Option String} {account payload : String} {id : EventId}
    (h : (s.after env (.insert user account payload)).1 = .ok (.inserted id)) :
    s.issuedBy env (.insert user account payload) = [id] := by
  rw [issuedBy_insert, h]

/-- **The clock has gone on** past all earlier IDs whenever a session issues its first one. -/
def ClockResumes (env : Environment σ) (s : Session σ) (acts : List Act) : Prop :=
  ∀ before op after, acts = before ++ .operate op :: after → (s.life env before).lastIssued = none →
    (s.life env before).issuedBy env op ≠ [] → ∀ id ∈ s.issuedOver env before,
      id.millis < (env.now (op.clockWorld env (s.life env before).world)).1.millis

theorem ClockResumes.of_append {acts acts' : List Act} (h : s.ClockResumes env (acts ++ acts')) :
    s.ClockResumes env acts := by
  intro before op after heq
  exact h before op (after ++ acts') (by rw [heq, List.append_assoc, List.cons_append])

/-- **Events are in order** over the life of a store. -/
structure InOrder (env : Environment σ) (s : Session σ) (acts : List Act) : Prop where
  /-- Every ID that an operation issues is greater than all that are stored before it. -/
  issued : ∀ before op after, acts = before ++ .operate op :: after →
    ∀ id ∈ (s.life env before).issuedBy env op, ∀ e, (s.life env before).tables.Stores e → e.id < id.text
  /-- No operation puts another row in the place of an event's. -/
  kept : ∀ before op after, acts = before ++ .operate op :: after → ∀ key bytes bytes',
    (key, bytes) ∈ (s.life env before).tables.events.rows →
    (key, bytes') ∈ ((s.life env before).after env op).2.tables.events.rows → bytes' = bytes
  /-- An event that is not there yet comes after every cursor that can be taken now. -/
  seen : ∀ before after, acts = before ++ after → ∀ e, (s.life env acts).tables.Stores e →
    (s.life env before).tables.Stores e ∨ ∀ f, (s.life env before).tables.Stores f → f.id < e.id

/-- A session's past: IDs that ascend, and below which it issues none once it has issued one. -/
structure Trails (s : Session σ) (past : List EventId) : Prop where
  ascending : past.Pairwise (·.toNat < ·.toNat)
  issued : s.lastIssued ≠ none → ∀ id ∈ past, id.toNat < s.issued

theorem Trails.lt_issuedBy {past : List EventId} (h : s.Trails past) (hfits : env.Fits) {op : Operation}
    (hresume : s.lastIssued = none → s.issuedBy env op ≠ [] →
      ∀ id ∈ past, id.millis < (env.now (op.clockWorld env s.world)).1.millis) :
    ∀ id ∈ past, ∀ next ∈ s.issuedBy env op, id.toNat < next.toNat := by
  intro id hid next hnext
  have hstep := (s.evolves_after env op).ascending hfits
  by_cases hnone : s.lastIssued = none
  · have hsome := List.ne_nil_of_mem hnext
    have hclock := hresume hnone hsome id hid
    obtain ⟨first, rest, hids⟩ := List.exists_cons_of_ne_nil hsome
    have hmillis := millis_of_issuedBy hfits hnone op first (by rw [hids]; rfl)
    rw [← hmillis] at hclock
    have hfirst : id.toNat < first.toNat := EventId.toNat_lt_of_millis_lt hclock
    rw [hids] at hnext hstep
    rcases List.mem_cons.1 hnext with rfl | hnext
    · exact hfirst
    · exact Nat.lt_trans hfirst ((List.pairwise_cons.1 hstep.1).1 next hnext)
  · exact Nat.lt_of_lt_of_le (h.issued hnone id hid) (hstep.2 next hnext)

theorem Trails.operate {past : List EventId} (h : s.Trails past) (hfits : env.Fits) {op : Operation}
    (hresume : s.lastIssued = none → s.issuedBy env op ≠ [] →
      ∀ id ∈ past, id.millis < (env.now (op.clockWorld env s.world)).1.millis) :
    (s.after env op).2.Trails (past ++ s.issuedBy env op) := by
  have hstep := s.evolves_after env op
  have hlt := h.lt_issuedBy hfits hresume
  refine ⟨List.pairwise_append.2 ⟨h.ascending, (hstep.ascending hfits).1, hlt⟩, fun hsome id hid => ?_⟩
  rcases List.mem_append.1 hid with hid | hid
  · by_cases hids : s.issuedBy env op = []
    · have hlast := hstep.last
      rw [hids, List.getLast?_nil, Option.none_or] at hlast
      exact Nat.lt_of_lt_of_le (h.issued (hlast ▸ hsome) id hid) (hstep.issued_le hfits)
    · obtain ⟨next, hnext⟩ := List.exists_mem_of_ne_nil _ hids
      exact Nat.lt_trans (hlt id hid next hnext) (hstep.lt_issued hfits hnext)
  · exact hstep.lt_issued hfits hid

theorem trails_life (hfits : env.Fits) (world : σ) {acts : List Act}
    (hresume : (opened .empty world).ClockResumes env acts) :
    ((opened .empty world).life env acts).Trails ((opened .empty world).issuedOver env acts) := by
  induction acts using List.reverseRecOn with
  | nil => exact ⟨.nil, fun h => absurd rfl h⟩
  | append_singleton acts a ih =>
    have h := ih hresume.of_append
    rw [life_append, issuedOver_append]
    cases a with
    | operate op =>
      rw [issuedOver, issuedOver, List.append_nil]
      exact h.operate hfits (hresume acts op [] rfl)
    | reopen =>
      rw [issuedOver, issuedOver, List.append_nil]
      exact ⟨h.ascending, fun hnone => absurd rfl hnone⟩

/-- **Events are in order over the life of a store**, as long as the clock has gone on when a session begins to issue
IDs. -/
theorem inOrder_life (hfits : env.Fits) (world : σ) {acts : List Act}
    (hresume : (opened .empty world).ClockResumes env acts) : (opened .empty world).InOrder env acts := by
  have hgrows (before : List Act) := grows_life env before (opened .empty world)
  have hbefore {before : List Act} {op : Operation} {after : List Act} (h : acts = before ++ .operate op :: after) :=
    (trails_life hfits world (h ▸ hresume).of_append).lt_issuedBy hfits (hresume before op after h)
  refine ⟨fun before op after h id hid e he => ?_, fun before op after h key bytes bytes' hold hnew => ?_, ?_⟩
  · obtain ⟨past, hmem, heq⟩ := exists_id_of_stores (hgrows before) he
    rw [heq, EventId.text_lt_text_iff]
    exact hbefore h past hmem id hid
  · rcases (evolves_after env _ op).tables.event _ hnew with hsame | ⟨e, id, hid, he, heq⟩
    · exact OrderedMap.eq_of_mem hsame hold
    · rcases (hgrows before).event _ hold with hnone | ⟨f, past, hmem, hf, hrow⟩
      · cases hnone
      · have hkey := (Prod.mk.inj heq).1.symm.trans (Prod.mk.inj hrow).1
        rw [he, hf] at hkey
        have hsame := RowKey.id_eq_of_event_eq (EventId.nulFree_text id) (EventId.nulFree_text past) hkey
        have hlt := hbefore h past hmem id hid
        rw [EventId.text_inj.1 hsame] at hlt
        exact absurd hlt (Nat.lt_irrefl _)
  · rintro before after rfl e he
    have hall := (trails_life hfits world hresume).ascending
    rw [issuedOver_append, List.pairwise_append] at hall
    rw [life_append] at he
    rcases stores_of_grows (grows_life env after _) he with hold | ⟨id, hid, heq⟩
    · exact Or.inl hold
    · refine Or.inr fun f hf => ?_
      obtain ⟨past, hmem, hpast⟩ := exists_id_of_stores (hgrows before) hf
      rw [heq, hpast, EventId.text_lt_text_iff]
      exact hall.2.2 past hmem id hid

/-! ## A store that is opened twice -/

def ticking (millis : Nat → Nat) : Environment Nat :=
  .told (fun _ => true) millis

def firstId (millis : Nat → Nat) (count : Nat) : EventId :=
  .fresh ((ticking millis).now count).1.millis (List.replicate EventId.drawLength 1)

variable {millis : Nat → Nat}

theorem millis_firstId (hspan : ∀ count, millis count < EventId.millisSpan) (count : Nat) :
    (firstId millis count).millis = millis count := by
  have hread : ((ticking millis).now count).1.millis = millis count := Environment.millis_told _ millis count
  rw [firstId, hread]
  exact Nat.mod_eq_of_lt (hspan count)

theorem insert_ticking {s : Session Nat} {account : String} {row : AccountRow} (hlast : s.lastIssued = none)
    (hrow : s.tables.account account = .ok row) (payload : String) :
    s.after (ticking millis) (.insert none account payload) = (.ok (.inserted (firstId millis s.world)), { s with
      tables := s.tables.putEvent ⟨(firstId millis s.world).text, account, none, payload⟩
      lastIssued := some (firstId millis s.world)
      world := s.world + 2 }) := by
  have hnext : Action.nextEventId (ticking millis) s = .ok (firstId millis s.world) { s with
      lastIssued := some (firstId millis s.world)
      world := s.world + 2 } := by
    cases s
    cases hlast
    rfl
  exact Action.insert_anonymous hrow hnext payload

/-- An account is created and an event inserted; the store is opened again, and another event inserted. -/
def twice : List Act :=
  [.operate (.createAccount "a" "A"), .operate (.insert none "a" "p"), .reopen, .operate (.insert none "a" "q")]

theorem life_twice (hspan : ∀ count, millis count < EventId.millisSpan) : ∃ t u : Session Nat,
    (opened .empty 0).life (ticking millis) (twice.take 1) = t ∧ t.lastIssued = none ∧
    t.after (ticking millis) (.insert none "a" "p") = (.ok (.inserted (firstId millis 3)), u) ∧
    u.lastIssued ≠ none ∧ u.world = 5 ∧ u.tables.Stores ⟨(firstId millis 3).text, "a", none, "p"⟩ ∧
    ((opened u.tables 5).after (ticking millis) (.insert none "a" "q")).1 = .ok (.inserted (firstId millis 5)) := by
  have hcreated : ((opened .empty 0).after (ticking millis) (.createAccount "a" "A")).1 = .ok .done := rfl
  have hworld : ((opened .empty 0).after (ticking millis) (.createAccount "a" "A")).2.world = 3 := rfl
  have henv : (ticking millis).Proper := Environment.told_proper hspan
  obtain ⟨row, t, ht, hlast, hkeeps, hget⟩ := after_created henv 0 hcreated
  rw [ht] at hworld
  have hrow : t.tables.account "a" = .ok row :=
    (hkeeps.tables.account_eq hkeeps.sound "a").trans (Ledger.account_eq_ok_iff.2 hget)
  let e : EventRow := ⟨(firstId millis 3).text, "a", none, "p"⟩
  have hinsert := @insert_ticking millis t "a" row hlast hrow "p"
  rw [hworld] at hinsert
  have hput : (opened (t.tables.putEvent e) 5).tables.account "a" = .ok row := hrow
  have hagain := @insert_ticking millis (opened (t.tables.putEvent e) 5) "a" row rfl hput "q"
  refine ⟨t, _, congrArg Prod.snd ht, hlast, hinsert, by simp, rfl, ⟨_, ?_, EventRow.ofBytes_bytes _⟩, ?_⟩
  · exact OrderedMap.mem_insert.2 (Or.inl rfl)
  · exact congrArg Prod.fst hagain

theorem life_twice_reopened {t u : Session Nat} (hcreate : (opened .empty 0).life (ticking millis) (twice.take 1) = t)
    {answer : Except StoreError Answer} (hinsert : t.after (ticking millis) (.insert none "a" "p") = (answer, u)) :
    (opened .empty 0).life (ticking millis) (twice.take 3) = opened u.tables u.world := by
  have hacts : twice.take 3 = twice.take 1 ++ [.operate (.insert none "a" "p"), .reopen] := rfl
  rw [hacts, life_append, hcreate, life_cons, life_cons, life_nil, act, act, hinsert]

/-- **IDs do not ascend across reopenings**: where the clock steps back, an event that is inserted after a reopening comes
before one that is stored already. -/
theorem not_inOrder_rewinding :
    (ticking (10 - ·)).Fits ∧ ¬ (opened .empty 0).InOrder (ticking (10 - ·)) twice := by
  have hspan (count : Nat) : 10 - count < EventId.millisSpan := Nat.lt_of_le_of_lt (Nat.sub_le 10 count) (by decide)
  refine ⟨(Environment.told_proper hspan).fits, fun h => ?_⟩
  obtain ⟨t, u, hcreate, -, hinsert, -, hworld, hstores, hagain⟩ := life_twice hspan
  have hissued := h.issued (twice.take 3) (.insert none "a" "q") [] rfl
  rw [life_twice_reopened hcreate hinsert, hworld, issuedBy_of_inserted hagain] at hissued
  have hlt := hissued _ (List.mem_singleton_self _) _ hstores
  have hback : (firstId (10 - ·) 5).millis < (firstId (10 - ·) 3).millis := by
    rw [millis_firstId hspan, millis_firstId hspan]
    decide
  rw [EventId.text_lt_text_iff] at hlt
  exact Nat.lt_asymm hlt (EventId.toNat_lt_of_millis_lt hback)

/-- Where the clock goes on, events are in order across the reopening. -/
theorem inOrder_life_ticking : (opened .empty 0).ClockResumes (ticking (· % 1000)) twice ∧
    (opened .empty 0).InOrder (ticking (· % 1000)) twice := by
  have hspan (count : Nat) : count % 1000 < EventId.millisSpan := Nat.lt_trans (Nat.mod_lt count (by decide)) (by decide)
  obtain ⟨t, u, hcreate, -, hinsert, hlast, hworld, -, -⟩ := life_twice hspan
  have hfirst : (opened .empty 0).issuedOver (ticking (· % 1000)) (twice.take 1) = [] := rfl
  have hresume : (opened .empty 0).ClockResumes (ticking (· % 1000)) twice := by
    intro before op after heq hnone hsome id hid
    have hprefix := List.prefix_iff_eq_take.1 ⟨_, heq.symm⟩
    have hlength : before.length < 4 := by
      have hall := congrArg List.length heq
      simp only [twice, List.length_cons, List.length_nil, List.length_append] at hall
      omega
    generalize before.length = n at hprefix hlength
    subst hprefix
    obtain rfl | rfl | rfl | rfl : n = 0 ∨ n = 1 ∨ n = 2 ∨ n = 3 := by omega
    · cases hid
    · rw [hfirst] at hid
      cases hid
    · have hacts : twice.take 2 = twice.take 1 ++ [.operate (.insert none "a" "p")] := rfl
      rw [hacts, life_append, hcreate, life_cons, life_nil, act, hinsert] at hnone
      exact absurd hnone hlast
    · have hacts : twice.take 3 = twice.take 1 ++ [.operate (.insert none "a" "p"), .reopen] := rfl
      obtain ⟨heq, -⟩ := List.cons.inj ((List.append_right_inj (twice.take 3)).1 heq)
      cases heq
      rw [hacts, issuedOver_append, hfirst, hcreate, List.nil_append, issuedOver, issuedOver, issuedOver, List.append_nil,
        issuedBy_of_inserted (congrArg Prod.fst hinsert), List.mem_singleton] at hid
      rw [life_twice_reopened hcreate hinsert, hworld, hid, millis_firstId hspan]
      show _ < ((Environment.told _ _).now 5).1.millis
      rw [Environment.millis_told]
      decide
  exact ⟨hresume, inOrder_life (Environment.told_proper hspan).fits 0 hresume⟩

end Session

end PseudonymStore
