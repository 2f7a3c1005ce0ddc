import PseudonymStore.Proofs.Operation.Answer
/-!
# Mirrors

A client keeps a mirror of one view of the store and a cursor.  When it polls, it asks for the events after the cursor
and for those of its events that are gone, and brings the mirror up to date.  Where rotations park freshly, the mirror
after a poll is the view itself, whatever has happened between the polls (`Client.mirror_run`): IDs ascend, so what is
new is after the cursor, and an event that is left under its ID has not changed in any way that the view shows.
-/
namespace PseudonymStore

variable {σ : Type}

/-- A client of a store: the events that it knows by their IDs, and the greatest ID that it has seen. -/
structure Client (σ : Type) where
  session : Session σ
  mirror : OrderedMap String EventView
  cursor : Option String

inductive Turn where
  | operate (op : Operation)
  | poll

def Turn.operation? : Turn → Option Operation
  | operate op => some op
  | poll => none

namespace Client

def opened (world : σ) : Client σ where
  session := .opened .empty world
  mirror := .empty
  cursor := none

def update (mirror : OrderedMap String EventView) (gone : List String) (news : List EventView) :
    OrderedMap String EventView :=
  (news.map fun v => (v.id, v)).foldl (fun m r => m.insert r.1 r.2) (gone.foldl .erase mirror)

def advance (cursor : Option String) (news : List EventView) : Option String :=
  news.foldl (fun c v => if comesAfter c v.id then some v.id else c) cursor

/-- **A poll** of a view; one that fails changes neither the mirror nor the cursor. -/
def poll (env : Environment σ) (q : EventQuery) (c : Client σ) : Client σ :=
  match c.session.after env (.query { q with cursor := c.cursor }) with
  | (.ok (.events m), s) =>
    match s.after env (.deletedEvents (c.mirror.rows.map (·.1)) q.userId) with
    | (.ok (.deleted gone), s) => ⟨s, update c.mirror gone m.all, advance c.cursor m.all⟩
    | (_, s) => { c with session := s }
  | (_, s) => { c with session := s }

def after (env : Environment σ) (q : EventQuery) (c : Client σ) : Turn → Client σ
  | .operate op => { c with session := (c.session.after env op).2 }
  | .poll => c.poll env q

def run (env : Environment σ) (q : EventQuery) (c : Client σ) (turns : List Turn) : Client σ :=
  turns.foldl (after env q) c

def ParksFreshly (env : Environment σ) (q : EventQuery) (c : Client σ) (turns : List Turn) : Prop :=
  ∀ past op rest, turns = past ++ .operate op :: rest →
    Moment.ParksFreshly env ⟨(c.run env q past).session, op, ((c.run env q past).session.after env op).1⟩

end Client

namespace Ledger

def Shows (l : Ledger) (env : Environment σ) (q : EventQuery) (e : EventRow) : Prop :=
  match given q.userId with
  | some user => (q.accounts = [] ∨ e.account ∈ q.accounts) ∧
      ∃ r, l.accounts.get? e.account = some r ∧ e.user = some (env.hash user r.salt)
  | none => e.account ∈ q.accounts

def viewIn (l : Ledger) (q : EventQuery) (e : EventRow) : EventView :=
  match given q.userId with
  | some _ => .ofRow e none
  | none => l.view e

theorem id_viewIn (l : Ledger) (q : EventQuery) (e : EventRow) : (l.viewIn q e).id = e.id := by
  unfold viewIn
  split <;> rfl

theorem mem_answer_iff {env : Environment σ} {l : Ledger} (hl : l.Sound) {q : EventQuery} {m : EventsByAccount}
    (hm : l.answer env q = .ok m) {v : EventView} :
    v ∈ m.all ↔ ∃ e ∈ l.events, l.Shows env q e ∧ comesAfter (given q.cursor) e.id = true ∧ v = l.viewIn q e := by
  obtain ⟨rows, hrows⟩ : ∃ rows, l.covered q = .ok rows := by
    cases hrows : l.covered q with
    | ok rows => exact ⟨rows, rfl⟩
    | error e =>
      rw [answer, hrows] at hm
      cases hm
  rw [mem_answer hl hrows hm]
  simp only [mem_covered_iff hl hrows, shown, Shows, viewIn]
  cases hu : given q.userId with
  | none =>
    simp only [mem_operatorEvents, Option.isSome_none, Bool.false_eq_true, false_and, or_false]
    constructor
    · rintro ⟨r, ⟨-, hr⟩, e, he, ha, hsince, rfl⟩
      exact ⟨e, he, ha ▸ hr, hsince, rfl⟩
    · rintro ⟨e, he, ha, hsince, rfl⟩
      obtain ⟨r, hr⟩ := hl.housed e he
      have hget := OrderedMap.get?_eq_some_iff.2 hr
      have haccount := hl.account_of_get? hget
      exact ⟨r, ⟨haccount ▸ hget, haccount ▸ ha⟩, e, he, haccount.symm, hsince, rfl⟩
  | some user =>
    simp only [mem_userEvents, Option.isSome_some, true_and]
    constructor
    · rintro ⟨r, ⟨hget, hr⟩, e, he, ha, hp, hsince, rfl⟩
      rw [← ha] at hget hr
      exact ⟨e, he, ⟨hr.symm, r, hget, hp⟩, hsince, rfl⟩
    · rintro ⟨e, he, ⟨hr, r, hget, hp⟩, hsince, rfl⟩
      have haccount := hl.account_of_get? hget
      rw [← haccount] at hget hr
      exact ⟨r, ⟨hget, hr.symm⟩, e, he, haccount.symm, hp, hsince, rfl⟩

theorem isKnown_of_shows {env : Environment σ} {l : Ledger} (hl : l.Sound) {q : EventQuery} {e : EventRow}
    (h : l.Shows env q e) : l.isKnown ((given q.userId).map env.hash) e = true := by
  unfold Shows at h
  unfold isKnown
  cases hu : given q.userId with
  | none => rfl
  | some user =>
    rw [hu] at h
    obtain ⟨-, r, hget, hp⟩ := h
    rw [Option.map_some, Option.all_some, hp, Option.any_some, isHeld_values_iff hl]
    exact ⟨r, hget, rfl⟩

end Ledger

namespace Client

/-- **A mirror that can be brought up to date**: what it knows and its cursor have been issued; an event that it knows
is still shown as it knows it, or is gone; and an event that it does not know comes after the cursor. -/
structure Follows (env : Environment σ) (q : EventQuery) (l : Ledger) (mirror : OrderedMap String EventView)
    (cursor : Option String) : Prop where
  seen : ∀ c, cursor = some c → ∃ id : EventId, c = id.text ∧ id.toNat < l.issued
  known : ∀ r ∈ mirror.rows, ∃ id : EventId, r.1 = id.text ∧ id.toNat < l.issued
  live : ∀ r ∈ mirror.rows, ∀ e ∈ l.events, e.id = r.1 → l.Shows env q e ∧ r.2 = l.viewIn q e
  new : ∀ e ∈ l.events, l.Shows env q e → comesAfter cursor e.id = true ∨ (e.id, l.viewIn q e) ∈ mirror.rows

def IsExact (env : Environment σ) (q : EventQuery) (l : Ledger) (mirror : OrderedMap String EventView) : Prop :=
  ∀ r, r ∈ mirror.rows ↔ ∃ e ∈ l.events, l.Shows env q e ∧ r = (e.id, l.viewIn q e)

variable {env : Environment σ} {q : EventQuery} {l l' : Ledger} {mirror : OrderedMap String EventView}
  {cursor : Option String}

theorem follows_empty : Follows env q .empty .empty none where
  seen := by simp
  known := by simp [OrderedMap.empty]
  live := by simp [OrderedMap.empty]
  new := by simp [Ledger.empty]

/-- **An operation leaves a mirror behind by what it can catch up with.** -/
theorem Follows.step (henv : env.Proper) {s : Session σ} (hs : s.Keeps l) (h : Follows env q l mirror cursor)
    {op : Operation} {answer : Except StoreError Answer} (hstep : l.Step env s.world op answer l')
    (hfresh : Moment.ParksFreshly env ⟨s, op, answer⟩) : Follows env q l' mirror cursor := by
  have hissued := hstep.issued_le
  -- A step puts events under new IDs only, so it has not touched an event whose ID was issued before.
  have hold {e : EventRow} (he : e ∈ l'.events) (hid : ∃ id : EventId, e.id = id.text ∧ id.toNat < l.issued) :
      e ∈ l.events ∧ l'.view e = l.view e := by
    rcases hstep.mem_or_issued he with hel | ⟨id, hid', hle⟩
    · exact ⟨hel, hs.view_eq henv hstep hfresh hel he⟩
    · obtain ⟨id₀, hid₀, hlt⟩ := hid
      rw [hid', EventId.text_inj] at hid₀
      subst hid₀
      omega
  have hshows {e : EventRow} (he : e ∈ l.events) (hview : l'.view e = l.view e) :
      (l'.Shows env q e ↔ l.Shows env q e) ∧ l'.viewIn q e = l.viewIn q e := by
    obtain ⟨r, hr⟩ := hs.sound.housed e he
    have hget := OrderedMap.get?_eq_some_iff.2 hr
    rw [Ledger.Shows, Ledger.Shows, Ledger.viewIn, Ledger.viewIn, hview, hget, hstep.get?_eq_some hget]
    exact ⟨Iff.rfl, rfl⟩
  refine ⟨fun c hc => ?_, fun r hr => ?_, fun r hr e he hid => ?_, fun e he hshown => ?_⟩
  · obtain ⟨id, hid, hlt⟩ := h.seen c hc
    exact ⟨id, hid, by omega⟩
  · obtain ⟨id, hid, hlt⟩ := h.known r hr
    exact ⟨id, hid, by omega⟩
  · obtain ⟨hel, hview⟩ := hold he (hid ▸ h.known r hr)
    rw [(hshows hel hview).1, (hshows hel hview).2]
    exact h.live r hr e hel hid
  · rcases hstep.mem_or_issued he with hel | ⟨id, hid, hle⟩
    · have hview := hs.view_eq henv hstep hfresh hel he
      rw [(hshows hel hview).1] at hshown
      rw [(hshows hel hview).2]
      exact h.new e hel hshown
    · refine Or.inl ?_
      cases hc : cursor with
      | none => rfl
      | some c =>
        obtain ⟨id', hid', hlt⟩ := h.seen c hc
        rw [comesAfter_some, decide_eq_true_iff, hid, hid', EventId.text_lt_text_iff]
        omega

theorem advance_eq : ∀ (news : List EventView) (cursor : Option String),
    advance cursor news = cursor ∨ ∃ v ∈ news, advance cursor news = some v.id
  | [], cursor => Or.inl rfl
  | v :: news, cursor => by
    rw [advance, List.foldl_cons]
    rcases advance_eq news (if comesAfter cursor v.id then some v.id else cursor) with h | ⟨w, hw, h⟩
    · rw [← advance, h]
      split
      · exact Or.inr ⟨v, List.mem_cons_self, rfl⟩
      · exact Or.inl rfl
    · exact Or.inr ⟨w, List.mem_cons_of_mem _ hw, h⟩

theorem Follows.mem_news (hl : l.Sound) (h : Follows env q l mirror cursor) {m : EventsByAccount}
    (hm : l.answer env { q with cursor } = .ok m) {v : EventView} :
    v ∈ m.all ↔ ∃ e ∈ l.events, l.Shows env q e ∧ comesAfter cursor e.id = true ∧ v = l.viewIn q e := by
  have hgiven : given cursor = cursor := by
    cases hc : cursor with
    | none => rfl
    | some c =>
      obtain ⟨id, hid, -⟩ := h.seen c hc
      simp [given, hid, id.text_ne_empty]
  rw [Ledger.mem_answer_iff hl hm]
  dsimp only
  rw [hgiven]
  rfl

theorem Follows.exact_update (hl : l.Sound) (h : Follows env q l mirror cursor) {m : EventsByAccount}
    (hm : l.answer env { q with cursor } = .ok m) :
    IsExact env q l
      (update mirror ((mirror.rows.map (·.1)).filter (l.isGone ((given q.userId).map env.hash))) m.all) := by
  have hid := l.id_viewIn q
  have hone : ∀ r ∈ m.all.map fun v => (v.id, v), ∀ s ∈ m.all.map fun v => (v.id, v), r.1 = s.1 → r = s := by
    intro r hr s hs heq
    obtain ⟨v, hv, rfl⟩ := List.mem_map.1 hr
    obtain ⟨w, hw, rfl⟩ := List.mem_map.1 hs
    obtain ⟨e, he, -, -, rfl⟩ := (h.mem_news hl hm).1 hv
    obtain ⟨f, hf, -, -, rfl⟩ := (h.mem_news hl hm).1 hw
    dsimp only at heq
    rw [hid, hid] at heq
    rw [hl.eq_of_id he hf heq]
  have hgone {r : String × EventView} (hr : r ∈ mirror.rows) : l.isGone ((given q.userId).map env.hash) r.1 = true ↔
      ∀ e ∈ l.events, e.id ≠ r.1 := by
    rw [Ledger.isGone, Bool.not_eq_true', ← Bool.not_eq_true, List.any_eq_true, not_exists]
    refine forall_congr' fun e => ?_
    rw [not_and, decide_eq_true_iff]
    refine forall_congr' fun he => not_congr ⟨fun heq => heq.1, fun heq => ⟨heq, ?_⟩⟩
    exact Ledger.isKnown_of_shows hl (h.live r hr e he heq).1
  intro r
  rw [update, OrderedMap.mem_foldl_insert hone, OrderedMap.mem_foldl_erase]
  constructor
  · rintro (hr | ⟨-, hstay, hr⟩)
    · obtain ⟨v, hv, rfl⟩ := List.mem_map.1 hr
      obtain ⟨e, he, hshown, -, rfl⟩ := (h.mem_news hl hm).1 hv
      exact ⟨e, he, hshown, by rw [hid]⟩
    · rw [List.mem_filter, not_and, hgone hr] at hstay
      have hstay := hstay (List.mem_map.2 ⟨r, hr, rfl⟩)
      push Not at hstay
      obtain ⟨e, he, heq⟩ := hstay
      obtain ⟨hshown, hview⟩ := h.live r hr e he heq
      exact ⟨e, he, hshown, by rw [heq, ← hview]⟩
  · rintro ⟨e, he, hshown, rfl⟩
    by_cases hsince : comesAfter cursor e.id = true
    · refine Or.inl (List.mem_map.2 ⟨l.viewIn q e, (h.mem_news hl hm).2 ⟨e, he, hshown, hsince, rfl⟩, ?_⟩)
      rw [hid]
    · -- An event up to the cursor is known already, and nothing new is under its ID.
      have hr := (h.new e he hshown).resolve_left hsince
      refine Or.inr ⟨?_, ?_, hr⟩
      · intro s hs heq
        obtain ⟨v, hv, rfl⟩ := List.mem_map.1 hs
        obtain ⟨f, hf, -, hsince', rfl⟩ := (h.mem_news hl hm).1 hv
        dsimp only at heq
        rw [hid] at heq
        exact hsince (heq ▸ hsince')
      · rw [List.mem_filter, not_and]
        exact fun _ hg => (hgone hr).1 hg e he rfl

theorem IsExact.follows (hl : l.Sound) (h : IsExact env q l mirror)
    (hcursor : ∀ c, cursor = some c → ∃ id : EventId, c = id.text ∧ id.toNat < l.issued) :
    Follows env q l mirror cursor where
  seen := hcursor
  known := by
    intro r hr
    obtain ⟨e, he, -, rfl⟩ := (h r).1 hr
    exact hl.below e he
  live := by
    intro r hr e he hid
    obtain ⟨f, hf, hshown, rfl⟩ := (h r).1 hr
    rw [hl.eq_of_id he hf hid]
    exact ⟨hshown, rfl⟩
  new := fun e he hshown => Or.inr ((h _).2 ⟨e, he, hshown, rfl⟩)

theorem poll_session (henv : env.Proper) {c : Client σ} (hs : c.session.Keeps l) :
    (c.poll env q).session = c.session := by
  unfold poll
  rw [hs.after_query henv]
  cases l.answer env { q with cursor := c.cursor } with
  | error e => rfl
  | ok m =>
    dsimp only
    rw [hs.after_deletedEvents henv]

theorem Follows.poll (henv : env.Proper) {c : Client σ} (hs : c.session.Keeps l)
    (h : Follows env q l c.mirror c.cursor) :
    Follows env q l (c.poll env q).mirror (c.poll env q).cursor ∧
      ∀ rows, l.covered q = .ok rows → IsExact env q l (c.poll env q).mirror := by
  have hquery := hs.after_query henv { q with cursor := c.cursor }
  have hcovered : l.covered { q with cursor := c.cursor } = l.covered q := rfl
  unfold Client.poll
  rw [hquery]
  cases hm : l.answer env { q with cursor := c.cursor } with
  | error e =>
    refine ⟨h, fun rows hrows => ?_⟩
    rw [Ledger.answer, hcovered, hrows] at hm
    cases hm
  | ok m =>
    dsimp only
    rw [hs.after_deletedEvents henv]
    have hexact := h.exact_update hs.sound hm
    refine ⟨hexact.follows hs.sound fun id hid => ?_, fun _ _ => hexact⟩
    rcases advance_eq m.all c.cursor with heq | ⟨v, hv, heq⟩
    · exact h.seen id (heq ▸ hid)
    · obtain ⟨e, he, -, -, rfl⟩ := (h.mem_news hs.sound hm).1 hv
      have hid : advance c.cursor m.all = some id := hid
      rw [heq, Ledger.id_viewIn] at hid
      exact Option.some.inj hid ▸ hs.sound.below e he

theorem run_append (env : Environment σ) (q : EventQuery) (c : Client σ) (turns : List Turn) (turn : Turn) :
    c.run env q (turns ++ [turn]) = (c.run env q turns).after env q turn := by
  simp [run]

theorem ParksFreshly.of_append {c : Client σ} {turns : List Turn} {turn : Turn}
    (h : c.ParksFreshly env q (turns ++ [turn])) :
    c.ParksFreshly env q turns := fun past op rest heq =>
  h past op (rest ++ [turn]) (by rw [heq, List.append_assoc, List.cons_append])

theorem session_run (henv : env.Proper) {c : Client σ} {l : Ledger} (hs : c.session.Keeps l) (turns : List Turn) :
    (c.run env q turns).session = (c.session.run env (turns.filterMap Turn.operation?)).2 := by
  induction turns generalizing c l with
  | nil => rfl
  | cons turn turns ih =>
    cases turn with
    | operate op =>
      obtain ⟨l', -, hs'⟩ := hs.after henv op
      exact ih (c := c.after env q (.operate op)) hs'
    | poll =>
      have hsession := poll_session (q := q) henv hs
      have hs' : (c.poll env q).session.Keeps l := hsession ▸ hs
      have hrun := ih hs'
      rw [hsession] at hrun
      exact hrun

theorem parksFreshly_of_moments (henv : env.Proper) {c : Client σ} {l : Ledger} (hs : c.session.Keeps l)
    {turns : List Turn} (h : ∀ m ∈ c.session.moments env (turns.filterMap Turn.operation?), m.ParksFreshly env) :
    c.ParksFreshly env q turns := by
  rintro past op rest rfl
  rw [session_run henv hs]
  refine h _ ?_
  rw [List.filterMap_append, Session.moments_append]
  exact List.mem_append_right _ List.mem_cons_self

theorem follows_run (henv : env.Proper) (world : σ) (turns : List Turn)
    (hfresh : (opened world).ParksFreshly env q turns) :
    ∃ l, ((opened world).run env q turns).session.Keeps l ∧
      Follows env q l ((opened world).run env q turns).mirror ((opened world).run env q turns).cursor := by
  induction turns using List.reverseRecOn with
  | nil => exact ⟨.empty, Session.keeps_opened world, follows_empty⟩
  | append_singleton turns turn ih =>
    obtain ⟨l, hl, hfollows⟩ := ih hfresh.of_append
    rw [run_append]
    cases turn with
    | operate op =>
      obtain ⟨l', hstep, hl'⟩ := hl.after henv op
      exact ⟨l', hl', hfollows.step henv hl hstep (hfresh turns op [] rfl)⟩
    | poll =>
      refine ⟨l, ?_, (hfollows.poll henv hl).1⟩
      rw [after, poll_session henv hl]
      exact hl

/-- **Mirrors are exact**: whatever has happened between the polls, after a poll the mirror holds every event that the
query without a cursor shows then, as it is shown then, and no other. -/
theorem mirror_run (henv : env.Proper) (world : σ) (q : EventQuery) (turns : List Turn)
    (hfresh : (opened world).ParksFreshly env q turns)
    (hexist : ∀ a ∈ q.accounts, ∃ r, ((opened world).run env q turns).session.tables.account a = .ok r) :
    ∃ m, (((opened world).run env q (turns ++ [.poll])).session.after env (.query { q with cursor := none })).1 =
        .ok (.events m) ∧
      ∀ id v, (id, v) ∈ ((opened world).run env q (turns ++ [.poll])).mirror.rows ↔ v ∈ m.all ∧ id = v.id := by
  obtain ⟨l, hl, hfollows⟩ := follows_run henv world turns hfresh
  obtain ⟨-, hexact⟩ := hfollows.poll henv hl
  obtain ⟨rows, hrows⟩ : ∃ rows, l.covered q = .ok rows := by
    unfold Ledger.covered
    split
    · exact ⟨_, rfl⟩
    · refine ⟨_, Ledger.named_eq_ok fun a ha => ?_⟩
      obtain ⟨r, hr⟩ := hexist a ha
      rw [hl.tables.account_eq hl.sound, Ledger.account_eq_ok_iff] at hr
      rw [hr]
      rfl
  have hcovered : l.covered { q with cursor := none } = .ok rows := hrows
  obtain ⟨m, hm⟩ : ∃ m, l.answer env { q with cursor := none } = .ok m := by
    rw [Ledger.answer, hcovered]
    exact ⟨_, rfl⟩
  rw [run_append, after, poll_session henv hl, hl.after_query henv, hm]
  refine ⟨m, rfl, fun id v => ?_⟩
  rw [hexact rows hrows (id, v), Ledger.mem_answer_iff hl.sound hm]
  constructor
  · rintro ⟨e, he, hshown, heq⟩
    cases heq
    exact ⟨⟨e, he, hshown, rfl, rfl⟩, (l.id_viewIn q e).symm⟩
  · rintro ⟨⟨e, he, hshown, -, rfl⟩, rfl⟩
    exact ⟨e, he, hshown, by rw [← l.id_viewIn q e]; rfl⟩

/-- Where the world stands still, a client polls before and after a user's secret is changed. -/
theorem mirror_run_still :
    let turns : List Turn := [.operate (.createAccount "a" "A"), .operate (.associate "a" "u" "s"),
      .operate (.insert (some "u") "a" "p"), .poll, .operate (.associate "a" "u" "t"),
      .operate (.insert (some "u") "a" "q")]
    ∃ m, (((opened ()).run .still (.operator ["a"]) (turns ++ [.poll])).session.after .still
        (.query { EventQuery.operator ["a"] with cursor := none })).1 = .ok (.events m) ∧
      ∀ id v, (id, v) ∈ ((opened ()).run .still (.operator ["a"]) (turns ++ [.poll])).mirror.rows ↔
        v ∈ m.all ∧ id = v.id := by
  refine mirror_run Environment.still_proper () _ _ ?_ fun a ha => ?_
  · refine parksFreshly_of_moments Environment.still_proper (Session.keeps_opened ()) ?_
    simp only [opened, List.filterMap_cons, List.filterMap_nil, Turn.operation?]
    exact Session.parksFreshly_still
  · rw [session_run Environment.still_proper (Session.keeps_opened ())]
    simp only [opened, List.filterMap_cons, List.filterMap_nil, Turn.operation?]
    rw [Session.account_of_created Environment.still_proper () Session.created_still (by simp)]
    exact List.mem_singleton.1 ha

end Client

end PseudonymStore
