import PseudonymStore.Proofs.Session
import Mathlib.Data.List.Induction
/-!
# The generator of IDs

A request for an ID is answered from the last one, the clock and a draw, whatever the tables hold.  However the clock
goes and whichever requests fail, the IDs of a generator ascend as texts, as long as none is issued at a time that does
not fit an ID (`Session.ascending_requests`): of such a time only the low bits are kept, and the order breaks
(`Session.not_ascending_wrapping`).  While the clock stands, a generator counts up from its last ID or from a drawn one,
and stays at the greatest ID of the millisecond when there is none left (`Action.issueIds_of_last`,
`Action.issueIds_of_passed`).
-/
namespace PseudonymStore

variable {σ : Type} {env : Environment σ} {s : Session σ}

/-! ## Requests one after the other -/

structure Request where
  reading : Nat
  answer : Except StoreError EventId

def Request.ids (rs : List Request) : List EventId :=
  rs.filterMap (·.answer.toOption)

namespace Session

def request (env : Environment σ) (s : Session σ) : Request × Session σ :=
  match Action.nextEventId env s with
  | .ok id t => (⟨(env.now s.world).1.millis, .ok id⟩, t)
  | .error e t => (⟨(env.now s.world).1.millis, .error e⟩, t)

/-- Requests one after the other, whatever the earlier ones have answered.  What becomes of the world between them is
left open: each request meets one of its own. -/
def requests (env : Environment σ) (s : Session σ) : List σ → List Request
  | [] => []
  | world :: worlds =>
    let (r, t) := ({ s with world } : Session σ).request env
    r :: t.requests env worlds

theorem request_cases (env : Environment σ) (s : Session σ) :
    (∃ id, (s.request env).1 = ⟨(env.now s.world).1.millis, .ok id⟩ ∧ (s.request env).2.lastIssued = some id ∧
      ((env.now s.world).1.millis < EventId.millisSpan → s.issued ≤ id.toNat)) ∨
    ∃ e, (s.request env).1 = ⟨(env.now s.world).1.millis, .error e⟩ ∧ (s.request env).2.lastIssued = s.lastIssued := by
  have hissues := Action.nextEventId_issues env s
  unfold request
  cases hx : Action.nextEventId env s with
  | ok id t =>
    obtain ⟨hid, world, rfl⟩ := hissues.of_ok hx
    exact Or.inl ⟨id, rfl, rfl, hid⟩
  | error e t =>
    obtain ⟨world, rfl⟩ := hissues.of_error hx
    exact Or.inr ⟨e, rfl, rfl⟩

theorem issued_congr {t : Session σ} (h : t.lastIssued = s.lastIssued) : t.issued = s.issued := by
  rw [issued, h, issued]

theorem requests_cons (env : Environment σ) (s : Session σ) (world : σ) (worlds : List σ) :
    s.requests env (world :: worlds) =
      (({ s with world } : Session σ).request env).1 :: (({ s with world } : Session σ).request env).2.requests env worlds :=
  rfl

theorem exists_of_requests_append (env : Environment σ) : ∀ (before : List Request) {rest : List Request}
    (worlds : List σ) {s : Session σ}, s.requests env worlds = before ++ rest →
    ∃ (t : Session σ) (worlds' : List σ), t.requests env worlds' = rest ∧
      t.lastIssued = (Request.ids before).getLast?.or s.lastIssued
  | [], _, worlds, s, h => ⟨s, worlds, h, rfl⟩
  | _ :: _, _, [], _, h => by cases h
  | r :: before, rest, world :: worlds, s, h => by
    rw [requests_cons, List.cons_append] at h
    obtain ⟨rfl, hrest⟩ := List.cons.inj h
    obtain ⟨t, worlds', ht, hlast⟩ := exists_of_requests_append env before worlds hrest
    refine ⟨t, worlds', ht, hlast.trans ?_⟩
    rcases request_cases env { s with world } with ⟨id, hid, hissued, -⟩ | ⟨e, he, hissued⟩
    · rw [hissued, hid]
      show _ = (id :: Request.ids before).getLast?.or s.lastIssued
      rw [List.getLast?_cons, Option.some_or]
      cases (Request.ids before).getLast? <;> rfl
    · rw [hissued, he]
      rfl

theorem ascending_of_fits (env : Environment σ) : ∀ (stretch : List Request) {rest : List Request} (worlds : List σ)
    {s : Session σ}, s.requests env worlds = stretch ++ rest →
    (∀ r ∈ stretch, r.answer.toOption ≠ none → r.reading < EventId.millisSpan) →
    (Request.ids stretch).Pairwise (·.toNat < ·.toNat) ∧ ∀ id ∈ Request.ids stretch, s.issued ≤ id.toNat
  | [], _, _, _, _, _ => ⟨.nil, fun _ hid => by cases hid⟩
  | _ :: _, _, [], _, h, _ => by cases h
  | r :: stretch, rest, world :: worlds, s, h, hfits => by
    rw [requests_cons, List.cons_append] at h
    obtain ⟨rfl, hrest⟩ := List.cons.inj h
    have ih := ascending_of_fits env stretch worlds hrest fun q hq => hfits q (List.mem_cons_of_mem _ hq)
    have hfirst := hfits _ List.mem_cons_self
    rcases request_cases env { s with world } with ⟨id, hid, hissued, hle⟩ | ⟨e, he, hissued⟩
    · rw [hid] at hfirst ⊢
      rw [issued, hissued, Option.elim_some] at ih
      have hle : s.issued ≤ id.toNat := hle (hfirst (Option.some_ne_none id))
      refine ⟨List.pairwise_cons.2 ⟨fun next hnext => ih.2 next hnext, ih.1⟩, ?_⟩
      rintro next (_ | ⟨_, hnext⟩)
      · exact hle
      · exact Nat.le_trans hle (Nat.le_of_lt (ih.2 next hnext))
    · rw [issued_congr hissued] at ih
      rw [he]
      exact ih

/-- **IDs ascend as texts**, wherever the generator stands and however the clock goes, through all requests that issue
none at a time too great for an ID; and they are above the last ID that was issued before. -/
theorem ascending_requests (env : Environment σ) (s : Session σ) (worlds : List σ) {before stretch after : List Request}
    (hall : s.requests env worlds = before ++ stretch ++ after)
    (hfits : ∀ r ∈ stretch, r.answer.toOption ≠ none → r.reading < EventId.millisSpan) :
    (Request.ids stretch).Pairwise (utf8 ·.text < utf8 ·.text) ∧
    (∀ last, (Request.ids before).getLast?.or s.lastIssued = some last →
      ∀ id ∈ Request.ids stretch, utf8 last.text < utf8 id.text) ∧
    ∀ id ∈ Request.ids stretch, id.text.length = 26 := by
  rw [List.append_assoc] at hall
  obtain ⟨t, worlds', ht, hlast⟩ := exists_of_requests_append env before worlds hall
  obtain ⟨hascending, hissued⟩ := ascending_of_fits env stretch worlds' ht hfits
  have hlt {a b : EventId} (h : a.toNat < b.toNat) : utf8 a.text < utf8 b.text :=
    Utf8.utf8_lt_utf8_iff.2 (EventId.text_lt_text_iff.2 h)
  refine ⟨hascending.imp hlt, fun last h id hid => hlt ?_, fun id _ => ?_⟩
  · have hle := hissued id hid
    rwa [issued, hlast, h, Option.elim_some] at hle
  · rw [EventId.text, String.length_ofList, EventId.length_digitsOf]

def faltering : List Request :=
  (opened .empty 0).requests (.told (· ≠ 9) (· % 1000)) [2, 2, 1, 8, 5]

theorem ascending_requests_faltering : (∀ r ∈ faltering, r.reading < EventId.millisSpan) ∧
    (Request.ids faltering).length = 4 ∧ (Request.ids faltering).Pairwise (utf8 ·.text < utf8 ·.text) := by
  have hfits : ∀ r ∈ faltering, r.reading < EventId.millisSpan := by decide +kernel
  refine ⟨hfits, by decide +kernel, ?_⟩
  have hall : faltering = [] ++ faltering ++ [] := (List.append_nil _).symm
  exact (ascending_requests (.told (· ≠ 9) (· % 1000)) (opened .empty 0) [2, 2, 1, 8, 5] hall fun r hr _ => hfits r hr).1

/-- **The order breaks at a time too great for an ID**, of which only the low bits are kept. -/
theorem not_ascending_wrapping :
    (Request.ids ((opened .empty 0).requests (.told (fun _ => true) id) [1, EventId.millisSpan])).map (·.text) =
        ["0000000001040G2081040G2081", "0000000000040G2081040G2081"] ∧
      ¬(Request.ids ((opened .empty 0).requests (.told (fun _ => true) id) [1, EventId.millisSpan])).Pairwise
        (utf8 ·.text < utf8 ·.text) := by
  decide +kernel

end Session

/-! ## IDs in a row -/

theorem Bytes.toNat_lt (bs : Bytes) : toNat bs < 256 ^ bs.length := by
  induction bs using List.reverseRecOn with
  | nil => exact Nat.one_pos
  | append_singleton bs b ih =>
    have hb := b.toNat_lt
    rw [toNat_append_singleton, List.length_append, List.length_singleton, Nat.pow_succ]
    omega

theorem EventId.random_fresh (now : Nat) (drawn : { bytes : Bytes // bytes.length = drawLength }) :
    (fresh now drawn.val).random = Bytes.toNat drawn.val := by
  have hlt := Bytes.toNat_lt drawn.val
  rw [drawn.property] at hlt
  exact Nat.mod_eq_of_lt hlt

namespace Environment

def randomPart (env : Environment σ) (world : σ) : Option Nat :=
  (env.draw EventId.drawLength (env.now world).2).1.map (Bytes.toNat ·.val)

/-- What becomes of the world when the clock is read so many times, and nothing is drawn. -/
def afterReadings (env : Environment σ) : (readings : Nat) → σ → σ
  | 0, world => world
  | n + 1, world => afterReadings env n (env.now world).2

end Environment

/-- The clock stands at a millisecond while so many IDs are issued. -/
def Session.Stands (env : Environment σ) (millis : Nat) : (ids : Nat) → Session σ → Prop
  | 0, _ => True
  | n + 1, s => (env.now s.world).1.millis = millis ∧
      ∀ id t, Action.nextEventId env s = .ok id t → Stands env millis n t

namespace Action

def issueIds (env : Environment σ) : Nat → Action σ Unit
  | 0 => pure ()
  | n + 1 => do
    let _ ← nextEventId env
    issueIds env n

theorem nextEventId_congr (env : Environment σ) (s : Session σ) (tables : Tables) :
    nextEventId env { s with tables } = match nextEventId env s with
      | .ok id t => .ok id { t with tables }
      | .error e t => .error e { t with tables } := by
  rcases s.passed_or (env.now s.world).1.millis with hpassed | ⟨last, hlast, hle⟩
  · rw [nextEventId_of_passed hpassed, nextEventId_of_passed (s := { s with tables }) hpassed]
    dsimp only
    cases (env.draw EventId.drawLength (env.now s.world).2).1 <;> rfl
  · rw [nextEventId_of_last hlast hle, nextEventId_of_last (s := { s with tables }) hlast hle]
    cases last.successor? <;> rfl

theorem issueIds_succ (env : Environment σ) (n : Nat) (s : Session σ) :
    issueIds env (n + 1) s = match nextEventId env s with
      | .ok _ t => issueIds env n t
      | .error e t => .error e t := by
  rw [issueIds, bind_eq]
  cases nextEventId env s <;> rfl

theorem issueIds_meets (env : Environment σ) : ∀ (n : Nat) (s : Session σ),
    (issueIds env n).Meets s (fun _ t => ∃ lastIssued world, t = { s with lastIssued, world })
      fun _ t => ∃ lastIssued world, t = { s with lastIssued, world }
  | 0, s => ⟨s.lastIssued, s.world, rfl⟩
  | n + 1, s => by
    rw [issueIds]
    refine ((nextEventId_issues env s).mono (fun _ _ ht => ht.2) fun _ _ ⟨world, ht⟩ => ⟨s.lastIssued, world, ht⟩).bind ?_
    rintro id _ ⟨world, rfl⟩
    exact (issueIds_meets env n _).mono (fun _ _ ht => ht) fun _ _ ht => ht

theorem issueIds_congr (env : Environment σ) : ∀ (n : Nat) (s : Session σ) (tables : Tables),
    issueIds env n { s with tables } = match issueIds env n s with
      | .ok _ t => .ok () { t with tables }
      | .error e t => .error e { t with tables }
  | 0, _, _ => rfl
  | n + 1, s, tables => by
    rw [issueIds_succ, issueIds_succ, nextEventId_congr]
    cases nextEventId env s with
    | ok id t => exact issueIds_congr env n t tables
    | error e t => rfl

theorem issueIds_of_last {millis : Nat} : ∀ (n : Nat) {s : Session σ} {last : EventId}, s.lastIssued = some last →
    s.Stands env millis n → millis ≤ last.millis →
    (issueIds env n).Meets s
      (fun _ t => last.random + n < EventId.randomSpan ∧ t.world = env.afterReadings n s.world)
      (fun e t => EventId.randomSpan ≤ last.random + n ∧
        e = .randomness s!"event id space exhausted for millisecond {last.millis}" ∧
        (∃ readings ≤ n, t.world = env.afterReadings readings s.world) ∧
        ∃ id, t.lastIssued = some id ∧ id.millis = last.millis ∧ id.random + 1 = EventId.randomSpan)
  | 0, s, last, _, _, _ => ⟨last.random_lt, rfl⟩
  | n + 1, s, last, hlast, hstands, hle => by
    obtain ⟨hread, hstands⟩ := hstands
    have hnext := nextEventId_of_last hlast (hread ▸ hle)
    unfold Meets
    rw [issueIds_succ, hnext]
    have := last.random_lt
    by_cases hroom : last.random + 1 < EventId.randomSpan
    · have hsucc : last.successor? = some { last with random := last.random + 1, random_lt := hroom } := dif_pos hroom
      rw [hsucc] at hnext ⊢
      let t : Session σ := { s with
        lastIssued := some { last with random := last.random + 1, random_lt := hroom }
        world := (env.now s.world).2 }
      have ih := issueIds_of_last n (s := t) rfl (hstands _ _ hnext) hle
      refine ih.mono (fun _ u ⟨hn, hu⟩ => ⟨by dsimp only at hn; omega, hu⟩) ?_
      rintro e u ⟨hn, he, ⟨readings, hreadings, hu⟩, hlast⟩
      exact ⟨by dsimp only at hn; omega, he, ⟨readings + 1, Nat.succ_le_succ hreadings, hu⟩, hlast⟩
    · have hsucc : last.successor? = none := dif_neg hroom
      rw [hsucc]
      exact ⟨by omega, rfl, ⟨1, by omega, rfl⟩, last, hlast, rfl, by omega⟩

/-- **Drawing and counting up**: where the clock has passed the last ID, a generator issues IDs from a drawn one on. -/
theorem issueIds_of_passed {millis : Nat} (n : Nat) {s : Session σ} (hpassed : s.Passed millis)
    (hstands : s.Stands env millis (n + 1)) (hfits : millis < EventId.millisSpan) :
    (issueIds env (n + 1)).Meets s
      (fun _ _ => ∃ drawn, env.randomPart s.world = some drawn ∧ drawn + (n + 1) ≤ EventId.randomSpan)
      (fun e t => (∃ text, e = .randomness text) ∧
        (env.randomPart s.world = none ∧ t.lastIssued = s.lastIssued ∨
        ∃ drawn, env.randomPart s.world = some drawn ∧ EventId.randomSpan < drawn + (n + 1) ∧
          ∃ id, t.lastIssued = some id ∧ id.millis = millis ∧ id.random + 1 = EventId.randomSpan)) := by
  obtain ⟨rfl, hstands⟩ := hstands
  have hnext := nextEventId_of_passed hpassed
  unfold Meets Environment.randomPart
  rw [issueIds_succ, hnext]
  cases hdraw : (env.draw EventId.drawLength (env.now s.world).2).1 with
  | none => exact ⟨⟨_, rfl⟩, Or.inl ⟨rfl, rfl⟩⟩
  | some drawn =>
    rw [hdraw] at hnext
    have hmillis : (EventId.fresh (env.now s.world).1.millis drawn.val).millis = (env.now s.world).1.millis :=
      Nat.mod_eq_of_lt hfits
    have hrandom := EventId.random_fresh (env.now s.world).1.millis drawn
    let t : Session σ := { s with
      lastIssued := some (.fresh (env.now s.world).1.millis drawn.val)
      world := (env.draw EventId.drawLength (env.now s.world).2).2 }
    have hcount := issueIds_of_last n (s := t) rfl (hstands _ _ hnext) (Nat.le_of_eq hmillis.symm)
    rw [hrandom, hmillis] at hcount
    refine hcount.mono (fun _ _ hn => ⟨Bytes.toNat drawn.val, rfl, by omega⟩) ?_
    rintro e u ⟨hn, rfl, -, hlast⟩
    exact ⟨⟨_, rfl⟩, Or.inr ⟨Bytes.toNat drawn.val, rfl, by omega, hlast⟩⟩

/-- **A generator that fails** stands at the end of a millisecond, unless the draw has failed. -/
theorem issueIds_error (henv : env.Proper) {millis n : Nat} {s t : Session σ} {e : StoreError}
    (hstands : s.Stands env millis n) (h : issueIds env n s = .error e t) :
    (∃ text, e = .randomness text) ∧
    (s.Passed millis ∧ env.randomPart s.world = none ∧ t.lastIssued = s.lastIssued ∨
    ∃ last, t.lastIssued = some last ∧ last.random + 1 = EventId.randomSpan ∧
      (last.millis = millis ∨ ∃ before, s.lastIssued = some before ∧ last.millis = before.millis)) := by
  rcases s.passed_or millis with hpassed | ⟨last, hlast, hle⟩
  · cases n with
    | zero => cases h
    | succ n =>
      obtain ⟨he, ⟨hdraw, hstill⟩ | ⟨drawn, -, -, id, hid, hmillis, hrandom⟩⟩ :=
        (issueIds_of_passed n hpassed hstands (hstands.1 ▸ henv.fits _)).of_error h
      · exact ⟨he, Or.inl ⟨hpassed, hdraw, hstill⟩⟩
      · exact ⟨he, Or.inr ⟨id, hid, hrandom, Or.inl hmillis⟩⟩
  · obtain ⟨-, rfl, -, id, hid, hmillis, hrandom⟩ := (issueIds_of_last n hlast hstands hle).of_error h
    exact ⟨⟨_, rfl⟩, Or.inr ⟨id, hid, hrandom, Or.inr ⟨last, hlast, hmillis⟩⟩⟩

end Action

end PseudonymStore
