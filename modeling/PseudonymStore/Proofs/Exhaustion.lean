import PseudonymStore.Proofs.Relocation
/-!
# When a rotation fails

A rotation asks for one ID per event.  While the clock stands, it fails just where the millisecond has too few IDs left
or the draw of the first one fails (`Session.rotationEnds_run`).  The generator is not rolled back, so a rotation that has
run out of IDs leaves it at the end of the millisecond; once the clock has gone on, the same call succeeds.
-/
namespace PseudonymStore

variable {σ : Type}

namespace Session

/-- **How a rotation ends** that has some events to move, while the clock stands at a millisecond. -/
structure RotationEnds (env : Environment σ) (s : Session σ) (account user secret : String) (row : AccountRow)
    (es : List EventRow) (millis : Nat) : Prop where
  idle : es = [] → ∃ t, s.after env (.associate account user secret) = (.ok .done, t) ∧ t.lastIssued = s.lastIssued ∧
    t.world = (env.drawIdentifier s.world).2
  /-- Where the clock has passed the last ID, the IDs are counted from a drawn one on. -/
  drawing : es ≠ [] → s.Passed millis → ((s.after env (.associate account user secret)).1 = .ok .done ↔
    ∃ drawn, env.randomPart (env.drawIdentifier s.world).2 = some drawn ∧ drawn + es.length ≤ EventId.randomSpan)
  /-- Where it has not, they are counted from the last one on, and nothing is drawn for them. -/
  counting : es ≠ [] → ∀ last, s.lastIssued = some last → millis ≤ last.millis →
    ((s.after env (.associate account user secret)).1 = .ok .done ↔ last.random + es.length < EventId.randomSpan) ∧
    ∃ readings ≤ es.length, (s.after env (.associate account user secret)).2.world =
      env.afterReadings readings (env.drawIdentifier s.world).2
  moved : ∀ t, s.after env (.associate account user secret) = (.ok .done, t) →
    ∃ fs, s.tables.Moves account (env.hash user row.salt) (env.parked s.world row.salt) es fs t.tables
  /-- Unless the draw has failed, the generator stands at the end of a millisecond. -/
  failed : ∀ e t, s.after env (.associate account user secret) = (.error e, t) →
    (∃ text, e = .migration account (.randomness text)) ∧ t.tables = s.tables ∧ t.log = s.log ∧
    (s.Passed millis ∧ env.randomPart (env.drawIdentifier s.world).2 = none ∧ t.lastIssued = s.lastIssued ∨
      ∃ last, t.lastIssued = some last ∧ last.random + 1 = EventId.randomSpan)
  /-- When the clock has gone on and a draw leaves room, the same call moves the events. -/
  again : ∀ e t, s.after env (.associate account user secret) = (.error e, t) →
    ∀ world later drawn, millis < later → s.Passed later →
      ({ t with world := (env.drawIdentifier world).2 } : Session σ).Stands env later es.length →
      env.randomPart (env.drawIdentifier world).2 = some drawn → drawn + es.length ≤ EventId.randomSpan →
      ∃ u fs, ({ t with world } : Session σ).after env (.associate account user secret) = (.ok .done, u) ∧
        u.log = t.log ++ [.rotated account es.length] ∧
        s.tables.Moves account (env.hash user row.salt) (env.parked world row.salt) es fs u.tables

section

variable {env : Environment σ} {s : Session σ} {l : Ledger} {account user old : String} {row : AccountRow}
  (henv : env.Proper) (h : s.Keeps l) (huser : user ≠ "") (hrow : l.accounts.get? account = some row)
  (hold : l.secret? account (env.hash user row.salt) = some old)

include henv h huser hrow hold

namespace Keeps

theorem rotation_cases (secret : String) {P : Session σ → Prop} {Q : StoreError → Session σ → Prop}
    (hids : (Action.issueIds env (l.eventsOf account (env.hash user row.salt)).length).Meets
      { s with world := (env.drawIdentifier s.world).2 } (fun _ g => P g) Q) :
    (∃ t g, s.after env (.associate account user secret) = (.ok .done, t) ∧ P g ∧ t.lastIssued = g.lastIssued ∧
      t.world = g.world) ∨
    ∃ cause g, s.after env (.associate account user secret) =
      (.error ((cause.inOperation "migrate_user_events" (some account)).asMigration account), g) ∧ Q cause g := by
  cases hx : Action.issueIds env (l.eventsOf account (env.hash user row.salt)).length
      { s with world := (env.drawIdentifier s.world).2 } with
  | ok _ g =>
    obtain ⟨t, -, -, hafter, hlast, hworld, -⟩ := h.after_associate_issued henv huser hrow hold secret hx
    exact Or.inl ⟨t, g, hafter, hids.of_ok hx, hlast, hworld⟩
  | error cause g =>
    have hafter := (h.after_associate_unissued henv huser hrow hold secret hx).1
    exact Or.inr ⟨cause, g, hafter, hids.of_error hx⟩

theorem rotation_drawing (secret : String) {millis n : Nat} (hpassed : s.Passed millis)
    (hstands : ({ s with world := (env.drawIdentifier s.world).2 } : Session σ).Stands env millis (n + 1))
    (hn : (l.eventsOf account (env.hash user row.salt)).length = n + 1) :
    (s.after env (.associate account user secret)).1 = .ok .done ↔
      ∃ drawn, env.randomPart (env.drawIdentifier s.world).2 = some drawn ∧ drawn + (n + 1) ≤ EventId.randomSpan := by
  have hcount := Action.issueIds_of_passed n (s := { s with world := (env.drawIdentifier s.world).2 }) hpassed hstands
    (hstands.1 ▸ henv.fits _)
  rw [← hn] at hcount
  rcases h.rotation_cases henv huser hrow hold secret hcount with ⟨t, g, hafter, hroom, -⟩ | ⟨cause, g, hafter, -, hnone⟩
  · rw [hafter]
    exact iff_of_true rfl (hn ▸ hroom)
  · rw [hafter]
    refine iff_of_false nofun ?_
    rintro ⟨drawn, hdrawn, hroom⟩
    rcases hnone with ⟨hfailed, -⟩ | ⟨drawn', hdrawn', hfull, -⟩
    · cases hdrawn.symm.trans hfailed
    · cases hdrawn.symm.trans hdrawn'
      omega

theorem rotation_counting (secret : String) {millis n : Nat} {last : EventId} (hlast : s.lastIssued = some last)
    (hle : millis ≤ last.millis)
    (hstands : ({ s with world := (env.drawIdentifier s.world).2 } : Session σ).Stands env millis n)
    (hn : (l.eventsOf account (env.hash user row.salt)).length = n) :
    ((s.after env (.associate account user secret)).1 = .ok .done ↔ last.random + n < EventId.randomSpan) ∧
    ∃ readings ≤ n, (s.after env (.associate account user secret)).2.world =
      env.afterReadings readings (env.drawIdentifier s.world).2 := by
  have hcount := Action.issueIds_of_last n (s := { s with world := (env.drawIdentifier s.world).2 }) hlast hstands hle
  rw [← hn] at hcount
  rcases h.rotation_cases henv huser hrow hold secret hcount with
    ⟨t, g, hafter, ⟨hroom, hread⟩, -, hworld⟩ | ⟨cause, g, hafter, hfull, -, ⟨readings, hreadings, hworld⟩, -⟩
  · rw [hafter]
    exact ⟨iff_of_true rfl (hn ▸ hroom), n, Nat.le_refl n, hn ▸ hworld.trans hread⟩
  · rw [hafter]
    exact ⟨iff_of_false nofun (by omega), readings, hn ▸ hreadings, hworld⟩

theorem rotation_error {secret : String} {e : StoreError} {t : Session σ}
    (hafter : s.after env (.associate account user secret) = (.error e, t)) :
    ∃ cause, e = (cause.inOperation "migrate_user_events" (some account)).asMigration account ∧
      Action.issueIds env (l.eventsOf account (env.hash user row.salt)).length
        { s with world := (env.drawIdentifier s.world).2 } = .error cause t ∧ t.Idles l := by
  cases hx : Action.issueIds env (l.eventsOf account (env.hash user row.salt)).length
      { s with world := (env.drawIdentifier s.world).2 } with
  | ok _ g =>
    obtain ⟨u, -, -, hafter', -⟩ := h.after_associate_issued henv huser hrow hold secret hx
    cases hafter.symm.trans hafter'
  | error cause g =>
    obtain ⟨hafter', hidles⟩ := h.after_associate_unissued henv huser hrow hold secret hx
    cases hafter.symm.trans hafter'
    exact ⟨cause, rfl, rfl, hidles⟩

theorem rotation_again {secret : String} {e : StoreError} {t : Session σ}
    (hafter : s.after env (.associate account user secret) = (.error e, t)) {later n drawn : Nat} {world : σ}
    (hpassed : t.Passed later)
    (hstands : ({ t with world := (env.drawIdentifier world).2 } : Session σ).Stands env later (n + 1))
    (hn : (l.eventsOf account (env.hash user row.salt)).length = n + 1)
    (hdrawn : env.randomPart (env.drawIdentifier world).2 = some drawn) (hroom : drawn + (n + 1) ≤ EventId.randomSpan) :
    ∃ u fs, ({ t with world } : Session σ).after env (.associate account user secret) = (.ok .done, u) ∧
      u.log = t.log ++ [.rotated account (n + 1)] ∧
      t.tables.Moves account (env.hash user row.salt) (env.parked world row.salt)
        (l.eventsOf account (env.hash user row.salt)) fs u.tables := by
  obtain ⟨-, -, -, issued, -, ht⟩ := h.rotation_error henv huser hrow hold hafter
  have ht : ({ t with world } : Session σ).Keeps (l.issue issued) := ht.turn world
  have hcount := Action.issueIds_of_passed n (s := { t with world := (env.drawIdentifier world).2 }) hpassed hstands
    (hstands.1 ▸ henv.fits _)
  rw [← hn] at hcount ⊢
  cases hx : Action.issueIds env (l.eventsOf account (env.hash user row.salt)).length
      { t with world := (env.drawIdentifier world).2 } with
  | ok _ g =>
    obtain ⟨u, -, -, hafter, -, -, hlog, -⟩ := ht.after_associate_issued henv huser hrow hold secret hx
    obtain ⟨fs, hover⟩ := ht.after_associate_handsOver henv hrow hold hafter
    exact ⟨u, fs, hafter, hlog, hover.toMoves⟩
  | error cause g =>
    obtain ⟨-, ⟨hfailed, -⟩ | ⟨drawn', hdrawn', hfull, -⟩⟩ := hcount.of_error hx
    · cases hdrawn.symm.trans hfailed
    · cases hdrawn.symm.trans hdrawn'
      omega

theorem rotationEnds (secret : String) {millis : Nat}
    (hstands : ({ s with world := (env.drawIdentifier s.world).2 } : Session σ).Stands env millis
      (l.eventsOf account (env.hash user row.salt)).length) :
    s.RotationEnds env account user secret row (l.eventsOf account (env.hash user row.salt)) millis := by
  have hlength (hne : l.eventsOf account (env.hash user row.salt) ≠ []) :
      ∃ n, (l.eventsOf account (env.hash user row.salt)).length = n + 1 :=
    Nat.exists_eq_succ_of_ne_zero (mt List.length_eq_zero_iff.1 hne)
  refine ⟨fun hnil => ?_, fun hne hpassed => ?_, fun _ last hlast hle => ?_, fun t hafter => ?_, fun e t hafter => ?_,
    fun e t hafter world later drawn hlater hpassed hagain hdrawn hroom => ?_⟩
  · obtain ⟨t, -, -, hafter, hlast, hworld, -⟩ := h.after_associate_issued henv huser hrow hold secret
      (g := { s with world := (env.drawIdentifier s.world).2 }) (by rw [hnil]; rfl)
    exact ⟨t, hafter, hlast, hworld⟩
  · obtain ⟨n, hn⟩ := hlength hne
    rw [hn] at hstands ⊢
    exact h.rotation_drawing henv huser hrow hold secret hpassed hstands hn
  · exact h.rotation_counting henv huser hrow hold secret hlast hle hstands rfl
  · obtain ⟨fs, hover⟩ := h.after_associate_handsOver henv hrow hold hafter
    exact ⟨fs, hover.toMoves⟩
  · obtain ⟨cause, rfl, hx, -⟩ := h.rotation_error henv huser hrow hold hafter
    obtain ⟨lastIssued, w, rfl⟩ := (Action.issueIds_meets env _ _).of_error hx
    obtain ⟨⟨text, rfl⟩, hend⟩ := Action.issueIds_error henv hstands hx
    refine ⟨⟨text, rfl⟩, rfl, rfl, hend.imp_right ?_⟩
    rintro ⟨last, hlast, hrandom, -⟩
    exact ⟨last, hlast, hrandom⟩
  · obtain ⟨cause, -, hx, -⟩ := h.rotation_error henv huser hrow hold hafter
    obtain ⟨lastIssued, w, heq⟩ := (Action.issueIds_meets env _ _).of_error hx
    have htables : t.tables = s.tables := by rw [heq]
    obtain ⟨n, hn⟩ := hlength fun hnil => by
      rw [hnil] at hx
      cases hx
    have hpassed : t.Passed later := by
      obtain ⟨-, ⟨-, -, hsame⟩ | ⟨last, hlast, -, hmillis⟩⟩ := Action.issueIds_error henv hstands hx
      · exact fun before hbefore => hpassed before (hsame ▸ hbefore)
      · rintro _ hlast'
        cases hlast'.symm.trans hlast
        rcases hmillis with rfl | ⟨before, hbefore, hmillis⟩
        · exact hlater
        · exact hmillis ▸ hpassed before hbefore
    rw [hn] at hagain hroom ⊢
    obtain ⟨u, fs, hu, hlog, hmoves⟩ :=
      h.rotation_again henv huser hrow hold hafter hpassed hagain hn hdrawn hroom
    exact ⟨u, fs, hu, hlog, htables ▸ hmoves⟩

end Keeps

end

/-- **When a rotation fails**, after every run: while the clock stands, just where the generator runs out of IDs or its draw
fails; and when the clock has gone on, the same call succeeds. -/
theorem rotationEnds_run {env : Environment σ} (henv : env.Proper) (world : σ) (ops : List Operation) {s : Session σ}
    (hs : ((opened .empty world).run env ops).2 = s) {account user : String} {row : AccountRow} (huser : user ≠ "")
    (hrow : s.tables.account account = .ok row)
    (hold : (s.tables.secret? account (env.hash user row.salt)).isSome = true) {es : List EventRow}
    (hes : ∀ e, e ∈ es ↔ s.tables.Stores e ∧ e.account = account ∧ e.user = some (env.hash user row.salt))
    (hascending : es.Pairwise (·.id < ·.id)) {millis : Nat}
    (hclock : ({ s with world := (env.drawIdentifier s.world).2 } : Session σ).Stands env millis es.length)
    (secret : String) :
    s.RotationEnds env account user secret row es millis := by
  obtain ⟨l, h⟩ := keeps_run henv world ops
  rw [hs] at h
  rw [h.account_eq_ok_iff] at hrow
  rw [h.secret?_hash henv hrow] at hold
  obtain ⟨old, hold⟩ := Option.isSome_iff_exists.1 hold
  obtain rfl : es = l.eventsOf account (env.hash user row.salt) :=
    OrderedMap.eq_of_ascending hascending (h.sound.ascending.filter _) fun e => by
      rw [hes, h.tables.stores_iff, ← Ledger.mem_eventsOf, Ledger.eventsOf]
  exact h.rotationEnds henv huser hrow hold secret hclock

/-- The event that `u` has inserted moves. -/
theorem rotationEnds_run_still : ∃ (s : Session Unit) (row : AccountRow) (es : List EventRow),
    ((opened .empty ()).run .still started).2 = s ∧ es.length = 1 ∧
    s.Stands .still 0 es.length ∧
    s.RotationEnds .still "a" "u" "t" row es 0 := by
  have henv := Environment.still_proper
  have huser : "u" ≠ "" := by decide
  have hclock : (Environment.still.now ()).1.millis = 0 := by decide
  obtain ⟨row, l, h, -, hrow, hevents, hsecret⟩ := keeps_started
  obtain ⟨s, hs⟩ : ∃ s, ((opened .empty ()).run .still started).2 = s := ⟨_, rfl⟩
  rw [hs] at h
  have hread := h.account_eq_ok_iff.2 hrow
  have hold : (s.tables.secret? "a" (Environment.still.hash "u" row.salt)).isSome = true := by
    rw [h.secret?_hash henv hrow, hsecret, if_pos rfl]
    rfl
  have hone : (l.eventsOf "a" (Environment.still.hash "u" row.salt)).length = 1 := by
    rw [hevents]
    rfl
  have hstands : s.Stands .still 0 (l.eventsOf "a" (Environment.still.hash "u" row.salt)).length := by
    rw [hone]
    exact ⟨hclock, fun _ _ _ => trivial⟩
  refine ⟨s, row, _, hs, hone, hstands, ?_⟩
  refine rotationEnds_run henv () started hs huser hread hold (fun e => ?_) (h.sound.ascending.filter _) hstands "t"
  rw [h.tables.stores_iff]
  exact Ledger.mem_eventsOf

end Session

end PseudonymStore
