import PseudonymStore.Proofs.Generator
import PseudonymStore.Proofs.Step
import Mathlib.Data.List.Forall2
/-!
# What associating a secret does

A free pseudonym gets the secret.  A pseudonym that has one is rotated: one event after the other is taken out and put
back under the parked pseudonym (`moveEvent_meets`), and over the whole list that is the rotation of the ledger
(`moveEvents_meets`).  A rotation asks the generator for one ID per event, and fails only where it gets none.  Nothing is
asked of the parked pseudonym here: it may own a secret and events already, and it may be the pseudonym that is rotated.
-/
namespace PseudonymStore.Action

variable {σ α β γ : Type} {env : Environment σ} {s : Session σ} {l : Ledger}

/-! ## One transaction -/

theorem inOperation_asMigration (e : StoreError) (account operation : String) (name : Option String) :
    (e.asMigration account).inOperation operation name = e.asMigration account := by
  cases e <;> rfl

theorem inOperation_inOperation {operation : String} (h : operation ≠ StoreError.unattributed) (e : StoreError)
    (account : Option String) (later : String) (name : Option String) :
    (e.inOperation operation account).inOperation later name = e.inOperation operation account := by
  cases e with
  | storage op a fault =>
    cases a with
    | some => rfl
    | none =>
      by_cases hop : op = StoreError.unattributed
      · cases account <;> simp [StoreError.inOperation, hop, h]
      · simp [StoreError.inOperation, hop]
  | _ => rfl

theorem beside_bind (x : Action σ α) (f : α → EStateM StoreError (Session σ × γ) β) (s : Session σ) (cell : γ) :
    ((liftM x : EStateM StoreError (Session σ × γ) α) >>= f) (s, cell) = match x s with
      | .ok a t => f a (t, cell)
      | .error e t => .error e (t, cell) := by
  show EStateM.bind (beside x) f (s, cell) = _
  rw [EStateM.bind, beside]
  cases x s <;> rfl

theorem mark_bind (mark : γ) (f : PUnit → EStateM StoreError (Session σ × γ) β) (s : Session σ) (cell : γ) :
    ((modify fun p => (p.1, mark) : EStateM StoreError (Session σ × γ) PUnit) >>= f) (s, cell) = f ⟨⟩ (s, mark) := rfl

/-- **The cell is set** from where a secret is found on, whatever fails then. -/
theorem rebind_eq [Engine σ] (env : Environment σ) (account user secret : String) (s : Session σ) :
    rebind env account user secret (s, false) = match holder env account user s with
      | .error e t => .error e (t, false)
      | .ok (_, pseudonym, none) t =>
        match (change (·.bindSecret account pseudonym secret) : Action σ Unit) t with
        | .error e t => .error e (t, false)
        | .ok () t => .ok none (t, false)
      | .ok (row, pseudonym, some stale) t =>
        match park env row pseudonym stale t with
        | .error e t => .error (e.inOperation "migrate_user_events" (some account)) (t, true)
        | .ok moved t =>
          match (change (·.bindSecret account pseudonym secret) : Action σ Unit) t with
          | .error e t => .error e (t, true)
          | .ok () t => .ok (some moved) (t, true) := by
  rw [rebind, beside_bind]
  rcases holder env account user s with ⟨⟨row, pseudonym, _ | stale⟩, t⟩ | ⟨e, t⟩
  · dsimp only
    rw [pure_bind, beside_bind]
    cases (change (·.bindSecret account pseudonym secret) : Action σ Unit) t <;> rfl
  · dsimp only
    rw [mark_bind, map_eq_pure_bind, bind_assoc, beside_bind, mapError]
    cases park env row pseudonym stale t with
    | error e t => rfl
    | ok moved t =>
      dsimp only
      rw [pure_bind, beside_bind]
      cases (change (·.bindSecret account pseudonym secret) : Action σ Unit) t <;> rfl
  · rfl

theorem holder_eq (env : Environment σ) (account user : String) (s : Session σ) :
    holder env account user s = match s.tables.account account with
      | .ok row => .ok (row, env.hash user row.salt, s.tables.secret? account (env.hash user row.salt)) s
      | .error e => .error e s := by
  rw [holder, tables_bind]
  cases s.tables.account account <;> rfl

def makeRoom (env : Environment σ) (row : AccountRow) (account : String) (user : Pseudonym) : Action σ (Option Nat) := do
  match (← tables).secret? account user with
  | some secret =>
    some <$> mapError (fun e => (e.inOperation "migrate_user_events" (some account)).asMigration account)
      (park env row user secret)
  | none => return none

/-- **Only parking fails** once a secret is found, where the engine never does; so its errors may be made a rotation's on
the spot, and no cell is needed. -/
theorem associate_eq (env : Environment σ) (account user secret : String) :
    associate env account user secret = (do
      if user = "" then throw (.invalidInput "user id must not be empty")
      let moved ← write "associate_user_secret" (some account) do
        let row ← MonadExcept.ofExcept ((← tables).account account)
        let pseudonym := env.hash user row.salt
        let moved ← makeRoom env row account pseudonym
        change (·.bindSecret account pseudonym secret)
        return moved
      report (match moved with
        | some events => .rotated account events
        | none => .associated account)) := by
  funext s
  unfold associate
  by_cases huser : user = ""
  · rw [if_pos huser, if_pos huser]
    rfl
  rw [if_neg huser, if_neg huser]
  dsimp only
  rw [bind_eq, transaction_eq, rebind_eq, holder_eq, bind_eq, write_eq, tables_bind]
  cases s.tables.account account with
  | error e => rfl
  | ok row =>
    rw [ok_bind, bind_eq, makeRoom, tables_bind]
    dsimp only
    cases s.tables.secret? account (env.hash user row.salt) with
    | none => rfl
    | some stale =>
      dsimp only
      rw [map_eq, mapError]
      cases park env row (env.hash user row.salt) stale s with
      | ok moved t => rfl
      | error e t =>
        dsimp only
        rw [inOperation_asMigration, inOperation_inOperation (by decide)]
        rfl

/-! ## Moving events -/

theorem moveEvent_eq (h : s.Holds l) {e : EventRow} (he : e ∈ l.events) (source parked : Pseudonym) :
    moveEvent env e.account source parked e.id s = match nextEventId env s with
      | .ok id t => .ok true { t with
          tables := (s.tables.dropEvent e.account e.id e.user).putEvent { e with id := id.text, user := some parked } }
      | .error err t => .error err { t with tables := s.tables.dropEvent e.account e.id e.user } := by
  rw [moveEvent, tables_bind, h.tables.takeEvent_eq he, ok_bind]
  show (nextEventId env >>= _) { s with tables := s.tables.dropEvent e.account e.id e.user } = _
  rw [bind_eq, nextEventId_congr]
  cases nextEventId env s <;> rfl

theorem moveEvent_meets (henv : env.Proper) (h : s.Holds l) {e : EventRow} (he : e ∈ l.events) (source : Pseudonym)
    {parked : Pseudonym} (hparked : NulFree parked.text) :
    (moveEvent env e.account source parked e.id).Meets s
      (fun moved t => moved = true ∧ ∃ id : EventId, l.issued ≤ id.toNat ∧
        nextEventId env s = .ok id { t with tables := s.tables } ∧
        t.Holds (((l.restrict (·.id ≠ e.id)).append { e with id := id.text, user := some parked }).issue (id.toNat + 1)))
      (fun err t => nextEventId env s = .error err { t with tables := s.tables } ∧ l.issued ≤ t.issued ∧ t.Quiet) := by
  have hmeets := nextEventId_meets henv s
  unfold Meets
  rw [moveEvent_eq h he]
  cases hnext : nextEventId env s with
  | error err t =>
    obtain ⟨world, rfl⟩ := hmeets.of_error hnext
    exact ⟨rfl, Nat.le_of_eq h.issued.symm, h.quiet⟩
  | ok id t =>
    obtain ⟨hid, world, rfl⟩ := hmeets.of_ok hnext
    rw [h.issued] at hid
    let f : EventRow := { e with id := id.text, user := some parked }
    have huser (p : Pseudonym) (hp : f.user = some p) : NulFree p.text := Option.some.inj hp ▸ hparked
    exact ⟨rfl, id, hid, rfl, (h.drop he).append (e := f) rfl hid (h.sound.housed e he) huser world⟩

def moved (l : Ledger) (es fs : List EventRow) (issued : Nat) : Ledger :=
  { l with events := l.events.filter (· ∉ es) ++ fs, issued }

theorem moved_moved {e f : EventRow} {es : List EventRow} (hl : l.Sound) (he : e ∈ l.events) (hf : f ∉ es)
    (fs : List EventRow) (n issued : Nat) :
    moved (((l.restrict (·.id ≠ e.id)).append f).issue n) es fs issued = moved l (e :: es) (f :: fs) issued := by
  refine Ledger.ext rfl rfl ?_ rfl
  have hfilter : (l.events.filter (·.id ≠ e.id)).filter (· ∉ es) = l.events.filter (· ∉ e :: es) := by
    rw [List.filter_filter]
    refine List.filter_congr fun g hg => ?_
    simp [hl.id_eq_iff hg he, Bool.and_comm]
  simp only [moved, Ledger.issue, Ledger.append, Ledger.restrict, List.filter_append, hfilter]
  simp [hf]

theorem moveEvents_meets (henv : env.Proper) (account : String) (source : Pseudonym) {parked : Pseudonym}
    (hparked : NulFree parked.text) : ∀ (es : List EventRow) {s : Session σ} {l : Ledger}, s.Holds l →
      (∀ e ∈ es, e ∈ l.events ∧ e.account = account) → es.Nodup →
      (moveEvents env account source parked (es.map (·.id))).Meets s
        (fun count t => count = es.length ∧ issueIds env es.length s = .ok () { t with tables := s.tables } ∧
          ∃ fs issued, l.issued ≤ issued ∧ List.Forall₂ (Ledger.Moved parked l.issued issued) es fs ∧
            t.Holds (moved l es fs issued))
        (fun err t => issueIds env es.length s = .error err { t with tables := s.tables } ∧
          l.issued ≤ t.issued ∧ t.Quiet)
  | [], s, l, h, _, _ => by
    have hall : moved l [] [] l.issued = l := by simp [moved]
    exact Meets.pure ⟨rfl, rfl, [], l.issued, Nat.le_refl _, .nil, hall.symm ▸ h⟩
  | e :: es, s, l, h, hes, hdup => by
    obtain ⟨he, rfl⟩ := hes e List.mem_cons_self
    obtain ⟨hfirst, hdup⟩ := List.nodup_cons.1 hdup
    rw [List.map_cons, moveEvents, List.length_cons, issueIds_succ]
    refine ((moveEvent_meets henv h he source hparked).mono (fun _ _ ht => ht) ?_).bind ?_
    · rintro err t ⟨hnext, ht⟩
      exact ⟨by rw [hnext], ht⟩
    rintro _ t ⟨rfl, id, hid, hnext, ht⟩
    let f : EventRow := { e with id := id.text, user := some parked }
    -- What is left to move was read off before, so the event that has just been put back must not be among it.
    have hnew : f ∉ es := fun hf =>
      String.lt_irrefl _ (h.sound.lt_of_issued_le (hes f (List.mem_cons_of_mem _ hf)).1 hid)
    have hleft : ∀ g ∈ es, g ∈ (((l.restrict (·.id ≠ e.id)).append f).issue (id.toNat + 1)).events ∧
        g.account = e.account := fun g hg => by
        obtain ⟨hgl, hga⟩ := hes g (List.mem_cons_of_mem _ hg)
        exact ⟨List.mem_append_left _ (h.sound.mem_restrict he hgl fun heq => hfirst (heq ▸ hg)), hga⟩
    have hstart : l.issued ≤ id.toNat + 1 := by omega
    rw [hnext]
    dsimp only
    rw [issueIds_congr]
    refine ((moveEvents_meets henv e.account source hparked es ht hleft hdup).mono (fun _ _ hu => hu) ?_).bind ?_
    · rintro err u ⟨hrest, hissued, hquiet⟩
      exact ⟨by rw [hrest], Nat.le_trans hstart hissued, hquiet⟩
    rintro count u ⟨rfl, hrest, fs, issued, hissued, hfs, hu⟩
    rw [moved_moved h.sound he hnew] at hu
    have hissued : id.toNat + 1 ≤ issued := hissued
    refine Meets.pure ⟨rfl, by rw [hrest], f :: fs, issued, Nat.le_trans hstart hissued,
      .cons ⟨id, hid, hissued, rfl⟩ ?_, hu⟩
    exact hfs.imp fun _ _ hmoved => hmoved.mono hstart (Nat.le_refl _)

theorem park_meets (henv : env.Proper) (h : s.Holds l) (row : AccountRow) (hrow : NulFree row.account)
    {user : Pseudonym} (huser : NulFree user.text) (old : String) :
    (park env row user old).Meets s
      (fun count t => count = (l.eventsOf row.account user).length ∧
        issueIds env (l.eventsOf row.account user).length { s with world := (env.drawIdentifier s.world).2 } =
          .ok () { t with tables := s.tables } ∧
        ∃ fs issued, l.issued ≤ issued ∧
          List.Forall₂ (Ledger.Moved (env.parked s.world row.salt) l.issued issued) (l.eventsOf row.account user) fs ∧
          t.Holds (moved ((l.bind row.account user none).bind row.account (env.parked s.world row.salt) (some old))
            (l.eventsOf row.account user) fs issued))
      (fun err t => issueIds env (l.eventsOf row.account user).length
          { s with world := (env.drawIdentifier s.world).2 } = .error err { t with tables := s.tables } ∧
        l.issued ≤ t.issued ∧ t.Quiet) := by
  unfold park
  refine (drawIdentifier_meets env s).bind ?_
  rintro _ _ ⟨rfl, rfl⟩
  dsimp only
  have hparked : NulFree (env.parked s.world row.salt).text := henv.nulFree_hash _ _
  let bound : Session σ := { s with
    tables := (s.tables.dropSecret row.account user).bindSecret row.account (env.parked s.world row.salt) old
    world := (env.drawIdentifier s.world).2 }
  have hbound : bound.Holds
      ((l.bind row.account user none).bind row.account (env.parked s.world row.salt) (some old)) :=
    ⟨(h.tables.dropSecret user hrow).bindSecret _ old hrow, (h.sound.bind _ _ _).bind _ _ _, h.issued, h.quiet⟩
  refine Meets.bind (P := fun _ t => bound = t) (Meets.change rfl) ?_
  rintro _ _ rfl
  refine Meets.tables_bind ?_
  rw [hbound.tables.userEventIds_none hbound.sound hrow huser]
  have hids := issueIds_congr env (l.eventsOf row.account user).length bound s.tables
  have hmem : ∀ e ∈ l.eventsOf row.account user, e ∈ l.events ∧ e.account = row.account := Ledger.mem_of_mem_eventsOf
  refine (moveEvents_meets henv row.account user hparked _ hbound hmem (h.sound.nodup.filter _)).mono ?_ ?_
  · rintro count t ⟨rfl, hmoved, ht⟩
    rw [hmoved] at hids
    exact ⟨rfl, hids, ht⟩
  · rintro err t ⟨hfailed, ht⟩
    rw [hfailed] at hids
    exact ⟨hids, ht⟩

theorem makeRoom_meets (henv : env.Proper) (h : s.Holds l) {account : String} {row : AccountRow}
    (hrow : l.accounts.get? account = some row) {user : Pseudonym} (huser : NulFree user.text) :
    (makeRoom env row account user).Meets s
      (fun o t => (l.secret? account user = none ∧ s = t) ∨
        ∃ old fs issued, l.secret? account user = some old ∧ o = some (l.eventsOf account user).length ∧
          issueIds env (l.eventsOf account user).length { s with world := (env.drawIdentifier s.world).2 } =
            .ok () { t with tables := s.tables } ∧
          l.issued ≤ issued ∧
          List.Forall₂ (Ledger.Moved (env.parked s.world row.salt) l.issued issued) (l.eventsOf account user) fs ∧
          t.Holds (moved ((l.bind account user none).bind account (env.parked s.world row.salt) (some old))
            (l.eventsOf account user) fs issued))
      (fun err t => (∃ cause, err = (cause.inOperation "migrate_user_events" (some account)).asMigration account ∧
          issueIds env (l.eventsOf account user).length { s with world := (env.drawIdentifier s.world).2 } =
            .error cause { t with tables := s.tables }) ∧
        l.issued ≤ t.issued ∧ t.Quiet) := by
  have hname := h.sound.account_of_get? hrow
  have hnul := h.sound.nulFree_of_get? hrow
  subst hname
  unfold makeRoom
  refine Meets.tables_bind ?_
  rw [h.tables.secret _ _ hnul huser]
  cases hold : l.secret? row.account user with
  | none => exact Meets.pure (Or.inl ⟨rfl, rfl⟩)
  | some old =>
    refine Meets.map (Meets.mapError ((park_meets henv h row hnul huser old).mono ?_ ?_))
    · rintro count t ⟨rfl, hids, fs, issued, hissued, hfs, ht⟩
      exact Or.inr ⟨old, fs, issued, rfl, rfl, hids, hissued, hfs, ht⟩
    · exact fun err t ⟨hids, ht⟩ => ⟨⟨err, rfl, hids⟩, ht⟩

theorem moved_bind (l : Ledger) (account : String) (user parked : Pseudonym) (old secret : String)
    (fs : List EventRow) (issued : Nat) :
    (moved ((l.bind account user none).bind account parked (some old)) (l.eventsOf account user) fs issued).bind
      account user (some secret) = l.rotate account user parked old secret fs issued := by
  refine Ledger.ext rfl rfl ?_ rfl
  simp only [moved, Ledger.bind, Ledger.rotate, Ledger.filter_not_mem_eventsOf]

theorem owned_rotate (h : l.Owned) {account : String} {user parked : Pseudonym} {old secret : String}
    {fs : List EventRow} {start issued : Nat}
    (hfs : List.Forall₂ (Ledger.Moved parked start issued) (l.eventsOf account user) fs) :
    (l.rotate account user parked old secret fs issued).Owned := by
  intro e he p hp
  rw [Ledger.secret?_rotate]
  split
  · rfl
  split
  · rfl
  next hparked =>
    rcases List.mem_append.1 he with he | he
    · exact h e (List.mem_of_mem_filter he) p hp
    · obtain ⟨f, hf, hmoved⟩ := Ledger.Moved.of_mem hfs e he
      obtain ⟨id, -, -, rfl⟩ := hmoved
      obtain ⟨-, haccount, -⟩ := Ledger.mem_eventsOf.1 hf
      exact absurd ⟨haccount, (Option.some.inj hp).symm⟩ hparked

theorem associate_eq_of_free (henv : env.Proper) (h : s.Keeps l) {account user : String} {row : AccountRow}
    (huser : user ≠ "") (hrow : l.accounts.get? account = some row)
    (hfree : l.secret? account (env.hash user row.salt) = none) (secret : String) :
    associate env account user secret s = .ok () { s with
      tables := s.tables.bindSecret account (env.hash user row.salt) secret
      log := s.log ++ [.associated account] } := by
  have haccount : s.tables.account account = .ok row := h.account_eq_ok_iff.2 hrow
  have hroom : makeRoom env row account (env.hash user row.salt) s = .ok none s := by
    rw [makeRoom, tables_bind, h.secret?_hash henv hrow, hfree]
    rfl
  rw [associate_eq, if_neg huser]
  dsimp only
  rw [bind_eq, write_eq, tables_bind, haccount, ok_bind, bind_eq, hroom]
  rfl

/-- **A rotation** succeeds just where the generator issues an ID for each event of the pseudonym, and otherwise fails
with its error. -/
theorem associate_meets_of_bound (henv : env.Proper) (h : s.Keeps l) {account user old : String} {row : AccountRow}
    (huser : user ≠ "") (hrow : l.accounts.get? account = some row)
    (hold : l.secret? account (env.hash user row.salt) = some old) (secret : String) :
    (associate env account user secret).Meets s
      (fun _ t => t.log = s.log ++ [.rotated account (l.eventsOf account (env.hash user row.salt)).length] ∧
        issueIds env (l.eventsOf account (env.hash user row.salt)).length
          { s with world := (env.drawIdentifier s.world).2 } = .ok () { t with tables := s.tables, log := s.log } ∧
        ∃ fs issued, l.issued ≤ issued ∧
          List.Forall₂ (Ledger.Moved (env.parked s.world row.salt) l.issued issued)
            (l.eventsOf account (env.hash user row.salt)) fs ∧
          t.Keeps (l.rotate account (env.hash user row.salt) (env.parked s.world row.salt) old secret fs issued))
      (fun err t => (∃ cause, err = (cause.inOperation "migrate_user_events" (some account)).asMigration account ∧
          issueIds env (l.eventsOf account (env.hash user row.salt)).length
            { s with world := (env.drawIdentifier s.world).2 } = .error cause t) ∧
        t.Idles l) := by
  have hread : s.tables.account account = .ok row := h.account_eq_ok_iff.2 hrow
  have hnul := h.sound.nulFree_of_get? hrow
  let n := (l.eventsOf account (env.hash user row.salt)).length
  have hkept := issueIds_meets env n { s with world := (env.drawIdentifier s.world).2 }
  rw [associate_eq, if_neg huser]
  refine Meets.bind (P := fun o t => o = some n ∧
    issueIds env n { s with world := (env.drawIdentifier s.world).2 } = .ok () { t with tables := s.tables } ∧
    ∃ fs issued, l.issued ≤ issued ∧
      List.Forall₂ (Ledger.Moved (env.parked s.world row.salt) l.issued issued)
        (l.eventsOf account (env.hash user row.salt)) fs ∧
      t.Keeps (l.rotate account (env.hash user row.salt) (env.parked s.world row.salt) old secret fs issued))
    (Meets.write ?_) ?_
  · refine Meets.tables_bind ?_
    rw [hread]
    refine Meets.ok_bind ?_
    refine ((makeRoom_meets henv h.toHolds hrow (henv.nulFree_hash user row.salt)).mono (fun _ _ ht => ht) ?_).bind ?_
    · rintro _ t ⟨⟨cause, rfl, hids⟩, hissued, hquiet⟩
      exact ⟨⟨cause, inOperation_asMigration _ _ _ _, hids⟩, h.rollback hissued hquiet⟩
    rintro o t (⟨hfree, -⟩ | ⟨old', fs, issued, hold', rfl, hids, hissued, hfs, ht⟩)
    · rw [hold] at hfree
      cases hfree
    · obtain rfl : old' = old := Option.some.inj (hold'.symm.trans hold)
      have ht' := ht.tables.bindSecret (env.hash user row.salt) secret hnul
      have hs' := ht.sound.bind account (env.hash user row.salt) (some secret)
      rw [moved_bind] at ht' hs'
      exact ⟨rfl, hids, fs, issued, hissued, hfs, ⟨ht', hs', ht.issued, ht.quiet⟩, owned_rotate h.owned hfs⟩
  · rintro _ t ⟨rfl, hids, fs, issued, hissued, hfs, ht⟩
    obtain ⟨lastIssued, world, heq⟩ := hkept.of_ok hids
    obtain ⟨-, -, hlog, -⟩ := Session.mk.inj heq
    rw [hlog] at hids
    refine Meets.report ⟨congrArg (· ++ _) hlog, hids, fs, issued, hissued, hfs, ht.toHolds.report ?_, ht.owned⟩
    simp [Log.Event.level]

theorem associate_meets (henv : env.Proper) (h : s.Keeps l) (account user secret : String) :
    (associate env account user secret).Meets s
      (fun _ t => ∃ l', l.Step env s.world (.associate account user secret) (.ok .done) l' ∧ t.Keeps l')
      (fun _ t => t.Idles l) := by
  by_cases huser : user = ""
  · rw [associate_eq, if_pos huser]
    exact Meets.throw h.idles
  cases hrow : l.accounts.get? account with
  | none =>
    have hread : s.tables.account account = .error (.unknownAccount account) := by
      rw [h.tables.account_eq h.sound, Ledger.account, hrow]
    rw [associate_eq, if_neg huser]
    refine Meets.bind (P := fun _ _ => False) (Meets.write (Meets.tables_bind ?_)) fun _ _ => False.elim
    rw [hread]
    exact h.idles
  | some row =>
    cases hold : l.secret? account (env.hash user row.salt) with
    | none =>
      unfold Meets
      rw [associate_eq_of_free henv h huser hrow hold]
      refine ⟨_, .associate huser hrow hold, ⟨?_, h.sound.bind _ _ _, h.issued, ?_⟩, fun e he p hp => ?_⟩
      · exact h.tables.bindSecret _ secret (h.sound.nulFree_of_get? hrow)
      · exact (h.toHolds.report (by simp [Log.Event.level])).quiet
      · rw [Ledger.secret?_bind, if_neg (h.owned.ne_of_free hold he hp)]
        exact h.owned e he p hp
    | some old =>
      refine (associate_meets_of_bound henv h huser hrow hold secret).mono ?_ fun _ _ ht => ht.2
      rintro _ t ⟨-, -, fs, issued, hissued, hfs, ht⟩
      exact ⟨_, .rotate huser hrow hold hissued hfs, ht⟩

end PseudonymStore.Action
