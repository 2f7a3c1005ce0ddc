import PseudonymStore.Proofs.Operation.Run
/-!
# What operations answer

What an operation answers to a session that keeps a ledger is told by the ledger.
-/
namespace PseudonymStore.Session

variable {σ : Type} {env : Environment σ} {s : Session σ} {l : Ledger}

theorem Holds.after_query (henv : env.Proper) (h : s.Holds l) (q : EventQuery) :
    s.after env (.query q) = (match l.answer env q with
      | .ok m => .ok (.events m)
      | .error e => .error (e.inOperation "query" none), s) := by
  have hquery := Action.query_eq henv h q
  unfold Session.after
  cases hanswer : l.answer env q with
  | ok m =>
    rw [hanswer] at hquery
    have hperform : Operation.perform env (.query q) s = .ok (.events m) s := by
      rw [Operation.perform, Action.map_eq, hquery]
    rw [hperform]
  | error e =>
    rw [hanswer] at hquery
    have hperform : Operation.perform env (.query q) s = .error (e.inOperation "query" none) s := by
      rw [Operation.perform, Action.map_eq, hquery]
    rw [hperform]

theorem Holds.after_deletedEvents (henv : env.Proper) (h : s.Holds l) (ids : List String) (user : Option String) :
    s.after env (.deletedEvents ids user) = (.ok (.deleted (ids.filter (l.isGone ((given user).map env.hash)))), s) := by
  have hperform : Operation.perform env (.deletedEvents ids user) s =
      .ok (.deleted (ids.filter (l.isGone ((given user).map env.hash)))) s := by
    rw [Operation.perform, Action.map_eq, Action.deletedEvents_eq henv h]
  rw [Session.after, hperform]

theorem Keeps.after_userQuery (henv : env.Proper) (h : s.Keeps l) {account user : String} {row : AccountRow}
    (huser : user ≠ "") (hrow : l.accounts.get? account = some row) :
    (s.after env (.query ((EventQuery.user user).inAccounts [account]))).1 =
      .ok (.events (.ofLists
        [(account, (l.eventsOf account (env.hash user row.salt)).map (EventView.ofRow · none))])) := by
  have hgiven : given (some user) = some user := by simp [given, huser]
  have hcovered : l.covered ((EventQuery.user user).inAccounts [account]) = .ok [row] := by
    rw [Ledger.covered, if_neg (by simp [EventQuery.inAccounts])]
    refine (Ledger.named_eq_ok ?_).trans ?_
    · simp [EventQuery.inAccounts, hrow]
    · simp [EventQuery.inAccounts, hrow]
  have hshown : l.shown env ((EventQuery.user user).inAccounts [account]) row =
      (l.eventsOf account (env.hash user row.salt)).map (EventView.ofRow · none) := by
    have hnone : given none = none := rfl
    have haccount := h.sound.account_of_get? hrow
    simp [Ledger.shown, Ledger.userEvents, EventQuery.inAccounts, EventQuery.user, hgiven, hnone, haccount]
  rw [h.after_query henv, Ledger.answer, hcovered]
  simp only [Except.map, List.map_cons, List.map_nil, hshown, h.sound.account_of_get? hrow]

theorem Keeps.after_insert (henv : env.Proper) (h : s.Keeps l) {account user : String} {row : AccountRow}
    (huser : user ≠ "") (hrow : l.accounts.get? account = some row) (payload : String) {id : EventId} {t : Session σ}
    (hid : Action.nextEventId env s = .ok id t) :
    (s.after env (.insert (some user) account payload)).1 =
      if (l.secret? account (env.hash user row.salt)).isSome then .ok (.inserted id)
      else .error (.unknownUser account) := by
  have hgiven : given (some user) = some user := by simp [given, huser]
  rw [Session.after, Operation.perform, Action.map_eq, Action.insert_eq henv h hrow, hid, hgiven, Option.all_some]
  by_cases hheld : (l.secret? account (env.hash user row.salt)).isSome = true
  · rw [if_pos hheld, if_pos hheld]
  · rw [if_neg hheld, if_neg hheld]

theorem Keeps.after_associate_free (henv : env.Proper) (h : s.Keeps l) {account user : String} {row : AccountRow}
    (huser : user ≠ "") (hrow : l.accounts.get? account = some row)
    (hfree : l.secret? account (env.hash user row.salt) = none) (secret : String) :
    s.after env (.associate account user secret) = (.ok .done, { s with
      tables := s.tables.bindSecret account (env.hash user row.salt) secret
      log := s.log ++ [.associated account] }) := by
  rw [Session.after, Operation.perform, Action.bind_eq, Action.associate_eq_of_free henv h huser hrow hfree]
  rfl

theorem Keeps.after_associate (henv : env.Proper) (h : s.Keeps l) {account user : String} {row : AccountRow}
    (huser : user ≠ "") (hrow : l.accounts.get? account = some row)
    (hfree : l.secret? account (env.hash user row.salt) = none) (secret : String) :
    ∃ t, s.after env (.associate account user secret) = (.ok .done, t) ∧ t.lastIssued = s.lastIssued ∧
      t.Keeps (l.bind account (env.hash user row.salt) (some secret)) := by
  obtain ⟨l', hstep, ht⟩ := h.after henv (.associate account user secret)
  have hafter := h.after_associate_free henv huser hrow hfree secret
  rw [hafter] at hstep ht
  refine ⟨_, hafter, rfl, ?_⟩
  cases hstep with
  | read hread => cases hread
  | associate _ hrow' _ =>
    rw [hrow] at hrow'
    cases hrow'
    exact ht
  | rotate _ hrow' hold =>
    rw [hrow] at hrow'
    cases hrow'
    rw [hfree] at hold
    cases hold

/-- **A rotation succeeds** where the generator issues an ID for each event. -/
theorem Keeps.after_associate_issued (henv : env.Proper) (h : s.Keeps l) {account user old : String} {row : AccountRow}
    (huser : user ≠ "") (hrow : l.accounts.get? account = some row)
    (hold : l.secret? account (env.hash user row.salt) = some old) (secret : String) {g : Session σ}
    (hids : Action.issueIds env (l.eventsOf account (env.hash user row.salt)).length
      { s with world := (env.drawIdentifier s.world).2 } = .ok () g) :
    ∃ t fs issued, s.after env (.associate account user secret) = (.ok .done, t) ∧
      t.lastIssued = g.lastIssued ∧ t.world = g.world ∧
      t.log = s.log ++ [.rotated account (l.eventsOf account (env.hash user row.salt)).length] ∧
      List.Forall₂ (Ledger.Moved (env.parked s.world row.salt) l.issued issued)
        (l.eventsOf account (env.hash user row.salt)) fs ∧
      t.Keeps (l.rotate account (env.hash user row.salt) (env.parked s.world row.salt) old secret fs issued) := by
  have hmeets := Action.associate_meets_of_bound henv h huser hrow hold secret
  rw [Session.after, Operation.perform, Action.bind_eq]
  cases hx : Action.associate env account user secret s with
  | ok a t =>
    obtain ⟨hlog, hissued, fs, issued, -, hfs, ht⟩ := hmeets.of_ok hx
    rw [hids] at hissued
    cases hissued
    exact ⟨t, fs, issued, rfl, rfl, rfl, hlog, hfs, ht⟩
  | error e t =>
    obtain ⟨⟨cause, -, hfailed⟩, -⟩ := hmeets.of_error hx
    rw [hids] at hfailed
    cases hfailed

/-- **A rotation fails** where the generator issues too few IDs, and leaves nothing but what the generator has become. -/
theorem Keeps.after_associate_unissued (henv : env.Proper) (h : s.Keeps l) {account user old : String}
    {row : AccountRow} (huser : user ≠ "") (hrow : l.accounts.get? account = some row)
    (hold : l.secret? account (env.hash user row.salt) = some old) (secret : String) {cause : StoreError}
    {g : Session σ} (hids : Action.issueIds env (l.eventsOf account (env.hash user row.salt)).length
      { s with world := (env.drawIdentifier s.world).2 } = .error cause g) :
    s.after env (.associate account user secret) =
        (.error ((cause.inOperation "migrate_user_events" (some account)).asMigration account), g) ∧ g.Idles l := by
  have hmeets := Action.associate_meets_of_bound henv h huser hrow hold secret
  rw [Session.after, Operation.perform, Action.bind_eq]
  cases hx : Action.associate env account user secret s with
  | ok a t =>
    obtain ⟨-, hissued, -⟩ := hmeets.of_ok hx
    rw [hids] at hissued
    cases hissued
  | error e t =>
    obtain ⟨⟨cause', rfl, hfailed⟩, hidles⟩ := hmeets.of_error hx
    rw [hids] at hfailed
    cases hfailed
    exact ⟨rfl, hidles⟩

theorem Keeps.after_purge (henv : env.Proper) (h : s.Keeps l) {user : String} (huser : user ≠ "") :
    ∃ t, s.after env (.purge user) = (.ok .done, t) ∧
      t = { s with
        tables := t.tables
        log := s.log ++ [.purged (l.eventsHeld (env.hash user)).length
          (l.owning (env.hash user) l.accounts.values).length] } ∧
      t.tables.userSecrets =
        (RowKey.secrets (env.hash user) l.accounts.values).foldl OrderedMap.erase s.tables.userSecrets ∧
      t.Keeps (l.purge (env.hash user) l.accounts.values) := by
  have hmeets := Action.purge_strikes henv h huser
  rw [Session.after, Operation.perform, Action.bind_eq]
  cases hx : Action.purge env user s with
  | ok a t =>
    obtain ⟨hframe, hsecrets, ht⟩ := hmeets.of_ok hx
    exact ⟨t, rfl, hframe, hsecrets, ht⟩
  | error e t => exact (hmeets.of_error hx).elim

theorem Keeps.after_purgeNobody (h : s.Keeps l) (env : Environment σ) :
    s.after env (.purge "") = (.ok .done, { s with log := s.log ++ [.purgedNobody] }) ∧
      ({ s with log := s.log ++ [.purgedNobody] } : Session σ).Keeps l := by
  refine ⟨?_, h.toHolds.report (by simp [Log.Event.level]), h.owned⟩
  rw [Session.after, Operation.perform, Action.bind_eq, Action.purge, if_pos rfl]
  rfl

theorem lastIssued_of_issued (h : s.issued = 0) : s.lastIssued = none := by
  rw [issued] at h
  cases hlast : s.lastIssued with
  | none => rfl
  | some last =>
    rw [hlast, Option.elim_some] at h
    exact absurd h (Nat.succ_ne_zero _)

theorem after_created (henv : env.Proper) (world : σ) {account name : String}
    (hcreated : ((opened .empty world).after env (.createAccount account name)).1 = .ok .done) :
    ∃ row t, (opened .empty world).after env (.createAccount account name) = (.ok .done, t) ∧ t.lastIssued = none ∧
      t.Keeps (Ledger.empty.enter row) ∧ (Ledger.empty.enter row).accounts.get? account = some row := by
  obtain ⟨l, hstep, h⟩ := (keeps_opened world).after henv (.createAccount account name)
  rw [hcreated] at hstep
  cases hstep with
  | read hread => cases hread
  | @create _ _ row hname _ =>
    refine ⟨row, _, Prod.ext hcreated rfl, ?_, h, ?_⟩
    · exact lastIssued_of_issued h.issued
    · rw [← hname]
      exact OrderedMap.get?_insert_self _ _ _

/-! ## A run where the world stands still -/

def stillId : EventId :=
  .fresh (Environment.still.now ()).1.millis (List.replicate EventId.drawLength 1)

theorem nextEventId_still {s : Session Unit} (h : s.lastIssued = none) :
    Action.nextEventId .still s = .ok stillId { s with lastIssued := some stillId } := by
  cases s
  cases h
  rfl

def started : List Operation :=
  [.createAccount "a" "A", .associate "a" "u" "s", .insert (some "u") "a" "p"]

theorem keeps_started : ∃ row l, ((opened .empty ()).run .still started).2.Keeps l ∧ l.issued = stillId.toNat + 1 ∧
    l.accounts.get? "a" = some row ∧ l.eventsOf "a" (Environment.still.hash "u" row.salt) =
      [⟨stillId.text, "a", some (Environment.still.hash "u" row.salt), "p"⟩] ∧
    ∀ p, l.secret? "a" p = if p = Environment.still.hash "u" row.salt then some "s" else none := by
  have henv := Environment.still_proper
  have huser : "u" ≠ "" := by decide
  obtain ⟨row, s₁, hcreate, hlast₁, h₁, hrow⟩ := after_created henv () created_still
  obtain ⟨s₂, hbind, hlast₂, h₂⟩ := h₁.after_associate henv huser hrow rfl "s"
  have hinsert := h₂.after_insert henv huser hrow "p" (nextEventId_still (hlast₂.trans hlast₁))
  simp only [Ledger.secret?_bind, and_self, if_true, Option.isSome_some] at hinsert
  obtain ⟨l, hstep, h₃⟩ := h₂.after henv (.insert (some "u") "a" "p")
  rw [hinsert] at hstep
  have hrun : ((opened .empty ()).run .still started).2 = (s₂.after .still (.insert (some "u") "a" "p")).2 := by
    rw [started, run_cons, hcreate, run_cons, hbind, run_cons, run_nil]
  rw [hrun]
  cases hstep with
  | read hread => cases hread
  | @insert _ _ _ row' _ hrow' _ _ =>
    obtain rfl : row' = row := Option.some.inj (hrow'.symm.trans hrow)
    have hgiven : given (some "u") = some "u" := by decide
    rw [hgiven] at h₃
    refine ⟨row', _, h₃, rfl, hrow, ?_, fun p => ?_⟩
    · have hof : Ledger.isOf "a" (Environment.still.hash "u" row'.salt)
          ⟨stillId.text, "a", some (Environment.still.hash "u" row'.salt), "p"⟩ = true := Ledger.isOf_iff.2 ⟨rfl, rfl⟩
      exact (Ledger.eventsOf_append _ _ _ _).trans (congrArg ([] ++ ·) (if_pos hof))
    · simp only [Ledger.issue, Ledger.append, Ledger.secret?_bind, true_and]
      rfl

theorem issueIds_still {s : Session Unit} (h : s.issued = stillId.toNat + 1) :
    ∃ g, Action.issueIds .still 1 s = .ok () g := by
  have hlast : s.lastIssued = some stillId := by
    rw [issued] at h
    cases hlast : s.lastIssued with
    | none =>
      rw [hlast] at h
      cases h
    | some last =>
      rw [hlast] at h
      exact congrArg some (EventId.toNat_inj.1 (Nat.succ.inj h))
  have hclock : (Environment.still.now ()).1.millis = 0 := by decide
  have hstands : s.Stands .still 0 1 := ⟨hclock, fun _ _ _ => trivial⟩
  have hcount := Action.issueIds_of_last 1 hlast hstands (Nat.zero_le _)
  cases hids : Action.issueIds .still 1 s with
  | ok a g => exact ⟨g, rfl⟩
  | error e g => exact absurd (hcount.of_error hids).1 (by decide)

end PseudonymStore.Session
