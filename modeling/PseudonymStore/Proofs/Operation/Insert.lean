import PseudonymStore.Proofs.Step
/-!
# What inserting an event does

An insert appends one event to the ledger, under the pseudonym of its user and an ID that none had before.  It fails for
an unknown account, for a user to whose pseudonym no secret is bound, and when no ID can be issued (`insert_eq`).
-/
namespace PseudonymStore.Action

variable {σ : Type} {env : Environment σ} {s : Session σ} {l : Ledger}

theorem author_eq (henv : env.Proper) (h : s.Keeps l) {account : String} {row : AccountRow}
    (hrow : l.accounts.get? account = some row) (user : Option String) :
    author env s.tables row account user =
      if user.all (fun u => (l.secret? account (env.hash u row.salt)).isSome) then
        .ok (user.map (env.hash · row.salt))
      else .error (.unknownUser account) := by
  cases user with
  | none => rfl
  | some u =>
    simp only [author, Option.all_some, Option.map_some, h.secret?_hash henv hrow]

theorem insert_eq (henv : env.Proper) (h : s.Keeps l) {account : String} {row : AccountRow}
    (hrow : l.accounts.get? account = some row) (user : Option String) (payload : String) :
    insert env user account payload s =
      if (given user).all fun u => (l.secret? account (env.hash u row.salt)).isSome then
        match nextEventId env s with
        | .ok id t =>
          let e : EventRow := { id := id.text, account, user := (given user).map (env.hash · row.salt), payload }
          .ok id { t with tables := t.tables.putEvent e }
        | .error e t => .error (e.inOperation "insert" (some account)) { t with tables := s.tables }
      else .error (.unknownUser account) s := by
  have haccount : s.tables.account account = .ok row := h.account_eq_ok_iff.2 hrow
  have hauthor := author_eq henv h hrow (given user)
  unfold insert
  rw [write_eq, tables_bind, haccount, ok_bind, hauthor]
  by_cases hall : (given user).all (fun u => (l.secret? account (env.hash u row.salt)).isSome) = true
  · rw [if_pos hall, if_pos hall, ok_bind, bind_eq]
    cases nextEventId env s <;> rfl
  · rw [if_neg hall, if_neg hall]
    rfl

theorem insert_anonymous {t : Session σ} {account : String} {row : AccountRow} {id : EventId}
    (hrow : s.tables.account account = .ok row) (hid : nextEventId env s = .ok id t) (payload : String) :
    s.after env (.insert none account payload) = (.ok (.inserted id), { t with
      tables := t.tables.putEvent ⟨id.text, account, none, payload⟩ }) := by
  have hinsert : insert env none account payload s = .ok id { t with
      tables := t.tables.putEvent ⟨id.text, account, none, payload⟩ } := by
    unfold insert
    rw [write_eq_ok_iff, tables_bind, hrow, ok_bind]
    have hauthor : author env s.tables row account (given none) = .ok none := rfl
    rw [hauthor, ok_bind, bind_eq, hid]
    rfl
  rw [Session.after, Operation.perform, map_eq, hinsert]

/-- **Inserting an event** appends it under an ID that was not issued before. -/
theorem insert_meets (henv : env.Proper) (h : s.Keeps l) (user : Option String) (account payload : String) :
    (insert env user account payload).Meets s
      (fun id t => ∃ l', l.Step env s.world (.insert user account payload) (.ok (.inserted id)) l' ∧ t.Keeps l')
      (fun _ t => t.Idles l) := by
  cases hrow : l.accounts.get? account with
  | none =>
    have haccount : s.tables.account account = .error (.unknownAccount account) := by
      rw [h.tables.account_eq h.sound, Ledger.account, hrow]
    unfold insert
    refine Meets.write (Meets.tables_bind ?_)
    rw [haccount]
    exact h.idles
  | some row =>
    have hid := nextEventId_meets henv s
    unfold Meets at hid ⊢
    rw [insert_eq henv h hrow]
    by_cases hall : (given user).all (fun u => (l.secret? account (env.hash u row.salt)).isSome) = true
    · rw [if_pos hall]
      cases hnext : nextEventId env s with
      | error e t =>
        rw [hnext] at hid
        obtain ⟨world, rfl⟩ := hid
        exact (h.turn world).idles
      | ok id t =>
        rw [hnext] at hid
        obtain ⟨hid, world, rfl⟩ := hid
        rw [h.issued] at hid
        have hbound (u : String) (hu : given user = some u) :
            (l.secret? account (env.hash u row.salt)).isSome = true := by
          rwa [hu, Option.all_some] at hall
        let e : EventRow := { id := id.text, account, user := (given user).map (env.hash · row.salt), payload }
        have huser (p : Pseudonym) (hp : e.user = some p) : NulFree p.text ∧ (l.secret? account p).isSome = true := by
          obtain ⟨u, hu, rfl⟩ := Option.map_eq_some_iff.1 hp
          exact ⟨henv.nulFree_hash u row.salt, hbound u hu⟩
        refine ⟨(l.append e).issue (id.toNat + 1), .insert hrow hbound hid, ?_, fun f hf p hp => ?_⟩
        · have hhoused : ∃ r, (e.account, r) ∈ l.accounts.rows := ⟨row, OrderedMap.get?_eq_some_iff.1 hrow⟩
          exact h.toHolds.append (e := e) rfl hid hhoused (fun p hp => (huser p hp).1) world
        · rcases List.mem_append.1 hf with hf | hf
          · exact h.owned f hf p hp
          · rw [List.mem_singleton.1 hf] at hp ⊢
            exact (huser p hp).2
    · rw [if_neg hall]
      exact h.idles

end PseudonymStore.Action
