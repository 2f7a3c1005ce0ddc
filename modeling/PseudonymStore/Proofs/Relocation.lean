import PseudonymStore.Proofs.Rotation
/-!
# Where a rotation leaves history

A rotation moves the events of a pseudonym to the parked one and binds the old secret to it, whatever the parked
pseudonym has already (`Session.handsOver_run`).  Where it owns no other secret and is not the pseudonym that is rotated,
every owner keeps its history.  Nothing makes sure of this: where an identifier is drawn twice, the history that was
parked under it first goes over to the owner that is parked under it now (`Session.not_keepsOwners_still`).
-/
namespace PseudonymStore

variable {σ : Type}

theorem forall₂_of_mem {α β : Type} {R S : α → β → Prop} : ∀ {xs : List α} {ys : List β}, List.Forall₂ R xs ys →
    (∀ x ∈ xs, ∀ y ∈ ys, R x y → S x y) → List.Forall₂ S xs ys
  | _, _, .nil, _ => .nil
  | _, _, .cons h hs, hRS => .cons (hRS _ List.mem_cons_self _ List.mem_cons_self h)
      (forall₂_of_mem hs fun x hx y hy => hRS x (List.mem_cons_of_mem _ hx) y (List.mem_cons_of_mem _ hy))

namespace Tables

/-- The secret to which an event is joined. -/
def joined? (t : Tables) (e : EventRow) : Option String :=
  e.user.bind (t.secret? e.account)

/-- **The events of a pseudonym have moved** to the parked one, in their order and under later IDs; all others are as
they were. -/
structure Moves (t : Tables) (account : String) (user parked : Pseudonym) (es fs : List EventRow) (u : Tables) :
    Prop where
  source : ∀ e, e ∈ es ↔ t.Stores e ∧ e.account = account ∧ e.user = some user
  moved : List.Forall₂ (fun e f => f.account = e.account ∧ f.user = some parked ∧ f.payload = e.payload ∧ e.id < f.id)
    es fs
  stores : ∀ f, u.Stores f ↔ t.Stores f ∧ f ∉ es ∨ f ∈ fs

/-- **Every owner keeps its history**: what an event has become is joined to the secret to which the event was joined,
and every secret of the account is bound to some pseudonym still. -/
structure KeepsOwners (t : Tables) (account : String) (es fs : List EventRow) (u : Tables) : Prop where
  stayed : ∀ e, t.Stores e → e ∉ es → u.joined? e = t.joined? e
  moved : List.Forall₂ (fun e f => u.joined? f = t.joined? e) es fs
  bound : ∀ p secret, t.secret? account p = some secret → ∃ q, u.secret? account q = some secret

/-- **What a rotation does to secrets and histories**, whatever it draws. -/
structure HandsOver (t : Tables) (account : String) (user parked : Pseudonym) (old secret : String)
    (es fs : List EventRow) (u : Tables) : Prop extends t.Moves account user parked es fs u where
  secrets : ∀ a p, NulFree a → u.secret? a p =
    if a = account ∧ p = user then some secret else if a = account ∧ p = parked then some old else t.secret? a p
  /-- What is under the rotated pseudonym goes to the new owner, and what is under the parked one to the old owner. -/
  joins : ∀ f, u.Stores f → u.joined? f =
    if f.account = account ∧ f.user = some user then some secret
    else if f.account = account ∧ f.user = some parked then some old else t.joined? f
  /-- Only a pseudonym that is in use makes owners lose what they have. -/
  kept : parked ≠ user → (∀ other, t.secret? account parked = some other → other = old) →
    t.KeepsOwners account es fs u

namespace Keeps

variable {t u : Tables} {l : Ledger} {account : String} {user parked : Pseudonym} {old secret : String}
  {fs : List EventRow} {issued : Nat}

theorem moves (h : t.Keeps l) (hl : l.Sound) (h' : u.Keeps (l.rotate account user parked old secret fs issued))
    (hfs : List.Forall₂ (Ledger.Moved parked l.issued issued) (l.eventsOf account user) fs) :
    t.Moves account user parked (l.eventsOf account user) fs u where
  source := by
    intro e
    rw [Ledger.mem_eventsOf, h.stores_iff]
  moved := by
    refine forall₂_of_mem hfs ?_
    rintro e he _ - ⟨id, hid, -, rfl⟩
    exact ⟨rfl, rfl, rfl, hl.lt_of_issued_le (Ledger.mem_eventsOf.1 he).1 hid⟩
  stores := by
    intro f
    rw [h'.stores_iff, Ledger.events_rotate, ← Ledger.filter_not_mem_eventsOf, List.mem_append, List.mem_filter,
      h.stores_iff, decide_eq_true_iff]

end Keeps

theorem secret?_rotated {t u : Tables} {account : String} (haccount : NulFree account) {user parked : Pseudonym}
    {old secret : String}
    (h : u.userSecrets =
      (((t.dropSecret account user).bindSecret account parked old).bindSecret account user secret).userSecrets)
    {a : String} (ha : NulFree a) (p : Pseudonym) :
    u.secret? a p =
      if a = account ∧ p = user then some secret else if a = account ∧ p = parked then some old else t.secret? a p := by
  have hkey (q : Pseudonym) : RowKey.secret a p = RowKey.secret account q ↔ a = account ∧ p = q :=
    RowKey.secret_inj ha haccount
  simp only [secret?, h, bindSecret, dropSecret]
  by_cases huser : a = account ∧ p = user
  · rw [if_pos huser, (hkey user).2 huser, OrderedMap.get?_insert_self]
  rw [if_neg huser, OrderedMap.get?_insert_of_ne _ (mt (hkey user).1 huser)]
  by_cases hparked : a = account ∧ p = parked
  · rw [if_pos hparked, (hkey parked).2 hparked, OrderedMap.get?_insert_self]
  · rw [if_neg hparked, OrderedMap.get?_insert_of_ne _ (mt (hkey parked).1 hparked),
      OrderedMap.get?_erase_of_ne _ (mt (hkey user).1 huser)]

theorem joined?_of_secrets {t u : Tables} {account : String} {user parked : Pseudonym} {old secret : String}
    (hsecrets : ∀ a p, NulFree a → u.secret? a p =
      if a = account ∧ p = user then some secret else if a = account ∧ p = parked then some old else t.secret? a p)
    {e : EventRow} (he : NulFree e.account) :
    u.joined? e =
      if e.account = account ∧ e.user = some user then some secret
      else if e.account = account ∧ e.user = some parked then some old else t.joined? e := by
  unfold joined?
  cases e.user with
  | none => simp
  | some p => simp [hsecrets _ p he]

theorem HandsOver.of_secrets {t u : Tables} (hconsistent : t.Consistent) {account : String}
    {user parked : Pseudonym} {old secret : String} {es fs : List EventRow} (hmoves : t.Moves account user parked es fs u)
    (hold : t.secret? account user = some old) (hnul : ∀ f, u.Stores f → NulFree f.account)
    (hsecrets : ∀ a p, NulFree a → u.secret? a p =
      if a = account ∧ p = user then some secret else if a = account ∧ p = parked then some old else t.secret? a p)
    (haccount : NulFree account) :
    t.HandsOver account user parked old secret es fs u where
  toMoves := hmoves
  secrets := hsecrets
  joins := fun f hf => joined?_of_secrets hsecrets (hnul f hf)
  kept := by
    intro hne hother
    refine ⟨fun e he hes => ?_, forall₂_of_mem hmoves.moved fun e he f hf hef => ?_, fun p v hp => ?_⟩
    · rw [joined?_of_secrets hsecrets (hnul e ((hmoves.stores e).2 (Or.inl ⟨he, hes⟩)))]
      rw [if_neg fun h => hes ((hmoves.source e).2 ⟨he, h⟩)]
      split
      · next h =>
        obtain ⟨ha, hu⟩ := h
        obtain ⟨v, hv⟩ := Option.isSome_iff_exists.1 (hconsistent.owned e parked he hu)
        rw [joined?, hu, Option.bind_some, hv]
        rw [ha] at hv
        rw [hother v hv]
      · rfl
    · obtain ⟨-, ha, hu⟩ := (hmoves.source e).1 he
      obtain ⟨hfa, hfu, -⟩ := hef
      rw [joined?_of_secrets hsecrets (hnul f ((hmoves.stores f).2 (Or.inr hf))), hfu, hfa, ha]
      rw [if_neg fun h => hne (Option.some.inj h.2), if_pos ⟨rfl, rfl⟩, joined?, hu, Option.bind_some, ha, hold]
    · by_cases hv : v = old
      · refine ⟨parked, ?_⟩
        rw [hsecrets _ _ haccount, if_neg fun h => hne h.2, if_pos ⟨rfl, rfl⟩, hv]
      · refine ⟨p, ?_⟩
        rw [hsecrets _ _ haccount, if_neg, if_neg, hp]
        · rintro ⟨-, rfl⟩
          exact hv (hother v hp)
        · rintro ⟨-, rfl⟩
          exact hv (Option.some.inj (hp.symm.trans hold))

end Tables

namespace Session

variable {env : Environment σ} {s t : Session σ} {l : Ledger} {account user secret old : String} {row : AccountRow}

theorem Keeps.after_associate_handsOver (henv : env.Proper) (h : s.Keeps l) (hrow : l.accounts.get? account = some row)
    (hold : l.secret? account (env.hash user row.salt) = some old)
    (hafter : s.after env (.associate account user secret) = (.ok .done, t)) :
    ∃ fs, s.tables.HandsOver account (env.hash user row.salt) (env.parked s.world row.salt) old secret
      (l.eventsOf account (env.hash user row.salt)) fs t.tables := by
  obtain ⟨l', hstep, h'⟩ := h.after henv (.associate account user secret)
  rw [hafter] at hstep h'
  have hnul := h.sound.nulFree_of_get? hrow
  have hread : s.tables.account account = .ok row := h.account_eq_ok_iff.2 hrow
  have hbound := (h.secret?_hash henv hrow user).trans hold
  have hsecrets := (Action.associate_secrets hread hbound secret).of_ok (associate_of_after hafter)
  rw [h.sound.account_of_get? hrow] at hsecrets
  cases hstep with
  | read hread => cases hread
  | associate _ hrow' hfree =>
    rw [hrow] at hrow'
    cases hrow'
    rw [hold] at hfree
    cases hfree
  | @rotate _ _ _ old' row' fs issued _ hrow' hold' hissued hmoved =>
    rw [hrow] at hrow'
    cases hrow'
    rw [hold] at hold'
    cases hold'
    have hmoves := h.tables.moves h.sound h'.tables hmoved
    exact ⟨fs, .of_secrets (h.tables.consistent h.sound h.owned) hmoves hbound
      (fun f hf => h'.sound.nulFree_account (h'.tables.stores_iff.1 hf))
      (fun a p ha => Tables.secret?_rotated hnul hsecrets ha p) hnul⟩

/-- **Where a rotation leaves history**, after every run and whatever is drawn: the old secret and the events of the
pseudonym go to the parked one, and nothing else changes hands; so every owner keeps its history if the parked pseudonym
is another one and owns no other secret. -/
theorem handsOver_run (henv : env.Proper) (world : σ) (ops : List Operation)
    (hs : ((opened .empty world).run env ops).2 = s) (hrow : s.tables.account account = .ok row)
    (hold : s.tables.secret? account (env.hash user row.salt) = some old)
    (hafter : s.after env (.associate account user secret) = (.ok .done, t)) :
    ∃ es fs, s.tables.HandsOver account (env.hash user row.salt) (env.parked s.world row.salt) old secret es fs
      t.tables := by
  obtain ⟨l, h⟩ := keeps_run henv world ops
  rw [hs] at h
  rw [h.account_eq_ok_iff] at hrow
  rw [h.secret?_hash henv hrow] at hold
  exact ⟨_, h.after_associate_handsOver henv hrow hold hafter⟩

/-- The rotation parks the event that `u` has inserted. -/
theorem handsOver_run_still : ∃ (s t : Session Unit) (row : AccountRow) (es fs : List EventRow),
    ((opened .empty ()).run .still started).2 = s ∧ s.after .still (.associate "a" "u" "t") = (.ok .done, t) ∧
    s.tables.HandsOver "a" (Environment.still.hash "u" row.salt) (Environment.still.parked s.world row.salt) "s" "t" es fs
      t.tables ∧ es ≠ [] := by
  have henv := Environment.still_proper
  obtain ⟨row, l, h, hissued, hrow, hevents, hsecret⟩ := keeps_started
  obtain ⟨s, hs⟩ : ∃ s, ((opened .empty ()).run .still started).2 = s := ⟨_, rfl⟩
  rw [hs] at h
  have hread := h.account_eq_ok_iff.2 hrow
  have hold : l.secret? "a" (Environment.still.hash "u" row.salt) = some "s" := by rw [hsecret, if_pos rfl]
  obtain ⟨g, hids⟩ := issueIds_still (s := s) (h.issued.trans hissued)
  obtain ⟨t, -, -, hafter, -⟩ := h.after_associate_issued henv (by decide) hrow hold "t" (by rw [hevents]; exact hids)
  obtain ⟨es, fs, hover⟩ := handsOver_run henv () started hs hread
    ((h.secret?_hash henv hrow "u").trans hold) hafter
  refine ⟨s, t, row, es, fs, hs, hafter, hover, ?_⟩
  obtain ⟨e, hmem⟩ := List.exists_mem_of_ne_nil _ (hevents ▸ List.cons_ne_nil _ _)
  obtain ⟨he, ha, hu⟩ := Ledger.mem_eventsOf.1 hmem
  exact List.ne_nil_of_mem ((hover.source e).2 ⟨h.tables.stores_iff.2 he, ha, hu⟩)

/-! ## An identifier that is drawn twice -/

def rotatedOnce : List Operation :=
  started ++ [.associate "a" "u" "t"]

theorem keeps_rotatedOnce : ∃ row l e, ((opened .empty ()).run .still rotatedOnce).2.Keeps l ∧
    l.accounts.get? "a" = some row ∧ l.eventsOf "a" (Environment.still.hash "u" row.salt) = [] ∧
    (∀ p, l.secret? "a" p = if p = Environment.still.hash "u" row.salt then some "t"
      else if p = Environment.still.parked () row.salt then some "s" else none) ∧
    e ∈ l.events ∧ e.account = "a" ∧ e.user = some (Environment.still.parked () row.salt) := by
  have henv := Environment.still_proper
  obtain ⟨row, l, h, hissued, hrow, hevents, hsecret⟩ := keeps_started
  have hne : Environment.still.parked () row.salt ≠ Environment.still.hash "u" row.salt := by
    rw [Environment.hash_still]
    exact Environment.parked_still_ne row.salt
  have huser : "u" ≠ "" := by decide
  have hrun : ((opened .empty ()).run .still rotatedOnce).2 =
      (((opened .empty ()).run .still started).2.after .still (.associate "a" "u" "t")).2 := by
    rw [rotatedOnce, run_append, run_cons, run_nil]
  rw [hrun]
  -- The session is named, so that nothing evaluates the run.
  obtain ⟨s, hs⟩ : ∃ s, ((opened .empty ()).run .still started).2 = s := ⟨_, rfl⟩
  rw [hs] at h ⊢
  obtain ⟨g, hids⟩ := issueIds_still (s := s) (h.issued.trans hissued)
  obtain ⟨t, fs, issued, hafter, -, -, -, hfs, ht⟩ := h.after_associate_issued henv huser hrow
    (by rw [hsecret, if_pos rfl]) "t" (by rw [hevents]; exact hids)
  rw [hafter]
  have hgone : (l.rotate "a" (Environment.still.hash "u" row.salt) (Environment.still.parked () row.salt) "s" "t" fs
      issued).eventsOf "a" (Environment.still.hash "u" row.salt) = [] :=
    (Ledger.eventsOf_rotate hfs fun _ => hne).trans (if_pos ⟨rfl, rfl⟩)
  rw [hevents] at hfs
  obtain ⟨f, _, ⟨id, -, -, rfl⟩, hnil, rfl⟩ := List.forall₂_cons_left_iff.1 hfs
  refine ⟨row, _, _, ht, hrow, hgone, fun p => ?_, List.mem_append_right _ List.mem_cons_self, rfl, rfl⟩
  rw [Ledger.secret?_rotate, hsecret]
  by_cases hp : p = Environment.still.hash "u" row.salt <;> simp [hp]

/-- **A rotation may merge two owners' histories**: where the second rotation draws the identifier of the first, the event
that was parked under it first goes over to the second owner, and the secret of the first is lost. -/
theorem not_keepsOwners_still : ∃ (s t : Session Unit) (row : AccountRow),
    ((opened .empty ()).run .still rotatedOnce).2 = s ∧ s.tables.account "a" = .ok row ∧
    s.tables.secret? "a" (Environment.still.hash "u" row.salt) = some "t" ∧
    s.after .still (.associate "a" "u" "v") = (.ok .done, t) ∧
    (∃ e, s.tables.Stores e ∧ t.tables.Stores e ∧ s.tables.joined? e = some "s" ∧ t.tables.joined? e = some "t") ∧
    (∀ p, NulFree p.text → t.tables.secret? "a" p ≠ some "s") ∧
    ∀ es fs, s.tables.Moves "a" (Environment.still.hash "u" row.salt) (Environment.still.parked s.world row.salt) es fs
      t.tables → ¬s.tables.KeepsOwners "a" es fs t.tables := by
  have henv := Environment.still_proper
  obtain ⟨row, l, e, h, hrow, hevents, hsecret, he, ha, hu⟩ := keeps_rotatedOnce
  obtain ⟨s, hs⟩ : ∃ s, ((opened .empty ()).run .still rotatedOnce).2 = s := ⟨_, rfl⟩
  rw [hs] at h
  have hnul := h.sound.nulFree_of_get? hrow
  have hne : Environment.still.parked () row.salt ≠ Environment.still.hash "u" row.salt := by
    rw [Environment.hash_still]
    exact Environment.parked_still_ne row.salt
  have hread := h.account_eq_ok_iff.2 hrow
  have hhash : l.secret? "a" (Environment.still.hash "u" row.salt) = some "t" := by rw [hsecret, if_pos rfl]
  obtain ⟨t, -, -, hafter, -⟩ := h.after_associate_issued henv (by decide) hrow hhash "v" (by rw [hevents]; rfl)
  have hstores : s.tables.Stores e := h.tables.stores_iff.2 he
  obtain ⟨fs, hover⟩ := h.after_associate_handsOver henv hrow hhash hafter
  have hleft : t.tables.Stores e := by
    refine (hover.stores e).2 (Or.inl ⟨hstores, ?_⟩)
    rw [hevents]
    exact List.not_mem_nil
  have hbefore : s.tables.joined? e = some "s" := by
    have hparked := h.tables.secret "a" (Environment.still.parked () row.salt) hnul (henv.nulFree_hash _ _)
    rw [Tables.joined?, hu, Option.bind_some, ha, hparked, hsecret, if_neg hne, if_pos rfl]
  have hnow : t.tables.joined? e = some "t" := by
    rw [hover.joins e hleft, if_neg, if_pos ⟨ha, hu⟩]
    rintro ⟨-, heq⟩
    exact hne (Option.some.inj (hu.symm.trans heq))
  refine ⟨s, t, row, hs, hread, (h.secret?_hash henv hrow "u").trans hhash, hafter,
    ⟨e, hstores, hleft, hbefore, hnow⟩, fun p hp => ?_, fun es fs hmoves hkept => ?_⟩
  · rw [hover.secrets _ _ hnul, h.tables.secret _ _ hnul hp, hsecret]
    by_cases huser : p = Environment.still.hash "u" row.salt
    · simp [huser]
    · rw [if_neg fun heq => huser heq.2, if_neg huser]
      by_cases hparked : p = Environment.still.parked () row.salt <;> simp [hparked]
  have hout : e ∉ es := fun hmem => hne (Option.some.inj (hu.symm.trans ((hmoves.source e).1 hmem).2.2))
  have heq := hkept.stayed e hstores hout
  rw [hbefore, hnow] at heq
  exact absurd heq (by decide)

end Session

end PseudonymStore
