import PseudonymStore.Proofs.Recall
import PseudonymStore.Proofs.Step
/-!
# What lookups answer

A query and a question for deleted events are answered from the ledger (`query_eq`, `deletedEvents_eq`).  Neither fails
for another reason than an unknown account, and neither has anything to warn of.
-/
namespace PseudonymStore

variable {σ : Type}

namespace EventsByAccount

def all (m : EventsByAccount) : List EventView :=
  m.rows.flatMap (·.2)

section

variable {lists : List (String × List EventView)} (hone : ∀ x ∈ lists, ∀ y ∈ lists, x.1 = y.1 → x = y)

include hone

theorem mem_rows_ofLists {x : String × List EventView} : x ∈ (ofLists lists).rows ↔ x ∈ lists ∧ x.2 ≠ [] := by
  rw [ofLists, OrderedMap.mem_ofRows fun x hx y hy =>
    hone x (List.mem_of_mem_filter hx) y (List.mem_of_mem_filter hy), List.mem_filter]
  simp

theorem mem_all_ofLists {v : EventView} : v ∈ (ofLists lists).all ↔ ∃ x ∈ lists, v ∈ x.2 := by
  simp only [all, List.mem_flatMap, mem_rows_ofLists hone]
  constructor
  · rintro ⟨x, ⟨hx, -⟩, hv⟩
    exact ⟨x, hx, hv⟩
  · rintro ⟨x, hx, hv⟩
    exact ⟨x, ⟨hx, List.ne_nil_of_mem hv⟩, hv⟩

theorem nodup_all_ofLists (hnodup : ∀ x ∈ lists, x.2.Nodup) (haccount : ∀ x ∈ lists, ∀ v ∈ x.2, v.account = x.1) :
    (ofLists lists).all.Nodup := by
  refine List.nodup_flatMap.2 ⟨fun x hx => hnodup x ((mem_rows_ofLists hone).1 hx).1, ?_⟩
  refine (ofLists lists).ascending.imp_of_mem fun {x y} hx hy hlt v hvx hvy => ?_
  have heq : x.1 = y.1 := by
    rw [← haccount x ((mem_rows_ofLists hone).1 hx).1 v hvx, haccount y ((mem_rows_ofLists hone).1 hy).1 v hvy]
  rw [heq] at hlt
  exact String.lt_irrefl _ hlt

end

end EventsByAccount

namespace Ledger

/-- The accounts of some names, or the error of the first name that is unknown. -/
def named (l : Ledger) (names : List String) : Except StoreError (List AccountRow) :=
  match names.find? fun a => (l.accounts.get? a).isNone with
  | some a => .error (.unknownAccount a)
  | none => .ok (names.filterMap l.accounts.get?)

/-- The accounts that a query covers; a user's query that names none covers all. -/
def covered (l : Ledger) (q : EventQuery) : Except StoreError (List AccountRow) :=
  if (given q.userId).isSome ∧ q.accounts = [] then .ok l.accounts.values else l.named q.accounts

def userEvents (l : Ledger) (hash : String → Pseudonym) (since : Option String) (r : AccountRow) : List EventView :=
  ((l.eventsOf r.account (hash r.salt)).filter (comesAfter since ·.id)).map (EventView.ofRow · none)

def operatorEvents (l : Ledger) (since : Option String) (r : AccountRow) : List EventView :=
  (l.events.filter fun e => e.account = r.account ∧ comesAfter since e.id).map l.view

def shown (l : Ledger) (env : Environment σ) (q : EventQuery) (r : AccountRow) : List EventView :=
  match given q.userId with
  | some user => l.userEvents (env.hash user) (given q.cursor) r
  | none => l.operatorEvents (given q.cursor) r

def answer (l : Ledger) (env : Environment σ) (q : EventQuery) : Except StoreError EventsByAccount :=
  (l.covered q).map fun rows => .ofLists (rows.map fun r => (r.account, l.shown env q r))

def isKnown (l : Ledger) (hash : Option (String → Pseudonym)) (e : EventRow) : Bool :=
  hash.all fun hash => e.user.any (isHeld hash l.accounts.values e.account)

def isGone (l : Ledger) (hash : Option (String → Pseudonym)) (id : String) : Bool :=
  !l.events.any fun e => e.id = id ∧ l.isKnown hash e

theorem isHeld_values_iff {l : Ledger} (hl : l.Sound) {hash : String → Pseudonym} {account : String} {p : Pseudonym} :
    isHeld hash l.accounts.values account p = true ↔ ∃ r, l.accounts.get? account = some r ∧ hash r.salt = p := by
  simp only [isHeld, List.any_eq_true, decide_eq_true_iff, OrderedMap.values, List.mem_map, OrderedMap.get?_eq_some_iff]
  constructor
  · rintro ⟨_, ⟨⟨a, r⟩, hr, rfl⟩, rfl, hp⟩
    exact ⟨r, (hl.named _ hr).1.symm ▸ hr, hp⟩
  · rintro ⟨r, hr, hp⟩
    exact ⟨r, ⟨_, hr, rfl⟩, (hl.named _ hr).1, hp⟩

theorem mapM_account_eq (l : Ledger) : ∀ names : List String, names.mapM l.account = l.named names
  | [] => rfl
  | a :: names => by
    have ih := l.mapM_account_eq names
    rw [List.mapM_cons, ih, account, named, named]
    cases hr : l.accounts.get? a with
    | none =>
      simp only [List.find?_cons, hr, Option.isNone_none]
      rfl
    | some r =>
      simp only [List.find?_cons, List.filterMap_cons, hr, Option.isNone_some]
      cases names.find? fun a => (l.accounts.get? a).isNone <;> rfl

theorem mem_covered_iff {l : Ledger} (hl : l.Sound) {q : EventQuery} {rows : List AccountRow}
    (h : l.covered q = .ok rows) {r : AccountRow} : r ∈ rows ↔ l.accounts.get? r.account = some r ∧
      (r.account ∈ q.accounts ∨ (given q.userId).isSome = true ∧ q.accounts = []) := by
  unfold covered named at h
  split at h
  · next hall =>
    cases h
    rw [OrderedMap.get?_eq_some_iff, OrderedMap.values, List.mem_map]
    constructor
    · rintro ⟨⟨a, q⟩, hq, rfl⟩
      rw [(hl.named _ hq).1]
      exact ⟨hq, Or.inr hall⟩
    · exact fun hr => ⟨_, hr.1, rfl⟩
  · next hall =>
    split at h
    · cases h
    · cases h
      rw [List.mem_filterMap]
      constructor
      · rintro ⟨a, ha, hr⟩
        rw [hl.account_of_get? hr]
        exact ⟨hr, Or.inl ha⟩
      · rintro ⟨hr, ha | hnone⟩
        · exact ⟨_, ha, hr⟩
        · exact absurd hnone hall

theorem get?_of_covered {l : Ledger} (hl : l.Sound) {q : EventQuery} {rows : List AccountRow}
    (h : l.covered q = .ok rows) :
    ∀ r ∈ rows, l.accounts.get? r.account = some r :=
  fun _ hr => ((mem_covered_iff hl h).1 hr).1

theorem mem_userEvents {l : Ledger} {hash : String → Pseudonym} {since : Option String} {r : AccountRow}
    {v : EventView} :
    v ∈ l.userEvents hash since r ↔ ∃ e ∈ l.events, e.account = r.account ∧ e.user = some (hash r.salt) ∧
      comesAfter since e.id = true ∧ v = .ofRow e none := by
  simp only [userEvents, eventsOf, List.mem_map, List.mem_filter, isOf_iff]
  grind

theorem mem_operatorEvents {l : Ledger} {since : Option String} {r : AccountRow} {v : EventView} :
    v ∈ l.operatorEvents since r ↔
      ∃ e ∈ l.events, e.account = r.account ∧ comesAfter since e.id = true ∧ v = l.view e := by
  simp only [operatorEvents, List.mem_map, List.mem_filter, decide_eq_true_iff]
  grind

theorem account_of_mem_shown {l : Ledger} {env : Environment σ} {q : EventQuery} {r : AccountRow} {v : EventView}
    (hv : v ∈ l.shown env q r) : v.account = r.account := by
  unfold shown at hv
  split at hv
  · obtain ⟨e, -, ha, -, -, rfl⟩ := mem_userEvents.1 hv
    exact ha
  · obtain ⟨e, -, ha, -, rfl⟩ := mem_operatorEvents.1 hv
    exact ha

theorem nodup_shown {l : Ledger} (hl : l.Sound) (env : Environment σ) (q : EventQuery) (r : AccountRow) :
    (l.shown env q r).Nodup := by
  unfold shown
  split
  · exact hl.nodup_map (List.filter_sublist.trans List.filter_sublist) fun _ => rfl
  · exact hl.nodup_map List.filter_sublist fun _ => rfl

section

variable {l : Ledger} {env : Environment σ} {q : EventQuery} {rows : List AccountRow} {m : EventsByAccount}

theorem lists_one (hl : l.Sound) (hrows : l.covered q = .ok rows) :
    ∀ x ∈ rows.map fun r => (r.account, l.shown env q r),
    ∀ y ∈ rows.map fun r => (r.account, l.shown env q r), x.1 = y.1 → x = y := by
  intro x hx y hy heq
  obtain ⟨r, hr, rfl⟩ := List.mem_map.1 hx
  obtain ⟨s, hs, rfl⟩ := List.mem_map.1 hy
  have hr := get?_of_covered hl hrows r hr
  have hs := get?_of_covered hl hrows s hs
  dsimp only at heq
  rw [heq, hs] at hr
  rw [Option.some.inj hr]

/-- **An answer holds what the query shows** of the accounts that it covers. -/
theorem mem_answer (hl : l.Sound) (hrows : l.covered q = .ok rows) (hm : l.answer env q = .ok m) {v : EventView} :
    v ∈ m.all ↔ ∃ r ∈ rows, v ∈ l.shown env q r := by
  rw [answer, hrows] at hm
  cases hm
  rw [EventsByAccount.mem_all_ofLists (lists_one hl hrows)]
  simp only [List.mem_map, exists_exists_and_eq_and]

theorem nodup_answer (hl : l.Sound) (hm : l.answer env q = .ok m) : m.all.Nodup := by
  cases hrows : l.covered q with
  | error e =>
    rw [answer, hrows] at hm
    cases hm
  | ok rows =>
    rw [answer, hrows] at hm
    cases hm
    refine EventsByAccount.nodup_all_ofLists (lists_one hl hrows) ?_ ?_
    · intro x hx
      obtain ⟨r, -, rfl⟩ := List.mem_map.1 hx
      exact nodup_shown hl env q r
    · intro x hx v hv
      obtain ⟨r, -, rfl⟩ := List.mem_map.1 hx
      exact account_of_mem_shown hv

end

theorem named_eq_ok {l : Ledger} {names : List String} (h : ∀ a ∈ names, (l.accounts.get? a).isSome = true) :
    l.named names = .ok (names.filterMap l.accounts.get?) := by
  have hnone : names.find? (fun a => (l.accounts.get? a).isNone) = none := by
    rw [List.find?_eq_none]
    intro a ha
    simpa [Option.ne_none_iff_isSome] using h a ha
  rw [named, hnone]

end Ledger

theorem Tables.eventsOf_eq {t : Tables} {account : String} : ∀ {es : List EventRow},
    (∀ e ∈ es, t.event? account e.id = .ok (some e)) →
    t.eventsOf account (es.map (·.id)) = pure (es.map (EventView.ofRow · none))
  | [], _ => rfl
  | e :: es, hes => by
    have ih := Tables.eventsOf_eq fun f hf => hes f (List.mem_cons_of_mem _ hf)
    rw [List.map_cons, Tables.eventsOf, hes e List.mem_cons_self, ih]
    rfl

namespace Tables.Keeps

variable {t : Tables} {l : Ledger}

theorem userView_eq (h : t.Keeps l) (hl : l.Sound) {hash : String → Pseudonym}
    (hhash : ∀ salt, NulFree (hash salt).text) {q : EventQuery} (hq : (given q.userId).isSome = true) :
    t.userView hash q = MonadExcept.ofExcept ((l.covered q).map fun rows =>
      .ofLists (rows.map fun r => (r.account, l.userEvents hash (given q.cursor) r))) := by
  have hrows : (if q.accounts.isEmpty then t.allAccounts else q.accounts.mapM t.account) = l.covered q := by
    rw [h.allAccounts_eq hl, funext (h.account_eq hl), l.mapM_account_eq, Ledger.covered]
    simp [hq]
  unfold Tables.userView
  rw [hrows]
  cases hcovered : l.covered q with
  | error e => rfl
  | ok rows =>
    have hlists : (rows.mapM fun row => do
        let events ← t.eventsOf row.account (t.userEventIds row.account (hash row.salt) (given q.cursor))
        return (row.account, events) : Reading _) =
          pure (rows.map fun r => (r.account, l.userEvents hash (given q.cursor) r)) := by
      refine mapM_eq_pure fun r hr => ?_
      have hnul := hl.nulFree_of_get? (Ledger.get?_of_covered hl hcovered r hr)
      rw [h.userEventIds_eq hl _ hnul (hhash r.salt), Tables.eventsOf_eq]
      · rfl
      · intro e he
        obtain ⟨hel, ha, -⟩ := Ledger.mem_eventsOf.1 (List.mem_of_mem_filter he)
        exact ha ▸ h.event?_of_mem hel
    show (pure rows >>= fun rows => _) = _
    rw [pure_bind, hlists]
    rfl

theorem operatorLists_eq (h : t.Keeps l) (hl : l.Sound) (since : Option String) : ∀ names : List String,
    (names.mapM fun a => do
      let _ ← t.account a
      let events ← t.operatorEvents a since
      return (a, events)) = (l.named names).map fun rows => rows.map fun r => (r.account, l.operatorEvents since r)
  | [] => rfl
  | a :: names => by
    have ih := h.operatorLists_eq hl since names
    rw [List.mapM_cons, ih, ← l.mapM_account_eq, ← l.mapM_account_eq, List.mapM_cons, h.account_eq hl]
    cases hr : l.account a with
    | error e => rfl
    | ok r =>
      have hget := Ledger.account_eq_ok_iff.1 hr
      have hlist := h.operatorEvents_eq hl since (hl.nulFree_of_get? hget)
      rw [← hl.account_of_get? hget] at hlist ⊢
      simp only [hlist]
      cases names.mapM l.account <;> rfl

theorem operatorQuery_eq (h : t.Keeps l) (hl : l.Sound) {q : EventQuery} (hq : (given q.userId).isSome = false) :
    t.operatorQuery q = (l.covered q).map fun rows =>
      .ofLists (rows.map fun r => (r.account, l.operatorEvents (given q.cursor) r)) := by
  rw [Tables.operatorQuery, h.operatorLists_eq hl, Ledger.covered, if_neg (by simp [hq])]
  cases l.named q.accounts <;> rfl

theorem isGone_eq (h : t.Keeps l) (hl : l.Sound) {hash : Option (String → Pseudonym)}
    (hhash : ∀ f, hash = some f → ∀ salt, NulFree (f salt).text) (id : String) :
    t.isGone hash id = .ok (l.isGone hash id) := by
  unfold Tables.isGone Ledger.isGone
  cases ha : t.accountOf? id with
  | none =>
    have hnone : l.events.any (fun e => decide (e.id = id ∧ l.isKnown hash e = true)) = false := by
      rw [List.any_eq_false]
      intro e he hid
      have := h.accountOf?_eq_some_iff.2 ⟨e, he, (of_decide_eq_true hid).1, rfl⟩
      rw [ha] at this
      cases this
    rw [hnone]
    rfl
  | some account =>
    obtain ⟨e, he, rfl, rfl⟩ := h.accountOf?_eq_some_iff.1 ha
    have hone : l.events.any (fun f => decide (f.id = e.id ∧ l.isKnown hash f = true)) = l.isKnown hash e := by
      rw [Bool.eq_iff_iff, List.any_eq_true]
      constructor
      · rintro ⟨f, hf, hknown⟩
        obtain ⟨hid, hknown⟩ := of_decide_eq_true hknown
        exact hl.eq_of_id hf he hid ▸ hknown
      · exact fun hknown => ⟨e, he, decide_eq_true ⟨rfl, hknown⟩⟩
    rw [hone]
    cases hash with
    | none => rfl
    | some hash =>
      obtain ⟨row, hrow⟩ := hl.housed e he
      have hget := OrderedMap.get?_eq_some_iff.2 hrow
      have hindexed : t.isIndexed e.account (hash row.salt) e.id = l.isKnown (some hash) e := by
        rw [Bool.eq_iff_iff, h.isIndexed_iff hl (hl.nulFree_account he) (hhash hash rfl row.salt), Ledger.isKnown,
          Option.all_some, Option.any_eq_true]
        constructor
        · rintro ⟨f, hf, hid, -, hu⟩
          rw [hl.eq_of_id hf he hid] at hu
          exact ⟨_, hu, (Ledger.isHeld_values_iff hl).2 ⟨row, hget, rfl⟩⟩
        · rintro ⟨p, hp, hheld⟩
          obtain ⟨r, hr, rfl⟩ := (Ledger.isHeld_values_iff hl).1 hheld
          rw [hget] at hr
          cases hr
          exact ⟨e, he, rfl, rfl, hp⟩
      dsimp only
      rw [h.account_eq hl, Ledger.account_eq_ok_iff.2 hget, ← hindexed]
      rfl

theorem goneAmong_eq (h : t.Keeps l) (hl : l.Sound) {hash : Option (String → Pseudonym)}
    (hhash : ∀ f, hash = some f → ∀ salt, NulFree (f salt).text) : ∀ ids : List String,
    t.goneAmong hash ids = .ok (ids.filter (l.isGone hash))
  | [] => rfl
  | id :: ids => by
    rw [Tables.goneAmong, h.isGone_eq hl hhash, h.goneAmong_eq hl hhash ids, List.filter_cons]
    cases l.isGone hash id <;> rfl

end Tables.Keeps

namespace Action

variable {env : Environment σ} {s : Session σ} {l : Ledger}

/-- **A query is answered from the ledger**, and leaves the session as it is. -/
theorem query_eq (henv : env.Proper) (h : s.Holds l) (q : EventQuery) :
    query env q s = match l.answer env q with
      | .ok m => .ok m s
      | .error e => .error (e.inOperation "query" none) s := by
  rw [query, read_eq]
  cases hu : given q.userId with
  | none =>
    have hview := h.tables.operatorQuery_eq h.sound (q := q) (by rw [hu]; rfl)
    have hanswer : l.answer env q = s.tables.operatorQuery q := by
      rw [hview, Ledger.answer]
      simp only [Ledger.shown, hu]
    rw [hanswer]
    dsimp only
    cases s.tables.operatorQuery q <;> rfl
  | some user =>
    have hview := h.tables.userView_eq h.sound (henv.nulFree_hash user) (q := q) (by rw [hu]; rfl)
    have hanswer : l.answer env q = (l.covered q).map fun rows =>
        .ofLists (rows.map fun r => (r.account, l.userEvents (env.hash user) (given q.cursor) r)) := by
      rw [Ledger.answer]
      simp only [Ledger.shown, hu]
    rw [hanswer]
    dsimp only
    rw [hview]
    cases l.covered q <;> rfl

theorem deletedEvents_eq (henv : env.Proper) (h : s.Holds l) (ids : List String) (user : Option String) :
    deletedEvents env ids user s = .ok (ids.filter (l.isGone ((given user).map env.hash))) s := by
  have hhash : ∀ f, (given user).map env.hash = some f → ∀ salt, NulFree (f salt).text := by
    intro f hf salt
    obtain ⟨u, -, rfl⟩ := Option.map_eq_some_iff.1 hf
    exact henv.nulFree_hash u salt
  rw [deletedEvents, read_eq, Tables.goneKnowing_empty, h.tables.goneAmong_eq h.sound hhash]
  rfl

end Action

end PseudonymStore
