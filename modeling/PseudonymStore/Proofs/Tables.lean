import PseudonymStore.Tables
import PseudonymStore.Proofs.Ledger
/-!
# Tables that keep a ledger

When each table holds exactly the rows that a ledger asks of it (`Tables.Keeps`), a look-up and a scan answer from the
ledger, and what a step does to the tables is what it does to the ledger.  Nothing a lookup reads can then fail: rows
are read back as they were written and the indexes lead where they should.
-/
namespace PseudonymStore

theorem mapM_eq_pure {m : Type → Type} [Monad m] [LawfulMonad m] {α β : Type} {f : α → m β} {g : α → β} :
    ∀ {xs : List α},
    (∀ x ∈ xs, f x = pure (g x)) → xs.mapM f = pure (xs.map g)
  | [], _ => List.mapM_nil
  | x :: xs, h => by
    have ih : xs.mapM f = pure (xs.map g) := mapM_eq_pure fun y hy => h y (List.mem_cons_of_mem _ hy)
    rw [List.mapM_cons, h x List.mem_cons_self, ih, pure_bind, pure_bind, List.map_cons]

namespace Tables

theorem account_eq_ok_iff {t : Tables} {a : String} {r : AccountRow} :
    t.account a = .ok r ↔ ∃ bytes, (RowKey.account a, bytes) ∈ t.accounts.rows ∧ AccountRow.ofBytes bytes = .ok r := by
  unfold account
  simp only [← OrderedMap.get?_eq_some_iff]
  cases t.accounts.get? (RowKey.account a) <;> simp

/-- **Tables that keep a ledger** hold the rows of its accounts and events, one entry in each index for every event that
belongs there, and its secrets. -/
structure Keeps (t : Tables) (l : Ledger) : Prop where
  account : t.accounts.Shows l.accounts.rows (RowKey.account ·.1) (·.2.bytes)
  secret : ∀ a p, NulFree a → NulFree p.text → t.secret? a p = l.secret? a p
  event : t.events.Shows l.events (fun e => RowKey.event e.account e.id) EventRow.bytes
  home : t.eventAccounts.Shows l.events (RowKey.eventAccount ·.id) EventRow.account
  index : t.userEvents.Shows l.identified (fun x => RowKey.userEvent x.1.account x.2 x.1.id) fun _ => ()

theorem keeps_empty : empty.Keeps .empty where
  account := OrderedMap.shows_empty _ _
  secret := fun _ _ _ _ => rfl
  event := OrderedMap.shows_empty _ _
  home := OrderedMap.shows_empty _ _
  index := OrderedMap.shows_empty _ _

namespace Keeps

variable {t : Tables} {l : Ledger}

/-! ## Looking up -/

theorem account_eq (h : t.Keeps l) (hl : l.Sound) (a : String) : t.account a = l.account a := by
  unfold Tables.account Ledger.account
  cases hr : l.accounts.get? a with
  | some r =>
    have hmem := OrderedMap.get?_eq_some_iff.1 hr
    have hget := h.account.get?_of_mem hmem
    dsimp only at hget
    rw [hget]
    exact AccountRow.ofBytes_bytes (hl.named _ hmem).2.2.2
  | none =>
    have hnone : t.accounts.get? (RowKey.account a) = none := by
      refine OrderedMap.get?_eq_none_iff.2 fun bytes hmem => ?_
      obtain ⟨r, hrmem, heq⟩ := (h.account _).1 hmem
      have ha := RowKey.account_inj.1 (Prod.mk.inj heq).1
      exact OrderedMap.get?_eq_none_iff.1 hr r.2 (ha ▸ hrmem)
    rw [hnone]

theorem allAccounts_eq (h : t.Keeps l) (hl : l.Sound) : t.allAccounts = .ok l.accounts.values := by
  have hread : ∀ r ∈ l.accounts.rows, AccountRow.ofBytes r.2.bytes = .ok r.2 := fun r hr =>
    AccountRow.ofBytes_bytes (hl.named r hr).2.2.2
  have hrows : t.accounts.rows = l.accounts.rows.map fun r => (RowKey.account r.1, r.2.bytes) := by
    refine OrderedMap.eq_of_ascending t.accounts.ascending (List.pairwise_map.2 ?_) fun row => ?_
    · exact l.accounts.ascending.imp fun {r q} hlt => Utf8.utf8_lt_utf8_iff.2 hlt
    · simp only [h.account row, List.mem_map, eq_comm]
  rw [Tables.allAccounts, OrderedMap.values, hrows, List.map_map, List.mapM_map]
  simp only [Function.comp_def]
  exact mapM_eq_pure hread

theorem contains_account (h : t.Keeps l) {a : String} :
    t.accounts.contains (RowKey.account a) = true ↔ (l.accounts.get? a).isSome = true := by
  rw [OrderedMap.contains_iff, Option.isSome_iff_exists]
  constructor
  · rintro ⟨bytes, hmem⟩
    obtain ⟨⟨b, r⟩, hr, heq⟩ := (h.account _).1 hmem
    have hab : a = b := RowKey.account_inj.1 (Prod.mk.inj heq).1
    exact ⟨r, OrderedMap.get?_eq_some_iff.2 (hab ▸ hr)⟩
  · rintro ⟨r, hr⟩
    exact ⟨r.bytes, (h.account _).2 ⟨(a, r), OrderedMap.get?_eq_some_iff.1 hr, rfl⟩⟩

theorem event?_of_mem (h : t.Keeps l) {e : EventRow} (he : e ∈ l.events) : t.event? e.account e.id = .ok (some e) := by
  rw [Tables.event?, h.event.get?_of_mem he]
  simp

theorem accountOf?_eq_some_iff (h : t.Keeps l) {id a : String} :
    t.accountOf? id = some a ↔ ∃ e ∈ l.events, e.id = id ∧ e.account = a := by
  rw [Tables.accountOf?, OrderedMap.get?_eq_some_iff, h.home (RowKey.eventAccount id, a)]
  refine exists_congr fun e => and_congr_right fun _ => ?_
  rw [Prod.mk.injEq, RowKey.eventAccount_inj, eq_comm, @eq_comm _ a]

theorem isIndexed_iff (h : t.Keeps l) (hl : l.Sound) {a id : String} {p : Pseudonym} (ha : NulFree a)
    (hp : NulFree p.text) :
    t.isIndexed a p id = true ↔ ∃ e ∈ l.events, e.id = id ∧ e.account = a ∧ e.user = some p := by
  rw [Tables.isIndexed, OrderedMap.contains_iff]
  constructor
  · rintro ⟨_, hmem⟩
    obtain ⟨⟨e, q⟩, hx, heq⟩ := (h.index _).1 hmem
    obtain ⟨he, hq⟩ := Ledger.mem_identified.1 hx
    obtain ⟨rfl, rfl, rfl⟩ := (RowKey.userEvent_inj ha (hl.nulFree_account he) hp (hl.nulFree_user e he q hq)).1
      (Prod.mk.inj heq).1
    exact ⟨e, he, rfl, rfl, hq⟩
  · rintro ⟨e, he, rfl, rfl, hp⟩
    exact ⟨(), (h.index _).2 ⟨(e, p), Ledger.mem_identified.2 ⟨he, hp⟩, rfl⟩⟩

theorem userEventIds_eq (h : t.Keeps l) (hl : l.Sound) {a : String} {p : Pseudonym} (since : Option String)
    (ha : NulFree a) (hp : NulFree p.text) :
    t.userEventIds a p since = ((l.eventsOf a p).filter (comesAfter since ·.id)).map (·.id) := by
  have hmem (e : EventRow) : e ∈ (l.eventsOf a p).filter (comesAfter since ·.id) ↔
      (e ∈ l.events ∧ e.account = a ∧ e.user = some p) ∧ comesAfter since e.id = true := by
    rw [List.mem_filter, Ledger.mem_eventsOf]
  have hrows : t.userEvents.rows.filter ((KeyRange.userEvents a p since).contains ·.1) =
      ((l.eventsOf a p).filter (comesAfter since ·.id)).map fun e => (RowKey.userEvent a p e.id, ()) := by
    refine OrderedMap.filter_rows_eq_map ?_ fun row => ?_
    · exact ((hl.ascending.filter _).filter _).imp fun {e f} hlt => (RowKey.userEvent_lt_of_lt ha hp).2 hlt
    · rw [h.index row]
      constructor
      · rintro ⟨⟨⟨e, q⟩, hx, rfl⟩, hrange⟩
        obtain ⟨he, hq⟩ := Ledger.mem_identified.1 hx
        obtain ⟨hae, rfl, hsince⟩ := (KeyRange.contains_userEvents_iff since e.id ha (hl.nulFree_account he) hp
          (hl.nulFree_user e he q hq)).1 hrange
        exact ⟨e, (hmem e).2 ⟨⟨he, hae, hq⟩, hsince⟩, by rw [← hae]⟩
      · rintro ⟨e, he, rfl⟩
        obtain ⟨⟨hel, rfl, hq⟩, hsince⟩ := (hmem e).1 he
        exact ⟨⟨(e, p), Ledger.mem_identified.2 ⟨hel, hq⟩, rfl⟩,
          (KeyRange.contains_userEvents_iff since e.id ha ha hp hp).2 ⟨rfl, rfl, hsince⟩⟩
  rw [Tables.userEventIds, hrows, List.filterMap_map, ← List.filterMap_eq_map]
  refine List.filterMap_congr fun e he => ?_
  exact RowKey.leaf?_userEvent a p (hl.nulFree_id ((hmem e).1 he).1.1)

theorem userEventIds_none (h : t.Keeps l) (hl : l.Sound) {a : String} {p : Pseudonym} (ha : NulFree a)
    (hp : NulFree p.text) : t.userEventIds a p none = (l.eventsOf a p).map (·.id) := by
  rw [h.userEventIds_eq hl none ha hp]
  simp

theorem operatorEvents_eq (h : t.Keeps l) (hl : l.Sound) {a : String} (since : Option String) (ha : NulFree a) :
    t.operatorEvents a since = .ok ((l.events.filter fun e => e.account = a ∧ comesAfter since e.id).map l.view) := by
  have hmem (e : EventRow) : e ∈ (l.events.filter fun e => e.account = a ∧ comesAfter since e.id) ↔
      e ∈ l.events ∧ e.account = a ∧ comesAfter since e.id = true := by
    simp
  have hrows : t.events.rows.filter ((KeyRange.events a since).contains ·.1) =
      (l.events.filter fun e => e.account = a ∧ comesAfter since e.id).map fun e => (RowKey.event a e.id, e.bytes) := by
    refine OrderedMap.filter_rows_eq_map ?_ fun row => ?_
    · exact (hl.ascending.filter _).imp fun {e f} hlt => (RowKey.event_lt ha ha).2 (Or.inr ⟨rfl, hlt⟩)
    · rw [h.event row]
      constructor
      · rintro ⟨⟨e, he, rfl⟩, hrange⟩
        obtain ⟨hae, hsince⟩ := (KeyRange.contains_events_iff since e.id ha (hl.nulFree_account he)).1 hrange
        exact ⟨e, (hmem e).2 ⟨he, hae, hsince⟩, by rw [← hae]⟩
      · rintro ⟨e, he, rfl⟩
        obtain ⟨hel, rfl, hsince⟩ := (hmem e).1 he
        exact ⟨⟨e, hel, rfl⟩, (KeyRange.contains_events_iff since e.id ha ha).2 ⟨rfl, hsince⟩⟩
  rw [Tables.operatorEvents, hrows, List.mapM_map]
  refine mapM_eq_pure fun e he => ?_
  obtain ⟨hel, rfl, -⟩ := (hmem e).1 he
  have hview : t.operatorView e.account e = l.view e := by
    rw [Tables.operatorView, Ledger.view]
    cases hu : e.user with
    | none => rfl
    | some p => exact congrArg (EventView.ofRow e) (h.secret _ _ (hl.nulFree_account hel) (hl.nulFree_user e hel p hu))
  simp [hview, pure, Except.pure]

/-! ## Changing -/

theorem putAccount (h : t.Keeps l) (r : AccountRow) : (t.putAccount r).Keeps (l.enter r) where
  account := by
    intro row
    rw [Tables.putAccount, OrderedMap.mem_insert, h.account row]
    simp only [Ledger.enter, OrderedMap.mem_insert]
    constructor
    · rintro (rfl | ⟨hne, q, hq, rfl⟩)
      · exact ⟨(r.account, r), Or.inl rfl, rfl⟩
      · exact ⟨q, Or.inr ⟨fun heq => hne (congrArg RowKey.account heq), hq⟩, rfl⟩
    · rintro ⟨q, rfl | ⟨hne, hq⟩, rfl⟩
      · exact Or.inl rfl
      · exact Or.inr ⟨fun heq => hne (RowKey.account_inj.1 heq), q, hq, rfl⟩
  secret := h.secret
  event := h.event
  home := h.home
  index := h.index

theorem bindSecret (h : t.Keeps l) {a : String} (p : Pseudonym) (secret : String) (ha : NulFree a) :
    (t.bindSecret a p secret).Keeps (l.bind a p (some secret)) where
  account := h.account
  secret := by
    intro b q hb hq
    rw [Ledger.secret?_bind, ← h.secret b q hb hq]
    split
    · next hkey =>
      obtain ⟨rfl, rfl⟩ := hkey
      exact OrderedMap.get?_insert_self _ _ _
    · next hkey => exact OrderedMap.get?_insert_of_ne _ (fun heq => hkey ((RowKey.secret_inj hb ha).1 heq)) _
  event := h.event
  home := h.home
  index := h.index

theorem dropSecret (h : t.Keeps l) {a : String} (p : Pseudonym) (ha : NulFree a) :
    (t.dropSecret a p).Keeps (l.bind a p none) where
  account := h.account
  secret := by
    intro b q hb hq
    rw [Ledger.secret?_bind, ← h.secret b q hb hq]
    split
    · next hkey =>
      obtain ⟨rfl, rfl⟩ := hkey
      exact OrderedMap.get?_erase_self _ _
    · next hkey => exact OrderedMap.get?_erase_of_ne _ fun heq => hkey ((RowKey.secret_inj hb ha).1 heq)
  event := h.event
  home := h.home
  index := h.index

/-- **Putting an event under a new ID adds it to the ledger**, without a change to any other row. -/
theorem putEvent (h : t.Keeps l) (hl : l.Sound) {e : EventRow} (hid : ∀ f ∈ l.events, f.id ≠ e.id)
    (ha : NulFree e.account) (hu : ∀ p, e.user = some p → NulFree p.text) : (t.putEvent e).Keeps (l.append e) := by
  have hevent := h.event.insert e fun f hf heq => hid f hf ((RowKey.event_inj (hl.nulFree_account hf) ha).1 heq).2
  have hhome := h.home.insert e fun f hf heq => hid f hf (RowKey.eventAccount_inj.1 heq)
  have hindex := l.identified_append e
  unfold Tables.putEvent putIndexEntry
  cases hp : e.user with
  | none =>
    rw [hp, Option.map_none, Option.toList_none, List.append_nil] at hindex
    dsimp only
    refine ⟨h.account, h.secret, hevent, hhome, ?_⟩
    rw [hindex]
    exact h.index
  | some p =>
    rw [hp, Option.map_some, Option.toList_some] at hindex
    dsimp only
    refine ⟨h.account, h.secret, hevent, hhome, ?_⟩
    rw [hindex]
    refine h.index.insert (e, p) ?_
    rintro ⟨f, q⟩ hx heq
    obtain ⟨hf, hq⟩ := Ledger.mem_identified.1 hx
    exact hid f hf ((RowKey.userEvent_inj (hl.nulFree_account hf) ha (hl.nulFree_user f hf q hq) (hu p hp)).1 heq).2.2

theorem dropEvent (h : t.Keeps l) (hl : l.Sound) {e : EventRow} (he : e ∈ l.events) :
    (t.dropEvent e.account e.id e.user).Keeps (l.restrict (·.id ≠ e.id)) := by
  have hkey {f : EventRow} (hf : f ∈ l.events) : decide (f.id ≠ e.id) = true ↔ f ≠ e := by
    rw [decide_eq_true_iff]
    exact not_congr (hl.id_eq_iff hf he)
  have hevent := h.event.erase (RowKey.event e.account e.id) fun f hf =>
    (hkey hf).trans (not_congr ((RowKey.event_inj (hl.nulFree_account hf) (hl.nulFree_account he)).trans
      ⟨fun heq => hl.eq_of_id hf he heq.2, fun heq => heq ▸ ⟨rfl, rfl⟩⟩)).symm
  have hhome := h.home.erase (RowKey.eventAccount e.id) fun f hf =>
    (hkey hf).trans (not_congr (RowKey.eventAccount_inj.trans (hl.id_eq_iff hf he))).symm
  have hindex := l.identified_restrict (·.id ≠ e.id)
  unfold Tables.dropEvent dropIndexEntry
  cases hp : e.user with
  | none =>
    refine ⟨h.account, h.secret, hevent, hhome, ?_⟩
    -- An event without a user has no entry, so no entry bears its ID.
    have hall : l.identified.filter (fun x => decide (x.1.id ≠ e.id)) = l.identified := by
      rw [List.filter_eq_self]
      rintro ⟨f, q⟩ hx
      obtain ⟨hf, hq⟩ := Ledger.mem_identified.1 hx
      refine (hkey hf).2 fun heq => ?_
      rw [heq, hp] at hq
      cases hq
    rw [hindex, hall]
    exact h.index
  | some p =>
    refine ⟨h.account, h.secret, hevent, hhome, ?_⟩
    rw [hindex]
    refine h.index.erase (RowKey.userEvent e.account p e.id) ?_
    rintro ⟨f, q⟩ hx
    obtain ⟨hf, hq⟩ := Ledger.mem_identified.1 hx
    refine (hkey hf).trans (not_congr ?_).symm
    rw [RowKey.userEvent_inj (hl.nulFree_account hf) (hl.nulFree_account he) (hl.nulFree_user f hf q hq)
      (hl.nulFree_user e he p hp)]
    constructor
    · exact fun heq => hl.eq_of_id hf he heq.2.2
    · rintro rfl
      rw [hp] at hq
      exact ⟨rfl, (Option.some.inj hq).symm, rfl⟩

/-! ## Row by row -/

theorem unique (h : t.Keeps l) {u : Tables} (h' : u.Keeps l) (hsecrets : u.userSecrets = t.userSecrets) : u = t := by
  cases t
  cases u
  obtain rfl := h.account.unique h'.account
  obtain rfl := h.event.unique h'.event
  obtain rfl := h.home.unique h'.home
  obtain rfl := h.index.unique h'.index
  cases hsecrets
  rfl

section

variable {u : Tables} {l' : Ledger} {gone : EventRow → Bool} {new : List EventRow} (h : t.Keeps l) (hl : l.Sound)
  (h' : u.Keeps l') (hevents : l'.events = l.events.filter (!gone ·) ++ new)

include h hl h' hevents

theorem replaced_events : t.events.Replaced ((l.events.filter gone).map fun e => RowKey.event e.account e.id)
    (new.map fun f => (RowKey.event f.account f.id, f.bytes)) u.events := by
  have hevent := h'.event
  rw [hevents] at hevent
  refine h.event.replaced hevent fun e he => hl.not_mem_map_filter_iff (fun f hf heq => ?_) gone he
  exact ((RowKey.event_inj (hl.nulFree_account hf) (hl.nulFree_account he)).1 heq).2

theorem replaced_homes : t.eventAccounts.Replaced ((l.events.filter gone).map fun e => RowKey.eventAccount e.id)
    (new.map fun f => (RowKey.eventAccount f.id, f.account)) u.eventAccounts := by
  have hhome := h'.home
  rw [hevents] at hhome
  exact h.home.replaced hhome fun e he =>
    hl.not_mem_map_filter_iff (fun f _ heq => RowKey.eventAccount_inj.1 heq) gone he

theorem replaced_index : t.userEvents.Replaced
    ((l.events.filter gone).filterMap fun e => e.user.map fun p => RowKey.userEvent e.account p e.id)
    (new.filterMap fun f => f.user.map fun p => (RowKey.userEvent f.account p f.id, ())) u.userEvents := by
  have hindex := h'.index
  rw [Ledger.identified_of_events hevents] at hindex
  have hkey : ∀ x ∈ l.identified, (!gone x.1) = true ↔ RowKey.userEvent x.1.account x.2 x.1.id ∉
      (l.events.filter gone).filterMap fun e => e.user.map fun p => RowKey.userEvent e.account p e.id := by
    rintro ⟨e, p⟩ hx
    obtain ⟨he, hp⟩ := Ledger.mem_identified.1 hx
    rw [Bool.not_eq_true', ← Bool.not_eq_true, List.mem_filterMap]
    refine not_congr ⟨fun hgone => ⟨e, List.mem_filter.2 ⟨he, hgone⟩, by rw [hp]; rfl⟩, ?_⟩
    rintro ⟨f, hf, hentry⟩
    obtain ⟨hf, hgone⟩ := List.mem_filter.1 hf
    obtain ⟨q, hq, heq⟩ := Option.map_eq_some_iff.1 hentry
    obtain ⟨-, -, hid⟩ := (RowKey.userEvent_inj (hl.nulFree_account hf) (hl.nulFree_account he)
      (hl.nulFree_user f hf q hq) (hl.nulFree_user e he p hp)).1 heq
    exact hl.eq_of_id hf he hid ▸ hgone
  simpa only [List.map_filterMap, Option.map_map, Function.comp_def] using h.index.replaced hindex hkey

end

theorem takeEvent_eq (h : t.Keeps l) {e : EventRow} (he : e ∈ l.events) :
    t.takeEvent e.account e.id = .ok (some e, t.dropEvent e.account e.id e.user) := by
  rw [Tables.takeEvent, h.event?_of_mem he]

end Keeps

end Tables

end PseudonymStore
