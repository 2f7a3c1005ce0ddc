import PseudonymStore.Proofs.Life
import PseudonymStore.Operation.Lookup
/-!
# Tables that can be read

Whatever happens to a store, every row of an account or an event can be read and stands under its own key
(`Tables.Legible`), so a scan by account never fails and shows exactly the events of the account.  The index by user lists
exactly the events with a user (`Tables.Indexed`) as long as no ID is issued twice: an event that takes the place of
another leaves the other's index entry behind.
-/
namespace PseudonymStore

variable {σ : Type}

namespace RowKey

theorem append_zero_inj_of_notMem {xs ys ps qs : Bytes} (hys : 0 ∉ ys) (hqs : 0 ∉ qs)
    (h : xs ++ 0 :: ps = ys ++ 0 :: qs) : xs = ys ∧ ps = qs := by
  have hcount := congrArg (List.count 0) h
  simp only [List.count_append, List.count_cons_self, List.count_eq_zero_of_not_mem hys,
    List.count_eq_zero_of_not_mem hqs] at hcount
  exact (append_zero_inj (List.count_eq_zero.1 (by omega)) hys).1 h

theorem eq_of_event_eq {a b i j : String} (hb : NulFree b) (hj : NulFree j) (h : event a i = event b j) :
    a = b ∧ i = j := by
  obtain ⟨ha, hi⟩ := append_zero_inj_of_notMem hb.zero_notMem hj.zero_notMem h
  exact ⟨Utf8.utf8_inj.1 ha, Utf8.utf8_inj.1 hi⟩

theorem eq_of_userEvent_eq {a b i j : String} {p q : Pseudonym} (hb : NulFree b) (hq : NulFree q.text)
    (hj : NulFree j) (h : userEvent a p i = userEvent b q j) : a = b ∧ p = q ∧ i = j := by
  have hcount := congrArg (List.count 0) h
  simp only [userEvent_eq, List.count_append, List.count_cons_self,
    List.count_eq_zero_of_not_mem hb.zero_notMem, List.count_eq_zero_of_not_mem hq.zero_notMem,
    List.count_eq_zero_of_not_mem hj.zero_notMem] at hcount
  have ha : (0 : UInt8) ∉ utf8 a := List.count_eq_zero.1 (by omega)
  have hp : (0 : UInt8) ∉ utf8 p.text := List.count_eq_zero.1 (by omega)
  rw [userEvent_eq, userEvent_eq, append_zero_inj ha hb.zero_notMem, append_zero_inj hp hq.zero_notMem,
    Utf8.utf8_inj, Utf8.utf8_inj, Utf8.utf8_inj] at h
  cases p
  cases q
  exact ⟨h.1, congrArg Pseudonym.mk h.2.1, h.2.2⟩

end RowKey

theorem exists_eq_map {α β : Type} {f : β → α} {P : β → Prop} : ∀ {xs : List α}, (∀ x ∈ xs, ∃ y, P y ∧ x = f y) →
    ∃ ys : List β, xs = ys.map f ∧ ∀ y ∈ ys, P y
  | [], _ => ⟨[], rfl, by simp⟩
  | x :: xs, h => by
    obtain ⟨y, hy, rfl⟩ := h x List.mem_cons_self
    obtain ⟨ys, rfl, hys⟩ := exists_eq_map fun z hz => h z (List.mem_cons_of_mem _ hz)
    exact ⟨y :: ys, rfl, List.forall_mem_cons.2 ⟨hy, hys⟩⟩

namespace Tables

/-- **Tables whose rows can be read** and stand under the keys of what they say. -/
structure Legible (t : Tables) : Prop where
  account : ∀ row ∈ t.accounts.rows, ∃ r : AccountRow, row = (RowKey.account r.account, r.bytes) ∧
    NulFree r.account ∧ r.createdAt.Readable
  event : ∀ row ∈ t.events.rows, ∃ e : EventRow, row = (RowKey.event e.account e.id, e.bytes) ∧
    NulFree e.account ∧ NulFree e.id ∧ ∀ p, e.user = some p → NulFree p.text

/-- **Tables whose index by user lists exactly the events** with a user. -/
def Indexed (t : Tables) : Prop :=
  ∀ key, (key, ()) ∈ t.userEvents.rows ↔
    ∃ e p, t.Stores e ∧ e.user = some p ∧ key = RowKey.userEvent e.account p e.id

variable {t u : Tables}

theorem stores_putEvent {e f : EventRow} :
    (t.putEvent e).Stores f ↔ f = e ∨ RowKey.event f.account f.id ≠ RowKey.event e.account e.id ∧ t.Stores f := by
  simp only [Stores, events_putEvent, OrderedMap.mem_insert, Prod.mk.injEq]
  constructor
  · rintro ⟨bytes, ⟨-, hbytes⟩ | ⟨hne, hrow⟩, hread⟩
    · rw [hbytes, EventRow.ofBytes_bytes] at hread
      exact Or.inl (Except.ok.inj hread).symm
    · exact Or.inr ⟨hne, bytes, hrow, hread⟩
  · rintro (rfl | ⟨hne, bytes, hrow, hread⟩)
    · exact ⟨_, Or.inl ⟨rfl, rfl⟩, EventRow.ofBytes_bytes f⟩
    · exact ⟨bytes, Or.inr ⟨hne, hrow⟩, hread⟩

theorem stores_dropEvent {account id : String} {user : Option Pseudonym} {f : EventRow} :
    (t.dropEvent account id user).Stores f ↔
      RowKey.event f.account f.id ≠ RowKey.event account id ∧ t.Stores f := by
  simp only [Stores, events_dropEvent, OrderedMap.mem_erase, and_assoc, exists_and_left]

namespace Legible

theorem account_cases (h : t.Legible) (account : String) :
    (∃ r, t.account account = .ok r ∧ r.account = account ∧ NulFree account) ∨
      t.account account = .error (.unknownAccount account) := by
  unfold Tables.account
  cases hget : t.accounts.get? (RowKey.account account) with
  | none => exact Or.inr rfl
  | some bytes =>
    obtain ⟨r, heq, hnul, htime⟩ := h.account _ (OrderedMap.get?_eq_some_iff.1 hget)
    obtain ⟨hkey, hbytes⟩ := Prod.mk.inj heq
    have hname : account = r.account := RowKey.account_inj.1 hkey
    subst hname
    rw [hbytes]
    exact Or.inl ⟨r, AccountRow.ofBytes_bytes htime, rfl, hnul⟩

theorem account_of_eq_ok (h : t.Legible) {account : String} {r : AccountRow} (hr : t.account account = .ok r) :
    r.account = account ∧ NulFree account := by
  rcases h.account_cases account with ⟨q, hq, hname⟩ | herror
  · rw [hr] at hq
    exact Except.ok.inj hq ▸ hname
  · rw [hr] at herror
    cases herror

theorem row_of_stores (h : t.Legible) {e : EventRow} (he : t.Stores e) :
    (RowKey.event e.account e.id, e.bytes) ∈ t.events.rows ∧ NulFree e.account ∧ NulFree e.id ∧
      ∀ p, e.user = some p → NulFree p.text := by
  obtain ⟨bytes, hrow, hread⟩ := he
  obtain ⟨f, heq, hf⟩ := h.event _ hrow
  obtain ⟨-, hbytes⟩ := Prod.mk.inj heq
  rw [hbytes, EventRow.ofBytes_bytes] at hread
  cases hread
  exact ⟨hbytes ▸ hrow, hf⟩

theorem event?_eq_some_iff (h : t.Legible) {account id : String} {e : EventRow} :
    t.event? account id = .ok (some e) ↔ t.Stores e ∧ e.account = account ∧ e.id = id := by
  unfold event?
  constructor
  · intro hevent
    cases hget : t.events.get? (RowKey.event account id) with
    | none =>
      rw [hget] at hevent
      cases hevent
    | some bytes =>
      have hrow := OrderedMap.get?_eq_some_iff.1 hget
      obtain ⟨f, heq, ha, hi, -⟩ := h.event _ hrow
      obtain ⟨hkey, hbytes⟩ := Prod.mk.inj heq
      rw [hget, hbytes] at hevent
      dsimp only at hevent
      rw [EventRow.ofBytes_bytes] at hevent
      have hread : f = e := Option.some.inj (Except.ok.inj hevent)
      subst hread
      obtain ⟨rfl, rfl⟩ := RowKey.eq_of_event_eq ha hi hkey
      exact ⟨⟨_, hrow, hbytes ▸ EventRow.ofBytes_bytes f⟩, rfl, rfl⟩
  · rintro ⟨he, rfl, rfl⟩
    rw [OrderedMap.get?_eq_some_iff.2 (h.row_of_stores he).1]
    dsimp only
    rw [EventRow.ofBytes_bytes]
    rfl

theorem eq_of_event_eq (h : t.Legible) {e f : EventRow} (he : t.Stores e) (hf : t.Stores f)
    (hkey : RowKey.event e.account e.id = RowKey.event f.account f.id) : e = f := by
  obtain ⟨-, ha, hi, -⟩ := h.row_of_stores hf
  obtain ⟨hae, hie⟩ := RowKey.eq_of_event_eq ha hi hkey
  have hevent : t.event? f.account f.id = .ok (some e) := h.event?_eq_some_iff.2 ⟨he, hae, hie⟩
  rw [h.event?_eq_some_iff.2 ⟨hf, rfl, rfl⟩] at hevent
  cases hevent
  rfl

theorem userEvent_ne (h : t.Legible) {e : EventRow} {p : Pseudonym} (he : t.Stores e) (hp : e.user = some p)
    {account id : String} (hne : ¬(account = e.account ∧ id = e.id)) (user : Pseudonym) :
    RowKey.userEvent account user id ≠ RowKey.userEvent e.account p e.id := by
  obtain ⟨-, ha, hi, hu⟩ := h.row_of_stores he
  intro heq
  obtain ⟨hae, -, hie⟩ := RowKey.eq_of_userEvent_eq ha (hu p hp) hi heq
  exact hne ⟨hae, hie⟩

theorem not_at_of_none (h : t.Legible) {account id : String} (hevent : t.event? account id = .ok none) {e : EventRow}
    (he : t.Stores e) : ¬(account = e.account ∧ id = e.id) := by
  rintro ⟨rfl, rfl⟩
  rw [h.event?_eq_some_iff.2 ⟨he, rfl, rfl⟩] at hevent
  cases hevent

/-! ## Edits -/

theorem empty : Tables.empty.Legible where
  account := by
    intro row hrow
    cases hrow
  event := by
    intro row hrow
    cases hrow

theorem putAccount (h : t.Legible) {r : AccountRow} (hname : NulFree r.account) (htime : r.createdAt.Readable) :
    (t.putAccount r).Legible where
  account := by
    intro row hrow
    rcases OrderedMap.mem_insert.1 hrow with rfl | ⟨-, hrow⟩
    · exact ⟨r, rfl, hname, htime⟩
    · exact h.account row hrow
  event := h.event

theorem putEvent (h : t.Legible) {e : EventRow} (haccount : NulFree e.account) (hid : NulFree e.id)
    (huser : ∀ p, e.user = some p → NulFree p.text) : (t.putEvent e).Legible where
  account := by
    rw [accounts_putEvent]
    exact h.account
  event := by
    intro row hrow
    rw [events_putEvent, OrderedMap.mem_insert] at hrow
    rcases hrow with rfl | ⟨-, hrow⟩
    · exact ⟨e, rfl, haccount, hid, huser⟩
    · exact h.event row hrow

theorem dropEvent (h : t.Legible) (account id : String) (user : Option Pseudonym) :
    (t.dropEvent account id user).Legible where
  account := by
    rw [accounts_dropEvent]
    exact h.account
  event := by
    intro row hrow
    rw [events_dropEvent] at hrow
    exact h.event row (OrderedMap.mem_erase.1 hrow).2

theorem edit {env : Environment σ} (henv : env.Proper) (h : t.Legible) {ids : List EventId} (hedit : t.Edit env ids u) :
    u.Legible := by
  have hnul {p : Pseudonym} (hp : ∃ name salt, p = env.hash name salt) : NulFree p.text := by
    obtain ⟨name, salt, rfl⟩ := hp
    exact henv.nulFree_hash name salt
  cases hedit with
  | enter hname htime hnew =>
    obtain ⟨world, htime⟩ := htime
    refine h.putAccount hname (htime ▸ Instant.readable_of_reading (henv.reading world) ?_)
    exact Nat.le_of_lt (Nat.lt_trans (henv.fits world) (by decide))
  | bind account user secret => exact ⟨h.account, h.event⟩
  | unbind account user => exact ⟨h.account, h.event⟩
  | put hid haccount huser =>
    obtain ⟨r, hr⟩ := haccount
    exact h.putEvent (h.account_of_eq_ok hr).2 (hid ▸ EventId.nulFree_text _) fun p hp => hnul (huser p hp)
  | take hevent => exact h.dropEvent _ _ _
  | move hevent next htarget =>
    obtain ⟨he, -, -⟩ := h.event?_eq_some_iff.1 hevent
    obtain ⟨-, ha, -, -⟩ := h.row_of_stores he
    exact (h.dropEvent _ _ _).putEvent ha next.nulFree_text fun p hp => Option.some.inj hp ▸ hnul htarget
  | forget hevent user => exact ⟨by simpa using h.account, by simpa using h.event⟩
  | discard id => exact h

theorem edits {env : Environment σ} (henv : env.Proper) {ids : List EventId} (hedits : Tables.empty.Edits env ids u) :
    u.Legible := by
  induction hedits with
  | refl => exact .empty
  | step _ hedit ih => exact ih.edit henv hedit

end Legible

namespace Indexed

theorem empty : Tables.empty.Indexed := by
  intro key
  constructor
  · intro hrow
    cases hrow
  · rintro ⟨e, p, ⟨bytes, hrow, -⟩, -⟩
    cases hrow

theorem congr (h : t.Indexed) (hevents : u.events = t.events) (hindex : u.userEvents = t.userEvents) : u.Indexed := by
  intro key
  have hstores (e : EventRow) : u.Stores e ↔ t.Stores e := by rw [Stores, hevents, Stores]
  simp only [hindex, hstores]
  exact h key

theorem putEvent (h : t.Indexed) (hl : t.Legible) {e : EventRow} (hid : NulFree e.id)
    (hnew : ∀ f, t.Stores f → f.id ≠ e.id) : (t.putEvent e).Indexed := by
  have hkey {f : EventRow} (hf : t.Stores f) : RowKey.event f.account f.id ≠ RowKey.event e.account e.id := fun heq =>
    hnew f hf (RowKey.id_eq_of_event_eq (hl.row_of_stores hf).2.2.1 hid heq)
  intro key
  rw [mem_userEvents_putEvent, h key]
  constructor
  · rintro (⟨p, hp, rfl⟩ | ⟨f, p, hf, hp, rfl⟩)
    · exact ⟨e, p, stores_putEvent.2 (Or.inl rfl), hp, rfl⟩
    · exact ⟨f, p, stores_putEvent.2 (Or.inr ⟨hkey hf, hf⟩), hp, rfl⟩
  · rintro ⟨f, p, hf, hp, rfl⟩
    rcases stores_putEvent.1 hf with rfl | ⟨-, hf⟩
    · exact Or.inl ⟨p, hp, rfl⟩
    · exact Or.inr ⟨f, p, hf, hp, rfl⟩

theorem dropEvent (h : t.Indexed) (hl : t.Legible) {e : EventRow} (he : t.Stores e) :
    (t.dropEvent e.account e.id e.user).Indexed := by
  intro key
  rw [mem_userEvents_dropEvent, h key]
  constructor
  · rintro ⟨⟨f, p, hf, hp, rfl⟩, hne⟩
    refine ⟨f, p, stores_dropEvent.2 ⟨fun heq => ?_, hf⟩, hp, rfl⟩
    obtain rfl := hl.eq_of_event_eq hf he heq
    exact hne p hp rfl
  · rintro ⟨f, p, hf, hp, rfl⟩
    obtain ⟨hkey, hf⟩ := stores_dropEvent.1 hf
    refine ⟨⟨f, p, hf, hp, rfl⟩, fun q hq => hl.userEvent_ne he hq (fun heq => hkey ?_) p⟩
    rw [heq.1, heq.2]

theorem dropIndexEntry (h : t.Indexed) (hl : t.Legible) {account id : String}
    (hevent : t.event? account id = .ok none) (user : Pseudonym) : (t.dropIndexEntry account (some user) id).Indexed := by
  intro key
  have hstores (e : EventRow) : (t.dropIndexEntry account (some user) id).Stores e ↔ t.Stores e := by
    rw [Stores, events_dropIndexEntry, Stores]
  simp only [mem_userEvents_dropIndexEntry, h key, hstores]
  refine and_iff_left_of_imp ?_
  rintro ⟨e, p, he, hp, rfl⟩ q -
  exact (hl.userEvent_ne he hp (hl.not_at_of_none hevent he) q).symm

theorem edit {env : Environment σ} (h : t.Indexed) (hl : t.Legible) {ids : List EventId}
    (hnew : ∀ e, t.Stores e → ∀ id ∈ ids, e.id ≠ id.text) (hedit : t.Edit env ids u) : u.Indexed := by
  cases hedit with
  | enter | bind | unbind => exact h.congr rfl rfl
  | @put e id hid haccount huser =>
    refine h.putEvent hl (hid ▸ id.nulFree_text) fun f hf => ?_
    rw [hid]
    exact hnew f hf id (List.mem_singleton_self id)
  | take hevent =>
    obtain ⟨he, rfl, rfl⟩ := hl.event?_eq_some_iff.1 hevent
    exact h.dropEvent hl he
  | move hevent next htarget =>
    obtain ⟨he, rfl, rfl⟩ := hl.event?_eq_some_iff.1 hevent
    refine (h.dropEvent hl he).putEvent (hl.dropEvent _ _ _) next.nulFree_text fun f hf => ?_
    exact hnew f (stores_dropEvent.1 hf).2 next (List.mem_singleton_self next)
  | forget hevent user => exact h.dropIndexEntry hl hevent user
  | discard id => exact h

/-- **The index lists exactly the events** as long as no ID is used up twice. -/
theorem edits {env : Environment σ} (henv : env.Proper) {ids : List EventId} (hedits : Tables.empty.Edits env ids u)
    (hdistinct : ids.Nodup) : u.Indexed := by
  -- On the edits: a stored event has an ID that an earlier edit used up, so the next edit's IDs are not stored.
  induction hedits with
  | refl => exact .empty
  | @step ids ids' u v hpast hedit ih =>
    obtain ⟨hids, -, hapart⟩ := List.nodup_append.1 hdistinct
    refine (ih hids).edit (.edits henv hpast) (fun e he id hid heq => ?_) hedit
    obtain ⟨past, hmem, hpastid⟩ := Session.exists_id_of_stores hpast.grows he
    exact hapart past hmem id hid (EventId.text_inj.1 (hpastid.symm.trans heq))

end Indexed

/-! ## Scans -/

theorem Legible.scan (h : t.Legible) {account : String} (haccount : NulFree account) (since : Option String) :
    ∃ es : List EventRow, t.operatorEvents account since = .ok (es.map (t.operatorView account)) ∧
      es.Pairwise (·.id < ·.id) ∧
      ∀ e, e ∈ es ↔ t.Stores e ∧ e.account = account ∧ comesAfter since e.id = true := by
  have hread (row : Bytes × Bytes) (hrow : row ∈ t.events.rows.filter ((KeyRange.events account since).contains ·.1)) :
      ∃ e, (t.Stores e ∧ e.account = account ∧ comesAfter since e.id = true) ∧
        row = (RowKey.event e.account e.id, e.bytes) := by
    obtain ⟨hrow, hrange⟩ := List.mem_filter.1 hrow
    obtain ⟨e, heq, ha, -⟩ := h.event row hrow
    rw [heq] at hrow hrange
    exact ⟨e, ⟨⟨_, hrow, EventRow.ofBytes_bytes e⟩, (KeyRange.contains_events_iff since e.id haccount ha).1 hrange⟩, heq⟩
  obtain ⟨es, hrows, hes⟩ := exists_eq_map hread
  have hascending := t.events.ascending.filter ((KeyRange.events account since).contains ·.1)
  refine ⟨es, ?_, ?_, fun e => ⟨hes e, ?_⟩⟩
  · rw [operatorEvents, hrows, List.mapM_map]
    refine mapM_eq_pure fun e _ => ?_
    simp [pure, Except.pure]
  · rw [hrows, List.pairwise_map] at hascending
    refine hascending.imp_of_mem fun {e f} he hf hlt => ?_
    obtain ⟨-, rfl, -⟩ := hes e he
    obtain ⟨-, hfa, -⟩ := hes f hf
    rw [RowKey.event_lt haccount (hfa ▸ haccount), hfa] at hlt
    exact (hlt.resolve_left (String.lt_irrefl _)).2
  · rintro ⟨he, rfl, hsince⟩
    have hrow : (RowKey.event e.account e.id, e.bytes) ∈ t.events.rows.filter
        ((KeyRange.events e.account since).contains ·.1) :=
      List.mem_filter.2 ⟨(h.row_of_stores he).1, (KeyRange.contains_events_iff since e.id haccount haccount).2 ⟨rfl, hsince⟩⟩
    rw [hrows] at hrow
    obtain ⟨f, hf, heq⟩ := List.mem_map.1 hrow
    have hread := congrArg EventRow.ofBytes (Prod.mk.inj heq).2
    rw [EventRow.ofBytes_bytes, EventRow.ofBytes_bytes] at hread
    exact Except.ok.inj hread ▸ hf

theorem Indexed.scan (h : t.Indexed) (hl : t.Legible) {account : String} (haccount : NulFree account) {user : Pseudonym}
    (huser : NulFree user.text) (since : Option String) :
    ∃ es : List EventRow,
      t.eventsOf account (t.userEventIds account user since) = pure (es.map (EventView.ofRow · none)) ∧
      es.Pairwise (·.id < ·.id) ∧
      ∀ e, e ∈ es ↔ t.Stores e ∧ e.account = account ∧ comesAfter since e.id = true ∧ e.user = some user := by
  have hread (row : Bytes × Unit)
      (hrow : row ∈ t.userEvents.rows.filter ((KeyRange.userEvents account user since).contains ·.1)) :
      ∃ e, (t.Stores e ∧ e.account = account ∧ comesAfter since e.id = true ∧ e.user = some user) ∧
        row = (RowKey.userEvent account user e.id, ()) := by
    obtain ⟨hrow, hrange⟩ := List.mem_filter.1 hrow
    obtain ⟨e, p, he, hp, hkey⟩ := (h row.1).1 hrow
    obtain ⟨-, ha, -, hu⟩ := hl.row_of_stores he
    rw [hkey] at hrange
    obtain ⟨rfl, rfl, hsince⟩ := (KeyRange.contains_userEvents_iff since e.id haccount ha huser (hu p hp)).1 hrange
    exact ⟨e, ⟨he, rfl, hsince, hp⟩, Prod.ext hkey rfl⟩
  obtain ⟨es, hrows, hes⟩ := exists_eq_map hread
  have hascending := t.userEvents.ascending.filter ((KeyRange.userEvents account user since).contains ·.1)
  have hids : t.userEventIds account user since = es.map (·.id) := by
    rw [userEventIds, hrows, List.filterMap_map, ← List.filterMap_eq_map]
    refine List.filterMap_congr fun e he => ?_
    exact RowKey.leaf?_userEvent account user (hl.row_of_stores (hes e he).1).2.2.1
  refine ⟨es, ?_, ?_, fun e => ⟨hes e, ?_⟩⟩
  · rw [hids]
    exact eventsOf_eq fun e he => hl.event?_eq_some_iff.2 ⟨(hes e he).1, (hes e he).2.1, rfl⟩
  · rw [hrows, List.pairwise_map] at hascending
    exact hascending.imp fun {e f} hlt => (RowKey.userEvent_lt_of_lt haccount huser).1 hlt
  · rintro ⟨he, rfl, hsince, hp⟩
    have hrow : (RowKey.userEvent e.account user e.id, ()) ∈ t.userEvents.rows.filter
        ((KeyRange.userEvents e.account user since).contains ·.1) :=
      List.mem_filter.2 ⟨(h _).2 ⟨e, user, he, hp, rfl⟩,
        (KeyRange.contains_userEvents_iff since e.id haccount haccount huser huser).2 ⟨rfl, rfl, hsince⟩⟩
    rw [hrows] at hrow
    obtain ⟨f, hf, heq⟩ := List.mem_map.1 hrow
    obtain ⟨hfs, hfa, -, -⟩ := hes f hf
    obtain ⟨-, -, hid⟩ := (RowKey.userEvent_inj haccount haccount huser huser).1 (Prod.mk.inj heq).1
    rw [← hl.eq_of_event_eq hfs he (by rw [hfa, hid])]
    exact hf

end Tables

end PseudonymStore
