import PseudonymStore.Proofs.EventId
import PseudonymStore.Proofs.Format.Base64
/-!
# Ranges are exact

A range of a scan covers the keys of its parent whose event IDs come after the cursor, and nothing else, in the order of
the IDs (`KeyRange.Covers`).  That rests on parts without NUL, and the parts that the store makes have none: pseudonyms
are spelled in an alphabet of 64 characters, event IDs in one of 32 (`KeyRange.covers_and_tells`).
-/
namespace PseudonymStore

theorem Pseudonym.length_hmac (user salt : String) : (hmac user salt).text.length = 43 := by
  rw [hmac, String.length_ofList, Base64.length_encodeUrl, Hmac.length_sha256]

theorem Pseudonym.mem_urlSafe_of_mem_hmac {user salt : String} {c : Char} (h : c ∈ (hmac user salt).text.toList) :
    c ∈ Base64.urlSafe := by
  rw [hmac, String.toList_ofList] at h
  exact Base64.mem_urlSafe_of_mem_encodeUrl h

theorem Pseudonym.nulFree_hmac (user salt : String) : NulFree (hmac user salt).text := fun h =>
  absurd (mem_urlSafe_of_mem_hmac h) (by decide)

namespace RowKey

/-- The parts of keys: an account, a pseudonym in it and an event ID, all of them without NUL and possibly empty. -/
structure Parts where
  account : String
  user : Pseudonym
  id : String
  nulFree_account : NulFree account
  nulFree_user : NulFree user.text
  nulFree_id : NulFree id

def Parts.event (k : Parts) : Bytes :=
  RowKey.event k.account k.id

def Parts.userEvent (k : Parts) : Bytes :=
  RowKey.userEvent k.account k.user k.id

end RowKey

namespace KeyRange

open RowKey (Parts)

/-- **A range covers the keys of a parent after a cursor**: it contains those keys and no other ones, it has them in the
order of their event IDs, and it is never turned round. -/
structure Covers (r : KeyRange) (since : Option String) (key : Parts → Bytes) (Below : Parts → Prop) : Prop where
  contains_iff : ∀ k, r.contains (key k) = true ↔ Below k ∧ ∀ cursor ∈ since, utf8 cursor < utf8 k.id
  ascending : ∀ k l, r.contains (key k) = true → r.contains (key l) = true → (key k < key l ↔ utf8 k.id < utf8 l.id)
  start_lt_stop : r.start < r.stop

theorem comesAfter_iff_utf8_lt {since : Option String} {id : String} :
    comesAfter since id = true ↔ ∀ cursor ∈ since, utf8 cursor < utf8 id := by
  cases since with
  | none => simp
  | some cursor => simp [Utf8.utf8_lt_utf8_iff]

/-- **No range is turned round**, whatever its path and its cursor hold: it starts with a zero where it stops with a one. -/
theorem start_lt_stop_below (parts : List String) (since : Option String) :
    (below parts since).start < (below parts since).stop := by
  rw [below_eq]
  exact List.append_left_lt (List.cons_lt_cons_iff.2 (Or.inl (by decide)))

theorem covers_events {a : String} (ha : NulFree a) (since : Option String) :
    (events a since).Covers since Parts.event (·.account = a) where
  contains_iff k := by
    rw [Parts.event, contains_events_iff since k.id ha k.nulFree_account, comesAfter_iff_utf8_lt]
  ascending k l hk hl := by
    obtain ⟨rfl, -⟩ := (contains_events_iff since k.id ha k.nulFree_account).1 hk
    obtain ⟨hl, -⟩ := (contains_events_iff since l.id ha l.nulFree_account).1 hl
    rw [Parts.event, Parts.event, hl, RowKey.event_lt ha ha, Utf8.utf8_lt_utf8_iff]
    simp
  start_lt_stop := start_lt_stop_below [a] since

theorem covers_userEvents {a : String} {p : Pseudonym} (ha : NulFree a) (hp : NulFree p.text) (since : Option String) :
    (userEvents a p since).Covers since Parts.userEvent (fun k => k.account = a ∧ k.user = p) where
  contains_iff k := by
    rw [Parts.userEvent, contains_userEvents_iff since k.id ha k.nulFree_account hp k.nulFree_user, and_assoc,
      comesAfter_iff_utf8_lt]
  ascending k l hk hl := by
    obtain ⟨rfl, rfl, -⟩ := (contains_userEvents_iff since k.id ha k.nulFree_account hp k.nulFree_user).1 hk
    obtain ⟨hl, hl', -⟩ := (contains_userEvents_iff since l.id ha l.nulFree_account hp l.nulFree_user).1 hl
    rw [Parts.userEvent, Parts.userEvent, hl, hl', RowKey.userEvent_lt_of_lt ha hp, Utf8.utf8_lt_utf8_iff]
  start_lt_stop := start_lt_stop_below [a, p.text] since

/-- **Ranges are exact and keys tell their parts**, where no part holds NUL; and no pseudonym that is made of a user ID
and no event ID holds one. -/
theorem covers_and_tells {a : String} {p : Pseudonym} (ha : NulFree a) (hp : NulFree p.text) (since : Option String) :
    (events a since).Covers since Parts.event (·.account = a) ∧
    (userEvents a p since).Covers since Parts.userEvent (fun k => k.account = a ∧ k.user = p) ∧
    (∀ k : Parts, RowKey.leaf? k.userEvent = some k.id) ∧
    (∀ k l : Parts,
      (RowKey.secret k.account k.user = RowKey.secret l.account l.user ↔ k.account = l.account ∧ k.user = l.user) ∧
      (k.event = l.event ↔ k.account = l.account ∧ k.id = l.id) ∧
      (k.userEvent = l.userEvent ↔ k.account = l.account ∧ k.user = l.user ∧ k.id = l.id)) ∧
    (∀ user salt, NulFree (Pseudonym.hmac user salt).text ∧ (Pseudonym.hmac user salt).text.length = 43 ∧
      ∀ c ∈ (Pseudonym.hmac user salt).text.toList, c ∈ Base64.urlSafe) ∧
    ∀ id : EventId, NulFree id.text ∧ id.text.length = 26 ∧ ∀ c ∈ id.text.toList, c ∈ EventId.digits := by
  refine ⟨covers_events ha since, covers_userEvents ha hp since, ?_, ?_, ?_, ?_⟩
  · exact fun k => RowKey.leaf?_userEvent k.account k.user k.nulFree_id
  · intro k l
    exact ⟨RowKey.secret_inj k.nulFree_account l.nulFree_account,
      RowKey.event_inj k.nulFree_account l.nulFree_account,
      RowKey.userEvent_inj k.nulFree_account l.nulFree_account k.nulFree_user l.nulFree_user⟩
  · intro user salt
    exact ⟨Pseudonym.nulFree_hmac user salt, Pseudonym.length_hmac user salt, fun _ => Pseudonym.mem_urlSafe_of_mem_hmac⟩
  · exact fun id => ⟨id.nulFree_text, id.length_text, fun _ => EventId.mem_digits_of_mem_text⟩

def anonymousIn (account : String) (h : NulFree account) : Parts where
  account := account
  user := ⟨""⟩
  id := "02"
  nulFree_account := h
  nulFree_user := List.not_mem_nil
  nulFree_id := by unfold NulFree; decide

/-- A cursor may hold NUL; an account whose name goes on from another's is none of its keys. -/
theorem covers_and_tells_sibling : ∃ (ha : NulFree "acme") (hb : NulFree "acme-corp") (_ : NulFree ""),
    (events "acme" (some "01\x00")).contains (anonymousIn "acme" ha).event = true ∧
    (events "acme" (some "01\x00")).contains (anonymousIn "acme-corp" hb).event = false ∧
    RowKey.leaf? (anonymousIn "acme" ha).userEvent = some "02" := by
  have ha : NulFree "acme" := by unfold NulFree; decide
  have hb : NulFree "acme-corp" := by unfold NulFree; decide
  have hp : NulFree "" := List.not_mem_nil
  obtain ⟨hevents, -, hleaf, -⟩ := covers_and_tells (p := ⟨""⟩) ha hp (some "01\x00")
  refine ⟨ha, hb, hp, (hevents.contains_iff _).2 ⟨rfl, ?_⟩, ?_, hleaf _⟩
  · rintro cursor ⟨⟩
    show utf8 "01\x00" < utf8 "02"
    decide
  · have hne : "acme-corp" ≠ "acme" := by decide
    rw [← Bool.not_eq_true, hevents.contains_iff]
    exact fun h => hne h.1

end KeyRange

end PseudonymStore
