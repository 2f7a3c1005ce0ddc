import PseudonymStore.Row.Account
import PseudonymStore.Row.Event
import PseudonymStore.Proofs.Instant
import PseudonymStore.Proofs.Json.Reading
import PseudonymStore.Proofs.Text.Utf8
/-!
# Rows read back

The bytes of an event row are read as that row, whatever its texts are (`EventRow.ofBytes_bytes`), and so are those of an
account row whose time is a clock's reading (`AccountRow.ofBytes_bytes`).
-/
namespace PseudonymStore

open Json

theorem readRow_utf8 {α : Type} {reader : Reader α} {cs : List Char} {a : α} (h : Reads reader cs a) :
    readRow reader (utf8 (String.ofList cs)) = .ok a := by
  rw [readRow, readBytes, Utf8.decode_utf8, String.toList_ofList, h.whole]
  rfl

theorem readRow_utf8_of_error {α : Type} {reader : Reader α} {cs : List Char} {p : Problem}
    (h : reader (cs.map some ++ []) = .error p) :
    readRow reader (utf8 (String.ofList cs)) = .error (.ofFault (.unreadable p.message)) := by
  rw [List.append_nil] at h
  rw [readRow, readBytes, Utf8.decode_utf8, String.toList_ofList, whole, h]
  rfl

theorem Pseudonym.reads_reader (p : Pseudonym) : Reads Pseudonym.reader p.write p :=
  (reads_text p.text).map Pseudonym.mk

theorem Pseudonym.reads_orNull (o : Option Pseudonym) :
    Reads (orNull Pseudonym.reader) (nullable Pseudonym.write o) o :=
  Json.reads_orNull (fun p _ => p.reads_reader) fun p _ => ⟨'"', (string p.text).tail, rfl, rfl, by decide⟩

namespace EventRow

theorem fills (r : EventRow) : Fills Draft.put {}
    [("event_id", string r.id), ("account_id", string r.account),
      ("hashed_user_id", nullable Pseudonym.write r.user), ("payload", string r.payload)]
    (.ok ⟨some r.id, some r.account, some r.user, some r.payload⟩) := by
  refine .cons (fun rest => bind_of_ok (once_none (reads_text r.id) rest)) ?_
  refine .cons (fun rest => bind_of_ok (once_none (reads_text r.account) rest)) ?_
  refine .cons (fun rest => bind_of_ok (once_none (Pseudonym.reads_orNull r.user) rest)) ?_
  exact .cons (fun rest => bind_of_ok (once_none (reads_text r.payload) rest)) (.nil _)

theorem reads_reader (r : EventRow) : Reads reader r.write r :=
  reads_record r.fills fun _ => rfl

@[simp] theorem ofBytes_bytes (r : EventRow) : ofBytes r.bytes = .ok r :=
  readRow_utf8 r.reads_reader

end EventRow

/-! ## Accounts -/

/-- An instant that its own text gives. -/
def Instant.Readable (t : Instant) : Prop :=
  Instant.read? t.write = some t

theorem Instant.readable_of_reading {t : Instant} (h : t.IsReading) (hmillis : t.millis ≤ 0x4000000000000) :
    t.Readable :=
  Instant.read?_write h.2 (Instant.isValid_of_reading h hmillis)

theorem Instant.reads_reader {t t' : Instant} (h : Instant.read? t.write = some t') :
    Reads Instant.reader t.writeQuoted t' := by
  intro rest
  show (text >>= _) _ = _
  rw [Instant.writeQuoted, bind_of_ok (reads_text _ rest), String.toList_ofList, h]
  rfl

theorem Instant.reader_of_unreadable {t : Instant} (h : Instant.read? t.write = none) (rest : Source) :
    Instant.reader (t.writeQuoted.map some ++ rest) = .error .unfit := by
  show (text >>= _) _ = _
  rw [Instant.writeQuoted, bind_of_ok (reads_text _ rest), String.toList_ofList, h]
  rfl

namespace AccountRow

theorem fills {r : AccountRow} {result : Except Problem Draft}
    (h : Fills Draft.put ⟨some r.account, some r.name, some r.publicKey, some r.sealedKey, some r.salt, none⟩
      [("created_at", r.createdAt.writeQuoted)] result) :
    Fills Draft.put {}
      [("account_id", string r.account), ("name", string r.name), ("public_key", string r.publicKey),
        ("encrypted_private_key", string r.sealedKey), ("user_salt", string r.salt),
        ("created_at", r.createdAt.writeQuoted)] result := by
  refine .cons (fun rest => bind_of_ok (once_none (reads_text r.account) rest)) ?_
  refine .cons (fun rest => bind_of_ok (once_none (reads_text r.name) rest)) ?_
  refine .cons (fun rest => bind_of_ok (once_none (reads_text r.publicKey) rest)) ?_
  refine .cons (fun rest => bind_of_ok (once_none (reads_text r.sealedKey) rest)) ?_
  exact .cons (fun rest => bind_of_ok (once_none (reads_text r.salt) rest)) h

theorem ofBytes_bytes_of_read {r : AccountRow} {t : Instant} (h : Instant.read? r.createdAt.write = some t) :
    ofBytes r.bytes = .ok { r with createdAt := t } := by
  have hfills := fills (.cons (fun rest => bind_of_ok (once_none (Instant.reads_reader h) rest)) (.nil _))
  exact readRow_utf8 (reads_record hfills fun _ => rfl)

/-- **The bytes of an account row are read as that row**, if its time can be read back. -/
theorem ofBytes_bytes {r : AccountRow} (h : r.createdAt.Readable) : ofBytes r.bytes = .ok r :=
  ofBytes_bytes_of_read h

theorem ofBytes_bytes_of_unreadable {r : AccountRow} (h : Instant.read? r.createdAt.write = none) :
    ofBytes r.bytes = .error (.ofFault (.unreadable Problem.unfit.message)) := by
  have hfills := fills (.stop [] fun rest => bind_of_error (once_none_of_error (Instant.reader_of_unreadable h) rest))
  exact readRow_utf8_of_error (record_object hfills [])

end AccountRow

end PseudonymStore
