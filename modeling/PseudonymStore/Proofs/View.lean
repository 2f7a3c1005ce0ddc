import PseudonymStore.Proofs.Json.Lists
import PseudonymStore.Proofs.OrderedMap
import PseudonymStore.Proofs.Row
import PseudonymStore.View.Account
/-!
# What is written of rows and answers is read back

Stored events and all parts of the answers of the store survive their text: a value is read back from what is written of
it, whatever its texts are and whichever of its members are left out (`survives_text`).
-/
namespace PseudonymStore

open Json

/-- **Values survive their text**, as characters and as bytes. -/
structure Json.Survives {α : Type} (write : α → List Char) (reader : Reader α) : Prop where
  read : ∀ a, Json.read reader (String.ofList (write a)) = .ok a
  readBytes : ∀ a, Json.readBytes reader (utf8 (String.ofList (write a))) = .ok a
  one : ∀ a b, String.ofList (write a) = String.ofList (write b) → a = b
  /-- However a value was written that is read, it is written once and for all: as what is read as the same value and
  is written the same again. -/
  again : ∀ text a, Json.read reader text = .ok a → ∃ b, Json.read reader (String.ofList (write a)) = .ok b ∧ b = a ∧
    String.ofList (write b) = String.ofList (write a)
  againBytes : ∀ bytes a, Json.readBytes reader bytes = .ok a → ∃ b,
    Json.readBytes reader (utf8 (String.ofList (write a))) = .ok b ∧ b = a ∧
      String.ofList (write b) = String.ofList (write a)

theorem Json.survives_of_reads {α : Type} {write : α → List Char} {reader : Reader α}
    (h : ∀ a, Reads reader (write a) a) : Survives write reader := by
  have hread (a : α) : Json.read reader (String.ofList (write a)) = .ok a := by
    rw [Json.read, String.toList_ofList, (h a).whole]
  have hbytes (a : α) : Json.readBytes reader (utf8 (String.ofList (write a))) = .ok a := by
    rw [Json.readBytes, Utf8.decode_utf8, String.toList_ofList, (h a).whole]
  refine ⟨hread, hbytes, fun a b heq => ?_, fun _ a _ => ⟨a, hread a, rfl, rfl⟩, fun _ a _ => ⟨a, hbytes a, rfl, rfl⟩⟩
  have hsame := hread b
  rw [← heq, hread a] at hsame
  exact Except.ok.inj hsame

theorem join_map_some {α : Type} (o : Option α) : (o.map some).join = o := by
  cases o <;> rfl

/-! ## Events -/

namespace EventView

def fields (v : EventView) : List (String × List Char) :=
  [("accountId", string v.account), ("eventId", string v.id), ("userId", nullable Pseudonym.write v.user),
    ("payload", string v.payload)] ++ optionalField "encryptedUserSecret" string v.secret

theorem write_eq (v : EventView) : v.write = object (v.fields.map fun f => member f.1 f.2) := by
  rw [write, optional_eq, fields, List.map_append]
  rfl

theorem fills (v : EventView) : Fills Draft.put {} v.fields
    (.ok ⟨some v.account, some v.id, some v.user, some v.payload, v.secret.map some⟩) := by
  have hrequired : Fills Draft.put {} [("accountId", string v.account), ("eventId", string v.id),
      ("userId", nullable Pseudonym.write v.user), ("payload", string v.payload)]
      (.ok ⟨some v.account, some v.id, some v.user, some v.payload, none⟩) := by
    refine .cons (fun rest => bind_of_ok (once_none (reads_text v.account) rest)) ?_
    refine .cons (fun rest => bind_of_ok (once_none (reads_text v.id) rest)) ?_
    refine .cons (fun rest => bind_of_ok (once_none (Pseudonym.reads_orNull v.user) rest)) ?_
    exact .cons (fun rest => bind_of_ok (once_none (reads_text v.payload) rest)) (.nil _)
  exact hrequired.append (.optional "encryptedUserSecret" (Draft.mk (some v.account) (some v.id) (some v.user)
    (some v.payload)) rfl reads_text (beginsApart_string (by decide)) v.secret)

theorem reads_reader (v : EventView) : Reads reader v.write v := by
  rw [write_eq]
  refine reads_record v.fills fun s => ?_
  show Except.ok (EventView.mk v.account v.id v.user v.payload (v.secret.map some).join, s) = _
  rw [join_map_some]

end EventView

theorem EventsByAccount.reads_reader (m : EventsByAccount) : Reads reader m.write m := by
  have hlist := reads_list EventView.reads_reader fun v => beginsApart_object (by decide) _
  have hrows := (reads_rows hlist m.rows).map OrderedMap.ofRows
  rwa [OrderedMap.ofRows_rows] at hrows

/-! ## Accounts -/

theorem SecretsByUser.reads_reader (m : SecretsByUser) : Reads reader m.write m := by
  have hrows := (reads_rows reads_text (m.rows.map fun r => (r.1.text, r.2))).map fun rows =>
    OrderedMap.ofRows (rows.map fun r => ((⟨r.1⟩ : Pseudonym), r.2))
  rw [List.map_map, List.map_map] at hrows
  have hsame : m.rows.map ((fun r => ((⟨r.1⟩ : Pseudonym), r.2)) ∘ fun r => (r.1.text, r.2)) = m.rows :=
    List.map_id m.rows
  rwa [hsame, OrderedMap.ofRows_rows] at hrows

namespace AccountView

def fields (v : AccountView) : List (String × List Char) :=
  [("accountId", string v.account), ("name", string v.name), ("publicKey", string v.publicKey)] ++
    optionalField "encryptedPrivateKey" string v.sealedKey ++ optionalField "events" EventsByAccount.write v.events ++
    optionalField "userSecrets" SecretsByUser.write v.secrets

theorem write_eq (v : AccountView) : v.write = object (v.fields.map fun f => member f.1 f.2) := by
  simp only [write, fields, optional_eq, List.map_append]
  rfl

theorem fills (v : AccountView) : Fills Draft.put {} v.fields (.ok ⟨some v.account, some v.name, some v.publicKey,
    v.sealedKey.map some, v.events.map some, v.secrets.map some⟩) := by
  have hrequired : Fills Draft.put {} [("accountId", string v.account), ("name", string v.name),
      ("publicKey", string v.publicKey)] (.ok ⟨some v.account, some v.name, some v.publicKey, none, none, none⟩) := by
    refine .cons (fun rest => bind_of_ok (once_none (reads_text v.account) rest)) ?_
    refine .cons (fun rest => bind_of_ok (once_none (reads_text v.name) rest)) ?_
    exact .cons (fun rest => bind_of_ok (once_none (reads_text v.publicKey) rest)) (.nil _)
  let shown := Draft.mk (some v.account) (some v.name) (some v.publicKey)
  have hsealed := hrequired.append (.optional "encryptedPrivateKey" (fun sealedKey => shown sealedKey none none) rfl
    reads_text (beginsApart_string (by decide)) v.sealedKey)
  have hevents := hsealed.append (.optional "events" (fun events => shown (v.sealedKey.map some) events none) rfl
    EventsByAccount.reads_reader (fun m => beginsApart_object (by decide) _) v.events)
  exact hevents.append (.optional "userSecrets" (shown (v.sealedKey.map some) (v.events.map some)) rfl
    SecretsByUser.reads_reader (fun m => beginsApart_object (by decide) _) v.secrets)

theorem reads_reader (v : AccountView) : Reads reader v.write v := by
  rw [write_eq]
  refine reads_record v.fills fun s => ?_
  show Except.ok (AccountView.mk v.account v.name v.publicKey (v.sealedKey.map some).join (v.events.map some).join
    (v.secrets.map some).join, s) = _
  simp only [join_map_some]

end AccountView

/-- **Stored events and answers survive their text.** -/
theorem survives_text :
    Survives EventRow.write EventRow.reader ∧ Survives EventView.write EventView.reader ∧
      Survives AccountView.write AccountView.reader ∧ Survives EventsByAccount.write EventsByAccount.reader ∧
      Survives SecretsByUser.write SecretsByUser.reader ∧ Survives Pseudonym.write Pseudonym.reader :=
  ⟨survives_of_reads EventRow.reads_reader, survives_of_reads EventView.reads_reader,
    survives_of_reads AccountView.reads_reader, survives_of_reads EventsByAccount.reads_reader,
    survives_of_reads SecretsByUser.reads_reader, survives_of_reads Pseudonym.reads_reader⟩

end PseudonymStore
