import PseudonymStore.Digest
import PseudonymStore.Format.Base64
import PseudonymStore.Text.Normal
/-!
# Pseudonyms

A plaintext user ID never reaches a table.  Within an account it is stood in for by a pseudonym: its keyed digest under
the account's salt.  Other salts give unrelated pseudonyms, so the same visitor cannot be followed from one account to
another; equivalent spellings of an ID give one pseudonym.
-/
namespace PseudonymStore

structure Pseudonym where
  text : String
deriving DecidableEq

namespace Pseudonym

instance : LT Pseudonym := ⟨fun p q => p.text < q.text⟩

instance : DecidableLT Pseudonym := fun p q => inferInstanceAs (Decidable (p.text < q.text))

instance : Trans (α := Pseudonym) (· < ·) (· < ·) (· < ·) where
  trans {p q r} h₁ h₂ := String.lt_trans (a := p.text) (b := q.text) (c := r.text) h₁ h₂

instance : Std.Irrefl (α := Pseudonym) (· < ·) where
  irrefl p := String.lt_irrefl p.text

instance : Std.Trichotomous (α := Pseudonym) (· < ·) where
  trichotomous p q h₁ h₂ := by
    have := Std.Trichotomous.trichotomous (r := (· < · : String → String → Prop)) p.text q.text h₁ h₂
    cases p; cases q; exact congrArg mk this

/-- The pseudonym of a user under a salt: the keyed digest of the normalized ID, in 43 characters safe in addresses.
The salt is taken as it is. -/
def hmac (user salt : String) : Pseudonym :=
  ⟨String.ofList (Base64.encodeUrl (Hmac.sha256 (utf8 salt) (utf8 (Normal.nfc user))))⟩

end Pseudonym

end PseudonymStore
