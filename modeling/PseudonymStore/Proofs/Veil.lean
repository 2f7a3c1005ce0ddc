import PseudonymStore.Proofs.Row
import PseudonymStore.Proofs.Tables
import PseudonymStore.Proofs.Correspondence
/-!
# Tables that differ in salts

Two sets of tables that differ in nothing but the salts of their accounts stay so through every step of an operation
(`Tables.SameButSalts`).  Where the salts give users the same pseudonyms (`HashesAgree`), what is read of an account is the
same but for the salt, or is the same error.
-/
namespace PseudonymStore

variable {σ σ' : Type}

inductive SameButSalt : Bytes × Bytes → Bytes × Bytes → Prop where
  | intro (r : AccountRow) (salt : String) :
    SameButSalt (RowKey.account r.account, r.bytes) (RowKey.account r.account, { r with salt }.bytes)

theorem SameButSalt.key_eq (row row' : Bytes × Bytes) (h : SameButSalt row row') : row'.1 = row.1 := by
  cases h
  rfl

/-- **Tables that differ in nothing but the salts** of their accounts. -/
structure Tables.SameButSalts (t t' : Tables) : Prop where
  accounts : List.Forall₂ SameButSalt t.accounts.rows t'.accounts.rows
  others : t' = { t with accounts := t'.accounts }

/-- **User IDs that pseudonyms do not tell apart**: wherever both tables have an account, the one under the one salt has
the pseudonym that the other has under the other. -/
def HashesAgree (U : String → String → Prop) (env : Environment σ) (env' : Environment σ') (t t' : Tables) : Prop :=
  ∀ account r r', t.account account = .ok r → t'.account account = .ok r' →
    ∀ user user', U user user' → env'.hash user' r'.salt = env.hash user r.salt

namespace Tables

def PassesAccounts (f : Tables → Tables) : Prop :=
  ∀ t accounts, f { t with accounts } = { f t with accounts }

theorem passesAccounts_dropIndexEntry (account : String) (user : Option Pseudonym) (id : String) :
    PassesAccounts (·.dropIndexEntry account user id) := by
  intro t accounts
  cases user <;> rfl

theorem passesAccounts_putEvent (r : EventRow) : PassesAccounts (·.putEvent r) := by
  intro t accounts
  unfold putEvent putIndexEntry
  cases r.user <;> rfl

theorem passesAccounts_dropEvent (account id : String) (user : Option Pseudonym) :
    PassesAccounts (·.dropEvent account id user) := by
  intro t accounts
  unfold dropEvent dropIndexEntry
  cases user <;> rfl

namespace SameButSalts

variable {t t' : Tables} {U : String → String → Prop} {env : Environment σ} {env' : Environment σ'}

theorem empty : SameButSalts .empty .empty :=
  ⟨.nil, rfl⟩

/-! ## Steps -/

theorem change (h : t.SameButSalts t') {f : Tables → Tables} (hf : PassesAccounts f) : (f t).SameButSalts (f t') := by
  have hkept (t : Tables) : (f t).accounts = t.accounts := by
    have hpasses := congrArg Tables.accounts (hf t t.accounts)
    exact hpasses
  refine ⟨?_, ?_⟩
  · rw [hkept, hkept]
    exact h.accounts
  · rw [hkept]
    conv_lhs => rw [h.others]
    exact hf t t'.accounts

theorem putAccount (h : t.SameButSalts t') (r : AccountRow) (salt : String) :
    (t.putAccount r).SameButSalts (t'.putAccount { r with salt }) := by
  unfold Tables.putAccount
  refine ⟨OrderedMap.forall₂_insert SameButSalt.key_eq h.accounts (.intro r salt), ?_⟩
  conv_lhs => rw [h.others]

theorem correspondence : Correspondence id id (fun _ _ => True) SameButSalts where
  contains := fun h key => OrderedMap.contains_rel SameButSalt.key_eq h.accounts key
  secret? := by
    intro t t' h account user
    rw [h.others, Option.map_id_fun]
    rfl
  event? := by
    intro t t' h account id
    rw [h.others, recast_row_id, Option.map_id_fun, id_map]
    rfl
  accountOf? := by
    intro t t' h id
    rw [h.others]
    rfl
  isIndexed := by
    intro t t' h account user id
    rw [h.others]
    rfl
  userEventIds := by
    intro t t' h account user since
    rw [h.others]
    rfl
  operatorEvents := by
    intro t t' h account since
    rw [h.others, recast_view_id, List.map_id_fun, id_map]
    rfl
  putAccount := fun h r salt _ => h.putAccount r salt
  bindSecret := fun h account user secret => h.change (f := (·.bindSecret account user secret)) fun _ _ => rfl
  dropSecret := fun h account user => h.change (f := (·.dropSecret account user)) fun _ _ => rfl
  putEvent := fun h e => h.change (passesAccounts_putEvent e)
  dropEvent := fun h account id user => h.change (passesAccounts_dropEvent account id user)
  dropIndexEntry := fun h account user id => h.change (passesAccounts_dropIndexEntry account user id)

/-! ## Accounts -/

theorem read_row (r : AccountRow) (salt : String) :
    SameOutcome (fun q q' : AccountRow => q.account = r.account ∧ q' = { q with salt := q'.salt })
      (AccountRow.ofBytes r.bytes) (AccountRow.ofBytes { r with salt }.bytes) := by
  cases hread : Instant.read? r.createdAt.write with
  | none =>
    rw [AccountRow.ofBytes_bytes_of_unreadable hread, AccountRow.ofBytes_bytes_of_unreadable (r := { r with salt }) hread]
    exact .error _
  | some time =>
    rw [AccountRow.ofBytes_bytes_of_read hread, AccountRow.ofBytes_bytes_of_read (r := { r with salt }) hread]
    exact .ok ⟨rfl, rfl⟩

theorem read_account {row row' : Bytes × Bytes} (h : SameButSalt row row') :
    SameOutcome (fun q q' : AccountRow => row.1 = RowKey.account q.account ∧ q' = { q with salt := q'.salt })
      (AccountRow.ofBytes row.2) (AccountRow.ofBytes row'.2) := by
  obtain ⟨r, salt⟩ := h
  dsimp only
  exact (read_row r salt).mono fun q q' _ _ hq => ⟨by rw [hq.1], hq.2⟩

theorem account (h : t.SameButSalts t') (hhash : HashesAgree U env env' t t') (a : String) :
    SameOutcome (SameAccount U env env') (t.account a) (t'.account a) := by
  have hget := OrderedMap.get?_rel SameButSalt.key_eq h.accounts (RowKey.account a)
  have hknown := hhash a
  unfold Tables.account at hknown ⊢
  generalize t.accounts.get? (RowKey.account a) = b at hget hknown
  generalize t'.accounts.get? (RowKey.account a) = b' at hget hknown
  cases hget with
  | none => exact .error _
  | some hrow => exact (read_account hrow).mono fun q q' hread hread' hq => ⟨hq.2, hknown q q' hread hread'⟩

theorem allAccounts (h : t.SameButSalts t') (hhash : HashesAgree U env env' t t') :
    SameOutcome (List.Forall₂ (SameAccount U env env')) t.allAccounts t'.allAccounts := by
  unfold Tables.allAccounts OrderedMap.values
  rw [List.mapM_map, List.mapM_map]
  refine SameOutcome.mapM h.accounts fun row hmem row' hmem' hrow => ?_
  refine (read_account hrow).mono fun q q' hread hread' hq => ⟨hq.2, hhash q.account q q' ?_ ?_⟩
  · exact account_eq_ok_iff.2 ⟨row.2, hq.1 ▸ hmem, hread⟩
  · have hkey : row'.1 = RowKey.account q.account := (SameButSalt.key_eq row row' hrow).trans hq.1
    exact account_eq_ok_iff.2 ⟨row'.2, hkey ▸ hmem', hread'⟩

theorem accountsAgree (h : t.SameButSalts t') (hhash : HashesAgree U env env' t t') : AccountsAgree U env env' t t' :=
  ⟨h.account hhash, h.allAccounts hhash⟩

end SameButSalts

end Tables

end PseudonymStore
