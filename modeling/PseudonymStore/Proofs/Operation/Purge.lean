import PseudonymStore.Proofs.Edits
import PseudonymStore.Proofs.Step
/-!
# What purging a user does

A purge strikes the user's events and secret out of one account after the other.  It finds every event that the index
lists, so no step of it fails, and it counts each event and each secret that was there once.
-/
namespace PseudonymStore

variable {σ : Type}

namespace Ledger

def eventsHeld (l : Ledger) (hash : String → Pseudonym) : List EventRow :=
  l.events.filter fun e => e.user.any (isHeld hash l.accounts.values e.account)

def owning (l : Ledger) (hash : String → Pseudonym) (rows : List AccountRow) : List AccountRow :=
  rows.filter fun r => (l.secret? r.account (hash r.salt)).isSome

theorem restrict_restrict (l : Ledger) (p q : EventRow → Bool) :
    (l.restrict p).restrict q = l.restrict fun e => p e && q e := by
  simp [restrict, List.filter_filter, Bool.and_comm]

theorem restrict_congr {l : Ledger} {p q : EventRow → Bool} (h : ∀ e ∈ l.events, p e = q e) :
    l.restrict p = l.restrict q := by
  simp only [restrict, List.filter_congr h]

theorem purge_nil (l : Ledger) (hash : String → Pseudonym) : l.purge hash [] = l := by
  refine Ledger.ext rfl rfl (List.filter_eq_self.2 fun e _ => ?_) rfl
  cases e.user <;> simp [isHeld]

theorem purge_cons (l : Ledger) (hash : String → Pseudonym) (r : AccountRow) (rows : List AccountRow) :
    l.purge hash (r :: rows) =
      ((l.restrict (!isOf r.account (hash r.salt) ·)).bind r.account (hash r.salt) none).purge hash rows := by
  have hheld (a : String) (p : Pseudonym) : isHeld hash (r :: rows) a p =
      (decide (a = r.account ∧ p = hash r.salt) || isHeld hash rows a p) := by
    simp only [isHeld, List.any_cons, @eq_comm _ a, @eq_comm _ p]
  refine Ledger.ext rfl (funext fun a => funext fun p => ?_) ?_ rfl
  · simp only [purge, restrict, secret?_bind, hheld]
    by_cases hkey : a = r.account ∧ p = hash r.salt <;> simp [hkey]
  · simp only [purge, restrict, bind, List.filter_filter]
    refine List.filter_congr fun e _ => ?_
    cases hu : e.user with
    | none => simp [isOf, hu]
    | some p => simp [isOf, hu, hheld, Bool.and_comm]

theorem length_eventsOf (l : Ledger) (account : String) (user : Pseudonym) :
    (l.eventsOf account user).length + (l.restrict (!isOf account user ·)).events.length = l.events.length :=
  (l.events.length_eq_length_filter_add (isOf account user)).symm

theorem length_eventsHeld (l : Ledger) (hash : String → Pseudonym) :
    (l.eventsHeld hash).length + (l.purge hash l.accounts.values).events.length = l.events.length :=
  (l.events.length_eq_length_filter_add fun e => e.user.any (isHeld hash l.accounts.values e.account)).symm

theorem owning_bind {l : Ledger} {hash : String → Pseudonym} {r : AccountRow} {rows : List AccountRow}
    (hrows : ∀ q ∈ rows, r.account ≠ q.account) (secret : Option String) :
    (l.bind r.account (hash r.salt) secret).owning hash rows = l.owning hash rows :=
  List.filter_congr fun q hq => by rw [secret?_bind, if_neg fun h => hrows q hq h.1.symm]

theorem length_owning_cons (l : Ledger) (hash : String → Pseudonym) (r : AccountRow) (rows : List AccountRow) :
    (l.owning hash (r :: rows)).length =
      (if (l.secret? r.account (hash r.salt)).isSome then 1 else 0) + (l.owning hash rows).length := by
  rw [owning, List.filter_cons]
  split
  · exact Nat.add_comm _ 1
  · exact (Nat.zero_add _).symm

theorem Owned.purge {l : Ledger} (h : l.Owned) (hash : String → Pseudonym) (rows : List AccountRow) :
    (l.purge hash rows).Owned := by
  intro e he p hp
  obtain ⟨hel, hheld⟩ := List.mem_filter.1 he
  rw [hp, Option.any_some, Bool.not_eq_true'] at hheld
  rw [secret?_purge, if_neg (Bool.not_eq_true _ ▸ hheld)]
  exact h e hel p hp

theorem Sound.nulFree_values {l : Ledger} (h : l.Sound) : ∀ r ∈ l.accounts.values, NulFree r.account := by
  intro r hr
  obtain ⟨⟨a, q⟩, hq, rfl⟩ := List.mem_map.1 hr
  obtain ⟨hname, -, hnul, -⟩ := h.named _ hq
  exact hname ▸ hnul

theorem Sound.ascending_values {l : Ledger} (h : l.Sound) : l.accounts.values.Pairwise fun r q => r.account < q.account :=
  List.pairwise_map.2 (l.accounts.ascending.imp_of_mem fun {r q} hr hq hlt => by
    rwa [(h.named r hr).1, (h.named q hq).1])

end Ledger

def RowKey.secrets (hash : String → Pseudonym) (rows : List AccountRow) : List Bytes :=
  rows.map fun r => RowKey.secret r.account (hash r.salt)

/-- **Rows have been struck out** of a session, which now holds a ledger: its tables alone have changed, and of the
secrets those under some keys are gone. -/
structure Session.Strikes (s : Session σ) (keys : List Bytes) (t : Session σ) (l : Ledger) : Prop where
  frame : t = { s with tables := t.tables }
  secrets : t.tables.userSecrets = keys.foldl OrderedMap.erase s.tables.userSecrets
  holds : t.Holds l

theorem Session.Strikes.trans {s t u : Session σ} {keys keys' : List Bytes} {l l' : Ledger} (h : s.Strikes keys t l)
    (h' : t.Strikes keys' u l') : s.Strikes (keys ++ keys') u l' where
  frame := by
    rw [h'.frame, h.frame]
  secrets := by
    rw [h'.secrets, h.secrets, List.foldl_append]
  holds := h'.holds

namespace Action

variable {env : Environment σ}

theorem deleteEvents_meets (account : String) : ∀ (es : List EventRow) {s : Session σ} {l : Ledger}, s.Holds l →
    (∀ e ∈ es, e ∈ l.events ∧ e.account = account) → es.Nodup →
    (deleteEvents account (es.map (·.id))).Meets s
      (fun count t => count = es.length ∧ s.Strikes [] t (l.restrict (· ∉ es))) fun _ _ => False
  | [], s, l, h, _, _ => by
    have hall : l.restrict (· ∉ ([] : List EventRow)) = l := by simp [Ledger.restrict]
    exact Meets.pure ⟨rfl, rfl, rfl, hall.symm ▸ h⟩
  | e :: es, s, l, h, hes, hdup => by
    obtain ⟨he, rfl⟩ := hes e List.mem_cons_self
    obtain ⟨hfirst, hdup⟩ := List.nodup_cons.1 hdup
    have hrest : (l.restrict (·.id ≠ e.id)).restrict (· ∉ es) = l.restrict (· ∉ e :: es) := by
      rw [Ledger.restrict_restrict]
      refine Ledger.restrict_congr fun f hf => ?_
      simp [h.sound.id_eq_iff hf he]
    have hleft : ∀ f ∈ es, f ∈ (l.restrict (·.id ≠ e.id)).events ∧ f.account = e.account := fun f hf => by
      obtain ⟨hfl, hfa⟩ := hes f (List.mem_cons_of_mem _ hf)
      exact ⟨h.sound.mem_restrict he hfl fun heq => hfirst (heq ▸ hf), hfa⟩
    rw [List.map_cons, deleteEvents]
    refine Meets.tables_bind ?_
    rw [h.tables.takeEvent_eq he]
    refine Meets.ok_bind ?_
    refine Meets.bind (P := fun _ t => s.Strikes [] t (l.restrict (·.id ≠ e.id)))
      (Meets.change ⟨rfl, Tables.userSecrets_dropEvent _ _ _ _, h.drop he⟩) fun _ t ht => ?_
    refine (deleteEvents_meets e.account es ht.holds hleft hdup).bind ?_
    rintro _ u ⟨rfl, hu⟩
    exact Meets.pure ⟨rfl, hrest ▸ ht.trans hu⟩

theorem deletePseudonym_meets {s : Session σ} {l : Ledger} (h : s.Holds l) {account : String} {user : Pseudonym}
    (haccount : NulFree account) (huser : NulFree user.text) :
    (deletePseudonym account user).Meets s
      (fun counts t => counts = ((l.eventsOf account user).length, if (l.secret? account user).isSome then 1 else 0) ∧
        s.Strikes [RowKey.secret account user] t ((l.restrict (!Ledger.isOf account user ·)).bind account user none))
      fun _ _ => False := by
  have hall : l.restrict (· ∉ l.eventsOf account user) = l.restrict (!Ledger.isOf account user ·) := by
    rw [Ledger.restrict, Ledger.filter_not_mem_eventsOf, Ledger.restrict]
  unfold deletePseudonym
  refine Meets.tables_bind ?_
  rw [h.tables.userEventIds_none h.sound haccount huser]
  refine (deleteEvents_meets account _ h Ledger.mem_of_mem_eventsOf (h.sound.nodup.filter _)).bind ?_
  rintro _ t ⟨rfl, ht⟩
  rw [hall] at ht
  refine Meets.tables_bind ?_
  rw [ht.holds.tables.secret account user haccount huser]
  refine Meets.bind (P := fun _ u =>
    t.Strikes [RowKey.secret account user] u ((l.restrict (!Ledger.isOf account user ·)).bind account user none))
    (Meets.change ⟨rfl, rfl, ?_⟩) fun _ u hu => Meets.pure ⟨rfl, ht.trans hu⟩
  exact ⟨ht.holds.tables.dropSecret user haccount, ht.holds.sound.bind account user none, ht.holds.issued,
    ht.holds.quiet⟩

theorem deleteUser_meets (henv : env.Proper) (user : String) : ∀ (rows : List AccountRow) {s : Session σ} {l : Ledger},
    s.Holds l → (∀ r ∈ rows, NulFree r.account) → rows.Pairwise (·.account < ·.account) →
    (deleteUser env user rows).Meets s
      (fun counts t => counts.1 + (l.purge (env.hash user) rows).events.length = l.events.length ∧
        counts.2 = (l.owning (env.hash user) rows).length ∧
        s.Strikes (RowKey.secrets (env.hash user) rows) t (l.purge (env.hash user) rows))
      fun _ _ => False
  | [], s, l, h, _, _ => by
    rw [Ledger.purge_nil]
    exact Meets.pure ⟨Nat.zero_add _, rfl, rfl, rfl, h⟩
  | r :: rows, s, l, h, hnul, hrows => by
    obtain ⟨hfirst, hrows⟩ := List.pairwise_cons.1 hrows
    have hothers : ∀ q ∈ rows, r.account ≠ q.account := fun q hq heq => String.lt_irrefl _ (heq ▸ hfirst q hq)
    rw [deleteUser, Ledger.purge_cons, Ledger.length_owning_cons]
    refine (deletePseudonym_meets h (hnul r List.mem_cons_self) (henv.nulFree_hash user r.salt)).bind ?_
    rintro _ t ⟨rfl, ht⟩
    refine (deleteUser_meets henv user rows ht.holds (fun q hq => hnul q (List.mem_cons_of_mem _ hq)) hrows).bind ?_
    rintro ⟨events, secrets⟩ u ⟨hevents, rfl, hu⟩
    have hlength := l.length_eventsOf r.account (env.hash user r.salt)
    refine Meets.pure ⟨?_, ?_, ht.trans hu⟩
    · simp only [Ledger.bind] at hevents ⊢
      omega
    · exact congrArg (_ + List.length ·) (Ledger.owning_bind hothers none)

/-- **Purging a user** strikes the user out of every account, and counts what was there. -/
theorem purge_strikes (henv : env.Proper) {s : Session σ} {l : Ledger} (h : s.Keeps l) {user : String}
    (huser : user ≠ "") :
    (purge env user).Meets s
      (fun _ t => t = { s with
          tables := t.tables
          log := s.log ++ [.purged (l.eventsHeld (env.hash user)).length
            (l.owning (env.hash user) l.accounts.values).length] } ∧
        t.tables.userSecrets =
          (RowKey.secrets (env.hash user) l.accounts.values).foldl OrderedMap.erase s.tables.userSecrets ∧
        t.Keeps (l.purge (env.hash user) l.accounts.values))
      fun _ _ => False := by
  unfold purge
  rw [if_neg huser]
  refine Meets.bind (P := fun counts t => counts.1 = (l.eventsHeld (env.hash user)).length ∧
      counts.2 = (l.owning (env.hash user) l.accounts.values).length ∧
      s.Strikes (RowKey.secrets (env.hash user) l.accounts.values) t
        (l.purge (env.hash user) l.accounts.values)) (Meets.write ?_) ?_
  · refine Meets.tables_bind ?_
    rw [h.tables.allAccounts_eq h.sound]
    refine Meets.ok_bind ?_
    refine (deleteUser_meets henv user _ h.toHolds h.sound.nulFree_values h.sound.ascending_values).mono ?_
      fun _ _ => id
    rintro counts t ⟨hevents, hsecrets, ht⟩
    have hlength := l.length_eventsHeld (env.hash user)
    exact ⟨by omega, hsecrets, ht⟩
  · rintro ⟨events, secrets⟩ t ⟨rfl, rfl, ht⟩
    refine Meets.report ⟨?_, ht.secrets, ht.holds.report (by simp [Log.Event.level]), h.owned.purge _ _⟩
    rw [ht.frame]

theorem purge_meets (henv : env.Proper) {s : Session σ} {l : Ledger} (h : s.Keeps l) (user : String) :
    (purge env user).Meets s (fun _ t => ∃ l', l.Step env s.world (.purge user) (.ok .done) l' ∧ t.Keeps l')
      fun _ _ => False := by
  by_cases huser : user = ""
  · unfold purge
    rw [if_pos huser]
    exact Meets.report ⟨l, huser ▸ .purgeNobody, h.toHolds.report (by simp [Log.Event.level]), h.owned⟩
  · exact (purge_strikes henv h huser).mono (fun _ _ ht => ⟨_, .purge huser, ht.2.2⟩) fun _ _ => id

end Action

end PseudonymStore
