import PseudonymStore.Proofs.Deletion
import PseudonymStore.Proofs.Rotation
/-!
# What purging a user does

A purge strikes out the events that are under the pseudonyms of the user, with their index entries, and the secrets of
these pseudonyms; every other row of every table stays (`Session.purges_run`).  The log says how much it was.  So a second
purge finds nothing, purges of two users may be swapped whether or not they share pseudonyms, and clients are told to
forget what was struck out.
-/
namespace PseudonymStore

variable {σ : Type}

namespace Tables

/-- **Tables after a purge** of a user, which has struck out some events, and the user's secrets in some accounts. -/
structure Purged (t : Tables) (hash : String → Pseudonym) (es : List EventRow) (rs : List AccountRow) (u : Tables) :
    Prop where
  /-- The events are those under the pseudonym that the user has in their account. -/
  source : ∀ e, e ∈ es ↔ t.Stores e ∧ ∃ r, t.account e.account = .ok r ∧ e.user = some (hash r.salt)
  ascending : es.Pairwise (·.id < ·.id)
  /-- The accounts are those in which the user has a secret. -/
  owning : ∀ r, r ∈ rs ↔ t.account r.account = .ok r ∧ (t.secret? r.account (hash r.salt)).isSome = true
  owningAscending : rs.Pairwise (·.account < ·.account)
  accounts : u.accounts = t.accounts
  secrets : t.userSecrets.Replaced (RowKey.secrets hash rs) [] u.userSecrets
  events : t.events.Replaced (es.map fun e => RowKey.event e.account e.id) [] u.events
  homes : t.eventAccounts.Replaced (es.map fun e => RowKey.eventAccount e.id) [] u.eventAccounts
  index : t.userEvents.Replaced
    (es.filterMap fun e => e.user.map fun p => RowKey.userEvent e.account p e.id) [] u.userEvents
  gone : ∀ e ∈ es, ¬u.Mentions e.id
  left : ∀ a r, u.account a = .ok r →
    u.secret? a (hash r.salt) = none ∧ ∀ e, u.Stores e → e.account = a → e.user ≠ some (hash r.salt)

end Tables

/-- **What purging a user does** to a session. -/
structure Session.Purges (env : Environment σ) (s : Session σ) (user : String) (es : List EventRow)
    (rs : List AccountRow) (u : Tables) : Prop where
  purged : s.tables.Purged (env.hash user) es rs u
  after : s.after env (.purge user) =
    (.ok .done, { s with tables := u, log := s.log ++ [.purged es.length rs.length] })
  again : ∀ t, t = (s.after env (.purge user)).2 →
    t.after env (.purge user) = (.ok .done, { t with log := t.log ++ [.purged 0 0] })
  /-- Purging another user before or after makes no difference but to the log. -/
  commutes : ∀ other, ∃ t t', s.run env [.purge user, .purge other] = ([.ok .done, .ok .done], t) ∧
    s.run env [.purge other, .purge user] = ([.ok .done, .ok .done], t') ∧ t' = { t with log := t'.log }
  forgotten : ∀ t, t = (s.after env (.purge user)).2 → ∀ e ∈ es, ∀ ids asker, e.id ∈ ids →
    ∃ gone, t.after env (.deletedEvents ids asker) = (.ok (.deleted gone), t) ∧ e.id ∈ gone

namespace Ledger

variable {l : Ledger} {hash : String → Pseudonym}

theorem purge_comm (l : Ledger) (hash hash' : String → Pseudonym) (rows rows' : List AccountRow) :
    (l.purge hash rows).purge hash' rows' = (l.purge hash' rows').purge hash rows := by
  refine Ledger.ext rfl (funext fun a => funext fun p => ?_) ?_ rfl
  · simp only [purge]
    split <;> split <;> rfl
  · simp only [purge, List.filter_filter, Bool.and_comm]

theorem purge_purge (l : Ledger) (hash : String → Pseudonym) (rows : List AccountRow) :
    (l.purge hash rows).purge hash rows = l.purge hash rows := by
  refine Ledger.ext rfl (funext fun a => funext fun p => ?_) ?_ rfl
  · simp only [purge]
    split <;> rfl
  · simp only [purge, List.filter_filter, Bool.and_self]

theorem eventsHeld_purge (l : Ledger) (hash : String → Pseudonym) :
    (l.purge hash l.accounts.values).eventsHeld hash = [] := by
  refine List.filter_eq_nil_iff.2 fun e he hheld => ?_
  have hkept := (List.mem_filter.1 he).2
  rw [Bool.not_eq_true'] at hkept
  exact Bool.false_ne_true (hkept.symm.trans hheld)

theorem owning_purge (l : Ledger) (hash : String → Pseudonym) (rows : List AccountRow) :
    (l.purge hash rows).owning hash rows = [] := by
  refine List.filter_eq_nil_iff.2 fun r hr => ?_
  have hheld : isHeld hash rows r.account (hash r.salt) = true := List.any_eq_true.2 ⟨r, hr, by simp⟩
  simp [secret?_purge, hheld]

theorem mem_eventsHeld_iff (hl : l.Sound) {e : EventRow} :
    e ∈ l.eventsHeld hash ↔
      e ∈ l.events ∧ ∃ r, l.accounts.get? e.account = some r ∧ e.user = some (hash r.salt) := by
  simp only [eventsHeld, List.mem_filter, Option.any_eq_true, isHeld_values_iff hl]
  refine and_congr_right fun _ => ?_
  constructor
  · rintro ⟨_, hp, r, hr, rfl⟩
    exact ⟨r, hr, hp⟩
  · rintro ⟨r, hr, hp⟩
    exact ⟨_, hp, r, hr, rfl⟩

theorem Sound.mem_values_iff (hl : l.Sound) {r : AccountRow} :
    r ∈ l.accounts.values ↔ l.accounts.get? r.account = some r := by
  rw [OrderedMap.get?_eq_some_iff, OrderedMap.values, List.mem_map]
  constructor
  · rintro ⟨⟨a, q⟩, hq, rfl⟩
    exact (hl.named _ hq).1.symm ▸ hq
  · exact fun hr => ⟨_, hr, rfl⟩

theorem mem_owning_iff (hl : l.Sound) {r : AccountRow} :
    r ∈ l.owning hash l.accounts.values ↔
      l.accounts.get? r.account = some r ∧ (l.secret? r.account (hash r.salt)).isSome = true := by
  rw [owning, List.mem_filter, hl.mem_values_iff]

end Ledger

namespace Tables.Keeps

variable {t u : Tables} {l : Ledger} {hash : String → Pseudonym}

theorem replaced_secrets (h : t.Keeps l) (hl : l.Sound) (hhash : ∀ salt, NulFree (hash salt).text)
    (hsecrets : u.userSecrets = (RowKey.secrets hash l.accounts.values).foldl OrderedMap.erase t.userSecrets) :
    t.userSecrets.Replaced (RowKey.secrets hash (l.owning hash l.accounts.values)) [] u.userSecrets := by
  rintro ⟨key, secret⟩
  rw [hsecrets, OrderedMap.mem_foldl_erase, and_comm]
  simp only [List.not_mem_nil, false_or]
  refine and_congr_right fun hmem => not_congr ?_
  simp only [RowKey.secrets, List.mem_map]
  constructor
  · rintro ⟨r, hr, rfl⟩
    have hsecret : t.secret? r.account (hash r.salt) = some secret := OrderedMap.get?_eq_some_iff.2 hmem
    rw [h.secret _ _ (hl.nulFree_values r hr) (hhash r.salt)] at hsecret
    exact ⟨r, List.mem_filter.2 ⟨hr, Option.isSome_iff_exists.2 ⟨secret, hsecret⟩⟩, rfl⟩
  · rintro ⟨r, hr, rfl⟩
    exact ⟨r, List.mem_of_mem_filter hr, rfl⟩

theorem purged (h : t.Keeps l) (hl : l.Sound) (hhash : ∀ salt, NulFree (hash salt).text)
    (h' : u.Keeps (l.purge hash l.accounts.values)) (hl' : (l.purge hash l.accounts.values).Sound)
    (hsecrets : u.userSecrets = (RowKey.secrets hash l.accounts.values).foldl OrderedMap.erase t.userSecrets) :
    t.Purged hash (l.eventsHeld hash) (l.owning hash l.accounts.values) u := by
  have hevents : (l.purge hash l.accounts.values).events =
      l.events.filter (fun e => !e.user.any (Ledger.isHeld hash l.accounts.values e.account)) ++ [] :=
    (List.append_nil _).symm
  refine ⟨fun e => ?_, hl.ascending.filter _, fun r => ?_, hl.ascending_values.filter _, h.account.unique h'.account,
    h.replaced_secrets hl hhash hsecrets, h.replaced_events hl h' hevents, h.replaced_homes hl h' hevents,
    h.replaced_index hl h' hevents, fun e he hmention => ?_, fun a r hr => ?_⟩
  · simp only [Ledger.mem_eventsHeld_iff hl, h.stores_iff, h.account_eq hl, Ledger.account_eq_ok_iff]
  · rw [Ledger.mem_owning_iff hl, h.account_eq hl, Ledger.account_eq_ok_iff]
    refine and_congr_right fun hr => ?_
    rw [h.secret _ _ (hl.nulFree_of_get? hr) (hhash r.salt)]
  · obtain ⟨f, hf, hid⟩ := h'.exists_of_mentions hl' hmention
    obtain ⟨hfl, hkept⟩ := List.mem_filter.1 hf
    obtain ⟨hel, hheld⟩ := List.mem_filter.1 he
    rw [hl.eq_of_id hfl hel hid, hheld] at hkept
    cases hkept
  · rw [h'.account_eq hl', Ledger.account_eq_ok_iff] at hr
    have hheld : Ledger.isHeld hash l.accounts.values a (hash r.salt) = true :=
      (Ledger.isHeld_values_iff hl).2 ⟨r, hr, rfl⟩
    constructor
    · rw [h'.secret _ _ (hl.nulFree_of_get? hr) (hhash r.salt), Ledger.secret?_purge, if_pos hheld]
    · rintro e he rfl hu
      have hkept := (List.mem_filter.1 (h'.stores_iff.1 he)).2
      rw [hu, Option.any_some, hheld] at hkept
      cases hkept

end Tables.Keeps

/-- The accounts in which a purge looks for a user; an empty user is nobody. -/
def Ledger.searched (l : Ledger) (user : String) : List AccountRow :=
  if user = "" then [] else l.accounts.values

namespace Session.Keeps

variable {env : Environment σ} {s t : Session σ} {l : Ledger}

theorem after_purge_searched (henv : env.Proper) (h : s.Keeps l) (user : String) :
    ∃ t, s.after env (.purge user) = (.ok .done, t) ∧ t = { s with tables := t.tables, log := t.log } ∧
      t.tables.userSecrets =
        (RowKey.secrets (env.hash user) (l.searched user)).foldl OrderedMap.erase s.tables.userSecrets ∧
      t.Keeps (l.purge (env.hash user) (l.searched user)) := by
  unfold Ledger.searched
  by_cases huser : user = ""
  · subst huser
    rw [if_pos rfl, Ledger.purge_nil]
    obtain ⟨hafter, ht⟩ := h.after_purgeNobody env
    exact ⟨_, hafter, rfl, rfl, ht⟩
  · rw [if_neg huser]
    obtain ⟨t, hafter, hframe, hsecrets, ht⟩ := h.after_purge henv huser
    exact ⟨t, hafter, by rw [hframe], hsecrets, ht⟩

theorem run_purges (henv : env.Proper) (h : s.Keeps l) (user other : String) :
    ∃ t, s.run env [.purge user, .purge other] = ([.ok .done, .ok .done], t) ∧
      t = { s with tables := t.tables, log := t.log } ∧
      t.tables.userSecrets =
        (RowKey.secrets (env.hash user) (l.searched user) ++ RowKey.secrets (env.hash other) (l.searched other)).foldl
          OrderedMap.erase s.tables.userSecrets ∧
      t.Keeps ((l.purge (env.hash user) (l.searched user)).purge (env.hash other) (l.searched other)) := by
  obtain ⟨t, hafter, hframe, hsecrets, ht⟩ := h.after_purge_searched henv user
  obtain ⟨u, hafter', hframe', hsecrets', hu⟩ := ht.after_purge_searched henv other
  refine ⟨u, ?_, ?_, ?_, hu⟩
  · simp only [Session.run, hafter, hafter']
  · rw [hframe', hframe]
  · rw [hsecrets', hsecrets, List.foldl_append]
    rfl

theorem after_purge_again (henv : env.Proper) {user : String} (huser : user ≠ "")
    (ht : t.Keeps (l.purge (env.hash user) l.accounts.values))
    (hsecrets : ∀ r ∈ t.tables.userSecrets.rows, r.1 ∉ RowKey.secrets (env.hash user) l.accounts.values) :
    t.after env (.purge user) = (.ok .done, { t with log := t.log ++ [.purged 0 0] }) := by
  obtain ⟨u, hafter, hframe, hsecrets', hu⟩ := ht.after_purge henv huser
  have haccounts : (l.purge (env.hash user) l.accounts.values).accounts.values = l.accounts.values := rfl
  rw [haccounts, Ledger.eventsHeld_purge, Ledger.owning_purge] at hframe
  rw [haccounts, Ledger.purge_purge] at hu
  have hsame : u.tables.userSecrets = t.tables.userSecrets := by
    rw [hsecrets']
    refine OrderedMap.ext_mem fun r => ?_
    rw [OrderedMap.mem_foldl_erase]
    exact and_iff_right_of_imp (hsecrets r)
  rw [hafter, hframe, ht.tables.unique hu.tables hsame]
  rfl

theorem purges (henv : env.Proper) (h : s.Keeps l) {user : String} (huser : user ≠ "") :
    ∃ u, s.Purges env user (l.eventsHeld (env.hash user)) (l.owning (env.hash user) l.accounts.values) u := by
  obtain ⟨t, hafter, hframe, hsecrets, ht⟩ := h.after_purge henv huser
  have hpurged := h.tables.purged h.sound (henv.nulFree_hash user) ht.tables ht.sound hsecrets
  refine ⟨t.tables, hpurged, by rw [hafter, ← hframe], fun t' ht' => ?_, fun other => ?_,
    fun t' ht' e he ids asker hid => ?_⟩
  · rw [ht', hafter]
    refine ht.after_purge_again henv huser fun r hr => ?_
    rw [hsecrets, OrderedMap.mem_foldl_erase] at hr
    exact hr.1
  · obtain ⟨u, hrun, hframe, hsecrets, hu⟩ := h.run_purges henv user other
    obtain ⟨u', hrun', hframe', hsecrets', hu'⟩ := h.run_purges henv other user
    rw [Ledger.purge_comm] at hu'
    have hsame : u'.tables.userSecrets = u.tables.userSecrets := by
      rw [hsecrets, hsecrets']
      refine OrderedMap.ext_mem fun r => ?_
      simp only [OrderedMap.mem_foldl_erase, List.mem_append, not_or, and_comm]
    refine ⟨u, u', hrun, hrun', ?_⟩
    rw [hframe', hframe, hu.tables.unique hu'.tables hsame]
  · rw [ht', hafter]
    have hdisowns := ht.disowns henv asker
    refine ⟨_, hdisowns.answer ids, List.mem_filter.2 ⟨hid, (hdisowns.exact e.id).2 ?_⟩⟩
    rintro ⟨f, hf, hfid, -⟩
    obtain ⟨hel, hheld⟩ := List.mem_filter.1 he
    obtain ⟨hfl, hkept⟩ := List.mem_filter.1 (ht.tables.stores_iff.1 hf)
    rw [h.sound.eq_of_id hfl hel hfid, hheld] at hkept
    cases hkept

end Session.Keeps

namespace Session

/-- **Purging a user deletes exactly what is the user's**, after every run: the events under the user's pseudonyms and the
secrets of these, and it is counted; so a second purge finds nothing, purges may be swapped, and clients are told to
forget the events. -/
theorem purges_run {env : Environment σ} (henv : env.Proper) (world : σ) (ops : List Operation) {user : String}
    (huser : user ≠ "") : ∃ es rs u, ((opened .empty world).run env ops).2.Purges env user es rs u := by
  obtain ⟨l, h⟩ := keeps_run henv world ops
  obtain ⟨u, hpurges⟩ := h.purges henv huser
  exact ⟨_, _, u, hpurges⟩

/-- The purge strikes out the secret of `u` and the event that `u` has inserted. -/
theorem purges_run_still : ∃ (s : Session Unit) (es : List EventRow) (rs : List AccountRow) (u : Tables),
    ((opened .empty ()).run .still started).2 = s ∧ s.Purges .still "u" es rs u ∧ es ≠ [] ∧ rs ≠ [] := by
  have henv := Environment.still_proper
  obtain ⟨es, rs, u, hpurges⟩ := purges_run henv () started (by decide : "u" ≠ "")
  obtain ⟨row, l, h, -, hrow, hevents, hsecret⟩ := keeps_started
  obtain ⟨s, hs⟩ : ∃ s, ((opened .empty ()).run .still started).2 = s := ⟨_, rfl⟩
  rw [hs] at h hpurges
  have hread := h.account_eq_ok_iff.2 hrow
  have hbound : s.tables.secret? "a" (Environment.still.hash "u" row.salt) = some "s" := by
    rw [h.secret?_hash henv hrow, hsecret, if_pos rfl]
  refine ⟨s, es, rs, u, hs, hpurges, ?_, ?_⟩
  · obtain ⟨e, hmem⟩ := List.exists_mem_of_ne_nil _ (hevents ▸ List.cons_ne_nil _ _)
    obtain ⟨he, ha, hu⟩ := Ledger.mem_eventsOf.1 hmem
    exact List.ne_nil_of_mem ((hpurges.purged.source e).2 ⟨h.tables.stores_iff.2 he, row, ha ▸ hread, hu⟩)
  · refine List.ne_nil_of_mem ((hpurges.purged.owning row).2 ?_)
    rw [h.sound.account_of_get? hrow, hbound]
    exact ⟨hread, rfl⟩

end Session

end PseudonymStore
