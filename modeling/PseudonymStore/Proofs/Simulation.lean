import PseudonymStore.Proofs.Session
import PseudonymStore.Identifier
import Mathlib.Data.List.Forall2
/-!
# Two sessions side by side

Two actions on two sessions agree (`Action.Agree`) when both answer, and their answers correspond, or both fail with one
error, and their sessions correspond afterwards.  The sessions have one log and one last ID; how their tables and their
worlds correspond is left open.  Agreement is proved as the actions are made: one rule for each way to make one.
-/
namespace PseudonymStore

theorem mapM_map₂ {m : Type → Type} [Monad m] [LawfulMonad m] {α β γ δ : Type} {f : α → m γ} {g : β → m δ} (φ : γ → δ) :
    ∀ {as : List α} {bs : List β}, List.Forall₂ (fun a b => g b = φ <$> f a) as bs →
    bs.mapM g = List.map φ <$> as.mapM f
  | _, _, .nil => by rw [List.mapM_nil, List.mapM_nil, map_pure, List.map_nil]
  | _, _, .cons h hs => by
    rw [List.mapM_cons, List.mapM_cons, h, mapM_map₂ φ hs]
    simp only [map_bind, bind_map_left, map_pure, List.map_cons]

/-- Two outcomes are the same: values that correspond, or one error. -/
inductive SameOutcome {ε α β : Type} (Q : α → β → Prop) : Except ε α → Except ε β → Prop where
  | ok {a : α} {b : β} (h : Q a b) : SameOutcome Q (.ok a) (.ok b)
  | error (e : ε) : SameOutcome Q (.error e) (.error e)

namespace SameOutcome

variable {ε α β γ δ : Type} {Q : α → β → Prop} {P : γ → δ → Prop} {r : Except ε α} {r' : Except ε β}

theorem bind {f : α → Except ε γ} {g : β → Except ε δ} (h : SameOutcome Q r r')
    (hfg : ∀ a b, Q a b → SameOutcome P (f a) (g b)) : SameOutcome P (r >>= f) (r' >>= g) := by
  cases h with
  | ok h => exact hfg _ _ h
  | error e => exact .error e

theorem refl (r : Except ε α) : SameOutcome Eq r r := by
  cases r with
  | ok a => exact .ok rfl
  | error e => exact .error e

theorem mono {Q' : α → β → Prop} (h : SameOutcome Q r r') (hq : ∀ a b, r = .ok a → r' = .ok b → Q a b → Q' a b) :
    SameOutcome Q' r r' := by
  cases h with
  | ok h => exact .ok (hq _ _ rfl rfl h)
  | error e => exact .error e

theorem mapM {f : α → Except ε γ} {g : β → Except ε δ} : ∀ {as : List α} {bs : List β}, List.Forall₂ Q as bs →
    (∀ a ∈ as, ∀ b ∈ bs, Q a b → SameOutcome P (f a) (g b)) → SameOutcome (List.Forall₂ P) (as.mapM f) (bs.mapM g)
  | _, _, .nil, _ => .ok .nil
  | _, _, .cons h hs, hfg => by
    have ih := mapM hs fun a ha b hb => hfg a (List.mem_cons_of_mem _ ha) b (List.mem_cons_of_mem _ hb)
    rw [List.mapM_cons, List.mapM_cons]
    refine (hfg _ List.mem_cons_self _ List.mem_cons_self h).bind fun _ _ hc => ?_
    exact ih.bind fun _ _ hcs => .ok (.cons hc hcs)

theorem bind_eq {f : α → Except ε γ} {g : β → Except ε γ} (h : SameOutcome Q r r') (hfg : ∀ a b, Q a b → g b = f a) :
    (r' >>= g) = (r >>= f) := by
  cases h with
  | ok h => exact hfg _ _ h
  | error e => rfl

theorem bind_map {f : α → Except ε γ} {g : β → Except ε δ} {φ : γ → δ} (h : SameOutcome Q r r')
    (hfg : ∀ a b, Q a b → g b = φ <$> f a) : (r' >>= g) = φ <$> (r >>= f) := by
  cases h with
  | ok h => exact hfg _ _ h
  | error e => rfl

end SameOutcome

variable {σ σ' α α' β β' : Type}

/-- Two sessions that show the same, with tables and worlds that correspond. -/
structure Session.Alike (T : Tables → Tables → Prop) (W : σ → σ' → Prop) (s : Session σ) (s' : Session σ') : Prop where
  tables : T s.tables s'.tables
  lastIssued : s'.lastIssued = s.lastIssued
  log : s'.log = s.log
  world : W s.world s'.world

namespace Action

variable {T : Tables → Tables → Prop} {W : σ → σ' → Prop} {s : Session σ} {s' : Session σ'} {Q : α → α' → Prop}
  {P : β → β' → Prop} {x : Action σ α} {x' : Action σ' α'}

/-- Two actions on two sessions do the same, with answers and sessions that correspond. -/
def Agree (T : Tables → Tables → Prop) (W : σ → σ' → Prop) (Q : α → α' → Prop) (x : Action σ α) (x' : Action σ' α')
    (s : Session σ) (s' : Session σ') : Prop :=
  match x s, x' s' with
  | .ok a t, .ok a' t' => Q a a' ∧ t.Alike T W t'
  | .error e t, .error e' t' => e' = e ∧ t.Alike T W t'
  | _, _ => False

namespace Agree

theorem elim (h : Agree T W Q x x' s s') :
    (∃ a t a' t', x s = .ok a t ∧ x' s' = .ok a' t' ∧ Q a a' ∧ t.Alike T W t') ∨
      ∃ e t t', x s = .error e t ∧ x' s' = .error e t' ∧ t.Alike T W t' := by
  unfold Agree at h
  cases hx : x s <;> cases hx' : x' s' <;> rw [hx, hx'] at h
  · exact Or.inl ⟨_, _, _, _, rfl, rfl, h⟩
  · exact h.elim
  · exact h.elim
  · obtain ⟨rfl, h⟩ := h
    exact Or.inr ⟨_, _, _, rfl, rfl, h⟩

theorem of_ok {a : α} {a' : α'} {t : Session σ} {t' : Session σ'} (hx : x s = .ok a t) (hx' : x' s' = .ok a' t')
    (h : Q a a') (ht : t.Alike T W t') : Agree T W Q x x' s s' := by
  unfold Agree
  rw [hx, hx']
  exact ⟨h, ht⟩

theorem of_error {e : StoreError} {t : Session σ} {t' : Session σ'} (hx : x s = .error e t) (hx' : x' s' = .error e t')
    (ht : t.Alike T W t') : Agree T W Q x x' s s' := by
  unfold Agree
  rw [hx, hx']
  exact ⟨rfl, ht⟩

theorem mono {Q' : α → α' → Prop} (h : Agree T W Q x x' s s') (hq : ∀ a a', Q a a' → Q' a a') :
    Agree T W Q' x x' s s' := by
  rcases h.elim with ⟨a, t, a', t', hx, hx', h, ht⟩ | ⟨e, t, t', hx, hx', ht⟩
  · exact of_ok hx hx' (hq a a' h) ht
  · exact of_error hx hx' ht

theorem bind {f : α → Action σ β} {f' : α' → Action σ' β'} (h : Agree T W Q x x' s s')
    (hf : ∀ a a' t t', Q a a' → t.Alike T W t' → Agree T W P (f a) (f' a') t t') :
    Agree T W P (x >>= f) (x' >>= f') s s' := by
  rcases h.elim with ⟨a, t, a', t', hx, hx', hq, ht⟩ | ⟨e, t, t', hx, hx', ht⟩
  · have hrest := hf a a' t t' hq ht
    unfold Agree at hrest ⊢
    rwa [bind_eq, bind_eq, hx, hx']
  · exact of_error (by rw [bind_eq, hx]) (by rw [bind_eq, hx']) ht

theorem map {f : α → β} {f' : α' → β'} (h : Agree T W (fun a a' => P (f a) (f' a')) x x' s s') :
    Agree T W P (f <$> x) (f' <$> x') s s' := by
  rcases h.elim with ⟨a, t, a', t', hx, hx', hq, ht⟩ | ⟨e, t, t', hx, hx', ht⟩
  · exact of_ok (by rw [map_eq, hx]) (by rw [map_eq, hx']) hq ht
  · exact of_error (by rw [map_eq, hx]) (by rw [map_eq, hx']) ht

theorem pure {a : α} {a' : α'} (h : Q a a') (hs : s.Alike T W s') :
    Agree T W Q (Pure.pure a : Action σ α) (Pure.pure a' : Action σ' α') s s' :=
  ⟨h, hs⟩

theorem throw (e : StoreError) (hs : s.Alike T W s') :
    Agree T W Q (MonadExcept.throw e : Action σ α) (MonadExcept.throw e : Action σ' α') s s' :=
  ⟨rfl, hs⟩

theorem ofExcept {r : Except StoreError α} {r' : Except StoreError α'} (h : SameOutcome Q r r') (hs : s.Alike T W s') :
    Agree T W Q (MonadExcept.ofExcept r : Action σ α) (MonadExcept.ofExcept r' : Action σ' α') s s' := by
  cases h with
  | ok h => exact ⟨h, hs⟩
  | error e => exact ⟨rfl, hs⟩

theorem ofExcept_bind {r : Except StoreError α} {r' : Except StoreError α'} {f : α → Action σ β} {f' : α' → Action σ' β'}
    (h : SameOutcome Q r r') (hs : s.Alike T W s')
    (hf : ∀ a a', r = .ok a → Q a a' → Agree T W P (f a) (f' a') s s') :
    Agree T W P ((MonadExcept.ofExcept r : Action σ α) >>= f) ((MonadExcept.ofExcept r' : Action σ' α') >>= f') s s' := by
  cases h with
  | ok h => exact hf _ _ rfl h
  | error e => exact ⟨rfl, hs⟩

theorem tables_bind {f : Tables → Action σ β} {f' : Tables → Action σ' β'}
    (h : Agree T W P (f s.tables) (f' s'.tables) s s') :
    Agree T W P (Action.tables >>= f) (Action.tables >>= f') s s' := h

theorem change {f f' : Tables → Tables} (h : T (f s.tables) (f' s'.tables)) (hs : s.Alike T W s') :
    Agree T W Eq (Action.change f : Action σ Unit) (Action.change f' : Action σ' Unit) s s' :=
  ⟨rfl, h, hs.lastIssued, hs.log, hs.world⟩

theorem report (e : Log.Event) (hs : s.Alike T W s') :
    Agree T W Eq (Action.report e : Action σ Unit) (Action.report e : Action σ' Unit) s s' :=
  ⟨rfl, hs.tables, hs.lastIssued, congrArg (· ++ [e]) hs.log, hs.world⟩

theorem mapError (f : StoreError → StoreError) (h : Agree T W Q x x' s s') :
    Agree T W Q (Action.mapError f x) (Action.mapError f x') s s' := by
  rcases h.elim with ⟨a, t, a', t', hx, hx', hq, ht⟩ | ⟨e, t, t', hx, hx', ht⟩
  · exact of_ok (by rw [Action.mapError, hx]) (by rw [Action.mapError, hx']) hq ht
  · exact of_error (by rw [Action.mapError, hx]) (by rw [Action.mapError, hx']) ht

/-- **Transactions agree**: where both fail, both sets of tables go back to what they were. -/
theorem write (operation : String) (account : Option String) (h : Agree T W Q x x' s s') (hs : s.Alike T W s') :
    Agree T W Q (Action.write operation account x) (Action.write operation account x') s s' := by
  rcases h.elim with ⟨a, t, a', t', hx, hx', hq, ht⟩ | ⟨e, t, t', hx, hx', ht⟩
  · exact of_ok (by rw [Action.write_eq, hx]) (by rw [Action.write_eq, hx']) hq ht
  · have hwrite : Action.write operation account x s =
        .error (e.inOperation operation account) { t with tables := s.tables } := by rw [Action.write_eq, hx]
    have hwrite' : Action.write operation account x' s' =
        .error (e.inOperation operation account) { t' with tables := s'.tables } := by rw [Action.write_eq, hx']
    exact of_error hwrite hwrite' ⟨hs.tables, ht.lastIssued, ht.log, ht.world⟩

theorem read_map (operation : String) (account : Option String) (φ : α → α') {f : Tables → Reading α}
    {f' : Tables → Reading α'} (h : f' s'.tables = φ <$> f s.tables) (hs : s.Alike T W s') :
    Agree T W (fun a a' => a' = φ a) (Action.read operation account f) (Action.read operation account f') s s' := by
  have hread : f' s'.tables s'.log = EStateM.map φ (f s.tables) s.log := by
    rw [h, hs.log]
    rfl
  unfold Agree
  rw [Action.read_eq, Action.read_eq, hread]
  unfold EStateM.map
  cases f s.tables s.log with
  | ok a log => exact ⟨rfl, hs.tables, hs.lastIssued, rfl, hs.world⟩
  | error e log => exact ⟨rfl, hs.tables, hs.lastIssued, rfl, hs.world⟩

theorem read (operation : String) (account : Option String) {f f' : Tables → Reading α}
    (h : f' s'.tables = f s.tables) (hs : s.Alike T W s') :
    Agree T W Eq (Action.read operation account f) (Action.read operation account f') s s' :=
  (read_map operation account id (h.trans (id_map _).symm) hs).mono fun _ _ => Eq.symm

theorem read_ofExcept (operation : String) (account : Option String) {f : Tables → Except StoreError α}
    {f' : Tables → Except StoreError α'} (h : SameOutcome Q (f s.tables) (f' s'.tables)) (hs : s.Alike T W s') :
    Agree T W Q (Action.read operation account fun t => MonadExcept.ofExcept (f t))
      (Action.read operation account fun t => MonadExcept.ofExcept (f' t)) s s' := by
  unfold Agree
  rw [Action.read_eq, Action.read_eq]
  generalize f s.tables = r at h
  generalize f' s'.tables = r' at h
  cases h with
  | ok h => exact ⟨h, hs⟩
  | error e => exact ⟨rfl, hs⟩

end Agree

end Action

/-- **Two environments that a store cannot tell apart** but for the pseudonyms that they give and the salts that they
draw: a draw of the length of a salt may give other bytes. -/
structure Environment.Alike (W : σ → σ' → Prop) (env : Environment σ) (env' : Environment σ') : Prop where
  encrypt : env'.encrypt = env.encrypt
  decrypt : env'.decrypt = env.decrypt
  now : ∀ {w w'}, W w w' → (env'.now w').1 = (env.now w).1 ∧ W (env.now w).2 (env'.now w').2
  drawIdentifier : ∀ {w w'}, W w w' → (env'.drawIdentifier w').1 = (env.drawIdentifier w).1 ∧
    W (env.drawIdentifier w).2 (env'.drawIdentifier w').2
  draw : ∀ length, length ≠ Token.drawLength Token.saltLength → ∀ {w w'}, W w w' →
    (env'.draw length w').1 = (env.draw length w).1
  drawSalt : ∀ {w w'}, W w w' → (env'.draw (Token.drawLength Token.saltLength) w').1.isSome =
    (env.draw (Token.drawLength Token.saltLength) w).1.isSome
  turn : ∀ length {w w'}, W w w' → W (env.draw length w).2 (env'.draw length w').2

theorem Environment.Alike.refl (env : Environment σ) : env.Alike Eq env where
  encrypt := rfl
  decrypt := rfl
  now := by
    rintro w _ rfl
    exact ⟨rfl, rfl⟩
  drawIdentifier := by
    rintro w _ rfl
    exact ⟨rfl, rfl⟩
  draw := by
    rintro length - w _ rfl
    rfl
  drawSalt := by
    rintro w _ rfl
    rfl
  turn := by
    rintro length w _ rfl
    rfl

namespace Action.Agree

variable {T : Tables → Tables → Prop} {W : σ → σ' → Prop} {s : Session σ} {s' : Session σ'} {env : Environment σ}
  {env' : Environment σ'}

theorem draw_same (env : Environment σ) (length : Nat) {s s' : Session σ} (hs : s.Alike T Eq s') :
    Agree T Eq Eq (Action.draw env length) (Action.draw env length) s s' := by
  unfold Agree
  rw [draw_eq, draw_eq, ← hs.world]
  cases (env.draw length s.world).1 with
  | some bytes => exact ⟨rfl, hs.tables, hs.lastIssued, hs.log, rfl⟩
  | none => exact ⟨rfl, hs.tables, hs.lastIssued, hs.log, rfl⟩

theorem now (henv : env.Alike W env') (hs : s.Alike T W s') : Agree T W Eq (Action.now env) (Action.now env') s s' :=
  ⟨(henv.now hs.world).1.symm, hs.tables, hs.lastIssued, hs.log, (henv.now hs.world).2⟩

theorem drawIdentifier (henv : env.Alike W env') (hs : s.Alike T W s') :
    Agree T W (fun bytes bytes' => bytes = (env.drawIdentifier s.world).1 ∧ bytes' = bytes)
      (Action.drawIdentifier env) (Action.drawIdentifier env') s s' :=
  ⟨⟨rfl, (henv.drawIdentifier hs.world).1⟩, hs.tables, hs.lastIssued, hs.log, (henv.drawIdentifier hs.world).2⟩

theorem draw (henv : env.Alike W env') {length : Nat} (hlength : length ≠ Token.drawLength Token.saltLength)
    (hs : s.Alike T W s') : Agree T W Eq (Action.draw env length) (Action.draw env' length) s s' := by
  have hturn := henv.turn length hs.world
  unfold Agree
  rw [draw_eq, draw_eq, henv.draw length hlength hs.world]
  cases (env.draw length s.world).1 with
  | some bytes => exact ⟨rfl, hs.tables, hs.lastIssued, hs.log, hturn⟩
  | none => exact ⟨rfl, hs.tables, hs.lastIssued, hs.log, hturn⟩

theorem drawSalt (henv : env.Alike W env') (hs : s.Alike T W s') :
    Agree T W (fun _ _ => True) (Action.draw env (Token.drawLength Token.saltLength))
      (Action.draw env' (Token.drawLength Token.saltLength)) s s' := by
  have hturn := henv.turn (Token.drawLength Token.saltLength) hs.world
  have hsome := henv.drawSalt hs.world
  unfold Agree
  rw [draw_eq, draw_eq]
  revert hsome
  cases (env.draw (Token.drawLength Token.saltLength) s.world).1 <;>
    cases (env'.draw (Token.drawLength Token.saltLength) s'.world).1 <;> intro hsome
  · exact ⟨rfl, hs.tables, hs.lastIssued, hs.log, hturn⟩
  · cases hsome
  · cases hsome
  · exact ⟨trivial, hs.tables, hs.lastIssued, hs.log, hturn⟩

theorem nextEventId (henv : env.Alike W env') (hs : s.Alike T W s') :
    Agree T W Eq (Action.nextEventId env) (Action.nextEventId env') s s' := by
  have hissue (id : EventId) (t : Session σ) (t' : Session σ') (ht : t.Alike T W t') :
      Agree T W Eq (do modify fun s => { s with lastIssued := some id }; return id : Action σ EventId)
        (do modify fun s => { s with lastIssued := some id }; return id : Action σ' EventId) t t' :=
    ⟨rfl, ht.tables, rfl, ht.log, ht.world⟩
  unfold Action.nextEventId
  refine (now henv hs).bind ?_
  rintro time _ t t' rfl ht
  have hget : Agree T W (fun i i' => i'.lastIssued = i.lastIssued) (get : Action σ (Session σ))
      (get : Action σ' (Session σ')) t t' := ⟨ht.lastIssued, ht⟩
  refine hget.bind ?_
  intro i i' u u' hlast hu
  have hdraw : Agree T W Eq (Action.draw env EventId.drawLength) (Action.draw env' EventId.drawLength) u u' :=
    draw henv (by decide) hu
  have hfresh : Agree T W Eq (EventId.fresh time.millis <$> Action.draw env EventId.drawLength)
      (EventId.fresh time.millis <$> Action.draw env' EventId.drawLength) u u' :=
    map (hdraw.mono fun _ _ heq => congrArg _ heq)
  dsimp only
  rw [hlast]
  cases i.lastIssued with
  | none => exact hfresh.bind fun id _ v v' heq hv => heq ▸ hissue id v v' hv
  | some last =>
    dsimp only
    by_cases hle : time.millis ≤ last.millis
    · rw [if_pos hle, if_pos hle]
      cases last.successor? with
      | none => exact throw _ hu
      | some id => exact hissue id u u' hu
    · rw [if_neg hle, if_neg hle]
      exact hfresh.bind fun id _ v v' heq hv => heq ▸ hissue id v v' hv

end Action.Agree

end PseudonymStore
