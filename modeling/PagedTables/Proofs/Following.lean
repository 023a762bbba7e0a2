/-
# Actions that follow others

Two actions on different states may do the same: they give the same answers, and what they leave
is related again. This is built up along a sequence, from what is known of its parts. It may only
hold up to some bound on the second state; an action that ends within the bound has then also
started within it.

* `Action.Alike` : ends of two actions that do the same;
* `Action.Follows` : actions that do the same from all related states;
* `Action.Follows.bind` : sequences.
-/
import PagedTables.Proofs.Action

namespace PagedTables

namespace Action

variable {ε ε' σ σ' τ τ' α β : Type}

/-- Both actions end the same way, in related states. -/
inductive Alike (R : σ → σ' → Prop) : EStateM.Result ε σ α → EStateM.Result ε σ' α → Prop
  /-- Both answer the same. -/
  | ok {a : α} {s : σ} {s' : σ'} (h : R s s') : Alike R (.ok a s) (.ok a s')
  /-- Both fail with the same error. -/
  | error {e : ε} {s : σ} {s' : σ'} (h : R s s') : Alike R (.error e s) (.error e s')

/-- Actions that end alike have the same outcome, in related states. -/
theorem Alike.outcome {R : σ → σ' → Prop} {act : Action ε σ α} {act' : Action ε σ' α} {s : σ}
    {s' : σ'} (h : Alike R (act s) (act' s')) :
    (act.outcome s).1 = (act'.outcome s').1 ∧ R (act.outcome s).2 (act'.outcome s').2 := by
  unfold Action.outcome
  generalize act s = r at h
  generalize act' s' = r' at h
  cases h with
  | ok h => exact ⟨rfl, h⟩
  | error h => exact ⟨rfl, h⟩

/-- In two states: if the second action ends within the bound `Ok`, it has started within it, and
if the states are related by `P`, both actions end alike in states that are related by `Q`. -/
def FollowsAt (Ok : σ' → Prop) (P Q : σ → σ' → Prop) (act : Action ε σ α)
    (act' : Action ε σ' α) (s : σ) (s' : σ') : Prop :=
  Ok (act'.outcome s').2 → Ok s' ∧ (P s s' → Alike Q (act s) (act' s'))

/-- The same in all states. -/
def Follows (Ok : σ' → Prop) (P Q : σ → σ' → Prop) (act : Action ε σ α)
    (act' : Action ε σ' α) : Prop :=
  ∀ s s', FollowsAt Ok P Q act act' s s'

variable {Ok : σ' → Prop} {P Q : σ → σ' → Prop} {act : Action ε σ α} {act' : Action ε σ' α}
variable {rest : α → Action ε σ β} {rest' : α → Action ε σ' β} {s : σ} {s' : σ'}

/-! ## Single steps -/

theorem FollowsAt.of_ok {a : α} {t : σ} {t' : σ'} (hrun : act s = .ok a t)
    (hrun' : act' s' = .ok a t') (hok : Ok t' → Ok s') (h : P s s' → Q t t') :
    FollowsAt Ok P Q act act' s s' := by
  intro ht'
  rw [outcome, hrun'] at ht'
  rw [hrun, hrun']
  exact ⟨hok ht', fun hP => .ok (h hP)⟩

theorem FollowsAt.of_error {e : ε} {t : σ} {t' : σ'} (hrun : act s = .error e t)
    (hrun' : act' s' = .error e t') (hok : Ok t' → Ok s') (h : P s s' → Q t t') :
    FollowsAt Ok P Q act act' s s' := by
  intro ht'
  rw [outcome, hrun'] at ht'
  rw [hrun, hrun']
  exact ⟨hok ht', fun hP => .error (h hP)⟩

theorem Follows.answer (a : α) : Follows Ok P P (pure a : Action ε σ α) (pure a) :=
  fun _ _ => .of_ok rfl rfl id id

theorem Follows.fail (e : ε) : Follows Ok P P (throw e : Action ε σ α) (throw e) :=
  fun _ _ => .of_error rfl rfl id id

theorem Follows.ofExcept (r : Except ε α) :
    Follows Ok P P (Action.ofExcept r : Action ε σ α) (Action.ofExcept r) := by
  cases r with
  | ok a => exact .answer a
  | error e => exact .fail e

theorem Follows.change {f : σ → σ} {f' : σ' → σ'} (hok : ∀ s', Ok (f' s') → Ok s')
    (h : ∀ s s', P s s' → Q (f s) (f' s')) :
    Follows Ok P Q (modify f : Action ε σ PUnit) (modify f') :=
  fun s s' => .of_ok rfl rfl (hok s') (h s s')

/-- What is known before may be more than is needed. -/
theorem Follows.weaken {P' : σ → σ' → Prop} (h : Follows Ok P Q act act')
    (hP : ∀ {s s'}, P' s s' → P s s') : Follows Ok P' Q act act' := by
  intro s s' hok
  obtain ⟨hs', hact⟩ := h s s' hok
  exact ⟨hs', fun hP' => hact (hP hP')⟩

/-- An action follows itself. -/
theorem follows_self (act : Action ε σ α) : Follows (fun _ => True) Eq Eq act act := by
  rintro s s' -
  refine ⟨trivial, ?_⟩
  rintro rfl
  cases act s with
  | ok a t => exact .ok rfl
  | error e t => exact .error rfl

/-! ## Composed actions -/

/-- **Sequences** follow each other if their parts do. -/
theorem FollowsAt.bind (h : FollowsAt Ok P Q act act' s s')
    (hrest : ∀ a, Follows Ok Q Q (rest a) (rest' a)) :
    FollowsAt Ok P Q (act >>= rest) (act' >>= rest') s s' := by
  unfold FollowsAt Action.outcome at h ⊢
  cases hrun' : act' s' with
  | ok a t' =>
    rw [hrun'] at h
    rw [bind_ok hrun']
    intro hok
    -- the rest has started within the bound, whatever the other state is
    obtain ⟨ht', -⟩ := hrest a s t' hok
    obtain ⟨hs', hact⟩ := h ht'
    refine ⟨hs', fun hP => ?_⟩
    generalize hrun : act s = r at hact
    cases hact hP with
    | @ok a t _ hQ =>
      rw [bind_ok hrun]
      exact (hrest a t t' hok).2 hQ
  | error e t' =>
    rw [hrun'] at h
    rw [bind_error hrun']
    intro hok
    obtain ⟨hs', hact⟩ := h hok
    refine ⟨hs', fun hP => ?_⟩
    generalize hrun : act s = r at hact
    cases hact hP with
    | @error e t _ hQ =>
      rw [bind_error hrun]
      exact .error hQ

theorem Follows.bind (h : Follows Ok P Q act act')
    (hrest : ∀ a, Follows Ok Q Q (rest a) (rest' a)) :
    Follows Ok P Q (act >>= rest) (act' >>= rest') :=
  fun s s' => (h s s').bind hrest

theorem Follows.map (h : Follows Ok P Q act act') (f : α → β) :
    Follows Ok P Q (f <$> act) (f <$> act') := by
  rw [map_eq_pure_bind, map_eq_pure_bind]
  exact h.bind fun a => .answer (f a)

/-- A part of the state is read that is the same in related states. -/
theorem Follows.read {γ : Type} {f : σ → γ} {g : σ' → γ} {k : γ → Action ε σ β}
    {l : γ → Action ε σ' β} (hpart : ∀ {s s'}, P s s' → f s = g s')
    (h : ∀ x, Follows Ok P Q (k x) (l x)) :
    Follows Ok P Q (get >>= fun s => k (f s)) (get >>= fun s' => l (g s')) := by
  intro s s' hok
  obtain ⟨hs', hact⟩ := h (g s') s s' hok
  refine ⟨hs', fun hP => ?_⟩
  show Alike Q (k (f s) s) (l (g s') s')
  rw [hpart hP]
  exact hact hP

/-- Both actions may refuse at once. -/
theorem Follows.guard {c : Prop} [Decidable c] {e : ε} {refusal : PUnit → Action ε σ α}
    {refusal' : PUnit → Action ε σ' α} (h : Follows Ok P P act act') :
    Follows Ok P P (if c then throw e >>= refusal else act)
      (if c then throw e >>= refusal' else act') := by
  split
  · exact fun _ _ => .of_error (bind_error rfl) (bind_error rfl) id id
  · exact h

/-- An action that is only tried answers how it has ended. -/
theorem Follows.attempt (h : Follows Ok P Q act act') :
    Follows Ok P Q (Action.attempt act : Action ε σ (Except ε α)) (Action.attempt act') := by
  intro s s'
  have hact := h s s'
  unfold FollowsAt Action.outcome Action.attempt at *
  cases hrun' : act' s' with
  | ok a t' =>
    rw [hrun'] at hact
    intro hok
    obtain ⟨hs', hact⟩ := hact hok
    refine ⟨hs', fun hP => ?_⟩
    generalize act s = r at hact
    cases hact hP with
    | ok hQ => exact .ok hQ
  | error e t' =>
    rw [hrun'] at hact
    intro hok
    obtain ⟨hs', hact⟩ := hact hok
    refine ⟨hs', fun hP => ?_⟩
    generalize act s = r at hact
    cases hact hP with
    | error hQ => exact .ok hQ

/-- Actions on parts of the states. -/
theorem Follows.part {T U : τ → τ' → Prop} {bound : τ' → Prop} {part : σ → τ} {put : σ → τ → σ}
    {part' : σ' → τ'} {put' : σ' → τ' → σ'} {wrap : ε' → ε} {act : Action ε' τ α}
    {act' : Action ε' τ' α} (h : Follows bound T U act act')
    (hpart : ∀ {s s'}, P s s' → T (part s) (part' s'))
    (hput : ∀ {s s' t t'}, P s s' → U t t' → Q (put s t) (put' s' t'))
    (hpart' : ∀ s' t', part' (put' s' t') = t') :
    Follows (fun s' => bound (part' s')) P Q (within part put wrap act)
      (within part' put' wrap act') := by
  intro s s'
  have hact := h (part s) (part' s')
  unfold FollowsAt Action.outcome Action.within at *
  cases hrun' : act' (part' s') with
  | ok a t' =>
    rw [hrun'] at hact
    intro hok
    rw [hpart'] at hok
    obtain ⟨hs', hact⟩ := hact hok
    refine ⟨hs', fun hP => ?_⟩
    generalize act (part s) = r at hact
    cases hact (hpart hP) with
    | ok hU => exact .ok (hput hP hU)
  | error e t' =>
    rw [hrun'] at hact
    intro hok
    rw [hpart'] at hok
    obtain ⟨hs', hact⟩ := hact hok
    refine ⟨hs', fun hP => ?_⟩
    generalize act (part s) = r at hact
    cases hact (hpart hP) with
    | error hU => exact .error (hput hP hU)

end Action

end PagedTables
