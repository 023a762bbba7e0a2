/-
# Running actions

How a sequence of actions runs from one state: the first action is replaced by what it answers
and by the state it leaves.

* `Action.bind_ok`, `Action.bind_error` : one step of a sequence;
* `Action.within_ok`, `Action.within_error` : an action on a part of the state;
* `Action.succeeds`, `Action.fails` : tests of what an action leaves;
* `Action.Keeps` : what holds between the states before and after an action, however it ends;
* `Except.bind_eq_ok_iff` : how a sequence of computations has a result.
-/
import PagedTables.Action

namespace PagedTables

namespace Action

variable {ε ε' σ τ α β : Type}

/-! ## Sequences -/

/-- After an action that succeeds, the rest runs from the state it left. -/
theorem bind_ok {act : Action ε σ α} {rest : α → Action ε σ β} {s t : σ} {a : α}
    (h : act s = .ok a t) : (act >>= rest) s = rest a t := by
  show EStateM.bind act rest s = _
  rw [EStateM.bind, h]

/-- After an action that fails, the rest does not run. -/
theorem bind_error {act : Action ε σ α} {rest : α → Action ε σ β} {s t : σ} {e : ε}
    (h : act s = .error e t) : (act >>= rest) s = .error e t := by
  show EStateM.bind act rest s = _
  rw [EStateM.bind, h]

theorem map_ok {act : Action ε σ α} {s t : σ} {a : α} (f : α → β) (h : act s = .ok a t) :
    (f <$> act) s = .ok (f a) t := by
  show EStateM.map f act s = _
  rw [EStateM.map, h]

theorem map_error {act : Action ε σ α} {s t : σ} {e : ε} (f : α → β)
    (h : act s = .error e t) : (f <$> act) s = .error e t := by
  show EStateM.map f act s = _
  rw [EStateM.map, h]

/-- Behind an answer that was turned into something else is one of the action itself. -/
theorem exists_of_map_ok {act : Action ε σ α} {s t : σ} {f : α → β} {b : β}
    (h : (f <$> act) s = .ok b t) : ∃ a, act s = .ok a t ∧ f a = b := by
  cases hact : act s with
  | ok a u =>
    rw [map_ok f hact] at h
    injection h with hb hu
    subst hb hu
    exact ⟨a, rfl, rfl⟩
  | error e u =>
    rw [map_error f hact] at h
    cases h

/-- The rest does not see how the first action got where it ended. -/
theorem bind_of_run_eq {act act' : Action ε σ α} {rest : α → Action ε σ β} {s t : σ}
    (h : act s = act' t) : (act >>= rest) s = (act' >>= rest) t := by
  show EStateM.bind act rest s = EStateM.bind act' rest t
  rw [EStateM.bind, EStateM.bind, h]

/-- A sequence that succeeds has succeeded in both parts. -/
theorem exists_of_bind_ok {act : Action ε σ α} {rest : α → Action ε σ β} {s t : σ} {b : β}
    (h : (act >>= rest) s = .ok b t) : ∃ a u, act s = .ok a u ∧ rest a u = .ok b t := by
  cases hact : act s with
  | ok a u =>
    rw [bind_ok hact] at h
    exact ⟨a, u, rfl, h⟩
  | error e u =>
    rw [bind_error hact] at h
    cases h

/-- A sequence that fails has failed in one of its parts. -/
theorem cases_of_bind_error {act : Action ε σ α} {rest : α → Action ε σ β} {s t : σ} {e : ε}
    (h : (act >>= rest) s = .error e t) :
    act s = .error e t ∨ ∃ a u, act s = .ok a u ∧ rest a u = .error e t := by
  cases hact : act s with
  | ok a u =>
    rw [bind_ok hact] at h
    exact Or.inr ⟨a, u, rfl, h⟩
  | error e' u =>
    rw [bind_error hact] at h
    injection h with he hu
    rw [he, hu]
    exact Or.inl rfl

theorem get_bind (rest : σ → Action ε σ β) (s : σ) : (get >>= rest) s = rest s s := rfl

theorem modify_bind (f : σ → σ) (rest : PUnit → Action ε σ β) (s : σ) :
    (modify f >>= rest) s = rest ⟨⟩ (f s) := rfl

@[simp] theorem modify_run (f : σ → σ) (s : σ) :
    (modify f : Action ε σ PUnit) s = .ok ⟨⟩ (f s) := rfl

theorem ofExcept_bind_ok (a : α) (rest : α → Action ε σ β) (s : σ) :
    (ofExcept (.ok a) >>= rest) s = rest a s := rfl

theorem ofExcept_bind_error (e : ε) (rest : α → Action ε σ β) (s : σ) :
    (ofExcept (.error e) >>= rest) s = .error e s := rfl

/-- A computation that has its result goes on with the rest. -/
theorem except_ok_bind (a : α) (rest : α → Except ε β) : (Except.ok a >>= rest) = rest a := rfl

/-! ## Parts of a state -/

section Parts

variable {part : σ → τ} {put : σ → τ → σ} {wrap : ε → ε'} {act : Action ε τ α}

/-- An action on a part of the state leaves the rest. -/
theorem within_ok {s : σ} {t : τ} {a : α} (h : act (part s) = .ok a t) :
    within part put wrap act s = .ok a (put s t) := by
  rw [within, h]

/-- An action on a part that fails leaves the rest, and its error is wrapped. -/
theorem within_error {s : σ} {t : τ} {e : ε} (h : act (part s) = .error e t) :
    within part put wrap act s = .error (wrap e) (put s t) := by
  rw [within, h]

theorem exists_of_within_ok {s u : σ} {a : α} (h : within part put wrap act s = .ok a u) :
    ∃ t, act (part s) = .ok a t ∧ u = put s t := by
  rw [within] at h
  split at h
  · next hact =>
    injection h with ha hu
    subst ha hu
    exact ⟨_, hact, rfl⟩
  · cases h

end Parts

/-! ## Outcomes -/

theorem attempt_ok {act : Action ε σ α} {s t : σ} {a : α} (h : act s = .ok a t) :
    (attempt act : Action ε' σ (Except ε α)) s = .ok (.ok a) t := by
  rw [attempt, h]

/-- An attempt never fails: it answers the error. -/
theorem attempt_error {act : Action ε σ α} {s t : σ} {e : ε} (h : act s = .error e t) :
    (attempt act : Action ε' σ (Except ε α)) s = .ok (.error e) t := by
  rw [attempt, h]

theorem outcome_of_ok {act : Action ε σ α} {s t : σ} {a : α} (h : act s = .ok a t) :
    act.outcome s = (.ok a, t) := by
  rw [outcome, h]

theorem outcome_of_error {act : Action ε σ α} {s t : σ} {e : ε} (h : act s = .error e t) :
    act.outcome s = (.error e, t) := by
  rw [outcome, h]

theorem ok_of_outcome {act : Action ε σ α} {s : σ} {a : α} (h : (act.outcome s).1 = .ok a) :
    act s = .ok a (act.outcome s).2 := by
  unfold outcome at h ⊢
  cases hrun : act s with
  | ok b t =>
    rw [hrun] at h
    rw [Except.ok.inj h]
  | error e t =>
    rw [hrun] at h
    cases h

/-- The action succeeds, and the state that it leaves passes a test. -/
def succeeds (act : Action ε σ α) (s : σ) (test : σ → Bool) : Bool :=
  match act s with
  | .ok _ t => test t
  | .error _ _ => false

/-- The action fails, and the state that it leaves passes a test. -/
def fails (act : Action ε σ α) (s : σ) (test : σ → Bool) : Bool :=
  match act s with
  | .ok _ _ => false
  | .error _ t => test t

/-- A test of a state that was passed is one of the state that the action leads to. -/
theorem exists_of_succeeds {act : Action ε σ α} {s : σ} {test : σ → Bool}
    (h : act.succeeds s test = true) : ∃ a t, act s = .ok a t ∧ test t = true := by
  unfold succeeds at h
  split at h
  · next a t hrun => exact ⟨a, t, hrun, h⟩
  · cases h

theorem exists_of_fails {act : Action ε σ α} {s : σ} {test : σ → Bool}
    (h : act.fails s test = true) : ∃ e t, act s = .error e t ∧ test t = true := by
  unfold fails at h
  split at h
  · cases h
  · next e t hrun => exact ⟨e, t, hrun, h⟩

/-! ## What an action keeps -/

/-- However the action ends, the state before is related to the one that it leaves. -/
def Keeps (R : σ → σ → Prop) (act : Action ε σ α) (s : σ) : Prop :=
  R s (act.outcome s).2

namespace Keeps

variable {R : σ → σ → Prop} {act : Action ε σ α} {rest : α → Action ε σ β} {s t : σ} {a : α}
variable {e : ε}

theorem ok (h : Keeps R act s) (hrun : act s = .ok a t) : R s t := by
  rwa [Keeps, outcome, hrun] at h

theorem error (h : Keeps R act s) (hrun : act s = .error e t) : R s t := by
  rwa [Keeps, outcome, hrun] at h

theorem of_ok (hrun : act s = .ok a t) (h : R s t) : Keeps R act s := by
  rwa [Keeps, outcome, hrun]

theorem of_error (hrun : act s = .error e t) (h : R s t) : Keeps R act s := by
  rwa [Keeps, outcome, hrun]

theorem mono {T : σ → σ → Prop} (h : Keeps R act s) (hRT : ∀ t, R s t → T s t) :
    Keeps T act s :=
  hRT _ h

/-- A sequence keeps what all of its parts keep. -/
theorem bind [Trans R R R] (h : Keeps R act s)
    (hrest : ∀ a t, act s = .ok a t → Keeps R (rest a) t) : Keeps R (act >>= rest) s := by
  unfold Keeps outcome
  cases hrun : act s with
  | ok a t =>
    rw [bind_ok hrun]
    exact Trans.trans (h.ok hrun) (hrest a t hrun)
  | error e t =>
    rw [bind_error hrun]
    exact h.error hrun

theorem read {rest : σ → Action ε σ β} (h : Keeps R (rest s) s) : Keeps R (get >>= rest) s := h

theorem change {f : σ → σ} (h : R s (f s)) : Keeps R (modify f : Action ε σ PUnit) s := h

theorem answer [Std.Refl R] (a : α) : Keeps R (pure a : Action ε σ α) s :=
  Std.Refl.refl s

theorem fail [Std.Refl R] (e : ε) : Keeps R (throw e : Action ε σ α) s :=
  Std.Refl.refl s

theorem ofExcept [Std.Refl R] (r : Except ε α) : Keeps R (Action.ofExcept r) s := by
  cases r with
  | ok a => exact .answer a
  | error e => exact .fail e

/-- What is answered may be put in other words. -/
theorem map (h : Keeps R act s) (f : α → β) : Keeps R (f <$> act) s := by
  unfold Keeps outcome
  cases hrun : act s with
  | ok a t =>
    rw [map_ok f hrun]
    exact h.ok hrun
  | error e t =>
    rw [map_error f hrun]
    exact h.error hrun

/-- How the action ends does not matter if it is only tried. -/
theorem attempt (h : Keeps R act s) : Keeps R (Action.attempt act : Action ε σ (Except ε α)) s := by
  unfold Keeps outcome
  cases hrun : act s with
  | ok a t =>
    rw [attempt_ok hrun]
    exact h.ok hrun
  | error e t =>
    rw [attempt_error hrun]
    exact h.error hrun

/-- An action on a part of the state keeps what follows from what it keeps of the part. -/
theorem part {T : τ → τ → Prop} {part : σ → τ} {put : σ → τ → σ} {wrap : ε → ε'}
    {act : Action ε τ α} (h : Keeps T act (part s)) (hput : ∀ t, T (part s) t → R s (put s t)) :
    Keeps R (within part put wrap act) s := by
  unfold Keeps outcome within
  cases hrun : act (part s) with
  | ok a t => exact hput t (h.ok hrun)
  | error e t => exact hput t (h.error hrun)

end Keeps

end Action

/-! ## Computations -/

namespace Except

variable {ε α β : Type}

theorem map_eq_ok_iff {f : α → β} {r : Except ε α} {b : β} :
    r.map f = .ok b ↔ ∃ a, r = .ok a ∧ f a = b := by
  cases r with
  | error e => simp [Except.map]
  | ok a => simp [Except.map]

/-- A sequence of computations has a result if both parts have one. -/
theorem bind_eq_ok_iff {f : α → Except ε β} {r : Except ε α} {b : β} :
    (r >>= f) = .ok b ↔ ∃ a, r = .ok a ∧ f a = .ok b := by
  cases r with
  | error e => simp [bind, Except.bind]
  | ok a => simp [bind, Except.bind]

theorem map_eq_error_iff {f : α → β} {r : Except ε α} {e : ε} :
    r.map f = .error e ↔ r = .error e := by
  cases r with
  | error e' => simp [Except.map]
  | ok a => simp [Except.map]

/-- A sequence of computations fails where one of its parts does. -/
theorem bind_eq_error_iff {f : α → Except ε β} {r : Except ε α} {e : ε} :
    (r >>= f) = .error e ↔ r = .error e ∨ ∃ a, r = .ok a ∧ f a = .error e := by
  cases r with
  | error e' => simp [bind, Except.bind]
  | ok a => simp [bind, Except.bind]

/-- Computations over a list fail with the error of one of them. -/
theorem exists_error_of_mapM {f : α → Except ε β} {l : List α} {e : ε}
    (h : l.mapM f = .error e) : ∃ a ∈ l, f a = .error e := by
  induction l with
  | nil => cases h
  | cons a l ih =>
    rw [List.mapM_cons, bind_eq_error_iff] at h
    rcases h with h | ⟨b, -, h⟩
    · exact ⟨a, List.mem_cons_self, h⟩
    · rcases bind_eq_error_iff.mp h with h | ⟨bs, -, h⟩
      · obtain ⟨c, hc, hce⟩ := ih h
        exact ⟨c, List.mem_cons_of_mem _ hc, hce⟩
      · cases h

/-- A computation that may refuse at once has a result if it does not refuse. -/
theorem guard_eq_ok_iff {c : Prop} [Decidable c] {e : ε} {after : α → Except ε β}
    {rest : Except ε β} {b : β} :
    (if c then throw e >>= after else rest) = .ok b ↔ ¬c ∧ rest = .ok b := by
  by_cases h : c
  · simp [h, throw, throwThe, MonadExceptOf.throw, bind, Except.bind]
  · simp [h]

/-- A computation that may refuse at once fails if it refuses, or where the rest does. -/
theorem guard_eq_error_iff {c : Prop} [Decidable c] {e e' : ε} {after : α → Except ε β}
    {rest : Except ε β} :
    (if c then throw e >>= after else rest) = .error e' ↔ c ∧ e = e' ∨ ¬c ∧ rest = .error e' := by
  by_cases h : c
  · simp [h, throw, throwThe, MonadExceptOf.throw, bind, Except.bind]
  · simp [h]

/-- The computation has a result that passes a test. -/
def succeeds (r : Except ε α) (test : α → Bool) : Bool :=
  match r with
  | .ok a => test a
  | .error _ => false

theorem exists_of_succeeds {r : Except ε α} {test : α → Bool} (h : succeeds r test = true) :
    ∃ a, r = .ok a ∧ test a = true := by
  cases r with
  | error e => cases h
  | ok a => exact ⟨a, rfl, h⟩

theorem exists_of_not_succeeds {r : Except ε α} (h : (!succeeds r fun _ => true) = true) :
    ∃ e, r = .error e := by
  cases r with
  | error e => exact ⟨e, rfl⟩
  | ok a => cases h

/-- The computation fails with an error that passes a test. -/
def fails (r : Except ε α) (test : ε → Bool) : Bool :=
  match r with
  | .ok _ => false
  | .error e => test e

theorem exists_of_fails {r : Except ε α} {test : ε → Bool} (h : fails r test = true) :
    ∃ e, r = .error e ∧ test e = true := by
  cases r with
  | error e => exact ⟨e, rfl, h⟩
  | ok a => cases h

/-- A computation fails where it has no result. -/
theorem exists_error_iff {r : Except ε α} : (∃ e, r = .error e) ↔ ∀ a, r ≠ .ok a := by
  cases r with
  | error e => simp
  | ok a => simp

end Except

end PagedTables
