/-
# Actions

Operations on a state that may fail. A failing action keeps the state that it had reached, so
that what a failure leaves behind is part of its meaning.

* `Action.within` : runs an action on a part of a larger state;
* `Action.attempt` : turns the outcome of an action into a value.
-/

namespace PagedTables

/-- An operation on states `σ` that answers `α` or fails with `ε`. -/
abbrev Action (ε σ α : Type) := EStateM ε σ α

namespace Action

variable {ε ε' σ τ α : Type}

/-- Runs an action on a part of the state; `wrap` says how the whole reports a failure of the
part. -/
def within (part : σ → τ) (put : σ → τ → σ) (wrap : ε → ε') (act : Action ε τ α) :
    Action ε' σ α := fun s =>
  match act (part s) with
  | .ok a t => .ok a (put s t)
  | .error e t => .error (wrap e) (put s t)

/-- Runs an action that cannot fail itself, and answers how it ended. -/
def attempt (act : Action ε σ α) : Action ε' σ (Except ε α) := fun s =>
  match act s with
  | .ok a t => .ok (.ok a) t
  | .error e t => .ok (.error e) t

/-- The outcome of an action from a state, and the state it leaves. -/
def outcome (act : Action ε σ α) (s : σ) : Except ε α × σ :=
  match act s with
  | .ok a t => (.ok a, t)
  | .error e t => (.error e, t)

/-- Fails with the error of a computation, or answers its result. -/
def ofExcept (r : Except ε α) : Action ε σ α :=
  match r with
  | .ok a => pure a
  | .error e => throw e

end Action

end PagedTables
