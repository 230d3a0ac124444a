/-!
# Actions

An action works on a state and gives a value or fails with a cause. What it did to the state
before it failed is kept.
-/

namespace ContainerCert

/-- An action on states `σ` that gives an `α` or fails with an `ε`. -/
abbrev Action (σ ε α : Type) := ExceptT ε (StateM σ) α

namespace Action

variable {σ τ ε δ α : Type}

/-- The action of a step that may fail and does nothing to the state. -/
def ofExcept (result : Except ε α) : Action σ ε α :=
  fun state => (result, state)

/-- The action of a step that never fails. -/
def ofState (step : σ → α × σ) : Action σ ε α :=
  fun state => let (value, state) := step state; (.ok value, state)

/-- The same action, its failures told in other words. -/
def mapError (tell : ε → δ) (action : Action σ ε α) : Action σ δ α :=
  fun state => let (result, state) := action state; (result.mapError tell, state)

/-- An action on a part of a larger state. -/
def within (part : τ → σ) (replace : σ → τ → τ) (action : Action σ ε α) : Action τ ε α :=
  fun state => let (result, inner) := action (part state); (result, replace inner state)

/-- What an action gives when it is run, without the state it leaves. -/
def result (action : Action σ ε α) (state : σ) : Except ε α :=
  (action state).1

/-- The state that an action leaves. -/
def after (action : Action σ ε α) (state : σ) : σ :=
  (action state).2

end Action
end ContainerCert
