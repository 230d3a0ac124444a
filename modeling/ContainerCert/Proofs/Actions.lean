import ContainerCert.Action

/-!
# Running actions

What an action does to a state, step by step. A sequence of actions goes through or stops at the
first that fails; the cause is that one's, and what the earlier ones did is kept. An action whose
state is paired with a record of what was asked is told apart from the record it leaves.
-/

namespace ContainerCert.Action

variable {σ τ ε δ α β κ : Type}

/-- Two ways to end are the same when their results and the states they leave are. -/
@[simp] theorem ending_inj {result result' : Except ε α} {state state' : σ} :
    @Eq (Id (Except ε α × σ)) (result, state) (result', state') ↔
      result = result' ∧ state = state' :=
  Prod.ext_iff

theorem apply_of_result {action : Action σ ε α} {state : σ} {result : Except ε α}
    (h : action.result state = result) : action state = (result, action.after state) :=
  Prod.ext h rfl

@[simp] theorem pure_apply (a : α) (state : σ) :
    (pure a : Action σ ε α) state = (.ok a, state) := rfl

@[simp] theorem throw_apply (cause : ε) (state : σ) :
    (throw cause : Action σ ε α) state = (.error cause, state) := rfl

@[simp] theorem get_apply (state : σ) : (get : Action σ ε σ) state = (.ok state, state) := rfl

@[simp] theorem set_apply (after state : σ) :
    (set after : Action σ ε PUnit) state = (.ok ⟨⟩, after) := rfl

@[simp] theorem ofExcept_apply (result : Except ε α) (state : σ) :
    ofExcept result state = (result, state) := rfl

/-- Two steps succeed together exactly when the second does with what the first gives. -/
theorem step_bind_eq_ok {result : Except ε α} {next : α → Except ε β} {b : β} :
    result >>= next = .ok b ↔ ∃ a, result = .ok a ∧ next a = .ok b := by
  cases result <;> simp [bind, Except.bind]

/-- Two steps fail together with the cause of the one that fails. -/
theorem step_bind_eq_error {result : Except ε α} {next : α → Except ε β} {cause : ε} :
    result >>= next = .error cause ↔
      result = .error cause ∨ ∃ a, result = .ok a ∧ next a = .error cause := by
  cases result <;> simp [bind, Except.bind]

@[simp] theorem mapError_ok (tell : ε → δ) (a : α) :
    (Except.ok a).mapError tell = .ok a := rfl

@[simp] theorem mapError_error (tell : ε → δ) (cause : ε) :
    (Except.error cause : Except ε α).mapError tell = .error (tell cause) := rfl

/-- Telling a failure in other words leaves a success as it is. -/
theorem mapError_eq_ok {result : Except ε α} {tell : ε → δ} {a : α} :
    result.mapError tell = .ok a ↔ result = .ok a := by
  cases result with
  | error told => constructor <;> intro h <;> cases h
  | ok value =>
    constructor
    · intro h
      cases h
      rfl
    · intro h
      cases h
      rfl

/-- A failure that is told in other words is a failure, told so. -/
theorem mapError_eq_error {result : Except ε α} {tell : ε → δ} {cause : δ} :
    result.mapError tell = .error cause ↔ ∃ told, result = .error told ∧ cause = tell told := by
  cases result with
  | error told =>
    constructor
    · intro h
      exact ⟨told, rfl, (Except.error.inj h).symm⟩
    · rintro ⟨_, hsame, rfl⟩
      cases hsame
      rfl
  | ok value =>
    constructor
    · intro h
      cases h
    · rintro ⟨_, hsame, -⟩
      cases hsame

/-- A step that never fails, where an action is expected. -/
@[simp] theorem lift_apply (step : StateM σ α) (state : σ) :
    (liftM step : Action σ ε α) state = (.ok (step state).1, (step state).2) := rfl

@[simp] theorem mapError_apply (tell : ε → δ) (action : Action σ ε α) (state : σ) :
    action.mapError tell state = ((action state).1.mapError tell, (action state).2) := rfl

@[simp] theorem within_apply (part : τ → σ) (replace : σ → τ → τ) (action : Action σ ε α)
    (state : τ) :
    action.within part replace state =
      ((action (part state)).1, replace (action (part state)).2 state) := rfl

/-- The second action starts where the first went through, and is left out where it failed. -/
theorem bind_apply (action : Action σ ε α) (next : α → Action σ ε β) (state : σ) :
    (action >>= next) state = match action state with
      | (.ok a, after) => next a after
      | (.error cause, after) => (.error cause, after) := by
  change (ExceptT.bind action next : Action σ ε β) state = _
  simp only [ExceptT.bind, ExceptT.mk, bind, StateT.bind, ExceptT.bindCont]
  rcases action state with ⟨_ | _, _⟩ <;> rfl

theorem bind_of_ok {action : Action σ ε α} {state after : σ} {a : α}
    (h : action state = (.ok a, after)) (next : α → Action σ ε β) :
    (action >>= next) state = next a after := by
  rw [bind_apply, h]

theorem bind_of_error {action : Action σ ε α} {state after : σ} {cause : ε}
    (h : action state = (.error cause, after)) (next : α → Action σ ε β) :
    (action >>= next) state = (.error cause, after) := by
  rw [bind_apply, h]

/-- Two actions go through together exactly when each does where the one before leaves it. -/
theorem bind_eq_ok {action : Action σ ε α} {next : α → Action σ ε β} {state after : σ} {b : β} :
    (action >>= next) state = (.ok b, after) ↔
      ∃ a between, action state = (.ok a, between) ∧ next a between = (.ok b, after) := by
  rw [bind_apply]
  rcases h : action state with ⟨cause | a, between⟩
  · simp
  · constructor
    · intro hnext
      exact ⟨a, between, rfl, hnext⟩
    · rintro ⟨a', between', heq, hnext⟩
      cases heq
      exact hnext

/-- Two actions fail together with the cause of the one that fails. -/
theorem bind_eq_error {action : Action σ ε α} {next : α → Action σ ε β} {state after : σ}
    {cause : ε} :
    (action >>= next) state = (.error cause, after) ↔
      action state = (.error cause, after) ∨
        ∃ a between, action state = (.ok a, between) ∧ next a between = (.error cause, after) := by
  rw [bind_apply]
  rcases h : action state with ⟨told | a, between⟩
  · simp
  · constructor
    · intro hnext
      exact .inr ⟨a, between, rfl, hnext⟩
    · rintro (hfails | ⟨a', between', heq, hnext⟩)
      · cases hfails
      · cases heq
        exact hnext

theorem forM_cons (run : κ → Action σ ε Unit) (step : κ) (steps : List κ) :
    (step :: steps).forM run = run step >>= fun _ => steps.forM run := rfl

theorem forM_append (run : κ → Action σ ε Unit) (first second : List κ) :
    (first ++ second).forM run = first.forM run >>= fun _ => second.forM run := by
  induction first with
  | nil => rfl
  | cons step first ih => rw [List.cons_append, forM_cons, ih, forM_cons, bind_assoc]

/-- Two sequences go through together exactly when each does. -/
theorem forM_append_eq_ok {run : κ → Action σ ε Unit} {first second : List κ} {state after : σ} :
    (first ++ second).forM run state = (.ok (), after) ↔
      ∃ between, first.forM run state = (.ok (), between) ∧
        second.forM run between = (.ok (), after) := by
  rw [forM_append, bind_eq_ok]
  constructor
  · rintro ⟨⟨⟩, between, hfirst, hsecond⟩
    exact ⟨between, hfirst, hsecond⟩
  · rintro ⟨between, hfirst, hsecond⟩
    exact ⟨(), between, hfirst, hsecond⟩

/-- Where the first steps go through and the next one fails, the whole sequence fails there. -/
theorem forM_append_cons_of_error {run : κ → Action σ ε Unit} {done : List κ} {step : κ}
    {state between after : σ} {cause : ε} (hdone : done.forM run state = (.ok (), between))
    (hfails : run step between = (.error cause, after)) (left : List κ) :
    (done ++ step :: left).forM run state = (.error cause, after) := by
  induction done generalizing state with
  | nil =>
    cases hdone
    rw [List.nil_append, forM_cons, bind_of_error hfails]
  | cons first done ih =>
    rw [forM_cons] at hdone
    obtain ⟨⟨⟩, next, hfirst, hrest⟩ := bind_eq_ok.mp hdone
    rw [List.cons_append, forM_cons, bind_of_ok hfirst, ih hrest]

/-- A sequence of actions goes through, or stops at the first one that fails with its cause. -/
theorem forM_cases (run : κ → Action σ ε Unit) (steps : List κ) (state : σ) :
    (∃ after, steps.forM run state = (.ok (), after)) ∨
      ∃ done step left between cause after, steps = done ++ step :: left ∧
        done.forM run state = (.ok (), between) ∧ run step between = (.error cause, after) ∧
        steps.forM run state = (.error cause, after) := by
  induction steps generalizing state with
  | nil => exact Or.inl ⟨state, rfl⟩
  | cons step rest ih =>
    rcases hstep : run step state with ⟨cause | ⟨⟩, next⟩
    · right
      refine ⟨[], step, rest, state, cause, next, rfl, rfl, hstep, ?_⟩
      rw [forM_cons, bind_of_error hstep]
    · have hcons (steps : List κ) : (step :: steps).forM run state = steps.forM run next := by
        rw [forM_cons, bind_of_ok hstep]
      rcases ih next with ⟨after, hrest⟩ | ⟨done, later, left, between, cause, after, rfl, hdone,
        hfails, hrest⟩
      · exact Or.inl ⟨after, by rw [hcons, hrest]⟩
      · right
        exact ⟨step :: done, later, left, between, cause, after, rfl, by rw [hcons, hdone], hfails,
          by rw [hcons, hrest]⟩

/-- An action that keeps a state good, whether it goes through or fails. -/
def Preserves (good : σ → Prop) (action : Action σ ε α) : Prop :=
  ∀ state, good state → good (action state).2

namespace Preserves

variable {good : σ → Prop}

/-- The state that such an action ends in is good. -/
theorem of_run {action : Action σ ε α} (h : Preserves good action) {state after : σ}
    {result : Except ε α} (hrun : action state = (result, after)) (hstate : good state) :
    good after := by
  have hgood := h state hstate
  rw [hrun] at hgood
  exact hgood

theorem pure (a : α) : Preserves good (Pure.pure a : Action σ ε α) := fun _ h => h

theorem throw (cause : ε) : Preserves good (throw cause : Action σ ε α) := fun _ h => h

theorem ofExcept (result : Except ε α) : Preserves good (Action.ofExcept result) := fun _ h => h

theorem lift {step : StateM σ α} (h : ∀ state, good state → good (step state).2) :
    Preserves good (liftM step : Action σ ε α) := h

theorem mapError {action : Action σ ε α} (h : Preserves good action) (tell : ε → δ) :
    Preserves good (action.mapError tell) := h

theorem bind {action : Action σ ε α} {next : α → Action σ ε β} (h : Preserves good action)
    (hnext : ∀ a, Preserves good (next a)) : Preserves good (action >>= next) := by
  intro state hstate
  rcases hrun : action state with ⟨cause | a, between⟩
  · rw [bind_of_error hrun]
    exact h.of_run hrun hstate
  · rw [bind_of_ok hrun]
    exact hnext a between (h.of_run hrun hstate)

theorem forM {run : τ → Action σ ε Unit} (h : ∀ step, Preserves good (run step))
    (steps : List τ) : Preserves good (steps.forM run) := by
  induction steps with
  | nil => exact pure ()
  | cons step steps ih =>
    rw [forM_cons]
    exact (h step).bind fun _ => ih

end Preserves

/-- Two actions that give the same result and leave related states, wherever they start in related
ones. -/
def Matches (related : σ → σ → Prop) (first second : Action σ ε α) : Prop :=
  ∀ state other, related state other → (first state).1 = (second other).1 ∧
    related (first state).2 (second other).2

namespace Matches

variable {related : σ → σ → Prop}

theorem pure (a : α) : Matches related (Pure.pure a : Action σ ε α) (Pure.pure a) :=
  fun _ _ h => ⟨rfl, h⟩

theorem throw (cause : ε) : Matches related (throw cause : Action σ ε α) (throw cause) :=
  fun _ _ h => ⟨rfl, h⟩

theorem ofExcept (result : Except ε α) :
    Matches related (Action.ofExcept result) (Action.ofExcept result) :=
  fun _ _ h => ⟨rfl, h⟩

theorem mapError {first second : Action σ ε α} (h : Matches related first second)
    (tell : ε → δ) : Matches related (first.mapError tell) (second.mapError tell) := by
  intro state other hrelated
  obtain ⟨hresult, hafter⟩ := h state other hrelated
  exact ⟨congrArg (Except.mapError tell) hresult, hafter⟩

/-- Actions that match follow one another. -/
theorem bind {first second : Action σ ε α} {next later : α → Action σ ε β}
    (h : Matches related first second) (hnext : ∀ a, Matches related (next a) (later a)) :
    Matches related (first >>= next) (second >>= later) := by
  intro state other hrelated
  obtain ⟨hresult, hafter⟩ := h state other hrelated
  rcases hfirst : first state with ⟨result, between⟩
  rcases hsecond : second other with ⟨same, reached⟩
  rw [hfirst, hsecond] at hresult hafter
  obtain rfl : result = same := hresult
  cases result with
  | error cause =>
    rw [bind_of_error hfirst, bind_of_error hsecond]
    exact ⟨rfl, hafter⟩
  | ok a =>
    rw [bind_of_ok hfirst, bind_of_ok hsecond]
    exact hnext a between reached hafter

/-- Actions that go on from the state they start in match where those they go on with do. -/
theorem get_bind {next later : σ → Action σ ε α}
    (h : ∀ state other, related state other → Matches related (next state) (later other)) :
    Matches related (get >>= next) (get >>= later) :=
  fun state other hrelated => h state other hrelated state other hrelated

/-- Actions on a part of the state match where they do on the part. -/
theorem within {part : τ → σ} {replace : σ → τ → τ} {whole : τ → τ → Prop}
    {first second : Action σ ε α} (hpart : ∀ state other, whole state other →
      related (part state) (part other) ∧ ∀ after reached, related after reached →
        whole (replace after state) (replace reached other))
    (h : Matches related first second) :
    Matches whole (first.within part replace) (second.within part replace) := by
  intro state other hwhole
  obtain ⟨hrelated, hreplace⟩ := hpart state other hwhole
  obtain ⟨hresult, hafter⟩ := h _ _ hrelated
  exact ⟨hresult, hreplace _ _ hafter⟩

end Matches

end ContainerCert.Action
