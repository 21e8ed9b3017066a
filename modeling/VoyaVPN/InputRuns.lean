import Mathlib

/-! Runs of a system that takes one input after the other. A condition on the steps may look
at the state the input is taken in; a run meets it when each of its steps does. -/
namespace InputRuns

variable {σ ι : Type*} (step : σ → ι → σ)

def Meets (cond : σ → ι → Prop) : σ → List ι → Prop
  | _, [] => True
  | state, input :: inputs => cond state input ∧ Meets cond (step state input) inputs

/-- What holds at first and is kept by each step that meets the condition holds after every
run that meets it. -/
theorem invariant_of_meets {cond : σ → ι → Prop} {inv : σ → Prop}
    (keeps : ∀ state input, inv state → cond state input → inv (step state input))
    {inputs : List ι} {state : σ} (initially : inv state)
    (meets : Meets step cond state inputs) : inv (inputs.foldl step state) := by
  induction inputs generalizing state with
  | nil => exact initially
  | cons input inputs ih =>
    obtain ⟨hcond, hrest⟩ := meets
    have hnext : inv (step state input) := keeps state input initially hcond
    exact ih hnext hrest

theorem invariant_of_steps {inv : σ → Prop}
    (keeps : ∀ state input, inv state → inv (step state input))
    (inputs : List ι) {state : σ} (initially : inv state) :
    inv (inputs.foldl step state) := by
  induction inputs generalizing state with
  | nil => exact initially
  | cons input inputs ih => exact ih (keeps state input initially)

/-- What an invariant and the condition on a step give holds of each step of the run. -/
theorem meets_of_invariant {cond goal : σ → ι → Prop} {inv : σ → Prop}
    (keeps : ∀ state input, inv state → inv (step state input))
    (gives : ∀ state input, inv state → cond state input → goal state input)
    {inputs : List ι} {state : σ} (initially : inv state)
    (meets : Meets step cond state inputs) : Meets step goal state inputs := by
  induction inputs generalizing state with
  | nil => trivial
  | cons input inputs ih =>
    obtain ⟨hcond, hrest⟩ := meets
    exact ⟨gives state input initially hcond, ih (keeps state input initially) hrest⟩

theorem meets_mono {cond goal : σ → ι → Prop}
    (gives : ∀ state input, cond state input → goal state input)
    {inputs : List ι} {state : σ} (meets : Meets step cond state inputs) :
    Meets step goal state inputs := by
  induction inputs generalizing state with
  | nil => trivial
  | cons input inputs ih =>
    obtain ⟨hcond, hrest⟩ := meets
    exact ⟨gives state input hcond, ih hrest⟩

end InputRuns
