import Mathlib

/-! Actions that change a state and may fail, keeping what they changed until then, with rules
that follow the way an action is put together. -/
namespace ActionRules

variable {σ ε ε' α β ι : Type}

abbrev Action (σ ε α : Type) := ExceptT ε (StateM σ) α

def outcome (action : Action σ ε α) (state : σ) : Except ε α × σ := action.run.run state

@[simp] theorem outcome_pure (value : α) (state : σ) :
    outcome (pure value : Action σ ε α) state = (.ok value, state) := rfl

@[simp] theorem outcome_get (state : σ) :
    outcome (get : Action σ ε σ) state = (.ok state, state) := rfl

@[simp] theorem outcome_set (next state : σ) :
    outcome (set next : Action σ ε PUnit) state = (.ok ⟨⟩, next) := rfl

@[simp] theorem outcome_modify (change : σ → σ) (state : σ) :
    outcome (modify change : Action σ ε PUnit) state = (.ok ⟨⟩, change state) := rfl

theorem outcome_bind (action : Action σ ε α) (next : α → Action σ ε β) (state : σ) :
    outcome (action >>= next) state =
      match outcome action state with
      | (.ok value, after) => outcome (next value) after
      | (.error error, after) => (.error error, after) := by
  have hbind : outcome (action >>= next) state =
      (ExceptT.bindCont next (outcome action state).1).run (outcome action state).2 := rfl
  rw [hbind]
  rcases outcome action state with ⟨_ | _, _⟩ <;> rfl

theorem outcome_bind_ok {action : Action σ ε α} {next : α → Action σ ε β} {before between : σ}
    {value : α} (hfirst : outcome action before = (.ok value, between)) :
    outcome (action >>= next) before = outcome (next value) between := by
  rw [outcome_bind, hfirst]

theorem outcome_foldlM_pure {step : α → ι → Action σ ε α} {read : α → ι → α} {items : List ι}
    {state : σ} (hstep : ∀ item ∈ items, ∀ value,
      outcome (step value item) state = (.ok (read value item), state)) (value : α) :
    outcome (items.foldlM step value) state = (.ok (items.foldl read value), state) := by
  induction items generalizing value with
  | nil => rfl
  | cons item items ih =>
    rw [List.foldlM_cons, outcome_bind_ok (hstep item (by simp) value), List.foldl_cons]
    exact ih (fun other hother => hstep other (by simp [hother])) _

theorem error_of_bind {action : Action σ ε α} {next : α → Action σ ε β} {before after : σ}
    {error : ε} (hrun : outcome (action >>= next) before = (.error error, after)) :
    outcome action before = (.error error, after) ∨
      ∃ value between, outcome action before = (.ok value, between) ∧
        outcome (next value) between = (.error error, after) := by
  rw [outcome_bind] at hrun
  rcases hfirst : outcome action before with ⟨failed | value, between⟩
  · rw [hfirst] at hrun
    cases hrun
    exact Or.inl rfl
  · rw [hfirst] at hrun
    exact Or.inr ⟨value, between, rfl, hrun⟩

theorem ok_of_bind {action : Action σ ε α} {next : α → Action σ ε β} {before after : σ}
    {result : β} (hrun : outcome (action >>= next) before = (.ok result, after)) :
    ∃ value between, outcome action before = (.ok value, between) ∧
      outcome (next value) between = (.ok result, after) := by
  rw [outcome_bind] at hrun
  rcases hfirst : outcome action before with ⟨failed | value, between⟩
  · rw [hfirst] at hrun
    cases hrun
  · rw [hfirst] at hrun
    exact ⟨value, between, rfl, hrun⟩

/-- A computation without a state. -/
def fromExcept : Except ε α → Action σ ε α
  | .ok value => pure value
  | .error error => throw error

theorem outcome_fromExcept (result : Except ε α) (state : σ) :
    outcome (fromExcept result : Action σ ε α) state = (result, state) := by
  cases result <;> rfl

/-- The errors of one part of a program become errors of another. -/
def adaptError (wrap : ε → ε') (action : Action σ ε α) : Action σ ε' α :=
  ExceptT.mk (StateT.mk fun state =>
    ((outcome action state).1.mapError wrap, (outcome action state).2))

@[simp] theorem outcome_adaptError (wrap : ε → ε') (action : Action σ ε α) (state : σ) :
    outcome (adaptError wrap action) state =
      ((outcome action state).1.mapError wrap, (outcome action state).2) := rfl

/-- A failure becomes a value; what was changed until then stays. -/
def attempt (action : Action σ ε α) : Action σ ε (Except ε α) :=
  ExceptT.mk (StateT.mk fun state => (.ok (outcome action state).1, (outcome action state).2))

@[simp] theorem outcome_attempt (action : Action σ ε α) (state : σ) :
    outcome (attempt action) state = (.ok (outcome action state).1, (outcome action state).2) := rfl

/-- The run from the state succeeds, with a result and a state after it of which the condition
holds. -/
structure Returns (action : Action σ ε α) (state : σ) (post : α → σ → Prop) : Prop where
  returned : ∃ value after, outcome action state = (.ok value, after) ∧ post value after

instance {action : Action σ ε α} {state : σ} {post : α → σ → Prop}
    [∀ value after, Decidable (post value after)] : Decidable (Returns action state post) :=
  match hrun : outcome action state with
  | (.ok value, after) =>
    decidable_of_iff (post value after) (by
      constructor
      · intro hpost
        exact ⟨value, after, hrun, hpost⟩
      · rintro ⟨_, _, hsame, hpost⟩
        cases hrun.symm.trans hsame
        exact hpost)
  | (.error _, _) => isFalse (by
      rintro ⟨_, _, hsame, _⟩
      cases hrun.symm.trans hsame)

theorem Returns.congr {action other : Action σ ε α} {state start : σ} {post : α → σ → Prop}
    (hreturns : Returns action state post)
    (houtcome : outcome other start = outcome action state) : Returns other start post := by
  obtain ⟨value, after, hrun, hpost⟩ := hreturns
  exact ⟨value, after, houtcome.trans hrun, hpost⟩

/-- What every run that succeeds makes true of the state before it, its result and the state
after it. -/
def Yields (action : Action σ ε α) (post : σ → α → σ → Prop) : Prop :=
  ∀ before value after, outcome action before = (.ok value, after) → post before value after

/-- What every run keeps, whether it succeeds or not. -/
def Keeps (frame : σ → σ → Prop) (action : Action σ ε α) : Prop :=
  ∀ before, frame before (outcome action before).2

structure Frame (frame : σ → σ → Prop) : Prop where
  refl : ∀ state, frame state state
  trans : ∀ {first second third}, frame first second → frame second third → frame first third

theorem yields_bind {action : Action σ ε α} {next : α → Action σ ε β}
    {first : σ → α → σ → Prop} {second : α → σ → β → σ → Prop} {post : σ → β → σ → Prop}
    (haction : Yields action first) (hnext : ∀ value, Yields (next value) (second value))
    (hpost : ∀ before value between result after, first before value between →
      second value between result after → post before result after) :
    Yields (action >>= next) post := by
  intro before result after hrun
  obtain ⟨value, between, hfirst, hsecond⟩ := ok_of_bind hrun
  exact hpost before value between result after (haction _ _ _ hfirst)
    (hnext value _ _ _ hsecond)

theorem yields_pure {value : α} {post : σ → α → σ → Prop}
    (hpost : ∀ state, post state value state) :
    Yields (pure value : Action σ ε α) post := by
  intro before result after hrun
  cases hrun
  exact hpost before

theorem yields_throw (error : ε) (post : σ → α → σ → Prop) :
    Yields (throw error : Action σ ε α) post := by
  intro before result after hrun
  cases hrun

theorem Yields.mono {action : Action σ ε α} {first second : σ → α → σ → Prop}
    (haction : Yields action first)
    (himp : ∀ before value after, first before value after → second before value after) :
    Yields action second :=
  fun before value after hrun => himp _ _ _ (haction before value after hrun)

theorem Keeps.outcome_frame {action : Action σ ε α} {frame : σ → σ → Prop} {before after : σ}
    {result : Except ε α} (hkeeps : Keeps frame action)
    (hrun : outcome action before = (result, after)) : frame before after := by
  have hframe := hkeeps before
  rwa [hrun] at hframe

theorem Keeps.yields {action : Action σ ε α} {frame : σ → σ → Prop} (hkeeps : Keeps frame action) :
    Yields action fun before _ after => frame before after :=
  fun _ _ _ hrun => hkeeps.outcome_frame hrun

/-- A loop keeps what each of its steps keeps of the state and of what it has gathered. -/
theorem yields_foldlM {step : α → ι → Action σ ε α} {inv : α → σ → Prop}
    (hstep : ∀ value item, Yields (step value item) fun before next after =>
      inv value before → inv next after)
    (items : List ι) (value : α) : Yields (items.foldlM step value) fun before result after =>
      inv value before → inv result after := by
  induction items generalizing value with
  | nil => exact yields_pure fun _ hinv => hinv
  | cons item items ih =>
    rw [List.foldlM_cons]
    refine yields_bind (hstep value item) (fun next => ih next) ?_
    intro before next between result after hfirst hsecond hinv
    exact hsecond (hfirst hinv)

theorem Yields.adaptError {action : Action σ ε α} {post : σ → α → σ → Prop} (wrap : ε → ε')
    (haction : Yields action post) : Yields (ActionRules.adaptError wrap action) post := by
  intro before value after hrun
  rw [outcome_adaptError] at hrun
  rcases hfirst : outcome action before with ⟨error | found, between⟩
  · rw [hfirst] at hrun
    cases hrun
  · rw [hfirst] at hrun
    cases hrun
    exact haction _ _ _ hfirst

theorem Keeps.mono {action : Action σ ε α} {first second : σ → σ → Prop}
    (haction : Keeps first action) (himp : ∀ before after, first before after →
      second before after) :
    Keeps second action :=
  fun before => himp _ _ (haction before)

section Frames

variable {frame : σ → σ → Prop} (hframe : Frame frame)

include hframe

theorem keeps_pure (value : α) : Keeps frame (pure value : Action σ ε α) :=
  fun before => hframe.refl before

theorem keeps_throw (error : ε) : Keeps frame (throw error : Action σ ε α) :=
  fun before => hframe.refl before

theorem keeps_fromExcept (result : Except ε α) :
    Keeps frame (fromExcept result : Action σ ε α) := by
  intro before
  rw [outcome_fromExcept]
  exact hframe.refl before

theorem keeps_get : Keeps frame (get : Action σ ε σ) :=
  fun before => hframe.refl before

theorem keeps_bind {action : Action σ ε α} {next : α → Action σ ε β}
    (haction : Keeps frame action) (hnext : ∀ value, Keeps frame (next value)) :
    Keeps frame (action >>= next) := by
  intro before
  have hfirst := haction before
  rw [outcome_bind]
  rcases hrun : outcome action before with ⟨error | value, between⟩
  · rw [hrun] at hfirst
    exact hfirst
  · rw [hrun] at hfirst
    exact hframe.trans hfirst (hnext value between)

/-- What the result of the first action is known to be may be used of the second one. -/
theorem keeps_bind_when {known : α → Prop} {action : Action σ ε α} {next : α → Action σ ε β}
    (haction : Keeps frame action) (hknown : Yields action fun _ value _ => known value)
    (hnext : ∀ value, known value → Keeps frame (next value)) : Keeps frame (action >>= next) := by
  intro before
  have hfirst := haction before
  rw [outcome_bind]
  rcases hrun : outcome action before with ⟨error | value, between⟩
  · rw [hrun] at hfirst
    exact hfirst
  · rw [hrun] at hfirst
    exact hframe.trans hfirst (hnext value (hknown _ _ _ hrun) between)

theorem keeps_foldlM_of_mem {step : α → ι → Action σ ε α} {items : List ι}
    (hstep : ∀ item ∈ items, ∀ value, Keeps frame (step value item)) (value : α) :
    Keeps frame (items.foldlM step value) := by
  induction items generalizing value with
  | nil => exact keeps_pure hframe value
  | cons item items ih =>
    rw [List.foldlM_cons]
    exact keeps_bind hframe (hstep item List.mem_cons_self value)
      (ih fun item hitem => hstep item (List.mem_cons_of_mem _ hitem))

theorem keeps_foldlM {step : α → ι → Action σ ε α}
    (hstep : ∀ value item, Keeps frame (step value item))
    (items : List ι) (value : α) : Keeps frame (items.foldlM step value) :=
  keeps_foldlM_of_mem hframe (fun item _ value => hstep value item) value

theorem keeps_forM {step : ι → Action σ ε PUnit} (hstep : ∀ item, Keeps frame (step item))
    (items : List ι) : Keeps frame (items.forM step) := by
  induction items with
  | nil => exact keeps_pure hframe _
  | cons item items ih => exact keeps_bind hframe (hstep item) fun _ => ih

end Frames

theorem keeps_modify {frame : σ → σ → Prop} {change : σ → σ}
    (hchange : ∀ state, frame state (change state)) :
    Keeps frame (modify change : Action σ ε PUnit) :=
  hchange

theorem Keeps.adaptError {action : Action σ ε α} {frame : σ → σ → Prop} (wrap : ε → ε')
    (haction : Keeps frame action) : Keeps frame (ActionRules.adaptError wrap action) :=
  haction

theorem Keeps.attempt {action : Action σ ε α} {frame : σ → σ → Prop}
    (haction : Keeps frame action) : Keeps frame (ActionRules.attempt action) :=
  haction

/-- From a state of the precondition a run ends in the postcondition or, when it fails, in a state
that is at least not broken. -/
def Guards (pre : σ → Prop) (action : Action σ ε α) (post : α → σ → Prop) (failed : ε → σ → Prop) :
    Prop :=
  ∀ before, pre before →
    match outcome action before with
    | (.ok value, after) => post value after
    | (.error error, after) => failed error after

section Guarding

variable {pre : σ → Prop} {failed : ε → σ → Prop}

theorem guards_pure {value : α} {post : α → σ → Prop}
    (hpost : ∀ state, pre state → post value state) :
    Guards pre (pure value : Action σ ε α) post failed :=
  fun before hpre => hpost before hpre

theorem guards_throw {error : ε} {post : α → σ → Prop}
    (hfailed : ∀ state, pre state → failed error state) :
    Guards pre (throw error : Action σ ε α) post failed :=
  fun before hpre => hfailed before hpre

theorem guards_bind {action : Action σ ε α} {next : α → Action σ ε β} {middle : α → σ → Prop}
    {post : β → σ → Prop} (haction : Guards pre action middle failed)
    (hnext : ∀ value, Guards (middle value) (next value) post failed) :
    Guards pre (action >>= next) post failed := by
  intro before hpre
  have hfirst := haction before hpre
  rw [outcome_bind]
  rcases hrun : outcome action before with ⟨error | value, between⟩
  · rw [hrun] at hfirst
    exact hfirst
  · rw [hrun] at hfirst
    exact hnext value between hfirst

theorem Guards.mono {action : Action σ ε α} {weaker : σ → Prop} {post other : α → σ → Prop}
    (haction : Guards pre action post failed) (hpre : ∀ state, weaker state → pre state)
    (hpost : ∀ value state, post value state → other value state) :
    Guards weaker action other failed := by
  intro before hweaker
  have h := haction before (hpre before hweaker)
  rcases hrun : outcome action before with ⟨error | value, after⟩
  · rw [hrun] at h
    exact h
  · rw [hrun] at h
    exact hpost value after h

theorem guards_of_known {action : Action σ ε α} {known : Prop} {post : α → σ → Prop}
    (h : known → Guards pre action post failed) :
    Guards (fun state => pre state ∧ known) action post failed :=
  fun before hpre => h hpre.2 before hpre.1

theorem guards_fromExcept {result : Except ε α} {post : α → σ → Prop}
    (hok : ∀ value, result = .ok value → ∀ state, pre state → post value state)
    (herror : ∀ error, result = .error error → ∀ state, pre state → failed error state) :
    Guards pre (fromExcept result) post failed := by
  intro before hpre
  rw [outcome_fromExcept]
  cases hresult : result with
  | ok value => exact hok value hresult before hpre
  | error error => exact herror error hresult before hpre

theorem Guards.adaptError {action : Action σ ε α} {post : α → σ → Prop} {wrap : ε → ε'}
    {other : ε' → σ → Prop} (haction : Guards pre action post failed)
    (hwrap : ∀ error state, failed error state → other (wrap error) state) :
    Guards pre (ActionRules.adaptError wrap action) post other := by
  intro before hpre
  have h := haction before hpre
  rw [outcome_adaptError]
  rcases hrun : outcome action before with ⟨error | value, after⟩
  · rw [hrun] at h
    exact hwrap error after h
  · rw [hrun] at h
    exact h

end Guarding

/-- What every failure of an action is. -/
def Raises (allowed : ε → Prop) (action : Action σ ε α) : Prop :=
  ∀ before error after, outcome action before = (.error error, after) → allowed error

theorem raises_pure (allowed : ε → Prop) (value : α) :
    Raises allowed (pure value : Action σ ε α) := by
  intro before error after hrun
  cases hrun

theorem raises_get (allowed : ε → Prop) : Raises allowed (get : Action σ ε σ) := by
  intro before error after hrun
  cases hrun

theorem raises_bind {allowed : ε → Prop} {action : Action σ ε α} {next : α → Action σ ε β}
    (haction : Raises allowed action) (hnext : ∀ value, Raises allowed (next value)) :
    Raises allowed (action >>= next) := by
  intro before error after hrun
  rcases error_of_bind hrun with hfirst | ⟨value, between, _, hsecond⟩
  · exact haction _ _ _ hfirst
  · exact hnext value _ _ _ hsecond

theorem raises_foldlM {allowed : ε → Prop} {step : α → ι → Action σ ε α}
    (hstep : ∀ value item, Raises allowed (step value item)) (items : List ι) (value : α) :
    Raises allowed (items.foldlM step value) := by
  induction items generalizing value with
  | nil => exact raises_pure allowed value
  | cons item items ih =>
    rw [List.foldlM_cons]
    exact raises_bind (hstep value item) ih

theorem raises_adaptError {allowed : ε' → Prop} (wrap : ε → ε') (action : Action σ ε α)
    (hwrap : ∀ error, allowed (wrap error)) : Raises allowed (adaptError wrap action) := by
  intro before error after hrun
  rw [outcome_adaptError] at hrun
  rcases hfirst : outcome action before with ⟨failed | value, between⟩
  · rw [hfirst] at hrun
    cases hrun
    exact hwrap failed
  · rw [hfirst] at hrun
    cases hrun

end ActionRules
