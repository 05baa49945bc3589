/-
# Methods that raise

A Python method mutates its object and may raise; what it had mutated before it
raised stays mutated. `EStateM` is exactly that monad. The lemmas here run a
composed method one call at a time, and `zoom` runs a method of an object that
is a field of another.
-/

import Mathlib.Init

namespace TrueFan.Python

universe u

variable {ε σ τ α β : Type u}

/-- Where a method leaves its object, whether it returned or raised. -/
def resultState : EStateM.Result ε σ α → σ
  | .ok _ state => state
  | .error _ state => state

@[simp]
theorem resultState_ok (value : α) (state : σ) :
    resultState (.ok value state : EStateM.Result ε σ α) = state := rfl

@[simp]
theorem resultState_error (error : ε) (state : σ) :
    resultState (.error error state : EStateM.Result ε σ α) = state := rfl

/-- The value a method returned, if it did. -/
def returned : EStateM.Result ε σ α → Option α
  | .ok value _ => some value
  | .error _ _ => none

@[simp]
theorem returned_ok (value : α) (state : σ) :
    returned (.ok value state : EStateM.Result ε σ α) = some value := rfl

@[simp]
theorem returned_error (error : ε) (state : σ) :
    returned (.error error state : EStateM.Result ε σ α) = none := rfl

theorem returned_eq_some_iff {result : EStateM.Result ε σ α} {value : α} :
    returned result = some value ↔ ∃ state, result = .ok value state := by
  cases result with
  | ok value' state => simp
  | error error state => simp

theorem returned_isSome_iff {result : EStateM.Result ε σ α} :
    (returned result).isSome = true ↔ ∃ value state, result = .ok value state := by
  rw [Option.isSome_iff_exists]
  exact exists_congr fun _ => returned_eq_some_iff

/-- Sequencing stops at the first call that raises. -/
theorem bind_apply (first : EStateM ε σ α) (next : α → EStateM ε σ β) (state : σ) :
    (first >>= next) state =
      match first state with
      | .ok value state => next value state
      | .error error state => .error error state := rfl

/-- Reading the object hands it to the rest of the method. -/
theorem get_bind_apply (next : σ → EStateM ε σ α) (state : σ) :
    ((get : EStateM ε σ σ) >>= next) state = next state state := rfl

theorem pure_apply (value : α) (state : σ) :
    (pure value : EStateM ε σ α) state = .ok value state := rfl

theorem throw_apply (error : ε) (state : σ) :
    (throw error : EStateM ε σ α) state = .error error state := rfl

theorem bind_of_ok {first : EStateM ε σ α} {next : α → EStateM ε σ β} {state after : σ}
    {value : α} (h : first state = .ok value after) :
    (first >>= next) state = next value after := by
  rw [bind_apply, h]

theorem bind_of_error {first : EStateM ε σ α} {next : α → EStateM ε σ β} {state after : σ}
    {error : ε} (h : first state = .error error after) :
    (first >>= next) state = .error error after := by
  rw [bind_apply, h]

/-- Returning a value leaves the object where the call before left it. -/
theorem resultState_bind_pure (first : EStateM ε σ α) (value : α → β) (state : σ) :
    resultState ((first >>= fun middle => pure (value middle)) state) =
      resultState (first state) := by
  cases h : first state with
  | ok middle between => rw [bind_of_ok h, pure_apply, resultState_ok, resultState_ok]
  | error error between => rw [bind_of_error h, resultState_error, resultState_error]

/-- A sequence that returned had its first call return. -/
theorem bind_eq_ok {first : EStateM ε σ α} {next : α → EStateM ε σ β} {state after : σ}
    {value : β} (h : (first >>= next) state = .ok value after) :
    ∃ middle between, first state = .ok middle between ∧ next middle between = .ok value after := by
  rw [bind_apply] at h
  cases hfirst : first state with
  | ok middle between => exact ⟨middle, between, rfl, by simpa [hfirst] using h⟩
  | error error between => simp [hfirst] at h

/-- So did a sequence of computations that touch no object. -/
theorem bind_except_eq_ok {first : Except ε α} {next : α → Except ε β} {value : β}
    (h : first >>= next = .ok value) : ∃ middle, first = .ok middle ∧ next middle = .ok value := by
  cases first with
  | error error => cases h
  | ok middle => exact ⟨middle, rfl, h⟩

theorem bind_except_of_ok {first : Except ε α} {next : α → Except ε β} {middle : α}
    (h : first = .ok middle) : first >>= next = next middle := by
  rw [h]
  rfl

theorem exists_ok_and_iff {value : α} {state : σ} {property : σ → Prop} :
    (∃ after, (.ok value state : EStateM.Result ε σ α) = .ok value after ∧ property after) ↔
      property state := by
  refine ⟨?_, fun h => ⟨state, rfl, h⟩⟩
  rintro ⟨after, heq, h⟩
  cases heq
  exact h

/-- A computation that touches no object leaves it alone. -/
theorem ofExcept_eq_ok {result : Except ε α} {state after : σ} {value : α}
    (h : (ofExcept result : EStateM ε σ α) state = .ok value after) :
    result = .ok value ∧ after = state := by
  cases result with
  | ok value' =>
      cases h
      exact ⟨rfl, rfl⟩
  | error error => cases h

/-- A method that begins with such a computation returns exactly if both parts do. -/
theorem bind_ofExcept_eq_ok_iff {result : Except ε α} {next : α → EStateM ε σ β} {state after : σ}
    {value : β} :
    ((ofExcept result : EStateM ε σ α) >>= next) state = .ok value after ↔
      ∃ middle, result = .ok middle ∧ next middle state = .ok value after := by
  cases result with
  | ok middle =>
      have hnext : ((ofExcept (.ok middle) : EStateM ε σ α) >>= next) state = next middle state :=
        rfl
      simp [hnext]
  | error error =>
      apply iff_of_false
      · intro h
        cases h
      · rintro ⟨middle, h, -⟩
        cases h

/-- `try: ... except Exception`: the value, unless the call raised. -/
def attempt (method : EStateM ε σ α) : EStateM ε σ (Option α) := fun state =>
  match method state with
  | .ok value after => .ok (some value) after
  | .error _ after => .ok none after

/-- `try: ... finally: ...`: what the last part raises hides what the first one did. -/
def andFinally (method : EStateM ε σ α) (last : EStateM ε σ β) : EStateM ε σ α := fun state =>
  match method state with
  | .ok value between =>
      match last between with
      | .ok _ after => .ok value after
      | .error error after => .error error after
  | .error error between =>
      match last between with
      | .ok _ after => .error error after
      | .error error after => .error error after

theorem andFinally_of_ok {method : EStateM ε σ α} {last : EStateM ε σ β}
    {state between after : σ} {value : α} {done : β} (h : method state = .ok value between)
    (hlast : last between = .ok done after) : andFinally method last state = .ok value after := by
  rw [andFinally, h]
  dsimp only
  rw [hlast]

theorem andFinally_of_error {method : EStateM ε σ α} {last : EStateM ε σ β}
    {state between after : σ} {error : ε} {done : β} (h : method state = .error error between)
    (hlast : last between = .ok done after) :
    andFinally method last state = .error error after := by
  rw [andFinally, h]
  dsimp only
  rw [hlast]

/-- Where the last part raises, that is what is raised. -/
theorem andFinally_of_last_error {method : EStateM ε σ α} {last : EStateM ε σ β} {state after : σ}
    {error : ε} (hlast : last (resultState (method state)) = .error error after) :
    andFinally method last state = .error error after := by
  rw [andFinally]
  cases h : method state with
  | ok value between =>
      rw [h, resultState_ok] at hlast
      dsimp only
      rw [hlast]
  | error error' between =>
      rw [h, resultState_error] at hlast
      dsimp only
      rw [hlast]

theorem attempt_of_ok {method : EStateM ε σ α} {state after : σ} {value : α}
    (h : method state = .ok value after) : attempt method state = .ok (some value) after := by
  rw [attempt, h]

/-- A loop whose body raises exactly on the items that are not fine runs through if all are, and
raises otherwise. -/
theorem foldlM_ok_or_error {step : σ → α → Except ε σ} {next : σ → α → σ} {fine : α → Prop}
    (raised : ε → Prop)
    (hfine : ∀ state item, fine item → step state item = .ok (next state item))
    (hraises : ∀ state item, ¬ fine item → ∃ error, raised error ∧ step state item = .error error)
    (items : List α) (state : σ) :
    ((∀ item ∈ items, fine item) → items.foldlM step state = .ok (items.foldl next state)) ∧
      ((¬ ∀ item ∈ items, fine item) →
        ∃ error, raised error ∧ items.foldlM step state = .error error) := by
  induction items generalizing state with
  | nil => exact ⟨fun _ => rfl, fun h => absurd (List.forall_mem_nil _) h⟩
  | cons item rest ih =>
      rw [List.foldlM_cons, List.forall_mem_cons]
      by_cases hitem : fine item
      · rw [hfine state item hitem]
        exact ⟨fun hall => (ih (next state item)).1 hall.2,
          fun hnot => (ih (next state item)).2 fun hrest => hnot ⟨hitem, hrest⟩⟩
      · obtain ⟨error, herror, hstep⟩ := hraises state item hitem
        rw [hstep]
        exact ⟨fun hall => absurd hall.1 hitem, fun _ => ⟨error, herror, rfl⟩⟩

/-- A loop whose body raises the same on the items that are not fine runs through if all
are. -/
theorem foldlM_eq_ite {step : σ → α → Except ε σ} {next : σ → α → σ} {fine : α → Prop}
    [DecidablePred fine] {error : ε}
    (hstep : ∀ state item, step state item =
      if fine item then .ok (next state item) else .error error) (items : List α) (state : σ) :
    items.foldlM step state =
      if ∀ item ∈ items, fine item then .ok (items.foldl next state) else .error error := by
  obtain ⟨hok, herror⟩ := foldlM_ok_or_error (· = error)
    (fun state item hitem => (hstep state item).trans (if_pos hitem))
    (fun state item hitem => ⟨error, rfl, (hstep state item).trans (if_neg hitem)⟩) items state
  split
  next hall => exact hok hall
  next hnot =>
    obtain ⟨_, rfl, hraised⟩ := herror hnot
    exact hraised

/-- Both return, and what they return is related, or both raise the same. -/
def Alike (related : α → β → Prop) : Except ε α → Except ε β → Prop
  | .ok value, .ok value' => related value value'
  | .error error, .error error' => error = error'
  | _, _ => False

namespace Alike

variable {γ δ : Type u} {related : α → β → Prop} {related' : γ → δ → Prop}

theorem refl (result : Except ε α) : Alike Eq result result := by
  cases result with
  | ok value => rfl
  | error error => rfl

theorem bind {first : Except ε α} {first' : Except ε β} {next : α → Except ε γ}
    {next' : β → Except ε δ} (hfirst : Alike related first first')
    (hnext : ∀ value value', related value value' → Alike related' (next value) (next' value')) :
    Alike related' (first >>= next) (first' >>= next') := by
  cases first with
  | ok value =>
      cases first' with
      | ok value' => exact hnext value value' hfirst
      | error error' => exact hfirst.elim
  | error error =>
      cases first' with
      | ok value' => exact hfirst.elim
      | error error' => exact hfirst

end Alike

/-- Whatever the computation raises is expected. -/
def RaisesOnly (expected : ε → Prop) (result : Except ε α) : Prop :=
  ∀ error, result = .error error → expected error

namespace RaisesOnly

variable {expected : ε → Prop}

theorem ok (value : α) : RaisesOnly expected (.ok value : Except ε α) :=
  fun _ h => by cases h

theorem error {error : ε} (h : expected error) :
    RaisesOnly expected (.error error : Except ε α) := by
  intro error' heq
  cases heq
  exact h

theorem bind {first : Except ε α} {next : α → Except ε β} (hfirst : RaisesOnly expected first)
    (hnext : ∀ value, RaisesOnly expected (next value)) :
    RaisesOnly expected (first >>= next) := by
  cases first with
  | ok value => exact hnext value
  | error error => exact .error (hfirst error rfl)

end RaisesOnly

/-! ## Invariants of a method

A property that every call keeps, whether it returns or raises, is kept by every
method composed of such calls. -/

/-- The method keeps the property, also when it raises. -/
def Preserves (property : σ → Prop) (method : EStateM ε σ α) : Prop :=
  ∀ state, property state → property (resultState (method state))

theorem Preserves.pure {property : σ → Prop} (value : α) :
    Preserves property (pure value : EStateM ε σ α) :=
  fun _ hstate => hstate

theorem Preserves.throw {property : σ → Prop} (error : ε) :
    Preserves property (throw error : EStateM ε σ α) :=
  fun _ hstate => hstate

theorem Preserves.get {property : σ → Prop} :
    Preserves property (get : EStateM ε σ σ) :=
  fun _ hstate => hstate

theorem Preserves.bind {property : σ → Prop} {first : EStateM ε σ α}
    {next : α → EStateM ε σ β} (hfirst : Preserves property first)
    (hnext : ∀ value, Preserves property (next value)) :
    Preserves property (first >>= next) := by
  intro state hstate
  have hbetween := hfirst state hstate
  rw [bind_apply]
  cases hrun : first state with
  | ok value between =>
      rw [hrun] at hbetween
      exact hnext value between hbetween
  | error error between =>
      rw [hrun] at hbetween
      exact hbetween

/-- Run a method of a part of the state. -/
def zoom (part : σ → τ) (put : τ → σ → σ) (method : EStateM ε τ α) : EStateM ε σ α :=
  fun state =>
    match method (part state) with
    | .ok value after => .ok value (put after state)
    | .error error after => .error error (put after state)

theorem zoom_of_ok {part : σ → τ} {put : τ → σ → σ} {method : EStateM ε τ α} {state : σ}
    {value : α} {after : τ} (h : method (part state) = .ok value after) :
    zoom part put method state = .ok value (put after state) := by
  rw [zoom, h]

theorem zoom_of_error {part : σ → τ} {put : τ → σ → σ} {method : EStateM ε τ α} {state : σ}
    {error : ε} {after : τ} (h : method (part state) = .error error after) :
    zoom part put method state = .error error (put after state) := by
  rw [zoom, h]

/-- A call of a part that returned is a call of the part's method that did. -/
theorem zoom_eq_ok {part : σ → τ} {put : τ → σ → σ} {method : EStateM ε τ α} {state after : σ}
    {value : α} (h : zoom part put method state = .ok value after) :
    ∃ inner, method (part state) = .ok value inner ∧ after = put inner state := by
  rw [zoom] at h
  split at h
  next value' inner hrun =>
    cases h
    exact ⟨inner, hrun, rfl⟩
  next => cases h

/-- A method of a part leaves the rest alone. -/
theorem resultState_zoom (part : σ → τ) (put : τ → σ → σ) (method : EStateM ε τ α) (state : σ) :
    resultState (zoom part put method state) = put (resultState (method (part state))) state := by
  cases h : method (part state) with
  | ok value after => rw [zoom_of_ok h, resultState_ok, resultState_ok]
  | error error after => rw [zoom_of_error h, resultState_error, resultState_error]

/-! ## Methods that keep more than they need

A method over a larger state shadows one over a part of it if it does to the part and answers
what that one does. What is composed of shadows is a shadow of what is composed. -/

/-- A result with only a part of its state. -/
def mapState (part : σ → τ) : EStateM.Result ε σ α → EStateM.Result ε τ α
  | .ok value state => .ok value (part state)
  | .error error state => .error error (part state)

/-- The method does to the part what the other one does. -/
def Shadows (part : σ → τ) (method : EStateM ε σ α) (other : EStateM ε τ α) : Prop :=
  ∀ state, mapState part (method state) = other (part state)

namespace Shadows

variable {part : σ → τ}

theorem throw (error : ε) :
    Shadows part (throw error : EStateM ε σ α) (throw error : EStateM ε τ α) :=
  fun _ => rfl

theorem ofExcept (result : Except ε α) :
    Shadows part (ofExcept result : EStateM ε σ α) (ofExcept result : EStateM ε τ α) := by
  intro state
  cases result with
  | ok value => rfl
  | error error => rfl

theorem bind {first : EStateM ε σ α} {first' : EStateM ε τ α} {next : α → EStateM ε σ β}
    {next' : α → EStateM ε τ β} (hfirst : Shadows part first first')
    (hnext : ∀ value, Shadows part (next value) (next' value)) :
    Shadows part (first >>= next) (first' >>= next') := by
  intro state
  have hrun := hfirst state
  rw [bind_apply, bind_apply, ← hrun]
  cases first state with
  | ok value between => exact hnext value between
  | error error between => rfl

theorem attempt {method : EStateM ε σ α} {other : EStateM ε τ α}
    (h : Shadows part method other) :
    Shadows part (attempt method) (Python.attempt other) := by
  intro state
  rw [Python.attempt, Python.attempt, ← h state]
  cases method state with
  | ok value after => rfl
  | error error after => rfl

theorem andFinally {method : EStateM ε σ α} {other : EStateM ε τ α} {last : EStateM ε σ β}
    {last' : EStateM ε τ β} (h : Shadows part method other) (hlast : Shadows part last last') :
    Shadows part (andFinally method last) (Python.andFinally other last') := by
  intro state
  rw [Python.andFinally, Python.andFinally, ← h state]
  cases method state with
  | ok value between =>
      dsimp only [mapState]
      rw [← hlast between]
      cases last between with
      | ok done after => rfl
      | error error after => rfl
  | error error between =>
      dsimp only [mapState]
      rw [← hlast between]
      cases last between with
      | ok done after => rfl
      | error error after => rfl

end Shadows

end TrueFan.Python
