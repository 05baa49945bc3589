/-
# Methods a process may not survive

An operation of a method finishes, raises, or is the last one before the process dies. A
`finally` part runs after one that raised, and not after the last one.
-/

import TrueFan.Python.Effect

namespace TrueFan.Python

variable {σ : Type}

/-- How an operation ends; one that dies has its effect first. -/
inductive Ending
  | finishes
  | raises
  | dies
  deriving DecidableEq, Repr

/-- Why a method stopped short. -/
inductive Stop
  | raised
  | died
  deriving DecidableEq, Repr

/-- An operation with its effect, and what it has done if it raises. -/
def operate (ending : Ending) (effect failed : σ → σ) : EStateM Stop σ Unit := fun state =>
  match ending with
  | .finishes => .ok () (effect state)
  | .raises => .error .raised (failed state)
  | .dies => .error .died (effect state)

/-- `try: ... finally: ...` of a method the process may not survive. -/
def lastly (method last : EStateM Stop σ Unit) : EStateM Stop σ Unit := fun state =>
  match method state with
  | .ok _ between => last between
  | .error .raised between =>
      match last between with
      | .ok _ after => .error .raised after
      | .error stop after => .error stop after
  | .error .died between => .error .died between

variable {property : σ → Prop} {ending : Ending} {effect failed : σ → σ}
  {method last : EStateM Stop σ Unit} {state after : σ}

theorem operate_eq_ok (h : operate ending effect failed state = .ok () after) :
    after = effect state := by
  cases ending with
  | finishes =>
      cases h
      rfl
  | raises => cases h
  | dies => cases h

theorem preserves_operate (heffect : ∀ state, property state → property (effect state))
    (hfailed : ∀ state, property state → property (failed state)) :
    Preserves property (operate ending effect failed) := by
  intro state hstate
  cases ending with
  | finishes => exact heffect state hstate
  | raises => exact hfailed state hstate
  | dies => exact heffect state hstate

theorem lastly_of_ok {between : σ} (h : method state = .ok () between) :
    lastly method last state = last between := by
  rw [lastly, h]

theorem lastly_of_died (h : method state = .error .died after) :
    lastly method last state = .error .died after := by
  rw [lastly, h]

theorem lastly_of_raised {between : σ} (h : method state = .error .raised between)
    (hlast : last between = .ok () after) :
    lastly method last state = .error .raised after := by
  rw [lastly, h]
  dsimp only
  rw [hlast]

theorem lastly_of_raised_of_error {between : σ} {stop : Stop}
    (h : method state = .error .raised between) (hlast : last between = .error stop after) :
    lastly method last state = .error stop after := by
  rw [lastly, h]
  dsimp only
  rw [hlast]

/-- A method with a last part returned if both did. -/
theorem lastly_eq_ok (h : lastly method last state = .ok () after) :
    ∃ between, method state = .ok () between ∧ last between = .ok () after := by
  rw [lastly] at h
  cases hmethod : method state with
  | ok value between =>
      rw [hmethod] at h
      exact ⟨between, rfl, h⟩
  | error stop between =>
      rw [hmethod] at h
      cases stop with
      | died => cases h
      | raised =>
          dsimp only at h
          cases hlast : last between <;> rw [hlast] at h <;> cases h

theorem preserves_lastly (hmethod : Preserves property method) (hlast : Preserves property last) :
    Preserves property (lastly method last) := by
  intro state hstate
  have hbetween := hmethod state hstate
  rw [lastly]
  cases hrun : method state with
  | ok value between =>
      rw [hrun] at hbetween
      exact hlast between hbetween
  | error stop between =>
      rw [hrun] at hbetween
      cases stop with
      | died => exact hbetween
      | raised =>
          have hafter := hlast between hbetween
          dsimp only
          cases hlastRun : last between with
          | ok value after =>
              rw [hlastRun] at hafter
              exact hafter
          | error stop after =>
              rw [hlastRun] at hafter
              exact hafter

end TrueFan.Python
