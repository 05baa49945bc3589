/-
# Values of sensor replies as floats

Both sensor sources put whatever a reply holds through `float` and catch what it raises
for a value of the wrong type or a text that is no number. An integer beyond the range
of floats makes it raise something else, which neither of them catches.
-/

import TrueFan.Backend
import TrueFan.Python.Float
import TrueFan.Python.Json

namespace TrueFan

open Python

/-- `float(value)`. -/
def floatOf : Json → Except Failure PyFloat
  | .null => .error .typeError
  | .bool value =>
      .ok (.finite
        (if value then .ofInt 1 else .ofInt 0))
  | .int n =>
      if h : |(n : ℚ)| < overflowBound then .ok (.finite (.round n h)) else .error .overflowError
  | .float value => .ok value
  | .str text =>
      match parseFloat text.toList with
      | some value => .ok value
      | none => .error (.valueError "could not convert string to float")
  | .array _ => .error .typeError
  | .object _ => .error .typeError

/-- `float(value)` of a value that is neither `None` nor a boolean, with `TypeError` and
`ValueError` caught. -/
def convert : Json → Except Failure (Option PyFloat)
  | .null => .ok none
  | .bool _ => .ok none
  | value =>
      match floatOf value with
      | .ok number => .ok (some number)
      | .error .typeError => .ok none
      | .error (.valueError _) => .ok none
      | .error error => .error error

/-- The value is an integer beyond the range of floats. -/
def Oversized : Json → Prop
  | .int n => ¬ |(n : ℚ)| < overflowBound
  | _ => False

instance : DecidablePred Oversized
  | .null => .isFalse id
  | .bool _ => .isFalse id
  | .int n => inferInstanceAs (Decidable (¬ |(n : ℚ)| < overflowBound))
  | .float _ => .isFalse id
  | .str _ => .isFalse id
  | .array _ => .isFalse id
  | .object _ => .isFalse id

/-- The float a value is taken for, if it is taken for one. -/
def taken : Json → Option PyFloat
  | .null => none
  | .bool _ => none
  | .int n => if h : |(n : ℚ)| < overflowBound then some (.finite (.round n h)) else none
  | .float value => some value
  | .str text => parseFloat text.toList
  | .array _ => none
  | .object _ => none

theorem convert_eq (value : Json) :
    convert value = if ¬ Oversized value then .ok (taken value) else .error .overflowError := by
  cases value with
  | int n =>
      rw [convert]
      · by_cases h : |(n : ℚ)| < overflowBound
        · simp [floatOf, taken, Oversized, h]
        · simp [floatOf, Oversized, h]
      all_goals simp
  | str text =>
      have hfine : ¬ Oversized (.str text) := id
      rw [if_pos hfine, taken, convert]
      · rw [floatOf]
        cases parseFloat text.toList with
        | some number => rfl
        | none => rfl
      all_goals simp
  | _ => exact (if_pos id).symm

/-- What comes after a conversion sees what the value is taken for. -/
theorem bind_convert {α : Type} (value : Json) (next : Option PyFloat → Except Failure α) :
    (convert value >>= next) =
      if ¬ Oversized value then next (taken value) else .error .overflowError := by
  rw [convert_eq]
  split
  · rfl
  · rfl

/-- The value is a number in the range of floats, finite, with the float it has there. -/
inductive IsFinite : Json → FiniteFloat → Prop
  | int (n : ℤ) (convertible : |(n : ℚ)| < overflowBound) : IsFinite (.int n) (.round n convertible)
  | float (x : FiniteFloat) : IsFinite (.float (.finite x)) x

theorem taken_of_isFinite {value : Json} {x : FiniteFloat} (h : IsFinite value x) :
    taken value = some (.finite x) := by
  cases h with
  | int n convertible => exact dif_pos convertible
  | float x => rfl

end TrueFan
