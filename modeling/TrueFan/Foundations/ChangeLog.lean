/-
# A log of changes

A component that notes a line only if it does not say what the last line of its log says
keeps, of the lines it is offered, those that `List.destutter` keeps: a log without two
neighbours alike, from which every line left out can be told.
-/

import Mathlib.Data.List.Destutter

namespace TrueFan.Foundations

universe ul uk

section Destutter

variable {Line : Type ul} (differs : Line → Line → Prop) [DecidableRel differs]

/-- Whether the last line is kept is decided by the last line kept before it. -/
theorem destutter'_concat (first : Line) (lines : List Line) (line : Line) :
    (lines ++ [line]).destutter' differs first =
      if differs ((lines.destutter' differs first).getLastD first) line then
        lines.destutter' differs first ++ [line]
      else lines.destutter' differs first := by
  induction lines generalizing first with
  | nil => by_cases h : differs first line <;> simp [h]
  | cons second lines ih =>
      rw [List.cons_append]
      by_cases h : differs first second
      · rw [List.destutter'_cons_pos _ h, List.destutter'_cons_pos _ h, ih]
        have hne : lines.destutter' differs second ≠ [] := List.destutter'_ne_nil lines differs
        have hlast : (first :: lines.destutter' differs second).getLastD first =
            (lines.destutter' differs second).getLastD second := by
          rw [List.getLastD_cons]
          simp [List.getLastD_eq_getLast?, List.getLast?_eq_some_getLast hne]
        rw [hlast]
        split <;> simp
      · rw [List.destutter'_cons_neg _ h, List.destutter'_cons_neg _ h, ih]

theorem destutter_concat (lines : List Line) (line : Line) :
    (lines ++ [line]).destutter differs =
      if ∀ last ∈ (lines.destutter differs).getLast?, differs last line then
        lines.destutter differs ++ [line]
      else lines.destutter differs := by
  cases lines with
  | nil => simp
  | cons first lines =>
      rw [List.cons_append, List.destutter_cons', List.destutter_cons', destutter'_concat]
      have hne : lines.destutter' differs first ≠ [] := List.destutter'_ne_nil lines differs
      simp [List.getLastD_eq_getLast?, List.getLast?_eq_some_getLast hne]

end Destutter

variable {Line : Type ul} {Key : Type uk} [DecidableEq Key] (key : Line → Key)

/-- The two lines do not say the same. -/
abbrev Differs (earlier later : Line) : Prop := key earlier ≠ key later

/-- Note a line, unless the last line says the same. -/
def noteChange (log : List Line) (line : Line) : List Line :=
  if log.getLast?.map key = some (key line) then log else log ++ [line]

/-- After it, the last line says what the line says. -/
theorem getLast?_noteChange (log : List Line) (line : Line) :
    (noteChange key log line).getLast?.map key = some (key line) := by
  rw [noteChange]
  split
  next h => exact h
  next => simp

theorem noteChange_destutter (lines : List Line) (line : Line) :
    noteChange key (lines.destutter (Differs key)) line =
      (lines ++ [line]).destutter (Differs key) := by
  rw [noteChange, destutter_concat]
  cases (lines.destutter (Differs key)).getLast? with
  | none => simp
  | some last =>
      by_cases h : key last = key line
      · simp [Differs, h]
      · simp [Differs, h]

end TrueFan.Foundations
