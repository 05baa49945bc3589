/-
# Running maxima

The greatest element of a list, folded up from its first one, and a running maximum
that starts over whenever it stands at a blank element. The second one is the
greatest element too, unless that is the blank and smaller elements follow it.
-/

import Mathlib.Data.List.Induction
import Mathlib.Order.Bounds.Basic
import Mathlib.Order.MinMax

namespace TrueFan.Foundations

universe u

variable {α : Type u} [LinearOrder α]

/-- The greatest element of a list that has one. -/
abbrev GreatestIn (values : List α) (greatest : α) : Prop :=
  IsGreatest {value | value ∈ values} greatest

/-- One more element raises the greatest to itself or leaves it. -/
theorem GreatestIn.append_singleton {values : List α} {greatest : α}
    (h : GreatestIn values greatest) (last : α) :
    GreatestIn (values ++ [last]) (max greatest last) := by
  constructor
  · rcases max_choice greatest last with heq | heq
    · rw [heq]
      exact List.mem_append_left _ h.1
    · rw [heq]
      exact List.mem_append_right _ (List.mem_singleton_self last)
  · intro value hvalue
    rcases List.mem_append.mp hvalue with hvalue | hlast
    · exact le_max_of_le_left (h.2 hvalue)
    · rw [List.mem_singleton.mp hlast]
      exact le_max_right greatest last

theorem greatestIn_singleton (value : α) : GreatestIn [value] value := by
  refine ⟨List.mem_singleton_self value, fun other hother => ?_⟩
  exact (List.mem_singleton.mp hother).le

theorem greatestIn_foldl_max (start : α) (values : List α) :
    GreatestIn (start :: values) (values.foldl max start) := by
  induction values using List.reverseRecOn with
  | nil => exact greatestIn_singleton start
  | append_singleton values last ih =>
      rw [List.foldl_append, ← List.cons_append]
      exact ih.append_singleton last

/-- Every nonempty list has a greatest element. -/
theorem exists_greatestIn (values : List α) (last : α) :
    ∃ greatest, GreatestIn (values ++ [last]) greatest := by
  cases values with
  | nil => exact ⟨last, greatestIn_singleton last⟩
  | cons first rest => exact ⟨_, (greatestIn_foldl_max first rest).append_singleton last⟩

/-- Raise a running maximum to an element, starting over at the blank. -/
def raise (blank : α) (peak : Option α) (value : α) : α :=
  max (peak.elim value fun peak => if peak = blank then value else peak) value

/-- The running maximum of a list. -/
def runningPeak (blank : α) (values : List α) : Option α :=
  values.foldl (fun peak value => some (raise blank peak value)) none

theorem runningPeak_append_singleton (blank : α) (values : List α) (last : α) :
    runningPeak blank (values ++ [last]) = some (raise blank (runningPeak blank values) last) := by
  rw [runningPeak, List.foldl_append]
  rfl

/-- The blank is the greatest element and the last one is smaller. -/
def Forgotten (blank greatest last : α) : Prop := greatest = blank ∧ last < blank

/-- What a running maximum is to the greatest element: that element, or something below
the blank where it has been forgotten. -/
def Tracks (blank greatest last peak : α) : Prop :=
  (Forgotten blank greatest last ∧ peak < blank) ∨
    (¬ Forgotten blank greatest last ∧ peak = greatest)

/-- A running maximum that stands at the greatest element. -/
theorem tracks_raise_of_eq (blank greatest last : α) :
    Tracks blank (max greatest last) last (raise blank (some greatest) last) := by
  rw [raise, Option.elim_some]
  split
  next hblank =>
    rw [hblank, max_self]
    rcases lt_or_ge last blank with hlow | hhigh
    · exact .inl ⟨⟨max_eq_left hlow.le, hlow⟩, hlow⟩
    · rw [max_eq_right hhigh]
      exact .inr ⟨fun hforgot => hforgot.2.not_ge hhigh, rfl⟩
  next hne =>
    refine .inr ⟨fun ⟨heq, hlow⟩ => ?_, rfl⟩
    rcases max_choice greatest last with hmax | hmax
    · exact hne (hmax.symm.trans heq)
    · exact hlow.ne (hmax.symm.trans heq)

/-- A running maximum below the blank, where the greatest element was the blank. -/
theorem tracks_raise_of_lt {blank peak : α} (hpeak : peak < blank) (last : α) :
    Tracks blank (max blank last) last (raise blank (some peak) last) := by
  rw [raise, Option.elim_some, if_neg hpeak.ne]
  rcases lt_or_ge last blank with hlow | hhigh
  · exact .inl ⟨⟨max_eq_left hlow.le, hlow⟩, max_lt hpeak hlow⟩
  · rw [max_eq_right hhigh]
    exact .inr ⟨fun hforgot => hforgot.2.not_ge hhigh, max_eq_right (hpeak.le.trans hhigh)⟩

/-- The running maximum of a nonempty list tracks its greatest element. -/
theorem tracks_runningPeak (blank : α) (values : List α) {last greatest : α}
    (h : GreatestIn (values ++ [last]) greatest) :
    Tracks blank greatest last (raise blank (runningPeak blank values) last) := by
  induction values using List.reverseRecOn generalizing last greatest with
  | nil =>
      have hlast : greatest = last := List.mem_singleton.mp h.1
      refine .inr ⟨fun hforgot => hforgot.2.ne (hlast ▸ hforgot.1), ?_⟩
      rw [hlast]
      exact max_self last
  | append_singleton values before ih =>
      obtain ⟨earlier, hearlier⟩ := exists_greatestIn values before
      have hgreatest : greatest = max earlier last :=
        h.unique (hearlier.append_singleton last)
      rw [runningPeak_append_singleton, hgreatest]
      rcases ih hearlier with ⟨hforgot, hpeak⟩ | ⟨-, hpeak⟩
      · rw [hforgot.1]
        exact tracks_raise_of_lt hpeak last
      · rw [hpeak]
        exact tracks_raise_of_eq blank earlier last

/-- The running maximum of a nonempty list is its greatest element exactly if that has
not been forgotten. -/
theorem runningPeak_eq_greatest_iff (blank : α) (values : List α) {last greatest : α}
    (h : GreatestIn (values ++ [last]) greatest) :
    runningPeak blank (values ++ [last]) = some greatest ↔ ¬ Forgotten blank greatest last := by
  rw [runningPeak_append_singleton, Option.some.injEq]
  rcases tracks_runningPeak blank values h with ⟨hforgot, hpeak⟩ | ⟨hkept, hpeak⟩
  · exact iff_of_false (fun heq => hpeak.ne (heq.trans hforgot.1)) (not_not.mpr hforgot)
  · exact iff_of_true hpeak hkept

end TrueFan.Foundations
