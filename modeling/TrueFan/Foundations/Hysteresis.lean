/-
# A latch with hysteresis does not chatter

A latch is raised when the level of some source reaches the top of a band, and lowered only
when all levels are at the bottom of theirs. Between being lowered and being raised again some
level has climbed through its whole band. The latch is therefore raised no more often than the
levels climb through bands in all, and once more if it was down at the start. Climbs that stay
inside the bands count like any others.

Levels are measured in bands, from 0 at the bottom to 1 at the top, and an event need not
carry a level of every source. The bound is proved with the part of a climb that lies behind
as a credit.
-/

import Mathlib.Algebra.BigOperators.Group.Finset.Basic
import Mathlib.Algebra.Order.BigOperators.Group.Finset
import Mathlib.Algebra.Order.Ring.Cast
import Mathlib.Data.Nat.Cast.Order.Ring
import Mathlib.Tactic.Linarith
import TrueFan.Foundations.Latch

namespace TrueFan.Foundations

open Finset

universe u v w

section Climb

variable {Level : Type w} [CommRing Level] [LinearOrder Level]

/-- How far a level has climbed. One that was never seen has not. -/
def climbStep : Option Level → Option Level → Level
  | some last, some next => max 0 (next - last)
  | _, _ => 0

/-- The total climb of a level that was last seen at `last`. -/
def climbFrom : Option Level → List (Option Level) → Level
  | _, [] => 0
  | last, next :: rest => climbStep last next + climbFrom (next.or last) rest

/-- The total climb of a level. -/
def climb (levels : List (Option Level)) : Level := climbFrom none levels

theorem climbStep_nonneg (last next : Option Level) : 0 ≤ climbStep last next := by
  cases last <;> cases next <;> simp [climbStep]

end Climb

section Rises

variable {Event : Type u} (raises lowers : Event → Prop)
  [DecidablePred raises] [DecidablePred lowers]

/-- How often the latch is raised over a history. -/
def rises : Bool → List Event → ℕ
  | _, [] => 0
  | latched, event :: rest =>
      (if latched = false ∧ latchStep raises lowers latched event = true then 1 else 0) +
        rises (latchStep raises lowers latched event) rest

end Rises

variable {Event : Type u} {Source : Type v} {Level : Type w}
  [CommRing Level] [LinearOrder Level] [IsStrictOrderedRing Level]

/-- What raises the latch has a level at the top of its band, and what lowers it has all
levels at the bottom. -/
structure Banded (raises lowers : Event → Prop) (level : Source → Event → Option Level) : Prop where
  nonneg : ∀ source event value, level source event = some value → 0 ≤ value
  top : ∀ event, raises event → ∃ source value, level source event = some value ∧ 1 ≤ value
  bottom : ∀ event, lowers event → ∀ source, level source event = some 0

variable [Fintype Source] (level : Source → Event → Option Level)

/-- What all levels climb together. -/
def totalFrom (last : Source → Option Level) (history : List Event) : Level :=
  ∑ source, climbFrom (last source) (history.map (level source))

omit [IsStrictOrderedRing Level] in
theorem totalFrom_cons (last : Source → Option Level) (event : Event) (history : List Event) :
    totalFrom level last (event :: history) =
      ∑ source, climbStep (last source) (level source event) +
        totalFrom level (fun source => (level source event).or (last source)) history := by
  rw [totalFrom, totalFrom, ← sum_add_distrib]
  rfl

theorem totalFrom_le_cons (last : Source → Option Level) (event : Event) (history : List Event) :
    totalFrom level (fun source => (level source event).or (last source)) history ≤
      totalFrom level last (event :: history) := by
  rw [totalFrom_cons]
  exact le_add_of_nonneg_left (sum_nonneg fun source _ => climbStep_nonneg _ _)

/-- What lies behind of a climb, with what is climbed in a step, reaches the next level. -/
theorem next_le_climbStep_add (value : Level) (next : Option Level) :
    next.getD value ≤ climbStep (some value) next + value := by
  cases next with
  | none => simp [climbStep]
  | some next =>
      have hmax := le_max_right 0 (next - value)
      simp only [climbStep, Option.getD_some]
      linarith

theorem totalFrom_add_le_cons (values : Source → Level) (event : Event) (history : List Event) :
    totalFrom level (fun source => some ((level source event).getD (values source))) history +
        ∑ source, (level source event).getD (values source) ≤
      totalFrom level (fun source => some (values source)) (event :: history) +
        ∑ source, values source := by
  have hcredit : ∑ source, (level source event).getD (values source) ≤
      ∑ source, climbStep (some (values source)) (level source event) +
        ∑ source, values source := by
    rw [← sum_add_distrib]
    exact sum_le_sum fun source _ => next_le_climbStep_add _ _
  have hlast : (fun source => (level source event).or (some (values source))) =
      fun source => some ((level source event).getD (values source)) := by
    funext source
    cases level source event with
    | none => rfl
    | some value => rfl
  rw [totalFrom_cons, hlast]
  linarith

variable {level} {raises lowers : Event → Prop} [DecidablePred raises] [DecidablePred lowers]

namespace Banded

omit [IsStrictOrderedRing Level] [Fintype Source] [DecidablePred raises]
  [DecidablePred lowers] in
/-- Levels that are known, or that an event carries, are not below the bottom. -/
theorem next_nonneg (banded : Banded raises lowers level) (event : Event)
    {values : Source → Level} (hvalues : ∀ source, 0 ≤ values source) (source : Source) :
    0 ≤ (level source event).getD (values source) := by
  cases hlevel : level source event with
  | none => exact hvalues source
  | some value => exact banded.nonneg source event value hlevel

omit [DecidablePred raises] [DecidablePred lowers] in
/-- A level at the top of its band has at least one band behind it. -/
theorem one_le_sum (banded : Banded raises lowers level) {event : Event} (hraise : raises event)
    {values : Source → Level} (hvalues : ∀ source, 0 ≤ values source) :
    1 ≤ ∑ source, (level source event).getD (values source) := by
  obtain ⟨source, value, hlevel, hvalue⟩ := banded.top event hraise
  have hsingle := single_le_sum (fun other _ => banded.next_nonneg event hvalues other)
    (mem_univ source)
  rw [hlevel, Option.getD_some] at hsingle
  exact hvalue.trans hsingle

omit [DecidablePred raises] [DecidablePred lowers] in
/-- What lowers the latch leaves no climb behind. -/
theorem totalFrom_of_lowers (banded : Banded raises lowers level) {event : Event}
    (hlower : lowers event) (last : Source → Option Level) (history : List Event) :
    totalFrom level (fun _ => some (0 : Level)) history ≤
      totalFrom level last (event :: history) := by
  have hlast : (fun other => (level other event).or (last other)) =
      fun _ => some (0 : Level) := by
    funext source
    rw [banded.bottom event hlower source, Option.some_or]
  have hcons := totalFrom_le_cons level last event history
  rwa [hlast] at hcons

/-- While the latch is up it is raised no more often than the levels climb through a band.
So it is when it is down, if what the levels have climbed before counts, and otherwise once
more. -/
theorem rises_le (banded : Banded raises lowers level) (history : List Event) :
    (∀ last, (rises raises lowers true history : Level) ≤ totalFrom level last history) ∧
    (∀ values : Source → Level, (∀ source, 0 ≤ values source) →
      (rises raises lowers false history : Level) ≤
        totalFrom level (fun source => some (values source)) history +
          ∑ source, values source) ∧
    ∀ last, (rises raises lowers false history : Level) ≤ totalFrom level last history + 1 := by
  induction history with
  | nil =>
      have hzero (last : Source → Option Level) : totalFrom level last [] = 0 := sum_const_zero
      refine ⟨fun last => ?_, fun values hvalues => ?_, fun last => ?_⟩
      · simp [rises, hzero]
      · simpa [rises, hzero] using sum_nonneg fun source _ => hvalues source
      · simp [rises, hzero]
  | cons event rest ih =>
      obtain ⟨hup, hpaid, hdown⟩ := ih
      have hpay (values : Source → Level) := totalFrom_add_le_cons level values event rest
      have hnext (last : Source → Option Level) :=
        totalFrom_le_cons level last event rest
      by_cases hraise : raises event
      · have hstep (latched : Bool) : latchStep raises lowers latched event = true := if_pos hraise
        refine ⟨fun last => ?_, fun values hvalues => ?_, fun last => ?_⟩
        · simpa [rises, hstep] using (hup _).trans (hnext last)
        · have hone := banded.one_le_sum hraise hvalues
          have hrest := hup fun source => some ((level source event).getD (values source))
          simp only [rises, hstep, and_self, if_true, Nat.cast_add, Nat.cast_one]
          linarith [hpay values]
        · have hrest := (hup _).trans (hnext last)
          simp only [rises, hstep, and_self, if_true, Nat.cast_add, Nat.cast_one]
          linarith
      by_cases hlower : lowers event
      · have hstep (latched : Bool) : latchStep raises lowers latched event = false := by
          rw [latchStep, if_neg hraise, if_pos hlower]
        have hbottom := hpaid (fun _ => 0) fun _ => le_rfl
        rw [sum_const_zero, add_zero] at hbottom
        have hcons (last : Source → Option Level) :=
          hbottom.trans (banded.totalFrom_of_lowers hlower last rest)
        refine ⟨fun last => ?_, fun values hvalues => ?_, fun last => ?_⟩
        · simpa [rises, hstep] using hcons last
        · have hsum := sum_nonneg fun source (_ : source ∈ univ) => hvalues source
          have hrest := hcons fun source => some (values source)
          simp only [rises, hstep, Bool.false_eq_true, and_false, if_false, zero_add]
          linarith
        · have hrest := hcons last
          simp only [rises, hstep, Bool.false_eq_true, and_false, if_false, zero_add]
          linarith
      · have hstep (latched : Bool) : latchStep raises lowers latched event = latched := by
          rw [latchStep, if_neg hraise, if_neg hlower]
        refine ⟨fun last => ?_, fun values hvalues => ?_, fun last => ?_⟩
        · simpa [rises, hstep] using (hup _).trans (hnext last)
        · have hrest := hpaid _ (banded.next_nonneg event hvalues)
          simp only [rises, hstep, Bool.false_eq_true, and_false, if_false, zero_add]
          linarith [hpay values]
        · have hrest := (hdown _).trans (add_le_add_left (hnext last) 1)
          simpa [rises, hstep] using hrest

/-- A latch that starts down is raised once, and again for each band climbed. -/
theorem rises_le_climb (banded : Banded raises lowers level) (latched : Bool)
    (history : List Event) :
    (rises raises lowers latched history : Level) ≤
      ∑ source, climb (history.map (level source)) + (if latched then 0 else 1) := by
  cases latched with
  | true => simpa [climb, totalFrom] using (banded.rises_le history).1 fun _ => none
  | false => simpa [climb, totalFrom] using (banded.rises_le history).2.2 fun _ => none

end Banded

end TrueFan.Foundations
