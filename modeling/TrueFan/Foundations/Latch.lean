/-
# A set-reset latch over a history

A latch remembers one bit. Events that raise it set the bit, events that lower
it clear the bit, all others leave it alone, and raising wins when an event
does both. What the bit says about an arbitrary history is a statement about
the last event that touched it; this module proves that once.
-/

import Mathlib.Data.List.Basic

namespace TrueFan.Foundations

universe u

variable {Event : Type u} (raises lowers : Event → Prop)
  [DecidablePred raises] [DecidablePred lowers]

/-- What one event does to the latch. -/
def latchStep (latched : Bool) (event : Event) : Bool :=
  if raises event then true else if lowers event then false else latched

/-- The latch after a history. -/
def latchRun (latched : Bool) (history : List Event) : Bool :=
  history.foldl (latchStep raises lowers) latched

@[simp]
theorem latchRun_nil (latched : Bool) : latchRun raises lowers latched [] = latched := rfl

@[simp]
theorem latchRun_cons (latched : Bool) (event : Event) (rest : List Event) :
    latchRun raises lowers latched (event :: rest) =
      latchRun raises lowers (latchStep raises lowers latched event) rest := rfl

variable {raises lowers}

theorem latchStep_eq_true_iff (latched : Bool) (event : Event) :
    latchStep raises lowers latched event = true ↔
      raises event ∨ (latched = true ∧ ¬ lowers event) := by
  rw [latchStep]
  split
  next hraise => simp [hraise]
  next hraise =>
    split
    next hlower => simp [hraise, hlower]
    next hlower => simp [hraise, hlower]

/-- The latch is up after a history exactly when it was up before it, or some
event raised it, and no later event lowered it. -/
theorem latchRun_eq_true_iff (latched : Bool) (history : List Event) :
    latchRun raises lowers latched history = true ↔
      (latched = true ∧ ∀ event ∈ history, ¬ lowers event) ∨
      ∃ earlier event later, history = earlier ++ event :: later ∧
        raises event ∧ ∀ event ∈ later, ¬ lowers event := by
  induction history generalizing latched with
  | nil => simp
  | cons head rest ih =>
      rw [latchRun_cons, ih, latchStep_eq_true_iff]
      constructor
      · rintro (⟨hraise | ⟨hlatched, hhead⟩, hrest⟩ | ⟨earlier, event, later, rfl, hraise, hlater⟩)
        · exact .inr ⟨[], head, rest, rfl, hraise, hrest⟩
        · exact .inl ⟨hlatched, List.forall_mem_cons.mpr ⟨hhead, hrest⟩⟩
        · exact .inr ⟨head :: earlier, event, later, rfl, hraise, hlater⟩
      · rintro (⟨hlatched, hall⟩ | ⟨earlier, event, later, hsplit, hraise, hlater⟩)
        · obtain ⟨hhead, hrest⟩ := List.forall_mem_cons.mp hall
          exact .inl ⟨.inr ⟨hlatched, hhead⟩, hrest⟩
        · cases earlier with
          | nil =>
              obtain ⟨rfl, rfl⟩ := List.cons.inj hsplit
              exact .inl ⟨.inl hraise, hlater⟩
          | cons first earlier =>
              obtain ⟨rfl, rfl⟩ := List.cons.inj hsplit
              exact .inr ⟨earlier, event, later, rfl, hraise, hlater⟩

end TrueFan.Foundations
