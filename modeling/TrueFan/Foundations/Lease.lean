/-
# Leases: one slot, one expiry

A slot holds at most one lease, a value with an expiry. Looking at the slot at
some time drops a lease that has run out; granting a lease replaces whatever the
slot held. If time never runs backwards, dropping early and replacing lose
nothing: at any later time the lease in force is the last one granted, if it has
not run out. A superseded lease never returns, however late it would expire.
-/

import Mathlib.Data.List.Basic
import Mathlib.Order.Lattice

namespace TrueFan.Foundations

universe uv ut

/-- A value in force until, and not at, its expiry. -/
structure Lease (Value : Type uv) (Time : Type ut) where
  value : Value
  expiry : Time
  deriving DecidableEq

/-- What can happen to the slot. An idle event is one that does not look at it. -/
inductive LeaseEvent (Value : Type uv) (Time : Type ut)
  | idle
  | observe (now : Time)
  | grant (now : Time) (lease : Lease Value Time)

namespace LeaseEvent

variable {Value : Type uv} {Time : Type ut}

/-- The event happens no later than `now`. -/
def By [LE Time] (now : Time) : LeaseEvent Value Time → Prop
  | .idle => True
  | .observe time => time ≤ now
  | .grant time _ => time ≤ now

/-- The lease an event grants. -/
def granted : LeaseEvent Value Time → Option (Lease Value Time)
  | .idle => none
  | .observe _ => none
  | .grant _ lease => some lease

end LeaseEvent

variable {Value : Type uv} {Time : Type ut} [LinearOrder Time]

/-- The lease in force at `now`, if the slot holds one that has not run out. -/
def inForce (now : Time) (slot : Option (Lease Value Time)) : Option (Lease Value Time) :=
  slot.filter fun lease => decide (now < lease.expiry)

/-- Looking at the slot drops what has run out; granting replaces it. -/
def leaseStep (slot : Option (Lease Value Time)) :
    LeaseEvent Value Time → Option (Lease Value Time)
  | .idle => slot
  | .observe now => inForce now slot
  | .grant _ lease => some lease

/-- The slot after a history. -/
def leaseRun (slot : Option (Lease Value Time)) (history : List (LeaseEvent Value Time)) :
    Option (Lease Value Time) :=
  history.foldl leaseStep slot

/-- The lease granted last, if any was. -/
def lastGrant (fallback : Option (Lease Value Time)) :
    List (LeaseEvent Value Time) → Option (Lease Value Time)
  | [] => fallback
  | event :: rest => lastGrant (event.granted <|> fallback) rest

theorem inForce_eq_some_iff {now : Time} {slot : Option (Lease Value Time)}
    {lease : Lease Value Time} :
    inForce now slot = some lease ↔ slot = some lease ∧ now < lease.expiry := by
  simp [inForce, Option.filter_eq_some_iff]

/-- What has run out at one time has run out at every later time, so an earlier
look at the slot cannot be told from none. -/
theorem inForce_inForce {earlier later : Time} (h : earlier ≤ later)
    (slot : Option (Lease Value Time)) :
    inForce later (inForce earlier slot) = inForce later slot := by
  cases slot with
  | none => rfl
  | some lease =>
      by_cases hlater : later < lease.expiry
      · simp [inForce, Option.filter, hlater, h.trans_lt hlater]
      · by_cases hearlier : earlier < lease.expiry <;>
          simp [inForce, Option.filter, hlater, hearlier]

/-- After a history up to now, the lease in force is the last one granted, as long
as it has not run out. -/
theorem inForce_leaseRun {now : Time} (history : List (LeaseEvent Value Time))
    (past : ∀ event ∈ history, event.By now)
    {slot fallback : Option (Lease Value Time)}
    (agree : inForce now slot = inForce now fallback) :
    inForce now (leaseRun slot history) = inForce now (lastGrant fallback history) := by
  induction history generalizing slot fallback with
  | nil => exact agree
  | cons event rest ih =>
      obtain ⟨hevent, hrest⟩ := List.forall_mem_cons.mp past
      cases event with
      | idle => exact ih hrest agree
      | observe time => exact ih hrest ((inForce_inForce hevent slot).trans agree)
      | grant time lease => exact ih hrest rfl

omit [LinearOrder Time] in
/-- The last grant is the one no later event replaced. -/
theorem lastGrant_eq_some_iff {history : List (LeaseEvent Value Time)}
    {fallback : Option (Lease Value Time)} {lease : Lease Value Time} :
    lastGrant fallback history = some lease ↔
      (fallback = some lease ∧ ∀ event ∈ history, event.granted = none) ∨
      ∃ earlier event later, history = earlier ++ event :: later ∧
        event.granted = some lease ∧ ∀ event ∈ later, event.granted = none := by
  induction history generalizing fallback with
  | nil => simp [lastGrant]
  | cons head rest ih =>
      have horElse : (head.granted <|> fallback) = some lease ↔
          head.granted = some lease ∨ (fallback = some lease ∧ head.granted = none) := by
        cases head.granted with
        | none => simp
        | some granted => simp
      rw [lastGrant, ih, horElse]
      constructor
      · rintro (⟨hgrant | ⟨hfallback, hhead⟩, hrest⟩ | ⟨earlier, event, later, rfl, hgrant, hlater⟩)
        · exact .inr ⟨[], head, rest, rfl, hgrant, hrest⟩
        · exact .inl ⟨hfallback, List.forall_mem_cons.mpr ⟨hhead, hrest⟩⟩
        · exact .inr ⟨head :: earlier, event, later, rfl, hgrant, hlater⟩
      · rintro (⟨hfallback, hall⟩ | ⟨earlier, event, later, hsplit, hgrant, hlater⟩)
        · obtain ⟨hhead, hrest⟩ := List.forall_mem_cons.mp hall
          exact .inl ⟨.inr ⟨hfallback, hhead⟩, hrest⟩
        · cases earlier with
          | nil =>
              obtain ⟨rfl, rfl⟩ := List.cons.inj hsplit
              exact .inl ⟨.inl hgrant, hlater⟩
          | cons first earlier =>
              obtain ⟨rfl, rfl⟩ := List.cons.inj hsplit
              exact .inr ⟨earlier, event, later, rfl, hgrant, hlater⟩

end TrueFan.Foundations
