/-
# Runs of a deterministic transition function

A component answers every event with an outcome and a next state. A run keeps,
for each event, the state it found, the outcome and the state it left, so a
property of one call inside a long history is a property of one record. The
outcome of a call may be an exception; the state it leaves counts either way.
-/

import Mathlib.Algebra.BigOperators.Group.List.Basic
import Mathlib.Data.List.Basic
import Mathlib.Order.Defs.PartialOrder

namespace TrueFan.Foundations

universe us ue uo

variable {State : Type us} {Event : Type ue} {Outcome : Type uo}

/-- One event of a run together with what it found and what it left. -/
structure Record (State : Type us) (Event : Type ue) (Outcome : Type uo) where
  before : State
  event : Event
  outcome : Outcome
  after : State

variable (step : State → Event → Outcome × State)

/-- The state in which a run ends. -/
def finalState : State → List Event → State
  | state, [] => state
  | state, event :: rest => finalState (step state event).2 rest

/-- The records of a run, oldest first. -/
def records : State → List Event → List (Record State Event Outcome)
  | _, [] => []
  | state, event :: rest =>
      ⟨state, event, (step state event).1, (step state event).2⟩ ::
        records (step state event).2 rest

@[simp]
theorem finalState_nil (state : State) : finalState step state [] = state := rfl

@[simp]
theorem finalState_cons (state : State) (event : Event) (rest : List Event) :
    finalState step state (event :: rest) = finalState step (step state event).2 rest := rfl

@[simp]
theorem records_nil (state : State) : records step state [] = [] := rfl

@[simp]
theorem records_cons (state : State) (event : Event) (rest : List Event) :
    records step state (event :: rest) =
      ⟨state, event, (step state event).1, (step state event).2⟩ ::
        records step (step state event).2 rest := rfl

/-- What every step preserves holds at the end of every run. -/
theorem finalState_invariant {invariant : State → Prop}
    (preserved : ∀ state event, invariant state → invariant (step state event).2)
    {state : State} (initial : invariant state) (events : List Event) :
    invariant (finalState step state events) := by
  induction events generalizing state with
  | nil => exact initial
  | cons event rest ih => exact ih (preserved state event initial)

/-- What every step preserves holds before every event of every run. -/
theorem records_invariant {invariant : State → Prop}
    (preserved : ∀ state event, invariant state → invariant (step state event).2)
    {state : State} (initial : invariant state) (events : List Event) :
    ∀ record ∈ records step state events, invariant record.before := by
  induction events generalizing state with
  | nil => simp
  | cons event rest ih =>
      intro record hmem
      rcases List.mem_cons.mp hmem with rfl | hlater
      · exact initial
      · exact ih (preserved state event initial) record hlater

/-- A record is one step of the transition function. -/
theorem step_of_mem_records {state : State} {events : List Event}
    {record : Record State Event Outcome} (hmem : record ∈ records step state events) :
    step record.before record.event = (record.outcome, record.after) := by
  induction events generalizing state with
  | nil => simp at hmem
  | cons event rest ih =>
      rcases List.mem_cons.mp hmem with rfl | hlater
      · rfl
      · exact ih hlater

/-- Cutting the records of a run cuts the run. -/
theorem exists_of_records_eq_append {state : State} {events : List Event}
    {earlier later : List (Record State Event Outcome)}
    (h : records step state events = earlier ++ later) :
    ∃ first second, events = first ++ second ∧ records step state first = earlier ∧
      records step (finalState step state first) second = later := by
  induction earlier generalizing state events with
  | nil => exact ⟨[], events, rfl, rfl, h⟩
  | cons record earlier ih =>
      cases events with
      | nil => cases h
      | cons event rest =>
          obtain ⟨hrecord, hrest⟩ := List.cons.inj h
          obtain ⟨first, second, hevents, hfirst, hsecond⟩ := ih hrest
          refine ⟨event :: first, second, congrArg (event :: ·) hevents, ?_, hsecond⟩
          rw [records_cons, hrecord, hfirst]

/-- The record at a cut finds the state the run before it left. -/
theorem before_of_records_eq_append_cons {state : State} {events : List Event}
    {earlier later : List (Record State Event Outcome)} {record : Record State Event Outcome}
    (h : records step state events = earlier ++ record :: later) :
    ∃ first, records step state first = earlier ∧ record.before = finalState step state first := by
  obtain ⟨first, second, -, hfirst, hsecond⟩ := exists_of_records_eq_append step h
  cases second with
  | nil => cases hsecond
  | cons event rest =>
      obtain ⟨rfl, -⟩ := List.cons.inj hsecond
      exact ⟨first, hfirst, rfl⟩

/-- What the steps of one run preserve holds before and after each of them. -/
theorem records_invariant_of_preserved {invariant : State → Prop} {state : State}
    (initial : invariant state) {events : List Event}
    (preserved : ∀ record ∈ records step state events,
      invariant record.before → invariant record.after) :
    ∀ record ∈ records step state events, invariant record.before ∧ invariant record.after := by
  induction events generalizing state with
  | nil => simp
  | cons event rest ih =>
      rw [records_cons, List.forall_mem_cons] at preserved ⊢
      have hnext := preserved.1 initial
      exact ⟨⟨initial, hnext⟩, ih hnext preserved.2⟩

/-- What the steps of one run preserve holds at its end. -/
theorem finalState_invariant_of_preserved {invariant : State → Prop} {state : State}
    (initial : invariant state) {events : List Event}
    (preserved : ∀ record ∈ records step state events,
      invariant record.before → invariant record.after) :
    invariant (finalState step state events) := by
  induction events generalizing state with
  | nil => exact initial
  | cons event rest ih =>
      rw [records_cons, List.forall_mem_cons] at preserved
      exact ih (preserved.1 initial) preserved.2

/-- What the records after a cut preserve still holds at the end of the run. -/
theorem finalState_of_cut {invariant : State → Prop} {state : State} {events : List Event}
    {earlier later : List (Record State Event Outcome)} {record : Record State Event Outcome}
    (h : records step state events = earlier ++ record :: later)
    (established : invariant record.after)
    (preserved : ∀ next ∈ later, invariant next.before → invariant next.after) :
    invariant (finalState step state events) := by
  induction earlier generalizing state events with
  | nil =>
      cases events with
      | nil => cases h
      | cons event rest =>
          rw [records_cons, List.nil_append, List.cons.injEq] at h
          obtain ⟨rfl, rfl⟩ := h
          exact finalState_invariant_of_preserved step established preserved
  | cons first earlier ih =>
      cases events with
      | nil => cases h
      | cons event rest =>
          rw [finalState_cons]
          exact ih (List.cons.inj h).2

/-- What holds at the end of a run has held from its start, or since a record that
established it. -/
theorem held_since {property : State → Prop} {state : State} {events : List Event}
    (h : property (finalState step state events)) :
    (property state ∧ ∀ record ∈ records step state events, property record.after) ∨
      ∃ earlier record later, records step state events = earlier ++ record :: later ∧
        ¬ property record.before ∧ property record.after ∧
        ∀ next ∈ later, property next.after := by
  induction events generalizing state with
  | nil => exact .inl ⟨h, List.forall_mem_nil _⟩
  | cons event rest ih =>
      rw [records_cons]
      rcases ih h with ⟨hnext, hrest⟩ | ⟨earlier, record, later, hrest, hsince⟩
      · by_cases hstate : property state
        · exact .inl ⟨hstate, List.forall_mem_cons.mpr ⟨hnext, hrest⟩⟩
        · exact .inr ⟨[], _, _, rfl, hstate, hnext, hrest⟩
      · exact .inr ⟨_ :: earlier, record, later, congrArg _ hrest, hsince⟩

/-- A measure that no step of a run lowers is sorted along the run. -/
theorem pairwise_le_of_records {Value : Type*} [Preorder Value] (measure : State → Value)
    {state : State} {events : List Event}
    (rises : ∀ record ∈ records step state events, measure record.before ≤ measure record.after) :
    (state :: (records step state events).map Record.after).Pairwise
      fun earlier later => measure earlier ≤ measure later := by
  have htrans : IsTrans State fun earlier later => measure earlier ≤ measure later :=
    ⟨fun _ _ _ => le_trans⟩
  rw [← List.isChain_iff_pairwise]
  induction events generalizing state with
  | nil => exact .singleton state
  | cons event rest ih =>
      rw [records_cons, List.forall_mem_cons] at rises
      rw [records_cons, List.map_cons]
      exact .cons_cons rises.1 (ih rises.2)

theorem event_mem_of_mem_records {state : State} {events : List Event}
    {record : Record State Event Outcome} (hmem : record ∈ records step state events) :
    record.event ∈ events := by
  induction events generalizing state with
  | nil => simp at hmem
  | cons event rest ih =>
      rcases List.mem_cons.mp hmem with rfl | hlater
      · exact List.mem_cons_self
      · exact List.mem_cons_of_mem event (ih hlater)

/-- What every step adds to a history, and keeps of it and the state it leaves, holds of every
run and its end. -/
theorem records_accounted {accounted : List (Record State Event Outcome) → State → Prop}
    (extended : ∀ history state event, accounted history state →
      accounted (history ++ [⟨state, event, (step state event).1, (step state event).2⟩])
        (step state event).2)
    {state : State} (initial : accounted [] state) (events : List Event) :
    accounted (records step state events) (finalState step state events) := by
  have hrun (history : List (Record State Event Outcome)) {state : State}
      (h : accounted history state) :
      accounted (history ++ records step state events) (finalState step state events) := by
    induction events generalizing history state with
    | nil => simpa using h
    | cons event rest ih => simpa using ih _ (extended history state event h)
  exact hrun [] initial

/-- If every step that keeps to the invariant takes up and gives back what it holds more or
less of, the whole run does. -/
theorem sum_balance {Amount : Type*} [AddCommMonoid Amount] (invariant : State → Prop)
    (held : State → Amount) (begins ends : Record State Event Outcome → Amount)
    (preserved : ∀ state event, invariant state → invariant (step state event).2)
    (balanced : ∀ state event, invariant state →
      ends ⟨state, event, (step state event).1, (step state event).2⟩ +
          held (step state event).2 =
        held state + begins ⟨state, event, (step state event).1, (step state event).2⟩)
    {state : State} (initial : invariant state) (events : List Event) :
    ((records step state events).map ends).sum + held (finalState step state events) =
      held state + ((records step state events).map begins).sum := by
  induction events generalizing state with
  | nil => simp
  | cons event rest ih =>
      have hstep := balanced state event initial
      have hrest := ih (preserved state event initial)
      rw [records_cons, finalState_cons, List.map_cons, List.map_cons, List.sum_cons,
        List.sum_cons, add_assoc, hrest, ← add_assoc, hstep, add_assoc]

/-- The same of what is counted. -/
theorem countP_balance (invariant : State → Prop) (held : State → ℕ)
    (begins ends : Record State Event Outcome → Bool)
    (preserved : ∀ state event, invariant state → invariant (step state event).2)
    (balanced : ∀ state event, invariant state →
      (if ends ⟨state, event, (step state event).1, (step state event).2⟩ then 1 else 0) +
          held (step state event).2 =
        held state +
          if begins ⟨state, event, (step state event).1, (step state event).2⟩ then 1 else 0)
    {state : State} (initial : invariant state) (events : List Event) :
    (records step state events).countP ends + held (finalState step state events) =
      held state + (records step state events).countP begins := by
  have hcount (kind : Record State Event Outcome → Bool)
      (history : List (Record State Event Outcome)) :
      (history.map fun record => if kind record then 1 else 0).sum = history.countP kind := by
    induction history with
    | nil => rfl
    | cons record rest ih => rw [List.map_cons, List.sum_cons, ih, List.countP_cons, add_comm]
  have hbalance := sum_balance step invariant held (fun record => if begins record then 1 else 0)
    (fun record => if ends record then 1 else 0) preserved balanced initial events
  rwa [hcount, hcount] at hbalance

/-! ## The last record of a kind -/

/-- The record is the last of its kind in the history, and these have followed it. -/
structure LastOf (kind : Record State Event Outcome → Prop)
    (history since : List (Record State Event Outcome)) (record : Record State Event Outcome) :
    Prop where
  cut : ∃ earlier, history = earlier ++ record :: since
  isKind : kind record
  noneSince : ∀ next ∈ since, ¬ kind next

section LastOf

variable {kind : Record State Event Outcome → Prop}
  {history since : List (Record State Event Outcome)} {record next : Record State Event Outcome}

theorem lastOf_concat (history : List (Record State Event Outcome)) (h : kind record) :
    LastOf kind (history ++ [record]) [] record where
  cut := ⟨history, rfl⟩
  isKind := h
  noneSince := List.forall_mem_nil _

/-- It stays the last if another kind follows. -/
theorem LastOf.concat (last : LastOf kind history since record) (h : ¬ kind next) :
    LastOf kind (history ++ [next]) (since ++ [next]) record where
  cut := by
    obtain ⟨earlier, rfl⟩ := last.cut
    exact ⟨earlier, by simp⟩
  isKind := last.isKind
  noneSince := List.forall_mem_append.mpr ⟨last.noneSince, List.forall_mem_singleton.mpr h⟩

end LastOf

section

variable {State' : Type us} {Event' : Type ue} {Outcome' : Type uo}

/-- Two components that take their steps together. -/
def sideBySide (step : State → Event → Outcome × State)
    (step' : State' → Event' → Outcome' × State') (states : State × State')
    (events : Event × Event') : (Outcome × Outcome') × (State × State') :=
  (((step states.1 events.1).1, (step' states.2 events.2).1),
    ((step states.1 events.1).2, (step' states.2 events.2).2))

/-- The first component of a run side by side is a run of the first component. -/
theorem finalState_sideBySide_fst (step' : State' → Event' → Outcome' × State')
    (states : State × State') (events : List (Event × Event')) :
    (finalState (sideBySide step step') states events).1 =
      finalState step states.1 (events.map Prod.fst) := by
  induction events generalizing states with
  | nil => rfl
  | cons event rest ih => exact ih _

/-- The second component of a run side by side is a run of the second component. -/
theorem finalState_sideBySide_snd (step' : State' → Event' → Outcome' × State')
    (states : State × State') (events : List (Event × Event')) :
    (finalState (sideBySide step step') states events).2 =
      finalState step' states.2 (events.map Prod.snd) := by
  induction events generalizing states with
  | nil => rfl
  | cons event rest ih => exact ih _

end

end TrueFan.Foundations
