/-
# Simulations

One component simulates another if related states answer every event alike and stay
related. What holds of every step of the second then holds, in its terms, of every step
of every run of the first. Where the two have events of their own, an event of the first may
also come to nothing in the second; such events can be left out of a run. What an event comes to
may depend on the state it finds; the run of the second is then read off the run of the first.
-/

import TrueFan.Foundations.Run

namespace TrueFan.Foundations

variable {State State' Event Outcome Outcome' : Type*}

/-- Related states answer every event alike, and stay related. -/
structure Simulation (step : State → Event → Outcome × State)
    (step' : State' → Event → Outcome' × State') (related : State → State' → Prop)
    (agrees : Outcome → Outcome' → Prop) : Prop where
  answer : ∀ {state state'} event, related state state' →
    agrees (step state event).1 (step' state' event).1
  next : ∀ {state state'} event, related state state' →
    related (step state event).2 (step' state' event).2

/-- Two records of the same event, alike in what they found, answered and left. -/
structure Record.Matches (related : State → State' → Prop) (agrees : Outcome → Outcome' → Prop)
    (record : Record State Event Outcome) (record' : Record State' Event Outcome') : Prop where
  event : record.event = record'.event
  before : related record.before record'.before
  outcome : agrees record.outcome record'.outcome
  after : related record.after record'.after

namespace Simulation

variable {step : State → Event → Outcome × State} {step' : State' → Event → Outcome' × State'}
  {related : State → State' → Prop} {agrees : Outcome → Outcome' → Prop}
  {state : State} {state' : State'}

/-- Every record of a run is one of the simulated run. -/
theorem exists_record (simulation : Simulation step step' related agrees)
    (h : related state state') {events : List Event} {record : Record State Event Outcome}
    (hmem : record ∈ records step state events) :
    ∃ record' ∈ records step' state' events, record.Matches related agrees record' := by
  induction events generalizing state state' with
  | nil => cases hmem
  | cons event rest ih =>
      rw [records_cons] at hmem
      rw [records_cons]
      rcases List.mem_cons.mp hmem with rfl | hlater
      · refine ⟨_, List.mem_cons_self, rfl, h, ?_, ?_⟩
        · exact simulation.answer event h
        · exact simulation.next event h
      · obtain ⟨record', hmem', hmatches⟩ := ih (simulation.next event h) hlater
        exact ⟨record', List.mem_cons_of_mem _ hmem', hmatches⟩

end Simulation

section Refinement

variable {Event' : Type*}

/-- As far as the view goes, every event of the first component is one of the second or comes
to nothing. -/
structure Refinement (step : State → Event → Outcome × State)
    (step' : State' → Event' → Outcome' × State') (view : State → State')
    (counterpart : Event → Option Event') : Prop where
  moves : ∀ {state event event'}, counterpart event = some event' →
    view (step state event).2 = (step' (view state) event').2
  rests : ∀ {state event}, counterpart event = none → view (step state event).2 = view state

variable {step : State → Event → Outcome × State} {step' : State' → Event' → Outcome' × State'}
  {view : State → State'} {counterpart : Event → Option Event'}

/-- A run leaves what the run of its counterparts leaves. -/
theorem Refinement.view_finalState (refinement : Refinement step step' view counterpart)
    (state : State) (events : List Event) :
    view (finalState step state events) =
      finalState step' (view state) (events.filterMap counterpart) := by
  induction events generalizing state with
  | nil => rfl
  | cons event rest ih =>
      rw [finalState_cons, ih]
      cases hevent : counterpart event with
      | none => rw [List.filterMap_cons_none hevent, refinement.rests hevent]
      | some event' =>
          rw [List.filterMap_cons_some hevent, finalState_cons, refinement.moves hevent]

end Refinement

section Projection

variable {Event' : Type*}

/-- If every event comes to the one that its counterpart names in the state it finds, or to
nothing, a run leaves what the run of these leaves. -/
theorem view_finalState_of_step {step : State → Event → Outcome × State}
    {step' : State' → Event' → Outcome' × State'} {view : State → State'}
    {counterpart : State → Event → Option Event'}
    (follows : ∀ state event, view (step state event).2 =
      (counterpart state event).elim (view state) fun event' => (step' (view state) event').2)
    (state : State) (events : List Event) :
    view (finalState step state events) =
      finalState step' (view state) ((records step state events).filterMap
        fun record => counterpart record.before record.event) := by
  induction events generalizing state with
  | nil => rfl
  | cons event rest ih =>
      have hstep := follows state event
      rw [finalState_cons, ih, records_cons, List.filterMap_cons]
      dsimp only
      cases hevent : counterpart state event with
      | none =>
          rw [hevent, Option.elim_none] at hstep
          rw [hstep]
      | some event' =>
          rw [hevent, Option.elim_some] at hstep
          dsimp only
          rw [finalState_cons, hstep]

/-- Under an invariant every event of the first component is, as far as the view goes, the event
of the second that its counterpart names in the state it finds, or it comes to nothing. -/
structure Projection (step : State → Event → Outcome × State)
    (step' : State' → Event' → Outcome' × State') (invariant : State → Prop)
    (view : State → State') (counterpart : State → Event → Option Event')
    (answer : Outcome → Outcome') : Prop where
  preserved : ∀ state event, invariant state → invariant (step state event).2
  moves : ∀ {state event event'}, invariant state → counterpart state event = some event' →
    step' (view state) event' = (answer (step state event).1, view (step state event).2)
  rests : ∀ {state event}, invariant state → counterpart state event = none →
    view (step state event).2 = view state

/-- The record of the second component that a record of the first comes to. -/
def Record.project (view : State → State') (counterpart : State → Event → Option Event')
    (answer : Outcome → Outcome') (record : Record State Event Outcome) :
    Option (Record State' Event' Outcome') :=
  (counterpart record.before record.event).map fun event' =>
    ⟨view record.before, event', answer record.outcome, view record.after⟩

namespace Projection

variable {step : State → Event → Outcome × State} {step' : State' → Event' → Outcome' × State'}
  {invariant : State → Prop} {view : State → State'}
  {counterpart : State → Event → Option Event'} {answer : Outcome → Outcome'}

/-- The records of a run of the first component are, projected, the records of a run of the
second, and the two runs end alike. -/
theorem records_eq (projection : Projection step step' invariant view counterpart answer)
    {state : State} (initial : invariant state) (events : List Event) :
    ∃ events', records step' (view state) events' =
        (records step state events).filterMap (Record.project view counterpart answer) ∧
      finalState step' (view state) events' = view (finalState step state events) := by
  induction events generalizing state with
  | nil => exact ⟨[], rfl, rfl⟩
  | cons event rest ih =>
      obtain ⟨events', hrecords, hfinal⟩ := ih (projection.preserved state event initial)
      rw [records_cons, finalState_cons]
      cases hevent : counterpart state event with
      | none =>
          have hsame := projection.rests initial hevent
          rw [hsame] at hrecords hfinal
          refine ⟨events', ?_, hfinal⟩
          rw [hrecords, List.filterMap_cons_none]
          rw [Record.project, hevent]
          rfl
      | some event' =>
          have hmoves := projection.moves initial hevent
          refine ⟨event' :: events', ?_, ?_⟩
          · rw [records_cons, hmoves, hrecords]
            apply Eq.symm
            apply List.filterMap_cons_some
            rw [Record.project, hevent]
            rfl
          · rw [finalState_cons, hmoves, hfinal]

end Projection

end Projection

section Hidden

variable {step : State → Event → Outcome × State} {hidden : Event → Bool}

/-- Events that change nothing can be left out of a run: what is found, answered and left at
all others stays the same. -/
theorem records_filter_of_hidden
    (rests : ∀ state event, hidden event = true → (step state event).2 = state) (state : State)
    (events : List Event) :
    (records step state events).filter (fun record => !hidden record.event) =
      records step state (events.filter fun event => !hidden event) := by
  induction events generalizing state with
  | nil => rfl
  | cons event rest ih =>
      by_cases hevent : hidden event = true
      · simp [hevent, ih, rests state event hevent]
      · simp [hevent, ih]

end Hidden

end TrueFan.Foundations
