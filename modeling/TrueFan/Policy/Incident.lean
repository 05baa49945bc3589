/-
# The incident latch as history

`previous_hot` is one bit, changed in two branches behind early returns, saved,
and reloaded after a restart. What it says is simple: an incident was open at the
start or was opened by a hot status, and no status evaluated since then closed it.
Every change of the control state moves the bit as a latch does, so the statement
about histories is the general one about latches.
-/

import TrueFan.Foundations.Latch
import TrueFan.Policy.Run

namespace TrueFan

open Python Foundations

/-- A status that closes an incident: not hot, no failed source, and both required
readings at or below their recovery bounds. -/
def BackendStatus.Recovered (status : BackendStatus) : Prop :=
  ¬ status.Hot ∧ status.sensorOk = true ∧
    ∃ cpu drive, status.temperatures.cpuC = some cpu ∧ status.temperatures.maxDriveC = some drive ∧
      atMost drive recoverDriveC = true ∧ atMost cpu recoverCpuC = true

namespace BackendStatus

variable {status : BackendStatus}

theorem band_eq_hot_iff : status.band = .hot ↔ status.Hot := by
  constructor
  · intro hband
    by_contra hhot
    rw [band, if_neg hhot] at hband
    split at hband
    · split at hband <;> cases hband
    · cases hband
  · exact band_of_hot

theorem band_eq_recovered_iff : status.band = .recovered ↔ status.Recovered := by
  constructor
  · intro hband
    rw [band] at hband
    split at hband
    next => cases hband
    next hhot =>
      split at hband
      next cpu drive hok hcpu hdrive =>
        split at hband
        next hrecovered =>
          obtain ⟨hdriveLow, hcpuLow⟩ := Bool.and_eq_true_iff.mp hrecovered
          exact ⟨hhot, hok, cpu, drive, hcpu, hdrive, hdriveLow, hcpuLow⟩
        next => cases hband
      next => cases hband
  · rintro ⟨hhot, hok, cpu, drive, hcpu, hdrive, hdriveLow, hcpuLow⟩
    rw [band_of_readings hhot hok hcpu hdrive, hdriveLow, hcpuLow]
    rfl

instance : Decidable status.Recovered :=
  decidable_of_iff _ band_eq_recovered_iff

end BackendStatus

theorem Band.nextLatch_eq (latched : Bool) (status : BackendStatus) :
    status.band.nextLatch latched =
      if status.Hot then true else if status.Recovered then false else latched := by
  by_cases hhot : status.Hot
  · rw [if_pos hhot, BackendStatus.band_of_hot hhot]
    rfl
  by_cases hrecovered : status.Recovered
  · rw [if_neg hhot, if_pos hrecovered, BackendStatus.band_eq_recovered_iff.mpr hrecovered]
    rfl
  · rw [if_neg hhot, if_neg hrecovered]
    cases hband : status.band with
    | hot => exact absurd (BackendStatus.band_eq_hot_iff.mp hband) hhot
    | recovered => exact absurd (BackendStatus.band_eq_recovered_iff.mp hband) hrecovered
    | failed => rfl
    | warm => rfl

namespace PolicyEvent

/-- The event evaluates a hot status. -/
def Opens (event : PolicyEvent) : Prop :=
  ∃ now status, event.evaluation = some (now, status) ∧ status.Hot

/-- The event evaluates a recovered status. -/
def Closes (event : PolicyEvent) : Prop :=
  ∃ now status, event.evaluation = some (now, status) ∧ status.Recovered

variable {event : PolicyEvent}

theorem opens_iff {now : Clock} {status : BackendStatus}
    (h : event.evaluation = some (now, status)) : event.Opens ↔ status.Hot := by
  constructor
  · rintro ⟨now', status', h', hhot⟩
    rw [h] at h'
    cases h'
    exact hhot
  · exact fun hhot => ⟨now, status, h, hhot⟩

theorem closes_iff {now : Clock} {status : BackendStatus}
    (h : event.evaluation = some (now, status)) : event.Closes ↔ status.Recovered := by
  constructor
  · rintro ⟨now', status', h', hrecovered⟩
    rw [h] at h'
    cases h'
    exact hrecovered
  · exact fun hrecovered => ⟨now, status, h, hrecovered⟩

theorem not_opens_of_unevaluated (h : event.evaluation = none) : ¬ event.Opens := by
  rintro ⟨now, status, h', -⟩
  rw [h] at h'
  cases h'

theorem not_closes_of_unevaluated (h : event.evaluation = none) : ¬ event.Closes := by
  rintro ⟨now, status, h', -⟩
  rw [h] at h'
  cases h'

instance : DecidablePred Opens := fun event =>
  match h : event.evaluation with
  | none => isFalse (not_opens_of_unevaluated h)
  | some (_, status) => decidable_of_iff status.Hot (opens_iff h).symm

instance : DecidablePred Closes := fun event =>
  match h : event.evaluation with
  | none => isFalse (not_closes_of_unevaluated h)
  | some (_, status) => decidable_of_iff status.Recovered (closes_iff h).symm

/-- An event that evaluates a status moves a latch as the band of the status does. -/
theorem latchStep_of_evaluation {now : Clock} {status : BackendStatus}
    (h : event.evaluation = some (now, status)) (latched : Bool) :
    latchStep Opens Closes latched event = status.band.nextLatch latched := by
  rw [Band.nextLatch_eq]
  rw [latchStep]
  simp only [opens_iff h, closes_iff h]

end PolicyEvent

namespace SafetyPolicy

/-- Every change moves the latch by what it evaluated. -/
theorem Change.previousHot {state after : ControlState} {event : PolicyEvent}
    {outcome : PolicyOutcome} (change : Change state event outcome after) :
    after.previousHot =
      latchStep PolicyEvent.Opens PolicyEvent.Closes state.previousHot event := by
  cases change with
  | idle unevaluated =>
      rw [latchStep, if_neg (PolicyEvent.not_opens_of_unevaluated unevaluated),
        if_neg (PolicyEvent.not_closes_of_unevaluated unevaluated)]
  | evaluated evaluation refused => exact (PolicyEvent.latchStep_of_evaluation evaluation _).symm
  | granted evaluation asked => exact (PolicyEvent.latchStep_of_evaluation evaluation _).symm

/-- The latch after a history is the latch run over that history. -/
theorem previousHot_finalState {policy : SafetyPolicy} (durable : policy.Durable)
    (events : List PolicyEvent) :
    (finalState step policy events).state.previousHot =
      latchRun PolicyEvent.Opens PolicyEvent.Closes policy.state.previousHot events := by
  induction events generalizing policy with
  | nil => rfl
  | cons event rest ih =>
      obtain ⟨hchange, hnext⟩ := step_change durable event
      rw [finalState_cons, latchRun_cons, ih hnext, hchange.previousHot]

/-- The latch records the incident history: at any point of any run it is up
exactly when it was loaded up or some evaluated status was hot, and no status
evaluated later was recovered. An event that evaluates neither leaves it alone. -/
theorem previousHot_iff_incidentOpen {store : ControlStateStore} {policy : SafetyPolicy}
    (started : init store = .ok policy) (writes : policy.WritesSucceed)
    (events : List PolicyEvent) :
    ((finalState step policy events).state.previousHot = true ↔
      (policy.state.previousHot = true ∧ ∀ event ∈ events, ¬ event.Closes) ∨
      ∃ earlier event later, events = earlier ++ event :: later ∧ event.Opens ∧
        ∀ event ∈ later, ¬ event.Closes) ∧
    ∀ record ∈ records step policy events, ¬ record.event.Opens → ¬ record.event.Closes →
      record.after.state.previousHot = record.before.state.previousHot := by
  have hdurable : policy.Durable := ⟨writes, synced_of_init started⟩
  refine ⟨?_, fun record hmem hopens hcloses => ?_⟩
  · rw [previousHot_finalState hdurable]
    exact latchRun_eq_true_iff _ _
  · have hbefore := records_invariant step step_durable hdurable events record hmem
    have hstep := step_of_mem_records step hmem
    have hchange := (step_change hbefore record.event).1.previousHot
    rw [hstep] at hchange
    rw [hchange]
    rw [latchStep, if_neg hopens, if_neg hcloses]

/-- A hot processor with a failed drive source opens an incident that a sensor
failure and a restart leave open. -/
theorem previousHot_after_restart :
    (finalState step (fresh fun _ => .stored)
      [.evaluate (.ofInt 100) (readingStatus (degrees 90) none (some 22) false) none none,
        .evaluate (.ofInt 105) (readingStatus none none (some 22) false) none none,
        .restart]).state.previousHot = true := by
  refine (previousHot_iff_incidentOpen (init_fresh _) (fun _ => rfl) _).1.mpr
    (.inr ⟨[], _, [_, _], rfl, ⟨_, _, rfl, by decide⟩, ?_⟩)
  intro event hevent
  rcases List.mem_pair.mp hevent with rfl | rfl
  · rw [PolicyEvent.closes_iff rfl]
    decide
  · exact PolicyEvent.not_closes_of_unevaluated rfl

end SafetyPolicy

end TrueFan
