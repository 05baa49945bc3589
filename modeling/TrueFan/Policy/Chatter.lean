/-
# The incident latch does not chatter

An incident opens above 70 or 50 degrees and closes only when the processor is at or below 60
and the drives are at or below 45. Each incident after the first is therefore paid for by a
climb of a reading through a whole band; readings that stay inside their bands open no more
than one, in whatever order ticks, requests and restarts come.

Only the part of a climb that lies inside the band counts, and what is no temperature does not
count at all.
-/

import TrueFan.Foundations.Hysteresis
import TrueFan.Policy.Incident

namespace TrueFan

open Python Foundations

/-- The sources the policy requires. -/
inductive RequiredSource
  | cpu
  | drive
  deriving DecidableEq, Repr

instance RequiredSource.fintype : Fintype RequiredSource where
  elems := {.cpu, .drive}
  complete source := by cases source <;> decide

namespace RequiredSource

/-- Above this the source is hot. -/
def hot : RequiredSource → ℤ
  | .cpu => hotCpuC
  | .drive => hotDriveC

/-- Up to this it has recovered. -/
def recover : RequiredSource → ℤ
  | .cpu => recoverCpuC
  | .drive => recoverDriveC

def reading (status : BackendStatus) : RequiredSource → Option PyFloat
  | .cpu => status.temperatures.cpuC
  | .drive => status.temperatures.maxDriveC

/-- The width of the band. -/
def width (source : RequiredSource) : ℚ := source.hot - source.recover

theorem width_pos (source : RequiredSource) : 0 < source.width := by
  cases source <;> norm_num [width, hot, recover, hotCpuC, hotDriveC, recoverCpuC, recoverDriveC]

/-- A number as a level in the band, from 0 at its bottom to 1 at its top. -/
def levelOf (source : RequiredSource) (value : ℚ) : ℚ :=
  (max (source.recover : ℚ) (min (source.hot : ℚ) value) - source.recover) / source.width

/-- A reading as a level in the band. Less than any number is the bottom; what is more than
any number or none at all opens and closes nothing. -/
def readingLevel (source : RequiredSource) : PyFloat → Option ℚ
  | .finite x => some (source.levelOf x.value)
  | .negInf => some 0
  | .posInf => none
  | .nan => none

theorem levelOf_nonneg (source : RequiredSource) (value : ℚ) : 0 ≤ source.levelOf value := by
  apply div_nonneg _ source.width_pos.le
  exact sub_nonneg.mpr (le_max_left _ _)

theorem levelOf_of_hot (source : RequiredSource) {value : ℚ} (h : source.hot < value) :
    source.levelOf value = 1 := by
  have hwidth := source.width_pos
  have hbelow : (source.recover : ℚ) ≤ source.hot := by
    rw [width] at hwidth
    linarith
  rw [levelOf, min_eq_left h.le, max_eq_right hbelow]
  exact div_self hwidth.ne'

theorem levelOf_of_recovered (source : RequiredSource) {value : ℚ} (h : value ≤ source.recover) :
    source.levelOf value = 0 := by
  rw [levelOf, max_eq_left ((min_le_right _ _).trans h), sub_self, zero_div]

end RequiredSource

/-- The level of a source that an event evaluates, if it evaluates one. -/
def PolicyEvent.level (source : RequiredSource) (event : PolicyEvent) : Option ℚ :=
  event.evaluation.bind fun evaluated =>
    (source.reading evaluated.2).bind source.readingLevel

namespace PolicyEvent

variable {event : PolicyEvent} {now : Clock} {status : BackendStatus}

theorem level_eq (h : event.evaluation = some (now, status)) (source : RequiredSource) :
    event.level source = (source.reading status).bind source.readingLevel := by
  rw [level, h]
  rfl

theorem readingLevel_of_isHot {source : RequiredSource} {reading : Option PyFloat}
    (h : isHot reading source.hot = true) : reading.bind source.readingLevel = some 1 := by
  cases reading with
  | none => cases h
  | some value =>
      cases value with
      | finite x => exact congrArg some (source.levelOf_of_hot (of_decide_eq_true h))
      | negInf => cases h
      | posInf => cases h
      | nan => cases h

theorem readingLevel_of_atMost {source : RequiredSource} {reading : PyFloat}
    (h : atMost reading source.recover = true) : source.readingLevel reading = some 0 := by
  cases reading with
  | finite x => exact congrArg some (source.levelOf_of_recovered (of_decide_eq_true h))
  | negInf => rfl
  | posInf => cases h
  | nan => cases h

/-- What opens an incident is at the top of a band, and what closes one is at the bottom of
both. -/
theorem banded : Banded Opens Closes fun source event => level source event where
  nonneg source event value hlevel := by
    rw [level, Option.bind_eq_some_iff] at hlevel
    obtain ⟨evaluated, -, hlevel⟩ := hlevel
    obtain ⟨reading, -, hlevel⟩ := Option.bind_eq_some_iff.mp hlevel
    cases reading with
    | finite x =>
        cases hlevel
        exact source.levelOf_nonneg x.value
    | negInf =>
        cases hlevel
        exact le_rfl
    | posInf => cases hlevel
    | nan => cases hlevel
  top event hopens := by
    obtain ⟨now, status, hevaluation, hhot⟩ := hopens
    rcases Bool.or_eq_true_iff.mp hhot with hcpu | hdrive
    · refine ⟨.cpu, 1, ?_, le_rfl⟩
      rw [level_eq hevaluation]
      exact readingLevel_of_isHot hcpu
    · refine ⟨.drive, 1, ?_, le_rfl⟩
      rw [level_eq hevaluation]
      exact readingLevel_of_isHot hdrive
  bottom event hcloses source := by
    obtain ⟨now, status, hevaluation, -, -, cpu, drive, hcpu, hdrive, hdriveLow, hcpuLow⟩ := hcloses
    rw [level_eq hevaluation]
    cases source with
    | cpu =>
        rw [show RequiredSource.reading status .cpu = some cpu from hcpu]
        exact readingLevel_of_atMost hcpuLow
    | drive =>
        rw [show RequiredSource.reading status .drive = some drive from hdrive]
        exact readingLevel_of_atMost hdriveLow

end PolicyEvent

namespace SafetyPolicy

/-- The event opened an incident. -/
def opened (record : PolicyRecord) : Bool :=
  !record.before.state.previousHot && record.after.state.previousHot

/-- The incidents a run opens are the rises of its latch. -/
theorem countP_opened {policy : SafetyPolicy} (durable : policy.Durable)
    (events : List PolicyEvent) :
    (records step policy events).countP opened =
      rises PolicyEvent.Opens PolicyEvent.Closes policy.state.previousHot events := by
  induction events generalizing policy with
  | nil => rfl
  | cons event rest ih =>
      obtain ⟨hchange, hnext⟩ := step_change durable event
      rw [records_cons, List.countP_cons, ih hnext, rises, ← hchange.previousHot, add_comm]
      simp [opened]

/-- While writes succeed, a run opens no more incidents than its required readings climb
through whole bands, and one more if none was open at its start. -/
theorem opened_le_climb {store : ControlStateStore} {policy : SafetyPolicy}
    (started : init store = .ok policy) (writes : policy.WritesSucceed)
    (events : List PolicyEvent) :
    ((records step policy events).countP opened : ℚ) ≤
      ∑ source, climb (events.map (PolicyEvent.level source)) +
        if policy.state.previousHot then 0 else 1 := by
  rw [countP_opened ⟨writes, synced_of_init started⟩]
  exact PolicyEvent.banded.rises_le_climb policy.state.previousHot events

/-- The evaluation of a processor at the given temperature, with cool drives. -/
def evaluationAt (cpu : Option PyFloat) : PolicyEvent :=
  .evaluate (.ofInt 1)
    (readingStatus cpu (degrees 35) (some 22) true) none none

/-- A processor that is hot, recovers and is hot again: two incidents, one band climbed. -/
def hotTwice : List PolicyEvent :=
  [evaluationAt (degrees 75), evaluationAt (degrees 45), .restart,
    evaluationAt (degrees 75)]

theorem opened_le_climb_hotTwice :
    ((records step (fresh fun _ => .stored) hotTwice).countP opened : ℚ) ≤
      ∑ source, climb (hotTwice.map (PolicyEvent.level source)) + 1 :=
  opened_le_climb (init_fresh _) (fun _ => rfl) hotTwice

example : (records step (fresh fun _ => .stored) hotTwice).countP opened = 2 := by
  decide

end SafetyPolicy

end TrueFan
