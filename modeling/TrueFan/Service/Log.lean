/-
# The transition log

The log is there so that "did the loop see the reading, and what did it write" can be
answered from it. A tick writes its line only if the state, the duty or the sensors' health
differ from the line before; commands write none, and a tick that fails writes none either.
Over a whole history of the process the log is exactly what is left of the lines its ticks
had to report when neighbours that agree are merged.
-/

import TrueFan.Foundations.ChangeLog
import TrueFan.Service.Run

namespace TrueFan

open Python Foundations

namespace TransitionLine

/-- What a line is compared by. -/
def key (line : TransitionLine) : SafetyState × ℤ × Bool :=
  (line.decision.state, line.decision.effectiveDuty, line.sensorOk)

/-- The line of a tick that read `before`. -/
def ofTick (before : BackendStatus) (payload : StatusPayload) : TransitionLine where
  decision := payload.safety
  sensorOk := before.sensorOk
  cpuC := before.temperatures.cpuC
  maxDriveC := before.temperatures.maxDriveC
  mode := payload.backend.mode
  readback := payload.backend.dutyPercent

end TransitionLine

namespace ControlService

variable {Hardware : Type} {backend : FanBackend Hardware}

/-- The service remembers what its last line is compared by. -/
def Remembers (service : ControlService Hardware) : Prop :=
  service.lastTransition = service.log.getLast?.map TransitionLine.key

/-- The lines the process has had to report: one for each tick that returned since it started. -/
def reportedLines (backend : FanBackend Hardware) (lines : List TransitionLine)
    (record : ServiceRecord Hardware) : List TransitionLine :=
  match record.outcome with
  | .started => []
  | .published payload =>
      lines ++
        ((readStatus backend record.before).map fun before => .ofTick before payload).toList
  | .answered _ | .raised _ | .disturbed => lines

theorem resultState_logTransition (before : BackendStatus) (payload : StatusPayload)
    (service : ControlService Hardware) :
    resultState (logTransition before payload.safety payload.backend service) =
      if service.lastTransition = some (TransitionLine.ofTick before payload).key then service
      else { service with
        lastTransition := some (TransitionLine.ofTick before payload).key
        log := service.log ++ [.ofTick before payload] } := rfl

/-- Reporting a tick notes its line, and the service remembers it. -/
theorem reported_log (before : BackendStatus) (payload : StatusPayload)
    {service : ControlService Hardware} (remembers : service.Remembers) :
    (reported before payload.safety payload.backend service).log =
        noteChange TransitionLine.key service.log (.ofTick before payload) ∧
      (reported before payload.safety payload.backend service).Remembers := by
  rw [reported, resultState_logTransition, noteChange]
  rw [Remembers] at remembers
  by_cases h : service.lastTransition = some (TransitionLine.ofTick before payload).key
  · rw [if_pos h, if_pos (remembers ▸ h)]
    exact ⟨rfl, remembers⟩
  · rw [if_neg h, if_neg (remembers ▸ h)]
    exact ⟨rfl, by simp [Remembers, published]⟩

/-- A tick that returned has reported what it read and what it left. -/
theorem refresh_eq_reported {clock : Clock} {service after : ControlService Hardware}
    {payload : StatusPayload} (h : refresh backend clock service = .ok payload after) :
    ∃ before hardware policy, readStatus backend service = some before ∧
      after = reported before payload.safety payload.backend { service with hardware, policy } := by
  rw [readStatus]
  cases hstatus : backend.status service.hardware with
  | error error hardware =>
      rw [refresh_of_status_error hstatus] at h
      cases h
  | ok before hardware =>
      cases hevaluate : SafetyPolicy.evaluate clock before none none service.policy with
      | error error policy =>
          rw [refresh_of_evaluate_error hstatus hevaluate] at h
          cases h
      | ok decision policy =>
          rw [refresh_of_evaluate_ok hstatus hevaluate] at h
          split at h
          next =>
            cases h
            exact ⟨before, hardware, policy, rfl, rfl⟩
          next =>
            split at h
            next readback commanded hset =>
              cases h
              exact ⟨before, commanded, policy, rfl, rfl⟩
            next => cases h

/-- The log, and what is remembered of it, are as they were. -/
def LogKept (before after : ControlService Hardware) : Prop :=
  after.log = before.log ∧ after.lastTransition = before.lastTransition

theorem LogKept.remembers {before after : ControlService Hardware} (kept : LogKept before after)
    (remembers : before.Remembers) : after.Remembers := by
  rw [Remembers, kept.1, kept.2]
  exact remembers

/-- A tick that did not return reports nothing. -/
theorem logKept_of_refresh_error {clock : Clock} {service after : ControlService Hardware}
    {error : Failure} (h : refresh backend clock service = .error error after) :
    LogKept service after := by
  cases hstatus : backend.status service.hardware with
  | error error hardware =>
      rw [refresh_of_status_error hstatus] at h
      cases h
      exact ⟨rfl, rfl⟩
  | ok before hardware =>
      cases hevaluate : SafetyPolicy.evaluate clock before none none service.policy with
      | error error policy =>
          rw [refresh_of_evaluate_error hstatus hevaluate] at h
          cases h
          exact ⟨rfl, rfl⟩
      | ok decision policy =>
          rw [refresh_of_evaluate_ok hstatus hevaluate] at h
          split at h
          next => cases h
          next =>
            split at h
            next => cases h
            next =>
              cases h
              exact ⟨rfl, rfl⟩

/-- A command reports nothing, however it ends. -/
theorem logKept_requestDuty (backend : FanBackend Hardware) (clock : Clock)
    (dutyPercent ttlSeconds : Json) (service : ControlService Hardware) :
    LogKept service
      (resultState (requestDuty backend clock dutyPercent ttlSeconds service)) := by
  cases hstatus : backend.status service.hardware with
  | error error hardware =>
      rw [requestDuty_of_status_error hstatus]
      exact ⟨rfl, rfl⟩
  | ok before hardware =>
      cases hrequest : SafetyPolicy.requestOverride clock before dutyPercent ttlSeconds
          service.policy with
      | error error policy =>
          rw [requestDuty_of_refused hstatus hrequest]
          exact ⟨rfl, rfl⟩
      | ok decision policy =>
          rw [requestDuty_of_accepted hstatus hrequest]
          cases backend.setDutyPercent decision.effectiveDuty hardware with
          | ok readback commanded => exact ⟨rfl, rfl⟩
          | error error commanded => exact ⟨rfl, rfl⟩

/-! ## Histories -/

/-- The log is what merging leaves of the lines there were to report. -/
structure Logged (lines : List TransitionLine) (service : ControlService Hardware) : Prop where
  log : service.log = lines.destutter (Differs TransitionLine.key)
  remembers : service.Remembers

theorem Logged.kept {lines : List TransitionLine} {service after : ControlService Hardware}
    (logged : Logged lines service) (kept : LogKept service after) : Logged lines after where
  log := kept.1.trans logged.log
  remembers := kept.remembers logged.remembers

theorem Logged.init (hardware : Hardware) (policy : SafetyPolicy) :
    Logged [] (init hardware policy) where
  log := rfl
  remembers := rfl

/-- A tick that returned adds its line to those there were to report. -/
theorem Logged.refresh {lines : List TransitionLine} {clock : Clock}
    {service after : ControlService Hardware} {payload : StatusPayload}
    (logged : Logged lines service) (h : refresh backend clock service = .ok payload after) :
    ∃ before, readStatus backend service = some before ∧
      Logged (lines ++ [.ofTick before payload]) after := by
  obtain ⟨before, hardware, policy, hread, rfl⟩ := refresh_eq_reported h
  have kept : LogKept service { service with hardware, policy } := ⟨rfl, rfl⟩
  have hreported := reported_log before payload (kept.remembers logged.remembers)
  refine ⟨before, hread, ?_, hreported.2⟩
  rw [hreported.1, kept.1, logged.log]
  exact noteChange_destutter TransitionLine.key lines _

/-- Every event keeps the log in step with the lines there were to report. -/
theorem Logged.step {lines : List TransitionLine} {service : ControlService Hardware}
    (logged : Logged lines service) (event : ServiceEvent Hardware) :
    Logged
      (reportedLines backend lines
        ⟨service, event, (step backend service event).1, (step backend service event).2⟩)
      (step backend service event).2 := by
  cases event with
  | tick clock =>
      show Logged (reportedLines backend lines ⟨_, _, (outcome _ _).1, (outcome _ _).2⟩)
        (outcome _ _).2
      rw [tick]
      cases hrefresh : ControlService.refresh backend clock service with
      | ok payload after =>
          obtain ⟨before, hread, hlogged⟩ := logged.refresh hrefresh
          simp only [outcome, reportedLines, hread, Option.map_some, Option.toList_some]
          exact hlogged
      | error error after =>
          have kept := logKept_of_refresh_error hrefresh
          exact logged.kept ⟨kept.1, kept.2⟩
  | requestDuty clock dutyPercent ttlSeconds =>
      have kept := logKept_requestDuty backend clock dutyPercent ttlSeconds service
      show Logged (reportedLines backend lines ⟨_, _, (outcome _ _).1, (outcome _ _).2⟩)
        (outcome _ _).2
      cases hrequest : requestDuty backend clock dutyPercent ttlSeconds service with
      | ok result after =>
          rw [hrequest] at kept
          exact logged.kept kept
      | error error after =>
          rw [hrequest] at kept
          exact logged.kept kept
  | requestProfile clock profile ttlSeconds =>
      show Logged (reportedLines backend lines ⟨_, _, (outcome _ _).1, (outcome _ _).2⟩)
        (outcome _ _).2
      have kept : LogKept service
          (resultState (requestProfile backend clock profile ttlSeconds service)) := by
        cases hprofile : profiles.lookup profile with
        | none =>
            rw [requestProfile_of_unknown hprofile]
            exact ⟨rfl, rfl⟩
        | some duty =>
            rw [resultState_requestProfile hprofile]
            exact logKept_requestDuty backend clock (.int duty) ttlSeconds service
      cases hrequest : requestProfile backend clock profile ttlSeconds service with
      | ok result after =>
          rw [hrequest] at kept
          exact logged.kept kept
      | error error after =>
          rw [hrequest] at kept
          exact logged.kept kept
  | restart =>
      rw [step_restart]
      cases SafetyPolicy.init service.policy.store with
      | ok policy => exact .init service.hardware policy
      | error error => exact logged
  | disturb change => exact logged.kept ⟨rfl, rfl⟩

theorem Logged.finalState (backend : FanBackend Hardware) {lines : List TransitionLine}
    {service : ControlService Hardware} (logged : Logged lines service)
    (events : List (ServiceEvent Hardware)) :
    Logged ((records (ControlService.step backend) service events).foldl
        (reportedLines backend) lines)
      (finalState (ControlService.step backend) service events) := by
  induction events generalizing service lines with
  | nil => exact logged
  | cons event rest ih => exact ih (logged.step event)

/-- At any point of a history some lines were there to report. -/
theorem exists_logged (backend : FanBackend Hardware) (hardware : Hardware) (policy : SafetyPolicy)
    {events : List (ServiceEvent Hardware)} {record : ServiceRecord Hardware}
    (hmem : record ∈ records (step backend) (init hardware policy) events) :
    ∃ lines, Logged lines record.before := by
  have hpreserved (service : ControlService Hardware) (event : ServiceEvent Hardware)
      (h : ∃ lines, Logged lines service) :
      ∃ lines, Logged lines (step backend service event).2 := by
    obtain ⟨lines, hlogged⟩ := h
    exact ⟨_, hlogged.step event⟩
  have hinitial : ∃ lines, Logged lines (ControlService.init hardware policy) :=
    ⟨[], .init hardware policy⟩
  exact records_invariant (step backend) hpreserved hinitial events record hmem

/-- Only a tick publishes. -/
theorem tick_of_step_published {service after : ControlService Hardware}
    {event : ServiceEvent Hardware} {payload : StatusPayload}
    (h : step backend service event = (.published payload, after)) :
    ∃ clock, tick backend clock service = .ok payload after := by
  have hduty : (step backend service event).1.effectiveDuty =
      some payload.safety.effectiveDuty := by
    rw [h]
    rfl
  cases event with
  | tick clock =>
      obtain ⟨payload', after', htick, -⟩ := outcome_effectiveDuty_eq_some hduty
      rw [step, htick] at h
      cases h
      exact ⟨clock, htick⟩
  | requestDuty clock dutyPercent ttlSeconds =>
      obtain ⟨result, after', hrequest, -⟩ := outcome_effectiveDuty_eq_some hduty
      rw [step, hrequest] at h
      cases h
  | requestProfile clock profile ttlSeconds =>
      obtain ⟨result, after', hrequest, -⟩ := outcome_effectiveDuty_eq_some hduty
      rw [step, hrequest] at h
      cases h
  | restart =>
      rw [step_restart] at h
      split at h
      · cases h
      · cases h
  | disturb change => cases h

/-- The last line after a tick that returned says what the tick decided, and whether the
sensors it read were sound. -/
theorem getLast?_log_of_published {lines : List TransitionLine} {clock : Clock}
    {service after : ControlService Hardware} {payload : StatusPayload}
    (logged : Logged lines service) (h : tick backend clock service = .ok payload after) :
    ∃ before, readStatus backend service = some before ∧
      after.log.getLast?.map TransitionLine.key =
        some (payload.safety.state, payload.safety.effectiveDuty, before.sensorOk) := by
  obtain ⟨before, hread, hlogged⟩ := logged.refresh (tick_eq_ok_iff.mp h)
  refine ⟨before, hread, ?_⟩
  rw [hlogged.log, ← noteChange_destutter, getLast?_noteChange]
  rfl

/-- After any history the log is what is left of the lines the process had to report once
neighbours that agree are merged, so no two neighbours in it agree. After a tick that returned
its last line says what the tick decided, and whether the sensors it read were sound. -/
theorem log_merges_reported (backend : FanBackend Hardware) (hardware : Hardware)
    (policy : SafetyPolicy) (events : List (ServiceEvent Hardware)) :
    (finalState (step backend) (init hardware policy) events).log =
        ((records (step backend) (init hardware policy) events).foldl
          (reportedLines backend) []).destutter (Differs TransitionLine.key) ∧
      (finalState (step backend) (init hardware policy) events).log.IsChain
        (Differs TransitionLine.key) ∧
      ∀ record ∈ records (step backend) (init hardware policy) events,
        ∀ payload, record.outcome = .published payload →
          ∃ before, readStatus backend record.before = some before ∧
            record.after.log.getLast?.map TransitionLine.key =
              some (payload.safety.state, payload.safety.effectiveDuty, before.sensorOk) := by
  have hlogged := (Logged.init hardware policy).finalState backend events
  rw [hlogged.log]
  refine ⟨rfl, List.isChain_destutter _ _, fun record hmem payload hpublished => ?_⟩
  obtain ⟨lines, hbefore⟩ := exists_logged backend hardware policy hmem
  have hstep := step_of_mem_records (step backend) hmem
  rw [hpublished] at hstep
  obtain ⟨clock, htick⟩ := tick_of_step_published hstep
  exact getLast?_log_of_published hbefore htick

end ControlService

end TrueFan
