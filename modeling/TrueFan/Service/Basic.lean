/-
# The control service

`ControlService` joins a backend and a policy. A tick reads a status, has it
evaluated, and commands the duty unless the hardware already reports it; a request
has an override accepted first and always commands. Each method body runs under
the service lock, so it is one step here; only the error a failed tick publishes
is written after the lock is released.
-/

import TrueFan.Duty
import TrueFan.Policy.Persistence

namespace TrueFan

open Python

/-- `PROFILES`. -/
def profiles : List (String × ℤ) := [("quiet", 22), ("cooling", 50), ("emergency", 100)]

/-- `THRESHOLDS`. -/
def thresholds : List (String × List (String × ℤ)) :=
  [("max_drive_c", [("warm", 46), ("hot", hotDriveC)]),
    ("cpu_c", [("warm", 61), ("hot", hotCpuC)]),
    ("board_c", [("warm", 55), ("hot", 70)]),
    ("nvme_c", [("warm", 60), ("hot", 75)]),
    ("recover", [("drive", recoverDriveC), ("cpu", recoverCpuC)])]

/-- A published snapshot. -/
structure StatusPayload where
  backend : BackendStatus
  safety : SafetyDecision
  thresholds : List (String × List (String × ℤ))
  deriving DecidableEq

/-- The read-back part of a mutation result. -/
structure Readback where
  verified : Bool
  dutyPercent : Option ℤ
  pwm : Option ℤ
  deriving DecidableEq

/-- What an accepted request returns. -/
structure MutationResult where
  requestedDuty : Json
  effectiveDuty : ℤ
  reason : String
  safetyState : SafetyState
  mode : Mode
  readback : Readback
  overrideExpiresAt : Option Clock
  profile : Option String := none

/-- One line of the transition log. -/
structure TransitionLine where
  decision : SafetyDecision
  sensorOk : Bool
  cpuC : Option PyFloat
  maxDriveC : Option PyFloat
  mode : Mode
  readback : Option ℤ
  deriving DecidableEq

/-- `ControlService`, with the hardware behind its backend and the log behind its
logger. -/
structure ControlService (Hardware : Type) where
  hardware : Hardware
  policy : SafetyPolicy
  lastStatus : Option StatusPayload
  lastStatusError : Option String
  lastTransition : Option (SafetyState × ℤ × Bool)
  log : List TransitionLine

namespace ControlService

variable {Hardware : Type}

abbrev Method (Hardware α : Type) := EStateM Failure (ControlService Hardware) α

/-- `ControlService(backend, policy)`. -/
def init (hardware : Hardware) (policy : SafetyPolicy) : ControlService Hardware where
  hardware
  policy
  lastStatus := none
  lastStatusError := none
  lastTransition := none
  log := []

/-- A call of the backend. -/
def onBackend {α : Type} (method : EStateM Failure Hardware α) : Method Hardware α :=
  zoom hardware (fun hardware service => { service with hardware }) method

/-- A call of the policy. -/
def onPolicy {α : Type} (method : SafetyPolicy.Method α) : Method Hardware α :=
  zoom policy (fun policy service => { service with policy }) method

/-- `_log_transition`. -/
def logTransition (before : BackendStatus) (decision : SafetyDecision) (readback : BackendStatus) :
    Method Hardware Unit :=
  modify fun service =>
    let key := (decision.state, decision.effectiveDuty, before.sensorOk)
    if service.lastTransition = some key then service
    else { service with
      lastTransition := some key
      log := service.log ++ [{
        decision
        sensorOk := before.sensorOk
        cpuC := before.temperatures.cpuC
        maxDriveC := before.temperatures.maxDriveC
        mode := readback.mode
        readback := readback.dutyPercent }] }

/-- `_publish_status`. -/
def publishStatus (backend : BackendStatus) (safety : SafetyDecision) :
    Method Hardware StatusPayload := do
  let payload : StatusPayload := { backend, safety, thresholds }
  modify fun service => { service with lastStatus := some payload, lastStatusError := none }
  return payload

/-- `_cached_status`. -/
def cachedStatus : Method Hardware (Option StatusPayload) := do
  let service ← get
  match service.lastStatusError with
  | some code => throw (.runtimeError code)
  | none => return service.lastStatus

/-- `_mutation_result`. -/
def mutationResult (requested : Json) (decision : SafetyDecision) (readback : BackendStatus) :
    MutationResult where
  requestedDuty := requested
  effectiveDuty := decision.effectiveDuty
  reason := decision.reason
  safetyState := decision.state
  mode := readback.mode
  readback := {
    verified := decide (readback.mode = .manual ∧
      readback.dutyPercent = some decision.effectiveDuty)
    dutyPercent := readback.dutyPercent
    pwm := readback.pwm }
  overrideExpiresAt := decision.overrideExpiresAt

/-- The hardware already reports what is asked for. -/
abbrev InPlace (before : BackendStatus) (duty : ℤ) : Prop :=
  before.mode = .manual ∧ before.dutyPercent = some duty

/-- `request_duty`. -/
def requestDuty (backend : FanBackend Hardware) (clock : Clock) (dutyPercent ttlSeconds : Json) :
    Method Hardware MutationResult := do
  let before ← onBackend backend.status
  let decision ← onPolicy (SafetyPolicy.requestOverride clock before dutyPercent ttlSeconds)
  let readback ← onBackend (backend.setDutyPercent decision.effectiveDuty)
  let result := mutationResult dutyPercent decision readback
  let _ ← publishStatus readback decision
  return result

/-- `request_profile`. -/
def requestProfile (backend : FanBackend Hardware) (clock : Clock) (profile : String)
    (ttlSeconds : Json) : Method Hardware MutationResult := do
  match profiles.lookup profile with
  | none => throw (.valueError "unknown_profile")
  | some duty =>
      let result ← requestDuty backend clock (.int duty) ttlSeconds
      return { result with profile := some profile }

/-- The part of `tick` that runs under the lock. -/
def refresh (backend : FanBackend Hardware) (clock : Clock) : Method Hardware StatusPayload := do
  let before ← onBackend backend.status
  let decision ← onPolicy (SafetyPolicy.evaluate clock before none none)
  let readback ←
    if InPlace before decision.effectiveDuty then pure before
    else onBackend (backend.setDutyPercent decision.effectiveDuty)
  logTransition before decision readback
  publishStatus readback decision

/-- `tick`: a refresh that raises leaves its mark for readers of the status. -/
def tick (backend : FanBackend Hardware) (clock : Clock) : Method Hardware StatusPayload :=
  fun service =>
    match refresh backend clock service with
    | .ok payload after => .ok payload after
    | .error error after =>
        .error error { after with lastStatusError := some "status_refresh_failed" }

/-- `status`. -/
def status (backend : FanBackend Hardware) (clock : Clock) : Method Hardware StatusPayload := do
  match ← cachedStatus with
  | some cached => return cached
  | none => tick backend clock

end ControlService

end TrueFan
