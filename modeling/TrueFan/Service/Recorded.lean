/-
# Watching what a backend is asked for

Some promises are about the command a call issues, whether or not the hardware
obeys. `recorded` wraps any backend so that it keeps the duties it was asked to
set; nothing it answers changes. `fakeBackend` is the double the repository's own
tests use: it answers its current status and stores what it is told, and it can be
broken so that every command raises.
-/

import TrueFan.Service.Calls

namespace TrueFan

open Python

namespace FanBackend

variable {Hardware : Type}

/-- A call that goes to the hardware and leaves the record alone. -/
def unrecorded {α : Type} (method : EStateM Failure Hardware α) :
    EStateM Failure (Hardware × List ℤ) α :=
  zoom Prod.fst (fun hardware state => (hardware, state.2)) method

/-- The backend with a record of the duties it was asked to set, oldest first. -/
def recorded (backend : FanBackend Hardware) : FanBackend (Hardware × List ℤ) where
  status := unrecorded backend.status
  setDutyPercent percent := do
    modify fun state => (state.1, state.2 ++ [percent])
    unrecorded (backend.setDutyPercent percent)
  setAuto := unrecorded backend.setAuto

theorem unrecorded_of_ok {α : Type} {method : EStateM Failure Hardware α}
    {hardware after : Hardware} {value : α} (calls : List ℤ)
    (h : method hardware = .ok value after) :
    unrecorded method (hardware, calls) = .ok value (after, calls) := by
  have hfirst : method (Prod.fst (hardware, calls)) = .ok value after := h
  rw [unrecorded, zoom_of_ok hfirst]

theorem unrecorded_of_error {α : Type} {method : EStateM Failure Hardware α}
    {hardware after : Hardware} {error : Failure} (calls : List ℤ)
    (h : method hardware = .error error after) :
    unrecorded method (hardware, calls) = .error error (after, calls) := by
  have hfirst : method (Prod.fst (hardware, calls)) = .error error after := h
  rw [unrecorded, zoom_of_error hfirst]

/-- A command is on record however it ends. -/
theorem recorded_setDutyPercent_calls (backend : FanBackend Hardware) (percent : ℤ)
    (hardware : Hardware) (calls : List ℤ) :
    (resultState (backend.recorded.setDutyPercent percent (hardware, calls))).2 =
      calls ++ [percent] := by
  show (resultState
    (unrecorded (backend.setDutyPercent percent) (hardware, calls ++ [percent]))).2 = _
  rw [unrecorded, resultState_zoom]

theorem recorded_status_eq_ok {backend : FanBackend Hardware} {hardware : Hardware}
    {calls : List ℤ} {status : BackendStatus} {after : Hardware × List ℤ}
    (h : backend.recorded.status (hardware, calls) = .ok status after) :
    backend.status hardware = .ok status after.1 ∧ after.2 = calls := by
  have hrun : unrecorded backend.status (hardware, calls) = .ok status after := h
  obtain ⟨inner, hstatus, rfl⟩ := zoom_eq_ok hrun
  exact ⟨hstatus, rfl⟩

theorem recorded_setDutyPercent_eq_ok {backend : FanBackend Hardware} {percent : ℤ}
    {hardware : Hardware} {calls : List ℤ} {readback : BackendStatus} {after : Hardware × List ℤ}
    (h : backend.recorded.setDutyPercent percent (hardware, calls) = .ok readback after) :
    backend.setDutyPercent percent hardware = .ok readback after.1 ∧
      after.2 = calls ++ [percent] := by
  have hrun : unrecorded (backend.setDutyPercent percent) (hardware, calls ++ [percent]) =
    .ok readback after := h
  obtain ⟨inner, hset, rfl⟩ := zoom_eq_ok hrun
  exact ⟨hset, rfl⟩

end FanBackend

/-- The service on the recorded backend, with nothing on record yet. -/
def ControlService.watched {Hardware : Type} (service : ControlService Hardware) :
    ControlService (Hardware × List ℤ) where
  hardware := (service.hardware, [])
  policy := service.policy
  lastStatus := service.lastStatus
  lastStatusError := service.lastStatusError
  lastTransition := service.lastTransition
  log := service.log

namespace ControlService

section

variable {Hardware : Type} {backend : FanBackend Hardware} {clock : Clock}
  {service : ControlService Hardware} {before : BackendStatus} {hardware : Hardware}

/-- A tick whose evaluation returned commands the duty decided, unless it is in place. -/
theorem calls_of_evaluate_ok (hstatus : backend.status service.hardware = .ok before hardware)
    {policy : SafetyPolicy} {decision : SafetyDecision}
    (hevaluate : SafetyPolicy.evaluate clock before none none service.policy =
      .ok decision policy) :
    (resultState (tick backend.recorded clock service.watched)).hardware.2 =
      if InPlace before decision.effectiveDuty then [] else [decision.effectiveDuty] := by
  have hrecorded : backend.recorded.status service.watched.hardware = .ok before (hardware, []) :=
    FanBackend.unrecorded_of_ok [] hstatus
  have hcalls := FanBackend.recorded_setDutyPercent_calls backend decision.effectiveDuty hardware []
  rw [tick_hardware, refresh_of_evaluate_ok hrecorded hevaluate]
  split
  next => rw [resultState_ok, reported_hardware]
  next =>
    split
    next readback commanded hset =>
      rw [hset, resultState_ok] at hcalls
      rw [resultState_ok, reported_hardware]
      exact hcalls
    next error commanded hset =>
      rw [hset, resultState_error] at hcalls
      exact hcalls

/-- A tick whose evaluation raised commands nothing. -/
theorem calls_of_evaluate_error (hstatus : backend.status service.hardware = .ok before hardware)
    {policy : SafetyPolicy} {error : Failure}
    (hevaluate : SafetyPolicy.evaluate clock before none none service.policy =
      .error error policy) :
    (resultState (tick backend.recorded clock service.watched)).hardware.2 = [] := by
  have hrecorded : backend.recorded.status service.watched.hardware = .ok before (hardware, []) :=
    FanBackend.unrecorded_of_ok [] hstatus
  rw [tick_hardware, refresh_of_evaluate_error hrecorded hevaluate]
  rfl

/-- A request that the policy answers with an exception ends in it and commands nothing. -/
theorem requestDuty_uncommanded (hstatus : backend.status service.hardware = .ok before hardware)
    {dutyPercent ttlSeconds : Json} {policy : SafetyPolicy} {error : Failure}
    (hrequest : SafetyPolicy.requestOverride clock before dutyPercent ttlSeconds service.policy =
      .error error policy) :
    ∃ after, requestDuty backend.recorded clock dutyPercent ttlSeconds service.watched =
      .error error after ∧ after.hardware = (hardware, []) := by
  have hrecorded : backend.recorded.status service.watched.hardware = .ok before (hardware, []) :=
    FanBackend.unrecorded_of_ok [] hstatus
  exact ⟨_, requestDuty_of_refused hrecorded hrequest, rfl⟩

end

end ControlService

/-- The hardware of the test double. -/
structure FakeHardware where
  current : BackendStatus
  broken : Bool
  deriving DecidableEq

/-- The test double. -/
def fakeBackend : FanBackend FakeHardware where
  status := do return (← get).current
  setDutyPercent percent := do
    if (← get).broken then throw (.backendMutationError "readback_mismatch")
    modify fun hardware => { hardware with current := { hardware.current with
      dutyPercent := some (clampPercent percent)
      mode := .manual } }
    return (← get).current
  setAuto := throw (.runtimeError "not used")

end TrueFan
