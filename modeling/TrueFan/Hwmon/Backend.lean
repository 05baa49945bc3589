/-
# The hwmon backend

The adapter abstracts a tree of PWM files to a mode and a duty: the mode is manual
if some channel can be read at all, and the duty is the clamp of what that channel
holds. Its parts are injected as in the source, and the sensor reader may return
anything or raise.
-/

import TrueFan.Duty
import TrueFan.Hwmon.Pwm

namespace TrueFan

open Python Foundations

/-- What a sensor reader returns; a member may be missing. -/
structure HwmonSensors where
  temperatures : Option Temperatures
  fanRpms : Option (List (String × ℤ))
  sensorOk : Bool

/-- `HwmonPwmBackend`. -/
structure HwmonPwmBackend (Sensors : Type) where
  discover : Layout → List Path
  read : List Path → FileTree → Option ℤ
  write : ℤ → List Path → EStateM Failure FileTree (Option Path)
  sensorReader : FileTree → EStateM Failure Sensors HwmonSensors

namespace HwmonPwmBackend

variable {Sensors : Type}

/-- The backend with the functions of its own module. -/
def ofReader (order : IterationOrder)
    (sensorReader : FileTree → EStateM Failure Sensors HwmonSensors) :
    HwmonPwmBackend Sensors where
  discover layout := discoverPwmFiles layout
  read := readCurrentPwm
  write := writePwmValue order
  sensorReader

def onTree {α : Type} (method : EStateM Failure FileTree α) :
    EStateM Failure (FileTree × Sensors) α :=
  zoom Prod.fst (fun tree hardware => (tree, hardware.2)) method

def onSensors {α : Type} (method : EStateM Failure Sensors α) :
    EStateM Failure (FileTree × Sensors) α :=
  zoom Prod.snd (fun sensors hardware => (hardware.1, sensors)) method

/-- The status made of a raw value and a sensor reading. -/
def statusOf (raw : Option ℤ) (sensors : HwmonSensors) : BackendStatus where
  backend := "hwmon_pwm"
  mode := if raw.isSome then .manual else .unknown
  dutyPercent := raw.map pwmToPercent
  pwm := raw
  fanRpms := sensors.fanRpms.getD []
  temperatures := sensors.temperatures.getD emptyTemperatures
  sensorOk := sensors.sensorOk
  error :=
    if sensors.sensorOk then none
    else some ⟨"sensor_read_failed", "Required hwmon sensors are unavailable"⟩

/-- `status`. -/
def status (backend : HwmonPwmBackend Sensors) :
    EStateM Failure (FileTree × Sensors) BackendStatus := do
  let tree := (← get).1
  let raw := backend.read (backend.discover tree.layout) tree
  let sensors ← onSensors (backend.sensorReader tree)
  return statusOf raw sensors

/-- `set_duty_percent`. -/
def setDutyPercent (backend : HwmonPwmBackend Sensors) (percent : ℤ) :
    EStateM Failure (FileTree × Sensors) BackendStatus := do
  let expected := clampPercent percent
  let paths := backend.discover (← get).1.layout
  match ← onTree (backend.write (percentToPwm expected) paths) with
  | none => throw (.backendMutationError "pwm_write_failed")
  | some _ =>
      let status ← backend.status
      if status.dutyPercent ≠ some expected then
        throw (.backendMutationError "readback_mismatch")
      return status

/-- Hand the channels that have an enable file back to automatic control; tell
whether there was one. -/
def writeAuto : List Path → EStateM Failure FileTree Bool
  | [] => return false
  | path :: rest => do
      if (← get).layout.isFile (enablePath path) then
        writeText (enablePath path) ['2']
        let _ ← writeAuto rest
        return true
      else writeAuto rest

/-- `set_auto`. -/
def setAuto (backend : HwmonPwmBackend Sensors) :
    EStateM Failure (FileTree × Sensors) BackendStatus := do
  let paths := backend.discover (← get).1.layout
  if ← onTree (writeAuto paths) then
    let status ← backend.status
    return { status with mode := .auto }
  else throw (.backendMutationError "auto_mode_unavailable")

/-- `HwmonPwmBackend` as the service sees it. -/
def toFanBackend (backend : HwmonPwmBackend Sensors) : FanBackend (FileTree × Sensors) where
  status := backend.status
  setDutyPercent := backend.setDutyPercent
  setAuto := backend.setAuto

section

variable {backend : HwmonPwmBackend Sensors} {hardware after : FileTree × Sensors}

/-- A status changes no file, and reports what its parts found there. -/
theorem status_eq_ok {status : BackendStatus} (h : backend.status hardware = .ok status after) :
    ∃ sensors, backend.sensorReader hardware.1 hardware.2 = .ok sensors after.2 ∧
      after.1 = hardware.1 ∧
      status = statusOf (backend.read (backend.discover hardware.1.layout) hardware.1) sensors := by
  rw [HwmonPwmBackend.status, get_bind_apply] at h
  obtain ⟨sensors, between, hsensors, h⟩ := bind_eq_ok h
  obtain ⟨inner, hread, rfl⟩ := zoom_eq_ok hsensors
  cases h
  exact ⟨sensors, hread, rfl, rfl⟩

/-- A command that returned had its write succeed; what it returned is a status that
reports the clamped duty. -/
theorem setDutyPercent_eq_readback {percent : ℤ} {readback : BackendStatus}
    (h : backend.setDutyPercent percent hardware = .ok readback after) :
    ∃ target sensors, backend.write (percentToPwm (clampPercent percent))
        (backend.discover hardware.1.layout) hardware.1 = .ok (some target) after.1 ∧
      readback = statusOf (backend.read (backend.discover after.1.layout) after.1) sensors ∧
      readback.dutyPercent = some (clampPercent percent) := by
  rw [HwmonPwmBackend.setDutyPercent, get_bind_apply] at h
  obtain ⟨result, between, hresult, h⟩ := bind_eq_ok h
  obtain ⟨tree, hwrite, rfl⟩ := zoom_eq_ok hresult
  cases result with
  | none => cases h
  | some target =>
      obtain ⟨status, between, hstatus, h⟩ := bind_eq_ok h
      obtain ⟨sensors, -, htree, hread⟩ := status_eq_ok hstatus
      split at h
      next =>
        rw [bind_of_error (throw_apply _ _)] at h
        cases h
      next hverified =>
        cases h
        rw [htree]
        exact ⟨target, sensors, hwrite, hread, not_not.mp hverified⟩

/-- A command that returned had its write succeed and read the clamped duty back. -/
theorem setDutyPercent_eq_ok {percent : ℤ} {readback : BackendStatus}
    (h : backend.setDutyPercent percent hardware = .ok readback after) :
    ∃ target, backend.write (percentToPwm (clampPercent percent))
        (backend.discover hardware.1.layout) hardware.1 = .ok (some target) after.1 ∧
      (backend.read (backend.discover after.1.layout) after.1).map pwmToPercent =
        some (clampPercent percent) := by
  obtain ⟨target, sensors, hwrite, rfl, hverified⟩ := setDutyPercent_eq_readback h
  exact ⟨target, hwrite, hverified⟩

end

end HwmonPwmBackend

end TrueFan
