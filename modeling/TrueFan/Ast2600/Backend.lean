/-
# The AST2600 backend

The backend puts the controller's mode and duty together with the readings of two
sensor sources, either of which may fail without failing the status. A status read
never raises: a controller that cannot be read gives a status that knows nothing.
-/

import TrueFan.Ast2600.Bmc
import TrueFan.Service.Incident

namespace TrueFan

open Python

/-- What the Redfish source returns. -/
structure RedfishReading where
  cpuC : Option PyFloat
  boardC : Option PyFloat
  fanRpms : List (String × ℤ)

/-- What the TrueNAS source returns. -/
structure TrueNasReading where
  drivesC : List (String × PyFloat)
  maxDriveC : Option PyFloat
  nvmeC : Option PyFloat

/-- `Ast2600Backend`: the client of the controller and the `fetch` methods of the two
sensor sources. -/
structure Ast2600Backend (Link Sensors : Type) where
  ipmi : Ast2600Ipmi Link
  redfish : EStateM Failure Sensors RedfishReading
  truenas : EStateM Failure Sensors TrueNasReading

namespace Ast2600Backend

variable {Link Sensors : Type}

def onLink {α : Type} (method : EStateM Failure Link α) : EStateM Failure (Link × Sensors) α :=
  zoom Prod.fst (fun link hardware => (link, hardware.2)) method

def onSensors {α : Type} (method : EStateM Failure Sensors α) :
    EStateM Failure (Link × Sensors) α :=
  zoom Prod.snd (fun sensors hardware => (hardware.1, sensors)) method

/-- What `_enrich` makes of a status and the two readings, one absent if its source
raised. -/
def enriched (status : BackendStatus) (redfish : Option RedfishReading)
    (truenas : Option TrueNasReading) : BackendStatus :=
  let temperatures : Temperatures := {
    cpuC := redfish.bind RedfishReading.cpuC
    boardC := redfish.bind RedfishReading.boardC
    drivesC := (truenas.map TrueNasReading.drivesC).getD []
    maxDriveC := truenas.bind TrueNasReading.maxDriveC
    nvmeC := truenas.bind TrueNasReading.nvmeC }
  let failed := redfish.isNone || truenas.isNone
  let complete := temperatures.cpuC.isSome && temperatures.maxDriveC.isSome
  let sensorOk := !failed && complete
  { status with
    temperatures
    fanRpms := (redfish.map RedfishReading.fanRpms).getD []
    sensorOk
    error :=
      if sensorOk then status.error
      else some ⟨"sensor_read_failed", "One or more sensor sources failed"⟩ }

/-- `_enrich`. -/
def enrich (backend : Ast2600Backend Link Sensors) (status : BackendStatus) :
    EStateM Failure (Link × Sensors) BackendStatus := do
  let redfish ← attempt (onSensors backend.redfish)
  let truenas ← attempt (onSensors backend.truenas)
  return enriched status redfish truenas

/-- The status of a controller that could not be read. -/
def unreadable : BackendStatus where
  backend := "ast2600_ipmi"
  sensorOk := false
  error := some ⟨"backend_read_failed", "BMC status read failed"⟩

/-- `Ast2600Backend` as the service sees it. -/
def toFanBackend (backend : Ast2600Backend Link Sensors) : FanBackend (Link × Sensors) where
  status := do
    match ← attempt (do backend.enrich (← onLink backend.ipmi.status)) with
    | some status => return status
    | none => return unreadable
  setDutyPercent percent := do backend.enrich (← onLink (backend.ipmi.setDutyPercent percent))
  setAuto := do backend.enrich (← onLink backend.ipmi.setAuto)

section

variable {backend : Ast2600Backend Link Sensors} {hardware after : Link × Sensors}

theorem onLink_eq_ok {α : Type} {method : EStateM Failure Link α} {value : α}
    (h : onLink method hardware = .ok value after) :
    method hardware.1 = .ok value after.1 := by
  obtain ⟨link, hrun, rfl⟩ := zoom_eq_ok h
  exact hrun

/-- Reading sensors leaves the controller alone. -/
theorem attempt_onSensors {α : Type} (method : EStateM Failure Sensors α)
    (hardware : Link × Sensors) :
    ∃ reading sensors, attempt (onSensors method) hardware = .ok reading (hardware.1, sensors) := by
  unfold attempt onSensors zoom
  cases method hardware.2 with
  | ok value sensors => exact ⟨some value, sensors, rfl⟩
  | error error sensors => exact ⟨none, sensors, rfl⟩

/-- Enriching never raises, and keeps what the controller reported. -/
theorem enrich_apply (backend : Ast2600Backend Link Sensors) (status : BackendStatus)
    (hardware : Link × Sensors) :
    ∃ redfish truenas sensors,
      backend.enrich status hardware =
        .ok (enriched status redfish truenas) (hardware.1, sensors) := by
  obtain ⟨redfish, between, hredfish⟩ := attempt_onSensors backend.redfish hardware
  obtain ⟨truenas, sensors, htruenas⟩ := attempt_onSensors backend.truenas (hardware.1, between)
  refine ⟨redfish, truenas, sensors, ?_⟩
  rw [enrich, bind_of_ok hredfish, bind_of_ok htruenas]
  rfl

/-- An enriched call that returned is a call of the controller, enriched. -/
theorem enrich_onLink_eq_ok {method : EStateM Failure Link BackendStatus} {status : BackendStatus}
    (h : (do backend.enrich (← onLink method) : EStateM Failure (Link × Sensors) BackendStatus)
      hardware = .ok status after) :
    ∃ reported redfish truenas, method hardware.1 = .ok reported after.1 ∧
      status = enriched reported redfish truenas := by
  obtain ⟨reported, between, hlink, h⟩ := bind_eq_ok h
  obtain ⟨redfish, truenas, sensors, henrich⟩ := enrich_apply backend reported between
  rw [henrich] at h
  cases h
  have hreported : method hardware.1 = .ok reported between.1 := onLink_eq_ok hlink
  exact ⟨reported, redfish, truenas, hreported, rfl⟩

/-- A status is what the controller reported, enriched, or it knows nothing. -/
theorem status_eq_ok {status : BackendStatus}
    (h : backend.toFanBackend.status hardware = .ok status after) :
    (∃ reported redfish truenas, backend.ipmi.status hardware.1 = .ok reported after.1 ∧
      status = enriched reported redfish truenas) ∨ status = unreadable := by
  obtain ⟨attempted, between, hattempt, h⟩ := bind_eq_ok h
  cases hcall : (do backend.enrich (← onLink backend.ipmi.status) :
      EStateM Failure (Link × Sensors) BackendStatus) hardware with
  | ok value after' =>
      rw [attempt, hcall] at hattempt
      cases hattempt
      cases h
      exact .inl (enrich_onLink_eq_ok hcall)
  | error error after' =>
      rw [attempt, hcall] at hattempt
      cases hattempt
      cases h
      exact .inr rfl

end

end Ast2600Backend

end TrueFan
