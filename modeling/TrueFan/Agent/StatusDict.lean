/-
# The status as the agent sends it

A snapshot goes out as the dictionaries of its parts. The web framework turns them into JSON
without the floats that JSON lacks: a snapshot with a reading that is not finite is an error,
which the agent answers like any other value it does not accept.
-/

import TrueFan.Agent.Endpoints

namespace TrueFan

open Python

namespace Python

namespace Json

mutual

/-- All floats in the value are finite. -/
def compliant : Json → Bool
  | .float (.finite _) => true
  | .float _ => false
  | .array items => itemsCompliant items
  | .object members => membersCompliant members
  | _ => true

def itemsCompliant : List Json → Bool
  | [] => true
  | item :: rest => compliant item && itemsCompliant rest

def membersCompliant : List (String × Json) → Bool
  | [] => true
  | (_, value) :: rest => compliant value && membersCompliant rest

end

theorem compliant_object (members : List (String × Json)) :
    compliant (.object members) = membersCompliant members := by
  rw [compliant]

@[simp]
theorem membersCompliant_nil : membersCompliant [] = true := by
  rw [membersCompliant]

@[simp]
theorem membersCompliant_cons (name : String) (value : Json) (rest : List (String × Json)) :
    membersCompliant ((name, value) :: rest) = (compliant value && membersCompliant rest) := by
  rw [membersCompliant]

theorem membersCompliant_iff (members : List (String × Json)) :
    membersCompliant members = true ↔ ∀ member ∈ members, compliant member.2 = true := by
  induction members with
  | nil => simp
  | cons member rest ih =>
      rw [membersCompliant_cons, Bool.and_eq_true, ih, List.forall_mem_cons]

theorem membersCompliant_map {α : Type} (entries : List (String × α)) (value : α → Json) :
    membersCompliant (entries.map fun entry => (entry.1, value entry.2)) = true ↔
      ∀ entry ∈ entries, compliant (value entry.2) = true := by
  rw [membersCompliant_iff, List.forall_mem_map]

end Json

end Python

/-- A reading that may be `None`. -/
def jsonOfReading (reading : Option PyFloat) : Json := (reading.map Json.float).getD .null

/-- The dictionary of the temperatures. -/
def Temperatures.toDict (temperatures : Temperatures) : List (String × Json) :=
  [("cpu_c", jsonOfReading temperatures.cpuC),
    ("board_c", jsonOfReading temperatures.boardC),
    ("drives_c", .object (temperatures.drivesC.map fun drive => (drive.1, .float drive.2))),
    ("max_drive_c", jsonOfReading temperatures.maxDriveC),
    ("nvme_c", jsonOfReading temperatures.nvmeC)]

/-- `BackendStatus.to_dict`. -/
def BackendStatus.toDict (status : BackendStatus) : List (String × Json) :=
  [("backend", .str status.backend),
    ("mode", .str status.mode.name),
    ("duty_percent", jsonOfInt status.dutyPercent),
    ("pwm", jsonOfInt status.pwm),
    ("fan_rpms", .object (status.fanRpms.map fun fan => (fan.1, .int fan.2))),
    ("temperatures", .object status.temperatures.toDict),
    ("sensor_ok", .bool status.sensorOk),
    ("error", (status.error.map fun error =>
      Json.object [("code", .str error.code), ("message", .str error.message)]).getD .null)]

/-- `SafetyDecision.to_dict`. -/
def SafetyDecision.toDict (decision : SafetyDecision) : List (String × Json) :=
  [("state", .str decision.state.name),
    ("effective_duty", .int decision.effectiveDuty),
    ("reason", .str decision.reason),
    ("controls_locked", .bool decision.controlsLocked),
    ("override_expires_at",
      (decision.overrideExpiresAt.map fun expiry => Json.float (.finite expiry)).getD .null)]

/-- The dictionary of the thresholds. -/
def thresholdsDict (thresholds : List (String × List (String × ℤ))) : List (String × Json) :=
  thresholds.map fun sensor =>
    (sensor.1, .object (sensor.2.map fun bound => (bound.1, .int bound.2)))

/-- The dictionary of a snapshot. -/
def StatusPayload.toDict (payload : StatusPayload) : List (String × Json) :=
  [("backend", .object payload.backend.toDict),
    ("safety", .object payload.safety.toDict),
    ("thresholds", .object (thresholdsDict payload.thresholds))]

namespace Agent

/-- A snapshot as the web framework renders it. -/
def renderStatus (payload : StatusPayload) : Except Failure Json :=
  if (Json.object payload.toDict).compliant then .ok (.object payload.toDict)
  else .error (.valueError "Out of range float values are not JSON compliant")

end Agent

/-- A reading that is there is finite. -/
def FiniteReading (reading : Option PyFloat) : Prop :=
  ∀ value, reading = some value → ∃ x, value = .finite x

/-- All readings that are there are finite. -/
structure Temperatures.AllFinite (temperatures : Temperatures) : Prop where
  cpuC : FiniteReading temperatures.cpuC
  boardC : FiniteReading temperatures.boardC
  drivesC : ∀ drive ∈ temperatures.drivesC, ∃ x, drive.2 = .finite x
  maxDriveC : FiniteReading temperatures.maxDriveC
  nvmeC : FiniteReading temperatures.nvmeC

theorem compliant_float_iff (value : PyFloat) :
    (Json.float value).compliant = true ↔ ∃ x, value = .finite x := by
  cases value <;> simp [Json.compliant]

theorem compliant_jsonOfReading_iff (reading : Option PyFloat) :
    (jsonOfReading reading).compliant = true ↔ FiniteReading reading := by
  cases reading with
  | none => simp [jsonOfReading, Json.compliant, FiniteReading]
  | some value => simp [jsonOfReading, FiniteReading, compliant_float_iff]

theorem compliant_jsonOfInt (value : Option ℤ) : (jsonOfInt value).compliant = true := by
  cases value <;> simp [jsonOfInt, Json.compliant]

theorem compliant_temperatures_iff (temperatures : Temperatures) :
    Json.membersCompliant temperatures.toDict = true ↔ temperatures.AllFinite := by
  simp only [Temperatures.toDict, Json.compliant_object, Json.membersCompliant_cons,
    Json.membersCompliant_nil, Bool.and_eq_true, compliant_jsonOfReading_iff,
    Json.membersCompliant_map temperatures.drivesC Json.float, compliant_float_iff, and_true]
  constructor
  · rintro ⟨hcpu, hboard, hdrives, hmax, hnvme⟩
    exact ⟨hcpu, hboard, hdrives, hmax, hnvme⟩
  · exact fun h => ⟨h.cpuC, h.boardC, h.drivesC, h.maxDriveC, h.nvmeC⟩

theorem compliant_backend_iff (status : BackendStatus) :
    Json.membersCompliant status.toDict = true ↔ status.temperatures.AllFinite := by
  have hfans : Json.membersCompliant (status.fanRpms.map fun fan => (fan.1, Json.int fan.2)) =
      true := by
    rw [Json.membersCompliant_map status.fanRpms Json.int]
    simp [Json.compliant]
  rw [← compliant_temperatures_iff]
  cases h : status.error <;>
    simp [BackendStatus.toDict, Json.compliant, compliant_jsonOfInt, hfans, h]

theorem compliant_safety (decision : SafetyDecision) :
    Json.membersCompliant decision.toDict = true := by
  cases h : decision.overrideExpiresAt <;> simp [SafetyDecision.toDict, Json.compliant, h]

theorem compliant_thresholds (thresholds : List (String × List (String × ℤ))) :
    Json.membersCompliant (thresholdsDict thresholds) = true := by
  apply (Json.membersCompliant_map thresholds fun bounds =>
    .object (bounds.map fun bound => (bound.1, .int bound.2))).mpr
  intro sensor _
  rw [Json.compliant_object, Json.membersCompliant_map sensor.2 Json.int]
  simp [Json.compliant]

/-- A snapshot is rendered exactly if all its readings are finite. -/
theorem Agent.renderStatus_eq (payload : StatusPayload) :
    (Agent.renderStatus payload = .ok (.object payload.toDict) ∧
      payload.backend.temperatures.AllFinite) ∨
    ((∃ message, Agent.renderStatus payload = .error (.valueError message)) ∧
      ¬ payload.backend.temperatures.AllFinite) := by
  have hcompliant : (Json.object payload.toDict).compliant = true ↔
      payload.backend.temperatures.AllFinite := by
    rw [← compliant_backend_iff]
    simp [StatusPayload.toDict, Json.compliant, compliant_safety, compliant_thresholds]
  rw [Agent.renderStatus]
  by_cases h : (Json.object payload.toDict).compliant = true
  · exact .inl ⟨if_pos h, hcompliant.mp h⟩
  · exact .inr ⟨⟨_, if_neg h⟩, mt hcompliant.mpr h⟩

end TrueFan
