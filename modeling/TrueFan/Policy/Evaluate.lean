/-
# The safety policy

`SafetyPolicy.evaluate` turns a backend status into a decision, and
`requestOverride` accepts or refuses a manual duty. Both change the control
state in memory first and write the file afterwards, so a write that raises
leaves the change in memory; the monad keeps the state of a call that raised.

The bodies of the methods take the object they run on as an argument, so that the
policy of this module and the one with a directory behind it share them.
-/

import TrueFan.Policy.State

namespace TrueFan

open Python

def defaultTtlSeconds : ℤ := 300
def maxTtlSeconds : ℤ := 900

def hotDriveC : ℤ := 50
def hotCpuC : ℤ := 70
def recoverDriveC : ℤ := 45
def recoverCpuC : ℤ := 60

/-- `_is_hot`: only a finite reading can be hot. -/
def isHot (value : Option PyFloat) (threshold : ℤ) : Bool :=
  match value with
  | some (.finite x) => decide ((threshold : ℚ) < x.value)
  | _ => false

/-- `reading <= bound` as floats compare: not a number is below nothing. -/
def atMost (reading : PyFloat) (bound : ℤ) : Bool :=
  match reading with
  | .finite x => decide (x.value ≤ bound)
  | .negInf => true
  | .posInf => false
  | .nan => false

/-- The four states a decision reports. -/
inductive SafetyState
  | hot
  | sensorFailure
  | cooling
  | normal
  deriving DecidableEq, Repr

/-- `SafetyDecision`. -/
structure SafetyDecision where
  state : SafetyState
  effectiveDuty : ℤ
  reason : String
  controlsLocked : Bool := false
  overrideExpiresAt : Option Clock := none
  deriving DecidableEq

/-- `SafetyPolicy`: the control state in memory and the store behind it. -/
structure SafetyPolicy where
  state : ControlState
  store : ControlStateStore

namespace SafetyPolicy

abbrev Method (α : Type) := EStateM Failure SafetyPolicy α

/-- `SafetyPolicy(store)`: a process starts from what the store loads. -/
def init (store : ControlStateStore) : Except Failure SafetyPolicy := do
  let state ← store.load
  return { state, store }

/-- The policy of a first start. -/
def fresh (outcomes : ℕ → WriteOutcome) : SafetyPolicy where
  state := ControlStateStore.defaultState
  store := ControlStateStore.fresh outcomes

theorem init_fresh (outcomes : ℕ → WriteOutcome) :
    init (ControlStateStore.fresh outcomes) = .ok (fresh outcomes) := rfl

/-- `_save`. -/
def save : Method Unit := fun policy =>
  zoom SafetyPolicy.store (fun store policy => { policy with store })
    (ControlStateStore.save policy.state) policy

def setPreviousHot (previousHot : Bool) : Method Unit :=
  modify fun policy => { policy with state := { policy.state with previousHot } }

def setOverride (override : Option Override) : Method Unit :=
  modify fun policy => { policy with state := { policy.state with override } }

/-- `_required_temperatures`. -/
def requiredTemperatures (status : BackendStatus) : Option PyFloat × Option PyFloat :=
  (status.temperatures.cpuC, status.temperatures.maxDriveC)

/-- The decision when a required source failed: hold the known duty or raise it,
and command full duty when no duty is known. -/
def sensorFailureDecision (status : BackendStatus) (requestedDuty overrideDuty : Option ℤ)
    (overrideExpiry : Option Clock) : SafetyDecision :=
  match status.dutyPercent with
  | none =>
      { state := .sensorFailure
        effectiveDuty := 100
        reason := "sensor_failure_fail_closed"
        controlsLocked := requestedDuty.isNone
        overrideExpiresAt := overrideExpiry }
  | some known =>
      let candidate := requestedDuty <|> overrideDuty
      let locked := requestedDuty.any fun requested => decide (requested < known)
      { state := .sensorFailure
        effectiveDuty := candidate.elim known (max known)
        reason := "sensor_failure_fail_closed"
        controlsLocked := locked || requestedDuty.isNone
        overrideExpiresAt := overrideExpiry }

/-- Python's `candidate or 50`: zero counts as absent. -/
def orFifty : Option ℤ → ℤ
  | none => 50
  | some candidate => if candidate = 0 then 50 else candidate

/-- The duty a request passes validation with: an integer, not a boolean, in range. -/
def validDuty : Json → Option DutyPercent
  | .int duty => if h : 22 ≤ duty ∧ duty ≤ 100 then some ⟨duty, h⟩ else none
  | _ => none

theorem validDuty_eq_some_iff {dutyPercent : Json} {duty : DutyPercent} :
    validDuty dutyPercent = some duty ↔ dutyPercent = .int duty.val := by
  cases dutyPercent with
  | int n =>
      by_cases h : 22 ≤ n ∧ n ≤ 100
      · rw [validDuty, dif_pos h, Option.some.injEq, Json.int.injEq, Subtype.ext_iff]
      · rw [validDuty, dif_neg h]
        apply iff_of_false nofun
        intro heq
        cases heq
        exact h duty.property
  | _ => exact iff_of_false nofun nofun

/-- The lifetime a request passes validation with; `None` is the default. -/
def validTtl : Json → Option TtlSeconds
  | .null => some ⟨defaultTtlSeconds, by decide⟩
  | .int ttl => if h : 1 ≤ ttl ∧ ttl ≤ maxTtlSeconds then some ⟨ttl, h⟩ else none
  | _ => none

theorem val_of_validTtl {ttl : ℤ} {lifetime : TtlSeconds}
    (h : validTtl (.int ttl) = some lifetime) : lifetime.val = ttl := by
  rw [validTtl] at h
  split at h
  · exact congrArg Subtype.val (Option.some.inj h).symm
  · cases h

/-- `now + ttl`. -/
def expiresAt (now : Clock) (ttl : TtlSeconds) : Clock :=
  now.addInt ttl.val (by have := ttl.property; rw [abs_lt]; omega)

/-- The two refusals of a request the evaluation does not allow. -/
def refusal (status : BackendStatus) (duty : ℤ) (decision : SafetyDecision) : Option Failure :=
  if decision.state = .hot ∧ duty < 100 then
    some (.safetyLocked "Hot threshold requires 100% duty")
  else if decision.state = .sensorFailure ∧
      (status.dutyPercent.any fun known => decide (duty < known)) then
    some (.safetyLocked "Sensor failure forbids lowering known fan duty")
  else none

end SafetyPolicy

/-- An object the methods of `SafetyPolicy` run on: how they read and change it, what its `_save`
does and how an error leaves it. It holds an override as a `τ`. -/
structure PolicyObject (ε σ τ : Type) where
  previousHot : σ → Bool
  setPreviousHot : Bool → EStateM ε σ Unit
  override : σ → Option τ
  setOverride : Option τ → EStateM ε σ Unit
  /-- The override a request stores. -/
  requested : DutyPercent → Clock → τ
  truthy : τ → Bool
  dutyOf : τ → Except Failure ℤ
  expiryOf : τ → Except Failure Clock
  save : EStateM ε σ Unit
  raise : Failure → ε

namespace PolicyObject

variable {ε σ τ : Type} (object : PolicyObject ε σ τ)

/-- What raises or returns without looking at the object. -/
def lift {α : Type} : Except Failure α → EStateM ε σ α
  | .ok value => pure value
  | .error error => throw (object.raise error)

/-- `... if override else None`. -/
def ifHeld {α : Type} (read : τ → Except Failure α) : Option τ → EStateM ε σ (Option α)
  | none => return none
  | some override =>
      if object.truthy override then do return some (← object.lift (read override))
      else return none

/-- `_active_override`: the stored override, unless it has run out; one that has
is dropped, in memory before on disk. -/
def activeOverride (now : Clock) : EStateM ε σ (Option τ) := do
  match object.override (← get) with
  | none => return none
  | some override =>
      if (← object.lift (object.expiryOf override)) ≤ now then
        object.setOverride none
        object.save
        return none
      else
        return some override

/-- The hot branch of `evaluate`: latch the incident and command full duty. -/
def hotDecision (requestedDuty : Option ℤ) (overrideExpiry : Option Clock) :
    EStateM ε σ SafetyDecision := do
  if !object.previousHot (← get) then
    object.setPreviousHot true
    object.save
  return {
    state := .hot
    effectiveDuty := 100
    reason := "hot_threshold"
    controlsLocked := requestedDuty.all fun requested => decide (requested < 100)
    overrideExpiresAt := overrideExpiry }

/-- The last two branches of `evaluate`, with both readings present: the cooling
band of an open incident, or normal operation, which closes a recovered one. -/
def readingsDecision (cpu drive : PyFloat) (requestedDuty overrideDuty : Option ℤ)
    (overrideExpiry : Option Clock) : EStateM ε σ SafetyDecision := do
  let recovered := atMost drive recoverDriveC && atMost cpu recoverCpuC
  let previousHot := object.previousHot (← get)
  let candidate := requestedDuty <|> overrideDuty
  if previousHot && !recovered then
    return {
      state := .cooling
      effectiveDuty := max 50 (SafetyPolicy.orFifty candidate)
      reason := "cooling_band"
      overrideExpiresAt := overrideExpiry }
  else
    let justRecovered := previousHot && recovered
    if justRecovered then
      object.setPreviousHot false
      object.save
    return {
      state := .normal
      effectiveDuty := candidate.getD 22
      reason :=
        if candidate.isSome then "manual_override"
        else if justRecovered then "recovered" else "normal_policy"
      overrideExpiresAt := overrideExpiry }

/-- What `evaluate` decides once the override is read. A hot reading is looked for
before a failed source. -/
def decision (status : BackendStatus) (requestedDuty overrideDuty : Option ℤ)
    (overrideExpiry : Option Clock) : EStateM ε σ SafetyDecision :=
  let (cpuC, driveC) := SafetyPolicy.requiredTemperatures status
  if isHot cpuC hotCpuC || isHot driveC hotDriveC then
    object.hotDecision requestedDuty overrideExpiry
  else
    match status.sensorOk, cpuC, driveC with
    | true, some cpu, some drive =>
        object.readingsDecision cpu drive requestedDuty overrideDuty overrideExpiry
    | _, _, _ =>
        return SafetyPolicy.sensorFailureDecision status requestedDuty overrideDuty overrideExpiry

/-- `SafetyPolicy.evaluate`; `clock` is what the policy's clock would return. -/
def evaluate (clock : Clock) (status : BackendStatus) (requestedDuty : Option ℤ)
    (now : Option Clock) : EStateM ε σ SafetyDecision := do
  let currentTime := now.getD clock
  let override ← object.activeOverride currentTime
  let overrideDuty ← object.ifHeld object.dutyOf override
  let overrideExpiry ← object.ifHeld object.expiryOf override
  object.decision status requestedDuty overrideDuty overrideExpiry

/-- `SafetyPolicy.request_override`. -/
def requestOverride (clock : Clock) (status : BackendStatus) (dutyPercent ttlSeconds : Json) :
    EStateM ε σ SafetyDecision := do
  match SafetyPolicy.validDuty dutyPercent with
  | none => throw (object.raise (.valueError "duty_out_of_range"))
  | some duty =>
    match SafetyPolicy.validTtl ttlSeconds with
    | none => throw (object.raise (.valueError "ttl_out_of_range"))
    | some ttl =>
        let now := clock
        let decision ← object.evaluate clock status (some duty.val) (some now)
        match SafetyPolicy.refusal status duty.val decision with
        | some error => throw (object.raise error)
        | none =>
            let expiry := SafetyPolicy.expiresAt now ttl
            object.setOverride (some (object.requested duty expiry))
            object.save
            return { decision with overrideExpiresAt := some expiry }

end PolicyObject

namespace SafetyPolicy

/-- The policy as the object of its methods. Its overrides have passed validation, so that
reading one never raises. -/
def object : PolicyObject Failure SafetyPolicy Override where
  previousHot policy := policy.state.previousHot
  setPreviousHot := setPreviousHot
  override policy := policy.state.override
  setOverride := setOverride
  requested duty expiry := ⟨duty, .float expiry⟩
  truthy _ := true
  dutyOf override := .ok override.dutyPercent.val
  expiryOf override := .ok override.expiry
  save := save
  raise := id

def activeOverride (now : Clock) : Method (Option Override) := object.activeOverride now

theorem activeOverride_eq (now : Clock) :
    activeOverride now = (do
      match (← get).state.override with
      | none => return none
      | some override =>
          if override.expiry ≤ now then
            setOverride none
            save
            return none
          else
            return some override) := by
  funext ⟨⟨previousHot, override⟩, store⟩
  cases override <;> rfl

def evaluate (clock : Clock) (status : BackendStatus) (requestedDuty : Option ℤ)
    (now : Option Clock) : Method SafetyDecision :=
  object.evaluate clock status requestedDuty now

def requestOverride (clock : Clock) (status : BackendStatus) (dutyPercent ttlSeconds : Json) :
    Method SafetyDecision :=
  object.requestOverride clock status dutyPercent ttlSeconds

end SafetyPolicy

end TrueFan
