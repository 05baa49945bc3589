/-
# The service as a regulator

What the agent is for, said without its parts. A plant has a mode, a duty it is known to run at
and takes commands; a regulator holds a plant, remembers whether an incident is open and which
override is in force, and at every tick or accepted request brings the plant to the duty of the
safety table. No file, no status and no exception occur in it.

Over a backend that obeys, and while writes of the state file succeed, every history of the
service is a history of the regulator.
-/

import TrueFan.Foundations.Simulation
import TrueFan.Service.Run

namespace TrueFan

open Python Foundations

/-- The two required readings, each absent if its source failed or has none. -/
structure Sensed where
  cpuC : Option PyFloat
  maxDriveC : Option PyFloat

/-- How the readings stand to the thresholds. -/
def Sensed.band (sensed : Sensed) : Band :=
  if isHot sensed.cpuC hotCpuC || isHot sensed.maxDriveC hotDriveC then .hot
  else
    match sensed.cpuC, sensed.maxDriveC with
    | some cpu, some drive =>
        if atMost drive recoverDriveC && atMost cpu recoverCpuC then .recovered else .warm
    | _, _ => .failed

/-- What is regulated: the mode and the duty it is known to have, and what a command makes of
it. -/
structure Plant (Held : Type) where
  mode : Held → Mode
  known : Held → Option ℤ
  command : ℤ → Held → Held

/-- The plant is in manual mode at the duty. -/
def Plant.InPlace {Held : Type} (plant : Plant Held) (held : Held) (duty : ℤ) : Prop :=
  plant.mode held = .manual ∧ plant.known held = some duty

instance {Held : Type} (plant : Plant Held) (held : Held) (duty : ℤ) :
    Decidable (plant.InPlace held duty) := inferInstanceAs (Decidable (_ ∧ _))

/-- The plant as it is, and what is remembered. -/
structure Regulator (Held : Type) where
  held : Held
  memory : ControlState

/-- What happens to a regulator. A request is for a duty and a lifetime in range. -/
inductive RegulatorEvent (Held : Type)
  | tick (now : Clock) (sensed : Sensed)
  | request (now : Clock) (sensed : Sensed) (duty : DutyPercent) (ttl : TtlSeconds)
  | changed (held : Held)

namespace Regulator

variable {Held : Type}

/-- One event, and the duty decided on, if one was. -/
def step (plant : Plant Held) (regulator : Regulator Held) :
    RegulatorEvent Held → Option ℤ × Regulator Held
  | .tick now sensed =>
      let live := regulator.memory.liveOverride now
      let latched := regulator.memory.previousHot
      let duty := sensed.band.duty latched (plant.known regulator.held)
        (live.map fun override => override.dutyPercent.val)
      (some duty, {
        held :=
          if plant.InPlace regulator.held duty then regulator.held
          else plant.command duty regulator.held
        memory := ⟨sensed.band.nextLatch latched, live⟩ })
  | .request now sensed duty ttl =>
      let live := regulator.memory.liveOverride now
      let latched := regulator.memory.previousHot
      let known := plant.known regulator.held
      if sensed.band.locks known (some duty.val) then
        (none, { regulator with memory := ⟨sensed.band.nextLatch latched, live⟩ })
      else
        let asked := sensed.band.duty latched known (some duty.val)
        (some asked, {
          held := plant.command asked regulator.held
          memory :=
            ⟨sensed.band.nextLatch latched, some ⟨duty, .float (SafetyPolicy.expiresAt now ttl)⟩⟩ })
  | .changed held => (none, { regulator with held })

end Regulator

/-- The backend returns whatever the hardware is like, reports the plant and the readings, and a
command does to the plant what it does. -/
structure Obeys {Hardware Held : Type} (backend : FanBackend Hardware) (plant : Plant Held)
    (held : Hardware → Held) (sensed : Hardware → Sensed) : Prop where
  status : ∀ hardware, ∃ status after, backend.status hardware = .ok status after ∧
    held after = held hardware ∧ status.mode = plant.mode (held hardware) ∧
    status.dutyPercent = plant.known (held hardware) ∧ status.band = (sensed hardware).band
  command : ∀ percent hardware, ∃ readback after,
    backend.setDutyPercent percent hardware = .ok readback after ∧
    held after = plant.command percent (held hardware)

namespace SafetyPolicy

/-- A request is refused exactly where the table locks the controls against it. -/
theorem refusal_eq_none_iff (latched : Bool) (status : BackendStatus) (duty : ℤ)
    (override : Option Override) :
    refusal status duty (tableDecision latched status (some duty) override) = none ↔
      status.band.locks status.dutyPercent (some duty) = false := by
  have hrefused := refusal_ne_none_iff latched status duty override
  rw [← not_iff_not]
  rw [← Ne, hrefused, Refused, Bool.not_eq_false]
  cases status.band with
  | hot => simp [Band.locks]
  | failed => simp [Band.locks, Option.any_eq_true]
  | recovered => simp [Band.locks]
  | warm => simp [Band.locks]

end SafetyPolicy

namespace ControlService

variable {Hardware Held : Type} {backend : FanBackend Hardware} {plant : Plant Held}
  {held : Hardware → Held} {sensed : Hardware → Sensed}

/-- The regulator a service comes to. -/
def regulator (held : Hardware → Held) (service : ControlService Hardware) : Regulator Held where
  held := held service.hardware
  memory := service.policy.state

/-- A request for a duty and a lifetime, if both are in range. -/
def requestEvent (sensed : Sensed) (clock : Clock) (dutyPercent ttlSeconds : Json) :
    Option (RegulatorEvent Held) :=
  match SafetyPolicy.validDuty dutyPercent, SafetyPolicy.validTtl ttlSeconds with
  | some duty, some ttl => some (.request clock sensed duty ttl)
  | _, _ => none

/-- What an event of the service is to the regulator. -/
def regulatorEvent (held : Hardware → Held) (sensed : Hardware → Sensed)
    (service : ControlService Hardware) : ServiceEvent Hardware → Option (RegulatorEvent Held)
  | .tick clock => some (.tick clock (sensed service.hardware))
  | .requestDuty clock dutyPercent ttlSeconds =>
      requestEvent (sensed service.hardware) clock dutyPercent ttlSeconds
  | .requestProfile clock profile ttlSeconds =>
      (profiles.lookup profile).bind fun duty =>
        requestEvent (sensed service.hardware) clock (.int duty) ttlSeconds
  | .restart => none
  | .disturb change => some (.changed (held (change service.hardware)))

theorem requestEvent_eq_some {sensed : Sensed} {clock : Clock} {dutyPercent ttlSeconds : Json}
    {event : RegulatorEvent Held}
    (h : requestEvent sensed clock dutyPercent ttlSeconds = some event) :
    ∃ duty ttl, SafetyPolicy.validDuty dutyPercent = some duty ∧
      SafetyPolicy.validTtl ttlSeconds = some ttl ∧ event = .request clock sensed duty ttl := by
  rw [requestEvent] at h
  split at h
  next duty ttl hduty httl =>
    cases h
    exact ⟨duty, ttl, hduty, httl, rfl⟩
  next => cases h

theorem requestEvent_eq_none {sensed : Sensed} {clock : Clock} {dutyPercent ttlSeconds : Json}
    (h : (requestEvent sensed clock dutyPercent ttlSeconds : Option (RegulatorEvent Held)) = none) :
    SafetyPolicy.validDuty dutyPercent = none ∨ SafetyPolicy.validTtl ttlSeconds = none := by
  rw [requestEvent] at h
  split at h
  next => cases h
  next hinvalid =>
    cases hduty : SafetyPolicy.validDuty dutyPercent with
    | none => exact .inl rfl
    | some duty =>
        cases httl : SafetyPolicy.validTtl ttlSeconds with
        | none => exact .inr rfl
        | some ttl => exact absurd httl (hinvalid duty ttl hduty)

/-- A tick returns and is a tick of the regulator. -/
theorem tick_regulates (obeys : Obeys backend plant held sensed)
    {service : ControlService Hardware} (durable : service.policy.Durable) (clock : Clock) :
    ∃ payload after, tick backend clock service = .ok payload after ∧
      (some payload.safety.effectiveDuty, regulator held after) =
        (regulator held service).step plant (.tick clock (sensed service.hardware)) := by
  obtain ⟨before, hardware, hstatus, hheld, hmode, hknown, hband⟩ := obeys.status service.hardware
  obtain ⟨policy, hevaluate, hstate, -⟩ := durable.evaluate clock before none none
  rw [Option.getD_none] at hevaluate hstate
  have hrefresh := refresh_of_evaluate_ok hstatus hevaluate
  have hduty : (tableDecision service.policy.state.previousHot before none
      (service.policy.state.liveOverride clock)).effectiveDuty =
      (sensed service.hardware).band.duty service.policy.state.previousHot
        (plant.known (held service.hardware))
        ((service.policy.state.liveOverride clock).map fun override =>
          override.dutyPercent.val) := by
    rw [← hband, ← hknown]
    rfl
  have hmemory : policy.state = ⟨(sensed service.hardware).band.nextLatch
      service.policy.state.previousHot, service.policy.state.liveOverride clock⟩ := by
    rw [hstate, ← hband]
    rfl
  generalize tableDecision _ _ _ _ = decision at hrefresh hduty
  have hplace : InPlace before decision.effectiveDuty ↔
      plant.InPlace (held service.hardware) decision.effectiveDuty := by
    rw [InPlace, Plant.InPlace, hmode, hknown]
  dsimp only [Regulator.step, regulator]
  rw [← hduty]
  by_cases hin : InPlace before decision.effectiveDuty
  · rw [if_pos hin] at hrefresh
    refine ⟨_, _, tick_eq_ok_iff.mpr hrefresh, ?_⟩
    rw [if_pos (hplace.mp hin), reported_hardware, reported_policy, hmemory, hheld]
  · rw [if_neg hin] at hrefresh
    obtain ⟨readback, commanded, hset, hcommanded⟩ :=
      obeys.command decision.effectiveDuty hardware
    rw [hset] at hrefresh
    refine ⟨_, _, tick_eq_ok_iff.mpr hrefresh, ?_⟩
    rw [if_neg fun h => hin (hplace.mpr h), reported_hardware, reported_policy, hmemory,
      hcommanded, hheld]

/-- A request for a duty and a lifetime in range is a request to the regulator. -/
theorem requestDuty_regulates (obeys : Obeys backend plant held sensed)
    {service : ControlService Hardware} (durable : service.policy.Durable) (clock : Clock)
    {dutyPercent ttlSeconds : Json} {duty : DutyPercent} {ttl : TtlSeconds}
    (hduty : SafetyPolicy.validDuty dutyPercent = some duty)
    (httl : SafetyPolicy.validTtl ttlSeconds = some ttl) :
    ((returned (requestDuty backend clock dutyPercent ttlSeconds service)).map
          MutationResult.effectiveDuty,
        regulator held (resultState (requestDuty backend clock dutyPercent ttlSeconds service))) =
      (regulator held service).step plant
        (.request clock (sensed service.hardware) duty ttl) := by
  obtain ⟨before, hardware, hstatus, hheld, -, hknown, hband⟩ := obeys.status service.hardware
  dsimp only [Regulator.step, regulator]
  rcases durable.request hduty httl clock before with
    ⟨error, policy, hrefusal, hrequest, hstate, -⟩ |
    ⟨decision, policy, hrefusal, hrequest, hstate, -⟩
  · have hlocked : ¬ before.band.locks before.dutyPercent (some duty.val) = false := by
      rw [← SafetyPolicy.refusal_eq_none_iff, hrefusal]
      exact nofun
    rw [hband, hknown, Bool.not_eq_false] at hlocked
    rw [requestDuty_of_refused hstatus hrequest, if_pos hlocked]
    dsimp only [returned_error, resultState_error, Option.map_none]
    rw [hheld, hstate, ← hband]
    rfl
  · have hfree := (SafetyPolicy.refusal_eq_none_iff _ _ _ _).mp hrefusal
    rw [hband, hknown] at hfree
    have hasked := SafetyPolicy.effectiveDuty_of_requestOverride hduty httl hrequest
    rw [hband, hknown] at hasked
    obtain ⟨readback, commanded, hset, hcommanded⟩ :=
      obeys.command decision.effectiveDuty hardware
    rw [requestDuty_of_accepted hstatus hrequest, hset, hfree]
    dsimp only [returned_ok, resultState_ok, Option.map_some, mutationResult, published]
    rw [hcommanded, hheld, hasked, hstate, ← hband]
    rfl

theorem requestDuty_of_unasked (obeys : Obeys backend plant held sensed)
    {service : ControlService Hardware} {clock : Clock} {dutyPercent ttlSeconds : Json}
    (h : (requestEvent (sensed service.hardware) clock dutyPercent ttlSeconds :
      Option (RegulatorEvent Held)) = none) :
    regulator held (resultState (requestDuty backend clock dutyPercent ttlSeconds service)) =
      regulator held service := by
  obtain ⟨before, hardware, hstatus, hheld, -⟩ := obeys.status service.hardware
  obtain ⟨message, hrequest⟩ := SafetyPolicy.requestOverride_invalid (requestEvent_eq_none h)
    clock before service.policy
  rw [requestDuty_of_refused hstatus hrequest, resultState_error, regulator, regulator, hheld]

/-! ## Histories -/

/-- Every history of the service is one of the regulator. -/
theorem regulates (obeys : Obeys backend plant held sensed) :
    Projection (step backend) (Regulator.step plant) (fun service => service.policy.Durable)
      (regulator held) (regulatorEvent held sensed) ServiceOutcome.effectiveDuty where
  preserved := step_durable backend
  moves := by
    intro service event event' durable hevent
    cases event with
    | tick clock =>
        cases hevent
        obtain ⟨payload, after, htick, hregulates⟩ := tick_regulates obeys durable clock
        rw [← hregulates, step, htick]
        rfl
    | requestDuty clock dutyPercent ttlSeconds =>
        obtain ⟨duty, ttl, hduty, httl, rfl⟩ := requestEvent_eq_some hevent
        rw [← requestDuty_regulates obeys durable clock hduty httl, step]
        cases requestDuty backend clock dutyPercent ttlSeconds service with
        | ok result after => rfl
        | error error after => rfl
    | requestProfile clock profile ttlSeconds =>
        obtain ⟨percent, hprofile, hevent⟩ := Option.bind_eq_some_iff.mp hevent
        obtain ⟨duty, ttl, hduty, httl, rfl⟩ := requestEvent_eq_some hevent
        rw [← requestDuty_regulates obeys durable clock hduty httl, step,
          requestProfile_of_known hprofile]
        cases requestDuty backend clock (.int percent) ttlSeconds service with
        | ok result after => rfl
        | error error after => rfl
    | restart => cases hevent
    | disturb change =>
        cases hevent
        rfl
  rests := by
    intro service event durable hevent
    cases event with
    | tick clock => cases hevent
    | requestDuty clock dutyPercent ttlSeconds =>
        rw [step, outcome_snd]
        exact requestDuty_of_unasked obeys hevent
    | requestProfile clock profile ttlSeconds =>
        rw [step, outcome_snd]
        cases hprofile : profiles.lookup profile with
        | none =>
            rw [requestProfile_of_unknown hprofile]
            rfl
        | some percent =>
            rw [resultState_requestProfile hprofile]
            rw [regulatorEvent, hprofile] at hevent
            exact requestDuty_of_unasked obeys hevent
    | restart =>
        rw [step_restart, SafetyPolicy.init_of_synced durable.synced]
        rfl
    | disturb change => cases hevent

end ControlService

end TrueFan
