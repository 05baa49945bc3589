/-
# Histories of the service

The policy loop ticks, clients make requests, the process restarts, and meanwhile
other controllers and the machine itself change the hardware. `step` takes the
service through one such event. As far as the policy can tell, a history of the
service is a history of the policy: `step_policy` names the policy event a service
event comes to, if it comes to one.
-/

import TrueFan.Policy.Incident
import TrueFan.Service.Calls

namespace TrueFan

open Python Foundations

/-- One thing that happens to the service or to the hardware under it. -/
inductive ServiceEvent (Hardware : Type)
  | tick (clock : Clock)
  | requestDuty (clock : Clock) (dutyPercent ttlSeconds : Json)
  | requestProfile (clock : Clock) (profile : String) (ttlSeconds : Json)
  | restart
  | disturb (change : Hardware → Hardware)

/-- How it ends. -/
inductive ServiceOutcome
  | published (payload : StatusPayload)
  | answered (result : MutationResult)
  | raised (error : Failure)
  | started
  | disturbed

/-- The effective duty of a tick or a request that returned. -/
def ServiceOutcome.effectiveDuty : ServiceOutcome → Option ℤ
  | .published payload => some payload.safety.effectiveDuty
  | .answered result => some result.effectiveDuty
  | .raised _ => none
  | .started => none
  | .disturbed => none

namespace ControlService

variable {Hardware : Type}

/-- A call of a method, as an outcome and the service it leaves. -/
def outcome {α : Type} (returned : α → ServiceOutcome) :
    EStateM.Result Failure (ControlService Hardware) α → ServiceOutcome × ControlService Hardware
  | .ok value service => (returned value, service)
  | .error error service => (.raised error, service)

/-- One event. As for the policy, a process whose load raises does not come up. -/
def step (backend : FanBackend Hardware) (service : ControlService Hardware) :
    ServiceEvent Hardware → ServiceOutcome × ControlService Hardware
  | .tick clock => outcome .published (tick backend clock service)
  | .requestDuty clock dutyPercent ttlSeconds =>
      outcome .answered (requestDuty backend clock dutyPercent ttlSeconds service)
  | .requestProfile clock profile ttlSeconds =>
      outcome .answered (requestProfile backend clock profile ttlSeconds service)
  | .restart =>
      match SafetyPolicy.init service.policy.store with
      | .ok policy => (.started, init service.hardware policy)
      | .error error => (.raised error, service)
  | .disturb change => (.disturbed, { service with hardware := change service.hardware })

theorem step_restart (backend : FanBackend Hardware) (service : ControlService Hardware) :
    step backend service .restart =
      match SafetyPolicy.init service.policy.store with
      | .ok policy => (.started, init service.hardware policy)
      | .error error => (.raised error, service) := rfl

abbrev ServiceRecord (Hardware : Type) :=
  Record (ControlService Hardware) (ServiceEvent Hardware) ServiceOutcome

/-- The status a call would read. -/
def readStatus (backend : FanBackend Hardware) (service : ControlService Hardware) :
    Option BackendStatus :=
  returned (backend.status service.hardware)

/-- The policy event a service event comes to. -/
def policyEvent (backend : FanBackend Hardware) (service : ControlService Hardware) :
    ServiceEvent Hardware → Option PolicyEvent
  | .tick clock =>
      (readStatus backend service).map fun before => .evaluate clock before none none
  | .requestDuty clock dutyPercent ttlSeconds =>
      (readStatus backend service).map fun before => .request clock before dutyPercent ttlSeconds
  | .requestProfile clock profile ttlSeconds =>
      (profiles.lookup profile).bind fun duty =>
        (readStatus backend service).map fun before => .request clock before (.int duty) ttlSeconds
  | .restart => some .restart
  | .disturb _ => none

theorem outcome_snd {α : Type} (returned : α → ServiceOutcome)
    (result : EStateM.Result Failure (ControlService Hardware) α) :
    (outcome returned result).2 = resultState result := by
  cases result with
  | ok value service => rfl
  | error error service => rfl

/-- A duty comes only from a call that returned. -/
theorem outcome_effectiveDuty_eq_some {α : Type} {returned : α → ServiceOutcome}
    {result : EStateM.Result Failure (ControlService Hardware) α} {duty : ℤ}
    (h : (outcome returned result).1.effectiveDuty = some duty) :
    ∃ value after, result = .ok value after ∧ (returned value).effectiveDuty = some duty := by
  cases result with
  | ok value after => exact ⟨value, after, rfl, h⟩
  | error error after => cases h

theorem policy_outcome_snd (result : EStateM.Result Failure SafetyPolicy SafetyDecision) :
    (SafetyPolicy.outcome result).2 = resultState result := by
  cases result with
  | ok decision policy => rfl
  | error error policy => rfl

theorem requestDuty_policyEvent (backend : FanBackend Hardware) (service : ControlService Hardware)
    (clock : Clock) (dutyPercent ttlSeconds : Json) :
    (resultState (requestDuty backend clock dutyPercent ttlSeconds service)).policy =
      ((readStatus backend service).map fun before =>
        PolicyEvent.request clock before dutyPercent ttlSeconds).elim service.policy
          fun event => (SafetyPolicy.step service.policy event).2 := by
  rw [requestDuty_policy, readStatus]
  cases backend.status service.hardware with
  | ok before hardware =>
      exact (policy_outcome_snd
        (SafetyPolicy.requestOverride clock before dutyPercent ttlSeconds service.policy)).symm
  | error error hardware => rfl

/-- A step of the service does to the policy what its policy event does. -/
theorem step_policy (backend : FanBackend Hardware) (service : ControlService Hardware)
    (event : ServiceEvent Hardware) :
    (step backend service event).2.policy =
      (policyEvent backend service event).elim service.policy
        fun event => (SafetyPolicy.step service.policy event).2 := by
  cases event with
  | tick clock =>
      show (outcome _ _).2.policy = _
      rw [outcome_snd, tick_policy, refresh_policy, policyEvent, readStatus]
      cases backend.status service.hardware with
      | ok before hardware =>
          exact (policy_outcome_snd
            (SafetyPolicy.evaluate clock before none none service.policy)).symm
      | error error hardware => rfl
  | requestDuty clock dutyPercent ttlSeconds =>
      show (outcome _ _).2.policy = _
      rw [outcome_snd]
      exact requestDuty_policyEvent backend service clock dutyPercent ttlSeconds
  | requestProfile clock profile ttlSeconds =>
      show (outcome _ _).2.policy = _
      rw [outcome_snd, policyEvent]
      cases hprofile : profiles.lookup profile with
      | none =>
          rw [requestProfile_of_unknown hprofile]
          rfl
      | some duty =>
          rw [resultState_requestProfile hprofile]
          exact requestDuty_policyEvent backend service clock (.int duty) ttlSeconds
  | restart =>
      show (step backend service .restart).2.policy = (SafetyPolicy.step service.policy .restart).2
      rw [step_restart, SafetyPolicy.step_restart]
      cases SafetyPolicy.init service.policy.store with
      | ok policy => rfl
      | error error => rfl
  | disturb change => rfl

/-- Memory and file stay in agreement under the service as they do under the policy. -/
theorem step_durable (backend : FanBackend Hardware) (service : ControlService Hardware)
    (event : ServiceEvent Hardware) (durable : service.policy.Durable) :
    (step backend service event).2.policy.Durable := by
  rw [step_policy]
  cases policyEvent backend service event with
  | none => exact durable
  | some event => exact SafetyPolicy.step_durable service.policy event durable

end ControlService

end TrueFan
