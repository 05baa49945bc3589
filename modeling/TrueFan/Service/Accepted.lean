/-
# Accepted requests

What a request that returns promises its caller, on either of the real backends. Of a
backend the promise needs two things: it reports no duty above full duty, and a command
returns only if it read manual mode and the clamped duty back. Whatever the hardware
does, the two backends see to both.
-/

import TrueFan.Ast2600.Readback
import TrueFan.Ast2600.Tick
import TrueFan.Hwmon.Backend

namespace TrueFan

open Python

/-- The backend reports no duty above full duty and returns only verified commands. -/
structure Verifying {Hardware : Type} (backend : FanBackend Hardware) : Prop where
  reported : ∀ {hardware after status known}, backend.status hardware = .ok status after →
    status.dutyPercent = some known → known ≤ 100
  commanded : ∀ {percent hardware after readback},
    backend.setDutyPercent percent hardware = .ok readback after →
    readback.mode = .manual ∧ readback.dutyPercent = some (clampPercent percent)

/-- The two backends the agent can run on, whatever is behind them. -/
inductive RealBackend : {Hardware : Type} → FanBackend Hardware → Prop
  | ast2600 {Link Sensors : Type} (backend : Ast2600Backend Link Sensors) :
      RealBackend backend.toFanBackend
  | hwmon {Sensors : Type} (backend : HwmonPwmBackend Sensors) : RealBackend backend.toFanBackend

namespace Ast2600Ipmi

variable {Link : Type} {ipmi : Ast2600Ipmi Link} {link after : Link} {status : BackendStatus}

theorem dutyPercent_le_of_status {known : ℤ} (h : ipmi.status link = .ok status after)
    (hknown : status.dutyPercent = some known) : known ≤ 100 := by
  obtain ⟨mode, between, -, h⟩ := bind_eq_ok h
  obtain ⟨duty, between', hduty, h⟩ := bind_eq_ok h
  obtain ⟨text, read, hraw, -⟩ := bind_eq_ok hduty
  cases h
  have hsome : duty = some known := hknown
  rw [hsome] at hduty
  exact ((readDutyPercent_eq_ok_iff hraw).mp hduty).1.2.2

theorem verified_of_setDutyPercent {percent : ℤ}
    (h : ipmi.setDutyPercent percent link = .ok status after) :
    status.mode = .manual ∧ status.dutyPercent = some (clampPercent percent) := by
  obtain ⟨_, switched, -, h⟩ := bind_eq_ok h
  obtain ⟨_, commanded, -, h⟩ := bind_eq_ok h
  obtain ⟨readback, between, -, h⟩ := bind_eq_ok h
  split at h
  next =>
    rw [bind_of_error (throw_apply _ _)] at h
    cases h
  next hverified =>
    cases h
    exact ⟨not_not.mp (not_or.mp hverified).1, not_not.mp (not_or.mp hverified).2⟩

end Ast2600Ipmi

theorem Ast2600Backend.verifying {Link Sensors : Type} (backend : Ast2600Backend Link Sensors) :
    Verifying backend.toFanBackend where
  reported := by
    intro hardware after status known h hknown
    rcases status_eq_ok h with ⟨reported, redfish, truenas, hreported, rfl⟩ | rfl
    · exact Ast2600Ipmi.dutyPercent_le_of_status hreported hknown
    · cases hknown
  commanded := by
    intro percent hardware after readback h
    obtain ⟨reported, redfish, truenas, hset, rfl⟩ := enrich_onLink_eq_ok h
    have hverified := Ast2600Ipmi.verified_of_setDutyPercent hset
    exact hverified

theorem HwmonPwmBackend.verifying {Sensors : Type} (backend : HwmonPwmBackend Sensors) :
    Verifying backend.toFanBackend where
  reported := by
    intro hardware after status known h hknown
    obtain ⟨sensors, -, -, rfl⟩ := status_eq_ok h
    obtain ⟨raw, -, rfl⟩ := Option.map_eq_some_iff.mp hknown
    exact clampPercent_le_maximum _
  commanded := by
    intro percent hardware after readback h
    obtain ⟨target, sensors, -, rfl, hduty⟩ := setDutyPercent_eq_readback h
    obtain ⟨raw, hraw, -⟩ := Option.map_eq_some_iff.mp hduty
    refine ⟨?_, hduty⟩
    rw [statusOf, hraw]
    rfl

theorem RealBackend.verifying {Hardware : Type} {backend : FanBackend Hardware}
    (real : RealBackend backend) : Verifying backend := by
  cases real with
  | ast2600 backend => exact backend.verifying
  | hwmon backend => exact backend.verifying

/-- What a request for a duty, for so long, is answered with, and what it has left. -/
structure Fulfilled {Hardware : Type} (clock : Clock) (requested : ℤ) (ttl : TtlSeconds)
    (result : MutationResult) (after : ControlService (Hardware × List ℤ)) : Prop where
  requested_le : requested ≤ result.effectiveDuty
  mem_range : 22 ≤ result.effectiveDuty ∧ result.effectiveDuty ≤ 100
  commanded : after.hardware.2 = [result.effectiveDuty]
  unclamped : clampPercent result.effectiveDuty = result.effectiveDuty
  verified : result.readback.verified = true
  readback : result.readback.dutyPercent = some result.effectiveDuty
  returned : result.overrideExpiresAt = some (SafetyPolicy.expiresAt clock ttl)
  held : after.policy.state.override.map Override.expiry =
    some (SafetyPolicy.expiresAt clock ttl)
  persisted : ∃ state, after.policy.store.load = .ok state ∧
    state.override.map Override.expiry = some (SafetyPolicy.expiresAt clock ttl)

namespace ControlService

variable {Hardware : Type} {backend : FanBackend Hardware} {clock : Clock}

/-- A request that the policy accepts on a status that reports no duty above full duty is
for a duty the decision keeps, up to full duty. -/
theorem duty_of_accepted {dutyPercent ttlSeconds : Json} {duty : DutyPercent} {ttl : TtlSeconds}
    (hduty : SafetyPolicy.validDuty dutyPercent = some duty)
    (httl : SafetyPolicy.validTtl ttlSeconds = some ttl) {before : BackendStatus}
    (hknown : ∀ known, before.dutyPercent = some known → known ≤ 100)
    {policy after : SafetyPolicy} {decision : SafetyDecision}
    (h : SafetyPolicy.requestOverride clock before dutyPercent ttlSeconds policy =
      .ok decision after) :
    duty.val ≤ decision.effectiveDuty ∧ 22 ≤ decision.effectiveDuty ∧
      decision.effectiveDuty ≤ 100 := by
  have hrange := (Band.duty_mem_range_iff before.band policy.state.previousHot hknown
    (some ⟨duty, .float (SafetyPolicy.expiresAt clock ttl)⟩)).mpr (by simp)
  rw [SafetyPolicy.effectiveDuty_of_requestOverride hduty httl h]
  exact ⟨Band.requested_le_duty before.band _ _ duty, hrange⟩

/-- A request that returns on a real backend is fulfilled. -/
theorem requestDuty_fulfilled (real : RealBackend backend) {requested ttl : ℤ}
    {service : ControlService Hardware} {result : MutationResult}
    {after : ControlService (Hardware × List ℤ)}
    (h : requestDuty backend.recorded clock (.int requested) (.int ttl) service.watched =
      .ok result after) :
    ∃ lifetime : TtlSeconds, lifetime.val = ttl ∧
      Fulfilled clock requested lifetime result after := by
  obtain ⟨before, hardware, decision, policy, readback, commanded, hstatus, hrequest, hset, rfl,
    rfl⟩ := requestDuty_eq_published h
  obtain ⟨hstatus, hcalls⟩ := FanBackend.recorded_status_eq_ok hstatus
  obtain ⟨hardware, calls⟩ := hardware
  obtain ⟨hset, hcommanded⟩ := FanBackend.recorded_setDutyPercent_eq_ok hset
  obtain ⟨duty, lifetime, hduty, httl⟩ := SafetyPolicy.valid_of_requestOverride_eq_ok hrequest
  have hrequested : requested = duty.val :=
    Json.int.inj (SafetyPolicy.validDuty_eq_some_iff.mp hduty)
  have hlifetime : lifetime.val = ttl := SafetyPolicy.val_of_validTtl httl
  obtain ⟨hkept, hmin, hmax⟩ := duty_of_accepted hduty httl
    (fun known => real.verifying.reported hstatus) hrequest
  obtain ⟨evaluation, between, -, -, hdecision, hstored⟩ :=
    SafetyPolicy.requestOverride_eq_ok hduty httl hrequest
  have hunclamped := clampPercent_of_mem hmin hmax
  obtain ⟨hmanual, hreadback⟩ := real.verifying.commanded hset
  rw [hunclamped] at hreadback
  refine ⟨lifetime, hlifetime, {
    requested_le := hrequested ▸ hkept
    mem_range := ⟨hmin, hmax⟩
    commanded := ?_
    unclamped := hunclamped
    verified := decide_eq_true ⟨hmanual, hreadback⟩
    readback := hreadback
    returned := ?_
    held := ?_
    persisted := ?_ }⟩
  · exact hcommanded.trans (congrArg (· ++ [decision.effectiveDuty]) hcalls)
  · show decision.overrideExpiresAt = _
    rw [hdecision]
  · show policy.state.override.map Override.expiry = _
    rw [hstored]
    rfl
  · refine ⟨policy.state, ?_, ?_⟩
    · show policy.store.load = _
      rw [hstored]
      exact SafetyPolicy.synced_stored between _
    · rw [hstored]
      rfl

/-- A blind service on the simulated controller, with all channels at 30%. -/
def blindAtThirty : ControlService (Bmc × Unit) :=
  init (fun _ => ⟨2, 30⟩, ()) (SafetyPolicy.fresh fun _ => .stored)

/-- It accepts half duty for five minutes. -/
theorem requestDuty_fulfilled_blindAtThirty :
    ∃ result after,
      requestDuty Ast2600Backend.simulatedBlind.toFanBackend.recorded (.ofInt 100) (.int 50)
        (.int 300) blindAtThirty.watched = .ok result after ∧
      ∃ lifetime : TtlSeconds, lifetime.val = 300 ∧
        Fulfilled (.ofInt 100) 50 lifetime result after := by
  have haccepted : (returned (requestDuty Ast2600Backend.simulatedBlind.toFanBackend.recorded
      (.ofInt 100) (.int 50) (.int 300) blindAtThirty.watched)).isSome = true := by
    decide +kernel
  obtain ⟨result, after, hrequest⟩ := returned_isSome_iff.mp haccepted
  exact ⟨result, after, hrequest, requestDuty_fulfilled (.ast2600 _) hrequest⟩

end ControlService

end TrueFan
