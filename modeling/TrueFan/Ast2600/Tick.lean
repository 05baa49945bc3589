/-
# A tick on the AST2600 board

A tick writes unless the status already reports manual mode at the duty it wants;
the status reports that only if every channel is there, and a write returns only if
the read-back found every channel at the clamped duty. So a tick that returns leaves
all channels in manual mode at the clamp of the duty it publishes, and what remains
is whether that duty is its own clamp.
-/

import TrueFan.Ast2600.Backend

namespace TrueFan

open Python Foundations

namespace Ast2600Backend

variable {Link Sensors : Type} {backend : Ast2600Backend Link Sensors} {channels : Link → Bmc}

/-- A status that reports manual mode and a duty has seen all channels there. -/
theorem manualAt_of_status (truthful : backend.ipmi.Truthful channels)
    {hardware after : Link × Sensors} {status : BackendStatus} {duty : ℤ}
    (h : backend.toFanBackend.status hardware = .ok status after)
    (hplace : ControlService.InPlace status duty) : (channels after.1).ManualAt duty := by
  rcases status_eq_ok h with ⟨reported, redfish, truenas, hreported, rfl⟩ | rfl
  · obtain ⟨hsame, hmanual, -, hcommon⟩ := truthful.status hreported
    intro channel
    rw [hsame]
    exact ⟨hmanual.mp hplace.1 channel, (hcommon duty).mp hplace.2 channel⟩
  · cases hplace.1

/-- A status reports a percentage, and only one that all channels have. -/
theorem duty_of_status (truthful : backend.ipmi.Truthful channels)
    {hardware after : Link × Sensors} {status : BackendStatus} {duty : ℤ}
    (h : backend.toFanBackend.status hardware = .ok status after)
    (hduty : status.dutyPercent = some duty) :
    duty ≤ 100 ∧ ∀ channel, ((channels after.1 channel).duty.val : ℤ) = duty := by
  rcases status_eq_ok h with ⟨reported, redfish, truenas, hreported, rfl⟩ | rfl
  · obtain ⟨hsame, -, hrange, hcommon⟩ := truthful.status hreported
    have hall := (hcommon duty).mp hduty
    rw [hsame]
    refine ⟨?_, hall⟩
    rw [← hall 0]
    exact_mod_cast hrange 0
  · cases hduty

/-- A command that returned left all channels in manual mode at the clamped duty. -/
theorem manualAt_of_setDutyPercent (truthful : backend.ipmi.Truthful channels)
    {hardware after : Link × Sensors} {percent : ℤ} {readback : BackendStatus}
    (h : backend.toFanBackend.setDutyPercent percent hardware = .ok readback after) :
    (channels after.1).ManualAt (clampPercent percent) := by
  obtain ⟨reported, redfish, truenas, hset, -⟩ := enrich_onLink_eq_ok h
  exact truthful.setDutyPercent hset

/-- The backend reports truly, in the sense the cooling floor needs. -/
theorem reports (truthful : backend.ipmi.Truthful channels) :
    Reports backend.toFanBackend fun duty hardware =>
      ∀ channel, duty ≤ ((channels hardware.1 channel).duty.val : ℤ) where
  status := by
    intro hardware after status duty h hduty _ channel
    exact ((duty_of_status truthful h hduty).2 channel).ge
  command := by
    intro percent hardware after readback h channel
    exact (manualAt_of_setDutyPercent truthful h channel).2.ge
  weaken := by
    intro high low hardware h hlow channel
    exact hlow.trans (h channel)

/-- A tick that returned left all channels in manual mode at the clamp of the duty it
published; where it wrote nothing, at that duty itself. -/
theorem manualAt_of_tick (truthful : backend.ipmi.Truthful channels) {clock : Clock}
    {service after : ControlService (Link × Sensors)} {payload : StatusPayload}
    (h : ControlService.tick backend.toFanBackend clock service = .ok payload after) :
    (channels after.hardware.1).ManualAt payload.safety.effectiveDuty ∨
      (channels after.hardware.1).ManualAt (clampPercent payload.safety.effectiveDuty) := by
  obtain ⟨before, hardware, hstatus, -, hcommand⟩ := ControlService.tick_eq_ok h
  rcases hcommand with ⟨hplace, hafter⟩ | ⟨-, hset⟩
  · left
    rw [hafter]
    exact manualAt_of_status truthful hstatus hplace
  · exact .inr (manualAt_of_setDutyPercent truthful hset)

/-- The tick evaluates a sensor failure with one common duty below the minimum, and no
override in force raises it. -/
def Starved (clock : Clock) (service : ControlService (Link × Sensors)) (before : BackendStatus) :
    Prop :=
  before.band = .failed ∧ (∃ percent, before.dutyPercent = some percent ∧ percent < 22) ∧
    service.policy.state.liveOverride clock = none

/-- After a tick that returned, all channels are in manual mode at the published duty
and that duty is in range, unless the tick found the fans starved. -/
theorem uniform_iff_not_starved (truthful : backend.ipmi.Truthful channels) {clock : Clock}
    {service after : ControlService (Link × Sensors)} {payload : StatusPayload}
    {before : BackendStatus} {hardware : Link × Sensors}
    (hstatus : backend.toFanBackend.status service.hardware = .ok before hardware)
    (h : ControlService.tick backend.toFanBackend clock service = .ok payload after) :
    ((channels after.hardware.1).ManualAt payload.safety.effectiveDuty ∧
      22 ≤ payload.safety.effectiveDuty ∧ payload.safety.effectiveDuty ≤ 100) ↔
      ¬ Starved clock service before := by
  obtain ⟨before', hardware', hstatus', hduty, -⟩ := ControlService.tick_eq_ok h
  rw [hstatus] at hstatus'
  cases hstatus'
  have hrange := Band.duty_mem_range_iff before.band service.policy.state.previousHot
    (fun percent hpercent => (duty_of_status truthful hstatus hpercent).1)
    (service.policy.state.liveOverride clock)
  rw [← hduty] at hrange
  rw [Starved, ← hrange]
  refine ⟨fun huniform => huniform.2, fun hin => ⟨?_, hin⟩⟩
  rcases manualAt_of_tick truthful h with hmanual | hmanual
  · exact hmanual
  · rwa [clampPercent_of_mem hin.1 hin.2] at hmanual

/-- The backend on the simulated controller with both sensor sources down. -/
def simulatedBlind : Ast2600Backend Bmc Unit where
  ipmi := Ast2600Ipmi.simulated
  redfish := throw (.sensorError "redfish_read_failed")
  truenas := throw (.sensorError "truenas_connect_failed")

/-- With all channels in automatic mode at 10%, a stored override of 50% has a blind tick
bring them to 50%. -/
theorem uniform_after_blind_tick :
    ∃ payload after, ControlService.tick simulatedBlind.toFanBackend (.ofInt 100)
        (.init (fun _ => ⟨0, 10⟩, ())
          ⟨⟨false, some ⟨⟨50, by decide⟩, .float (.ofInt 400)⟩⟩, .fresh fun _ => .stored⟩) =
          .ok payload after ∧
      after.hardware.1.ManualAt payload.safety.effectiveDuty ∧
      22 ≤ payload.safety.effectiveDuty ∧ payload.safety.effectiveDuty ≤ 100 := by
  have hticked : (returned (ControlService.tick simulatedBlind.toFanBackend (.ofInt 100)
      (.init (fun _ => ⟨0, 10⟩, ())
        ⟨⟨false, some ⟨⟨50, by decide⟩, .float (.ofInt 400)⟩⟩,
          .fresh fun _ => .stored⟩))).isSome = true := by
    decide +kernel
  obtain ⟨payload, after, htick⟩ := returned_isSome_iff.mp hticked
  obtain ⟨before, hardware, hstatus, -⟩ := ControlService.tick_eq_ok htick
  refine ⟨payload, after, htick,
    (uniform_iff_not_starved Ast2600Ipmi.truthful_simulated hstatus htick).mpr ?_⟩
  rintro ⟨-, -, hnone⟩
  cases hnone

/-- With all channels in manual mode at 10%, a blind tick publishes 10% and leaves the
fans there. -/
theorem not_uniform_after_blind_tick :
    ¬ ∀ (bmc : Bmc) (policy : SafetyPolicy) (clock : Clock) (payload : StatusPayload)
        (after : ControlService (Bmc × Unit)),
      ControlService.tick simulatedBlind.toFanBackend clock (.init (bmc, ()) policy) =
        .ok payload after →
      after.hardware.1.ManualAt payload.safety.effectiveDuty ∧
        22 ≤ payload.safety.effectiveDuty ∧ payload.safety.effectiveDuty ≤ 100 := by
  intro hall
  have hticked : (returned (ControlService.tick simulatedBlind.toFanBackend (.ofInt 100)
      (.init (fun _ => ⟨2, 10⟩, ()) (.fresh fun _ => .stored)))).map
        (fun payload => payload.safety.effectiveDuty) = some 10 := by
    decide +kernel
  obtain ⟨payload, hpayload, hduty⟩ := Option.map_eq_some_iff.mp hticked
  obtain ⟨after, htick⟩ := returned_eq_some_iff.mp hpayload
  obtain ⟨-, hmin, -⟩ := hall _ _ _ payload after htick
  rw [hduty] at hmin
  exact absurd hmin (by decide)

end Ast2600Backend

end TrueFan
