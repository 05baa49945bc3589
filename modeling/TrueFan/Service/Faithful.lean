/-
# Faithful backends

A faithful backend holds a mode and a duty, reports what it holds, and changes it on
command alone. Over such a backend the duty the policy decides comes back as the duty
it reads next, and the loop can be studied as a whole. A command is stored as given or
clamped; one that raised may have left the duty unknown.

The first result about the loop is that it does not oscillate: what a tick leaves is
what the next tick on the same readings asks for.
-/

import TrueFan.Service.Recorded

namespace TrueFan

open Python

/-- The mode and the duty a backend holds; no duty where none is known. -/
structure FanState where
  mode : Mode
  dutyPercent : Option ℤ
  deriving DecidableEq

/-- A commanded duty is stored as given or clamped. -/
def Stores (percent stored : ℤ) : Prop := stored = percent ∨ stored = clampPercent percent

/-- The backend reports what it holds, and only its commands change that. -/
structure Faithful {Hardware : Type} (backend : FanBackend Hardware)
    (held : Hardware → FanState) : Prop where
  reading : ∀ hardware, held (resultState (backend.status hardware)) = held hardware
  reported : ∀ {hardware after status}, backend.status hardware = .ok status after →
    status.mode = (held hardware).mode ∧ status.dutyPercent = (held hardware).dutyPercent
  commanded : ∀ {percent hardware after readback},
    backend.setDutyPercent percent hardware = .ok readback after →
    ∃ stored, held after = ⟨.manual, some stored⟩ ∧ Stores percent stored
  failed : ∀ {percent hardware after error},
    backend.setDutyPercent percent hardware = .error error after →
    (held after).dutyPercent = (held hardware).dutyPercent ∨ (held after).dutyPercent = none ∨
      ∃ stored, (held after).dutyPercent = some stored ∧ Stores percent stored

/-- Two statuses have the same readings. -/
structure SameReadings (first second : BackendStatus) : Prop where
  sensorOk : first.sensorOk = second.sensorOk
  cpuC : first.temperatures.cpuC = second.temperatures.cpuC
  maxDriveC : first.temperatures.maxDriveC = second.temperatures.maxDriveC

namespace Stores

variable {percent stored : ℤ}

/-- A duty in range is stored as given. -/
theorem eq_of_mem (h : Stores percent stored) (hmin : 22 ≤ percent) (hmax : percent ≤ 100) :
    stored = percent := by
  rcases h with h | h
  · exact h
  · rwa [clampPercent_of_mem hmin hmax] at h

/-- Storing takes no duty below a bound it was not already below. -/
theorem le (h : Stores percent stored) {bound : ℤ} (hbound : bound ≤ 100) (hle : bound ≤ percent) :
    bound ≤ stored := by
  rcases h with h | h
  · rwa [h]
  · rw [h]
    exact le_clampPercent hbound hle

/-- Storing takes no percentage above full duty. -/
theorem le_hundred (h : Stores percent stored) (hmax : percent ≤ 100) : stored ≤ 100 := by
  rcases h with h | h
  · rwa [h]
  · rw [h]
    exact clampPercent_le_maximum percent

end Stores

/-- The band is a matter of the readings. -/
theorem SameReadings.band_eq {first second : BackendStatus} (h : SameReadings first second) :
    first.band = second.band := by
  rw [BackendStatus.band, BackendStatus.band]
  simp only [BackendStatus.Hot, h.sensorOk, h.cpuC, h.maxDriveC]

namespace Band

theorem nextLatch_nextLatch (band : Band) (latched : Bool) :
    band.nextLatch (band.nextLatch latched) = band.nextLatch latched := by
  cases band with
  | hot => rfl
  | failed => rfl
  | recovered => rfl
  | warm => rfl

/-- Where the table does not look at the known duty, it asks for a duty in range. -/
theorem duty_mem_range_of_ne_failed {band : Band} (hband : band ≠ .failed) (latched : Bool)
    (known : Option ℤ) (override : Option Override) :
    22 ≤ band.duty latched known (override.map fun override => override.dutyPercent.val) ∧
      band.duty latched known (override.map fun override => override.dutyPercent.val) ≤ 100 := by
  cases band with
  | hot => exact (by decide : (22 : ℤ) ≤ 100 ∧ (100 : ℤ) ≤ 100)
  | failed => exact absurd rfl hband
  | recovered => exact ⟨minimum_le_duty (.inl rfl) _ _ _, duty_le_hundred (.inl rfl) _ _ _⟩
  | warm => exact ⟨minimum_le_duty (.inr rfl) _ _ _, duty_le_hundred (.inr rfl) _ _ _⟩

/-- Asked again once the latch is up to date and the duty is stored, the table keeps
what is stored. -/
theorem duty_of_stored (band : Band) (latched : Bool) (known : Option ℤ)
    (override : Option Override) {stored : ℤ}
    (hstored : Stores
      (band.duty latched known (override.map fun override => override.dutyPercent.val)) stored) :
    band.duty (band.nextLatch latched) (some stored)
      (override.map fun override => override.dutyPercent.val) = stored := by
  by_cases hband : band = .failed
  · subst hband
    cases override with
    | none => rfl
    | some override =>
        -- the override is at most what was asked for, and at most what was stored of it
        have hmax := override.dutyPercent.property.2
        have hasked : override.dutyPercent.val ≤
            Band.failed.duty latched known (some override.dutyPercent.val) := by
          cases known with
          | none => exact hmax
          | some known => exact le_max_right _ _
        exact max_eq_left (hstored.le hmax hasked)
  · obtain ⟨hmin, hmax⟩ := duty_mem_range_of_ne_failed hband latched known override
    rw [hstored.eq_of_mem hmin hmax]
    cases band with
    | hot => rfl
    | failed => exact absurd rfl hband
    | recovered => rfl
    | warm => rfl

end Band

namespace SafetyPolicy

theorem liveOverride_of_not_expired {now : Clock} {state : ControlState}
    (hlive : ¬ state.Expired now) : state.liveOverride now = state.override :=
  congrArg ControlState.override (ControlState.dropExpired_eq_self_iff.mpr hlive)

/-- An evaluation that has no override to drop and no latch to move writes nothing. -/
theorem evaluate_of_steady {clock : Clock} {status : BackendStatus} {policy : SafetyPolicy}
    (hlive : ¬ policy.state.Expired clock)
    (hlatch : status.band.nextLatch policy.state.previousHot = policy.state.previousHot) :
    evaluate clock status none none policy =
      .ok (tableDecision policy.state.previousHot status none policy.state.override) policy := by
  have hdrop : policy.state = policy.state.dropExpired clock :=
    (ControlState.dropExpired_eq_self_iff.mpr hlive).symm
  have hsettled : policy.state = policy.state.evaluated clock status := by
    rw [ControlState.evaluated_eq_dropExpired_iff.mpr hlatch]
    exact hdrop
  rw [evaluate_apply, Option.getD_none, bind_of_ok (settle_of_eq hdrop),
    bind_of_ok (settle_of_eq hsettled), liveOverride_of_not_expired hlive]
  rfl

end SafetyPolicy

/-- What the test double holds. -/
def FakeHardware.held (hardware : FakeHardware) : FanState :=
  ⟨hardware.current.mode, hardware.current.dutyPercent⟩

/-- The test double is faithful. -/
theorem faithful_fakeBackend : Faithful fakeBackend FakeHardware.held where
  reading _ := rfl
  reported := by
    intro hardware after status h
    cases h
    exact ⟨rfl, rfl⟩
  commanded := by
    intro percent hardware after readback h
    obtain ⟨current, broken⟩ := hardware
    cases broken with
    | true => cases h
    | false =>
        cases h
        exact ⟨_, rfl, .inr rfl⟩
  failed := by
    intro percent hardware after error h
    obtain ⟨current, broken⟩ := hardware
    cases broken with
    | true =>
        cases h
        exact .inl rfl
    | false => cases h

namespace ControlService

variable {Hardware : Type} {backend : FanBackend Hardware} {held : Hardware → FanState}

/-- A tick that returned leaves the hardware in manual mode, holding what was stored of
the duty it asked for. -/
theorem held_of_tick (faithful : Faithful backend held) {clock : Clock}
    {service after : ControlService Hardware} {payload : StatusPayload}
    (h : tick backend clock service = .ok payload after) :
    ∃ before hardware stored, backend.status service.hardware = .ok before hardware ∧
      after.policy.state = service.policy.state.evaluated clock before ∧
      Stores (before.band.duty service.policy.state.previousHot before.dutyPercent
        ((service.policy.state.liveOverride clock).map fun override =>
          override.dutyPercent.val)) stored ∧
      held after.hardware = ⟨.manual, some stored⟩ := by
  obtain ⟨before, hardware, policy, hstatus, hevaluate, hpolicy, hcommand⟩ :=
    refresh_eq_ok (tick_eq_ok_iff.mp h)
  obtain ⟨hdecision, hstate⟩ := SafetyPolicy.evaluate_eq_ok hevaluate
  have hduty := congrArg SafetyDecision.effectiveDuty hdecision
  rw [Option.getD_none] at hduty hstate
  have hread := faithful.reading service.hardware
  rw [hstatus, resultState_ok] at hread
  rcases hcommand with ⟨⟨hmode, hknown⟩, -, hafter⟩ | ⟨-, hset⟩
  · obtain ⟨hmode', hknown'⟩ := faithful.reported hstatus
    refine ⟨before, hardware, payload.safety.effectiveDuty, hstatus, by rw [hpolicy, hstate],
      .inl hduty, ?_⟩
    rw [hafter, hread, ← hmode, hmode', ← hknown, hknown']
  · obtain ⟨stored, hheld, hstores⟩ := faithful.commanded hset
    rw [hduty] at hstores
    exact ⟨before, hardware, stored, hstatus, by rw [hpolicy, hstate], hstores, hheld⟩

/-- A tick that finds its duty in place commands nothing and changes no policy. -/
theorem watched_tick_of_inPlace {clock : Clock} {service : ControlService Hardware}
    {before : BackendStatus} {hardware : Hardware}
    (hstatus : backend.status service.hardware = .ok before hardware) {decision : SafetyDecision}
    (hevaluate : SafetyPolicy.evaluate clock before none none service.policy =
      .ok decision service.policy) (hplace : InPlace before decision.effectiveDuty) :
    ∃ payload after, tick backend.recorded clock service.watched = .ok payload after ∧
      after.hardware = (hardware, []) ∧ after.policy = service.policy := by
  have hrecorded : backend.recorded.status service.watched.hardware = .ok before (hardware, []) :=
    FanBackend.unrecorded_of_ok [] hstatus
  have hrefresh := refresh_of_evaluate_ok hrecorded hevaluate
  rw [if_pos hplace] at hrefresh
  exact ⟨_, _, tick_eq_ok_iff.mpr hrefresh, reported_hardware _ _ _ _, reported_policy _ _ _ _⟩

/-- A tick whose status read raised commands nothing and changes no policy. -/
theorem watched_tick_of_status_error {clock : Clock} {service : ControlService Hardware}
    {hardware : Hardware} {error : Failure}
    (hstatus : backend.status service.hardware = .error error hardware) :
    (resultState (tick backend.recorded clock service.watched)).hardware = (hardware, []) ∧
      (resultState (tick backend.recorded clock service.watched)).policy = service.policy := by
  have hrecorded : backend.recorded.status service.watched.hardware =
      .error error (hardware, []) := FanBackend.unrecorded_of_error [] hstatus
  rw [tick_hardware, tick_policy, refresh_of_status_error hrecorded]
  exact ⟨rfl, rfl⟩

/-- After a tick that returned, a tick on the same readings, at a time at which the
stored override has not run out, commands nothing and leaves the hardware, the latch and
the override as they are. -/
theorem tick_fixed_point (faithful : Faithful backend held) {clock later : Clock}
    {service after next : ControlService Hardware} {payload : StatusPayload}
    {first : BackendStatus} (h : tick backend clock service = .ok payload after)
    (hfirst : returned (backend.status service.hardware) = some first)
    (hpolicy : next.policy = after.policy) (hheld : held next.hardware = held after.hardware)
    (hsame : ∀ second, returned (backend.status next.hardware) = some second →
      SameReadings first second)
    (hlive : ¬ after.policy.state.Expired later) :
    (resultState (tick backend.recorded later next.watched)).hardware.2 = [] ∧
      held (resultState (tick backend.recorded later next.watched)).hardware.1 =
        held after.hardware ∧
      (resultState (tick backend.recorded later next.watched)).policy = after.policy := by
  have hread := faithful.reading next.hardware
  cases hstatus : backend.status next.hardware with
  | error error hardware =>
      rw [hstatus, resultState_error] at hread
      obtain ⟨hhardware, hkept⟩ := watched_tick_of_status_error hstatus
      rw [hhardware, hkept]
      exact ⟨rfl, hread.trans hheld, hpolicy⟩
  | ok second hardware =>
      rw [hstatus, resultState_ok] at hread
      obtain ⟨before, read, stored, hbefore, hstate, hstores, hstored⟩ := held_of_tick faithful h
      rw [hbefore, returned_ok, Option.some.injEq] at hfirst
      subst hfirst
      have hband : before.band = second.band := (hsame second (by rw [hstatus]; rfl)).band_eq
      have hreported := faithful.reported hstatus
      rw [hheld, hstored] at hreported
      rw [← hpolicy] at hstate hlive
      have hlatch : second.band.nextLatch next.policy.state.previousHot =
          next.policy.state.previousHot := by
        rw [hstate, ← hband]
        exact Band.nextLatch_nextLatch _ _
      have hplace : InPlace second
          (tableDecision next.policy.state.previousHot second none
            next.policy.state.override).effectiveDuty := by
        refine ⟨hreported.1, hreported.2.trans (congrArg some ?_)⟩
        show stored = second.band.duty next.policy.state.previousHot second.dutyPercent
          (next.policy.state.override.map fun override => override.dutyPercent.val)
        rw [hreported.2, hstate, ← hband]
        exact (Band.duty_of_stored _ _ _ _ hstores).symm
      obtain ⟨payload', final, htick, hhardware, hkept⟩ :=
        watched_tick_of_inPlace hstatus (SafetyPolicy.evaluate_of_steady hlive hlatch) hplace
      rw [htick, resultState_ok, hhardware, hkept]
      exact ⟨rfl, hread.trans hheld, hpolicy⟩

/-- A service that cannot see, on fans in automatic mode at 10%. -/
def blindAutomatic : ControlService FakeHardware :=
  init ⟨{ readingStatus none none (some 10) false with mode := .auto }, false⟩
    (SafetyPolicy.fresh fun _ => .stored)

/-- The first tick on it publishes 10% and the backend stores 22%; the next one leaves
that alone. -/
theorem fixed_point_after_clamp :
    ∃ payload after, tick fakeBackend (.ofInt 100) blindAutomatic = .ok payload after ∧
      (resultState (tick fakeBackend.recorded (.ofInt 105) after.watched)).hardware.2 = [] := by
  have hticked : (returned (tick fakeBackend (.ofInt 100) blindAutomatic)).isSome = true := by
    decide
  obtain ⟨payload, after, htick⟩ := returned_isSome_iff.mp hticked
  have hlive : ¬ after.policy.state.Expired (.ofInt 105) := by
    cases htick
    decide
  refine ⟨payload, after, htick,
    (tick_fixed_point faithful_fakeBackend htick rfl rfl rfl ?_ hlive).1⟩
  intro second hsecond
  cases htick
  cases hsecond
  exact ⟨rfl, rfl, rfl⟩

end ControlService

end TrueFan
