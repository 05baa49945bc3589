/-
# Unlocked controls

A snapshot tells its readers whether the controls are locked, and the next request is
refused or not by an expression of its own. The flag of a tick is about any request; the
flag of an accepted request is about that request alone, so a snapshot it publishes is
unlocked even where every lower duty is going to be refused.
-/

import TrueFan.Policy.Readings
import TrueFan.Service.Faithful

namespace TrueFan

open Python

namespace ControlService

variable {Hardware : Type} {backend : FanBackend Hardware}

/-- The snapshots a tick or an accepted request publishes. -/
inductive Publishes (backend : FanBackend Hardware) (service after : ControlService Hardware) :
    StatusPayload → Prop
  | tick {clock payload} (ticked : tick backend clock service = .ok payload after) :
      Publishes backend service after payload
  | request {clock dutyPercent ttlSeconds result payload}
      (accepted : requestDuty backend clock dutyPercent ttlSeconds service = .ok result after)
      (snapshot : after.lastStatus = some payload) : Publishes backend service after payload
  | profile {clock profile ttlSeconds result payload}
      (accepted : requestProfile backend clock profile ttlSeconds service = .ok result after)
      (snapshot : after.lastStatus = some payload) : Publishes backend service after payload

/-- No valid request on the readings of a status and the duty of the snapshot, whatever the
state-file writes do, is answered with a safety lock. -/
def Honoured (state : ControlState) (read : BackendStatus) (payload : StatusPayload) : Prop :=
  ∀ store clock next (duty : DutyPercent) (ttl : TtlSeconds), SameReadings read next →
    next.dutyPercent = payload.backend.dutyPercent → ∀ message after,
    SafetyPolicy.requestOverride clock next (.int duty.val) (.int ttl.val) ⟨state, store⟩ ≠
      .error (.safetyLocked message) after

/-- The readings leave room for every duty: they are not hot, and where a source failed the
snapshot reports no duty above the minimum. -/
def Open (read : BackendStatus) (payload : StatusPayload) : Prop :=
  read.band ≠ .hot ∧
    (read.band = .failed → ∀ known, payload.backend.dutyPercent = some known → known ≤ 22)

theorem validDuty_val (duty : DutyPercent) :
    SafetyPolicy.validDuty (.int duty.val) = some duty :=
  SafetyPolicy.validDuty_eq_some_iff.mpr rfl

theorem validTtl_val (ttl : TtlSeconds) : SafetyPolicy.validTtl (.int ttl.val) = some ttl :=
  dif_pos ttl.property

/-- Requests are honoured exactly where the readings leave room for every duty. -/
theorem honoured_iff_open (state : ControlState) (read : BackendStatus)
    (payload : StatusPayload) : Honoured state read payload ↔ Open read payload := by
  constructor
  · intro honoured
    have hallowed (duty : DutyPercent) (next : BackendStatus) (hsame : SameReadings read next)
        (hduty : next.dutyPercent = payload.backend.dutyPercent) :
        ¬ SafetyPolicy.Refused next duty.val := by
      intro hrefused
      have ttl : TtlSeconds := ⟨1, by decide⟩
      -- a store whose writes succeed lets the request get as far as its refusal
      obtain ⟨error, after, hraised, hlocked⟩ :=
        SafetyPolicy.requestOverride_of_refused (validDuty_val duty) (validTtl_val ttl) hrefused
          (.ofInt 0) ⟨state, SafetyPolicy.durableStore state⟩
      obtain ⟨message, rfl⟩ := hlocked ⟨fun _ => rfl, fun _ => rfl⟩
      exact honoured _ _ next duty ttl hsame hduty message after hraised
    have hnext : SameReadings read { read with dutyPercent := payload.backend.dutyPercent } :=
      ⟨rfl, rfl, rfl⟩
    have hband := hnext.band_eq
    have hnot := hallowed ⟨22, by decide⟩ _ hnext rfl
    refine ⟨fun hhot => hnot (.inl ⟨hband ▸ hhot, by decide⟩), fun hfailed known hknown => ?_⟩
    by_contra hhigh
    exact hnot (.inr ⟨hband ▸ hfailed, known, hknown, not_le.mp hhigh⟩)
  · rintro ⟨hhot, hfailed⟩ store clock next duty ttl hsame hduty message after hraised
    have hallowed : ¬ SafetyPolicy.Refused next duty.val := by
      rw [SafetyPolicy.Refused, ← hsame.band_eq, hduty]
      rintro (⟨hband, -⟩ | ⟨hband, known, hknown, hlow⟩)
      · exact hhot hband
      · exact absurd (hfailed hband known hknown) (not_le.mpr (duty.property.1.trans_lt hlow))
    cases SafetyPolicy.requestOverride_of_not_refused (validDuty_val duty) (validTtl_val ttl)
      hallowed hraised

/-- A tick that publishes unlocked controls has read neither hot readings nor a sensor
failure. -/
theorem open_of_unlocked_tick {service after : ControlService Hardware} {clock : Clock}
    {payload : StatusPayload} {read : BackendStatus}
    (h : tick backend clock service = .ok payload after)
    (hread : returned (backend.status service.hardware) = some read)
    (unlocked : payload.safety.controlsLocked = false) : Open read payload := by
  obtain ⟨before, hardware, policy, hstatus, hevaluate, -, -⟩ :=
    refresh_eq_ok (tick_eq_ok_iff.mp h)
  rw [hstatus, returned_ok, Option.some.injEq] at hread
  subst hread
  have hlocks : before.band.locks before.dutyPercent none = false := by
    have hdecision := (SafetyPolicy.evaluate_eq_ok hevaluate).1
    rw [hdecision] at unlocked
    exact unlocked
  constructor
  · intro hband
    rw [hband] at hlocks
    cases hlocks
  · intro hband
    rw [hband] at hlocks
    cases hlocks

/-- Unlocked controls of a snapshot are honoured exactly if a tick published it, or the
readings its request evaluated leave room for every duty. -/
theorem unlocked_honoured_iff {service after : ControlService Hardware} {payload : StatusPayload}
    {read : BackendStatus} (hread : returned (backend.status service.hardware) = some read)
    (unlocked : payload.safety.controlsLocked = false) :
    Honoured after.policy.state read payload ↔
      (∃ clock, tick backend clock service = .ok payload after) ∨ Open read payload := by
  rw [honoured_iff_open]
  constructor
  · exact .inr
  · rintro (⟨clock, ticked⟩ | hopen)
    · exact open_of_unlocked_tick ticked hread unlocked
    · exact hopen

/-- A service at 22%, with the given CPU temperature. -/
def atMinimum (cpuC : Option PyFloat) : ControlService FakeHardware :=
  init ⟨readingStatus cpuC (degrees 35) (some 22), false⟩ (SafetyPolicy.fresh fun _ => .stored)

/-- The snapshot of an accepted request on cool readings is honoured. -/
theorem honoured_after_cool_request :
    ∃ result after payload,
      requestDuty fakeBackend (.ofInt 100) (.int 50) .null (atMinimum (degrees 45)) =
        .ok result after ∧
      after.lastStatus = some payload ∧
      Honoured after.policy.state (atMinimum (degrees 45)).hardware.current payload := by
  have haccepted : (returned (requestDuty fakeBackend (.ofInt 100) (.int 50) .null
      (atMinimum (degrees 45)))).isSome = true := by
    decide
  obtain ⟨result, after, hrequest⟩ := returned_isSome_iff.mp haccepted
  have hpublished := hrequest
  cases hpublished
  refine ⟨_, _, _, hrequest, rfl, ?_⟩
  have hread : returned (fakeBackend.status (atMinimum (degrees 45)).hardware) =
      some (atMinimum (degrees 45)).hardware.current := rfl
  apply (unlocked_honoured_iff hread rfl).mpr
  exact .inr ⟨by decide, fun hfailed => absurd hfailed (by decide)⟩

/-- Full duty is accepted on hot readings and the snapshot says unlocked; every lower duty is
refused. -/
theorem not_honoured_after_hot_request :
    ¬ ∀ (Hardware : Type) (backend : FanBackend Hardware)
        (service after : ControlService Hardware) (payload : StatusPayload) (read : BackendStatus),
      Publishes backend service after payload →
      returned (backend.status service.hardware) = some read →
      payload.safety.controlsLocked = false → Honoured after.policy.state read payload := by
  intro hall
  have haccepted : (returned (requestDuty fakeBackend (.ofInt 100) (.int 100) .null
      (atMinimum (degrees 90)))).isSome = true := by
    decide
  obtain ⟨result, after, hrequest⟩ := returned_isSome_iff.mp haccepted
  have hpublished := hrequest
  cases hpublished
  have honoured := hall _ _ _ _ _ _ (.request hrequest rfl) rfl rfl
  have hopen := (honoured_iff_open _ _ _).mp honoured
  exact hopen.1 (by decide)

end ControlService

end TrueFan
