/-
# Blind runs never lower the fans

While every status is a sensor failure, the policy decides from the duty it reads, and
over a faithful backend that is the duty it last had stored. So whatever ticks,
requests, restarts and expiries come, and whatever raises, the duty goes up or stays.
What may fail is the way back from an unknown duty: a tick whose state-file writes
raise commands nothing.
-/

import TrueFan.Service.Faithful
import TrueFan.Service.Run

namespace TrueFan

open Python Foundations

/-- The sensors of a status failed: it says so, or a required reading is absent. A
reading that is there may still be hot. -/
def BackendStatus.SensorFailure (status : BackendStatus) : Prop :=
  status.sensorOk = false ∨ status.temperatures.cpuC = none ∨ status.temperatures.maxDriveC = none

theorem BackendStatus.SensorFailure.band {status : BackendStatus} (h : status.SensorFailure) :
    status.band = .hot ∨ status.band = .failed := by
  by_cases hhot : status.Hot
  · exact .inl (band_of_hot hhot)
  · rcases band_of_not_hot hhot with ⟨hband, -⟩ | ⟨-, hok, hcpu, hdrive⟩
    · exact .inr hband
    · rw [SensorFailure, hok] at h
      simp [hcpu, hdrive] at h

/-- Blind, the table asks for the known duty or more, full duty where none is known,
and never for more than full duty. -/
theorem Band.duty_bounds_blind {band : Band} (hband : band = .hot ∨ band = .failed)
    (latched : Bool) {known : Option ℤ} (hknown : ∀ percent, known = some percent → percent ≤ 100)
    (candidate : Option DutyPercent) :
    known.getD 100 ≤ band.duty latched known (candidate.map Subtype.val) ∧
      band.duty latched known (candidate.map Subtype.val) ≤ 100 := by
  rcases hband with rfl | rfl
  · refine ⟨?_, le_rfl⟩
    cases known with
    | none => exact le_rfl
    | some percent => exact hknown percent rfl
  · refine ⟨known_le_duty_failed latched known _, ?_⟩
    cases known with
    | none => exact le_rfl
    | some percent =>
        cases candidate with
        | none => exact hknown percent rfl
        | some duty => exact max_le (hknown percent rfl) duty.property.2

namespace ServiceEvent

variable {Hardware : Type}

/-- The event reads a status. -/
def Reads : ServiceEvent Hardware → Prop
  | .tick _ => True
  | .requestDuty _ _ _ => True
  | .requestProfile _ profile _ => (profiles.lookup profile).isSome = true
  | .restart => False
  | .disturb _ => False

/-- The event leaves alone what the backend holds, unless it commands. -/
def Steady (held : Hardware → FanState) : ServiceEvent Hardware → Prop
  | .disturb change => ∀ hardware, held (change hardware) = held hardware
  | _ => True

end ServiceEvent

namespace ControlService

variable {Hardware : Type} {backend : FanBackend Hardware} {held : Hardware → FanState}

/-- Where an event can leave the hardware: where it found it, where the status read left
it, where a command for a row of the table left it, or where an outside change took it. -/
inductive Reached (backend : FanBackend Hardware) (service : ControlService Hardware) :
    ServiceEvent Hardware → Hardware → Prop
  | untouched {event} : Reached backend service event service.hardware
  | read {event} : Reached backend service event (resultState (backend.status service.hardware))
  | commanded {event before hardware} (candidate : Option DutyPercent) (reads : event.Reads)
      (hstatus : backend.status service.hardware = .ok before hardware) :
      Reached backend service event (resultState (backend.setDutyPercent
        (before.band.duty service.policy.state.previousHot before.dutyPercent
          (candidate.map Subtype.val)) hardware))
  | disturbed {change} : Reached backend service (.disturb change) (change service.hardware)

theorem tick_reached (backend : FanBackend Hardware) (service : ControlService Hardware)
    (clock : Clock) :
    Reached backend service (.tick clock) (resultState (tick backend clock service)).hardware := by
  rw [tick_hardware]
  have hread : Reached backend service (.tick clock)
      (resultState (backend.status service.hardware)) := .read
  cases hstatus : backend.status service.hardware with
  | error error hardware =>
      rw [hstatus] at hread
      rw [refresh_of_status_error hstatus]
      exact hread
  | ok before hardware =>
      rw [hstatus] at hread
      cases hevaluate : SafetyPolicy.evaluate clock before none none service.policy with
      | error error policy =>
          rw [refresh_of_evaluate_error hstatus hevaluate]
          exact hread
      | ok decision policy =>
          have hcommanded : Reached backend service (.tick clock)
              (resultState (backend.setDutyPercent decision.effectiveDuty hardware)) := by
            obtain ⟨rfl, -⟩ := SafetyPolicy.evaluate_eq_ok hevaluate
            have hrow : Reached backend service (.tick clock) _ :=
              .commanded ((service.policy.state.liveOverride clock).map Override.dutyPercent)
                trivial hstatus
            rw [Option.map_map] at hrow
            exact hrow
          rw [refresh_of_evaluate_ok hstatus hevaluate]
          split
          · rw [resultState_ok, reported_hardware]
            exact hread
          · split
            next readback commanded hset =>
              rw [hset] at hcommanded
              rw [resultState_ok, reported_hardware]
              exact hcommanded
            next error commanded hset =>
              rw [hset] at hcommanded
              exact hcommanded

theorem requestDuty_reached (backend : FanBackend Hardware) (service : ControlService Hardware)
    {event : ServiceEvent Hardware} (reads : event.Reads) (clock : Clock)
    (dutyPercent ttlSeconds : Json) :
    Reached backend service event
      (resultState (requestDuty backend clock dutyPercent ttlSeconds service)).hardware := by
  have hread : Reached backend service event (resultState (backend.status service.hardware)) :=
    .read
  cases hstatus : backend.status service.hardware with
  | error error hardware =>
      rw [hstatus] at hread
      rw [requestDuty_of_status_error hstatus]
      exact hread
  | ok before hardware =>
      rw [hstatus] at hread
      cases hrequest : SafetyPolicy.requestOverride clock before dutyPercent ttlSeconds
          service.policy with
      | error error policy =>
          rw [requestDuty_of_refused hstatus hrequest]
          exact hread
      | ok decision policy =>
          have hcommanded : Reached backend service event
              (resultState (backend.setDutyPercent decision.effectiveDuty hardware)) := by
            obtain ⟨duty, ttl, hduty, httl⟩ := SafetyPolicy.valid_of_requestOverride_eq_ok hrequest
            rw [SafetyPolicy.effectiveDuty_of_requestOverride hduty httl hrequest]
            exact .commanded (some duty) reads hstatus
          rw [requestDuty_of_accepted hstatus hrequest]
          split
          next readback commanded hset =>
            rw [hset] at hcommanded
            exact hcommanded
          next error commanded hset =>
            rw [hset] at hcommanded
            exact hcommanded

/-- Every event leaves the hardware in one of these places. -/
theorem step_reached (backend : FanBackend Hardware) (service : ControlService Hardware)
    (event : ServiceEvent Hardware) :
    Reached backend service event (step backend service event).2.hardware := by
  cases event with
  | tick clock =>
      show Reached _ _ _ (outcome _ _).2.hardware
      rw [outcome_snd]
      exact tick_reached backend service clock
  | requestDuty clock dutyPercent ttlSeconds =>
      show Reached _ _ _ (outcome _ _).2.hardware
      rw [outcome_snd]
      have reads : (ServiceEvent.requestDuty clock dutyPercent ttlSeconds :
          ServiceEvent Hardware).Reads := trivial
      exact requestDuty_reached backend service reads clock dutyPercent ttlSeconds
  | requestProfile clock profile ttlSeconds =>
      show Reached _ _ _ (outcome _ _).2.hardware
      rw [outcome_snd]
      cases hprofile : profiles.lookup profile with
      | none =>
          rw [requestProfile_of_unknown hprofile]
          exact .untouched
      | some duty =>
          have reads : (ServiceEvent.requestProfile clock profile ttlSeconds :
              ServiceEvent Hardware).Reads := by
            rw [ServiceEvent.Reads, hprofile]
            rfl
          rw [resultState_requestProfile hprofile]
          exact requestDuty_reached backend service reads clock (.int duty) ttlSeconds
  | restart =>
      rw [step_restart]
      cases SafetyPolicy.init service.policy.store with
      | ok policy => exact .untouched
      | error error => exact .untouched
  | disturb change => exact .disturbed

/-- The call reads a status whose sensors failed. -/
def ReadsFailure (backend : FanBackend Hardware) (service : ControlService Hardware) : Prop :=
  ∃ status, readStatus backend service = some status ∧ status.SensorFailure

/-- The duty held, with full duty standing in for an unknown one. -/
def heldDuty (held : Hardware → FanState) (service : ControlService Hardware) : ℤ :=
  (held service.hardware).dutyPercent.getD 100

/-- The duty held is a percentage, if it is known. -/
def AtMostFull (held : Hardware → FanState) (service : ControlService Hardware) : Prop :=
  ∀ known, (held service.hardware).dutyPercent = some known → known ≤ 100

theorem heldDuty_le_hundred {service : ControlService Hardware}
    (hmax : AtMostFull held service) : heldDuty held service ≤ 100 := by
  rw [heldDuty]
  cases hduty : (held service.hardware).dutyPercent with
  | none => exact le_rfl
  | some known => exact hmax known hduty

/-- A blind event over a faithful backend does not lower the duty held, and keeps it a
percentage. -/
theorem heldDuty_le_of_step (faithful : Faithful backend held) {service : ControlService Hardware}
    {event : ServiceEvent Hardware} (steady : event.Steady held)
    (blind : event.Reads → ReadsFailure backend service) (hmax : AtMostFull held service) :
    heldDuty held service ≤ heldDuty held (step backend service event).2 ∧
      AtMostFull held (step backend service event).2 := by
  have hsame {after : Hardware}
      (h : (held after).dutyPercent = (held service.hardware).dutyPercent) :
      heldDuty held service ≤ (held after).dutyPercent.getD 100 ∧
        ∀ known, (held after).dutyPercent = some known → known ≤ 100 := by
    rw [h]
    exact ⟨le_rfl, hmax⟩
  have hreached := step_reached backend service event
  show heldDuty held service ≤ (held (step backend service event).2.hardware).dutyPercent.getD 100 ∧
    ∀ known, (held (step backend service event).2.hardware).dutyPercent = some known → known ≤ 100
  generalize (step backend service event).2.hardware = after at hreached ⊢
  cases hreached with
  | untouched => exact hsame rfl
  | read => exact hsame (congrArg FanState.dutyPercent (faithful.reading _))
  | disturbed => exact hsame (congrArg FanState.dutyPercent (steady _))
  | @commanded _ before hardware candidate reads hstatus =>
      obtain ⟨status, hread, hfailure⟩ := blind reads
      rw [readStatus, hstatus, returned_ok, Option.some.injEq] at hread
      subst hread
      have hreading := faithful.reading service.hardware
      rw [hstatus, resultState_ok] at hreading
      have hknown := (faithful.reported hstatus).2
      have hmax' : ∀ percent, before.dutyPercent = some percent → percent ≤ 100 := by
        rw [hknown]
        exact hmax
      obtain ⟨hlow, hhigh⟩ := Band.duty_bounds_blind hfailure.band
        service.policy.state.previousHot hmax' candidate
      have hstored {after : Hardware} {stored : ℤ} (h : (held after).dutyPercent = some stored)
          (hstores : Stores (before.band.duty service.policy.state.previousHot before.dutyPercent
            (candidate.map Subtype.val)) stored) :
          heldDuty held service ≤ (held after).dutyPercent.getD 100 ∧
            ∀ known, (held after).dutyPercent = some known → known ≤ 100 := by
        rw [heldDuty, ← hknown, h]
        refine ⟨hstores.le (hlow.trans hhigh) hlow, fun known hsome => ?_⟩
        rw [← Option.some.inj hsome]
        exact hstores.le_hundred hhigh
      cases hset : backend.setDutyPercent (before.band.duty service.policy.state.previousHot
          before.dutyPercent (candidate.map Subtype.val)) hardware with
      | ok readback after =>
          obtain ⟨stored, hheld, hstores⟩ := faithful.commanded hset
          exact hstored (congrArg FanState.dutyPercent hheld) hstores
      | error error after =>
          rcases faithful.failed hset with hkept | hlost | ⟨stored, hheld, hstores⟩
          · exact hsame (hkept.trans (congrArg FanState.dutyPercent hreading))
          · rw [resultState_error, hlost]
            exact ⟨heldDuty_le_hundred hmax, fun _ h => by cases h⟩
          · exact hstored hheld hstores

/-! ## Blind runs -/

/-- The event asks for a duty. -/
def Asks (event : ServiceEvent Hardware) (clock : Clock) (asked : ℤ) (ttlSeconds : Json) : Prop :=
  event = .requestDuty clock (.int asked) ttlSeconds ∨
    ∃ profile, event = .requestProfile clock profile ttlSeconds ∧
      profiles.lookup profile = some asked

/-- The request raises and commands nothing; what it raises is a safety lock, if it passes
validation and no state-file write raises first. -/
def RefusedUncommanded (backend : FanBackend Hardware) (service : ControlService Hardware)
    (clock : Clock) (asked : ℤ) (ttlSeconds : Json) : Prop :=
  ∃ error after,
    requestDuty backend.recorded clock (.int asked) ttlSeconds service.watched =
      .error error after ∧
    after.hardware.2 = [] ∧
    ∀ before, readStatus backend service = some before → 22 ≤ asked →
      SafetyPolicy.validTtl ttlSeconds ≠ none → service.policy.EvaluationWrites clock before →
      ∃ message, error = .safetyLocked message

/-- What is promised of a blind run: known duties never go down, requests below the known
duty are refused without a command, and a tick that finds no known duty commands full
duty. -/
structure KeepsFansUp (backend : FanBackend Hardware) (held : Hardware → FanState)
    (service : ControlService Hardware) (events : List (ServiceEvent Hardware)) : Prop where
  nondecreasing : ((service :: (records (step backend) service events).map Record.after).filterMap
    fun service => (held service.hardware).dutyPercent).Pairwise (· ≤ ·)
  refused : ∀ record ∈ records (step backend) service events, ∀ clock asked ttlSeconds known,
    Asks record.event clock asked ttlSeconds →
    (held record.before.hardware).dutyPercent = some known → asked < known →
    RefusedUncommanded backend record.before clock asked ttlSeconds
  commandsFull : ∀ record ∈ records (step backend) service events, ∀ clock,
    record.event = .tick clock → (held record.before.hardware).dutyPercent = none →
    (resultState (tick backend.recorded clock record.before.watched)).hardware.2 = [100]

theorem Asks.reads {event : ServiceEvent Hardware} {clock : Clock} {asked : ℤ} {ttlSeconds : Json}
    (asks : Asks event clock asked ttlSeconds) : event.Reads := by
  rcases asks with rfl | ⟨profile, rfl, hprofile⟩
  · trivial
  · rw [ServiceEvent.Reads, hprofile]
    rfl

/-- Blind, a request below the known duty is refused. -/
theorem refusedUncommanded_of_blind (faithful : Faithful backend held)
    {service : ControlService Hardware} (blind : ReadsFailure backend service)
    (hmax : AtMostFull held service) {known asked : ℤ}
    (hknown : (held service.hardware).dutyPercent = some known) (hlow : asked < known)
    (clock : Clock) (ttlSeconds : Json) :
    RefusedUncommanded backend service clock asked ttlSeconds := by
  obtain ⟨status, hread, hfailure⟩ := blind
  obtain ⟨hardware, hstatus⟩ := returned_eq_some_iff.mp hread
  have hreported := (faithful.reported hstatus).2.trans hknown
  by_cases hvalid : SafetyPolicy.validDuty (.int asked) = none ∨
      SafetyPolicy.validTtl ttlSeconds = none
  · obtain ⟨message, hrequest⟩ :=
      SafetyPolicy.requestOverride_invalid hvalid clock status service.policy
    obtain ⟨after, hraised, hhardware⟩ := requestDuty_uncommanded hstatus hrequest
    refine ⟨_, after, hraised, congrArg Prod.snd hhardware, ?_⟩
    intro before _ hmin httl _
    have hrange : 22 ≤ asked ∧ asked ≤ 100 := ⟨hmin, hlow.le.trans (hmax known hknown)⟩
    rcases hvalid with hnone | hnone
    · rw [SafetyPolicy.validDuty, dif_pos hrange] at hnone
      cases hnone
    · exact absurd hnone httl
  · obtain ⟨hduty, httl⟩ := not_or.mp hvalid
    obtain ⟨duty, hduty⟩ := Option.ne_none_iff_exists'.mp hduty
    obtain ⟨ttl, httl⟩ := Option.ne_none_iff_exists'.mp httl
    have hasked : asked = duty.val := Json.int.inj (SafetyPolicy.validDuty_eq_some_iff.mp hduty)
    have hrefused : SafetyPolicy.Refused status duty.val := by
      rw [← hasked]
      rcases hfailure.band with hband | hband
      · exact .inl ⟨hband, hlow.trans_le (hmax known hknown)⟩
      · exact .inr ⟨hband, known, hreported, hlow⟩
    obtain ⟨error, policy, hrequest, hlocked⟩ :=
      SafetyPolicy.requestOverride_of_refused hduty httl hrefused clock service.policy
    obtain ⟨after, hraised, hhardware⟩ := requestDuty_uncommanded hstatus hrequest
    refine ⟨error, after, hraised, congrArg Prod.snd hhardware, ?_⟩
    intro before hbefore _ _ hwrites
    rw [hread, Option.some.injEq] at hbefore
    exact hlocked (hbefore ▸ hwrites)

/-- Blind and without a known duty, a tick commands full duty exactly when the state-file
writes of its evaluation succeed. -/
theorem commandsFull_iff_writes (faithful : Faithful backend held)
    {service : ControlService Hardware} {status : BackendStatus}
    (hread : readStatus backend service = some status) (hfailure : status.SensorFailure)
    (hunknown : (held service.hardware).dutyPercent = none) (clock : Clock) :
    (resultState (tick backend.recorded clock service.watched)).hardware.2 = [100] ↔
      service.policy.EvaluationWrites clock status := by
  obtain ⟨hardware, hstatus⟩ := returned_eq_some_iff.mp hread
  have hnone := (faithful.reported hstatus).2.trans hunknown
  have hreturns := SafetyPolicy.evaluate_returns_iff clock status none none service.policy
  rw [Option.getD_none] at hreturns
  rw [← hreturns]
  cases hevaluate : SafetyPolicy.evaluate clock status none none service.policy with
  | error error policy =>
      rw [calls_of_evaluate_error hstatus hevaluate]
      simp
  | ok decision policy =>
      have hduty : decision.effectiveDuty = 100 := by
        obtain ⟨rfl, -⟩ := SafetyPolicy.evaluate_eq_ok hevaluate
        show status.band.duty _ status.dutyPercent _ = 100
        rw [hnone]
        rcases hfailure.band with hband | hband
        · rw [hband]
          rfl
        · rw [hband]
          rfl
      have hplace : ¬ InPlace status 100 := by simp [InPlace, hnone]
      rw [calls_of_evaluate_ok hstatus hevaluate, hduty, if_neg hplace]
      exact iff_of_true rfl ⟨decision, policy, rfl⟩

/-- What a blind run over a faithful backend is promised it gets exactly when no state-file
write raises in a tick that finds no known duty. -/
theorem keepsFansUp_iff_writes (faithful : Faithful backend held)
    {service : ControlService Hardware} {events : List (ServiceEvent Hardware)}
    (initial : AtMostFull held service) (steady : ∀ event ∈ events, event.Steady held)
    (blind : ∀ record ∈ records (step backend) service events,
      record.event.Reads → ReadsFailure backend record.before) :
    KeepsFansUp backend held service events ↔
      ∀ record ∈ records (step backend) service events, ∀ clock before,
        record.event = .tick clock → (held record.before.hardware).dutyPercent = none →
        readStatus backend record.before = some before →
        record.before.policy.EvaluationWrites clock before := by
  have hstep : ∀ record ∈ records (step backend) service events,
      AtMostFull held record.before → heldDuty held record.before ≤ heldDuty held record.after ∧
        AtMostFull held record.after := by
    intro record hmem hmax
    have hpreserved := heldDuty_le_of_step faithful
      (steady record.event (event_mem_of_mem_records _ hmem)) (blind record hmem) hmax
    rwa [step_of_mem_records _ hmem] at hpreserved
  have hbounds := records_invariant_of_preserved (step backend) initial
    fun record hmem hmax => (hstep record hmem hmax).2
  have hrises : ∀ record ∈ records (step backend) service events,
      heldDuty held record.before ≤ heldDuty held record.after :=
    fun record hmem => (hstep record hmem (hbounds record hmem).1).1
  have hfull (record : ServiceRecord Hardware)
      (hmem : record ∈ records (step backend) service events) {clock : Clock}
      {before : BackendStatus} (htick : record.event = .tick clock)
      (hunknown : (held record.before.hardware).dutyPercent = none)
      (hread : readStatus backend record.before = some before) :
      (resultState (tick backend.recorded clock record.before.watched)).hardware.2 = [100] ↔
        record.before.policy.EvaluationWrites clock before := by
    obtain ⟨status, hstatus, hfailure⟩ := blind record hmem (by rw [htick]; trivial)
    rw [hstatus, Option.some.injEq] at hread
    exact hread ▸ commandsFull_iff_writes faithful hstatus hfailure hunknown clock
  constructor
  · intro keeps record hmem clock before htick hunknown hread
    exact (hfull record hmem htick hunknown hread).mp
      (keeps.commandsFull record hmem clock htick hunknown)
  · intro writes
    refine ⟨?_, ?_, ?_⟩
    · rw [List.pairwise_filterMap]
      apply (pairwise_le_of_records (step backend) (heldDuty held) hrises).imp
      intro earlier later hle known hknown known' hknown'
      rwa [heldDuty, heldDuty, hknown, hknown'] at hle
    · intro record hmem clock asked ttlSeconds known asks hknown hlow
      exact refusedUncommanded_of_blind faithful (blind record hmem asks.reads)
        (hbounds record hmem).1 hknown hlow clock ttlSeconds
    · intro record hmem clock htick hunknown
      obtain ⟨status, hread, -⟩ := blind record hmem (by rw [htick]; trivial)
      exact (hfull record hmem htick hunknown hread).mpr
        (writes record hmem clock status htick hunknown hread)

/-- A run that starts without a known duty: the first tick commands full duty, and then a
request for half duty is refused. -/
theorem keepsFansUp_fake :
    KeepsFansUp fakeBackend FakeHardware.held
      (init ⟨readingStatus none none none false, false⟩ (SafetyPolicy.fresh fun _ => .stored))
      [.tick (.ofInt 100), .requestDuty (.ofInt 105) (.int 50) .null] := by
  have initial : AtMostFull FakeHardware.held
      (init ⟨readingStatus none none none false, false⟩ (SafetyPolicy.fresh fun _ => .stored)) := by
    intro known hknown
    cases hknown
  apply (keepsFansUp_iff_writes faithful_fakeBackend initial ?_ ?_).mpr
  · rw [records_cons, records_cons, records_nil, List.forall_mem_cons, List.forall_mem_singleton]
    constructor
    · intro clock before _ _ _
      exact ⟨fun _ => rfl, fun _ => rfl⟩
    · intro clock before htick
      cases htick
  · exact List.forall_mem_cons.mpr ⟨trivial, List.forall_mem_singleton.mpr trivial⟩
  · rw [records_cons, records_cons, records_nil, List.forall_mem_cons, List.forall_mem_singleton]
    exact ⟨fun _ => ⟨_, rfl, .inl rfl⟩, fun _ => ⟨_, rfl, .inl rfl⟩⟩

/-- The test double, except that a command that raises has lost the duty by then. -/
def forgetfulBackend : FanBackend FakeHardware where
  status := fakeBackend.status
  setDutyPercent percent := do
    if (← get).broken then
      modify fun hardware => { hardware with
        current := { hardware.current with dutyPercent := none } }
      throw (.backendMutationError "readback_mismatch")
    else fakeBackend.setDutyPercent percent
  setAuto := fakeBackend.setAuto

theorem faithful_forgetfulBackend : Faithful forgetfulBackend FakeHardware.held where
  reading := faithful_fakeBackend.reading
  reported := faithful_fakeBackend.reported
  commanded := by
    intro percent hardware after readback h
    obtain ⟨current, broken⟩ := hardware
    cases broken with
    | true => cases h
    | false =>
        cases h
        exact ⟨_, rfl, .inr rfl⟩
  failed := by
    intro percent hardware after error h
    obtain ⟨current, broken⟩ := hardware
    cases broken with
    | true =>
        cases h
        exact .inr (.inl rfl)
    | false => cases h

/-- A command raises and loses the duty; by the next tick the override has run out, and
the write that drops it raises: nothing is commanded. -/
theorem not_keepsFansUp_of_failed_write :
    ¬ ∀ (Hardware : Type) (backend : FanBackend Hardware) (held : Hardware → FanState)
        (service : ControlService Hardware) (events : List (ServiceEvent Hardware)),
      Faithful backend held →
      (∃ known, (held service.hardware).dutyPercent = some known ∧ 0 ≤ known ∧ known ≤ 100) →
      (∀ event ∈ events, event.Steady held) →
      (∀ record ∈ records (step backend) service events,
        record.event.Reads → ReadsFailure backend record.before) →
      KeepsFansUp backend held service events := by
  intro hall
  have hkeeps := hall FakeHardware forgetfulBackend FakeHardware.held
    (init ⟨{ readingStatus none none (some 22) false with mode := .auto }, true⟩
      ⟨⟨false, some ⟨⟨50, by decide⟩, .float (.ofInt 200)⟩⟩, .fresh fun _ => .raised⟩)
    [.tick (.ofInt 100), .tick (.ofInt 300)] faithful_forgetfulBackend
    ⟨22, rfl, by decide, by decide⟩ ?_ ?_
  · have hcalls := hkeeps.commandsFull _ (List.mem_cons_of_mem _ List.mem_cons_self) (.ofInt 300)
      rfl rfl
    exact absurd hcalls (by decide)
  · exact List.forall_mem_cons.mpr ⟨trivial, List.forall_mem_singleton.mpr trivial⟩
  · rw [records_cons, records_cons, records_nil, List.forall_mem_cons, List.forall_mem_singleton]
    exact ⟨fun _ => ⟨_, rfl, .inl rfl⟩, fun _ => ⟨_, rfl, .inl rfl⟩⟩

end ControlService

end TrueFan
