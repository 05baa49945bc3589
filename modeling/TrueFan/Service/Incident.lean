/-
# The cooling floor of an open incident

From the status that opens an incident to the one that closes it, ticks and
accepted requests command at least half duty, with one exception the policy makes
on purpose: while a source has failed it holds the duty it knows, unless it is asked
for more, and another controller, or a command that raised, may have left that duty
lower.

What the hardware does is stated through `Reports`: what a backend promises about
the duty it reports and the duty it was told to set, for any reading of "every fan
runs at this duty or more".
-/

import TrueFan.Service.Recorded
import TrueFan.Service.Run

namespace TrueFan

open Python Foundations

/-- The backend reports truly: where it reports a duty above the minimum the fans
run at that duty, and after a command that returned they run at the clamped duty
commanded. `AtLeast` says that the fans run at a duty or more. -/
structure Reports {Hardware : Type} (backend : FanBackend Hardware)
    (AtLeast : ℤ → Hardware → Prop) : Prop where
  status : ∀ {hardware after status duty}, backend.status hardware = .ok status after →
    status.dutyPercent = some duty → minDutyPercent < duty → AtLeast duty after
  command : ∀ {percent hardware after readback},
    backend.setDutyPercent percent hardware = .ok readback after →
    AtLeast (clampPercent percent) after
  weaken : ∀ {high low hardware}, AtLeast high hardware → low ≤ high → AtLeast low hardware

namespace ControlService

variable {Hardware : Type}

/-- The call evaluates a hot status. -/
def Opens (backend : FanBackend Hardware) (record : ServiceRecord Hardware) : Prop :=
  ∃ event ∈ policyEvent backend record.before record.event, event.Opens

/-- The call evaluates a recovered status. -/
def Closes (backend : FanBackend Hardware) (record : ServiceRecord Hardware) : Prop :=
  ∃ event ∈ policyEvent backend record.before record.event, event.Closes

instance (backend : FanBackend Hardware) : DecidablePred (Opens backend) := fun record =>
  inferInstanceAs
    (Decidable (∃ event ∈ policyEvent backend record.before record.event, event.Opens))

instance (backend : FanBackend Hardware) : DecidablePred (Closes backend) := fun record =>
  inferInstanceAs
    (Decidable (∃ event ∈ policyEvent backend record.before record.event, event.Closes))

/-- An incident is open after a history: it was open at its start, or a call of the
history opened it, and no later call closed it. -/
def IncidentOpen (backend : FanBackend Hardware) (start : SafetyPolicy)
    (history : List (ServiceRecord Hardware)) : Prop :=
  (start.state.previousHot = true ∧ ∀ record ∈ history, ¬ Closes backend record) ∨
    ∃ earlier record later, history = earlier ++ record :: later ∧ Opens backend record ∧
      ∀ record ∈ later, ¬ Closes backend record

/-- A step moves the latch by what it evaluated. -/
theorem step_previousHot (backend : FanBackend Hardware) {service : ControlService Hardware}
    (durable : service.policy.Durable) (event : ServiceEvent Hardware) :
    (step backend service event).2.policy.state.previousHot =
      latchStep (Opens backend) (Closes backend) service.policy.state.previousHot
        ⟨service, event, (step backend service event).1, (step backend service event).2⟩ := by
  rw [Bool.eq_iff_iff, latchStep_eq_true_iff, step_policy, Opens, Closes]
  dsimp only
  cases policyEvent backend service event with
  | none => simp
  | some event =>
      rw [Option.elim_some, (SafetyPolicy.step_change durable event).1.previousHot,
        latchStep_eq_true_iff]
      simp

/-- The latch after a history is the latch run over its calls. -/
theorem previousHot_finalState (backend : FanBackend Hardware) {service : ControlService Hardware}
    (durable : service.policy.Durable) (events : List (ServiceEvent Hardware)) :
    (finalState (step backend) service events).policy.state.previousHot =
      latchRun (Opens backend) (Closes backend) service.policy.state.previousHot
        (records (step backend) service events) := by
  induction events generalizing service with
  | nil => rfl
  | cons event rest ih =>
      rw [finalState_cons, ih (step_durable backend service event durable),
        step_previousHot backend durable, records_cons, latchRun_cons]

/-- The latch is up exactly while an incident is open. -/
theorem latched_iff_incidentOpen (backend : FanBackend Hardware)
    {service : ControlService Hardware} (durable : service.policy.Durable)
    (events : List (ServiceEvent Hardware)) :
    (finalState (step backend) service events).policy.state.previousHot = true ↔
      IncidentOpen backend service.policy (records (step backend) service events) := by
  rw [previousHot_finalState backend durable]
  exact latchRun_eq_true_iff _ _

/-- The duty a call is asked for: a request asks for its own, a tick for that of an override
that has not run out. -/
def askedDuty (state : ControlState) : ServiceEvent Hardware → Option ℤ
  | .tick clock => (state.liveOverride clock).map fun override => override.dutyPercent.val
  | .requestDuty _ dutyPercent _ => (SafetyPolicy.validDuty dutyPercent).map Subtype.val
  | .requestProfile _ profile _ => profiles.lookup profile
  | .restart => none
  | .disturb _ => none

/-- The duty of a call that returned is in place, or it was commanded. -/
def Commanded (backend : FanBackend Hardware) (before : BackendStatus) (hardware : Hardware)
    (duty : ℤ) (after : Hardware) : Prop :=
  (InPlace before duty ∧ after = hardware) ∨
    ∃ readback, backend.setDutyPercent duty hardware = .ok readback after

theorem requestDuty_commanded {backend : FanBackend Hardware} {clock : Clock}
    {dutyPercent ttlSeconds : Json} {service after : ControlService Hardware}
    {result : MutationResult}
    (h : requestDuty backend clock dutyPercent ttlSeconds service = .ok result after) :
    ∃ before hardware asked, backend.status service.hardware = .ok before hardware ∧
      (PolicyEvent.request clock before dutyPercent ttlSeconds).evaluation =
        some (clock, before) ∧
      SafetyPolicy.validDuty dutyPercent = some asked ∧
      result.effectiveDuty = before.band.duty service.policy.state.previousHot before.dutyPercent
        (some asked.val) ∧
      Commanded backend before hardware result.effectiveDuty after.hardware := by
  obtain ⟨before, hardware, decision, policy, readback, hstatus, hrequest, -, hset, rfl⟩ :=
    requestDuty_eq_ok h
  obtain ⟨duty, ttl, hduty, httl⟩ := SafetyPolicy.valid_of_requestOverride_eq_ok hrequest
  have hrow := SafetyPolicy.effectiveDuty_of_requestOverride hduty httl hrequest
  exact ⟨before, hardware, duty, hstatus, PolicyEvent.evaluation_of_valid hduty httl clock before,
    hduty, hrow, .inr ⟨readback, hset⟩⟩

/-- A call that returned a duty evaluated the status it read, and the duty is the row of the
table for that status, the latch it found and the duty it was asked for. -/
theorem step_commanded {backend : FanBackend Hardware} {service : ControlService Hardware}
    {event : ServiceEvent Hardware} {duty : ℤ}
    (h : (step backend service event).1.effectiveDuty = some duty) :
    ∃ before hardware, backend.status service.hardware = .ok before hardware ∧
      (∃ call ∈ policyEvent backend service event, ∃ time, call.evaluation = some (time, before)) ∧
      duty = before.band.duty service.policy.state.previousHot before.dutyPercent
        (askedDuty service.policy.state event) ∧
      Commanded backend before hardware duty (step backend service event).2.hardware := by
  cases event with
  | tick clock =>
      obtain ⟨payload, after, htick, hduty⟩ := outcome_effectiveDuty_eq_some h
      cases hduty
      obtain ⟨before, hardware, hstatus, hrow, hcommand⟩ := tick_eq_ok htick
      refine ⟨before, hardware, hstatus, ⟨.evaluate clock before none none, ?_, clock, rfl⟩,
        hrow, ?_⟩
      · rw [policyEvent, readStatus, hstatus]
        rfl
      · show Commanded _ _ _ _ (outcome _ (tick backend clock service)).2.hardware
        rw [htick]
        exact hcommand.imp id fun h => ⟨_, h.2⟩
  | requestDuty clock dutyPercent ttlSeconds =>
      obtain ⟨result, after, hrequest, hduty⟩ := outcome_effectiveDuty_eq_some h
      cases hduty
      obtain ⟨before, hardware, asked, hstatus, hevaluation, hvalid, hrow, hcommand⟩ :=
        requestDuty_commanded hrequest
      have hasked : askedDuty service.policy.state
          (.requestDuty clock dutyPercent ttlSeconds : ServiceEvent Hardware) = some asked.val :=
        congrArg (Option.map Subtype.val) hvalid
      rw [← hasked] at hrow
      refine ⟨before, hardware, hstatus, ⟨_, ?_, clock, hevaluation⟩, hrow, ?_⟩
      · rw [policyEvent, readStatus, hstatus]
        rfl
      · show Commanded _ _ _ _
          (outcome _ (requestDuty backend clock dutyPercent ttlSeconds service)).2.hardware
        rw [hrequest]
        exact hcommand
  | requestProfile clock profile ttlSeconds =>
      obtain ⟨result, after, hrequest, hduty⟩ := outcome_effectiveDuty_eq_some h
      cases hduty
      obtain ⟨percent, answer, hprofile, hanswered, rfl⟩ := requestProfile_eq_ok hrequest
      obtain ⟨before, hardware, asked, hstatus, hevaluation, hvalid, hrow, hcommand⟩ :=
        requestDuty_commanded hanswered
      have hpercent : percent = asked.val :=
        Json.int.inj (SafetyPolicy.validDuty_eq_some_iff.mp hvalid)
      have hasked : askedDuty service.policy.state
          (.requestProfile clock profile ttlSeconds : ServiceEvent Hardware) = some asked.val :=
        hprofile.trans (congrArg some hpercent)
      rw [← hasked] at hrow
      refine ⟨before, hardware, hstatus, ⟨_, ?_, clock, hevaluation⟩, hrow, ?_⟩
      · rw [policyEvent, readStatus, hprofile, hstatus]
        rfl
      · show Commanded _ _ _ _
          (outcome _ (requestProfile backend clock profile ttlSeconds service)).2.hardware
        rw [hrequest]
        exact hcommand
  | restart =>
      rw [step_restart] at h
      cases hinit : SafetyPolicy.init service.policy.store <;> rw [hinit] at h <;> cases h
  | disturb change => cases h

/-! ## The floor -/

/-- A faithful backend runs the fans at a returned duty above the minimum, up to full
duty. -/
theorem atLeast_of_commanded {backend : FanBackend Hardware} {AtLeast : ℤ → Hardware → Prop}
    (reports : Reports backend AtLeast) {start hardware after : Hardware} {before : BackendStatus}
    {duty : ℤ} (hstatus : backend.status start = .ok before hardware)
    (hcommand : Commanded backend before hardware duty after) (hmin : minDutyPercent < duty)
    {bound : ℤ} (hbound : bound ≤ duty) (hfull : bound ≤ 100) : AtLeast bound after := by
  rcases hcommand with ⟨⟨-, hduty⟩, rfl⟩ | ⟨readback, hset⟩
  · exact reports.weaken (reports.status hstatus hduty hmin) hbound
  · exact reports.weaken (reports.command hset) (le_clampPercent hfull hbound)

/-- The row of a failed source for a known duty. -/
def atLeastKnown (known : ℤ) (candidate : Option ℤ) : ℤ := candidate.elim known (max known)

/-- It is at least half duty as soon as the known duty or the one asked for is. -/
theorem half_le_atLeastKnown_iff {known : ℤ} {candidate : Option ℤ} :
    50 ≤ atLeastKnown known candidate ↔
      50 ≤ known ∨ ∃ asked, candidate = some asked ∧ 50 ≤ asked := by
  cases candidate with
  | none => simp [atLeastKnown]
  | some asked => simp [atLeastKnown]

/-- In an open incident the table asks for half duty or more, unless a source failed: then it
holds the duty that is known, or raises it to what it is asked for. -/
theorem half_le_duty {status : BackendStatus} (hrecovered : ¬ status.Recovered)
    {latched : Bool} (hopen : latched = true ∨ status.Hot) (candidate : Option ℤ) :
    50 ≤ status.band.duty latched status.dutyPercent candidate ∨
      status.band = .failed ∧ ∃ known, status.dutyPercent = some known ∧
        status.band.duty latched status.dutyPercent candidate = atLeastKnown known candidate := by
  cases hband : status.band with
  | hot => exact .inl (by decide : (50 : ℤ) ≤ 100)
  | recovered => exact absurd (BackendStatus.band_eq_recovered_iff.mp hband) hrecovered
  | warm =>
      have hlatched : latched = true := by
        rcases hopen with hlatched | hhot
        · exact hlatched
        · rw [BackendStatus.band_of_hot hhot] at hband
          cases hband
      rw [hlatched]
      exact .inl (le_max_left 50 _)
  | failed =>
      cases status.dutyPercent with
      | none => exact .inl (by decide : (50 : ℤ) ≤ 100)
      | some known => exact .inr ⟨rfl, known, rfl, rfl⟩

/-- In an open incident every tick and every accepted request that returns commands
half duty or more and leaves the fans there; or its source failed, neither the duty the
backend knew nor the one it was asked for is that high, and it commands the higher of the two
and leaves the fans there. -/
theorem incident_keeps_half {backend : FanBackend Hardware} {AtLeast : ℤ → Hardware → Prop}
    (reports : Reports backend AtLeast) {store : ControlStateStore} {policy : SafetyPolicy}
    (started : SafetyPolicy.init store = .ok policy) (writes : policy.WritesSucceed)
    (hardware : Hardware) (events : List (ServiceEvent Hardware)) :
    ∀ earlier record later,
      records (step backend) (init hardware policy) events = earlier ++ record :: later →
      IncidentOpen backend policy earlier ∨ Opens backend record → ¬ Closes backend record →
      ∀ duty, record.outcome.effectiveDuty = some duty →
        (50 ≤ duty ∧ AtLeast 50 record.after.hardware) ∨
        ∃ status known, readStatus backend record.before = some status ∧
          status.band = .failed ∧ status.dutyPercent = some known ∧ known < 50 ∧
          (∀ asked, askedDuty record.before.policy.state record.event = some asked → asked < 50) ∧
          duty = atLeastKnown known (askedDuty record.before.policy.state record.event) ∧
          (minDutyPercent < duty → AtLeast duty record.after.hardware) := by
  intro earlier record later hsplit hincident hcloses duty hduty
  have hdurable : (init hardware policy : ControlService Hardware).policy.Durable :=
    ⟨writes, SafetyPolicy.synced_of_init started⟩
  have hmem : record ∈ records (step backend) (init hardware policy) events := by
    rw [hsplit]
    exact List.mem_append_right _ List.mem_cons_self
  have hstep := step_of_mem_records (step backend) hmem
  have houtcome : (step backend record.before record.event).1 = record.outcome := by rw [hstep]
  have hafter : (step backend record.before record.event).2 = record.after := by rw [hstep]
  obtain ⟨first, hearlier, hbefore⟩ := before_of_records_eq_append_cons (step backend) hsplit
  have hlatch := latched_iff_incidentOpen backend hdurable first
  rw [hearlier, ← hbefore] at hlatch
  rw [← houtcome] at hduty
  obtain ⟨before, read, hstatus, ⟨call, hcall, time, hevaluation⟩, hrow, hcommand⟩ :=
    step_commanded hduty
  rw [hafter] at hcommand
  have hrecovered : ¬ before.Recovered := fun hrecovered =>
    hcloses ⟨call, hcall, time, before, hevaluation, hrecovered⟩
  have hopen : record.before.policy.state.previousHot = true ∨ before.Hot := by
    rcases hincident with hopen | ⟨call', hcall', hopens⟩
    · exact .inl (hlatch.mpr hopen)
    · rw [Option.mem_unique hcall' hcall] at hopens
      exact .inr ((PolicyEvent.opens_iff hevaluation).mp hopens)
  have hhigh (h : 50 ≤ duty) : 50 ≤ duty ∧ AtLeast 50 record.after.hardware :=
    ⟨h, atLeast_of_commanded reports hstatus hcommand
      ((by decide : minDutyPercent < 50).trans_le h) h (by decide)⟩
  by_cases hhalf : 50 ≤ duty
  · exact .inl (hhigh hhalf)
  rcases half_le_duty hrecovered hopen (askedDuty record.before.policy.state record.event) with
    hrowHalf | ⟨hband, known, hknown, hheld⟩
  · exact absurd (hrow ▸ hrowHalf) hhalf
  rw [← hrow] at hheld
  have hlow := hhalf
  rw [hheld, half_le_atLeastKnown_iff, not_or, not_le] at hlow
  refine .inr ⟨before, known, ?_, hband, hknown, hlow.1, ?_, hheld, ?_⟩
  · rw [readStatus, hstatus]
    rfl
  · exact fun asked hasked => not_le.mp fun hle => hlow.2 ⟨asked, hasked, hle⟩
  · exact fun hmin => atLeast_of_commanded reports hstatus hcommand hmin le_rfl (by omega)

/-- The test double reports truly. -/
theorem reports_fakeBackend :
    Reports fakeBackend fun duty hardware =>
      ∃ current, hardware.current.dutyPercent = some current ∧ duty ≤ current where
  status := by
    intro hardware after status duty hstatus hduty _
    cases hstatus
    exact ⟨duty, hduty, le_rfl⟩
  command := by
    intro percent hardware after readback hset
    obtain ⟨current, broken⟩ := hardware
    cases broken with
    | true => cases hset
    | false =>
        cases hset
        exact ⟨_, rfl, le_rfl⟩
  weaken := by
    rintro high low hardware ⟨current, hcurrent, hhigh⟩ hlow
    exact ⟨current, hcurrent, hlow.trans hhigh⟩

/-- A hot tick opens an incident, another controller lowers the fans to 30%, and the
next tick in the cooling band brings them back to half duty. -/
theorem half_after_lowered :
    ∃ current, (finalState (step fakeBackend)
        (init ⟨readingStatus (degrees 90) (degrees 40) (some 22), false⟩
          (SafetyPolicy.fresh fun _ => .stored))
        [.tick (.ofInt 100),
          .disturb fun _ => ⟨readingStatus (degrees 65) (degrees 40) (some 30), false⟩,
          .tick (.ofInt 105)]).hardware.current.dutyPercent = some current ∧
      50 ≤ current := by
  have hkept := incident_keeps_half reports_fakeBackend (SafetyPolicy.init_fresh _) (fun _ => rfl)
    ⟨readingStatus (degrees 90) (degrees 40) (some 22), false⟩
    [.tick (.ofInt 100),
      .disturb fun _ => ⟨readingStatus (degrees 65) (degrees 40) (some 30), false⟩,
      .tick (.ofInt 105)] [_, _] _ [] rfl
    (.inl (.inr ⟨[], _, [_], rfl, ⟨_, rfl, _, _, rfl, by decide⟩, ?_⟩)) ?_ 50 rfl
  · rcases hkept with ⟨-, hcurrent⟩ | ⟨status, known, hread, hband, -⟩
    · exact hcurrent
    · cases hread
      exact absurd hband (by decide)
  · intro record hmem
    rw [List.mem_singleton.mp hmem]
    rintro ⟨event, hevent, -⟩
    cases hevent
  · rintro ⟨event, hevent, hcloses⟩
    cases hevent
    exact absurd hcloses (by decide)

/-- The command of the tick that opens the incident raises and then the sources fail:
the next tick holds 22%. -/
theorem not_incident_keeps_half :
    ¬ ∀ (hardware : FakeHardware) (events : List (ServiceEvent FakeHardware))
        (earlier later : List (ServiceRecord FakeHardware)) (record : ServiceRecord FakeHardware),
      records (step fakeBackend) (init hardware (SafetyPolicy.fresh fun _ => .stored)) events =
        earlier ++ record :: later →
      IncidentOpen fakeBackend (SafetyPolicy.fresh fun _ => .stored) earlier ∨
        Opens fakeBackend record → ¬ Closes fakeBackend record →
      ∀ duty, record.outcome.effectiveDuty = some duty → 50 ≤ duty := by
  intro hall
  have hhalf := hall ⟨readingStatus (degrees 90) (degrees 40) (some 22), true⟩
    [.tick (.ofInt 100),
      .disturb fun _ => ⟨readingStatus none none (some 22) false, false⟩,
      .tick (.ofInt 105)] [_, _] [] _ rfl
    (.inl (.inr ⟨[], _, [_], rfl, ⟨_, rfl, _, _, rfl, by decide⟩, ?_⟩)) ?_ 22 rfl
  · exact absurd hhalf (by decide)
  · intro record hmem
    rw [List.mem_singleton.mp hmem]
    rintro ⟨event, hevent, -⟩
    cases hevent
  · rintro ⟨event, hevent, hcloses⟩
    cases hevent
    exact absurd hcloses (by decide)

end ControlService

end TrueFan
