/-
# One call of the service

A call of the service is a call of the backend, a call of the policy and, unless
the hardware already reports the duty, a second call of the backend. These lemmas
say what the call comes to for each way the three can end; nothing else about the
service is needed elsewhere.
-/

import TrueFan.Service.Basic

namespace TrueFan

open Python

namespace ControlService

variable {Hardware : Type} {backend : FanBackend Hardware} {clock : Clock}

section OnPart

variable {α : Type} {value : α} {error : Failure} {service : ControlService Hardware}

theorem onBackend_of_ok {method : EStateM Failure Hardware α} {hardware : Hardware}
    (h : method service.hardware = .ok value hardware) :
    onBackend method service = .ok value { service with hardware } :=
  zoom_of_ok h

theorem onBackend_of_error {method : EStateM Failure Hardware α} {hardware : Hardware}
    (h : method service.hardware = .error error hardware) :
    onBackend method service = .error error { service with hardware } :=
  zoom_of_error h

/-- What comes after a call of the backend sees the hardware as the call left it. -/
theorem bind_onBackend {β : Type} (method : EStateM Failure Hardware α)
    (next : α → Method Hardware β) (service : ControlService Hardware) :
    (onBackend method >>= next) service =
      match method service.hardware with
      | .ok value hardware => next value { service with hardware }
      | .error error hardware => .error error { service with hardware } := by
  cases hmethod : method service.hardware with
  | ok value hardware => rw [bind_of_ok (onBackend_of_ok hmethod)]
  | error error hardware => rw [bind_of_error (onBackend_of_error hmethod)]

theorem onPolicy_of_ok {method : SafetyPolicy.Method α} {policy : SafetyPolicy}
    (h : method service.policy = .ok value policy) :
    onPolicy method service = .ok value { service with policy } :=
  zoom_of_ok h

theorem onPolicy_of_error {method : SafetyPolicy.Method α} {policy : SafetyPolicy}
    (h : method service.policy = .error error policy) :
    onPolicy method service = .error error { service with policy } :=
  zoom_of_error h

end OnPart

/-- The service once a snapshot is published. -/
def published (backend : BackendStatus) (safety : SafetyDecision)
    (service : ControlService Hardware) : ControlService Hardware :=
  { service with lastStatus := some { backend, safety, thresholds }, lastStatusError := none }

/-- The service once a transition is logged and the snapshot is published. -/
def reported (before : BackendStatus) (decision : SafetyDecision) (readback : BackendStatus)
    (service : ControlService Hardware) : ControlService Hardware :=
  published readback decision (resultState (logTransition before decision readback service))

@[simp]
theorem published_policy (status : BackendStatus) (safety : SafetyDecision)
    (service : ControlService Hardware) :
    (published status safety service).policy = service.policy := rfl

@[simp]
theorem reported_hardware (before : BackendStatus) (decision : SafetyDecision)
    (readback : BackendStatus) (service : ControlService Hardware) :
    (reported before decision readback service).hardware = service.hardware := by
  show (if _ then service else _ : ControlService Hardware).hardware = service.hardware
  split
  · rfl
  · rfl

@[simp]
theorem reported_policy (before : BackendStatus) (decision : SafetyDecision)
    (readback : BackendStatus) (service : ControlService Hardware) :
    (reported before decision readback service).policy = service.policy := by
  show (if _ then service else _ : ControlService Hardware).policy = service.policy
  split
  · rfl
  · rfl

section Refresh

variable {service : ControlService Hardware} {before : BackendStatus} {hardware : Hardware}
  {decision : SafetyDecision} {policy : SafetyPolicy} {error : Failure}

theorem refresh_of_status_error
    (hstatus : backend.status service.hardware = .error error hardware) :
    refresh backend clock service = .error error { service with hardware } :=
  bind_of_error (onBackend_of_error hstatus)

theorem refresh_of_evaluate_error
    (hstatus : backend.status service.hardware = .ok before hardware)
    (hevaluate : SafetyPolicy.evaluate clock before none none service.policy =
      .error error policy) :
    refresh backend clock service = .error error { service with hardware, policy } := by
  have hpolicy : onPolicy (SafetyPolicy.evaluate clock before none none)
      { service with hardware } = .error error { service with hardware, policy } :=
    onPolicy_of_error hevaluate
  rw [refresh, bind_of_ok (onBackend_of_ok hstatus), bind_of_error hpolicy]

/-- The rest of a tick whose evaluation returned. -/
theorem refresh_of_evaluate_ok
    (hstatus : backend.status service.hardware = .ok before hardware)
    (hevaluate : SafetyPolicy.evaluate clock before none none service.policy =
      .ok decision policy) :
    refresh backend clock service =
      if InPlace before decision.effectiveDuty then
        .ok { backend := before, safety := decision, thresholds }
          (reported before decision before { service with hardware, policy })
      else
        match backend.setDutyPercent decision.effectiveDuty hardware with
        | .ok readback commanded =>
            .ok { backend := readback, safety := decision, thresholds }
              (reported before decision readback { service with hardware := commanded, policy })
        | .error error commanded =>
            .error error { service with hardware := commanded, policy } := by
  have hpolicy : onPolicy (SafetyPolicy.evaluate clock before none none)
      { service with hardware } = .ok decision { service with hardware, policy } :=
    onPolicy_of_ok hevaluate
  rw [refresh, bind_of_ok (onBackend_of_ok hstatus), bind_of_ok hpolicy]
  by_cases hplace : InPlace before decision.effectiveDuty
  · rw [if_pos hplace, if_pos hplace]
    rfl
  · rw [if_neg hplace, if_neg hplace, bind_onBackend]
    dsimp only
    cases backend.setDutyPercent decision.effectiveDuty hardware with
    | ok readback commanded => rfl
    | error error commanded => rfl

/-- A refresh that returned: what it read, what was decided, and whether the duty
was in place or commanded. -/
theorem refresh_eq_ok {payload : StatusPayload} {after : ControlService Hardware}
    (h : refresh backend clock service = .ok payload after) :
    ∃ before hardware policy,
      backend.status service.hardware = .ok before hardware ∧
      SafetyPolicy.evaluate clock before none none service.policy = .ok payload.safety policy ∧
      after.policy = policy ∧
      ((InPlace before payload.safety.effectiveDuty ∧ payload.backend = before ∧
          after.hardware = hardware) ∨
        (¬ InPlace before payload.safety.effectiveDuty ∧
          backend.setDutyPercent payload.safety.effectiveDuty hardware =
            .ok payload.backend after.hardware)) := by
  cases hstatus : backend.status service.hardware with
  | error error hardware =>
      rw [refresh_of_status_error hstatus] at h
      cases h
  | ok before hardware =>
      cases hevaluate : SafetyPolicy.evaluate clock before none none service.policy with
      | error error policy =>
          rw [refresh_of_evaluate_error hstatus hevaluate] at h
          cases h
      | ok decision policy =>
          rw [refresh_of_evaluate_ok hstatus hevaluate] at h
          split at h
          next hplace =>
            cases h
            exact ⟨before, hardware, policy, rfl, hevaluate, reported_policy _ _ _ _,
              .inl ⟨hplace, rfl, reported_hardware _ _ _ _⟩⟩
          next hplace =>
            split at h
            next readback commanded hset =>
              cases h
              refine ⟨before, hardware, policy, rfl, hevaluate, reported_policy _ _ _ _,
                .inr ⟨hplace, ?_⟩⟩
              rw [reported_hardware]
              exact hset
            next => cases h

/-- A refresh does to the policy what its evaluation does. -/
theorem refresh_policy (service : ControlService Hardware) :
    (resultState (refresh backend clock service)).policy =
      match backend.status service.hardware with
      | .ok before _ =>
          resultState (SafetyPolicy.evaluate clock before none none service.policy)
      | .error _ _ => service.policy := by
  cases hstatus : backend.status service.hardware with
  | error error hardware =>
      rw [refresh_of_status_error hstatus]
      rfl
  | ok before hardware =>
      cases hevaluate : SafetyPolicy.evaluate clock before none none service.policy with
      | error error policy =>
          rw [refresh_of_evaluate_error hstatus hevaluate]
          simp only [hevaluate, resultState]
      | ok decision policy =>
          rw [refresh_of_evaluate_ok hstatus hevaluate]
          simp only [hevaluate, resultState_ok]
          split
          · exact reported_policy _ _ _ _
          · split
            · exact reported_policy _ _ _ _
            · rfl

end Refresh

/-- A tick returns what its refresh returned. -/
theorem tick_eq_ok_iff {service after : ControlService Hardware} {payload : StatusPayload} :
    tick backend clock service = .ok payload after ↔
      refresh backend clock service = .ok payload after := by
  rw [tick]
  cases refresh backend clock service with
  | ok payload after => rfl
  | error error after => exact iff_of_false nofun nofun

/-- A tick that returned: the status it read, the row of the table it published, and
whether that duty was in place or commanded. -/
theorem tick_eq_ok {service after : ControlService Hardware} {payload : StatusPayload}
    (h : tick backend clock service = .ok payload after) :
    ∃ before hardware, backend.status service.hardware = .ok before hardware ∧
      payload.safety.effectiveDuty = before.band.duty service.policy.state.previousHot
        before.dutyPercent
        ((service.policy.state.liveOverride clock).map fun override => override.dutyPercent.val) ∧
      ((InPlace before payload.safety.effectiveDuty ∧ after.hardware = hardware) ∨
        (¬ InPlace before payload.safety.effectiveDuty ∧
          backend.setDutyPercent payload.safety.effectiveDuty hardware =
            .ok payload.backend after.hardware)) := by
  obtain ⟨before, hardware, policy, hstatus, hevaluate, -, hcommand⟩ :=
    refresh_eq_ok (tick_eq_ok_iff.mp h)
  have hdecision := (SafetyPolicy.evaluate_eq_ok hevaluate).1
  refine ⟨before, hardware, hstatus, congrArg SafetyDecision.effectiveDuty hdecision, ?_⟩
  rcases hcommand with ⟨hplace, -, hafter⟩ | hcommand
  · exact .inl ⟨hplace, hafter⟩
  · exact .inr hcommand

theorem tick_hardware (service : ControlService Hardware) :
    (resultState (tick backend clock service)).hardware =
      (resultState (refresh backend clock service)).hardware := by
  rw [tick]
  cases refresh backend clock service with
  | ok payload after => rfl
  | error error after => rfl

theorem tick_policy (service : ControlService Hardware) :
    (resultState (tick backend clock service)).policy =
      (resultState (refresh backend clock service)).policy := by
  rw [tick]
  cases refresh backend clock service with
  | ok payload after => rfl
  | error error after => rfl

/-! ## Requests -/

section RequestDuty

variable {service : ControlService Hardware} {before : BackendStatus} {hardware : Hardware}
  {decision : SafetyDecision} {policy : SafetyPolicy} {error : Failure}
  {dutyPercent ttlSeconds : Json}

theorem requestDuty_of_status_error
    (hstatus : backend.status service.hardware = .error error hardware) :
    requestDuty backend clock dutyPercent ttlSeconds service =
      .error error { service with hardware } :=
  bind_of_error (onBackend_of_error hstatus)

theorem requestDuty_of_refused
    (hstatus : backend.status service.hardware = .ok before hardware)
    (hrequest : SafetyPolicy.requestOverride clock before dutyPercent ttlSeconds service.policy =
      .error error policy) :
    requestDuty backend clock dutyPercent ttlSeconds service =
      .error error { service with hardware, policy } := by
  have hpolicy : onPolicy (SafetyPolicy.requestOverride clock before dutyPercent ttlSeconds)
      { service with hardware } = .error error { service with hardware, policy } :=
    onPolicy_of_error hrequest
  rw [requestDuty, bind_of_ok (onBackend_of_ok hstatus), bind_of_error hpolicy]

/-- The rest of a request whose override was accepted: the duty is commanded in
any case. -/
theorem requestDuty_of_accepted
    (hstatus : backend.status service.hardware = .ok before hardware)
    (hrequest : SafetyPolicy.requestOverride clock before dutyPercent ttlSeconds service.policy =
      .ok decision policy) :
    requestDuty backend clock dutyPercent ttlSeconds service =
      match backend.setDutyPercent decision.effectiveDuty hardware with
      | .ok readback commanded =>
          .ok (mutationResult dutyPercent decision readback)
            (published readback decision { service with hardware := commanded, policy })
      | .error error commanded =>
          .error error { service with hardware := commanded, policy } := by
  have hpolicy : onPolicy (SafetyPolicy.requestOverride clock before dutyPercent ttlSeconds)
      { service with hardware } = .ok decision { service with hardware, policy } :=
    onPolicy_of_ok hrequest
  rw [requestDuty, bind_of_ok (onBackend_of_ok hstatus), bind_of_ok hpolicy, bind_onBackend]
  dsimp only
  cases backend.setDutyPercent decision.effectiveDuty hardware with
  | ok readback commanded => rfl
  | error error commanded => rfl

/-- A request that returned: what it read, what was decided, how the command read back,
and the snapshot it published. -/
theorem requestDuty_eq_published {result : MutationResult} {after : ControlService Hardware}
    (h : requestDuty backend clock dutyPercent ttlSeconds service = .ok result after) :
    ∃ before hardware decision policy readback commanded,
      backend.status service.hardware = .ok before hardware ∧
      SafetyPolicy.requestOverride clock before dutyPercent ttlSeconds service.policy =
        .ok decision policy ∧
      backend.setDutyPercent decision.effectiveDuty hardware = .ok readback commanded ∧
      result = mutationResult dutyPercent decision readback ∧
      after = published readback decision { service with hardware := commanded, policy } := by
  cases hstatus : backend.status service.hardware with
  | error error hardware =>
      rw [requestDuty_of_status_error hstatus] at h
      cases h
  | ok before hardware =>
      cases hrequest : SafetyPolicy.requestOverride clock before dutyPercent ttlSeconds
          service.policy with
      | error error policy =>
          rw [requestDuty_of_refused hstatus hrequest] at h
          cases h
      | ok decision policy =>
          rw [requestDuty_of_accepted hstatus hrequest] at h
          split at h
          next readback commanded hset =>
            cases h
            exact ⟨before, hardware, decision, policy, readback, commanded, rfl, hrequest, hset,
              rfl, rfl⟩
          next => cases h

/-- A request that returned: what it read, what was decided and how the command
read back. -/
theorem requestDuty_eq_ok {result : MutationResult} {after : ControlService Hardware}
    (h : requestDuty backend clock dutyPercent ttlSeconds service = .ok result after) :
    ∃ before hardware decision policy readback,
      backend.status service.hardware = .ok before hardware ∧
      SafetyPolicy.requestOverride clock before dutyPercent ttlSeconds service.policy =
        .ok decision policy ∧
      after.policy = policy ∧
      backend.setDutyPercent decision.effectiveDuty hardware = .ok readback after.hardware ∧
      result = mutationResult dutyPercent decision readback := by
  obtain ⟨before, hardware, decision, policy, readback, commanded, hstatus, hrequest, hset,
    hresult, rfl⟩ := requestDuty_eq_published h
  exact ⟨before, hardware, decision, policy, readback, hstatus, hrequest, rfl, hset, hresult⟩

/-- A request does to the policy what its override request does. -/
theorem requestDuty_policy (service : ControlService Hardware) :
    (resultState (requestDuty backend clock dutyPercent ttlSeconds service)).policy =
      match backend.status service.hardware with
      | .ok before _ =>
          resultState
            (SafetyPolicy.requestOverride clock before dutyPercent ttlSeconds service.policy)
      | .error _ _ => service.policy := by
  cases hstatus : backend.status service.hardware with
  | error error hardware =>
      rw [requestDuty_of_status_error hstatus]
      rfl
  | ok before hardware =>
      cases hrequest : SafetyPolicy.requestOverride clock before dutyPercent ttlSeconds
          service.policy with
      | error error policy =>
          rw [requestDuty_of_refused hstatus hrequest]
          simp only [hrequest, resultState]
      | ok decision policy =>
          rw [requestDuty_of_accepted hstatus hrequest]
          simp only [hrequest, resultState_ok]
          split
          · exact published_policy _ _ _
          · rfl

end RequestDuty

theorem requestProfile_of_unknown {profile : String} (hprofile : profiles.lookup profile = none)
    (ttlSeconds : Json) (service : ControlService Hardware) :
    requestProfile backend clock profile ttlSeconds service =
      .error (.valueError "unknown_profile") service := by
  rw [requestProfile, hprofile]
  rfl

/-- A profile is a request for its duty. -/
theorem requestProfile_of_known {profile : String} {duty : ℤ}
    (hprofile : profiles.lookup profile = some duty) (ttlSeconds : Json)
    (service : ControlService Hardware) :
    requestProfile backend clock profile ttlSeconds service =
      match requestDuty backend clock (.int duty) ttlSeconds service with
      | .ok result after => .ok { result with profile := some profile } after
      | .error error after => .error error after := by
  rw [requestProfile, hprofile]
  dsimp only
  rw [bind_apply]
  cases requestDuty backend clock (.int duty) ttlSeconds service with
  | ok result after => rfl
  | error error after => rfl

/-- A profile does to the service what the request for its duty does. -/
theorem resultState_requestProfile {profile : String} {duty : ℤ}
    (hprofile : profiles.lookup profile = some duty) (ttlSeconds : Json)
    (service : ControlService Hardware) :
    resultState (requestProfile backend clock profile ttlSeconds service) =
      resultState (requestDuty backend clock (.int duty) ttlSeconds service) := by
  rw [requestProfile_of_known hprofile]
  cases requestDuty backend clock (.int duty) ttlSeconds service with
  | ok result after => rfl
  | error error after => rfl

/-- A profile that was accepted is known, and the request for its duty was accepted. -/
theorem requestProfile_eq_ok {profile : String} {ttlSeconds : Json}
    {service after : ControlService Hardware} {result : MutationResult}
    (h : requestProfile backend clock profile ttlSeconds service = .ok result after) :
    ∃ duty answer, profiles.lookup profile = some duty ∧
      requestDuty backend clock (.int duty) ttlSeconds service = .ok answer after ∧
      result = { answer with profile := some profile } := by
  cases hprofile : profiles.lookup profile with
  | none =>
      rw [requestProfile_of_unknown hprofile] at h
      cases h
  | some duty =>
      rw [requestProfile, hprofile] at h
      obtain ⟨answer, between, hrequest, hreturned⟩ := bind_eq_ok h
      cases hreturned
      exact ⟨duty, answer, rfl, hrequest, rfl⟩

/-- A known profile raises what the request for its duty raises. -/
theorem requestProfile_eq_error {profile : String} {duty : ℤ}
    (hprofile : profiles.lookup profile = some duty) {ttlSeconds : Json}
    {service after : ControlService Hardware} {error : Failure}
    (h : requestProfile backend clock profile ttlSeconds service = .error error after) :
    requestDuty backend clock (.int duty) ttlSeconds service = .error error after := by
  rw [requestProfile_of_known hprofile] at h
  split at h
  next => cases h
  next hrequest =>
    cases h
    exact hrequest

end ControlService

end TrueFan
