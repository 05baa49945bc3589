/-
# Histories of a policy

A policy sees evaluations, override requests and restarts of its process, in any
order. While state-file writes succeed, what one such event does to the control
state is one of three things: nothing, the update every evaluation makes, or that
update followed by a new override. `Change` states these three over the control
state alone, without a file; `step_change` proves that the policy with its file
refines it, and the histories studied elsewhere are histories of `Change`.
-/

import TrueFan.Foundations.Run
import TrueFan.Policy.Persistence

namespace TrueFan

open Python Foundations

/-- One thing that happens to a policy. -/
inductive PolicyEvent
  | evaluate (clock : Clock) (status : BackendStatus) (requestedDuty : Option ℤ)
      (now : Option Clock)
  | request (clock : Clock) (status : BackendStatus) (dutyPercent ttlSeconds : Json)
  | restart

/-- How it ends. -/
inductive PolicyOutcome
  | decided (decision : SafetyDecision)
  | raised (error : Failure)
  | started
  deriving DecidableEq

namespace PolicyEvent

/-- The time and the status of the evaluation an event comes to. A request that
does not pass validation comes to none. -/
def evaluation : PolicyEvent → Option (Clock × BackendStatus)
  | .evaluate clock status _ now => some (now.getD clock, status)
  | .request clock status dutyPercent ttlSeconds =>
      match SafetyPolicy.validDuty dutyPercent, SafetyPolicy.validTtl ttlSeconds with
      | some _, some _ => some (clock, status)
      | _, _ => none
  | .restart => none

/-- What a request that passes validation asks for, and when. -/
def asked : PolicyEvent → Option (Clock × DutyPercent × TtlSeconds)
  | .evaluate _ _ _ _ => none
  | .request clock _ dutyPercent ttlSeconds =>
      match SafetyPolicy.validDuty dutyPercent, SafetyPolicy.validTtl ttlSeconds with
      | some duty, some ttl => some (clock, duty, ttl)
      | _, _ => none
  | .restart => none

theorem evaluation_of_invalid {dutyPercent ttlSeconds : Json}
    (h : SafetyPolicy.validDuty dutyPercent = none ∨ SafetyPolicy.validTtl ttlSeconds = none)
    (clock : Clock) (status : BackendStatus) :
    (request clock status dutyPercent ttlSeconds).evaluation = none := by
  rw [evaluation]
  rcases h with h | h
  · simp [h]
  · simp [h]

theorem evaluation_of_valid {dutyPercent ttlSeconds : Json} {duty : DutyPercent} {ttl : TtlSeconds}
    (hduty : SafetyPolicy.validDuty dutyPercent = some duty)
    (httl : SafetyPolicy.validTtl ttlSeconds = some ttl) (clock : Clock) (status : BackendStatus) :
    (request clock status dutyPercent ttlSeconds).evaluation = some (clock, status) := by
  simp [evaluation, hduty, httl]

theorem asked_of_valid {dutyPercent ttlSeconds : Json} {duty : DutyPercent} {ttl : TtlSeconds}
    (hduty : SafetyPolicy.validDuty dutyPercent = some duty)
    (httl : SafetyPolicy.validTtl ttlSeconds = some ttl) (clock : Clock) (status : BackendStatus) :
    (request clock status dutyPercent ttlSeconds).asked = some (clock, duty, ttl) := by
  simp [asked, hduty, httl]

end PolicyEvent

namespace SafetyPolicy

/-- A call of a method, as an outcome and the policy it leaves. -/
def outcome : EStateM.Result Failure SafetyPolicy SafetyDecision → PolicyOutcome × SafetyPolicy
  | .ok decision policy => (.decided decision, policy)
  | .error error policy => (.raised error, policy)

/-- One event. A process whose load raises does not come up; the memory of the
one before stands in for it, and `step_durable` shows no run below meets it. -/
def step (policy : SafetyPolicy) : PolicyEvent → PolicyOutcome × SafetyPolicy
  | .evaluate clock status requestedDuty now =>
      outcome (evaluate clock status requestedDuty now policy)
  | .request clock status dutyPercent ttlSeconds =>
      outcome (requestOverride clock status dutyPercent ttlSeconds policy)
  | .restart =>
      match init policy.store with
      | .ok started => (.started, started)
      | .error error => (.raised error, policy)

theorem outcome_ok (decision : SafetyDecision) (policy : SafetyPolicy) :
    outcome (.ok decision policy) = (.decided decision, policy) := rfl

theorem outcome_error (error : Failure) (policy : SafetyPolicy) :
    outcome (.error error policy) = (.raised error, policy) := rfl

theorem outcome_eq_decided {result : EStateM.Result Failure SafetyPolicy SafetyDecision}
    {decision : SafetyDecision} {policy : SafetyPolicy}
    (h : outcome result = (.decided decision, policy)) : result = .ok decision policy := by
  cases result with
  | ok decision' policy' =>
      cases h
      rfl
  | error error policy' => cases h

theorem step_evaluate (policy : SafetyPolicy) (clock : Clock) (status : BackendStatus)
    (requestedDuty : Option ℤ) (now : Option Clock) :
    step policy (.evaluate clock status requestedDuty now) =
      outcome (evaluate clock status requestedDuty now policy) := rfl

theorem step_request (policy : SafetyPolicy) (clock : Clock) (status : BackendStatus)
    (dutyPercent ttlSeconds : Json) :
    step policy (.request clock status dutyPercent ttlSeconds) =
      outcome (requestOverride clock status dutyPercent ttlSeconds policy) := rfl

theorem step_restart (policy : SafetyPolicy) :
    step policy .restart =
      match init policy.store with
      | .ok started => (.started, started)
      | .error error => (.raised error, policy) := rfl

abbrev PolicyRecord := Record SafetyPolicy PolicyEvent PolicyOutcome

/-- Writes succeed, and the file holds what memory holds. -/
structure Durable (policy : SafetyPolicy) : Prop where
  writes : policy.WritesSucceed
  synced : policy.Synced

/-- A process that came up has loaded its store. -/
theorem init_eq_ok {store : ControlStateStore} {policy : SafetyPolicy}
    (started : init store = .ok policy) :
    policy.store = store ∧ store.load = .ok policy.state := by
  rw [init] at started
  cases hload : store.load with
  | error error =>
      rw [hload] at started
      cases started
  | ok state =>
      rw [hload] at started
      cases started
      exact ⟨rfl, rfl⟩

theorem store_of_init {store : ControlStateStore} {policy : SafetyPolicy}
    (started : init store = .ok policy) : policy.store = store :=
  (init_eq_ok started).1

/-- A process that came up has memory and file in agreement. -/
theorem synced_of_init {store : ControlStateStore} {policy : SafetyPolicy}
    (started : init store = .ok policy) : policy.Synced := by
  obtain ⟨rfl, hload⟩ := init_eq_ok started
  exact hload

/-- A process that starts from an agreeing file comes up with the same policy. -/
theorem init_of_synced {policy : SafetyPolicy} (synced : policy.Synced) :
    init policy.store = .ok policy := by
  rw [init, show policy.store.load = .ok policy.state from synced]
  rfl

namespace Durable

variable {policy : SafetyPolicy}

theorem stored (durable : policy.Durable) (state : ControlState) :
    (policy.stored state).Durable :=
  ⟨durable.writes, synced_stored policy state⟩

theorem commit (durable : policy.Durable) (state : ControlState) :
    commit state policy = .ok () (policy.stored state) :=
  commit_of_stored (durable.writes _) state

theorem settle (durable : policy.Durable) (state : ControlState) :
    ∃ after, settle state policy = .ok () after ∧ after.state = state ∧ after.Durable := by
  rcases settle_cases state policy with ⟨hstate, heq⟩ | ⟨-, -, heq⟩ | ⟨-, hraised, -⟩
  · exact ⟨policy, heq, hstate, durable⟩
  · exact ⟨policy.stored state, heq, rfl, durable.stored state⟩
  · have hstored : policy.nextWrite = .stored := durable.writes _
    rw [hstored] at hraised
    cases hraised

/-- An evaluation returns the row of the table and leaves the evaluated state. -/
theorem evaluate (durable : policy.Durable) (clock : Clock) (status : BackendStatus)
    (requestedDuty : Option ℤ) (now : Option Clock) :
    ∃ after, evaluate clock status requestedDuty now policy =
        .ok (tableDecision policy.state.previousHot status requestedDuty
          (policy.state.liveOverride (now.getD clock))) after ∧
      after.state = policy.state.evaluated (now.getD clock) status ∧ after.Durable := by
  obtain ⟨between, hdrop, -, hbetween⟩ := durable.settle (policy.state.dropExpired (now.getD clock))
  obtain ⟨after, hlatch, hstate, hafter⟩ :=
    hbetween.settle (policy.state.evaluated (now.getD clock) status)
  refine ⟨after, ?_, hstate, hafter⟩
  rw [evaluate_apply, bind_of_ok hdrop, bind_of_ok hlatch]
  rfl

end Durable

/-! ## The three changes -/

/-- What one event does to the control state while writes succeed. -/
inductive Change : ControlState → PolicyEvent → PolicyOutcome → ControlState → Prop
  /-- Nothing is evaluated: a restart, or a request that does not pass validation. -/
  | idle {state event outcome} (unevaluated : event.evaluation = none) :
      Change state event outcome state
  /-- An evaluation, or a request that is evaluated and then refused. -/
  | evaluated {state event outcome now status} (evaluation : event.evaluation = some (now, status))
      (refused : event.asked = none ∨ ∃ error, outcome = .raised error) :
      Change state event outcome (state.evaluated now status)
  /-- An accepted request. -/
  | granted {state event now status duty ttl decision}
      (evaluation : event.evaluation = some (now, status))
      (asked : event.asked = some (now, duty, ttl)) :
      Change state event (.decided decision)
        (state.granted now status duty ttl)

/-- A request that passes validation is evaluated and refused, or it is granted. -/
theorem Durable.request {policy : SafetyPolicy} (durable : policy.Durable)
    {dutyPercent ttlSeconds : Json} {duty : DutyPercent} {ttl : TtlSeconds}
    (hduty : validDuty dutyPercent = some duty) (httl : validTtl ttlSeconds = some ttl)
    (clock : Clock) (status : BackendStatus) :
    (∃ error after, refusal status duty.val (tableDecision policy.state.previousHot status
          (some duty.val) (policy.state.liveOverride clock)) = some error ∧
      requestOverride clock status dutyPercent ttlSeconds policy = .error error after ∧
      after.state = policy.state.evaluated clock status ∧ after.Durable) ∨
    (∃ decision after, refusal status duty.val (tableDecision policy.state.previousHot status
          (some duty.val) (policy.state.liveOverride clock)) = none ∧
      requestOverride clock status dutyPercent ttlSeconds policy = .ok decision after ∧
      after.state = policy.state.granted clock status duty ttl ∧ after.Durable) := by
  obtain ⟨between, heq, hstate, hbetween⟩ :=
    durable.evaluate clock status (some duty.val) (some clock)
  rw [requestOverride_apply hduty httl, bind_of_ok heq, Option.getD_some]
  generalize tableDecision _ _ _ _ = decision
  cases refusal status duty.val decision with
  | some error => exact .inl ⟨error, between, rfl, rfl, hstate, hbetween⟩
  | none =>
      have hgranted : { between.state with
          override := some ⟨duty, .float (expiresAt clock ttl)⟩ } =
            policy.state.granted clock status duty ttl := by
        rw [hstate]
        rfl
      refine .inr ⟨{ decision with overrideExpiresAt := some (expiresAt clock ttl) },
        between.stored (policy.state.granted clock status duty ttl), rfl, ?_, rfl,
        hbetween.stored _⟩
      dsimp only
      rw [get_bind_apply, hgranted, bind_of_ok (hbetween.commit _)]
      rfl

/-- While writes succeed a step is one of the three changes, and memory and file
stay in agreement. -/
theorem step_change {policy : SafetyPolicy} (durable : policy.Durable) (event : PolicyEvent) :
    Change policy.state event (step policy event).1 (step policy event).2.state ∧
      (step policy event).2.Durable := by
  cases event with
  | restart =>
      rw [step_restart, init_of_synced durable.synced]
      exact ⟨.idle rfl, durable⟩
  | evaluate clock status requestedDuty now =>
      obtain ⟨after, heq, hstate, hafter⟩ := durable.evaluate clock status requestedDuty now
      rw [step_evaluate, heq, outcome_ok, hstate]
      exact ⟨.evaluated rfl (.inl rfl), hafter⟩
  | request clock status dutyPercent ttlSeconds =>
      rw [step_request]
      by_cases hvalid : validDuty dutyPercent = none ∨ validTtl ttlSeconds = none
      · obtain ⟨message, heq⟩ := requestOverride_invalid hvalid clock status policy
        rw [heq, outcome_error]
        exact ⟨.idle (PolicyEvent.evaluation_of_invalid hvalid clock status), durable⟩
      · obtain ⟨hduty, httl⟩ := not_or.mp hvalid
        obtain ⟨duty, hduty⟩ := Option.ne_none_iff_exists'.mp hduty
        obtain ⟨ttl, httl⟩ := Option.ne_none_iff_exists'.mp httl
        have hevaluation := PolicyEvent.evaluation_of_valid hduty httl clock status
        have hasked := PolicyEvent.asked_of_valid hduty httl clock status
        rcases durable.request hduty httl clock status with
          ⟨error, after, -, heq, hstate, hafter⟩ | ⟨decision, after, -, heq, hstate, hafter⟩
        · rw [heq, outcome_error, hstate]
          exact ⟨.evaluated hevaluation (.inr ⟨error, rfl⟩), hafter⟩
        · rw [heq, outcome_ok, hstate]
          exact ⟨.granted hevaluation hasked, hafter⟩

theorem step_durable (policy : SafetyPolicy) (event : PolicyEvent) (durable : policy.Durable) :
    (step policy event).2.Durable :=
  (step_change durable event).2

end SafetyPolicy

end TrueFan
