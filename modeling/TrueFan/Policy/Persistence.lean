/-
# What a call leaves in memory and on disk

Every change of the control state is a change in memory followed by one write of
the whole state, and a call that changes nothing writes nothing. `settle` is that
operation. `evaluate` settles twice, first the override and then the latch, and an
accepted request commits once more; so whatever happens to the file, what a call
leaves behind is read off the states it settled on.
-/

import TrueFan.Policy.SafetyTable

namespace TrueFan

open Python

namespace ControlState

/-- The stored override, unless it has run out. -/
def liveOverride (now : Clock) (state : ControlState) : Option Override :=
  state.override.filter fun override => decide (now < override.expiry)

/-- The state once an override that has run out is dropped. -/
def dropExpired (now : Clock) (state : ControlState) : ControlState :=
  { state with override := state.liveOverride now }

/-- The state an evaluation settles on. -/
def evaluated (now : Clock) (status : BackendStatus) (state : ControlState) : ControlState where
  previousHot := status.band.nextLatch state.previousHot
  override := state.liveOverride now

/-- The state an accepted request settles on: the evaluated one with an override
until `ttl` seconds from now. -/
def granted (now : Clock) (status : BackendStatus) (duty : DutyPercent) (ttl : TtlSeconds)
    (state : ControlState) : ControlState where
  previousHot := status.band.nextLatch state.previousHot
  override := some ⟨duty, .float (SafetyPolicy.expiresAt now ttl)⟩

/-- The stored override has run out. -/
def Expired (now : Clock) (state : ControlState) : Prop :=
  ∃ override, state.override = some override ∧ override.expiry ≤ now

theorem dropExpired_eq_self_iff {now : Clock} {state : ControlState} :
    state.dropExpired now = state ↔ ¬ state.Expired now := by
  obtain ⟨previousHot, override⟩ := state
  rw [dropExpired, liveOverride, Expired]
  cases override with
  | none => simp
  | some override =>
      by_cases h : now < override.expiry
      · simp [Option.filter, h]
      · simp [Option.filter, h, not_lt.mp h]

instance (now : Clock) (state : ControlState) : Decidable (state.Expired now) :=
  decidable_of_iff (¬ state.dropExpired now = state) (by rw [dropExpired_eq_self_iff, not_not])

theorem evaluated_eq_dropExpired_iff {now : Clock} {status : BackendStatus}
    {state : ControlState} :
    state.evaluated now status = state.dropExpired now ↔
      status.band.nextLatch state.previousHot = state.previousHot := by
  rw [evaluated, dropExpired]
  simp

end ControlState

namespace SafetyPolicy

/-- No state-file write raises. -/
def WritesSucceed (policy : SafetyPolicy) : Prop :=
  ∀ attempt, policy.store.outcomes attempt = .stored

/-- The file holds what memory holds. -/
def Synced (policy : SafetyPolicy) : Prop := policy.store.load = .ok policy.state

/-- How the next write turns out. -/
def nextWrite (policy : SafetyPolicy) : WriteOutcome :=
  policy.store.outcomes policy.store.attempts

/-- The policy after a state was written. -/
def stored (policy : SafetyPolicy) (state : ControlState) : SafetyPolicy where
  state := state
  store := { policy.store with
    file := .document state.toJson
    attempts := policy.store.attempts + 1 }

/-- The policy after a state was changed in memory and its write raised. -/
def unstored (policy : SafetyPolicy) (state : ControlState) : SafetyPolicy where
  state := state
  store := { policy.store with attempts := policy.store.attempts + 1 }

@[simp]
theorem stored_state (policy : SafetyPolicy) (state : ControlState) :
    (policy.stored state).state = state := rfl

@[simp]
theorem unstored_state (policy : SafetyPolicy) (state : ControlState) :
    (policy.unstored state).state = state := rfl

theorem synced_stored (policy : SafetyPolicy) (state : ControlState) :
    (policy.stored state).Synced :=
  ControlStateStore.loadFile_toJson state

/-- Change the state in memory, then write it. -/
def commit (state : ControlState) : Method Unit := fun policy => save { policy with state }

theorem commit_apply (state : ControlState) (policy : SafetyPolicy) :
    commit state policy =
      match policy.nextWrite with
      | .stored => .ok () (policy.stored state)
      | .raised => .error .osError (policy.unstored state) := by
  rw [commit, save, zoom, ControlStateStore.save, nextWrite]
  cases policy.store.outcomes policy.store.attempts <;> rfl

theorem commit_of_stored {policy : SafetyPolicy} (h : policy.nextWrite = .stored)
    (state : ControlState) : commit state policy = .ok () (policy.stored state) := by
  rw [commit_apply, h]

theorem commit_of_raised {policy : SafetyPolicy} (h : policy.nextWrite = .raised)
    (state : ControlState) : commit state policy = .error .osError (policy.unstored state) := by
  rw [commit_apply, h]

/-- A commit that returned has stored the state. -/
theorem commit_eq_ok {state : ControlState} {policy after : SafetyPolicy}
    (h : commit state policy = .ok () after) : after = policy.stored state := by
  cases hwrite : policy.nextWrite with
  | stored =>
      rw [commit_of_stored hwrite] at h
      cases h
      rfl
  | raised =>
      rw [commit_of_raised hwrite] at h
      cases h

/-- Bring memory to a state, and write it if that is a change. -/
def settle (state : ControlState) : Method Unit := fun policy =>
  if policy.state = state then .ok () policy else commit state policy

theorem settle_of_eq {state : ControlState} {policy : SafetyPolicy} (h : policy.state = state) :
    settle state policy = .ok () policy := if_pos h

theorem settle_of_ne {state : ControlState} {policy : SafetyPolicy} (h : policy.state ≠ state) :
    settle state policy = commit state policy := if_neg h

/-- The three ways a settling call ends. -/
theorem settle_cases (state : ControlState) (policy : SafetyPolicy) :
    (policy.state = state ∧ settle state policy = .ok () policy) ∨
    (policy.state ≠ state ∧ policy.nextWrite = .stored ∧
      settle state policy = .ok () (policy.stored state)) ∨
    (policy.state ≠ state ∧ policy.nextWrite = .raised ∧
      settle state policy = .error .osError (policy.unstored state)) := by
  by_cases h : policy.state = state
  · exact .inl ⟨h, settle_of_eq h⟩
  · cases hwrite : policy.nextWrite with
    | stored => exact .inr (.inl ⟨h, rfl, by rw [settle_of_ne h, commit_of_stored hwrite]⟩)
    | raised => exact .inr (.inr ⟨h, rfl, by rw [settle_of_ne h, commit_of_raised hwrite]⟩)

/-- Memory ends in the state to settle on, whether or not the write raised. -/
theorem settle_state (state : ControlState) (policy : SafetyPolicy) :
    (resultState (settle state policy)).state = state := by
  rcases settle_cases state policy with ⟨h, heq⟩ | ⟨-, -, heq⟩ | ⟨-, -, heq⟩ <;> rw [heq]
  · exact h
  · rfl
  · rfl

/-- A settling call that returned found the state or stored it. -/
theorem settle_eq_ok {state : ControlState} {policy after : SafetyPolicy}
    (h : settle state policy = .ok () after) :
    (policy.state = state ∧ after = policy) ∨
      (policy.state ≠ state ∧ after = policy.stored state) := by
  by_cases hstate : policy.state = state
  · rw [settle_of_eq hstate] at h
    cases h
    exact .inl ⟨hstate, rfl⟩
  · rw [settle_of_ne hstate] at h
    exact .inr ⟨hstate, commit_eq_ok h⟩

/-! ## The methods as settling calls -/

theorem activeOverride_apply (now : Clock) (policy : SafetyPolicy) :
    activeOverride now policy = (do
      settle (policy.state.dropExpired now)
      return policy.state.liveOverride now) policy := by
  obtain ⟨⟨previousHot, override⟩, store⟩ := policy
  rw [activeOverride_eq, get_bind_apply]
  cases override with
  | none =>
      have hsettle : settle (ControlState.dropExpired now ⟨previousHot, none⟩)
          ⟨⟨previousHot, none⟩, store⟩ = .ok () ⟨⟨previousHot, none⟩, store⟩ := settle_of_eq rfl
      rw [bind_of_ok hsettle]
      rfl
  | some override =>
      by_cases h : override.expiry ≤ now
      · have hexpired : ControlState.Expired now ⟨previousHot, some override⟩ :=
          ⟨override, rfl, h⟩
        have hlive : ControlState.liveOverride now ⟨previousHot, some override⟩ = none := by
          simp [ControlState.liveOverride, h]
        have hne : (⟨previousHot, some override⟩ : ControlState) ≠
            ControlState.dropExpired now ⟨previousHot, some override⟩ := fun heq =>
          ControlState.dropExpired_eq_self_iff.mp heq.symm hexpired
        rw [bind_apply, settle_of_ne hne]
        simp only [ControlState.dropExpired, hlive, if_pos h]
        rfl
      · have hlive : ControlState.liveOverride now ⟨previousHot, some override⟩ =
            some override := by
          simp [ControlState.liveOverride, Option.filter, not_le.mp h]
        have heq : (⟨previousHot, some override⟩ : ControlState) =
            ControlState.dropExpired now ⟨previousHot, some override⟩ := by
          simp [ControlState.dropExpired, hlive]
        rw [bind_of_ok (settle_of_eq heq)]
        simp only [hlive, if_neg h]

theorem updateLatch_apply (next : Bool) (policy : SafetyPolicy) :
    object.updateLatch (object.previousHot policy) next policy =
      settle { policy.state with previousHot := next } policy := by
  obtain ⟨⟨latched, override⟩, store⟩ := policy
  rw [settle]
  cases latched <;> cases next <;> simp <;> rfl

/-- `evaluate` settles on the live override, then on the next latch, and answers
from the table as the state was found. -/
theorem evaluate_apply (clock : Clock) (status : BackendStatus) (requestedDuty : Option ℤ)
    (now : Option Clock) (policy : SafetyPolicy) :
    evaluate clock status requestedDuty now policy = (do
      settle (policy.state.dropExpired (now.getD clock))
      settle (policy.state.evaluated (now.getD clock) status)
      return tableDecision policy.state.previousHot status requestedDuty
        (policy.state.liveOverride (now.getD clock))) policy := by
  have hmemory := settle_state (policy.state.dropExpired (now.getD clock)) policy
  rw [evaluate_eq]
  cases hsettle : settle (policy.state.dropExpired (now.getD clock)) policy with
  | error error after =>
      have hactive : activeOverride (now.getD clock) policy = .error error after := by
        rw [activeOverride_apply, bind_of_error hsettle]
      rw [bind_of_error hactive, bind_of_error hsettle]
  | ok value after =>
      have hactive : activeOverride (now.getD clock) policy =
          .ok (policy.state.liveOverride (now.getD clock)) after := by
        rw [activeOverride_apply, bind_of_ok hsettle]
        rfl
      rw [hsettle, resultState_ok] at hmemory
      rw [bind_of_ok hactive, bind_of_ok hsettle]
      have hlatched : object.previousHot after = policy.state.previousHot := by
        show after.state.previousHot = _
        rw [hmemory]
        rfl
      rw [PolicyObject.fromTable, get_bind_apply, bind_apply, bind_apply, updateLatch_apply,
        hmemory, hlatched]
      rfl

/-- An evaluation that returned answered from the table and settled. -/
theorem evaluate_eq_ok {clock : Clock} {status : BackendStatus} {requestedDuty : Option ℤ}
    {now : Option Clock} {policy after : SafetyPolicy} {decision : SafetyDecision}
    (h : evaluate clock status requestedDuty now policy = .ok decision after) :
    decision = tableDecision policy.state.previousHot status requestedDuty
        (policy.state.liveOverride (now.getD clock)) ∧
      after.state = policy.state.evaluated (now.getD clock) status := by
  rw [evaluate_apply] at h
  obtain ⟨_, between, -, h⟩ := bind_eq_ok h
  obtain ⟨_, settled, hlatch, h⟩ := bind_eq_ok h
  have hstate := settle_state (policy.state.evaluated (now.getD clock) status) between
  rw [hlatch] at hstate
  cases h
  exact ⟨rfl, hstate⟩

/-- The writes an evaluation attempts succeed: one for an override that has run out,
then one if the latch moves. -/
def EvaluationWrites (now : Clock) (status : BackendStatus) (policy : SafetyPolicy) : Prop :=
  (policy.state.Expired now → policy.nextWrite = .stored) ∧
    (status.band.nextLatch policy.state.previousHot ≠ policy.state.previousHot →
      policy.store.outcomes
        (policy.store.attempts + if policy.state.Expired now then 1 else 0) = .stored)

/-- Settling on the live override returns if its write succeeds. -/
theorem settle_dropExpired (now : Clock) (policy : SafetyPolicy) :
    settle (policy.state.dropExpired now) policy =
      if policy.state.Expired now then commit (policy.state.dropExpired now) policy
      else .ok () policy := by
  by_cases hexpired : policy.state.Expired now
  · rw [if_pos hexpired]
    apply settle_of_ne
    intro heq
    exact ControlState.dropExpired_eq_self_iff.mp heq.symm hexpired
  · rw [if_neg hexpired]
    exact settle_of_eq (ControlState.dropExpired_eq_self_iff.mpr hexpired).symm

/-- Settling on the next latch returns if its write succeeds. -/
theorem settle_evaluated_returns_iff {now : Clock} {status : BackendStatus} {state : ControlState}
    {policy : SafetyPolicy} (hstate : policy.state = state.dropExpired now) :
    (∃ after, settle (state.evaluated now status) policy = .ok () after) ↔
      (status.band.nextLatch state.previousHot ≠ state.previousHot →
        policy.nextWrite = .stored) := by
  by_cases hlatch : status.band.nextLatch state.previousHot = state.previousHot
  · have heq : policy.state = state.evaluated now status := by
      rw [hstate]
      exact (ControlState.evaluated_eq_dropExpired_iff.mpr hlatch).symm
    exact iff_of_true ⟨policy, settle_of_eq heq⟩ fun hmoved => absurd hlatch hmoved
  · have hne : policy.state ≠ state.evaluated now status := by
      rw [hstate]
      intro heq
      exact hlatch (ControlState.evaluated_eq_dropExpired_iff.mp heq.symm)
    rw [settle_of_ne hne]
    cases hwrite : policy.nextWrite with
    | stored =>
        exact iff_of_true ⟨policy.stored _, commit_of_stored hwrite _⟩ fun _ => rfl
    | raised =>
        apply iff_of_false
        · rw [commit_of_raised hwrite]
          rintro ⟨after, h⟩
          cases h
        · intro hstored
          cases hstored hlatch

/-- An evaluation returns exactly when the writes it attempts succeed. -/
theorem evaluate_returns_iff (clock : Clock) (status : BackendStatus) (requestedDuty : Option ℤ)
    (now : Option Clock) (policy : SafetyPolicy) :
    (∃ decision after, evaluate clock status requestedDuty now policy = .ok decision after) ↔
      policy.EvaluationWrites (now.getD clock) status := by
  have hsplit : (∃ decision after, evaluate clock status requestedDuty now policy =
      .ok decision after) ↔
        ∃ between, settle (policy.state.dropExpired (now.getD clock)) policy = .ok () between ∧
          ∃ after, settle (policy.state.evaluated (now.getD clock) status) between =
            .ok () after := by
    rw [evaluate_apply]
    refine ⟨?_, ?_⟩
    · rintro ⟨decision, after, h⟩
      obtain ⟨_, between, hdrop, h⟩ := bind_eq_ok h
      obtain ⟨_, settled, hlatch, -⟩ := bind_eq_ok h
      exact ⟨between, hdrop, settled, hlatch⟩
    · rintro ⟨between, hdrop, after, hlatch⟩
      refine ⟨tableDecision policy.state.previousHot status requestedDuty
        (policy.state.liveOverride (now.getD clock)), after, ?_⟩
      rw [bind_of_ok hdrop, bind_of_ok hlatch]
      rfl
  rw [hsplit, settle_dropExpired]
  rw [EvaluationWrites]
  by_cases hexpired : policy.state.Expired (now.getD clock)
  · rw [if_pos hexpired, if_pos hexpired]
    cases hwrite : policy.nextWrite with
    | stored =>
        rw [commit_of_stored hwrite, exists_ok_and_iff]
        rw [settle_evaluated_returns_iff (stored_state policy _)]
        exact ⟨fun hlatch => ⟨fun _ => rfl, hlatch⟩, fun hboth => hboth.2⟩
    | raised =>
        rw [commit_of_raised hwrite]
        apply iff_of_false
        · rintro ⟨between, h, -⟩
          cases h
        · rintro ⟨hstored, -⟩
          cases hstored hexpired
  · rw [if_neg hexpired, if_neg hexpired, exists_ok_and_iff]
    rw [settle_evaluated_returns_iff (ControlState.dropExpired_eq_self_iff.mpr hexpired).symm]
    exact ⟨fun hlatch => ⟨fun hyes => absurd hyes hexpired, hlatch⟩, fun hboth => hboth.2⟩

/-- A request that passes validation: evaluate, refuse or commit. -/
theorem requestOverride_apply {dutyPercent ttlSeconds : Json} {duty : DutyPercent}
    {ttl : TtlSeconds} (hduty : validDuty dutyPercent = some duty)
    (httl : validTtl ttlSeconds = some ttl) (clock : Clock) (status : BackendStatus) :
    requestOverride clock status dutyPercent ttlSeconds = (do
      let decision ← evaluate clock status (some duty.val) (some clock)
      match refusal status duty.val decision with
      | some error => throw error
      | none =>
          commit { (← get).state with
            override := some ⟨duty, .float (expiresAt clock ttl)⟩ }
          return { decision with overrideExpiresAt := some (expiresAt clock ttl) }) := by
  rw [requestOverride, PolicyObject.requestOverride, hduty, httl]
  rfl

/-- A request that returned has stored the state with its override. -/
theorem requestOverride_eq_ok {dutyPercent ttlSeconds : Json} {duty : DutyPercent}
    {ttl : TtlSeconds} (hduty : validDuty dutyPercent = some duty)
    (httl : validTtl ttlSeconds = some ttl) {clock : Clock} {status : BackendStatus}
    {policy after : SafetyPolicy} {decision : SafetyDecision}
    (h : requestOverride clock status dutyPercent ttlSeconds policy = .ok decision after) :
    ∃ evaluation between,
      evaluate clock status (some duty.val) (some clock) policy = .ok evaluation between ∧
      refusal status duty.val evaluation = none ∧
      decision = { evaluation with overrideExpiresAt := some (expiresAt clock ttl) } ∧
      after = between.stored { between.state with
        override := some ⟨duty, .float (expiresAt clock ttl)⟩ } := by
  rw [requestOverride_apply hduty httl] at h
  obtain ⟨evaluation, between, hevaluate, h⟩ := bind_eq_ok h
  refine ⟨evaluation, between, hevaluate, ?_⟩
  cases hrefusal : refusal status duty.val evaluation with
  | some error =>
      rw [hrefusal] at h
      cases h
  | none =>
      rw [hrefusal] at h
      dsimp only at h
      rw [get_bind_apply] at h
      obtain ⟨_, stored, hcommit, h⟩ := bind_eq_ok h
      cases h
      exact ⟨rfl, rfl, commit_eq_ok hcommit⟩

/-- A request that returned gives the duty of the table for it. -/
theorem effectiveDuty_of_requestOverride {dutyPercent ttlSeconds : Json} {duty : DutyPercent}
    {ttl : TtlSeconds} (hduty : validDuty dutyPercent = some duty)
    (httl : validTtl ttlSeconds = some ttl) {clock : Clock} {status : BackendStatus}
    {policy after : SafetyPolicy} {decision : SafetyDecision}
    (h : requestOverride clock status dutyPercent ttlSeconds policy = .ok decision after) :
    decision.effectiveDuty =
      status.band.duty policy.state.previousHot status.dutyPercent (some duty.val) := by
  obtain ⟨evaluation, between, hevaluate, -, rfl, -⟩ := requestOverride_eq_ok hduty httl h
  obtain ⟨rfl, -⟩ := evaluate_eq_ok hevaluate
  rfl

/-- A request that does not pass validation touches nothing. -/
theorem requestOverride_invalid {dutyPercent ttlSeconds : Json}
    (h : validDuty dutyPercent = none ∨ validTtl ttlSeconds = none)
    (clock : Clock) (status : BackendStatus) (policy : SafetyPolicy) :
    ∃ message, requestOverride clock status dutyPercent ttlSeconds policy =
      .error (.valueError message) policy := by
  rw [requestOverride, PolicyObject.requestOverride]
  cases hduty : validDuty dutyPercent with
  | none => exact ⟨_, rfl⟩
  | some duty =>
      rcases h with hnone | hnone
      · rw [hduty] at hnone
        cases hnone
      · rw [hnone]
        exact ⟨_, rfl⟩

/-- A request that returned had passed validation. -/
theorem valid_of_requestOverride_eq_ok {dutyPercent ttlSeconds : Json} {clock : Clock}
    {status : BackendStatus} {policy after : SafetyPolicy} {decision : SafetyDecision}
    (h : requestOverride clock status dutyPercent ttlSeconds policy = .ok decision after) :
    ∃ duty ttl, validDuty dutyPercent = some duty ∧ validTtl ttlSeconds = some ttl := by
  by_cases hvalid : validDuty dutyPercent = none ∨ validTtl ttlSeconds = none
  · obtain ⟨message, hraised⟩ := requestOverride_invalid hvalid clock status policy
    rw [hraised] at h
    cases h
  · obtain ⟨hduty, httl⟩ := not_or.mp hvalid
    obtain ⟨duty, hduty⟩ := Option.ne_none_iff_exists'.mp hduty
    obtain ⟨ttl, httl⟩ := Option.ne_none_iff_exists'.mp httl
    exact ⟨duty, ttl, hduty, httl⟩

/-- The one thing a commit raises is the failure of its write. -/
theorem commit_eq_error {state : ControlState} {policy after : SafetyPolicy} {error : Failure}
    (h : commit state policy = .error error after) : error = .osError := by
  cases hwrite : policy.nextWrite with
  | stored =>
      rw [commit_of_stored hwrite] at h
      cases h
  | raised =>
      rw [commit_of_raised hwrite] at h
      cases h
      rfl

theorem settle_eq_error {state : ControlState} {policy after : SafetyPolicy} {error : Failure}
    (h : settle state policy = .error error after) : error = .osError := by
  by_cases hstate : policy.state = state
  · rw [settle_of_eq hstate] at h
    cases h
  · rw [settle_of_ne hstate] at h
    exact commit_eq_error h

/-- The one thing an evaluation raises is the failure of a write. -/
theorem evaluate_eq_error {clock : Clock} {status : BackendStatus} {requestedDuty : Option ℤ}
    {now : Option Clock} {policy after : SafetyPolicy} {error : Failure}
    (h : evaluate clock status requestedDuty now policy = .error error after) :
    error = .osError := by
  rw [evaluate_apply] at h
  cases hdrop : settle (policy.state.dropExpired (now.getD clock)) policy with
  | error error' between =>
      rw [bind_of_error hdrop] at h
      cases h
      exact settle_eq_error hdrop
  | ok value between =>
      rw [bind_of_ok hdrop] at h
      cases hlatch : settle (policy.state.evaluated (now.getD clock) status) between with
      | error error' settled =>
          rw [bind_of_error hlatch] at h
          cases h
          exact settle_eq_error hlatch
      | ok value settled =>
          rw [bind_of_ok hlatch] at h
          cases h

/-- A request the policy does not refuse raises no safety lock. -/
theorem requestOverride_of_not_refused {dutyPercent ttlSeconds : Json} {duty : DutyPercent}
    {ttl : TtlSeconds} (hduty : validDuty dutyPercent = some duty)
    (httl : validTtl ttlSeconds = some ttl) {clock : Clock} {status : BackendStatus}
    (hallowed : ¬ Refused status duty.val) {policy after : SafetyPolicy} {error : Failure}
    (h : requestOverride clock status dutyPercent ttlSeconds policy = .error error after) :
    error = .osError := by
  rw [requestOverride_apply hduty httl] at h
  cases hevaluate : evaluate clock status (some duty.val) (some clock) policy with
  | error error' between =>
      rw [bind_of_error hevaluate] at h
      cases h
      exact evaluate_eq_error hevaluate
  | ok decision between =>
      have hrefusal : refusal status duty.val decision = none := by
        rw [(evaluate_eq_ok hevaluate).1]
        exact not_not.mp ((refusal_ne_none_iff _ _ _ _).not.mpr hallowed)
      rw [bind_of_ok hevaluate, hrefusal] at h
      dsimp only at h
      rw [get_bind_apply] at h
      cases hcommit : commit { between.state with
          override := some ⟨duty, .float (expiresAt clock ttl)⟩ } between with
      | error error' stored =>
          rw [bind_of_error hcommit] at h
          cases h
          exact commit_eq_error hcommit
      | ok value stored =>
          rw [bind_of_ok hcommit] at h
          cases h

/-- A refusal is a safety lock. -/
theorem safetyLocked_of_refusal {status : BackendStatus} {duty : ℤ} {decision : SafetyDecision}
    {error : Failure} (h : refusal status duty decision = some error) :
    ∃ message, error = .safetyLocked message := by
  rw [refusal] at h
  split at h
  · exact ⟨_, (Option.some.inj h).symm⟩
  · split at h
    · exact ⟨_, (Option.some.inj h).symm⟩
    · cases h

/-- A request the policy refuses raises: a safety lock, unless a write of the evaluation
raised before it. -/
theorem requestOverride_of_refused {dutyPercent ttlSeconds : Json} {duty : DutyPercent}
    {ttl : TtlSeconds} (hduty : validDuty dutyPercent = some duty)
    (httl : validTtl ttlSeconds = some ttl) {status : BackendStatus}
    (hrefused : Refused status duty.val) (clock : Clock) (policy : SafetyPolicy) :
    ∃ error after, requestOverride clock status dutyPercent ttlSeconds policy = .error error after ∧
      (policy.EvaluationWrites clock status → ∃ message, error = .safetyLocked message) := by
  have hreturns := evaluate_returns_iff clock status (some duty.val) (some clock) policy
  rw [Option.getD_some] at hreturns
  rw [requestOverride_apply hduty httl]
  cases hevaluate : evaluate clock status (some duty.val) (some clock) policy with
  | error error between =>
      rw [hevaluate] at hreturns
      rw [bind_of_error hevaluate]
      refine ⟨error, between, rfl, fun hwrites => ?_⟩
      obtain ⟨_, _, h⟩ := hreturns.mpr hwrites
      cases h
  | ok decision between =>
      have hdecision := (evaluate_eq_ok hevaluate).1
      rw [bind_of_ok hevaluate, hdecision]
      cases hrefusal : refusal status duty.val (tableDecision policy.state.previousHot status
          (some duty.val) (policy.state.liveOverride ((some clock).getD clock))) with
      | none => exact absurd hrefusal ((refusal_ne_none_iff _ _ _ _).mpr hrefused)
      | some error => exact ⟨error, between, rfl, fun _ => safetyLocked_of_refusal hrefusal⟩

end SafetyPolicy

end TrueFan
