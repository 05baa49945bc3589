/-
# What a restart finds

A restart continues with what the file holds, so it continues the same run only
where memory and file agree. Every write brings them into agreement, and a write
that raises takes memory ahead of the file; a later call that changes nothing
writes nothing and returns as if all were well. So agreement after a call that
returned depends on how the most recent write turned out, not on the call.
-/

import TrueFan.Policy.Run

namespace TrueFan

open Python Foundations

namespace SafetyPolicy

section Preserves

variable {property : SafetyPolicy → Prop}

theorem preserves_settle {state : ControlState} (hcommit : Preserves property (commit state)) :
    Preserves property (settle state) := by
  intro policy hpolicy
  by_cases h : policy.state = state
  · rw [settle_of_eq h]
    exact hpolicy
  · rw [settle_of_ne h]
    exact hcommit policy hpolicy

/-- An evaluation keeps what the two commits it may make keep. -/
theorem evaluate_keeps {clock : Clock} {status : BackendStatus} {requestedDuty : Option ℤ}
    {now : Option Clock} {policy : SafetyPolicy}
    (hdrop : Preserves property (commit (policy.state.dropExpired (now.getD clock))))
    (hlatch : Preserves property (commit (policy.state.evaluated (now.getD clock) status)))
    (hpolicy : property policy) :
    property (resultState (evaluate clock status requestedDuty now policy)) := by
  rw [evaluate_apply]
  apply Preserves.bind (preserves_settle hdrop) _ policy hpolicy
  intro _
  apply Preserves.bind (preserves_settle hlatch)
  intro _
  exact Preserves.pure _

theorem preserves_evaluate (hcommit : ∀ state, Preserves property (commit state))
    (clock : Clock) (status : BackendStatus) (requestedDuty : Option ℤ) (now : Option Clock) :
    Preserves property (evaluate clock status requestedDuty now) :=
  fun _ => evaluate_keeps (hcommit _) (hcommit _)

theorem preserves_requestOverride (hcommit : ∀ state, Preserves property (commit state))
    (clock : Clock) (status : BackendStatus) (dutyPercent ttlSeconds : Json) :
    Preserves property (requestOverride clock status dutyPercent ttlSeconds) := by
  intro policy hpolicy
  by_cases hvalid : validDuty dutyPercent = none ∨ validTtl ttlSeconds = none
  · obtain ⟨message, heq⟩ := requestOverride_invalid hvalid clock status policy
    rw [heq]
    exact hpolicy
  · obtain ⟨hduty, httl⟩ := not_or.mp hvalid
    obtain ⟨duty, hduty⟩ := Option.ne_none_iff_exists'.mp hduty
    obtain ⟨ttl, httl⟩ := Option.ne_none_iff_exists'.mp httl
    rw [requestOverride_apply hduty httl]
    refine Preserves.bind (preserves_evaluate hcommit _ _ _ _) (fun decision => ?_) policy hpolicy
    cases refusal status duty.val decision with
    | some error => exact Preserves.throw error
    | none =>
        exact Preserves.bind Preserves.get fun _ =>
          Preserves.bind (hcommit _) fun _ => Preserves.pure _

/-- A property of policies that commits keep is kept by every event, if it holds of
every policy that comes up in agreement with its file. -/
theorem step_preserves (hcommit : ∀ state, Preserves property (commit state))
    (hstarted : ∀ policy started, property policy → started.store = policy.store →
      started.Synced → property started)
    (policy : SafetyPolicy) (event : PolicyEvent) (hpolicy : property policy) :
    property (step policy event).2 := by
  have houtcome (result : EStateM.Result Failure SafetyPolicy SafetyDecision) :
      (outcome result).2 = resultState result := by
    cases result <;> rfl
  cases event with
  | evaluate clock status requestedDuty now =>
      rw [step_evaluate, houtcome]
      exact preserves_evaluate hcommit _ _ _ _ policy hpolicy
  | request clock status dutyPercent ttlSeconds =>
      rw [step_request, houtcome]
      exact preserves_requestOverride hcommit _ _ _ _ policy hpolicy
  | restart =>
      rw [step_restart]
      cases hinit : init policy.store with
      | error error => exact hpolicy
      | ok started =>
          exact hstarted policy started hpolicy (store_of_init hinit) (synced_of_init hinit)

end Preserves

/-- The most recent write since there were `start` attempts succeeded, or there
was none. -/
def LastWriteStored (start : ℕ) (policy : SafetyPolicy) : Prop :=
  policy.store.attempts = start ∨ policy.store.outcomes (policy.store.attempts - 1) = .stored

/-- What the most recent write says about memory and file. -/
def Accountable (start : ℕ) (policy : SafetyPolicy) : Prop :=
  start ≤ policy.store.attempts ∧ (policy.LastWriteStored start → policy.Synced)

theorem preserves_accountable (start : ℕ) (state : ControlState) :
    Preserves (Accountable start) (commit state) := by
  rintro policy ⟨hstart, -⟩
  cases hwrite : policy.nextWrite with
  | stored =>
      rw [commit_of_stored hwrite]
      exact ⟨hstart.trans (Nat.le_succ _), fun _ => synced_stored policy state⟩
  | raised =>
      rw [commit_of_raised hwrite]
      refine ⟨hstart.trans (Nat.le_succ _), ?_⟩
      rintro (hnone | hstored)
      · exact absurd (hnone.trans_le hstart) (Nat.not_succ_le_self _)
      · exact absurd (hwrite.symm.trans hstored) (by decide)

/-- No event breaks the account. -/
theorem step_accountable (start : ℕ) (policy : SafetyPolicy) (event : PolicyEvent)
    (haccount : Accountable start policy) : Accountable start (step policy event).2 := by
  apply step_preserves (preserves_accountable start) _ policy event haccount
  intro policy started hpolicy hstore hsynced
  exact ⟨hstore ▸ hpolicy.1, fun _ => hsynced⟩

/-- The call changes the state, and therefore writes it: it drops an override that
has run out or moves the latch, or it asks for a new override. -/
def Writes (state : ControlState) (event : PolicyEvent) : Prop :=
  event.asked.isSome = true ∨
    ∃ now status, event.evaluation = some (now, status) ∧ state.evaluated now status ≠ state

/-- An evaluation that returned agrees with the file if it changed the state, and
otherwise if it found agreement. -/
theorem evaluate_synced_iff {clock : Clock} {status : BackendStatus} {requestedDuty : Option ℤ}
    {now : Option Clock} {policy after : SafetyPolicy} {decision : SafetyDecision}
    (h : evaluate clock status requestedDuty now policy = .ok decision after) :
    after.Synced ↔
      policy.Synced ∨ policy.state.evaluated (now.getD clock) status ≠ policy.state := by
  rw [evaluate_apply] at h
  obtain ⟨_, between, hdrop, h⟩ := bind_eq_ok h
  obtain ⟨_, after', hlatch, h⟩ := bind_eq_ok h
  cases h
  rcases settle_eq_ok hlatch with ⟨hsame, rfl⟩ | ⟨hchanged, rfl⟩
  · rcases settle_eq_ok hdrop with ⟨hlive, rfl⟩ | ⟨hexpired, rfl⟩
    · -- neither step changed the state
      simp [← hsame]
    · refine iff_of_true (synced_stored policy _) (.inr ?_)
      rw [stored_state] at hsame
      rw [← hsame]
      exact hexpired.symm
  · -- the latch moved, so the state did
    apply iff_of_true (synced_stored between _)
    right
    intro hstate
    have hbetween : between.state = policy.state.dropExpired (now.getD clock) := by
      have h := settle_state (policy.state.dropExpired (now.getD clock)) policy
      rwa [hdrop] at h
    apply hchanged
    rw [hbetween]
    exact (ControlState.evaluated_eq_dropExpired_iff.mpr
      (congrArg ControlState.previousHot hstate)).symm

/-- A call that returned agrees with the file if it wrote, and otherwise if it
found agreement. -/
theorem synced_iff_of_decided {record : PolicyRecord} {decision : SafetyDecision}
    (hstep : step record.before record.event = (record.outcome, record.after))
    (hdecided : record.outcome = .decided decision) :
    record.after.Synced ↔ record.before.Synced ∨ Writes record.before.state record.event := by
  obtain ⟨before, event, outcome, after⟩ := record
  dsimp only at hstep hdecided ⊢
  subst hdecided
  cases event with
  | restart =>
      rw [step_restart] at hstep
      cases hinit : init before.store <;> rw [hinit] at hstep <;> cases hstep
  | evaluate clock status requestedDuty now =>
      have heq := outcome_eq_decided hstep
      rw [evaluate_synced_iff heq]
      have hwrites : Writes before.state (.evaluate clock status requestedDuty now) ↔
          before.state.evaluated (now.getD clock) status ≠ before.state := by
        simp [Writes, PolicyEvent.asked, PolicyEvent.evaluation]
      rw [hwrites]
  | request clock status dutyPercent ttlSeconds =>
      have heq := outcome_eq_decided hstep
      by_cases hvalid : validDuty dutyPercent = none ∨ validTtl ttlSeconds = none
      · obtain ⟨message, hraised⟩ := requestOverride_invalid hvalid clock status before
        rw [hraised] at heq
        cases heq
      · obtain ⟨hduty, httl⟩ := not_or.mp hvalid
        obtain ⟨duty, hduty⟩ := Option.ne_none_iff_exists'.mp hduty
        obtain ⟨ttl, httl⟩ := Option.ne_none_iff_exists'.mp httl
        obtain ⟨_, between, -, -, -, rfl⟩ := requestOverride_eq_ok hduty httl heq
        apply iff_of_true (synced_stored between _)
        right
        left
        rw [PolicyEvent.asked_of_valid hduty httl]
        rfl

/-- After a call that returned, memory and file agree exactly when the call found
them in agreement or changed the state itself; in particular they agree, and a
restart continues with the same policy, whenever the most recent write of the run
so far succeeded. -/
theorem synced_iff_found_or_wrote {store : ControlStateStore} {policy : SafetyPolicy}
    (started : init store = .ok policy) (events : List PolicyEvent) :
    ∀ record ∈ records step policy events, (∃ decision, record.outcome = .decided decision) →
      (record.after.Synced ↔ record.before.Synced ∨ Writes record.before.state record.event) ∧
      (record.after.LastWriteStored store.attempts →
        record.after.Synced ∧ init record.after.store = .ok record.after) := by
  rintro record hmem ⟨decision, hdecided⟩
  have hstep := step_of_mem_records step hmem
  have hstart : Accountable store.attempts policy :=
    ⟨(congrArg ControlStateStore.attempts (store_of_init started)).ge,
      fun _ => synced_of_init started⟩
  have hbefore : Accountable store.attempts record.before :=
    records_invariant step (step_accountable store.attempts) hstart events record hmem
  have hafter : Accountable store.attempts record.after := by
    have h := step_accountable store.attempts record.before record.event hbefore
    rwa [hstep] at h
  refine ⟨synced_iff_of_decided hstep hdecided, ?_⟩
  intro hlast
  exact ⟨hafter.2 hlast, init_of_synced (hafter.2 hlast)⟩

/-- One hot evaluation whose write succeeds leaves memory and file in agreement. -/
theorem synced_after_hot :
    (finalState step (fresh fun _ => .stored)
      [.evaluate (.ofInt 100) (readingStatus (degrees 90) (degrees 40) (some 22))
        none none]).Synced :=
  ((synced_iff_found_or_wrote (init_fresh fun _ => .stored) [.evaluate (.ofInt 100)
    (readingStatus (degrees 90) (degrees 40) (some 22)) none none] _ List.mem_cons_self
    ⟨_, rfl⟩).2 (.inr rfl)).1

/-- A hot evaluation whose write raises latches the incident in memory alone; the
next one finds nothing to change, writes nothing and returns. -/
theorem not_synced_after_failed_write :
    ¬ ∀ (outcomes : ℕ → WriteOutcome) (events : List PolicyEvent),
      ∀ record ∈ records step (fresh outcomes) events,
        (∃ decision, record.outcome = .decided decision) → record.after.Synced := by
  intro hall
  have hsynced := hall (fun attempt => if attempt = 0 then .raised else .stored)
    [.evaluate (.ofInt 100) (readingStatus (degrees 90) (degrees 40) (some 22))
        none none,
      .evaluate (.ofInt 105) (readingStatus (degrees 90) (degrees 40) (some 22))
        none none] _ (List.mem_cons_of_mem _ List.mem_cons_self) ⟨_, rfl⟩
  cases hsynced

end SafetyPolicy

end TrueFan
