/-
# Incidents survive deaths

The call that opens an incident answers only when the latch is in the state file. From then on
every dictionary that a process has in memory or finds on disk has the latch up, whatever file
operations raise and wherever processes die, until an evaluation finds the temperatures
recovered.
-/

import TrueFan.Policy.Crash
import TrueFan.Policy.Incident
import TrueFan.Policy.Restart

namespace TrueFan

open Python Foundations

namespace SafetyPolicy

/-- The latch is up in memory, and in what the file is loaded as. -/
def Latched (policy : SafetyPolicy) : Prop :=
  policy.state.previousHot = true ∧
    ∀ control, policy.store.load = .ok control → control.previousHot = true

theorem preserves_latched {state : ControlState} (h : state.previousHot = true) :
    Preserves Latched (commit state) := by
  intro policy hlatched
  cases hwrite : policy.nextWrite with
  | stored =>
      rw [commit_of_stored hwrite]
      refine ⟨h, fun control hload => ?_⟩
      cases (synced_stored policy state).symm.trans hload
      exact h
  | raised =>
      rw [commit_of_raised hwrite]
      exact ⟨h, hlatched.2⟩

theorem latched_evaluate {clock : Clock} {status : BackendStatus} {requestedDuty : Option ℤ}
    {now : Option Clock} {policy : SafetyPolicy} (h : ¬ status.Recovered)
    (hlatched : policy.Latched) :
    (resultState (evaluate clock status requestedDuty now policy)).Latched := by
  have hnext : status.band.nextLatch policy.state.previousHot = true := by
    rw [hlatched.1, Band.nextLatch_eq, if_neg h, ite_self]
  exact evaluate_keeps (preserves_latched hlatched.1) (preserves_latched hnext) hlatched

theorem latched_requestOverride {clock : Clock} {status : BackendStatus}
    {dutyPercent ttlSeconds : Json} {policy : SafetyPolicy}
    (h : ¬ (PolicyEvent.request clock status dutyPercent ttlSeconds).Closes)
    (hlatched : policy.Latched) :
    (resultState (requestOverride clock status dutyPercent ttlSeconds policy)).Latched := by
  by_cases hvalid : validDuty dutyPercent = none ∨ validTtl ttlSeconds = none
  · obtain ⟨message, heq⟩ := requestOverride_invalid hvalid clock status policy
    rw [heq]
    exact hlatched
  obtain ⟨hduty, httl⟩ := not_or.mp hvalid
  obtain ⟨duty, hduty⟩ := Option.ne_none_iff_exists'.mp hduty
  obtain ⟨ttl, httl⟩ := Option.ne_none_iff_exists'.mp httl
  rw [PolicyEvent.closes_iff (PolicyEvent.evaluation_of_valid hduty httl clock status)] at h
  have hevaluate : Latched (resultState
      (evaluate clock status (some duty.val) (some clock) policy)) :=
    latched_evaluate h hlatched
  rw [requestOverride_apply hduty httl]
  cases hrun : evaluate clock status (some duty.val) (some clock) policy with
  | error error between =>
      rw [hrun] at hevaluate
      rw [bind_of_error hrun]
      exact hevaluate
  | ok decision between =>
      rw [hrun] at hevaluate
      rw [bind_of_ok hrun]
      cases refusal status duty.val decision with
      | some error => exact hevaluate
      | none =>
          dsimp only
          rw [get_bind_apply, resultState_bind_pure]
          have hpreserves : Preserves Latched (commit { between.state with
              override := some ⟨duty, .float (expiresAt clock ttl)⟩ }) :=
            preserves_latched hevaluate.1
          exact hpreserves between hevaluate

/-- An event that does not find the temperatures recovered leaves the latch up. -/
theorem latched_step {policy : SafetyPolicy} {event : PolicyEvent} (h : ¬ event.Closes)
    (hlatched : policy.Latched) : (step policy event).2.Latched := by
  have houtcome (result : EStateM.Result Failure SafetyPolicy SafetyDecision) :
      (outcome result).2 = resultState result := by
    cases result <;> rfl
  cases event with
  | evaluate clock status requestedDuty now =>
      rw [step_evaluate, houtcome]
      exact latched_evaluate ((PolicyEvent.closes_iff rfl).not.mp h) hlatched
  | request clock status dutyPercent ttlSeconds =>
      rw [step_request, houtcome]
      exact latched_requestOverride h hlatched
  | restart =>
      rw [step_restart]
      cases hinit : init policy.store with
      | error error => exact hlatched
      | ok started =>
          obtain ⟨hstore, hload⟩ := init_eq_ok hinit
          exact ⟨hlatched.2 _ hload, hstore ▸ hlatched.2⟩

theorem band_of_safetyState {band : Band} {latched : Bool}
    (h : band.safetyState latched = .hot) : band = .hot := by
  cases band with
  | hot => rfl
  | failed => cases h
  | recovered => cases h
  | warm => cases latched <;> cases h

/-- A call that answers with a hot decision and found the latch down has stored it. -/
theorem latched_of_decided {policy after : SafetyPolicy} {event : PolicyEvent}
    {decision : SafetyDecision} (hstep : step policy event = (.decided decision, after))
    (hhot : decision.state = .hot) (hdown : policy.state.previousHot = false) : after.Latched := by
  have hup : after.state.previousHot = true ∧ Writes policy.state event := by
    cases event with
    | restart =>
        rw [step_restart] at hstep
        cases hinit : init policy.store <;> rw [hinit] at hstep <;> cases hstep
    | evaluate clock status requestedDuty now =>
        obtain ⟨hdecision, hstate⟩ := evaluate_eq_ok (outcome_eq_decided hstep)
        rw [hdecision] at hhot
        have hband := band_of_safetyState hhot
        have hlatch : (policy.state.evaluated (now.getD clock) status).previousHot = true := by
          rw [ControlState.evaluated, hband]
          rfl
        refine ⟨hstate ▸ hlatch, .inr ⟨_, _, rfl, fun hsame => ?_⟩⟩
        rw [hsame, hdown] at hlatch
        cases hlatch
    | request clock status dutyPercent ttlSeconds =>
        have hdecided := outcome_eq_decided hstep
        obtain ⟨duty, ttl, hduty, httl⟩ := valid_of_requestOverride_eq_ok hdecided
        obtain ⟨evaluation, between, hevaluate, -, rfl, rfl⟩ :=
          requestOverride_eq_ok hduty httl hdecided
        obtain ⟨hevaluation, hstate⟩ := evaluate_eq_ok hevaluate
        rw [hevaluation] at hhot
        have hband := band_of_safetyState hhot
        refine ⟨?_, .inl ?_⟩
        · show between.state.previousHot = true
          rw [hstate, ControlState.evaluated, hband]
          rfl
        · rw [PolicyEvent.asked_of_valid hduty httl]
          rfl
  have hsynced : after.Synced :=
    (@synced_iff_of_decided ⟨policy, event, .decided decision, after⟩ decision hstep rfl).mpr
      (.inr hup.2)
  refine ⟨hup.1, fun control hload => ?_⟩
  cases hsynced.symm.trans hload
  exact hup.1

end SafetyPolicy

namespace DiskPolicy

variable {codec : Codec} {family : codec.Family} (runs : SaveRuns)

/-- The latch is up in memory, and in what the next process loads. -/
def Latched (codec : Codec) (policy : DiskPolicy) : Prop :=
  policy.state.previousHot = true ∧
    ∀ state, codec.load policy.directory = .ok state → state.previousHot = true

/-- It is an image of a policy. -/
def IsImage (family : codec.Family) (policy : DiskPolicy) : Prop :=
  ∃ core, policy.Related family core

/-- It is an image of a policy that has the latch up. -/
def ImageLatched (family : codec.Family) (policy : DiskPolicy) : Prop :=
  ∃ core, policy.Related family core ∧
    ∀ attempts outcomes, (SafetyPolicy.place core attempts outcomes).Latched

theorem latched_of_imageLatched {policy : DiskPolicy} (h : policy.ImageLatched family) :
    policy.Latched codec := by
  obtain ⟨core, hrelated, hlatched⟩ := h
  obtain ⟨hmemory, hfile⟩ := hlatched 0 fun _ => .stored
  refine ⟨hrelated.holds.1.trans hmemory, fun state hload => ?_⟩
  obtain ⟨found, control, hfound, -, hcontrol, hholds⟩ := hrelated.survives
  cases hload.symm.trans hfound
  exact hholds.1.trans (hfile control hcontrol)

theorem imageLatched_step {policy : DiskPolicy} {event : PolicyEvent} (hcloses : ¬ event.Closes)
    (hasked : ∀ clock duty ttl, event.asked = some (clock, duty, ttl) →
      family.grants duty (SafetyPolicy.expiresAt clock ttl))
    (h : policy.ImageLatched family) : (step codec runs policy event).2.ImageLatched family := by
  obtain ⟨core, hrelated, hlatched⟩ := h
  obtain ⟨decisions, after, hplays, hafter⟩ := step_plays runs hrelated event hasked
  obtain ⟨environment, hdecides⟩ := exists_decides WriteOutcome.stored decisions
  have hplayed := hplays environment 0 hdecides
  have hstep := SafetyPolicy.latched_step hcloses (hlatched 0 environment)
  refine ⟨after, hafter, fun attempts outcomes => ?_⟩
  cases houtcome : (step codec runs policy event).1 with
  | lived outcome =>
      rw [houtcome] at hplayed
      rw [hplayed] at hstep
      exact hstep
  | died =>
      rw [houtcome] at hplayed
      have hunevaluated : ¬ PolicyEvent.restart.Closes :=
        PolicyEvent.not_closes_of_unevaluated rfl
      have hrestart := SafetyPolicy.latched_step hunevaluated hstep
      rw [hplayed] at hrestart
      exact hrestart

theorem imageLatched_of_decided {policy : DiskPolicy} {core : SafetyPolicy.Core}
    {event : PolicyEvent} {decision : SafetyDecision} (hrelated : policy.Related family core)
    (hasked : ∀ clock duty ttl, event.asked = some (clock, duty, ttl) →
      family.grants duty (SafetyPolicy.expiresAt clock ttl))
    (hdecided : (step codec runs policy event).1 = .lived (.decided decision))
    (hhot : decision.state = .hot) (hdown : policy.state.previousHot = false) :
    (step codec runs policy event).2.ImageLatched family := by
  obtain ⟨decisions, after, hplays, hafter⟩ := step_plays runs hrelated event hasked
  obtain ⟨environment, hdecides⟩ := exists_decides WriteOutcome.stored decisions
  have hplayed := hplays environment 0 hdecides
  rw [hdecided] at hplayed
  have hlatched := SafetyPolicy.latched_of_decided hplayed hhot
    (hrelated.holds.1.symm.trans hdown)
  exact ⟨after, hafter, fun _ _ => hlatched⟩

/-- Once a call has answered with a hot decision that it found the latch down for, the latch is up
in memory and on disk at the end of every history that goes on from there, whatever raised and
wherever a process died, if no later event finds the temperatures recovered. -/
theorem incident_survives (family : codec.Family) {directory : Directory} {saves : ℕ}
    {policy : DiskPolicy} (started : init codec directory saves = .ok policy)
    (known : family.mem policy.state) {events : List PolicyEvent}
    (asked : ∀ event ∈ events, ∀ clock duty ttl, event.asked = some (clock, duty, ttl) →
      family.grants duty (SafetyPolicy.expiresAt clock ttl))
    {earlier later : List DiskRecord} {record : DiskRecord} {decision : SafetyDecision}
    (cut : records (step codec runs) policy events = earlier ++ record :: later)
    (found : record.before.state.previousHot = false)
    (decided : record.outcome = .lived (.decided decision)) (hot : decision.state = .hot)
    (unclosed : ∀ next ∈ later, ¬ next.event.Closes) :
    (finalState (step codec runs) policy events).Latched codec := by
  have hmem (next : DiskRecord) (hnext : next ∈ record :: later) :
      next ∈ records (step codec runs) policy events := by
    rw [cut]
    exact List.mem_append_right earlier hnext
  have hasked (next : DiskRecord) (hnext : next ∈ records (step codec runs) policy events) :=
    asked next.event (event_mem_of_mem_records (step codec runs) hnext)
  have hinitial : policy.IsImage family := by
    obtain ⟨control, hrelated, -⟩ := related_of_init started known
    exact ⟨_, hrelated⟩
  have hkept (next : DiskRecord) (hnext : next ∈ records (step codec runs) policy events)
      (hbefore : next.before.IsImage family) : next.after.IsImage family := by
    have hstep := step_of_mem_records (step codec runs) hnext
    obtain ⟨core, hrelated⟩ := hbefore
    obtain ⟨decisions, after, -, hafter⟩ := step_plays runs hrelated next.event (hasked next hnext)
    rw [hstep] at hafter
    exact ⟨after, hafter⟩
  have himage := records_invariant_of_preserved (step codec runs) hinitial hkept
  apply latched_of_imageLatched
  apply finalState_of_cut (step codec runs) cut
  · have hrecord := hmem record List.mem_cons_self
    obtain ⟨core, hbefore⟩ := (himage record hrecord).1
    have hstep := step_of_mem_records (step codec runs) hrecord
    have hafter := imageLatched_of_decided runs hbefore (hasked record hrecord)
      ((congrArg Prod.fst hstep).trans decided) hot found
    rwa [hstep] at hafter
  · intro next hnext hbefore
    have hlater := hmem next (List.mem_cons_of_mem record hnext)
    have hstep := step_of_mem_records (step codec runs) hlater
    have hafter := imageLatched_step runs (unclosed next hnext) (hasked next hlater) hbefore
    rwa [hstep] at hafter

/-- The process dies while the incident is saved. The next one opens it again, and the one after
a restart still knows it. -/
theorem incident_survives_restart :
    (finalState (step Codec.bareStates (SaveRuns.ofRuns diesFirst)) ⟨⟨false, none⟩, .empty, 0⟩
      [hotEvaluation, hotEvaluation, .restart]).Latched Codec.bareStates := by
  have hdecided : (step Codec.bareStates (SaveRuns.ofRuns diesFirst)
      (step Codec.bareStates (SaveRuns.ofRuns diesFirst) ⟨⟨false, none⟩, .empty, 0⟩
        hotEvaluation).2 hotEvaluation).1 =
      .lived (.decided ⟨.hot, 100, "hot_threshold", true, none⟩) := by
    decide +kernel
  have hcut : records (step Codec.bareStates (SaveRuns.ofRuns diesFirst))
      ⟨⟨false, none⟩, .empty, 0⟩ [hotEvaluation, hotEvaluation, .restart] = [_] ++ _ :: [_] := rfl
  refine incident_survives (SaveRuns.ofRuns diesFirst) Codec.withoutOverrides init_empty rfl
    nothing_asked hcut ?_ hdecided rfl ?_
  · decide +kernel
  · intro next hnext
    rw [List.mem_singleton.mp hnext]
    exact PolicyEvent.not_closes_of_unevaluated rfl

end DiskPolicy

end TrueFan
