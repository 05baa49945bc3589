/-
# A hot reading commands full duty in one tick

The hot branch of the policy answers full duty whatever else is wrong with the
status. Between that answer and the command stand at most two writes of the state
file, and a write that raises takes the whole tick with it: full duty is commanded
exactly when these writes succeed.
-/

import TrueFan.Service.Recorded

namespace TrueFan

open Python

namespace ControlService

variable {Hardware : Type}

/-- The tick finds the hardware in manual mode at full duty, or it commands full
duty. -/
def CommandsFull (backend : FanBackend Hardware) (clock : Clock)
    (service : ControlService Hardware) (before : BackendStatus) : Prop :=
  InPlace before 100 ∨
    100 ∈ (resultState (tick backend.recorded clock service.watched)).hardware.2

/-- The state-file writes of a hot tick succeed: the one that drops an override that
has run out, and the one that opens the incident. -/
def HotWrites (clock : Clock) (policy : SafetyPolicy) : Prop :=
  (policy.state.Expired clock → policy.nextWrite = .stored) ∧
    (policy.state.previousHot = false →
      policy.store.outcomes
        (policy.store.attempts + if policy.state.Expired clock then 1 else 0) = .stored)

theorem evaluationWrites_hot_iff {before : BackendStatus} (hhot : before.Hot) (clock : Clock)
    (policy : SafetyPolicy) :
    policy.EvaluationWrites clock before ↔ HotWrites clock policy := by
  have hmoves : before.band.nextLatch policy.state.previousHot ≠ policy.state.previousHot ↔
      policy.state.previousHot = false := by
    rw [BackendStatus.band_of_hot hhot]
    cases policy.state.previousHot <;> decide
  rw [SafetyPolicy.EvaluationWrites, HotWrites]
  rw [hmoves]

section

variable {backend : FanBackend Hardware} {clock : Clock} {service : ControlService Hardware}
  {before : BackendStatus} {hardware : Hardware}

/-- A hot evaluation that returned asks for full duty. -/
theorem effectiveDuty_of_hot (hhot : before.Hot) {policy after : SafetyPolicy}
    {decision : SafetyDecision}
    (hevaluate : SafetyPolicy.evaluate clock before none none policy = .ok decision after) :
    decision.effectiveDuty = 100 := by
  obtain ⟨rfl, -⟩ := SafetyPolicy.evaluate_eq_ok hevaluate
  show before.band.duty _ _ _ = 100
  rw [BackendStatus.band_of_hot hhot]
  rfl

/-- Once the evaluation returned, full duty is in place or commanded. -/
theorem commandsFull_of_evaluate_ok
    (hstatus : backend.status service.hardware = .ok before hardware)
    (hhot : before.Hot) {policy : SafetyPolicy} {decision : SafetyDecision}
    (hevaluate : SafetyPolicy.evaluate clock before none none service.policy =
      .ok decision policy) :
    CommandsFull backend clock service before := by
  by_cases hplace : InPlace before 100
  · exact .inl hplace
  right
  have hcalls := calls_of_evaluate_ok hstatus hevaluate
  rw [effectiveDuty_of_hot hhot hevaluate, if_neg hplace] at hcalls
  rw [hcalls]
  exact List.mem_singleton_self 100

/-- A hot tick finds full duty in place or commands it exactly when it is in place
or the writes of the state file it attempts succeed. -/
theorem commandsFull_iff_hotWrites
    (hstatus : backend.status service.hardware = .ok before hardware) (hhot : before.Hot) :
    CommandsFull backend clock service before ↔
      InPlace before 100 ∨ HotWrites clock service.policy := by
  have hreturns := SafetyPolicy.evaluate_returns_iff clock before none none service.policy
  rw [Option.getD_none, evaluationWrites_hot_iff hhot] at hreturns
  rw [← hreturns]
  cases hevaluate : SafetyPolicy.evaluate clock before none none service.policy with
  | ok decision policy =>
      exact iff_of_true (commandsFull_of_evaluate_ok hstatus hhot hevaluate)
        (.inr ⟨decision, policy, rfl⟩)
  | error error policy =>
      rw [CommandsFull, calls_of_evaluate_error hstatus hevaluate]
      simp

end

/-- Any state file that works: a processor at 90 degrees with a failed drive source
has full duty commanded in one tick. -/
theorem commandsFull_fake :
    CommandsFull fakeBackend (.ofInt 100)
      (init ⟨readingStatus (degrees 90) none (some 22) false, false⟩
        (SafetyPolicy.fresh fun _ => .stored))
      (readingStatus (degrees 90) none (some 22) false) :=
  (commandsFull_iff_hotWrites rfl (by decide)).mpr (.inr ⟨fun _ => rfl, fun _ => rfl⟩)

/-- The write that opens the incident raises: nothing is commanded. -/
theorem not_commandsFull_of_failed_write :
    ¬ ∀ (outcomes : ℕ → WriteOutcome) (clock : Clock) (before : BackendStatus), before.Hot →
      CommandsFull fakeBackend clock (init ⟨before, false⟩ (SafetyPolicy.fresh outcomes))
        before := by
  intro hall
  have hcommands := hall (fun _ => .raised) (.ofInt 100)
    (readingStatus (degrees 90) (degrees 40) (some 22)) (by decide)
  rcases hcommands with hplace | hcalled
  · exact absurd hplace (by decide)
  · cases hcalled

end ControlService

end TrueFan
