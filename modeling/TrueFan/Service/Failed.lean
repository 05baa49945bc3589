/-
# Requests that end in an error

A request is validated, evaluated, stored as an override and only then commanded.
Up to the store, whatever fails leaves the override in force as it was; from the
store on, the new override is in force in memory however the request ends. The
condition under which a failed request changes nothing is therefore about where it
fails, unless it asks for the override already in force.
-/

import TrueFan.Policy.Provenance
import TrueFan.Policy.Restart
import TrueFan.Service.Recorded

namespace TrueFan

open Python Foundations

/-- The override slot a restart would find. -/
def ControlStateStore.slot (store : ControlStateStore) : Option (Lease DutyPercent Clock) :=
  match store.load with
  | .ok state => state.slot
  | .error _ => none

namespace SafetyPolicy

/-- The override in force at `clock` is the same, in memory and in the file; a file
that lagged behind memory may have caught up. -/
def OverrideKept (clock : Clock) (before after : SafetyPolicy) : Prop :=
  inForce clock after.state.slot = inForce clock before.state.slot ∧
    (inForce clock after.store.slot = inForce clock before.store.slot ∨
      inForce clock after.store.slot = inForce clock before.state.slot)

theorem slot_stored (policy : SafetyPolicy) (state : ControlState) :
    (policy.stored state).store.slot = state.slot := by
  have hload : (policy.stored state).store.load = .ok state :=
    ControlStateStore.loadFile_toJson state
  rw [ControlStateStore.slot, hload]

theorem overrideKept_refl (clock : Clock) (policy : SafetyPolicy) :
    OverrideKept clock policy policy := ⟨rfl, .inl rfl⟩

/-- Committing a state with the same override in force keeps it, whether or not the
write raises. -/
theorem preserves_overrideKept {clock : Clock} {before : SafetyPolicy} {state : ControlState}
    (hslot : inForce clock state.slot = inForce clock before.state.slot) :
    Preserves (OverrideKept clock before) (commit state) := by
  rintro policy ⟨-, hfile⟩
  cases hwrite : policy.nextWrite with
  | stored =>
      rw [commit_of_stored hwrite]
      refine ⟨hslot, .inr ?_⟩
      rw [resultState_ok, slot_stored]
      exact hslot
  | raised =>
      rw [commit_of_raised hwrite]
      exact ⟨hslot, hfile⟩

/-- Committing keeps the override in force exactly when the committed state has it. -/
theorem commit_overrideKept_iff {clock : Clock} {before between : SafetyPolicy}
    (hkept : OverrideKept clock before between) (state : ControlState) :
    OverrideKept clock before (resultState (commit state between)) ↔
      inForce clock state.slot = inForce clock before.state.slot := by
  refine ⟨?_, fun hslot => preserves_overrideKept hslot between hkept⟩
  rintro ⟨hmemory, -⟩
  have hstate : (resultState (commit state between)).state = state := by
    cases hwrite : between.nextWrite with
    | stored => rw [commit_of_stored hwrite, resultState_ok, stored_state]
    | raised => rw [commit_of_raised hwrite, resultState_error, unstored_state]
  rwa [hstate] at hmemory

theorem inForce_slot_evaluated (clock : Clock) (status : BackendStatus) (state : ControlState) :
    inForce clock (state.evaluated clock status).slot = inForce clock state.slot := by
  rw [ControlState.slot_evaluated]
  exact inForce_inForce le_rfl _

theorem inForce_slot_dropExpired (clock : Clock) (state : ControlState) :
    inForce clock (state.dropExpired clock).slot = inForce clock state.slot := by
  have hslot : (state.dropExpired clock).slot = inForce clock state.slot :=
    ControlState.map_liveOverride clock state
  rw [hslot]
  exact inForce_inForce le_rfl _

/-- An evaluation keeps the override in force. -/
theorem evaluate_overrideKept (clock : Clock) (status : BackendStatus)
    (requestedDuty : Option ℤ) (policy : SafetyPolicy) :
    OverrideKept clock policy
      (resultState (evaluate clock status requestedDuty (some clock) policy)) := by
  apply evaluate_keeps
  · exact preserves_overrideKept (inForce_slot_dropExpired clock policy.state)
  · exact preserves_overrideKept (inForce_slot_evaluated clock status policy.state)
  · exact overrideKept_refl clock policy

/-- The override asked for is in force just as the stored one is: it is the same
override, or neither is in force. -/
def AsksForSame (clock : Clock) (duty : DutyPercent) (ttl : TtlSeconds) (policy : SafetyPolicy) :
    Prop :=
  inForce clock (some ⟨duty, expiresAt clock ttl⟩) = inForce clock policy.state.slot

/-- A request that passes validation keeps the override in force exactly when its
evaluation raises, or it is refused, or it asks for the same override. -/
theorem requestOverride_overrideKept_iff {dutyPercent ttlSeconds : Json} {duty : DutyPercent}
    {ttl : TtlSeconds} (hduty : validDuty dutyPercent = some duty)
    (httl : validTtl ttlSeconds = some ttl) (clock : Clock) (status : BackendStatus)
    (policy : SafetyPolicy) :
    OverrideKept clock policy
        (resultState (requestOverride clock status dutyPercent ttlSeconds policy)) ↔
      ¬ policy.EvaluationWrites clock status ∨ Refused status duty.val ∨
        AsksForSame clock duty ttl policy := by
  have hkept := evaluate_overrideKept clock status (some duty.val) policy
  have hreturns := evaluate_returns_iff clock status (some duty.val) (some clock) policy
  rw [Option.getD_some] at hreturns
  rw [requestOverride_apply hduty httl]
  cases hevaluate : evaluate clock status (some duty.val) (some clock) policy with
  | error error between =>
      rw [hevaluate] at hkept hreturns
      rw [bind_of_error hevaluate]
      apply iff_of_true hkept
      left
      rw [← hreturns]
      rintro ⟨decision, after, h⟩
      cases h
  | ok decision between =>
      obtain ⟨rfl, hbetween⟩ := evaluate_eq_ok hevaluate
      have hwrites : policy.EvaluationWrites clock status := hreturns.mp ⟨_, between, hevaluate⟩
      rw [hevaluate, resultState_ok] at hkept
      rw [bind_of_ok hevaluate, ← refusal_ne_none_iff policy.state.previousHot status duty.val
        (policy.state.liveOverride clock), Option.getD_some]
      cases hrefusal : refusal status duty.val (tableDecision policy.state.previousHot status
          (some duty.val) (policy.state.liveOverride clock)) with
      | some error => exact iff_of_true hkept (.inr (.inl (Option.some_ne_none error)))
      | none =>
          dsimp only
          rw [get_bind_apply, resultState_bind_pure, commit_overrideKept_iff hkept]
          refine ⟨fun hsame => .inr (.inr hsame), ?_⟩
          rintro (hraised | hrefused | hsame)
          · exact absurd hwrites hraised
          · exact absurd rfl hrefused
          · exact hsame

end SafetyPolicy

namespace ControlService

variable {Hardware : Type}

/-- The request fails before its override is stored, or asks for the override in
force: the status cannot be read, the duty or the lifetime is out of range, a write
of the evaluation raises, the policy refuses, or nothing is asked for that is not in
force. -/
def FailsEarly (backend : FanBackend Hardware) (clock : Clock) (dutyPercent ttlSeconds : Json)
    (service : ControlService Hardware) : Prop :=
  ∀ before hardware duty ttl, backend.status service.hardware = .ok before hardware →
    SafetyPolicy.validDuty dutyPercent = some duty → SafetyPolicy.validTtl ttlSeconds = some ttl →
    ¬ service.policy.EvaluationWrites clock before ∨ SafetyPolicy.Refused before duty.val ∨
      SafetyPolicy.AsksForSame clock duty ttl service.policy

/-- A request keeps the override in force exactly when it fails early. -/
theorem requestDuty_overrideKept_iff (backend : FanBackend Hardware) (clock : Clock)
    (dutyPercent ttlSeconds : Json) (service : ControlService Hardware) :
    SafetyPolicy.OverrideKept clock service.policy
        (resultState (requestDuty backend clock dutyPercent ttlSeconds service)).policy ↔
      FailsEarly backend clock dutyPercent ttlSeconds service := by
  rw [requestDuty_policy]
  cases hstatus : backend.status service.hardware with
  | error error hardware =>
      apply iff_of_true (SafetyPolicy.overrideKept_refl clock service.policy)
      intro before hardware duty ttl hread
      rw [hstatus] at hread
      cases hread
  | ok before hardware =>
      dsimp only
      by_cases hvalid : SafetyPolicy.validDuty dutyPercent = none ∨
          SafetyPolicy.validTtl ttlSeconds = none
      · obtain ⟨message, heq⟩ :=
          SafetyPolicy.requestOverride_invalid hvalid clock before service.policy
        rw [heq]
        apply iff_of_true (SafetyPolicy.overrideKept_refl clock service.policy)
        intro before hardware duty ttl _ hduty httl
        rcases hvalid with hnone | hnone
        · rw [hduty] at hnone
          cases hnone
        · rw [httl] at hnone
          cases hnone
      · obtain ⟨hduty, httl⟩ := not_or.mp hvalid
        obtain ⟨duty, hduty⟩ := Option.ne_none_iff_exists'.mp hduty
        obtain ⟨ttl, httl⟩ := Option.ne_none_iff_exists'.mp httl
        rw [SafetyPolicy.requestOverride_overrideKept_iff hduty httl]
        refine ⟨?_, fun hearly => hearly before hardware duty ttl hstatus hduty httl⟩
        intro hcases before' hardware' duty' ttl' hread hduty' httl'
        rw [hstatus] at hread
        rw [hduty] at hduty'
        rw [httl] at httl'
        cases hread
        cases hduty'
        cases httl'
        exact hcases

/-- A request that ends in an error keeps the override in force exactly when it
fails early, whether it names a duty or a profile; a profile may also be unknown. -/
theorem overrideKept_iff_failsEarly (backend : FanBackend Hardware) (clock : Clock)
    (service : ControlService Hardware) :
    (∀ dutyPercent ttlSeconds error after,
      requestDuty backend clock dutyPercent ttlSeconds service = .error error after →
      (SafetyPolicy.OverrideKept clock service.policy after.policy ↔
        FailsEarly backend clock dutyPercent ttlSeconds service)) ∧
    ∀ profile ttlSeconds error after,
      requestProfile backend clock profile ttlSeconds service = .error error after →
      (SafetyPolicy.OverrideKept clock service.policy after.policy ↔
        ∀ duty, profiles.lookup profile = some duty →
          FailsEarly backend clock (.int duty) ttlSeconds service) := by
  have hduty : ∀ dutyPercent ttlSeconds error after,
      requestDuty backend clock dutyPercent ttlSeconds service = .error error after →
      (SafetyPolicy.OverrideKept clock service.policy after.policy ↔
        FailsEarly backend clock dutyPercent ttlSeconds service) := by
    intro dutyPercent ttlSeconds error after heq
    rw [← requestDuty_overrideKept_iff, heq, resultState_error]
  refine ⟨hduty, ?_⟩
  intro profile ttlSeconds error after heq
  cases hprofile : profiles.lookup profile with
  | none =>
      rw [requestProfile_of_unknown hprofile] at heq
      cases heq
      exact iff_of_true (SafetyPolicy.overrideKept_refl clock service.policy) nofun
  | some duty =>
      rw [hduty _ _ _ _ (requestProfile_eq_error hprofile heq)]
      simp

/-- A duty out of range is refused and changes no override. -/
theorem overrideKept_of_invalid_duty :
    SafetyPolicy.OverrideKept (.ofInt 100) (SafetyPolicy.fresh fun _ => .stored)
      (resultState (requestDuty fakeBackend (.ofInt 100) (.int 10) .null
        (init ⟨readingStatus (degrees 45) (degrees 35) (some 22), false⟩
          (SafetyPolicy.fresh fun _ => .stored)))).policy :=
  ((overrideKept_iff_failsEarly fakeBackend (.ofInt 100)
      (init ⟨readingStatus (degrees 45) (degrees 35) (some 22), false⟩
        (SafetyPolicy.fresh fun _ => .stored))).1 (.int 10) .null _ _ rfl).mpr
    fun _ _ _ _ _ hduty _ => nomatch hduty

/-- The command of a request for 50% raises: the request is answered with an error,
its override is in force, and the next tick on repaired hardware sets 50%. -/
theorem not_overrideKept_of_failed_command :
    ¬ (∀ (service : ControlService FakeHardware) (clock : Clock) (dutyPercent ttlSeconds : Json)
        (error : Failure) (after : ControlService FakeHardware),
        requestDuty fakeBackend clock dutyPercent ttlSeconds service = .error error after →
        SafetyPolicy.OverrideKept clock service.policy after.policy) ∧
      (returned (tick fakeBackend (.ofInt 105)
        { resultState (requestDuty fakeBackend (.ofInt 100) (.int 50) (.int 300)
            (init ⟨readingStatus (degrees 45) (degrees 35) (some 22), true⟩
              (SafetyPolicy.fresh fun _ => .stored))) with
          hardware := ⟨readingStatus (degrees 45) (degrees 35) (some 22), false⟩ })).map
        (fun payload => payload.backend.dutyPercent) = some (some 50) := by
  refine ⟨?_, by decide +kernel⟩
  intro hall
  have hkept := (hall (init ⟨readingStatus (degrees 45) (degrees 35) (some 22), true⟩
    (SafetyPolicy.fresh fun _ => .stored)) (.ofInt 100) (.int 50) (.int 300) _ _ rfl).1
  exact absurd hkept (by decide +kernel)

end ControlService

end TrueFan
