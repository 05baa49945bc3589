/-
# Required readings that are no temperature

A required reading may be absent, and a present one may be an infinity or not a
number. Either way the policy has no temperature to go by. The hot test looks for
a finite number, the failure test for a present value, and the recovery test
compares whatever is there; a present reading that is not finite passes between
the first two and is then taken for normal operation. This module says exactly
when the fans are nevertheless held.
-/

import TrueFan.Policy.Run

namespace TrueFan

open Python Foundations

/-- The reading is absent or not a finite number. -/
def Unusable (reading : Option PyFloat) : Prop :=
  ∀ x, reading ≠ some (.finite x)

theorem unusable_none : Unusable none := by
  intro x h
  cases h

theorem unusable_nan : Unusable (some .nan) := by
  intro x h
  cases h

/-- No required reading is hot, and one of them is unusable. -/
structure BackendStatus.Gap (status : BackendStatus) : Prop where
  notHot : ¬ status.Hot
  unusable : Unusable status.temperatures.cpuC ∨ Unusable status.temperatures.maxDriveC

namespace SafetyPolicy

/-- For this state, time and status, the fans are never lowered, whatever the
store: a tick asks for the known duty or more, for full duty where none is known,
and no request below the known duty is accepted. -/
def NeverLowers (state : ControlState) (clock : Clock) (status : BackendStatus) : Prop :=
  (∀ store decision after, evaluate clock status none none ⟨state, store⟩ = .ok decision after →
    status.dutyPercent.getD 100 ≤ decision.effectiveDuty) ∧
  ∀ known, status.dutyPercent = some known → ∀ store duty ttlSeconds decision after, duty < known →
    requestOverride clock status (.int duty) ttlSeconds ⟨state, store⟩ ≠ .ok decision after

/-- A source counts as failed, or the known duty is no more than the minimum, or
none is known and a live override asks for full duty anyway. -/
def Held (state : ControlState) (clock : Clock) (status : BackendStatus) : Prop :=
  status.sensorOk = false ∨ status.temperatures.cpuC = none ∨
    status.temperatures.maxDriveC = none ∨
    (∃ known, status.dutyPercent = some known ∧ known ≤ 22) ∨
    (status.dutyPercent = none ∧
      ∃ override, state.liveOverride clock = some override ∧ override.dutyPercent.val = 100)

/-- The store of a policy that is in agreement with its file and whose writes succeed. -/
def durableStore (state : ControlState) : ControlStateStore where
  file := .document state.toJson
  attempts := 0
  outcomes := fun _ => .stored

theorem durable_durableStore (state : ControlState) : Durable ⟨state, durableStore state⟩ :=
  ⟨fun _ => rfl, ControlStateStore.loadFile_toJson state⟩

/-- What every tick in this situation asks for, whatever the store, is what the
table asks for. -/
theorem forall_evaluate_iff (state : ControlState) (clock : Clock) (status : BackendStatus)
    (bound : ℤ) :
    (∀ store decision after, evaluate clock status none none ⟨state, store⟩ = .ok decision after →
      bound ≤ decision.effectiveDuty) ↔
      bound ≤ status.band.duty state.previousHot status.dutyPercent
        ((state.liveOverride clock).map fun override => override.dutyPercent.val) := by
  refine ⟨?_, ?_⟩
  · intro hall
    obtain ⟨after, heq, -⟩ := (durable_durableStore state).evaluate clock status none none
    exact hall _ _ _ heq
  · intro hbound store decision after heq
    obtain ⟨rfl, -⟩ := evaluate_eq_ok heq
    exact hbound

/-- With both readings present no request is refused, so none below the known duty
is accepted only where there is no room below it. -/
theorem forall_request_iff {status : BackendStatus}
    (hband : status.band = .recovered ∨ status.band = .warm) (state : ControlState)
    (clock : Clock) (known : ℤ) :
    (∀ store duty ttlSeconds decision after, duty < known →
      requestOverride clock status (.int duty) ttlSeconds ⟨state, store⟩ ≠ .ok decision after) ↔
      known ≤ 22 := by
  refine ⟨?_, ?_⟩
  · intro hall
    by_contra hhigh
    have hduty : validDuty (.int 22) = some ⟨22, by decide⟩ := rfl
    have httl : validTtl .null = some ⟨defaultTtlSeconds, by decide⟩ := rfl
    rcases (durable_durableStore state).request hduty httl clock status with
      ⟨error, after, hrefusal, -⟩ | ⟨decision, after, -, heq, -⟩
    · rw [refusal_of_readings hband] at hrefusal
      cases hrefusal
    · exact hall _ 22 .null decision after (not_le.mp hhigh) heq
  · intro hlow store duty ttlSeconds decision after hbelow heq
    obtain ⟨accepted, ttl, hduty, -⟩ := valid_of_requestOverride_eq_ok heq
    cases validDuty_eq_some_iff.mp hduty
    exact absurd (hbelow.trans_le hlow) (not_lt.mpr accepted.property.1)

/-- Where a source counts as failed the fans are never lowered. -/
theorem neverLowers_of_failed {status : BackendStatus} (hband : status.band = .failed)
    (state : ControlState) (clock : Clock) : NeverLowers state clock status := by
  refine ⟨?_, ?_⟩
  · rw [forall_evaluate_iff, hband]
    exact Band.known_le_duty_failed _ _ _
  · intro known hknown store duty ttlSeconds decision after hlow heq
    obtain ⟨accepted, ttl, hduty, httl⟩ := valid_of_requestOverride_eq_ok heq
    obtain ⟨evaluation, between, hevaluate, hrefusal, -⟩ := requestOverride_eq_ok hduty httl heq
    obtain ⟨rfl, -⟩ := evaluate_eq_ok hevaluate
    cases validDuty_eq_some_iff.mp hduty
    rw [refusal_of_failed hband hknown hlow] at hrefusal
    cases hrefusal

/-- With both readings present, however little they mean, the fans are never
lowered only where there is nothing to lower. -/
theorem neverLowers_of_readings_iff {status : BackendStatus}
    (hband : status.band = .recovered ∨ status.band = .warm) (state : ControlState)
    (clock : Clock) :
    NeverLowers state clock status ↔
      (∃ known, status.dutyPercent = some known ∧ known ≤ 22) ∨
      (status.dutyPercent = none ∧
        ∃ override, state.liveOverride clock = some override ∧ override.dutyPercent.val = 100) := by
  rw [NeverLowers, forall_evaluate_iff]
  simp only [forall_request_iff hband]
  cases hknown : status.dutyPercent with
  | none => simp [Band.hundred_le_duty_iff hband]
  | some known =>
      have hminimum := Band.minimum_le_duty hband state.previousHot (some known)
        (state.liveOverride clock)
      simp only [Option.some.injEq, exists_eq_left', forall_eq', reduceCtorEq, false_and, or_false,
        Option.getD_some]
      exact ⟨fun hnever => hnever.2, fun hlow => ⟨hlow.trans hminimum, hlow⟩⟩

/-- Where no required reading is hot and one is unusable, the fans are never
lowered exactly in the situations `Held` lists. -/
theorem neverLowers_iff_held (state : ControlState) (clock : Clock) {status : BackendStatus}
    (gap : status.Gap) : NeverLowers state clock status ↔ Held state clock status := by
  rcases BackendStatus.band_of_not_hot gap.notHot with
    ⟨hband, hfailed⟩ | ⟨hband, hok, hcpu, hdrive⟩
  · apply iff_of_true (neverLowers_of_failed hband state clock)
    rcases hfailed with hsensor | hcpu | hdrive
    · exact .inl hsensor
    · exact .inr (.inl hcpu)
    · exact .inr (.inr (.inl hdrive))
  · rw [neverLowers_of_readings_iff hband]
    simp [Held, hok, hcpu, hdrive]

/-- A processor reading that is not a number, with a source that failed: held. -/
theorem neverLowers_nan_failed :
    NeverLowers ControlStateStore.defaultState (.ofInt 100)
      (readingStatus (some .nan) none (some 70) false) :=
  (neverLowers_iff_held _ _ ⟨by decide, .inr unusable_none⟩).mpr (.inl rfl)

/-- A processor reading that is not a number while the backend reports no failure:
a tick takes known 70% down to 22%. -/
theorem not_neverLowers_nan :
    ¬ ∀ (state : ControlState) (clock : Clock) (status : BackendStatus), status.Gap →
      NeverLowers state clock status := by
  intro hall
  have hgap : (readingStatus (some .nan) (degrees 40) (some 70)).Gap :=
    ⟨by decide, .inl unusable_nan⟩
  have hduty := (hall ControlStateStore.defaultState (.ofInt 100) _ hgap).1
    (ControlStateStore.fresh fun _ => .stored) _ _ rfl
  exact absurd hduty (by decide)

end SafetyPolicy

end TrueFan
