/-
# The safety table

The operator guide states the policy as a table: a status falls into one of four
bands, and the band, the incident latch, the known duty and the manual candidate
fix the duty to command. This module states that table as functions of their
own and proves that `evaluate` is: look at the override, update the latch, answer
from the table. Everything proved about decisions elsewhere goes through the
table; `evaluate` itself is taken apart only here.
-/

import TrueFan.Policy.Evaluate

namespace TrueFan

open Python

/-- How a status reads. `warm` is neither hot nor failed nor recovered; it
includes a present reading that is not a number. -/
inductive Band
  | hot
  | failed
  | recovered
  | warm
  deriving DecidableEq, Repr

/-- One of the two required readings is above its threshold. -/
abbrev BackendStatus.Hot (status : BackendStatus) : Prop :=
  (isHot status.temperatures.cpuC hotCpuC || isHot status.temperatures.maxDriveC hotDriveC) = true

/-- The band of a status. -/
def BackendStatus.band (status : BackendStatus) : Band :=
  if status.Hot then .hot
  else
    match status.sensorOk, status.temperatures.cpuC, status.temperatures.maxDriveC with
    | true, some cpu, some drive =>
        if atMost drive recoverDriveC && atMost cpu recoverCpuC then .recovered else .warm
    | _, _, _ => .failed

namespace BackendStatus

variable {status : BackendStatus}

theorem band_of_hot (hhot : status.Hot) : status.band = .hot := if_pos hhot

theorem band_of_readings (hhot : ¬ status.Hot) {cpu drive : PyFloat}
    (hok : status.sensorOk = true) (hcpu : status.temperatures.cpuC = some cpu)
    (hdrive : status.temperatures.maxDriveC = some drive) :
    status.band =
      if atMost drive recoverDriveC && atMost cpu recoverCpuC then .recovered else .warm := by
  rw [band, if_neg hhot, hok, hcpu, hdrive]

theorem band_of_missing (hhot : ¬ status.Hot)
    (hmissing : ∀ cpu drive, status.sensorOk = true → status.temperatures.cpuC = some cpu →
      status.temperatures.maxDriveC = some drive → False) :
    status.band = .failed := by
  rw [band, if_neg hhot]
  split
  next cpu drive hok hcpu hdrive => exact absurd hdrive (hmissing cpu drive hok hcpu)
  next => rfl

/-- A status that is not hot either counts as failed or has both readings. -/
theorem band_of_not_hot (hhot : ¬ status.Hot) :
    (status.band = .failed ∧ (status.sensorOk = false ∨ status.temperatures.cpuC = none ∨
        status.temperatures.maxDriveC = none)) ∨
      ((status.band = .recovered ∨ status.band = .warm) ∧ status.sensorOk = true ∧
        status.temperatures.cpuC ≠ none ∧ status.temperatures.maxDriveC ≠ none) := by
  cases hok : status.sensorOk with
  | false =>
      refine .inl ⟨band_of_missing hhot ?_, .inl rfl⟩
      intro cpu drive htrue
      rw [hok] at htrue
      cases htrue
  | true =>
      cases hcpu : status.temperatures.cpuC with
      | none =>
          refine .inl ⟨band_of_missing hhot ?_, .inr (.inl rfl)⟩
          intro cpu drive _ hsome
          rw [hcpu] at hsome
          cases hsome
      | some cpu =>
          cases hdrive : status.temperatures.maxDriveC with
          | none =>
              refine .inl ⟨band_of_missing hhot ?_, .inr (.inr rfl)⟩
              intro cpu drive _ _ hsome
              rw [hdrive] at hsome
              cases hsome
          | some drive =>
              refine .inr ⟨?_, rfl, nofun, nofun⟩
              rw [band_of_readings hhot hok hcpu hdrive]
              split
              · exact .inl rfl
              · exact .inr rfl

end BackendStatus

namespace Band

/-- A hot status opens an incident and a recovered one closes it. -/
def nextLatch (latched : Bool) : Band → Bool
  | .hot => true
  | .recovered => false
  | .failed => latched
  | .warm => latched

/-- The state a decision reports. -/
def safetyState (latched : Bool) : Band → SafetyState
  | .hot => .hot
  | .failed => .sensorFailure
  | .recovered => .normal
  | .warm => if latched then .cooling else .normal

/-- The duty the table asks for. -/
def duty (latched : Bool) (known candidate : Option ℤ) : Band → ℤ
  | .hot => 100
  | .failed => known.elim 100 fun known => candidate.elim known (max known)
  | .recovered => candidate.getD 22
  | .warm => if latched then max 50 (SafetyPolicy.orFifty candidate) else candidate.getD 22

/-- Whether the table locks the controls. -/
def locks (known requested : Option ℤ) : Band → Bool
  | .hot => requested.all fun requested => decide (requested < 100)
  | .failed => requested.all fun requested => known.any fun known => decide (requested < known)
  | .recovered => false
  | .warm => false

/-- The reason a decision gives. -/
def reason (latched : Bool) (candidate : Option ℤ) : Band → String
  | .hot => "hot_threshold"
  | .failed => "sensor_failure_fail_closed"
  | .recovered =>
      if candidate.isSome then "manual_override"
      else if latched then "recovered" else "normal_policy"
  | .warm =>
      if latched then "cooling_band"
      else if candidate.isSome then "manual_override" else "normal_policy"

/-- Where a source failed, the table asks for the known duty or more, and for full
duty where none is known. -/
theorem known_le_duty_failed (latched : Bool) (known candidate : Option ℤ) :
    known.getD 100 ≤ Band.failed.duty latched known candidate := by
  cases known with
  | none => exact le_rfl
  | some known =>
      cases candidate with
      | none => exact le_rfl
      | some candidate => exact le_max_left known candidate

/-- With both readings present, the table asks for the minimum or more. -/
theorem minimum_le_duty {band : Band} (hband : band = .recovered ∨ band = .warm) (latched : Bool)
    (known : Option ℤ) (override : Option Override) :
    22 ≤ band.duty latched known (override.map fun override => override.dutyPercent.val) := by
  have hcandidate : (22 : ℤ) ≤
      (override.map fun override => override.dutyPercent.val).getD 22 := by
    cases override with
    | none => exact le_rfl
    | some override => exact override.dutyPercent.property.1
  rcases hband with rfl | rfl
  · exact hcandidate
  · cases latched with
    | false => exact hcandidate
    | true => exact le_max_of_le_left (by norm_num)

/-- With both readings present, the table asks for no more than full duty. -/
theorem duty_le_hundred {band : Band} (hband : band = .recovered ∨ band = .warm) (latched : Bool)
    (known : Option ℤ) (override : Option Override) :
    band.duty latched known (override.map fun override => override.dutyPercent.val) ≤ 100 := by
  have hcandidate : (override.map fun override => override.dutyPercent.val).getD 22 ≤ 100 := by
    cases override with
    | none => exact (by decide : (22 : ℤ) ≤ 100)
    | some override => exact override.dutyPercent.property.2
  rcases hband with rfl | rfl
  · exact hcandidate
  · cases latched with
    | false => exact hcandidate
    | true =>
        apply max_le (by decide : (50 : ℤ) ≤ 100)
        cases override with
        | none => exact (by decide : (50 : ℤ) ≤ 100)
        | some override =>
            show (if override.dutyPercent.val = 0 then 50 else override.dutyPercent.val) ≤ 100
            split
            · decide
            · exact override.dutyPercent.property.2

/-- The table asks for no less than a request does. -/
theorem requested_le_duty (band : Band) (latched : Bool) (known : Option ℤ)
    (duty : DutyPercent) : duty.val ≤ band.duty latched known (some duty.val) := by
  obtain ⟨hmin, hmax⟩ := duty.property
  cases band with
  | hot => exact hmax
  | recovered => exact le_rfl
  | warm =>
      cases latched with
      | false => exact le_rfl
      | true =>
          apply le_max_of_le_right
          rw [SafetyPolicy.orFifty, if_neg (by omega)]
  | failed =>
      cases known with
      | none => exact hmax
      | some known => exact le_max_right known duty.val

/-- For a known duty that is a percentage, the table asks for a duty in range unless a
source failed with less than the minimum known and no override to raise it. -/
theorem duty_mem_range_iff (band : Band) (latched : Bool) {known : Option ℤ}
    (hknown : ∀ percent, known = some percent → percent ≤ 100) (override : Option Override) :
    (22 ≤ band.duty latched known (override.map fun override => override.dutyPercent.val) ∧
      band.duty latched known (override.map fun override => override.dutyPercent.val) ≤ 100) ↔
      ¬ (band = .failed ∧ (∃ percent, known = some percent ∧ percent < 22) ∧ override = none) := by
  cases band with
  | hot => exact iff_of_true (by decide : (22 : ℤ) ≤ 100 ∧ (100 : ℤ) ≤ 100) (by simp)
  | recovered =>
      exact iff_of_true ⟨minimum_le_duty (.inl rfl) _ _ _, duty_le_hundred (.inl rfl) _ _ _⟩
        (by simp)
  | warm =>
      exact iff_of_true ⟨minimum_le_duty (.inr rfl) _ _ _, duty_le_hundred (.inr rfl) _ _ _⟩
        (by simp)
  | failed =>
      cases known with
      | none => exact iff_of_true (by decide : (22 : ℤ) ≤ 100 ∧ (100 : ℤ) ≤ 100) (by simp)
      | some percent =>
          have hmax := hknown percent rfl
          cases override with
          | none =>
              show (22 ≤ percent ∧ percent ≤ 100) ↔ _
              simp [hmax]
          | some override =>
              obtain ⟨hlow, hhigh⟩ := override.dutyPercent.property
              apply iff_of_true
              · exact ⟨hlow.trans (le_max_right _ _), max_le hmax hhigh⟩
              · simp

/-- For a known duty in range the table asks for a duty in range. -/
theorem duty_mem_range_of_known (band : Band) (latched : Bool) {known : ℤ} (hmin : 22 ≤ known)
    (hmax : known ≤ 100) (override : Option Override) :
    22 ≤ band.duty latched (some known)
        (override.map fun override => override.dutyPercent.val) ∧
      band.duty latched (some known)
        (override.map fun override => override.dutyPercent.val) ≤ 100 := by
  apply (duty_mem_range_iff band latched _ override).mpr
  · rintro ⟨-, ⟨percent, hpercent, hlow⟩, -⟩
    cases hpercent
    exact absurd hmin (not_le.mpr hlow)
  · intro percent hpercent
    cases hpercent
    exact hmax

/-- With both readings present, only an override asks for full duty. -/
theorem hundred_le_duty_iff {band : Band} (hband : band = .recovered ∨ band = .warm)
    (latched : Bool) (known : Option ℤ) (override : Option Override) :
    100 ≤ band.duty latched known (override.map fun override => override.dutyPercent.val) ↔
      ∃ stored, override = some stored ∧ stored.dutyPercent.val = 100 := by
  cases override with
  | none =>
      apply iff_of_false
      · rcases hband with rfl | rfl
        · exact (by decide : ¬ (100 : ℤ) ≤ 22)
        · cases latched with
          | false => exact (by decide : ¬ (100 : ℤ) ≤ 22)
          | true => exact (by decide : ¬ (100 : ℤ) ≤ 50)
      · rintro ⟨stored, hsome, -⟩
        cases hsome
  | some override =>
      obtain ⟨hmin, hmax⟩ := override.dutyPercent.property
      have hexact : 100 ≤ override.dutyPercent.val ↔
          ∃ stored, some override = some stored ∧ stored.dutyPercent.val = 100 := by
        simp only [Option.some.injEq, exists_eq_left']
        exact ⟨fun hle => le_antisymm hmax hle, fun heq => heq.ge⟩
      rw [← hexact]
      rcases hband with rfl | rfl
      · rfl
      · cases latched with
        | false => rfl
        | true =>
            have hne : override.dutyPercent.val ≠ 0 := by omega
            show 100 ≤ max 50 (SafetyPolicy.orFifty (some override.dutyPercent.val)) ↔ _
            simp [SafetyPolicy.orFifty, hne]

/-- The known duty is what the table asks for. -/
def Keeps (latched : Bool) (known : ℤ) (asked : Option ℤ) : Band → Prop
  | .hot => known = 100
  | .failed => ∀ duty ∈ asked, duty ≤ known
  | .recovered => known = asked.getD 22
  | .warm => known = if latched then max 50 (asked.getD 50) else asked.getD 22

instance (latched : Bool) (known : ℤ) (asked : Option ℤ) :
    (band : Band) → Decidable (band.Keeps latched known asked)
  | .hot => inferInstanceAs (Decidable (known = 100))
  | .failed => inferInstanceAs (Decidable (∀ duty ∈ asked, duty ≤ known))
  | .recovered => inferInstanceAs (Decidable (known = asked.getD 22))
  | .warm => inferInstanceAs (Decidable (known = if latched then _ else _))

theorem duty_eq_known_iff (band : Band) (latched : Bool) (known : ℤ) (override : Option Override) :
    band.duty latched (some known) (override.map fun override => override.dutyPercent.val) =
        known ↔
      band.Keeps latched known (override.map fun override => override.dutyPercent.val) := by
  cases band with
  | hot => exact eq_comm
  | recovered => exact eq_comm
  | failed =>
      cases override with
      | none => exact iff_of_true rfl nofun
      | some override =>
          show max known override.dutyPercent.val = known ↔ _
          simp [Keeps]
  | warm =>
      cases latched with
      | false => exact eq_comm
      | true =>
          cases override with
          | none => exact eq_comm
          | some override =>
              have hne : override.dutyPercent.val ≠ 0 := by
                have := override.dutyPercent.property.1
                omega
              show max 50 (SafetyPolicy.orFifty (some override.dutyPercent.val)) = known ↔
                known = max 50 override.dutyPercent.val
              rw [SafetyPolicy.orFifty, if_neg hne]
              exact eq_comm

end Band

/-- The row of the table for a status, a latch, a request and a stored override. -/
def tableDecision (latched : Bool) (status : BackendStatus) (requestedDuty : Option ℤ)
    (override : Option Override) : SafetyDecision :=
  let candidate := requestedDuty <|> override.map fun override => override.dutyPercent.val
  { state := status.band.safetyState latched
    effectiveDuty := status.band.duty latched status.dutyPercent candidate
    reason := status.band.reason latched candidate
    controlsLocked := status.band.locks status.dutyPercent requestedDuty
    overrideExpiresAt := override.map Override.expiry }

/-! ## `evaluate` reads the table -/

namespace PolicyObject

variable {ε σ τ : Type} (object : PolicyObject ε σ τ)

/-- Bring the latch to its next value, and persist it if that is a change. -/
def updateLatch (latched next : Bool) : EStateM ε σ Unit := do
  if latched ≠ next then
    object.setPreviousHot next
    object.save

/-- Update the latch for a status and answer from the table. -/
def fromTable (status : BackendStatus) (requestedDuty : Option ℤ)
    (override : Option Override) : EStateM ε σ SafetyDecision := do
  let latched := object.previousHot (← get)
  object.updateLatch latched (status.band.nextLatch latched)
  return tableDecision latched status requestedDuty override

/-- What is held reads as the override. -/
structure ReadsAs (held : τ) (override : Override) : Prop where
  truthy : object.truthy held = true
  duty : object.dutyOf held = .ok override.dutyPercent.val
  expiry : object.expiryOf held = .ok override.expiry

/-- A latch that moves is persisted before a value is returned. -/
theorem updateLatch_moved {α : Type} (latched : Bool) (value : α) :
    (do object.updateLatch latched (!latched); return value) = (do
      object.setPreviousHot (!latched)
      object.save
      return value) := by
  rw [updateLatch, if_pos (by cases latched <;> decide), bind_assoc]

/-- A method that goes by the table from each latch answers from the table. -/
theorem eq_fromTable {method : EStateM ε σ SafetyDecision} {status : BackendStatus}
    {requestedDuty : Option ℤ} {override : Option Override}
    (h : ∀ state latched, object.previousHot state = latched →
      method state = (do
        object.updateLatch latched (status.band.nextLatch latched)
        return tableDecision latched status requestedDuty override) state) :
    method = object.fromTable status requestedDuty override := by
  funext state
  exact h state _ rfl

theorem hotDecision_eq {status : BackendStatus} (hband : status.band = .hot)
    (requestedDuty : Option ℤ) (override : Option Override) :
    object.hotDecision requestedDuty (override.map Override.expiry) =
      object.fromTable status requestedDuty override := by
  refine object.eq_fromTable fun state latched hlatched => ?_
  rw [hotDecision, get_bind_apply, hlatched, tableDecision, hband]
  cases latched with
  | false => exact (congrFun (object.updateLatch_moved false _) state).symm
  | true => rfl

theorem readingsDecision_eq {status : BackendStatus} {cpu drive : PyFloat}
    (hband : status.band =
      if atMost drive recoverDriveC && atMost cpu recoverCpuC then .recovered else .warm)
    (requestedDuty : Option ℤ) (override : Option Override) :
    object.readingsDecision cpu drive requestedDuty
        (override.map fun override => override.dutyPercent.val) (override.map Override.expiry) =
      object.fromTable status requestedDuty override := by
  refine object.eq_fromTable fun state latched hlatched => ?_
  rw [readingsDecision, get_bind_apply, hlatched, tableDecision, hband]
  -- both sides branch on recovery and on the latch alone
  generalize (atMost drive recoverDriveC && atMost cpu recoverCpuC) = recovered
  cases recovered with
  | false => cases latched <;> rfl
  | true =>
      cases latched with
      | false => rfl
      | true => exact (congrFun (object.updateLatch_moved true _) state).symm

theorem sensorFailureDecision_eq {status : BackendStatus} (hband : status.band = .failed)
    (requestedDuty : Option ℤ) (override : Option Override) :
    pure (SafetyPolicy.sensorFailureDecision status requestedDuty
        (override.map fun override => override.dutyPercent.val) (override.map Override.expiry)) =
      object.fromTable status requestedDuty override := by
  have hrow (latched : Bool) :
      SafetyPolicy.sensorFailureDecision status requestedDuty
          (override.map fun override => override.dutyPercent.val) (override.map Override.expiry) =
        tableDecision latched status requestedDuty override := by
    rw [SafetyPolicy.sensorFailureDecision, tableDecision, hband]
    cases status.dutyPercent with
    | none => cases requestedDuty <;> rfl
    | some known =>
        cases requestedDuty with
        | none => rfl
        | some requested => simp [Band.safetyState, Band.duty, Band.reason, Band.locks]
  refine object.eq_fromTable fun state latched hlatched => ?_
  rw [hrow latched, hband]
  cases latched <;> rfl

theorem decision_eq (status : BackendStatus) (requestedDuty : Option ℤ)
    (override : Option Override) :
    object.decision status requestedDuty
        (override.map fun override => override.dutyPercent.val) (override.map Override.expiry) =
      object.fromTable status requestedDuty override := by
  rw [decision, SafetyPolicy.requiredTemperatures]
  dsimp only
  by_cases hhot : status.Hot
  · rw [if_pos hhot, object.hotDecision_eq (BackendStatus.band_of_hot hhot)]
  · rw [if_neg hhot]
    split
    next cpu drive hok hcpu hdrive =>
      exact object.readingsDecision_eq (BackendStatus.band_of_readings hhot hok hcpu hdrive) _ _
    next hmissing =>
      exact object.sensorFailureDecision_eq (BackendStatus.band_of_missing hhot hmissing) _ _

theorem ifHeld_eq {α : Type} {read : τ → Except Failure α} {value : Override → α}
    (hread : ∀ {held override}, object.ReadsAs held override → read held = .ok (value override))
    {held : Option τ} {override : Option Override}
    (h : Option.Rel object.ReadsAs held override) :
    object.ifHeld read held = pure (override.map value) := by
  cases h with
  | none => rfl
  | some hreads =>
      rw [ifHeld, if_pos hreads.truthy, hread hreads]
      rfl

/-- `evaluate` in normal form, once the override is known. -/
theorem evaluate_eq (clock : Clock) (status : BackendStatus) (requestedDuty : Option ℤ)
    (now : Option Clock) :
    ∃ rest, object.evaluate clock status requestedDuty now =
        object.activeOverride (now.getD clock) >>= rest ∧
      ∀ {held override}, Option.Rel object.ReadsAs held override →
        rest held = object.fromTable status requestedDuty override := by
  refine ⟨_, rfl, fun {held override} h => ?_⟩
  rw [object.ifHeld_eq ReadsAs.duty h, object.ifHeld_eq ReadsAs.expiry h, pure_bind, pure_bind,
    object.decision_eq]

end PolicyObject

namespace SafetyPolicy

theorem readsAs_self (override : Override) : object.ReadsAs override override := ⟨rfl, rfl, rfl⟩

/-- `evaluate` in normal form: look at the override, update the latch, answer
from the table. -/
theorem evaluate_eq (clock : Clock) (status : BackendStatus) (requestedDuty : Option ℤ)
    (now : Option Clock) :
    evaluate clock status requestedDuty now =
      (do object.fromTable status requestedDuty (← activeOverride (now.getD clock))) := by
  obtain ⟨rest, hevaluate, hrest⟩ := object.evaluate_eq clock status requestedDuty now
  rw [evaluate, hevaluate]
  apply bind_congr
  intro override
  apply hrest
  cases override with
  | none => exact .none
  | some override => exact .some (readsAs_self override)

/-- The policy refuses a duty below what it insists on: full duty when hot, the known
duty where a source failed. -/
def Refused (status : BackendStatus) (duty : ℤ) : Prop :=
  (status.band = .hot ∧ duty < 100) ∨
    (status.band = .failed ∧ ∃ known, status.dutyPercent = some known ∧ duty < known)

theorem refusal_ne_none_iff (latched : Bool) (status : BackendStatus) (duty : ℤ)
    (override : Option Override) :
    refusal status duty (tableDecision latched status (some duty) override) ≠ none ↔
      Refused status duty := by
  have hstate : (tableDecision latched status (some duty) override).state =
      status.band.safetyState latched := rfl
  rw [refusal, hstate, Refused]
  cases hband : status.band with
  | hot => by_cases hlow : duty < 100 <;> simp [Band.safetyState, hlow]
  | failed =>
      cases hknown : status.dutyPercent with
      | none => simp [Band.safetyState]
      | some known => by_cases hlow : duty < known <;> simp [Band.safetyState, hlow]
  | recovered => simp [Band.safetyState]
  | warm => cases latched <;> simp [Band.safetyState]

/-- With both readings present no request is refused. -/
theorem refusal_of_readings {status : BackendStatus}
    (hband : status.band = .recovered ∨ status.band = .warm) (latched : Bool) (duty : ℤ)
    (override : Option Override) :
    refusal status duty (tableDecision latched status (some duty) override) = none := by
  rw [refusal, tableDecision]
  rcases hband with hband | hband
  · rw [hband]
    rfl
  · rw [hband]
    cases latched <;> rfl

/-- Where a source failed, a request below the known duty is refused. -/
theorem refusal_of_failed {status : BackendStatus} (hband : status.band = .failed) {known duty : ℤ}
    (hknown : status.dutyPercent = some known) (hlow : duty < known) (latched : Bool)
    (override : Option Override) :
    refusal status duty (tableDecision latched status (some duty) override) =
      some (.safetyLocked "Sensor failure forbids lowering known fan duty") := by
  rw [refusal, tableDecision, hband, hknown]
  simp [Band.safetyState, hlow]

end SafetyPolicy

end TrueFan
