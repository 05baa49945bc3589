/-
# A tick on one PWM channel

A tick writes unless the status already reports manual mode at the duty it wants. The
adapter reports manual mode as soon as the channel can be read, whatever its enable
file says, and it reports the clamp of what the channel holds. So the write that a
tick omits may be one that was needed; a write that returned is always sound.
-/

import TrueFan.Hwmon.Backend
import TrueFan.Service.Calls

namespace TrueFan

open Python Foundations

/-- The percentage a raw value stands for, unclamped. -/
def rawPercent (raw : ℤ) : ℤ := roundQuotient (raw * 100) 255

/-- The raw value of a duty in range stands for that duty. -/
theorem rawPercent_percentToPwm {duty : ℤ} (hmin : 22 ≤ duty) (hmax : duty ≤ 100) :
    rawPercent (percentToPwm duty) = duty := by
  have hall : ∀ duty : Fin 101, 22 ≤ duty.val →
      rawPercent (percentToPwm duty.val) = (duty.val : ℤ) := by
    decide +kernel
  lift duty to ℕ using by omega
  exact hall ⟨duty, by omega⟩ (by exact_mod_cast hmin)

/-- The text of the raw value of a duty in range reads as that value. -/
theorem parseInt_printInt_percentToPwm {duty : ℤ} (hmin : 22 ≤ duty) (hmax : duty ≤ 100) :
    parseInt (strip (printInt (percentToPwm duty))) = some (percentToPwm duty) := by
  have hall : ∀ duty : Fin 101, 22 ≤ duty.val →
      parseInt (strip (printInt (percentToPwm duty.val))) = some (percentToPwm duty.val) := by
    decide +kernel
  lift duty to ℕ using by omega
  exact hall ⟨duty, by omega⟩ (by exact_mod_cast hmin)

/-- A byte stands for a percentage, and from 55 on for one that the clamp keeps. -/
theorem rawPercent_byte (raw : Fin 256) :
    rawPercent raw.val ≤ 100 ∧ (22 ≤ rawPercent raw.val ↔ 55 ≤ raw.val) := by
  revert raw
  decide +kernel

theorem pwmToPercent_byte (raw : Fin 256) :
    pwmToPercent raw.val = clampPercent (rawPercent raw.val) := by
  have hbyte : max 0 (min 255 (raw.val : ℤ)) = raw.val := by omega
  rw [pwmToPercent, hbyte, rawPercent]

/-- What a byte reads as is what it stands for exactly from 55 on. -/
theorem rawPercent_eq_pwmToPercent_iff (raw : Fin 256) :
    rawPercent raw.val = pwmToPercent raw.val ↔ 55 ≤ raw.val := by
  obtain ⟨hmax, hmin⟩ := rawPercent_byte raw
  rw [pwmToPercent_byte, ← hmin]
  constructor
  · intro heq
    rw [heq]
    exact minimum_le_clampPercent _
  · intro hle
    exact (clampPercent_of_mem hle hmax).symm

/-- The whole number a file holds. -/
def storedInt (tree : FileTree) (path : Path) : Option ℤ :=
  match tree.stored path with
  | some (.text text) => parseInt (strip text)
  | _ => none

/-- The tree has one PWM channel, which can be read and holds the raw value; its enable
file, if it has one, is another file. -/
structure OneChannel (tree : FileTree) (pwm : Path) (raw : Fin 256) : Prop where
  discovered : discoverPwmFiles tree.layout = [pwm]
  reads : readInt tree pwm = some (raw.val : ℤ)
  apart : tree.layout.resolve (enablePath pwm) ≠ tree.layout.resolve pwm

theorem OneChannel.plain {tree : FileTree} {pwm : Path} {raw : Fin 256}
    (one : OneChannel tree pwm raw) : Plain pwm := by
  apply plain_of_mem_discoverPwmFiles
  rw [one.discovered]
  exact List.mem_singleton_self pwm

/-- The channel is under manual control: its enable file, if there is one, holds 1. -/
def ManualControl (tree : FileTree) (pwm : Path) : Prop :=
  tree.layout.isFile (enablePath pwm) = true → storedInt tree (enablePath pwm) = some 1

/-- The channel is under manual control at the duty, unclamped. -/
def SettledAt (tree : FileTree) (pwm : Path) (duty : ℤ) : Prop :=
  ManualControl tree pwm ∧ ∃ raw, storedInt tree pwm = some raw ∧ rawPercent raw = duty

theorem storedInt_of_readInt {tree : FileTree} {path : Path} {number : ℤ}
    (h : readInt tree path = some number) : storedInt tree path = some number := by
  rw [readInt] at h
  split at h
  next text hread =>
    rw [storedInt, (FileTree.read_eq_ok_iff.mp hread).2]
    exact h
  next => cases h

theorem isFile_of_readInt {tree : FileTree} {path : Path} {number : ℤ}
    (h : readInt tree path = some number) : tree.layout.isFile path = true := by
  rw [readInt] at h
  split at h
  next text hread =>
    obtain ⟨writable, hentry⟩ := (FileTree.read_eq_ok_iff.mp hread).1
    rw [Layout.isFile, hentry]
  next => cases h

namespace HwmonPwmBackend

variable {Sensors : Type} {order : IterationOrder}
  {sensorReader : FileTree → EStateM Failure Sensors HwmonSensors}
  {tree : FileTree} {pwm : Path} {raw : Fin 256}

/-- A status of one channel reports manual mode at the clamp of the raw value. -/
theorem status_of_oneChannel (one : OneChannel tree pwm raw) {sensors : Sensors}
    {after : FileTree × Sensors} {status : BackendStatus}
    (h : (ofReader order sensorReader).status (tree, sensors) = .ok status after) :
    after.1 = tree ∧ status.mode = .manual ∧ status.dutyPercent = some (pwmToPercent raw.val) := by
  obtain ⟨reading, -, htree, rfl⟩ := status_eq_ok h
  have hraw : (ofReader order sensorReader).read
      ((ofReader order sensorReader).discover tree.layout) tree = some (raw.val : ℤ) := by
    show readCurrentPwm (discoverPwmFiles tree.layout) tree = some (raw.val : ℤ)
    rw [one.discovered, readCurrentPwm, List.findSome?_cons, purePath_of_plain one.plain, one.reads]
  rw [hraw]
  exact ⟨htree, rfl, rfl⟩

/-- The layout decides where a write goes: to the one channel. -/
theorem target_eq_of_discovered {layout : Layout} {target : Path}
    (hdiscovered : discoverPwmFiles layout = [pwm]) (h : Targets layout [pwm] target) :
    target = pwm := by
  rcases h with ⟨hpath, -⟩ | hfound
  · exact List.mem_singleton.mp hpath
  · rw [hdiscovered] at hfound
    exact List.mem_singleton.mp hfound

/-- After `1` has been written to the enable file, if there is one, the channel is under
manual control. -/
theorem manualControl_of_enabled {between : FileTree} (h : Enabled pwm tree between) :
    between.layout = tree.layout ∧ ManualControl between pwm := by
  rw [Enabled] at h
  split at h
  next hfile =>
    refine ⟨FileTree.layout_of_write hfile h, fun _ => ?_⟩
    rw [storedInt, FileTree.stored_of_write hfile h]
    decide
  next hnone =>
    subst h
    exact ⟨rfl, fun hfile => absurd hfile hnone⟩

/-- A command in range that returned settled the channel there. -/
theorem settledAt_of_setDutyPercent (one : OneChannel tree pwm raw) {sensors : Sensors}
    {after : FileTree × Sensors} {duty : ℤ} {readback : BackendStatus}
    (hmin : 22 ≤ duty) (hmax : duty ≤ 100)
    (h : (ofReader order sensorReader).setDutyPercent duty (tree, sensors) = .ok readback after) :
    SettledAt after.1 pwm duty := by
  obtain ⟨target, hwrite, -⟩ := setDutyPercent_eq_ok h
  have hwrite' : writePwmValue order (percentToPwm (clampPercent duty))
      (discoverPwmFiles tree.layout) tree = .ok (some target) after.1 := hwrite
  rw [clampPercent_of_mem hmin hmax, one.discovered] at hwrite'
  rcases writePwmValue_eq_ok hwrite' with
    ⟨hnone, -⟩ | ⟨_, between, htarget, htargets, -, henabled, hstore⟩
  · cases hnone
  cases htarget
  obtain rfl := target_eq_of_discovered one.discovered htargets
  rw [purePath_of_plain one.plain] at hstore
  obtain ⟨hlayout, hmanual⟩ := manualControl_of_enabled henabled
  -- the enable file is another file, so storing the value leaves it alone
  have hapart : between.layout.resolve (enablePath target) ≠ between.layout.resolve target := by
    rw [hlayout]
    exact one.apart
  have hpwm : between.layout.isFile target = true := by
    rw [hlayout]
    exact isFile_of_readInt one.reads
  refine ⟨?_, percentToPwm duty, ?_, rawPercent_percentToPwm hmin hmax⟩
  · intro hfile
    rw [FileTree.layout_of_write hpwm hstore] at hfile
    rw [storedInt, FileTree.stored_of_write_of_ne hpwm hstore hapart]
    exact hmanual hfile
  · rw [storedInt, FileTree.stored_of_write hpwm hstore]
    exact parseInt_printInt_percentToPwm hmin hmax

/-- A tree as it stands is settled at what its channel reads as, if that is sound. -/
theorem settledAt_reading_iff (one : OneChannel tree pwm raw) :
    SettledAt tree pwm (pwmToPercent raw.val) ↔ ManualControl tree pwm ∧ 55 ≤ raw.val := by
  rw [SettledAt, ← rawPercent_eq_pwmToPercent_iff, storedInt_of_readInt one.reads]
  simp only [Option.some.injEq, exists_eq_left']

/-- For the duty of one channel the policy asks for a duty in range. -/
theorem duty_mem_range (band : Band) (latched : Bool) (raw : Fin 256)
    (override : Option Override) :
    22 ≤ band.duty latched (some (pwmToPercent raw.val))
        (override.map fun override => override.dutyPercent.val) ∧
      band.duty latched (some (pwmToPercent raw.val))
        (override.map fun override => override.dutyPercent.val) ≤ 100 :=
  Band.duty_mem_range_of_known band latched (minimum_le_clampPercent _)
    (clampPercent_le_maximum _) override

/-- The tick finds nothing to write: what the channel reads as is the duty the policy
asks for. -/
def Omits (clock : Clock) (service : ControlService (FileTree × Sensors))
    (before : BackendStatus) (raw : Fin 256) : Prop :=
  before.band.Keeps service.policy.state.previousHot (pwmToPercent raw.val)
    ((service.policy.state.liveOverride clock).map fun override => override.dutyPercent.val)

instance (clock : Clock) (service : ControlService (FileTree × Sensors)) (before : BackendStatus)
    (raw : Fin 256) : Decidable (Omits clock service before raw) :=
  inferInstanceAs (Decidable (Band.Keeps ..))

/-- After a tick that returned, the channel is under manual control at the published
duty, unless the tick found nothing to write on a channel that was not under manual
control or was below the minimum. -/
theorem settledAt_iff_sound {clock : Clock} {service after : ControlService (FileTree × Sensors)}
    {payload : StatusPayload} {before : BackendStatus} {hardware : FileTree × Sensors}
    (one : OneChannel service.hardware.1 pwm raw)
    (hstatus : (ofReader order sensorReader).toFanBackend.status service.hardware =
      .ok before hardware)
    (h : ControlService.tick (ofReader order sensorReader).toFanBackend clock service =
      .ok payload after) :
    SettledAt after.hardware.1 pwm payload.safety.effectiveDuty ↔
      (Omits clock service before raw →
        ManualControl service.hardware.1 pwm ∧ 55 ≤ raw.val) := by
  obtain ⟨before', hardware', hstatus', hasked, hcommand⟩ := ControlService.tick_eq_ok h
  rw [hstatus] at hstatus'
  cases hstatus'
  obtain ⟨htree, hmode, hknown⟩ := status_of_oneChannel one hstatus
  have hrange : 22 ≤ payload.safety.effectiveDuty ∧ payload.safety.effectiveDuty ≤ 100 := by
    rw [hasked, hknown]
    exact duty_mem_range _ _ _ _
  have homits : Omits clock service before raw ↔
      ControlService.InPlace before payload.safety.effectiveDuty := by
    rw [Omits, ← Band.duty_eq_known_iff, ← hknown, ← hasked, ControlService.InPlace, hknown,
      Option.some.injEq, eq_comm]
    exact (and_iff_right hmode).symm
  rw [homits]
  rcases hcommand with ⟨hplace, hafter⟩ | ⟨hplace, hset⟩
  · have hduty : pwmToPercent raw.val = payload.safety.effectiveDuty :=
      Option.some.inj (hknown.symm.trans hplace.2)
    rw [imp_iff_right hplace, hafter, htree, ← hduty]
    exact settledAt_reading_iff one
  · obtain ⟨tree, sensors⟩ := hardware
    subst htree
    exact iff_of_true (settledAt_of_setDutyPercent one hrange.1 hrange.2 hset)
      fun hplace' => absurd hplace' hplace

/-! ## Two ticks -/

/-- A reader of cool readings. -/
def coolReader (_ : FileTree) : EStateM Failure Unit HwmonSensors :=
  return ⟨some { emptyTemperatures with cpuC := degrees 40, maxDriveC := degrees 30 }, none, true⟩

/-- The order in which members were added. -/
def insertionOrder : IterationOrder where
  members := List.dedup
  perm _ := .rfl

/-- One channel with an enable file. -/
def pwmDevice (rawPwm enable : String) : Device :=
  ("hwmon0".toList, [("pwm1".toList, rawPwm.toList), ("pwm1_enable".toList, enable.toList)])

/-- The path of its channel. -/
def pwm1 : Path := hwmonRoot ++ ["hwmon0".toList, "pwm1".toList]

/-- A channel in automatic mode at half speed. -/
def automaticTree : FileTree := deviceTree [pwmDevice "128" "2"] (by decide +kernel)

/-- A channel in manual mode at a standstill. -/
def stoppedTree : FileTree := deviceTree [pwmDevice "0" "1"] (by decide +kernel)

theorem oneChannel_automaticTree : OneChannel automaticTree pwm1 128 where
  discovered := by decide +kernel
  reads := by decide +kernel
  apart := by decide +kernel

theorem oneChannel_stoppedTree : OneChannel stoppedTree pwm1 0 where
  discovered := by decide +kernel
  reads := by decide +kernel
  apart := by decide +kernel

/-- A tick on a cool machine takes an automatic channel at half speed to the minimum,
under manual control. -/
theorem settledAt_after_write :
    ∃ payload after,
      ControlService.tick (ofReader insertionOrder coolReader).toFanBackend (.ofInt 100)
        (.init (automaticTree, ()) (.fresh fun _ => .stored)) = .ok payload after ∧
      SettledAt after.hardware.1 pwm1 payload.safety.effectiveDuty := by
  have hticked : (returned (ControlService.tick (ofReader insertionOrder coolReader).toFanBackend
      (.ofInt 100) (.init (automaticTree, ()) (.fresh fun _ => .stored)))).isSome = true := by
    decide +kernel
  obtain ⟨payload, after, htick⟩ := returned_isSome_iff.mp hticked
  obtain ⟨before, hardware, hstatus, -⟩ := ControlService.tick_eq_ok htick
  refine ⟨payload, after, htick,
    (settledAt_iff_sound oneChannel_automaticTree hstatus htick).mpr ?_⟩
  obtain ⟨reading, hreading, -, rfl⟩ := status_eq_ok hstatus
  cases hreading
  intro homits
  exact absurd homits (by decide +kernel)

/-- A tick on a cool machine writes nothing to a stopped channel: its raw value of 0 reads
as the minimum. -/
theorem not_settledAt_after_tick :
    ¬ ∀ (tree : FileTree) (pwm : Path) (raw : Fin 256) (policy : SafetyPolicy) (clock : Clock)
        (payload : StatusPayload) (after : ControlService (FileTree × Unit)),
      OneChannel tree pwm raw →
      ControlService.tick (ofReader insertionOrder coolReader).toFanBackend clock
        (.init (tree, ()) policy) = .ok payload after →
      SettledAt after.hardware.1 pwm payload.safety.effectiveDuty := by
  intro hall
  have hduty : (returned (ControlService.tick (ofReader insertionOrder coolReader).toFanBackend
      (.ofInt 100) (.init (stoppedTree, ()) (.fresh fun _ => .stored)))).map
        (fun payload => payload.safety.effectiveDuty) = some 22 := by
    decide +kernel
  have hraw : storedInt (resultState (ControlService.tick
      (ofReader insertionOrder coolReader).toFanBackend (.ofInt 100)
        (.init (stoppedTree, ()) (.fresh fun _ => .stored)))).hardware.1 pwm1 = some 0 := by
    decide +kernel
  obtain ⟨payload, hpayload, hduty⟩ := Option.map_eq_some_iff.mp hduty
  obtain ⟨after, htick⟩ := returned_eq_some_iff.mp hpayload
  obtain ⟨-, raw, hstored, hpercent⟩ := hall _ _ _ _ _ payload after oneChannel_stoppedTree htick
  rw [htick, resultState_ok] at hraw
  cases hraw.symm.trans hstored
  rw [hduty] at hpercent
  exact absurd hpercent (by decide +kernel)

end HwmonPwmBackend

end TrueFan
