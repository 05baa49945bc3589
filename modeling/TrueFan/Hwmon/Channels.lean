/-
# A command on many PWM channels

A command writes one channel, the first it discovered or any, and verifies what the first
readable one holds. The other channels keep what they hold, so the command reaches every
channel only where they held the commanded value before it.
-/

import TrueFan.Hwmon.Tick

namespace TrueFan

open Python Foundations

theorem isFile_of_discovered {layout : Layout} {root : LiteralPath} {pwm : Path}
    (h : pwm ∈ discoverPwmFiles layout root) : layout.isFile pwm = true := by
  rw [discoverPwmFiles, List.mem_map] at h
  obtain ⟨path, hpath, rfl⟩ := h
  have hsafe := (List.mem_filter.mp hpath).2
  rw [safePwmPath, Bool.and_eq_true] at hsafe
  exact hsafe.2

theorem storedInt_of_stored {tree after : FileTree} {path : Path}
    (h : after.stored path = tree.stored path) : storedInt after path = storedInt tree path := by
  rw [storedInt, h, storedInt]

/-- The raw value of a duty in range is more than one. -/
theorem percentToPwm_clampPercent_ne_one (percent : ℤ) :
    percentToPwm (clampPercent percent) ≠ 1 := by
  have hmin := minimum_le_clampPercent percent
  have hmax := clampPercent_le_maximum percent
  intro hone
  have hraw := rawPercent_percentToPwm hmin hmax
  rw [hone] at hraw
  have hzero : rawPercent 1 = 0 := by decide +kernel
  omega

/-- A write that returned a channel was to the selected one. -/
theorem writePwmValue_eq_some {order : IterationOrder} {rawPwm : ℤ} {paths : List Path}
    {tree after : FileTree} {target : Path}
    (h : writePwmValue order rawPwm paths tree = .ok (some target) after) :
    pwmTarget order tree.layout paths = some target ∧
      ∃ between, Enabled target tree between ∧
        between.write (purePath target) (printInt rawPwm) = some after := by
  rw [writePwmValue, get_bind_apply] at h
  cases hselected : pwmTarget order tree.layout paths with
  | none =>
      rw [hselected] at h
      cases h
  | some selected =>
      rw [hselected] at h
      dsimp only at h
      split at h
      next =>
        obtain ⟨_, between, henable, h⟩ := bind_eq_ok h
        obtain ⟨_, after', hwrite, h⟩ := bind_eq_ok h
        cases h
        exact ⟨rfl, between, enabled_of_writeEnable henable, writeText_eq_ok hwrite⟩
      next => cases h

namespace HwmonPwmBackend

variable {Sensors : Type} {order : IterationOrder}
  {sensorReader : FileTree → EStateM Failure Sensors HwmonSensors}

/-- The command leaves the channel at the raw value: it is the one the command writes, or
it holds the value and is not what the enable file of that one leads to. -/
def Reached (tree : FileTree) (target : Path) (raw : ℤ) (pwm : Path) : Prop :=
  tree.layout.resolve pwm = tree.layout.resolve target ∨
    storedInt tree pwm = some raw ∧
      ¬ (tree.layout.isFile (enablePath target) = true ∧
        tree.layout.resolve pwm = tree.layout.resolve (enablePath target))

/-- What a channel holds after the enable file and the target have been written. -/
theorem storedInt_after_write {tree between after : FileTree} {target : Path} {percent : ℤ}
    (htarget : tree.layout.isFile target = true) (henabled : Enabled target tree between)
    (hstore : between.write target (printInt (percentToPwm (clampPercent percent))) =
      some after) (pwm : Path) :
    after.layout = tree.layout ∧
      (storedInt after pwm = some (percentToPwm (clampPercent percent)) ↔
        Reached tree target (percentToPwm (clampPercent percent)) pwm) := by
  have hlayout := (manualControl_of_enabled henabled).1
  have hfile : between.layout.isFile target = true := by
    rw [hlayout]
    exact htarget
  refine ⟨(FileTree.layout_of_write hfile hstore).trans hlayout, ?_⟩
  rw [Reached]
  by_cases hsame : tree.layout.resolve pwm = tree.layout.resolve target
  · apply iff_of_true _ (.inl hsame)
    have hstored := FileTree.stored_of_write hfile hstore
    have hresolve : after.layout.resolve pwm = after.layout.resolve target := by
      rw [FileTree.layout_of_write hfile hstore, hlayout]
      exact hsame
    rw [FileTree.stored, ← hresolve] at hstored
    rw [storedInt, FileTree.stored, hstored]
    exact parseInt_printInt_percentToPwm (minimum_le_clampPercent percent)
      (clampPercent_le_maximum percent)
  · have hother : between.layout.resolve pwm ≠ between.layout.resolve target := by
      rw [hlayout]
      exact hsame
    rw [storedInt_of_stored (FileTree.stored_of_write_of_ne hfile hstore hother),
      or_iff_right hsame]
    rw [Enabled] at henabled
    split at henabled
    next henable =>
      by_cases hlink : tree.layout.resolve pwm = tree.layout.resolve (enablePath target)
      · apply iff_of_false
        · have hstored := FileTree.stored_of_write henable henabled
          have hresolve : between.layout.resolve pwm =
              between.layout.resolve (enablePath target) := by
            rw [hlayout]
            exact hlink
          rw [FileTree.stored, ← hresolve] at hstored
          rw [storedInt, FileTree.stored, hstored]
          intro hone
          exact percentToPwm_clampPercent_ne_one percent (Option.some.inj hone).symm
        · exact fun h => h.2 ⟨henable, hlink⟩
      · rw [storedInt_of_stored (FileTree.stored_of_write_of_ne henable henabled hlink)]
        exact (and_iff_left fun h => hlink h.2).symm
    next hnone =>
      subst henabled
      exact (and_iff_left fun h => hnone h.1).symm

/-- The channels that are not written hold the raw value. -/
def Covers (order : IterationOrder) (tree : FileTree) (raw : ℤ) : Prop :=
  ∃ target, pwmTarget order tree.layout (discoverPwmFiles tree.layout) = some target ∧
    ∀ pwm ∈ discoverPwmFiles tree.layout, Reached tree target raw pwm

/-- What the first readable channel holds, if all hold one value. -/
theorem readCurrentPwm_of_forall {tree : FileTree} {paths : List Path} {raw number : ℤ}
    (plain : ∀ pwm ∈ paths, Plain pwm) (hall : ∀ pwm ∈ paths, storedInt tree pwm = some raw)
    (h : readCurrentPwm paths tree = some number) : number = raw := by
  obtain ⟨pwm, hpwm, hread⟩ := List.exists_of_findSome?_eq_some h
  rw [purePath_of_plain (plain pwm hpwm)] at hread
  exact Option.some.inj ((storedInt_of_readInt hread).symm.trans (hall pwm hpwm))

/-- After a command that returned, every channel it discovered holds the raw value of the
duty, and that is what was read back, exactly if the channels it does not write held the
value before. -/
theorem drivesAll_iff_covers {hardware after : FileTree × Sensors} {percent : ℤ}
    {readback : BackendStatus}
    (h : (ofReader order sensorReader).setDutyPercent percent hardware = .ok readback after) :
    ((∀ pwm ∈ discoverPwmFiles hardware.1.layout,
        storedInt after.1 pwm = some (percentToPwm (clampPercent percent))) ∧
      readback.pwm = some (percentToPwm (clampPercent percent))) ↔
      Covers order hardware.1 (percentToPwm (clampPercent percent)) := by
  obtain ⟨target, sensors, hwrite, hreadback, hverified⟩ := setDutyPercent_eq_readback h
  obtain ⟨htarget, between, henabled, hstore⟩ := writePwmValue_eq_some hwrite
  have hfound : target ∈ discoverPwmFiles hardware.1.layout := by
    rcases targets_of_pwmTarget htarget with ⟨hpath, -⟩ | hfound
    · exact hpath
    · exact hfound
  have hfile : hardware.1.layout.isFile target = true := isFile_of_discovered hfound
  rw [purePath_of_plain (plain_of_mem_discoverPwmFiles hfound)] at hstore
  have hcovers : Covers order hardware.1 (percentToPwm (clampPercent percent)) ↔
      ∀ pwm ∈ discoverPwmFiles hardware.1.layout,
        storedInt after.1 pwm = some (percentToPwm (clampPercent percent)) := by
    have hreached := storedInt_after_write hfile henabled hstore
    constructor
    · rintro ⟨selected, hselected, hall⟩ pwm hpwm
      cases htarget.symm.trans hselected
      exact (hreached pwm).2.mpr (hall pwm hpwm)
    · intro hall
      exact ⟨target, htarget, fun pwm hpwm => (hreached pwm).2.mp (hall pwm hpwm)⟩
  rw [hcovers]
  apply and_iff_left_of_imp
  intro hall
  have hlayout := (storedInt_after_write hfile henabled hstore target).1
  rw [← hlayout] at hall
  have hpwm : readback.pwm = readCurrentPwm (discoverPwmFiles after.1.layout) after.1 :=
    congrArg BackendStatus.pwm hreadback
  have hduty : readback.dutyPercent = readback.pwm.map pwmToPercent := by
    rw [hreadback]
    rfl
  rw [hduty] at hverified
  obtain ⟨number, hnumber, -⟩ := Option.map_eq_some_iff.mp hverified
  have plain : ∀ pwm ∈ discoverPwmFiles after.1.layout, Plain pwm :=
    fun _ => plain_of_mem_discoverPwmFiles
  rw [hnumber, readCurrentPwm_of_forall plain hall (hpwm.symm.trans hnumber)]

/-- Two channels of one device. -/
def pwmPair (first second : String) : Device :=
  ("hwmon0".toList, [("pwm1".toList, first.toList), ("pwm2".toList, second.toList)])

/-- Two channels, the second at full speed. -/
def fullSecondTree : FileTree := deviceTree [pwmPair "60" "255"] (by decide +kernel)

/-- Two channels at low speed. -/
def slowPairTree : FileTree := deviceTree [pwmPair "60" "60"] (by decide +kernel)

/-- A forced full duty drives two channels of which the second was at full speed. -/
theorem drivesAll_of_full_second :
    ∃ readback after,
      (ofReader insertionOrder coolReader).setDutyPercent 100 (fullSecondTree, ()) =
        .ok readback after ∧
      (∀ pwm ∈ discoverPwmFiles fullSecondTree.layout,
        storedInt after.1 pwm = some (percentToPwm (clampPercent 100))) ∧
      readback.pwm = some (percentToPwm (clampPercent 100)) := by
  have hreturned : (returned ((ofReader insertionOrder coolReader).setDutyPercent 100
      (fullSecondTree, ()))).isSome = true := by
    decide +kernel
  obtain ⟨readback, after, hset⟩ := returned_isSome_iff.mp hreturned
  refine ⟨readback, after, hset, (drivesAll_iff_covers hset).mpr ⟨pwm1, by decide +kernel, ?_⟩⟩
  have hdiscovered : discoverPwmFiles fullSecondTree.layout =
      [pwm1, hwmonRoot ++ ["hwmon0".toList, "pwm2".toList]] := by
    decide +kernel
  rw [hdiscovered, List.forall_mem_cons, List.forall_mem_singleton]
  exact ⟨.inl rfl, .inr ⟨by decide +kernel, by decide +kernel⟩⟩

/-- A forced full duty leaves the second of two channels at low speed. -/
theorem not_drivesAll_of_slow_pair :
    ¬ ∀ (tree : FileTree) (percent : ℤ) (readback : BackendStatus) (after : FileTree × Unit),
      (ofReader insertionOrder coolReader).setDutyPercent percent (tree, ()) = .ok readback after →
      ∀ pwm ∈ discoverPwmFiles tree.layout,
        storedInt after.1 pwm = some (percentToPwm (clampPercent percent)) := by
  intro hall
  have hreturned : (returned ((ofReader insertionOrder coolReader).setDutyPercent 100
      (slowPairTree, ()))).isSome = true := by
    decide +kernel
  obtain ⟨readback, after, hset⟩ := returned_isSome_iff.mp hreturned
  have hsecond := hall slowPairTree 100 readback after hset
    (hwmonRoot ++ ["hwmon0".toList, "pwm2".toList]) (by decide +kernel)
  have hslow : storedInt (resultState ((ofReader insertionOrder coolReader).setDutyPercent 100
      (slowPairTree, ()))).1 (hwmonRoot ++ ["hwmon0".toList, "pwm2".toList]) = some 60 := by
    decide +kernel
  rw [hset, resultState_ok] at hslow
  have hfull : percentToPwm (clampPercent 100) ≠ 60 := by decide +kernel
  exact hfull (Option.some.inj (hsecond.symm.trans hslow))

end HwmonPwmBackend

end TrueFan
