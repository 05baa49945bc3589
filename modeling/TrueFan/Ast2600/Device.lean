/-
# The client against a controller that applies commands

The controller of the build documentation: it holds a mode and a duty for each of its
sixteen channels, applies the two write commands channel by channel and prints what it
holds. Over any sequence of calls the client then does to the channels, and says about
them, what a machine of sixteen channels does and says that knows neither commands nor
hexadecimal.
-/

import TrueFan.Ast2600.Readback
import TrueFan.Foundations.Simulation

namespace TrueFan

open Python Foundations

/-- A call of the client. -/
inductive IpmiCall
  | setDutyPercent (percent : ℤ)
  | setAuto
  | status
  deriving DecidableEq, Repr

namespace Bmc

/-- The mode of all channels, if they are in one the client knows. -/
def mode (bmc : Bmc) : Mode :=
  if ∀ channel, (bmc channel).mode = 2 then .manual
  else if ∀ channel, (bmc channel).mode = 0 then .auto
  else .unknown

/-- The duty of all channels, if they have one in common. -/
def duty (bmc : Bmc) : Option ℤ :=
  if ∀ channel, (bmc channel).duty = (bmc 0).duty then some (bmc 0).duty.val else none

/-- What is said about the channels. -/
abbrev report (bmc : Bmc) : Mode × Option ℤ := (bmc.mode, bmc.duty)

/-- Every channel in manual mode at the duty. -/
def allManual (duty : Fin 256) : Bmc := fun _ => ⟨2, duty⟩

/-- Every channel in automatic mode, at the duty it has. -/
def allAuto (bmc : Bmc) : Bmc := fun channel => { bmc channel with mode := 0 }

/-- What a call does to the channels, and what it reports if it returns. -/
def step (bmc : Bmc) : IpmiCall → Option (Mode × Option ℤ) × Bmc
  | .setDutyPercent percent =>
      let next := allManual (Fin.ofNat 256 (clampPercent percent).toNat)
      (some next.report, next)
  | .setAuto => (if bmc.duty.isSome then some bmc.allAuto.report else none, bmc.allAuto)
  | .status => (some bmc.report, bmc)

/-- The duties are percentages. -/
def Percentages (bmc : Bmc) : Prop := ∀ channel, (bmc channel).duty.val ≤ 100

variable {bmc : Bmc}

theorem mode_eq_manual_iff : bmc.mode = .manual ↔ ∀ channel, (bmc channel).mode = 2 := by
  rw [mode]
  split
  next hall => exact iff_of_true rfl hall
  next hnot =>
    split
    next => exact iff_of_false nofun hnot
    next => exact iff_of_false nofun hnot

theorem mode_eq_auto_iff : bmc.mode = .auto ↔ ∀ channel, (bmc channel).mode = 0 := by
  rw [mode]
  split
  next hall =>
    apply iff_of_false nofun
    intro hzero
    exact absurd ((hall 0).symm.trans (hzero 0)) (by decide)
  next =>
    split
    next hzero => exact iff_of_true rfl hzero
    next hnot => exact iff_of_false nofun hnot

theorem duty_eq_some_iff {percent : ℤ} :
    bmc.duty = some percent ↔ ∀ channel, ((bmc channel).duty.val : ℤ) = percent := by
  rw [duty]
  split
  next hall =>
    rw [Option.some.injEq]
    constructor
    · rintro rfl channel
      rw [hall channel]
    · intro h
      exact h 0
  next hnot =>
    apply iff_of_false nofun
    intro h
    apply hnot
    intro channel
    exact Fin.ext (Int.ofNat.inj ((h channel).trans (h 0).symm))

theorem duty_isSome_iff :
    bmc.duty.isSome = true ↔ ∀ channel other, (bmc channel).duty = (bmc other).duty := by
  rw [Option.isSome_iff_exists]
  constructor
  · rintro ⟨percent, h⟩ channel other
    have hall := duty_eq_some_iff.mp h
    exact Fin.ext (Int.ofNat.inj ((hall channel).trans (hall other).symm))
  · intro h
    refine ⟨(bmc 0).duty.val, duty_eq_some_iff.mpr fun channel => ?_⟩
    rw [h channel 0]

theorem mode_allAuto : bmc.allAuto.mode = .auto := mode_eq_auto_iff.mpr fun _ => rfl

theorem duty_allAuto : bmc.allAuto.duty = bmc.duty := rfl

theorem val_clampPercent (percent : ℤ) :
    ((Fin.ofNat 256 (clampPercent percent).toNat).val : ℤ) = clampPercent percent := by
  have hmin := minimum_le_clampPercent percent
  have hmax := clampPercent_le_maximum percent
  rw [Fin.val_ofNat, Nat.mod_eq_of_lt (by omega)]
  omega

theorem manualAt_allManual (percent : ℤ) :
    (allManual (Fin.ofNat 256 (clampPercent percent).toNat)).ManualAt (clampPercent percent) :=
  fun _ => ⟨rfl, val_clampPercent percent⟩

/-- Percentages stay percentages. -/
theorem percentages_step (h : bmc.Percentages) (call : IpmiCall) :
    (bmc.step call).2.Percentages := by
  cases call with
  | setDutyPercent percent =>
      intro channel
      have hval := val_clampPercent percent
      have hmax := clampPercent_le_maximum percent
      show (Fin.ofNat 256 (clampPercent percent).toNat).val ≤ 100
      omega
  | setAuto => exact h
  | status => exact h

end Bmc

/-! ## The client -/

namespace Ast2600Ipmi

variable {Link : Type}

/-- The text prints the bytes: a word of two hexadecimal digits for each, with whitespace
between them and possibly around them. -/
def PrintsBytes (bytes : List (Fin 256)) (text : String) : Prop :=
  List.Forall₂ (fun byte word => word.length = 2 ∧ byteDigits word = some byte.val) bytes
    (split text.toList)

/-- The client's controller applies the write commands channel by channel and prints what
it holds. -/
structure Applies (ipmi : Ast2600Ipmi Link) (channels : Link → Bmc) : Prop where
  setModes : ∀ link args bytes, argumentBytes args = some bytes →
    ∃ stdout after, ipmi.runner (ipmi.baseArgv ++ "raw" :: "0x3a" :: "0xd0" :: "0x11" :: args)
        ipmi.password link = .ok ⟨0, stdout⟩ after ∧
      channels after = fun channel => { channels link channel with mode := bytes channel }
  setDuties : ∀ link args bytes, argumentBytes args = some bytes →
    (∀ channel, (bytes channel).val ≤ 100) →
    ∃ stdout after, ipmi.runner (ipmi.baseArgv ++ "raw" :: "0x3a" :: "0xd0" :: "0x0e" :: args)
        ipmi.password link = .ok ⟨0, stdout⟩ after ∧
      channels after = fun channel => { channels link channel with duty := bytes channel }
  modes : ∀ link, ∃ text after,
    ipmi.runner (ipmi.baseArgv ++ ["raw", "0x3a", "0xd0", "0x12"]) ipmi.password link =
        .ok ⟨0, some text⟩ after ∧
      channels after = channels link ∧
      PrintsBytes (List.ofFn fun i => (channels link i).mode) text
  duties : ∀ link, ∃ text after,
    ipmi.runner (ipmi.baseArgv ++ ["raw", "0x3a", "0xd0", "0x0f"]) ipmi.password link =
        .ok ⟨0, some text⟩ after ∧
      channels after = channels link ∧
      PrintsBytes (List.ofFn fun i => (channels link i).duty) text

theorem raw_of_run {ipmi : Ast2600Ipmi Link} {args : List String} {link after : Link}
    {stdout : Option String}
    (h : ipmi.runner (ipmi.baseArgv ++ "raw" :: args) ipmi.password link =
      .ok ⟨0, stdout⟩ after) : ipmi.raw args link = .ok (stdout.getD "") after := by
  rw [raw, h]
  rfl

/-- Printed bytes parse to the bytes. -/
theorem parseBytes_of_printsBytes {bytes : List (Fin 256)} {text : String}
    (h : PrintsBytes bytes text) (hne : bytes ≠ []) :
    parseBytes text = .ok (bytes.map fun byte => (byte.val : ℤ)) := by
  have hwords {bytes : List (Fin 256)} {words : List (List Char)}
      (h : List.Forall₂ (fun byte word => word.length = 2 ∧ byteDigits word = some byte.val)
        bytes words) :
      words.mapM wordValue = some (bytes.map fun byte => (byte.val : ℤ)) := by
    induction h with
    | nil => rfl
    | cons hword _ ih =>
        rw [List.mapM_cons, (wordValue_byteDigits hword.2).1, ih]
        rfl
  rw [parseBytes_eq, hwords h]
  cases bytes with
  | nil => exact absurd rfl hne
  | cons byte rest => rfl

/-- Sixteen equal arguments are one byte for every channel. -/
theorem argumentBytes_replicate {arg : String} {value : ℤ}
    (h : parseHexInt arg.toList = some value) :
    argumentBytes (List.replicate channelCount arg) = some fun _ => Fin.ofNat 256 value.toNat := by
  have hvalues : (List.replicate channelCount arg).mapM (fun arg => parseHexInt arg.toList) =
      some (List.replicate channelCount value) := by
    generalize channelCount = count
    induction count with
    | zero => rfl
    | succ count ih =>
        rw [List.replicate_succ, List.mapM_cons, h, ih]
        rfl
  rw [argumentBytes, hvalues]
  dsimp only
  rw [dif_pos List.length_replicate]
  congr 1
  funext channel
  simp

theorem parseHexInt_dutyByte (duty : ℤ) :
    parseHexInt (dutyByte duty).toList = some ((Fin.ofNat 256 duty.toNat).val : ℤ) := by
  rw [dutyByte, String.toList_ofList]
  exact (parseHexInt_twoDigitHex _).2

namespace Applies

variable {ipmi : Ast2600Ipmi Link} {channels : Link → Bmc}

theorem readMode (applies : ipmi.Applies channels) (link : Link) :
    ∃ after, ipmi.readMode link = .ok (channels link).mode after ∧
      channels after = channels link := by
  obtain ⟨text, after, hrun, hsame, hprints⟩ := applies.modes link
  refine ⟨after, ?_, hsame⟩
  have hparse := parseBytes_of_printsBytes hprints (by simp)
  have hall (value : Fin 256) (integer : ℤ) (hvalue : (value.val : ℤ) = integer) :
      ((List.ofFn fun i => (channels link i).mode).map fun byte => (byte.val : ℤ)).all
          (· = integer) = true ↔ ∀ channel, (channels link channel).mode = value := by
    rw [← hvalue, all_ofFn_iff]
    exact forall_congr' fun channel => Nat.cast_inj.trans Fin.ext_iff.symm
  have htwo := hall 2 2 rfl
  have hzero := hall 0 0 rfl
  rw [Ast2600Ipmi.readMode, bind_of_ok (raw_of_run hrun), bind_ofExcept_eq_ok_iff]
  refine ⟨_, hparse, ?_⟩
  rw [Bmc.mode]
  by_cases hmanual : ∀ channel, (channels link channel).mode = 2
  · rw [if_pos hmanual, if_pos (htwo.mpr hmanual)]
    rfl
  · rw [if_neg hmanual, if_neg fun h => hmanual (htwo.mp h)]
    by_cases hauto : ∀ channel, (channels link channel).mode = 0
    · rw [if_pos hauto, if_pos (hzero.mpr hauto)]
      rfl
    · rw [if_neg hauto, if_neg fun h => hauto (hzero.mp h)]
      rfl

theorem readDutyPercent (applies : ipmi.Applies channels) {link : Link}
    (percentages : (channels link).Percentages) :
    ∃ after, ipmi.readDutyPercent link = .ok (channels link).duty after ∧
      channels after = channels link := by
  obtain ⟨text, after, hrun, hsame, hprints⟩ := applies.duties link
  refine ⟨after, ?_, hsame⟩
  have hparse := parseBytes_of_printsBytes hprints (by simp)
  have hcommon : commonValue ((List.ofFn fun i => (channels link i).duty).map fun byte =>
      (byte.val : ℤ)) = (channels link).duty := by
    apply Option.ext
    intro percent
    rw [commonValue_eq_some_iff, Bmc.duty_eq_some_iff, List.forall_mem_map,
      List.forall_mem_ofFn_iff]
    exact and_iff_right (by simp)
  have hrange : ¬ (((List.ofFn fun i => (channels link i).duty).map fun byte =>
      (byte.val : ℤ)).any fun value => value < 0 || 100 < value) = true := by
    rw [List.any_map, List.any_eq_true]
    rintro ⟨byte, hbyte, hout⟩
    obtain ⟨channel, rfl⟩ := List.mem_ofFn.mp hbyte
    have hpercentage := percentages channel
    simp only [Function.comp_apply, Bool.or_eq_true, decide_eq_true_eq] at hout
    omega
  rw [Ast2600Ipmi.readDutyPercent, bind_of_ok (raw_of_run hrun), bind_ofExcept_eq_ok_iff]
  refine ⟨_, hparse, ?_⟩
  dsimp only
  rw [if_neg hrange, hcommon]
  rfl

/-- The status tells what the channels hold. -/
theorem status (applies : ipmi.Applies channels) {link : Link}
    (percentages : (channels link).Percentages) :
    ∃ status after, ipmi.status link = .ok status after ∧ channels after = channels link ∧
      (status.mode, status.dutyPercent) = (channels link).report := by
  obtain ⟨between, hmode, hsame⟩ := applies.readMode link
  rw [← hsame] at percentages
  obtain ⟨after, hduty, hsame'⟩ := applies.readDutyPercent percentages
  rw [hsame] at hduty hsame'
  let status : BackendStatus := {
    backend := "ast2600_ipmi"
    mode := (channels link).mode
    dutyPercent := (channels link).duty
    pwm := (channels link).duty.map percentToPwm
    sensorOk := true }
  refine ⟨status, after, ?_, hsame', rfl⟩
  rw [Ast2600Ipmi.status, bind_of_ok hmode, bind_of_ok hduty]
  rfl

/-- Every duty is commanded and verified. -/
theorem setDutyPercent (applies : ipmi.Applies channels) (link : Link) (percent : ℤ) :
    ∃ status after, ipmi.setDutyPercent percent link = .ok status after ∧
      (some (status.mode, status.dutyPercent), channels after) =
        (channels link).step (.setDutyPercent percent) := by
  have hval := Bmc.val_clampPercent percent
  have hmax := clampPercent_le_maximum percent
  have htwo : argumentBytes (List.replicate channelCount "0x2") =
      some fun _ => Fin.ofNat 256 (2 : ℤ).toNat :=
    argumentBytes_replicate (by decide)
  obtain ⟨first, switched, hswitch, hmodes⟩ := applies.setModes link _ _ htwo
  obtain ⟨second, commanded, hcommand, hduties⟩ := applies.setDuties switched _ _
    (argumentBytes_replicate (parseHexInt_dutyByte (clampPercent percent))) (by
      intro channel
      rw [Int.toNat_natCast, Fin.ofNat_val_eq_self]
      omega)
  have hchannels : channels commanded =
      Bmc.allManual (Fin.ofNat 256 (clampPercent percent).toNat) := by
    rw [hduties, hmodes]
    funext channel
    rw [Int.toNat_natCast, Fin.ofNat_val_eq_self]
    rfl
  have hpercentages : (channels commanded).Percentages := by
    rw [hchannels]
    intro channel
    show (Fin.ofNat 256 (clampPercent percent).toNat).val ≤ 100
    omega
  obtain ⟨status, after, hstatus, hsame, hreport⟩ := applies.status hpercentages
  rw [hchannels] at hsame hreport
  obtain ⟨hmode, hduty⟩ := Prod.mk.inj hreport
  have hmanual := Bmc.manualAt_allManual percent
  rw [Bmc.mode_eq_manual_iff.mpr fun channel => (hmanual channel).1] at hmode
  rw [Bmc.duty_eq_some_iff.mpr fun channel => (hmanual channel).2] at hduty
  refine ⟨status, after, ?_, ?_⟩
  · rw [Ast2600Ipmi.setDutyPercent, bind_of_ok (raw_of_run hswitch),
      bind_of_ok (raw_of_run hcommand), bind_of_ok hstatus]
    dsimp only
    rw [if_neg (by simp [hmode, hduty])]
    rfl
  · rw [hsame, hreport]
    rfl

/-- Automatic mode is commanded, and verified if the channels have a duty in common. -/
theorem setAuto (applies : ipmi.Applies channels) {link : Link}
    (percentages : (channels link).Percentages) :
    ((returned (ipmi.setAuto link)).map fun status => (status.mode, status.dutyPercent),
        channels (resultState (ipmi.setAuto link))) = (channels link).step .setAuto := by
  have hzero : argumentBytes (List.replicate channelCount "0x0") =
      some fun _ => Fin.ofNat 256 (0 : ℤ).toNat :=
    argumentBytes_replicate (by decide)
  obtain ⟨stdout, switched, hswitch, hmodes⟩ := applies.setModes link _ _ hzero
  have hchannels : channels switched = (channels link).allAuto := hmodes
  have hpercentages : (channels switched).Percentages := by
    rw [hchannels]
    exact percentages
  obtain ⟨status, after, hstatus, hsame, hreport⟩ := applies.status hpercentages
  rw [hchannels] at hsame hreport
  obtain ⟨hmode, hduty⟩ := Prod.mk.inj hreport
  rw [Bmc.mode_allAuto] at hmode
  rw [Bmc.duty_allAuto] at hduty
  rw [Ast2600Ipmi.setAuto, bind_of_ok (raw_of_run hswitch), bind_of_ok hstatus, Bmc.step]
  dsimp only
  cases hcommon : (channels link).duty with
  | none =>
      rw [if_pos (.inr (hduty.trans hcommon))]
      exact Prod.ext rfl hsame
  | some percent =>
      rw [if_neg (by simp [hmode, hduty, hcommon])]
      exact Prod.ext (congrArg some hreport) hsame

end Applies

/-! ## Runs -/

/-- A call, what it returned, if it did, and the state it left. -/
def step (ipmi : Ast2600Ipmi Link) (link : Link) : IpmiCall → Option BackendStatus × Link
  | .setDutyPercent percent =>
      (returned (ipmi.setDutyPercent percent link), resultState (ipmi.setDutyPercent percent link))
  | .setAuto => (returned (ipmi.setAuto link), resultState (ipmi.setAuto link))
  | .status => (returned (ipmi.status link), resultState (ipmi.status link))

/-- The client and its controller do and say what sixteen channels do and say. -/
theorem Applies.simulation {ipmi : Ast2600Ipmi Link} {channels : Link → Bmc}
    (applies : ipmi.Applies channels) :
    Simulation ipmi.step Bmc.step (fun link bmc => channels link = bmc ∧ bmc.Percentages)
      (fun status report => status.map (fun status => (status.mode, status.dutyPercent)) =
        report) := by
  have hstep {link : Link} (percentages : (channels link).Percentages) (call : IpmiCall) :
      ((ipmi.step link call).1.map fun status => (status.mode, status.dutyPercent),
        channels (ipmi.step link call).2) = (channels link).step call := by
    cases call with
    | setDutyPercent percent =>
        obtain ⟨status, after, hset, hreport⟩ := applies.setDutyPercent link percent
        rw [← hreport, step, hset]
        rfl
    | setAuto => exact applies.setAuto percentages
    | status =>
        obtain ⟨status, after, hstatus, hsame, hreport⟩ := applies.status percentages
        rw [step, hstatus]
        exact Prod.ext (congrArg some hreport) hsame
  constructor
  · rintro link _ call ⟨rfl, percentages⟩
    exact (Prod.mk.inj (hstep percentages call)).1
  · rintro link _ call ⟨rfl, percentages⟩
    exact ⟨(Prod.mk.inj (hstep percentages call)).2, Bmc.percentages_step percentages call⟩

/-- What a call does to the channels, and what it says about them. -/
def Serves (channels : Link → Bmc) (record : Record Link IpmiCall (Option BackendStatus)) : Prop :=
  match record.event with
  | .setDutyPercent percent =>
      record.outcome.isSome = true ∧ (channels record.after).ManualAt (clampPercent percent)
  | .setAuto =>
      (∀ channel, (channels record.after channel).mode = 0 ∧
        (channels record.after channel).duty = (channels record.before channel).duty) ∧
      (record.outcome.isSome = true ↔ ∀ channel other,
        (channels record.before channel).duty = (channels record.before other).duty)
  | .status =>
      channels record.after = channels record.before ∧
      ∃ status, record.outcome = some status ∧
        (status.mode = .manual ↔ ∀ channel, (channels record.before channel).mode = 2) ∧
        (status.mode = .auto ↔ ∀ channel, (channels record.before channel).mode = 0) ∧
        ∀ percent, status.dutyPercent = some percent ↔
          ∀ channel, ((channels record.before channel).duty.val : ℤ) = percent

/-- The client serves every call of every run as a machine of sixteen channels does. -/
theorem ipmi_simulates_channels {ipmi : Ast2600Ipmi Link} {channels : Link → Bmc}
    (applies : ipmi.Applies channels) {link : Link} (percentages : (channels link).Percentages)
    (calls : List IpmiCall) : ∀ record ∈ records ipmi.step link calls, Serves channels record := by
  intro record hmem
  obtain ⟨record', hmem', hevent, ⟨hbefore, -⟩, houtcome, hafter, -⟩ :=
    applies.simulation.exists_record ⟨rfl, percentages⟩ hmem
  have hstep := step_of_mem_records Bmc.step hmem'
  rw [← hbefore, ← hevent] at hstep
  have hanswer : ((channels record.before).step record.event).1 = record'.outcome :=
    congrArg Prod.fst hstep
  have hnext : ((channels record.before).step record.event).2 = record'.after :=
    congrArg Prod.snd hstep
  rw [← hanswer] at houtcome
  rw [← hnext] at hafter
  rw [Serves]
  cases hcall : record.event with
  | setDutyPercent percent =>
      rw [hcall] at houtcome hafter
      refine ⟨?_, ?_⟩
      · rw [← Option.isSome_map, houtcome]
        rfl
      · rw [hafter]
        exact Bmc.manualAt_allManual percent
  | setAuto =>
      rw [hcall] at houtcome hafter
      refine ⟨?_, ?_⟩
      · intro channel
        rw [hafter]
        exact ⟨rfl, rfl⟩
      · rw [← Option.isSome_map, houtcome, ← Bmc.duty_isSome_iff, Bmc.step]
        cases (channels record.before).duty with
        | none => exact iff_of_false nofun nofun
        | some duty => exact iff_of_true rfl rfl
  | status =>
      rw [hcall] at houtcome hafter
      obtain ⟨status, hstatus, hreport⟩ := Option.map_eq_some_iff.mp houtcome
      obtain ⟨hmode, hduty⟩ := Prod.mk.inj hreport
      refine ⟨hafter, status, hstatus, ?_, ?_, ?_⟩
      · rw [hmode, Bmc.mode_eq_manual_iff]
      · rw [hmode, Bmc.mode_eq_auto_iff]
      · intro percent
        rw [hduty, Bmc.duty_eq_some_iff]

theorem printsBytes_printBytes (bytes : List (Fin 256)) : PrintsBytes bytes (printBytes bytes) := by
  rw [PrintsBytes, split_of_listsBytes (listsBytes_printBytes bytes), List.forall₂_map_right_iff,
    List.forall₂_same]
  have hdigits : ∀ byte : Fin 256, (twoDigitHex byte).length = 2 ∧
      byteDigits (twoDigitHex byte) = some byte.val := by
    decide +kernel
  exact fun byte _ => hdigits byte

theorem simulatedBmc_setModes (args : List String) (bmc : Bmc) :
    simulatedBmc (simulated.baseArgv ++ "raw" :: "0x3a" :: "0xd0" :: "0x11" :: args)
        simulated.password bmc =
      match argumentBytes args with
      | some modes => .ok ⟨0, some ""⟩ fun i => { bmc i with mode := modes i }
      | none => .ok ⟨1, none⟩ bmc := rfl

theorem simulatedBmc_setDuties (args : List String) (bmc : Bmc) :
    simulatedBmc (simulated.baseArgv ++ "raw" :: "0x3a" :: "0xd0" :: "0x0e" :: args)
        simulated.password bmc =
      match argumentBytes args with
      | some duties => .ok ⟨0, some ""⟩ fun i => { bmc i with duty := duties i }
      | none => .ok ⟨1, none⟩ bmc := rfl

theorem applies_simulated : simulated.Applies id where
  setModes := by
    intro bmc args bytes hbytes
    have hrun := simulatedBmc_setModes args bmc
    rw [hbytes] at hrun
    exact ⟨_, _, hrun, rfl⟩
  setDuties := by
    intro bmc args bytes hbytes _
    have hrun := simulatedBmc_setDuties args bmc
    rw [hbytes] at hrun
    exact ⟨_, _, hrun, rfl⟩
  modes := fun _ => ⟨_, _, rfl, rfl, printsBytes_printBytes _⟩
  duties := fun _ => ⟨_, _, rfl, rfl, printsBytes_printBytes _⟩

/-- A mixed controller is unified by a command and keeps the duty in automatic mode. -/
theorem ipmi_simulates_channels_simulated :
    let bmc : Bmc := fun channel => ⟨if channel = 3 then 0 else 2, if channel = 5 then 40 else 60⟩
    bmc.Percentages ∧ ∀ record ∈ records simulated.step bmc
      [.status, .setAuto, .setDutyPercent 130, .setAuto, .status], Serves id record := by
  have hpercentages : Bmc.Percentages
      fun channel => ⟨if channel = 3 then 0 else 2, if channel = 5 then 40 else 60⟩ := by
    intro channel
    dsimp only
    split <;> decide
  exact ⟨hpercentages, ipmi_simulates_channels applies_simulated hpercentages _⟩

end Ast2600Ipmi

end TrueFan
