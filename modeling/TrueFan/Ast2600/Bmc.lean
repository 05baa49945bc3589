/-
# A controller that reports what it holds

The management controller has sixteen fan channels, each with a mode byte and a
duty byte. `Truthful` is what the client needs of it: a read command that succeeds
lists the bytes it holds and changes none of them. Everything a read-back establishes
follows from that alone, whatever happened to the commands before it.

`simulatedBmc` is a controller as the documentation describes it. It applies writes
channel by channel and never fails.
-/

import TrueFan.Ast2600.Ipmi

namespace TrueFan

open Python

/-- One fan channel. -/
structure Channel where
  mode : Fin 256
  duty : Fin 256
  deriving DecidableEq

/-- The channels of the controller. -/
abbrev Bmc := Fin channelCount → Channel

/-- Every channel is in manual mode at the duty. -/
def Bmc.ManualAt (bmc : Bmc) (duty : ℤ) : Prop :=
  ∀ channel, (bmc channel).mode = 2 ∧ ((bmc channel).duty.val : ℤ) = duty

namespace Ast2600Ipmi

variable {Link : Type}

/-- The client's controller reports its channels truly. -/
structure Truthful (ipmi : Ast2600Ipmi Link) (channels : Link → Bmc) : Prop where
  modes : ∀ {link after completed},
    ipmi.runner (ipmi.baseArgv ++ ["raw", "0x3a", "0xd0", "0x12"]) ipmi.password link =
      .ok completed after → completed.returncode = 0 →
    channels after = channels link ∧
      ListsBytes (List.ofFn fun i => (channels link i).mode) (completed.stdout.getD "").toList
  duties : ∀ {link after completed},
    ipmi.runner (ipmi.baseArgv ++ ["raw", "0x3a", "0xd0", "0x0f"]) ipmi.password link =
      .ok completed after → completed.returncode = 0 →
    channels after = channels link ∧
      ListsBytes (List.ofFn fun i => (channels link i).duty) (completed.stdout.getD "").toList

/-- All bytes of a list are one value exactly when all channels hold it. -/
theorem all_ofFn_iff (bytes : Fin channelCount → Fin 256) (value : ℤ) :
    ((List.ofFn bytes).map fun byte => (byte.val : ℤ)).all (· = value) = true ↔
      ∀ channel, ((bytes channel).val : ℤ) = value := by
  rw [List.all_map, List.all_eq_true, List.forall_mem_ofFn_iff]
  simp

namespace Truthful

variable {ipmi : Ast2600Ipmi Link} {channels : Link → Bmc} {link after : Link}

/-- A mode read that returned saw the channels as they are, and says manual exactly
when all of them are. -/
theorem readMode (truthful : ipmi.Truthful channels) {mode : Mode}
    (h : ipmi.readMode link = .ok mode after) :
    channels after = channels link ∧
      (mode = .manual ↔ ∀ channel, (channels link channel).mode = 2) := by
  obtain ⟨text, between, hraw, h⟩ := bind_eq_ok h
  obtain ⟨completed, hrun, hcode, rfl⟩ := raw_eq_ok hraw
  obtain ⟨hchannels, hlists⟩ := truthful.modes hrun hcode
  rw [parseBytes_of_listsBytes hlists (by simp)] at h
  obtain ⟨values, between', hvalues, h⟩ := bind_eq_ok h
  cases hvalues
  have hmanual := all_ofFn_iff (fun i => (channels link i).mode) 2
  have hvalue (channel : Fin channelCount) :
      (((channels link channel).mode.val : ℤ) = 2) ↔ (channels link channel).mode = 2 := by
    rw [Fin.ext_iff]
    exact Nat.cast_inj
  simp only [hvalue] at hmanual
  split at h
  next hall =>
    cases h
    exact ⟨hchannels, iff_of_true rfl (hmanual.mp hall)⟩
  next hnot =>
    have hmixed : ¬ ∀ channel, (channels link channel).mode = 2 := fun hall =>
      hnot (hmanual.mpr hall)
    split at h
    · cases h
      exact ⟨hchannels, iff_of_false nofun hmixed⟩
    · cases h
      exact ⟨hchannels, iff_of_false nofun hmixed⟩

/-- A duty read that returned saw the channels as they are, and names a duty exactly
when all of them have it; it is a percentage. -/
theorem readDutyPercent (truthful : ipmi.Truthful channels) {duty : Option ℤ}
    (h : ipmi.readDutyPercent link = .ok duty after) :
    channels after = channels link ∧
      (∀ channel, (channels link channel).duty.val ≤ 100) ∧
      ∀ percent, duty = some percent ↔
        ∀ channel, ((channels link channel).duty.val : ℤ) = percent := by
  obtain ⟨text, between, hraw, h⟩ := bind_eq_ok h
  obtain ⟨completed, hrun, hcode, rfl⟩ := raw_eq_ok hraw
  obtain ⟨hchannels, hlists⟩ := truthful.duties hrun hcode
  rw [parseBytes_of_listsBytes hlists (by simp)] at h
  obtain ⟨values, between', hvalues, h⟩ := bind_eq_ok h
  cases hvalues
  split at h
  next =>
    rw [bind_of_error (throw_apply _ _)] at h
    cases h
  next hrange =>
    cases h
    refine ⟨hchannels, ?_, ?_⟩
    · intro channel
      by_contra hhigh
      apply hrange
      rw [List.any_map, List.any_eq_true]
      refine ⟨_, List.mem_ofFn.mpr ⟨channel, rfl⟩, ?_⟩
      simp only [Function.comp_apply, Bool.or_eq_true, decide_eq_true_eq]
      omega
    · intro percent
      rw [commonValue_eq_some_iff, List.forall_mem_map, List.forall_mem_ofFn_iff]
      exact and_iff_right (by simp)

/-- A status that returned describes the channels, which it leaves alone. -/
theorem status (truthful : ipmi.Truthful channels) {status : BackendStatus}
    (h : ipmi.status link = .ok status after) :
    channels after = channels link ∧
      (status.mode = .manual ↔ ∀ channel, (channels link channel).mode = 2) ∧
      (∀ channel, (channels link channel).duty.val ≤ 100) ∧
      ∀ percent, status.dutyPercent = some percent ↔
        ∀ channel, ((channels link channel).duty.val : ℤ) = percent := by
  obtain ⟨mode, between, hmode, h⟩ := bind_eq_ok h
  obtain ⟨duty, between', hduty, h⟩ := bind_eq_ok h
  cases h
  obtain ⟨hsame, hmanual⟩ := truthful.readMode hmode
  obtain ⟨hsame', hrange, hcommon⟩ := truthful.readDutyPercent hduty
  rw [hsame] at hsame' hrange hcommon
  exact ⟨hsame', hmanual, hrange, hcommon⟩

/-- A command that returned left every channel in manual mode at the clamped duty:
the read-back has seen it. -/
theorem setDutyPercent (truthful : ipmi.Truthful channels) {percent : ℤ} {status : BackendStatus}
    (h : ipmi.setDutyPercent percent link = .ok status after) :
    (channels after).ManualAt (clampPercent percent) := by
  obtain ⟨_, link₁, -, h⟩ := bind_eq_ok h
  obtain ⟨_, link₂, -, h⟩ := bind_eq_ok h
  obtain ⟨readback, link₃, hstatus, h⟩ := bind_eq_ok h
  obtain ⟨hsame, hmanual, -, hcommon⟩ := truthful.status hstatus
  split at h
  next =>
    rw [bind_of_error (throw_apply _ _)] at h
    cases h
  next hverified =>
    cases h
    obtain ⟨hmode, hduty⟩ := not_or.mp hverified
    intro channel
    rw [hsame]
    exact ⟨hmanual.mp (not_not.mp hmode) channel, (hcommon _).mp (not_not.mp hduty) channel⟩

end Truthful

/-! ## A simulated controller -/

/-- The bytes an argument list spells, if there is one for every channel. -/
def argumentBytes (args : List String) : Option (Fin channelCount → Fin 256) :=
  match args.mapM fun arg => parseHexInt arg.toList with
  | none => none
  | some values =>
      if h : values.length = channelCount then
        some fun channel => Fin.ofNat 256 (values.get (channel.cast h.symm)).toNat
      else none

/-- A reply as `ipmitool` prints it. -/
def printBytes (bytes : List (Fin 256)) : String :=
  String.ofList (bytes.flatMap fun byte => twoDigitHex byte ++ [' '])

theorem listsBytes_printBytes (bytes : List (Fin 256)) :
    ListsBytes bytes (printBytes bytes).toList := by
  rw [printBytes, String.toList_ofList]
  induction bytes with
  | nil => exact .none rfl
  | cons byte rest ih =>
      rw [List.flatMap_cons, List.append_assoc]
      have hcons : ListsBytes (byte :: rest)
          ([] ++ twoDigitHex byte ++ ' ' :: rest.flatMap fun byte => twoDigitHex byte ++ [' ']) :=
        .cons rfl rfl ih
      exact hcons

/-- The controller the build documentation describes. The first eight arguments
address it. -/
def simulatedBmc (argv : List String) (_password : String) : EStateM Failure Bmc Completed :=
  fun bmc =>
    match argv.drop 8 with
    | ["raw", "0x3a", "0xd0", "0x12"] =>
        .ok ⟨0, some (printBytes (List.ofFn fun i => (bmc i).mode))⟩ bmc
    | ["raw", "0x3a", "0xd0", "0x0f"] =>
        .ok ⟨0, some (printBytes (List.ofFn fun i => (bmc i).duty))⟩ bmc
    | "raw" :: "0x3a" :: "0xd0" :: "0x11" :: args =>
        match argumentBytes args with
        | some modes => .ok ⟨0, some ""⟩ fun i => { bmc i with mode := modes i }
        | none => .ok ⟨1, none⟩ bmc
    | "raw" :: "0x3a" :: "0xd0" :: "0x0e" :: args =>
        match argumentBytes args with
        | some duties => .ok ⟨0, some ""⟩ fun i => { bmc i with duty := duties i }
        | none => .ok ⟨1, none⟩ bmc
    | _ => .ok ⟨1, none⟩ bmc

/-- A client of the simulated controller. -/
def simulated : Ast2600Ipmi Bmc where
  host := "bmc.test"
  username := "operator"
  password := "secret"
  runner := simulatedBmc

theorem truthful_simulated : simulated.Truthful id where
  modes := by
    intro bmc after completed hrun _
    cases hrun
    exact ⟨rfl, listsBytes_printBytes _⟩
  duties := by
    intro bmc after completed hrun _
    cases hrun
    exact ⟨rfl, listsBytes_printBytes _⟩

end Ast2600Ipmi

end TrueFan
