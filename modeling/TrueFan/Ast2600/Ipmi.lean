/-
# The IPMI client of the AST2600 board

The board management controller is reached through `ipmitool`: every operation is
one command line, and every reply is text. The client spells the raw commands,
parses the replies, and after a mutation reads mode and duty back and raises unless
they are what it asked for. The process it starts, and whatever that changes, is a
runner over a state of its own.
-/

import TrueFan.Backend
import TrueFan.Duty
import TrueFan.Python.Text

namespace TrueFan

open Python

/-- `CHANNEL_COUNT`. -/
abbrev channelCount : ℕ := 16

/-- A finished `ipmitool` process. -/
structure Completed where
  returncode : ℤ
  stdout : Option String

/-- `Ast2600Ipmi`. The runner gets the argument vector and the `IPMI_PASSWORD` of
the child environment. -/
structure Ast2600Ipmi (Link : Type) where
  host : String
  username : String
  password : String
  runner : List String → String → EStateM Failure Link Completed

namespace Ast2600Ipmi

variable {Link : Type}

def baseArgv (ipmi : Ast2600Ipmi Link) : List String :=
  ["ipmitool", "-I", "lanplus", "-H", ipmi.host, "-U", ipmi.username, "-E"]

/-- `_raw`. -/
def raw (ipmi : Ast2600Ipmi Link) (args : List String) : EStateM Failure Link String := fun link =>
  match ipmi.runner (ipmi.baseArgv ++ "raw" :: args) ipmi.password link with
  | .ok completed after =>
      if completed.returncode ≠ 0 then
        .error (.backendCommandError "ipmi_command_failed") after
      else .ok (completed.stdout.getD "") after
  | .error .osError after => .error (.backendCommandError "ipmi_execution_failed") after
  | .error .subprocessError after => .error (.backendCommandError "ipmi_execution_failed") after
  | .error error after => .error error after

/-- `_parse_bytes`. -/
def parseBytes (raw : String) : Except Failure (List ℤ) :=
  match (split raw.toList).mapM fun token => parseHexInt (removePrefix ['0', 'x'] token) with
  | none => .error (.backendCommandError "ipmi_invalid_response")
  | some [] => .error (.backendCommandError "ipmi_empty_response")
  | some (value :: values) => .ok (value :: values)

/-- `read_mode`. -/
def readMode (ipmi : Ast2600Ipmi Link) : EStateM Failure Link Mode := do
  let values ← ofExcept (parseBytes (← ipmi.raw ["0x3a", "0xd0", "0x12"]))
  if values.all (· = 0x02) then return .manual
  else if values.all (· = 0x00) then return .auto
  else return .unknown

/-- `values[0] if all(value == values[0] for value in values) else None`. -/
def commonValue : List ℤ → Option ℤ
  | [] => none
  | first :: rest => if (first :: rest).all (· = first) then some first else none

/-- `read_duty_percent`. -/
def readDutyPercent (ipmi : Ast2600Ipmi Link) : EStateM Failure Link (Option ℤ) := do
  let values ← ofExcept (parseBytes (← ipmi.raw ["0x3a", "0xd0", "0x0f"]))
  if values.any fun value => value < 0 || 100 < value then
    throw (.backendCommandError "ipmi_invalid_duty")
  return commonValue values

/-- `_read_status`, which is also `status`. -/
def status (ipmi : Ast2600Ipmi Link) : EStateM Failure Link BackendStatus := do
  let mode ← ipmi.readMode
  let duty ← ipmi.readDutyPercent
  return {
    backend := "ast2600_ipmi"
    mode
    dutyPercent := duty
    pwm := duty.map percentToPwm
    sensorOk := true }

/-- The byte of a duty in range, as the command line spells it. -/
def dutyByte (duty : ℤ) : String :=
  String.ofList ('0' :: 'x' :: twoDigitHex (Fin.ofNat 256 duty.toNat))

/-- `set_duty_percent`. -/
def setDutyPercent (ipmi : Ast2600Ipmi Link) (percent : ℤ) :
    EStateM Failure Link BackendStatus := do
  let duty := clampPercent percent
  let _ ← ipmi.raw ("0x3a" :: "0xd0" :: "0x11" :: List.replicate channelCount "0x2")
  let _ ← ipmi.raw ("0x3a" :: "0xd0" :: "0x0e" :: List.replicate channelCount (dutyByte duty))
  let status ← ipmi.status
  if status.mode ≠ .manual ∨ status.dutyPercent ≠ some duty then
    throw (.backendMutationError "readback_mismatch")
  return status

/-- `set_auto`. -/
def setAuto (ipmi : Ast2600Ipmi Link) : EStateM Failure Link BackendStatus := do
  let _ ← ipmi.raw ("0x3a" :: "0xd0" :: "0x11" :: List.replicate channelCount "0x0")
  let status ← ipmi.status
  if status.mode ≠ .auto ∨ status.dutyPercent = none then
    throw (.backendMutationError "readback_mismatch")
  return status

theorem commonValue_eq_some_iff {values : List ℤ} {value : ℤ} :
    commonValue values = some value ↔ values ≠ [] ∧ ∀ other ∈ values, other = value := by
  cases values with
  | nil => exact iff_of_false nofun fun h => h.1 rfl
  | cons first rest =>
      have hfirst : (first :: rest).all (· = first) = true ↔ ∀ other ∈ rest, other = first := by
        simp
      rw [commonValue]
      by_cases hall : (first :: rest).all (· = first) = true
      · rw [if_pos hall, Option.some.injEq]
        refine ⟨?_, fun h => h.2 first List.mem_cons_self⟩
        rintro rfl
        exact ⟨List.cons_ne_nil _ _, List.forall_mem_cons.mpr ⟨rfl, hfirst.mp hall⟩⟩
      · rw [if_neg hall]
        apply iff_of_false nofun
        rintro ⟨-, hsame⟩
        obtain ⟨rfl, hrest⟩ := List.forall_mem_cons.mp hsame
        exact hall (hfirst.mpr hrest)

/-- A command that returned ran a process that ended well. -/
theorem raw_eq_ok {ipmi : Ast2600Ipmi Link} {args : List String} {link after : Link}
    {text : String} (h : ipmi.raw args link = .ok text after) :
    ∃ completed, ipmi.runner (ipmi.baseArgv ++ "raw" :: args) ipmi.password link =
        .ok completed after ∧
      completed.returncode = 0 ∧ text = completed.stdout.getD "" := by
  unfold raw at h
  split at h
  next completed after' hrun =>
    split at h
    next => cases h
    next hcode =>
      cases h
      exact ⟨completed, hrun, not_not.mp hcode, rfl⟩
  all_goals cases h

/-- A reply that lists bytes parses to them. -/
theorem parseBytes_of_listsBytes {bytes : List (Fin 256)} {text : String}
    (lists : ListsBytes bytes text.toList) (hne : bytes ≠ []) :
    parseBytes text = .ok (bytes.map fun byte => (byte.val : ℤ)) := by
  have htokens : (split text.toList).mapM
      (fun token => parseHexInt (removePrefix ['0', 'x'] token)) =
        some (bytes.map fun byte => (byte.val : ℤ)) := by
    have hbyte : (fun token => parseHexInt (removePrefix ['0', 'x'] token)) ∘ twoDigitHex =
        fun byte : Fin 256 => some (byte.val : ℤ) :=
      funext fun byte => (parseHexInt_twoDigitHex byte).1
    rw [split_of_listsBytes lists, List.mapM_map, hbyte]
    exact List.mapM_pure
  rw [parseBytes, htokens]
  cases bytes with
  | nil => exact absurd rfl hne
  | cons byte rest => rfl

end Ast2600Ipmi

end TrueFan
