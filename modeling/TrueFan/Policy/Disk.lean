/-
# The policy on its disk

The methods of the policy on another object: the dictionary it has in memory, as the file has
it, and the directory of its state file. Every `_save` is a save in that directory, at any of
whose file operations the process may die; the next process then starts from what it finds.
-/

import TrueFan.Policy.Run
import TrueFan.Policy.Saving
import TrueFan.Python.CutShort

namespace TrueFan

open Python Foundations

/-- What happens to the saves of a process and of those after it, given the directory each of
them finds. A temporary file is created under a name that no file has, or creating it raises. -/
structure SaveRuns where
  run : ℕ → Directory → SaveRun
  exclusive : ∀ attempt directory, (directory.temps (run attempt directory).suffix).isSome →
    (run attempt directory).ending .create = .raises

/-- `SafetyPolicy`, and how many saves there have been. -/
structure DiskPolicy where
  state : StateDict
  directory : Directory
  saves : ℕ

namespace DiskPolicy

abbrev Method (α : Type) := EStateM (Halt Failure) DiskPolicy α

/-- `int(override["duty_percent"])`. What `load` does not let through is not told apart. -/
def dutyOf (override : List (String × Json)) : Except Failure ℤ :=
  match Json.get override "duty_percent" with
  | .int duty => .ok duty
  | _ => .error .typeError

/-- `float(override["expires_at"])`, likewise. -/
def expiryOf (override : List (String × Json)) : Except Failure Clock :=
  match Json.get override "expires_at" with
  | .int n =>
      if h : |(n : ℚ)| < overflowBound then .ok (FiniteFloat.round n h) else .error .overflowError
  | .float (.finite x) => .ok x
  | _ => .error .typeError

def setPreviousHot (previousHot : Bool) : Method Unit :=
  modify fun policy => { policy with state := { policy.state with previousHot } }

def setOverride (override : Option (List (String × Json))) : Method Unit :=
  modify fun policy => { policy with state := { policy.state with override } }

section

variable (codec : Codec) (runs : SaveRuns)

/-- `SafetyPolicy(store)` in a process that comes up, after so many saves. -/
def init (directory : Directory) (saves : ℕ) : Except Failure DiskPolicy := do
  let state ← codec.load directory
  return { state, directory, saves }

/-- `_save`. -/
def save : Method Unit := fun policy =>
  match codec.save (runs.run policy.saves policy.directory) policy.state policy.directory with
  | .ok _ directory => .ok () { policy with directory, saves := policy.saves + 1 }
  | .error .raised directory =>
      .error (.raises .osError) { policy with directory, saves := policy.saves + 1 }
  | .error .died directory => .error .dies { policy with directory, saves := policy.saves + 1 }

/-- The policy as the object of its methods. An empty dictionary is no override to
`evaluate`. -/
def object : PolicyObject (Halt Failure) DiskPolicy (List (String × Json)) where
  previousHot policy := policy.state.previousHot
  setPreviousHot := setPreviousHot
  override policy := policy.state.override
  setOverride := setOverride
  requested := StateDict.requestedOverride
  truthy override := !override.isEmpty
  dutyOf := dutyOf
  expiryOf := expiryOf
  save := save codec runs
  raise := .raises

def activeOverride (now : Clock) : Method (Option (List (String × Json))) :=
  (object codec runs).activeOverride now

def evaluate (clock : Clock) (status : BackendStatus) (requestedDuty : Option ℤ)
    (now : Option Clock) : Method SafetyDecision :=
  (object codec runs).evaluate clock status requestedDuty now

def requestOverride (clock : Clock) (status : BackendStatus) (dutyPercent ttlSeconds : Json) :
    Method SafetyDecision :=
  (object codec runs).requestOverride clock status dutyPercent ttlSeconds

theorem dutyOf_of_represents {members : List (String × Json)} {override : Override}
    (h : Represents members override) : dutyOf members = .ok override.dutyPercent.val := by
  rw [dutyOf, h.1]

theorem expiryOf_of_represents {members : List (String × Json)} {override : Override}
    (h : Represents members override) : expiryOf members = .ok override.expiry := by
  obtain ⟨duty, expiresAt⟩ := override
  rw [expiryOf, h.2]
  cases expiresAt with
  | int n convertible => exact dif_pos convertible
  | float x => rfl

/-- An override that validation let through reads as the one it stands for. -/
theorem readsAs_of_represents {members : List (String × Json)} {override : Override}
    (h : Represents members override) : (object codec runs).ReadsAs members override where
  truthy := by
    cases members with
    | nil => cases h.1
    | cons entry rest => rfl
  duty := dutyOf_of_represents h
  expiry := expiryOf_of_represents h

end

end DiskPolicy

/-- How an event ends: as it does for a policy that lives on, or in the death of the process. -/
inductive DiskOutcome
  | lived (outcome : PolicyOutcome)
  | died
  deriving DecidableEq

namespace DiskPolicy

variable (codec : Codec) (runs : SaveRuns)

/-- The next process, if it comes up. -/
def restart (policy : DiskPolicy) : Option DiskPolicy :=
  (init codec policy.directory policy.saves).toOption

/-- A call, and after a death the next process. -/
def outcome : EStateM.Result (Halt Failure) DiskPolicy SafetyDecision → DiskOutcome × DiskPolicy
  | .ok decision policy => (.lived (.decided decision), policy)
  | .error (.raises error) policy => (.lived (.raised error), policy)
  | .error .dies policy => (.died, (policy.restart codec).getD policy)

/-- One event. -/
def step (policy : DiskPolicy) : PolicyEvent → DiskOutcome × DiskPolicy
  | .evaluate clock status requestedDuty now =>
      outcome codec (evaluate codec runs clock status requestedDuty now policy)
  | .request clock status dutyPercent ttlSeconds =>
      outcome codec (requestOverride codec runs clock status dutyPercent ttlSeconds policy)
  | .restart =>
      match init codec policy.directory policy.saves with
      | .ok started => (.lived .started, started)
      | .error error => (.lived (.raised error), policy)

end DiskPolicy

end TrueFan
