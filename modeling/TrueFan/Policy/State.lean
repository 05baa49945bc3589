/-
# The persisted control state

The policy remembers two things across ticks and restarts: whether a hot
incident is open, and at most one manual override. Both live in memory and in
one JSON file. A file the policy cannot read is treated as evidence of an open
incident; a file it can read is validated member by member, and an override that
does not validate is dropped.

An `Override` carries the validation: its duty is in the accepted range and its
expiry is a finite number a float can hold, so what `load` lets through and what
a request stores needs no second check anywhere below.
-/

import TrueFan.Backend
import TrueFan.Foundations.Lease
import TrueFan.Python.Json

namespace TrueFan

open Python

/-- A duty that a request may ask for and an override may hold. -/
abbrev DutyPercent := {duty : ℤ // 22 ≤ duty ∧ duty ≤ 100}

/-- A lifetime in seconds that a request may ask for. -/
abbrev TtlSeconds := {ttl : ℤ // 1 ≤ ttl ∧ ttl ≤ 900}

/-- A clock reading; `time.time()` returns a finite float. -/
abbrev Clock := FiniteFloat

/-- An expiry as the state file may hold it: a finite float, or an integer that
has a finite float. -/
inductive Timestamp
  | int (n : ℤ) (convertible : |(n : ℚ)| < overflowBound)
  | float (x : FiniteFloat)
  deriving DecidableEq

namespace Timestamp

/-- `float(expires_at)`. -/
def toFloat : Timestamp → FiniteFloat
  | .int n convertible => FiniteFloat.round n convertible
  | .float x => x

def toJson : Timestamp → Json
  | .int n _ => .int n
  | .float x => .float (.finite x)

end Timestamp

/-- A manual override. -/
structure Override where
  dutyPercent : DutyPercent
  expiresAt : Timestamp
  deriving DecidableEq

namespace Override

def expiry (override : Override) : Clock := override.expiresAt.toFloat

/-- An override is a lease of its duty. -/
def toLease (override : Override) : Foundations.Lease DutyPercent Clock :=
  ⟨override.dutyPercent, override.expiry⟩

def toJson (override : Override) : Json :=
  .object [("duty_percent", .int override.dutyPercent.val),
    ("expires_at", override.expiresAt.toJson)]

end Override

/-- `SafetyPolicy._state`. The version member is the constant one. -/
structure ControlState where
  previousHot : Bool
  override : Option Override
  deriving DecidableEq

namespace ControlState

def toJson (state : ControlState) : Json :=
  .object [("override", (state.override.map Override.toJson).getD .null),
    ("previous_hot", .bool state.previousHot), ("version", .int 1)]

end ControlState

/-- The content of the state file as reading and decoding it comes out. -/
inductive StateFile
  | absent
  | failing (error : Failure)
  | document (value : Json)

/-- Whether one state-file write succeeds. A write that raises does so before
the temporary file replaces the state file. -/
inductive WriteOutcome
  | stored
  | raised
  deriving DecidableEq, Repr

/-- The store: the file, how many writes were attempted, and how each one turns
out. The outcomes are the environment's and never change. -/
structure ControlStateStore where
  file : StateFile
  attempts : ℕ
  outcomes : ℕ → WriteOutcome

namespace ControlStateStore

def defaultState : ControlState where
  previousHot := false
  override := none

/-- What a file that cannot be read or is no JSON object stands for. -/
def unreadableState : ControlState where
  previousHot := true
  override := none

/-- The validation of the override member. `math.isfinite` raises on an integer
beyond the range of floats. -/
def loadOverride : Json → Except Failure (Option Override)
  | .object members =>
      match Json.get members "duty_percent" with
      | .int duty =>
          if hduty : 22 ≤ duty ∧ duty ≤ 100 then
            match Json.get members "expires_at" with
            | .int n =>
                if hn : |(n : ℚ)| < overflowBound then
                  .ok (some ⟨⟨duty, hduty⟩, .int n hn⟩)
                else .error .overflowError
            | .float (.finite x) => .ok (some ⟨⟨duty, hduty⟩, .float x⟩)
            | _ => .ok none
          else .ok none
      | _ => .ok none
  | _ => .ok none

/-- `ControlStateStore.load` on a file with the given content. -/
def loadFile : StateFile → Except Failure ControlState
  | .absent => .ok defaultState
  | .failing .osError => .ok unreadableState
  | .failing (.valueError _) => .ok unreadableState
  | .failing (.unicodeDecodeError _) => .ok unreadableState
  | .failing .typeError => .ok unreadableState
  | .failing error => .error error
  | .document (.object members) => do
      let override ← loadOverride (Json.get members "override")
      return { previousHot := (Json.get members "previous_hot").truthy, override }
  | .document _ => .ok unreadableState

/-- The store before this program first ran: no file, no write attempted. -/
def fresh (outcomes : ℕ → WriteOutcome) : ControlStateStore where
  file := .absent
  attempts := 0
  outcomes

def load (store : ControlStateStore) : Except Failure ControlState :=
  loadFile store.file

/-- `ControlStateStore.save`: the file afterwards holds the state, or the write
raised and the file is as it was. -/
def save (state : ControlState) : EStateM Failure ControlStateStore Unit := fun store =>
  match store.outcomes store.attempts with
  | .stored => .ok () { store with file := .document state.toJson, attempts := store.attempts + 1 }
  | .raised => .error .osError { store with attempts := store.attempts + 1 }

@[simp]
theorem loadOverride_toJson (override : Override) :
    loadOverride override.toJson = .ok (some override) := by
  obtain ⟨⟨duty, hduty⟩, expiresAt⟩ := override
  have hname : "expires_at" ≠ "duty_percent" := by decide
  cases expiresAt with
  | int n convertible =>
      simp [loadOverride, Override.toJson, Timestamp.toJson, Json.get_cons_of_ne hname,
        hduty, convertible]
  | float x =>
      simp [loadOverride, Override.toJson, Timestamp.toJson, Json.get_cons_of_ne hname, hduty]

/-- Loading what was saved gives back the saved state. -/
@[simp]
theorem loadFile_toJson (state : ControlState) :
    loadFile (.document state.toJson) = .ok state := by
  obtain ⟨previousHot, override⟩ := state
  have hname : "previous_hot" ≠ "override" := by decide
  cases override with
  | none =>
      simp [loadFile, ControlState.toJson, Json.get_cons_of_ne hname, loadOverride]
  | some override =>
      simp [loadFile, ControlState.toJson, Json.get_cons_of_ne hname]

end ControlStateStore

end TrueFan
