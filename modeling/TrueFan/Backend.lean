/-
# Fan backends

What a backend reports and what it can be asked to do. A backend owns hardware
that other parties change as well, so its three methods act on a state of its
own and may raise.
-/

import TrueFan.Python.Binary64
import TrueFan.Python.Effect

namespace TrueFan

open Python

/-- The exceptions the control agent raises or lets pass, with their texts. -/
inductive Failure
  | osError
  | subprocessError
  | valueError (message : String)
  | unicodeDecodeError (message : String)
  | typeError
  | overflowError
  | recursionError
  | runtimeError (message : String)
  | safetyLocked (message : String)
  | sensorError (message : String)
  | backendCommandError (message : String)
  | backendMutationError (message : String)
  deriving DecidableEq, Repr

/-- The fan mode a backend reports. -/
inductive Mode
  | manual
  | auto
  | unknown
  deriving DecidableEq, Repr

/-- The temperatures of one status. An absent reading is `none`; a present one
is a float, which need not be finite. -/
structure Temperatures where
  cpuC : Option PyFloat
  boardC : Option PyFloat
  drivesC : List (String × PyFloat)
  maxDriveC : Option PyFloat
  nvmeC : Option PyFloat
  deriving DecidableEq

def emptyTemperatures : Temperatures where
  cpuC := none
  boardC := none
  drivesC := []
  maxDriveC := none
  nvmeC := none

/-- The sanitized error of a status. -/
structure BackendError where
  code : String
  message : String
  deriving DecidableEq, Repr

/-- What a backend reports. -/
structure BackendStatus where
  backend : String
  mode : Mode := .unknown
  dutyPercent : Option ℤ := none
  pwm : Option ℤ := none
  fanRpms : List (String × ℤ) := []
  temperatures : Temperatures := emptyTemperatures
  sensorOk : Bool := false
  error : Option BackendError := none
  deriving DecidableEq

/-- A reading of a whole number of degrees. -/
def degrees (n : ℤ) (small : FiniteFloat.Small n := by exact (rfl : true = true)) :
    Option PyFloat :=
  some (.finite (.ofInt n small))

/-- A status with the given required readings and nothing else to report. -/
def readingStatus (cpu drive : Option PyFloat) (duty : Option ℤ) (sensorOk : Bool := true) :
    BackendStatus where
  backend := "fake"
  mode := if duty.isSome then .manual else .unknown
  dutyPercent := duty
  temperatures := { emptyTemperatures with cpuC := cpu, maxDriveC := drive }
  sensorOk := sensorOk

/-- The contract between the control service and a backend with state `Hardware`. -/
structure FanBackend (Hardware : Type) where
  status : EStateM Failure Hardware BackendStatus
  setDutyPercent : ℤ → EStateM Failure Hardware BackendStatus
  setAuto : EStateM Failure Hardware BackendStatus

end TrueFan
