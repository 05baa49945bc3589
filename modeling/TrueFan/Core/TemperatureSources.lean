/-
# Temperature sources of the core

The core lists a temperature of the processor, one of the NVMe disk and, if it is asked
to, one of a hard disk. Each is looked for in hwmon; where that fails, a disk falls back
to what smartctl prints about it. Whatever goes wrong in hwmon is caught, but the walk
through the document of smartctl takes its shape for granted, and what it raises takes
the other sources along.
-/

import TrueFan.Ast2600.Conversion
import TrueFan.Foundations.FirstFound
import TrueFan.Python.Repr

namespace TrueFan

open Python Foundations

/-- The exceptions of reading the sources. -/
inductive SourcesFailure
  | lookupError
  | jsonDecodeError
  | attributeError
  | lets (error : Failure)
  deriving DecidableEq, Repr

/-- What running smartctl comes to: there is no such program, it cannot be run to its end,
or it ends with what it printed. -/
inductive SmartctlRun
  | notFound
  | failed
  | finished (stdout stderr : List Char)

/-- What `read_smartctl_temperature` returns. -/
inductive SmartctlTemperature
  | unavailable
  | denied
  | celsius (value : PyFloat)

/-- `_SMART_DENIED` and `_SMART_DENIED_WARNED`. -/
structure SmartStatus where
  denied : Bool
  deniedWarned : Bool

/-- An entry of the list. -/
structure Source where
  name : String
  value : PyFloat
  deriving DecidableEq

/-- What the sources are read from: the temperature of the hwmon device with one of the
keywords, under a label if one is given, the runs of smartctl on a device, the decoder of
what it prints, and the spelling of names in it. -/
structure Sources where
  hwmon : List String → Option String → Except SourcesFailure PyFloat
  smartctl : String → SmartctlRun
  loads : List Char → Except SourcesFailure Json
  spelling : Spelling

namespace Sources

abbrev Method (α : Type) := EStateM SourcesFailure SmartStatus α

/-- `_to_float`. -/
def toFloat : Json → Except SourcesFailure (Option PyFloat)
  | .null => .ok none
  | value =>
      match floatOf value with
      | .ok number => .ok (some number)
      | .error .typeError => .ok none
      | .error (.valueError _) => .ok none
      | .error error => .error (.lets error)

/-- `value.get(name, default)` of a value that may be no dictionary. -/
def getOf (value : Json) (name : String) (default : Json) : Except SourcesFailure Json :=
  match value with
  | .object members => .ok (Json.getOr members name default)
  | _ => .error .attributeError

/-- `TEMP_ATTRIBUTE_NAMES`. -/
def tempAttributeNames : List (List Char) :=
  ["temperature_celsius", "temperature_case", "temperature_internal",
    "airflow_temperature_cel"].map String.toList

/-- The items of a value, if it is iterable. -/
def items : Json → Option (List Json)
  | .array items => some items
  | .object members => some (members.map fun entry => .str entry.1)
  | .str text => some (text.toList.map fun c => .str (String.singleton c))
  | _ => none

variable (sources : Sources)

/-- The attribute is named as a temperature. -/
def named (members : List (String × Json)) : Bool :=
  let name := lowerAscii (strip (sources.spelling.str (Json.getOr members "name" (.str ""))))
  tempAttributeNames.contains name || occursIn "temp".toList name

/-- The body of the loop in `_extract_from_attributes`. -/
def attributeTemperature : Json → Except SourcesFailure (Option PyFloat)
  | .object members =>
      if sources.named members then do
        let temp ← match Json.getOr members "raw" (.object []) with
          | .object raw => toFloat (Json.get raw "value")
          | _ => .ok none
        match temp with
        | some found => return some found
        | none => toFloat (Json.get members "value")
      else .ok none
  | _ => .ok none

/-- `_extract_from_attributes`. -/
def extractFromAttributes (data : Json) : Except SourcesFailure (Option PyFloat) := do
  let attributes ← getOf data "ata_smart_attributes" (.object [])
  let table ← getOf attributes "table" (.array [])
  match items table with
  | some attrs => firstFound sources.attributeTemperature attrs
  | none => return none

/-- The temperature `read_smartctl_temperature` finds in a document. -/
def dataTemperature (data : Json) : Except SourcesFailure (Option PyFloat) := do
  let temperature ← getOf data "temperature" (.object [])
  let current ← getOf temperature "current" .null
  match ← toFloat current with
  | some temp => return some temp
  | none => sources.extractFromAttributes data

/-- What smartctl complains of is a permission. -/
def saysDenied (stderr : List Char) : Bool :=
  occursIn "permission denied".toList (lowerAscii stderr)

/-- `_mark_smart_denied`. -/
def markSmartDenied : Method Unit :=
  modify fun status => { status with denied := true, deniedWarned := true }

/-- `read_smartctl_temperature`. -/
def readSmartctlTemperature (device : String) : Method SmartctlTemperature :=
  match sources.smartctl device with
  | .notFound => return .unavailable
  | .failed => return .unavailable
  | .finished stdout stderr =>
      if saysDenied stderr then do
        markSmartDenied
        return .denied
      else if stdout = [] then return .unavailable
      else
        match sources.loads stdout with
        | .error .jsonDecodeError => return .unavailable
        | .error error => throw error
        | .ok data =>
            match sources.dataTemperature data with
            | .ok (some temp) => return .celsius temp
            | .ok none => return .unavailable
            | .error error => throw error

/-- `_read_temp_smartctl`. -/
def readTempSmartctl (device : String) : Method (Option PyFloat) := do
  match ← sources.readSmartctlTemperature device with
  | .celsius temp => return some temp
  | _ => return none

/-- `_read_temp_hwmon`. -/
def readTempHwmon (keywords : List String) (sensorKeyword : Option String) : Option PyFloat :=
  match sources.hwmon keywords sensorKeyword with
  | .ok temp => some temp
  | .error _ => none

def cpuKeywords : List String := ["coretemp", "k10temp", "cpu"]

def nvmeKeywords : List String := ["nvme"]

def hddKeywords : List String := ["drivetemp", "hdd", "ata"]

/-- The temperature of the processor. -/
def cpuTemp : Option PyFloat :=
  match sources.readTempHwmon cpuKeywords (some "package") with
  | some temp => some temp
  | none => sources.readTempHwmon cpuKeywords none

/-- The temperature of a disk, which falls back to smartctl. -/
def diskTemp (keywords : List String) (device : String) : Method (Option PyFloat) :=
  match sources.readTempHwmon keywords none with
  | some temp => return some temp
  | none => sources.readTempSmartctl device

/-- The entry of a source, if it has a temperature. -/
def entries (name : String) (temp : Option PyFloat) : List Source :=
  match temp with
  | some value => [⟨name, value⟩]
  | none => []

/-- `get_temperature_sources`. -/
def getTemperatureSources (includeHdd : Bool) : Method (List Source) := do
  let nvme ← sources.diskTemp nvmeKeywords "/dev/nvme0"
  if includeHdd then
    let hdd ← sources.diskTemp hddKeywords "/dev/sda"
    return entries "cpu" sources.cpuTemp ++ entries "nvme" nvme ++ entries "hdd" hdd
  else return entries "cpu" sources.cpuTemp ++ entries "nvme" nvme

end Sources

end TrueFan
