/-
# hwmon sensors

`read_hwmon_sensors` visits every hwmon directory and every temperature input in it,
classifies the input by chip and label, and keeps running maxima for the processor and
the board and a dictionary for the drives. A file that cannot be read is passed over; a
name or a label that is no text raises.

Lowering a text is left open: nothing here depends on what it does.
-/

import TrueFan.Foundations.Dictionary
import TrueFan.Hwmon.Backend
import TrueFan.Python.Float

namespace TrueFan

open Python Foundations

/-- What a temperature input measures. -/
inductive SensorKind
  | cpu
  | drive
  | board
  deriving DecidableEq

/-- One of the markers is in the text. -/
def mentions (markers : List String) (identity : List Char) : Bool :=
  markers.any fun marker => decide (marker.toList <:+: identity)

/-- The class of an input with the given chip and label. -/
def sensorKind (chip label : List Char) : Option SensorKind :=
  let identity := chip ++ ' ' :: label
  if mentions ["coretemp", "k10temp", "package", "cpu"] identity then some .cpu
  else if mentions ["drivetemp", "hdd", "ata"] identity then some .drive
  else if mentions ["board", "pch", "chipset", "motherboard"] identity then some .board
  else none

/-- `stem` of a file name. -/
def stem (name : Name) : Name :=
  let extension := name.reverse.takeWhile (· ≠ '.')
  if extension.length + 1 < name.length ∧ extension ≠ [] then
    name.take (name.length - (extension.length + 1))
  else name

/-- The key of a reading in a dictionary of readings. -/
def sensorKey (chip label : List Char) : String := String.ofList (chip ++ ':' :: label)

/-- The name of a path. -/
def fileName (path : Path) : Name := path.getLastD []

/-- The label file of a temperature input. -/
def labelPath (input : Path) : Path :=
  input.dropLast ++ [replace "_input".toList "_label".toList (fileName input)]

/-- The value of a temperature input in degrees, where it can be read and converted. -/
def readTemperature (tree : FileTree) (input : Path) : Option PyFloat :=
  match tree.read input with
  | .ok text =>
      (parseFloat (strip text)).map fun raw =>
        if PyFloat.lt (.finite (.ofInt 500)) raw then raw.divNat 1000 else raw
  | .error _ => none

/-- What the loops of `read_hwmon_sensors` have gathered. -/
structure SensorScan where
  temperatures : Temperatures
  driveValues : List (String × PyFloat)
  fanRpms : List (String × ℤ)

/-- One temperature reading, with the texts it is classified by. -/
structure SensorReading where
  chip : List Char
  label : List Char
  value : PyFloat

/-- Take a reading up under its class. -/
def SensorScan.record (scan : SensorScan) (reading : SensorReading) : SensorScan :=
  match sensorKind reading.chip reading.label with
  | some .cpu =>
      { scan with
        temperatures.cpuC := some (PyFloat.raisedTo scan.temperatures.cpuC reading.value) }
  | some .drive =>
      { scan with
        driveValues :=
          assign (sensorKey reading.chip reading.label) reading.value scan.driveValues }
  | some .board =>
      { scan with
        temperatures.boardC := some (PyFloat.raisedTo scan.temperatures.boardC reading.value) }
  | none => scan

section

variable (lower : List Char → List Char) (tree : FileTree)

/-- The label of a temperature input, or its stem where there is no label to read. -/
def inputLabel (input : Path) : Except Failure (List Char) :=
  match tree.read (labelPath input) with
  | .ok text => .ok (lower (strip text))
  | .error .unavailable => .ok (lower (stem (fileName input)))
  | .error (.undecodable complaint) => .error (.unicodeDecodeError complaint)

/-- One round of the loop over temperature inputs. -/
def scanInput (chip : List Char) (scan : SensorScan) (input : Path) : Except Failure SensorScan :=
  match readTemperature tree input with
  | none => .ok scan
  | some value => do
      let label ← inputLabel lower tree input
      return scan.record ⟨chip, label, value⟩

/-- One round of the loop over fan inputs. -/
def scanFan (chip : List Char) (scan : SensorScan) (input : Path) : SensorScan :=
  match readInt tree input with
  | some rpm =>
      let fan := removeSuffix "_input".toList (stem (fileName input))
      { scan with fanRpms := assign (sensorKey chip fan) rpm scan.fanRpms }
  | none => scan

/-- The inputs of a directory whose names begin with `front`, sorted. -/
def inputsOf (front : String) (directory : Path) : List Path :=
  sortedPaths (globIn tree.layout directory (matchesAround front.toList "_input".toList))

/-- One round of the loop over hwmon directories. -/
def scanDirectory (scan : SensorScan) (directory : Path) : Except Failure SensorScan :=
  match tree.read (directory ++ ["name".toList]) with
  | .error .unavailable => .ok scan
  | .error (.undecodable complaint) => .error (.unicodeDecodeError complaint)
  | .ok text => do
      let chip := lower (strip text)
      let scan ← (inputsOf tree "temp" directory).foldlM (scanInput lower tree chip) scan
      return (inputsOf tree "fan" directory).foldl (scanFan tree chip) scan

/-- The directories below the root, sorted. -/
def hwmonDirectories (root : LiteralPath) : List Path :=
  sortedPaths (globIn tree.layout root.1 (matchesAround "hwmon".toList []))

/-- The dictionary `read_hwmon_sensors` makes of what it gathered. -/
def SensorScan.sensors (scan : SensorScan) : HwmonSensors :=
  let temperatures : Temperatures := { scan.temperatures with
    drivesC := scan.driveValues
    maxDriveC := PyFloat.maxOf (scan.driveValues.map Prod.snd) }
  { temperatures := some temperatures
    fanRpms := some scan.fanRpms
    sensorOk := temperatures.cpuC.isSome && temperatures.maxDriveC.isSome }

/-- `read_hwmon_sensors`. -/
def readHwmonSensors (root : LiteralPath := literalRoot) : Except Failure HwmonSensors := do
  let start : SensorScan := ⟨emptyTemperatures, [], []⟩
  let scan ← (hwmonDirectories tree root).foldlM (scanDirectory lower tree) start
  return scan.sensors

end

end TrueFan
