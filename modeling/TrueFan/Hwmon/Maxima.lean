/-
# The maxima of a tree

What the readings of a tree are, independently of the loops that gather them, and when
the maxima `read_hwmon_sensors` returns are theirs. The loops run through unless a name
or a label is no text; the dictionary of the drives keeps the last reading of each key;
and a running maximum that stands at zero starts over.
-/

import TrueFan.Hwmon.Sensors

namespace TrueFan

open Python Foundations

section

variable (lower : List Char → List Char) (tree : FileTree)

/-- The reading of a temperature input, if it can be taken. -/
def readingOf (chip : List Char) (input : Path) : Option SensorReading :=
  match readTemperature tree input, inputLabel lower tree input with
  | some value, .ok label => some ⟨chip, label, value⟩
  | _, _ => none

/-- The readings of a directory whose chip can be read. -/
def directoryReadings (directory : Path) : List SensorReading :=
  match tree.read (directory ++ ["name".toList]) with
  | .ok text =>
      (inputsOf tree "temp" directory).filterMap (readingOf lower tree (lower (strip text)))
  | .error _ => []

/-- The readings of a tree, in the order in which they are visited. -/
def sensorReadings (root : LiteralPath := literalRoot) : List SensorReading :=
  (hwmonDirectories tree root).flatMap (directoryReadings lower tree)

/-- The label of an input that can be converted is text, or cannot be read. -/
def LabelDecodes (input : Path) : Prop :=
  readTemperature tree input ≠ none → tree.decodes (labelPath input) = true

/-- The name in a directory is text, or cannot be read; where it can, the labels
decode. -/
def DirectoryDecodes (directory : Path) : Prop :=
  tree.decodes (directory ++ ["name".toList]) = true ∧
    (tree.read (directory ++ ["name".toList]) ≠ .error .unavailable →
      ∀ input ∈ inputsOf tree "temp" directory, LabelDecodes tree input)

/-- The names and labels of a tree that are read are text. -/
def Decodes (root : LiteralPath := literalRoot) : Prop :=
  ∀ directory ∈ hwmonDirectories tree root, DirectoryDecodes tree directory

instance : DecidablePred (LabelDecodes tree) := fun input =>
  inferInstanceAs (Decidable (readTemperature tree input ≠ none → _ = _))

instance : DecidablePred (DirectoryDecodes tree) := fun directory =>
  inferInstanceAs (Decidable (_ ∧ (_ → ∀ input ∈ inputsOf tree "temp" directory, _)))

end

/-- The readings of one class. -/
def ofKind (kind : SensorKind) (readings : List SensorReading) : List SensorReading :=
  readings.filter fun reading => sensorKind reading.chip reading.label = some kind

/-- The values of the readings of one class. -/
def valuesOf (kind : SensorKind) (readings : List SensorReading) : List PyFloat :=
  (ofKind kind readings).map SensorReading.value

/-- The drive readings as assignments to a dictionary. -/
def driveAssignments (readings : List SensorReading) : List (String × PyFloat) :=
  (ofKind .drive readings).map fun reading =>
    (sensorKey reading.chip reading.label, reading.value)

theorem driveAssignments_map_snd (readings : List SensorReading) :
    (driveAssignments readings).map Prod.snd = valuesOf .drive readings :=
  List.map_map

section

variable {readings : List SensorReading} {reading : SensorReading} {kind : SensorKind}

theorem ofKind_append_of_eq (h : sensorKind reading.chip reading.label = some kind) :
    ofKind kind (readings ++ [reading]) = ofKind kind readings ++ [reading] := by
  rw [ofKind, List.filter_append, ← ofKind]
  simp [h]

theorem ofKind_append_of_ne (h : sensorKind reading.chip reading.label ≠ some kind) :
    ofKind kind (readings ++ [reading]) = ofKind kind readings := by
  rw [ofKind, List.filter_append, ← ofKind]
  simp [h]

/-- A value of the class raises its maximum. -/
theorem raisedAll_valuesOf_of_eq (h : sensorKind reading.chip reading.label = some kind) :
    PyFloat.raisedAll (valuesOf kind (readings ++ [reading])) =
      some (PyFloat.raisedTo (PyFloat.raisedAll (valuesOf kind readings)) reading.value) := by
  rw [valuesOf, ofKind_append_of_eq h, List.map_append]
  exact PyFloat.raisedAll_append_singleton _ _

theorem valuesOf_of_ne (h : sensorKind reading.chip reading.label ≠ some kind) :
    valuesOf kind (readings ++ [reading]) = valuesOf kind readings :=
  congrArg (List.map SensorReading.value) (ofKind_append_of_ne h)

/-- A value of a drive is assigned to its key. -/
theorem assignAll_driveAssignments_of_eq
    (h : sensorKind reading.chip reading.label = some .drive) :
    assignAll [] (driveAssignments (readings ++ [reading])) =
      assign (sensorKey reading.chip reading.label) reading.value
        (assignAll [] (driveAssignments readings)) := by
  rw [driveAssignments, ofKind_append_of_eq h, List.map_append]
  exact assignAll_append_singleton _ _ _

theorem driveAssignments_of_ne (h : sensorKind reading.chip reading.label ≠ some .drive) :
    driveAssignments (readings ++ [reading]) = driveAssignments readings :=
  congrArg (List.map _) (ofKind_append_of_ne h)

/-- The scan holds what the readings come to. -/
structure Gathers (scan : SensorScan) (readings : List SensorReading) : Prop where
  cpu : scan.temperatures.cpuC = PyFloat.raisedAll (valuesOf .cpu readings)
  board : scan.temperatures.boardC = PyFloat.raisedAll (valuesOf .board readings)
  drives : scan.driveValues = assignAll [] (driveAssignments readings)

variable {scan : SensorScan}

/-- Taking a reading up gathers it. -/
theorem Gathers.record (h : Gathers scan readings) (reading : SensorReading) :
    Gathers (scan.record reading) (readings ++ [reading]) := by
  rw [SensorScan.record]
  cases hkind : sensorKind reading.chip reading.label with
  | none =>
      have hother (kind : SensorKind) : sensorKind reading.chip reading.label ≠ some kind := by
        rw [hkind]
        nofun
      refine ⟨?_, ?_, ?_⟩
      · rw [valuesOf_of_ne (hother _), ← h.cpu]
      · rw [valuesOf_of_ne (hother _), ← h.board]
      · rw [driveAssignments_of_ne (hother _), ← h.drives]
  | some kind =>
      have hother (other : SensorKind) (hne : kind ≠ other) :
          sensorKind reading.chip reading.label ≠ some other := by
        rw [hkind]
        exact fun heq => hne (Option.some.inj heq)
      cases kind with
      | cpu =>
          refine ⟨?_, ?_, ?_⟩
          · rw [raisedAll_valuesOf_of_eq hkind, ← h.cpu]
          · rw [valuesOf_of_ne (hother .board nofun), ← h.board]
          · rw [driveAssignments_of_ne (hother .drive nofun), ← h.drives]
      | drive =>
          refine ⟨?_, ?_, ?_⟩
          · rw [valuesOf_of_ne (hother .cpu nofun), ← h.cpu]
          · rw [valuesOf_of_ne (hother .board nofun), ← h.board]
          · rw [assignAll_driveAssignments_of_eq hkind, ← h.drives]
      | board =>
          refine ⟨?_, ?_, ?_⟩
          · rw [valuesOf_of_ne (hother .cpu nofun), ← h.cpu]
          · rw [raisedAll_valuesOf_of_eq hkind, ← h.board]
          · rw [driveAssignments_of_ne (hother .drive nofun), ← h.drives]

/-- Taking readings up gathers them. -/
theorem Gathers.foldl_record (h : Gathers scan readings) (more : List SensorReading) :
    Gathers (more.foldl SensorScan.record scan) (readings ++ more) := by
  induction more generalizing scan readings with
  | nil =>
      rw [List.append_nil]
      exact h
  | cons reading more ih =>
      rw [List.foldl_cons, List.append_cons]
      exact ih (h.record reading)

/-- Fans change nothing that is gathered. -/
theorem Gathers.foldl_scanFan (h : Gathers scan readings) (tree : FileTree) (chip : List Char)
    (inputs : List Path) : Gathers (inputs.foldl (scanFan tree chip) scan) readings := by
  induction inputs generalizing scan with
  | nil => exact h
  | cons input rest ih =>
      apply ih
      rw [scanFan]
      cases readInt tree input with
      | none => exact h
      | some rpm => exact ⟨h.cpu, h.board, h.drives⟩

end

section

variable (lower : List Char → List Char) (tree : FileTree)

/-- What a round over a directory makes of the scan, if it does not raise. -/
def scannedDirectory (scan : SensorScan) (directory : Path) : SensorScan :=
  match tree.read (directory ++ ["name".toList]) with
  | .ok text =>
      (inputsOf tree "fan" directory).foldl (scanFan tree (lower (strip text)))
        ((directoryReadings lower tree directory).foldl SensorScan.record scan)
  | .error _ => scan

/-- What was raised says what a decoder complained about. -/
def Undecodable (error : Failure) : Prop := ∃ complaint, error = .unicodeDecodeError complaint

/-- A label is found unless there is one that does not decode. -/
theorem inputLabel_cases (input : Path) :
    (tree.decodes (labelPath input) = true ∧ ∃ label, inputLabel lower tree input = .ok label) ∨
      tree.decodes (labelPath input) = false ∧
        ∃ error, Undecodable error ∧ inputLabel lower tree input = .error error := by
  rw [FileTree.decodes, inputLabel]
  cases tree.read (labelPath input) with
  | ok text => exact .inl ⟨rfl, _, rfl⟩
  | error error =>
      cases error with
      | unavailable => exact .inl ⟨rfl, _, rfl⟩
      | undecodable complaint => exact .inr ⟨rfl, _, ⟨complaint, rfl⟩, rfl⟩

/-- A round over an input whose label decodes takes its reading up. -/
theorem scanInput_of_decodes (chip : List Char) (scan : SensorScan) (input : Path)
    (decodes : LabelDecodes tree input) :
    scanInput lower tree chip scan input =
      .ok ((readingOf lower tree chip input).elim scan scan.record) := by
  rw [scanInput, readingOf]
  cases htemperature : readTemperature tree input with
  | none => rfl
  | some value =>
      have hdecodes := decodes (by rw [htemperature]; nofun)
      rcases inputLabel_cases lower tree input with ⟨-, label, hlabel⟩ | ⟨hnot, -⟩
      · rw [hlabel]
        rfl
      · rw [hdecodes] at hnot
        cases hnot

/-- Any other round raises. -/
theorem scanInput_of_not_decodes (chip : List Char) (scan : SensorScan) (input : Path)
    (hnot : ¬ LabelDecodes tree input) :
    ∃ error, Undecodable error ∧ scanInput lower tree chip scan input = .error error := by
  rw [LabelDecodes, Classical.not_imp] at hnot
  obtain ⟨hread, hlabel⟩ := hnot
  obtain ⟨value, hvalue⟩ := Option.ne_none_iff_exists'.mp hread
  rw [scanInput, hvalue]
  rcases inputLabel_cases lower tree input with ⟨hdecodes, -⟩ | ⟨-, error, herror, hraises⟩
  · exact absurd hdecodes hlabel
  · rw [hraises]
    exact ⟨error, herror, rfl⟩

/-- Rounds over inputs take their readings up. -/
theorem foldl_elim_readingOf (chip : List Char) (inputs : List Path) (scan : SensorScan) :
    inputs.foldl (fun scan input => (readingOf lower tree chip input).elim scan scan.record) scan =
      (inputs.filterMap (readingOf lower tree chip)).foldl SensorScan.record scan := by
  rw [List.foldl_filterMap]
  congr 1
  funext scan input
  cases readingOf lower tree chip input with
  | none => rfl
  | some reading => rfl

/-- The rounds over the inputs of a directory. -/
theorem foldlM_scanInput (chip : List Char) (scan : SensorScan) (inputs : List Path) :
    ((∀ input ∈ inputs, LabelDecodes tree input) →
      inputs.foldlM (scanInput lower tree chip) scan =
        .ok ((inputs.filterMap (readingOf lower tree chip)).foldl SensorScan.record scan)) ∧
      ((¬ ∀ input ∈ inputs, LabelDecodes tree input) → ∃ error, Undecodable error ∧
        inputs.foldlM (scanInput lower tree chip) scan = .error error) := by
  rw [← foldl_elim_readingOf]
  exact foldlM_ok_or_error Undecodable
    (fun scan input => scanInput_of_decodes lower tree chip scan input)
    (fun scan input => scanInput_of_not_decodes lower tree chip scan input) inputs scan

/-- A round over a directory raises exactly if it does not decode. -/
theorem scanDirectory_cases (scan : SensorScan) (directory : Path) :
    (DirectoryDecodes tree directory →
      scanDirectory lower tree scan directory = .ok (scannedDirectory lower tree scan directory)) ∧
      (¬ DirectoryDecodes tree directory → ∃ error, Undecodable error ∧
        scanDirectory lower tree scan directory = .error error) := by
  rw [DirectoryDecodes, FileTree.decodes, scanDirectory, scannedDirectory, directoryReadings]
  cases tree.read (directory ++ ["name".toList]) with
  | error error =>
      cases error with
      | unavailable => exact ⟨fun _ => rfl, fun hnot => absurd ⟨rfl, fun h => absurd rfl h⟩ hnot⟩
      | undecodable complaint =>
          exact ⟨fun h => absurd h.1 Bool.false_ne_true, fun _ => ⟨_, ⟨complaint, rfl⟩, rfl⟩⟩
  | ok text =>
      obtain ⟨hok, hraises⟩ := foldlM_scanInput lower tree (lower (strip text)) scan
        (inputsOf tree "temp" directory)
      constructor
      · rintro ⟨-, hlabels⟩
        dsimp only
        rw [hok (hlabels nofun)]
        rfl
      · intro hnot
        obtain ⟨error, herror, hraised⟩ := hraises fun hlabels => hnot ⟨rfl, fun _ => hlabels⟩
        dsimp only
        rw [hraised]
        exact ⟨error, herror, rfl⟩

theorem Gathers.scannedDirectory {scan : SensorScan} {readings : List SensorReading}
    (h : Gathers scan readings) (directory : Path) :
    Gathers (scannedDirectory lower tree scan directory)
      (readings ++ directoryReadings lower tree directory) := by
  rw [TrueFan.scannedDirectory]
  cases hname : tree.read (directory ++ ["name".toList]) with
  | error error =>
      rw [directoryReadings, hname, List.append_nil]
      exact h
  | ok text => exact (h.foldl_record _).foldl_scanFan tree _ _

theorem Gathers.foldl_scannedDirectory {scan : SensorScan} {readings : List SensorReading}
    (h : Gathers scan readings) (directories : List Path) :
    Gathers (directories.foldl (TrueFan.scannedDirectory lower tree) scan)
      (readings ++ directories.flatMap (directoryReadings lower tree)) := by
  induction directories generalizing scan readings with
  | nil =>
      rw [List.flatMap_nil, List.append_nil]
      exact h
  | cons directory rest ih =>
      rw [List.foldl_cons, List.flatMap_cons, ← List.append_assoc]
      exact ih (h.scannedDirectory lower tree directory)

instance (root : LiteralPath) : Decidable (Decodes tree root) :=
  inferInstanceAs (Decidable (∀ directory ∈ hwmonDirectories tree root, _))

/-- `read_hwmon_sensors` raises unless the tree decodes, and otherwise returns what a
scan that has gathered the readings holds. -/
theorem readHwmonSensors_cases (root : LiteralPath) :
    ∃ scan, Gathers scan (sensorReadings lower tree root) ∧
      (Decodes tree root → readHwmonSensors lower tree root = .ok scan.sensors) ∧
      (¬ Decodes tree root → ∃ error, Undecodable error ∧
        readHwmonSensors lower tree root = .error error) := by
  have hstart : Gathers ⟨emptyTemperatures, [], []⟩ [] := ⟨rfl, rfl, rfl⟩
  obtain ⟨hok, hraises⟩ := foldlM_ok_or_error Undecodable
    (fun scan directory => (scanDirectory_cases lower tree scan directory).1)
    (fun scan directory => (scanDirectory_cases lower tree scan directory).2)
    (hwmonDirectories tree root) ⟨emptyTemperatures, [], []⟩
  refine ⟨_, hstart.foldl_scannedDirectory lower tree (hwmonDirectories tree root), ?_, ?_⟩
  · intro decodes
    rw [readHwmonSensors, hok decodes]
    rfl
  · intro hnot
    obtain ⟨error, herror, hraised⟩ := hraises hnot
    rw [readHwmonSensors, hraised]
    exact ⟨error, herror, rfl⟩

end

/-! ## When the maxima are those of the readings -/

/-- The maxima returned are the maxima over all readings of each class. -/
def LosesNothing (sensors : HwmonSensors) (readings : List SensorReading) : Prop :=
  ∃ temperatures, sensors.temperatures = some temperatures ∧
    PyFloat.IsMaximum (valuesOf .drive readings) temperatures.maxDriveC ∧
    PyFloat.IsMaximum (valuesOf .cpu readings) temperatures.cpuC ∧
    PyFloat.IsMaximum (valuesOf .board readings) temperatures.boardC

/-- There is no drive reading, or a greatest one that no later reading of its key
replaces. -/
def DriveKept (assignments : List (String × PyFloat)) : Prop :=
  assignments = [] ∨ ∃ key value, LastAssigned assignments key value ∧
    ∀ item ∈ assignments, PyFloat.le item.2 value = true

/-- What the dictionary holds was assigned. -/
theorem mem_of_lastAssigned {assignments : List (String × PyFloat)} {key : String}
    {value : PyFloat} (h : LastAssigned assignments key value) : (key, value) ∈ assignments := by
  obtain ⟨before, after, rfl, -⟩ := h
  exact List.mem_append_right _ List.mem_cons_self

/-- The greatest value of the dictionary is the greatest assigned one exactly if that one
is kept. -/
theorem isMaximum_maxOf_assignAll_iff (assignments : List (String × PyFloat)) :
    PyFloat.IsMaximum (assignments.map Prod.snd)
        (PyFloat.maxOf ((assignAll [] assignments).map Prod.snd)) ↔ DriveKept assignments := by
  have hmem : ∀ key value, (key, value) ∈ assignAll [] assignments ↔
      LastAssigned assignments key value := mem_assignAll_iff.2
  constructor
  · intro hmaximum
    cases hmax : PyFloat.maxOf ((assignAll [] assignments).map Prod.snd) with
    | none =>
        rw [hmax] at hmaximum
        exact .inl (List.map_eq_nil_iff.mp hmaximum)
    | some greatest =>
        rw [hmax] at hmaximum
        obtain ⟨⟨key, value⟩, hheld, rfl⟩ := List.mem_map.mp (PyFloat.mem_of_maxOf hmax)
        exact .inr ⟨key, value, (hmem key value).mp hheld, List.forall_mem_map.mp hmaximum.2⟩
  · rintro (rfl | ⟨key, value, hlast, hgreatest⟩)
    · rfl
    have hassigned : ∀ item ∈ assignAll [] assignments, item ∈ assignments := by
      rintro ⟨key, value⟩ hheld
      exact mem_of_lastAssigned ((hmem key value).mp hheld)
    have hnumbers : ∀ value ∈ (assignAll [] assignments).map Prod.snd, value ≠ .nan :=
      List.forall_mem_map.mpr fun item hheld =>
        (PyFloat.le_iff.mp (hgreatest item (hassigned item hheld))).1
    have hmaximum := PyFloat.isMaximum_maxOf hnumbers
    have hheld : value ∈ (assignAll [] assignments).map Prod.snd :=
      List.mem_map.mpr ⟨(key, value), (hmem key value).mpr hlast, rfl⟩
    cases hmax : PyFloat.maxOf ((assignAll [] assignments).map Prod.snd) with
    | none =>
        rw [hmax] at hmaximum
        have hempty : (assignAll [] assignments).map Prod.snd = [] := hmaximum
        rw [hempty] at hheld
        exact absurd hheld List.not_mem_nil
    | some greatest =>
        rw [hmax] at hmaximum
        obtain ⟨item, hitem, rfl⟩ := List.mem_map.mp hmaximum.1
        refine ⟨List.mem_map_of_mem (hassigned item hitem), List.forall_mem_map.mpr ?_⟩
        intro other hother
        exact PyFloat.le_trans (hgreatest other hother) (hmaximum.2 value hheld)

/-- The maxima returned are those over all readings exactly if the names and labels of
the tree decode, no greatest drive reading is replaced, and no running maximum starts over
behind its greatest value. -/
theorem losesNothing_iff_kept (lower : List Char → List Char) (tree : FileTree)
    (root : LiteralPath) :
    (∃ sensors, readHwmonSensors lower tree root = .ok sensors ∧
        LosesNothing sensors (sensorReadings lower tree root)) ↔
      Decodes tree root ∧ DriveKept (driveAssignments (sensorReadings lower tree root)) ∧
        PyFloat.PeakKept (valuesOf .cpu (sensorReadings lower tree root)) ∧
        PyFloat.PeakKept (valuesOf .board (sensorReadings lower tree root)) := by
  obtain ⟨scan, hgathers, hread, hraises⟩ := readHwmonSensors_cases lower tree root
  have hloses : LosesNothing scan.sensors (sensorReadings lower tree root) ↔
      DriveKept (driveAssignments (sensorReadings lower tree root)) ∧
        PyFloat.PeakKept (valuesOf .cpu (sensorReadings lower tree root)) ∧
        PyFloat.PeakKept (valuesOf .board (sensorReadings lower tree root)) := by
    rw [← isMaximum_maxOf_assignAll_iff, ← PyFloat.isMaximum_raisedAll_iff,
      ← PyFloat.isMaximum_raisedAll_iff, ← hgathers.cpu, ← hgathers.board, ← hgathers.drives,
      driveAssignments_map_snd, LosesNothing]
    simp only [SensorScan.sensors, Option.some.injEq, exists_eq_left']
  by_cases hdecodes : Decodes tree root
  · rw [hread hdecodes, ← hloses]
    simp only [Except.ok.injEq, exists_eq_left', hdecodes, true_and]
  · obtain ⟨error, -, hraised⟩ := hraises hdecodes
    rw [hraised]
    apply iff_of_false
    · rintro ⟨sensors, h, -⟩
      cases h
    · exact fun h => hdecodes h.1

/-- A drive as the kernel presents it: no label, the value in thousandths of a degree. -/
def driveDevice (device millidegrees : String) : Device :=
  (device.toList,
    [("name".toList, "drivetemp\n".toList), ("temp1_input".toList, millidegrees.toList)])

/-- Two drives, the hotter one first. -/
def twoDrivesTree : FileTree :=
  deviceTree [driveDevice "hwmon0" "50000\n", driveDevice "hwmon1" "40000\n"] (by decide +kernel)

/-- Of two drives the one visited last is reported: both have the same key. -/
theorem not_losesNothing_twoDrives :
    ¬ ∀ (lower : List Char → List Char) (tree : FileTree) (root : LiteralPath),
      ∃ sensors, readHwmonSensors lower tree root = .ok sensors ∧
        LosesNothing sensors (sensorReadings lower tree root) := by
  intro hall
  obtain ⟨sensors, hread, temperatures, htemperatures, hdrive, -, -⟩ :=
    hall (List.map Char.toLower) twoDrivesTree literalRoot
  have hvalues : valuesOf .drive (sensorReadings (List.map Char.toLower) twoDrivesTree) =
      [.finite (.ofInt 50), .finite (.ofInt 40)] := by
    decide +kernel
  have hmaximum : (readHwmonSensors (List.map Char.toLower) twoDrivesTree).toOption.bind
      (fun sensors => sensors.temperatures.map Temperatures.maxDriveC) = some (degrees 40) := by
    decide +kernel
  rw [hread] at hmaximum
  have hreported : sensors.temperatures.map Temperatures.maxDriveC = some (degrees 40) := hmaximum
  rw [htemperatures, Option.map_some, Option.some.injEq] at hreported
  rw [hreported, hvalues] at hdrive
  exact absurd (hdrive.2 _ List.mem_cons_self) (by decide +kernel)

end TrueFan
