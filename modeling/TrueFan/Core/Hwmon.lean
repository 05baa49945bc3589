/-
# hwmon as the core reads it

The core looks for a hwmon device by keywords in its name and reads one temperature of it. It
has code of its own for that, beside the code by which the agent reads the same directories:
a device that carries a name for the second time is left out, and a file that cannot be read is
fatal instead of being passed over.

What the two have to do with one another is the last result: a processor temperature the core
shows is one of the values of which the agent takes the maximum.
-/

import TrueFan.Core.TemperatureSources
import TrueFan.Hwmon.Maxima

namespace TrueFan

open Python Foundations

namespace Core

/-- `open(path).read()`. -/
def openText (tree : FileTree) (path : Path) : Except SourcesFailure (List Char) :=
  match tree.read path with
  | .ok text => .ok text
  | .error .unavailable => .error (.lets .osError)
  | .error (.undecodable complaint) => .error (.lets (.unicodeDecodeError complaint))

/-- `name_file`. -/
def nameFile (directory : Path) : Path := directory ++ ["name".toList]

section

variable (lower : List Char → List Char) (tree : FileTree) (matched : Path → List Path)

/-- One round of the loop in `get_hwmon_map`. -/
def mapDirectory (hwmonMap : List (List Char × Path)) (directory : Path) :
    Except SourcesFailure (List (List Char × Path)) :=
  if !tree.layout.isFile (nameFile directory) then .ok hwmonMap
  else do
    let name := lower (strip (← openText tree (nameFile directory)))
    if name = [] then return hwmonMap
    else return assignNew hwmonMap (name, directory)

/-- `get_hwmon_map`. -/
def getHwmonMap (root : LiteralPath) : Except SourcesFailure (List (List Char × Path)) :=
  if !tree.layout.isDirectory root.1 then .error (.lets .osError)
  else (hwmonDirectories tree root).foldlM (mapDirectory lower tree) []

/-- The keywords that are looked for. -/
def wanted (nameKeywords : List String) : List (List Char) :=
  (nameKeywords.filter fun keyword => keyword ≠ "").map fun keyword => lower keyword.toList

/-- The device whose name holds the keyword, the first of the list. -/
def matching (devices : List (List Char × Path)) (keyword : List Char) : Option Path :=
  (devices.find? fun device => occursIn keyword device.1).map Prod.snd

/-- `find_best_sensor`. -/
def findBestSensor (nameKeywords : List String) (root : LiteralPath := literalRoot) :
    Except SourcesFailure Path := do
  if wanted lower nameKeywords = [] then
    throw (.lets (.valueError "name_keywords must include at least one keyword"))
  let hwmonMap ← getHwmonMap lower tree root
  match (wanted lower nameKeywords).findSome? (matching hwmonMap) with
  | some path => return path
  | none => throw .lookupError

/-- `label_file`: the name of an input ends in `_input`. -/
def labelFile (input : Path) : Path :=
  let base := (fileName input).take ((fileName input).length - "_input".length)
  input.dropLast ++ [base ++ "_label".toList]

/-- The input itself, if its label holds the keyword. -/
def labelled (keyword : List Char) (input : Path) : Except SourcesFailure (Option Path) :=
  if !tree.layout.isFile (labelFile input) then .ok none
  else do
    let label := lower (strip (← openText tree (labelFile input)))
    return if occursIn keyword label then some input else none

/-- The input that is read, of a directory whose inputs are `first` and the others. -/
def targetInput (hwmonPath : Path) (sensorKeyword : Option String) (first : Path)
    (others : List Path) : Except SourcesFailure Path :=
  let keyword := lower (strip (sensorKeyword.getD "").toList)
  if keyword ≠ [] then do
    match ← firstFound (labelled lower tree keyword) (first :: others) with
    | some input => return input
    | none => throw .lookupError
  else
    let preferred := hwmonPath ++ ["temp1_input".toList]
    return if preferred ∈ first :: others then preferred else first

/-- `input_files`. The path of the directory goes into a pattern: where its name has special
characters, it is what this pattern matches. -/
def inputFiles (hwmonPath : Path) : List Path :=
  if Literal (fileName hwmonPath) then inputsOf tree "temp" hwmonPath else matched hwmonPath

/-- `get_temp`. -/
def getTemp (hwmonPath : Path) (sensorKeyword : Option String) :
    Except SourcesFailure PyFloat :=
  if !tree.layout.isDirectory hwmonPath then .error (.lets .osError)
  else
    match inputFiles tree matched hwmonPath with
    | [] => .error (.lets .osError)
    | first :: others => do
        let target ← targetInput lower tree hwmonPath sensorKeyword first others
        match parseFloat (strip (← openText tree target)) with
        | none => throw (.lets (.valueError "could not convert string to float"))
        | some value =>
            return if PyFloat.lt (.finite (.ofInt 500)) value then
              value.divNat 1000
            else value

/-- The sources whose hwmon devices lie in the tree. -/
def onTree (sources : Sources) : Sources :=
  { sources with
    hwmon := fun keywords sensorKeyword => do
      getTemp lower tree matched (← findBestSensor lower tree keywords) sensorKeyword }

/-- The device in a directory, if it has a name. -/
def deviceOf (directory : Path) : Option (List Char × Path) :=
  match tree.layout.isFile (nameFile directory), tree.read (nameFile directory) with
  | true, .ok text =>
      if lower (strip text) = [] then none else some (lower (strip text), directory)
  | _, _ => none

/-- All devices with a name, in the order of their directories. -/
def devices (root : LiteralPath) : List (List Char × Path) :=
  (hwmonDirectories tree root).filterMap (deviceOf lower tree)

/-- The name file of the directory is a text, if there is one. -/
def NameReads (directory : Path) : Prop :=
  tree.layout.isFile (nameFile directory) = true →
    ∃ text, tree.read (nameFile directory) = .ok text

/-- The device is the first to have the keyword in its name, and no device has a keyword in its
name that is asked for earlier. -/
def Best (keywords : List (List Char)) (devices : List (List Char × Path)) (path : Path) : Prop :=
  ∃ earlier keyword later front name back,
    keywords = earlier ++ keyword :: later ∧ devices = front ++ (name, path) :: back ∧
    keyword <:+: name ∧ (∀ device ∈ front, ¬ keyword <:+: device.1) ∧
    ∀ other ∈ earlier, ∀ device ∈ devices, ¬ other <:+: device.1

theorem mapDirectory_eq (hwmonMap : List (List Char × Path)) {directory : Path}
    (reads : NameReads tree directory) :
    mapDirectory lower tree hwmonMap directory =
      .ok ((deviceOf lower tree directory).elim hwmonMap (assignNew hwmonMap)) := by
  rw [mapDirectory, deviceOf]
  cases hfile : tree.layout.isFile (nameFile directory) with
  | false => rfl
  | true =>
      obtain ⟨text, htext⟩ := reads hfile
      rw [openText, htext]
      dsimp only [Bool.not_true, Bool.false_eq_true, if_false]
      show (if lower (strip text) = [] then _ else _ : Except SourcesFailure _) = _
      split
      · rfl
      · rfl

theorem mapDirectory_of_unread (hwmonMap : List (List Char × Path)) {directory : Path}
    (unread : ¬ NameReads tree directory) :
    ∃ error, mapDirectory lower tree hwmonMap directory = .error error := by
  rw [NameReads, Classical.not_imp] at unread
  obtain ⟨hfile, hread⟩ := unread
  rw [mapDirectory, hfile, openText]
  cases htext : tree.read (nameFile directory) with
  | ok text => exact absurd ⟨text, htext⟩ hread
  | error error =>
      cases error with
      | unavailable => exact ⟨_, rfl⟩
      | undecodable complaint => exact ⟨_, rfl⟩

/-- The map is made exactly if the name files can be read, and then it holds the first device of
each name. -/
theorem foldlM_mapDirectory (directories : List Path) (hwmonMap : List (List Char × Path)) :
    ((∀ directory ∈ directories, NameReads tree directory) →
      directories.foldlM (mapDirectory lower tree) hwmonMap =
        .ok ((directories.filterMap (deviceOf lower tree)).foldl assignNew hwmonMap)) ∧
    ((¬ ∀ directory ∈ directories, NameReads tree directory) →
      ∃ error, directories.foldlM (mapDirectory lower tree) hwmonMap = .error error) := by
  have hfold : (directories.filterMap (deviceOf lower tree)).foldl assignNew hwmonMap =
      directories.foldl (fun hwmonMap directory =>
        (deviceOf lower tree directory).elim hwmonMap (assignNew hwmonMap)) hwmonMap := by
    rw [List.foldl_filterMap]
    congr 1
    funext hwmonMap directory
    cases deviceOf lower tree directory with
    | none => rfl
    | some device => rfl
  obtain ⟨hok, hraises⟩ := foldlM_ok_or_error (fun _ => True)
    (fun hwmonMap directory (reads : NameReads tree directory) =>
      mapDirectory_eq lower tree hwmonMap reads)
    (fun hwmonMap directory (unread : ¬ NameReads tree directory) =>
      (mapDirectory_of_unread lower tree hwmonMap unread).imp fun _ h => ⟨trivial, h⟩)
    directories hwmonMap
  rw [hfold]
  refine ⟨hok, fun hnot => ?_⟩
  obtain ⟨error, -, herror⟩ := hraises hnot
  exact ⟨error, herror⟩

omit lower tree in
theorem findSome?_matching_iff (keywords : List (List Char)) (devices : List (List Char × Path))
    (path : Path) :
    keywords.findSome? (matching devices) = some path ↔ Best keywords devices path := by
  have hnone (keyword : List Char) : matching devices keyword = none ↔
      ∀ device ∈ devices, ¬ keyword <:+: device.1 := by
    rw [matching, Option.map_eq_none_iff, List.find?_eq_none]
    simp only [occursIn, decide_eq_true_eq]
  have hsome (keyword : List Char) : matching devices keyword = some path ↔
      ∃ front name back, devices = front ++ (name, path) :: back ∧ keyword <:+: name ∧
        ∀ device ∈ front, ¬ keyword <:+: device.1 := by
    rw [matching, Option.map_eq_some_iff]
    constructor
    · rintro ⟨⟨name, path'⟩, hfind, rfl⟩
      obtain ⟨hholds, front, back, hsplit, hfront⟩ := List.find?_eq_some_iff_append.mp hfind
      refine ⟨front, name, back, hsplit, of_decide_eq_true hholds, fun device hdevice => ?_⟩
      simpa [occursIn] using hfront device hdevice
    · rintro ⟨front, name, back, hsplit, hholds, hfront⟩
      refine ⟨(name, path), List.find?_eq_some_iff_append.mpr ⟨?_, front, back, hsplit, ?_⟩, rfl⟩
      · exact decide_eq_true hholds
      · intro device hdevice
        simpa [occursIn] using hfront device hdevice
  rw [List.findSome?_eq_some_iff, Best]
  constructor
  · rintro ⟨earlier, keyword, later, hsplit, hmatching, hearlier⟩
    obtain ⟨front, name, back, hdevices, hholds, hfront⟩ := (hsome keyword).mp hmatching
    exact ⟨earlier, keyword, later, front, name, back, hsplit, hdevices, hholds, hfront,
      fun other hother => (hnone other).mp (hearlier other hother)⟩
  · rintro ⟨earlier, keyword, later, front, name, back, hsplit, hdevices, hholds, hfront, hearlier⟩
    exact ⟨earlier, keyword, later, hsplit,
      (hsome keyword).mpr ⟨front, name, back, hdevices, hholds, hfront⟩,
      fun other hother => (hnone other).mpr (hearlier other hother)⟩

/-- `find_best_sensor` returns a path exactly if the root is a directory, every name file there
can be read, and the path is that of the best of all devices. That a name met for the second
time is left out makes no difference. -/
theorem findBestSensor_iff (nameKeywords : List String) (root : LiteralPath) (path : Path) :
    findBestSensor lower tree nameKeywords root = .ok path ↔
      tree.layout.isDirectory root.1 = true ∧
        (∀ directory ∈ hwmonDirectories tree root, NameReads tree directory) ∧
        Best (wanted lower nameKeywords) (devices lower tree root) path := by
  rw [findBestSensor, getHwmonMap, ← findSome?_matching_iff]
  obtain ⟨hmap, hraises⟩ := foldlM_mapDirectory lower tree (hwmonDirectories tree root) []
  cases hwanted : wanted lower nameKeywords with
  | nil => exact iff_of_false nofun fun h => nomatch h.2.2
  | cons keyword keywords =>
      rw [if_neg (List.cons_ne_nil keyword keywords)]
      cases hroot : tree.layout.isDirectory root.1 with
      | false => exact iff_of_false nofun fun h => nomatch h.1
      | true =>
          by_cases hreads : ∀ directory ∈ hwmonDirectories tree root, NameReads tree directory
          · rw [hmap hreads]
            have hsame (wish : List Char) :
                matching ((devices lower tree root).foldl assignNew []) wish =
                  matching (devices lower tree root) wish := by
              rw [matching, find?_foldl_assignNew fun name => occursIn wish name]
              rfl
            have hsearch : (keyword :: keywords).findSome?
                (matching ((devices lower tree root).foldl assignNew [])) =
                  (keyword :: keywords).findSome? (matching (devices lower tree root)) :=
              congrArg (fun look => (keyword :: keywords).findSome? look) (funext hsame)
            show (match (keyword :: keywords).findSome?
                (matching ((devices lower tree root).foldl assignNew [])) with
              | some path => (.ok path : Except SourcesFailure Path)
              | none => .error .lookupError) = .ok path ↔ _
            rw [hsearch]
            cases (keyword :: keywords).findSome? (matching (devices lower tree root)) with
            | none => exact iff_of_false nofun fun h => nomatch h.2.2
            | some found =>
                rw [Except.ok.injEq, Option.some.injEq]
                exact ⟨fun h => ⟨rfl, hreads, h⟩, fun h => h.2.2⟩
          · obtain ⟨error, herror⟩ := hraises hreads
            rw [herror]
            exact iff_of_false nofun fun h => hreads h.2.1

/-! ## What the agent makes of the same tree -/

/-- A device that was found has a name with one of the keywords. -/
theorem name_of_findBestSensor {nameKeywords : List String} {root : LiteralPath} {path : Path}
    (h : findBestSensor lower tree nameKeywords root = .ok path) :
    path ∈ hwmonDirectories tree root ∧ ∃ text, tree.read (nameFile path) = .ok text ∧
      ∃ keyword ∈ nameKeywords, lower keyword.toList <:+: lower (strip text) := by
  obtain ⟨-, -, earlier, keyword, later, front, name, back, hkeywords, hdevices, hholds, -⟩ :=
    (findBestSensor_iff lower tree nameKeywords root path).mp h
  have hmem : (name, path) ∈ devices lower tree root := by
    rw [hdevices]
    exact List.mem_append_right _ List.mem_cons_self
  obtain ⟨directory, hdirectory, hdevice⟩ := List.mem_filterMap.mp hmem
  have hkeyword : keyword ∈ wanted lower nameKeywords := by
    rw [hkeywords]
    exact List.mem_append_right _ List.mem_cons_self
  obtain ⟨spelled, hspelled, rfl⟩ := List.mem_map.mp hkeyword
  rw [deviceOf] at hdevice
  split at hdevice
  next text hfile htext =>
    split at hdevice
    next => cases hdevice
    next =>
      cases hdevice
      exact ⟨hdirectory, text, htext, spelled, List.mem_of_mem_filter hspelled, hholds⟩
  next => cases hdevice

/-- The input that is read is one of those of the directory. -/
theorem mem_of_targetInput {hwmonPath : Path} {sensorKeyword : Option String} {first : Path}
    {others : List Path} {input : Path}
    (h : targetInput lower tree hwmonPath sensorKeyword first others = .ok input) :
    input ∈ first :: others := by
  rw [targetInput] at h
  dsimp only at h
  split at h
  next =>
    obtain ⟨found, hfound, h⟩ := bind_except_eq_ok h
    cases found with
    | none => cases h
    | some found =>
        cases h
        obtain ⟨item, hitem, hlook⟩ := exists_of_firstFound hfound
        rw [labelled] at hlook
        split at hlook
        next => cases hlook
        next =>
          obtain ⟨text, -, hlook⟩ := bind_except_eq_ok hlook
          have hsame : (if occursIn (lower (strip (sensorKeyword.getD "").toList))
              (lower (strip text)) then some item else none) = some input := Except.ok.inj hlook
          split at hsame
          next =>
            cases hsame
            exact hitem
          next => cases hsame
  next =>
    have hchosen : (if hwmonPath ++ ["temp1_input".toList] ∈ first :: others then
        hwmonPath ++ ["temp1_input".toList] else first) = input := Except.ok.inj h
    split at hchosen
    next hpreferred =>
      rw [← hchosen]
      exact hpreferred
    next =>
      rw [← hchosen]
      exact List.mem_cons_self

/-- A temperature that was read is that of an input of the directory. -/
theorem input_of_getTemp {hwmonPath : Path} {sensorKeyword : Option String} {value : PyFloat}
    (literal : Literal (fileName hwmonPath))
    (h : getTemp lower tree matched hwmonPath sensorKeyword = .ok value) :
    ∃ input ∈ inputsOf tree "temp" hwmonPath, readTemperature tree input = some value := by
  rw [getTemp] at h
  split at h
  next => cases h
  next =>
    split at h
    next => cases h
    next first others hinputs =>
      obtain ⟨input, hinput, h⟩ := bind_except_eq_ok h
      obtain ⟨text, htext, h⟩ := bind_except_eq_ok h
      refine ⟨input, ?_, ?_⟩
      · rw [inputFiles, if_pos literal] at hinputs
        rw [hinputs]
        exact mem_of_targetInput lower tree hinput
      · rw [openText] at htext
        split at htext
        next content hread =>
          cases htext
          rw [readTemperature, hread]
          dsimp only
          split at h
          next => cases h
          next raw hraw =>
            rw [hraw, Option.map_some]
            exact congrArg some (Except.ok.inj h)
        next => cases htext
        next => cases htext

variable {lower tree matched}

/-- What the core reads of a device that it found by keywords of processors is a processor
reading of the agent. -/
theorem mem_valuesOf_cpu {keywords : List String} {sensorKeyword : Option String}
    {root : LiteralPath} {path : Path} {value : PyFloat}
    (markers : ∀ keyword ∈ keywords, keyword ∈ ["coretemp", "k10temp", "package", "cpu"])
    (hlower : ∀ keyword ∈ keywords, lower keyword.toList = keyword.toList)
    (literal : ∀ directory ∈ hwmonDirectories tree root, Literal (fileName directory))
    (hfind : findBestSensor lower tree keywords root = .ok path)
    (htemp : getTemp lower tree matched path sensorKeyword = .ok value)
    (decodes : Decodes tree root) :
    value ∈ valuesOf .cpu (sensorReadings lower tree root) := by
  obtain ⟨hpath, text, hname, keyword, hkeyword, hholds⟩ := name_of_findBestSensor lower tree hfind
  obtain ⟨input, hinput, hvalue⟩ :=
    input_of_getTemp lower tree matched (literal path hpath) htemp
  rw [hlower keyword hkeyword] at hholds
  have hname' : tree.read (path ++ ["name".toList]) = .ok text := hname
  have hlabels : tree.read (path ++ ["name".toList]) ≠ .error .unavailable := by
    rw [hname']
    nofun
  have hlabel : LabelDecodes tree input := (decodes path hpath).2 hlabels input hinput
  have hread : readTemperature tree input ≠ none := by
    rw [hvalue]
    nofun
  obtain ⟨label, hlabel⟩ : ∃ label, inputLabel lower tree input = .ok label := by
    rcases inputLabel_cases lower tree input with ⟨-, hfound⟩ | ⟨hnot, -⟩
    · exact hfound
    · rw [hlabel hread] at hnot
      cases hnot
  have hreading : readingOf lower tree (lower (strip text)) input =
      some ⟨lower (strip text), label, value⟩ := by
    rw [readingOf, hvalue, hlabel]
  have hkind : sensorKind (lower (strip text)) label = some .cpu := by
    rw [sensorKind]
    apply if_pos
    rw [mentions, List.any_eq_true]
    refine ⟨keyword, markers keyword hkeyword, decide_eq_true ?_⟩
    exact hholds.trans (List.prefix_append _ _).isInfix
  have hmem : (⟨lower (strip text), label, value⟩ : SensorReading) ∈
      sensorReadings lower tree root := by
    rw [sensorReadings, List.mem_flatMap]
    refine ⟨path, hpath, ?_⟩
    rw [directoryReadings, hname']
    exact List.mem_filterMap.mpr ⟨input, hinput, hreading⟩
  exact List.mem_map.mpr ⟨_, List.mem_filter.mpr ⟨hmem, decide_eq_true hkind⟩, rfl⟩

/-- The processor entry of the list is the processor temperature. -/
theorem cpuTemp_of_mem {sources : Sources} {includeHdd : Bool} {status after : SmartStatus}
    {listed : List Source} {value : PyFloat}
    (h : sources.getTemperatureSources includeHdd status = .ok listed after)
    (hmem : ⟨"cpu", value⟩ ∈ listed) : sources.cpuTemp = some value := by
  have hother {name : String} {temp : Option PyFloat} (hne : "cpu" ≠ name) :
      (⟨"cpu", value⟩ : Source) ∉ Sources.entries name temp := by
    intro hentry
    cases temp with
    | none => cases hentry
    | some held => exact hne (congrArg Source.name (List.mem_singleton.mp hentry))
  have hfirst : (⟨"cpu", value⟩ : Source) ∈ Sources.entries "cpu" sources.cpuTemp := by
    obtain ⟨nvme, between, -, h⟩ := bind_eq_ok h
    split at h
    next =>
      obtain ⟨hdd, last, -, h⟩ := bind_eq_ok h
      cases h
      rcases List.mem_append.mp hmem with hmem | hhdd
      · exact (List.mem_append.mp hmem).resolve_right (hother (by decide))
      · exact absurd hhdd (hother (by decide))
    next =>
      cases h
      exact (List.mem_append.mp hmem).resolve_right (hother (by decide))
  cases htemp : sources.cpuTemp with
  | none =>
      rw [htemp] at hfirst
      cases hfirst
  | some held =>
      rw [htemp] at hfirst
      exact congrArg some (congrArg Source.value (List.mem_singleton.mp hfirst)).symm

/-- Where both look at one tree that the agent can read, the processor temperature the core lists,
if it lists one, is one of the agent's readings and no greater than the one the agent's policy
gets, unless the agent's running maximum loses its peak: where a reading is no number, or the
greatest is zero and the last one negative. -/
theorem cpu_listed_le_agent {sources : Sources} {includeHdd : Bool} {status after : SmartStatus}
    {listed : List Source} {sensors : HwmonSensors} {value : PyFloat}
    (hlower : ∀ keyword ∈ Sources.cpuKeywords, lower keyword.toList = keyword.toList)
    (literal : ∀ directory ∈ hwmonDirectories tree literalRoot, Literal (fileName directory))
    (hcore : (onTree lower tree matched sources).getTemperatureSources includeHdd status =
      .ok listed after)
    (hagent : readHwmonSensors lower tree = .ok sensors) (hlisted : ⟨"cpu", value⟩ ∈ listed) :
    value ∈ valuesOf .cpu (sensorReadings lower tree) ∧
      (PyFloat.PeakKept (valuesOf .cpu (sensorReadings lower tree)) →
        ∃ temperatures greatest, sensors.temperatures = some temperatures ∧
          temperatures.cpuC = some greatest ∧ PyFloat.le value greatest = true) := by
  obtain ⟨scan, hgathers, hread, hraises⟩ := readHwmonSensors_cases lower tree literalRoot
  by_cases decodes : Decodes tree literalRoot
  swap
  · obtain ⟨error, -, hraised⟩ := hraises decodes
    cases hagent.symm.trans hraised
  cases hagent.symm.trans (hread decodes)
  have hmarkers : ∀ keyword ∈ Sources.cpuKeywords,
      keyword ∈ ["coretemp", "k10temp", "package", "cpu"] := by decide
  have hreading : value ∈ valuesOf .cpu (sensorReadings lower tree) := by
    have hhwmon {sensorKeyword : Option String} {temp : PyFloat}
        (h : (onTree lower tree matched sources).readTempHwmon Sources.cpuKeywords sensorKeyword =
          some temp) : temp ∈ valuesOf .cpu (sensorReadings lower tree) := by
      rw [Sources.readTempHwmon] at h
      split at h
      next held hheld =>
        cases h
        obtain ⟨path, hfind, htemp⟩ := bind_except_eq_ok hheld
        exact mem_valuesOf_cpu hmarkers hlower literal hfind htemp decodes
      next => cases h
    have hcpu := cpuTemp_of_mem hcore hlisted
    rw [Sources.cpuTemp] at hcpu
    split at hcpu
    next temp htemp =>
      cases hcpu
      exact hhwmon htemp
    next => exact hhwmon hcpu
  refine ⟨hreading, fun hkept => ?_⟩
  have hmaximum := (PyFloat.isMaximum_raisedAll_iff _).mpr hkept
  rw [← hgathers.cpu] at hmaximum
  cases hcpu : scan.temperatures.cpuC with
  | none =>
      rw [hcpu] at hmaximum
      have hempty : valuesOf .cpu (sensorReadings lower tree) = [] := hmaximum
      rw [hempty] at hreading
      cases hreading
  | some greatest =>
      rw [hcpu] at hmaximum
      exact ⟨_, greatest, rfl, hcpu, hmaximum.2 value hreading⟩

end

/-- A processor with two inputs, the second of which is that of the package. -/
def packageTree : FileTree :=
  deviceTree [("hwmon0".toList, [("name".toList, "coretemp\n".toList),
    ("temp1_input".toList, "66000\n".toList), ("temp1_label".toList, "Core 0\n".toList),
    ("temp2_input".toList, "63000\n".toList), ("temp2_label".toList, "Package id 0\n".toList)])]
    (by decide +kernel)

/-- A core on a tree, without smartctl. -/
def withoutSmartctl : Sources where
  hwmon _ _ := .error .lookupError
  smartctl _ := .notFound
  loads _ := .error .jsonDecodeError
  spelling := ⟨fun _ => [], fun _ => true⟩

/-- The core lists the 63 degrees of the package, the agent goes by the 66 of a core. -/
theorem cpu_listed_le_agent_package :
    ∃ sensors temperatures greatest,
      readHwmonSensors (List.map Char.toLower) packageTree = .ok sensors ∧
        sensors.temperatures = some temperatures ∧ temperatures.cpuC = some greatest ∧
        PyFloat.le (.finite (.ofInt 63)) greatest = true := by
  have hcpu : (onTree (List.map Char.toLower) packageTree (fun _ => []) withoutSmartctl).cpuTemp =
      some (.finite (.ofInt 63)) := by
    decide +kernel
  have hnvme : (onTree (List.map Char.toLower) packageTree (fun _ => [])
      withoutSmartctl).readTempHwmon Sources.nvmeKeywords none = none := by
    decide +kernel
  have hdisk : (onTree (List.map Char.toLower) packageTree (fun _ => [])
      withoutSmartctl).diskTemp Sources.nvmeKeywords "/dev/nvme0" ⟨false, false⟩ =
        .ok none ⟨false, false⟩ := by
    rw [Sources.diskTemp, hnvme]
    rfl
  have hlisted : (onTree (List.map Char.toLower) packageTree (fun _ => [])
      withoutSmartctl).getTemperatureSources false ⟨false, false⟩ =
        .ok [⟨"cpu", .finite (.ofInt 63)⟩] ⟨false, false⟩ := by
    rw [Sources.getTemperatureSources, bind_of_ok hdisk, hcpu]
    rfl
  have hread : (readHwmonSensors (List.map Char.toLower) packageTree).isOk = true := by
    decide +kernel
  cases hagent : readHwmonSensors (List.map Char.toLower) packageTree with
  | error error =>
      rw [hagent] at hread
      cases hread
  | ok sensors =>
      have hvalues : valuesOf .cpu (sensorReadings (List.map Char.toLower) packageTree) =
          [.finite (.ofInt 66), .finite (.ofInt 63)] := by
        decide +kernel
      have hkept : PyFloat.PeakKept
          (valuesOf .cpu (sensorReadings (List.map Char.toLower) packageTree)) := by
        rw [hvalues]
        refine .inr ⟨.finite (.ofInt 66), ⟨List.mem_cons_self, ?_⟩, fun h => absurd h.1 ?_⟩
        · decide
        · decide
      obtain ⟨temperatures, greatest, htemperatures, hgreatest, hle⟩ :=
        (cpu_listed_le_agent (by decide) (by decide +kernel) hlisted hagent
          List.mem_cons_self).2 hkept
      exact ⟨sensors, temperatures, greatest, rfl, htemperatures, hgreatest, hle⟩

end Core

end TrueFan
