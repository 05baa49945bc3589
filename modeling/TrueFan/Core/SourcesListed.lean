/-
# When the list has every source

The walk through a document of smartctl is a search: first the current temperature, then,
if the document has the tables, the values of each attribute named as a temperature. It
fails where the document has something else in the place of an object, and at an integer
beyond the range of floats that it gets to. The list has exactly the sources that give a
temperature if the walks it comes to do not fail.
-/

import TrueFan.Core.TemperatureSources

namespace TrueFan

open Python Foundations

namespace Sources

/-- The float a value is taken for here, where a boolean is a number as well. -/
def numeral : Json → Option PyFloat
  | .bool value =>
      some (.finite
        (if value then .ofInt 1 else .ofInt 0))
  | value => taken value

/-- Apart from booleans, the conversions here and of the sensor replies are one. -/
theorem toFloat_eq_convert {value : Json} (h : ∀ flag, value ≠ .bool flag) :
    toFloat value = (convert value).mapError .lets := by
  cases value with
  | null => rfl
  | bool flag => exact absurd rfl (h flag)
  | _ =>
      rw [toFloat, convert]
      · cases floatOf _ with
        | ok number => rfl
        | error error => cases error <;> rfl
      all_goals simp

theorem numeral_eq_taken {value : Json} (h : ∀ flag, value ≠ .bool flag) :
    numeral value = taken value := by
  cases value with
  | bool flag => exact absurd rfl (h flag)
  | _ => rfl

theorem toFloat_eq (value : Json) :
    toFloat value =
      if ¬ Oversized value then .ok (numeral value) else .error (.lets .overflowError) := by
  by_cases h : ∀ flag, value ≠ .bool flag
  · rw [toFloat_eq_convert h, convert_eq, numeral_eq_taken h]
    split
    · rfl
    · rfl
  · push Not at h
    obtain ⟨flag, rfl⟩ := h
    exact (if_pos id).symm

theorem numeral_of_oversized {value : Json} (h : Oversized value) : numeral value = none := by
  cases value with
  | int n => exact dif_neg h
  | _ => cases h

/-- What stands under a name in the object under another, of a value that is an object and
has no other thing than an object there. -/
def nested (data : Json) (outer inner : String) (default : Json) : Option Json :=
  match data with
  | .object members =>
      match Json.getOr members outer (.object []) with
      | .object object => some (Json.getOr object inner default)
      | _ => none
  | _ => none

/-- A chain of two lookups, with what comes after it. -/
theorem getOf_getOf_bind {α : Type} (data : Json) (outer inner : String) (default : Json)
    (next : Json → Except SourcesFailure α) :
    (do next (← getOf (← getOf data outer (.object [])) inner default)) =
      match nested data outer inner default with
      | some value => next value
      | none => .error .attributeError := by
  cases data with
  | object members =>
      rw [nested]
      show (getOf (Json.getOr members outer (.object [])) inner default >>= next) = _
      cases Json.getOr members outer (.object []) <;> rfl
  | _ => rfl

variable (sources : Sources)

/-- The values of an attribute the search looks at. -/
def attributeValues : Json → List Json
  | .object members =>
      if sources.named members then
        match Json.getOr members "raw" (.object []) with
        | .object raw => [Json.get raw "value", Json.get members "value"]
        | _ => [Json.get members "value"]
      else []
  | _ => []

/-- The values of a table the search looks at. -/
def tableValues (table : Json) : List Json :=
  ((items table).getD []).flatMap sources.attributeValues

theorem attributeTemperature_eq (attr : Json) :
    sources.attributeTemperature attr = firstFound toFloat (sources.attributeValues attr) := by
  have hlast : ∀ value, firstFound toFloat [value] = toFloat value := by
    intro value
    rw [firstFound, firstFound]
    rcases toFloat value with error | _ | found <;> rfl
  cases attr with
  | object members =>
      rw [attributeTemperature, attributeValues]
      by_cases hnamed : sources.named members = true
      · rw [if_pos hnamed, if_pos hnamed]
        cases Json.getOr members "raw" (.object []) with
        | object raw =>
            dsimp only
            rw [firstFound, hlast]
            rcases toFloat (Json.get raw "value") with error | _ | found <;> rfl
        | _ =>
            dsimp only
            rw [hlast]
            rfl
      · rw [if_neg hnamed, if_neg hnamed]
        rfl
  | _ => rfl

theorem extractFromAttributes_eq (data : Json) :
    sources.extractFromAttributes data =
      match nested data "ata_smart_attributes" "table" (.array []) with
      | some table => firstFound toFloat (sources.tableValues table)
      | none => .error .attributeError := by
  rw [extractFromAttributes, getOf_getOf_bind]
  cases nested data "ata_smart_attributes" "table" (.array []) with
  | none => rfl
  | some table =>
      dsimp only
      rw [tableValues, firstFound_flatMap, ← funext sources.attributeTemperature_eq]
      cases items table <;> rfl

/-- The walk through the document gets past objects where it takes them for granted, and to
no integer beyond the range of floats. -/
def Walkable (data : Json) : Prop :=
  ∃ current, nested data "temperature" "current" .null = some current ∧ ¬ Oversized current ∧
    (numeral current = none →
      ∃ table, nested data "ata_smart_attributes" "table" (.array []) = some table ∧
        FineUntilFound (fun value => ¬ Oversized value) numeral (sources.tableValues table))

/-- The temperature a document holds. -/
def heldTemperature (data : Json) : Option PyFloat :=
  ((nested data "temperature" "current" .null).bind numeral).or
    ((nested data "ata_smart_attributes" "table" (.array [])).bind fun table =>
      (sources.tableValues table).findSome? numeral)

/-- A table gives the first number in it. -/
theorem firstFound_tableValues (table : Json) :
    firstFound toFloat (sources.tableValues table) =
      if FineUntilFound (fun value => ¬ Oversized value) numeral (sources.tableValues table) then
        .ok ((sources.tableValues table).findSome? numeral)
      else .error (.lets .overflowError) :=
  firstFound_eq_ite toFloat_eq (fun _ h => numeral_of_oversized (not_not.mp h)) _

variable {sources} {data : Json}

theorem dataTemperature_of_walkable (h : sources.Walkable data) :
    sources.dataTemperature data = .ok (sources.heldTemperature data) := by
  obtain ⟨current, hcurrent, hsize, htable⟩ := h
  rw [dataTemperature, getOf_getOf_bind, hcurrent, heldTemperature, hcurrent, Option.bind_some]
  dsimp only
  rw [toFloat_eq, if_pos hsize]
  cases hnumeral : numeral current with
  | some temp => rfl
  | none =>
      obtain ⟨table, hnested, hfine⟩ := htable hnumeral
      show sources.extractFromAttributes data = _
      rw [extractFromAttributes_eq, hnested]
      dsimp only
      rw [firstFound_tableValues, if_pos hfine]
      rfl

theorem dataTemperature_of_not_walkable (h : ¬ sources.Walkable data) :
    ∃ error, sources.dataTemperature data = .error error := by
  rw [dataTemperature, getOf_getOf_bind]
  cases hcurrent : nested data "temperature" "current" .null with
  | none => exact ⟨_, rfl⟩
  | some current =>
      dsimp only
      rw [toFloat_eq]
      by_cases hsize : Oversized current
      · rw [if_neg (not_not.mpr hsize)]
        exact ⟨_, rfl⟩
      · rw [if_pos hsize]
        cases hnumeral : numeral current with
        | some temp =>
            have hwalkable : sources.Walkable data := by
              refine ⟨current, hcurrent, hsize, fun hnone => ?_⟩
              rw [hnumeral] at hnone
              cases hnone
            exact absurd hwalkable h
        | none =>
            show ∃ error, sources.extractFromAttributes data = .error error
            rw [extractFromAttributes_eq]
            cases hnested : nested data "ata_smart_attributes" "table" (.array []) with
            | none => exact ⟨_, rfl⟩
            | some table =>
                have hnotfine : ¬ FineUntilFound (fun value => ¬ Oversized value) numeral
                    (sources.tableValues table) := fun hfine =>
                  h ⟨current, hcurrent, hsize, fun _ => ⟨table, hnested, hfine⟩⟩
                dsimp only
                rw [firstFound_tableValues, if_neg hnotfine]
                exact ⟨_, rfl⟩

/-! ## The list -/

/-- Either it never comes to a walk through what smartctl printed, or the walk does not
fail. -/
def Harmless (sources : Sources) : SmartctlRun → Prop
  | .finished stdout stderr =>
      saysDenied stderr = false → stdout ≠ [] →
        sources.loads stdout = .error .jsonDecodeError ∨
          ∃ data, sources.loads stdout = .ok data ∧ sources.Walkable data
  | _ => True

/-- The temperature smartctl gives, if any. -/
def printedTemperature (sources : Sources) : SmartctlRun → Option PyFloat
  | .finished stdout stderr =>
      if saysDenied stderr ∨ stdout = [] then none
      else
        match sources.loads stdout with
        | .ok data => sources.heldTemperature data
        | .error _ => none
  | _ => none

theorem readTempSmartctl_of_harmless {device : String}
    (h : sources.Harmless (sources.smartctl device)) (status : SmartStatus) :
    ∃ after, sources.readTempSmartctl device status =
      .ok (sources.printedTemperature (sources.smartctl device)) after := by
  rw [readTempSmartctl, readSmartctlTemperature]
  cases hrun : sources.smartctl device with
  | notFound => exact ⟨_, rfl⟩
  | failed => exact ⟨_, rfl⟩
  | finished stdout stderr =>
      rw [hrun] at h
      dsimp only
      rw [printedTemperature]
      by_cases hdenied : saysDenied stderr = true
      · rw [if_pos hdenied, if_pos (.inl hdenied)]
        exact ⟨_, rfl⟩
      · rw [if_neg hdenied]
        by_cases hempty : stdout = []
        · rw [if_pos hempty, if_pos (.inr hempty)]
          exact ⟨_, rfl⟩
        · rw [if_neg hempty, if_neg (not_or.mpr ⟨hdenied, hempty⟩)]
          rcases h (Bool.eq_false_of_not_eq_true hdenied) hempty with hload | ⟨data, hload, hwalk⟩
          · rw [hload]
            exact ⟨_, rfl⟩
          · rw [hload]
            dsimp only
            rw [dataTemperature_of_walkable hwalk]
            cases sources.heldTemperature data with
            | none => exact ⟨_, rfl⟩
            | some temp => exact ⟨_, rfl⟩

theorem readTempSmartctl_of_not_harmless {device : String}
    (h : ¬ sources.Harmless (sources.smartctl device)) (status : SmartStatus) :
    ∃ error, sources.readTempSmartctl device status = .error error status := by
  rw [readTempSmartctl, readSmartctlTemperature]
  cases hrun : sources.smartctl device with
  | notFound =>
      rw [hrun] at h
      exact absurd trivial h
  | failed =>
      rw [hrun] at h
      exact absurd trivial h
  | finished stdout stderr =>
      rw [hrun, Harmless, Classical.not_imp, Classical.not_imp, not_or] at h
      obtain ⟨hdenied, hempty, hload, hwalk⟩ := h
      dsimp only
      rw [hdenied, if_neg Bool.false_ne_true, if_neg hempty]
      split
      next hdecode => exact absurd hdecode hload
      next error hraised hother => exact ⟨_, rfl⟩
      next data hdata =>
        have hnot : ¬ sources.Walkable data := fun hwalkable => hwalk ⟨data, hdata, hwalkable⟩
        obtain ⟨error, herror⟩ := dataTemperature_of_not_walkable hnot
        rw [herror]
        exact ⟨_, rfl⟩

/-- A disk gives the temperature hwmon reads, and where that fails the one of smartctl. -/
inductive DiskGives (sources : Sources) (keywords : List String) (device : String) : PyFloat → Prop
  | hwmon {value} (read : sources.hwmon keywords none = .ok value) :
      DiskGives sources keywords device value
  | smartctl {error value} (failed : sources.hwmon keywords none = .error error)
      (printed : sources.printedTemperature (sources.smartctl device) = some value) :
      DiskGives sources keywords device value

/-- What the sources give, of the processor under the label of the package or else under
none. -/
inductive Gives (sources : Sources) (includeHdd : Bool) : Source → Prop
  | cpuPackage {value} (read : sources.hwmon cpuKeywords (some "package") = .ok value) :
      Gives sources includeHdd ⟨"cpu", value⟩
  | cpu {error value} (failed : sources.hwmon cpuKeywords (some "package") = .error error)
      (read : sources.hwmon cpuKeywords none = .ok value) : Gives sources includeHdd ⟨"cpu", value⟩
  | nvme {value} (given : sources.DiskGives nvmeKeywords "/dev/nvme0" value) :
      Gives sources includeHdd ⟨"nvme", value⟩
  | hdd {value} (asked : includeHdd = true)
      (given : sources.DiskGives hddKeywords "/dev/sda" value) :
      Gives sources includeHdd ⟨"hdd", value⟩

/-- The list is returned, with exactly what the sources give. -/
def ListsGiven (sources : Sources) (includeHdd : Bool) (status : SmartStatus) : Prop :=
  ∃ listed after, sources.getTemperatureSources includeHdd status = .ok listed after ∧
    ∀ source, source ∈ listed ↔ sources.Gives includeHdd source

/-- If hwmon has nothing of the disk, what smartctl printed about it is harmless. -/
def DiskHarmless (sources : Sources) (keywords : List String) (device : String) : Prop :=
  ∀ error, sources.hwmon keywords none = .error error →
    sources.Harmless (sources.smartctl device)

variable {keywords : List String} {device : String}

theorem diskTemp_of_harmless (h : sources.DiskHarmless keywords device) (status : SmartStatus) :
    ∃ temp after, sources.diskTemp keywords device status = .ok temp after ∧
      ∀ value, temp = some value ↔ sources.DiskGives keywords device value := by
  rw [diskTemp, readTempHwmon]
  cases hread : sources.hwmon keywords none with
  | ok temp =>
      refine ⟨some temp, status, rfl, fun value => ⟨?_, ?_⟩⟩
      · intro hvalue
        cases hvalue
        exact .hwmon hread
      · intro hgiven
        cases hgiven with
        | hwmon read =>
            cases hread.symm.trans read
            rfl
        | smartctl failed printed => cases hread.symm.trans failed
  | error error =>
      obtain ⟨after, hrun⟩ := readTempSmartctl_of_harmless (h error hread) status
      refine ⟨_, after, hrun, fun value => ⟨.smartctl hread, ?_⟩⟩
      intro hgiven
      cases hgiven with
      | hwmon read => cases hread.symm.trans read
      | smartctl failed printed => exact printed

theorem diskTemp_of_not_harmless (h : ¬ sources.DiskHarmless keywords device)
    (status : SmartStatus) :
    ∃ error, sources.diskTemp keywords device status = .error error status := by
  rw [DiskHarmless] at h
  push Not at h
  obtain ⟨error, hread, hharm⟩ := h
  rw [diskTemp, readTempHwmon, hread]
  exact readTempSmartctl_of_not_harmless hharm status

theorem cpuTemp_eq_some_iff {value : PyFloat} :
    sources.cpuTemp = some value ↔
      sources.hwmon cpuKeywords (some "package") = .ok value ∨
        ∃ error, sources.hwmon cpuKeywords (some "package") = .error error ∧
          sources.hwmon cpuKeywords none = .ok value := by
  rw [cpuTemp, readTempHwmon, readTempHwmon]
  cases sources.hwmon cpuKeywords (some "package") with
  | ok temp => simp
  | error error =>
      cases sources.hwmon cpuKeywords none with
      | ok temp => simp
      | error error => simp

theorem mem_entries_iff {name : String} {temp : Option PyFloat} {source : Source} :
    source ∈ entries name temp ↔ source.name = name ∧ temp = some source.value := by
  obtain ⟨name', value⟩ := source
  cases temp with
  | none => simp [entries]
  | some temp => simp [entries, eq_comm]

/-- What the sources give, read off the three temperatures. -/
theorem gives_iff {includeHdd : Bool} {nvme hdd : Option PyFloat} {source : Source}
    (hnvme : ∀ value, nvme = some value ↔ sources.DiskGives nvmeKeywords "/dev/nvme0" value)
    (hhdd : ∀ value, hdd = some value ↔
      includeHdd = true ∧ sources.DiskGives hddKeywords "/dev/sda" value) :
    source ∈ entries "cpu" sources.cpuTemp ++ entries "nvme" nvme ++ entries "hdd" hdd ↔
      sources.Gives includeHdd source := by
  rw [List.mem_append, List.mem_append, mem_entries_iff, mem_entries_iff, mem_entries_iff,
    cpuTemp_eq_some_iff, hnvme, hhdd]
  obtain ⟨name, value⟩ := source
  constructor
  · rintro ((⟨rfl, hread | ⟨error, hfailed, hread⟩⟩ | ⟨rfl, hgiven⟩) | ⟨rfl, hasked, hgiven⟩)
    · exact .cpuPackage hread
    · exact .cpu hfailed hread
    · exact .nvme hgiven
    · exact .hdd hasked hgiven
  · intro hgives
    cases hgives with
    | cpuPackage read => exact .inl (.inl ⟨rfl, .inl read⟩)
    | cpu failed read => exact .inl (.inl ⟨rfl, .inr ⟨_, failed, read⟩⟩)
    | nvme given => exact .inl (.inr ⟨rfl, given⟩)
    | hdd asked given => exact .inr ⟨rfl, asked, given⟩

/-- Whatever hwmon reads and smartctl prints, the list is returned with exactly what the
sources give exactly if each disk that hwmon has nothing of has smartctl print something
harmless. -/
theorem listsGiven_iff_harmless (sources : Sources) (includeHdd : Bool) (status : SmartStatus) :
    sources.ListsGiven includeHdd status ↔
      sources.DiskHarmless nvmeKeywords "/dev/nvme0" ∧
        (includeHdd = true → sources.DiskHarmless hddKeywords "/dev/sda") := by
  rw [ListsGiven, getTemperatureSources]
  by_cases hnvme : sources.DiskHarmless nvmeKeywords "/dev/nvme0"
  · obtain ⟨nvme, between, hrun, hgives⟩ := diskTemp_of_harmless hnvme status
    rw [bind_of_ok hrun, and_iff_right hnvme]
    cases includeHdd with
    | false =>
        apply iff_of_true _ nofun
        have hnone : ∀ value, (none : Option PyFloat) = some value ↔
            false = true ∧ sources.DiskGives hddKeywords "/dev/sda" value := by
          simp
        refine ⟨_, between, rfl, fun source => ?_⟩
        rw [← gives_iff hgives hnone, entries, List.append_nil]
    | true =>
        rw [if_pos rfl, imp_iff_right rfl]
        by_cases hhdd : sources.DiskHarmless hddKeywords "/dev/sda"
        · obtain ⟨hdd, after, hrun', hgives'⟩ := diskTemp_of_harmless hhdd between
          rw [bind_of_ok hrun']
          apply iff_of_true _ hhdd
          refine ⟨_, after, rfl, fun source => gives_iff hgives fun value => ?_⟩
          rw [hgives', and_iff_right rfl]
        · obtain ⟨error, hrun'⟩ := diskTemp_of_not_harmless hhdd between
          rw [bind_of_error hrun']
          apply iff_of_false _ hhdd
          rintro ⟨listed, after, h, -⟩
          cases h
  · obtain ⟨error, hrun⟩ := diskTemp_of_not_harmless hnvme status
    rw [bind_of_error hrun]
    apply iff_of_false _ fun h => hnvme h.1
    rintro ⟨listed, after, h, -⟩
    cases h

/-- A machine with a temperature of the processor in hwmon and none of its disks, where
smartctl prints a document that is a list. -/
def listPrinted : Sources where
  hwmon keywords _ :=
    if keywords = cpuKeywords then .ok (.finite (.ofInt 45)) else .error .lookupError
  smartctl _ := .finished "[]".toList []
  loads text := if text = "[]".toList then .ok (.array []) else .error .jsonDecodeError
  spelling := ⟨fun _ => [], fun _ => true⟩

/-- The list in the place of an object takes the temperature of the processor along. -/
theorem not_listsGiven_of_list :
    ¬ ∀ (sources : Sources) (includeHdd : Bool) (status : SmartStatus),
      sources.ListsGiven includeHdd status := by
  intro hall
  obtain ⟨listed, after, hreturned, -⟩ := hall listPrinted false ⟨false, false⟩
  have hraises : listPrinted.getTemperatureSources false ⟨false, false⟩ =
      .error .attributeError ⟨false, false⟩ := rfl
  cases hraises.symm.trans hreturned

end Sources

end TrueFan
