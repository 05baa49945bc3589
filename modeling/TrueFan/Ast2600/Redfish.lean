/-
# The Redfish source

`parse_redfish_thermal` goes through the temperatures and the fans of a thermal object
and keeps the maximum of the CPU readings, the maximum of the board readings and the
speed of each named fan. One exception anywhere loses all three.

Rendering a value as a text and lowering a text are left open: nothing here depends on
what they do.
-/

import TrueFan.Ast2600.Backend
import TrueFan.Ast2600.Conversion
import TrueFan.Foundations.Dictionary

namespace TrueFan

open Python Foundations

namespace Redfish

/-- `_number`. -/
def number : Json → Except Failure (Option PyFloat) := convert

/-- `round(value)`. -/
def roundFloat : PyFloat → Except Failure ℤ
  | .finite x => .ok (roundHalfEven x.value)
  | .nan => .error (.valueError "cannot convert float NaN to integer")
  | .posInf => .error .overflowError
  | .negInf => .error .overflowError

/-- What `payload.get(member, []) or []` yields one after the other. -/
def itemsOf (payload : List (String × Json)) (member : String) : Except Failure (List Json) :=
  match Json.orElse (Json.getOr payload member (.array [])) (.array []) with
  | .array items => .ok items
  | .object members => .ok (members.map fun entry => .str entry.1)
  | .str text => .ok (text.toList.map fun c => .str (String.singleton c))
  | _ => .error .typeError

/-- What the loop over the temperatures has gathered. -/
structure ThermalScan where
  cpuValues : List PyFloat
  boardValues : List PyFloat

section

variable (str : Json → List Char) (lower : List Char → List Char)

/-- The name of an item. -/
def nameOf (item : List (String × Json)) : List Char :=
  strip (str (Json.orElse (Json.get item "Name")
    (Json.orElse (Json.get item "MemberId") (.str ""))))

/-- The name is that of a CPU sensor. -/
def isCpuName (name : List Char) : Bool :=
  let normalized := lower name
  decide (normalized = "temp_cpu".toList) || occursIn "cpu".toList normalized

/-- The name is that of a board sensor, unless it is that of a CPU sensor. -/
def isBoardName (name : List Char) : Bool :=
  ["board", "mb_", "mainboard", "pch", "chipset"].any fun marker =>
    occursIn marker.toList (lower name)

/-- One round of the loop over the temperatures. -/
def takeTemperature (scan : ThermalScan) : Json → Except Failure ThermalScan
  | .object item => do
      match ← number (Json.get item "ReadingCelsius") with
      | none => return scan
      | some value =>
          if isCpuName lower (nameOf str item) then
            return { scan with cpuValues := scan.cpuValues ++ [value] }
          else if isBoardName lower (nameOf str item) then
            return { scan with boardValues := scan.boardValues ++ [value] }
          else return scan
  | _ => .ok scan

/-- The value a fan item is read by. -/
def fanReading (item : List (String × Json)) : Json :=
  Json.getOr item "ReadingRPM" (Json.get item "Reading")

/-- One round of the loop over the fans. -/
def takeFan (fans : List (String × ℤ)) : Json → Except Failure (List (String × ℤ))
  | .object item => do
      match ← number (fanReading item) with
      | none => return fans
      | some reading =>
          if nameOf str item ≠ [] ∧ PyFloat.le PyFloat.zero reading = true then
            return assign (String.ofList (nameOf str item)) (← roundFloat reading) fans
          else return fans
  | _ => .ok fans

/-- `parse_redfish_thermal`. -/
def parseRedfishThermal (payload : List (String × Json)) : Except Failure RedfishReading := do
  let scan ← (← itemsOf payload "Temperatures").foldlM (takeTemperature str lower) ⟨[], []⟩
  let fans ← (← itemsOf payload "Fans").foldlM (takeFan str) []
  return {
    cpuC := PyFloat.maxOf scan.cpuValues
    boardC := PyFloat.maxOf scan.boardValues
    fanRpms := fans }

/-- The item is one of a CPU sensor. -/
def isCpuItem : Json → Bool
  | .object item => isCpuName lower (nameOf str item)
  | _ => false

/-- The CPU value of an item. -/
def cpuValue : Json → Option PyFloat
  | .object item =>
      if isCpuName lower (nameOf str item) then taken (Json.get item "ReadingCelsius") else none
  | _ => none

/-- The temperature of the item is an integer beyond the range of floats. -/
def TemperatureOverflows : Json → Prop
  | .object item => Oversized (Json.get item "ReadingCelsius")
  | _ => False

/-- The speed of the fan is such an integer, or it has a name and infinite speed. -/
def FanOverflows : Json → Prop
  | .object item =>
      Oversized (fanReading item) ∨
        (nameOf str item ≠ [] ∧ taken (fanReading item) = some .posInf)
  | _ => False

instance : DecidablePred TemperatureOverflows
  | .object item => inferInstanceAs (Decidable (Oversized (Json.get item "ReadingCelsius")))
  | .null => .isFalse id
  | .bool _ => .isFalse id
  | .int _ => .isFalse id
  | .float _ => .isFalse id
  | .str _ => .isFalse id
  | .array _ => .isFalse id

instance : DecidablePred (FanOverflows str)
  | .object item => inferInstanceAs (Decidable (Oversized (fanReading item) ∨ _))
  | .null => .isFalse id
  | .bool _ => .isFalse id
  | .int _ => .isFalse id
  | .float _ => .isFalse id
  | .str _ => .isFalse id
  | .array _ => .isFalse id

/-- The scan after a temperature that does not overflow. -/
def withTemperature (scan : ThermalScan) : Json → ThermalScan
  | .object item =>
      (taken (Json.get item "ReadingCelsius")).elim scan fun value =>
        if isCpuName lower (nameOf str item) then
          { scan with cpuValues := scan.cpuValues ++ [value] }
        else if isBoardName lower (nameOf str item) then
          { scan with boardValues := scan.boardValues ++ [value] }
        else scan
  | _ => scan

/-- The fans after one that does not overflow. -/
def withFan (fans : List (String × ℤ)) : Json → List (String × ℤ)
  | .object item =>
      match taken (fanReading item) with
      | some (.finite x) =>
          if nameOf str item ≠ [] ∧ PyFloat.le PyFloat.zero (.finite x) = true then
            assign (String.ofList (nameOf str item)) (roundHalfEven x.value) fans
          else fans
      | _ => fans
  | _ => fans

theorem takeTemperature_eq (scan : ThermalScan) (item : Json) :
    takeTemperature str lower scan item =
      if ¬ TemperatureOverflows item then .ok (withTemperature str lower scan item)
      else .error .overflowError := by
  cases item with
  | object item =>
      rw [withTemperature, takeTemperature, number, bind_convert]
      cases taken (Json.get item "ReadingCelsius") with
      | none => rfl
      | some value =>
          rw [Option.elim_some, apply_ite Except.ok, apply_ite Except.ok]
          rfl
  | _ => exact (if_pos id).symm

/-- A fan whose reading is not too large overflows only if it is named and infinite. -/
theorem fanOverflows_iff {item : List (String × Json)} (hsize : ¬ Oversized (fanReading item)) :
    FanOverflows str (.object item) ↔
      nameOf str item ≠ [] ∧ taken (fanReading item) = some .posInf :=
  or_iff_right hsize

theorem takeFan_eq (fans : List (String × ℤ)) (item : Json) :
    takeFan str fans item =
      if ¬ FanOverflows str item then .ok (withFan str fans item) else .error .overflowError := by
  cases item with
  | object item =>
      rw [withFan, takeFan, number, bind_convert]
      by_cases hsize : Oversized (fanReading item)
      · have hover : FanOverflows str (.object item) := .inl hsize
        rw [if_neg (not_not.mpr hsize), if_neg (not_not.mpr hover)]
      · rw [if_pos hsize]
        have hfan := fanOverflows_iff str hsize
        cases htaken : taken (fanReading item) with
        | none =>
            rw [htaken] at hfan
            rw [if_pos fun hover => nomatch (hfan.mp hover).2]
            rfl
        | some reading =>
            rw [htaken] at hfan
            cases reading with
            | finite x =>
                rw [if_pos fun hover => nomatch (hfan.mp hover).2]
                dsimp only
                rw [apply_ite Except.ok]
                rfl
            | negInf =>
                rw [if_pos fun hover => nomatch (hfan.mp hover).2]
                exact if_neg fun h => nomatch h.2
            | nan =>
                rw [if_pos fun hover => nomatch (hfan.mp hover).2]
                exact if_neg fun h => nomatch h.2
            | posInf =>
                -- rounding is reached, and raises, exactly for a fan that has a name
                by_cases hname : nameOf str item = []
                · rw [if_pos fun hover => (hfan.mp hover).1 hname]
                  exact if_neg fun h => h.1 hname
                · rw [if_neg (not_not.mpr (hfan.mpr ⟨hname, rfl⟩))]
                  exact if_pos ⟨hname, rfl⟩
  | _ => exact (if_pos id).symm

theorem cpuValues_foldl (items : List Json) (scan : ThermalScan) :
    (items.foldl (withTemperature str lower) scan).cpuValues =
      scan.cpuValues ++ items.filterMap (cpuValue str lower) := by
  induction items generalizing scan with
  | nil => exact (List.append_nil _).symm
  | cons item rest ih =>
      have hone : (withTemperature str lower scan item).cpuValues =
          scan.cpuValues ++ (cpuValue str lower item).toList := by
        cases item with
        | object item =>
            rw [withTemperature, cpuValue]
            cases taken (Json.get item "ReadingCelsius") with
            | none =>
                rw [ite_self]
                exact (List.append_nil _).symm
            | some value =>
                rw [Option.elim_some]
                split
                · rfl
                · split
                  · exact (List.append_nil _).symm
                  · exact (List.append_nil _).symm
        | _ => exact (List.append_nil _).symm
      rw [List.foldl_cons, ih, hone, List.append_assoc]
      cases hvalue : cpuValue str lower item with
      | none => rw [List.filterMap_cons_none hvalue, Option.toList_none, List.nil_append]
      | some value =>
          rw [List.filterMap_cons_some hvalue, Option.toList_some, List.singleton_append]

/-- The member of a thermal object is absent, null or a list of the items. -/
inductive Lists (payload : List (String × Json)) (member : String) : List Json → Prop
  | absent (none : payload.lookup member = none) : Lists payload member []
  | null (held : payload.lookup member = some .null) : Lists payload member []
  | list (items : List Json) (held : payload.lookup member = some (.array items)) :
      Lists payload member items

omit str lower in
theorem itemsOf_of_lists {payload : List (String × Json)} {member : String} {items : List Json}
    (lists : Lists payload member items) : itemsOf payload member = .ok items := by
  rw [itemsOf, Json.getOr]
  cases lists with
  | absent hnone =>
      rw [hnone]
      rfl
  | null hheld =>
      rw [hheld]
      rfl
  | list items hheld =>
      rw [hheld]
      cases items with
      | nil => rfl
      | cons item rest => rfl

/-- Nothing in the two lists overflows. -/
def Fits (temperatures fans : List Json) : Prop :=
  (∀ item ∈ temperatures, ¬ TemperatureOverflows item) ∧ ∀ item ∈ fans, ¬ FanOverflows str item

variable {str lower} {payload : List (String × Json)} {temperatures fans : List Json}

instance : Decidable (Fits str temperatures fans) := inferInstanceAs (Decidable (_ ∧ _))

/-- A thermal object is parsed exactly if its values fit, and its CPU temperature is the
maximum of its CPU values. -/
theorem parse_eq (htemperatures : Lists payload "Temperatures" temperatures)
    (hfans : Lists payload "Fans" fans) :
    parseRedfishThermal str lower payload =
      if Fits str temperatures fans then
        .ok {
          cpuC := PyFloat.maxOf (temperatures.filterMap (cpuValue str lower))
          boardC := PyFloat.maxOf
            (temperatures.foldl (withTemperature str lower) ⟨[], []⟩).boardValues
          fanRpms := fans.foldl (withFan str) [] }
      else .error .overflowError := by
  have hvalues := cpuValues_foldl str lower temperatures ⟨[], []⟩
  rw [List.nil_append] at hvalues
  rw [parseRedfishThermal, itemsOf_of_lists htemperatures, itemsOf_of_lists hfans, ← hvalues]
  show (do
    let scan ← temperatures.foldlM (takeTemperature str lower) ⟨[], []⟩
    let fans ← fans.foldlM (takeFan str) []
    return ({
      cpuC := PyFloat.maxOf scan.cpuValues
      boardC := PyFloat.maxOf scan.boardValues
      fanRpms := fans } : RedfishReading)) = _
  rw [foldlM_eq_ite (takeTemperature_eq str lower), foldlM_eq_ite (takeFan_eq str)]
  by_cases hfirst : ∀ item ∈ temperatures, ¬ TemperatureOverflows item
  · rw [if_pos hfirst]
    by_cases hsecond : ∀ item ∈ fans, ¬ FanOverflows str item
    · have hfits : Fits str temperatures fans := ⟨hfirst, hsecond⟩
      rw [if_pos hsecond, if_pos hfits]
      rfl
    · have hnot : ¬ Fits str temperatures fans := fun fits => hsecond fits.2
      rw [if_neg hsecond, if_neg hnot]
      rfl
  · have hnot : ¬ Fits str temperatures fans := fun fits => hfirst fits.1
    rw [if_neg hfirst, if_neg hnot]
    rfl

variable (str lower)

/-- What a reading owes to the CPU items of its thermal object: none with a finite value
is above the CPU temperature, and every other thermal object with the same CPU items, in
any order, that is parsed at all has the same CPU temperature. -/
structure CpuExposed (temperatures : List Json) (reading : RedfishReading) : Prop where
  highest : ∀ item, .object item ∈ temperatures → isCpuItem str lower (.object item) = true →
    ∀ x, IsFinite (Json.get item "ReadingCelsius") x →
    ∃ greatest, reading.cpuC = some greatest ∧ PyFloat.le (.finite x) greatest = true
  independent : ∀ payload' temperatures' fans', Lists payload' "Temperatures" temperatures' →
    Lists payload' "Fans" fans' →
    (temperatures'.filter (isCpuItem str lower)).Perm
      (temperatures.filter (isCpuItem str lower)) →
    ∀ reading', parseRedfishThermal str lower payload' = .ok reading' →
    reading'.cpuC = reading.cpuC

/-- Everything in the two lists fits, and CPU values that are not a number are not mixed
with numbers. -/
def Clean (temperatures fans : List Json) : Prop :=
  Fits str temperatures fans ∧ PyFloat.Uniform (temperatures.filterMap (cpuValue str lower))

variable {str lower}

theorem cpuValues_filter (temperatures : List Json) :
    (temperatures.filter (isCpuItem str lower)).filterMap (cpuValue str lower) =
      temperatures.filterMap (cpuValue str lower) := by
  rw [List.filterMap_filter]
  congr 1
  funext item
  cases item with
  | object item =>
      rw [isCpuItem, cpuValue]
      split
      · rfl
      · rfl
  | _ => rfl

/-- The CPU items are exposed exactly if the thermal object is clean. -/
theorem parse_cpuExposed_iff (htemperatures : Lists payload "Temperatures" temperatures)
    (hfans : Lists payload "Fans" fans) :
    (∃ reading, parseRedfishThermal str lower payload = .ok reading ∧
      CpuExposed str lower temperatures reading) ↔ Clean str lower temperatures fans := by
  rw [parse_eq htemperatures hfans]
  constructor
  · rintro ⟨reading, hreading, hexposed⟩
    split at hreading
    next hfits =>
      cases hreading
      refine ⟨hfits, ?_⟩
      rw [← cpuValues_filter]
      refine (PyFloat.uniform_filterMap_iff _ _).mpr fun other perm => ?_
      -- the CPU items alone, in the other order, are a thermal object as well
      have hother : Lists [("Temperatures", .array other)] "Temperatures" other := .list other rfl
      have hnone : Lists [("Temperatures", .array other)] "Fans" [] := .absent rfl
      have hcpu : ∀ item ∈ other, isCpuItem str lower item = true := fun item hitem =>
        (List.mem_filter.mp (perm.mem_iff.mp hitem)).2
      have hotherFits : Fits str other [] := by
        refine ⟨fun item hitem => ?_, List.forall_mem_nil _⟩
        exact hfits.1 item (List.mem_of_mem_filter (perm.mem_iff.mp hitem))
      have hparse : parseRedfishThermal str lower [("Temperatures", .array other)] = _ :=
        parse_eq hother hnone
      rw [if_pos hotherFits] at hparse
      have hsame := hexposed.independent _ _ _ hother hnone
        (by rwa [List.filter_eq_self.mpr hcpu]) _ hparse
      rw [cpuValues_filter]
      exact hsame
    next => cases hreading
  · rintro ⟨hfits, huniform⟩
    rw [if_pos hfits]
    refine ⟨_, rfl, ?_, ?_⟩
    · intro item hitem hcpu x hfinite
      apply PyFloat.le_maxOf_of_uniform huniform
      refine List.mem_filterMap.mpr ⟨.object item, hitem, ?_⟩
      rw [isCpuItem] at hcpu
      rw [cpuValue, if_pos hcpu]
      exact taken_of_isFinite hfinite
    · intro payload' temperatures' fans' htemperatures' hfans' perm reading' hreading'
      rw [parse_eq htemperatures' hfans'] at hreading'
      split at hreading'
      next =>
        cases hreading'
        apply PyFloat.maxOf_perm_of_uniform huniform
        rw [← cpuValues_filter, ← cpuValues_filter temperatures]
        exact perm.filterMap _
      next => cases hreading'

end

/-- `str` of a text. -/
def textOf : Json → List Char
  | .str text => text.toList
  | _ => []

/-- The temperatures of a board in good health. -/
def healthyTemperatures : List Json :=
  [.object [("Name", .str "TEMP_CPU"), ("ReadingCelsius", .int 68)],
    .object [("Name", .str "MB_TEMP1"), ("ReadingCelsius", .int 37)]]

theorem cpuExposed_healthy :
    ∃ reading,
      parseRedfishThermal textOf (List.map Char.toLower)
          [("Temperatures", .array healthyTemperatures), ("Fans", .null)] = .ok reading ∧
        CpuExposed textOf (List.map Char.toLower) healthyTemperatures reading := by
  apply (parse_cpuExposed_iff (.list healthyTemperatures rfl) (.null rfl)).mpr
  constructor
  · decide +kernel
  · decide +kernel

/-- A fan with a name and infinite speed hides a hot CPU. -/
theorem not_cpuExposed_of_infinite_fan :
    ¬ ∀ (str : Json → List Char) (lower : List Char → List Char)
        (payload : List (String × Json)) (temperatures fans : List Json),
      Lists payload "Temperatures" temperatures → Lists payload "Fans" fans →
      ∃ reading, parseRedfishThermal str lower payload = .ok reading ∧
        CpuExposed str lower temperatures reading := by
  intro hall
  have htemperatures : Lists [("Temperatures", .array healthyTemperatures),
      ("Fans", .array [.object [("Name", .str "FAN1"), ("Reading", .float .posInf)]])]
      "Temperatures" healthyTemperatures := .list _ rfl
  have hfans : Lists [("Temperatures", .array healthyTemperatures),
      ("Fans", .array [.object [("Name", .str "FAN1"), ("Reading", .float .posInf)]])]
      "Fans" [.object [("Name", .str "FAN1"), ("Reading", .float .posInf)]] := .list _ rfl
  obtain ⟨reading, hreading, -⟩ := hall textOf (List.map Char.toLower) _ _ _ htemperatures hfans
  rw [parse_eq htemperatures hfans, if_neg (by decide +kernel)] at hreading
  cases hreading

end Redfish

/-- `RedfishThermalClient`: what the body of the thermal resource decodes to, if the request
and the decoding succeed. -/
structure RedfishThermalClient (Web : Type) where
  read : EStateM Failure Web Json

namespace RedfishThermalClient

variable {Web : Type} (str : Json → List Char) (lower : List Char → List Char)

/-- `fetch`. -/
def fetch (client : RedfishThermalClient Web) : EStateM Failure Web RedfishReading := do
  match ← attempt client.read with
  | none => throw (.sensorError "redfish_read_failed")
  | some (.object payload) => ofExcept (Redfish.parseRedfishThermal str lower payload)
  | some _ => throw (.sensorError "redfish_invalid_response")

/-- Fetching a thermal object is parsing it. -/
theorem fetch_of_object {client : RedfishThermalClient Web} {web after : Web}
    {payload : List (String × Json)} (h : client.read web = .ok (.object payload) after) :
    client.fetch str lower web =
      (ofExcept (Redfish.parseRedfishThermal str lower payload) :
        EStateM Failure Web RedfishReading) after := by
  rw [fetch, bind_of_ok (attempt_of_ok h)]

end RedfishThermalClient

end TrueFan
