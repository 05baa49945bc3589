/-
# The state file with all it holds

The policy works with the members of an override it knows; `load` keeps the whole
dictionary, and `save` writes it back. Here the loaded state is that dictionary. The
integer test of the expiry goes through a float outside of the `try`, the decoder raises
for a text nested too deeply, and the encoder for a value that is: these are the contents
on which loading is not total, or what was loaded cannot be saved.

The encoder gets through `levels` of nesting below the state itself; the decoder gets at
least as deep into what it wrote as it got into the file.
-/

import TrueFan.Policy.State
import TrueFan.Python.SortedJson

namespace TrueFan

open Python Foundations

/-- What `load` returns. The version member is the constant one. -/
structure StateDict where
  previousHot : Bool
  override : Option (List (String × Json))

namespace StateDict

def overrideJson (override : Option (List (String × Json))) : Json :=
  (override.map Json.object).getD .null

def members (state : StateDict) : List (String × Json) :=
  [("version", .int 1), ("previous_hot", .bool state.previousHot),
    ("override", overrideJson state.override)]

def toJson (state : StateDict) : Json := .object state.members

end StateDict

namespace ControlStateStore

/-- The validation of an override, which is dropped unless this returns `True`. -/
def validOverride (override : List (String × Json)) : Except Failure Bool :=
  match Json.get override "duty_percent" with
  | .int duty =>
      if 22 ≤ duty ∧ duty ≤ 100 then
        match Json.get override "expires_at" with
        | .int n => if |(n : ℚ)| < overflowBound then .ok true else .error .overflowError
        | .float (.finite _) => .ok true
        | _ => .ok false
      else .ok false
  | _ => .ok false

/-- The override `load` returns, given the override member of the file. -/
def keptOverride : Json → Except Failure (Option (List (String × Json)))
  | .object override => do
      if ← validOverride override then return some override else return none
  | _ => .ok none

/-- `ControlStateStore.load` on a file with the given content, with all it returns. -/
def loadDict : StateFile → Except Failure StateDict
  | .absent => .ok ⟨false, none⟩
  | .failing .osError => .ok ⟨true, none⟩
  | .failing (.valueError _) => .ok ⟨true, none⟩
  | .failing (.unicodeDecodeError _) => .ok ⟨true, none⟩
  | .failing .typeError => .ok ⟨true, none⟩
  | .failing error => .error error
  | .document (.object members) => do
      let override ← keptOverride (Json.get members "override")
      return { previousHot := (Json.get members "previous_hot").truthy, override }
  | .document _ => .ok ⟨true, none⟩

/-- What `ControlStateStore.save` makes of the file, where no file operation raises. -/
def saveDict (levels : ℕ) (state : StateDict) : Except Failure StateFile :=
  if state.toJson.depth ≤ levels + 1 then .ok (.document state.toJson.sortKeys)
  else .error .recursionError

end ControlStateStore

/-- The members are those of the override, and possibly others. -/
def Represents (members : List (String × Json)) (override : Override) : Prop :=
  Json.get members "duty_percent" = .int override.dutyPercent.val ∧
    Json.get members "expires_at" = override.expiresAt.toJson

/-- Sorting the members changes neither the duty nor the expiry. -/
theorem Represents.sorted {members : List (String × Json)} {override : Override}
    (h : Represents members override) :
    Represents (sortByKey (Json.sortMembers members)) override := by
  constructor
  · rw [Json.get_sortByKey_sortMembers, h.1]
    rfl
  · rw [Json.get_sortByKey_sortMembers, h.2]
    cases override.expiresAt with
    | int n convertible => rfl
    | float x => rfl

/-- The duty is accepted, and the expiry is an integer beyond the range of floats. -/
def Unconvertible (members : List (String × Json)) : Prop :=
  ∃ duty n : ℤ, Json.get members "duty_percent" = .int duty ∧ (22 ≤ duty ∧ duty ≤ 100) ∧
    Json.get members "expires_at" = .int n ∧ ¬ |(n : ℚ)| < overflowBound

namespace ControlStateStore

variable {members : List (String × Json)} {override : Override}

theorem validOverride_of_represents (h : Represents members override) :
    validOverride members = .ok true := by
  obtain ⟨⟨duty, hduty⟩, expiresAt⟩ := override
  obtain ⟨hget, hexpires⟩ := h
  rw [validOverride, hget]
  dsimp only
  rw [if_pos hduty, hexpires]
  cases expiresAt with
  | int n convertible => exact if_pos convertible
  | float x => rfl

theorem validOverride_of_unconvertible (h : Unconvertible members) :
    validOverride members = .error .overflowError := by
  obtain ⟨duty, n, hget, hduty, hexpires, hsize⟩ := h
  rw [validOverride, hget]
  dsimp only
  rw [if_pos hduty, hexpires]
  exact if_neg hsize

/-- The members are those of an override, or cannot be converted, or are dropped. -/
theorem validOverride_cases (members : List (String × Json)) :
    (∃ override, Represents members override) ∨ Unconvertible members ∨
      validOverride members = .ok false ∧ loadOverride (.object members) = .ok none := by
  rw [validOverride, loadOverride]
  cases hget : Json.get members "duty_percent" with
  | int duty =>
      by_cases hduty : 22 ≤ duty ∧ duty ≤ 100
      · dsimp only
        rw [if_pos hduty, dif_pos hduty]
        cases hexpires : Json.get members "expires_at" with
        | int n =>
            by_cases hsize : |(n : ℚ)| < overflowBound
            · exact .inl ⟨⟨⟨duty, hduty⟩, .int n hsize⟩, hget, hexpires⟩
            · exact .inr (.inl ⟨duty, n, hget, hduty, hexpires, hsize⟩)
        | float value =>
            cases value with
            | finite x => exact .inl ⟨⟨⟨duty, hduty⟩, .float x⟩, hget, hexpires⟩
            | _ => exact .inr (.inr ⟨rfl, rfl⟩)
        | _ => exact .inr (.inr ⟨rfl, rfl⟩)
      · dsimp only
        rw [if_neg hduty, dif_neg hduty]
        exact .inr (.inr ⟨rfl, rfl⟩)
  | _ => exact .inr (.inr ⟨rfl, rfl⟩)

theorem keptOverride_of_represents (h : Represents members override) :
    keptOverride (.object members) = .ok (some members) := by
  rw [keptOverride, validOverride_of_represents h]
  rfl

theorem keptOverride_of_unconvertible (h : Unconvertible members) :
    keptOverride (.object members) = .error .overflowError := by
  rw [keptOverride, validOverride_of_unconvertible h]
  rfl

/-- What is kept of an override member: all of an override, and nothing else. -/
theorem keptOverride_cases (value : Json) :
    (∃ members override, value = .object members ∧ Represents members override) ∨
    (∃ members, value = .object members ∧ Unconvertible members) ∨
    keptOverride value = .ok none ∧ loadOverride value = .ok none := by
  cases value with
  | object members =>
      rcases validOverride_cases members with ⟨override, h⟩ | h | ⟨h, hload⟩
      · exact .inl ⟨members, override, rfl, h⟩
      · exact .inr (.inl ⟨members, rfl, h⟩)
      · have hdropped : keptOverride (.object members) = .ok none := by
          rw [keptOverride, h]
          rfl
        exact .inr (.inr ⟨hdropped, hload⟩)
  | _ => exact .inr (.inr ⟨rfl, rfl⟩)

end ControlStateStore

/-! ## Loading, saving and loading again -/

namespace StateDict

/-- The override, if there is one, has a duty in range and an expiry that converts to a
finite float. -/
def Normal (state : StateDict) : Prop :=
  ∀ members, state.override = some members → ∃ override, Represents members override

/-- The states are the same dictionary. -/
def Same (first second : StateDict) : Prop := first.toJson.sortKeys = second.toJson.sortKeys

/-- The state with the members of its override in order. -/
def sorted (state : StateDict) : StateDict :=
  { state with override := state.override.map fun members => sortByKey (Json.sortMembers members) }

theorem overrideJson_sorted (state : StateDict) :
    overrideJson state.sorted.override = (overrideJson state.override).sortKeys := by
  obtain ⟨previousHot, override⟩ := state
  cases override with
  | none => rfl
  | some members => exact (Json.sortKeys_object members).symm

theorem toJson_sortKeys (state : StateDict) :
    state.toJson.sortKeys = .object (sortByKey (Json.sortMembers state.members)) :=
  Json.sortKeys_object _

theorem get_members_previousHot (state : StateDict) :
    Json.get state.members "previous_hot" = .bool state.previousHot := by
  rw [members, Json.get_cons_of_ne (by decide), Json.get_cons_self]

theorem get_members_override (state : StateDict) :
    Json.get state.members "override" = overrideJson state.override := by
  rw [members, Json.get_cons_of_ne (by decide), Json.get_cons_of_ne (by decide),
    Json.get_cons_self]

theorem same_sorted (state : StateDict) : state.sorted.Same state := by
  rw [Same, toJson_sortKeys, toJson_sortKeys, Json.sortMembers_eq_map, Json.sortMembers_eq_map]
  simp only [members, List.map_cons, overrideJson_sorted, Json.sortKeys_sortKeys]
  rfl

theorem normal_sorted {state : StateDict} (h : state.Normal) : state.sorted.Normal := by
  intro members hmembers
  obtain ⟨original, horiginal, rfl⟩ := Option.map_eq_some_iff.mp hmembers
  obtain ⟨override, hrepresents⟩ := h original horiginal
  exact ⟨override, hrepresents.sorted⟩

theorem depth_toJson (state : StateDict) :
    state.toJson.depth = (overrideJson state.override).depth + 1 := by
  rw [toJson, Json.depth_object]
  simp [members, Json.membersDepth, Json.depth]

end StateDict

namespace ControlStateStore

/-- What was saved of a state that is normal is loaded again, in order. -/
theorem loadDict_sortKeys {state : StateDict} (h : state.Normal) :
    loadDict (.document state.toJson.sortKeys) = .ok state.sorted := by
  have hkept : keptOverride (StateDict.overrideJson state.sorted.override) =
      .ok state.sorted.override := by
    cases hsorted : state.sorted.override with
    | none => rfl
    | some members =>
        obtain ⟨override, hrepresents⟩ := StateDict.normal_sorted h members hsorted
        exact keptOverride_of_represents hrepresents
  rw [StateDict.toJson_sortKeys, loadDict, Json.get_sortByKey_sortMembers,
    Json.get_sortByKey_sortMembers, state.get_members_previousHot, state.get_members_override,
    ← state.overrideJson_sorted, hkept]
  rfl

theorem loadOverride_of_represents (h : Represents members override) :
    loadOverride (.object members) = .ok (some override) := by
  obtain ⟨⟨duty, hduty⟩, expiresAt⟩ := override
  obtain ⟨hget, hexpires⟩ := h
  rw [loadOverride, hget]
  dsimp only
  rw [dif_pos hduty, hexpires]
  cases expiresAt with
  | int n convertible => exact dif_pos convertible
  | float x => rfl

theorem loadOverride_of_unconvertible (h : Unconvertible members) :
    loadOverride (.object members) = .error .overflowError := by
  obtain ⟨duty, n, hget, hduty, hexpires, hsize⟩ := h
  rw [loadOverride, hget]
  dsimp only
  rw [dif_pos hduty, hexpires]
  exact dif_neg hsize

theorem loadDict_object (members : List (String × Json)) :
    loadDict (.document (.object members)) = (do
      let override ← keptOverride (Json.get members "override")
      return { previousHot := (Json.get members "previous_hot").truthy, override }) := rfl

theorem loadFile_object (members : List (String × Json)) :
    loadFile (.document (.object members)) = (do
      let override ← loadOverride (Json.get members "override")
      return { previousHot := (Json.get members "previous_hot").truthy, override }) := rfl

/-- The dictionary holds the state the policy works with. -/
def Holds (dict : StateDict) (state : ControlState) : Prop :=
  dict.previousHot = state.previousHot ∧ Option.Rel Represents dict.override state.override

/-- Loading the whole dictionary and loading the state the policy works with come to the
same, also where they raise. -/
theorem loadDict_loadFile (file : StateFile) :
    (∃ dict state, loadDict file = .ok dict ∧ loadFile file = .ok state ∧ Holds dict state) ∨
      ∃ error, loadDict file = .error error ∧ loadFile file = .error error := by
  cases file with
  | absent => exact .inl ⟨_, _, rfl, rfl, rfl, .none⟩
  | failing error =>
      cases error with
      | osError | valueError | unicodeDecodeError | typeError =>
          exact .inl ⟨_, _, rfl, rfl, rfl, .none⟩
      | _ => exact .inr ⟨_, rfl, rfl⟩
  | document value =>
      cases value with
      | object members =>
          rw [loadDict_object, loadFile_object]
          rcases keptOverride_cases (Json.get members "override") with
            ⟨override, kept, hoverride, hkept⟩ | ⟨override, hoverride, hsize⟩ | ⟨hkept, hload⟩
          · rw [hoverride, keptOverride_of_represents hkept, loadOverride_of_represents hkept]
            exact .inl ⟨_, _, rfl, rfl, rfl, .some hkept⟩
          · rw [hoverride, keptOverride_of_unconvertible hsize,
              loadOverride_of_unconvertible hsize]
            exact .inr ⟨_, rfl, rfl⟩
          · rw [hkept, hload]
            exact .inl ⟨_, _, rfl, rfl, rfl, .none⟩
      | _ => exact .inl ⟨_, _, rfl, rfl, rfl, .none⟩

/-- What is loaded is normal, whatever the file holds. -/
theorem normal_of_loadDict {file : StateFile} {state : StateDict}
    (h : loadDict file = .ok state) : state.Normal := by
  intro members hmembers
  rcases loadDict_loadFile file with
    ⟨dict, ⟨previousHot, override⟩, hdict, -, -, hoverride⟩ | ⟨error, herror, -⟩
  · cases h.symm.trans hdict
    rw [hmembers] at hoverride
    cases hoverride with
    | some hrepresents => exact ⟨_, hrepresents⟩
  · cases h.symm.trans herror

/-! ## Every content -/

/-- The exceptions `load` catches. -/
def Caught : Failure → Prop
  | .osError => True
  | .valueError _ => True
  | .unicodeDecodeError _ => True
  | .typeError => True
  | _ => False

/-- There is a file, and its text is no JSON object. -/
def NoObject : StateFile → Prop
  | .absent => False
  | .failing _ => True
  | .document (.object _) => False
  | .document _ => True

/-- The file is loaded without raising, to a state that is normal and holds an open
incident if the text is no JSON object; and that state can be saved, and is loaded again. -/
def LoadsNormally (levels : ℕ) (file : StateFile) : Prop :=
  ∃ state, loadDict file = .ok state ∧ state.Normal ∧
    (NoObject file → state.previousHot = true) ∧
    ∃ saved, saveDict levels state = .ok saved ∧
      ∃ again, loadDict saved = .ok again ∧ again.Same state

/-- Reading the text and decoding it raises nothing that is not caught, and an override with
an accepted duty has no expiry that is an integer beyond the range of floats and, if it is
kept, is not nested too deeply for the encoder. -/
def Readable (levels : ℕ) : StateFile → Prop
  | .failing error => Caught error
  | .document (.object members) =>
      ∀ override, Json.get members "override" = .object override →
        ¬ Unconvertible override ∧
          ∀ kept, Represents override kept → (Json.object override).depth ≤ levels
  | _ => True

/-- A state that is normal is saved and loaded again if its override is not nested too
deeply for the encoder. -/
theorem saves_iff {levels : ℕ} {state : StateDict} (h : state.Normal) :
    (∃ saved, saveDict levels state = .ok saved ∧
        ∃ again, loadDict saved = .ok again ∧ again.Same state) ↔
      (StateDict.overrideJson state.override).depth ≤ levels := by
  rw [saveDict, StateDict.depth_toJson]
  by_cases hdepth : (StateDict.overrideJson state.override).depth ≤ levels
  · rw [if_pos (Nat.succ_le_succ hdepth)]
    exact iff_of_true ⟨_, rfl, _, loadDict_sortKeys h, state.same_sorted⟩ hdepth
  · rw [if_neg fun h => hdepth (Nat.le_of_succ_le_succ h)]
    apply iff_of_false _ hdepth
    rintro ⟨saved, hsaved, -⟩
    cases hsaved

/-- A state without an override is normal, and is saved and loaded again. -/
theorem loadsNormally_of_no_override {levels : ℕ} {file : StateFile} {previousHot : Bool}
    (h : loadDict file = .ok ⟨previousHot, none⟩) (hhot : NoObject file → previousHot = true) :
    LoadsNormally levels file := by
  have hnormal := normal_of_loadDict h
  exact ⟨_, h, hnormal, hhot, (saves_iff hnormal).mpr (Nat.zero_le levels)⟩

theorem loadsNormally_object_iff {levels : ℕ} {members : List (String × Json)} :
    LoadsNormally levels (.document (.object members)) ↔
      Readable levels (.document (.object members)) := by
  have hload := loadDict_object members
  rw [Readable]
  rcases keptOverride_cases (Json.get members "override") with
    ⟨override, kept, hoverride, hkept⟩ | ⟨override, hoverride, hsize⟩ | ⟨hdropped, -⟩
  · rw [hoverride, keptOverride_of_represents hkept] at hload
    have hnormal := normal_of_loadDict hload
    constructor
    · rintro ⟨state, hstate, -, -, hsaves⟩ override' hoverride'
      cases hload.symm.trans hstate
      cases hoverride.symm.trans hoverride'
      refine ⟨fun hsize => ?_, fun _ _ => (saves_iff hnormal).mp hsaves⟩
      cases (validOverride_of_represents hkept).symm.trans (validOverride_of_unconvertible hsize)
    · intro hreadable
      have hdepth := (hreadable override hoverride).2 kept hkept
      exact ⟨_, hload, hnormal, nofun, (saves_iff hnormal).mpr hdepth⟩
  · rw [hoverride, keptOverride_of_unconvertible hsize] at hload
    apply iff_of_false
    · rintro ⟨state, hstate, -⟩
      cases hload.symm.trans hstate
    · exact fun hreadable => (hreadable override hoverride).1 hsize
  · rw [hdropped] at hload
    apply iff_of_true (loadsNormally_of_no_override hload nofun)
    intro override hoverride
    rw [hoverride] at hdropped
    constructor
    · intro hsize
      cases (keptOverride_of_unconvertible hsize).symm.trans hdropped
    · intro kept hkept
      cases (keptOverride_of_represents hkept).symm.trans hdropped

/-- Whatever the file holds, it is loaded to a normal state, one with an open incident if the
text is no JSON object, and that state is saved and loaded again as it is, exactly if the
file is readable. -/
theorem loadsNormally_iff_readable (levels : ℕ) (file : StateFile) :
    LoadsNormally levels file ↔ Readable levels file := by
  cases file with
  | absent => exact iff_of_true (loadsNormally_of_no_override rfl nofun) trivial
  | failing error =>
      cases error with
      | osError | valueError | unicodeDecodeError | typeError =>
          exact iff_of_true (loadsNormally_of_no_override rfl fun _ => rfl) trivial
      | _ =>
          apply iff_of_false _ id
          rintro ⟨state, hstate, -⟩
          cases hstate
  | document value =>
      cases value with
      | object members => exact loadsNormally_object_iff
      | _ => exact iff_of_true (loadsNormally_of_no_override rfl fun _ => rfl) trivial

/-- An override until 10^400, for a duty that is accepted. -/
def farOverride : List (String × Json) :=
  [("duty_percent", .int 50), ("expires_at", .int (10 ^ 400))]

/-- An override until 10^400, and a text nested too deeply for the decoder. -/
theorem not_loadsNormally_of_expiry_or_nesting :
    ¬ (∀ value, LoadsNormally 1000 (.document value)) ∧ ¬ ∀ file, LoadsNormally 1000 file := by
  constructor
  · intro hall
    obtain ⟨state, hstate, -⟩ := hall (.object [("override", .object farOverride)])
    have hsize : Unconvertible farOverride :=
      ⟨50, 10 ^ 400, rfl, by decide, rfl, by decide +kernel⟩
    have hraises := loadDict_object [("override", .object farOverride)]
    rw [Json.get_cons_self, keptOverride_of_unconvertible hsize] at hraises
    cases hraises.symm.trans hstate
  · intro hall
    obtain ⟨state, hstate, -⟩ := hall (.failing .recursionError)
    cases hstate

end ControlStateStore

end TrueFan
