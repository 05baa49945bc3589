/-
# Saving, one file operation at a time

`save` writes a temporary file beside the state file and replaces the state file by it in
one operation. Any operation may raise or be the last one before the process dies. Until
the replacement nothing touches the state file, and the replacement comes when the whole
text has been flushed; so the next process finds the state before or the state saved.

The directory tells the state file from the temporary files by their names, and a new
temporary file gets a name that no file has. Looking whether it exists does not raise.
-/

import Mathlib.Logic.Function.Basic
import TrueFan.Policy.StateDict
import TrueFan.Python.Interrupted

namespace TrueFan

open Python

/-- The directory of the state file: the text of that file, and the texts of the temporary
files by the varying parts of their names. -/
structure Directory where
  target : Option (List Char)
  temps : List Char → Option (List Char)

namespace Directory

def setTemp (suffix : List Char) (text : Option (List Char)) (directory : Directory) :
    Directory :=
  { directory with temps := Function.update directory.temps suffix text }

/-- `os.replace` of the state file by a temporary file. -/
def replace (suffix : List Char) (directory : Directory) : Directory where
  target := directory.temps suffix
  temps := Function.update directory.temps suffix none

@[simp]
theorem setTemp_temps_self (suffix : List Char) (text : Option (List Char))
    (directory : Directory) : (directory.setTemp suffix text).temps suffix = text :=
  Function.update_self ..

theorem setTemp_temps_of_ne {suffix other : List Char} (h : other ≠ suffix)
    (text : Option (List Char)) (directory : Directory) :
    (directory.setTemp suffix text).temps other = directory.temps other :=
  Function.update_of_ne h ..

end Directory

/-- `json.dump` of a value with sorted names, and reading a text and `json.loads` of it. -/
structure Codec where
  encode : Json → List Char
  decode : List Char → Except Failure Json

/-- The file operations of `save`, in order; the last one is for what has failed. -/
inductive Operation
  | makeDirectory
  | create
  | dump
  | newline
  | flush
  | fsync
  | close
  | chmod
  | replace
  | unlink
  deriving DecidableEq, Repr

/-- What happens to a save: the name the temporary file gets, how each operation ends, and
how much of the text is in the file after an operation that need not flush all of it. -/
structure SaveRun where
  suffix : List Char
  ending : Operation → Ending
  left : Operation → List Char

namespace SaveRun

variable (run : SaveRun)

abbrev Method := EStateM Stop Directory Unit

/-- An operation that changes no text of a file. -/
def touch (operation : Operation) : Method := operate (run.ending operation) id id

/-- An operation after which the temporary file holds the text. -/
def write (operation : Operation) (text : List Char) : Method :=
  operate (run.ending operation) (Directory.setTemp run.suffix (some text))
    (Directory.setTemp run.suffix (some (run.left operation)))

/-- `with handle: ...` -/
def writeTemp (text : List Char) : Method :=
  lastly
    (do
      run.write .dump (run.left .dump)
      run.write .newline (run.left .newline)
      run.write .flush text
      run.touch .fsync)
    (run.touch .close)

/-- The part under `try`. -/
def writeAndReplace (text : List Char) : Method := do
  run.writeTemp text
  run.touch .chmod
  operate (run.ending .replace) (Directory.replace run.suffix) id

/-- The part under `finally`. -/
def removeTemp : Method := fun directory =>
  if (directory.temps run.suffix).isSome then
    operate (run.ending .unlink) (Directory.setTemp run.suffix none) id directory
  else .ok () directory

end SaveRun

namespace Codec

variable (codec : Codec)

/-- The text a state is saved as. -/
def text (state : StateDict) : List Char := codec.encode state.toJson ++ ['\n']

/-- `ControlStateStore.save`. -/
def save (run : SaveRun) (state : StateDict) : SaveRun.Method := do
  run.touch .makeDirectory
  operate (run.ending .create) (Directory.setTemp run.suffix (some [])) id
  lastly (run.writeAndReplace (codec.text state)) run.removeTemp

/-- What the state file comes to. -/
def stateFile (directory : Directory) : StateFile :=
  match directory.target with
  | none => .absent
  | some text =>
      match codec.decode text with
      | .ok value => .document value
      | .error error => .failing error

/-- `ControlStateStore.load`. -/
def load (directory : Directory) : Except Failure StateDict :=
  ControlStateStore.loadDict (codec.stateFile directory)

/-- The text a state is saved as is read back as the value that was dumped. -/
def RoundTrips (state : StateDict) : Prop :=
  codec.decode (codec.text state) = .ok state.toJson.sortKeys

end Codec

namespace Directory

/-- All but one temporary file are as they were. -/
def OthersKept (before : Directory) (suffix : List Char) (after : Directory) : Prop :=
  ∀ other, other ≠ suffix → after.temps other = before.temps other

/-- The state file and all but one temporary file are as they were. -/
def Kept (before : Directory) (suffix : List Char) (after : Directory) : Prop :=
  after.target = before.target ∧ before.OthersKept suffix after

/-- The state file holds the text, one temporary file is gone, and the others are as they
were. -/
def Replaced (before : Directory) (suffix text : List Char) (after : Directory) : Prop :=
  after.target = some text ∧ after.temps suffix = none ∧ before.OthersKept suffix after

variable {before after : Directory} {suffix text : List Char}

theorem OthersKept.setTemp (h : before.OthersKept suffix after) (text : Option (List Char)) :
    before.OthersKept suffix (after.setTemp suffix text) := by
  intro other hother
  rw [setTemp_temps_of_ne hother, h other hother]

theorem Kept.refl (directory : Directory) (suffix : List Char) : directory.Kept suffix directory :=
  ⟨rfl, fun _ _ => rfl⟩

theorem Kept.setTemp (h : before.Kept suffix after) (text : Option (List Char)) :
    before.Kept suffix (after.setTemp suffix text) :=
  ⟨h.1, h.2.setTemp text⟩

theorem Kept.replace (h : before.Kept suffix after) (htext : after.temps suffix = some text) :
    before.Replaced suffix text (after.replace suffix) := by
  refine ⟨htext, Function.update_self .., fun other hother => ?_⟩
  rw [← h.2 other hother]
  exact Function.update_of_ne hother ..

/-- If the one was not there before and is gone, all are as they were. -/
theorem OthersKept.temps_eq (h : before.OthersKept suffix after)
    (hfresh : before.temps suffix = none) (hgone : after.temps suffix = none) :
    after.temps = before.temps := by
  funext other
  by_cases hother : other = suffix
  · rw [hother, hgone, hfresh]
  · exact h other hother

end Directory

namespace SaveRun

variable {run : SaveRun} {before directory : Directory} {text : List Char}

theorem preserves_touch (property : Directory → Prop) (operation : Operation) :
    Preserves property (run.touch operation) :=
  preserves_operate (fun _ h => h) fun _ h => h

theorem preserves_write (operation : Operation) (text : List Char) :
    Preserves (before.Kept run.suffix) (run.write operation text) :=
  preserves_operate (fun _ h => h.setTemp _) fun _ h => h.setTemp _

theorem preserves_writeTemp (text : List Char) :
    Preserves (before.Kept run.suffix) (run.writeTemp text) := by
  apply preserves_lastly
  · apply Preserves.bind (preserves_write _ _)
    intro _
    apply Preserves.bind (preserves_write _ _)
    intro _
    apply Preserves.bind (preserves_write _ _)
    intro _
    exact preserves_touch _ _
  · exact preserves_touch _ _

/-- A temporary file that was written without raising holds the text: what comes after the
flush leaves it alone. -/
theorem temps_of_writeTemp {after : Directory} (h : run.writeTemp text directory = .ok () after) :
    after.temps run.suffix = some text := by
  obtain ⟨written, hwrite, hclose⟩ := lastly_eq_ok h
  obtain ⟨_, dumped, -, hwrite⟩ := bind_eq_ok hwrite
  obtain ⟨_, ended, -, hwrite⟩ := bind_eq_ok hwrite
  obtain ⟨_, flushed, hflush, hsync⟩ := bind_eq_ok hwrite
  have hflushed := operate_eq_ok hflush
  have hsynced : written = flushed := operate_eq_ok hsync
  have hclosed : after = written := operate_eq_ok hclose
  rw [hclosed, hsynced, hflushed, Directory.setTemp_temps_self]

/-- The part under `try` replaces the state file by the text, or leaves it alone; it
replaces it if it returns, and leaves it alone if it raises. -/
theorem writeAndReplace_cases (text : List Char) (h : before.Kept run.suffix directory) :
    (∃ after, run.writeAndReplace text directory = .ok () after ∧
      before.Replaced run.suffix text after) ∨
    (∃ after, run.writeAndReplace text directory = .error .raised after ∧
      before.Kept run.suffix after) ∨
    ∃ after, run.writeAndReplace text directory = .error .died after ∧
      (before.Kept run.suffix after ∨ before.Replaced run.suffix text after) := by
  rw [writeAndReplace]
  have hkept := preserves_writeTemp text directory h
  cases hwrite : run.writeTemp text directory with
  | error stop between =>
      rw [hwrite] at hkept
      rw [bind_of_error hwrite]
      cases stop with
      | raised => exact .inr (.inl ⟨between, rfl, hkept⟩)
      | died => exact .inr (.inr ⟨between, rfl, .inl hkept⟩)
  | ok value between =>
      rw [hwrite] at hkept
      have hreplaced := hkept.replace (temps_of_writeTemp hwrite)
      rw [bind_of_ok hwrite, touch]
      cases run.ending .chmod with
      | raises => exact .inr (.inl ⟨between, rfl, hkept⟩)
      | dies => exact .inr (.inr ⟨between, rfl, .inl hkept⟩)
      | finishes =>
          have hchmod : operate .finishes id id between = .ok () between := rfl
          rw [bind_of_ok hchmod]
          cases run.ending .replace with
          | finishes => exact .inl ⟨_, rfl, hreplaced⟩
          | raises => exact .inr (.inl ⟨between, rfl, hkept⟩)
          | dies => exact .inr (.inr ⟨_, rfl, .inr hreplaced⟩)

theorem removeTemp_of_none (h : directory.temps run.suffix = none) :
    run.removeTemp directory = .ok () directory := by
  rw [removeTemp, h]
  rfl

/-- The part under `finally` leaves no temporary file if unlinking it finishes. -/
theorem removeTemp_cases (h : before.Kept run.suffix directory) :
    (∃ after, run.removeTemp directory = .ok () after ∧ before.Kept run.suffix after ∧
      after.temps run.suffix = none) ∨
    ∃ stop after, run.removeTemp directory = .error stop after ∧ before.Kept run.suffix after ∧
      run.ending .unlink ≠ .finishes := by
  cases htemp : directory.temps run.suffix with
  | none => exact .inl ⟨directory, removeTemp_of_none htemp, h, htemp⟩
  | some left =>
      have hunlink : run.removeTemp directory =
          operate (run.ending .unlink) (Directory.setTemp run.suffix none) id directory := by
        rw [removeTemp, htemp]
        rfl
      rw [hunlink]
      cases run.ending .unlink with
      | finishes => exact .inl ⟨_, rfl, h.setTemp none, directory.setTemp_temps_self ..⟩
      | raises => exact .inr ⟨_, _, rfl, h, nofun⟩
      | dies => exact .inr ⟨_, _, rfl, h.setTemp none, nofun⟩

end SaveRun

/-! ## What a save leaves -/

namespace Codec

variable {codec : Codec} {run : SaveRun} {directory : Directory}

/-- A save replaces the state file or leaves it alone: it replaces it if it returns, and
leaves it alone if it raises, with no temporary file of its own unless unlinking it does
not finish. -/
theorem save_cases (codec : Codec) (state : StateDict)
    (hfresh : directory.temps run.suffix = none) :
    (∃ after, codec.save run state directory = .ok () after ∧
      after = { directory with target := some (codec.text state) }) ∨
    (∃ after, codec.save run state directory = .error .raised after ∧
      after.target = directory.target ∧
      (run.ending .unlink = .finishes → after.temps = directory.temps)) ∨
    ∃ after, codec.save run state directory = .error .died after ∧
      (after.target = directory.target ∨ after.target = some (codec.text state)) := by
  have hcreated : directory.Kept run.suffix (directory.setTemp run.suffix (some [])) :=
    (Directory.Kept.refl directory run.suffix).setTemp _
  rw [save, SaveRun.touch]
  cases run.ending .makeDirectory with
  | raises => exact .inr (.inl ⟨_, rfl, rfl, fun _ => rfl⟩)
  | dies => exact .inr (.inr ⟨_, rfl, .inl rfl⟩)
  | finishes =>
      have hmade : operate .finishes id id directory = .ok () directory := rfl
      rw [bind_of_ok hmade]
      cases run.ending .create with
      | raises => exact .inr (.inl ⟨_, rfl, rfl, fun _ => rfl⟩)
      | dies => exact .inr (.inr ⟨_, rfl, .inl hcreated.1⟩)
      | finishes =>
          have hcreate : operate .finishes (Directory.setTemp run.suffix (some [])) id directory =
              .ok () (directory.setTemp run.suffix (some [])) := rfl
          rw [bind_of_ok hcreate]
          rcases SaveRun.writeAndReplace_cases (codec.text state) hcreated with
            ⟨after, hbody, htarget, hgone, hothers⟩ | ⟨between, hbody, hkept⟩ |
              ⟨after, hbody, hleft⟩
          · refine .inl ⟨after, ?_, ?_⟩
            · rw [lastly_of_ok hbody, SaveRun.removeTemp_of_none hgone]
            · obtain ⟨target, temps⟩ := after
              cases htarget
              cases hothers.temps_eq hfresh hgone
              rfl
          · rcases SaveRun.removeTemp_cases hkept with
              ⟨after, hlast, hkept, hgone⟩ | ⟨stop, after, hlast, hkept, hunlink⟩
            · exact .inr (.inl ⟨after, lastly_of_raised hbody hlast, hkept.1,
                fun _ => hkept.2.temps_eq hfresh hgone⟩)
            · have hstop := lastly_of_raised_of_error hbody hlast
              cases stop with
              | raised =>
                  exact .inr (.inl ⟨after, hstop, hkept.1, fun h => absurd h hunlink⟩)
              | died => exact .inr (.inr ⟨after, hstop, .inl hkept.1⟩)
          · refine .inr (.inr ⟨after, lastly_of_died hbody, ?_⟩)
            exact hleft.imp And.left And.left

end Codec

/-! ## What the next process finds -/

namespace StateDict

/-- The override a request puts into the dictionary. -/
def requestedOverride (duty : DutyPercent) (expiresAt : Clock) : List (String × Json) :=
  [("duty_percent", .int duty.val), ("expires_at", .float (.finite expiresAt))]

/-- A dictionary the policy can have in memory: one it loaded from a file, changed by its
assignments. -/
inductive Reachable : StateDict → Prop
  | loaded {file state} (loads : ControlStateStore.loadDict file = .ok state) : Reachable state
  | setPreviousHot {state} (before : Reachable state) (previousHot : Bool) :
      Reachable { state with previousHot := previousHot }
  | dropOverride {state} (before : Reachable state) : Reachable { state with override := none }
  | request {state} (before : Reachable state) (duty : DutyPercent) (expiresAt : Clock) :
      Reachable { state with override := some (requestedOverride duty expiresAt) }

theorem represents_requestedOverride (duty : DutyPercent) (expiresAt : Clock) :
    Represents (requestedOverride duty expiresAt) ⟨duty, .float expiresAt⟩ := by
  constructor
  · exact Json.get_cons_self ..
  · rw [requestedOverride, Json.get_cons_of_ne (by decide), Json.get_cons_self]
    rfl

theorem normal_of_reachable {state : StateDict} (h : state.Reachable) : state.Normal := by
  induction h with
  | loaded loads => exact ControlStateStore.normal_of_loadDict loads
  | setPreviousHot before previousHot ih => exact ih
  | dropOverride before ih => exact nofun
  | request before duty expiresAt ih =>
      intro members hmembers
      cases hmembers
      exact ⟨_, represents_requestedOverride duty expiresAt⟩

end StateDict

namespace Codec

/-- The next process loads the state, as the same dictionary. -/
def Loads (codec : Codec) (directory : Directory) (state : StateDict) : Prop :=
  ∃ loaded, codec.load directory = .ok loaded ∧ loaded.Same state

/-- There is no file, or one that a save of the state made. -/
def Produced (codec : Codec) (directory : Directory) (state : StateDict) : Prop :=
  (directory.target = none ∧ state = ⟨false, none⟩) ∨
    directory.target = some (codec.text state) ∧ codec.RoundTrips state ∧ state.Reachable

variable {codec : Codec} {run : SaveRun} {directory after : Directory} {previous state : StateDict}

theorem stateFile_of_target (h : after.target = directory.target) :
    codec.stateFile after = codec.stateFile directory := by
  rw [stateFile, stateFile, h]

theorem stateFile_of_text (hround : codec.RoundTrips state)
    (h : directory.target = some (codec.text state)) :
    codec.stateFile directory = .document state.toJson.sortKeys := by
  rw [stateFile, h]
  dsimp only
  rw [hround]

theorem loads_of_text (hstate : state.Normal) (hround : codec.RoundTrips state)
    (h : directory.target = some (codec.text state)) : codec.Loads directory state := by
  refine ⟨state.sorted, ?_, state.same_sorted⟩
  rw [load, stateFile_of_text hround h, ControlStateStore.loadDict_sortKeys hstate]

theorem loads_of_produced (h : codec.Produced directory previous) :
    codec.Loads directory previous := by
  rcases h with ⟨htarget, rfl⟩ | ⟨htarget, hround, hreachable⟩
  · refine ⟨⟨false, none⟩, ?_, rfl⟩
    rw [load, stateFile, htarget]
    rfl
  · exact loads_of_text (StateDict.normal_of_reachable hreachable) hround htarget

theorem loads_of_target (h : after.target = directory.target)
    (hloads : codec.Loads directory previous) : codec.Loads after previous := by
  rwa [Loads, load, stateFile_of_target h]

/-- What a save promises, however far it gets. -/
structure Recovers (codec : Codec) (run : SaveRun) (directory : Directory)
    (previous state : StateDict) : Prop where
  /-- The next process loads the state before or the state saved. -/
  atomic : codec.Loads (resultState (codec.save run state directory)) previous ∨
    codec.Loads (resultState (codec.save run state directory)) state
  /-- It loads the state saved if the save returned. -/
  stored : ∀ after, codec.save run state directory = .ok () after → codec.Loads after state
  /-- If the save raised, the state file is as it was, and if unlinking finishes so are the
  temporary files. -/
  undone : ∀ after, codec.save run state directory = .error .raised after →
    after.target = directory.target ∧
      (run.ending .unlink = .finishes → after.temps = directory.temps)

/-- A save of a state the policy can have, over no file or one that a save made, keeps its
promise at whatever operation it raises or the process dies. -/
theorem save_recovers (hprevious : codec.Produced directory previous) (hstate : state.Reachable)
    (hround : codec.RoundTrips state) (hfresh : directory.temps run.suffix = none) :
    codec.Recovers run directory previous state := by
  have hbefore := loads_of_produced hprevious
  have hnormal := StateDict.normal_of_reachable hstate
  rcases save_cases codec state hfresh with
    ⟨after, hsave, rfl⟩ | ⟨after, hsave, htarget, htemps⟩ | ⟨after, hsave, hleft⟩
  · have hloads := loads_of_text hnormal hround
      (rfl : { directory with target := some (codec.text state) }.target = some (codec.text state))
    refine ⟨?_, ?_, ?_⟩
    · rw [hsave]
      exact .inr hloads
    · intro after hreturned
      cases hsave.symm.trans hreturned
      exact hloads
    · intro after hraised
      cases hsave.symm.trans hraised
  · refine ⟨?_, ?_, ?_⟩
    · rw [hsave]
      exact .inl (loads_of_target htarget hbefore)
    · intro after hreturned
      cases hsave.symm.trans hreturned
    · intro after hraised
      cases hsave.symm.trans hraised
      exact ⟨htarget, htemps⟩
  · refine ⟨?_, ?_, ?_⟩
    · rw [hsave]
      rcases hleft with htarget | htext
      · exact .inl (loads_of_target htarget hbefore)
      · exact .inr (loads_of_text hnormal hround htext)
    · intro after hreturned
      cases hsave.symm.trans hreturned
    · intro after hraised
      cases hsave.symm.trans hraised

/-- An open incident, and its text. -/
def incident : StateDict := ⟨true, none⟩

def incidentText : List Char :=
  "\x7b\"override\":null,\"previous_hot\":true,\"version\":1\x7d".toList

/-- An override, and its text. -/
def overridden : StateDict :=
  ⟨false, some (StateDict.requestedOverride ⟨50, by decide⟩ (.ofInt 400))⟩

def overriddenText : List Char :=
  ("\x7b\"override\":\x7b\"duty_percent\":50,\"expires_at\":400.0\x7d," ++
    "\"previous_hot\":false,\"version\":1\x7d").toList

/-- What `json` makes of these two. -/
def twoStates : Codec where
  encode
    | .object members =>
        if (Json.get members "previous_hot").truthy then incidentText else overriddenText
    | _ => []
  decode text :=
    if text = incidentText ++ ['\n'] then .ok incident.toJson.sortKeys
    else if text = overriddenText ++ ['\n'] then .ok overridden.toJson.sortKeys
    else .error (.valueError "Expecting value")

/-- A process that dies at the replacement. -/
def cutAtReplace : SaveRun where
  suffix := "k3_x9ab2".toList
  ending operation := if operation = .replace then .dies else .finishes
  left _ := []

theorem roundTrips_incident : twoStates.RoundTrips incident := by
  have htext : twoStates.text incident = incidentText ++ ['\n'] := rfl
  rw [RoundTrips, htext, twoStates]
  dsimp only
  rw [if_pos rfl]

theorem roundTrips_overridden : twoStates.RoundTrips overridden := by
  have htext : twoStates.text overridden = overriddenText ++ ['\n'] := rfl
  have hother : overriddenText ++ ['\n'] ≠ incidentText ++ ['\n'] := by decide
  rw [RoundTrips, htext, twoStates]
  dsimp only
  rw [if_neg hother, if_pos rfl]

/-- The promise is kept where the process dies at the replacement. -/
theorem save_recovers_at_replace :
    twoStates.Recovers cutAtReplace ⟨some (twoStates.text incident), fun _ => none⟩
      incident overridden := by
  have habsent : StateDict.Reachable ⟨false, none⟩ :=
    .loaded (rfl : ControlStateStore.loadDict .absent = .ok ⟨false, none⟩)
  have hincident : incident.Reachable := habsent.setPreviousHot true
  have hoverridden : overridden.Reachable := habsent.request ⟨50, by decide⟩ (.ofInt 400)
  exact save_recovers (.inr ⟨rfl, roundTrips_incident, hincident⟩) hoverridden
    roundTrips_overridden rfl

end Codec

end TrueFan
