/-
# PWM files

How the hwmon adapter finds, reads and writes PWM channels below the hwmon root. A
channel is a regular file whose resolved path lies under the resolved root and whose
name is `pwm` and digits; beside it there may be an enable file.
-/

import TrueFan.Backend
import TrueFan.Python.RealPath

namespace TrueFan

open Python Foundations

/-- `HWMON_ROOT`. -/
def hwmonRoot : Path := ["sys".toList, "class".toList, "hwmon".toList]

/-- Patterns begin with it. -/
abbrev literalRoot : LiteralPath := ⟨hwmonRoot, by decide⟩

/-- `PWM_NAME`. -/
def isPwmName (name : Name) : Bool :=
  "pwm".toList.isPrefixOf name && !(name.drop 3).isEmpty && (name.drop 3).all isAsciiDigit

/-- `_normalized`. -/
def normalized (layout : Layout) (path : Path) : Path := realpath layout (abspath path)

/-- `_safe_pwm_path`. Nothing starts with the text of the top directory and one more
separator. -/
def safePwmPath (layout : Layout) (path : Path) (root : Path := hwmonRoot) : Bool :=
  let normalizedRoot := normalized layout root
  let normalizedPath := normalized layout path
  !normalizedRoot.isEmpty && normalizedRoot.isPrefixOf normalizedPath &&
    decide (normalizedRoot.length < normalizedPath.length) &&
    normalizedPath.getLast?.any isPwmName && layout.isFile normalizedPath

/-- `discover_pwm_files`. -/
def discoverPwmFiles (layout : Layout) (root : LiteralPath := literalRoot) : List Path :=
  let directories := (globIn layout root.1 (matchesAround "hwmon".toList [])).filter
    fun directory => layout.isDirectory directory
  let found := directories.flatMap fun directory =>
    globIn layout directory (matchesNumbered "pwm".toList)
  ((sortedPaths found).filter fun path => safePwmPath layout path root.1).map (normalized layout)

/-- Discovered channels are plain paths. -/
theorem plain_of_mem_discoverPwmFiles {layout : Layout} {root : LiteralPath} {path : Path}
    (h : path ∈ discoverPwmFiles layout root) : Plain path := by
  obtain ⟨_, _, rfl⟩ := List.mem_map.mp h
  exact plain_realpath _ _

/-- `int(path.read_text().strip())`, where it does not raise. -/
def readInt (tree : FileTree) (path : Path) : Option ℤ :=
  match tree.read path with
  | .ok text => parseInt (strip text)
  | .error _ => none

/-- `read_current_pwm`. -/
def readCurrentPwm (paths : List Path) (tree : FileTree) : Option ℤ :=
  paths.findSome? fun path => readInt tree (purePath path)

/-- The path with more text behind its name. -/
def appendText (path : Path) (text : List Char) : Path :=
  path.dropLast ++ [path.getLastD [] ++ text]

/-- `Path(f"{path}_enable")`. -/
def enablePath (path : Path) : Path := purePath (appendText path "_enable".toList)

/-- `path.write_text(text)`. -/
def writeText (path : Path) (text : List Char) : EStateM Failure FileTree Unit := fun tree =>
  match tree.write path text with
  | some after => .ok () after
  | none => .error .osError tree

/-- `str(number)`. -/
def printInt (number : ℤ) : List Char := (toString number).toList

/-- The channel `write_pwm_value` writes: the first of the paths that leads to a
discovered channel, or else any discovered channel. -/
def pwmTarget (order : IterationOrder) (layout : Layout) (paths : List Path) : Option Path :=
  let current := order.members (discoverPwmFiles layout)
  (paths.find? fun path => current.contains (normalized layout path)).or current.head?

/-- Put a channel under manual control, where it has an enable file. -/
def writeEnable (target : Path) : EStateM Failure FileTree Unit := do
  if (← get).layout.isFile (enablePath target) then
    writeText (enablePath target) ['1']

/-- `write_pwm_value`. -/
def writePwmValue (order : IterationOrder) (rawPwm : ℤ) (paths : List Path) :
    EStateM Failure FileTree (Option Path) := do
  let layout := (← get).layout
  match pwmTarget order layout paths with
  | none => return none
  | some target =>
      if safePwmPath layout target then
        writeEnable target
        writeText (purePath target) (printInt rawPwm)
        return some target
      else return none

/-- The files of a device directory, with what they hold. -/
abbrev Device := Name × List (Name × List Char)

def deviceEntries (devices : List Device) : List (Path × Entry) :=
  ([], .directory ["sys".toList]) ::
    (["sys".toList], .directory ["class".toList]) ::
    (["sys".toList, "class".toList], .directory ["hwmon".toList]) ::
    (hwmonRoot, .directory (devices.map Prod.fst)) ::
    devices.flatMap fun (device, files) =>
      (hwmonRoot ++ [device], .directory (files.map Prod.fst)) ::
        files.map fun (name, _) => (hwmonRoot ++ [device, name], .file true true)

/-- A tree of device directories below the hwmon root and nothing else. -/
def deviceTree (devices : List Device) (closed : Layout.Closed (deviceEntries devices)) :
    FileTree where
  layout := .ofList (deviceEntries devices) closed
  content path :=
    ((devices.flatMap fun (device, files) => files.map fun (name, text) =>
      (hwmonRoot ++ [device, name], Content.text text)).lookup path).getD (.text [])

section Write

variable {tree after : FileTree}

theorem writeText_eq_ok {path : Path} {text : List Char} {result : Unit}
    (h : writeText path text tree = .ok result after) : tree.write path text = some after := by
  rw [writeText] at h
  split at h
  next after' hwrite =>
    cases h
    exact hwrite
  next => cases h

/-- The tree in which `1` has been written to the enable file, if there is one. -/
def Enabled (target : Path) (tree between : FileTree) : Prop :=
  if tree.layout.isFile (enablePath target) then
    tree.write (enablePath target) ['1'] = some between
  else between = tree

theorem enabled_of_writeEnable {target : Path} {result : Unit}
    (h : writeEnable target tree = .ok result after) : Enabled target tree after := by
  rw [writeEnable, get_bind_apply] at h
  rw [Enabled]
  split at h
  next hfile =>
    rw [if_pos hfile]
    exact writeText_eq_ok h
  next hnone =>
    cases h
    rw [if_neg hnone]

/-- A write to the target goes to a channel: one of the paths that leads to a discovered
channel, or else a discovered channel. -/
def Targets (layout : Layout) (paths : List Path) (target : Path) : Prop :=
  (target ∈ paths ∧ normalized layout target ∈ discoverPwmFiles layout) ∨
    target ∈ discoverPwmFiles layout

theorem targets_of_pwmTarget {order : IterationOrder} {layout : Layout} {paths : List Path}
    {target : Path} (h : pwmTarget order layout paths = some target) :
    Targets layout paths target := by
  rcases Option.or_eq_some_iff.mp h with hknown | ⟨-, hhead⟩
  · have hcontains := List.find?_some hknown
    exact .inl ⟨List.mem_of_find?_eq_some hknown,
      order.mem_members_iff.mp (List.contains_iff_mem.mp hcontains)⟩
  · exact .inr (order.mem_members_iff.mp (List.mem_of_mem_head? hhead))

/-- A write that returned changed nothing, or it enabled one safe channel and stored
the value there. -/
theorem writePwmValue_eq_ok {order : IterationOrder} {rawPwm : ℤ} {paths : List Path}
    {result : Option Path} (h : writePwmValue order rawPwm paths tree = .ok result after) :
    (result = none ∧ after = tree) ∨
      ∃ target between, result = some target ∧ Targets tree.layout paths target ∧
        safePwmPath tree.layout target = true ∧ Enabled target tree between ∧
        between.write (purePath target) (printInt rawPwm) = some after := by
  rw [writePwmValue, get_bind_apply] at h
  cases htarget : pwmTarget order tree.layout paths with
  | none =>
      rw [htarget] at h
      cases h
      exact .inl ⟨rfl, rfl⟩
  | some target =>
      rw [htarget] at h
      dsimp only at h
      split at h
      next hsafe =>
        right
        obtain ⟨_, between, henable, h⟩ := bind_eq_ok h
        obtain ⟨_, after', hwrite, h⟩ := bind_eq_ok h
        cases h
        exact ⟨target, between, rfl, targets_of_pwmTarget htarget, hsafe,
          enabled_of_writeEnable henable, writeText_eq_ok hwrite⟩
      next =>
        cases h
        exact .inl ⟨rfl, rfl⟩

end Write

end TrueFan
