/-
# Where PWM writes go

A write goes to a target whose resolved path has been checked, and to its enable file,
which has not. The target is opened with its components that go up, too: one of these
behind a link leads the system elsewhere than the check, which drops it from the text.
-/

import TrueFan.Hwmon.Discovery

namespace TrueFan

open Python Foundations

section

variable {layout : Layout} {tree : FileTree} {order : IterationOrder} {paths : List Path}
  {target file : Path}

/-- The file lies below what the hwmon root leads to, and is named as a channel or as the
enable file of one. -/
def Contained (layout : Layout) (file : Path) : Prop :=
  ∃ root, layout.resolve hwmonRoot = some root ∧ root <+: file ∧ root.length < file.length ∧
    ∃ name, file.getLast? = some name ∧ (isPwmName name = true ∨
      ∃ pwm, isPwmName pwm = true ∧ name = pwm ++ "_enable".toList)

/-- The files a call of `write_pwm_value` writes, the latest first, whether it returns or
raises. -/
def writes (order : IterationOrder) (rawPwm : ℤ) (paths : List Path) (tree : FileTree) :
    List Path :=
  (resultState (writePwmValue order rawPwm paths { tree with written := [] })).written

theorem writeText_of_opens {path : Path} {text : List Char}
    (h : tree.opens path = some file) :
    writeText path text tree = .ok () {
      tree with
      layout := tree.layout.create file
      content := Function.update tree.content file (.text text)
      written := file :: tree.written } := by
  rw [writeText, FileTree.write, h]
  rfl

theorem writeText_of_not_opens {path : Path} {text : List Char}
    (h : tree.opens path = none) : writeText path text tree = .error .osError tree := by
  rw [writeText, FileTree.write, h]
  rfl

/-- A text that is written last leaves its file in the record. -/
theorem written_writeText (path : Path) (text : List Char) (tree : FileTree) :
    (resultState (writeText path text tree)).written =
      (tree.opens path).toList ++ tree.written := by
  cases hopens : tree.opens path with
  | none =>
      rw [writeText_of_not_opens hopens]
      rfl
  | some file =>
      rw [writeText_of_opens hopens]
      rfl

theorem layout_opens {path : Path} (h : tree.opens path = some file) :
    tree.layout.opens path = some file :=
  (Option.filter_eq_some_iff.mp h).1

/-- A file that exists is not created. -/
theorem create_of_isFile {path : Path} (hfile : layout.isFile path = true)
    (h : layout.opens path = some file) : layout.create file = layout := by
  obtain ⟨lies, readable, writable, hresolve, hentry⟩ := Layout.isFile_eq_true_iff.mp hfile
  rw [Layout.opens, Layout.place_of_resolve hresolve] at h
  dsimp only at h
  rw [hentry] at h
  cases writable with
  | false => cases h
  | true =>
      cases h
      exact Layout.create_of_entry hentry

/-- The files of one channel that are written: what its enable file leads to, if there is
one, and then what the target leads to. -/
def channelWrites (tree : FileTree) (target : Path) : List Path :=
  if tree.layout.isFile (enablePath target) then
    match tree.opens (enablePath target) with
    | none => []
    | some file => (tree.opens (purePath target)).toList ++ [file]
  else (tree.opens (purePath target)).toList

theorem written_writeChannel (target : Path) (text : List Char) (tree : FileTree) :
    (resultState ((do
      writeEnable target
      writeText (purePath target) text
      return some target : EStateM Failure FileTree (Option Path)) tree)).written =
        channelWrites tree target ++ tree.written := by
  have hstep : writeEnable target tree =
      if tree.layout.isFile (enablePath target) then writeText (enablePath target) ['1'] tree
      else .ok () tree := by
    rw [writeEnable, get_bind_apply]
    split
    · rfl
    · rfl
  rw [channelWrites]
  by_cases henable : tree.layout.isFile (enablePath target) = true
  · rw [if_pos henable] at hstep ⊢
    cases hopens : tree.opens (enablePath target) with
    | none =>
        rw [bind_of_error (hstep.trans (writeText_of_not_opens hopens))]
        rfl
    | some file =>
        rw [bind_of_ok (hstep.trans (writeText_of_opens hopens)), resultState_bind_pure,
          written_writeText, FileTree.opens]
        dsimp only
        rw [create_of_isFile henable (layout_opens hopens), List.append_assoc,
          List.singleton_append]
        rfl
  · rw [if_neg henable] at hstep ⊢
    rw [bind_of_ok hstep, resultState_bind_pure, written_writeText]

/-- The files a call writes are those of its target, if that is safe. -/
theorem mem_writes_iff {rawPwm : ℤ} :
    file ∈ writes order rawPwm paths tree ↔ ∃ target,
      pwmTarget order tree.layout paths = some target ∧
        safePwmPath tree.layout target = true ∧ file ∈ channelWrites tree target := by
  rw [writes, writePwmValue, get_bind_apply]
  dsimp only
  cases htarget : pwmTarget order tree.layout paths with
  | none =>
      apply iff_of_false List.not_mem_nil
      rintro ⟨_, h, -⟩
      cases h
  | some target =>
      dsimp only
      split
      next hsafe =>
        rw [written_writeChannel, List.append_nil]
        constructor
        · exact fun hfile => ⟨target, rfl, hsafe, hfile⟩
        · rintro ⟨_, ⟨⟩, -, hfile⟩
          exact hfile
      next hunsafe =>
        apply iff_of_false List.not_mem_nil
        rintro ⟨_, ⟨⟩, hsafe, -⟩
        exact hunsafe hsafe

theorem forall_mem_channelWrites_iff {property : Path → Prop} :
    (∀ file ∈ channelWrites tree target, property file) ↔
      (tree.layout.isFile (enablePath target) = true →
        ∀ file ∈ tree.opens (enablePath target), property file) ∧
      ((tree.layout.isFile (enablePath target) = true → tree.opens (enablePath target) ≠ none) →
        ∀ file ∈ tree.opens (purePath target), property file) := by
  rw [channelWrites]
  split
  next henable =>
    rw [imp_iff_right henable, imp_iff_right henable]
    cases tree.opens (enablePath target) with
    | none => simp
    | some file => simp [or_imp, forall_and, and_comm]
  next hnone => simp [hnone]

/-- A call that has a target has resolved the root. -/
theorem resolve_root_of_pwmTarget (h : pwmTarget order layout paths = some target) :
    ∃ root, layout.resolve hwmonRoot = some root := by
  obtain ⟨pwm, hpwm⟩ : ∃ pwm, pwm ∈ discoverPwmFiles layout := by
    rcases targets_of_pwmTarget h with ⟨-, hfound⟩ | hfound
    · exact ⟨_, hfound⟩
    · exact ⟨_, hfound⟩
  obtain ⟨device, -, -, hlisted, -⟩ := mem_discoverPwmFiles_iff.mp hpwm
  apply Option.ne_none_iff_exists'.mp
  intro hnone
  rw [Layout.listing, hnone] at hlisted
  cases hlisted

/-- A target that is not one of the paths was discovered, and nothing in it goes up. -/
theorem up_not_mem_of_pwmTarget (h : pwmTarget order layout paths = some target)
    (hpaths : target ∉ paths) : ['.', '.'] ∉ target := by
  rcases targets_of_pwmTarget h with ⟨hmem, -⟩ | hfound
  · exact absurd hmem hpaths
  · obtain ⟨device, pwm, -, -, -, -, -, -, rfl⟩ := mem_discoverPwmFiles_iff.mp hfound
    exact fun hup => (plain_realpath _ _ _ hup).2.2 rfl

theorem place_of_opens {path : Path} (h : layout.opens path = some file) :
    layout.place path = some file := by
  rw [Layout.opens] at h
  split at h
  next => cases h
  next hplace =>
    rw [hplace]
    split at h
    · exact h
    · exact h
    · cases h

/-- Without a component that goes up, what was checked is what is opened. -/
theorem contained_of_safe (hup : ['.', '.'] ∉ target) (hsafe : safePwmPath layout target = true)
    {root : Path} (hroot : layout.resolve hwmonRoot = some root)
    (h : layout.opens (purePath target) = some file) : Contained layout file := by
  have hplain : Plain hwmonRoot := by decide
  have hnormalized : normalized layout target = file :=
    realpath_abspath_of_place hup (place_of_opens h)
  rw [safePwmPath_iff, normalized_of_resolve hplain hroot, hnormalized] at hsafe
  obtain ⟨⟨-, hbelow, hlength, hname⟩, -⟩ := hsafe
  cases hlast : file.getLast? with
  | none =>
      rw [hlast] at hname
      cases hname
  | some name =>
      rw [hlast] at hname
      exact ⟨root, hroot, hbelow, hlength, name, hlast, .inl hname⟩

/-! ## Containment -/

/-- The enable file of the selected channel leads to a place below the root, and so does
the channel itself if a path with a component that goes up was passed in for it. -/
def StaysInside (order : IterationOrder) (tree : FileTree) (paths : List Path) : Prop :=
  ∀ target, pwmTarget order tree.layout paths = some target →
    safePwmPath tree.layout target = true →
    (tree.layout.isFile (enablePath target) = true →
      ∀ file ∈ tree.opens (enablePath target), Contained tree.layout file) ∧
    (target ∈ paths → ['.', '.'] ∈ target →
      (tree.layout.isFile (enablePath target) = true → tree.opens (enablePath target) ≠ none) →
      ∀ file ∈ tree.opens (purePath target), Contained tree.layout file)

/-- A call that found no target changed nothing; where nothing is discovered it finds none. -/
theorem writePwmValue_of_no_target {rawPwm : ℤ} :
    (∀ after, writePwmValue order rawPwm paths tree = .ok none after → after = tree) ∧
      (discoverPwmFiles tree.layout = [] →
        writePwmValue order rawPwm paths tree = .ok none tree) := by
  constructor
  · intro after h
    rcases writePwmValue_eq_ok h with ⟨-, hsame⟩ | ⟨target, between, hnone, -⟩
    · exact hsame
    · cases hnone
  · intro hnone
    have htarget : pwmTarget order tree.layout paths = none := by
      by_contra hsome
      obtain ⟨target, htarget⟩ := Option.ne_none_iff_exists'.mp hsome
      rcases targets_of_pwmTarget htarget with ⟨-, hfound⟩ | hfound
      · rw [hnone] at hfound
        cases hfound
      · rw [hnone] at hfound
        cases hfound
    rw [writePwmValue, get_bind_apply, htarget]
    rfl

/-- Every file a call writes lies below the root under an allowed name, and a call without
a target changes nothing, exactly if the enable file of the selected channel leads to such
a place, and the channel too if it was passed in with a component that goes up. -/
theorem contained_iff_staysInside {rawPwm : ℤ} :
    ((∀ file ∈ writes order rawPwm paths tree, Contained tree.layout file) ∧
      (∀ after, writePwmValue order rawPwm paths tree = .ok none after → after = tree) ∧
      (discoverPwmFiles tree.layout = [] →
        writePwmValue order rawPwm paths tree = .ok none tree)) ↔
      StaysInside order tree paths := by
  rw [and_iff_left writePwmValue_of_no_target]
  constructor
  · intro hall target htarget hsafe
    have hwrites := forall_mem_channelWrites_iff.mp fun file hfile =>
      hall file (mem_writes_iff.mpr ⟨target, htarget, hsafe, hfile⟩)
    exact ⟨hwrites.1, fun _ _ => hwrites.2⟩
  · intro hinside file hfile
    obtain ⟨target, htarget, hsafe, hfile⟩ := mem_writes_iff.mp hfile
    obtain ⟨root, hroot⟩ := resolve_root_of_pwmTarget htarget
    obtain ⟨henable, htop⟩ := hinside target htarget hsafe
    refine forall_mem_channelWrites_iff.mpr ⟨henable, ?_⟩ file hfile
    intro hopens
    by_cases hup : ['.', '.'] ∈ target
    · by_cases hpaths : target ∈ paths
      · exact htop hpaths hup hopens
      · exact absurd hup (up_not_mem_of_pwmTarget htarget hpaths)
    · exact fun file hfile => contained_of_safe hup hsafe hroot (layout_opens hfile)

end

/-- A channel whose enable file is a link to a file outside, and a device that is a link
to a directory outside, next to which there is a device of the same name. -/
def leakyEntries : List (Path × Entry) :=
  [([], .directory ["sys".toList, "tmp".toList]),
    (["sys".toList], .directory ["class".toList]),
    (["sys".toList, "class".toList], .directory ["hwmon".toList]),
    (hwmonRoot, .directory ["hwmon0".toList, "hwmon1".toList]),
    (hwmonRoot ++ ["hwmon0".toList], .directory ["pwm1".toList, "pwm1_enable".toList]),
    (hwmonRoot ++ ["hwmon0".toList, "pwm1".toList], .file true true),
    (hwmonRoot ++ ["hwmon0".toList, "pwm1_enable".toList],
      .link true ["tmp".toList, "outside".toList]),
    (hwmonRoot ++ ["hwmon1".toList], .link true ["tmp".toList, "board".toList]),
    (["tmp".toList], .directory ["outside".toList, "board".toList, "hwmon0".toList]),
    (["tmp".toList, "outside".toList], .file true true),
    (["tmp".toList, "board".toList], .directory []),
    (["tmp".toList, "hwmon0".toList], .directory [])]

def leakyTree : FileTree where
  layout := .ofList leakyEntries (by decide +kernel)
  content _ := .text ['2']

/-- The enable file of a discovered channel is written through its link. -/
theorem not_contained_through_enable :
    ¬ ∀ (order : IterationOrder) (rawPwm : ℤ) (paths : List Path) (tree : FileTree),
      ∀ file ∈ writes order rawPwm paths tree, Contained tree.layout file := by
  intro hall
  have hroot : leakyTree.layout.resolve hwmonRoot = some hwmonRoot := by decide +kernel
  obtain ⟨root, hresolve, hbelow, -⟩ := hall ⟨List.dedup, fun _ => .rfl⟩ 255 []
    leakyTree ["tmp".toList, "outside".toList] (by decide +kernel)
  cases hroot.symm.trans hresolve
  exact absurd hbelow (by decide)

-- the text of the path names the channel, the system creates a file next to the link's target;
-- a separator at the end makes no difference
example :
    writes ⟨List.dedup, fun _ => .rfl⟩ 255
      [hwmonRoot ++ ["hwmon1".toList, "..".toList, "hwmon0".toList, "pwm1".toList, []]]
      leakyTree = [["tmp".toList, "hwmon0".toList, "pwm1".toList]] := by
  decide +kernel

end TrueFan
