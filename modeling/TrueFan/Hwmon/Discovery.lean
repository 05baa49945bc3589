/-
# Which PWM channels are discovered

A channel is a regular file that some `hwmon*/pwm<digits>` below the hwmon root leads to.
Discovery resolves every candidate and drops what does not lie below the root itself, so
it finds all channels exactly if they all lie there: in a directory of the root, or behind
a link that stays below it.
-/

import TrueFan.Hwmon.Pwm

namespace TrueFan

open Python Foundations

theorem proper_of_isPrefixOf {front : List Char} {c : Char} {name : Name} (hdot : c ≠ '.')
    (h : (c :: front).isPrefixOf name = true) : Proper name := by
  obtain ⟨back, rfl⟩ := List.isPrefixOf_iff_prefix.mp h
  refine ⟨nofun, ?_, ?_⟩
  · exact fun heq => hdot (List.cons.inj heq).1
  · exact fun heq => hdot (List.cons.inj heq).1

theorem proper_of_matchesAround {name : Name}
    (h : matchesAround "hwmon".toList [] name = true) : Proper name :=
  proper_of_isPrefixOf (c := 'h') (by decide) (Bool.and_eq_true_iff.mp h).1

theorem proper_of_matchesNumbered {name : Name}
    (h : matchesNumbered "pwm".toList name = true) : Proper name :=
  proper_of_isPrefixOf (c := 'p') (by decide) (Bool.and_eq_true_iff.mp h).1

/-- The name of a channel is a candidate. -/
theorem matchesNumbered_of_isPwmName {name : Name} (h : isPwmName name = true) :
    matchesNumbered "pwm".toList name = true := by
  rw [isPwmName, Bool.and_eq_true, Bool.and_eq_true] at h
  obtain ⟨⟨hstart, hnonempty⟩, hdigits⟩ := h
  rw [matchesNumbered, hstart, Bool.true_and]
  have hlength : "pwm".toList.length = 3 := rfl
  rw [hlength]
  cases hdrop : name.drop 3 with
  | nil =>
      rw [hdrop] at hnonempty
      cases hnonempty
  | cons digit digits =>
      rw [hdrop, List.all_cons] at hdigits
      exact (Bool.and_eq_true_iff.mp hdigits).1

theorem normalized_of_resolve {layout : Layout} {path file : Path} (hplain : Plain path)
    (h : layout.resolve path = some file) : normalized layout path = file := by
  rw [normalized, abspath_of_plain hplain]
  exact realpath_of_resolve h

/-! ## Discovery -/

section

variable {layout : Layout} {root file : Path}

/-- The file is a channel: some `hwmon*/pwm<digits>` below the root leads to it. -/
def Genuine (layout : Layout) (root file : Path) : Prop :=
  ∃ device pwm, matchesAround "hwmon".toList [] device = true ∧ isPwmName pwm = true ∧
    layout.resolve (root ++ [device, pwm]) = some file ∧
    layout.isFile (root ++ [device, pwm]) = true

/-- The path lies below the root, under the name of a channel. -/
def Below (root file : Path) : Prop :=
  root ≠ [] ∧ root <+: file ∧ root.length < file.length ∧ file.getLast?.any isPwmName = true

/-- A candidate of discovery that is no channel by itself: a companion of one, or a name
behind more links than the system follows. -/
def Stray (layout : Layout) (root : Path) (device pwm : Name) : Prop :=
  matchesAround "hwmon".toList [] device = true ∧ device ∈ layout.listing root ∧
    layout.isDirectory (root ++ [device]) = true ∧ pwm ∈ layout.listing (root ++ [device]) ∧
    matchesNumbered "pwm".toList pwm = true ∧
    (isPwmName pwm = false ∨ layout.resolve (root ++ [device, pwm]) = none)

theorem safePwmPath_iff {path : Path} :
    safePwmPath layout path root = true ↔
      Below (normalized layout root) (normalized layout path) ∧
        layout.isFile (normalized layout path) = true := by
  rw [safePwmPath, Below]
  simp only [Bool.and_eq_true, Bool.not_eq_true', List.isEmpty_eq_false_iff,
    List.isPrefixOf_iff_prefix, decide_eq_true_eq, and_assoc]

theorem mem_discoverPwmFiles_iff {root : LiteralPath} :
    file ∈ discoverPwmFiles layout root ↔ ∃ device pwm,
      matchesAround "hwmon".toList [] device = true ∧ device ∈ layout.listing root.1 ∧
      layout.isDirectory (root.1 ++ [device]) = true ∧ pwm ∈ layout.listing (root.1 ++ [device]) ∧
      matchesNumbered "pwm".toList pwm = true ∧
      safePwmPath layout (root.1 ++ [device, pwm]) root.1 = true ∧
      normalized layout (root.1 ++ [device, pwm]) = file := by
  rw [discoverPwmFiles]
  simp only [sortedPaths, globIn, List.mem_map, List.mem_filter, List.mem_insertionSort,
    List.mem_flatMap]
  constructor
  · rintro ⟨path, ⟨⟨_, ⟨⟨device, ⟨hlisted, hdevice⟩, rfl⟩, hdirectory⟩, pwm, ⟨hpwm, hnumbered⟩,
      rfl⟩, hsafe⟩, rfl⟩
    rw [List.append_assoc] at hsafe
    refine ⟨device, pwm, hdevice, hlisted, hdirectory, hpwm, hnumbered, hsafe, ?_⟩
    rw [List.append_assoc]
    rfl
  · rintro ⟨device, pwm, hdevice, hlisted, hdirectory, hpwm, hnumbered, hsafe, rfl⟩
    refine ⟨root.1 ++ [device] ++ [pwm], ⟨⟨root.1 ++ [device], ⟨⟨device, ⟨hlisted, hdevice⟩, rfl⟩,
      hdirectory⟩, pwm, ⟨hpwm, hnumbered⟩, rfl⟩, ?_⟩, ?_⟩
    · rw [List.append_assoc]
      exact hsafe
    · rw [List.append_assoc]
      rfl

/-- A path below the root that leads somewhere is listed there. -/
theorem listed_of_resolve {device pwm : Name} (hdevice : Proper device) (hpwm : Proper pwm)
    (h : layout.resolve (root ++ [device, pwm]) = some file) :
    device ∈ layout.listing root ∧ layout.isDirectory (root ++ [device]) = true ∧
      pwm ∈ layout.listing (root ++ [device]) := by
  have hsplit : layout.resolve (root ++ [device] ++ [pwm]) = some file := by
    rwa [List.append_assoc]
  obtain ⟨hdirectory, hlisted⟩ := Layout.mem_listing_of_resolve hpwm hsplit
  obtain ⟨directory, hresolve⟩ : ∃ directory,
      layout.resolve (root ++ [device]) = some directory := by
    apply Option.ne_none_iff_exists'.mp
    intro hnone
    rw [Layout.isDirectory, hnone] at hdirectory
    cases hdirectory
  exact ⟨(Layout.mem_listing_of_resolve hdevice hresolve).2, hdirectory, hlisted⟩

/-- Two paths that lead to one place lead to a regular file together. -/
theorem isFile_of_resolve {path : Path} (h : layout.resolve path = some file) :
    layout.isFile file = layout.isFile path := by
  rw [Layout.isFile, Layout.isFile, Layout.resolve_of_resolve h, h]

theorem normalized_of_real (hroot : layout.resolve root = some root) :
    normalized layout root = root :=
  normalized_of_resolve (Layout.plain_of_resolve hroot) hroot

theorem normalized_candidate (hroot : layout.resolve root = some root) {device pwm : Name}
    (hdevice : Proper device) (hpwm : Proper pwm)
    (h : layout.resolve (root ++ [device, pwm]) = some file) :
    normalized layout (root ++ [device, pwm]) = file := by
  apply normalized_of_resolve _ h
  rw [List.append_cons]
  exact ((Layout.plain_of_resolve hroot).concat hdevice).concat hpwm

/-- A channel below a real root is discovered if it lies below the root itself. -/
theorem mem_discoverPwmFiles_of_genuine {root : LiteralPath}
    (hroot : layout.resolve root.1 = some root.1)
    (hgenuine : Genuine layout root.1 file) (hbelow : Below root.1 file) :
    file ∈ discoverPwmFiles layout root := by
  obtain ⟨device, pwm, hdevice, hpwm, hresolve, hfile⟩ := hgenuine
  have hnumbered := matchesNumbered_of_isPwmName hpwm
  have hproper := proper_of_matchesAround hdevice
  have hproper' := proper_of_matchesNumbered hnumbered
  obtain ⟨hlisted, hdirectory, hlisted'⟩ := listed_of_resolve hproper hproper' hresolve
  have hnormalized := normalized_candidate hroot hproper hproper' hresolve
  refine mem_discoverPwmFiles_iff.mpr ⟨device, pwm, hdevice, hlisted, hdirectory, hlisted',
    hnumbered, ?_, hnormalized⟩
  rw [safePwmPath_iff, normalized_of_real hroot, hnormalized]
  exact ⟨hbelow, (isFile_of_resolve hresolve).trans hfile⟩

/-- Below a real root, discovery returns exactly the channels if these lie below the root
itself, and what a companion leads to there is a channel. -/
theorem discovers_iff_below {root : LiteralPath} (hroot : layout.resolve root.1 = some root.1) :
    (∀ file, file ∈ discoverPwmFiles layout root ↔ Genuine layout root.1 file) ↔
      (∀ file, Genuine layout root.1 file → Below root.1 file) ∧
        ∀ device pwm, Stray layout root.1 device pwm →
          safePwmPath layout (root.1 ++ [device, pwm]) root.1 = true →
          Genuine layout root.1 (normalized layout (root.1 ++ [device, pwm])) := by
  constructor
  · intro hall
    constructor
    · intro file hgenuine
      obtain ⟨device, pwm, -, -, -, -, -, hsafe, rfl⟩ :=
        mem_discoverPwmFiles_iff.mp ((hall file).mpr hgenuine)
      rw [safePwmPath_iff, normalized_of_real hroot] at hsafe
      exact hsafe.1
    · rintro device pwm ⟨hdevice, hlisted, hdirectory, hpwm, hnumbered, -⟩ hsafe
      exact (hall _).mp (mem_discoverPwmFiles_iff.mpr
        ⟨device, pwm, hdevice, hlisted, hdirectory, hpwm, hnumbered, hsafe, rfl⟩)
  · rintro ⟨hbelow, hstray⟩ file
    constructor
    · intro hfound
      obtain ⟨device, pwm, hdevice, hlisted, hdirectory, hpwm, hnumbered, hsafe, rfl⟩ :=
        mem_discoverPwmFiles_iff.mp hfound
      by_cases hname : isPwmName pwm = true
      · cases hresolve : layout.resolve (root.1 ++ [device, pwm]) with
        | none =>
            exact hstray device pwm ⟨hdevice, hlisted, hdirectory, hpwm, hnumbered,
              .inr hresolve⟩ hsafe
        | some file =>
            have hnormalized := normalized_candidate hroot (proper_of_matchesAround hdevice)
              (proper_of_matchesNumbered hnumbered) hresolve
            rw [safePwmPath_iff, hnormalized, isFile_of_resolve hresolve] at hsafe
            rw [hnormalized]
            exact ⟨device, pwm, hdevice, hname, hresolve, hsafe.2⟩
      · exact hstray device pwm ⟨hdevice, hlisted, hdirectory, hpwm, hnumbered,
          .inl (Bool.eq_false_of_not_eq_true hname)⟩ hsafe
    · intro hgenuine
      exact mem_discoverPwmFiles_of_genuine hroot hgenuine (hbelow file hgenuine)

end

/-- One device directory with a channel and its enable file. -/
def directoryTree : FileTree :=
  deviceTree [("hwmon0".toList, [("pwm1".toList, ['9', '9']), ("pwm1_enable".toList, ['1'])])]
    (by decide +kernel)

/-- The device of a system: the entry of the root is a link to it. -/
def sysfsEntries : List (Path × Entry) :=
  [([], .directory ["sys".toList]),
    (["sys".toList], .directory ["class".toList, "devices".toList]),
    (["sys".toList, "class".toList], .directory ["hwmon".toList]),
    (hwmonRoot, .directory ["hwmon0".toList]),
    (hwmonRoot ++ ["hwmon0".toList],
      .link false ["..".toList, "..".toList, "devices".toList, "board".toList]),
    (["sys".toList, "devices".toList], .directory ["board".toList]),
    (["sys".toList, "devices".toList, "board".toList], .directory ["pwm1".toList]),
    (["sys".toList, "devices".toList, "board".toList, "pwm1".toList], .file true true)]

def sysfsLayout : Layout := .ofList sysfsEntries (by decide +kernel)

/-- The channel in a device directory is discovered, its companion is not. -/
theorem discovers_iff_below_directory :
    directoryTree.layout.resolve hwmonRoot = some hwmonRoot ∧
      ((∀ file, file ∈ discoverPwmFiles directoryTree.layout ↔
          Genuine directoryTree.layout hwmonRoot file) ↔
        (∀ file, Genuine directoryTree.layout hwmonRoot file → Below hwmonRoot file) ∧
        ∀ device pwm, Stray directoryTree.layout hwmonRoot device pwm →
          safePwmPath directoryTree.layout (hwmonRoot ++ [device, pwm]) = true →
          Genuine directoryTree.layout hwmonRoot
            (normalized directoryTree.layout (hwmonRoot ++ [device, pwm]))) ∧
      (∀ file, Genuine directoryTree.layout hwmonRoot file → Below hwmonRoot file) ∧
      ∀ device pwm, Stray directoryTree.layout hwmonRoot device pwm →
        safePwmPath directoryTree.layout (hwmonRoot ++ [device, pwm]) = false := by
  have hroot : directoryTree.layout.resolve hwmonRoot = some hwmonRoot := by decide +kernel
  have hlisting : directoryTree.layout.listing hwmonRoot = ["hwmon0".toList] := by
    decide +kernel
  have hfiles : directoryTree.layout.listing (hwmonRoot ++ ["hwmon0".toList]) =
      ["pwm1".toList, "pwm1_enable".toList] := by
    decide +kernel
  refine ⟨hroot, discovers_iff_below hroot, ?_, ?_⟩
  · rintro file ⟨device, pwm, hdevice, hpwm, hresolve, -⟩
    obtain ⟨hlisted, -, hlisted'⟩ := listed_of_resolve (proper_of_matchesAround hdevice)
      (proper_of_matchesNumbered (matchesNumbered_of_isPwmName hpwm)) hresolve
    rw [hlisting, List.mem_singleton] at hlisted
    subst hlisted
    rw [hfiles, List.mem_pair] at hlisted'
    rcases hlisted' with rfl | rfl
    · have hfile : directoryTree.layout.resolve
          (hwmonRoot ++ ["hwmon0".toList, "pwm1".toList]) =
            some (hwmonRoot ++ ["hwmon0".toList, "pwm1".toList]) := by
        decide +kernel
      cases hfile.symm.trans hresolve
      exact ⟨by decide, List.prefix_append _ _, by decide, by decide⟩
    · exact absurd hpwm (by decide)
  · rintro device pwm ⟨-, hlisted, -, hlisted', -, hstray⟩
    rw [hlisting, List.mem_singleton] at hlisted
    subst hlisted
    rw [hfiles, List.mem_pair] at hlisted'
    rcases hlisted' with rfl | rfl
    · exact absurd hstray (by decide +kernel)
    · decide +kernel

/-- The channel of a device behind a link is not discovered. -/
theorem not_discovers_behind_link :
    ¬ ∀ layout : Layout, layout.resolve hwmonRoot = some hwmonRoot →
      (∀ device ∈ layout.listing hwmonRoot, layout.isDirectory (hwmonRoot ++ [device]) = true) →
      ∀ file, file ∈ discoverPwmFiles layout ↔ Genuine layout hwmonRoot file := by
  intro hall
  have hgenuine : Genuine sysfsLayout hwmonRoot
      ["sys".toList, "devices".toList, "board".toList, "pwm1".toList] :=
    ⟨"hwmon0".toList, "pwm1".toList, by decide, by decide, by decide +kernel, by decide +kernel⟩
  have hnone : discoverPwmFiles sysfsLayout = [] := by decide +kernel
  have hfound := (hall sysfsLayout (by decide +kernel) (by decide +kernel) _).mpr hgenuine
  rw [hnone] at hfound
  cases hfound

end TrueFan
