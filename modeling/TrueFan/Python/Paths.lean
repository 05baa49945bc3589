/-
# Paths and patterns

What the program asks of Python about paths: `os.path.abspath` and
`os.path.realpath`, and the names a `glob` pattern selects, in the order of the
joined texts.

`realpath` is not the system's own resolution. It goes on where nothing lies, and it
leaves a link as it stands that it meets again before its target is known. Each link
is expanded once, so as many expansions as there are links are enough.
-/

import Mathlib.Data.Char
import Mathlib.Data.List.Dedup
import Mathlib.Data.List.Lex
import Mathlib.Data.List.Sort
import TrueFan.Foundations.FileTree
import TrueFan.Python.Text

namespace TrueFan.Python

open Foundations

/-- The text of a path. -/
def joinPath : Path → List Char
  | [] => ['/']
  | path => path.flatMap fun name => '/' :: name

/-- `os.path.abspath` of an absolute path. -/
def abspath (path : Path) : Path :=
  path.foldl (fun done name =>
    if name = [] ∨ name = ['.'] then done
    else if name = ['.', '.'] then done.dropLast
    else done ++ [name]) []

/-- `Path(path)`: components that stay where they are are dropped from the text. -/
def purePath (path : Path) : Path := path.filter fun name => name ≠ [] ∧ name ≠ ['.']

/-- What is left to resolve: components, and the ends of the targets of links. -/
inductive Pending
  | part (name : Name)
  | resolved (link : Path)

/-- The links met so far, with what they lead to once that is known. -/
abbrev Seen := List (Path × Option Path)

/-- Resolve from `path` on. A link not met before goes to `expand`. -/
def resolveParts (layout : Layout) (expand : Seen → Path → List Pending → Path) (seen : Seen)
    (path : Path) : List Pending → Path
  | [] => path
  | .resolved link :: rest => resolveParts layout expand ((link, some path) :: seen) path rest
  | .part name :: rest =>
      if name = [] ∨ name = ['.'] then resolveParts layout expand seen path rest
      else if name = ['.', '.'] then resolveParts layout expand seen path.dropLast rest
      else
        match layout.entry (path ++ [name]) with
        | some (.link absolute target) =>
            match seen.lookup (path ++ [name]) with
            | some (some known) => resolveParts layout expand seen known rest
            | some none => resolveParts layout expand seen (path ++ [name]) rest
            | none =>
                expand ((path ++ [name], none) :: seen) (if absolute then [] else path)
                  (target.map .part ++ .resolved (path ++ [name]) :: rest)
        | _ => resolveParts layout expand seen (path ++ [name]) rest

/-- Resolve with so many expansions of links left, counting the present one. -/
def expandLinks (layout : Layout) : ℕ → Seen → Path → List Pending → Path
  | 0, _, path, _ => path
  | links + 1, seen, path, rest => resolveParts layout (expandLinks layout links) seen path rest

/-- `os.path.realpath` of an absolute path. The expansions suffice: more of them change nothing,
as `expandLinks_eq_realpath` says. -/
def realpath (layout : Layout) (path : Path) : Path :=
  expandLinks layout (layout.links.length + 1) [] [] (path.map .part)

/-- The links not met so far. -/
def unseen (layout : Layout) (seen : Seen) : ℕ :=
  layout.links.countP fun link => (seen.lookup link).isNone

theorem unseen_nil (layout : Layout) : unseen layout [] = layout.links.length := by
  rw [unseen, List.countP_eq_length]
  intro link _
  rfl

/-- A link that was looked up before is looked up after. -/
theorem lookup_isNone_of_cons {seen : Seen} {link other : Path} {known : Option Path}
    (h : (List.lookup other ((link, known) :: seen)).isNone = true) :
    (seen.lookup other).isNone = true := by
  rw [List.lookup_cons] at h
  split at h
  · cases h
  · exact h

theorem unseen_cons_le (layout : Layout) (seen : Seen) (link : Path) (known : Option Path) :
    unseen layout ((link, known) :: seen) ≤ unseen layout seen :=
  List.countP_mono_left fun _ _ h => lookup_isNone_of_cons h

/-- Meeting a link of the layout for the first time leaves fewer. -/
theorem unseen_cons_lt {layout : Layout} {seen : Seen} {link : Path} (known : Option Path)
    (hlink : link ∈ layout.links) (hnew : seen.lookup link = none) :
    unseen layout ((link, known) :: seen) < unseen layout seen := by
  obtain ⟨before, after, hsplit⟩ := List.append_of_mem hlink
  have hle (links : List Path) :
      links.countP (fun other => (List.lookup other ((link, known) :: seen)).isNone) ≤
        links.countP (fun other => (seen.lookup other).isNone) :=
    List.countP_mono_left fun _ _ h => lookup_isNone_of_cons h
  have hbefore := hle before
  have hafter := hle after
  rw [unseen, unseen, hsplit, List.countP_append, List.countP_append,
    List.countP_cons_of_neg (by simp), List.countP_cons_of_pos (by rw [hnew]; rfl)]
  omega

/-- Two expansions that agree wherever fewer links are left resolve alike. -/
theorem resolveParts_congr {layout : Layout} {first second : Seen → Path → List Pending → Path}
    (rest : List Pending) (seen : Seen) (path : Path)
    (h : ∀ seen' path' rest', unseen layout seen' < unseen layout seen →
      first seen' path' rest' = second seen' path' rest') :
    resolveParts layout first seen path rest = resolveParts layout second seen path rest := by
  induction rest generalizing seen path with
  | nil => rfl
  | cons pending rest ih =>
      cases pending with
      | resolved link =>
          apply ih
          intro seen' path' rest' hlt
          exact h seen' path' rest' (hlt.trans_le (unseen_cons_le layout seen link _))
      | part name =>
          rw [resolveParts, resolveParts]
          split
          · exact ih _ _ h
          split
          · exact ih _ _ h
          split
          next absolute target hentry =>
            split
            next => exact ih _ _ h
            next => exact ih _ _ h
            next hnew => exact h _ _ _ (unseen_cons_lt none (layout.mem_links hentry) hnew)
          next => exact ih _ _ h

/-- One expansion more than there are links not met so far changes nothing. -/
theorem expandLinks_succ {layout : Layout} {links : ℕ} {seen : Seen}
    (h : unseen layout seen < links) (path : Path) (rest : List Pending) :
    expandLinks layout (links + 1) seen path rest = expandLinks layout links seen path rest := by
  induction links generalizing seen path rest with
  | zero => exact absurd h (Nat.not_lt_zero _)
  | succ links ih =>
      apply resolveParts_congr
      intro seen' path' rest' hlt
      exact ih (hlt.trans_le (Nat.le_of_lt_succ h)) path' rest'

/-- `realpath` never runs out of expansions. -/
theorem expandLinks_eq_realpath (layout : Layout) (path : Path) (extra : ℕ) :
    expandLinks layout (layout.links.length + 1 + extra) [] [] (path.map .part) =
      realpath layout path := by
  induction extra with
  | zero => rfl
  | succ extra ih =>
      have hlinks : unseen layout [] < layout.links.length + 1 + extra := by
        rw [unseen_nil]
        omega
      exact (expandLinks_succ hlinks _ _).trans ih

/-- The name is `front`, anything, and `back`: the pattern `front*back`. -/
def matchesAround (front back : List Char) (name : Name) : Bool :=
  front.isPrefixOf name && back.isSuffixOf (name.drop front.length)

/-- The name is `front`, a digit, and anything: the pattern `front[0-9]*`. -/
def matchesNumbered (front : List Char) (name : Name) : Bool :=
  front.isPrefixOf name && (name.drop front.length).head?.any isAsciiDigit

/-- A name without the characters that are special in a pattern. -/
def Literal (name : Name) : Prop := ∀ c ∈ name, c ∉ ['*', '?', '[']

instance (name : Name) : Decidable (Literal name) := List.decidableBAll _ name

/-- A path that stands for itself where a pattern begins with it. -/
abbrev LiteralPath := {path : Path // ∀ name ∈ path, Literal name}

/-- The paths in the directory a path leads to whose names the pattern selects. -/
def globIn (layout : Layout) (directory : Path) (selects : Name → Bool) : List Path :=
  ((layout.listing directory).filter selects).map fun name => directory ++ [name]

/-- `sorted` of paths: by their texts. -/
def sortedPaths (paths : List Path) : List Path :=
  paths.insertionSort fun first second => joinPath first ≤ joinPath second

/-- The order in which `iter` yields the members of a set, which Python leaves
open. -/
structure IterationOrder where
  members : List Path → List Path
  perm : ∀ paths, (members paths).Perm paths.dedup

theorem IterationOrder.mem_members_iff (order : IterationOrder) {paths : List Path} {path : Path} :
    path ∈ order.members paths ↔ path ∈ paths := by
  rw [(order.perm paths).mem_iff, List.mem_dedup]

end TrueFan.Python
