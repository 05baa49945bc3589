/-
# File trees

A tree of directories, regular files and symbolic links, and how a system resolves
paths in it: component by component, through links, with a bound on the links one
resolution follows.

What lies where is kept apart from what the files hold. A program that only writes
files it has found changes contents and never the layout, so whatever is decided by
the layout alone survives its writes by definition.
-/

import Mathlib.Data.List.Basic
import Mathlib.Logic.Function.Basic

namespace TrueFan.Foundations

abbrev Name := List Char

/-- The components of an absolute path. -/
abbrev Path := List Name

/-- What lies at a path. A link that is not absolute starts from its directory. -/
inductive Entry
  | file (readable writable : Bool)
  | directory (names : List Name)
  | link (absolute : Bool) (target : Path)
  deriving DecidableEq

/-- The names an entry lists. -/
def Entry.names : Entry → List Name
  | .directory names => names
  | _ => []

/-- The names listed at a path where an entry may lie. -/
def listedAt (entry : Option Entry) : List Name := (entry.map Entry.names).getD []

/-- Where the entries of a file system lie. Its links are finitely many, and
directories list what lies in them: nothing lies anywhere else. -/
structure Layout where
  entry : Path → Option Entry
  links : List Path
  mem_links : ∀ {path absolute target}, entry path = some (.link absolute target) → path ∈ links
  listed : ∀ path name, entry (path ++ [name]) ≠ none ↔ name ∈ listedAt (entry path)

/-- The most links the system follows while it resolves one path. -/
def maxLinks : ℕ := 40

namespace Layout

/-- Walk down from the directory at `path`. A link goes to `follow`, with the
directory it starts from and the components that are left; the place of a last
component where nothing lies goes to `missing`. -/
def walk (layout : Layout) (missing : Path → Option Path) (follow : Path → Path → Option Path)
    (path : Path) : Path → Option Path
  | [] => some path
  | name :: rest =>
      if name = [] ∨ name = ['.'] then layout.walk missing follow path rest
      else if name = ['.', '.'] then layout.walk missing follow path.dropLast rest
      else
        match layout.entry (path ++ [name]) with
        | some (.file _ _) => if rest = [] then some (path ++ [name]) else none
        | some (.directory _) => layout.walk missing follow (path ++ [name]) rest
        | some (.link absolute target) => follow (if absolute then [] else path) (target ++ rest)
        | none => if rest = [] then missing (path ++ [name]) else none

/-- Walk on behind a link, with so many links left to follow, this one included. -/
def follow (layout : Layout) (missing : Path → Option Path) : ℕ → Path → Path → Option Path
  | 0, _, _ => none
  | links + 1, path, rest => layout.walk missing (layout.follow missing links) path rest

/-- Where the entry a path leads to lies, once all links are followed. -/
def resolve (layout : Layout) (path : Path) : Option Path :=
  layout.walk (fun _ => none) (layout.follow (fun _ => none) maxLinks) [] path

/-- Where the entry a path leads to lies, or would lie if it were created. -/
def place (layout : Layout) (path : Path) : Option Path :=
  layout.walk some (layout.follow some maxLinks) [] path

/-- The file that opening a path for writing leads to: one that may be written, or one
that is created. -/
def opens (layout : Layout) (path : Path) : Option Path :=
  match layout.place path with
  | none => none
  | some file =>
      match layout.entry file with
      | some (.file _ true) => some file
      | none => some file
      | _ => none

/-- The path leads to a regular file. -/
def isFile (layout : Layout) (path : Path) : Bool :=
  match layout.resolve path >>= layout.entry with
  | some (.file _ _) => true
  | _ => false

/-- The path leads to a directory. -/
def isDirectory (layout : Layout) (path : Path) : Bool :=
  match layout.resolve path >>= layout.entry with
  | some (.directory _) => true
  | _ => false

/-- The names in the directory a path leads to. -/
def listing (layout : Layout) (path : Path) : List Name :=
  listedAt (layout.resolve path >>= layout.entry)

theorem isFile_eq_true_iff {layout : Layout} {path : Path} :
    layout.isFile path = true ↔ ∃ file readable writable,
      layout.resolve path = some file ∧ layout.entry file = some (.file readable writable) := by
  rw [isFile]
  constructor
  · intro h
    split at h
    next readable writable hentry =>
      obtain ⟨file, hresolve, hentry⟩ := Option.bind_eq_some_iff.mp hentry
      exact ⟨file, readable, writable, hresolve, hentry⟩
    next => cases h
  · rintro ⟨file, readable, writable, hresolve, hentry⟩
    rw [hresolve, Option.bind_eq_bind, Option.bind_some, hentry]

/-- An entry that lies somewhere is where it would be created. -/
theorem walk_some_of_walk_none {layout : Layout} {follow follow' : Path → Path → Option Path}
    (hfollow : ∀ path rest file, follow path rest = some file → follow' path rest = some file)
    {path rest file : Path} (h : layout.walk (fun _ => none) follow path rest = some file) :
    layout.walk some follow' path rest = some file := by
  induction rest generalizing path with
  | nil => exact h
  | cons name rest ih =>
      rw [walk] at h ⊢
      split at h
      next hdot =>
        rw [if_pos hdot]
        exact ih h
      next hdot =>
        rw [if_neg hdot]
        split at h
        next hup =>
          rw [if_pos hup]
          exact ih h
        next hup =>
          rw [if_neg hup]
          split at h
          next hentry => exact h
          next hentry => exact ih h
          next hentry => exact hfollow _ _ _ h
          next hentry =>
            split at h
            · cases h
            · cases h

theorem place_of_resolve {layout : Layout} {path file : Path}
    (h : layout.resolve path = some file) : layout.place path = some file := by
  apply walk_some_of_walk_none _ h
  generalize maxLinks = links
  induction links with
  | zero => exact fun _ _ _ h => nomatch h
  | succ links ih => exact fun path rest file h => walk_some_of_walk_none ih h

/-- What lies where once there is a file at the path, in a directory of the names. -/
def createdEntry (layout : Layout) (names : List Name) (path : Path) : Path → Option Entry :=
  Function.update (Function.update layout.entry path.dropLast
    (some (.directory (names ++ path.getLast?.toList)))) path (some (.file true true))

theorem createdEntry_of_ne {layout : Layout} {names : List Name} {path other : Path}
    (hpath : other ≠ path) (hparent : other ≠ path.dropLast) :
    layout.createdEntry names path other = layout.entry other := by
  rw [createdEntry, Function.update_of_ne hpath, Function.update_of_ne hparent]

theorem createdEntry_parent {layout : Layout} {names : List Name} {path : Path}
    (hpath : path ≠ []) : layout.createdEntry names path path.dropLast =
      some (.directory (names ++ path.getLast?.toList)) := by
  have hne : path.dropLast ≠ path := by
    intro heq
    have hlength := congrArg List.length heq
    have hpositive := List.length_pos_iff.mpr hpath
    rw [List.length_dropLast] at hlength
    omega
  rw [createdEntry, Function.update_of_ne hne, Function.update_self]

/-- A directory that gets a new name lists it. -/
theorem createdEntry_listed {layout : Layout} {names : List Name} {path : Path}
    (hparent : layout.entry path.dropLast = some (.directory names))
    (hfree : layout.entry path = none) (other : Path) (name : Name) :
    layout.createdEntry names path (other ++ [name]) ≠ none ↔
      name ∈ listedAt (layout.createdEntry names path other) := by
  have hpath : path ≠ [] := by
    rintro rfl
    cases hparent.symm.trans hfree
  obtain ⟨parent, last, rfl⟩ : ∃ parent last, path = parent ++ [last] :=
    ⟨path.dropLast, path.getLast hpath, (List.dropLast_append_getLast hpath).symm⟩
  have hcreated := @createdEntry_parent layout names _ hpath
  rw [List.dropLast_concat] at hparent hcreated
  have hlonger : other ++ [name] ≠ other := by simp
  by_cases hnew : other = parent ++ [last]
  · subst hnew
    have hempty : layout.entry (parent ++ [last] ++ [name]) = none := by
      by_contra hentry
      have hname := (layout.listed _ _).mp hentry
      rw [hfree] at hname
      cases hname
    rw [createdEntry_of_ne hlonger (by rw [List.dropLast_concat]; simp), hempty, createdEntry,
      Function.update_self]
    exact iff_of_false (fun h => h rfl) nofun
  · by_cases hdirectory : other = parent
    · subst hdirectory
      rw [hcreated]
      by_cases hname : name = last
      · subst hname
        rw [createdEntry, Function.update_self]
        simp [listedAt, Entry.names]
      · have hother : other ++ [name] ≠ other ++ [last] := by simpa using hname
        rw [createdEntry_of_ne hother (by rw [List.dropLast_concat]; exact hlonger),
          layout.listed, hparent]
        simp [listedAt, Entry.names, hname]
    · have hother : other ++ [name] ≠ parent ++ [last] := by
        intro heq
        exact hdirectory (List.append_inj_left' heq rfl)
      rw [createdEntry_of_ne hnew (by rwa [List.dropLast_concat])]
      by_cases hup : other ++ [name] = parent
      · rw [hup, hcreated, ← layout.listed, hup, hparent]
        exact iff_of_true nofun nofun
      · rw [createdEntry_of_ne hother (by rwa [List.dropLast_concat])]
        exact layout.listed other name

/-- The layout with a file at the path, if the path is free in a directory. -/
def create (layout : Layout) (path : Path) : Layout :=
  match hparent : layout.entry path.dropLast, hfree : layout.entry path with
  | some (.directory names), none =>
      { entry := layout.createdEntry names path
        links := layout.links
        mem_links := by
          intro other absolute target h
          rw [createdEntry, Function.update_apply, Function.update_apply] at h
          split at h
          · cases h
          split at h
          · cases h
          · exact layout.mem_links h
        listed := createdEntry_listed hparent hfree }
  | _, _ => layout

theorem create_of_entry {layout : Layout} {path : Path} {entry : Entry}
    (h : layout.entry path = some entry) : layout.create path = layout := by
  rw [create]
  split
  next hfree => cases h.symm.trans hfree
  next => rfl

/-- In a list of entries, directories list what lies in them and nothing else. -/
def Closed (entries : List (Path × Entry)) : Prop :=
  (∀ item ∈ entries, ∀ name ∈ item.2.names, entries.lookup (item.1 ++ [name]) ≠ none) ∧
    ∀ item ∈ entries, ∀ name ∈ item.1.getLast?, name ∈ listedAt (entries.lookup item.1.dropLast)

instance (entries : List (Path × Entry)) : Decidable (Closed entries) :=
  inferInstanceAs (Decidable (_ ∧ _))

theorem mem_of_lookup {entries : List (Path × Entry)} {path : Path} {entry : Entry}
    (h : entries.lookup path = some entry) : (path, entry) ∈ entries := by
  obtain ⟨before, after, hsplit, -⟩ := List.lookup_eq_some_iff.mp h
  rw [hsplit]
  exact List.mem_append_right _ (List.mem_cons_self ..)

/-- The layout of a list of entries. -/
def ofList (entries : List (Path × Entry)) (closed : Closed entries) : Layout where
  entry path := entries.lookup path
  links := entries.map Prod.fst
  mem_links := fun h => List.mem_map_of_mem (mem_of_lookup h)
  listed := by
    intro path name
    constructor
    · intro hentry
      obtain ⟨entry, hlookup⟩ := Option.ne_none_iff_exists'.mp hentry
      have hname := closed.2 _ (mem_of_lookup hlookup) name
      rw [List.dropLast_concat] at hname
      exact hname (by simp)
    · intro hname
      cases hlookup : entries.lookup path with
      | none =>
          rw [hlookup] at hname
          cases hname
      | some entry =>
          rw [hlookup] at hname
          exact closed.1 _ (mem_of_lookup hlookup) name hname

end Layout

/-- What a file holds: text, or bytes that are no text, and what the decoder says of them. -/
inductive Content
  | text (characters : List Char)
  | undecodable (complaint : String)
  deriving DecidableEq

/-- A file system. Contents matter where a regular file lies. For the time being some files
refuse to be written, whatever their permissions. It records where files were written, the
latest first. -/
structure FileTree where
  layout : Layout
  content : Path → Content
  refuses : Path → Bool := fun _ => false
  written : List Path := []

/-- Why a text could not be read. -/
inductive ReadError
  | unavailable
  | undecodable (complaint : String)
  deriving DecidableEq

namespace FileTree

/-- What the file a path leads to holds. -/
def stored (tree : FileTree) (path : Path) : Option Content :=
  (tree.layout.resolve path).map tree.content

/-- The path leads to a file that may be read. -/
def Readable (layout : Layout) (path : Path) : Prop :=
  ∃ writable, layout.resolve path >>= layout.entry = some (.file true writable)

/-- The text of the file a path leads to. -/
def read (tree : FileTree) (path : Path) : Except ReadError (List Char) :=
  match tree.layout.resolve path >>= tree.layout.entry, tree.stored path with
  | some (.file true _), some (.text characters) => .ok characters
  | some (.file true _), some (.undecodable complaint) => .error (.undecodable complaint)
  | _, _ => .error .unavailable

/-- What a path leads to is text, or cannot be read. -/
def decodes (tree : FileTree) (path : Path) : Bool :=
  match tree.read path with
  | .error (.undecodable _) => false
  | _ => true

/-- The file that a path leads to and that takes a text. -/
def opens (tree : FileTree) (path : Path) : Option Path :=
  (tree.layout.opens path).filter fun file => !tree.refuses file

/-- Store a text in the file a path leads to, which is created if it is missing. -/
def write (tree : FileTree) (path : Path) (characters : List Char) : Option FileTree :=
  (tree.opens path).map fun file => {
    tree with
    layout := tree.layout.create file
    content := Function.update tree.content file (.text characters)
    written := file :: tree.written }

variable {tree after : FileTree} {path : Path} {characters : List Char}

/-- A write to a file that exists replaced what it holds. -/
theorem write_eq_some (hfile : tree.layout.isFile path = true)
    (h : tree.write path characters = some after) :
    ∃ file, tree.layout.resolve path = some file ∧ after = {
      tree with
      content := Function.update tree.content file (.text characters)
      written := file :: tree.written } := by
  obtain ⟨opened, hopened, rfl⟩ := Option.map_eq_some_iff.mp h
  have hopened := (Option.filter_eq_some_iff.mp hopened).1
  obtain ⟨file, readable, writable, hresolve, hentry⟩ := Layout.isFile_eq_true_iff.mp hfile
  rw [Layout.opens, Layout.place_of_resolve hresolve] at hopened
  dsimp only at hopened
  rw [hentry] at hopened
  cases writable with
  | false => cases hopened
  | true =>
      cases hopened
      refine ⟨opened, hresolve, ?_⟩
      rw [Layout.create_of_entry hentry]

/-- Writing to a file that exists leaves the layout alone. -/
theorem layout_of_write (hfile : tree.layout.isFile path = true)
    (h : tree.write path characters = some after) : after.layout = tree.layout := by
  obtain ⟨file, -, rfl⟩ := write_eq_some hfile h
  rfl

/-- What was written is stored. -/
theorem stored_of_write (hfile : tree.layout.isFile path = true)
    (h : tree.write path characters = some after) :
    after.stored path = some (.text characters) := by
  obtain ⟨file, hresolve, rfl⟩ := write_eq_some hfile h
  show (tree.layout.resolve path).map (Function.update tree.content file (.text characters)) =
    some (.text characters)
  rw [hresolve, Option.map_some, Function.update_self]

/-- Every other file keeps what it holds. -/
theorem stored_of_write_of_ne {other : Path} (hfile : tree.layout.isFile path = true)
    (h : tree.write path characters = some after)
    (hother : tree.layout.resolve other ≠ tree.layout.resolve path) :
    after.stored other = tree.stored other := by
  obtain ⟨file, hresolve, rfl⟩ := write_eq_some hfile h
  rw [hresolve] at hother
  show (tree.layout.resolve other).map (Function.update tree.content file (.text characters)) =
    (tree.layout.resolve other).map tree.content
  cases hlies : tree.layout.resolve other with
  | none => rfl
  | some otherFile =>
      rw [hlies] at hother
      have hne : otherFile ≠ file := fun heq => hother (congrArg some heq)
      rw [Option.map_some, Option.map_some, Function.update_of_ne hne]

/-- Reading succeeds exactly on a readable file that holds a text. -/
theorem read_eq_ok_iff :
    tree.read path = .ok characters ↔
      Readable tree.layout path ∧ tree.stored path = some (.text characters) := by
  rw [read]
  constructor
  · intro h
    split at h
    next writable stored hentry hstored =>
      cases h
      exact ⟨⟨writable, hentry⟩, hstored⟩
    next => cases h
    next => cases h
  · rintro ⟨⟨writable, hentry⟩, hstored⟩
    rw [hentry, hstored]

end FileTree

end TrueFan.Foundations
