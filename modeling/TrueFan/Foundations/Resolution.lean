/-
# Resolution as a relation

A resolution follows a path component by component and resolves the target of every link
it meets on the way. It is the same for every procedure that resolves paths, however the
procedure bounds its work; a bound decides only whether there is an answer.

The size of a resolution counts its steps. The resolution of a link's target is smaller
than every resolution that meets the link, so no resolution meets a link whose target it
is itself resolving.
-/

import TrueFan.Foundations.FileTree

namespace TrueFan.Foundations

/-- The name of an entry of a directory. -/
def Proper (name : Name) : Prop := name ≠ [] ∧ name ≠ ['.'] ∧ name ≠ ['.', '.']

instance (name : Name) : Decidable (Proper name) := inferInstanceAs (Decidable (_ ∧ _))

/-- A path of proper names. -/
def Plain (path : Path) : Prop := ∀ name ∈ path, Proper name

instance (path : Path) : Decidable (Plain path) :=
  inferInstanceAs (Decidable (∀ name ∈ path, Proper name))

theorem Plain.dropLast {path : Path} (h : Plain path) : Plain path.dropLast :=
  fun name hname => h name ((List.dropLast_sublist path).subset hname)

theorem Plain.concat {path : Path} {name : Name} (h : Plain path) (hname : Proper name) :
    Plain (path ++ [name]) := by
  intro other hother
  rcases List.mem_append.mp hother with hpath | hlast
  · exact h other hpath
  · rw [List.mem_singleton.mp hlast]
    exact hname

namespace Layout

/-- From a directory, the components lead to a path, in so many steps. -/
inductive Walks (layout : Layout) : Path → Path → Path → ℕ → Prop
  | done (path : Path) : Walks layout path [] path 0
  | stay {path rest file : Path} {name : Name} {steps : ℕ} (dot : name = [] ∨ name = ['.'])
      (later : Walks layout path rest file steps) :
      Walks layout path (name :: rest) file (steps + 1)
  | up {path rest file : Path} {steps : ℕ} (later : Walks layout path.dropLast rest file steps) :
      Walks layout path (['.', '.'] :: rest) file (steps + 1)
  | down {path rest file : Path} {name : Name} {steps : ℕ} (proper : Proper name)
      (noLink : ∀ absolute target,
        layout.entry (path ++ [name]) ≠ some (.link absolute target))
      (later : Walks layout (path ++ [name]) rest file steps) :
      Walks layout path (name :: rest) file (steps + 1)
  | link {path rest file between target : Path} {name : Name} {absolute : Bool}
      {inside steps : ℕ} (proper : Proper name)
      (isLink : layout.entry (path ++ [name]) = some (.link absolute target))
      (behind : Walks layout (if absolute then [] else path) target between inside)
      (later : Walks layout between rest file steps) :
      Walks layout path (name :: rest) file (inside + steps + 1)

variable {layout : Layout} {path rest file : Path} {steps : ℕ}

/-- A resolution has one result and one size. -/
theorem Walks.unique {file' : Path} {steps' : ℕ} (h : layout.Walks path rest file steps)
    (h' : layout.Walks path rest file' steps') : file = file' ∧ steps = steps' := by
  induction h generalizing file' steps' with
  | done path =>
      cases h'
      exact ⟨rfl, rfl⟩
  | stay dot later ih =>
      cases h' with
      | stay _ later' =>
          obtain ⟨rfl, rfl⟩ := ih later'
          exact ⟨rfl, rfl⟩
      | up => exact absurd dot (by decide)
      | down proper => exact absurd dot (not_or.mpr ⟨proper.1, proper.2.1⟩)
      | link proper => exact absurd dot (not_or.mpr ⟨proper.1, proper.2.1⟩)
  | up later ih =>
      cases h' with
      | stay dot => exact absurd dot (by decide)
      | up later' =>
          obtain ⟨rfl, rfl⟩ := ih later'
          exact ⟨rfl, rfl⟩
      | down proper => exact absurd rfl proper.2.2
      | link proper => exact absurd rfl proper.2.2
  | down proper noLink later ih =>
      cases h' with
      | stay dot => exact absurd dot (not_or.mpr ⟨proper.1, proper.2.1⟩)
      | up => exact absurd rfl proper.2.2
      | down _ _ later' =>
          obtain ⟨rfl, rfl⟩ := ih later'
          exact ⟨rfl, rfl⟩
      | link _ isLink => exact absurd isLink (noLink _ _)
  | link proper isLink behind later ihbehind ih =>
      cases h' with
      | stay dot => exact absurd dot (not_or.mpr ⟨proper.1, proper.2.1⟩)
      | up => exact absurd rfl proper.2.2
      | down _ noLink => exact absurd isLink (noLink _ _)
      | link _ isLink' behind' later' =>
          cases isLink.symm.trans isLink'
          obtain ⟨rfl, rfl⟩ := ihbehind behind'
          obtain ⟨rfl, rfl⟩ := ih later'
          exact ⟨rfl, rfl⟩

/-- A resolution can be stopped on its way. -/
theorem Walks.split {first second : Path}
    (h : layout.Walks path (first ++ second) file steps) :
    ∃ between inside outside, layout.Walks path first between inside ∧
      layout.Walks between second file outside := by
  induction first generalizing path steps with
  | nil => exact ⟨path, 0, steps, .done path, h⟩
  | cons name first ih =>
      cases h with
      | stay dot later =>
          obtain ⟨between, inside, outside, hfirst, hsecond⟩ := ih later
          exact ⟨between, _, outside, .stay dot hfirst, hsecond⟩
      | up later =>
          obtain ⟨between, inside, outside, hfirst, hsecond⟩ := ih later
          exact ⟨between, _, outside, .up hfirst, hsecond⟩
      | down proper noLink later =>
          obtain ⟨between, inside, outside, hfirst, hsecond⟩ := ih later
          exact ⟨between, _, outside, .down proper noLink hfirst, hsecond⟩
      | link proper isLink behind later =>
          obtain ⟨between, inside, outside, hfirst, hsecond⟩ := ih later
          exact ⟨between, _, outside, .link proper isLink behind hfirst, hsecond⟩

/-- What a plain path leads to is plain. -/
theorem Walks.plain (h : layout.Walks path rest file steps) (hpath : Plain path) :
    Plain file := by
  induction h with
  | done path => exact hpath
  | stay dot later ih => exact ih hpath
  | up later ih => exact ih hpath.dropLast
  | down proper noLink later ih => exact ih (hpath.concat proper)
  | @link path rest file between target name absolute inside steps proper isLink behind later
      ihbehind ih =>
      apply ih
      apply ihbehind
      cases absolute with
      | true => exact List.forall_mem_nil _
      | false => exact hpath

/-- What lies under a proper name and is no link is got to in one step. -/
theorem Walks.last {name : Name} (proper : Proper name)
    (noLink : ∀ absolute target, layout.entry (path ++ [name]) ≠ some (.link absolute target)) :
    layout.Walks path [name] (path ++ [name]) 1 :=
  .down proper noLink (.done _)

/-- Where the system gets to is where the components lead. -/
theorem walks_of_walk {follow : Path → Path → Option Path}
    (hfollow : ∀ path rest file, follow path rest = some file →
      ∃ steps, layout.Walks path rest file steps)
    (h : layout.walk some follow path rest = some file) :
    ∃ steps, layout.Walks path rest file steps := by
  induction rest generalizing path with
  | nil =>
      cases h
      exact ⟨0, .done _⟩
  | cons name rest ih =>
      rw [walk] at h
      split at h
      next dot =>
        obtain ⟨steps, later⟩ := ih h
        exact ⟨steps + 1, .stay dot later⟩
      next hdot =>
        split at h
        next hup =>
          subst hup
          obtain ⟨steps, later⟩ := ih h
          exact ⟨steps + 1, .up later⟩
        next hup =>
          have proper : Proper name := ⟨fun h => hdot (.inl h), fun h => hdot (.inr h), hup⟩
          split at h
          next hentry =>
            split at h
            next hlast =>
              cases h
              subst hlast
              exact ⟨1, .last proper fun _ _ h => by cases hentry.symm.trans h⟩
            next => cases h
          next hentry =>
            obtain ⟨steps, later⟩ := ih h
            exact ⟨steps + 1, .down proper (fun _ _ h => by cases hentry.symm.trans h) later⟩
          next absolute target hentry =>
            obtain ⟨steps, hbehind⟩ := hfollow _ _ _ h
            obtain ⟨between, inside, outside, behind, later⟩ := hbehind.split
            exact ⟨inside + outside + 1, .link proper hentry behind later⟩
          next hentry =>
            split at h
            next hlast =>
              cases h
              subst hlast
              exact ⟨1, .last proper fun _ _ h => by cases hentry.symm.trans h⟩
            next => cases h

theorem walks_of_place (h : layout.place path = some file) :
    ∃ steps, layout.Walks [] path file steps := by
  refine walks_of_walk ?_ h
  generalize maxLinks = links
  induction links with
  | zero => exact fun _ _ _ h => nomatch h
  | succ links ih => exact fun path rest file h => walks_of_walk ih h

/-- Above an entry there are directories. -/
theorem directory_of_entry {more : Path} (hmore : more ≠ [])
    (h : layout.entry (path ++ more) ≠ none) :
    ∃ names, layout.entry path = some (.directory names) := by
  have hparent {parent : Path} {name : Name} (h : layout.entry (parent ++ [name]) ≠ none) :
      ∃ names, layout.entry parent = some (.directory names) := by
    have hname := (layout.listed parent name).mp h
    rw [listedAt] at hname
    cases hentry : layout.entry parent with
    | none =>
        rw [hentry] at hname
        cases hname
    | some entry =>
        rw [hentry] at hname
        cases entry with
        | file => cases hname
        | directory names => exact ⟨names, rfl⟩
        | link => cases hname
  induction more generalizing path with
  | nil => exact absurd rfl hmore
  | cons name more ih =>
      cases more with
      | nil => exact hparent h
      | cons next more =>
          have hbelow : layout.entry (path ++ [name] ++ next :: more) ≠ none := by
            rwa [List.append_assoc, List.singleton_append]
          obtain ⟨names, hnames⟩ := ih (List.cons_ne_nil next more) hbelow
          exact hparent (Option.ne_none_iff_exists'.mpr ⟨_, hnames⟩)

/-- Something other than a link lies at the path. -/
def Solid (layout : Layout) (path : Path) : Prop :=
  path = [] ∨ ∃ entry, layout.entry path = some entry ∧
    ∀ absolute target, entry ≠ .link absolute target

theorem Solid.dropLast (h : layout.Solid path) : layout.Solid path.dropLast := by
  rcases h with rfl | ⟨entry, hentry, -⟩
  · exact .inl rfl
  · by_cases hroot : path = []
    · subst hroot
      exact .inl rfl
    · rw [← List.dropLast_append_getLast hroot] at hentry
      obtain ⟨names, hnames⟩ :=
        directory_of_entry (List.cons_ne_nil _ []) (Option.ne_none_iff_exists'.mpr ⟨_, hentry⟩)
      exact .inr ⟨_, hnames, fun _ _ h => by cases h⟩

theorem solid_of_walk {follow : Path → Path → Option Path}
    (hfollow : ∀ path rest file, layout.Solid path → follow path rest = some file →
      layout.Solid file)
    (hpath : layout.Solid path) (h : layout.walk (fun _ => none) follow path rest = some file) :
    layout.Solid file := by
  induction rest generalizing path with
  | nil =>
      cases h
      exact hpath
  | cons name rest ih =>
      rw [walk] at h
      split at h
      next => exact ih hpath h
      next =>
        split at h
        next => exact ih hpath.dropLast h
        next =>
          split at h
          next hentry =>
            split at h
            next =>
              cases h
              exact .inr ⟨_, hentry, fun _ _ h => by cases h⟩
            next => cases h
          next hentry => exact ih (.inr ⟨_, hentry, fun _ _ h => by cases h⟩) h
          next absolute target hentry =>
            apply hfollow _ _ _ _ h
            cases absolute with
            | true => exact .inl rfl
            | false => exact hpath
          next =>
            split at h
            · cases h
            · cases h

theorem solid_of_resolve (h : layout.resolve path = some file) : layout.Solid file := by
  refine solid_of_walk ?_ (.inl rfl) h
  generalize maxLinks = links
  induction links with
  | zero => exact fun _ _ _ _ h => nomatch h
  | succ links ih => exact fun path rest file hpath h => solid_of_walk ih hpath h

/-- A plain path where something other than a link lies leads there. -/
theorem resolve_of_solid (hplain : Plain path) (hsolid : layout.Solid path) :
    layout.resolve path = some path := by
  have hwalk (done rest : Path) (hrest : Plain rest) (hentry : layout.Solid (done ++ rest)) :
      layout.walk (fun _ => none) (layout.follow (fun _ => none) maxLinks) done rest =
        some (done ++ rest) := by
    induction rest generalizing done with
    | nil => rw [walk, List.append_nil]
    | cons name rest ih =>
        obtain ⟨hproper, hlater⟩ := List.forall_mem_cons.mp hrest
        rw [walk, if_neg (not_or.mpr ⟨hproper.1, hproper.2.1⟩), if_neg hproper.2.2]
        rw [List.append_cons done name rest] at hentry ⊢
        obtain hempty | ⟨entry, hlies, hnolink⟩ := hentry
        · exact absurd hempty (by simp)
        cases rest with
        | nil =>
            rw [List.append_nil] at hlies ⊢
            rw [hlies]
            cases entry with
            | file => exact if_pos rfl
            | directory names => rfl
            | link absolute target => exact absurd rfl (hnolink absolute target)
        | cons next rest =>
            obtain ⟨names, hnames⟩ :=
              directory_of_entry (List.cons_ne_nil next rest)
                (Option.ne_none_iff_exists'.mpr ⟨_, hlies⟩)
            rw [hnames]
            exact ih _ hlater (.inr ⟨entry, hlies, hnolink⟩)
  exact hwalk [] path hplain hsolid

/-- What a path leads to lies in the directory its front leads to, or behind a link there. -/
theorem parent_of_walk {follow : Path → Path → Option Path} {name : Name} (proper : Proper name)
    (hfollow : ∀ path front file, follow path (front ++ [name]) = some file →
      ∃ directory, follow path front = some directory ∧
        layout.entry (directory ++ [name]) ≠ none) {front : Path}
    (h : layout.walk (fun _ => none) follow path (front ++ [name]) = some file) :
    ∃ directory, layout.walk (fun _ => none) follow path front = some directory ∧
      layout.entry (directory ++ [name]) ≠ none := by
  induction front generalizing path with
  | nil =>
      refine ⟨path, rfl, fun hentry => ?_⟩
      rw [List.nil_append, walk, if_neg (not_or.mpr ⟨proper.1, proper.2.1⟩),
        if_neg proper.2.2, hentry] at h
      cases h
  | cons first front ih =>
      rw [List.cons_append, walk] at h
      rw [walk]
      split at h
      next dot =>
        rw [if_pos dot]
        exact ih h
      next hdot =>
        rw [if_neg hdot]
        split at h
        next hup =>
          rw [if_pos hup]
          exact ih h
        next hup =>
          rw [if_neg hup]
          split at h
          next hentry =>
            rw [if_neg (List.append_ne_nil_of_right_ne_nil front (List.cons_ne_nil name []))] at h
            cases h
          next => exact ih h
          next absolute target hentry =>
            rw [← List.append_assoc] at h
            exact hfollow _ _ _ h
          next hentry =>
            rw [if_neg (List.append_ne_nil_of_right_ne_nil front (List.cons_ne_nil name []))] at h
            cases h

/-- The directory that lists what a path leads to, or a link to it. -/
theorem mem_listing_of_resolve {name : Name} (proper : Proper name)
    (h : layout.resolve (path ++ [name]) = some file) :
    layout.isDirectory path = true ∧ name ∈ layout.listing path := by
  have hfollow (links : ℕ) (path front file : Path)
      (h : layout.follow (fun _ => none) links path (front ++ [name]) = some file) :
      ∃ directory, layout.follow (fun _ => none) links path front = some directory ∧
        layout.entry (directory ++ [name]) ≠ none := by
    induction links generalizing path front file with
    | zero => cases h
    | succ links ih => exact parent_of_walk proper ih h
  obtain ⟨directory, hdirectory, hentry⟩ := parent_of_walk proper (hfollow maxLinks) h
  have hresolve : layout.resolve path = some directory := hdirectory
  obtain ⟨names, hnames⟩ := directory_of_entry (List.cons_ne_nil name []) hentry
  rw [isDirectory, listing, hresolve, Option.bind_eq_bind, Option.bind_some, hnames]
  refine ⟨rfl, ?_⟩
  rw [← hnames]
  exact (layout.listed directory name).mp hentry

theorem plain_of_resolve (h : layout.resolve path = some file) : Plain file := by
  obtain ⟨steps, hwalks⟩ := walks_of_place (place_of_resolve h)
  exact hwalks.plain (List.forall_mem_nil _)

/-- Where a path leads to leads to itself. -/
theorem resolve_of_resolve (h : layout.resolve path = some file) :
    layout.resolve file = some file :=
  resolve_of_solid (plain_of_resolve h) (solid_of_resolve h)

end Layout

end TrueFan.Foundations
