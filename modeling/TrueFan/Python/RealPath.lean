/-
# `realpath` and the system

Where the system gets to, `os.path.realpath` gets to as well: a link it would leave as it
stands is one whose target leads back to it, and behind such a link the system gets to
nothing.
-/

import TrueFan.Foundations.Resolution
import TrueFan.Python.Paths

namespace TrueFan.Python

open Foundations Foundations.Layout

variable {layout : Layout} {seen : Seen} {path rest file : Path} {name : Name}

/-- Resolve from `path` on, with expansions enough for the links not met so far. -/
def resolveOn (layout : Layout) (seen : Seen) (path : Path) (rest : List Pending) : Path :=
  expandLinks layout (unseen layout seen + 1) seen path rest

theorem expandLinks_eq_resolveOn {links : ℕ} (h : unseen layout seen < links) (path : Path)
    (rest : List Pending) :
    expandLinks layout links seen path rest = resolveOn layout seen path rest := by
  obtain ⟨extra, rfl⟩ := Nat.exists_eq_add_of_le (Nat.succ_le_of_lt h)
  induction extra with
  | zero => rfl
  | succ extra ih =>
      have hlinks : unseen layout seen < unseen layout seen + 1 + extra := by omega
      exact (expandLinks_succ hlinks path rest).trans (ih hlinks)

theorem resolveOn_resolved (link : Path) (rest : List Pending) :
    resolveOn layout seen path (.resolved link :: rest) =
      resolveOn layout ((link, some path) :: seen) path rest :=
  expandLinks_eq_resolveOn (Nat.lt_succ_of_le (unseen_cons_le layout seen link (some path))) _ _

theorem resolveOn_stay (dot : name = [] ∨ name = ['.']) (rest : List Pending) :
    resolveOn layout seen path (.part name :: rest) = resolveOn layout seen path rest :=
  if_pos dot

theorem resolveOn_up (rest : List Pending) :
    resolveOn layout seen path (.part ['.', '.'] :: rest) =
      resolveOn layout seen path.dropLast rest := rfl

/-- At a proper name, resolution goes by what lies there. -/
theorem resolveOn_proper (proper : Proper name) (rest : List Pending) :
    resolveOn layout seen path (.part name :: rest) =
      match layout.entry (path ++ [name]) with
      | some (.link absolute target) =>
          match seen.lookup (path ++ [name]) with
          | some (some known) => resolveOn layout seen known rest
          | some none => resolveOn layout seen (path ++ [name]) rest
          | none =>
              expandLinks layout (unseen layout seen) ((path ++ [name], none) :: seen)
                (if absolute then [] else path)
                (target.map .part ++ .resolved (path ++ [name]) :: rest)
      | _ => resolveOn layout seen (path ++ [name]) rest := by
  rw [resolveOn, expandLinks, resolveParts, if_neg (not_or.mpr ⟨proper.1, proper.2.1⟩),
    if_neg proper.2.2]
  rfl

theorem resolveOn_down (proper : Proper name)
    (noLink : ∀ absolute target, layout.entry (path ++ [name]) ≠ some (.link absolute target))
    (rest : List Pending) :
    resolveOn layout seen path (.part name :: rest) =
      resolveOn layout seen (path ++ [name]) rest := by
  rw [resolveOn_proper proper]
  split
  next absolute target hentry => exact absurd hentry (noLink absolute target)
  next => rfl

theorem resolveOn_known {absolute : Bool} {target known : Path} (proper : Proper name)
    (isLink : layout.entry (path ++ [name]) = some (.link absolute target))
    (hknown : seen.lookup (path ++ [name]) = some (some known)) (rest : List Pending) :
    resolveOn layout seen path (.part name :: rest) = resolveOn layout seen known rest := by
  rw [resolveOn_proper proper, isLink]
  dsimp only
  rw [hknown]

theorem resolveOn_new {absolute : Bool} {target : Path} (proper : Proper name)
    (isLink : layout.entry (path ++ [name]) = some (.link absolute target))
    (hnew : seen.lookup (path ++ [name]) = none) (rest : List Pending) :
    resolveOn layout seen path (.part name :: rest) =
      resolveOn layout ((path ++ [name], none) :: seen) (if absolute then [] else path)
        (target.map .part ++ .resolved (path ++ [name]) :: rest) := by
  rw [resolveOn_proper proper, isLink]
  dsimp only
  rw [hnew]
  exact expandLinks_eq_resolveOn (unseen_cons_lt none (layout.mem_links isLink) hnew) _ _

/-- The target of the link leads to the path, in so many steps. -/
def Leads (layout : Layout) (link file : Path) (steps : ℕ) : Prop :=
  ∃ absolute target, layout.entry link = some (.link absolute target) ∧
    layout.Walks (if absolute then [] else link.dropLast) target file steps

theorem Leads.unique {link file' : Path} {steps steps' : ℕ} (h : Leads layout link file steps)
    (h' : Leads layout link file' steps') : file = file' ∧ steps = steps' := by
  obtain ⟨absolute, target, hentry, hwalks⟩ := h
  obtain ⟨absolute', target', hentry', hwalks'⟩ := h'
  cases hentry.symm.trans hentry'
  exact hwalks.unique hwalks'

/-- Known links are known rightly, and a link whose target is being resolved needs at
least so many steps. -/
def Sound (layout : Layout) (steps : ℕ) (seen : Seen) : Prop :=
  ∀ link file needed, Leads layout link file needed →
    (∀ known, seen.lookup link = some (some known) → known = file) ∧
      (seen.lookup link = some none → steps ≤ needed)

/-- What was learned about links meanwhile is right. -/
def Learned (layout : Layout) (seen seen' : Seen) : Prop :=
  ∀ link, seen'.lookup link = seen.lookup link ∨
    ∃ file steps, seen'.lookup link = some (some file) ∧ Leads layout link file steps

theorem Learned.trans {seen' seen'' : Seen} (h : Learned layout seen seen')
    (h' : Learned layout seen' seen'') : Learned layout seen seen'' := by
  intro link
  rcases h' link with hsame | hlearned
  · rw [hsame]
    exact h link
  · exact .inr hlearned

theorem Sound.learned {seen' : Seen} {steps : ℕ} (h : Sound layout steps seen)
    (hlearned : Learned layout seen seen') : Sound layout steps seen' := by
  intro link file needed hleads
  rcases hlearned link with hsame | ⟨file', steps', hknown, hleads'⟩
  · rw [hsame]
    exact h link file needed hleads
  · rw [hknown]
    refine ⟨?_, nofun⟩
    intro known heq
    cases heq
    exact (hleads'.unique hleads).1

theorem Sound.mono {steps steps' : ℕ} (h : Sound layout steps seen) (hle : steps' ≤ steps) :
    Sound layout steps' seen :=
  fun link file needed hleads =>
    ⟨(h link file needed hleads).1, fun hopen => hle.trans ((h link file needed hleads).2 hopen)⟩

theorem lookup_cons_of_ne {link other : Path} (known : Option Path) (h : other ≠ link) :
    List.lookup other ((link, known) :: seen) = seen.lookup other := by
  rw [List.lookup_cons, beq_false_of_ne h]

/-- A link whose target leads somewhere is entered with as many steps to go as it needs. -/
theorem Sound.enter {link : Path} {steps needed : ℕ} (h : Sound layout steps seen)
    (hleads : Leads layout link file needed) (hle : needed ≤ steps) :
    Sound layout needed ((link, none) :: seen) := by
  intro other file' needed' hleads'
  by_cases hsame : other = link
  · subst hsame
    rw [List.lookup_cons_self]
    refine ⟨fun _ => nofun, fun _ => ?_⟩
    exact (hleads.unique hleads').2.le
  · rw [lookup_cons_of_ne none hsame]
    exact h.mono hle other file' needed' hleads'

/-- On its return it is known. -/
theorem Learned.leave {link : Path} {seen' : Seen} {needed : ℕ}
    (h : Learned layout ((link, none) :: seen) seen') (hleads : Leads layout link file needed) :
    Learned layout seen ((link, some file) :: seen') := by
  intro other
  by_cases hsame : other = link
  · subst hsame
    exact .inr ⟨file, needed, List.lookup_cons_self, hleads⟩
  · rw [lookup_cons_of_ne _ hsame]
    rcases h other with hother | hlearned
    · rw [lookup_cons_of_ne none hsame] at hother
      exact .inl hother
    · exact .inr hlearned

/-- Without a component that goes up, `abspath` drops no more than `Path` does. -/
theorem abspath_of_not_mem (hup : ['.', '.'] ∉ path) : abspath path = purePath path := by
  have hfold (rest done : Path) (hrest : ['.', '.'] ∉ rest) :
      rest.foldl (fun done name =>
        if name = [] ∨ name = ['.'] then done
        else if name = ['.', '.'] then done.dropLast
        else done ++ [name]) done =
          done ++ rest.filter fun name => name ≠ [] ∧ name ≠ ['.'] := by
    induction rest generalizing done with
    | nil => exact (List.append_nil done).symm
    | cons name rest ih =>
        obtain ⟨hname, hlater⟩ := List.ne_and_not_mem_of_not_mem_cons hrest
        rw [List.foldl_cons]
        by_cases hdot : name = [] ∨ name = ['.']
        · rw [if_pos hdot, ih _ hlater, List.filter_cons_of_neg]
          simpa only [decide_eq_true_eq, ← not_or, not_not] using hdot
        · rw [if_neg hdot, if_neg (Ne.symm hname), ih _ hlater, List.filter_cons_of_pos,
            List.append_assoc, List.singleton_append]
          simpa only [decide_eq_true_eq, ← not_or] using hdot
  exact hfold path [] hup

/-- `Path` leaves a plain path alone. -/
theorem purePath_of_plain (h : Plain path) : purePath path = path := by
  rw [purePath, List.filter_eq_self]
  intro name hname
  rw [decide_eq_true_eq]
  exact ⟨(h name hname).1, (h name hname).2.1⟩

/-- So does `abspath`. -/
theorem abspath_of_plain (h : Plain path) : abspath path = path := by
  rw [abspath_of_not_mem fun hup => (h _ hup).2.2 rfl, purePath_of_plain h]

/-! ## Real paths -/

/-- Where components lead, `realpath` goes, and what it learns on the way is right. -/
theorem resolveOn_of_walks {steps : ℕ} (h : layout.Walks path rest file steps)
    (sound : Sound layout steps seen) :
    ∃ seen', Learned layout seen seen' ∧ ∀ more,
      resolveOn layout seen path (rest.map .part ++ more) = resolveOn layout seen' file more := by
  induction h generalizing seen with
  | done path => exact ⟨seen, fun _ => .inl rfl, fun _ => rfl⟩
  | stay dot later ih =>
      obtain ⟨seen', hlearned, hmore⟩ := ih (sound.mono (Nat.le_succ _))
      exact ⟨seen', hlearned, fun more => (resolveOn_stay dot _).trans (hmore more)⟩
  | up later ih =>
      obtain ⟨seen', hlearned, hmore⟩ := ih (sound.mono (Nat.le_succ _))
      exact ⟨seen', hlearned, fun more => (resolveOn_up _).trans (hmore more)⟩
  | down proper noLink later ih =>
      obtain ⟨seen', hlearned, hmore⟩ := ih (sound.mono (Nat.le_succ _))
      exact ⟨seen', hlearned, fun more => (resolveOn_down proper noLink _).trans (hmore more)⟩
  | @link path rest file between target name absolute inside steps proper isLink behind later
      ihbehind ih =>
      have hleads : Leads layout (path ++ [name]) between inside := by
        refine ⟨absolute, target, isLink, ?_⟩
        rwa [List.dropLast_concat]
      cases hlookup : seen.lookup (path ++ [name]) with
      | none =>
          obtain ⟨seen', hlearned, hmore⟩ := ihbehind (sound.enter hleads (by omega))
          have hleft := hlearned.leave hleads
          obtain ⟨seen'', hlearned', hmore'⟩ :=
            ih ((sound.mono (by omega)).learned hleft)
          refine ⟨seen'', hleft.trans hlearned', fun more => ?_⟩
          calc resolveOn layout seen path ((name :: rest).map .part ++ more)
              = resolveOn layout ((path ++ [name], none) :: seen) (if absolute then [] else path)
                  (target.map .part ++ .resolved (path ++ [name]) :: (rest.map .part ++ more)) :=
                resolveOn_new proper isLink hlookup _
            _ = resolveOn layout seen' between
                  (.resolved (path ++ [name]) :: (rest.map .part ++ more)) := hmore _
            _ = resolveOn layout ((path ++ [name], some between) :: seen') between
                  (rest.map .part ++ more) := resolveOn_resolved _ _
            _ = resolveOn layout seen'' file more := hmore' more
      | some known =>
          cases known with
          | none =>
              -- the link's own target would be resolved on the way to itself
              have hneeded := (sound _ _ _ hleads).2 hlookup
              omega
          | some known =>
              obtain rfl := (sound _ _ _ hleads).1 known hlookup
              obtain ⟨seen', hlearned, hmore⟩ := ih (sound.mono (by omega))
              exact ⟨seen', hlearned, fun more =>
                (resolveOn_known proper isLink hlookup _).trans (hmore more)⟩

theorem realpath_of_walks {steps : ℕ} (h : layout.Walks [] path file steps) :
    realpath layout path = file := by
  have sound : Sound layout steps [] := fun _ _ _ _ => ⟨fun _ => nofun, nofun⟩
  obtain ⟨seen', -, hmore⟩ := resolveOn_of_walks h sound
  calc realpath layout path
      = resolveOn layout [] [] (path.map .part ++ []) := by
        rw [List.append_nil, realpath, expandLinks_eq_resolveOn]
        rw [unseen_nil]
        exact Nat.lt_succ_self _
    _ = resolveOn layout seen' file [] := hmore []
    _ = file := rfl

/-- Where the system gets to, `realpath` gets to. -/
theorem realpath_of_resolve (h : layout.resolve path = some file) :
    realpath layout path = file := by
  obtain ⟨steps, hwalks⟩ := walks_of_place (place_of_resolve h)
  exact realpath_of_walks hwalks

/-- `realpath` of the absolute path of what the system would open, if no component goes
up: where it would be opened. -/
theorem realpath_abspath_of_place (hup : ['.', '.'] ∉ path)
    (h : layout.place (purePath path) = some file) : realpath layout (abspath path) = file := by
  obtain ⟨steps, hwalks⟩ := walks_of_place h
  rw [abspath_of_not_mem hup]
  exact realpath_of_walks hwalks

/-- What is known of links is plain. -/
def PlainSeen (seen : Seen) : Prop :=
  ∀ link known, seen.lookup link = some (some known) → Plain known

theorem PlainSeen.cons {link : Path} {known : Option Path} (h : PlainSeen seen)
    (hknown : ∀ path, known = some path → Plain path) : PlainSeen ((link, known) :: seen) := by
  intro other path hlookup
  by_cases hsame : other = link
  · subst hsame
    rw [List.lookup_cons_self] at hlookup
    exact hknown path (Option.some.inj hlookup)
  · rw [lookup_cons_of_ne known hsame] at hlookup
    exact h other path hlookup

theorem plain_resolveParts {expand : Seen → Path → List Pending → Path}
    (hexpand : ∀ seen path rest, PlainSeen seen → Plain path → Plain (expand seen path rest))
    (rest : List Pending) (hseen : PlainSeen seen) (hpath : Plain path) :
    Plain (resolveParts layout expand seen path rest) := by
  induction rest generalizing seen path with
  | nil => exact hpath
  | cons pending rest ih =>
      cases pending with
      | resolved link =>
          apply ih _ hpath
          apply hseen.cons
          rintro known ⟨⟩
          exact hpath
      | part name =>
          rw [resolveParts]
          split
          next => exact ih hseen hpath
          next hdot =>
            split
            next => exact ih hseen hpath.dropLast
            next hup =>
              have hproper : Proper name :=
                ⟨fun h => hdot (.inl h), fun h => hdot (.inr h), hup⟩
              split
              next absolute target _ =>
                split
                next known hlookup => exact ih hseen (hseen _ known hlookup)
                next => exact ih hseen (hpath.concat hproper)
                next =>
                  apply hexpand _ _ _ (hseen.cons fun _ hnone => by cases hnone)
                  cases absolute with
                  | true => exact List.forall_mem_nil _
                  | false => exact hpath
              next => exact ih hseen (hpath.concat hproper)

theorem plain_realpath (layout : Layout) (path : Path) : Plain (realpath layout path) := by
  have hexpand (links : ℕ) (seen : Seen) (path : Path) (rest : List Pending)
      (hseen : PlainSeen seen) (hpath : Plain path) :
      Plain (expandLinks layout links seen path rest) := by
    induction links generalizing seen path rest with
    | zero => exact hpath
    | succ links ih => exact plain_resolveParts ih rest hseen hpath
  exact hexpand _ _ _ _ (fun _ _ h => by cases h) (List.forall_mem_nil _)

end TrueFan.Python
