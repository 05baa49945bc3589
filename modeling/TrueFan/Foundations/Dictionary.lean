/-
# Dictionaries in insertion order

A dictionary as a list of entries, each key once, in the order in which the keys were
first assigned. Assigning a key again replaces its value in place, so after a run of
assignments a key holds the value of its last one and every other value is gone.
-/

import Mathlib.Data.List.Induction
import Mathlib.Data.List.Nodup
import Mathlib.Data.List.Sort

namespace TrueFan.Foundations

universe u v

variable {κ : Type u} {ν : Type v} [DecidableEq κ]

/-- `dictionary[key] = value`. -/
def assign (key : κ) (value : ν) : List (κ × ν) → List (κ × ν)
  | [] => [(key, value)]
  | entry :: rest =>
      if entry.1 = key then (key, value) :: rest else entry :: assign key value rest

/-- Make the assignments one after the other. -/
def assignAll (dictionary assignments : List (κ × ν)) : List (κ × ν) :=
  assignments.foldl (fun dictionary item => assign item.1 item.2 dictionary) dictionary

theorem assignAll_append_singleton (dictionary assignments : List (κ × ν)) (item : κ × ν) :
    assignAll dictionary (assignments ++ [item]) =
      assign item.1 item.2 (assignAll dictionary assignments) := by
  rw [assignAll, List.foldl_append]
  rfl

/-- Assigning adds no key but its own. -/
theorem mem_keys_assign {key other : κ} {value : ν} {dictionary : List (κ × ν)}
    (h : other ∈ (assign key value dictionary).map Prod.fst) :
    other = key ∨ other ∈ dictionary.map Prod.fst := by
  induction dictionary with
  | nil =>
      rw [assign, List.map_singleton, List.mem_singleton] at h
      exact .inl h
  | cons entry rest ih =>
      rw [assign] at h
      split at h
      · exact (List.mem_cons.mp h).imp id (List.mem_cons_of_mem _)
      · rcases List.mem_cons.mp h with heq | hrest
        · exact .inr (List.mem_cons.mpr (.inl heq))
        · exact (ih hrest).imp id (List.mem_cons_of_mem _)

/-- Assigning keeps each key once. -/
theorem nodup_keys_assign (key : κ) (value : ν) {dictionary : List (κ × ν)}
    (nodup : (dictionary.map Prod.fst).Nodup) :
    ((assign key value dictionary).map Prod.fst).Nodup := by
  induction dictionary with
  | nil => exact List.nodup_singleton key
  | cons entry rest ih =>
      obtain ⟨hnew, hrest⟩ := List.nodup_cons.mp nodup
      rw [assign]
      split
      next heq =>
        rw [← heq]
        exact nodup
      next hne =>
        refine List.nodup_cons.mpr ⟨fun hmem => ?_, ih hrest⟩
        rcases mem_keys_assign hmem with heq | hmem
        · exact hne heq
        · exact hnew hmem

/-- After an assignment its key holds its value and every other key what it held. -/
theorem mem_assign_iff {key other : κ} {value held : ν} {dictionary : List (κ × ν)}
    (nodup : (dictionary.map Prod.fst).Nodup) :
    (other, held) ∈ assign key value dictionary ↔
      (other = key ∧ held = value) ∨ (other ≠ key ∧ (other, held) ∈ dictionary) := by
  induction dictionary with
  | nil =>
      rw [assign, List.mem_singleton, Prod.mk.injEq]
      simp
  | cons entry rest ih =>
      obtain ⟨hnew, hrest⟩ := List.nodup_cons.mp nodup
      obtain ⟨first, firstHeld⟩ := entry
      rw [assign]
      split
      next heq =>
        -- the key stood first, so it stands nowhere in the rest
        have hfirst : first = key := heq
        have hother (hmem : (other, held) ∈ rest) : other ≠ key := by
          intro hkey
          rw [hkey, ← hfirst] at hmem
          have hagain : Prod.fst (first, held) ∈ rest.map Prod.fst := List.mem_map_of_mem hmem
          exact hnew hagain
        rw [List.mem_cons, List.mem_cons, Prod.mk.injEq, Prod.mk.injEq, hfirst]
        constructor
        · rintro (hown | hmem)
          · exact .inl hown
          · exact .inr ⟨hother hmem, .inr hmem⟩
        · rintro (hown | ⟨hne, hown | hmem⟩)
          · exact .inl hown
          · exact absurd hown.1 hne
          · exact .inr hmem
      next hne =>
        have hfirst : first ≠ key := hne
        rw [List.mem_cons, List.mem_cons, Prod.mk.injEq, ih hrest]
        constructor
        · rintro (⟨hown, hheld⟩ | hown | ⟨hkey, hmem⟩)
          · exact .inr ⟨hown ▸ hfirst, .inl ⟨hown, hheld⟩⟩
          · exact .inl hown
          · exact .inr ⟨hkey, .inr hmem⟩
        · rintro (hown | ⟨hkey, hown | hmem⟩)
          · exact .inr (.inl hown)
          · exact .inl hown
          · exact .inr (.inr ⟨hkey, hmem⟩)

/-- A new key goes to the end. -/
theorem assign_of_not_mem {key : κ} {value : ν} {dictionary : List (κ × ν)}
    (h : key ∉ dictionary.map Prod.fst) :
    assign key value dictionary = dictionary ++ [(key, value)] := by
  induction dictionary with
  | nil => rfl
  | cons entry rest ih =>
      obtain ⟨hne, hrest⟩ := List.ne_and_not_mem_of_not_mem_cons h
      rw [assign, if_neg (Ne.symm hne), ih hrest, List.cons_append]

/-- Assignments of different keys are the dictionary they make. -/
theorem assignAll_of_nodup {assignments : List (κ × ν)}
    (nodup : (assignments.map Prod.fst).Nodup) : assignAll [] assignments = assignments := by
  induction assignments using List.reverseRecOn with
  | nil => rfl
  | append_singleton assignments item ih =>
      rw [List.map_append, List.map_singleton, List.nodup_append] at nodup
      obtain ⟨hkeys, -, hnew⟩ := nodup
      rw [assignAll_append_singleton, ih hkeys]
      apply assign_of_not_mem
      intro hmem
      exact hnew _ hmem _ (List.mem_singleton_self _) rfl

/-- The assignment of the value to the key is there, and none of the key follows it. -/
def LastAssigned (assignments : List (κ × ν)) (key : κ) (value : ν) : Prop :=
  ∃ before after, assignments = before ++ (key, value) :: after ∧
    ∀ later ∈ after, later.1 ≠ key

omit [DecidableEq κ] in
theorem lastAssigned_append_singleton {assignments : List (κ × ν)} {key other : κ}
    {value held : ν} :
    LastAssigned (assignments ++ [(key, value)]) other held ↔
      (other = key ∧ held = value) ∨ (other ≠ key ∧ LastAssigned assignments other held) := by
  constructor
  · rintro ⟨before, after, hsplit, hafter⟩
    rcases List.eq_nil_or_concat after with rfl | ⟨after, last, rfl⟩
    · obtain ⟨-, hlast⟩ := List.append_inj' hsplit rfl
      cases hlast
      exact .inl ⟨rfl, rfl⟩
    · have hsplit' : assignments ++ [(key, value)] =
          (before ++ (other, held) :: after) ++ [last] := by
        rw [hsplit, List.append_assoc, List.cons_append, List.concat_eq_append]
      obtain ⟨hinit, hlast⟩ := List.append_inj' hsplit' rfl
      cases hlast
      refine .inr ⟨?_, before, after, hinit, fun later hlater => hafter later (by simp [hlater])⟩
      have hne := hafter (key, value) (by simp)
      exact fun heq => hne heq.symm
  · rintro (⟨rfl, rfl⟩ | ⟨hne, before, after, rfl, hafter⟩)
    · exact ⟨assignments, [], rfl, nofun⟩
    · refine ⟨before, after ++ [(key, value)], by simp, fun later hlater => ?_⟩
      rcases List.mem_append.mp hlater with hlater | hlast
      · exact hafter later hlater
      · rw [List.mem_singleton.mp hlast]
        exact hne.symm

/-- After a run of assignments to an empty dictionary, each key holds the value of its
last assignment. -/
theorem mem_assignAll_iff {assignments : List (κ × ν)} :
    ((assignAll [] assignments).map Prod.fst).Nodup ∧
      ∀ key value, (key, value) ∈ assignAll [] assignments ↔
        LastAssigned assignments key value := by
  induction assignments using List.reverseRecOn with
  | nil =>
      refine ⟨List.nodup_nil, fun key value => iff_of_false List.not_mem_nil ?_⟩
      rintro ⟨before, after, hsplit, -⟩
      exact absurd hsplit (by simp)
  | append_singleton assignments item ih =>
      obtain ⟨nodup, hmem⟩ := ih
      rw [assignAll_append_singleton]
      refine ⟨nodup_keys_assign _ _ nodup, fun key value => ?_⟩
      rw [mem_assign_iff nodup, hmem, lastAssigned_append_singleton]

/-! ## Only the first of each key

A dictionary may also be filled so that a key keeps its first value. A search that goes by the
keys alone does not notice. -/

/-- `if key not in dictionary: dictionary[key] = value`. -/
def assignNew (dictionary : List (κ × ν)) (item : κ × ν) : List (κ × ν) :=
  if item.1 ∈ dictionary.map Prod.fst then dictionary else dictionary ++ [item]

theorem find?_foldl_assignNew (selects : κ → Bool) (items dictionary : List (κ × ν)) :
    (items.foldl assignNew dictionary).find? (fun item => selects item.1) =
      (dictionary ++ items).find? fun item => selects item.1 := by
  induction items generalizing dictionary with
  | nil => rw [List.foldl_nil, List.append_nil]
  | cons item rest ih =>
      rw [List.foldl_cons, ih, assignNew]
      split
      next hheld =>
        obtain ⟨held, hmem, hkey⟩ := List.mem_map.mp hheld
        rw [List.find?_append, List.find?_append, List.find?_cons]
        cases hselects : selects item.1 with
        | false => rfl
        | true =>
            -- the entry of the same key in the dictionary is found before the item
            have hfound : (dictionary.find? fun item => selects item.1).isSome = true := by
              rw [List.find?_isSome]
              exact ⟨held, hmem, by rw [hkey, hselects]⟩
            obtain ⟨found, hfound⟩ := Option.isSome_iff_exists.mp hfound
            rw [hfound, Option.some_or, Option.some_or]
      next => rw [List.append_assoc, List.singleton_append]

/-! ## In the order of the keys

Sorting leaves what a key looks up alone, whether or not each key is there once. -/

section Sorted

variable {κ : Type u} {ν : Type v} [LinearOrder κ]

/-- The entries in the order of their keys. -/
def sortByKey (entries : List (κ × ν)) : List (κ × ν) :=
  entries.insertionSort fun first second => first.1 ≤ second.1

theorem sortByKey_sortByKey (entries : List (κ × ν)) :
    sortByKey (sortByKey entries) = sortByKey entries := by
  have htotal : Std.Total fun first second : κ × ν => first.1 ≤ second.1 :=
    ⟨fun first second => le_total first.1 second.1⟩
  have htrans : IsTrans (κ × ν) fun first second => first.1 ≤ second.1 :=
    ⟨fun first second third => le_trans⟩
  have hsorted : (sortByKey entries).Pairwise fun first second => first.1 ≤ second.1 :=
    List.pairwise_insertionSort _ entries
  exact hsorted.insertionSort_eq

/-- Changing the values does not change the order. -/
theorem sortByKey_map (change : ν → ν) (entries : List (κ × ν)) :
    sortByKey (entries.map fun entry => (entry.1, change entry.2)) =
      (sortByKey entries).map fun entry => (entry.1, change entry.2) := by
  symm
  apply List.map_insertionSort
  exact fun first _ second _ => Iff.rfl

variable [BEq κ] [LawfulBEq κ]

/-- Inserting an entry before the first one with no smaller key finds it like inserting it
in front: the entries passed over have other keys. -/
theorem lookup_orderedInsert (key : κ) (entry : κ × ν) (entries : List (κ × ν)) :
    (entries.orderedInsert (fun first second => first.1 ≤ second.1) entry).lookup key =
      (entry :: entries).lookup key := by
  induction entries with
  | nil => rfl
  | cons head rest ih =>
      rw [List.orderedInsert]
      split
      · rfl
      next hpassed =>
        have hne : head.1 ≠ entry.1 := fun heq => hpassed heq.ge
        rw [List.lookup_cons, ih, List.lookup_cons, List.lookup_cons, List.lookup_cons]
        by_cases hhead : key = head.1
        · have hentry : key ≠ entry.1 := fun heq => hne (hhead.symm.trans heq)
          rw [beq_iff_eq.mpr hhead, beq_eq_false_iff_ne.mpr hentry]
        · rw [beq_eq_false_iff_ne.mpr hhead]

theorem lookup_sortByKey (key : κ) (entries : List (κ × ν)) :
    (sortByKey entries).lookup key = entries.lookup key := by
  induction entries with
  | nil => rfl
  | cons entry rest ih =>
      rw [sortByKey, List.insertionSort_cons, lookup_orderedInsert, List.lookup_cons,
        List.lookup_cons, ← ih]
      rfl

end Sorted

end TrueFan.Foundations
