/-
# JSON values with sorted names

What `json.dump` with `sort_keys` writes and `json.loads` reads back: the same value, with
the members of every object in the order of their names. Two values are the same but for
the order of members if they become equal in this way.
-/

import Mathlib.Data.String.Basic
import TrueFan.Foundations.Dictionary
import TrueFan.Python.Json

namespace TrueFan.Python

open Foundations

namespace Json

mutual

/-- How deep containers are nested in a value. -/
def depth : Json → ℕ
  | .array items => itemsDepth items + 1
  | .object members => membersDepth members + 1
  | _ => 0

def itemsDepth : List Json → ℕ
  | [] => 0
  | item :: rest => max (depth item) (itemsDepth rest)

def membersDepth : List (String × Json) → ℕ
  | [] => 0
  | (_, value) :: rest => max (depth value) (membersDepth rest)

end

mutual

/-- The value with the members of every object in the order of their names. -/
def sortKeys : Json → Json
  | .array items => .array (sortItems items)
  | .object members => .object (sortByKey (sortMembers members))
  | value => value

def sortItems : List Json → List Json
  | [] => []
  | item :: rest => sortKeys item :: sortItems rest

def sortMembers : List (String × Json) → List (String × Json)
  | [] => []
  | (name, value) :: rest => (name, sortKeys value) :: sortMembers rest

end

theorem sortKeys_object (members : List (String × Json)) :
    (object members).sortKeys = .object (sortByKey (sortMembers members)) := by
  rw [sortKeys]

theorem depth_object (members : List (String × Json)) :
    (object members).depth = membersDepth members + 1 := by
  rw [depth]

theorem sortMembers_eq_map (members : List (String × Json)) :
    sortMembers members = members.map fun entry => (entry.1, entry.2.sortKeys) := by
  induction members with
  | nil => rfl
  | cons entry rest ih =>
      obtain ⟨name, value⟩ := entry
      rw [sortMembers, ih, List.map_cons]

theorem sortMembers_sortByKey (members : List (String × Json)) :
    sortMembers (sortByKey members) = sortByKey (sortMembers members) := by
  rw [sortMembers_eq_map, sortMembers_eq_map, sortByKey_map]

mutual

/-- Sorting once is enough. -/
theorem sortKeys_sortKeys (value : Json) : value.sortKeys.sortKeys = value.sortKeys := by
  cases value with
  | array items => rw [sortKeys, sortKeys, sortItems_sortItems]
  | object members =>
      rw [sortKeys_object, sortKeys_object, sortMembers_sortByKey, sortByKey_sortByKey,
        sortMembers_sortMembers]
  | _ => rfl

theorem sortItems_sortItems (items : List Json) : sortItems (sortItems items) = sortItems items :=
  match items with
  | [] => rfl
  | item :: rest => by
      rw [sortItems, sortItems, sortKeys_sortKeys item, sortItems_sortItems rest]

theorem sortMembers_sortMembers (members : List (String × Json)) :
    sortMembers (sortMembers members) = sortMembers members :=
  match members with
  | [] => rfl
  | (name, value) :: rest => by
      rw [sortMembers, sortMembers, sortKeys_sortKeys value, sortMembers_sortMembers rest]

end

/-- A name reads the sorted value it read before. -/
theorem get_sortByKey_sortMembers (members : List (String × Json)) (name : String) :
    get (sortByKey (sortMembers members)) name = (get members name).sortKeys := by
  rw [get, lookup_sortByKey, get]
  induction members with
  | nil => rfl
  | cons entry rest ih =>
      obtain ⟨other, value⟩ := entry
      rw [sortMembers, List.lookup_cons, List.lookup_cons]
      cases name == other with
      | true => rfl
      | false => exact ih

end Json

end TrueFan.Python
