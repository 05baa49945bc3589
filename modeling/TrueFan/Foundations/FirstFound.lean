/-
# The first that is found

A search looks at one item after the other, each of which holds something, holds nothing
or makes the search raise, and returns the first thing it finds. It raises only at an
item it gets to, so an item that would make it raise does no harm behind one that holds
something.
-/

import Mathlib.Data.List.Basic

namespace TrueFan.Foundations

universe u

variable {ε α β γ : Type u}

/-- What the first item that holds something holds. -/
def firstFound (look : α → Except ε (Option β)) : List α → Except ε (Option β)
  | [] => .ok none
  | item :: rest =>
      match look item with
      | .error error => .error error
      | .ok (some found) => .ok (some found)
      | .ok none => firstFound look rest

/-- The items a search gets to hold nothing, up to the last, and are fine. -/
def FineUntilFound (fine : α → Prop) (held : α → Option β) (items : List α) : Prop :=
  ∀ item ∈ items.takeWhile fun item => (held item).isNone, fine item

instance (fine : α → Prop) [DecidablePred fine] (held : α → Option β) (items : List α) :
    Decidable (FineUntilFound fine held items) :=
  inferInstanceAs (Decidable (∀ item ∈ items.takeWhile _, fine item))

variable {look : α → Except ε (Option β)} {fine : α → Prop} {held : α → Option β} {error : ε}

theorem firstFound_nil : firstFound look [] = .ok none := rfl

theorem firstFound_append (items others : List α) :
    firstFound look (items ++ others) =
      match firstFound look items with
      | .error error => .error error
      | .ok (some found) => .ok (some found)
      | .ok none => firstFound look others := by
  induction items with
  | nil => rfl
  | cons item rest ih =>
      rw [List.cons_append, firstFound, firstFound]
      cases look item with
      | error error => rfl
      | ok found =>
          cases found with
          | none => exact ih
          | some found => rfl

/-- What was found is held by an item. -/
theorem exists_of_firstFound {items : List α} {found : β}
    (h : firstFound look items = .ok (some found)) :
    ∃ item ∈ items, look item = .ok (some found) := by
  induction items with
  | nil => cases h
  | cons item rest ih =>
      rw [firstFound] at h
      split at h
      next => cases h
      next hlook =>
        cases h
        exact ⟨item, List.mem_cons_self, hlook⟩
      next =>
        obtain ⟨other, hother, hlook⟩ := ih h
        exact ⟨other, List.mem_cons_of_mem _ hother, hlook⟩

/-- A search in a search is a search through all there is to look at. -/
theorem firstFound_flatMap (parts : γ → List α) (items : List γ) :
    firstFound look (items.flatMap parts) =
      firstFound (fun item => firstFound look (parts item)) items := by
  induction items with
  | nil => rfl
  | cons item rest ih =>
      rw [List.flatMap_cons, firstFound_append, firstFound, ih]

theorem fineUntilFound_nil : FineUntilFound fine held [] :=
  fun _ hitem => absurd hitem List.not_mem_nil

theorem fineUntilFound_cons_of_none {item : α} (h : held item = none) (rest : List α) :
    FineUntilFound fine held (item :: rest) ↔ fine item ∧ FineUntilFound fine held rest := by
  rw [FineUntilFound, List.takeWhile_cons_of_pos (by rw [h]; rfl), List.forall_mem_cons]
  rfl

theorem fineUntilFound_cons_of_some {item : α} {found : β} (h : held item = some found)
    (rest : List α) : FineUntilFound fine held (item :: rest) := by
  rw [FineUntilFound, List.takeWhile_cons_of_neg (by rw [h]; exact Bool.false_ne_true)]
  exact fun _ hitem => absurd hitem List.not_mem_nil

/-- A search whose items that are not fine make it raise finds the first thing held if it
gets to none of them. -/
theorem firstFound_eq_ite [DecidablePred fine]
    (hlook : ∀ item, look item = if fine item then .ok (held item) else .error error)
    (hheld : ∀ item, ¬ fine item → held item = none) (items : List α) :
    firstFound look items =
      if FineUntilFound fine held items then .ok (items.findSome? held) else .error error := by
  induction items with
  | nil => rw [if_pos fineUntilFound_nil, firstFound_nil, List.findSome?_nil]
  | cons item rest ih =>
      rw [firstFound, hlook]
      cases hitem : held item with
      | some found =>
          have hfine : fine item := by
            by_contra h
            rw [hheld item h] at hitem
            cases hitem
          rw [if_pos hfine, if_pos (fineUntilFound_cons_of_some hitem rest),
            List.findSome?_cons_of_isSome (by rw [hitem]; rfl), hitem]
      | none =>
          have hcons : FineUntilFound fine held (item :: rest) ↔
              fine item ∧ FineUntilFound fine held rest := fineUntilFound_cons_of_none hitem rest
          by_cases hfine : fine item
          · rw [if_pos hfine, List.findSome?_cons_of_isNone (by rw [hitem]; rfl)]
            rw [and_iff_right hfine] at hcons
            simp only [hcons]
            exact ih
          · rw [if_neg hfine, if_neg fun h => hfine (hcons.mp h).1]

end TrueFan.Foundations
