/-
# Methods that are cut short

A method that changes memory and disk may die with its process. What it leaves on disk is
then compared with what another method leaves whose own operations only succeed or raise, as
an environment decides one after the other.

What the other method comes to is stated given the decisions it uses up; it then holds in
every environment that makes these decisions from the point on where the method starts. Where
the first method dies the other one goes on, and has to get to its end without touching the
disk once more: there have to be decisions under which it does.
-/

import Mathlib.Data.Nat.Notation
import TrueFan.Python.Effect

namespace TrueFan.Python

universe u v w

/-- How a method ends that does not return: it raises, or the process dies in it. -/
inductive Halt (ε : Type u)
  | raises (error : ε)
  | dies

section Decisions

variable {Decision : Type w}

/-- From the `n`-th on, the environment decides as listed. -/
def Decides (environment : ℕ → Decision) : ℕ → List Decision → Prop
  | _, [] => True
  | n, decision :: rest => environment n = decision ∧ Decides environment (n + 1) rest

theorem decides_append {environment : ℕ → Decision} {first second : List Decision} {n : ℕ} :
    Decides environment n (first ++ second) ↔
      Decides environment n first ∧ Decides environment (n + first.length) second := by
  induction first generalizing n with
  | nil => exact (and_iff_right trivial).symm
  | cons decision rest ih =>
      have hlength : n + 1 + rest.length = n + (decision :: rest).length := by
        rw [List.length_cons, Nat.add_right_comm, Nat.add_assoc]
      rw [List.cons_append, Decides, Decides, ih, hlength, and_assoc]

theorem decides_succ {environment : ℕ → Decision} {decisions : List Decision} {n : ℕ} :
    Decides environment (n + 1) decisions ↔ Decides (fun m => environment (m + 1)) n decisions := by
  induction decisions generalizing n with
  | nil => exact Iff.rfl
  | cons decision rest ih => rw [Decides, Decides, ih]

/-- Every list is decided by some environment. -/
theorem exists_decides (otherwise : Decision) (decisions : List Decision) :
    ∃ environment : ℕ → Decision, Decides environment 0 decisions := by
  induction decisions with
  | nil => exact ⟨fun _ => otherwise, trivial⟩
  | cons decision rest ih =>
      obtain ⟨environment, hrest⟩ := ih
      refine ⟨fun n => n.casesOn decision environment, rfl, ?_⟩
      exact decides_succ.mpr hrest

end Decisions

variable {ε σ τ α β γ : Type u} {κ : Type v} {Decision : Type w}

/-- An ending in a state. -/
def ended (ending : Except ε α) (state : σ) : EStateM.Result ε σ α :=
  match ending with
  | .ok value => .ok value state
  | .error error => .error error state

/-- With these decisions the method comes to the ending and leaves the core. `place` makes a
state of a core, the number of the next decision and the environment. -/
def ComesTo (place : κ → ℕ → (ℕ → Decision) → τ) (method : EStateM ε τ α) (core : κ)
    (decisions : List Decision) (ending : Except ε α) (after : κ) : Prop :=
  ∀ environment n, Decides environment n decisions →
    method (place core n environment) =
      ended ending (place after (n + decisions.length) environment)

namespace ComesTo

variable {place : κ → ℕ → (ℕ → Decision) → τ} {core between after : κ}
  {decisions later : List Decision} {first : EStateM ε τ α} {next : α → EStateM ε τ β}

theorem pure (value : α) (core : κ) :
    ComesTo place (pure value : EStateM ε τ α) core [] (.ok value) core :=
  fun _ _ _ => rfl

theorem throw (error : ε) (core : κ) :
    ComesTo place (throw error : EStateM ε τ α) core [] (.error error) core :=
  fun _ _ _ => rfl

theorem bind {value : α} {ending : Except ε β}
    (hfirst : ComesTo place first core decisions (.ok value) between)
    (hnext : ComesTo place (next value) between later ending after) :
    ComesTo place (first >>= next) core (decisions ++ later) ending after := by
  intro environment n hdecides
  obtain ⟨hdecides, hlater⟩ := decides_append.mp hdecides
  rw [bind_of_ok (hfirst environment n hdecides), hnext environment _ hlater, List.length_append,
    Nat.add_assoc]

theorem bind_error {error : ε}
    (hfirst : ComesTo place first core decisions (.error error) after) :
    ComesTo place (first >>= next) core decisions (.error error) after :=
  fun environment n hdecides => bind_of_error (hfirst environment n hdecides)

/-- Reading the state is reading the core, where the rest looks at nothing else. -/
theorem get_bind {next : τ → EStateM ε τ α} {rest : EStateM ε τ α} {ending : Except ε α}
    (hrest : ∀ n environment, next (place core n environment) = rest)
    (h : ComesTo place rest core decisions ending after) :
    ComesTo place (get >>= next) core decisions ending after := by
  intro environment n hdecides
  rw [get_bind_apply, hrest, h environment n hdecides]

end ComesTo

/-- There are decisions with which the method gets to an end and keeps a part of the core. -/
def CanKeep {π : Type*} (part : κ → π) (place : κ → ℕ → (ℕ → Decision) → τ)
    (method : EStateM ε τ α) : Prop :=
  ∀ core, ∃ decisions ending after, ComesTo place method core decisions ending after ∧
    part after = part core

namespace CanKeep

variable {π : Type*} {part : κ → π} {place : κ → ℕ → (ℕ → Decision) → τ}
  {first : EStateM ε τ α} {next : α → EStateM ε τ β}

theorem pure (value : α) : CanKeep part place (pure value : EStateM ε τ α) :=
  fun core => ⟨[], .ok value, core, .pure value core, rfl⟩

theorem throw (error : ε) : CanKeep part place (throw error : EStateM ε τ α) :=
  fun core => ⟨[], .error error, core, .throw error core, rfl⟩

theorem bind (hfirst : CanKeep part place first)
    (hnext : ∀ value, CanKeep part place (next value)) : CanKeep part place (first >>= next) := by
  intro core
  obtain ⟨decisions, ending, between, hcomes, hkept⟩ := hfirst core
  cases ending with
  | error error => exact ⟨decisions, .error error, between, hcomes.bind_error, hkept⟩
  | ok value =>
      obtain ⟨later, ending, after, hlater, hkept'⟩ := hnext value between
      exact ⟨decisions ++ later, ending, after, hcomes.bind hlater, hkept'.trans hkept⟩

theorem get_bind {next : τ → EStateM ε τ α} (rest : κ → EStateM ε τ α)
    (hrest : ∀ core n environment, next (place core n environment) = rest core)
    (h : ∀ core, CanKeep part place (rest core)) : CanKeep part place (get >>= next) := by
  intro core
  obtain ⟨decisions, ending, after, hcomes, hkept⟩ := h core core
  exact ⟨decisions, ending, after, .get_bind (hrest core) hcomes, hkept⟩

end CanKeep

/-! ## A method that is followed by another -/

section Follows

variable {π : Type*} (place : κ → ℕ → (ℕ → Decision) → τ) (part : κ → π)
  (related : σ → κ → Prop) (survives : σ → π → Prop)

/-- The endings agree, in related states; after a death only what survives it counts. -/
def Ends (agree : α → β → Prop) :
    EStateM.Result (Halt ε) σ α → Except ε β → κ → Prop
  | .ok value state, .ok value', core => agree value value' ∧ related state core
  | .error (.raises error) state, .error error', core => error = error' ∧ related state core
  | .error .dies state, _, core => survives state (part core)
  | _, _, _ => False

/-- From this state on the method is followed by the other one from that core on. -/
def FollowsAt (state : σ) (core : κ) (method : EStateM (Halt ε) σ α) (other : EStateM ε τ β)
    (agree : α → β → Prop) : Prop :=
  ∃ decisions ending after, ComesTo place other core decisions ending after ∧
    Ends part related survives agree (method state) ending after

/-- The method is followed by the other one. -/
def Follows (method : EStateM (Halt ε) σ α) (other : EStateM ε τ β) (agree : α → β → Prop) :
    Prop :=
  ∀ state core, related state core →
    FollowsAt place part related survives state core method other agree

end Follows

namespace Follows

variable {π : Type*} {place : κ → ℕ → (ℕ → Decision) → τ} {part : κ → π}
  {related : σ → κ → Prop} {survives : σ → π → Prop} {agree : α → β → Prop}

theorem pure {value : α} {value' : β} (h : agree value value') :
    Follows place part related survives (pure value : EStateM (Halt ε) σ α)
      (pure value' : EStateM ε τ β) agree :=
  fun _ core hrelated => ⟨[], .ok value', core, .pure value' core, h, hrelated⟩

theorem throw (error : ε) (agree : α → β → Prop) :
    Follows place part related survives (throw (.raises error) : EStateM (Halt ε) σ α)
      (throw error : EStateM ε τ β) agree :=
  fun _ core hrelated => ⟨[], .error error, core, .throw error core, rfl, hrelated⟩

/-- What is composed of methods that are followed is followed by what is composed, if all that
may have to go on after a death can leave alone what survives it. -/
theorem bind {δ : Type u} {first : EStateM (Halt ε) σ α} {first' : EStateM ε τ β}
    {next : α → EStateM (Halt ε) σ γ} {next' : β → EStateM ε τ δ} {agree' : γ → δ → Prop}
    (hfirst : Follows place part related survives first first' agree)
    (hnext : ∀ value value', agree value value' →
      Follows place part related survives (next value) (next' value') agree')
    (hkeep : ∀ value', CanKeep part place (next' value')) :
    Follows place part related survives (first >>= next) (first' >>= next') agree' := by
  intro state core hrelated
  obtain ⟨decisions, ending, between, hcomes, hends⟩ := hfirst state core hrelated
  cases hrun : first state with
  | ok value state' =>
      rw [hrun] at hends
      cases ending with
      | error error => exact hends.elim
      | ok value' =>
          obtain ⟨hagree, hbetween⟩ := hends
          obtain ⟨later, ending, after, hlater, hends⟩ :=
            hnext value value' hagree state' between hbetween
          refine ⟨decisions ++ later, ending, after, hcomes.bind hlater, ?_⟩
          rwa [bind_of_ok hrun]
  | error halt state' =>
      rw [hrun] at hends
      rw [FollowsAt, bind_of_error hrun]
      cases halt with
      | raises error =>
          cases ending with
          | ok value' => exact hends.elim
          | error error' => exact ⟨decisions, .error error', between, hcomes.bind_error, hends⟩
      | dies =>
          cases ending with
          | error error' => exact ⟨decisions, .error error', between, hcomes.bind_error, hends⟩
          | ok value' =>
              obtain ⟨later, ending, after, hlater, hkept⟩ := hkeep value' between
              refine ⟨decisions ++ later, ending, after, hcomes.bind hlater, ?_⟩
              show survives state' (part after)
              rw [hkept]
              exact hends

theorem get_bind {next : σ → EStateM (Halt ε) σ α} {next' : τ → EStateM ε τ β}
    (rest : κ → EStateM ε τ β)
    (hrest : ∀ core n environment, next' (place core n environment) = rest core)
    (h : ∀ state core, related state core →
      FollowsAt place part related survives state core (next state) (rest core) agree) :
    Follows place part related survives (get >>= next) (get >>= next') agree := by
  intro state core hrelated
  obtain ⟨decisions, ending, after, hcomes, hends⟩ := h state core hrelated
  exact ⟨decisions, ending, after, .get_bind (hrest core) hcomes, hends⟩

end Follows

end TrueFan.Python
