/-
# Floats as Python compares and reads them

Comparison, `max` and truth of floats, and `float` of a text. A float that is not a
number is in no relation to any other; the numbers, infinities included, are a linear
order, and on them `max` is the maximum of that order.
-/

import Mathlib.Order.WithBot
import TrueFan.Foundations.Peak
import TrueFan.Python.Binary64
import TrueFan.Python.Text

namespace TrueFan.Python

open Foundations

namespace PyFloat

/-- `first < second`. -/
def lt : PyFloat → PyFloat → Bool
  | .nan, _ => false
  | _, .nan => false
  | .finite first, .finite second => decide (first.value < second.value)
  | .finite _, .posInf => true
  | .finite _, .negInf => false
  | .posInf, _ => false
  | .negInf, .negInf => false
  | .negInf, _ => true

/-- `first <= second`. -/
def le : PyFloat → PyFloat → Bool
  | .nan, _ => false
  | _, .nan => false
  | first, second => !lt second first

/-- `max(first, second)`. -/
def max (first second : PyFloat) : PyFloat := if lt first second then second else first

/-- `bool(value)`. -/
def truthy : PyFloat → Bool
  | .finite x => x.value != 0
  | _ => true

/-- `value / divisor` for a positive integer. -/
def divNat (value : PyFloat) (divisor : ℕ) : PyFloat :=
  match value with
  | .finite x => .ofRat (x.value / divisor)
  | special => special

/-- `held or value` of a value that may be `None`. -/
def orElse (held : Option PyFloat) (value : PyFloat) : PyFloat :=
  match held with
  | some x => if x.truthy then x else value
  | none => value

/-- `max(held or value, value)`. -/
def raisedTo (held : Option PyFloat) (value : PyFloat) : PyFloat := max (orElse held value) value

/-- `max(values) if values else None`. -/
def maxOf : List PyFloat → Option PyFloat
  | [] => none
  | first :: rest => some (rest.foldl max first)

def zero : PyFloat := .finite (.ofInt 0)

/-- Where a number stands in the order of floats. -/
def extended : PyFloat → WithBot (WithTop ℚ)
  | .finite x => ((x.value : WithTop ℚ) : WithBot (WithTop ℚ))
  | .posInf => ((⊤ : WithTop ℚ) : WithBot (WithTop ℚ))
  | .negInf => ⊥
  | .nan => ⊥

/-- Numbers compare as their places in the order. -/
theorem extended_lt_iff {first second : PyFloat} (hfirst : first ≠ .nan) (hsecond : second ≠ .nan) :
    first.extended < second.extended ↔ lt first second = true := by
  cases first <;> cases second <;>
    first
    | exact absurd rfl hfirst
    | exact absurd rfl hsecond
    | exact iff_of_true (WithBot.coe_lt_coe.mpr (WithTop.coe_lt_top _)) rfl
    | simp [extended, lt]

theorem le_iff {first second : PyFloat} :
    le first second = true ↔ first ≠ .nan ∧ second ≠ .nan ∧ first.extended ≤ second.extended := by
  cases first <;> cases second <;>
    first
    | exact iff_of_true rfl ⟨nofun, nofun, WithBot.coe_le_coe.mpr le_top⟩
    | simp [extended, le, lt]

theorem le_trans {first second third : PyFloat} (h : le first second = true)
    (h' : le second third = true) : le first third = true := by
  obtain ⟨hfirst, -, hle⟩ := le_iff.mp h
  obtain ⟨-, hthird, hle'⟩ := le_iff.mp h'
  exact le_iff.mpr ⟨hfirst, hthird, hle.trans hle'⟩

theorem extended_inj {first second : PyFloat} (hfirst : first ≠ .nan) (hsecond : second ≠ .nan) :
    first.extended = second.extended ↔ first = second := by
  cases first <;> cases second <;>
    first
    | exact absurd rfl hfirst
    | exact absurd rfl hsecond
    | simp [extended, FiniteFloat.ext_iff]

end PyFloat

/-- A float that is a number, possibly an infinite one. -/
abbrev Number := {value : PyFloat // value ≠ .nan}

namespace Number

/-- Numbers are ordered as floats. -/
instance : LinearOrder Number :=
  LinearOrder.lift' (fun number : Number => number.val.extended)
    fun first second h => Subtype.ext ((PyFloat.extended_inj first.property second.property).mp h)

theorem lt_iff (first second : Number) : first < second ↔ PyFloat.lt first.val second.val = true :=
  PyFloat.extended_lt_iff first.property second.property

/-- Python's `max` of numbers is their maximum. -/
theorem val_max (first second : Number) :
    (max first second).val = PyFloat.max first.val second.val := by
  rw [PyFloat.max]
  split
  next hlt => rw [max_eq_right ((lt_iff first second).mpr hlt).le]
  next hle =>
    have hnot : ¬ first < second := fun hlt => hle ((lt_iff first second).mp hlt)
    rw [max_eq_left (not_lt.mp hnot)]

theorem le_iff (first second : Number) : first ≤ second ↔ PyFloat.le first.val second.val = true :=
  ⟨fun h => PyFloat.le_iff.mpr ⟨first.property, second.property, h⟩,
    fun h => (PyFloat.le_iff.mp h).2.2⟩

def zero : Number := ⟨PyFloat.zero, nofun⟩

theorem truthy_iff (number : Number) : number.val.truthy = true ↔ number ≠ zero := by
  rw [Ne, Subtype.ext_iff]
  obtain ⟨value, hvalue⟩ := number
  cases value with
  | finite x =>
      have hzero : (FiniteFloat.ofInt 0).value = 0 := Int.cast_zero
      simp [PyFloat.truthy, zero, PyFloat.zero, FiniteFloat.ext_iff, hzero]
  | posInf => exact iff_of_true rfl nofun
  | negInf => exact iff_of_true rfl nofun
  | nan => exact absurd rfl hvalue

/-- Python's raised maximum of numbers is the one that starts over at zero. -/
theorem val_raise (held : Option Number) (value : Number) :
    (raise zero held value).val = PyFloat.raisedTo (held.map Subtype.val) value.val := by
  rw [raise, val_max, PyFloat.raisedTo]
  congr 1
  cases held with
  | none => rfl
  | some number =>
      rw [Option.elim_some, Option.map_some, PyFloat.orElse]
      by_cases hzero : number = zero
      · have hfalsy : ¬ number.val.truthy = true := fun h => (truthy_iff number).mp h hzero
        rw [if_pos hzero, if_neg hfalsy]
      · rw [if_neg hzero, if_pos ((truthy_iff number).mpr hzero)]

theorem val_foldl_max (start : Number) (numbers : List Number) :
    (numbers.foldl max start).val = (numbers.map Subtype.val).foldl PyFloat.max start.val := by
  induction numbers generalizing start with
  | nil => rfl
  | cons number rest ih =>
      rw [List.foldl_cons, List.map_cons, List.foldl_cons, ← val_max]
      exact ih _

end Number

/-- The text without its underscores, if each stands between two digits; `afterDigit`
says that a digit came right before. -/
def dropUnderscores (afterDigit : Bool) : List Char → Option (List Char)
  | [] => some []
  | c :: rest =>
      if c = '_' then
        if afterDigit && rest.head?.any isAsciiDigit then dropUnderscores false rest else none
      else (dropUnderscores (isAsciiDigit c) rest).map (c :: ·)

/-- The number a run of digits stands for. -/
def digitsNat (digits : List Char) : ℕ :=
  digits.foldl (fun value c => value * 10 + (c.toNat - '0'.toNat)) 0

/-- The exponent a text ends in. -/
def parseExponent : List Char → Option ℤ
  | [] => some 0
  | c :: rest =>
      let (negative, digits) := takeSign rest
      if (c = 'e' ∨ c = 'E') ∧ digits ≠ [] ∧ digits.all isAsciiDigit then
        some (signed negative (digitsNat digits))
      else none

/-- The digits after a decimal point, and what follows them. -/
def takeFraction : List Char → List Char × List Char
  | '.' :: rest => rest.span isAsciiDigit
  | text => ([], text)

/-- The value of an unsigned decimal numeral. -/
def parseDecimal (text : List Char) : Option ℚ :=
  let (whole, rest) := text.span isAsciiDigit
  let (fraction, rest) := takeFraction rest
  if whole.isEmpty && fraction.isEmpty then none
  else (parseExponent rest).map fun exponent : ℤ =>
    digitsNat (whole ++ fraction) * (10 : ℚ) ^ (exponent - fraction.length)

/-- `float(text)`, where it does not raise. -/
def parseFloat (text : List Char) : Option PyFloat := do
  let text ← dropUnderscores false (numberText text)
  let (negative, body) := takeSign text
  let lowered := body.map Char.toLower
  if lowered = "inf".toList ∨ lowered = "infinity".toList then
    return if negative then .negInf else .posInf
  else if lowered = "nan".toList then return .nan
  else
    let value ← parseDecimal body
    return .ofRat (if negative then -value else value)

/-! ## Maxima -/

namespace PyFloat

/-- The value is the maximum of the list; an empty list has none. -/
def IsMaximum (values : List PyFloat) : Option PyFloat → Prop
  | none => values = []
  | some greatest => greatest ∈ values ∧ ∀ value ∈ values, le value greatest = true

theorem isMaximum_val_iff {numbers : List Number} {greatest : Number} :
    IsMaximum (numbers.map Subtype.val) (some greatest.val) ↔ GreatestIn numbers greatest := by
  rw [IsMaximum, List.forall_mem_map, List.mem_map_of_injective Subtype.val_injective]
  simp only [← Number.le_iff]
  rfl

/-- Only numbers have a maximum. -/
theorem ne_nan_of_isMaximum {values : List PyFloat} {greatest : PyFloat}
    (h : IsMaximum values (some greatest)) : ∀ value ∈ values, value ≠ .nan :=
  fun value hvalue => (le_iff.mp (h.2 value hvalue)).1

/-- The running maximum of a list of values. -/
def raisedAll (values : List PyFloat) : Option PyFloat :=
  values.foldl (fun held value => some (raisedTo held value)) none

theorem raisedAll_append_singleton (values : List PyFloat) (last : PyFloat) :
    raisedAll (values ++ [last]) = some (raisedTo (raisedAll values) last) := by
  rw [raisedAll, List.foldl_append]
  rfl

theorem raisedAll_val (numbers : List Number) :
    raisedAll (numbers.map Subtype.val) = (runningPeak Number.zero numbers).map Subtype.val := by
  induction numbers using List.reverseRecOn with
  | nil => rfl
  | append_singleton numbers last ih =>
      rw [runningPeak_append_singleton, Option.map_some, Number.val_raise, ← ih, List.map_append]
      exact raisedAll_append_singleton _ _

/-- There is nothing to lose: no value at all, or a greatest one that is not zero with a
negative value last. -/
def PeakKept (values : List PyFloat) : Prop :=
  values = [] ∨ ∃ greatest, IsMaximum values (some greatest) ∧
    ¬ (greatest = zero ∧ ∃ last, values.getLast? = some last ∧ lt last zero = true)

/-- For numbers, the greatest one may be lost exactly where the running maximum of the
order forgets it. -/
theorem peakKept_iff_not_forgotten {numbers : List Number} {last greatest : Number}
    (h : GreatestIn (numbers ++ [last]) greatest) :
    PeakKept ((numbers ++ [last]).map Subtype.val) ↔ ¬ Forgotten Number.zero greatest last := by
  have hlast : ((numbers ++ [last]).map Subtype.val).getLast? = some last.val := by simp
  have hforgotten : Forgotten Number.zero greatest last ↔
      greatest.val = zero ∧ ∃ last', some last.val = some last' ∧ lt last' zero = true := by
    rw [Forgotten, Subtype.ext_iff, Number.lt_iff]
    simp only [Option.some.injEq, exists_eq_left']
    rfl
  rw [PeakKept, hlast, hforgotten]
  constructor
  · rintro (hempty | ⟨value, hmaximum, hkept⟩)
    · simp at hempty
    · lift value to Number using ne_nan_of_isMaximum hmaximum value hmaximum.1
      rw [isMaximum_val_iff] at hmaximum
      rwa [hmaximum.unique h] at hkept
  · intro hkept
    exact .inr ⟨greatest.val, isMaximum_val_iff.mpr h, hkept⟩

/-- The running maximum is the maximum exactly if nothing can be lost. -/
theorem isMaximum_raisedAll_iff (values : List PyFloat) :
    IsMaximum values (raisedAll values) ↔ PeakKept values := by
  rcases List.eq_nil_or_concat values with rfl | ⟨before, last, rfl⟩
  · exact iff_of_true rfl (.inl rfl)
  rw [List.concat_eq_append]
  by_cases hnumbers : ∀ value ∈ before ++ [last], value ≠ .nan
  · lift before to List Number using fun value hvalue =>
      hnumbers value (List.mem_append_left _ hvalue)
    lift last to Number using hnumbers last (List.mem_append_right _ (List.mem_singleton_self last))
    obtain ⟨greatest, hgreatest⟩ := exists_greatestIn before last
    have hmap : before.map Subtype.val ++ [last.val] = (before ++ [last]).map Subtype.val := by simp
    rw [hmap, raisedAll_val, peakKept_iff_not_forgotten hgreatest,
      ← runningPeak_eq_greatest_iff Number.zero before hgreatest, runningPeak_append_singleton,
      Option.map_some, isMaximum_val_iff, Option.some.injEq]
    exact ⟨fun h => h.unique hgreatest, fun h => h ▸ hgreatest⟩
  · -- with a value that is no number there is no maximum
    apply iff_of_false
    · intro hmaximum
      rw [raisedAll_append_singleton] at hmaximum
      exact hnumbers (ne_nan_of_isMaximum hmaximum)
    · rintro (hempty | ⟨greatest, hmaximum, -⟩)
      · simp at hempty
      · exact hnumbers (ne_nan_of_isMaximum hmaximum)

/-- The greatest of a list is one of it. -/
theorem mem_of_maxOf {values : List PyFloat} {greatest : PyFloat}
    (h : maxOf values = some greatest) : greatest ∈ values := by
  cases values with
  | nil => cases h
  | cons first rest =>
      rw [← Option.some.inj h]
      clear h
      induction rest generalizing first with
      | nil => exact List.mem_singleton_self first
      | cons second rest ih =>
          rw [List.foldl_cons]
          have hchoice : max first second = first ∨ max first second = second := by
            rw [max]
            split
            · exact .inr rfl
            · exact .inl rfl
          rcases List.mem_cons.mp (ih (max first second)) with heq | hrest
          · rw [heq]
            rcases hchoice with hfirst | hsecond
            · simp [hfirst]
            · simp [hsecond]
          · exact List.mem_cons_of_mem _ (List.mem_cons_of_mem _ hrest)

/-- The greatest of a list of numbers is its maximum. -/
theorem isMaximum_maxOf {values : List PyFloat} (hnumbers : ∀ value ∈ values, value ≠ .nan) :
    IsMaximum values (maxOf values) := by
  lift values to List Number using hnumbers
  cases values with
  | nil => rfl
  | cons first rest =>
      have hmax : maxOf ((first :: rest).map Subtype.val) = some (rest.foldl Max.max first).val :=
        congrArg some (Number.val_foldl_max first rest).symm
      rw [hmax]
      exact isMaximum_val_iff.mpr (greatestIn_foldl_max first rest)

/-- The values are all numbers, or none of them is. -/
def Uniform (values : List PyFloat) : Prop :=
  (∀ value ∈ values, value ≠ .nan) ∨ ∀ value ∈ values, value = .nan

instance (values : List PyFloat) : Decidable (Uniform values) := inferInstanceAs (Decidable (_ ∨ _))

theorem IsMaximum.unique {values : List PyFloat} {first second : Option PyFloat}
    (hfirst : IsMaximum values first) (hsecond : IsMaximum values second) : first = second := by
  cases first with
  | none =>
      have hempty : values = [] := hfirst
      subst hempty
      cases second with
      | none => rfl
      | some greatest => exact absurd hsecond.1 List.not_mem_nil
  | some greatest =>
      cases second with
      | none =>
          have hempty : values = [] := hsecond
          subst hempty
          exact absurd hfirst.1 List.not_mem_nil
      | some other =>
          obtain ⟨hother, hgreatest, hle⟩ := le_iff.mp (hfirst.2 other hsecond.1)
          obtain ⟨-, -, hge⟩ := le_iff.mp (hsecond.2 greatest hfirst.1)
          exact congrArg some ((extended_inj hgreatest hother).mp (le_antisymm hge hle))

theorem IsMaximum.perm {values other : List PyFloat} {greatest : Option PyFloat}
    (h : IsMaximum values greatest) (perm : other.Perm values) : IsMaximum other greatest := by
  cases greatest with
  | none =>
      have hempty : values = [] := h
      exact (hempty ▸ perm).eq_nil
  | some greatest =>
      exact ⟨perm.mem_iff.mpr h.1, fun value hvalue => h.2 value (perm.mem_iff.mp hvalue)⟩

/-- What is no number is in front of `max` to stay. -/
theorem maxOf_nan_cons (rest : List PyFloat) : maxOf (.nan :: rest) = some .nan := by
  rw [maxOf]
  induction rest with
  | nil => rfl
  | cons second rest ih => exact ih

/-- A number in front of `max` gives way to numbers only. -/
theorem maxOf_cons_ne_nan {first : PyFloat} (hfirst : first ≠ .nan) (rest : List PyFloat) :
    maxOf (first :: rest) ≠ some .nan := by
  intro h
  have hnan : rest.foldl max first = .nan := Option.some.inj h
  clear h
  induction rest generalizing first with
  | nil => exact hfirst hnan
  | cons second rest ih =>
      apply ih _ hnan
      rw [max]
      split
      next hlt =>
        intro hsecond
        rw [hsecond] at hlt
        cases first <;> cases hlt
      next => exact hfirst

theorem maxOf_perm_of_uniform {values other : List PyFloat} (h : Uniform values)
    (perm : other.Perm values) : maxOf other = maxOf values := by
  rcases h with hnumbers | hnans
  · have hother : ∀ value ∈ other, value ≠ .nan :=
      fun value hvalue => hnumbers value (perm.mem_iff.mp hvalue)
    exact (isMaximum_maxOf hother).unique ((isMaximum_maxOf hnumbers).perm perm)
  · cases values with
    | nil => rw [perm.eq_nil]
    | cons first rest =>
        cases other with
        | nil => cases perm.nil_eq
        | cons second others =>
            rw [hnans first List.mem_cons_self, hnans second (perm.mem_iff.mp List.mem_cons_self),
              maxOf_nan_cons, maxOf_nan_cons]

/-- The maximum of what is read off entries is the same in every order of the entries
exactly if the values are uniform. -/
theorem uniform_filterMap_iff {α : Type*} (value : α → Option PyFloat) (entries : List α) :
    Uniform (entries.filterMap value) ↔
      ∀ other : List α, other.Perm entries →
        maxOf (other.filterMap value) = maxOf (entries.filterMap value) := by
  constructor
  · intro h other perm
    exact maxOf_perm_of_uniform h (perm.filterMap value)
  · intro hsame
    -- bring any entry to the front
    have hfront : ∀ x ∈ entries.filterMap value, ∃ rest,
        maxOf (x :: rest) = maxOf (entries.filterMap value) := by
      intro x hx
      obtain ⟨entry, hentry, hvalue⟩ := List.mem_filterMap.mp hx
      obtain ⟨before, after, rfl⟩ := List.append_of_mem hentry
      have hperm := hsame (entry :: (before ++ after)) List.perm_middle.symm
      rw [List.filterMap_cons_some hvalue] at hperm
      exact ⟨_, hperm⟩
    by_contra hmixed
    rw [Uniform, not_or] at hmixed
    obtain ⟨hnan, hnumber⟩ := hmixed
    push Not at hnan hnumber
    obtain ⟨x, hx, rfl⟩ := hnan
    obtain ⟨y, hy, hne⟩ := hnumber
    obtain ⟨rest, hrest⟩ := hfront _ hx
    obtain ⟨others, hothers⟩ := hfront y hy
    rw [maxOf_nan_cons] at hrest
    exact maxOf_cons_ne_nan hne others (hothers.trans hrest.symm)

/-- Among uniform values, no finite one is above the maximum. -/
theorem le_maxOf_of_uniform {values : List PyFloat} (h : Uniform values) {x : FiniteFloat}
    (hx : .finite x ∈ values) :
    ∃ greatest, maxOf values = some greatest ∧ le (.finite x) greatest = true := by
  rcases h with hnumbers | hnans
  · have hmaximum := isMaximum_maxOf hnumbers
    cases hmax : maxOf values with
    | none =>
        rw [hmax] at hmaximum
        have hempty : values = [] := hmaximum
        rw [hempty] at hx
        exact absurd hx List.not_mem_nil
    | some greatest =>
        rw [hmax] at hmaximum
        exact ⟨greatest, rfl, hmaximum.2 _ hx⟩
  · cases hnans _ hx

end PyFloat

end TrueFan.Python
