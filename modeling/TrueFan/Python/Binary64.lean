/-
# Python floats as exact rationals

A Python `float` is an IEEE binary64 number. The program under study compares
floats, adds a small integer to one and divides one by a thousand; what a proof
needs from them is the order of the exact values and a rounding that is the
real one. A finite float is therefore a rational together with evidence that
binary64 represents it, so no value outside the format can be built, and the
three special values are constructors of their own. Negative zero is identified
with zero: no operation below can tell them apart.

Rounding is to nearest, ties to even, with gradual underflow, and overflow at
the bound the standard gives.
-/

import Mathlib.Data.Int.Log
import Mathlib.Data.Rat.Floor
import Mathlib.Order.Lattice
import Mathlib.Tactic.Linarith
import Mathlib.Tactic.NormNum
import Mathlib.Tactic.Positivity
import Mathlib.Tactic.Ring

namespace TrueFan.Python

/-- The rationals binary64 represents: a 53-bit significand times a power of
two between the subnormal spacing and the spacing of the top binade. -/
def IsBinary64 (value : ℚ) : Prop :=
  ∃ significand exponent : ℤ, |significand| < 2 ^ 53 ∧
    -1074 ≤ exponent ∧ exponent ≤ 971 ∧ value = significand * 2 ^ exponent

/-- A finite float: a rational that binary64 represents. -/
structure FiniteFloat where
  value : ℚ
  representable : IsBinary64 value

namespace FiniteFloat

@[ext]
theorem ext {first second : FiniteFloat} (h : first.value = second.value) :
    first = second := by
  cases first
  cases second
  cases h
  rfl

theorem value_injective : Function.Injective FiniteFloat.value :=
  fun _ _ h => ext h

instance : DecidableEq FiniteFloat := fun first second =>
  decidable_of_iff (first.value = second.value)
    ⟨fun h => ext h, fun h => congrArg value h⟩

/-- Finite floats are ordered by their exact values. -/
instance : LinearOrder FiniteFloat := LinearOrder.lift' value value_injective

/-- The integer has at most 53 bits. It is tested, so that for a literal there is nothing to
prove. -/
def Small (n : ℤ) : Prop := @decide (|n| < 2 ^ 53) (Int.decLt _ _) = true

instance (n : ℤ) : Decidable (Small n) := instDecidableEqBool _ _

/-- A small integer is a float as it stands. -/
def ofInt (n : ℤ) (small : Small n := by exact (rfl : true = true)) : FiniteFloat :=
  ⟨n, n, 0, of_decide_eq_true small, by norm_num, by norm_num, by norm_num⟩

@[simp]
theorem ofInt_value (n : ℤ) (small : Small n) : (ofInt n small).value = n := rfl

end FiniteFloat

/-- A Python `float`. -/
inductive PyFloat
  | finite (x : FiniteFloat)
  | posInf
  | negInf
  | nan
  deriving DecidableEq

/-! ## Rounding to nearest, ties to even -/

/-- The integer nearest to `q`, the even one of two equally near. This is also
Python's `round` of a finite float. -/
def roundHalfEven (q : ℚ) : ℤ :=
  if q - ⌊q⌋ < 1 / 2 then ⌊q⌋
  else if 1 / 2 < q - ⌊q⌋ then ⌊q⌋ + 1
  else if ⌊q⌋ % 2 = 0 then ⌊q⌋ else ⌊q⌋ + 1

/-- Rounding never passes an integer lying above its argument. -/
theorem roundHalfEven_le {q : ℚ} {n : ℤ} (h : q ≤ n) : roundHalfEven q ≤ n := by
  have hfloor : ⌊q⌋ ≤ n := by exact_mod_cast (Int.floor_le q).trans h
  rw [roundHalfEven]
  split
  · exact hfloor
  next hhalf =>
    have hne : ⌊q⌋ ≠ n := by
      intro heq
      rw [heq] at hhalf
      linarith
    split
    · omega
    · split <;> omega

/-- Rounding never passes an integer lying below its argument. -/
theorem le_roundHalfEven {q : ℚ} {n : ℤ} (h : (n : ℚ) ≤ q) : n ≤ roundHalfEven q := by
  have hfloor : n ≤ ⌊q⌋ := Int.le_floor.mpr h
  rw [roundHalfEven]
  split
  · exact hfloor
  · split
    · omega
    · split <;> omega

/-- An argument less than half a unit below `n` rounds to an integer below `n`. -/
theorem roundHalfEven_lt_of_lt_half {q : ℚ} {n : ℤ} (h : q < n - 1 / 2) :
    roundHalfEven q < n := by
  have hlt : ⌊q⌋ < n := by
    have : (⌊q⌋ : ℚ) < n := lt_of_le_of_lt (Int.floor_le q) (by linarith)
    exact_mod_cast this
  have hup : roundHalfEven q ≤ ⌊q⌋ + 1 :=
    roundHalfEven_le (by push_cast; exact (Int.lt_floor_add_one q).le)
  rcases lt_or_eq_of_le (show ⌊q⌋ + 1 ≤ n by omega) with hfar | hnear
  · omega
  · -- the floor is `n - 1`, so the fraction is below one half
    have hfrac : q - ⌊q⌋ < 1 / 2 := by
      have : (⌊q⌋ : ℚ) + 1 = n := by exact_mod_cast hnear
      linarith
    have : roundHalfEven q = ⌊q⌋ := by
      rw [roundHalfEven, if_pos hfrac]
    omega

/-- An argument more than half a unit above `n` rounds to an integer above `n`. -/
theorem lt_roundHalfEven_of_half_lt {q : ℚ} {n : ℤ} (h : (n : ℚ) + 1 / 2 < q) :
    n < roundHalfEven q := by
  have hle : n ≤ ⌊q⌋ := Int.le_floor.mpr (by linarith)
  rcases lt_or_eq_of_le hle with hfar | hnear
  · have : ⌊q⌋ ≤ roundHalfEven q := le_roundHalfEven (Int.floor_le q)
    omega
  · have hfrac : 1 / 2 < q - ⌊q⌋ := by
      rw [← hnear]
      linarith
    have : roundHalfEven q = ⌊q⌋ + 1 := by
      rw [roundHalfEven, if_neg (not_lt.mpr hfrac.le), if_pos hfrac]
    omega

/-- The exponent of the last significand bit at the magnitude of `q`. -/
def ulpExponent (q : ℚ) : ℤ := max (Int.log 2 |q| - 52) (-1074)

/-- The binary64 number nearest to `q`, when `q` is below the overflow bound. -/
def nearest (q : ℚ) : ℚ := roundHalfEven (q / 2 ^ ulpExponent q) * 2 ^ ulpExponent q

/-- From this magnitude on, rounding to nearest overflows: half a unit in the
last place above the largest finite value. -/
def overflowBound : ℚ := (2 ^ 53 - 1 / 2) * 2 ^ (971 : ℤ)

private theorem two_zpow_pos (exponent : ℤ) : (0 : ℚ) < 2 ^ exponent :=
  zpow_pos (by norm_num) exponent

theorem overflowBound_lt : overflowBound < 2 ^ (1024 : ℤ) := by
  have hsplit : (2 : ℚ) ^ (1024 : ℤ) = 2 ^ 53 * 2 ^ (971 : ℤ) := by
    rw [← zpow_natCast, ← zpow_add₀ (by norm_num)]
    norm_num
  rw [hsplit, overflowBound]
  exact mul_lt_mul_of_pos_right (by norm_num) (two_zpow_pos _)

theorem abs_lt_two_zpow_ulpExponent (q : ℚ) : |q| < 2 ^ (ulpExponent q + 53) := by
  have hlog : |q| < (2 : ℚ) ^ (Int.log 2 |q| + 1) := by
    exact_mod_cast Int.lt_zpow_succ_log_self (R := ℚ) Nat.one_lt_two |q|
  refine hlog.trans_le (zpow_le_zpow_right₀ (by norm_num) ?_)
  have := le_max_left (Int.log 2 |q| - 52) (-1074)
  rw [ulpExponent]
  omega

theorem ulpExponent_le {q : ℚ} (h : |q| < overflowBound) : ulpExponent q ≤ 971 := by
  rw [ulpExponent]
  refine max_le ?_ (by norm_num)
  rcases eq_or_lt_of_le (abs_nonneg q) with hzero | hpos
  · rw [← hzero]
    norm_num
  have hself : (2 : ℚ) ^ Int.log 2 |q| ≤ |q| := by
    exact_mod_cast Int.zpow_log_le_self (R := ℚ) Nat.one_lt_two hpos
  have hlt : (2 : ℚ) ^ Int.log 2 |q| < 2 ^ (1024 : ℤ) :=
    hself.trans_lt (h.trans overflowBound_lt)
  have := (zpow_lt_zpow_iff_right₀ (by norm_num : (1 : ℚ) < 2)).mp hlt
  omega

/-- The scaled argument stays within 53 bits. -/
theorem abs_scaled_lt (q : ℚ) : |q / 2 ^ ulpExponent q| < 2 ^ 53 := by
  have hpos := two_zpow_pos (ulpExponent q)
  rw [abs_div, abs_of_pos hpos, div_lt_iff₀ hpos, ← zpow_natCast, ← zpow_add₀ (by norm_num)]
  simpa [add_comm] using abs_lt_two_zpow_ulpExponent q

theorem abs_roundHalfEven_scaled_le (q : ℚ) :
    |roundHalfEven (q / 2 ^ ulpExponent q)| ≤ 2 ^ 53 := by
  obtain ⟨hlow, hhigh⟩ := abs_lt.mp (abs_scaled_lt q)
  refine abs_le.mpr ⟨le_roundHalfEven ?_, roundHalfEven_le ?_⟩
  · push_cast
    exact hlow.le
  · push_cast
    exact hhigh.le

/-- In the top binade the overflow bound keeps the significand below `2 ^ 53`. -/
theorem abs_roundHalfEven_scaled_lt {q : ℚ} (h : |q| < overflowBound)
    (htop : ulpExponent q = 971) :
    |roundHalfEven (q / 2 ^ ulpExponent q)| < 2 ^ 53 := by
  have hscaled : |q / 2 ^ (971 : ℤ)| < 2 ^ 53 - 1 / 2 := by
    rw [abs_div, abs_of_pos (two_zpow_pos _), div_lt_iff₀ (two_zpow_pos _)]
    exact h
  have hcast : (((2 : ℤ) ^ 53 : ℤ) : ℚ) = 2 ^ 53 := by norm_num
  rw [htop]
  obtain ⟨hlow, hhigh⟩ := abs_lt.mp hscaled
  refine abs_lt.mpr ⟨lt_roundHalfEven_of_half_lt ?_, roundHalfEven_lt_of_lt_half ?_⟩
  · rw [Int.cast_neg, hcast]
    linarith only [hlow]
  · rw [hcast]
    exact hhigh

/-- Below the overflow bound, rounding lands in the format. -/
theorem isBinary64_nearest {q : ℚ} (h : |q| < overflowBound) : IsBinary64 (nearest q) := by
  have hulp : ulpExponent q ≤ 971 := ulpExponent_le h
  have hlow : -1074 ≤ ulpExponent q := le_max_right _ _
  rcases lt_or_eq_of_le (abs_roundHalfEven_scaled_le q) with hlt | hcarry
  · exact ⟨_, _, hlt, hlow, hulp, rfl⟩
  · -- the significand carried to `2 ^ 53`: halve it and raise the exponent
    have hbelow : ulpExponent q < 971 := by
      apply lt_of_le_of_ne hulp
      intro htop
      exact absurd hcarry (abs_roundHalfEven_scaled_lt h htop).ne
    have hshift : (2 : ℚ) ^ (ulpExponent q + 1) = 2 ^ ulpExponent q * 2 :=
      zpow_add_one₀ (by norm_num) _
    rcases abs_eq (by norm_num) |>.mp hcarry with hsign | hsign
    · refine ⟨2 ^ 52, ulpExponent q + 1, by norm_num, by omega, by omega, ?_⟩
      rw [nearest, hsign, hshift]
      push_cast
      ring
    · refine ⟨-2 ^ 52, ulpExponent q + 1, by norm_num, by omega, by omega, ?_⟩
      rw [nearest, hsign, hshift]
      push_cast
      ring

/-- A rational below the overflow bound as a finite float. -/
def FiniteFloat.round (q : ℚ) (h : |q| < overflowBound) : FiniteFloat :=
  ⟨nearest q, isBinary64_nearest h⟩

/-- The float of a rational: what a correctly rounded operation returns whose
exact result is `q`. -/
def PyFloat.ofRat (q : ℚ) : PyFloat :=
  if h : |q| < overflowBound then .finite (FiniteFloat.round q h)
  else if 0 < q then .posInf else .negInf

/-- Every finite float leaves room for a small addend below the overflow bound. -/
theorem FiniteFloat.abs_add_lt_overflowBound (x : FiniteFloat) {n : ℤ}
    (small : |n| < 2 ^ 53) : |x.value + n| < overflowBound := by
  obtain ⟨significand, exponent, hsig, -, hexp, hvalue⟩ := x.representable
  have hsig' : |(significand : ℚ)| ≤ 2 ^ 53 - 1 := by
    have : |significand| ≤ 2 ^ 53 - 1 := by omega
    exact_mod_cast this
  have hpow : (2 : ℚ) ^ exponent ≤ 2 ^ (971 : ℤ) := zpow_le_zpow_right₀ (by norm_num) hexp
  have habs : |x.value| ≤ (2 ^ 53 - 1) * 2 ^ (971 : ℤ) := by
    rw [hvalue, abs_mul, abs_of_pos (two_zpow_pos exponent)]
    exact mul_le_mul hsig' hpow (two_zpow_pos exponent).le (by norm_num)
  have hroom : (2 : ℚ) ^ 54 ≤ 2 ^ (971 : ℤ) := by
    rw [← zpow_natCast]
    exact zpow_le_zpow_right₀ (by norm_num) (by norm_num)
  have hn : |(n : ℚ)| < 2 ^ 53 := by exact_mod_cast small
  calc
    |x.value + n| ≤ |x.value| + |(n : ℚ)| := abs_add_le _ _
    _ < (2 ^ 53 - 1) * 2 ^ (971 : ℤ) + 2 ^ 53 := add_lt_add_of_le_of_lt habs hn
    _ ≤ overflowBound := by
      rw [overflowBound]
      generalize (2 : ℚ) ^ (971 : ℤ) = top at hroom
      linarith only [hroom]

/-- Float plus small integer; the sum of a finite float and such an integer
never overflows. -/
def FiniteFloat.addInt (x : FiniteFloat) (n : ℤ) (small : |n| < 2 ^ 53) : FiniteFloat :=
  FiniteFloat.round (x.value + n) (x.abs_add_lt_overflowBound small)

end TrueFan.Python
