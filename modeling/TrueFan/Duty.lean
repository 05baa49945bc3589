/-
# Duty and raw PWM

A duty is a percentage clamped into the controllable range, and the hardware of
one backend wants it as a byte. The two conversions divide as Python does: a
correctly rounded float division, then `round` to the even neighbour.
-/

import TrueFan.Python.Binary64

namespace TrueFan

open Python

def minDutyPercent : ℤ := 22
def maxDutyPercent : ℤ := 100

/-- `clamp_percent`. -/
def clampPercent (percent : ℤ) : ℤ := max minDutyPercent (min maxDutyPercent percent)

/-- `round(numerator / denominator)`. -/
def roundQuotient (numerator denominator : ℤ) : ℤ :=
  roundHalfEven (nearest (numerator / denominator))

/-- `percent_to_pwm`. -/
def percentToPwm (percent : ℤ) : ℤ := roundQuotient (clampPercent percent * 255) 100

/-- `pwm_to_percent`. -/
def pwmToPercent (pwm : ℤ) : ℤ := clampPercent (roundQuotient (max 0 (min 255 pwm) * 100) 255)

theorem minimum_le_clampPercent (percent : ℤ) : 22 ≤ clampPercent percent :=
  le_max_left _ _

theorem clampPercent_le_maximum (percent : ℤ) : clampPercent percent ≤ 100 :=
  max_le (by decide) (min_le_left _ _)

/-- Clamping leaves a duty in range alone. -/
theorem clampPercent_of_mem {percent : ℤ} (hmin : 22 ≤ percent) (hmax : percent ≤ 100) :
    clampPercent percent = percent := by
  show max 22 (min 100 percent) = percent
  rw [min_eq_right hmax, max_eq_right hmin]

/-- Clamping takes no duty below a bound it was not already below. -/
theorem le_clampPercent {bound percent : ℤ} (hbound : bound ≤ 100) (h : bound ≤ percent) :
    bound ≤ clampPercent percent :=
  (le_min hbound h).trans (le_max_right _ _)

end TrueFan
