/-
# The backend on its two sensor sources

The backend knows of its sources only that they can be asked. Here they are the two
clients, and what their replies hold reaches the safety policy. The policy takes a
finite number above the threshold for hot, and what it gets is the maximum of many
values: one infinite value hides the hot ones beside it.
-/

import TrueFan.Ast2600.Redfish
import TrueFan.Ast2600.TrueNas
import TrueFan.Policy.SafetyTable

namespace TrueFan

open Python

/-- One of the values is finite and above the threshold, and none is infinite. -/
def Exceeds (values : List PyFloat) (threshold : ℤ) : Prop :=
  .posInf ∉ values ∧ ∃ x : FiniteFloat, .finite x ∈ values ∧ (threshold : ℚ) < x.value

/-- What the policy makes of the maximum of numbers. -/
theorem isHot_maxOf_iff {values : List PyFloat} (nan : .nan ∉ values) (threshold : ℤ) :
    isHot (PyFloat.maxOf values) threshold = true ↔ Exceeds values threshold := by
  have hmaximum : PyFloat.IsMaximum values (PyFloat.maxOf values) :=
    PyFloat.isMaximum_maxOf fun value hvalue => ne_of_mem_of_not_mem hvalue nan
  cases hmax : PyFloat.maxOf values with
  | none =>
      rw [hmax] at hmaximum
      have hempty : values = [] := hmaximum
      rw [hempty]
      apply iff_of_false
      · intro hhot
        cases hhot
      · rintro ⟨-, x, hx, -⟩
        exact absurd hx List.not_mem_nil
  | some greatest =>
      rw [hmax] at hmaximum
      obtain ⟨hmem, hle⟩ := hmaximum
      cases greatest with
      | finite y =>
          constructor
          · intro hhot
            refine ⟨fun hinfinite => ?_, y, hmem, of_decide_eq_true hhot⟩
            cases hle _ hinfinite
          · rintro ⟨-, x, hx, hhot⟩
            have hxy : x.value ≤ y.value := by simpa [PyFloat.le, PyFloat.lt] using hle _ hx
            exact decide_eq_true (hhot.trans_le hxy)
      | posInf =>
          apply iff_of_false
          · intro hhot
            cases hhot
          · intro hexceeds
            exact hexceeds.1 hmem
      | negInf =>
          apply iff_of_false
          · intro hhot
            cases hhot
          · rintro ⟨-, x, hx, -⟩
            cases hle _ hx
      | nan => exact absurd hmem nan

namespace Ast2600Backend

variable {Link Web Socket : Type} (str : Json → List Char) (lower : List Char → List Char)

def onWeb {α : Type} (method : EStateM Failure Web α) : EStateM Failure (Web × Socket) α :=
  zoom Prod.fst (fun web sensors => (web, sensors.2)) method

def onSocket {α : Type} (method : EStateM Failure Socket α) : EStateM Failure (Web × Socket) α :=
  zoom Prod.snd (fun socket sensors => (sensors.1, socket)) method

/-- `Ast2600Backend` with its two clients. -/
def ofClients (ipmi : Ast2600Ipmi Link) (redfish : RedfishThermalClient Web)
    (truenas : TrueNasTemperatureClient Socket) : Ast2600Backend Link (Web × Socket) where
  ipmi
  redfish := onWeb (redfish.fetch str lower)
  truenas := onSocket (truenas.fetch lower)

end Ast2600Backend

end TrueFan
