/-
# JSON values

The values `json.loads` yields. A JSON object is the list of its members in
iteration order, each name once, because that is all a Python dictionary built
by the decoder remembers. Numbers keep the distinction the decoder makes
between integers of any size and floats, including the non-finite floats that
Python reads and writes.
-/

import TrueFan.Python.Binary64

namespace TrueFan.Python

/-- A value `json.loads` can return. -/
inductive Json
  | null
  | bool (value : Bool)
  | int (value : ℤ)
  | float (value : PyFloat)
  | str (value : String)
  | array (items : List Json)
  | object (members : List (String × Json))

namespace Json

/-- `mapping.get(name)`: an absent member and an explicit null both read as
`None`. -/
def get (members : List (String × Json)) (name : String) : Json :=
  (members.lookup name).getD .null

/-- `mapping.get(name, default)`: only an absent member reads as the default. -/
def getOr (members : List (String × Json)) (name : String) (default : Json) : Json :=
  (members.lookup name).getD default

/-- `bool(value)`. -/
def truthy : Json → Bool
  | .null => false
  | .bool value => value
  | .int value => value != 0
  | .float (.finite x) => x.value != 0
  | .float _ => true
  | .str value => value != ""
  | .array items => !items.isEmpty
  | .object members => !members.isEmpty

/-- `value or other`. -/
def orElse (value other : Json) : Json := if value.truthy then value else other

/-- `value is None`. -/
def isNull : Json → Bool
  | .null => true
  | _ => false

/-- `value is True`, and `value === true` on a page. -/
def isTrue : Json → Bool
  | .bool value => value
  | _ => false

/-- `value == n` for an integer, which a boolean and a float can equal as well. -/
def equalsInt (n : ℤ) : Json → Bool
  | .int value => value = n
  | .bool value => (if value then 1 else 0) = n
  | .float (.finite x) => x.value = n
  | _ => false

@[simp]
theorem get_cons_self (name : String) (value : Json) (rest : List (String × Json)) :
    get ((name, value) :: rest) name = value := by
  simp [get]

theorem get_cons_of_ne {name other : String} (h : name ≠ other) (value : Json)
    (rest : List (String × Json)) :
    get ((other, value) :: rest) name = get rest name := by
  have hbeq : (name == other) = false := beq_eq_false_iff_ne.mpr h
  simp [get, List.lookup_cons, hbeq]

@[simp]
theorem truthy_bool (value : Bool) : truthy (.bool value) = value := rfl

end Json

end TrueFan.Python
