/-
# Values in the page's script

The script of the page reads JSON values by other rules than Python: every object and every
array is true, comparing and printing convert what they are given, and a conversion throws if
an object in its way brings a member `toString` of its own, since no value of JSON can be
called. A member that is absent is not a number; one that is null is zero.

What the conversions yield where they do not throw is a parameter: whether something is
thrown, and what a number or a text itself converts to, is all that the page depends on.
-/

import Mathlib.Data.List.Sort
import TrueFan.Python.Float
import TrueFan.Python.Json

namespace TrueFan

open Python

namespace Python.Json

/-- What a condition makes of a value. -/
def holds : Json → Bool
  | .null => false
  | .bool value => value
  | .int value => value != 0
  | .float (.finite x) => x.value != 0
  | .float .nan => false
  | .float _ => true
  | .str value => value != ""
  | .array _ => true
  | .object _ => true

/-- `value || other`. -/
def orOther (value other : Json) : Json := if value.holds then value else other

/-- `value && typeof value === "object" ? value : {}`, of which members are then read. -/
def membersOf : Json → List (String × Json)
  | .object members => members
  | _ => []

/-- `Array.isArray(value) ? value : []`. -/
def arrayItems : Json → List Json
  | .array items => items
  | _ => []

/-- The index that the name of a property spells, if it spells one. -/
def arrayIndex (name : String) : Option ℕ :=
  let index := name.toList.foldl (fun value c => 10 * value + (c.toNat - '0'.toNat)) 0
  if toString index = name ∧ index < 2 ^ 32 - 1 then some index else none

/-- The order of properties: indices go first, and by size; others stay as they were set. -/
def precedes (first second : String) : Bool :=
  match arrayIndex first, arrayIndex second with
  | some index, some other => index ≤ other
  | none, some _ => false
  | _, none => true

/-- `Object.entries`, of an object or an array. -/
def entries : Json → List (String × Json)
  | .object members => members.insertionSort fun first second => precedes first.1 second.1
  | .array items => items.zipIdx.map fun item => (toString item.2, item.1)
  | _ => []

theorem entries_object_perm (members : List (String × Json)) :
    (object members).entries.Perm members :=
  List.perm_insertionSort _ members

example : (object [("FAN2", .null), ("10", .null), ("9", .null), ("01", .null)]).entries.map
    Prod.fst = ["9", "10", "FAN2", "01"] := by
  decide

/-- `value === text`. -/
def isText (text : String) : Json → Bool
  | .str value => value = text
  | _ => false

mutual

/-- Converting the value does not throw. -/
def converts : Json → Bool
  | .array items => itemsConvert items
  | .object members => (members.lookup "toString").isNone
  | _ => true

def itemsConvert : List Json → Bool
  | [] => true
  | item :: rest => converts item && itemsConvert rest

end

end Python.Json

/-- What the script throws: an error of the language, or one with a message of its own. -/
inductive Thrown
  | typeError
  | error (message : String)

/-- What `String(value)` and `Number(value)` yield for values that convert. -/
structure Conversions where
  text : Json → String
  number : Json → PyFloat

namespace Conversions

variable (conversions : Conversions)

/-- `String(value)`. -/
def toText (value : Json) : Except Thrown String :=
  if value.converts then .ok (conversions.text value) else .error .typeError

/-- `Number(value)`. -/
def toNumber (value : Json) : Except Thrown PyFloat :=
  if value.converts then .ok (conversions.number value) else .error .typeError

/-- `Number(members.name)`. -/
def memberNumber (members : List (String × Json)) (name : String) : Except Thrown PyFloat :=
  match members.lookup name with
  | none => .ok .nan
  | some value => conversions.toNumber value

/-- `Number.isFinite(numeric) ? numeric : null`. -/
def finitePart : PyFloat → Option FiniteFloat
  | .finite x => some x
  | _ => none

/-- `finiteNumber`. -/
def finiteNumber (value : Json) : Except Thrown (Option FiniteFloat) :=
  if value.isNull || value.isText "" then .ok none
  else (conversions.toNumber value).map finitePart

/-- Numbers and texts convert to themselves. -/
structure Keeps : Prop where
  text : ∀ value, conversions.text (.str value) = value
  float : ∀ x, conversions.number (.float x) = x
  int : ∀ n (small : FiniteFloat.Small n), conversions.number (.int n) = .finite (.ofInt n small)

end Conversions

end TrueFan
