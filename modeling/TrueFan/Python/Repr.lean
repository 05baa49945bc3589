/-
# JSON values as text

`str` of a decoded value: a text is itself, everything else is what `repr` makes of it,
with the texts inside quoted and escaped. How a float is spelled and which characters
beyond ASCII print are left open. Integers come from the decoder, which takes none with
more digits than `str` spells.
-/

import TrueFan.Python.Json
import TrueFan.Python.Text

namespace TrueFan.Python

/-- What `repr` is left open about. -/
structure Spelling where
  float : PyFloat → List Char
  isPrintable : Char → Bool

/-- So many hexadecimal digits of a number. -/
def hexText : ℕ → ℕ → List Char
  | 0, _ => []
  | width + 1, n => hexText width (n / 16) ++ [hexDigit ⟨n % 16, Nat.mod_lt n (by decide)⟩]

/-- The quotation mark `repr` puts around a text. -/
def quoteOf (text : List Char) : Char := if '\'' ∈ text ∧ '"' ∉ text then '"' else '\''

namespace Spelling

variable (spelling : Spelling)

/-- A character inside quotation marks. -/
def escaped (quote c : Char) : List Char :=
  if c = quote ∨ c = '\\' then ['\\', c]
  else if c = '\t' then ['\\', 't']
  else if c = '\n' then ['\\', 'n']
  else if c = '\r' then ['\\', 'r']
  else if ' ' ≤ c ∧ c.toNat < 0x7f ∨ 0x7f < c.toNat ∧ spelling.isPrintable c then [c]
  else if c.toNat ≤ 0xff then '\\' :: 'x' :: hexText 2 c.toNat
  else if c.toNat ≤ 0xffff then '\\' :: 'u' :: hexText 4 c.toNat
  else '\\' :: 'U' :: hexText 8 c.toNat

/-- `repr` of a text. -/
def reprText (text : List Char) : List Char :=
  let quote := quoteOf text
  quote :: (text.flatMap (spelling.escaped quote) ++ [quote])

/-- `", ".join(texts)`. -/
def joined (texts : List (List Char)) : List Char := List.intercalate [',', ' '] texts

mutual

/-- `repr`. -/
def repr : Json → List Char
  | .null => "None".toList
  | .bool true => "True".toList
  | .bool false => "False".toList
  | .int value => (toString value).toList
  | .float value => spelling.float value
  | .str value => spelling.reprText value.toList
  | .array items => '[' :: (joined (reprItems items) ++ [']'])
  | .object members => '{' :: (joined (reprMembers members) ++ ['}'])

def reprItems : List Json → List (List Char)
  | [] => []
  | item :: rest => repr item :: reprItems rest

def reprMembers : List (String × Json) → List (List Char)
  | [] => []
  | (name, value) :: rest =>
      (spelling.reprText name.toList ++ ':' :: ' ' :: repr value) :: reprMembers rest

end

/-- `str`. -/
def str : Json → List Char
  | .str value => value.toList
  | value => spelling.repr value

end Spelling

end TrueFan.Python
