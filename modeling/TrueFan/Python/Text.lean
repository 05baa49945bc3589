/-
# Text in and out

What the program asks of Python strings when it talks to a device: `split` and
`strip` at Unicode whitespace, `int` of a text in a base, and the two-digit
hexadecimal rendering of a byte. `int` takes what Python takes: spaces around, a
sign, a base prefix, single underscores between digits, and the decimal digits of
every script. Its spaces are not those of `strip`: the four separators of ASCII are
none to it.
-/

import Mathlib.Algebra.GroupWithZero.Nat
import Mathlib.Algebra.Ring.Int.Defs
import Mathlib.Data.List.DropRight
import Mathlib.Data.List.Infix

namespace TrueFan.Python

/-- `str.isspace` of one character. -/
def isSpace (c : Char) : Bool :=
  let code := c.toNat
  (0x9 ≤ code && code ≤ 0xd) || (0x1c ≤ code && code ≤ 0x20) || code == 0x85 || code == 0xa0 ||
    code == 0x1680 || (0x2000 ≤ code && code ≤ 0x200a) || code == 0x2028 || code == 0x2029 ||
    code == 0x202f || code == 0x205f || code == 0x3000

/-- The words of a text, given the characters of the word it starts in. -/
def splitWords (word : List Char) : List Char → List (List Char)
  | [] => if word.isEmpty then [] else [word]
  | c :: rest =>
      if isSpace c then
        if word.isEmpty then splitWords [] rest else word :: splitWords [] rest
      else splitWords (word ++ [c]) rest

/-- `text.split()`. -/
def split (text : List Char) : List (List Char) := splitWords [] text

theorem of_mem_splitWords {before text word : List Char} (hbefore : ∀ c ∈ before, isSpace c = false)
    (h : word ∈ splitWords before text) : word ≠ [] ∧ ∀ c ∈ word, isSpace c = false := by
  induction text generalizing before with
  | nil =>
      rw [splitWords] at h
      split at h
      next => cases h
      next hempty =>
        obtain rfl := List.mem_singleton.mp h
        exact ⟨fun hnil => hempty (List.isEmpty_iff.mpr hnil), hbefore⟩
  | cons c rest ih =>
      rw [splitWords] at h
      split at h
      next =>
        split at h
        next => exact ih (List.forall_mem_nil _) h
        next hempty =>
          rcases List.mem_cons.mp h with rfl | h
          · exact ⟨fun hnil => hempty (List.isEmpty_iff.mpr hnil), hbefore⟩
          · exact ih (List.forall_mem_nil _) h
      next hspace =>
        apply ih _ h
        rw [List.forall_mem_append, List.forall_mem_singleton]
        exact ⟨hbefore, eq_false_of_ne_true hspace⟩

/-- The words of a text are not empty, and there is no space in them. -/
theorem of_mem_split {text word : List Char} (h : word ∈ split text) :
    word ≠ [] ∧ ∀ c ∈ word, isSpace c = false :=
  of_mem_splitWords (List.forall_mem_nil _) h

/-- `text.strip()`. -/
def strip (text : List Char) : List Char :=
  ((text.dropWhile isSpace).reverse.dropWhile isSpace).reverse

/-- A text is stripped if it neither begins nor ends with a space. -/
theorem strip_eq_self_iff {text : List Char} :
    strip text = text ↔
      ∀ h : text ≠ [], isSpace (text.head h) = false ∧ isSpace (text.getLast h) = false := by
  have hdef : strip text = (text.dropWhile isSpace).rdropWhile isSpace := rfl
  rw [hdef]
  constructor
  · intro hstrip h
    -- nothing was dropped on the left, for nothing comes back on the right
    have hleft : text.dropWhile isSpace = text := by
      refine (List.dropWhile_suffix isSpace).eq_of_length_le ?_
      have hlength := (List.rdropWhile_prefix isSpace (text.dropWhile isSpace)).length_le
      rwa [hstrip] at hlength
    rw [hleft] at hstrip
    have hlast := List.rdropWhile_eq_self_iff.mp hstrip h
    have hhead := List.dropWhile_eq_self_iff.mp hleft (List.length_pos_of_ne_nil h)
    rw [List.getElem_zero] at hhead
    exact ⟨eq_false_of_ne_true hhead, eq_false_of_ne_true hlast⟩
  · intro h
    have hleft : text.dropWhile isSpace = text := by
      rw [List.dropWhile_eq_self_iff]
      intro hlength
      rw [List.getElem_zero, (h (List.ne_nil_of_length_pos hlength)).1]
      exact Bool.false_ne_true
    rw [hleft, List.rdropWhile_eq_self_iff]
    intro hne
    rw [(h hne).2]
    exact Bool.false_ne_true

theorem strip_strip (text : List Char) : strip (strip text) = strip text := by
  rw [strip_eq_self_iff]
  intro h
  have hstarts : strip text <+: text.dropWhile isSpace := List.rdropWhile_prefix _ _
  have hne : text.dropWhile isSpace ≠ [] := hstarts.ne_nil h
  refine ⟨?_, eq_false_of_ne_true (List.rdropWhile_last_not _ _ h)⟩
  rw [hstarts.head h]
  exact List.head_dropWhile_not isSpace hne

/-- `text.removeprefix(front)`. -/
def removePrefix (front text : List Char) : List Char :=
  if front.isPrefixOf text then text.drop front.length else text

/-- `text.removesuffix(back)`. -/
def removeSuffix (back text : List Char) : List Char :=
  if back.isSuffixOf text then text.take (text.length - back.length) else text

/-- `text.lower()`, as far as a comparison with a name of ASCII without a `k` can tell. -/
def lowerAscii (text : List Char) : List Char := text.map Char.toLower

/-- `part in text`. -/
def occursIn (part text : List Char) : Bool := decide (part <:+: text)

/-- Replace from the left, past so many characters that belong to a replaced text. -/
def replaceFrom (old new : List Char) (skip : ℕ) : List Char → List Char
  | [] => []
  | c :: rest =>
      match skip with
      | skip + 1 => replaceFrom old new skip rest
      | 0 =>
          if old.isPrefixOf (c :: rest) then new ++ replaceFrom old new (old.length - 1) rest
          else c :: replaceFrom old new 0 rest

/-- `text.replace(old, new)` of a text `old` that is not empty. -/
def replace (old new text : List Char) : List Char := replaceFrom old new 0 text

/-- What `int` and `float` skip around a number: the separators U+001C to U+001F are spaces to
`strip` only. -/
def isNumberSpace (c : Char) : Bool := isSpace c && !(0x1c ≤ c.toNat && c.toNat ≤ 0x1f)

/-- The text without what `int` and `float` skip around it. -/
def trim (text : List Char) : List Char :=
  ((text.dropWhile isNumberSpace).reverse.dropWhile isNumberSpace).reverse

/-- Where there is no space there is nothing to skip. -/
theorem trim_of_not_space {text : List Char} (h : ∀ c ∈ text, isSpace c = false) :
    trim text = text := by
  have hnumber : ∀ c ∈ text, isNumberSpace c = false := by
    intro c hc
    rw [isNumberSpace, h c hc, Bool.false_and]
  have hfirst : text.dropWhile isNumberSpace = text := by
    rw [List.dropWhile_eq_self_iff]
    intro hlength
    rw [hnumber _ (List.getElem_mem hlength)]
    exact Bool.false_ne_true
  have hlast : text.rdropWhile isNumberSpace = text := by
    rw [List.rdropWhile_eq_self_iff]
    intro hne
    rw [hnumber _ (List.getLast_mem hne)]
    exact Bool.false_ne_true
  rw [trim, hfirst]
  exact hlast

/-- The zeros of the decimal digit runs of Unicode. -/
def decimalZeros : List ℕ :=
  [0x30, 0x660, 0x6f0, 0x7c0, 0x966, 0x9e6, 0xa66, 0xae6, 0xb66, 0xbe6, 0xc66, 0xce6, 0xd66, 0xde6,
    0xe50, 0xed0, 0xf20, 0x1040, 0x1090, 0x17e0, 0x1810, 0x1946, 0x19d0, 0x1a80, 0x1a90, 0x1b50,
    0x1bb0, 0x1c40, 0x1c50, 0xa620, 0xa8d0, 0xa900, 0xa9d0, 0xa9f0, 0xaa50, 0xabf0, 0xff10, 0x104a0,
    0x10d30, 0x11066, 0x110f0, 0x11136, 0x111d0, 0x112f0, 0x11450, 0x114d0, 0x11650, 0x116c0,
    0x11730, 0x118e0, 0x11950, 0x11c50, 0x11d50, 0x11da0, 0x11f50, 0x16a60, 0x16ac0, 0x16b50,
    0x1d7ce, 0x1d7d8, 0x1d7e2, 0x1d7ec, 0x1d7f6, 0x1e140, 0x1e2f0, 0x1e4f0, 0x1e950, 0x1fbf0]

/-- The value of a decimal digit of any script. -/
def decimalValue (c : Char) : Option ℕ :=
  (decimalZeros.find? fun start => start ≤ c.toNat && c.toNat < start + 10).map (c.toNat - ·)

/-- A digit of ASCII. -/
def isAsciiDigit (c : Char) : Bool := '0' ≤ c && c ≤ '9'

/-- The ASCII form of a decimal digit; other characters beyond ASCII spell no number. -/
def asciiDigit (c : Char) : Char :=
  if c.toNat < 128 then c
  else (decimalValue c).elim '?' fun digit => Char.ofNat ('0'.toNat + digit)

/-- What `int` and `float` read of a text. -/
def numberText (text : List Char) : List Char := (trim text).map asciiDigit

/-- The value of a digit of ASCII, letters counting on from ten. -/
def digitValue (c : Char) : Option ℕ :=
  if 'a' ≤ c ∧ c ≤ 'z' then some (c.toNat - 'a'.toNat + 10)
  else if 'A' ≤ c ∧ c ≤ 'Z' then some (c.toNat - 'A'.toNat + 10)
  else if isAsciiDigit c then some (c.toNat - '0'.toNat)
  else none

/-- The value of a run of digits with single underscores between them, on top of the
value of the digits before; `ended` says that the last character was a digit. -/
def digitsValue (base value : ℕ) (ended : Bool) : List Char → Option ℕ
  | [] => if ended then some value else none
  | c :: rest =>
      if c = '_' then
        if ended then digitsValue base value false rest else none
      else
        match digitValue c with
        | some digit =>
            if digit < base then digitsValue base (value * base + digit) true rest else none
        | none => none

/-- A sign and what follows it. -/
def takeSign : List Char → Bool × List Char
  | '-' :: rest => (true, rest)
  | '+' :: rest => (false, rest)
  | text => (false, text)

/-- The prefix `int` allows before hexadecimal digits, with the underscore it allows
after it. -/
def dropHexPrefix : List Char → List Char
  | '0' :: x :: rest =>
      if x = 'x' ∨ x = 'X' then removePrefix ['_'] rest else '0' :: x :: rest
  | text => text

def signed (negative : Bool) (value : ℕ) : ℤ := if negative then -value else value

/-- `int(text, 16)`, where it does not raise. -/
def parseHexInt (text : List Char) : Option ℤ :=
  let (negative, digits) := takeSign (numberText text)
  (digitsValue 16 0 false (dropHexPrefix digits)).map (signed negative)

/-- The most decimal digits `int` converts. -/
def maxStrDigits : ℕ := 4300

/-- `int(text)`, where it does not raise. -/
def parseInt (text : List Char) : Option ℤ :=
  let (negative, digits) := takeSign (numberText text)
  if maxStrDigits < digits.countP (· ≠ '_') then none
  else (digitsValue 10 0 false digits).map (signed negative)

/-! ## Bytes in hexadecimal -/

/-- Literals of bytes. -/
instance neZero_byte : NeZero 256 := ⟨Nat.succ_ne_zero 255⟩

def hexDigit (n : Fin 16) : Char :=
  if n.val < 10 then Char.ofNat ('0'.toNat + n.val) else Char.ofNat ('a'.toNat + (n.val - 10))

/-- The two digits of a byte. -/
def twoDigitHex (byte : Fin 256) : List Char :=
  [hexDigit ⟨byte.val / 16, by omega⟩, hexDigit ⟨byte.val % 16, by omega⟩]

/-- The text lists the bytes, two hexadecimal digits each, with whitespace between
them and possibly around them. -/
inductive ListsBytes : List (Fin 256) → List Char → Prop
  | none {blank} (blanks : blank.all isSpace = true) : ListsBytes [] blank
  | last {blank byte} (blanks : blank.all isSpace = true) :
      ListsBytes [byte] (blank ++ twoDigitHex byte)
  | cons {blank byte space bytes rest} (blanks : blank.all isSpace = true)
      (separated : isSpace space = true) (others : ListsBytes bytes rest) :
      ListsBytes (byte :: bytes) (blank ++ twoDigitHex byte ++ space :: rest)

theorem isSpace_hexDigit (n : Fin 16) : isSpace (hexDigit n) = false := by
  revert n
  decide

theorem splitWords_space {c : Char} (h : isSpace c = true) (rest : List Char) :
    splitWords [] (c :: rest) = splitWords [] rest := by
  rw [splitWords, if_pos h]
  rfl

theorem splitWords_blank {blank : List Char} (h : blank.all isSpace = true) (rest : List Char) :
    splitWords [] (blank ++ rest) = splitWords [] rest := by
  induction blank with
  | nil => rfl
  | cons c blank ih =>
      obtain ⟨hc, hblank⟩ := Bool.and_eq_true_iff.mp h
      rw [List.cons_append, splitWords_space hc, ih hblank]

theorem splitWords_char {c : Char} (h : isSpace c = false) (word rest : List Char) :
    splitWords word (c :: rest) = splitWords (word ++ [c]) rest := by
  rw [splitWords, h]
  rfl

/-- A byte is one word. -/
theorem splitWords_twoDigitHex (byte : Fin 256) (rest : List Char) :
    splitWords [] (twoDigitHex byte ++ rest) = splitWords (twoDigitHex byte) rest := by
  rw [twoDigitHex, List.cons_append, List.cons_append, List.nil_append,
    splitWords_char (isSpace_hexDigit _), splitWords_char (isSpace_hexDigit _)]
  rfl

/-- Splitting a list of bytes gives the bytes back. -/
theorem split_of_listsBytes {bytes : List (Fin 256)} {text : List Char}
    (lists : ListsBytes bytes text) : split text = bytes.map twoDigitHex := by
  rw [split]
  induction lists with
  | @none blank blanks =>
      rw [← List.append_nil blank, splitWords_blank blanks]
      rfl
  | @last blank byte blanks =>
      rw [splitWords_blank blanks, ← List.append_nil (twoDigitHex byte), splitWords_twoDigitHex]
      rfl
  | @cons blank byte space bytes rest blanks separated others ih =>
      rw [List.append_assoc, splitWords_blank blanks, splitWords_twoDigitHex, splitWords,
        if_pos separated, ih]
      rfl

/-- `int` of the two digits of a byte, with or without the prefix, is the byte. -/
theorem parseHexInt_twoDigitHex (byte : Fin 256) :
    parseHexInt (removePrefix ['0', 'x'] (twoDigitHex byte)) = some byte.val ∧
      parseHexInt ('0' :: 'x' :: twoDigitHex byte) = some byte.val := by
  revert byte
  decide +kernel

end TrueFan.Python
