/-
# Numerals

What `int(text, 16)` takes for a positive number, as a grammar: which characters may stand
where, and the digits they spell. The parser accepts exactly these texts, so that what a reader
accepts can be said of the characters it is given.
-/

import TrueFan.Python.Text

namespace TrueFan.Python

/-- The letters that are hexadecimal digits, with their values. -/
def hexLetters : List (Char × ℕ) :=
  [('a', 10), ('b', 11), ('c', 12), ('d', 13), ('e', 14), ('f', 15), ('A', 10), ('B', 11),
    ('C', 12), ('D', 13), ('E', 14), ('F', 15)]

/-- A hexadecimal digit is such a letter or a decimal digit of any script. -/
def HexDigit (c : Char) (digit : ℕ) : Prop := (c, digit) ∈ hexLetters ∨ decimalValue c = some digit

/-- The text spells the digits, with single underscores between some of them. -/
inductive SpellsDigits : List Char → List ℕ → Prop
  | one {c digit} (isDigit : HexDigit c digit) : SpellsDigits [c] [digit]
  | more {c digit text digits} (isDigit : HexDigit c digit) (others : SpellsDigits text digits) :
      SpellsDigits (c :: text) (digit :: digits)
  | parted {c digit text digits} (isDigit : HexDigit c digit) (others : SpellsDigits text digits) :
      SpellsDigits (c :: '_' :: text) (digit :: digits)

/-- A prefix may come before the digits, and one underscore after it. -/
inductive SpellsUnsigned : List Char → List ℕ → Prop
  | plain {text digits} (spells : SpellsDigits text digits) : SpellsUnsigned text digits
  | marked {zero x text digits} (isZero : decimalValue zero = some 0) (isX : x = 'x' ∨ x = 'X')
      (spells : SpellsDigits text digits) : SpellsUnsigned (zero :: x :: text) digits
  | parted {zero x text digits} (isZero : decimalValue zero = some 0) (isX : x = 'x' ∨ x = 'X')
      (spells : SpellsDigits text digits) : SpellsUnsigned (zero :: x :: '_' :: text) digits

/-- The number that comes of more digits. -/
def hexOnto (value : ℕ) (digits : List ℕ) : ℕ :=
  digits.foldl (fun value digit => value * 16 + digit) value

/-- The text is a numeral of the value. -/
inductive Numeral : List Char → ℕ → Prop
  | unsigned {text digits} (spells : SpellsUnsigned text digits) : Numeral text (hexOnto 0 digits)
  | plus {text digits} (spells : SpellsUnsigned text digits) :
      Numeral ('+' :: text) (hexOnto 0 digits)

variable {c : Char} {digit value : ℕ} {text : List Char} {digits : List ℕ} {ended : Bool}

theorem decimalValue_lt (h : decimalValue c = some digit) : digit < 10 := by
  obtain ⟨start, hfind, rfl⟩ := Option.map_eq_some_iff.mp h
  have hrange := List.find?_some hfind
  rw [Bool.and_eq_true, decide_eq_true_eq, decide_eq_true_eq] at hrange
  omega

theorem asciiDigit_of_lt (h : c.toNat < 128) : asciiDigit c = c := if_pos h

/-- A character beyond ASCII becomes a digit or nothing that is in a numeral. -/
theorem asciiDigit_of_le (h : 128 ≤ c.toNat) :
    (∃ digit < 10, decimalValue c = some digit ∧ asciiDigit c = Char.ofNat ('0'.toNat + digit)) ∨
      (decimalValue c = none ∧ asciiDigit c = '?') := by
  rw [asciiDigit, if_neg (Nat.not_lt.mpr h)]
  cases hvalue : decimalValue c with
  | none => exact .inr ⟨rfl, rfl⟩
  | some digit => exact .inl ⟨digit, decimalValue_lt hvalue, rfl, rfl⟩

/-- The characters of a numeral that are no digits are read as they stand. -/
theorem asciiDigit_eq_iff {mark : Char} (hmark : mark ∈ ['_', 'x', 'X', '+', '-']) :
    asciiDigit c = mark ↔ c = mark := by
  obtain ⟨hlt, hother, hdigit⟩ : mark.toNat < 128 ∧ '?' ≠ mark ∧
      ∀ digit < 10, Char.ofNat ('0'.toNat + digit) ≠ mark := by
    simp only [List.mem_cons, List.not_mem_nil, or_false] at hmark
    rcases hmark with rfl | rfl | rfl | rfl | rfl <;> decide
  rcases Nat.lt_or_ge c.toNat 128 with h | h
  · rw [asciiDigit_of_lt h]
  · have hne : c ≠ mark := by
      rintro rfl
      omega
    rcases asciiDigit_of_le h with ⟨digit, hten, -, heq⟩ | ⟨-, heq⟩
    · rw [heq]
      exact iff_of_false (hdigit digit hten) hne
    · rw [heq]
      exact iff_of_false hother hne

/-- A property of the characters of ASCII holds if it holds of their codes. -/
theorem forall_ascii (property : Char → Prop) (h : ∀ code : Fin 128, property (Char.ofNat code.val))
    (hlt : c.toNat < 128) : property c := by
  have hc := h ⟨c.toNat, hlt⟩
  rwa [Char.ofNat_toNat] at hc

theorem asciiDigit_eq_zero_iff : asciiDigit c = '0' ↔ decimalValue c = some 0 := by
  rcases Nat.lt_or_ge c.toNat 128 with h | h
  · rw [asciiDigit_of_lt h]
    exact forall_ascii (fun c => c = '0' ↔ decimalValue c = some 0) (by decide +kernel) h
  · have hdigits : ∀ digit < 10, Char.ofNat ('0'.toNat + digit) = '0' ↔ digit = 0 := by decide
    rcases asciiDigit_of_le h with ⟨digit, hten, hvalue, heq⟩ | ⟨hvalue, heq⟩
    · rw [heq, hvalue, hdigits digit hten, Option.some.injEq]
    · rw [heq, hvalue]
      decide

/-- The parser reads the digits of the grammar. -/
theorem hexDigit_iff : HexDigit c digit ↔ digitValue (asciiDigit c) = some digit ∧ digit < 16 := by
  have hletters : ∀ letter ∈ hexLetters, letter.1.toNat < 128 ∧
      digitValue letter.1 = some letter.2 ∧ letter.2 < 16 := by
    decide
  rcases Nat.lt_or_ge c.toNat 128 with h | h
  · rw [asciiDigit_of_lt h]
    -- a digit of ASCII that is below sixteen is a letter up to f or a decimal digit
    have hall : ∀ digit : Fin 16, HexDigit c digit.val ↔ digitValue c = some digit.val :=
      forall_ascii (fun c => ∀ digit : Fin 16,
        (c, digit.val) ∈ hexLetters ∨ decimalValue c = some digit.val ↔
          digitValue c = some digit.val) (by decide +kernel) h
    constructor
    · intro hdigit
      have hlt : digit < 16 := by
        rcases hdigit with hletter | hdecimal
        · exact (hletters _ hletter).2.2
        · exact (decimalValue_lt hdecimal).trans (by decide)
      exact ⟨(hall ⟨digit, hlt⟩).mp hdigit, hlt⟩
    · rintro ⟨hvalue, hlt⟩
      exact (hall ⟨digit, hlt⟩).mpr hvalue
  · have hnone : (c, digit) ∉ hexLetters := fun hletter =>
      absurd (hletters _ hletter).1 (Nat.not_lt.mpr h)
    have hdigits : ∀ digit < 10, digitValue (Char.ofNat ('0'.toNat + digit)) = some digit := by
      decide
    rw [HexDigit, or_iff_right hnone]
    rcases asciiDigit_of_le h with ⟨other, hten, hvalue, heq⟩ | ⟨hvalue, heq⟩
    · rw [heq, hvalue, hdigits other hten, Option.some.injEq]
      constructor
      · rintro rfl
        exact ⟨rfl, by omega⟩
      · exact And.left
    · rw [heq, hvalue]
      exact iff_of_false nofun fun hdigit => nomatch hdigit.1

/-- A mark of a numeral is no digit. -/
theorem not_hexDigit {mark : Char} (hmark : mark ∈ ['_', 'x', 'X', '+', '-']) (digit : ℕ) :
    ¬ HexDigit mark digit := by
  obtain ⟨hletters, hnone⟩ : (hexLetters.all fun letter => letter.1 ≠ mark) = true ∧
      decimalValue mark = none := by
    simp only [List.mem_cons, List.not_mem_nil, or_false] at hmark
    rcases hmark with rfl | rfl | rfl | rfl | rfl <;> decide
  rintro (hletter | hdecimal)
  · have hne := List.all_eq_true.mp hletters _ hletter
    exact absurd rfl (of_decide_eq_true hne)
  · rw [hnone] at hdecimal
    cases hdecimal

/-! ## Digits -/

/-- One digit of the parser. -/
theorem digitsValue_cons (isDigit : HexDigit c digit) (value : ℕ) (ended : Bool)
    (rest : List Char) :
    digitsValue 16 value ended (asciiDigit c :: rest) =
      digitsValue 16 (value * 16 + digit) true rest := by
  obtain ⟨hvalue, hlt⟩ := hexDigit_iff.mp isDigit
  have hmark : asciiDigit c ≠ '_' := by
    rw [Ne, asciiDigit_eq_iff (by decide)]
    rintro rfl
    exact not_hexDigit (by decide) digit isDigit
  rw [digitsValue, if_neg hmark, hvalue]
  exact if_pos hlt

/-- What is spelled is parsed. -/
theorem digitsValue_of_spells (spells : SpellsDigits text digits) (value : ℕ) (ended : Bool) :
    digitsValue 16 value ended (text.map asciiDigit) = some (hexOnto value digits) := by
  induction spells generalizing value ended with
  | one isDigit => exact digitsValue_cons isDigit value ended []
  | more isDigit others ih =>
      rw [List.map_cons, digitsValue_cons isDigit, ih]
      rfl
  | parted isDigit others ih =>
      rw [List.map_cons, List.map_cons, digitsValue_cons isDigit, asciiDigit_of_lt (by decide),
        digitsValue, if_pos rfl, if_pos rfl, ih]
      rfl

/-- What the parser takes after a digit, or after none. -/
def Continues (ended : Bool) (text : List Char) (digits : List ℕ) : Prop :=
  SpellsDigits text digits ∨ ended = true ∧
    (text = [] ∧ digits = [] ∨ ∃ rest, text = '_' :: rest ∧ SpellsDigits rest digits)

/-- What is parsed is spelled. -/
theorem continues_of_digitsValue {start : ℕ}
    (h : digitsValue 16 start ended (text.map asciiDigit) = some value) :
    ∃ digits, Continues ended text digits ∧ hexOnto start digits = value := by
  induction text generalizing start ended with
  | nil =>
      rw [List.map_nil, digitsValue] at h
      split at h
      next hended => exact ⟨[], .inr ⟨hended, .inl ⟨rfl, rfl⟩⟩, Option.some.inj h⟩
      next => cases h
  | cons c text ih =>
      rw [List.map_cons, digitsValue] at h
      split at h
      next hmark =>
        obtain rfl := (asciiDigit_eq_iff (by decide)).mp hmark
        split at h
        next hended =>
          obtain ⟨digits, hcontinues | ⟨hfalse, -⟩, rfl⟩ := ih h
          · exact ⟨digits, .inr ⟨hended, .inr ⟨text, rfl, hcontinues⟩⟩, rfl⟩
          · cases hfalse
        next => cases h
      next =>
        split at h
        next digit hvalue =>
          split at h
          next hlt =>
            have isDigit : HexDigit c digit := hexDigit_iff.mpr ⟨hvalue, hlt⟩
            obtain ⟨digits, hcontinues, rfl⟩ := ih h
            refine ⟨digit :: digits, .inl ?_, rfl⟩
            rcases hcontinues with hspells | ⟨-, ⟨rfl, rfl⟩ | ⟨rest, rfl, hspells⟩⟩
            · exact .more isDigit hspells
            · exact .one isDigit
            · exact .parted isDigit hspells
          next => cases h
        next => cases h

theorem digitsValue_iff :
    digitsValue 16 0 false (text.map asciiDigit) = some value ↔
      ∃ digits, SpellsDigits text digits ∧ hexOnto 0 digits = value := by
  constructor
  · intro h
    obtain ⟨digits, hspells | ⟨hfalse, -⟩, hvalue⟩ := continues_of_digitsValue h
    · exact ⟨digits, hspells, hvalue⟩
    · cases hfalse
  · rintro ⟨digits, hspells, rfl⟩
    exact digitsValue_of_spells hspells 0 false

theorem SpellsDigits.head (spells : SpellsDigits text digits) :
    ∃ c digit rest, HexDigit c digit ∧ text = c :: rest := by
  cases spells with
  | one isDigit => exact ⟨_, _, _, isDigit, rfl⟩
  | more isDigit others => exact ⟨_, _, _, isDigit, rfl⟩
  | parted isDigit others => exact ⟨_, _, _, isDigit, rfl⟩

/-- A mark that the parser reads is there. -/
theorem eq_of_map_eq {mark : Char} (hmark : mark ∈ ['_', 'x', 'X', '+', '-']) {rest : List Char}
    (h : text.map asciiDigit = mark :: rest) :
    ∃ later, text = mark :: later ∧ later.map asciiDigit = rest := by
  obtain ⟨c, later, rfl, hc, hlater⟩ := List.map_eq_cons_iff.mp h
  obtain rfl := (asciiDigit_eq_iff hmark).mp hc
  exact ⟨later, rfl, hlater⟩

/-- Digits do not begin with a mark. -/
theorem SpellsDigits.map_ne {mark : Char} (hmark : mark ∈ ['_', 'x', 'X', '+', '-'])
    (spells : SpellsDigits text digits) (rest : List Char) :
    text.map asciiDigit ≠ mark :: rest := by
  intro h
  obtain ⟨later, rfl, -⟩ := eq_of_map_eq hmark h
  obtain ⟨c, digit, _, isDigit, heq⟩ := spells.head
  cases heq
  exact not_hexDigit hmark digit isDigit

theorem mem_marks {x : Char} (isX : x = 'x' ∨ x = 'X') : x ∈ ['_', 'x', 'X', '+', '-'] := by
  rcases isX with rfl | rfl
  · decide
  · decide

/-- Digits alone have no prefix to drop. -/
theorem dropHexPrefix_of_spells (spells : SpellsDigits text digits) :
    dropHexPrefix (text.map asciiDigit) = text.map asciiDigit := by
  generalize himage : text.map asciiDigit = image
  unfold dropHexPrefix
  split
  next x rest =>
    apply if_neg
    intro isX
    obtain ⟨c, tail, rfl, -, htail⟩ := List.map_eq_cons_iff.mp himage
    cases spells with
    | one isDigit => cases htail
    | more isDigit others => exact others.map_ne (mem_marks isX) rest htail
    | parted isDigit others =>
        obtain ⟨later, heq, -⟩ := eq_of_map_eq (mem_marks isX) htail
        cases heq
        exact absurd isX (by decide)
  next => rfl

theorem dropHexPrefix_marked {zero x : Char} (isZero : decimalValue zero = some 0)
    (isX : x = 'x' ∨ x = 'X') (text : List Char) :
    dropHexPrefix ((zero :: x :: text).map asciiDigit) =
      removePrefix ['_'] (text.map asciiDigit) := by
  rw [List.map_cons, List.map_cons, asciiDigit_eq_zero_iff.mpr isZero,
    (asciiDigit_eq_iff (mem_marks isX)).mpr rfl]
  exact if_pos isX

/-- What is spelled behind a sign is parsed. -/
theorem digitsValue_of_spellsUnsigned (spells : SpellsUnsigned text digits) :
    digitsValue 16 0 false (dropHexPrefix (text.map asciiDigit)) = some (hexOnto 0 digits) := by
  cases spells with
  | plain spells =>
      rw [dropHexPrefix_of_spells spells]
      exact digitsValue_of_spells spells 0 false
  | marked isZero isX spells =>
      rw [dropHexPrefix_marked isZero isX, removePrefix, if_neg]
      · exact digitsValue_of_spells spells 0 false
      · intro hstarts
        obtain ⟨rest, heq⟩ := List.isPrefixOf_iff_prefix.mp hstarts
        exact spells.map_ne (by decide) rest heq.symm
  | parted isZero isX spells =>
      rw [dropHexPrefix_marked isZero isX, List.map_cons,
        asciiDigit_of_lt (c := '_') (by decide)]
      exact digitsValue_of_spells spells 0 false

/-- What is parsed behind a sign is spelled. -/
theorem spellsUnsigned_of_digitsValue
    (h : digitsValue 16 0 false (dropHexPrefix (text.map asciiDigit)) = some value) :
    ∃ digits, SpellsUnsigned text digits ∧ hexOnto 0 digits = value := by
  generalize himage : text.map asciiDigit = image at h
  unfold dropHexPrefix at h
  split at h
  next x rest =>
    obtain ⟨zero, tail, rfl, hzero, htail⟩ := List.map_eq_cons_iff.mp himage
    split at h
    next isX =>
      have isZero : decimalValue zero = some 0 := asciiDigit_eq_zero_iff.mp hzero
      obtain ⟨later, rfl, hlater⟩ := eq_of_map_eq (mem_marks isX) htail
      rw [removePrefix] at h
      split at h
      next hstarts =>
        obtain ⟨after, rfl⟩ := List.isPrefixOf_iff_prefix.mp hstarts
        obtain ⟨last, rfl, rfl⟩ := eq_of_map_eq (by decide) hlater
        obtain ⟨digits, spells, hvalue⟩ := digitsValue_iff.mp h
        exact ⟨digits, .parted isZero isX spells, hvalue⟩
      next =>
        rw [← hlater] at h
        obtain ⟨digits, spells, hvalue⟩ := digitsValue_iff.mp h
        exact ⟨digits, .marked isZero isX spells, hvalue⟩
    next =>
      rw [← himage] at h
      obtain ⟨digits, spells, hvalue⟩ := digitsValue_iff.mp h
      exact ⟨digits, .plain spells, hvalue⟩
  next =>
    rw [← himage] at h
    obtain ⟨digits, spells, hvalue⟩ := digitsValue_iff.mp h
    exact ⟨digits, .plain spells, hvalue⟩

/-- Nor does what is spelled without a sign begin with one. -/
theorem SpellsUnsigned.map_ne {sign : Char} (hsign : sign ∈ ['+', '-'])
    (spells : SpellsUnsigned text digits) (rest : List Char) :
    text.map asciiDigit ≠ sign :: rest := by
  have hmark : sign ∈ ['_', 'x', 'X', '+', '-'] := List.mem_append_right ['_', 'x', 'X'] hsign
  have hzero {zero : Char} (isZero : decimalValue zero = some 0) (later : List Char) :
      (zero :: later).map asciiDigit ≠ sign :: rest := by
    intro h
    obtain ⟨_, heq, -⟩ := eq_of_map_eq hmark h
    cases heq
    exact not_hexDigit hmark 0 (.inr isZero)
  cases spells with
  | plain spells => exact spells.map_ne hmark rest
  | marked isZero isX spells => exact hzero isZero _
  | parted isZero isX spells => exact hzero isZero _

theorem takeSign_cases (text : List Char) :
    (∃ rest, text = '-' :: rest ∧ takeSign text = (true, rest)) ∨
      (∃ rest, text = '+' :: rest ∧ takeSign text = (false, rest)) ∨
        takeSign text = (false, text) := by
  unfold takeSign
  split
  next rest => exact .inl ⟨rest, rfl, rfl⟩
  next rest => exact .inr (.inl ⟨rest, rfl, rfl⟩)
  next => exact .inr (.inr rfl)

/-- `int(text, 16)` is a positive number exactly of its numerals. -/
theorem parseHexInt_iff (positive : 0 < value) :
    parseHexInt text = some (value : ℤ) ↔ Numeral (trim text) value := by
  have hparsed (digits : List Char) :
      (digitsValue 16 0 false (dropHexPrefix digits)).map (signed false) = some (value : ℤ) ↔
        digitsValue 16 0 false (dropHexPrefix digits) = some value := by
    cases digitsValue 16 0 false (dropHexPrefix digits) with
    | none => exact iff_of_false nofun nofun
    | some other =>
        rw [Option.map_some, Option.some.injEq, Option.some.injEq]
        exact Int.ofNat_inj
  rw [parseHexInt, numberText]
  generalize trim text = text
  constructor
  · intro h
    generalize himage : text.map asciiDigit = image at h
    rcases takeSign_cases image with ⟨rest, rfl, hsign⟩ | ⟨rest, rfl, hsign⟩ | hsign
    all_goals rw [hsign] at h
    · obtain ⟨other, -, hother⟩ := Option.map_eq_some_iff.mp h
      rw [signed, if_pos rfl] at hother
      omega
    · obtain ⟨later, rfl, rfl⟩ := eq_of_map_eq (by decide) himage
      obtain ⟨digits, spells, rfl⟩ := spellsUnsigned_of_digitsValue ((hparsed _).mp h)
      exact .plus spells
    · rw [← himage] at h
      obtain ⟨digits, spells, rfl⟩ := spellsUnsigned_of_digitsValue ((hparsed _).mp h)
      exact .unsigned spells
  · intro h
    cases h with
    | unsigned spells =>
        rcases takeSign_cases (text.map asciiDigit) with ⟨rest, heq, -⟩ | ⟨rest, heq, -⟩ | hsign
        · exact absurd heq (spells.map_ne (by decide) rest)
        · exact absurd heq (spells.map_ne (by decide) rest)
        · rw [hsign]
          exact (hparsed _).mpr (digitsValue_of_spellsUnsigned spells)
    | plus spells =>
        rw [List.map_cons, asciiDigit_of_lt (by decide)]
        exact (hparsed _).mpr (digitsValue_of_spellsUnsigned spells)

end TrueFan.Python
