/-
# What a verified command has read

After a command the client reads mode and duty back and compares the values it
parsed, as many as there are. The board has sixteen channels and answers with a byte
for each. This module says which replies the client takes for the wanted value, word by
word, and what it takes for these to be sixteen bytes.
-/

import TrueFan.Ast2600.Bmc
import TrueFan.Python.Numerals

namespace TrueFan

open Python

/-- The hexadecimal digits of ASCII with their values. -/
def hexDigits : List (Char × ℕ) :=
  [('0', 0), ('1', 1), ('2', 2), ('3', 3), ('4', 4), ('5', 5), ('6', 6), ('7', 7), ('8', 8),
    ('9', 9)] ++ hexLetters

/-- One or two hexadecimal digits. -/
def byteDigits : List Char → Option ℕ
  | [low] => hexDigits.lookup low
  | [high, low] => do return (← hexDigits.lookup high) * 16 + (← hexDigits.lookup low)
  | _ => none

/-- The byte a word spells: one or two hexadecimal digits, with or without the prefix. -/
def byteValue : List Char → Option ℕ
  | '0' :: 'x' :: digits => byteDigits digits
  | '0' :: 'X' :: digits => byteDigits digits
  | digits => byteDigits digits

theorem mem_hexDigits_of_lookup {c : Char} {value : ℕ} (h : hexDigits.lookup c = some value) :
    (c, value) ∈ hexDigits := by
  obtain ⟨before, after, hsplit, -⟩ := List.lookup_eq_some_iff.mp h
  rw [hsplit]
  exact List.mem_append_right before List.mem_cons_self

namespace Ast2600Ipmi

/-- What the client makes of a word of a reply. -/
def wordValue (word : List Char) : Option ℤ := parseHexInt (removePrefix ['0', 'x'] word)

theorem parseBytes_eq (text : String) :
    parseBytes text =
      match (split text.toList).mapM wordValue with
      | none => .error (.backendCommandError "ipmi_invalid_response")
      | some [] => .error (.backendCommandError "ipmi_empty_response")
      | some (value :: values) => .ok (value :: values) := rfl

theorem wordValue_byteDigits {digits : List Char} {value : ℕ} (h : byteDigits digits = some value) :
    wordValue digits = some (value : ℤ) ∧ wordValue ('0' :: 'x' :: digits) = some (value : ℤ) ∧
      wordValue ('0' :: 'X' :: digits) = some (value : ℤ) := by
  have hone : ∀ low ∈ hexDigits, wordValue [low.1] = some (low.2 : ℤ) ∧
      wordValue ['0', 'x', low.1] = some (low.2 : ℤ) ∧
      wordValue ['0', 'X', low.1] = some (low.2 : ℤ) := by
    decide +kernel
  have htwo : ∀ high ∈ hexDigits, ∀ low ∈ hexDigits,
      wordValue [high.1, low.1] = some ((high.2 * 16 + low.2 : ℕ) : ℤ) ∧
      wordValue ['0', 'x', high.1, low.1] = some ((high.2 * 16 + low.2 : ℕ) : ℤ) ∧
      wordValue ['0', 'X', high.1, low.1] = some ((high.2 * 16 + low.2 : ℕ) : ℤ) := by
    decide +kernel
  match digits, h with
  | [low], h => exact hone (low, value) (mem_hexDigits_of_lookup h)
  | [high, low], h =>
      obtain ⟨first, hfirst, h⟩ := Option.bind_eq_some_iff.mp h
      obtain ⟨second, hsecond, h⟩ := Option.bind_eq_some_iff.mp h
      cases h
      exact htwo (high, first) (mem_hexDigits_of_lookup hfirst) (low, second)
        (mem_hexDigits_of_lookup hsecond)

/-- The client reads a byte as that byte. -/
theorem wordValue_of_byteValue {word : List Char} {value : ℕ} (h : byteValue word = some value) :
    wordValue word = some (value : ℤ) := by
  unfold byteValue at h
  split at h
  · exact (wordValue_byteDigits h).2.1
  · exact (wordValue_byteDigits h).2.2
  · exact (wordValue_byteDigits h).1

/-- The reply has no words, or one that is no numeral of the value, once a prefix is taken off. -/
def Unfit (text : String) (value : ℕ) : Prop :=
  split text.toList = [] ∨
    ∃ word ∈ split text.toList, ¬ Numeral (removePrefix ['0', 'x'] word) value

/-- There are words in the reply, and the client reads each as the value. -/
def Agrees (text : String) (value : ℤ) : Prop :=
  split text.toList ≠ [] ∧ ∀ word ∈ split text.toList, wordValue word = some value

/-- The reply consists of a byte for each channel. -/
def Complete (text : String) : Prop :=
  (split text.toList).length = channelCount ∧
    ∀ word ∈ split text.toList, (byteValue word).isSome = true

/-- The reply consists of a byte for each channel, all with the value. -/
def CompleteWith (text : String) (value : ℤ) : Prop :=
  (split text.toList).length = channelCount ∧
    ∀ word ∈ split text.toList, ∃ byte, byteValue word = some byte ∧ (byte : ℤ) = value

/-- Where the client reads the value in every word, a complete reply has it in every byte. -/
theorem completeWith_iff {text : String} {value : ℤ} (h : Agrees text value) :
    CompleteWith text value ↔ Complete text := by
  constructor
  · intro hwith
    refine ⟨hwith.1, fun word hword => ?_⟩
    obtain ⟨byte, hbyte, -⟩ := hwith.2 word hword
    exact Option.isSome_of_eq_some hbyte
  · intro hcomplete
    refine ⟨hcomplete.1, fun word hword => ?_⟩
    obtain ⟨byte, hbyte⟩ := Option.isSome_iff_exists.mp (hcomplete.2 word hword)
    have hvalue := (wordValue_of_byteValue hbyte).symm.trans (h.2 word hword)
    exact ⟨byte, hbyte, Option.some.inj hvalue⟩

/-- The client reads a value that is not zero in every word exactly of a reply that is not
unfit for it. -/
theorem agrees_iff_not_unfit {text : String} {value : ℕ} (positive : 0 < value) :
    Agrees text value ↔ ¬ Unfit text value := by
  have hword : ∀ word ∈ split text.toList,
      wordValue word = some (value : ℤ) ↔ Numeral (removePrefix ['0', 'x'] word) value := by
    intro word hword
    have hspace : ∀ c ∈ removePrefix ['0', 'x'] word, isSpace c = false := by
      intro c hc
      apply (of_mem_split hword).2
      rw [removePrefix] at hc
      split at hc
      · exact List.mem_of_mem_drop hc
      · exact hc
    rw [wordValue, parseHexInt_iff positive, trim_of_not_space hspace]
  rw [Unfit, not_or, Agrees]
  apply and_congr_right'
  push Not
  exact forall₂_congr hword

theorem mapM_wordValue_eq_some {words : List (List Char)} {values : List ℤ}
    (h : words.mapM wordValue = some values) (value : ℤ) :
    (∀ other ∈ values, other = value) ↔ ∀ word ∈ words, wordValue word = some value := by
  induction words generalizing values with
  | nil =>
      cases h
      exact iff_of_true (List.forall_mem_nil _) (List.forall_mem_nil _)
  | cons word rest ih =>
      rw [List.mapM_cons] at h
      obtain ⟨first, hfirst, h⟩ := Option.bind_eq_some_iff.mp h
      obtain ⟨others, hothers, h⟩ := Option.bind_eq_some_iff.mp h
      cases h
      rw [List.forall_mem_cons, List.forall_mem_cons, ih hothers, hfirst, Option.some.injEq]

theorem mapM_wordValue_of_agrees {words : List (List Char)} {value : ℤ}
    (h : ∀ word ∈ words, wordValue word = some value) :
    words.mapM wordValue = some (words.map fun _ => value) := by
  induction words with
  | nil => rfl
  | cons word rest ih =>
      obtain ⟨hword, hrest⟩ := List.forall_mem_cons.mp h
      rw [List.mapM_cons, hword, ih hrest]
      rfl

/-- A reply parses to copies of a value exactly if it agrees with the value. -/
theorem parseBytes_agrees_iff (text : String) (value : ℤ) :
    (∃ values, parseBytes text = .ok values ∧ ∀ other ∈ values, other = value) ↔
      Agrees text value := by
  rw [parseBytes_eq]
  constructor
  · rintro ⟨values, h, hall⟩
    split at h
    next => cases h
    next => cases h
    next first rest hwords =>
      cases h
      refine ⟨?_, (mapM_wordValue_eq_some hwords value).mp hall⟩
      intro hnil
      rw [hnil] at hwords
      cases hwords
  · rintro ⟨hne, hall⟩
    rw [mapM_wordValue_of_agrees hall]
    obtain ⟨word, rest, hwords⟩ := List.exists_cons_of_ne_nil hne
    rw [hwords]
    refine ⟨value :: rest.map fun _ => value, rfl, ?_⟩
    simp

theorem ne_nil_of_parseBytes {text : String} {values : List ℤ}
    (h : parseBytes text = .ok values) : values ≠ [] := by
  rw [parseBytes] at h
  split at h
  next => cases h
  next => cases h
  next first rest _ =>
    cases h
    exact List.cons_ne_nil first rest

/-! ## Reading and commanding -/

section

variable {Link : Type} {ipmi : Ast2600Ipmi Link} {link left after : Link} {text : String}

/-- A mode read says manual exactly if the client reads 2 in all of the reply. -/
theorem readMode_eq_ok_iff (hraw : ipmi.raw ["0x3a", "0xd0", "0x12"] link = .ok text after) :
    ipmi.readMode link = .ok .manual left ↔ Agrees text 2 ∧ left = after := by
  have hmode (values : List ℤ) :
      (if values.all (· = 0x02) then return .manual
        else if values.all (· = 0x00) then return .auto
        else return .unknown : EStateM Failure Link Mode) after = .ok .manual left ↔
      (∀ value ∈ values, value = 2) ∧ left = after := by
    have hall : values.all (· = 0x02) = true ↔ ∀ value ∈ values, value = 2 := by simp
    by_cases hmanual : values.all (· = 0x02) = true
    · rw [if_pos hmanual, pure_apply, EStateM.Result.ok.injEq, eq_comm (a := after)]
      exact and_congr_left' (iff_of_true rfl (hall.mp hmanual))
    · rw [if_neg hmanual]
      apply iff_of_false
      · intro h
        split at h
        · cases h
        · cases h
      · intro h
        exact hmanual (hall.mpr h.1)
  rw [readMode, bind_of_ok hraw, bind_ofExcept_eq_ok_iff, ← parseBytes_agrees_iff,
    ← exists_and_right]
  apply exists_congr
  intro values
  rw [hmode, and_assoc]

/-- A duty read names a duty exactly if it is a percentage and the client reads it in all
of the reply. -/
theorem readDutyPercent_eq_ok_iff {duty : ℤ}
    (hraw : ipmi.raw ["0x3a", "0xd0", "0x0f"] link = .ok text after) :
    ipmi.readDutyPercent link = .ok (some duty) left ↔
      (Agrees text duty ∧ 0 ≤ duty ∧ duty ≤ 100) ∧ left = after := by
  have hvalues (values : List ℤ) (hne : values ≠ []) :
      (do
        if values.any fun value => value < 0 || 100 < value then
          throw (.backendCommandError "ipmi_invalid_duty")
        return commonValue values : EStateM Failure Link (Option ℤ)) after =
          .ok (some duty) left ↔
      (∀ value ∈ values, value = duty) ∧ (0 ≤ duty ∧ duty ≤ 100) ∧ left = after := by
    have hout : (values.any fun value => value < 0 || 100 < value) = true ↔
        ∃ value ∈ values, value < 0 ∨ 100 < value := by
      simp
    dsimp only
    split
    next hany =>
      obtain ⟨value, hmem, hvalue⟩ := hout.mp hany
      rw [bind_of_error (throw_apply _ _)]
      apply iff_of_false
      · intro h
        cases h
      · rintro ⟨hall, ⟨hmin, hmax⟩, -⟩
        rw [hall value hmem] at hvalue
        omega
    next hnone =>
      rw [pure_apply, EStateM.Result.ok.injEq, commonValue_eq_some_iff, eq_comm (a := after),
        ← and_assoc]
      apply and_congr_left'
      constructor
      · rintro ⟨-, hall⟩
        obtain ⟨value, hmem⟩ := List.exists_mem_of_ne_nil values hne
        have hin : ¬ (value < 0 ∨ 100 < value) := fun hvalue =>
          hnone (hout.mpr ⟨value, hmem, hvalue⟩)
        rw [hall value hmem] at hin
        exact ⟨hall, by omega, by omega⟩
      · rintro ⟨hall, -⟩
        exact ⟨hne, hall⟩
  rw [readDutyPercent, bind_of_ok hraw, bind_ofExcept_eq_ok_iff, ← parseBytes_agrees_iff,
    and_assoc, ← exists_and_right]
  apply exists_congr
  intro values
  rw [and_assoc]
  apply and_congr_right
  intro hparse
  exact hvalues values (ne_nil_of_parseBytes hparse)

/-- The controller carries out the two commands and prints the two texts when mode and
duty are read back. -/
def Prints (ipmi : Ast2600Ipmi Link) (percent : ℤ) (link after : Link)
    (modeText dutyText : String) : Prop :=
  ∃ switched commanded read first second,
    ipmi.raw ("0x3a" :: "0xd0" :: "0x11" :: List.replicate channelCount "0x2") link =
      .ok first switched ∧
    ipmi.raw ("0x3a" :: "0xd0" :: "0x0e" ::
      List.replicate channelCount (dutyByte (clampPercent percent))) switched =
        .ok second commanded ∧
    ipmi.raw ["0x3a", "0xd0", "0x12"] commanded = .ok modeText read ∧
    ipmi.raw ["0x3a", "0xd0", "0x0f"] read = .ok dutyText after

/-- The command returns exactly if the client reads manual mode in every word of the one
reply and the clamped duty in every word of the other. -/
theorem setDutyPercent_returns_iff {percent : ℤ} {modeText dutyText : String}
    (prints : ipmi.Prints percent link after modeText dutyText) :
    (∃ status left, ipmi.setDutyPercent percent link = .ok status left) ↔
      Agrees modeText 2 ∧ Agrees dutyText (clampPercent percent) := by
  obtain ⟨switched, commanded, read, first, second, hswitch, hcommand, hmode, hduty⟩ := prints
  have hrange : 0 ≤ clampPercent percent ∧ clampPercent percent ≤ 100 :=
    ⟨le_trans (by decide) (minimum_le_clampPercent percent), clampPercent_le_maximum percent⟩
  rw [setDutyPercent, bind_of_ok hswitch, bind_of_ok hcommand]
  constructor
  · rintro ⟨status, left, h⟩
    obtain ⟨readback, between, hstatus, h⟩ := bind_eq_ok h
    obtain ⟨mode, between', hread, hstatus⟩ := bind_eq_ok hstatus
    obtain ⟨duty, between'', hreadDuty, hstatus⟩ := bind_eq_ok hstatus
    cases hstatus
    split at h
    next =>
      rw [bind_of_error (throw_apply _ _)] at h
      cases h
    next hverified =>
      have hmanual : mode = .manual := not_not.mp (not_or.mp hverified).1
      have hsame : duty = some (clampPercent percent) := not_not.mp (not_or.mp hverified).2
      rw [hmanual] at hread
      obtain ⟨hagrees, rfl⟩ := (readMode_eq_ok_iff hmode).mp hread
      rw [hsame] at hreadDuty
      exact ⟨hagrees, ((readDutyPercent_eq_ok_iff hduty).mp hreadDuty).1.1⟩
  · rintro ⟨hmanual, hagrees⟩
    have hread := (readMode_eq_ok_iff hmode).mpr ⟨hmanual, rfl⟩
    have hreadDuty := (readDutyPercent_eq_ok_iff hduty).mpr ⟨⟨hagrees, hrange⟩, rfl⟩
    have hstatus : ipmi.status commanded = .ok {
        backend := "ast2600_ipmi"
        mode := .manual
        dutyPercent := some (clampPercent percent)
        pwm := some (percentToPwm (clampPercent percent))
        sensorOk := true } after := by
      rw [status, bind_of_ok hread, bind_of_ok hreadDuty]
      rfl
    rw [bind_of_ok hstatus]
    dsimp only
    rw [if_neg (by simp)]
    exact ⟨_, _, rfl⟩

/-- A command that returns has read manual mode and the clamped duty from all sixteen
channels exactly if both replies are complete, or one of them is unfit for its value. -/
theorem readback_sound_iff {percent : ℤ} {modeText dutyText : String}
    (prints : ipmi.Prints percent link after modeText dutyText) :
    ((∃ status left, ipmi.setDutyPercent percent link = .ok status left) →
        CompleteWith modeText 2 ∧ CompleteWith dutyText (clampPercent percent)) ↔
      Complete modeText ∧ Complete dutyText ∨ Unfit modeText 2 ∨
        Unfit dutyText (clampPercent percent).toNat := by
  have hmin : 22 ≤ clampPercent percent := minimum_le_clampPercent percent
  obtain ⟨duty, hduty⟩ := Int.eq_ofNat_of_zero_le (show 0 ≤ clampPercent percent by omega)
  have hpositive : 0 < duty := by omega
  have hmode : Agrees modeText 2 ↔ ¬ Unfit modeText 2 := agrees_iff_not_unfit two_pos
  have hagrees : Agrees dutyText duty ↔ ¬ Unfit dutyText duty := agrees_iff_not_unfit hpositive
  rw [setDutyPercent_returns_iff prints, hduty, Int.toNat_natCast]
  constructor
  · intro hsound
    by_cases hfit : Agrees modeText 2 ∧ Agrees dutyText duty
    · obtain ⟨hmodes, hduties⟩ := hsound hfit
      exact .inl ⟨(completeWith_iff hfit.1).mp hmodes, (completeWith_iff hfit.2).mp hduties⟩
    · rw [hmode, hagrees, ← not_or, not_not] at hfit
      exact .inr hfit
  · rintro (⟨hmodes, hduties⟩ | hunfit) ⟨hfirst, hsecond⟩
    · exact ⟨(completeWith_iff hfirst).mpr hmodes, (completeWith_iff hsecond).mpr hduties⟩
    · rw [hmode] at hfirst
      rw [hagrees] at hsecond
      exact absurd hunfit (not_or.mpr ⟨hfirst, hsecond⟩)

end

/-- A client of a controller that accepts every command and prints the two texts. -/
def printing (modeText dutyText : String) : Ast2600Ipmi Unit where
  host := "bmc.test"
  username := "operator"
  password := "secret"
  runner argv _ :=
    match argv.drop 8 with
    | ["raw", "0x3a", "0xd0", "0x12"] => pure ⟨0, some modeText⟩
    | ["raw", "0x3a", "0xd0", "0x0f"] => pure ⟨0, some dutyText⟩
    | _ => pure ⟨0, some ""⟩

theorem prints_printing (percent : ℤ) (modeText dutyText : String) :
    (printing modeText dutyText).Prints percent () () modeText dutyText :=
  ⟨(), (), (), "", "", rfl, rfl, rfl, rfl⟩

instance (text : String) : Decidable (Complete text) := inferInstanceAs (Decidable (_ ∧ _))

/-- With sixteen bytes in each reply a command for half duty returns, and has seen them. -/
theorem sound_of_sixteen :
    (∃ status left, (printing (printBytes (List.replicate channelCount 2))
        (printBytes (List.replicate channelCount 50))).setDutyPercent 50 () = .ok status left) ∧
      CompleteWith (printBytes (List.replicate channelCount 2)) 2 ∧
      CompleteWith (printBytes (List.replicate channelCount 50)) (clampPercent 50) := by
  have prints := prints_printing 50 (printBytes (List.replicate channelCount 2))
    (printBytes (List.replicate channelCount 50))
  have hreturns := (setDutyPercent_returns_iff prints).mpr
    ⟨⟨by decide +kernel, by decide +kernel⟩, by decide +kernel, by decide +kernel⟩
  exact ⟨hreturns, (readback_sound_iff prints).mpr (.inl (by decide +kernel)) hreturns⟩

/-- One byte for each reply is enough as well. -/
theorem not_sound_of_one_byte :
    ¬ ∀ (Link : Type) (ipmi : Ast2600Ipmi Link) (percent : ℤ) (link after : Link)
        (modeText dutyText : String), ipmi.Prints percent link after modeText dutyText →
      (∃ status left, ipmi.setDutyPercent percent link = .ok status left) →
      CompleteWith modeText 2 ∧ CompleteWith dutyText (clampPercent percent) := by
  intro hall
  have prints := prints_printing 50 "02" "32"
  have hreturns := (setDutyPercent_returns_iff prints).mpr
    ⟨⟨by decide, by decide⟩, by decide, by decide⟩
  have hcomplete := (hall Unit (printing "02" "32") 50 () () _ _ prints hreturns).1
  exact absurd hcomplete.1 (by decide)

end Ast2600Ipmi

end TrueFan
