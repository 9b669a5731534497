import Mathlib.Data.List.Basic
import SourceTally.Text.Decimal
import SourceTally.Text.Utf8

/-!
# Numbers and texts are read back

A number is written in decimal digits and a text in bytes of UTF-8. Both are read by functions that
stop at the first thing wrong. What they accept can be said without their order of checks: for a
number its digits and its value, and for bytes that they come from a text.

## Main definitions

* `Decimal.Writes`: a text that writes a bounded number
* `Utf8.encode`: the bytes of a text

## Main statements

* `Decimal.read_eq_ok_iff`: a number is read exactly from a text that writes it
* `Decimal.writes_toString`: digits without sign and leading zeros are one way to write a number
* `Utf8.decode_encode`: every text is read back from its bytes
-/

namespace SourceTally

/-! ### Decimal numbers -/

namespace Text

theorem isDigit_of_mem_toString {n : Nat} {c : Char} (h : c ∈ (toString n).toList) :
    c.isDigit := by
  rw [Nat.toString_eq_repr, Nat.toList_repr] at h
  exact Nat.isDigit_of_mem_toDigits (by decide) (by decide) h

theorem toList_toString_ne_nil (n : Nat) : (toString n).toList ≠ [] := by
  rw [Nat.toString_eq_repr, Nat.toList_repr]
  exact Nat.toDigits_ne_nil

theorem ofDigitChars_toString (n : Nat) : Nat.ofDigitChars 10 (toString n).toList 0 = n := by
  rw [Nat.toString_eq_repr, Nat.toList_repr, Nat.ofDigitChars_ten_toDigits]

theorem toString_inj {m n : Nat} : toString m = toString n ↔ m = n := by
  refine ⟨fun h => ?_, congrArg toString⟩
  rw [← ofDigitChars_toString m, h, ofDigitChars_toString]

end Text

namespace Decimal

/-- A text that writes a number of at most `limit`: at least one digit, perhaps behind a plus
sign. -/
structure Writes (limit : Nat) (text : List Char) (n : Nat) : Prop where
  le : n ≤ limit
  spelt : ∃ digits, (text = digits ∨ text = '+' :: digits) ∧ digits ≠ [] ∧
    (∀ c ∈ digits, c.isDigit) ∧ Nat.ofDigitChars 10 digits 0 = n

theorem digit?_of_isDigit {c : Char} (h : c.isDigit) : digit? c = some (c.toNat - '0'.toNat) :=
  if_pos h

theorem digit?_of_not_isDigit {c : Char} (h : ¬ c.isDigit) : digit? c = none :=
  if_neg h

theorem le_ofDigitChars (digits : List Char) (n : Nat) : n ≤ Nat.ofDigitChars 10 digits n := by
  induction digits generalizing n with
  | nil => simp
  | cons c rest ih =>
    have hrest := ih (10 * n + (c.toNat - '0'.toNat))
    rw [Nat.ofDigitChars_cons]
    omega

/-- The bound is checked at each digit. Since more digits make no smaller number, this is the same
as checking it at the end. -/
theorem readDigits_eq_ok_iff {limit n value : Nat} {digits : List Char} (h : n ≤ limit) :
    readDigits limit n digits = .ok value ↔
      (∀ c ∈ digits, c.isDigit) ∧ Nat.ofDigitChars 10 digits n = value ∧ value ≤ limit := by
  induction digits generalizing n with
  | nil =>
    rw [readDigits, Nat.ofDigitChars_nil, Except.ok.injEq]
    constructor
    · rintro rfl
      exact ⟨nofun, rfl, h⟩
    · exact fun hvalue => hvalue.2.1
  | cons c rest ih =>
    rw [readDigits, Nat.ofDigitChars_cons, List.forall_mem_cons]
    by_cases hdigit : c.isDigit
    · rw [digit?_of_isDigit hdigit, and_iff_right hdigit]
      by_cases hle : 10 * n + (c.toNat - '0'.toNat) ≤ limit
      · simp only [if_pos hle, ih hle]
      · simp only [if_neg hle]
        refine iff_of_false nofun ?_
        rintro ⟨-, rfl, hvalue⟩
        exact hle (Nat.le_trans (le_ofDigitChars rest _) hvalue)
    · rw [digit?_of_not_isDigit hdigit]
      exact iff_of_false nofun fun hvalue => hdigit hvalue.1.1

/-- A number is read exactly from a text that writes it. -/
theorem read_eq_ok_iff {limit n : Nat} {text : List Char} :
    read limit text = .ok n ↔ Writes limit text n := by
  have hdigits {digits : List Char} (hne : digits ≠ []) : readDigits limit 0 digits = .ok n ↔
      n ≤ limit ∧ digits ≠ [] ∧ (∀ c ∈ digits, c.isDigit) ∧ Nat.ofDigitChars 10 digits 0 = n := by
    rw [readDigits_eq_ok_iff (Nat.zero_le limit)]
    tauto
  have hplus : ¬ '+'.isDigit := by decide
  unfold read
  split
  · refine iff_of_false nofun ?_
    rintro ⟨-, digits, rfl | h, hne, -⟩
    · exact hne rfl
    · cases h
  · refine iff_of_false nofun ?_
    rintro ⟨-, digits, rfl | h, hne, hall, -⟩
    · exact hplus (hall '+' List.mem_cons_self)
    · cases h
      exact hne rfl
  · next digits hne =>
    rw [hdigits hne]
    constructor
    · rintro ⟨hle, hne, hall, hvalue⟩
      exact ⟨hle, digits, .inr rfl, hne, hall, hvalue⟩
    · rintro ⟨hle, digits', rfl | h, hne, hall, hvalue⟩
      · exact absurd (hall '+' List.mem_cons_self) hplus
      · cases h
        exact ⟨hle, hne, hall, hvalue⟩
  · next hnil _ hsign =>
    rw [hdigits hnil]
    constructor
    · rintro ⟨hle, hne, hall, hvalue⟩
      exact ⟨hle, text, .inl rfl, hne, hall, hvalue⟩
    · rintro ⟨hle, digits', rfl | h, hne, hall, hvalue⟩
      · exact ⟨hle, hne, hall, hvalue⟩
      · exact absurd h (hsign _)

theorem writes_toString {limit n : Nat} (h : n ≤ limit) : Writes limit (toString n).toList n :=
  ⟨h, _, .inl rfl, Text.toList_toString_ne_nil n, fun _ => Text.isDigit_of_mem_toString,
    Text.ofDigitChars_toString n⟩

end Decimal

/-! ### Texts -/

namespace Utf8

/-- The bytes of a text. -/
def encode (text : String) : List UInt8 := text.toUTF8.data.toList

theorem encode_eq (text : String) : encode text = text.toList.flatMap String.utf8EncodeChar := by
  rw [encode, String.toUTF8_eq_toByteArray, ← String.utf8Encode_toList, List.utf8Encode,
    List.toList_data_toByteArray]

theorem toNat_ofNat {n : Nat} (h : n < 256) : (UInt8.ofNat n).toNat = n :=
  UInt8.toNat_ofNat_of_lt' h

theorem isTail_ofNat {n : Nat} (h : n < 64) : isTail (UInt8.ofNat (n + 128)) := by
  have hbyte : (UInt8.ofNat (n + 128)).toNat = n + 128 := toNat_ofNat (by omega)
  simp only [isTail, UInt8.le_iff_toNat_le, hbyte, UInt8.reduceToNat, Bool.and_eq_true,
    decide_eq_true_eq]
  omega

theorem width_ofNat {n : Nat} (h : n < 256) : width (UInt8.ofNat n) =
    if n ≤ 127 then 1 else if 194 ≤ n ∧ n ≤ 223 then 2 else if 224 ≤ n ∧ n ≤ 239 then 3
    else if 240 ≤ n ∧ n ≤ 244 then 4 else 0 := by
  simp [width, UInt8.le_iff_toNat_le, Nat.mod_eq_of_lt h]

/-- Four first bytes leave part of the range of their second byte unused. -/
theorem fitsSecond_ofNat {a b : Nat} (ha : a < 256) (hb : b < 64) (hoverlong : a = 224 → 32 ≤ b)
    (hsurrogate : a = 237 → b < 32) (hoverlong' : a = 240 → 16 ≤ b) (hlarge : a = 244 → b < 16) :
    fitsSecond (UInt8.ofNat a) (UInt8.ofNat (b + 128)) := by
  have hsecond : (UInt8.ofNat (b + 128)).toNat = b + 128 := toNat_ofNat (by omega)
  simp only [fitsSecond, isTail_ofNat hb, Bool.true_and, ← UInt8.toNat_inj, UInt8.le_iff_toNat_le,
    toNat_ofNat ha, hsecond, UInt8.reduceToNat]
  split
  · next h => exact decide_eq_true (by have := hoverlong h; omega)
  · split
    · next h => exact decide_eq_true (by have := hsurrogate h; omega)
    · split
      · next h => exact decide_eq_true (by have := hoverlong' h; omega)
      · split
        · next h => exact decide_eq_true (by have := hlarge h; omega)
        · rfl

theorem checkTail_append {tail : List UInt8} (h : ∀ b ∈ tail, isTail b) (index seen : Nat)
    (rest : List UInt8) : checkTail index seen tail.length (tail ++ rest) = none := by
  induction tail generalizing seen with
  | nil => rfl
  | cons b tail ih =>
    rw [List.forall_mem_cons] at h
    rw [List.length_cons, List.cons_append, checkTail, if_pos h.1, ih h.2]

theorem firstFault_append (index : Nat) (tail rest : List UInt8) :
    firstFault index tail.length (tail ++ rest) = firstFault (index + tail.length) 0 rest := by
  induction tail generalizing index with
  | nil => rfl
  | cons b tail ih =>
    rw [List.length_cons, List.cons_append, firstFault, ih, Nat.add_right_comm, Nat.add_assoc]

/-- A character of one byte is passed. -/
theorem firstFault_single {first : UInt8} (h : width first = 1) (index : Nat) (rest : List UInt8) :
    firstFault index 0 (first :: rest) = firstFault (index + 1) 0 rest := by
  simp [firstFault, checkChar, h]

/-- A character of several bytes is passed. -/
theorem firstFault_several {first second : UInt8} (tail : List UInt8)
    (hwidth : width first = tail.length + 2) (hsecond : fitsSecond first second)
    (htail : ∀ b ∈ tail, isTail b) (index : Nat) (rest : List UInt8) :
    firstFault index 0 (first :: second :: (tail ++ rest)) =
      firstFault (index + (tail.length + 2)) 0 rest := by
  have hcheck : checkChar index first (second :: (tail ++ rest)) = none := by
    simp [checkChar, hwidth, hsecond, checkTail_append htail]
  have hskip := firstFault_append (index + 1) (second :: tail) rest
  rw [List.length_cons, List.cons_append, Nat.add_assoc, Nat.add_comm 1] at hskip
  rw [firstFault, hcheck, hwidth]
  exact hskip

theorem firstFault_char (c : Char) (index : Nat) (rest : List UInt8) :
    ∃ next, firstFault index 0 (String.utf8EncodeChar c ++ rest) = firstFault next 0 rest := by
  have hvalid : c.val.toNat < 0xd800 ∨ 0xdfff < c.val.toNat ∧ c.val.toNat < 0x110000 := c.valid
  have hlast (n : Nat) : isTail (UInt8.ofNat (n % 64 + 128)) :=
    isTail_ofNat (Nat.mod_lt n (by decide))
  simp only [String.utf8EncodeChar]
  -- one case for each number of bytes
  split
  · refine ⟨_, firstFault_single ?_ _ _⟩
    rw [width_ofNat (by omega), if_pos (by omega)]
  split
  · refine ⟨_, firstFault_several [] ?_ ?_ nofun _ _⟩
    · rw [width_ofNat (by omega), if_neg (by omega), if_pos (by omega)]
      rfl
    · apply fitsSecond_ofNat <;> omega
  split
  · refine ⟨_, firstFault_several [_] ?_ ?_ (List.forall_mem_singleton.2 (hlast _)) _ _⟩
    · rw [width_ofNat (by omega), if_neg (by omega), if_neg (by omega), if_pos (by omega)]
      rfl
    · apply fitsSecond_ofNat <;> omega
  · refine ⟨_, firstFault_several [_, _] ?_ ?_ ?_ _ _⟩
    · rw [width_ofNat (by omega), if_neg (by omega), if_neg (by omega), if_neg (by omega),
        if_pos (by omega)]
      rfl
    · apply fitsSecond_ofNat <;> omega
    · exact List.forall_mem_cons.2 ⟨hlast _, List.forall_mem_singleton.2 (hlast _)⟩

theorem firstFault_text (text : List Char) (index : Nat) :
    firstFault index 0 (text.flatMap String.utf8EncodeChar) = none := by
  induction text generalizing index with
  | nil => rfl
  | cons c rest ih =>
    obtain ⟨next, hchar⟩ := firstFault_char c index (rest.flatMap String.utf8EncodeChar)
    rw [List.flatMap_cons, hchar, ih]

/-- Every text is read back from its bytes. -/
theorem decode_encode (text : String) : decode (encode text) = .ok text := by
  have hread : String.fromUTF8? ⟨(encode text).toArray⟩ = some text := by
    rw [encode, Array.toArray_toList]
    exact dif_pos text.isValidUTF8
  rw [decode, encode_eq, firstFault_text, ← encode_eq, hread]
  rfl

end Utf8

end SourceTally
