/-
# Theory.Text -- line-based text as bytes

A text of terminated lines is read back by splitting it at the separator, as long as no
line holds the separator (`splitOn_unlines`); a line that does adds lines
(`length_splitOn_of_mem`).  A line `key=value` is cut at its first `=`.  Bytes printed as
two lowercase hexadecimal digits each are read back by `decodeHex`, and a printed digit is
never smaller than the byte of `0`, so no separator below it can come out of a printer.
-/
import Mathlib.Data.List.Basic
import Mathlib.Tactic.Common

namespace V2xRosDriver.Theory.Text

set_option autoImplicit false

universe u

/-! ## Strings as bytes -/

/-- The bytes of a string, in UTF-8. -/
def bytesOf (s : String) : List UInt8 := s.toUTF8.data.toList

@[simp] theorem bytesOf_append (s t : String) : bytesOf (s ++ t) = bytesOf s ++ bytesOf t := by
  simp [bytesOf]

theorem bytesOf_inj {s t : String} : bytesOf s = bytesOf t ↔ s = t := by
  simp [bytesOf, ← String.toByteArray_inj, ByteArray.ext_iff]

/-- A byte below 128 encodes its own character, and is part of no other encoding. -/
theorem mem_utf8EncodeChar {c : Char} {byte : UInt8} (ascii : byte < 128) :
    byte ∈ String.utf8EncodeChar c ↔ c.toNat = byte.toNat := by
  have small : byte.toNat < 128 := ascii
  have other {n : Nat} (high : 128 ≤ n) (low : n < 256) : byte ≠ UInt8.ofNat n := by
    intro same
    have value := congrArg UInt8.toNat same
    rw [UInt8.toNat_ofNat'] at value
    omega
  have valid : c.toNat < 0x110000 := by
    rcases c.valid with below | ⟨-, below⟩
    · exact Nat.lt_trans below (by decide)
    · exact below
  have code : c.val.toNat = c.toNat := rfl
  unfold String.utf8EncodeChar
  simp only [code]
  split
  · rw [List.mem_singleton, ← UInt8.toNat_inj, UInt8.toNat_ofNat']
    omega
  · -- every byte of a longer encoding is marked
    refine iff_of_false ?_ (by omega)
    intro member
    split at member
    · simp only [List.mem_cons, List.not_mem_nil, or_false] at member
      rcases member with found | found
      all_goals exact other (by omega) (by omega) found
    · split at member
      · simp only [List.mem_cons, List.not_mem_nil, or_false] at member
        rcases member with found | found | found
        all_goals exact other (by omega) (by omega) found
      · simp only [List.mem_cons, List.not_mem_nil, or_false] at member
        rcases member with found | found | found | found
        all_goals exact other (by omega) (by omega) found

/-- A byte below 128 is in the bytes of a string exactly when its character is in the string. -/
theorem mem_bytesOf {s : String} {byte : UInt8} (ascii : byte < 128) :
    byte ∈ bytesOf s ↔ ∃ c ∈ s.toList, c.toNat = byte.toNat := by
  have encoded : bytesOf s = s.toList.flatMap String.utf8EncodeChar := by
    rw [bytesOf, String.toUTF8, ← String.utf8Encode_toList, List.utf8Encode,
      List.toList_data_toByteArray]
  simp only [encoded, List.mem_flatMap, mem_utf8EncodeChar ascii]

/-- What is printed of a number is digits. -/
theorem isDigit_of_mem_toString {n : Nat} {c : Char} (printed : c ∈ (toString n).toList) :
    c.isDigit = true := by
  have digits : (toString n).toList = Nat.toDigits 10 n := Nat.toList_repr
  rw [digits] at printed
  exact Nat.isDigit_of_mem_toDigits (by decide) (by decide) printed

/-! ## Lines -/

section Lines

variable {α : Type u}

/-- Every line with the separator behind it. -/
def unlines (separator : α) (lines : List (List α)) : List α := lines.flatMap (· ++ [separator])

theorem length_splitOn_pos [BEq α] (separator : α) (xs : List α) :
    0 < (xs.splitOn separator).length :=
  List.length_pos_iff.mpr (List.splitOn_ne_nil separator xs)

theorem length_flatMap_splitOn [BEq α] (separator : α) (lines : List (List α)) :
    lines.length ≤ (lines.flatMap (·.splitOn separator)).length := by
  induction lines with
  | nil => simp
  | cons line rest ih =>
      have first := length_splitOn_pos separator line
      rw [List.flatMap_cons, List.length_append, List.length_cons]
      omega

variable [BEq α] [LawfulBEq α] {separator : α}

/-- Splitting a text splits its lines. -/
theorem splitOn_unlines (lines : List (List α)) :
    (unlines separator lines).splitOn separator =
      lines.flatMap (·.splitOn separator) ++ [[]] := by
  induction lines with
  | nil => simp [unlines]
  | cons line rest ih =>
      have shape : unlines separator (line :: rest) =
          line ++ separator :: unlines separator rest := by
        simp [unlines]
      rw [shape, List.splitOn_append_cons_self, ih, List.flatMap_cons, List.append_assoc]

/-- Lines without the separator come back as they are. -/
theorem flatMap_splitOn_of_clean {lines : List (List α)}
    (clean : ∀ line ∈ lines, separator ∉ line) :
    lines.flatMap (·.splitOn separator) = lines := by
  induction lines with
  | nil => rfl
  | cons line rest ih =>
      rw [List.flatMap_cons, List.splitOn_eq_singleton (clean line (by simp)),
        ih fun other member => clean other (by simp [member])]
      rfl

/-- A line with the separator comes back as more than one. -/
theorem length_splitOn_of_mem {xs : List α} (member : separator ∈ xs) :
    2 ≤ (xs.splitOn separator).length := by
  obtain ⟨front, back, rfl⟩ := List.append_of_mem member
  rw [List.splitOn_append_cons_self, List.length_append]
  have first := length_splitOn_pos separator front
  have second := length_splitOn_pos separator back
  omega

/-- One line with the separator, and the text has more lines than were written. -/
theorem lt_length_flatMap_splitOn {lines : List (List α)} {line : List α} (written : line ∈ lines)
    (member : separator ∈ line) :
    lines.length < (lines.flatMap (·.splitOn separator)).length := by
  obtain ⟨front, back, rfl⟩ := List.append_of_mem written
  have before := length_flatMap_splitOn separator front
  have here := length_splitOn_of_mem member
  have behind := length_flatMap_splitOn separator back
  simp only [List.flatMap_append, List.flatMap_cons, List.length_append, List.length_cons]
  omega

end Lines

/-! ## Keys and values -/

section Fields

variable {α : Type u} [BEq α] [LawfulBEq α] {equals : α}

/-- Cut a line at the first `equals`. -/
def splitField (equals : α) (line : List α) : List α × List α :=
  (line.takeWhile (· != equals), (line.dropWhile (· != equals)).drop 1)

theorem splitField_append {key value : List α} (clean : equals ∉ key) :
    splitField equals (key ++ equals :: value) = (key, value) := by
  have others : ∀ x ∈ key, (x != equals) = true := by
    intro x member
    rw [bne_iff_ne]
    rintro rfl
    exact clean member
  rw [splitField, List.takeWhile_append_of_pos others, List.dropWhile_append_of_pos others]
  simp

end Fields

/-! ## Hexadecimal digits -/

/-- The value of a lowercase hexadecimal digit. -/
def lowerHexDigit? (digit : UInt8) : Option Nat :=
  if 48 ≤ digit ∧ digit ≤ 57 then some (digit.toNat - 48)
  else if 97 ≤ digit ∧ digit ≤ 102 then some (digit.toNat - 87)
  else none

/-- Read two lowercase digits for each byte. -/
def decodeHex : List UInt8 → Option (List UInt8)
  | [] => some []
  | [_] => none
  | high :: low :: rest =>
      match lowerHexDigit? high, lowerHexDigit? low, decodeHex rest with
      | some h, some l, some bytes => some (UInt8.ofNat (16 * h + l) :: bytes)
      | _, _, _ => none

/-- The two digits of a byte. -/
def twoDigits (byte : UInt8) : List UInt8 :=
  [(byte.toNat / 16).digitChar.toUInt8, (byte.toNat % 16).digitChar.toUInt8]

theorem lowerHexDigit?_digitChar : ∀ n < 16, lowerHexDigit? n.digitChar.toUInt8 = some n := by
  decide

theorem digitChar_ge : ∀ n < 16, 48 ≤ n.digitChar.toUInt8 := by decide

/-- What was printed is read back. -/
theorem decodeHex_flatMap_twoDigits (bytes : List UInt8) :
    decodeHex (bytes.flatMap twoDigits) = some bytes := by
  induction bytes with
  | nil => rfl
  | cons byte rest ih =>
      have bound := byte.toNat_lt
      have joined : 16 * (byte.toNat / 16) + byte.toNat % 16 = byte.toNat := by omega
      show decodeHex (_ :: _ :: rest.flatMap twoDigits) = some (byte :: rest)
      simp only [decodeHex, lowerHexDigit?_digitChar (byte.toNat / 16) (by omega),
        lowerHexDigit?_digitChar (byte.toNat % 16) (by omega), ih, joined, UInt8.ofNat_toNat]

/-- Digits are not smaller than `0`. -/
theorem ge_of_mem_twoDigits {bytes : List UInt8} {digit : UInt8}
    (member : digit ∈ bytes.flatMap twoDigits) : 48 ≤ digit := by
  obtain ⟨byte, -, printed⟩ := List.mem_flatMap.mp member
  have bound := byte.toNat_lt
  simp only [twoDigits, List.mem_cons, List.not_mem_nil, or_false] at printed
  rcases printed with rfl | rfl
  · exact digitChar_ge _ (by omega)
  · exact digitChar_ge _ (by omega)

/-- The digits of a byte, printed without leading zeros and then padded to two. -/
theorem leftpad_toDigits (byte : UInt8) :
    (List.leftpad 2 '0' (Nat.toDigits 16 byte.toNat)).map Char.toUInt8 = twoDigits byte := by
  have bound := byte.toNat_lt
  by_cases small : byte.toNat < 16
  · have high : byte.toNat / 16 = 0 := by omega
    have low : byte.toNat % 16 = byte.toNat := by omega
    rw [Nat.toDigits_of_lt_base small, twoDigits, high, low]
    rfl
  · rw [Nat.toDigits_of_base_le (by decide) (by omega),
      Nat.toDigits_of_lt_base (show byte.toNat / 16 < 16 by omega)]
    rfl

end V2xRosDriver.Theory.Text
