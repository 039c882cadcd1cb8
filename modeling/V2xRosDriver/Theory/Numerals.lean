/-
# Theory.Numerals -- the numbers the C++ library reads and prints

`std::to_string` of an integer is Lean's `toString`; two integers print alike only
when they are equal (`toString_int_eq_nat`).  `std::stoi (s, nullptr, 16)` is
`stoi16`: leading white space, an optional sign, an optional `0x`, then the longest
run of hexadecimal digits, with the two exceptions the library throws.  On a plain
numeral of one to seven hexadecimal digits it is the numeral's value
(`stoi16_of_numeral`), so a decimal numeral of more than one digit comes back as another
number (`stoi16_toString_eq_iff`).  `word hi lo` is the unsigned number of two bytes, most
significant first.
-/
import Mathlib

namespace V2xRosDriver.Theory.Numerals

set_option autoImplicit false

/-! ## Printing -/

/-- A natural number prints as an integer prints only when they are the same number. -/
theorem toString_int_eq_nat {value : Int} {n : Nat} :
    toString n = toString value ↔ value = (n : Int) := by
  constructor
  · intro printed
    have same : Int.repr (n : Int) = Int.repr value := printed
    exact (Int.repr_injective same).symm
  · rintro rfl
    rfl

theorem toString_beq_int (n : Nat) (value : Int) :
    (toString n == toString value) = decide (value = n) := by
  rw [Bool.eq_iff_iff, beq_iff_eq, toString_int_eq_nat, decide_eq_true_eq]

theorem toString_nat_inj {m n : Nat} : toString m = toString n ↔ m = n :=
  Nat.repr_inj

/-! ## Reading hexadecimal -/

/-- The exceptions of `std::stoi`. -/
inductive StoiError where
  | invalidArgument
  | outOfRange
  deriving DecidableEq, Repr

def isSpace (c : Char) : Bool :=
  c = ' ' || c = '\t' || c = '\n' || c = '\r' || c.toNat = 11 || c.toNat = 12

/-- The value of a hexadecimal digit. -/
def hexDigit? (c : Char) : Option Nat :=
  if '0' ≤ c ∧ c ≤ '9' then some (c.toNat - '0'.toNat)
  else if 'a' ≤ c ∧ c ≤ 'f' then some (c.toNat - 'a'.toNat + 10)
  else if 'A' ≤ c ∧ c ≤ 'F' then some (c.toNat - 'A'.toNat + 10)
  else none

def isHexDigit (c : Char) : Bool := (hexDigit? c).isSome

/-- The number a list of hexadecimal digits denotes. -/
def hexValue (digits : List Char) : Nat :=
  digits.foldl (fun value c => 16 * value + (hexDigit? c).getD 0) 0

/-- Drop `0x` or `0X` where a hexadecimal digit follows it. -/
def dropHexMark : List Char → List Char
  | '0' :: x :: d :: rest =>
      if (x = 'x' ∨ x = 'X') ∧ isHexDigit d then d :: rest else '0' :: x :: d :: rest
  | cs => cs

/-- The sign and what follows it. -/
def splitSign : List Char → Bool × List Char
  | '-' :: rest => (true, rest)
  | '+' :: rest => (false, rest)
  | cs => (false, cs)

/-- `std::stoi (s, nullptr, 16)`, with `int` of 32 bits. -/
def stoi16 (s : String) : Except StoiError Int :=
  let signed := splitSign (s.toList.dropWhile isSpace)
  let digits := (dropHexMark signed.2).takeWhile isHexDigit
  if digits.isEmpty then .error .invalidArgument
  else
    let value : Int := if signed.1 then -(hexValue digits : Int) else hexValue digits
    if -2147483648 ≤ value ∧ value ≤ 2147483647 then .ok value else .error .outOfRange

/-- A plain hexadecimal numeral: digits only, at least one and few enough to fit an `int`. -/
def IsNumeral (s : String) : Prop :=
  1 ≤ s.toList.length ∧ s.toList.length ≤ 7 ∧ s.toList.all isHexDigit = true

instance (s : String) : Decidable (IsNumeral s) :=
  inferInstanceAs (Decidable (_ ∧ _ ∧ _))

theorem hexDigit?_lt {c : Char} {d : Nat} (read : hexDigit? c = some d) : d < 16 := by
  unfold hexDigit? at read
  have ascii : ∀ {a b : Char}, a ≤ b → a.toNat ≤ b.toNat := fun le => le
  split at read
  · rename_i range
    have := ascii range.2
    simp only [Option.some.injEq] at read
    have : '9'.toNat = 57 := rfl
    have : '0'.toNat = 48 := rfl
    omega
  · split at read
    · rename_i range
      have := ascii range.2
      simp only [Option.some.injEq] at read
      have : 'f'.toNat = 102 := rfl
      have : 'a'.toNat = 97 := rfl
      omega
    · split at read
      · rename_i range
        have := ascii range.2
        simp only [Option.some.injEq] at read
        have : 'F'.toNat = 70 := rfl
        have : 'A'.toNat = 65 := rfl
        omega
      · cases read

theorem hexFold_lt (digits : List Char) (value : Nat) :
    digits.foldl (fun value c => 16 * value + (hexDigit? c).getD 0) value <
      (value + 1) * 16 ^ digits.length := by
  induction digits generalizing value with
  | nil => simp
  | cons c rest ih =>
      have digit : (hexDigit? c).getD 0 < 16 := by
        cases read : hexDigit? c with
        | none => simp
        | some d => simpa using hexDigit?_lt read
      simp only [List.foldl_cons, List.length_cons]
      calc rest.foldl (fun value c => 16 * value + (hexDigit? c).getD 0)
              (16 * value + (hexDigit? c).getD 0)
          < (16 * value + (hexDigit? c).getD 0 + 1) * 16 ^ rest.length := ih _
        _ ≤ (16 * (value + 1)) * 16 ^ rest.length :=
            Nat.mul_le_mul_right _ (by omega)
        _ = (value + 1) * 16 ^ (rest.length + 1) := by
            rw [pow_succ, Nat.mul_comm 16 (value + 1), Nat.mul_assoc,
              Nat.mul_comm 16 (16 ^ rest.length)]

theorem hexValue_lt (digits : List Char) : hexValue digits < 16 ^ digits.length := by
  simpa [hexValue] using hexFold_lt digits 0

theorem isHexDigit_not_mark {c : Char} (digit : isHexDigit c = true) :
    isSpace c = false ∧ c ≠ '-' ∧ c ≠ '+' ∧ c ≠ 'x' ∧ c ≠ 'X' := by
  refine ⟨?_, ?_, ?_, ?_, ?_⟩
  · cases space : isSpace c with
    | false => rfl
    | true =>
        exfalso
        simp only [isSpace, Bool.or_eq_true, decide_eq_true_eq] at space
        rcases space with ((((rfl | rfl) | rfl) | rfl) | code) | code
        · exact absurd digit (by decide)
        · exact absurd digit (by decide)
        · exact absurd digit (by decide)
        · exact absurd digit (by decide)
        · have same : c = Char.ofNat 11 := by rw [← code, Char.ofNat_toNat]
          exact absurd (same ▸ digit) (by decide)
        · have same : c = Char.ofNat 12 := by rw [← code, Char.ofNat_toNat]
          exact absurd (same ▸ digit) (by decide)
  all_goals
    rintro rfl
    exact absurd digit (by decide)

/-- A plain numeral is read as its value. -/
theorem stoi16_of_numeral {s : String} (numeral : IsNumeral s) :
    stoi16 s = .ok (hexValue s.toList : Int) := by
  obtain ⟨nonempty, short, allDigits⟩ := numeral
  have digits := List.all_eq_true.mp allDigits
  obtain ⟨c, rest, shape⟩ : ∃ c rest, s.toList = c :: rest := by
    cases chars : s.toList with
    | nil => rw [chars] at nonempty; simp at nonempty
    | cons c rest => exact ⟨c, rest, rfl⟩
  rw [shape] at short digits
  obtain ⟨notSpace, notMinus, notPlus, -, -⟩ := isHexDigit_not_mark (digits c (by simp))
  have unspaced : (c :: rest).dropWhile isSpace = c :: rest := by simp [List.dropWhile, notSpace]
  have unsigned : splitSign (c :: rest) = (false, c :: rest) := by
    unfold splitSign
    split
    · rename_i same; exact absurd (List.cons.inj same).1 notMinus
    · rename_i same; exact absurd (List.cons.inj same).1 notPlus
    · rfl
  have unmarked : dropHexMark (c :: rest) = c :: rest := by
    unfold dropHexMark
    split
    · rename_i x d more same
      obtain ⟨-, -, -, notx, notX⟩ := isHexDigit_not_mark (digits x (by rw [same]; simp))
      rw [if_neg (fun marked => marked.1.elim notx notX), same]
    · rfl
  have whole : (c :: rest).takeWhile isHexDigit = c :: rest := by
    rw [List.takeWhile_eq_self_iff]
    exact digits
  have bound : hexValue (c :: rest) < 16 ^ 7 :=
    lt_of_lt_of_le (hexValue_lt _) (Nat.pow_le_pow_right (by decide) short)
  have fits : -2147483648 ≤ (hexValue (c :: rest) : Int) ∧
      (hexValue (c :: rest) : Int) ≤ 2147483647 := by
    have : (16 : Nat) ^ 7 = 268435456 := by decide
    omega
  simp only [stoi16, shape, unspaced, unsigned, unmarked, whole, List.isEmpty_cons,
    Bool.false_eq_true, if_false, if_pos fits]

/-- A decimal number of at most seven digits is printed as a plain numeral. -/
theorem numeral_of_nat {n : Nat} (small : n < 10 ^ 7) : IsNumeral (toString n) := by
  have printed : (toString n).toList = Nat.toDigits 10 n := Nat.toList_repr
  have decimal {c : Char} (digit : c.isDigit = true) : isHexDigit c = true := by
    have range : '0' ≤ c ∧ c ≤ '9' := by simpa [Char.isDigit, Char.le_def] using digit
    rw [isHexDigit, hexDigit?, if_pos range]
    rfl
  unfold IsNumeral
  rw [printed, List.all_eq_true]
  refine ⟨Nat.length_toDigits_pos, ?_, ?_⟩
  · exact (Nat.length_toDigits_le_iff (by decide) (by decide)).mpr small
  · intro c member
    exact decimal (Nat.isDigit_of_mem_toDigits (by decide) (by decide) member)

/-! ## A decimal numeral read in base 16 -/

theorem hexDigit?_digitChar {d : Nat} (decimal : d < 10) : hexDigit? d.digitChar = some d := by
  interval_cases d <;> rfl

theorem hexValue_append_singleton (digits : List Char) (c : Char) :
    hexValue (digits ++ [c]) = 16 * hexValue digits + (hexDigit? c).getD 0 := by
  simp [hexValue, List.foldl_append]

theorem hexValue_toDigits_of_lt {n : Nat} (small : n < 10) :
    hexValue (Nat.toDigits 10 n) = n := by
  rw [Nat.toDigits_of_lt_base small]
  simp [hexValue, hexDigit?_digitChar small]

theorem hexValue_toDigits_of_le {n : Nat} (large : 10 ≤ n) :
    hexValue (Nat.toDigits 10 n) = 16 * hexValue (Nat.toDigits 10 (n / 10)) + n % 10 := by
  rw [Nat.toDigits_of_base_le (by decide) large, hexValue_append_singleton,
    hexDigit?_digitChar (Nat.mod_lt n (by decide)), Option.getD_some]

theorem le_hexValue_toDigits (n : Nat) : n ≤ hexValue (Nat.toDigits 10 n) := by
  induction n using Nat.strong_induction_on with
  | _ n ih =>
      by_cases small : n < 10
      · exact (hexValue_toDigits_of_lt small).ge
      · rw [hexValue_toDigits_of_le (by omega)]
        have quotient := ih (n / 10) (by omega)
        omega

/-- Only a numeral of one digit means the same in both bases. -/
theorem hexValue_toDigits_eq_iff {n : Nat} : hexValue (Nat.toDigits 10 n) = n ↔ n < 10 := by
  constructor
  · intro same
    by_contra large
    rw [hexValue_toDigits_of_le (by omega)] at same
    have quotient := le_hexValue_toDigits (n / 10)
    omega
  · exact hexValue_toDigits_of_lt

theorem stoi16_toString {n : Nat} (small : n < 10 ^ 7) :
    stoi16 (toString n) = .ok (hexValue (Nat.toDigits 10 n) : Int) := by
  rw [stoi16_of_numeral (numeral_of_nat small)]
  congr 2
  exact congrArg hexValue Nat.toList_repr

theorem stoi16_toString_eq_iff {n : Nat} (small : n < 10 ^ 7) :
    stoi16 (toString n) = .ok (n : Int) ↔ n < 10 := by
  rw [stoi16_toString small, Except.ok.injEq, Nat.cast_inj, hexValue_toDigits_eq_iff]

/-! ## Two bytes, most significant first -/

/-- `(static_cast<uint16_t>(hi) << 8) | static_cast<uint16_t>(lo)`. -/
def word (hi lo : UInt8) : Nat := (hi.toNat <<< 8) ||| lo.toNat

theorem word_eq (hi lo : UInt8) : word hi lo = 256 * hi.toNat + lo.toNat := by
  have low : lo.toNat < 2 ^ 8 := lo.toNat_lt
  rw [word, ← Nat.shiftLeft_add_eq_or_of_lt low, Nat.shiftLeft_eq]
  omega

theorem word_lt (hi lo : UInt8) : word hi lo < 65536 := by
  have := hi.toNat_lt
  have := lo.toNat_lt
  rw [word_eq]
  omega

/-- The two bytes of a 16-bit number. -/
def highByte (n : Nat) : UInt8 := UInt8.ofNat (n >>> 8)

def lowByte (n : Nat) : UInt8 := UInt8.ofNat (n &&& 0xFF)

theorem highByte_toNat {n : Nat} (fits : n < 65536) : (highByte n).toNat = n / 256 := by
  rw [highByte, UInt8.toNat_ofNat', Nat.shiftRight_eq_div_pow]
  omega

theorem lowByte_toNat (n : Nat) : (lowByte n).toNat = n % 256 := by
  rw [lowByte, UInt8.toNat_ofNat', show (0xFF : Nat) = 2 ^ 8 - 1 from rfl,
    Nat.and_two_pow_sub_one_eq_mod]
  omega

@[simp] theorem word_high_low {n : Nat} (fits : n < 65536) :
    word (highByte n) (lowByte n) = n := by
  rw [word_eq, highByte_toNat fits, lowByte_toNat]
  omega

@[simp] theorem highByte_word (hi lo : UInt8) : highByte (word hi lo) = hi := by
  have := lo.toNat_lt
  apply UInt8.toNat_inj.mp
  rw [highByte_toNat (word_lt hi lo), word_eq]
  omega

@[simp] theorem lowByte_word (hi lo : UInt8) : lowByte (word hi lo) = lo := by
  have := lo.toNat_lt
  apply UInt8.toNat_inj.mp
  rw [lowByte_toNat, word_eq]
  omega

/-- Clearing the top bit of the first byte leaves the low fifteen bits of the two. -/
theorem word_unmarked (high low : UInt8) :
    ((high &&& 0x7F).toNat <<< 8) ||| low.toNat = 256 * (high.toNat % 128) + low.toNat := by
  have cleared : (high &&& 0x7F).toNat = high.toNat % 128 := by
    rw [UInt8.toNat_and, show (0x7F : UInt8).toNat = 2 ^ 7 - 1 from rfl,
      Nat.and_two_pow_sub_one_eq_mod]
  rw [← cleared, ← word_eq (high &&& 0x7F) low, word]

/-- Setting the top bit of a byte below 128 adds 128. -/
theorem or_mark {n : Nat} (small : n < 128) : 0x80 ||| n = 128 + n := by
  have joined := Nat.two_pow_add_eq_or_of_lt (i := 7) small 1
  simpa using joined.symm

end V2xRosDriver.Theory.Numerals
