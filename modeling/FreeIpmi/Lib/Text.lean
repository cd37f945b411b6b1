import Mathlib

/-! Texts as lists of bytes.

    What a program prints into a buffer: a formatted text is cut to what the buffer has room for,
    numbers are printed in decimal, and a sequence of names may be counted in letters. -/

namespace Text

/-- `snprintf` of a text into a buffer of `buflen` bytes: what stands before the final null. -/
def snprintf (buflen : ℕ) (text : List (BitVec 8)) : List (BitVec 8) := text.take (buflen - 1)

theorem snprintf_fits {buflen : ℕ} {text : List (BitVec 8)} (h : text.length < buflen) :
    snprintf buflen text = text :=
  List.take_of_length_le (by omega)

/-- A buffer as a C string: what stands before the first null. -/
def cString (buf : List (BitVec 8)) : List (BitVec 8) := buf.takeWhile fun b => b ≠ 0

/-! ### Decimal numbers -/

/-- A number as `%u` prints it. -/
def decimal (n : ℕ) : List (BitVec 8) := (Nat.toDigits 10 n).map fun c => BitVec.ofNat 8 c.toNat

/-- The number that decimal digits stand for. -/
def decimalValue (digits : List (BitVec 8)) : ℕ :=
  digits.foldl (fun value digit => 10 * value + (digit.toNat - 48)) 0

theorem digitChar_value : ∀ d < 10, (BitVec.ofNat 8 (Nat.digitChar d).toNat).toNat - 48 = d := by
  decide

theorem decimalValue_decimal (n : ℕ) : decimalValue (decimal n) = n := by
  induction n using Nat.strong_induction_on with
  | _ n ih =>
    rw [decimal, Nat.toDigits_eq_if (by norm_num)]
    split
    · rename_i hlt
      exact (Nat.zero_add _).trans (digitChar_value n hlt)
    · rename_i hge
      have hrest := ih (n / 10) (by omega)
      rw [decimalValue, decimal] at hrest
      rw [decimalValue, List.map_append, List.foldl_append, hrest]
      have hdigit := digitChar_value (n % 10) (Nat.mod_lt n (by norm_num))
      simp only [List.map_cons, List.map_nil, List.foldl_cons, List.foldl_nil, hdigit]
      omega

theorem decimal_injective : Function.Injective decimal := by
  intro m n h
  rw [← decimalValue_decimal m, h, decimalValue_decimal]

theorem length_decimal_le {n k : ℕ} (hk : 0 < k) (h : n < 10 ^ k) : (decimal n).length ≤ k := by
  rw [decimal, List.length_map]
  exact (Nat.length_toDigits_le_iff (by norm_num) hk).mpr h

/-! ### Counting in letters -/

/-- Number `n` of the sequence A, B, ..., Z, AA, AB, ... -/
def letters (n : ℕ) : List (BitVec 8) :=
  if n < 26 then [BitVec.ofNat 8 (65 + n)]
  else letters (n / 26 - 1) ++ [BitVec.ofNat 8 (65 + n % 26)]
termination_by n
decreasing_by omega

theorem letters_of_lt {n : ℕ} (h : n < 26) : letters n = [BitVec.ofNat 8 (65 + n)] := by
  rw [letters, if_pos h]

theorem letters_ne_nil (n : ℕ) : letters n ≠ [] := by
  rw [letters]
  split <;> simp

/-- From the second round on there are at least two letters. -/
theorem one_lt_length_letters {n : ℕ} (h : 26 ≤ n) : 1 < (letters n).length := by
  rw [letters, if_neg (by omega), List.length_append, List.length_singleton]
  have hpos := List.length_pos_iff.mpr (letters_ne_nil (n / 26 - 1))
  omega

/-- Only the first of them is the letter A. -/
theorem letters_eq_A_iff (n : ℕ) : letters n = [65] ↔ n = 0 := by
  constructor
  · intro h
    rcases Nat.lt_or_ge n 26 with hlt | hge
    · rw [letters_of_lt hlt, List.cons.injEq] at h
      have hval := congrArg BitVec.toNat h.1
      rw [BitVec.toNat_ofNat] at hval
      have h65 : (65 : BitVec 8).toNat = 65 := rfl
      omega
    · have hlen := one_lt_length_letters hge
      rw [h] at hlen
      exact absurd hlen (by decide)
  · rintro rfl
    exact letters_of_lt (by norm_num)

end Text
