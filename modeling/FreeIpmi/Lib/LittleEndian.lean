import FreeIpmi.Lib.ByteBits

/-! Numbers as byte strings, least significant byte first. -/

namespace LittleEndian
open ByteBits

/-- The value of a byte string. -/
def leValue : List Byte → ℕ
  | [] => 0
  | b :: bs => b.toNat + 256 * leValue bs

/-- The `n` low bytes of a number. -/
def leBytes : ℕ → ℕ → List Byte
  | 0, _ => []
  | n + 1, v => BitVec.ofNat 8 v :: leBytes n (v / 256)

@[simp] theorem length_leBytes : ∀ (n v : ℕ), (leBytes n v).length = n
  | 0, _ => rfl
  | n + 1, v => by rw [leBytes, List.length_cons, length_leBytes n]

theorem leValue_lt : ∀ l : List Byte, leValue l < 256 ^ l.length
  | [] => Nat.one_pos
  | b :: bs => by
    have hb := b.isLt
    have hbs := leValue_lt bs
    rw [leValue, List.length_cons, pow_succ]
    omega

theorem leValue_leBytes : ∀ {n v : ℕ}, v < 256 ^ n → leValue (leBytes n v) = v
  | 0, v, h => by simpa [leBytes, leValue, eq_comm] using h
  | n + 1, v, h => by
    have hdiv : v / 256 < 256 ^ n := Nat.div_lt_of_lt_mul (by rwa [pow_succ, mul_comm] at h)
    rw [leBytes, leValue, leValue_leBytes hdiv, BitVec.toNat_ofNat]
    exact Nat.mod_add_div v 256

/-! ### Values of bit lists -/

theorem toNat_ofBoolListLE_append : ∀ l₁ l₂ : List Bool,
    (BitVec.ofBoolListLE (l₁ ++ l₂)).toNat
      = (BitVec.ofBoolListLE l₁).toNat + 2 ^ l₁.length * (BitVec.ofBoolListLE l₂).toNat
  | [], l₂ => by simp [BitVec.ofBoolListLE]
  | b :: l₁, l₂ => by
    have ih := toNat_ofBoolListLE_append l₁ l₂
    simp only [List.cons_append, BitVec.ofBoolListLE, BitVec.toNat_concat, ih, List.length_cons,
      pow_succ]
    ring

/-- The bits of whole bytes have the value of the bytes. -/
theorem toNat_window : ∀ l : List Byte,
    (BitVec.ofBoolListLE (window l 0 (8 * l.length))).toNat = leValue l
  | [] => rfl
  | b :: l => by
    have hlen : 8 * (b :: l).length = 8 + 8 * l.length := by
      rw [List.length_cons]
      ring
    have hbyte : (BitVec.ofBoolListLE ((List.range 8).map b.getLsbD)).toNat = b.toNat :=
      congrArg BitVec.toNat (ofBoolListLE_getLsbD b)
    rw [hlen, window_zero_cons, toNat_ofBoolListLE_append, toNat_window l, hbyte, leValue,
      List.length_map, List.length_range]
    norm_num

end LittleEndian
