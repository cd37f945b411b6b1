import Mathlib

/-! Byte strings read as little-endian bit streams.

    Bit `i` of a byte string is bit `i % 8` of byte `i / 8`, so a run of bits may start anywhere in
    a byte and cross any number of byte boundaries. `window` cuts such a run out, `pack` goes back
    from bits to bytes, and `splice` is a bounded memory copy. The lemmas say how the three meet
    `++`, `take` and `drop`. -/

namespace ByteBits

/-- One byte of memory. -/
abbrev Byte := BitVec 8

/-- Bit `i` of a byte string (`false` past the end). -/
def bit (l : List Byte) (i : ℕ) : Bool := (l.getD (i / 8) 0).getLsbD (i % 8)

/-- The `n` bits of a byte string from bit `lo` on. -/
def window (l : List Byte) (lo n : ℕ) : List Bool := (List.range n).map fun k => bit l (lo + k)

/-- Little-endian packing: eight bits to the byte, an incomplete last byte dropped. -/
def pack : List Bool → List Byte
  | b0 :: b1 :: b2 :: b3 :: b4 :: b5 :: b6 :: b7 :: bs =>
    BitVec.ofBoolListLE [b0, b1, b2, b3, b4, b5, b6, b7] :: pack bs
  | _ => []

/-- Copy `src` over `dst` from offset `off` on. -/
def splice (dst : List Byte) (off : ℕ) (src : List Byte) : List Byte :=
  dst.take off ++ src ++ dst.drop (off + src.length)

/-! ### Single bits -/

theorem bit_eq_getElem? (l : List Byte) (i : ℕ) :
    bit l i = (l[i / 8]?.getD 0).getLsbD (i % 8) := by
  simp [bit, List.getD_eq_getElem?_getD]

theorem bit_append_left {a b : List Byte} {i : ℕ} (h : i < 8 * a.length) :
    bit (a ++ b) i = bit a i := by
  have hlt : i / 8 < a.length := by omega
  simp only [bit, List.getD_append _ _ _ _ hlt]

theorem bit_append_right {a b : List Byte} {i : ℕ} (h : 8 * a.length ≤ i) :
    bit (a ++ b) i = bit b (i - 8 * a.length) := by
  have hge : a.length ≤ i / 8 := by omega
  have hdiv : (i - 8 * a.length) / 8 = i / 8 - a.length := by omega
  have hmod : (i - 8 * a.length) % 8 = i % 8 := by omega
  simp only [bit, List.getD_append_right _ _ _ _ hge, hdiv, hmod]

theorem bit_take {l : List Byte} {n i : ℕ} (h : i < 8 * n) : bit (l.take n) i = bit l i := by
  have hlt : i / 8 < n := by omega
  simp only [bit_eq_getElem?, List.getElem?_take, hlt, if_true]

theorem bit_drop (l : List Byte) (n i : ℕ) : bit (l.drop n) i = bit l (8 * n + i) := by
  have hdiv : (8 * n + i) / 8 = n + i / 8 := by omega
  have hmod : (8 * n + i) % 8 = i % 8 := by omega
  simp only [bit_eq_getElem?, List.getElem?_drop, hdiv, hmod]

/-! ### Windows -/

@[simp] theorem window_zero (l : List Byte) (lo : ℕ) : window l lo 0 = [] := rfl

@[simp] theorem length_window (l : List Byte) (lo n : ℕ) : (window l lo n).length = n := by
  simp [window]

theorem window_congr {a b : List Byte} {lo lo' n : ℕ}
    (h : ∀ k < n, bit a (lo + k) = bit b (lo' + k)) : window a lo n = window b lo' n :=
  List.map_congr_left fun k hk => h k (List.mem_range.mp hk)

/-- A window splits at any bit. -/
theorem window_add (l : List Byte) (lo m n : ℕ) :
    window l lo (m + n) = window l lo m ++ window l (lo + m) n := by
  simp only [window, List.range_add, List.map_append, List.map_map]
  congr 1
  exact List.map_congr_left fun k _ => by simp [Nat.add_assoc]

theorem window_append_left {a b : List Byte} {lo n : ℕ} (h : lo + n ≤ 8 * a.length) :
    window (a ++ b) lo n = window a lo n :=
  window_congr fun _ hk => bit_append_left (by omega)

/-- The whole of `a` followed by the first `n` bits of `b`. -/
theorem window_append (a b : List Byte) (n : ℕ) :
    window (a ++ b) 0 (8 * a.length + n) = window a 0 (8 * a.length) ++ window b 0 n := by
  rw [window_add, window_append_left (by omega)]
  congr 1
  refine window_congr fun k _ => ?_
  rw [bit_append_right (by omega)]
  congr 1; omega

/-- Reading whole bytes from a byte boundary is reading the dropped and taken byte string. -/
theorem window_drop_take (l : List Byte) (off n : ℕ) :
    window ((l.drop off).take n) 0 (8 * n) = window l (8 * off) (8 * n) := by
  refine window_congr fun k hk => ?_
  rw [bit_take (by omega), bit_drop, Nat.zero_add]

theorem window_zero_cons (b : Byte) (l : List Byte) (n : ℕ) :
    window (b :: l) 0 (8 + n) = (List.range 8).map b.getLsbD ++ window l 0 n := by
  rw [show b :: l = [b] ++ l from rfl, show 8 + n = 8 * [b].length + n from rfl, window_append]
  rfl

/-! ### Packing -/

theorem ofBoolListLE_getLsbD (b : Byte) :
    BitVec.ofBoolListLE [b.getLsbD 0, b.getLsbD 1, b.getLsbD 2, b.getLsbD 3,
      b.getLsbD 4, b.getLsbD 5, b.getLsbD 6, b.getLsbD 7] = b := by
  refine BitVec.eq_of_getLsbD_eq fun j hj => ?_
  rw [BitVec.getLsbD_ofBoolListLE]
  simp only [List.length_cons, List.length_nil] at hj
  interval_cases j <;> rfl

/-- Packing the bits of a byte string gives the byte string back. -/
theorem pack_window : ∀ l : List Byte, pack (window l 0 (8 * l.length)) = l
  | [] => rfl
  | b :: l => by
    have hlen : 8 * (b :: l).length = 8 + 8 * l.length := by rw [List.length_cons]; ring
    rw [hlen, window_zero_cons]
    show BitVec.ofBoolListLE [b.getLsbD 0, b.getLsbD 1, b.getLsbD 2, b.getLsbD 3,
      b.getLsbD 4, b.getLsbD 5, b.getLsbD 6, b.getLsbD 7] :: pack (window l 0 (8 * l.length)) = b :: l
    rw [ofBoolListLE_getLsbD, pack_window l]

/-- The bits of whole bytes survive the packing. -/
theorem window_pack : ∀ {bits : List Bool}, bits.length % 8 = 0 → window (pack bits) 0 bits.length = bits
  | b0 :: b1 :: b2 :: b3 :: b4 :: b5 :: b6 :: b7 :: bs, h => by
    have hlen : (b0 :: b1 :: b2 :: b3 :: b4 :: b5 :: b6 :: b7 :: bs).length = 8 + bs.length := by
      simp only [List.length_cons]
      omega
    rw [hlen] at h ⊢
    rw [pack, window_zero_cons, window_pack (by omega)]
    have hrange : List.range 8 = [0, 1, 2, 3, 4, 5, 6, 7] := rfl
    simp only [hrange, List.map_cons, List.map_nil, BitVec.getLsbD_ofBoolListLE]
    rfl
  | [], _ => rfl
  | [_], h | [_, _], h | [_, _, _], h | [_, _, _, _], h | [_, _, _, _, _], h | [_, _, _, _, _, _], h
  | [_, _, _, _, _, _, _], h => by simp at h

theorem length_pack : ∀ bits : List Bool, (pack bits).length = bits.length / 8
  | b0 :: b1 :: b2 :: b3 :: b4 :: b5 :: b6 :: b7 :: bs => by
    have hlen : (b0 :: b1 :: b2 :: b3 :: b4 :: b5 :: b6 :: b7 :: bs).length = bs.length + 8 := rfl
    rw [pack, List.length_cons, length_pack bs, hlen, Nat.add_div_right _ (by norm_num)]
  | [] | [_] | [_, _] | [_, _, _] | [_, _, _, _] | [_, _, _, _, _] | [_, _, _, _, _, _]
  | [_, _, _, _, _, _, _] => by simp [pack]

/-! ### Copying -/

theorem length_splice {dst src : List Byte} {off : ℕ} (h : off + src.length ≤ dst.length) :
    (splice dst off src).length = dst.length := by
  simp only [splice, List.length_append, List.length_take, List.length_drop]; omega

/-- A copy leaves the bits before and after the copied range alone. -/
theorem bit_splice_of_outside {dst src : List Byte} {off i : ℕ} (h : off + src.length ≤ dst.length)
    (hi : i < 8 * off ∨ 8 * (off + src.length) ≤ i) : bit (splice dst off src) i = bit dst i := by
  have htake : (dst.take off).length = off := by rw [List.length_take]; omega
  have hpre : (dst.take off ++ src).length = off + src.length := by
    rw [List.length_append, htake]
  rcases hi with hi | hi
  · rw [splice, bit_append_left (by rw [hpre]; omega), bit_append_left (by rw [htake]; omega),
      bit_take hi]
  · rw [splice, bit_append_right (by rw [hpre]; omega), hpre, bit_drop]
    congr 1; omega

/-- Inside the copied range the bits are those of the source. -/
theorem bit_splice_of_inside {dst src : List Byte} {off i : ℕ} (h : off + src.length ≤ dst.length)
    (hi : i < 8 * src.length) : bit (splice dst off src) (8 * off + i) = bit src i := by
  have htake : (dst.take off).length = off := by rw [List.length_take]; omega
  rw [splice, List.append_assoc, bit_append_right (by rw [htake]; omega), htake,
    bit_append_left (by omega)]
  congr 1; omega

/-- Copying behind what is already there into a zeroed rest extends it. -/
theorem splice_append_replicate (a src : List Byte) (n : ℕ) :
    splice (a ++ List.replicate n 0) a.length src
      = (a ++ src) ++ List.replicate (n - src.length) 0 := by
  have hdrop : (a ++ List.replicate n (0 : Byte)).drop (a.length + src.length)
      = List.replicate (n - src.length) 0 := by
    rw [List.drop_append, List.drop_eq_nil_of_le (by omega)]
    simp
  rw [splice, hdrop, List.take_left]

/-- Copying over a part of the same length replaces it. -/
theorem splice_over {a old src b : List Byte} (h : old.length = src.length) :
    splice (a ++ (old ++ b)) a.length src = a ++ (src ++ b) := by
  rw [splice, List.take_left, ← List.drop_drop, List.drop_left, List.drop_left' h, List.append_assoc]

end ByteBits
