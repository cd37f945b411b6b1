import FreeIpmi.Basic

/-! `bits_extract` and `bits_merge` of `libcommon/ipmi-bit-ops.c`.

    Both work on a `uint64_t` with shifts whose amounts are computed from the two bit positions. A
    shift by 64 is undefined in C, and both functions reach it: `bits_extract` on an empty range,
    `bits_merge` on a full one. -/

namespace FreeIpmi.Fiid

/-- `bits_extract`: bits `start` (inclusive) through `stop` (exclusive), moved down to bit 0. -/
def bitsExtract (bits : BitVec 64) (start stop : ℕ) : Except Stop (BitVec 64) :=
  if start > stop ∨ start > 64 ∨ stop > 64 then .error (.errno .einval)
  else
    -- `(63 - (end - 1)) + start`, computed in `int`
    let shift := 64 - stop + start
    if 64 ≤ start ∨ 64 ≤ shift then .error .undefined
    else .ok (((bits >>> start) <<< shift) >>> shift)

/-- `bits_merge`: `bits` with bits `start` (inclusive) through `stop` (exclusive) taken from the low
    bits of `val`. -/
def bitsMerge (bits : BitVec 64) (start stop : ℕ) (val : BitVec 64) : Except Stop (BitVec 64) :=
  if start > stop ∨ start > 64 ∨ stop > 64 then .error (.errno .einval)
  else if 64 ≤ stop - start ∨ 64 ≤ start then .error .undefined
  else
    let lsbOnes : BitVec 64 :=
      if start ≠ 0 then (BitVec.allOnes 64 <<< (64 - start)) >>> (64 - start) else 0
    let msbOnes := ((BitVec.allOnes 64 >>> (stop - start)) <<< (stop - start)) <<< start
    let msbOnes := msbOnes ||| lsbOnes
    let bits := bits ||| ~~~msbOnes
    let msbOnes := msbOnes ||| (val <<< start)
    .ok (bits &&& msbOnes)

/-- On a non-empty range inside the word, `bits_extract` moves the range to bit 0. -/
theorem bitsExtract_spec (bits : BitVec 64) (start stop : ℕ) (hlt : start < stop) (hle : stop ≤ 64) :
    ∃ r, bitsExtract bits start stop = .ok r ∧
      ∀ j, r.getLsbD j = (decide (j < stop - start) && bits.getLsbD (start + j)) := by
  have hguard : ¬ (start > stop ∨ start > 64 ∨ stop > 64) := by omega
  have hshift : ¬ (64 ≤ start ∨ 64 ≤ 64 - stop + start) := by omega
  refine ⟨_, (if_neg hguard).trans (if_neg hshift), fun j => ?_⟩
  simp only [BitVec.getLsbD_ushiftRight, BitVec.getLsbD_shiftLeft]
  by_cases hj : j < stop - start
  · have h1 : 64 - stop + start + j < 64 := by omega
    have h2 : ¬ 64 - stop + start + j < 64 - stop + start := by omega
    have h3 : 64 - stop + start + j - (64 - stop + start) = j := by omega
    simp [hj, h1, h3]
  · have h1 : ¬ 64 - stop + start + j < 64 := by omega
    simp [hj, h1]

/-- An empty or inverted range never yields a value: either the guard rejects it or the shift amount
    is 64. -/
theorem bitsExtract_error (bits : BitVec 64) (start stop : ℕ) (h : stop ≤ start) :
    ∃ e, bitsExtract bits start stop = .error e := by
  unfold bitsExtract
  by_cases hguard : start > stop ∨ start > 64 ∨ stop > 64
  · exact ⟨_, if_pos hguard⟩
  · have hshift : 64 ≤ start ∨ 64 ≤ 64 - stop + start := by omega
    exact ⟨_, (if_neg hguard).trans (if_pos hshift)⟩

/-- On a range shorter than the word, `bits_merge` replaces exactly the range. -/
theorem bitsMerge_spec (bits val : BitVec 64) (start stop : ℕ) (hle : start ≤ stop)
    (hstart : start < 64) (hstop : stop ≤ 64) (hlen : stop - start < 64) :
    ∃ r, bitsMerge bits start stop val = .ok r ∧
      ∀ j < 64, r.getLsbD j =
        if start ≤ j ∧ j < stop then val.getLsbD (j - start) else bits.getLsbD j := by
  have hguard : ¬ (start > stop ∨ start > 64 ∨ stop > 64) := by omega
  have hshift : ¬ (64 ≤ stop - start ∨ 64 ≤ start) := by omega
  refine ⟨_, (if_neg hguard).trans (if_neg hshift), fun j hj => ?_⟩
  have hlsb : (if start ≠ 0 then (BitVec.allOnes 64 <<< (64 - start)) >>> (64 - start)
      else (0 : BitVec 64)).getLsbD j = decide (j < start) := by
    by_cases h0 : start = 0
    · simp [h0]
    · simp only [ne_eq, h0, not_false_eq_true, if_true, BitVec.getLsbD_ushiftRight,
        BitVec.getLsbD_shiftLeft, BitVec.getLsbD_allOnes]
      by_cases hjs : j < start
      · have h1 : 64 - start + j < 64 := by omega
        have h2 : ¬ 64 - start + j < 64 - start := by omega
        simp [hjs, h1]; omega
      · have h1 : ¬ 64 - start + j < 64 := by omega
        simp [hjs, h1]
  have hmsb : (((BitVec.allOnes 64 >>> (stop - start)) <<< (stop - start)) <<< start).getLsbD j
      = decide (stop ≤ j) := by
    simp only [BitVec.getLsbD_shiftLeft, BitVec.getLsbD_ushiftRight, BitVec.getLsbD_allOnes]
    by_cases hjs : stop ≤ j
    · have h1 : ¬ j < start := by omega
      have h2 : j - start < 64 := by omega
      have h3 : ¬ j - start < stop - start := by omega
      have h4 : stop - start + (j - start - (stop - start)) < 64 := by omega
      simp [hjs, hj, h1, h2, h3, h4]
    · by_cases h1 : j < start
      · simp [hjs, h1]
      · have h3 : j - start < stop - start := by omega
        simp [hjs, h3]
  simp only [BitVec.getLsbD_and, BitVec.getLsbD_or, BitVec.getLsbD_not, hlsb, hmsb,
    BitVec.getLsbD_shiftLeft, hj, decide_true, Bool.true_and]
  by_cases h1 : j < start
  · simp [h1, show ¬ start ≤ j by omega]
  · by_cases h2 : j < stop
    · simp [h1, h2, show start ≤ j by omega, show ¬ stop ≤ j by omega]
    · simp [h1, h2, show stop ≤ j by omega]

end FreeIpmi.Fiid
