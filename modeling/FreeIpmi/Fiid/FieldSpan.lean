import FreeIpmi.Fiid.Field

/-! The byte walk of `fiid_obj_set` and `fiid_obj_get`.

    `bytesUsed` is hand-written: for a field that starts inside a byte it subtracts the start bit
    where it should subtract the bits left in the first byte. For some start bits and lengths the
    result is one byte too large (`SpanOver`): then the last round of the walk fails on an empty or
    inverted range. For others it is one byte too small: then the walk never reaches the last byte
    and the top bits of the field are lost (`spanLost` counts them). Otherwise the walk stores and
    loads the field exactly. -/

namespace FreeIpmi.Fiid
open ByteBits Calls

/-- The start bits `s` (inside a byte) and lengths `l` for which the computed span is one byte too
    large. -/
def SpanOver (s l : ℕ) : Prop :=
  0 < s ∧ s ≤ l ∧ 8 < s + l ∧ (l - s) % 8 + 2 * s ≤ 8

instance (s l : ℕ) : Decidable (SpanOver s l) := by unfold SpanOver; infer_instance

/-- How many bits at the top of the field lie behind the computed span. -/
def spanLost (s l : ℕ) : ℕ := (l - s) % 8 + 2 * s - 16

theorem spanLost_lt {s l : ℕ} (hs : s < 8) (hl : 0 < l) : spanLost s l < l := by
  unfold spanLost; omega

/-! ### The number of bytes -/

theorem tdiv_eight {s l : ℕ} (hs : s < 8) : ((l : ℤ) - s).tdiv 8 = (((l - s) / 8 : ℕ) : ℤ) := by
  by_cases h : s ≤ l
  · rw [← Nat.cast_sub h, Int.tdiv_eq_ediv_of_nonneg (Int.natCast_nonneg _)]
    norm_cast
  · have hneg : (l : ℤ) - s = -((s - l : ℕ) : ℤ) := by omega
    rw [hneg, Int.neg_tdiv, Int.tdiv_eq_ediv_of_nonneg (Int.natCast_nonneg _)]
    omega

theorem bytesUsed_le_eight {s l : ℕ} (h : s + l ≤ 8) : bytesUsed s l = 1 := by
  have hcond : ¬ ((s : ℤ) + l > 8) := by omega
  simp only [bytesUsed, if_neg hcond]

theorem bytesUsed_aligned {l : ℕ} (h : 8 < l) : bytesUsed (0 : ℕ) l = (((l + 7) / 8 : ℕ) : ℤ) := by
  have hcond : (((0 : ℕ) : ℤ) + l > 8) := by omega
  have hdiv : ((l : ℤ) - (0 : ℕ)).tdiv 8 = ((l / 8 : ℕ) : ℤ) := by
    simp
  simp only [bytesUsed, if_pos hcond, hdiv]
  split_ifs <;> omega

theorem bytesUsed_unaligned {s l : ℕ} (hs : s < 8) (h0 : s ≠ 0) (h : 8 < s + l) :
    bytesUsed s l = (((l - s) / 8 + 2 : ℕ) : ℤ) := by
  have hcond : ((s : ℤ) + l > 8) := by omega
  simp only [bytesUsed, if_pos hcond, tdiv_eight hs]
  split_ifs <;> omega

/-- The computed number of bytes, where it is not too large: it reaches all but the lost bits. -/
theorem bytesUsed_reach {s l : ℕ} (hs : s < 8) (hl : 0 < l) (h : ¬ SpanOver s l) :
    ∃ u : ℕ, bytesUsed s l = u ∧ u = (s + (l - spanLost s l) + 7) / 8 ∧
      (0 < spanLost s l → 8 * u = s + (l - spanLost s l) ∧ 2 ≤ u) := by
  unfold SpanOver at h
  unfold spanLost
  by_cases hshort : s + l ≤ 8
  · refine ⟨1, bytesUsed_le_eight hshort, ?_, ?_⟩ <;> omega
  · by_cases h0 : s = 0
    · subst h0
      refine ⟨(l + 7) / 8, bytesUsed_aligned (by omega), ?_, ?_⟩ <;> omega
    · refine ⟨(l - s) / 8 + 2, bytesUsed_unaligned hs h0 (by omega), ?_, ?_⟩ <;> omega

/-- Elsewhere it is one too large. -/
theorem bytesUsed_over {s l : ℕ} (hs : s < 8) (h : SpanOver s l) :
    ∃ u : ℕ, bytesUsed s l = u ∧ 2 ≤ u ∧ s + l ≤ 8 * (u - 1) ∧ 8 * u ≤ l + 16 := by
  unfold SpanOver at h
  refine ⟨(l - s) / 8 + 2, bytesUsed_unaligned hs (by omega) (by omega), ?_, ?_, ?_⟩ <;> omega

/-! ### One round -/

theorem toUInt8_natCast {n : ℕ} (h : n < 256) : toUInt8 (n : ℤ) = n := by
  unfold toUInt8; omega

theorem readByte_of_lt {a : List Byte} {i : ℕ} (h : i < a.length) :
    readByte a i = .ok (a.getD i 0) := by
  simp [readByte, List.getElem?_eq_getElem h]

/-- Bits `lo` to `hi` of the field at bit `start` hold those of `val`; all other bits are as before. -/
def Stored (val : BitVec 64) (start lo hi : ℕ) (data data' : List Byte) : Prop :=
  data'.length = data.length ∧
    ∀ q, bit data' q = if start + lo ≤ q ∧ q < start + hi then val.getLsbD (q - start) else bit data q

theorem Stored.trans {val : BitVec 64} {start lo mid hi : ℕ} {d d' d'' : List Byte}
    (hlo : lo ≤ mid) (hhi : mid ≤ hi) (h : Stored val start lo mid d d')
    (h' : Stored val start mid hi d' d'') : Stored val start lo hi d d'' := by
  refine ⟨h'.1.trans h.1, fun q => ?_⟩
  rw [h'.2, h.2]
  split_ifs <;> first | rfl | omega

/-- Setting byte `i` changes its eight bits only. -/
theorem bit_set {data : List Byte} {i : ℕ} (hi : i < data.length) (b : Byte) (q : ℕ) :
    bit (data.set i b) q = if q / 8 = i then b.getLsbD (q % 8) else bit data q := by
  simp only [bit_eq_getElem?, List.getElem?_set]
  by_cases h : q / 8 = i
  · subst h; simp [hi]
  · simp [h, Ne.symm h]

/-- A round that moves bits `sv..ev` of the value to or from bits `sb..eb` of byte `byte`, for a field
    that starts at bit `start`. The range may run over the end of the byte; bits `sv..hi` of the
    value are those that find a place in it. -/
structure RoundAt (start byte sb eb sv ev hi : ℕ) : Prop where
  pos : 8 * byte + sb = start + sv
  inByte : sb < 8
  nonempty : sb < eb
  inWord : eb ≤ 16
  len : eb - sb = ev - sv
  inVal : ev ≤ 64
  reach : hi = sv + (min eb 8 - sb)

section Round
variable {start byte sb eb sv ev hi : ℕ} {data : List Byte}

/-- Merging the low bits of `x` into a byte stores a range of the value, when `x` has it. -/
theorem mergeByte (val x : BitVec 64) (hr : RoundAt start byte sb eb sv ev hi)
    (hbyte : byte < data.length) (hx : ∀ j < ev - sv, x.getLsbD j = val.getLsbD (sv + j)) :
    ∃ m, orInternalError (bitsMerge ((data.getD byte 0).setWidth 64) sb eb x) = .ok m ∧
      Stored val start sv hi data (data.set byte (m.setWidth 8)) := by
  obtain ⟨hpos, hsb, hne, heb, hlen, hev, hhi⟩ := hr
  obtain ⟨m, hm, hmbit⟩ := bitsMerge_spec ((data.getD byte 0).setWidth 64) x sb eb (by omega)
    (by omega) (by omega) (by omega)
  refine ⟨m, by rw [hm]; rfl, by simp, fun q => ?_⟩
  rw [bit_set hbyte]
  by_cases hq : q / 8 = byte
  · have hmod : q % 8 < 8 := Nat.mod_lt _ (by norm_num)
    rw [if_pos hq, BitVec.getLsbD_setWidth, hmbit _ (by omega)]
    simp only [hmod, decide_true, Bool.true_and]
    by_cases hin : sb ≤ q % 8 ∧ q % 8 < eb
    · have hout : start + sv ≤ q ∧ q < start + hi := by omega
      have hidx : sv + (q % 8 - sb) = q - start := by omega
      rw [if_pos hin, if_pos hout, hx _ (by omega), hidx]
    · have hout : ¬ (start + sv ≤ q ∧ q < start + hi) := by omega
      rw [if_neg hin, if_neg hout, BitVec.getLsbD_setWidth, bit, hq]
      have h64 : q % 8 < 64 := by omega
      simp [h64]
  · have hout : ¬ (start + sv ≤ q ∧ q < start + hi) := by omega
    rw [if_neg hq, if_neg hout]

/-- A round of `fiid_obj_set`. -/
theorem setRound (val : BitVec 64) (hr : RoundAt start byte sb eb sv ev hi)
    (hbyte : byte < data.length) :
    ∃ x m, orInternalError (bitsExtract val sv ev) = .ok x ∧
      orInternalError (bitsMerge ((data.getD byte 0).setWidth 64) sb eb x) = .ok m ∧
      Stored val start sv hi data (data.set byte (m.setWidth 8)) := by
  obtain ⟨x, hx, hxbit⟩ := bitsExtract_spec val sv ev (by have := hr.nonempty; have := hr.len; omega)
    hr.inVal
  have hlow : ∀ j < ev - sv, x.getLsbD j = val.getLsbD (sv + j) := by
    intro j hj
    simp [hxbit, hj]
  obtain ⟨m, hm, hst⟩ := mergeByte val x hr hbyte hlow
  exact ⟨x, m, by rw [hx]; rfl, hm, hst⟩

/-- A round of `fiid_obj_get`. -/
theorem getRound {v : BitVec 64} (hr : RoundAt start byte sb eb sv ev hi)
    (hv : ∀ j, v.getLsbD j = (decide (j < sv) && bit data (start + j))) :
    ∃ x m, orInternalError (bitsExtract ((data.getD byte 0).setWidth 64) sb eb) = .ok x ∧
      orInternalError (bitsMerge v sv ev x) = .ok m ∧
      ∀ j, m.getLsbD j = (decide (j < hi) && bit data (start + j)) := by
  obtain ⟨hpos, hsb, hne, heb, hlen, hev, hhi⟩ := hr
  obtain ⟨x, hx, hxbit⟩ := bitsExtract_spec ((data.getD byte 0).setWidth 64) sb eb hne (by omega)
  obtain ⟨m, hm, hmbit⟩ := bitsMerge_spec v x sv ev (by omega) (by omega) hev (by omega)
  refine ⟨x, m, by rw [hx]; rfl, by rw [hm]; rfl, fun j => ?_⟩
  by_cases hj : j < 64
  · rw [hmbit j hj]
    by_cases hin : sv ≤ j ∧ j < ev
    · have h1 : j - sv < eb - sb := by omega
      have h2 : sb + (j - sv) < 64 := by omega
      rw [if_pos hin, hxbit, BitVec.getLsbD_setWidth]
      by_cases hreach : j < hi
      · have hdiv : (start + j) / 8 = byte := by omega
        have hmod : (start + j) % 8 = sb + (j - sv) := by omega
        rw [bit, hdiv, hmod]
        simp [h1, h2, hreach]
      · rw [BitVec.getLsbD_of_ge _ (sb + (j - sv)) (by omega)]
        simp [hreach]
    · rw [if_neg hin, hv]
      by_cases h1 : j < sv
      · have h2 : j < hi := by omega
        simp [h1, h2]
      · have h2 : ¬ j < hi := by omega
        simp [h1, h2]
  · have h1 : ¬ j < hi := by omega
    simp [h1, BitVec.getLsbD_of_ge m j (by omega)]

end Round

/-! ### The loops -/

section Loops
variable {val : BitVec 64} {data : List Byte} {start bytePos used s l : ℕ}

/-- The `int` positions of a round, as the `uint8_t` arguments of the bit operations. -/
structure SpanPos.At (p : SpanPos) (sb eb sv ev : ℕ) : Prop where
  startBit : toUInt8 p.startBitInBytePos = sb
  endBit : toUInt8 p.endBitInBytePos = eb
  startVal : toUInt8 p.startValPos = sv
  endVal : toUInt8 p.endValPos = ev

theorem setLoop_round {n i sb eb sv ev hi : ℕ} {p p' : SpanPos} (val : BitVec 64)
    (hstep : p.step i used = p') (hat : p'.At sb eb sv ev)
    (hr : RoundAt start (bytePos + i) sb eb sv ev hi) (hbyte : bytePos + i < data.length) :
    ∃ data₁, setLoop val bytePos used (n + 1) i p data
        = setLoop val bytePos used n (i + 1) p'.next data₁ ∧ Stored val start sv hi data data₁ := by
  obtain ⟨h1, h2, h3, h4⟩ := hat
  obtain ⟨x, m, hx, hm, hst⟩ := setRound val hr hbyte
  refine ⟨_, ?_, hst⟩
  simp only [setLoop, hstep, h1, h2, h3, h4, hx, readByte_of_lt hbyte, hm, ok_bind]

theorem getLoop_round {v : BitVec 64} {n i sb eb sv ev hi : ℕ} {p p' : SpanPos}
    (hstep : p.step i used = p') (hat : p'.At sb eb sv ev)
    (hr : RoundAt start (bytePos + i) sb eb sv ev hi) (hbyte : bytePos + i < data.length)
    (hv : ∀ j, v.getLsbD j = (decide (j < sv) && bit data (start + j))) :
    ∃ v₁, getLoop data bytePos used (n + 1) i p v = getLoop data bytePos used n (i + 1) p'.next v₁ ∧
      ∀ j, v₁.getLsbD j = (decide (j < hi) && bit data (start + j)) := by
  obtain ⟨h1, h2, h3, h4⟩ := hat
  obtain ⟨x, m, hx, hm, hst⟩ := getRound hr hv
  refine ⟨_, ?_, hst⟩
  simp only [getLoop, hstep, h1, h2, h3, h4, hx, readByte_of_lt hbyte, hm, ok_bind]

/-- The position before round `i ≥ 1` of a field that starts at bit `s` of its first byte and has
    length `l`. -/
def posAt (s l i : ℕ) (e : ℤ) : SpanPos :=
  ⟨0, e, ((8 * i - s : ℕ) : ℤ), ((8 * i - s : ℕ) : ℤ), (l : ℤ) + s - 8 * i⟩

/-- The position in round 0 of a walk over at least two bytes. -/
def firstPos (s l : ℕ) : SpanPos := ⟨s, 8, 0, ((8 - s : ℕ) : ℤ), (l : ℤ) + s - 8⟩

/-- The position in round `i ≥ 1`, before the last round. -/
def midPos (s l i : ℕ) : SpanPos :=
  ⟨0, 8, ((8 * i - s : ℕ) : ℤ), ((8 * (i + 1) - s : ℕ) : ℤ), (l : ℤ) + s - 8 * (i + 1)⟩

/-- The position in the last round `i ≥ 1`. -/
def lastPos (s l i : ℕ) : SpanPos :=
  ⟨0, (l : ℤ) + s - 8 * i, ((8 * i - s : ℕ) : ℤ), (l : ℤ), (l : ℤ) + s - 8 * i⟩

theorem step_zero (hused : 2 ≤ used) (hs : s < 8) (e : ℤ) :
    (SpanPos.mk s e 0 0 l).step 0 used = firstPos s l := by
  have h0 : 0 ≠ used - 1 := by omega
  simp only [SpanPos.step, firstPos, if_true, if_pos h0, SpanPos.mk.injEq, true_and]
  omega

theorem step_mid {i : ℕ} (hi : 1 ≤ i) (hlast : i ≠ used - 1) (hs : s < 8) (e : ℤ) :
    (posAt s l i e).step i used = midPos s l i := by
  have h0 : i ≠ 0 := by omega
  simp only [SpanPos.step, posAt, midPos, if_neg h0, if_pos hlast, SpanPos.mk.injEq, true_and]
  omega

theorem step_last {i : ℕ} (hi : 1 ≤ i) (hlast : i = used - 1) (hs : s < 8) (e : ℤ) :
    (posAt s l i e).step i used = lastPos s l i := by
  have h0 : i ≠ 0 := by omega
  have h1 : ¬ i ≠ used - 1 := by omega
  simp only [SpanPos.step, posAt, lastPos, if_neg h0, if_neg h1, SpanPos.mk.injEq, true_and,
    and_true]
  omega

theorem firstPos_next (s l : ℕ) : (firstPos s l).next = posAt s l 1 8 := by
  simp only [SpanPos.next, firstPos, posAt, SpanPos.mk.injEq, true_and]
  omega

theorem midPos_next (i : ℕ) : (midPos s l i).next = posAt s l (i + 1) 8 := by
  simp [SpanPos.next, midPos, posAt]

theorem firstPos_at (hs : s < 8) : (firstPos s l).At s 8 0 (8 - s) :=
  ⟨toUInt8_natCast (by omega), rfl, rfl, toUInt8_natCast (by omega)⟩

theorem midPos_at {i : ℕ} (hi : 8 * i < s + 64) :
    (midPos s l i).At 0 8 (8 * i - s) (8 * (i + 1) - s) :=
  ⟨rfl, rfl, toUInt8_natCast (by omega), toUInt8_natCast (by omega)⟩

theorem lastPos_at {i : ℕ} (hi : 8 * i < s + l) (hs : s < 8) (hl : l ≤ 64) :
    (lastPos s l i).At 0 (l + s - 8 * i) (8 * i - s) l :=
  ⟨rfl, by simp only [lastPos, toUInt8]; omega, toUInt8_natCast (by omega),
    toUInt8_natCast (by omega)⟩

/-- How far a walk over `used` bytes reaches: it either ends inside its last byte, or is cut off at the
    end of it. -/
structure Reach (s l used r : ℕ) : Prop where
  offset : s < 8
  le : r ≤ l
  fits : l ≤ 64
  bytes : used = (s + r + 7) / 8
  cut : r < l → s + r = 8 * used ∧ s + l ≤ 8 * used + 8

/-- The last round of a walk. -/
theorem Reach.last {r i : ℕ} (h : Reach s l used r) (hstart : start = 8 * bytePos + s)
    (hi : 1 ≤ i) (hlast : i = used - 1) :
    RoundAt start (bytePos + i) 0 (l + s - 8 * i) (8 * i - s) l r := by
  obtain ⟨hs, hle, hl, hused, hcut⟩ := h
  refine ⟨?_, ?_, ?_, ?_, ?_, hl, ?_⟩ <;> omega

/-- The rounds between the first and the last. -/
theorem Reach.mid {r i : ℕ} (h : Reach s l used r) (hstart : start = 8 * bytePos + s)
    (hi : 1 ≤ i) (hlast : i < used - 1) :
    RoundAt start (bytePos + i) 0 8 (8 * i - s) (8 * (i + 1) - s) (8 * (i + 1) - s) := by
  obtain ⟨hs, hle, hl, hused, hcut⟩ := h
  refine ⟨?_, ?_, ?_, ?_, ?_, ?_, ?_⟩ <;> omega

/-- The first round of a walk over at least two bytes. -/
theorem Reach.first {r : ℕ} (h : Reach s l used r) (hstart : start = 8 * bytePos + s) :
    RoundAt start (bytePos + 0) s 8 0 (8 - s) (8 - s) := by
  obtain ⟨hs, hle, hl, hused, hcut⟩ := h
  refine ⟨?_, ?_, ?_, ?_, ?_, ?_, ?_⟩ <;> omega

/-- The rounds of `fiid_obj_set` from the second byte on. -/
theorem setLoop_from {r : ℕ} (val : BitVec 64) (h : Reach s l used r)
    (hstart : start = 8 * bytePos + s) :
    ∀ (n i : ℕ) (e : ℤ) (data : List Byte), 1 ≤ i → i + n = used → 1 ≤ n →
      bytePos + used ≤ data.length →
      ∃ data', setLoop val bytePos used n i (posAt s l i e) data = .ok data' ∧
        Stored val start (8 * i - s) r data data'
  | 0, _, _, _, _, _, hn, _ => by omega
  | n + 1, i, e, data, hi, hin, _, hfit => by
    have hbyte : bytePos + i < data.length := by omega
    obtain ⟨hs, hle, hl, hused, hcut⟩ := id h
    by_cases hlast : i = used - 1
    · obtain rfl : n = 0 := by omega
      exact setLoop_round val (step_last hi hlast hs e) (lastPos_at (by omega) hs hl)
        (h.last hstart hi hlast) hbyte
    · obtain ⟨data₁, hloop, hst⟩ := setLoop_round (n := n) val (step_mid hi hlast hs e)
        (midPos_at (by omega)) (h.mid hstart hi (by omega)) hbyte
      obtain ⟨data₂, hloop₂, hst₂⟩ := setLoop_from val h hstart n (i + 1) 8 data₁
        (by omega) (by omega) (by omega) (by rw [hst.1]; exact hfit)
      exact ⟨data₂, by rw [hloop, midPos_next, hloop₂], hst.trans (by omega) (by omega) hst₂⟩

/-- The rounds of `fiid_obj_get` from the second byte on. -/
theorem getLoop_from {r : ℕ} (h : Reach s l used r) (hstart : start = 8 * bytePos + s)
    (hfit : bytePos + used ≤ data.length) :
    ∀ (n i : ℕ) (e : ℤ) (v : BitVec 64), 1 ≤ i → i + n = used → 1 ≤ n →
      (∀ j, v.getLsbD j = (decide (j < 8 * i - s) && bit data (start + j))) →
      ∃ v', getLoop data bytePos used n i (posAt s l i e) v = .ok v' ∧
        ∀ j, v'.getLsbD j = (decide (j < r) && bit data (start + j))
  | 0, _, _, _, _, _, hn, _ => by omega
  | n + 1, i, e, v, hi, hin, _, hv => by
    have hbyte : bytePos + i < data.length := by omega
    obtain ⟨hs, hle, hl, hused, hcut⟩ := id h
    by_cases hlast : i = used - 1
    · obtain rfl : n = 0 := by omega
      exact getLoop_round (step_last hi hlast hs e) (lastPos_at (by omega) hs hl)
        (h.last hstart hi hlast) hbyte hv
    · obtain ⟨v₁, hloop, hst⟩ := getLoop_round (n := n) (step_mid hi hlast hs e)
        (midPos_at (by omega)) (h.mid hstart hi (by omega)) hbyte hv
      obtain ⟨v₂, hloop₂, hst₂⟩ := getLoop_from h hstart hfit n (i + 1) 8 v₁ (by omega)
        (by omega) (by omega) hst
      exact ⟨v₂, by rw [hloop, midPos_next, hloop₂], hst₂⟩

/-- A round of `fiid_obj_set` either fails or goes on to the next round. -/
theorem setLoop_succ (val : BitVec 64) (bytePos used n i : ℕ) (p : SpanPos) (data : List Byte) :
    (∃ e, setLoop val bytePos used (n + 1) i p data = .error e) ∨
      ∃ b, setLoop val bytePos used (n + 1) i p data
        = setLoop val bytePos used n (i + 1) (p.step i used).next (data.set (bytePos + i) b) := by
  simp only [setLoop]
  cases orInternalError (bitsExtract val (toUInt8 (p.step i used).startValPos)
      (toUInt8 (p.step i used).endValPos)) with
  | error e => exact Or.inl ⟨e, rfl⟩
  | ok x =>
    cases readByte data (bytePos + i) with
    | error e => exact Or.inl ⟨e, rfl⟩
    | ok old =>
      simp only [ok_bind]
      cases orInternalError (bitsMerge (old.setWidth 64) (toUInt8 (p.step i used).startBitInBytePos)
          (toUInt8 (p.step i used).endBitInBytePos) x) with
      | error e => exact Or.inl ⟨e, rfl⟩
      | ok m => exact Or.inr ⟨m.setWidth 8, rfl⟩

/-- The walk keeps the length of the data. -/
theorem setLoop_length : ∀ (n i : ℕ) (p : SpanPos) (data data' : List Byte),
    setLoop val bytePos used n i p data = .ok data' → data'.length = data.length
  | 0, i, p, data, data', h => by cases h; rfl
  | n + 1, i, p, data, data', h => by
    obtain ⟨e, he⟩ | ⟨b, hb⟩ := setLoop_succ val bytePos used n i p data
    · rw [he] at h; cases h
    · rw [hb] at h
      rw [setLoop_length n (i + 1) _ _ data' h, List.length_set]

/-- A walk that is one byte too long fails in its last round: there the bits of the value to extract
    form an empty or inverted range. -/
theorem setLoop_overrun (hs : s < 8) (hused : s + l ≤ 8 * (used - 1)) (hmax : used ≤ 16) :
    ∀ (n i : ℕ) (e : ℤ) (data : List Byte), 1 ≤ i → i + n = used → 1 ≤ n →
      ∃ err, setLoop val bytePos used n i (posAt s l i e) data = .error err
  | 0, _, _, _, _, _, hn => by omega
  | n + 1, i, e, data, hi, hin, _ => by
    by_cases hlast : i = used - 1
    · obtain ⟨err, herr⟩ := bitsExtract_error val (8 * i - s) l (by omega)
      have h3 : toUInt8 (lastPos s l i).startValPos = 8 * i - s := toUInt8_natCast (by omega)
      have h4 : toUInt8 (lastPos s l i).endValPos = l := toUInt8_natCast (by omega)
      simp only [setLoop, step_last hi hlast hs, h3, h4, herr]
      cases err <;> exact ⟨_, rfl⟩
    · obtain herr | ⟨b, hb⟩ := setLoop_succ val bytePos used n i (posAt s l i e) data
      · exact herr
      · rw [hb, step_mid hi hlast hs, midPos_next]
        exact setLoop_overrun hs hused hmax n (i + 1) 8 _ (by omega) (by omega) (by omega)

end Loops

/-! ### Storing and loading a field -/

section Fields
variable {data : List Byte} {start l : ℕ}

theorem start_sub (start : ℕ) : start - start / 8 * 8 = start % 8 := by omega

/-- Where the computed span is not too large, it reaches all but the lost bits. -/
theorem reach_of_not_over {s : ℕ} (hs : s < 8) (hl : 0 < l) (hl64 : l ≤ 64) (h : ¬ SpanOver s l) :
    ∃ u : ℕ, bytesUsed s l = u ∧ Reach s l u (l - spanLost s l) ∧ (u ≤ 1 → s + l ≤ 8) := by
  obtain ⟨u, hu, hbytes, hcut⟩ := bytesUsed_reach hs hl h
  have hlost : spanLost s l ≤ 8 := by unfold spanLost; omega
  refine ⟨u, hu, ⟨hs, Nat.sub_le _ _, hl64, hbytes, fun hlt => ?_⟩, fun hone => ?_⟩
  · have := hcut (by omega)
    omega
  · by_contra hgt
    rcases Nat.eq_zero_or_pos (spanLost s l) with h0 | hpos
    · rw [h0] at hbytes; omega
    · have := hcut hpos; omega

/-- `fiid_obj_set` stores the field up to the lost bits, and nothing else. -/
theorem storeBits_spec (val : BitVec 64) (hl : 0 < l) (hl64 : l ≤ 64)
    (hfit : start + l ≤ 8 * data.length) (hover : ¬ SpanOver (start % 8) l) :
    ∃ data', storeBits data start l val = .ok data' ∧
      Stored val start 0 (l - spanLost (start % 8) l) data data' := by
  have hmod : start % 8 < 8 := Nat.mod_lt _ (by norm_num)
  have hstart : start = 8 * (start / 8) + start % 8 := (Nat.div_add_mod start 8).symm
  have hbyte : start / 8 < data.length := by omega
  obtain ⟨u, hu, hreach, hone⟩ := reach_of_not_over hmod hl hl64 hover
  simp only [storeBits, start_sub, hu]
  rcases Nat.lt_or_ge 1 u with hgt | hle
  · obtain ⟨n, rfl⟩ : ∃ n, u = n + 2 := ⟨u - 2, by omega⟩
    have hend : start / 8 + (n + 2) ≤ data.length := by have := hreach.bytes; omega
    rw [if_pos (by omega), Int.toNat_natCast]
    obtain ⟨data₁, hloop, hst⟩ := setLoop_round (n := n + 1) val
      (step_zero (Nat.le_add_left 2 n) hmod 0) (firstPos_at hmod) (hreach.first hstart) hbyte
    obtain ⟨data₂, hloop₂, hst₂⟩ := setLoop_from val hreach hstart (n + 1) 1 8
      data₁ le_rfl (by omega) (by omega) (by rw [hst.1]; exact hend)
    have hfirst : 8 - start % 8 ≤ l - spanLost (start % 8) l := by have := hreach.bytes; omega
    exact ⟨data₂, by rw [hloop, firstPos_next, hloop₂], hst.trans (Nat.zero_le _) hfirst hst₂⟩
  · -- one byte: the value goes into the merge as it is
    have hshort := hone hle
    have hlost : spanLost (start % 8) l = 0 := by unfold spanLost; omega
    have hend : endBitInByte (start % 8) l = start % 8 + l := if_neg (by omega)
    have hr : RoundAt start (start / 8) (start % 8) (start % 8 + l) 0 l l :=
      ⟨by omega, hmod, by omega, by omega, by omega, hl64, by omega⟩
    obtain ⟨m, hm, hst⟩ := mergeByte val val hr hbyte (fun j _ => by rw [Nat.zero_add])
    rw [if_neg (by omega), readByte_of_lt hbyte, ok_bind, hend, hm, hlost]
    exact ⟨_, rfl, hst⟩

/-- `fiid_obj_get` loads the field up to the lost bits; these read as 0. -/
theorem loadBits_spec (hl : 0 < l) (hl64 : l ≤ 64)
    (hfit : start + l ≤ 8 * data.length) (hover : ¬ SpanOver (start % 8) l) :
    ∃ v, loadBits data start l = .ok v ∧
      ∀ j, v.getLsbD j = (decide (j < l - spanLost (start % 8) l) && bit data (start + j)) := by
  have hmod : start % 8 < 8 := Nat.mod_lt _ (by norm_num)
  have hstart : start = 8 * (start / 8) + start % 8 := (Nat.div_add_mod start 8).symm
  have hbyte : start / 8 < data.length := by omega
  obtain ⟨u, hu, hreach, hone⟩ := reach_of_not_over hmod hl hl64 hover
  simp only [loadBits, start_sub, hu]
  rcases Nat.lt_or_ge 1 u with hgt | hle
  · obtain ⟨n, rfl⟩ : ∃ n, u = n + 2 := ⟨u - 2, by omega⟩
    have hend : start / 8 + (n + 2) ≤ data.length := by have := hreach.bytes; omega
    rw [if_pos (by omega), Int.toNat_natCast]
    obtain ⟨v₁, hloop, hst⟩ := getLoop_round (n := n + 1) (v := 0)
      (step_zero (Nat.le_add_left 2 n) hmod 0) (firstPos_at hmod) (hreach.first hstart) hbyte
      (fun j => by simp)
    obtain ⟨v₂, hloop₂, hst₂⟩ := getLoop_from hreach hstart hend (n + 1) 1 8 v₁ le_rfl (by omega)
      (by omega) hst
    exact ⟨v₂, by rw [hloop, firstPos_next, hloop₂], hst₂⟩
  · have hshort := hone hle
    have hlost : spanLost (start % 8) l = 0 := by unfold spanLost; omega
    have hend : endBitInByte (start % 8) l = start % 8 + l := if_neg (by omega)
    obtain ⟨x, hx, hxbit⟩ := bitsExtract_spec ((data.getD (start / 8) 0).setWidth 64)
      (start % 8) (start % 8 + l) (by omega) (by omega)
    rw [if_neg (by omega), readByte_of_lt hbyte, ok_bind, hend, hx, hlost]
    refine ⟨x, rfl, fun j => ?_⟩
    rw [hxbit]
    by_cases hj : j < l
    · have hlt : start % 8 + j < 64 := by omega
      have hdiv : (start + j) / 8 = start / 8 := by omega
      have hmod' : (start + j) % 8 = start % 8 + j := by omega
      simp [hj, hlt, bit, hdiv, hmod']
    · simp [hj]

/-- Whatever the span, a successful `fiid_obj_set` keeps the length of the data. -/
theorem storeBits_length {val : BitVec 64} {data' : List Byte}
    (h : storeBits data start l val = .ok data') : data'.length = data.length := by
  simp only [storeBits] at h
  split at h
  · exact setLoop_length _ _ _ _ _ h
  · obtain ⟨old, -, h⟩ := bind_eq_ok.mp h
    obtain ⟨m, -, h⟩ := bind_eq_ok.mp h
    cases h
    exact List.length_set

/-- Where the computed span is too large, nothing can be stored. -/
theorem storeBits_over (val : BitVec 64) (hl64 : l ≤ 64) (hover : SpanOver (start % 8) l) :
    ∃ e, storeBits data start l val = .error e := by
  have hmod : start % 8 < 8 := Nat.mod_lt _ (by norm_num)
  obtain ⟨u, hu, hu2, hlong, hmax⟩ := bytesUsed_over hmod hover
  obtain ⟨n, rfl⟩ : ∃ n, u = n + 2 := ⟨u - 2, by omega⟩
  simp only [storeBits, start_sub, hu]
  rw [if_pos (by omega), Int.toNat_natCast]
  obtain herr | ⟨b, hb⟩ := setLoop_succ val (start / 8) (n + 2) (n + 1) 0
    ⟨(start % 8 : ℕ), 0, 0, 0, l⟩ data
  · exact herr
  · rw [hb, step_zero (by omega) hmod, firstPos_next]
    exact setLoop_overrun hmod hlong (by omega) (n + 1) 1 8 _ le_rfl (by omega) (by omega)

end Fields

end FreeIpmi.Fiid
