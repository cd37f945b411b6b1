import FreeIpmi.Fiid.GetAll

/-! Bytes in, bytes out: `fiid_obj_set_all` followed by `fiid_obj_get_all`, and the same for blocks.

    On an object without set fields, the setters leave a prefix of the fields complete, at most one
    field set in part, and the others unset. On such a prefix (`markSet`) the readers find exactly
    the bits that were put in. -/

namespace FreeIpmi.Fiid
open ByteBits Calls

/-! ### The counters on a marked prefix -/

/-- Unset fields never stop the bookkeeping when no byte is incomplete. -/
theorem alignLoop_unset : ∀ {cells : List Cell}, (∀ c ∈ cells, c.setFieldLen = 0) →
    ∀ t o, ∃ o', alignLoop cells ⟨t, o, 0, o⟩ = .ok ⟨t, o', 0, o'⟩
  | [], _, t, o => ⟨o, rfl⟩
  | c :: cs, h, t, o => by
    have hc : c.setFieldLen = 0 := h c List.mem_cons_self
    have hstep : ∃ o', packetValidStep ⟨t, o, 0, o⟩ c = .ok ⟨t, o', 0, o'⟩ := by
      simp only [packetValidStep, hc, ne_eq, not_true_eq_false, if_false, Nat.add_zero]
      split
      · exact ⟨0, rfl⟩
      · exact ⟨o + c.maxFieldLen, rfl⟩
    obtain ⟨o₁, ho₁⟩ := hstep
    obtain ⟨o₂, ho₂⟩ := alignLoop_unset (fun c' hc' => h c' (List.mem_cons_of_mem c hc')) t o₁
    exact ⟨o₂, by rw [alignLoop, ho₁, ok_bind, ho₂]⟩

theorem alignLoop_append : ∀ (a b : List Cell) (n : Counters),
    alignLoop (a ++ b) n = (alignLoop a n >>= alignLoop b)
  | [], _, _ => rfl
  | c :: a, b, n => by
    rw [List.cons_append, alignLoop, alignLoop]
    cases packetValidStep n c with
    | error e => rfl
    | ok m => exact alignLoop_append a b m

theorem unset_map {fields : List FiidFieldData} (h : ∀ f ∈ fields, f.setFieldLen = 0) :
    ∀ c ∈ fields.map FiidFieldData.toCell, c.setFieldLen = 0 := by
  intro c hc
  obtain ⟨f, hf, rfl⟩ := List.mem_map.mp hc
  exact h f hf

/-- A complete field carries its bits over, up to whole bytes. -/
theorem packetValidStep_full {c : Cell} (hpos : 0 < c.maxFieldLen) (hfull : c.setFieldLen = c.maxFieldLen)
    (t s : ℕ) : ∃ s', packetValidStep ⟨t, s, s, 0⟩ c = .ok ⟨t + c.maxFieldLen, s', s', 0⟩ ∧
      (s' = 0 ∨ s' % 8 ≠ 0) ∧ s' % 8 = (s + c.maxFieldLen) % 8 := by
  have hne : c.maxFieldLen ≠ 0 := by omega
  simp only [packetValidStep, hfull, ne_eq, hne, not_false_eq_true, not_true_eq_false, if_true,
    false_and, if_false]
  split
  · rename_i hmod
    exact ⟨0, rfl, Or.inl rfl, hmod.symm⟩
  · rename_i hmod
    exact ⟨s + c.maxFieldLen, rfl, Or.inr hmod, rfl⟩

/-- The data of `d` bits, counted from `bits` on, ends in field number `n` or fills all fields. -/
def EndsFrom (bits : ℕ) (fields : List FiidFieldData) (d n : ℕ) : Prop :=
  (n < fields.length ∧ bits + maxLen (fields.take n) ≤ d ∧ d ≤ bits + maxLen (fields.take (n + 1))) ∨
    (n = fields.length ∧ d = bits + maxLen fields)

theorem EndsAt.from {fields : List FiidFieldData} {d n : ℕ} (h : EndsAt fields d n) :
    EndsFrom 0 fields d n := by
  rcases h with hin | ⟨rfl, rfl⟩
  · exact Or.inl ⟨hin.lt, by have := hin.maxLen_take_le; omega, by have := hin.le; omega⟩
  · exact Or.inr ⟨rfl, (Nat.zero_add _).symm⟩

theorem EndsFrom.tail {bits d n : ℕ} {f : FiidFieldData} {fs : List FiidFieldData}
    (h : EndsFrom bits (f :: fs) d (n + 1)) : EndsFrom (bits + f.maxFieldLen) fs d n := by
  rcases h with ⟨hlt, h1, h2⟩ | ⟨hlen, hd⟩
  · simp only [List.take_succ_cons, maxLen_cons, List.length_cons] at hlt h1 h2
    exact Or.inl ⟨by omega, by omega, by omega⟩
  · simp only [maxLen_cons, List.length_cons] at hlen hd
    exact Or.inr ⟨by omega, by omega⟩

/-- The field in which the data ends is set up to the end of the data. -/
theorem EndsFrom.last {bits d : ℕ} {f : FiidFieldData} {fs : List FiidFieldData}
    (h : EndsFrom bits (f :: fs) d 0) :
    bits ≤ d ∧ d ≤ bits + f.maxFieldLen ∧ lastSetFieldLen d bits f.maxFieldLen = d - bits := by
  rcases h with ⟨-, h1, h2⟩ | ⟨hlen, -⟩
  · simp only [List.take_succ_cons, List.take_zero, maxLen_cons, maxLen_nil] at h1 h2
    refine ⟨by omega, by omega, ?_⟩
    simp only [lastSetFieldLen]
    split_ifs <;> omega
  · cases hlen

/-- The bookkeeping goes through a marked prefix and is left without an incomplete byte. -/
theorem alignLoop_markSet {d : ℕ} (hd : d % 8 = 0) : ∀ {n bits : ℕ} {fields : List FiidFieldData},
    (∀ f ∈ fields, f.setFieldLen = 0) → EndsFrom bits fields d n →
    ∀ t s, (s = 0 ∨ s % 8 ≠ 0) → s % 8 = bits % 8 →
      ∃ t' o, alignLoop ((markSet d n bits fields).map FiidFieldData.toCell) ⟨t, s, s, 0⟩
        = .ok ⟨t', o, 0, o⟩
  | n, bits, [], _, hend, t, s, hs, hmod => by
    rcases hend with ⟨hlt, -⟩ | ⟨-, hdeq⟩
    · exact absurd hlt (Nat.not_lt_zero n)
    · rw [maxLen_nil, Nat.add_zero] at hdeq
      obtain rfl : s = 0 := by omega
      exact ⟨t, 0, by simp [markSet, alignLoop]⟩
  | 0, bits, f :: fs, hunset, hend, t, s, hs, hmod => by
    obtain ⟨h1, h2, hlast⟩ := hend.last
    have hfs : ∀ g ∈ fs, g.setFieldLen = 0 := fun g hg => hunset g (List.mem_cons_of_mem f hg)
    -- either nothing is left for this field, or it completes the byte
    have hstep : ∃ t' o, packetValidStep ⟨t, s, s, 0⟩
        ⟨f.maxFieldLen, lastSetFieldLen d bits f.maxFieldLen, f.flags⟩ = .ok ⟨t', o, 0, o⟩ := by
      rw [hlast]
      rcases Nat.eq_or_lt_of_le h1 with rfl | hlt
      · obtain rfl : s = 0 := by omega
        simp only [packetValidStep, Nat.sub_self, ne_eq, not_true_eq_false, if_false, Nat.add_zero,
          Nat.zero_add]
        split
        · exact ⟨t, 0, rfl⟩
        · exact ⟨t, f.maxFieldLen, rfl⟩
      · have hne : d - bits ≠ 0 := by omega
        have hbyte : (s + (d - bits)) % 8 = 0 := by omega
        simp only [packetValidStep, ne_eq, hne, not_false_eq_true, if_true, hbyte, not_true_eq_false,
          and_false, if_false]
        exact ⟨_, 0, rfl⟩
    obtain ⟨t₁, o₁, ho₁⟩ := hstep
    obtain ⟨o₂, ho₂⟩ := alignLoop_unset (unset_map hfs) t₁ o₁
    refine ⟨t₁, o₂, ?_⟩
    rw [markSet, List.map_cons, alignLoop]
    show (packetValidStep ⟨t, s, s, 0⟩ ⟨f.maxFieldLen, lastSetFieldLen d bits f.maxFieldLen, f.flags⟩
      >>= _) = _
    rw [ho₁, ok_bind, ho₂]
  | n + 1, bits, f :: fs, hunset, hend, t, s, hs, hmod => by
    have hfs : ∀ g ∈ fs, g.setFieldLen = 0 := fun g hg => hunset g (List.mem_cons_of_mem f hg)
    obtain ⟨s', hstep, hs', hmod'⟩ := packetValidStep_full
      (c := ⟨f.maxFieldLen, f.maxFieldLen, f.flags⟩) f.maxFieldLen_pos rfl t s
    have hcarry : s' % 8 = (bits + f.maxFieldLen) % 8 := by
      simp only at hmod'
      omega
    obtain ⟨t₁, o, ho⟩ := alignLoop_markSet hd hfs hend.tail (t + f.maxFieldLen) s' hs' hcarry
    refine ⟨t₁, o, ?_⟩
    rw [markSet, List.map_cons, alignLoop]
    show (packetValidStep ⟨t, s, s, 0⟩ ⟨f.maxFieldLen, f.maxFieldLen, f.flags⟩ >>= _) = _
    rw [hstep, ok_bind]
    exact ho

theorem cellBits_unset {data : List Byte} : ∀ {fields : List FiidFieldData} (start : ℕ),
    (∀ f ∈ fields, f.setFieldLen = 0) → cellBits data start (fields.map FiidFieldData.toCell) = []
  | [], _, _ => rfl
  | f :: fs, start, h => by
    have hf : f.toCell.setFieldLen = 0 := h f List.mem_cons_self
    rw [List.map_cons, cellBits, hf, window_zero, List.nil_append]
    exact cellBits_unset _ fun g hg => h g (List.mem_cons_of_mem f hg)

/-- The set bits of a marked prefix are consecutive. -/
theorem cellBits_markSet {data : List Byte} {d : ℕ} : ∀ {n bits : ℕ} {fields : List FiidFieldData}
    (start : ℕ), (∀ f ∈ fields, f.setFieldLen = 0) → EndsFrom bits fields d n →
    cellBits data start ((markSet d n bits fields).map FiidFieldData.toCell)
      = window data start (d - bits)
  | n, bits, [], start, _, hend => by
    rcases hend with ⟨hlt, -⟩ | ⟨-, hdeq⟩
    · exact absurd hlt (Nat.not_lt_zero n)
    · rw [hdeq, maxLen_nil, Nat.add_zero, Nat.sub_self]
      simp [markSet, cellBits]
  | 0, bits, f :: fs, start, hunset, hend => by
    obtain ⟨-, -, hlast⟩ := hend.last
    rw [markSet, List.map_cons, cellBits,
      cellBits_unset _ fun g hg => hunset g (List.mem_cons_of_mem f hg), List.append_nil]
    simp only [FiidFieldData.toCell, hlast]
  | n + 1, bits, f :: fs, start, hunset, hend => by
    have hle : bits + f.maxFieldLen ≤ d := by
      rcases hend with ⟨-, h1, -⟩ | ⟨-, h1⟩
      · simp only [List.take_succ_cons, maxLen_cons] at h1
        omega
      · simp only [maxLen_cons] at h1
        omega
    have hsplit : d - bits = f.maxFieldLen + (d - (bits + f.maxFieldLen)) := by omega
    rw [markSet, List.map_cons, cellBits,
      cellBits_markSet _ (fun g hg => hunset g (List.mem_cons_of_mem f hg)) hend.tail, hsplit, window_add]
    rfl

/-- Of a marked prefix only the field in which the data ends can be set in part. -/
theorem cellsFit_markSet {d n start : ℕ} {fields : List FiidFieldData} (hstart : start % 8 = 0)
    (hunset : ∀ f ∈ fields, f.setFieldLen = 0) (hend : EndsAt fields d n) :
    CellsFit start ((markSet d n 0 fields).map FiidFieldData.toCell) := by
  refine cellsFit_of_fields fun i f' hf' => ?_
  rw [getElem?_markSet] at hf'
  obtain ⟨f, hf, rfl⟩ := Option.map_eq_some_iff.mp hf'
  have h0 := hunset f (List.mem_iff_getElem?.mpr ⟨i, hf⟩)
  rw [maxLen_take_congr (map_toField_markSet d n 0 fields)]
  simp only [markedLen, Nat.zero_add]
  rcases lt_trichotomy i n with hlt | rfl | hgt
  · rw [if_pos hlt]
    exact ⟨le_rfl, fun _ h => absurd h (lt_irrefl _)⟩
  · rw [if_neg (lt_irrefl i), if_pos rfl]
    refine ⟨by simp only [lastSetFieldLen]; split_ifs <;> omega, fun _ _ => ?_⟩
    rcases hend with hin | ⟨hlen, -⟩
    · have := hin.aligned
      omega
    · have := (List.getElem?_eq_some_iff.mp hf).1
      omega
  · rw [if_neg (by omega), if_neg (by omega)]
    exact ⟨by omega, fun h => by omega⟩

/-! ### Whole objects -/

/-- No field is set, as after creation or clearing. -/
def FiidObj.Unset (obj : FiidObj) : Prop := ∀ f ∈ obj.fields, f.setFieldLen = 0

section SetAll
variable {tmpl : FiidTemplate} {obj obj' : FiidObj} {d : List Byte} {n : ℕ}

theorem window_splice (dst src : List Byte) (off : ℕ) (h : off + src.length ≤ dst.length) :
    window (splice dst off src) (8 * off) (8 * src.length) = window src 0 (8 * src.length) :=
  window_congr fun k hk => by rw [bit_splice_of_inside h hk, Nat.zero_add]

/-- The bytes given to `fiid_obj_set_all` are the set bits of the object. -/
theorem setBits_of_setAll (hwf : obj.Wf tmpl) (hunset : obj.Unset)
    (h : fiidObjSetAll obj d = (.ok n, obj')) :
    obj'.setBits = window (d.take n) 0 (8 * n) ∧ setLen obj'.fields = 8 * n := by
  obtain ⟨hn, last, hlast, rfl⟩ := setAll_ok hwf.data h
  have hlen : (d.take n).length = n := by
    rw [List.length_take]
    omega
  have hbits : FiidObj.setBits
      ({ obj with data := splice obj.data 0 (d.take n) }.markFields (n * 8) 0 last)
      = window (d.take n) 0 (8 * n) := by
    have hwin := window_splice obj.data (d.take n) 0 (by omega)
    rw [hlen, Nat.mul_zero] at hwin
    rw [FiidObj.setBits, ← hwin, Nat.mul_comm 8 n]
    exact cellBits_markSet 0 hunset hlast.from
  refine ⟨hbits, ?_⟩
  rw [← length_window (d.take n) 0 (8 * n), ← hbits, FiidObj.setBits, length_cellBits]

/-- The terminator changes nothing. -/
theorem alignLoop_cells {t o : ℕ} (hterm : obj.terminatorSetFieldLen = 0)
    (h : alignLoop (obj.fields.map FiidFieldData.toCell) ⟨0, 0, 0, 0⟩ = .ok ⟨t, o, 0, o⟩) :
    ∃ m, alignLoop obj.cells ⟨0, 0, 0, 0⟩ = .ok m ∧ m.setBits = 0 := by
  have hcell : ∀ c ∈ [Cell.mk 0 obj.terminatorSetFieldLen obj.terminatorFlags], c.setFieldLen = 0 := by
    intro c hc
    rw [List.mem_singleton.mp hc]
    exact hterm
  obtain ⟨o', ho'⟩ := alignLoop_unset hcell t o
  refine ⟨⟨t, o', 0, o'⟩, ?_, rfl⟩
  rw [FiidObj.cells, alignLoop_append, h, ok_bind, ho']

/-- An object filled by `fiid_obj_set_all` can be read out. -/
theorem align_of_setAll (hwf : obj.Wf tmpl) (hunset : obj.Unset)
    (h : fiidObjSetAll obj d = (.ok n, obj')) :
    (∃ m, alignLoop obj'.cells ⟨0, 0, 0, 0⟩ = .ok m ∧ m.setBits = 0) ∧
      CellsFit 0 (obj'.fields.map FiidFieldData.toCell) := by
  have hterm : obj'.terminatorSetFieldLen = 0 := by
    have := (touched_setAll hwf d).terminator
    rwa [h] at this
  obtain ⟨-, last, hlast, rfl⟩ := setAll_ok hwf.data h
  refine ⟨?_, cellsFit_markSet rfl hunset hlast⟩
  obtain ⟨t, o, ho⟩ := alignLoop_markSet (Nat.mul_mod_left n 8) hunset hlast.from 0 0 (Or.inl rfl) rfl
  exact alignLoop_cells hterm ho

/-- Bytes given to `fiid_obj_set_all` come back from `fiid_obj_get_all`. -/
theorem getAll_of_setAll (hwf : obj.Wf tmpl) (hunset : obj.Unset)
    (h : fiidObjSetAll obj d = (.ok n, obj')) {dataLen : ℕ} (hdst : n ≤ dataLen) :
    fiidObjGetAll obj' dataLen = .ok (n, d.take n ++ List.replicate (dataLen - n) 0) := by
  obtain ⟨hbits, hlen⟩ := setBits_of_setAll hwf hunset h
  obtain ⟨⟨m, hal, hset⟩, hfit⟩ := align_of_setAll hwf hunset h
  have hwf' : obj'.Wf tmpl := by
    have := (touched_setAll hwf d).wf hwf
    rwa [h] at this
  have hdst' : setLen obj'.fields ≤ 8 * dataLen := by omega
  obtain ⟨-, -, hget⟩ := getAll_ok hwf' hal hset hfit hdst'
  have hn : setLen obj'.fields / 8 = n := by omega
  have htake : (d.take n).length = n := by
    obtain ⟨hmin, -⟩ := setAll_ok hwf.data h
    rw [List.length_take]
    omega
  have hpack : pack obj'.setBits = d.take n := by
    rw [hbits]
    exact (eq_pack_of_window (by rw [htake])).symm
  rw [hget, hn, hpack]

end SetAll

/-! ### Blocks -/

theorem take_markSet (d : ℕ) : ∀ (n bits : ℕ) (fields : List FiidFieldData) (m : ℕ),
    (markSet d n bits fields).take m = markSet d n bits (fields.take m)
  | _, _, [], m => by simp [markSet]
  | _, _, _ :: _, 0 => by simp [markSet]
  | 0, bits, f :: fs, m + 1 => by simp [markSet]
  | n + 1, bits, f :: fs, m + 1 => by
    simp only [markSet, List.take_succ_cons, take_markSet d n _ fs m]

section SetBlock
variable {tmpl : FiidTemplate} {obj obj' : FiidObj} {fieldStart fieldEnd : String}
  {first last : ℕ} {d : List Byte} {n : ℕ}

theorem Touched.length (h : Touched obj obj') : obj'.fields.length = obj.fields.length := by
  have := congrArg List.length h.fields
  rwa [List.length_map, List.length_map] at this

theorem Touched.fieldAt (h : Touched obj obj') {field : String} {i : ℕ}
    (hf : ∃ f, FieldAt obj field i f) : ∃ f, FieldAt obj' field i f := by
  obtain ⟨f, hf⟩ := hf
  have hlt : i < obj'.fields.length := by
    rw [h.length]
    exact hf.lt
  exact ⟨_, (findIdx?_congr field h.fields).trans hf.index, List.getElem?_eq_getElem hlt⟩

/-- A block stays a block of whole bytes. -/
theorem Touched.blockAt (h : Touched obj obj') (hb : BlockAt obj fieldStart fieldEnd first last) :
    BlockAt obj' fieldStart fieldEnd first last :=
  ⟨h.fieldAt hb.start, h.fieldAt hb.stop, hb.le, by rw [h.bitStart]; exact hb.startAligned,
    by rw [h.bitStart]; exact hb.endAligned⟩

theorem BlockAt.blockLen (h : BlockAt obj fieldStart fieldEnd first last) :
    fiidObjBlockLen obj fieldStart fieldEnd = .ok (setLen (blockFields obj first last)) := by
  obtain ⟨f, hf⟩ := h.start
  obtain ⟨g, hg⟩ := h.stop
  have hle : ¬ first > last := by
    have := h.le
    omega
  simp only [fiidObjBlockLen, hf.lookup, hg.lookup, ok_bind, if_neg hle]
  rfl

/-- `fiid_obj_get_block` on an object in which fields set in part end on byte boundaries never leaves
    its arrays. -/
theorem getBlock_returns (hwf : obj.Wf tmpl) (hpart : obj.PartAligned)
    (hb : BlockAt obj fieldStart fieldEnd first last) (dataLen : ℕ) :
    Meets (fiidObjGetBlock obj fieldStart fieldEnd dataLen) (fun _ => True) (·.isReturn = true) := by
  have hbits := hb.bits
  obtain ⟨k, hk⟩ : ∃ k, obj.bitStart first = 8 * k :=
    ⟨obj.bitStart first / 8, (Nat.mul_div_cancel' (Nat.dvd_of_mod_eq_zero hb.startAligned)).symm⟩
  have hend : obj.bitStart (last + 1) ≤ 8 * obj.data.length := by
    rw [hwf.data]
    exact maxLen_take_le _ _
  have hsum : setLen (blockFields obj first last) ≤ maxLen (blockFields obj first last) :=
    setLen_le_maxLen fun f hf => hwf.le_of_mem (List.mem_of_mem_drop (List.mem_of_mem_take hf))
  have hfit : CellsFit (8 * k) ((blockFields obj first last).map FiidFieldData.toCell) := by
    refine cellsFit_of_fields fun i f hf => ?_
    have hi : i < last + 1 - first :=
      lt_of_lt_of_le (List.getElem?_eq_some_iff.mp hf).1 (List.length_take_le _ _)
    rw [blockFields, List.getElem?_take, if_pos hi, List.getElem?_drop] at hf
    refine ⟨hwf.le _ f hf, fun hpos hlt => ?_⟩
    have hal := hpart _ f hf hpos hlt
    rwa [blockFields, List.take_take, min_eq_left hi, ← hk, FiidObj.bitStart, ← maxLen_take_add,
      ← Nat.add_assoc]
  have hround : bitsRoundBytes (obj.bitStart first) = k := by
    rw [hk, bitsRoundBytes_mul]
  simp only [fiidObjGetBlock, hb.bounds, hb.blockLen, ok_bind, hround]
  refine Meets.ite (fun _ => Meets.error rfl) fun hmod => ?_
  rw [bitsRoundBytes_of_aligned (not_not.mp hmod)]
  refine Meets.ite (fun _ => Meets.error rfl) fun hroom => Meets.ite (fun _ => ?_) fun _ => ?_
  · rw [memcpy_ok (by rw [List.length_replicate]; omega) (by omega)]
    exact Meets.ok trivial
  · refine (gather_returns _ hfit ?_ ?_).bind fun _ _ => Meets.ok trivial
    · rw [cellsMaxLen_map]
      omega
    · rw [length_cellBits]
      omega

/-- `fiid_obj_get_block` on a block whose set fields form whole bytes. -/
theorem getBlock_ok (hwf : obj.Wf tmpl) (hb : BlockAt obj fieldStart fieldEnd first last) {m : Counters}
    (hal : alignLoop ((blockFields obj first last).map FiidFieldData.toCell) ⟨0, 0, 0, 0⟩ = .ok m)
    (hset : m.setBits = 0)
    (hfit : CellsFit (obj.bitStart first) ((blockFields obj first last).map FiidFieldData.toCell))
    {dataLen : ℕ} (hdst : setLen (blockFields obj first last) ≤ 8 * dataLen) :
    fiidObjGetBlock obj fieldStart fieldEnd dataLen = .ok (setLen (blockFields obj first last) / 8,
      pack (cellBits obj.data (obj.bitStart first)
        ((blockFields obj first last).map FiidFieldData.toCell)) ++
        List.replicate (dataLen - setLen (blockFields obj first last) / 8) 0) := by
  have hbits := hb.bits
  have hs := hb.startAligned
  have he := hb.endAligned
  obtain ⟨k, hk⟩ : ∃ k, obj.bitStart first = 8 * k := ⟨obj.bitStart first / 8, by omega⟩
  have hfit' : obj.bitStart (last + 1) ≤ 8 * obj.data.length := by
    rw [hwf.data]
    exact maxLen_take_le _ _
  have hle : ∀ f ∈ blockFields obj first last, f.setFieldLen ≤ f.maxFieldLen := by
    intro f hf
    exact hwf.le_of_mem (List.mem_of_mem_drop (List.mem_of_mem_take hf))
  have hsum := setLen_le_maxLen hle
  have hsrc : 8 * k + maxLen (blockFields obj first last) ≤ 8 * obj.data.length := by omega
  rw [hk] at hfit
  have hgather := gather_fields [] (by rwa [List.append_nil]) hset (by rwa [List.append_nil])
    (fun _ => rfl) rfl hsrc hdst
  rw [List.append_nil] at hgather
  obtain ⟨hmod, -, hgather⟩ := hgather
  have hroundMax : bitsRoundBytes (maxLen (blockFields obj first last))
      = maxLen (blockFields obj first last) / 8 := bitsRoundBytes_of_aligned (by omega)
  have hroundStart : bitsRoundBytes (obj.bitStart first) = k := by
    rw [bitsRoundBytes_of_aligned hs]
    omega
  simp only [fiidObjGetBlock, hb.bounds, hb.blockLen, ok_bind, bitsRoundBytes_of_aligned hmod,
    hroundMax, hroundStart]
  rw [if_neg (by omega), if_neg (by omega), hk]
  split
  · obtain ⟨-, hcopy⟩ := memcpy_fields hle (by omega) (by omega) hsrc hdst
    rw [hcopy]
    rfl
  · rw [hgather]
    rfl

/-- The block after `fiid_obj_set_block`. -/
theorem blockFields_markFields {data : List Byte} {k : ℕ} (hfirst : first ≤ obj.fields.length) :
    blockFields ({ obj with data := data }.markFields (n * 8) first (first + k)) first last
      = markSet (n * 8) k 0 (blockFields obj first last) := by
  have hlen : (obj.fields.take first).length = first := by
    rw [List.length_take]
    omega
  simp only [blockFields, FiidObj.markFields, Nat.add_sub_cancel_left]
  rw [List.drop_append_of_le_length (by omega), List.drop_eq_nil_of_le (by omega), List.nil_append,
    take_markSet]

/-- Bytes given to `fiid_obj_set_block` come back from `fiid_obj_get_block`. -/
theorem getBlock_of_setBlock (hwf : obj.Wf tmpl) (hb : BlockAt obj fieldStart fieldEnd first last)
    (hunset : ∀ f ∈ blockFields obj first last, f.setFieldLen = 0)
    (h : fiidObjSetBlock obj fieldStart fieldEnd d = (.ok n, obj')) :
    fiidObjBlockLen obj' fieldStart fieldEnd = .ok (8 * n) ∧ ∀ dataLen, n ≤ dataLen →
      fiidObjGetBlock obj' fieldStart fieldEnd dataLen
        = .ok (n, d.take n ++ List.replicate (dataLen - n) 0) := by
  have htouch : Touched obj obj' := by
    have := touched_setBlock hwf fieldStart fieldEnd d
    rwa [h] at this
  obtain ⟨first', last', k, hb', hn, hk, hobj⟩ := setBlock_ok h
  obtain ⟨rfl, rfl⟩ : first' = first ∧ last' = last := hb'.unique hb
  have hfirst : first' ≤ obj.fields.length := by
    have := hb.le
    have := hb.lt
    omega
  have hbits := hb.bits
  have hs := hb.startAligned
  have hfits : obj.bitStart (last' + 1) ≤ 8 * obj.data.length := by
    rw [hwf.data]
    exact maxLen_take_le _ _
  have htake : (d.take n).length = n := by
    rw [List.length_take]
    omega
  have hfields : blockFields obj' first' last' = markSet (n * 8) k 0 (blockFields obj first' last') := by
    rw [hobj]
    exact blockFields_markFields hfirst
  have hdata : obj'.data = splice obj.data (obj.bitStart first' / 8) (d.take n) := by
    rw [hobj]
    rfl
  obtain ⟨q, hq⟩ : ∃ q, obj.bitStart first' = 8 * q := ⟨obj.bitStart first' / 8, by omega⟩
  have hcells : cellBits obj'.data (obj'.bitStart first')
      ((blockFields obj' first' last').map FiidFieldData.toCell) = window (d.take n) 0 (8 * n) := by
    have hwin := window_splice obj.data (d.take n) q (by omega)
    have hdiv : 8 * q / 8 = q := by omega
    rw [htake] at hwin
    rw [hfields, htouch.bitStart, cellBits_markSet _ hunset (EndsAt.from (Or.inl hk)), hdata, hq, hdiv,
      ← hwin, Nat.sub_zero, Nat.mul_comm n 8]
  have hlen : setLen (blockFields obj' first' last') = 8 * n := by
    rw [← length_cellBits, hcells, length_window]
  have hb₁ := htouch.blockAt hb
  refine ⟨by rw [hb₁.blockLen, hlen], fun dataLen hdst => ?_⟩
  obtain ⟨t, o, ho⟩ := alignLoop_markSet (Nat.mul_mod_left n 8) hunset (EndsAt.from (Or.inl hk)) 0 0
    (Or.inl rfl) rfl
  have hget := getBlock_ok (htouch.wf hwf) hb₁ (by rw [hfields]; exact ho) rfl
    (by rw [hfields]; exact cellsFit_markSet (by rw [htouch.bitStart]; exact hs) hunset (Or.inl hk))
    (show setLen (blockFields obj' first' last') ≤ 8 * dataLen by omega)
  have hpack : pack (window (d.take n) 0 (8 * n)) = d.take n :=
    (eq_pack_of_window (by rw [htake])).symm
  have hdiv : setLen (blockFields obj' first' last') / 8 = n := by omega
  rw [hget, hcells, hpack, hdiv]

/-- `fiid_obj_set_block` changes nothing outside the block. -/
theorem setBlock_outside (hwf : obj.Wf tmpl) (hb : BlockAt obj fieldStart fieldEnd first last)
    (h : fiidObjSetBlock obj fieldStart fieldEnd d = (.ok n, obj')) :
    (∀ q, q < obj.bitStart first ∨ obj.bitStart (last + 1) ≤ q → bit obj'.data q = bit obj.data q) ∧
      ∀ j, j < first ∨ last < j → obj'.fields[j]? = obj.fields[j]? := by
  obtain ⟨first', last', k, hb', hn, hk, rfl⟩ := setBlock_ok h
  obtain ⟨rfl, rfl⟩ : first' = first ∧ last' = last := hb'.unique hb
  have hbits := hb.bits
  have hs := hb.startAligned
  have hle := hb.le
  have hlt := hb.lt
  have hfits : obj.bitStart (last' + 1) ≤ 8 * obj.data.length := by
    rw [hwf.data]
    exact maxLen_take_le _ _
  have htake : (d.take n).length = n := by
    rw [List.length_take]
    omega
  refine ⟨fun q hq => ?_, fun j hj => ?_⟩
  · exact bit_splice_of_outside (by omega) (by omega)
  · have hklt : k < last' + 1 - first' := by
      have := hk.lt
      rw [blockFields, List.length_take] at this
      omega
    refine (getElem?_markFields
      { obj with data := splice obj.data (obj.bitStart first' / 8) (d.take n) } _ _ _ _
      (show first' ≤ obj.fields.length by omega)).trans ?_
    split
    · rfl
    · rename_i hge
      have h1 : ¬ j - first' < first' + k - first' := by omega
      have h2 : ¬ j - first' = first' + k - first' := by omega
      show obj.fields[j]?.map _ = obj.fields[j]?
      cases obj.fields[j]? with
      | none => rfl
      | some f => simp only [Option.map_some, markedLen, if_neg h1, if_neg h2]

end SetBlock

/-! ### Fresh objects -/

/-- A freshly created or cleared object. -/
def Fresh (ndebug : Bool) (tmpl : FiidTemplate) (obj : FiidObj) : Prop :=
  fiidObjCreate ndebug tmpl = some obj ∨ ∃ o, Reachable ndebug tmpl o ∧ obj = fiidObjClear o

section Fresh
variable {ndebug : Bool} {tmpl : FiidTemplate} {obj : FiidObj}

theorem Fresh.reachable (h : Fresh ndebug tmpl obj) : Reachable ndebug tmpl obj := by
  rcases h with h | ⟨o, ho, rfl⟩
  · exact .create h
  · exact .step .clear ho rfl

theorem unset_clear (o : FiidObj) : (fiidObjClear o).Unset := by
  intro f hf
  obtain ⟨g, -, rfl⟩ := List.mem_map.mp hf
  rfl

theorem Fresh.unset (h : Fresh ndebug tmpl obj) : obj.Unset := by
  rcases h with h | ⟨o, -, rfl⟩
  · intro f hf
    obtain ⟨i, hi⟩ := List.mem_iff_getElem?.mp hf
    exact create_unset h hi
  · exact unset_clear o

end Fresh

/-- What `fiid_obj_set_all` and `fiid_obj_get_all` do with the bytes `d` on `obj`. -/
def AllRoundTrip (obj : FiidObj) (d : List Byte) : Prop :=
  match fiidObjSetAll obj d with
  | (.error _, obj') => obj' = obj
  | (.ok n, obj') => n = d.length ∧ fiidObjLen obj' = 8 * d.length ∧ ∀ dataLen, d.length ≤ dataLen →
      fiidObjGetAll obj' dataLen = .ok (d.length, d ++ List.replicate (dataLen - d.length) 0)

/-- What `fiid_obj_set_block` and `fiid_obj_get_block` do with the bytes `d` on a block of `obj`. -/
def BlockRoundTrip (obj : FiidObj) (fieldStart fieldEnd : String) (first last : ℕ) (d : List Byte) :
    Prop :=
  match fiidObjSetBlock obj fieldStart fieldEnd d with
  | (.error _, obj') => obj' = obj
  | (.ok n, obj') => n = d.length ∧ fiidObjBlockLen obj' fieldStart fieldEnd = .ok (8 * d.length) ∧
      (∀ dataLen, d.length ≤ dataLen → fiidObjGetBlock obj' fieldStart fieldEnd dataLen
        = .ok (d.length, d ++ List.replicate (dataLen - d.length) 0)) ∧
      (∀ q, q < obj.bitStart first ∨ obj.bitStart (last + 1) ≤ q → bit obj'.data q = bit obj.data q) ∧
      ∀ j, j < first ∨ last < j → obj'.fields[j]? = obj.fields[j]?

/-- On a fresh object the two setters either fail without a trace, or store bytes that the getters
    give back; a block leaves everything around it alone. -/
theorem fresh_roundTrip {ndebug : Bool} {tmpl : FiidTemplate} {obj : FiidObj}
    (h : Fresh ndebug tmpl obj) :
    (∀ d, d.length ≤ obj.data.length → AllRoundTrip obj d) ∧
      ∀ (fieldStart fieldEnd : String) (first last : ℕ) (d : List Byte),
        BlockAt obj fieldStart fieldEnd first last →
        8 * d.length ≤ obj.bitStart (last + 1) - obj.bitStart first →
        BlockRoundTrip obj fieldStart fieldEnd first last d := by
  have hwf := h.reachable.wf
  refine ⟨fun d hd => ?_, fun fieldStart fieldEnd first last d hb hd => ?_⟩
  · unfold AllRoundTrip
    split
    · rename_i hset
      exact (setAll_error hset).1
    · rename_i n obj' hset
      obtain ⟨hn, -⟩ := setAll_ok hwf.data hset
      obtain rfl : n = d.length := by omega
      refine ⟨rfl, (setBits_of_setAll hwf h.unset hset).2, fun dataLen hdst => ?_⟩
      have := getAll_of_setAll hwf h.unset hset hdst
      rwa [List.take_length] at this
  · unfold BlockRoundTrip
    split
    · rename_i hset
      exact setBlock_error hset
    · rename_i n obj' hset
      have hunset : ∀ f ∈ blockFields obj first last, f.setFieldLen = 0 :=
        fun f hf => h.unset f (List.mem_of_mem_drop (List.mem_of_mem_take hf))
      obtain ⟨first', last', -, hb', hn, -, -⟩ := setBlock_ok hset
      obtain ⟨rfl, rfl⟩ := hb'.unique hb
      have hbits := hb.bits
      obtain rfl : n = d.length := by omega
      obtain ⟨hlen, hget⟩ := getBlock_of_setBlock hwf hb hunset hset
      obtain ⟨hdata, hfields⟩ := setBlock_outside hwf hb hset
      refine ⟨rfl, hlen, fun dataLen hdst => ?_, hdata, hfields⟩
      have := hget dataLen hdst
      rwa [List.take_length] at this

theorem fresh_roundTrip_sample : AllRoundTrip sampleObj [0xa5, 1, 2, 3, 4] ∧
    BlockRoundTrip sampleObj "low" "skipped" 0 2 [0xa5, 1] := by
  have h := fresh_roundTrip (Or.inl (by decide : fiidObjCreate false sampleTmpl = some sampleObj))
  exact ⟨h.1 _ (by decide), h.2 _ _ _ _ _
    ⟨⟨_, by decide, rfl⟩, ⟨_, by decide, rfl⟩, by decide, by decide, by decide⟩ (by decide)⟩

end FreeIpmi.Fiid
