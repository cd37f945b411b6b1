import FreeIpmi.Fiid.Run

/-! The copying loop of `fiid_obj_get_all` and `fiid_obj_get_block`.

    The loop and the validity check keep the same counters (`packetValidStep`, `gatherStep`). Once
    the check has gone through the fields, so does the loop, and it has collected the set bits of
    every field: those already copied, followed by those of the incomplete byte (`Collected`). -/

namespace FreeIpmi.Fiid
open ByteBits Calls

/-- The bookkeeping of the validity check alone, without the checks of flags. -/
def alignLoop : List Cell → Counters → Except (Option FiidErr) Counters
  | [], n => .ok n
  | c :: cs, n => do alignLoop cs (← packetValidStep n c)

theorem alignLoop_of_packetValidLoop {b : Bool} : ∀ {cells : List Cell} {n n' : Counters},
    packetValidLoop b cells n = .ok n' → alignLoop cells n = .ok n'
  | [], n, n', h => h
  | c :: cs, n, n', h => by
    simp only [packetValidLoop] at h
    obtain ⟨_, -, h⟩ := bind_eq_ok.mp h
    obtain ⟨m, hm, h⟩ := bind_eq_ok.mp h
    rw [alignLoop, hm, ok_bind]
    exact alignLoop_of_packetValidLoop h

/-- The set bits of consecutive fields, the first of which starts at bit `start`. -/
def cellBits (data : List Byte) : ℕ → List Cell → List Bool
  | _, [] => []
  | start, c :: cs => window data start c.setFieldLen ++ cellBits data (start + c.maxFieldLen) cs

/-- No field is set beyond its length, and one that is set in part ends on a byte boundary. -/
def CellsFit : ℕ → List Cell → Prop
  | _, [] => True
  | start, c :: cs => c.setFieldLen ≤ c.maxFieldLen ∧
      (0 < c.setFieldLen → c.setFieldLen < c.maxFieldLen → (start + c.maxFieldLen) % 8 = 0) ∧
      CellsFit (start + c.maxFieldLen) cs

/-- Total of the maximum lengths of some cells. -/
def cellsMaxLen : List Cell → ℕ
  | [] => 0
  | c :: cs => c.maxFieldLen + cellsMaxLen cs

/-! ### One round -/

/-- What the loop has done when it is at bit `pos` of the object's data and has seen the bits `bits`:
    whole bytes of them are in the buffer, the others are the last `setBits` before `pos`. -/
structure Collected (objData : List Byte) (dataLen pos : ℕ) (bits : List Bool) (n : Counters)
    (g : Gather) (out : List Byte) : Prop where
  maxBits : g.maxBitsCounter = n.maxBits
  setBits : g.setBitsCounter = n.setBits
  optionalBits : g.optionalBitsCounter = n.optionalBits
  split : n.maxBits = n.setBits + n.optionalBits
  one : n.setBits = 0 ∨ n.optionalBits = 0
  pos : 8 * g.objDataIndex + n.maxBits = pos
  index : g.dataIndex = out.length
  written : g.bytesWritten = out.length
  buffer : g.data = out ++ List.replicate (dataLen - out.length) 0
  bits : window out 0 (8 * out.length) ++ window objData (8 * g.objDataIndex) n.setBits = bits

theorem Collected.length {objData : List Byte} {dataLen pos : ℕ} {bits : List Bool} {n : Counters}
    {g : Gather} {out : List Byte} (h : Collected objData dataLen pos bits n g out) :
    8 * out.length + n.setBits = bits.length := by
  rw [← h.bits, List.length_append, length_window, length_window]

theorem memcpy_ok {dst src : List Byte} {dstIndex srcIndex len : ℕ}
    (hdst : dstIndex + len ≤ dst.length) (hsrc : srcIndex + len ≤ src.length) :
    memcpy dst dstIndex src srcIndex len = .ok (splice dst dstIndex ((src.drop srcIndex).take len)) :=
  if_pos ⟨hdst, hsrc⟩

section Step
variable {objData : List Byte} {dataLen pos : ℕ} {bits : List Bool} {n n' : Counters} {g : Gather}
  {out : List Byte} {c : Cell}

/-- A round over a field that completes a byte: the collected bytes are copied. -/
theorem gatherStep_flush (h : Collected objData dataLen pos bits n g out)
    (hset : c.setFieldLen ≠ 0) (hle : c.setFieldLen ≤ c.maxFieldLen)
    (hpart : c.setFieldLen < c.maxFieldLen → (pos + c.maxFieldLen) % 8 = 0)
    (hopt : n.optionalBits = 0) (hmod : (n.setBits + c.setFieldLen) % 8 = 0)
    (hsrc : pos + c.maxFieldLen ≤ 8 * objData.length)
    (hdst : bits.length + c.setFieldLen ≤ 8 * dataLen) (t : ℕ) :
    ∃ g' out', gatherStep objData g c = .ok g' ∧
      Collected objData dataLen (pos + c.maxFieldLen) (bits ++ window objData pos c.setFieldLen)
        ⟨t, 0, 0, n.optionalBits⟩ g' out' := by
  obtain ⟨hmax, hsetb, hoptb, hsplit, hone, hpos, hidx, hwr, hbuf, hbits⟩ := id h
  have hlen := h.length
  have hround : bitsRoundBytes (n.setBits + c.setFieldLen) = (n.setBits + c.setFieldLen) / 8 :=
    bitsRoundBytes_of_aligned hmod
  have hroundMax : bitsRoundBytes (n.maxBits + c.maxFieldLen) = (n.maxBits + c.maxFieldLen) / 8 := by
    apply bitsRoundBytes_of_aligned
    rcases Nat.lt_or_ge c.setFieldLen c.maxFieldLen with hlt | hge
    · have := hpart hlt
      omega
    · omega
  obtain ⟨k, hk⟩ : ∃ k, n.setBits + c.setFieldLen = 8 * k :=
    ⟨_, (Nat.mul_div_cancel' (Nat.dvd_of_mod_eq_zero hmod)).symm⟩
  have hkdiv : (n.setBits + c.setFieldLen) / 8 = k := by omega
  have hchunk : ((objData.drop g.objDataIndex).take k).length = k := by
    rw [List.length_take, List.length_drop]
    omega
  have hcopy : memcpy g.data g.dataIndex objData g.objDataIndex k
      = .ok ((out ++ (objData.drop g.objDataIndex).take k)
          ++ List.replicate (dataLen - (out ++ (objData.drop g.objDataIndex).take k).length) 0) := by
    rw [memcpy_ok (by rw [hbuf, List.length_append, List.length_replicate]; omega) (by omega), hbuf,
      hidx, splice_append_replicate, List.length_append, Nat.sub_add_eq]
  have hstep : gatherStep objData g c = .ok
      { bytesWritten := g.bytesWritten + k
        maxBitsCounter := 0
        setBitsCounter := 0
        optionalBitsCounter := g.optionalBitsCounter
        dataIndex := g.dataIndex + k
        objDataIndex := g.objDataIndex + (n.maxBits + c.maxFieldLen) / 8
        data := (out ++ (objData.drop g.objDataIndex).take k)
          ++ List.replicate (dataLen - (out ++ (objData.drop g.objDataIndex).take k).length) 0 } := by
    simp only [gatherStep, hoptb, hsetb, hmax]
    rw [if_pos hset, if_neg (by omega), if_neg (by omega), if_pos hmod, hround, hroundMax, hkdiv, hcopy]
    rfl
  refine ⟨_, _, hstep, ⟨rfl, rfl, hoptb, ?_, Or.inl rfl, ?_, ?_, ?_, rfl, ?_⟩⟩
  · simp [hopt]
  · simp only [Nat.add_zero]
    rcases Nat.lt_or_ge c.setFieldLen c.maxFieldLen with hlt | hge
    · have := hpart hlt
      omega
    · omega
  · simp only [List.length_append, hchunk, hidx]
  · simp only [List.length_append, hchunk, hwr]
  · -- the copied chunk is the incomplete byte followed by the field
    have hfull : 8 * (out ++ (objData.drop g.objDataIndex).take k).length
        = 8 * out.length + 8 * k := by rw [List.length_append, hchunk]; ring
    have hnext : 8 * g.objDataIndex + n.setBits = pos := by omega
    rw [window_zero, List.append_nil, hfull, window_append, window_drop_take, ← hk, window_add,
      ← List.append_assoc, hbits, hnext]

/-- A round over a complete field that leaves a byte incomplete. -/
theorem gatherStep_hold (h : Collected objData dataLen pos bits n g out)
    (hset : c.setFieldLen ≠ 0) (hfull : c.setFieldLen = c.maxFieldLen)
    (hopt : n.optionalBits = 0) (hmod : (n.setBits + c.setFieldLen) % 8 ≠ 0) (t : ℕ) :
    ∃ g' out', gatherStep objData g c = .ok g' ∧
      Collected objData dataLen (pos + c.maxFieldLen) (bits ++ window objData pos c.setFieldLen)
        ⟨t, n.maxBits + c.maxFieldLen, n.setBits + c.setFieldLen, n.optionalBits⟩ g' out' := by
  obtain ⟨hmax, hsetb, hoptb, hsplit, hone, hpos, hidx, hwr, hbuf, hbits⟩ := h
  have hstep : gatherStep objData g c = .ok { g with
      maxBitsCounter := n.maxBits + c.maxFieldLen
      setBitsCounter := n.setBits + c.setFieldLen } := by
    simp only [gatherStep, hoptb, hsetb, hmax]
    rw [if_pos hset, if_neg (by omega), if_neg (by omega), if_neg hmod]
  have hnext : 8 * g.objDataIndex + n.setBits = pos := by omega
  refine ⟨_, out, hstep, ⟨rfl, rfl, hoptb, ?_, Or.inr hopt, ?_, hidx, hwr, hbuf, ?_⟩⟩
  · simp only
    omega
  · simp only
    omega
  · rw [window_add, ← List.append_assoc, hbits, hnext]

/-- A round over an unset field: whole bytes of unset fields are skipped. -/
theorem gatherStep_skip (h : Collected objData dataLen pos bits n g out)
    (hset : c.setFieldLen = 0) (hnoset : n.setBits = 0) (t : ℕ) :
    ∃ g', gatherStep objData g c = .ok g' ∧
      Collected objData dataLen (pos + c.maxFieldLen) (bits ++ window objData pos c.setFieldLen)
        (if n.optionalBits + c.maxFieldLen ≠ 0 ∧ (n.optionalBits + c.maxFieldLen) % 8 = 0
          then ⟨t, 0, n.setBits, 0⟩
          else ⟨t, n.maxBits + c.maxFieldLen, n.setBits, n.optionalBits + c.maxFieldLen⟩) g' out := by
  obtain ⟨hmax, hsetb, hoptb, hsplit, hone, hpos, hidx, hwr, hbuf, hbits⟩ := h
  rw [hset, window_zero, List.append_nil]
  split
  · rename_i hwhole
    have hstep : gatherStep objData g c = .ok { g with
        maxBitsCounter := 0
        optionalBitsCounter := 0
        objDataIndex := g.objDataIndex + (n.optionalBits + c.maxFieldLen) / 8 } := by
      simp only [gatherStep, hoptb, hsetb, hmax]
      rw [if_neg (by omega), if_neg (by omega), if_pos hwhole, if_neg (by omega),
        bitsRoundBytes_of_aligned hwhole.2]
    refine ⟨_, hstep, ⟨rfl, hsetb, rfl, ?_, Or.inr rfl, ?_, hidx, hwr, hbuf, ?_⟩⟩
    · simp [hnoset]
    · simp only
      omega
    · rw [← hbits, hnoset, window_zero, window_zero]
  · rename_i hpiece
    have hstep : gatherStep objData g c = .ok { g with
        maxBitsCounter := n.maxBits + c.maxFieldLen
        optionalBitsCounter := n.optionalBits + c.maxFieldLen } := by
      simp only [gatherStep, hoptb, hsetb, hmax]
      rw [if_neg (by omega), if_neg (by omega), if_neg hpiece]
    refine ⟨_, hstep, ⟨rfl, hsetb, rfl, ?_, Or.inl hnoset, ?_, hidx, hwr, hbuf, hbits⟩⟩
    · simp only
      omega
    · simp only
      omega

/-- Whenever a round of the validity check goes through, so does the round of the copying loop. -/
theorem gatherStep_ok (h : Collected objData dataLen pos bits n g out)
    (hstep : packetValidStep n c = .ok n') (hle : c.setFieldLen ≤ c.maxFieldLen)
    (hpart : 0 < c.setFieldLen → c.setFieldLen < c.maxFieldLen → (pos + c.maxFieldLen) % 8 = 0)
    (hsrc : pos + c.maxFieldLen ≤ 8 * objData.length)
    (hdst : bits.length + c.setFieldLen ≤ 8 * dataLen) :
    ∃ g' out', gatherStep objData g c = .ok g' ∧
      Collected objData dataLen (pos + c.maxFieldLen) (bits ++ window objData pos c.setFieldLen) n' g'
        out' := by
  unfold packetValidStep at hstep
  by_cases hset : c.setFieldLen ≠ 0
  · simp only [if_pos hset] at hstep
    split at hstep
    · cases hstep
    · rename_i hopt
      split at hstep
      · cases hstep
      · rename_i hpartial
        split at hstep
        · rename_i hmod
          cases hstep
          exact gatherStep_flush h hset hle (hpart (by omega)) (by omega) hmod hsrc hdst _
        · rename_i hmod
          cases hstep
          have hfull : c.setFieldLen = c.maxFieldLen := by
            by_contra hne
            exact hpartial ⟨hne, hmod⟩
          exact gatherStep_hold h hset hfull (by omega) hmod _
  · simp only [if_neg hset] at hstep
    split at hstep
    · cases hstep
    · obtain ⟨g', hg', hcol⟩ := gatherStep_skip h (c := c) (by omega) (by omega)
        (n.totalSetBits + c.setFieldLen)
      refine ⟨g', out, hg', ?_⟩
      split at hstep
      · rename_i hwhole
        rw [if_pos hwhole] at hcol
        split at hstep
        · cases hstep
        · cases hstep
          exact hcol
      · rename_i hpiece
        rw [if_neg hpiece] at hcol
        cases hstep
        exact hcol

/-- Where the validity check objects to a field, so does the copying loop. -/
theorem gatherStep_error (h : Collected objData dataLen pos bits n g out) {e : Option FiidErr}
    (hstep : packetValidStep n c = .error e) :
    gatherStep objData g c = .error (.fiid .dataNotByteAligned) := by
  obtain ⟨hmax, hset, hopt, -, -, -, -, -, -, -⟩ := h
  simp only [packetValidStep] at hstep
  simp only [gatherStep, hmax, hset, hopt]
  split_ifs at hstep with h0 h1 h2 h3 h4 h5 h6
  · rw [if_pos h0, if_pos h1]
  · rw [if_pos h0, if_neg h1, if_pos h2]
  · rw [if_neg h0, if_pos h4]
  · rw [if_neg h0, if_neg h4, if_pos h5, if_pos h6]

end Step

/-! ### The loop -/

/-- The copying loop collects the set bits of all the fields. -/
theorem gatherLoop_ok {objData : List Byte} {dataLen : ℕ} : ∀ {cells : List Cell} {pos : ℕ}
    {bits : List Bool} {n n' : Counters} {g : Gather} {out : List Byte},
    Collected objData dataLen pos bits n g out → alignLoop cells n = .ok n' → CellsFit pos cells →
    pos + cellsMaxLen cells ≤ 8 * objData.length →
    bits.length + (cellBits objData pos cells).length ≤ 8 * dataLen →
    ∃ g' out', gatherLoop objData cells g = .ok g' ∧
      Collected objData dataLen (pos + cellsMaxLen cells) (bits ++ cellBits objData pos cells) n' g' out'
  | [], pos, bits, n, n', g, out, h, hal, _, _, _ => by
    cases hal
    refine ⟨g, out, rfl, ?_⟩
    rw [cellBits, List.append_nil]
    exact h
  | c :: cs, pos, bits, n, n', g, out, h, hal, hfit, hsrc, hdst => by
    obtain ⟨m, hm, hal⟩ := bind_eq_ok.mp hal
    obtain ⟨hle, hpart, hfit⟩ := hfit
    simp only [cellsMaxLen] at hsrc
    simp only [cellBits, List.length_append, length_window] at hdst
    obtain ⟨g₁, out₁, hg₁, hcol₁⟩ := gatherStep_ok h hm hle hpart (by omega) (by omega)
    obtain ⟨g₂, out₂, hg₂, hcol₂⟩ := gatherLoop_ok hcol₁ hal hfit (by omega)
      (by rw [List.length_append, length_window]; omega)
    refine ⟨g₂, out₂, by rw [gatherLoop, hg₁, ok_bind, hg₂], ?_⟩
    rw [cellsMaxLen, cellBits, ← List.append_assoc, ← Nat.add_assoc]
    exact hcol₂

/-- The copying loop reads and writes inside its arrays, whatever it objects to. -/
theorem gatherLoop_returns {objData : List Byte} {dataLen : ℕ} : ∀ {cells : List Cell} {pos : ℕ}
    {bits : List Bool} {n : Counters} {g : Gather} {out : List Byte},
    Collected objData dataLen pos bits n g out → CellsFit pos cells →
    pos + cellsMaxLen cells ≤ 8 * objData.length →
    bits.length + (cellBits objData pos cells).length ≤ 8 * dataLen →
    Meets (gatherLoop objData cells g) (fun _ => True) (·.isReturn = true)
  | [], _, _, _, _, _, _, _, _, _ => Meets.ok trivial
  | c :: cs, pos, bits, n, g, out, h, hfit, hsrc, hdst => by
    obtain ⟨hle, hpart, hfit⟩ := hfit
    simp only [cellsMaxLen] at hsrc
    simp only [cellBits, List.length_append, length_window] at hdst
    rw [gatherLoop]
    cases hstep : packetValidStep n c with
    | error e =>
      rw [gatherStep_error h hstep]
      exact Meets.error rfl
    | ok n' =>
      obtain ⟨g', out', hg', hcol⟩ := gatherStep_ok h hstep hle hpart (by omega) (by omega)
      rw [hg']
      exact gatherLoop_returns hcol hfit (by omega) (by rw [List.length_append, length_window]; omega)

/-- Nothing has been collected yet. -/
theorem Collected.start (objData : List Byte) (k dataLen : ℕ) :
    Collected objData dataLen (8 * k) [] ⟨0, 0, 0, 0⟩
      ⟨0, 0, 0, 0, 0, k, List.replicate dataLen 0⟩ [] :=
  ⟨rfl, rfl, rfl, rfl, Or.inl rfl, rfl, rfl, rfl, rfl, rfl⟩

theorem gather_returns {objData : List Byte} {cells : List Cell} {k dataLen : ℕ} (bytesLen : ℕ)
    (hfit : CellsFit (8 * k) cells) (hsrc : 8 * k + cellsMaxLen cells ≤ 8 * objData.length)
    (hdst : (cellBits objData (8 * k) cells).length ≤ 8 * dataLen) :
    Meets (gather objData cells k bytesLen dataLen) (fun _ => True) (·.isReturn = true) := by
  refine (gatherLoop_returns (Collected.start objData k dataLen) hfit hsrc (by simpa using hdst)).bind
    fun g _ => ?_
  refine Meets.ite (fun _ => Meets.error rfl) fun _ => ?_
  exact Meets.ite (fun _ => Meets.error rfl) fun _ => Meets.ok trivial

/-- The buffer after the copying loop and the checks behind it: the packed set bits, then zeros. -/
theorem gather_ok {objData : List Byte} {cells : List Cell} {k dataLen : ℕ} {n : Counters}
    (hal : alignLoop cells ⟨0, 0, 0, 0⟩ = .ok n) (hset : n.setBits = 0)
    (hfit : CellsFit (8 * k) cells) (hsrc : 8 * k + cellsMaxLen cells ≤ 8 * objData.length)
    (hdst : (cellBits objData (8 * k) cells).length ≤ 8 * dataLen) :
    ∃ out : List Byte, window out 0 (8 * out.length) = cellBits objData (8 * k) cells ∧
      gather objData cells k out.length dataLen
        = .ok (out ++ List.replicate (dataLen - out.length) 0) := by
  obtain ⟨g, out, hg, hcol⟩ :=
    gatherLoop_ok (Collected.start objData k dataLen) hal hfit hsrc (by simpa using hdst)
  refine ⟨out, ?_, ?_⟩
  · have hbits := hcol.bits
    rw [hset, window_zero, List.append_nil, List.nil_append] at hbits
    exact hbits
  · have hsetb : ¬ g.setBitsCounter ≠ 0 := by rw [hcol.setBits, hset]; simp
    have hwr : ¬ g.bytesWritten ≠ out.length := by rw [hcol.written]; simp
    rw [gather, hg, ok_bind, if_neg hsetb, if_neg hwr, hcol.buffer]
    rfl

/-! ### The fields of an object -/

theorem setLen_le_maxLen : ∀ {fields : List FiidFieldData},
    (∀ f ∈ fields, f.setFieldLen ≤ f.maxFieldLen) → setLen fields ≤ maxLen fields
  | [], _ => le_rfl
  | f :: fs, h => by
    have hf := h f List.mem_cons_self
    have hfs := setLen_le_maxLen fun g hg => h g (List.mem_cons_of_mem f hg)
    simp only [setLen_cons, maxLen_cons]
    omega

/-- The first `set_field_len` bits of every field, in template order. -/
def FiidObj.setBits (obj : FiidObj) : List Bool :=
  cellBits obj.data 0 (obj.fields.map FiidFieldData.toCell)

section Cells
variable {data : List Byte}

theorem length_cellBits : ∀ (start : ℕ) (fields : List FiidFieldData),
    (cellBits data start (fields.map FiidFieldData.toCell)).length = setLen fields
  | _, [] => rfl
  | start, f :: fs => by
    rw [List.map_cons, cellBits, List.length_append, length_window, length_cellBits _ fs]
    rfl

theorem cellsMaxLen_map : ∀ fields : List FiidFieldData,
    cellsMaxLen (fields.map FiidFieldData.toCell) = maxLen fields
  | [] => rfl
  | f :: fs => by
    rw [List.map_cons, cellsMaxLen, cellsMaxLen_map fs]
    rfl

theorem cellBits_append : ∀ (start : ℕ) (a b : List Cell), cellBits data start (a ++ b)
    = cellBits data start a ++ cellBits data (start + cellsMaxLen a) b
  | _, [], _ => rfl
  | start, c :: a, b => by
    simp only [List.cons_append, cellBits, cellsMaxLen, cellBits_append _ a b, List.append_assoc,
      Nat.add_assoc]

theorem cellsMaxLen_append (a b : List Cell) : cellsMaxLen (a ++ b) = cellsMaxLen a + cellsMaxLen b := by
  induction a with
  | nil => simp [cellsMaxLen]
  | cons c a ih => rw [List.cons_append, cellsMaxLen, cellsMaxLen, ih, Nat.add_assoc]

theorem cellsFit_append : ∀ {start : ℕ} {a b : List Cell}, CellsFit start a →
    CellsFit (start + cellsMaxLen a) b → CellsFit start (a ++ b)
  | _, [], _, _, hb => hb
  | start, c :: a, b, ha, hb => by
    refine ⟨ha.1, ha.2.1, cellsFit_append ha.2.2 ?_⟩
    rwa [Nat.add_assoc]

theorem cellsFit_of_fields : ∀ {start : ℕ} {fields : List FiidFieldData},
    (∀ (i : ℕ) (f : FiidFieldData), fields[i]? = some f → f.setFieldLen ≤ f.maxFieldLen ∧
      (0 < f.setFieldLen → f.setFieldLen < f.maxFieldLen →
        (start + maxLen (fields.take (i + 1))) % 8 = 0)) →
    CellsFit start (fields.map FiidFieldData.toCell)
  | _, [], _ => trivial
  | start, f :: fs, h => by
    obtain ⟨hle, hpart⟩ := h 0 f rfl
    refine ⟨hle, fun h1 h2 => ?_, cellsFit_of_fields fun i g hg => ?_⟩
    · have := hpart h1 h2
      rwa [List.take_succ_cons, List.take_zero, maxLen_cons, maxLen_nil, Nat.add_zero] at this
    · obtain ⟨hle', hpart'⟩ := h (i + 1) g hg
      refine ⟨hle', fun h1 h2 => ?_⟩
      have := hpart' h1 h2
      rwa [List.take_succ_cons, maxLen_cons, ← Nat.add_assoc] at this

/-- When every field is set completely, the set bits are all the bits. -/
theorem cellBits_full : ∀ (start : ℕ) (fields : List FiidFieldData),
    (∀ f ∈ fields, f.setFieldLen ≤ f.maxFieldLen) → setLen fields = maxLen fields →
    cellBits data start (fields.map FiidFieldData.toCell) = window data start (maxLen fields)
  | _, [], _, _ => rfl
  | start, f :: fs, hle, heq => by
    have hf := hle f List.mem_cons_self
    have hfs : ∀ g ∈ fs, g.setFieldLen ≤ g.maxFieldLen := fun g hg => hle g (List.mem_cons_of_mem _ hg)
    have hsum := setLen_le_maxLen hfs
    simp only [setLen_cons, maxLen_cons] at heq
    have hfull : f.setFieldLen = f.maxFieldLen := by omega
    rw [List.map_cons, cellBits, cellBits_full _ fs hfs (by omega), maxLen_cons, window_add]
    simp only [FiidFieldData.toCell, hfull]

end Cells

end FreeIpmi.Fiid
