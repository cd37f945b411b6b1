import FreeIpmi.Fiid.GetAll

/-! What a getter leaves in its buffer, for any object: as many bytes as it returns, and zeros behind
    them. None of the calls fails an assertion. -/

namespace FreeIpmi.Fiid
open ByteBits Calls

theorem ne_assertion_of_isReturn {e : Stop} (h : e.isReturn = true) : e ≠ .assertion := by
  rintro rfl
  cases h

/-- A buffer of `dataLen` bytes: `len` are written, the others still zero. -/
structure Written (dataLen len : ℕ) (buf : List Byte) : Prop where
  le : len ≤ dataLen
  parts : ∃ b, b.length = len ∧ buf = b ++ List.replicate (dataLen - len) 0

theorem Written.length {dataLen len : ℕ} {buf : List Byte} (h : Written dataLen len buf) :
    buf.length = dataLen := by
  obtain ⟨b, hb, rfl⟩ := h.parts
  rw [List.length_append, List.length_replicate, hb]
  exact Nat.add_sub_cancel' h.le

theorem Written.zeros (dataLen : ℕ) : Written dataLen 0 (List.replicate dataLen 0) :=
  ⟨Nat.zero_le _, [], rfl, rfl⟩

/-- Bytes copied behind the written ones. -/
theorem Written.memcpy {dataLen len : ℕ} {buf src : List Byte} (h : Written dataLen len buf)
    (srcIndex count : ℕ) :
    Meets (memcpy buf len src srcIndex count) (Written dataLen (len + count)) (· ≠ .assertion) := by
  rw [Fiid.memcpy]
  refine Meets.ite (fun hroom => Meets.ok ?_) fun _ => Meets.error (by decide)
  obtain ⟨b, rfl, rfl⟩ := h.parts
  obtain ⟨hdst, hsrc⟩ := hroom
  rw [List.length_append, List.length_replicate, Nat.add_sub_cancel' h.le] at hdst
  have hcount : ((src.drop srcIndex).take count).length = count := by
    rw [List.length_take, List.length_drop]
    omega
  refine ⟨hdst, b ++ (src.drop srcIndex).take count, by rw [List.length_append, hcount], ?_⟩
  rw [splice_append_replicate, hcount, Nat.sub_sub]

/-- The loop has written as much as it says, behind what it has written before. -/
structure Gather.Filled (dataLen : ℕ) (g : Gather) : Prop where
  index : g.dataIndex = g.bytesWritten
  written : Written dataLen g.bytesWritten g.data

theorem gatherStep_filled {dataLen : ℕ} {objData : List Byte} {g : Gather} {c : Cell}
    (h : g.Filled dataLen) :
    Meets (gatherStep objData g c) (Gather.Filled dataLen) (· ≠ .assertion) := by
  rw [gatherStep]
  refine Meets.ite (fun _ => ?_) fun _ => ?_
  · refine Meets.ite (fun _ => Meets.error (by decide)) fun _ => ?_
    refine Meets.ite (fun _ => Meets.error (by decide)) fun _ => ?_
    refine Meets.ite (fun _ => ?_) fun _ => Meets.ok ⟨h.index, h.written⟩
    rw [h.index]
    exact (h.written.memcpy _ _).bind fun data hdata => Meets.ok ⟨rfl, hdata⟩
  · refine Meets.ite (fun _ => Meets.error (by decide)) fun _ => ?_
    refine Meets.ite (fun _ => ?_) fun _ => Meets.ok ⟨h.index, h.written⟩
    exact Meets.ite (fun _ => Meets.error (by decide)) fun _ => Meets.ok ⟨h.index, h.written⟩

theorem gatherLoop_filled {dataLen : ℕ} {objData : List Byte} : ∀ {cells : List Cell} {g : Gather},
    g.Filled dataLen →
      Meets (gatherLoop objData cells g) (Gather.Filled dataLen) (· ≠ .assertion)
  | [], _, h => Meets.ok h
  | _ :: _, _, h => (gatherStep_filled h).bind fun _ hg => gatherLoop_filled hg

theorem gather_written (objData : List Byte) (cells : List Cell) (objDataIndex bytesLen dataLen : ℕ) :
    Meets (gather objData cells objDataIndex bytesLen dataLen) (Written dataLen bytesLen)
      (· ≠ .assertion) := by
  have hstart : Gather.Filled dataLen ⟨0, 0, 0, 0, 0, objDataIndex, List.replicate dataLen 0⟩ :=
    ⟨rfl, Written.zeros dataLen⟩
  refine (gatherLoop_filled hstart).bind fun g hg => ?_
  refine Meets.ite (fun _ => Meets.error (by decide)) fun _ => ?_
  refine Meets.ite (fun _ => Meets.error (by decide)) fun hbytes => Meets.ok ?_
  rw [← not_not.mp hbytes]
  exact hg.written

/-- `fiid_obj_get_all` writes the bytes of the set fields. -/
theorem getAll_written (obj : FiidObj) (dataLen : ℕ) :
    Meets (fiidObjGetAll obj dataLen)
      (fun r => r.1 = bitsRoundBytes (fiidObjLen obj) ∧ Written dataLen r.1 r.2) (· ≠ .assertion) := by
  simp only [fiidObjGetAll, getAll_bytesLen]
  refine Meets.ite (fun _ => Meets.error (by decide)) fun _ => Meets.ite (fun _ => ?_) fun _ => ?_
  · refine ((Written.zeros dataLen).memcpy _ _).bind fun data hdata => Meets.ok ⟨rfl, ?_⟩
    rwa [Nat.zero_add] at hdata
  · exact (gather_written _ _ _ _ _).bind fun data hdata => Meets.ok ⟨rfl, hdata⟩

/-! ### Calls that only look up -/

theorem lookupFieldIndex_ordinary (obj : FiidObj) (field : String) :
    Meets (fiidObjLookupFieldIndex obj field) (fun _ => True) (· ≠ .assertion) := by
  rw [fiidObjLookupFieldIndex]
  split
  · exact Meets.error (by decide)
  · exact Meets.ok trivial

theorem fieldStartEnd_ordinary (field : String) : ∀ (fields : List FiidFieldData) (start : ℕ),
    Meets (fieldStartEnd field fields start) (fun _ => True) (· ≠ .assertion)
  | [], _ => Meets.error (by decide)
  | _ :: fs, _ => Meets.ite (fun _ => Meets.ok trivial) fun _ => fieldStartEnd_ordinary field fs _

theorem fieldStart_ordinary (obj : FiidObj) (field : String) :
    Meets (fiidObjFieldStart obj field) (fun _ => True) (· ≠ .assertion) :=
  (fieldStartEnd_ordinary field obj.fields 0).bind fun _ _ => Meets.ok trivial

theorem fieldEnd_ordinary (obj : FiidObj) (field : String) :
    Meets (fiidObjFieldEnd obj field) (fun _ => True) (· ≠ .assertion) :=
  (fieldStartEnd_ordinary field obj.fields 0).bind fun _ _ => Meets.ok trivial

theorem maxFieldLen_ordinary (obj : FiidObj) (field : String) :
    Meets (fiidObjMaxFieldLen obj field) (fun _ => True) (· ≠ .assertion) := by
  rw [fiidObjMaxFieldLen]
  split
  · exact Meets.error (by decide)
  · exact Meets.ok trivial

theorem fieldLen_ordinary (obj : FiidObj) (field : String) :
    Meets (fiidObjFieldLen obj field) (fun _ => True) (· ≠ .assertion) := by
  rw [fiidObjFieldLen]
  split
  · exact Meets.error (by decide)
  · exact Meets.ok trivial

theorem bytesOfSetBits_meets (len : ℕ) :
    Meets (bytesOfSetBits len) (fun n => n = bitsRoundBytes len ∧ len % 8 = 0) (· ≠ .assertion) :=
  Meets.ite (fun _ => Meets.error (by decide)) fun h => Meets.ok ⟨rfl, not_not.mp h⟩

theorem blockLen_ordinary (obj : FiidObj) (fieldStart fieldEnd : String) :
    Meets (fiidObjBlockLen obj fieldStart fieldEnd) (fun _ => True) (· ≠ .assertion) :=
  (lookupFieldIndex_ordinary obj fieldStart).bind fun _ _ =>
    (lookupFieldIndex_ordinary obj fieldEnd).bind fun _ _ =>
      Meets.ite (fun _ => Meets.error (by decide)) fun _ => Meets.ok trivial

theorem blockBounds_ordinary (obj : FiidObj) (fieldStart fieldEnd : String) :
    Meets (blockBounds obj fieldStart fieldEnd) (fun _ => True) (· ≠ .assertion) := by
  have hmax : Meets (fiidObjMaxBlockLen obj fieldStart fieldEnd) (fun _ => True) (· ≠ .assertion) :=
    (fieldStart_ordinary obj fieldStart).bind fun _ _ => (fieldEnd_ordinary obj fieldEnd).bind fun _ _ =>
      Meets.ite (fun _ => Meets.error (by decide)) fun _ => Meets.ok trivial
  refine (lookupFieldIndex_ordinary obj fieldStart).bind fun _ _ =>
    (lookupFieldIndex_ordinary obj fieldEnd).bind fun _ _ =>
      Meets.ite (fun _ => Meets.error (by decide)) fun _ => (fieldStart_ordinary obj fieldStart).bind fun _ _ =>
        Meets.ite (fun _ => Meets.error (by decide)) fun _ => hmax.bind fun _ _ =>
          Meets.ite (fun _ => Meets.error (by decide)) fun _ => Meets.ok trivial

/-- `fiid_obj_get_block` writes the bytes of the set fields of the block. -/
theorem getBlock_written (obj : FiidObj) (fieldStart fieldEnd : String) (dataLen : ℕ) :
    Meets (fiidObjGetBlock obj fieldStart fieldEnd dataLen)
      (fun r => fiidObjBlockLenBytes obj fieldStart fieldEnd = .ok r.1 ∧ Written dataLen r.1 r.2)
      (· ≠ .assertion) := by
  refine (blockBounds_ordinary obj fieldStart fieldEnd).bind ?_
  rintro ⟨first, last, blockBitsStart, blockBitsMaxLen⟩ -
  cases hlen : fiidObjBlockLen obj fieldStart fieldEnd with
  | error e => exact Meets.error ((blockLen_ordinary obj fieldStart fieldEnd).reason e hlen)
  | ok len =>
    simp only [ok_bind]
    refine Meets.ite (fun _ => Meets.error (by decide)) fun hmod => ?_
    have hbytes : fiidObjBlockLenBytes obj fieldStart fieldEnd = .ok (bitsRoundBytes len) := by
      rw [fiidObjBlockLenBytes, hlen, ok_bind, bytesOfSetBits, if_neg hmod]
    refine Meets.ite (fun _ => Meets.error (by decide)) fun _ => Meets.ite (fun _ => ?_) fun _ => ?_
    · refine ((Written.zeros dataLen).memcpy _ _).bind fun data hdata => Meets.ok ⟨hbytes, ?_⟩
      rwa [Nat.zero_add] at hdata
    · exact (gather_written _ _ _ _ _).bind fun data hdata => Meets.ok ⟨hbytes, hdata⟩

/-! ### Setters -/

theorem orInternalError_ordinary {α : Type} {x : Except Stop α}
    (h : Meets x (fun _ => True) (· ≠ .assertion)) :
    Meets (orInternalError x) (fun _ => True) (· ≠ .assertion) := by
  cases x with
  | ok a => exact Meets.ok trivial
  | error e =>
    cases e with
    | errno => exact Meets.error Stop.noConfusion
    | fiid => exact h
    | undefined => exact h
    | assertion => exact h

theorem bitsExtract_ordinary (bits : BitVec 64) (start stop : ℕ) :
    Meets (orInternalError (bitsExtract bits start stop)) (fun _ => True) (· ≠ .assertion) :=
  orInternalError_ordinary (Meets.ite (fun _ => Meets.error (by decide)) fun _ =>
    Meets.ite (fun _ => Meets.error (by decide)) fun _ => Meets.ok trivial)

theorem bitsMerge_ordinary (bits : BitVec 64) (start stop : ℕ) (val : BitVec 64) :
    Meets (orInternalError (bitsMerge bits start stop val)) (fun _ => True) (· ≠ .assertion) :=
  orInternalError_ordinary (Meets.ite (fun _ => Meets.error (by decide)) fun _ =>
    Meets.ite (fun _ => Meets.error (by decide)) fun _ => Meets.ok trivial)

theorem readByte_ordinary (a : List Byte) (i : ℕ) :
    Meets (readByte a i) (fun _ => True) (· ≠ .assertion) := by
  rw [readByte]
  split
  · exact Meets.error (by decide)
  · exact Meets.ok trivial

theorem setLoop_ordinary (val : BitVec 64) (bytePos used : ℕ) : ∀ (n i : ℕ) (p : SpanPos)
    (data : List Byte), Meets (setLoop val bytePos used n i p data) (fun _ => True) (· ≠ .assertion)
  | 0, _, _, _ => Meets.ok trivial
  | n + 1, _, _, _ => (bitsExtract_ordinary _ _ _).bind fun _ _ =>
      (readByte_ordinary _ _).bind fun _ _ => (bitsMerge_ordinary _ _ _ _).bind fun _ _ =>
        setLoop_ordinary val bytePos used n _ _ _

theorem storeBits_ordinary (data : List Byte) (start fieldLen : ℕ) (val : BitVec 64) :
    Meets (storeBits data start fieldLen val) (fun _ => True) (· ≠ .assertion) := by
  rw [storeBits]
  refine Meets.ite (fun _ => setLoop_ordinary _ _ _ _ _ _ _) fun _ => ?_
  exact (readByte_ordinary _ _).bind fun _ _ => (bitsMerge_ordinary _ _ _ _).bind fun _ _ =>
    Meets.ok trivial

/-- The objects are of the same template. -/
def FiidObj.SameTemplate (obj obj' : FiidObj) : Prop :=
  obj'.fields.map FiidFieldData.toField = obj.fields.map FiidFieldData.toField

theorem set_sameTemplate (obj : FiidObj) (field : String) (val : BitVec 64) :
    Meets (fiidObjSet obj field val) obj.SameTemplate (· ≠ .assertion) :=
  (lookupFieldIndex_ordinary obj field).bind fun _ _ =>
    (fieldStartEnd_ordinary field obj.fields 0).bind fun _ _ =>
      (storeBits_ordinary _ _ _ _).bind fun _ _ => Meets.ok (map_toField_modify _ _ _)

theorem setData_sameTemplate (obj : FiidObj) (field : String) (data : List Byte) :
    Meets (fiidObjSetData obj field data) (fun r => obj.SameTemplate r.1) (· ≠ .assertion) :=
  (lookupFieldIndex_ordinary obj field).bind fun _ _ =>
    (fieldStart_ordinary obj field).bind fun _ _ =>
      Meets.ite (fun _ => Meets.error (by decide)) fun _ =>
        (maxFieldLen_ordinary obj field).bind fun _ _ =>
          Meets.ite (fun _ => Meets.error (by decide)) fun _ => Meets.ok (map_toField_modify _ _ _)

/-- `fiid_obj_get_data` copies no more than the buffer takes. -/
theorem getData_length (obj : FiidObj) (field : String) (dataLen : ℕ) :
    Meets (fiidObjGetData obj field dataLen) (fun b => b.length ≤ dataLen) (· ≠ .assertion) := by
  refine (lookupFieldIndex_ordinary obj field).bind fun i _ => ?_
  have hset : Meets (fiidObjSetFieldLen obj i) (fun _ => True) (· ≠ .assertion) := by
    rw [fiidObjSetFieldLen]
    split
    · exact Meets.error (by decide)
    · exact Meets.ok trivial
  refine hset.bind fun _ _ => Meets.ite (fun _ => Meets.ok (Nat.zero_le _)) fun _ => ?_
  refine (fieldStart_ordinary obj field).bind fun _ _ => ?_
  refine Meets.ite (fun _ => Meets.error (by decide)) fun _ => ?_
  refine (maxFieldLen_ordinary obj field).bind fun _ _ => ?_
  refine Meets.ite (fun _ => Meets.error (by decide)) fun _ => ?_
  refine Meets.ite (fun _ => Meets.error (by decide)) fun hroom => Meets.ok ?_
  exact (List.length_take_le _ _).trans (Nat.not_lt.mp hroom)

/-- `fiid_obj_get_data` copies no more than the field. -/
theorem getData_le {obj : FiidObj} {field : String} {dataLen len : ℕ} {b : List Byte}
    (hlen : fiidObjMaxFieldLen obj field = .ok len) (h : fiidObjGetData obj field dataLen = .ok b) :
    b.length ≤ bitsRoundBytes len := by
  rw [fiidObjGetData] at h
  obtain ⟨_, -, h⟩ := bind_eq_ok.mp h
  obtain ⟨setFieldLen, -, h⟩ := bind_eq_ok.mp h
  split at h
  · cases h
    exact Nat.zero_le _
  obtain ⟨_, -, h⟩ := bind_eq_ok.mp h
  split at h
  · cases h
  rw [hlen, ok_bind] at h
  have hmin : (if setFieldLen < len then setFieldLen else len) ≤ len := by
    split_ifs <;> omega
  dsimp only at h
  generalize (if setFieldLen < len then setFieldLen else len) = bitsLen at h hmin
  split at h
  · cases h
  rename_i hal
  split at h
  · cases h
  cases h
  refine (List.length_take_le _ _).trans ?_
  rw [bitsRoundBytes_of_aligned (not_not.mp hal), bitsRoundBytes]
  omega

end FreeIpmi.Fiid
