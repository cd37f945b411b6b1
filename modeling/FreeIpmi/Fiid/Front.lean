import FreeIpmi.Fiid.Contents

/-! Objects whose set fields are a prefix of the template.

    `fiid_obj_set_all` fills fields from the front: every field is complete up to the one in which
    the data ends (`frontLens`). An object that is filled in this way, by whatever calls, can be read
    out and filled again from its bytes (`FrontFilled.setAll`). -/

namespace FreeIpmi.Fiid
open ByteBits Calls

/-- The lengths when `n` bits fill fields of the given maximum lengths from the front. -/
def frontLens : ℕ → List ℕ → List ℕ
  | _, [] => []
  | n, m :: ms => min m n :: frontLens (n - m) ms

theorem getElem?_frontLens : ∀ (n : ℕ) (ms : List ℕ) (i : ℕ),
    (frontLens n ms)[i]? = ms[i]?.map fun m => min m (n - (ms.take i).sum)
  | _, [], i => by simp [frontLens]
  | n, m :: ms, 0 => by simp [frontLens]
  | n, m :: ms, i + 1 => by
    rw [frontLens, List.getElem?_cons_succ, getElem?_frontLens (n - m) ms i, List.getElem?_cons_succ,
      List.take_succ_cons, List.sum_cons, Nat.sub_sub]

theorem frontLens_zero : ∀ ms : List ℕ, frontLens 0 ms = ms.map fun _ => 0
  | [] => rfl
  | m :: ms => by rw [frontLens, Nat.zero_sub, frontLens_zero ms, Nat.min_zero, List.map_cons]

/-- Marking gives the lengths of a prefix. -/
theorem markSet_lens {d : ℕ} : ∀ {n bits : ℕ} {fields : List FiidFieldData},
    (∀ f ∈ fields, f.setFieldLen = 0) → EndsFrom bits fields d n →
    (markSet d n bits fields).map (·.setFieldLen) = frontLens (d - bits) (fields.map (·.maxFieldLen))
  | _, _, [], _, _ => by simp [markSet, frontLens]
  | 0, bits, f :: fs, hunset, hend => by
    obtain ⟨-, hle, hlast⟩ := hend.last
    have hrest : fs.map (·.setFieldLen) = (fs.map (·.maxFieldLen)).map fun _ => 0 := by
      rw [List.map_map]
      exact List.map_congr_left fun g hg => hunset g (List.mem_cons_of_mem f hg)
    have hzero : d - bits - f.maxFieldLen = 0 := by omega
    rw [markSet, List.map_cons, List.map_cons, frontLens, hzero, frontLens_zero, hrest, hlast]
    have hmin : min f.maxFieldLen (d - bits) = d - bits := by omega
    rw [hmin]
  | n + 1, bits, f :: fs, hunset, hend => by
    have htail := markSet_lens (fun g hg => hunset g (List.mem_cons_of_mem f hg)) hend.tail
    have hle : bits + f.maxFieldLen ≤ d := by
      rcases hend with ⟨-, h1, -⟩ | ⟨-, h1⟩
      · simp only [List.take_succ_cons, maxLen_cons] at h1
        omega
      · simp only [maxLen_cons] at h1
        omega
    rw [markSet, List.map_cons, htail, List.map_cons, frontLens, Nat.sub_sub]
    have hmin : min f.maxFieldLen (d - bits) = f.maxFieldLen := by omega
    rw [hmin]

section Front
variable {tmpl : FiidTemplate} {fields : List FiidField} {obj obj' : FiidObj} {d : List Byte} {n : ℕ}

/-- `fiid_obj_set_all` on an object without set fields fills it from the front. -/
theorem setAll_lens (hof : obj.Of fields) (hunset : obj.Unset)
    (h : fiidObjSetAll obj d = (.ok n, obj')) :
    obj'.lens = frontLens (8 * n) (fields.map (·.maxFieldLen)) := by
  obtain ⟨-, last, hlast, rfl⟩ := setAll_ok hof.data h
  have hmax : obj.fields.map (·.maxFieldLen) = fields.map (·.maxFieldLen) := hof.map_maxFieldLen
  rw [← hmax, Nat.mul_comm 8 n]
  exact markSet_lens hunset hlast.from

/-- The object can be read out, and holds these bytes. -/
structure FiidObj.Reads (obj : FiidObj) (b : List Byte) : Prop where
  lenBytes : fiidObjLenBytes obj = .ok b.length
  getAll : ∀ dataLen, b.length ≤ dataLen →
    fiidObjGetAll obj dataLen = .ok (b.length, b ++ List.replicate (dataLen - b.length) 0)

/-- A buffer that is too short is reported. -/
theorem FiidObj.Reads.overflow {b : List Byte} {dataLen : ℕ} (h : obj.Reads b)
    (hlong : dataLen < b.length) : fiidObjGetAll obj dataLen = .error (.fiid .overflow) := by
  have hlen : bitsRoundBytes (fiidObjLen obj) = b.length := by
    have hbytes := h.lenBytes
    rw [fiidObjLenBytes, bytesOfSetBits] at hbytes
    split at hbytes
    · cases hbytes
    · exact Except.ok.inj hbytes
  simp only [fiidObjGetAll, getAll_bytesLen]
  rw [hlen, if_pos hlong]

theorem FiidObj.Holds.le_bitLen {lens : List ℕ} {b : List Byte} (h : obj.Holds lens b)
    (hof : obj.Of fields) : 8 * b.length ≤ bitLen fields := by
  have hle := setLen_le_maxLen fun f hf => hof.le_of_mem (f := f) hf
  have hmax : maxLen obj.fields = bitLen fields := by rw [← hof.data, hof.dataLen]
  have hset := h.setLen
  omega

/-- Set bits that fill whole bytes. -/
theorem holds_pack (hmod : setLen obj.fields % 8 = 0) : obj.Holds obj.lens (pack obj.setBits) := by
  have hlength : obj.setBits.length = setLen obj.fields := length_cellBits _ _
  have hpack := @window_pack obj.setBits (by rw [hlength]; exact hmod)
  refine ⟨rfl, ?_⟩
  rw [length_pack, Nat.mul_div_cancel' (Nat.dvd_of_mod_eq_zero (by rw [hlength]; exact hmod)), hpack]

/-- A valid packet can be read out. -/
theorem reads_of_packetValid (hwf : obj.Wf tmpl) (hpart : obj.PartAligned)
    (hvalid : fiidObjPacketValid obj = true) :
    ∃ b, obj.Reads b ∧ obj.Holds obj.lens b := by
  obtain ⟨m, hal, hset⟩ := align_of_packetValid hvalid
  have hfit := cellsFit_of_partAligned hwf hpart
  have hroom : setLen obj.fields ≤ 8 * setLen obj.fields := by omega
  obtain ⟨hmod, hlen, -⟩ := getAll_ok hwf hal hset hfit hroom
  have hholds := holds_pack hmod
  refine ⟨pack obj.setBits, ⟨hholds.lenBytes, fun dataLen hdst => ?_⟩, hholds⟩
  rw [hlen]
  exact (getAll_ok hwf hal hset hfit (by omega)).2.2

/-- All set fields but the last are complete, and the last one, which may be set in part, ends on a
    byte boundary. -/
structure FrontFilled (fields : List FiidField) (obj : FiidObj) : Prop where
  lens : obj.lens = frontLens (fiidObjLen obj) (fields.map (·.maxFieldLen))
  ends : EndsByteAligned fields (fiidObjLen obj / 8)

theorem FrontFilled.partAligned (h : FrontFilled fields obj) (hof : obj.Of fields)
    (hmod : fiidObjLen obj % 8 = 0) : obj.PartAligned := by
  intro i f hf hpos hlt
  have hfield := getElem?_toField hof hf
  have hbits : (fields.map (·.maxFieldLen)).take i = (fields.take i).map (·.maxFieldLen) := by
    rw [List.map_take]
  have hlen : f.setFieldLen = min f.maxFieldLen (fiidObjLen obj - bitLen (fields.take i)) := by
    have hget := congrArg (fun l => l[i]?) h.lens
    simp only [FiidObj.lens, List.getElem?_map, hf, Option.map_some, getElem?_frontLens, hfield,
      Option.some.injEq, hbits] at hget
    exact hget
  have hsucc : bitLen (fields.take (i + 1)) = bitLen (fields.take i) + f.maxFieldLen := by
    have hsum := maxLen_take_succ hf
    rw [hof.maxLen_take, hof.maxLen_take] at hsum
    exact hsum
  have hi : i < fields.length := (List.getElem?_eq_some_iff.mp hfield).1
  have hal := h.ends i hi (Or.inr (by omega)) (by omega)
  rw [bitStart_eq hof]
  exact hal

/-- A valid object that is filled from the front is filled again from its bytes: the fields get the
    same lengths and the same bits. -/
theorem FrontFilled.setAll {obj₀ : FiidObj} {b : List Byte} (h : FrontFilled fields obj)
    (hof : obj.Of fields) (hholds : obj.Holds obj.lens b) (hof₀ : obj₀.Of fields) (hunset : obj₀.Unset) :
    ∃ obj', fiidObjSetAll obj₀ b = (.ok b.length, obj') ∧ obj'.lens = obj.lens ∧
      obj'.setBits = obj.setBits := by
  have hlen : fiidObjLen obj = 8 * b.length := hholds.setLen
  have hends := h.ends
  rw [hlen, Nat.mul_div_cancel_left _ (by norm_num)] at hends
  obtain ⟨n, obj', hcall⟩ := (setAll_ok_iff hof₀).mpr hends
  obtain ⟨hbits, hn⟩ := setAll_appends hof₀ hunset hcall
  have hfits : b.length ≤ obj₀.data.length := by
    have hle := hholds.le_bitLen hof
    have hdata := hof₀.dataLen
    omega
  have hfull : n = b.length := by omega
  subst hfull
  refine ⟨obj', hcall, ?_, by rw [hbits, hholds.bits]⟩
  rw [setAll_lens hof₀ hunset hcall, h.lens, hlen]

end Front

end FreeIpmi.Fiid
