import FreeIpmi.Fiid.Front

/-! Fields that lie within one byte.

    The records of an SDR are cut into fields none of which crosses a byte boundary, unless it is
    made of whole bytes. An object with such a template takes any number of bytes, and a getter
    returns a part of one of the bytes it was filled from, or finds that the data has ended. -/

namespace FreeIpmi.Fiid
open ByteBits Calls

/-- Every field ends on a byte boundary or within the byte in which it starts. -/
def ByteFields (fields : List FiidField) : Prop :=
  ∀ i < fields.length, bitLen (fields.take (i + 1)) % 8 = 0 ∨
    (i ≠ 0 ∧ bitLen (fields.take (i + 1)) ≤ 8 * (bitLen (fields.take i) / 8) + 8)

instance (fields : List FiidField) : Decidable (ByteFields fields) :=
  inferInstanceAs (Decidable (∀ i < fields.length, _))

theorem ByteFields.endsByteAligned {fields : List FiidField} (h : ByteFields fields) (n : ℕ) :
    EndsByteAligned fields n := by
  intro i hi hstart hend
  rcases h i hi with hmod | ⟨hne, hbyte⟩
  · exact hmod
  · rcases hstart with rfl | hlt
    · exact absurd rfl hne
    · omega

/-- Where a field lies that does not cross a byte boundary: its first bit, and how long it is. -/
def bytePlace (fields : List FiidField) (field : String) : Option (ℕ × ℕ) := do
  let i ← fields.findIdx? (fun f => f.key = field)
  let f ← fields[i]?
  let start := bitLen (fields.take i)
  if start % 8 + f.maxFieldLen ≤ 8 then some (start, f.maxFieldLen) else none

/-- Where a field of whole bytes lies, and how long it is. -/
def wholePlace (fields : List FiidField) (field : String) : Option (ℕ × ℕ) := do
  let i ← fields.findIdx? (fun f => f.key = field)
  let f ← fields[i]?
  let start := bitLen (fields.take i)
  if start % 8 = 0 ∧ f.maxFieldLen % 8 = 0 then some (start / 8, f.maxFieldLen / 8) else none

/-- The `len` bits of a byte from bit `lo` on. -/
def bitField (x : Byte) (lo len : ℕ) : Byte := BitVec.ofNat 8 (x.toNat / 2 ^ lo % 2 ^ len)

theorem bitField_full (x : Byte) : bitField x 0 8 = x := by
  have hx := x.isLt
  apply BitVec.eq_of_toNat_eq
  rw [bitField, BitVec.toNat_ofNat, pow_zero, Nat.div_one]
  omega

theorem toNat_bitField (x : Byte) {lo len : ℕ} (hlen : len ≤ 8) :
    (bitField x lo len).toNat = x.toNat / 2 ^ lo % 2 ^ len := by
  have hpow : 2 ^ len ≤ 2 ^ 8 := Nat.pow_le_pow_right (by norm_num) hlen
  have hlt := Nat.mod_lt (x.toNat / 2 ^ lo) (Nat.two_pow_pos len)
  rw [bitField, BitVec.toNat_ofNat, Nat.mod_eq_of_lt (by omega)]

theorem bitField_lt (x : Byte) {lo len : ℕ} (hlen : len ≤ 8) : (bitField x lo len).toNat < 2 ^ len := by
  rw [toNat_bitField x hlen]
  exact Nat.mod_lt _ (Nat.two_pow_pos len)

theorem getLsbD_bitField (x : Byte) (lo len j : ℕ) :
    (bitField x lo len).getLsbD j = (decide (j < 8) && decide (j < len) && x.getLsbD (lo + j)) := by
  rw [bitField, BitVec.getLsbD_ofNat, Nat.testBit_mod_two_pow, Nat.testBit_div_two_pow, Bool.and_assoc,
    Nat.add_comm]
  rfl

/-- The bits of a field within a byte. -/
theorem valueAt_bitField {b : List Byte} {start len : ℕ} {x : Byte} (hx : b[start / 8]? = some x)
    (hbyte : start % 8 + len ≤ 8) :
    valueAt b start len = (bitField x (start % 8) len).setWidth 64 := by
  refine BitVec.eq_of_getLsbD_eq fun j hj => ?_
  rw [getLsbD_valueAt _ _ _ (by omega), BitVec.getLsbD_setWidth, getLsbD_bitField, bit_eq_getElem?]
  by_cases hlt : j < len
  · have hdiv : (start + j) / 8 = start / 8 := by omega
    have hmod : (start + j) % 8 = start % 8 + j := by omega
    have h8 : j < 8 := by omega
    simp [hlt, hdiv, hmod, hx, hj, h8]
  · simp [hlt]

theorem sum_take_frontLens : ∀ (n : ℕ) (ms : List ℕ) (i : ℕ),
    ((frontLens n ms).take i).sum = min n (ms.take i).sum
  | n, [], i => by simp [frontLens]
  | n, m :: ms, 0 => by simp
  | n, m :: ms, i + 1 => by
    rw [frontLens, List.take_succ_cons, List.sum_cons, sum_take_frontLens (n - m) ms i,
      List.take_succ_cons, List.sum_cons]
    omega

section Read
variable {fields : List FiidField} {obj obj' : FiidObj} {d : List Byte} {n : ℕ} {field : String}
  {start len : ℕ}

/-- What is known of a field's place in the template. -/
theorem bytePlace_eq_some (hplace : bytePlace fields field = some (start, len)) :
    ∃ i f, fields.findIdx? (fun f => f.key = field) = some i ∧ fields[i]? = some f ∧
      bitLen (fields.take i) = start ∧ f.maxFieldLen = len ∧ start % 8 + len ≤ 8 := by
  simp only [bytePlace, Option.bind_eq_bind, Option.bind_eq_some_iff] at hplace
  obtain ⟨i, hi, f, hf, hplace⟩ := hplace
  split at hplace
  · rename_i hbyte
    cases hplace
    exact ⟨i, f, hi, hf, rfl, rfl, hbyte⟩
  · cases hplace

theorem bitLen_take_succ {i : ℕ} {f : FiidField} (hf : fields[i]? = some f) :
    bitLen (fields.take (i + 1)) = bitLen (fields.take i) + f.maxFieldLen := by
  rw [List.take_add_one, hf]
  simp [bitLen]

theorem bitLen_take_le (fields : List FiidField) (i : ℕ) : bitLen (fields.take i) ≤ bitLen fields := by
  calc bitLen (fields.take i) ≤ bitLen (fields.take i) + bitLen (fields.drop i) := Nat.le_add_right _ _
    _ = bitLen fields := by
      rw [bitLen, bitLen, bitLen, ← List.sum_append, ← List.map_append, List.take_append_drop]

/-- What the object holds: the bytes it took, in fields that are filled from the front. -/
theorem Filled.holds (h : Filled fields obj obj' d n) (hof : obj.Of fields) (hunset : obj.Unset) :
    obj'.Holds (frontLens (8 * n) (fields.map (·.maxFieldLen))) (d.take n) := by
  have hlen := h.len
  have hholds := holds_of_window (p := d) (o := 0) (m := n) (setAll_lens hof hunset h.call) (by omega)
    (by rw [h.bits, Nat.mul_zero])
  rwa [List.drop_zero] at hholds

/-- It can be read out. -/
theorem Filled.reads (h : Filled fields obj obj' d n) (hof : obj.Of fields) (hunset : obj.Unset) :
    obj'.Reads (d.take n) := by
  have hn := h.len
  have htake : (d.take n).length = n := by
    rw [List.length_take]
    omega
  refine ⟨(h.holds hof hunset).lenBytes, fun dataLen hroom => ?_⟩
  rw [htake] at hroom ⊢
  exact getAll_of_setAll hof hunset h.call hroom

/-- `FIID_OBJ_GET` of a field within a byte. -/
theorem Filled.getStrict (h : Filled fields obj obj' d n) (hof : obj.Of fields) (hunset : obj.Unset)
    (hplace : bytePlace fields field = some (start, len)) :
    fiidObjGetStrict obj' field = match d[start / 8]? with
      | none => .error (.fiid .dataNotAvailable)
      | some x => .ok ((bitField x (start % 8) len).setWidth 64) := by
  obtain ⟨i, f, hi, hf, hstart, hmax, hbyte⟩ := bytePlace_eq_some hplace
  have hholds := h.holds hof hunset
  have hpos := f.maxFieldLen_pos
  have hfits : start + len ≤ bitLen fields := by
    rw [← hstart, ← hmax, ← bitLen_take_succ hf]
    exact bitLen_take_le fields (i + 1)
  have hlen := h.len
  have htake : ((fields.map (·.maxFieldLen)).take i).sum = start := by
    rw [← hstart, bitLen, List.map_take]
  have hlens : (frontLens (8 * n) (fields.map (·.maxFieldLen)))[i]? = some (min len (8 * n - start)) := by
    rw [getElem?_frontLens, List.getElem?_map, hf, htake, Option.map_some, Option.map_some, hmax]
  cases hx : d[start / 8]? with
  | none =>
    have hshort := List.getElem?_eq_none_iff.mp hx
    obtain ⟨g, hg, hset⟩ := fieldAt_of_lens h.of hholds.lens hi hlens
    have hzero : g.setFieldLen = 0 := by omega
    simp only [fiidObjGetStrict, fiidObjGet, hg.lookup, hg.setFieldLen, ok_bind, hzero, if_true]
    rfl
  | some x =>
    have hlt := (List.getElem?_eq_some_iff.mp hx).1
    have hin : start + len ≤ 8 * n := by omega
    have hvalue : valuePlace fields (frontLens (8 * n) (fields.map (·.maxFieldLen))) field
        = some (start, len) := by
      have hmin : min len (8 * n - start) = len := by omega
      have hsum : min (8 * n) start = start := by omega
      simp only [valuePlace, hi, hlens, hf, Option.bind_eq_bind, Option.bind_some, hmax, hmin,
        sum_take_frontLens, htake, hsum, hstart]
      rw [if_pos ⟨trivial, by omega, Or.inr hbyte⟩]
    rw [hholds.getStrict h.of hvalue]
    have htakex : (d.take n)[start / 8]? = some x := by
      rw [List.getElem?_take_of_lt (by omega), hx]
    rw [valueAt_bitField htakex hbyte]

/-- `fiid_obj_get_data` of a field of whole bytes: what the data has of it. -/
theorem Filled.getData (h : Filled fields obj obj' d n) (hof : obj.Of fields) (hunset : obj.Unset)
    {o m dataLen : ℕ} (hplace : wholePlace fields field = some (o, m)) (hdst : m ≤ dataLen) :
    fiidObjGetData obj' field dataLen = .ok ((d.drop o).take m) := by
  simp only [wholePlace, Option.bind_eq_bind, Option.bind_eq_some_iff] at hplace
  obtain ⟨i, hi, f, hf, hplace⟩ := hplace
  split at hplace
  · rename_i hal
    obtain ⟨hstart, hmax⟩ := hal
    cases hplace
    have hholds := h.holds hof hunset
    have hlen := h.len
    have hfits : bitLen (fields.take i) + f.maxFieldLen ≤ bitLen fields := by
      rw [← bitLen_take_succ hf]
      exact bitLen_take_le fields (i + 1)
    have htake : ((fields.map (·.maxFieldLen)).take i).sum = bitLen (fields.take i) := by
      rw [bitLen, List.map_take]
    have hplace : dataPlace fields (frontLens (8 * n) (fields.map (·.maxFieldLen))) field
        = some (min n (bitLen (fields.take i) / 8),
          min (f.maxFieldLen / 8) (n - bitLen (fields.take i) / 8)) := by
      simp only [dataPlace, hi, Option.bind_eq_bind, Option.bind_some, getElem?_frontLens,
        List.getElem?_map, hf, Option.map_some, sum_take_frontLens, htake]
      rw [if_pos (by omega)]
      congr 1
      rw [Prod.mk.injEq]
      omega
    rw [hholds.getData h.of hplace (by omega)]
    congr 1
    rcases Nat.lt_or_ge n d.length with hpart | hall
    · rw [List.drop_take, List.take_take]
      have hmin : min n (bitLen (fields.take i) / 8) = bitLen (fields.take i) / 8 := by omega
      rw [hmin]
      congr 1
      omega
    · -- all of the data was taken: what lies behind its end is missing on both sides
      have hn : n = d.length := by omega
      rw [hn, List.take_length, Nat.min_comm d.length, ← List.drop_eq_drop_min, ← List.length_drop,
        ← List.take_eq_take_min]
  · cases hplace

/-! ### Whole fields -/

/-- `fiid_obj_set_data` on a field of whole bytes succeeds, and changes the length of that field only. -/
theorem setData_whole (hof : obj.Of fields) {o m : ℕ}
    (hplace : wholePlace fields field = some (o, m)) (d : List Byte) :
    ∃ obj' i, fiidObjSetData obj field d = .ok (obj', min d.length m) ∧ obj'.Of fields ∧
      fields.findIdx? (fun f => f.key = field) = some i ∧
        obj'.lens = obj.lens.set i (8 * min d.length m) := by
  simp only [wholePlace, Option.bind_eq_bind, Option.bind_eq_some_iff] at hplace
  obtain ⟨i, hi, f, hf, hplace⟩ := hplace
  split at hplace
  · rename_i hal
    obtain ⟨hstart, hlen⟩ := hal
    cases hplace
    obtain ⟨g, hg⟩ := fieldAt_of_tmpl hof hi
    have hmax : g.maxFieldLen = f.maxFieldLen := by
      have hentry := (getElem?_toField hof hg.entry).symm.trans hf
      exact congrArg FiidField.maxFieldLen (Option.some.inj hentry)
    have hcall := setData_eq (d := d) hg (by rw [bitStart_eq hof]; exact hstart) (by rw [hmax]; exact hlen)
      rfl
    rw [hmax] at hcall
    exact ⟨_, i, hcall, (touched_setData hof hcall).of hof, hi, setData_lens hg hcall⟩
  · cases hplace

/-- A complete field of an object of whole bytes can be read. -/
theorem getStrict_returns (hof : obj.Of fields) (hbytes : obj.lens.sum % 8 = 0)
    (hplace : valuePlace fields obj.lens field = some (start, len)) :
    ∃ val, fiidObjGetStrict obj field = .ok val := by
  have hlength : obj.setBits.length = obj.lens.sum := by
    rw [FiidObj.setBits, length_cellBits, setLen_eq_sum]
    rfl
  have hholds : obj.Holds obj.lens (pack obj.setBits) := by
    have hmul : 8 * (pack obj.setBits).length = obj.setBits.length := by
      rw [length_pack]
      omega
    exact ⟨rfl, by rw [hmul, window_pack (by omega)]⟩
  exact ⟨_, hholds.getStrict hof hplace⟩

end Read

end FreeIpmi.Fiid
