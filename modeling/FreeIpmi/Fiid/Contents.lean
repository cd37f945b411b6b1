import FreeIpmi.Fiid.Append
import FreeIpmi.Fiid.SetGet

/-! What an object holds, and what the getters read of it.

    When the set lengths of all fields are known, the set bits say everything that can be read from
    an object. `FiidObj.Holds` gives the lengths and the set bits as bytes; where a field or a block
    then lies in these bytes is computed from the template (`dataPlace`, `blockPlace`), and the
    getters return that part of them. -/

namespace FreeIpmi.Fiid
open ByteBits Calls

/-- The lengths that are set, and the set bits as bytes. -/
structure FiidObj.Holds (obj : FiidObj) (lens : List ℕ) (b : List Byte) : Prop where
  lens : obj.lens = lens
  bits : obj.setBits = window b 0 (8 * b.length)

/-- Where in the set bytes a field of whole bytes lies, and how long it is. -/
def dataPlace (fields : List FiidField) (lens : List ℕ) (field : String) : Option (ℕ × ℕ) := do
  let i ← fields.findIdx? (fun f => f.key = field)
  let len ← lens[i]?
  let offset := (lens.take i).sum
  if bitLen (fields.take i) % 8 = 0 ∧ len % 8 = 0 ∧ offset % 8 = 0 then some (offset / 8, len / 8)
  else none

/-- Where in the set bytes a block of complete fields lies, and how long it is. -/
def blockPlace (fields : List FiidField) (lens : List ℕ) (fieldStart fieldEnd : String) :
    Option (ℕ × ℕ) := do
  let first ← fields.findIdx? (fun f => f.key = fieldStart)
  let last ← fields.findIdx? (fun f => f.key = fieldEnd)
  let offset := (lens.take first).sum
  let block := (lens.drop first).take (last + 1 - first)
  if first ≤ last ∧ bitLen (fields.take first) % 8 = 0 ∧ bitLen (fields.take (last + 1)) % 8 = 0 ∧
      offset % 8 = 0 ∧ block = ((fields.drop first).take (last + 1 - first)).map (·.maxFieldLen) then
    some (offset / 8, block.sum / 8)
  else none

/-- Where in the set bits a complete field lies that the getters can read as a value. -/
def valuePlace (fields : List FiidField) (lens : List ℕ) (field : String) : Option (ℕ × ℕ) := do
  let i ← fields.findIdx? (fun f => f.key = field)
  let len ← lens[i]?
  let f ← fields[i]?
  let start := bitLen (fields.take i) % 8
  if f.maxFieldLen = len ∧ len ≤ 64 ∧ (start = 0 ∨ start + len ≤ 8) then some ((lens.take i).sum, len)
  else none

/-- The bits of a byte string from bit `offset` on, as a value. -/
def valueAt (b : List Byte) (offset len : ℕ) : BitVec 64 :=
  (BitVec.ofBoolListLE (window b offset len)).setWidth 64

/-! ### Windows of windows -/

theorem window_drop (b : List Byte) (lo m n : ℕ) : (window b lo n).drop m = window b (lo + m) (n - m) := by
  rcases Nat.le_total m n with hle | hge
  · obtain ⟨k, rfl⟩ := Nat.exists_eq_add_of_le hle
    rw [window_add, List.drop_append_of_le_length (by simp), List.drop_eq_nil_of_le (by simp),
      List.nil_append, Nat.add_sub_cancel_left]
  · rw [List.drop_eq_nil_of_le (by simpa using hge), Nat.sub_eq_zero_of_le hge, window_zero]

theorem window_take {m n : ℕ} (b : List Byte) (lo : ℕ) (h : m ≤ n) :
    (window b lo n).take m = window b lo m := by
  obtain ⟨k, rfl⟩ := Nat.exists_eq_add_of_le h
  rw [window_add, List.take_append_of_le_length (by simp), List.take_of_length_le (by simp)]

theorem pack_window_slice {b : List Byte} {o m : ℕ} (h : o + m ≤ b.length) :
    pack (window b (8 * o) (8 * m)) = (b.drop o).take m := by
  have hlen : ((b.drop o).take m).length = m := by
    rw [List.length_take, List.length_drop]
    omega
  have := pack_window ((b.drop o).take m)
  rwa [hlen, window_drop_take] at this

section Holds
variable {tmpl : FiidTemplate} {fields : List FiidField} {obj : FiidObj} {lens : List ℕ} {b : List Byte}

theorem setLen_eq_sum (fields : List FiidFieldData) :
    setLen fields = (fields.map (·.setFieldLen)).sum := rfl

theorem FiidObj.Holds.setLen (h : obj.Holds lens b) : setLen obj.fields = 8 * b.length := by
  rw [← length_cellBits, ← FiidObj.setBits, h.bits, length_window]

theorem FiidObj.Holds.sum (h : obj.Holds lens b) : lens.sum = 8 * b.length := by
  rw [← h.setLen, setLen_eq_sum, ← h.lens]
  rfl

/-- The set bits of consecutive fields are consecutive in the set bits of the object. -/
theorem FiidObj.Holds.segment (h : obj.Holds lens b) (i k : ℕ) :
    cellBits obj.data (obj.bitStart i) (((obj.fields.drop i).take k).map FiidFieldData.toCell)
      = window b (lens.take i).sum ((lens.drop i).take k).sum ∧
    (lens.take i).sum + ((lens.drop i).take k).sum ≤ 8 * b.length := by
  have hpre : Fiid.setLen (obj.fields.take i) = (lens.take i).sum := by
    rw [setLen_eq_sum, List.map_take, ← h.lens]
    rfl
  have hmid : Fiid.setLen ((obj.fields.drop i).take k) = ((lens.drop i).take k).sum := by
    rw [setLen_eq_sum, List.map_take, List.map_drop, ← h.lens]
    rfl
  have hlen := h.setLen
  have hsplit : obj.fields = obj.fields.take i ++ ((obj.fields.drop i).take k ++
      (obj.fields.drop i).drop k) := by
    rw [List.take_append_drop, List.take_append_drop]
  have hsum : (lens.take i).sum + ((lens.drop i).take k).sum ≤ 8 * b.length := by
    rw [hsplit, setLen_append, setLen_append, hpre, hmid] at hlen
    omega
  refine ⟨?_, hsum⟩
  have hbits := h.bits
  rw [FiidObj.setBits, hsplit, List.map_append, List.map_append, cellBits_append, cellBits_append,
    cellsMaxLen_map, Nat.zero_add] at hbits
  have hdrop := congrArg (fun l => (l.drop (lens.take i).sum).take ((lens.drop i).take k).sum) hbits
  rw [List.drop_left' ((length_cellBits _ _).trans hpre),
    List.take_left' ((length_cellBits _ _).trans hmid), window_drop, Nat.zero_add,
    window_take b _ (by omega)] at hdrop
  exact hdrop

/-- The set bits of one field. -/
theorem FiidObj.Holds.field (h : obj.Holds lens b) {i len : ℕ} (hlen : lens[i]? = some len) :
    window obj.data (obj.bitStart i) len = window b (lens.take i).sum len ∧
      (lens.take i).sum + len ≤ 8 * b.length := by
  have hseg := h.segment i 1
  have hi : i < obj.fields.length := by
    have := (List.getElem?_eq_some_iff.mp hlen).1
    rwa [← h.lens, FiidObj.lens, List.length_map] at this
  have hf : obj.fields[i].setFieldLen = len := by
    rw [← h.lens, FiidObj.lens, List.getElem?_map, List.getElem?_eq_getElem hi] at hlen
    exact Option.some.inj hlen
  have hone : ((lens.drop i).take 1).sum = len := by
    rw [List.take_one, List.head?_drop, hlen]
    simp
  rw [hone, List.take_one, List.head?_drop, List.getElem?_eq_getElem hi] at hseg
  simp only [Option.toList_some, List.map_cons, List.map_nil, cellBits, List.append_nil,
    FiidFieldData.toCell, hf] at hseg
  exact hseg

/-- A name and its position in the template. -/
theorem fieldAt_of_tmpl (hwf : obj.Of fields) {field : String} {i : ℕ}
    (hi : fields.findIdx? (fun f => f.key = field) = some i) : ∃ f, FieldAt obj field i f := by
  have hidx : obj.fields.findIdx? (fun f => f.key = field) = some i := by
    rw [← hi, ← show obj.fields.map FiidFieldData.toField = fields from hwf.fields, List.findIdx?_map]
    rfl
  obtain ⟨hlt, -⟩ := List.findIdx?_eq_some_iff_findIdx_eq.mp hidx
  exact ⟨_, hidx, List.getElem?_eq_getElem hlt⟩

theorem fieldAt_of_lens (hwf : obj.Of fields) (hlens : obj.lens = lens) {field : String} {i len : ℕ}
    (hi : fields.findIdx? (fun f => f.key = field) = some i) (hlen : lens[i]? = some len) :
    ∃ f, FieldAt obj field i f ∧ f.setFieldLen = len := by
  obtain ⟨f, hf⟩ := fieldAt_of_tmpl hwf hi
  rw [← hlens, FiidObj.lens, List.getElem?_map, hf.entry] at hlen
  exact ⟨f, hf, Option.some.inj hlen⟩

/-! ### The getters -/

/-- `fiid_obj_get_data` returns the bytes of the field. -/
theorem FiidObj.Holds.getData (h : obj.Holds lens b) (hwf : obj.Of fields) {field : String} {o m : ℕ}
    (hplace : dataPlace fields lens field = some (o, m)) {dataLen : ℕ} (hdst : m ≤ dataLen) :
    fiidObjGetData obj field dataLen = .ok ((b.drop o).take m) := by
  simp only [dataPlace, Option.bind_eq_bind, Option.bind_eq_some_iff] at hplace
  obtain ⟨i, hi, len, hlen, hplace⟩ := hplace
  split at hplace
  · rename_i hal
    obtain ⟨hs, hl, ho⟩ := hal
    cases hplace
    obtain ⟨f, hf, hset⟩ := fieldAt_of_lens hwf h.lens hi hlen
    obtain ⟨hbits, hle⟩ := h.field hlen
    have hstart : obj.bitStart i % 8 = 0 := by rw [bitStart_eq hwf]; exact hs
    have hfle := hwf.le i f hf.entry
    subst hset
    have hmin : (if f.setFieldLen < f.maxFieldLen then f.setFieldLen else f.maxFieldLen)
        = f.setFieldLen := by
      split_ifs <;> omega
    simp only [fiidObjGetData, hf.lookup, hf.setFieldLen, hf.start, hf.maxFieldLen, ok_bind, hmin]
    by_cases hzero : f.setFieldLen = 0
    · rw [if_pos hzero, hzero]
      simp [pure, Except.pure]
    · rw [if_neg hzero, if_neg (by omega), if_neg (by omega), bitsRoundBytes_of_aligned hl,
        bitsRoundBytes_of_aligned hstart, if_neg (by omega)]
      have hfit := bitStart_le hwf hf
      have hsrc : pack (window obj.data (8 * (obj.bitStart i / 8)) (8 * (f.setFieldLen / 8)))
          = (obj.data.drop (obj.bitStart i / 8)).take (f.setFieldLen / 8) := pack_window_slice (by omega)
      have hdst : pack (window b (8 * ((lens.take i).sum / 8)) (8 * (f.setFieldLen / 8)))
          = (b.drop ((lens.take i).sum / 8)).take (f.setFieldLen / 8) := pack_window_slice (by omega)
      rw [Nat.mul_div_cancel' (Nat.dvd_of_mod_eq_zero hstart),
        Nat.mul_div_cancel' (Nat.dvd_of_mod_eq_zero hl), hbits] at hsrc
      rw [Nat.mul_div_cancel' (Nat.dvd_of_mod_eq_zero ho),
        Nat.mul_div_cancel' (Nat.dvd_of_mod_eq_zero hl)] at hdst
      rw [← hsrc, ← hdst]
      rfl
  · cases hplace

/-- `fiid_obj_get_block` returns the bytes of a block of complete fields. -/
theorem FiidObj.Holds.getBlock (h : obj.Holds lens b) (hwf : obj.Of fields) {fieldStart fieldEnd : String}
    {o m : ℕ} (hplace : blockPlace fields lens fieldStart fieldEnd = some (o, m)) {dataLen : ℕ}
    (hdst : m ≤ dataLen) : fiidObjGetBlock obj fieldStart fieldEnd dataLen
      = .ok (m, (b.drop o).take m ++ List.replicate (dataLen - m) 0) := by
  simp only [blockPlace, Option.bind_eq_bind, Option.bind_eq_some_iff] at hplace
  obtain ⟨first, hfirst, last, hlast, hplace⟩ := hplace
  split at hplace
  · rename_i hal
    obtain ⟨hord, hs, he, ho, hfull⟩ := hal
    cases hplace
    have hb : BlockAt obj fieldStart fieldEnd first last :=
      ⟨fieldAt_of_tmpl hwf hfirst, fieldAt_of_tmpl hwf hlast, hord, by rw [bitStart_eq hwf]; exact hs,
        by rw [bitStart_eq hwf]; exact he⟩
    have hbits := hb.bits
    have hstart := hb.startAligned
    have hend := hb.endAligned
    obtain ⟨hseg, hle⟩ := h.segment first (last + 1 - first)
    have hset : Fiid.setLen (blockFields obj first last)
        = ((lens.drop first).take (last + 1 - first)).sum := by
      rw [setLen_eq_sum, blockFields, List.map_take, List.map_drop, ← h.lens]
      rfl
    have hmax : Fiid.setLen (blockFields obj first last) = maxLen (blockFields obj first last) := by
      rw [hset, hfull, maxLen, blockFields]
      simp only [List.map_take, List.map_drop, hwf.map_maxFieldLen]
    have hsrc : 8 * (obj.bitStart first / 8) + maxLen (blockFields obj first last)
        ≤ 8 * obj.data.length := by
      have : obj.bitStart (last + 1) ≤ 8 * obj.data.length := by
        rw [hwf.data]
        exact maxLen_take_le _ _
      omega
    have hmem : ∀ f ∈ blockFields obj first last, f.setFieldLen ≤ f.maxFieldLen := fun f hf =>
      hwf.le_of_mem (List.mem_of_mem_drop (List.mem_of_mem_take hf))
    have hmod : maxLen (blockFields obj first last) % 8 = 0 := by omega
    have hroom : Fiid.setLen (blockFields obj first last) ≤ 8 * dataLen := by omega
    obtain ⟨-, hcopy⟩ := memcpy_fields hmem hmax hmod hsrc hroom
    have hpack : pack (cellBits obj.data (8 * (obj.bitStart first / 8))
        ((blockFields obj first last).map FiidFieldData.toCell))
        = (b.drop ((lens.take first).sum / 8)).take
          (((lens.drop first).take (last + 1 - first)).sum / 8) := by
      have hslice := @pack_window_slice b ((lens.take first).sum / 8)
        (((lens.drop first).take (last + 1 - first)).sum / 8) (by omega)
      rw [Nat.mul_div_cancel' (Nat.dvd_of_mod_eq_zero ho),
        Nat.mul_div_cancel' (Nat.dvd_of_mod_eq_zero (by omega))] at hslice
      rw [Nat.mul_div_cancel' (Nat.dvd_of_mod_eq_zero hstart), ← hslice, ← hseg]
      rfl
    rw [hpack] at hcopy
    simp only [fiidObjGetBlock, hb.bounds, hb.blockLen, ok_bind, hmax,
      bitsRoundBytes_of_aligned hmod, bitsRoundBytes_of_aligned hstart]
    rw [hmax] at hset hcopy
    rw [if_neg (by omega), if_neg (by omega), if_pos trivial, hcopy, ← hset]
    rfl
  · cases hplace

theorem getLsbD_valueAt (offset len j : ℕ) (hlen : len ≤ 64) :
    (valueAt b offset len).getLsbD j = (decide (j < len) && bit b (offset + j)) := by
  rw [valueAt, BitVec.getLsbD_setWidth, BitVec.getLsbD_ofBoolListLE]
  by_cases hj : j < len
  · have h64 : j < 64 := by omega
    simp [window, hj, h64]
  · simp [window, hj]

/-- The byte at a byte boundary. -/
theorem valueAt_byte {o : ℕ} {x : Byte} (hx : b[o]? = some x) : valueAt b (8 * o) 8 = x.setWidth 64 := by
  refine BitVec.eq_of_getLsbD_eq fun j hj => ?_
  rw [getLsbD_valueAt _ _ _ (by norm_num), BitVec.getLsbD_setWidth, bit_eq_getElem?]
  by_cases hlt : j < 8
  · have hdiv : (8 * o + j) / 8 = o := by omega
    have hmod : (8 * o + j) % 8 = j := by omega
    simp [hlt, hdiv, hmod, hx, hj]
  · simp [hlt, BitVec.getLsbD_of_ge x j (by omega)]

/-- `FIID_OBJ_GET` returns the bits of the field. -/
theorem FiidObj.Holds.getStrict (h : obj.Holds lens b) (hwf : obj.Of fields) {field : String}
    {offset len : ℕ} (hplace : valuePlace fields lens field = some (offset, len)) :
    fiidObjGetStrict obj field = .ok (valueAt b offset len) := by
  simp only [valuePlace, Option.bind_eq_bind, Option.bind_eq_some_iff] at hplace
  obtain ⟨i, hi, len', hlen, g, hg, hplace⟩ := hplace
  split at hplace
  · rename_i hal
    obtain ⟨hmax, h64, hspan⟩ := hal
    cases hplace
    obtain ⟨f, hf, hset⟩ := fieldAt_of_lens hwf h.lens hi hlen
    have hfmax : f.maxFieldLen = len := by
      rw [getElem?_toField hwf hf.entry] at hg
      cases hg
      exact hmax
    obtain ⟨hbits, hle⟩ := h.field hlen
    have hpos := f.maxFieldLen_pos
    have hfit := bitStart_le hwf hf
    rw [← bitStart_eq hwf] at hspan
    have hover : ¬ SpanOver (obj.bitStart i % 8) len := by
      rintro ⟨h1, h2⟩
      omega
    have hlost : spanLost (obj.bitStart i % 8) len = 0 := by
      unfold spanLost
      omega
    obtain ⟨v, hv, hvbit⟩ := loadBits_spec (by omega) h64 (by rw [← hfmax]; exact hfit) hover
    have hmin : min (min f.maxFieldLen 64) f.setFieldLen = len := by omega
    have hval : v = valueAt b (lens.take i).sum len := by
      refine BitVec.eq_of_getLsbD_eq fun j _ => ?_
      rw [hvbit, getLsbD_valueAt _ _ _ h64, hlost, Nat.sub_zero]
      by_cases hj : j < len
      · have hget := congrArg (fun l => l[j]?) hbits
        simp only [window, List.getElem?_map, List.getElem?_range hj, Option.map_some,
          Option.some.injEq] at hget
        rw [hget]
      · simp [hj]
    simp only [fiidObjGetStrict, get_eq hf (by omega), hmin, hv, ok_bind]
    rw [hval]
    rfl
  · cases hplace

theorem FiidObj.Holds.lenBytes (h : obj.Holds lens b) : fiidObjLenBytes obj = .ok b.length := by
  rw [fiidObjLenBytes, fiidObjLen, h.setLen, bytesOfSetBits, if_neg (by omega), bitsRoundBytes_mul]

theorem FiidObj.Holds.pack_setBits (h : obj.Holds lens b) : pack obj.setBits = b := by
  rw [h.bits, pack_window]

/-- `fiid_obj_get_all` returns the bytes of an object that is set completely. -/
theorem FiidObj.Holds.getAll_full (h : obj.Holds lens b) (hwf : obj.Of fields)
    (hfull : lens = fields.map (·.maxFieldLen)) {dataLen : ℕ} (hdst : b.length ≤ dataLen) :
    fiidObjGetAll obj dataLen = .ok (b.length, b ++ List.replicate (dataLen - b.length) 0) := by
  have hset := h.setLen
  have hmax : Fiid.setLen obj.fields = maxLen obj.fields := by
    rw [setLen_eq_sum, maxLen, hwf.map_maxFieldLen, ← hfull, ← h.lens]
    rfl
  have hdata := hwf.data
  have hlen : obj.data.length = b.length := by omega
  have hsrc : 8 * 0 + maxLen obj.fields ≤ 8 * obj.data.length := by omega
  have hroom : Fiid.setLen obj.fields ≤ 8 * dataLen := by omega
  obtain ⟨-, hcopy⟩ := memcpy_fields (fun f hf => hwf.le_of_mem hf) hmax (by omega) hsrc hroom
  have hdiv : Fiid.setLen obj.fields / 8 = b.length := by omega
  have hbits : pack (cellBits obj.data (8 * 0) (obj.fields.map FiidFieldData.toCell)) = b :=
    h.pack_setBits
  rw [hdiv, hbits] at hcopy
  have hbytes : (if fiidObjLen obj = obj.data.length * 8 then obj.data.length
      else bitsRoundBytes (fiidObjLen obj)) = b.length := by
    rw [fiidObjLen]
    split_ifs <;> omega
  simp only [fiidObjGetAll, hbytes]
  rw [if_neg (by omega), if_pos hlen.symm, hcopy]
  rfl

/-- An object whose set bits are known as part of a byte string. -/
theorem holds_of_window {p : List Byte} {o m : ℕ} (hlens : obj.lens = lens) (hle : o + m ≤ p.length)
    (hbits : obj.setBits = window p (8 * o) (8 * m)) : obj.Holds lens ((p.drop o).take m) := by
  have hlen : ((p.drop o).take m).length = m := by
    rw [List.length_take, List.length_drop]
    omega
  exact ⟨hlens, by rw [hlen, window_drop_take, hbits]⟩

/-- The same fields are set, to the same bits. -/
structure FiidObj.SameFields (obj obj' : FiidObj) : Prop where
  lens : obj'.lens = obj.lens
  bits : obj'.setBits = obj.setBits

theorem FiidObj.Holds.sameFields {obj' : FiidObj} (h : obj.Holds lens b) (h' : obj'.Holds lens b) :
    obj.SameFields obj' :=
  ⟨by rw [h'.lens, h.lens], by rw [h'.bits, h.bits]⟩

/-! ### Validity -/

/-- `obj->field_data` for given set lengths. -/
def cellsOf (tmpl : FiidTemplate) (lens : List ℕ) : List Cell :=
  List.zipWith (fun f len => ⟨f.maxFieldLen, len, f.flags⟩) tmpl.fields lens ++
    [⟨0, 0, tmpl.terminatorFlags⟩]

theorem cells_eq (hwf : obj.Wf tmpl) : obj.cells = cellsOf tmpl obj.lens := by
  rw [FiidObj.cells, cellsOf, hwf.terminator, hwf.flags, ← hwf.fields, FiidObj.lens, List.zipWith_map,
    List.zipWith_self]
  rfl

/-- `fiid_obj_packet_valid` for given set lengths. -/
def lensValid (tmpl : FiidTemplate) (lens : List ℕ) : Bool :=
  match packetValidLoop false (cellsOf tmpl lens) ⟨0, 0, 0, 0⟩ with
  | .ok n => n.setBits = 0 && n.totalSetBits % 8 = 0
  | .error _ => false

/-- Whether a packet is valid depends on the set lengths only. -/
theorem packetValid_of_lens (hwf : obj.Wf tmpl) (hlens : obj.lens = lens) :
    fiidObjPacketValid obj = lensValid tmpl lens := by
  rw [fiidObjPacketValid, packetValid, cells_eq hwf, hlens, lensValid]
  cases packetValidLoop false (cellsOf tmpl lens) ⟨0, 0, 0, 0⟩ with
  | error e => rfl
  | ok n =>
    simp only [ok_bind]
    by_cases h1 : n.setBits = 0
    · by_cases h2 : n.totalSetBits % 8 = 0
      · simp [h1, h2, Except.isOk, Except.toBool]
      · simp [h1, h2, Except.isOk, Except.toBool]
    · simp [h1, Except.isOk, Except.toBool]

theorem packetValidFlags_of_loop {c : Bool} : ∀ {cells : List Cell} {n m : Counters},
    packetValidLoop c cells n = .ok m → ∀ x ∈ cells, packetValidFlags c x = .ok ()
  | [], _, _, _, x, hx => absurd hx List.not_mem_nil
  | y :: ys, n, m, h, x, hx => by
    rw [packetValidLoop] at h
    obtain ⟨u, hu, h⟩ := bind_eq_ok.mp h
    obtain ⟨n', -, h⟩ := bind_eq_ok.mp h
    rcases List.mem_cons.mp hx with rfl | hx
    · exact hu
    · exact packetValidFlags_of_loop h x hx

theorem packetValidStep_total {n m : Counters} {c : Cell} (h : packetValidStep n c = .ok m) :
    m.totalSetBits = n.totalSetBits + c.setFieldLen := by
  simp only [packetValidStep] at h
  split_ifs at h <;> cases h <;> rfl

theorem packetValidLoop_total {b : Bool} : ∀ {cells : List Cell} {n m : Counters},
    packetValidLoop b cells n = .ok m →
    m.totalSetBits = n.totalSetBits + (cells.map (·.setFieldLen)).sum
  | [], n, m, h => by
    cases h
    rfl
  | c :: cs, n, m, h => by
    obtain ⟨_, -, h⟩ := bind_eq_ok.mp h
    obtain ⟨n', hn', h⟩ := bind_eq_ok.mp h
    rw [packetValidLoop_total h, packetValidStep_total hn', List.map_cons, List.sum_cons, Nat.add_assoc]

/-- A valid packet has whole bytes. -/
theorem setLen_of_packetValid (hwf : obj.Wf tmpl) (h : fiidObjPacketValid obj = true) :
    setLen obj.fields % 8 = 0 := by
  rw [fiidObjPacketValid] at h
  cases hv : packetValid obj false with
  | error e =>
    rw [hv] at h
    cases h
  | ok u =>
    obtain ⟨n, hn, hchecks⟩ := bind_eq_ok.mp hv
    have htotal := packetValidLoop_total hn
    have hcells : (obj.cells.map (·.setFieldLen)).sum = setLen obj.fields := by
      rw [FiidObj.cells, List.map_append, List.sum_append, List.map_map, hwf.terminator]
      rfl
    rw [hcells, Nat.zero_add] at htotal
    split at hchecks
    · cases hchecks
    · split at hchecks
      · cases hchecks
      · rename_i hmod
        rw [htotal] at hmod
        exact not_not.mp hmod

/-- In a valid packet a field of fixed length is complete, or optional and not set. -/
theorem fixed_of_packetValid (h : fiidObjPacketValid obj = true) {f : FiidFieldData}
    (hf : f ∈ obj.fields) (hfixed : fiidFieldLengthFlag f.flags = fiidFieldLengthFixed) :
    (fiidFieldRequiredFlag f.flags = fiidFieldRequired → f.setFieldLen = f.maxFieldLen) ∧
      (fiidFieldRequiredFlag f.flags = fiidFieldOptional →
        f.setFieldLen = 0 ∨ f.setFieldLen = f.maxFieldLen) := by
  have hpos := f.maxFieldLen_pos
  rw [fiidObjPacketValid] at h
  cases hv : packetValid obj false with
  | error e =>
    rw [hv] at h
    cases h
  | ok u =>
    obtain ⟨n, hn, -⟩ := bind_eq_ok.mp hv
    have hcell : f.toCell ∈ obj.cells := List.mem_append_left _ (List.mem_map_of_mem hf)
    have hflags := packetValidFlags_of_loop hn _ hcell
    simp only [packetValidFlags, FiidFieldData.toCell, hfixed, Bool.false_eq_true, if_false,
      true_and] at hflags
    refine ⟨fun hreq => ?_, fun hopt => ?_⟩
    · by_contra hne
      simp only [hreq, true_and, true_or, and_true] at hflags
      split at hflags
      · cases hflags
      · rw [if_pos (Ne.symm hne)] at hflags
        cases hflags
    · by_contra hne
      obtain ⟨h0, hmax⟩ := not_or.mp hne
      have hno : ¬ (fiidFieldOptional = fiidFieldRequired) := by decide
      simp only [hopt, hno, false_and, if_false, false_or, ne_eq, h0, not_false_eq_true,
        and_true] at hflags
      rw [if_pos (Ne.symm hmax)] at hflags
      cases hflags

/-- In a valid packet of a template without optional or variable fields everything is set. -/
theorem lens_of_packetValid (hwf : obj.Wf tmpl) (h : fiidObjPacketValid obj = true)
    (hall : ∀ g ∈ tmpl.fields, fiidFieldLengthFlag g.flags = fiidFieldLengthFixed ∧
      fiidFieldRequiredFlag g.flags = fiidFieldRequired) :
    obj.lens = tmpl.fields.map (·.maxFieldLen) := by
  rw [← hwf.map_maxFieldLen, FiidObj.lens]
  refine List.map_congr_left fun f hf => ?_
  have hmem : f.toField ∈ tmpl.fields := by
    rw [← hwf.fields]
    exact List.mem_map_of_mem hf
  obtain ⟨hfixed, hreq⟩ := hall _ hmem
  exact (fixed_of_packetValid h hf hfixed).1 hreq

end Holds

end FreeIpmi.Fiid
