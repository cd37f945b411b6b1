import FreeIpmi.Fiid.Receive

/-! Objects whose fields are made of whole bytes.

    The payload and the trailer of an RMCP+ packet have fields of variable length, which are set one by
    one and in any order. What such an object holds is a byte string for each field (`Parts`): a setter
    replaces one of them, and the getters return one of them or several behind each other. -/

namespace FreeIpmi.Fiid
open ByteBits Calls

/-- Every field is made of whole bytes. -/
def WholeFields (fields : List FiidField) : Prop := ∀ f ∈ fields, f.maxFieldLen % 8 = 0

instance (fields : List FiidField) : Decidable (WholeFields fields) :=
  inferInstanceAs (Decidable (∀ f ∈ fields, _))

theorem WholeFields.bitLen_take {fields : List FiidField} (h : WholeFields fields) (i : ℕ) :
    bitLen (fields.take i) % 8 = 0 := by
  refine sum_mod_eight fun len hlen => ?_
  obtain ⟨f, hf, rfl⟩ := List.mem_map.mp hlen
  exact h f (List.mem_of_mem_take hf)

section Whole
variable {ndebug : Bool} {tmpl : FiidTemplate} {obj obj' : FiidObj}

/-- A call gives a field of whole bytes a length of whole bytes. -/
theorem Touched.byteLens (h : Touched obj obj') (hwf : obj.Wf tmpl) (hwhole : WholeFields tmpl.fields)
    (hbytes : obj.ByteLens) : obj'.ByteLens := by
  intro len hlen
  obtain ⟨i, hi⟩ := List.mem_iff_getElem?.mp hlen
  rw [FiidObj.lens, List.getElem?_map] at hi
  obtain ⟨f', hf', rfl⟩ := Option.map_eq_some_iff.mp hi
  have hmax : f'.maxFieldLen % 8 = 0 :=
    hwhole _ (List.mem_of_getElem? (getElem?_toField (h.wf hwf) hf'))
  have hstart : obj.bitStart i % 8 = 0 := by
    rw [bitStart_eq hwf]
    exact hwhole.bitLen_take i
  rcases h.lens i f' hf' with ⟨f, hf, hset, -⟩ | h0 | hfull | ⟨-, -, hend⟩ | ⟨h64, -⟩
  · rw [hset]
    exact hbytes _ (List.mem_map_of_mem (List.mem_of_getElem? hf))
  · rw [h0]
  · rw [hfull]
    exact hmax
  · omega
  · rw [h64]

/-- In every object of such a template whole bytes are set. -/
theorem Reachable.byteLens (h : Reachable ndebug tmpl obj) (hwhole : WholeFields tmpl.fields) :
    obj.ByteLens := by
  have hfresh : ∀ {t : FiidTemplate} {o : FiidObj},
      fiidObjCreate ndebug t = some o → o.ByteLens := by
    intro t o ho len hlen
    obtain ⟨f, hf, rfl⟩ := List.mem_map.mp hlen
    obtain ⟨i, hi⟩ := List.mem_iff_getElem?.mp hf
    rw [create_unset ho hi]
  induction h with
  | create hc => exact hfresh hc
  | copy _ hcopy _ =>
    obtain ⟨o, data, ho, rfl⟩ := copy_ok hcopy
    exact (touched_setAll (create_wf ho) data).byteLens (create_wf ho) hwhole (hfresh ho)
  | step op hr hrun ih => exact (op.touched hr.wf hrun).byteLens hr.wf hwhole (ih hwhole)

end Whole

/-- The fields hold these byte strings, field by field. -/
structure FiidObj.Parts (fields : List FiidField) (obj : FiidObj) (parts : List (List Byte)) : Prop where
  of : obj.Of fields
  whole : WholeFields fields
  lens : obj.lens = parts.map fun p => 8 * p.length
  bits : ∀ (i : ℕ) (p : List Byte), parts[i]? = some p →
    window obj.data (obj.bitStart i) (8 * p.length) = window p 0 (8 * p.length)

/-- The bits of consecutive fields that hold byte strings. -/
theorem cellBits_parts {data : List Byte} : ∀ {fs : List FiidFieldData} {parts : List (List Byte)}
    {start : ℕ}, fs.map (·.setFieldLen) = parts.map (fun p => 8 * p.length) →
    (∀ (i : ℕ) (p : List Byte), parts[i]? = some p →
      window data (start + maxLen (fs.take i)) (8 * p.length) = window p 0 (8 * p.length)) →
    cellBits data start (fs.map FiidFieldData.toCell)
      = window parts.flatten 0 (8 * parts.flatten.length)
  | [], [], _, _, _ => rfl
  | [], _ :: _, _, h, _ => by simp at h
  | _ :: _, [], _, h, _ => by simp at h
  | f :: fs, p :: parts, start, h, hbits => by
    rw [List.map_cons, List.map_cons, List.cons.injEq] at h
    obtain ⟨hlen, hlens⟩ := h
    have hhead := hbits 0 p rfl
    have htail := @cellBits_parts data fs parts (start + f.maxFieldLen) hlens fun i q hq => by
      have hnext := hbits (i + 1) q hq
      rwa [List.take_succ_cons, maxLen_cons, ← Nat.add_assoc] at hnext
    rw [List.take_zero, maxLen_nil, Nat.add_zero, ← hlen] at hhead
    rw [List.map_cons, cellBits]
    simp only [FiidFieldData.toCell] at htail ⊢
    rw [htail, hhead, hlen, List.flatten_cons, List.length_append, Nat.mul_add, window_append]

/-- A field of whole bytes leaves no byte incomplete. -/
theorem packetValidStep_whole {c : Cell} (hset : c.setFieldLen % 8 = 0) (hmax : c.maxFieldLen % 8 = 0)
    (t : ℕ) : packetValidStep ⟨t, 0, 0, 0⟩ c = .ok ⟨t + c.setFieldLen, 0, 0, 0⟩ := by
  by_cases hzero : c.setFieldLen = 0
  · by_cases hempty : c.maxFieldLen = 0
    · simp [packetValidStep, hzero, hempty]
    · simp [packetValidStep, hzero, hempty, hmax]
  · simp [packetValidStep, hzero, hset]

theorem alignLoop_whole : ∀ {cells : List Cell}, (∀ c ∈ cells, c.setFieldLen % 8 = 0 ∧
    c.maxFieldLen % 8 = 0) → ∀ t, ∃ t', alignLoop cells ⟨t, 0, 0, 0⟩ = .ok ⟨t', 0, 0, 0⟩
  | [], _, t => ⟨t, rfl⟩
  | c :: cs, h, t => by
    obtain ⟨hset, hmax⟩ := h c List.mem_cons_self
    obtain ⟨t', ht'⟩ := alignLoop_whole (fun c' hc' => h c' (List.mem_cons_of_mem c hc')) _
    exact ⟨t', by rw [alignLoop, packetValidStep_whole hset hmax, ok_bind, ht']⟩

theorem packetValidLoop_whole : ∀ {cells : List Cell}, (∀ c ∈ cells, c.setFieldLen % 8 = 0 ∧
    c.maxFieldLen % 8 = 0) → (∀ c ∈ cells, packetValidFlags false c = .ok ()) → ∀ {t : ℕ}, t % 8 = 0 →
    ∃ t', packetValidLoop false cells ⟨t, 0, 0, 0⟩ = .ok ⟨t', 0, 0, 0⟩ ∧ t' % 8 = 0
  | [], _, _, t, ht => ⟨t, rfl, ht⟩
  | c :: cs, h, hflags, t, ht => by
    obtain ⟨hset, hmax⟩ := h c List.mem_cons_self
    obtain ⟨t', hloop, ht'⟩ := packetValidLoop_whole (fun c' hc' => h c' (List.mem_cons_of_mem c hc'))
      (fun c' hc' => hflags c' (List.mem_cons_of_mem c hc')) (t := t + c.setFieldLen) (by omega)
    refine ⟨t', ?_, ht'⟩
    rw [packetValidLoop, hflags c List.mem_cons_self, ok_bind, packetValidStep_whole hset hmax, ok_bind,
      hloop]

section Parts
variable {fields : List FiidField} {obj : FiidObj} {parts : List (List Byte)} {field : String} {i : ℕ}
  {f : FiidFieldData} {d : List Byte}

theorem FiidObj.Parts.bitStart (h : obj.Parts fields parts) (i : ℕ) : obj.bitStart i % 8 = 0 := by
  rw [bitStart_eq h.of]
  exact h.whole.bitLen_take i

theorem FiidObj.Parts.maxFieldLen (h : obj.Parts fields parts) (hf : f ∈ obj.fields) :
    f.maxFieldLen % 8 = 0 := by
  have hmem : f.toField ∈ fields := by
    rw [← show obj.fields.map FiidFieldData.toField = fields from h.of.fields]
    exact List.mem_map_of_mem hf
  exact h.whole _ hmem

theorem FiidObj.Parts.setFieldLen (h : obj.Parts fields parts) (hf : f ∈ obj.fields) :
    f.setFieldLen % 8 = 0 := by
  have hmem : f.setFieldLen ∈ obj.lens := List.mem_map_of_mem hf
  rw [h.lens] at hmem
  obtain ⟨p, -, hp⟩ := List.mem_map.mp hmem
  omega

theorem FiidObj.Parts.length (h : obj.Parts fields parts) : parts.length = obj.fields.length := by
  have hlens := congrArg List.length h.lens
  simpa [FiidObj.lens] using hlens.symm

/-- The byte string of a field. -/
theorem FiidObj.Parts.part (h : obj.Parts fields parts) (hf : obj.fields[i]? = some f) :
    ∃ p, parts[i]? = some p ∧ f.setFieldLen = 8 * p.length := by
  have hlens := congrArg (fun l => l[i]?) h.lens
  simp only [FiidObj.lens, List.getElem?_map, hf, Option.map_some] at hlens
  obtain ⟨p, hp, hlen⟩ := Option.map_eq_some_iff.mp hlens.symm
  exact ⟨p, hp, hlen.symm⟩

/-- An object without set fields. -/
theorem parts_of_unset (hof : obj.Of fields) (hwhole : WholeFields fields) (hunset : obj.Unset) :
    obj.Parts fields (fields.map fun _ => []) := by
  refine ⟨hof, hwhole, ?_, ?_⟩
  · rw [List.map_map, FiidObj.lens, ← show obj.fields.map FiidFieldData.toField = fields from hof.fields,
      List.map_map]
    exact List.map_congr_left hunset
  · intro i p hp
    rw [List.getElem?_map] at hp
    obtain ⟨_, -, rfl⟩ := Option.map_eq_some_iff.mp hp
    rfl

/-- The bytes that are set of a field. -/
def FiidObj.fieldBytes (obj : FiidObj) (i : ℕ) : List Byte :=
  pack (window obj.data (obj.bitStart i) (obj.lens.getD i 0))

/-- An object of which whole bytes are set. -/
theorem parts_of_byteLens (hof : obj.Of fields) (hwhole : WholeFields fields) (hbytes : obj.ByteLens) :
    obj.Parts fields ((List.range obj.lens.length).map obj.fieldBytes) := by
  have hlen : ∀ {i : ℕ}, i < obj.lens.length → 8 * (obj.fieldBytes i).length = obj.lens.getD i 0 := by
    intro i hi
    have hmod := hbytes _ (List.getElem_mem hi)
    rw [FiidObj.fieldBytes, length_pack, length_window, List.getD_eq_getElem _ _ hi]
    omega
  refine ⟨hof, hwhole, ?_, fun i p hp => ?_⟩
  · refine List.ext_getElem (by simp) fun i h1 h2 => ?_
    simp [hlen h1, h1]
  · obtain ⟨hlt, hget⟩ := List.getElem?_eq_some_iff.mp hp
    have hi : i < obj.lens.length := by simpa using hlt
    have hpart : obj.fieldBytes i = p := by simpa using hget
    rw [← hpart, hlen hi]
    have hwindow := @window_pack (window obj.data (obj.bitStart i) (obj.lens.getD i 0)) (by
      rw [length_window, ← hlen hi]
      omega)
    rw [length_window] at hwindow
    exact hwindow.symm

/-- The set bits are those of all byte strings behind each other. -/
theorem FiidObj.Parts.holds (h : obj.Parts fields parts) :
    obj.Holds (parts.map fun p => 8 * p.length) parts.flatten := by
  refine ⟨h.lens, cellBits_parts h.lens fun i p hp => ?_⟩
  rw [Nat.zero_add]
  exact h.bits i p hp

/-! ### Setters -/

/-- New bytes for one field, where nothing but the field is written. -/
theorem FiidObj.Parts.update (h : obj.Parts fields parts) (hf : obj.fields[i]? = some f)
    (hle : 8 * d.length ≤ f.maxFieldLen) {data : List Byte} (hdata : data.length = obj.data.length)
    (hin : window data (obj.bitStart i) (8 * d.length) = window d 0 (8 * d.length))
    (hout : ∀ q, q < obj.bitStart i ∨ obj.bitStart i + f.maxFieldLen ≤ q → bit data q = bit obj.data q) :
    FiidObj.Parts fields ({ obj with data := data }.setFieldLenAt i (8 * d.length)) (parts.set i d) := by
  have htouch : Touched obj ({ obj with data := data }.setFieldLenAt i (8 * d.length)) := by
    have hstart := h.bitStart i
    exact touched_setFieldLenAt hdata h.of.terminator hf
      (Or.inr (Or.inr (Or.inl ⟨hle, h.bitStart _, by simp only; omega⟩)))
  refine ⟨htouch.of h.of, h.whole, ?_, ?_⟩
  · refine List.ext_getElem? fun j => ?_
    have hlens := congrArg (fun l => l[j]?) h.lens
    simp only [FiidObj.lens, FiidObj.setFieldLenAt, List.getElem?_map, List.getElem?_modify,
      List.getElem?_set] at hlens ⊢
    by_cases hij : i = j
    · subst hij
      have hlt : i < parts.length := by
        rw [h.length]
        exact (List.getElem?_eq_some_iff.mp hf).1
      simp [hf, hlt]
    · simpa [hij] using hlens
  · intro j p hp
    rw [bitStart_setFieldLenAt]
    by_cases hij : i = j
    · subst hij
      have hlt : i < parts.length := by
        rw [h.length]
        exact (List.getElem?_eq_some_iff.mp hf).1
      rw [List.getElem?_set_self hlt] at hp
      cases hp
      exact hin
    · rw [List.getElem?_set_ne hij] at hp
      rw [← h.bits j p hp]
      have hj : j < obj.fields.length := by
        rw [← h.length]
        exact (List.getElem?_eq_some_iff.mp hp).1
      obtain ⟨q, hq, hlen⟩ := h.part (List.getElem?_eq_getElem hj)
      cases hp.symm.trans hq
      have hfit := h.of.le j _ (List.getElem?_eq_getElem hj)
      have hsucc : ∀ {k : ℕ} {g : FiidFieldData}, obj.fields[k]? = some g →
          obj.bitStart (k + 1) = obj.bitStart k + g.maxFieldLen := maxLen_take_succ
      have hi := hsucc hf
      have hjs := hsucc (List.getElem?_eq_getElem hj)
      refine window_congr fun k hk => hout _ ?_
      rcases Nat.lt_or_gt_of_ne hij with hlt | hgt
      · have hmono : obj.bitStart (i + 1) ≤ obj.bitStart j := bitStart_mono hlt
        omega
      · have hmono : obj.bitStart (j + 1) ≤ obj.bitStart i := bitStart_mono hgt
        omega

/-- `fiid_obj_set_data` sets one of the byte strings, cut to what the field has room for. -/
theorem FiidObj.Parts.setData (h : obj.Parts fields parts) (hf : FieldAt obj field i f) (d : List Byte) :
    ∃ obj', fiidObjSetData obj field d = .ok (obj', min d.length (f.maxFieldLen / 8)) ∧
      obj'.Parts fields (parts.set i (d.take (f.maxFieldLen / 8))) := by
  have hmax := h.maxFieldLen (List.mem_of_getElem? hf.entry)
  have hstart := h.bitStart i
  have hfit : obj.bitStart i + f.maxFieldLen ≤ 8 * obj.data.length := bitStart_le h.of hf
  obtain ⟨n, hn⟩ : ∃ n, n = min d.length (f.maxFieldLen / 8) := ⟨_, rfl⟩
  have htake : d.take (f.maxFieldLen / 8) = d.take n := by
    rw [hn, Nat.min_comm, ← List.take_eq_take_min]
  have hlen : (d.take n).length = n := by
    rw [List.length_take]
    omega
  have hmul : 8 * (obj.bitStart i / 8) = obj.bitStart i := by omega
  have hroom : obj.bitStart i / 8 + (d.take n).length ≤ obj.data.length := by omega
  refine ⟨_, setData_eq hf hstart hmax rfl, ?_⟩
  rw [← hn, htake, Nat.mul_comm n 8]
  conv_lhs => rw [← hlen]
  have hin := window_splice obj.data (d.take n) (obj.bitStart i / 8) hroom
  rw [hmul] at hin
  have hparts := h.update (d := d.take n) hf.entry (by omega) (length_splice hroom) hin fun q hq => by
    refine bit_splice_of_outside hroom ?_
    omega
  rw [hlen] at hparts
  rwa [hlen]

/-- The entry of a field in the object. -/
theorem FiidObj.Parts.fieldAt (h : obj.Parts fields parts)
    (hi : fields.findIdx? (fun f => f.key = field) = some i) {g : FiidField} (hg : fields[i]? = some g) :
    ∃ f, FieldAt obj field i f ∧ f.maxFieldLen = g.maxFieldLen := by
  obtain ⟨f, hf⟩ := fieldAt_of_tmpl h.of hi
  have hfield := getElem?_toField h.of hf.entry
  obtain rfl := Option.some.inj (hfield.symm.trans hg)
  exact ⟨f, hf, rfl⟩

/-- Data that fits is set whole. -/
theorem FiidObj.Parts.setFitting (h : obj.Parts fields parts)
    (hi : fields.findIdx? (fun f => f.key = field) = some i) {g : FiidField} (hg : fields[i]? = some g)
    (hfit : 8 * d.length ≤ g.maxFieldLen) :
    ∃ obj', fiidObjSetData obj field d = .ok (obj', d.length) ∧ obj'.Parts fields (parts.set i d) := by
  obtain ⟨f, hf, hmax⟩ := h.fieldAt hi hg
  obtain ⟨obj', hset, hparts⟩ := h.setData hf d
  have hle : d.length ≤ f.maxFieldLen / 8 := by omega
  rw [min_eq_left hle] at hset
  rw [List.take_of_length_le hle] at hparts
  exact ⟨obj', hset, hparts⟩

/-- `fiid_obj_set` of a field of one byte. -/
theorem FiidObj.Parts.setByte (h : obj.Parts fields parts)
    (hi : fields.findIdx? (fun f => f.key = field) = some i) {g : FiidField} (hg : fields[i]? = some g)
    (hone : g.maxFieldLen = 8) (val : BitVec 64) :
    ∃ obj', fiidObjSet obj field val = .ok obj' ∧ obj'.Parts fields (parts.set i [val.setWidth 8]) := by
  obtain ⟨f, hf, hmax⟩ := h.fieldAt hi hg
  have hbyte : f.maxFieldLen = 8 := hmax.trans hone
  have hstart := h.bitStart i
  have hfit : obj.bitStart i + f.maxFieldLen ≤ 8 * obj.data.length := bitStart_le h.of hf
  have hover : ¬ SpanOver (obj.bitStart i % 8) 8 := by
    rw [hstart]
    rintro ⟨h1, h2⟩
    omega
  have hlost : spanLost (obj.bitStart i % 8) 8 = 0 := by
    rw [hstart]
    rfl
  obtain ⟨data, hstore, hlen, hbits⟩ := storeBits_spec val (show 0 < 8 by norm_num) (by norm_num)
    (show obj.bitStart i + 8 ≤ 8 * obj.data.length by omega) hover
  rw [hlost] at hbits
  have hmin : min f.maxFieldLen 64 = 8 := by omega
  refine ⟨{ obj with data := data }.setFieldLenAt i 8, (set_ok_iff hf).mpr ⟨data, ?_, ?_⟩, ?_⟩
  · rw [hmin, hstore]
  · rw [hmin]
  · refine h.update (d := [val.setWidth 8]) hf.entry (by simp [hbyte]) hlen ?_ ?_
    · refine window_congr fun k hk => ?_
      have hk8 : k < 8 := by simpa using hk
      rw [hbits, if_pos (by omega), bit_eq_getElem?, Nat.add_sub_cancel_left]
      have hdiv : k / 8 = 0 := by omega
      have hmod : k % 8 = k := by omega
      simp [hdiv, hmod, hk8]
    · intro q hq
      rw [hbits, if_neg (by omega)]

/-! ### Getters -/

theorem sum_lens_take (parts : List (List Byte)) (i : ℕ) :
    ((parts.map fun p => 8 * p.length).take i).sum = 8 * (parts.take i).flatten.length := by
  rw [← List.map_take, List.length_flatten, List.sum_map_mul_left]

/-- Behind the strings of the fields in front of it stands that of the field. -/
theorem drop_flatten {p : List Byte} (hp : parts[i]? = some p) :
    (parts.flatten.drop (parts.take i).flatten.length).take p.length = p := by
  obtain ⟨hlt, hget⟩ := List.getElem?_eq_some_iff.mp hp
  have hsplit : parts.flatten = (parts.take i).flatten ++ (p ++ (parts.drop (i + 1)).flatten) := by
    conv_lhs => rw [← List.take_append_drop i parts, List.drop_eq_getElem_cons hlt, hget]
    rw [List.flatten_append, List.flatten_cons]
  rw [hsplit, List.drop_left, List.take_left]

/-- `fiid_obj_get_data` returns the string of a field. -/
theorem FiidObj.Parts.getData (h : obj.Parts fields parts)
    (hi : fields.findIdx? (fun f => f.key = field) = some i) {p : List Byte} (hp : parts[i]? = some p)
    {dataLen : ℕ} (hroom : p.length ≤ dataLen) : fiidObjGetData obj field dataLen = .ok p := by
  have hplace : dataPlace fields (parts.map fun p => 8 * p.length) field
      = some ((parts.take i).flatten.length, p.length) := by
    simp only [dataPlace, hi, Option.bind_eq_bind, Option.bind_some, List.getElem?_map, hp,
      Option.map_some, sum_lens_take]
    rw [if_pos ⟨h.whole.bitLen_take i, by omega, by omega⟩]
    congr 1
    rw [Prod.mk.injEq]
    omega
  rw [h.holds.getData h.of hplace hroom, drop_flatten hp]

/-- `FIID_OBJ_GET` of a field of one byte. -/
theorem FiidObj.Parts.getByte (h : obj.Parts fields parts)
    (hi : fields.findIdx? (fun f => f.key = field) = some i) {g : FiidField} (hg : fields[i]? = some g)
    (hbyte : g.maxFieldLen = 8) {x : Byte} (hp : parts[i]? = some [x]) :
    fiidObjGetStrict obj field = .ok (x.setWidth 64) := by
  have hplace : valuePlace fields (parts.map fun p => 8 * p.length) field
      = some (8 * (parts.take i).flatten.length, 8) := by
    have hstart := h.whole.bitLen_take i
    simp [valuePlace, hi, hg, hp, hbyte, hstart, sum_lens_take]
  have hx : parts.flatten[(parts.take i).flatten.length]? = some x := by
    have hone := drop_flatten hp
    have hget := congrArg (fun l => l[0]?) hone
    simpa using hget
  rw [h.holds.getStrict h.of hplace, valueAt_byte hx]

theorem FiidObj.Parts.wholeCells (h : obj.Parts fields parts) {fs : List FiidFieldData}
    (hfs : ∀ f ∈ fs, f ∈ obj.fields) : ∀ c ∈ fs.map FiidFieldData.toCell,
      c.setFieldLen % 8 = 0 ∧ c.maxFieldLen % 8 = 0 := by
  intro c hc
  obtain ⟨f, hf, rfl⟩ := List.mem_map.mp hc
  exact ⟨h.setFieldLen (hfs f hf), h.maxFieldLen (hfs f hf)⟩

/-- `fiid_obj_get_all` returns the strings behind each other. -/
theorem FiidObj.Parts.getAll (h : obj.Parts fields parts) {dataLen : ℕ}
    (hroom : parts.flatten.length ≤ dataLen) : fiidObjGetAll obj dataLen = .ok (parts.flatten.length,
      parts.flatten ++ List.replicate (dataLen - parts.flatten.length) 0) := by
  have hset := h.holds.setLen
  have hpack := h.holds.pack_setBits
  obtain ⟨t, hal⟩ := alignLoop_whole (h.wholeCells (fun _ hf => hf)) 0
  have hcells : alignLoop obj.cells ⟨0, 0, 0, 0⟩ = .ok ⟨t, 0, 0, 0⟩ := by
    have hterm := h.of.terminator
    rw [FiidObj.cells, alignLoop_append, hal, ok_bind]
    simp [alignLoop, packetValidStep, hterm, ok_bind]
  have hfit : CellsFit 0 (obj.fields.map FiidFieldData.toCell) := by
    refine cellsFit_of_fields fun j g hg => ⟨h.of.le j g hg, fun _ _ => ?_⟩
    rw [Nat.zero_add]
    exact h.bitStart (j + 1)
  obtain ⟨-, -, hget⟩ := getAll_ok h.of hcells rfl hfit (show setLen obj.fields ≤ 8 * dataLen by omega)
  rw [hget, hset, hpack, Nat.mul_div_cancel_left _ (by norm_num)]

theorem FiidObj.Parts.reads (h : obj.Parts fields parts) : obj.Reads parts.flatten :=
  ⟨h.holds.lenBytes, fun _ hroom => h.getAll hroom⟩

/-- Whether such an object is valid depends on the flags of its fields only. -/
theorem FiidObj.Parts.packetValid (h : obj.Parts fields parts)
    (hflags : ∀ c ∈ obj.cells, packetValidFlags false c = .ok ()) : fiidObjPacketValid obj = true := by
  have hcells : ∀ c ∈ obj.cells, c.setFieldLen % 8 = 0 ∧ c.maxFieldLen % 8 = 0 := by
    intro c hc
    rcases List.mem_append.mp hc with hfield | hterm
    · exact h.wholeCells (fun _ hf => hf) c hfield
    · rw [List.mem_singleton.mp hterm, h.of.terminator]
      exact ⟨rfl, rfl⟩
  obtain ⟨t, hloop, ht⟩ := packetValidLoop_whole hcells hflags (Nat.zero_mod 8)
  rw [fiidObjPacketValid, Fiid.packetValid, hloop, ok_bind]
  simp [ht, Except.isOk, Except.toBool]

/-- `fiid_obj_get_block` returns the strings of the block behind each other. -/
theorem FiidObj.Parts.getBlock (h : obj.Parts fields parts) {fieldStart fieldEnd : String}
    {first last : ℕ} (hb : BlockAt obj fieldStart fieldEnd first last) {block : List Byte}
    (hblock : ((parts.drop first).take (last + 1 - first)).flatten = block) {dataLen : ℕ}
    (hroom : block.length ≤ dataLen) : fiidObjGetBlock obj fieldStart fieldEnd dataLen
      = .ok (block.length, block ++ List.replicate (dataLen - block.length) 0) := by
  have hmem : ∀ f ∈ blockFields obj first last, f ∈ obj.fields := fun f hf =>
    List.mem_of_mem_drop (List.mem_of_mem_take hf)
  have hlens : (blockFields obj first last).map (·.setFieldLen)
      = ((parts.drop first).take (last + 1 - first)).map fun p => 8 * p.length := by
    have hall := h.lens
    rw [FiidObj.lens] at hall
    rw [blockFields, List.map_take, List.map_drop, hall, List.map_take, List.map_drop]
  have hset : setLen (blockFields obj first last) = 8 * block.length := by
    rw [setLen_eq_sum, hlens, ← hblock, List.length_flatten, List.sum_map_mul_left]
  have hbits : cellBits obj.data (obj.bitStart first)
      ((blockFields obj first last).map FiidFieldData.toCell) = window block 0 (8 * block.length) := by
    rw [← hblock]
    refine cellBits_parts hlens fun i p hp => ?_
    obtain ⟨hlt, -⟩ := List.getElem?_eq_some_iff.mp hp
    have hi : i < last + 1 - first := by
      rw [List.length_take] at hlt
      omega
    rw [List.getElem?_take_of_lt hi, List.getElem?_drop] at hp
    have hstart : obj.bitStart first + maxLen ((blockFields obj first last).take i)
        = obj.bitStart (first + i) := by
      rw [FiidObj.bitStart, FiidObj.bitStart, maxLen_take_add, blockFields, List.take_take,
        min_eq_left hi.le]
    rw [hstart]
    exact h.bits (first + i) p hp
  obtain ⟨t, hal⟩ := alignLoop_whole (h.wholeCells hmem) 0
  have hfit : CellsFit (obj.bitStart first) ((blockFields obj first last).map FiidFieldData.toCell) := by
    refine cellsFit_of_fields fun j g hg => ⟨h.of.le_of_mem (hmem g (List.mem_of_getElem? hg)), ?_⟩
    intro _ _
    have hj : j < last + 1 - first := by
      have hlt := (List.getElem?_eq_some_iff.mp hg).1
      rw [blockFields, List.length_take] at hlt
      omega
    have hstart : obj.bitStart first + maxLen ((blockFields obj first last).take (j + 1))
        = obj.bitStart (first + (j + 1)) := by
      rw [FiidObj.bitStart, FiidObj.bitStart, maxLen_take_add _ first (j + 1), blockFields,
        List.take_take, min_eq_left (Nat.succ_le_of_lt hj)]
    rw [hstart]
    exact h.bitStart _
  rw [getBlock_ok h.of hb hal rfl hfit (by omega), hset, hbits, pack_window,
    Nat.mul_div_cancel_left _ (by norm_num)]

end Parts

end FreeIpmi.Fiid
