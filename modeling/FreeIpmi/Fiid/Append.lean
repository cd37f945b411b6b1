import FreeIpmi.Fiid.RoundTrip

/-! Filling an object from the front.

    The packet parsers call the setters on fields behind which nothing is set yet. Such a call
    appends the bytes it takes to the set bits of the object (`setAll_appends`, `setBlock_appends`,
    `setData_appends`). Whether `fiid_obj_set_all` takes them at all depends only on where their end
    falls in the template (`setAll_ok_iff`). -/

namespace FreeIpmi.Fiid
open ByteBits Calls

/-! ### Which lengths are accepted -/

/-- The field in which `n` bytes of data end, ends on a byte boundary itself. -/
def EndsByteAligned (fields : List FiidField) (n : ℕ) : Prop :=
  ∀ i < fields.length, (i = 0 ∨ bitLen (fields.take i) < 8 * n) →
    8 * n ≤ bitLen (fields.take (i + 1)) → bitLen (fields.take (i + 1)) % 8 = 0

instance (fields : List FiidField) (n : ℕ) : Decidable (EndsByteAligned fields n) :=
  inferInstanceAs (Decidable (∀ i < fields.length, _ → _ → _))

/-- Where no field crosses a byte boundary, any data will do that is not empty. -/
theorem endsByteAligned_of_pos {fields : List FiidField} {n : ℕ}
    (h : ∀ i < fields.length, bitLen (fields.take (i + 1)) % 8 = 0 ∨
      bitLen (fields.take (i + 1)) ≤ 8 * (bitLen (fields.take i) / 8) + 8) (hn : 0 < n) :
    EndsByteAligned fields n := by
  intro i hi hstart hend
  rcases h i hi with hmod | hbyte
  · exact hmod
  · rcases hstart with rfl | hlt
    · rw [List.take_zero, show bitLen [] = 0 from rfl] at hbyte
      omega
    · omega

/-- The search fails exactly at a field that does not end on a byte boundary. -/
theorem keyIndexEnd_ok_iff {d : ℕ} : ∀ {fields : List FiidFieldData} (i bits : ℕ),
    (∃ k, keyIndexEnd d fields i bits = .ok k) ↔ ∀ j < fields.length,
      (j = 0 ∨ bits + maxLen (fields.take j) < d) → d ≤ bits + maxLen (fields.take (j + 1)) →
        (bits + maxLen (fields.take (j + 1))) % 8 = 0
  | [], i, bits => ⟨fun _ j hj => absurd hj (Nat.not_lt_zero j), fun _ => ⟨i, rfl⟩⟩
  | f :: fs, i, bits => by
    have hzero : maxLen ((f :: fs).take (0 + 1)) = f.maxFieldLen := by simp
    by_cases hge : bits + f.maxFieldLen ≥ d
    · have hhere : keyIndexEnd d (f :: fs) i bits
          = if (bits + f.maxFieldLen) % 8 ≠ 0 then .error (.fiid .dataNotByteAligned) else .ok i := by
        rw [keyIndexEnd, if_pos hge]
      rw [hhere]
      constructor
      · rintro ⟨k, hk⟩ j hj hbefore _
        rcases Nat.eq_zero_or_pos j with rfl | hpos
        · rw [hzero]
          by_contra hmod
          rw [if_pos hmod] at hk
          cases hk
        · obtain ⟨j, rfl⟩ := Nat.exists_eq_add_of_lt hpos
          rw [Nat.zero_add, List.take_succ_cons, maxLen_cons] at hbefore
          omega
      · intro h
        have hmod := h 0 (Nat.zero_lt_succ _) (Or.inl rfl) (by rw [hzero]; exact hge)
        rw [hzero] at hmod
        exact ⟨i, if_neg (by omega)⟩
    · have hnext : keyIndexEnd d (f :: fs) i bits = keyIndexEnd d fs (i + 1) (bits + f.maxFieldLen) := by
        rw [keyIndexEnd, if_neg hge]
      rw [hnext, keyIndexEnd_ok_iff (i + 1) (bits + f.maxFieldLen)]
      constructor
      · intro h j hj hbefore hle
        cases j with
        | zero =>
          rw [hzero] at hle
          omega
        | succ j =>
          rw [List.take_succ_cons, maxLen_cons, ← Nat.add_assoc] at hle ⊢
          refine h j (Nat.lt_of_succ_lt_succ hj) ?_ hle
          rw [List.take_succ_cons, maxLen_cons] at hbefore
          omega
      · intro h j hj hbefore hle
        have := h (j + 1) (Nat.succ_lt_succ hj)
        rw [List.take_succ_cons, List.take_succ_cons, maxLen_cons, maxLen_cons, ← Nat.add_assoc,
          ← Nat.add_assoc] at this
        refine this (Or.inr ?_) hle
        rcases hbefore with rfl | hlt
        · rw [List.take_zero, maxLen_nil]
          omega
        · exact hlt

section Appends
variable {tmpl : FiidTemplate} {obj obj' : FiidObj} {d : List Byte} {n : ℕ}

theorem FiidObj.Wf.maxLen_take (hwf : obj.Wf tmpl) (i : ℕ) :
    maxLen (obj.fields.take i) = bitLen (tmpl.fields.take i) := bitStart_eq hwf i

theorem FiidObj.Wf.length (hwf : obj.Wf tmpl) : obj.fields.length = tmpl.fields.length := by
  rw [← hwf.fields, List.length_map]

/-- `fiid_obj_set_all` accepts data exactly when its end does not split a field that ends inside a
    byte. -/
theorem setAll_ok_iff (hwf : obj.Wf tmpl) :
    (∃ n obj', fiidObjSetAll obj d = (.ok n, obj')) ↔ EndsByteAligned tmpl.fields d.length := by
  have htotal : 8 * obj.data.length = bitLen tmpl.fields := by
    rw [hwf.data, maxLen_eq_bitLen, hwf.fields]
  have hall : ∀ i, bitLen (tmpl.fields.take i) ≤ bitLen tmpl.fields := by
    intro i
    rw [← hwf.maxLen_take, ← htotal, hwf.data]
    exact maxLen_take_le _ _
  rcases Nat.lt_or_ge d.length obj.data.length with hlt | hge
  · have hsearch := @keyIndexEnd_ok_iff (d.length * 8) obj.fields 0 0
    simp only [Nat.zero_add, hwf.maxLen_take, hwf.length, Nat.mul_comm d.length 8] at hsearch
    refine Iff.trans ?_ hsearch
    simp only [fiidObjSetAll, dataLen_eq_min, min_eq_left hlt.le, if_pos hlt, Nat.mul_comm d.length 8]
    cases keyIndexEnd (8 * d.length) obj.fields 0 0 with
    | error e => simp
    | ok k => simp
  · have hok : ∃ n obj', fiidObjSetAll obj d = (.ok n, obj') := by
      simp only [fiidObjSetAll, dataLen_eq_min, min_eq_right hge, lt_irrefl, if_false]
      exact ⟨_, _, rfl⟩
    refine iff_of_true hok fun i hi _ hle => ?_
    have := hall (i + 1)
    have : bitLen (tmpl.fields.take (i + 1)) = 8 * obj.data.length := by omega
    omega

/-! ### Objects that pass a template comparison -/

/-- The object has these fields; the flags of the terminator are not compared. -/
def FiidObj.Of (fields : List FiidField) (obj : FiidObj) : Prop := obj.Wf ⟨fields, obj.terminatorFlags⟩

theorem FiidObj.Wf.of (hwf : obj.Wf tmpl) : obj.Of tmpl.fields :=
  ⟨hwf.fields, rfl, hwf.data, hwf.le, hwf.terminator⟩

theorem Touched.of {fields : List FiidField} (h : Touched obj obj') (hof : obj.Of fields) :
    obj'.Of fields :=
  (h.wf hof).of

theorem FiidObj.Of.dataLen {fields : List FiidField} (hof : obj.Of fields) :
    8 * obj.data.length = bitLen fields := by
  rw [hof.data, maxLen_eq_bitLen, hof.fields]

theorem templateCompareLoop_eq_none : ∀ {fs : List FiidFieldData} {gs : List FiidField},
    templateCompareLoop fs gs = none ↔ fs.map FiidFieldData.toField = gs
  | [], [] => by simp [templateCompareLoop]
  | [], _ :: _ => by simp [templateCompareLoop]
  | _ :: _, [] => by simp [templateCompareLoop]
  | f :: fs, g :: gs => by
    simp only [templateCompareLoop, List.map_cons, List.cons.injEq, FiidFieldData.toField]
    cases g with
    | mk maxFieldLen key flags pos =>
      simp only [FiidField.mk.injEq, ← templateCompareLoop_eq_none]
      split_ifs with h1 h2 h3
      · simp [h1]
      · simp [h2]
      · simp [h3]
      · simp only [ne_eq, not_not] at h1 h2 h3
        simp [h1, h2, h3]

theorem templateCompareLoop_congr : ∀ {fs fs' : List FiidFieldData} (gs : List FiidField),
    fs'.map FiidFieldData.toField = fs.map FiidFieldData.toField →
      templateCompareLoop fs' gs = templateCompareLoop fs gs
  | [], [], _, _ => rfl
  | [], _ :: _, _, h => by cases h
  | _ :: _, [], _, h => by cases h
  | _ :: _, _ :: _, [], _ => rfl
  | f :: fs, f' :: fs', g :: gs, h => by
    simp only [List.map_cons, List.cons.injEq, FiidFieldData.toField, FiidField.mk.injEq] at h
    obtain ⟨⟨hlen, hkey, hflags⟩, hrest⟩ := h
    rw [templateCompareLoop, templateCompareLoop, hlen, hkey, hflags, templateCompareLoop_congr gs hrest]

/-- A cleared object is compared as before. -/
theorem compareStrict_clear (obj : FiidObj) (tmpl : FiidTemplate) :
    fiidObjTemplateCompareStrict (fiidObjClear obj) tmpl = fiidObjTemplateCompareStrict obj tmpl := by
  have hfields : (fiidObjClear obj).fields.map FiidFieldData.toField
      = obj.fields.map FiidFieldData.toField := by
    rw [fiidObjClear, List.map_map]
    rfl
  simp only [fiidObjTemplateCompareStrict, fiidObjTemplateCompare, templateCompareLoop_congr _ hfields]

/-- A template that the library itself compares with is well formed. -/
def TemplateOk (tmpl : FiidTemplate) : Prop :=
  fiidTemplateCheckValidKeys tmpl = true ∧ fiidTemplateCheckValidFlags tmpl = true

instance (tmpl : FiidTemplate) : Decidable (TemplateOk tmpl) := inferInstanceAs (Decidable (_ ∧ _))

theorem compareStrict_ok_iff {tmpl' : FiidTemplate} (hok : TemplateOk tmpl') :
    fiidObjTemplateCompareStrict obj tmpl' = .ok () ↔
      obj.fields.map FiidFieldData.toField = tmpl'.fields := by
  simp only [fiidObjTemplateCompareStrict, fiidObjTemplateCompare, hok.1, hok.2, Bool.not_true,
    Bool.false_eq_true, if_false, ok_bind, ← templateCompareLoop_eq_none]
  cases templateCompareLoop obj.fields tmpl'.fields with
  | none => simp [pure, Except.pure]
  | some e => simp

theorem FiidObj.Wf.of_compare {tmpl' : FiidTemplate} (hwf : obj.Wf tmpl) (hok : TemplateOk tmpl')
    (h : fiidObjTemplateCompareStrict obj tmpl' = .ok ()) : obj.Of tmpl'.fields := by
  rw [compareStrict_ok_iff hok, hwf.fields] at h
  rw [← h]
  exact hwf.of

theorem FiidObj.Of.compare {tmpl' : FiidTemplate} (hof : obj.Of tmpl'.fields) (hok : TemplateOk tmpl') :
    fiidObjTemplateCompareStrict obj tmpl' = .ok () :=
  (compareStrict_ok_iff hok).mpr hof.fields

/-! ### What a call appends -/

/-- The fields from number `i` on are not set. -/
def FiidObj.UnsetFrom (obj : FiidObj) (i : ℕ) : Prop := ∀ f ∈ obj.fields.drop i, f.setFieldLen = 0

theorem FiidObj.UnsetFrom.mono {i j : ℕ} (h : obj.UnsetFrom i) (hij : i ≤ j) : obj.UnsetFrom j := by
  obtain ⟨k, rfl⟩ := Nat.exists_eq_add_of_le hij
  intro f hf
  rw [← List.drop_drop] at hf
  exact h f (List.mem_of_mem_drop hf)

theorem FiidObj.Unset.unsetFrom (h : obj.Unset) (i : ℕ) : obj.UnsetFrom i :=
  fun f hf => h f (List.mem_of_mem_drop hf)

theorem FiidObj.unsetFrom_iff {i : ℕ} : obj.UnsetFrom i ↔
    ∀ (j : ℕ) (f : FiidFieldData), i ≤ j → obj.fields[j]? = some f → f.setFieldLen = 0 := by
  constructor
  · intro h j f hij hf
    obtain ⟨k, rfl⟩ := Nat.exists_eq_add_of_le hij
    refine h f (List.mem_iff_getElem?.mpr ⟨k, ?_⟩)
    rw [List.getElem?_drop, hf]
  · intro h f hf
    obtain ⟨k, hk⟩ := List.mem_iff_getElem?.mp hf
    rw [List.getElem?_drop] at hk
    exact h (i + k) f (Nat.le_add_right i k) hk

theorem FiidObj.Unset.setBits (h : obj.Unset) : obj.setBits = [] := cellBits_unset 0 h

theorem cellBits_congr {a b : List Byte} : ∀ {start : ℕ} {fields : List FiidFieldData},
    (∀ f ∈ fields, f.setFieldLen ≤ f.maxFieldLen) →
    (∀ q < start + maxLen fields, bit a q = bit b q) →
    cellBits a start (fields.map FiidFieldData.toCell) = cellBits b start (fields.map FiidFieldData.toCell)
  | _, [], _, _ => rfl
  | start, f :: fs, hle, hbit => by
    have hf := hle f List.mem_cons_self
    rw [maxLen_cons] at hbit
    rw [List.map_cons, cellBits, cellBits,
      cellBits_congr (fun g hg => hle g (List.mem_cons_of_mem f hg)) fun q hq => hbit q (by
        simp only [FiidFieldData.toCell] at hq
        omega)]
    congr 1
    refine window_congr fun k hk => hbit _ ?_
    simp only [FiidFieldData.toCell] at hk
    omega

/-- Copying bytes to where nothing is set yet, and marking as many fields, appends the bytes to the
    set bits. -/
theorem markFields_appends (hwf : obj.Wf tmpl) {first k : ℕ} {src : List Byte}
    (halign : obj.bitStart first % 8 = 0) (hunset : obj.UnsetFrom first)
    (hend : EndsIn (obj.fields.drop first) (8 * src.length) k) :
    FiidObj.setBits ({ obj with data := splice obj.data (obj.bitStart first / 8) src }.markFields
      (8 * src.length) first (first + k)) = obj.setBits ++ window src 0 (8 * src.length) := by
  have hfits : obj.bitStart first / 8 + src.length ≤ obj.data.length := by
    have hdata := hwf.data
    have hsum := maxLen_take_add_drop obj.fields first
    have hle := maxLen_take_le (obj.fields.drop first) (k + 1)
    have := hend.le
    rw [FiidObj.bitStart] at halign ⊢
    omega
  have hold : obj.setBits = cellBits obj.data 0 ((obj.fields.take first).map FiidFieldData.toCell) := by
    conv_lhs => rw [FiidObj.setBits, ← List.take_append_drop first obj.fields]
    rw [List.map_append, cellBits_append, cellBits_unset _ hunset, List.append_nil]
  have hmul : 8 * (obj.bitStart first / 8) = obj.bitStart first := by omega
  have hnew : cellBits (splice obj.data (obj.bitStart first / 8) src) 0
      ((obj.fields.take first).map FiidFieldData.toCell) = obj.setBits := by
    rw [hold]
    refine cellBits_congr (fun f hf => hwf.le_of_mem (List.mem_of_mem_take hf)) fun q hq => ?_
    refine bit_splice_of_outside hfits (Or.inl ?_)
    rw [hmul]
    rwa [Nat.zero_add] at hq
  have htail : cellBits (splice obj.data (obj.bitStart first / 8) src) (obj.bitStart first)
      ((markSet (8 * src.length) k 0 (obj.fields.drop first)).map FiidFieldData.toCell)
      = window src 0 (8 * src.length) := by
    have hwin := window_splice obj.data src (obj.bitStart first / 8) hfits
    rw [hmul] at hwin
    rw [cellBits_markSet _ hunset (EndsAt.from (Or.inl hend)), Nat.sub_zero, hwin]
  rw [FiidObj.setBits]
  simp only [FiidObj.markFields, Nat.add_sub_cancel_left]
  rw [List.map_append, cellBits_append, hnew, cellsMaxLen_map, Nat.zero_add]
  exact congrArg _ htail

/-- `fiid_obj_set_all` on an object without set fields. -/
theorem setAll_appends (hwf : obj.Wf tmpl) (hunset : obj.Unset)
    (h : fiidObjSetAll obj d = (.ok n, obj')) :
    obj'.setBits = window d 0 (8 * n) ∧ n = min d.length obj.data.length := by
  obtain ⟨hbits, -⟩ := setBits_of_setAll hwf hunset h
  obtain ⟨hn, -⟩ := setAll_ok hwf.data h
  refine ⟨?_, hn⟩
  rw [hbits]
  refine window_congr fun k hk => ?_
  rw [bit_take (by omega)]

/-- `fiid_obj_set_block` accepts any data for a block of fields of whole bytes. -/
theorem setBlock_succeeds {fieldStart fieldEnd : String} {first last : ℕ}
    (hb : BlockAt obj fieldStart fieldEnd first last)
    (hal : ∀ j < (blockFields obj first last).length,
      maxLen ((blockFields obj first last).take (j + 1)) % 8 = 0) (d : List Byte) :
    ∃ n obj', fiidObjSetBlock obj fieldStart fieldEnd d = (.ok n, obj') := by
  have hsearch := fun k => (@keyIndexEnd_ok_iff k (blockFields obj first last) first 0).mpr
    fun j hj _ _ => by rw [Nat.zero_add]; exact hal j hj
  simp only [fiidObjSetBlock, hb.bounds, dataLen_eq_min]
  split
  · rename_i e he
    split at he
    · obtain ⟨k, hk⟩ := hsearch _
      rw [hk] at he
      cases he
    · cases he
  · exact ⟨_, _, rfl⟩

/-- `fiid_obj_set_block` on a block from which on nothing is set. -/
theorem setBlock_appends {fieldStart fieldEnd : String} {first last : ℕ} (hwf : obj.Wf tmpl)
    (hb : BlockAt obj fieldStart fieldEnd first last) (hunset : obj.UnsetFrom first)
    (h : fiidObjSetBlock obj fieldStart fieldEnd d = (.ok n, obj')) :
    obj'.setBits = obj.setBits ++ window d 0 (8 * n) ∧ obj'.UnsetFrom (last + 1) ∧
      8 * n = min (8 * d.length) (maxLen (blockFields obj first last)) := by
  have hout := (setBlock_outside hwf hb h).2
  obtain ⟨first', last', k, hb', hn, hk, hobj⟩ := setBlock_ok h
  obtain ⟨rfl, rfl⟩ : first' = first ∧ last' = last := hb'.unique hb
  have hbits := hb.bits
  have hs := hb.startAligned
  have he := hb.endAligned
  have hlen : (d.take n).length = n := by
    rw [List.length_take]
    omega
  have hend : EndsIn (obj.fields.drop first') (8 * (d.take n).length) k := by
    rw [hlen, Nat.mul_comm]
    exact hk.of_block hb
  have happ := markFields_appends hwf hs hunset hend
  rw [hlen, Nat.mul_comm 8 n] at happ
  refine ⟨?_, FiidObj.unsetFrom_iff.mpr fun j f hj hf => ?_, by omega⟩
  · rw [hobj, happ, Nat.mul_comm n 8]
    congr 1
    exact window_congr fun k hk => by rw [bit_take (by omega)]
  · rw [hout j (Or.inr hj)] at hf
    have hle := hb.le
    exact FiidObj.unsetFrom_iff.mp hunset j f (by omega) hf

/-- Setting the length of one field is marking it alone. -/
theorem setFieldLenAt_eq_markFields {field : String} {i : ℕ} {f : FiidFieldData}
    (hf : FieldAt obj field i f) (hn : 8 * n ≤ f.maxFieldLen) :
    obj.setFieldLenAt i (n * 8) = obj.markFields (8 * n) i i := by
  have hlt := hf.lt
  have hfields : (obj.setFieldLenAt i (n * 8)).fields = (obj.markFields (8 * n) i i).fields := by
    refine List.ext_getElem? fun j => ?_
    rw [getElem?_markFields obj (8 * n) i i j hlt.le]
    simp only [FiidObj.setFieldLenAt, List.getElem?_modify, Nat.sub_self]
    rcases lt_trichotomy j i with hji | rfl | hij
    · simp [hji, (Nat.ne_of_lt hji).symm]
    · simp only [hf.entry, Option.map_some, if_true, lt_irrefl, if_false, markedLen, Nat.sub_self,
        List.take_zero, maxLen_nil, lastSetFieldLen]
      split_ifs <;> simp <;> omega
    · have hne : ¬ j - i = 0 := by omega
      cases obj.fields[j]? with
      | none => simp
      | some g => simp [markedLen, hne, Nat.ne_of_lt hij, Nat.not_lt.mpr hij.le]
  have hterm : obj.terminatorSetFieldLen = (obj.markFields (8 * n) i i).terminatorSetFieldLen := by
    rw [FiidObj.markFields, if_neg (Nat.ne_of_lt hlt)]
  rw [FiidObj.setFieldLenAt, FiidObj.markFields] at *
  simp only at hfields hterm ⊢
  rw [hfields, ← hterm]

/-- `fiid_obj_set_data` on a field of whole bytes. -/
theorem setData_eq {field : String} {i : ℕ} {f : FiidFieldData} (hf : FieldAt obj field i f)
    (hs : obj.bitStart i % 8 = 0) (hl : f.maxFieldLen % 8 = 0)
    (hn : n = min d.length (f.maxFieldLen / 8)) : fiidObjSetData obj field d
      = .ok ({ obj with data := splice obj.data (obj.bitStart i / 8) (d.take n) }.setFieldLenAt i (n * 8),
        n) := by
  simp only [fiidObjSetData, hf.lookup, hf.start, hf.maxFieldLen, ok_bind, hs, hl, ne_eq,
    not_true_eq_false, if_false, bitsRoundBytes_of_aligned hs, bitsRoundBytes_of_aligned hl,
    dataLen_eq_min, ← hn]
  rfl

/-- `fiid_obj_set_data` on a field of whole bytes from which on nothing is set. -/
theorem setData_appends {field : String} {i : ℕ} {f : FiidFieldData} (hwf : obj.Wf tmpl)
    (hf : FieldAt obj field i f) (hs : obj.bitStart i % 8 = 0) (hl : f.maxFieldLen % 8 = 0)
    (hunset : obj.UnsetFrom i) (d : List Byte) : ∃ obj' n, fiidObjSetData obj field d = .ok (obj', n) ∧
      obj'.setBits = obj.setBits ++ window d 0 (8 * n) ∧ obj'.UnsetFrom (i + 1) ∧
      8 * n = min (8 * d.length) f.maxFieldLen := by
  obtain ⟨n, hn⟩ : ∃ n, n = min d.length (f.maxFieldLen / 8) := ⟨_, rfl⟩
  have hlen : (d.take n).length = n := by
    rw [List.length_take]
    omega
  refine ⟨_, n, setData_eq hf hs hl hn, ?_, FiidObj.unsetFrom_iff.mpr fun j g hj hg => ?_, by omega⟩
  · have hdrop : obj.fields.drop i = f :: obj.fields.drop (i + 1) := by
      rw [← List.getElem_cons_drop hf.lt, (List.getElem?_eq_some_iff.mp hf.entry).2]
    have hone : maxLen ((f :: obj.fields.drop (i + 1)).take (0 + 1)) = f.maxFieldLen := by simp
    have hend : EndsIn (obj.fields.drop i) (8 * (d.take n).length) 0 := by
      refine ⟨?_, ?_, ?_, Or.inl rfl⟩
      · rw [hdrop]
        exact Nat.zero_lt_succ _
      · rw [hdrop, hone, hlen]
        omega
      · rw [hdrop, hone]
        exact hl
    have happ := markFields_appends hwf hs hunset hend
    rw [hlen, Nat.add_zero] at happ
    have hf' : FieldAt { obj with data := splice obj.data (obj.bitStart i / 8) (d.take n) } field i f :=
      ⟨hf.index, hf.entry⟩
    rw [setFieldLenAt_eq_markFields hf' (by omega), happ]
    congr 1
    exact window_congr fun k hk => by rw [bit_take (by omega)]
  · have hne : ¬ i = j := by omega
    simp only [FiidObj.setFieldLenAt, List.getElem?_modify, if_neg hne, Option.map_eq_map,
      Option.map_id_fun', id_eq] at hg
    exact FiidObj.unsetFrom_iff.mp hunset j g (by omega) hg

/-! ### Complete fields -/

/-- How many bits are set, field by field. -/
def FiidObj.lens (obj : FiidObj) : List ℕ := obj.fields.map (·.setFieldLen)

theorem markSet_full {k : ℕ} : ∀ {i bits : ℕ} {fields : List FiidFieldData}, fields.length ≤ i + 1 →
    bits + maxLen fields ≤ k → (markSet k i bits fields).map (·.setFieldLen) = fields.map (·.maxFieldLen)
  | _, _, [], _, _ => by simp [markSet]
  | 0, bits, f :: fs, hlen, hk => by
    obtain rfl : fs = [] := List.eq_nil_of_length_eq_zero (by simpa using hlen)
    simp only [maxLen_cons, maxLen_nil] at hk
    simp only [markSet, List.map_cons, List.map_nil, lastSetFieldLen]
    rw [if_neg (by omega)]
  | i + 1, bits, f :: fs, hlen, hk => by
    simp only [maxLen_cons] at hk
    simp only [markSet, List.map_cons]
    rw [markSet_full (by simpa using hlen) (by omega)]

theorem markSet_append {k : ℕ} : ∀ {i bits : ℕ} {a b : List FiidFieldData}, i < a.length →
    markSet k i bits (a ++ b) = markSet k i bits a ++ b
  | _, _, [], _, hi => absurd hi (Nat.not_lt_zero _)
  | 0, _, _ :: _, _, _ => rfl
  | i + 1, bits, f :: fs, b, hi => by
    rw [List.cons_append, markSet, markSet, markSet_append (Nat.lt_of_succ_lt_succ hi), List.cons_append]

theorem FiidObj.Wf.map_maxFieldLen (hwf : obj.Wf tmpl) :
    obj.fields.map (·.maxFieldLen) = tmpl.fields.map (·.maxFieldLen) := by
  rw [← hwf.fields, List.map_map]
  rfl

/-- Enough bytes fill all fields. -/
theorem setAll_full (hwf : obj.Wf tmpl) (hd : obj.data.length ≤ d.length) :
    ∃ obj', fiidObjSetAll obj d = (.ok obj.data.length, obj') ∧
      obj'.lens = tmpl.fields.map (·.maxFieldLen) := by
  have hdata := hwf.data
  simp only [fiidObjSetAll, dataLen_eq_min, min_eq_right hd, lt_irrefl, if_false]
  have hall : 0 + maxLen obj.fields ≤ obj.data.length * 8 := by omega
  refine ⟨_, rfl, ?_⟩
  rw [← hwf.map_maxFieldLen]
  exact markSet_full (Nat.le_succ _) hall

/-- Enough bytes fill all fields of a block. -/
theorem setBlock_full {fieldStart fieldEnd : String} {first last : ℕ} (hwf : obj.Wf tmpl)
    (hb : BlockAt obj fieldStart fieldEnd first last)
    (hd : maxLen (blockFields obj first last) ≤ 8 * d.length)
    (h : fiidObjSetBlock obj fieldStart fieldEnd d = (.ok n, obj')) :
    obj'.lens = obj.lens.take first ++
      ((tmpl.fields.drop first).take (last + 1 - first)).map (·.maxFieldLen) ++
      obj.lens.drop (last + 1) := by
  obtain ⟨first', last', k, hb', hn, hk, hobj⟩ := setBlock_ok h
  obtain ⟨rfl, rfl⟩ : first' = first ∧ last' = last := hb'.unique hb
  have hs := hb.startAligned
  have he := hb.endAligned
  have hle := hb.le
  have hbits := hb.bits
  have hlt := hb.lt
  have hlen : (blockFields obj first' last').length = last' + 1 - first' := by
    rw [blockFields, List.length_take, List.length_drop]
    omega
  have hlast : (blockFields obj first' last').length ≤ k + 1 := by
    by_contra hshort
    have hpart := hk.le
    have := maxLen_take_lt (show k + 1 < (blockFields obj first' last').length by omega)
    omega
  have hsplit : obj.fields.drop first' = blockFields obj first' last' ++ obj.fields.drop (last' + 1) := by
    conv_lhs => rw [← List.take_append_drop (last' + 1 - first') (obj.fields.drop first')]
    rw [List.drop_drop, show first' + (last' + 1 - first') = last' + 1 by omega]
    rfl
  have hmax : (blockFields obj first' last').map (·.maxFieldLen)
      = ((tmpl.fields.drop first').take (last' + 1 - first')).map (·.maxFieldLen) := by
    rw [blockFields, List.map_take, List.map_drop, hwf.map_maxFieldLen, List.map_take, List.map_drop]
  have hfields : obj'.fields = obj.fields.take first' ++
      (markSet (n * 8) k 0 (blockFields obj first' last') ++ obj.fields.drop (last' + 1)) := by
    rw [hobj, ← markSet_append hk.lt, ← hsplit]
    simp only [FiidObj.markFields, Nat.add_sub_cancel_left]
  rw [FiidObj.lens, hfields, List.map_append, List.map_append, markSet_full hlast (by omega), hmax,
    List.map_take, List.map_drop, List.append_assoc]
  rfl

/-- The fields that the bytes cover are complete. -/
theorem setBlock_covered {fieldStart fieldEnd : String} {first last : ℕ}
    (hb : BlockAt obj fieldStart fieldEnd first last)
    (h : fiidObjSetBlock obj fieldStart fieldEnd d = (.ok n, obj')) {j : ℕ} {f : FiidFieldData}
    (hf : obj.fields[j]? = some f) (hj : first ≤ j)
    (hcov : obj.bitStart (j + 1) ≤ obj.bitStart first + 8 * n) :
    obj'.lens[j]? = some f.maxFieldLen := by
  obtain ⟨first', last', k, hb', hn, hk, hobj⟩ := setBlock_ok h
  obtain ⟨rfl, rfl⟩ : first' = first ∧ last' = last := hb'.unique hb
  have hfirst : first' ≤ obj.fields.length := hb.le.trans hb.lt.le
  have hend := hk.of_block hb
  obtain ⟨i, rfl⟩ := Nat.exists_eq_add_of_le hj
  have hstart : obj.bitStart (first' + i + 1)
      = obj.bitStart first' + maxLen ((obj.fields.drop first').take (i + 1)) := by
    rw [FiidObj.bitStart, FiidObj.bitStart, Nat.add_assoc, maxLen_take_add]
  have hi : i ≤ k := by
    by_contra hgt
    have hle := hend.le
    have htake : ((obj.fields.drop first').take (i + 1)).take (k + 1)
        = (obj.fields.drop first').take (k + 1) := by
      rw [List.take_take, min_eq_left (by omega)]
    have hlen : k + 1 < ((obj.fields.drop first').take (i + 1)).length := by
      have := (List.getElem?_eq_some_iff.mp hf).1
      rw [List.length_take, List.length_drop]
      omega
    have := maxLen_take_lt hlen
    rw [htake] at this
    omega
  have hentry : (obj.fields.drop first')[i]? = some f := by rw [List.getElem?_drop, hf]
  have hsucc := maxLen_take_succ hentry
  have hmark := getElem?_markFields
    { obj with data := splice obj.data (obj.bitStart first' / 8) (d.take n) } (n * 8) first' (first' + k)
    (first' + i) hfirst
  rw [if_neg (by omega), hf, Option.map_some, Nat.add_sub_cancel_left, Nat.add_sub_cancel_left,
    ← hobj] at hmark
  rw [FiidObj.lens, List.getElem?_map, hmark, Option.map_some]
  simp only [markedLen, lastSetFieldLen, Nat.zero_add, Option.some.injEq]
  rcases Nat.lt_or_ge i k with hlt | hge
  · rw [if_pos hlt]
  · rw [if_neg (by omega), if_pos (by omega), if_neg (by omega)]

/-- `fiid_obj_set_data` changes the length of its field only. -/
theorem setData_lens {field : String} {i : ℕ} {f : FiidFieldData} (hf : FieldAt obj field i f)
    (h : fiidObjSetData obj field d = .ok (obj', n)) : obj'.lens = obj.lens.set i (8 * n) := by
  obtain ⟨-, -, -, rfl⟩ := setData_ok hf h
  rw [Nat.mul_comm n 8]
  refine List.ext_getElem? fun j => ?_
  simp only [FiidObj.lens, FiidObj.setFieldLenAt, List.getElem?_map, List.getElem?_modify,
    List.getElem?_set, List.length_map]
  by_cases hij : i = j
  · subst hij
    simp [hf.lt]
  · simp [hij]

end Appends

/-! ### The setters as calls -/

section Setters
variable {fields : List FiidField} {obj : FiidObj} {d : List Byte}

/-- What a successful `fiid_obj_set_all` on an object without set fields hands on. -/
structure Filled (fields : List FiidField) (obj obj' : FiidObj) (d : List Byte) (n : ℕ) : Prop where
  of : obj'.Of fields
  flags : obj'.terminatorFlags = obj.terminatorFlags
  bits : obj'.setBits = window d 0 (8 * n)
  len : 8 * n = min (8 * d.length) (bitLen fields)
  full : bitLen fields ≤ 8 * d.length → obj'.lens = fields.map (·.maxFieldLen)
  call : fiidObjSetAll obj d = (.ok n, obj')

theorem trySetAll_filled (hof : obj.Of fields) (hunset : obj.Unset)
    (hal : EndsByteAligned fields d.length) :
    ∃ obj' n, trySetAll obj d = .ok (obj', n) ∧ Filled fields obj obj' d n := by
  obtain ⟨n, obj', h⟩ := (setAll_ok_iff hof).mpr hal
  have hlen := hof.dataLen
  obtain ⟨hbits, hn⟩ := setAll_appends hof hunset h
  have htouch := touched_setAll hof d
  rw [h] at htouch
  refine ⟨obj', n, by rw [trySetAll, h], htouch.of hof, htouch.flags, hbits, by omega, fun hfull => ?_, h⟩
  obtain ⟨obj'', h'', hlens⟩ := setAll_full hof (show obj.data.length ≤ d.length by omega)
  rw [h] at h''
  cases h''
  exact hlens

theorem trySetAll_error (hof : obj.Of fields) (hal : ¬ EndsByteAligned fields d.length) :
    trySetAll obj d = .error (.fiid .dataNotByteAligned) := by
  cases h : fiidObjSetAll obj d with
  | mk r obj' =>
    cases r with
    | ok n => exact absurd ((setAll_ok_iff hof).mp ⟨n, obj', h⟩) hal
    | error e =>
      obtain ⟨-, rfl⟩ := setAll_error h
      rw [trySetAll, h]

end Setters

/-! ### A block as a call -/

section Blocks
variable {fields : List FiidField} {obj : FiidObj} {d : List Byte} {fieldStart fieldEnd : String}
  {first last : ℕ}

/-- The fields `first` to `last` of a template. -/
def fieldBlock (fields : List FiidField) (first last : ℕ) : List FiidField :=
  (fields.drop first).take (last + 1 - first)

theorem maxLen_take_blockFields (hof : obj.Of fields) (first last j : ℕ) :
    maxLen ((blockFields obj first last).take j) = bitLen ((fieldBlock fields first last).take j) := by
  rw [maxLen_eq_bitLen, List.map_take, blockFields, List.map_take, List.map_drop,
    show obj.fields.map FiidFieldData.toField = fields from hof.fields, fieldBlock]

theorem maxLen_blockFields (hof : obj.Of fields) (first last : ℕ) :
    maxLen (blockFields obj first last) = bitLen (fieldBlock fields first last) := by
  have htake := maxLen_take_blockFields hof first last
    (max (blockFields obj first last).length (fieldBlock fields first last).length)
  rwa [List.take_of_length_le (le_max_left _ _), List.take_of_length_le (le_max_right _ _)] at htake

theorem length_blockFields (hof : obj.Of fields) (first last : ℕ) :
    (blockFields obj first last).length = (fieldBlock fields first last).length := by
  rw [blockFields, fieldBlock, List.length_take, List.length_drop, List.length_take, List.length_drop,
    FiidObj.Wf.length hof]

/-- `fiid_obj_set_block` accepts data that does not end in a field that ends inside a byte. -/
theorem setBlock_returns (hof : obj.Of fields) (hb : BlockAt obj fieldStart fieldEnd first last)
    (hal : EndsByteAligned (fieldBlock fields first last)
      (min d.length (bitLen (fieldBlock fields first last) / 8))) :
    ∃ n obj', fiidObjSetBlock obj fieldStart fieldEnd d = (.ok n, obj') := by
  have hmax := maxLen_blockFields hof first last
  have hbits := hb.bits
  have hs := hb.startAligned
  have he := hb.endAligned
  have hround : bitsRoundBytes (maxLen (blockFields obj first last))
      = bitLen (fieldBlock fields first last) / 8 := by
    rw [bitsRoundBytes_of_aligned (by omega), hmax]
  have hsearch := (@keyIndexEnd_ok_iff (min d.length (bitLen (fieldBlock fields first last) / 8) * 8)
    (blockFields obj first last) first 0).mpr fun j hj hbefore hle => by
      rw [Nat.zero_add, maxLen_take_blockFields hof] at hle hbefore ⊢
      exact hal j (length_blockFields hof first last ▸ hj) (by omega) (by omega)
  obtain ⟨k, hk⟩ := hsearch
  simp only [fiidObjSetBlock, hb.bounds, dataLen_eq_min, hround]
  split
  · rename_i e herr
    split at herr
    · rw [hk] at herr
      cases herr
    · cases herr
  · exact ⟨_, _, rfl⟩

/-- What a successful `fiid_obj_set_block` hands on if nothing is set from the block on. -/
structure BlockFilled (fields : List FiidField) (first last : ℕ) (obj obj' : FiidObj) (d : List Byte)
    (n : ℕ) : Prop where
  of : obj'.Of fields
  bits : obj'.setBits = obj.setBits ++ window d 0 (8 * n)
  unset : obj'.UnsetFrom (last + 1)
  len : 8 * n = min (8 * d.length) (bitLen (fieldBlock fields first last))
  full : bitLen (fieldBlock fields first last) ≤ 8 * d.length → obj'.lens = obj.lens.take first ++
    (fieldBlock fields first last).map (·.maxFieldLen) ++ obj.lens.drop (last + 1)

theorem trySetBlock_filled (hof : obj.Of fields) (hb : BlockAt obj fieldStart fieldEnd first last)
    (hunset : obj.UnsetFrom first) (hal : EndsByteAligned (fieldBlock fields first last)
      (min d.length (bitLen (fieldBlock fields first last) / 8))) :
    ∃ obj' n, trySetBlock obj fieldStart fieldEnd d = .ok (obj', n) ∧
      BlockFilled fields first last obj obj' d n := by
  obtain ⟨n, obj', hcall⟩ := setBlock_returns hof hb hal
  have htouch := touched_setBlock hof fieldStart fieldEnd d
  rw [hcall] at htouch
  obtain ⟨hbits, hunset', hn⟩ := setBlock_appends hof hb hunset hcall
  rw [maxLen_blockFields hof] at hn
  refine ⟨obj', n, by rw [trySetBlock, hcall], htouch.of hof, hbits, hunset', hn, fun hlong => ?_⟩
  exact setBlock_full hof hb (by rw [maxLen_blockFields hof]; exact hlong) hcall

end Blocks

end FreeIpmi.Fiid
