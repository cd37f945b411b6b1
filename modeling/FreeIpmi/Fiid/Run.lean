import FreeIpmi.Fiid.FieldSpan
import FreeIpmi.Fiid.Mark

/-! Every object that the API can produce.

    An object is created from a template and then changed by any sequence of calls; the calls that
    only read leave it as it is. `Touched` says once what a single call can do to an object, and the
    invariants of a whole run (`Reachable.wf`, `Reachable.partAligned`) follow from it. -/

namespace FreeIpmi.Fiid
open ByteBits Calls

/-- The calls that change an object. -/
inductive FiidOp where
  | set (field : String) (val : BitVec 64)
  | setData (field : String) (data : List Byte)
  | setAll (data : List Byte)
  | setBlock (fieldStart fieldEnd : String) (data : List Byte)
  | clear
  | clearField (field : String)
  | dup

/-- The object after a call: as before when the call returns `-1`, and nothing can be said when the
    call has no defined result. -/
def afterCall (obj : FiidObj) : Except Stop FiidObj → Option FiidObj
  | .ok obj' => some obj'
  | .error e => if e.isReturn then some obj else none

/-- One call. -/
def FiidOp.run (obj : FiidObj) : FiidOp → Option FiidObj
  | .set field val => afterCall obj (fiidObjSet obj field val)
  | .setData field data => afterCall obj (fiidObjSetData obj field data >>= fun r => .ok r.1)
  | .setAll data => some (fiidObjSetAll obj data).2
  | .setBlock fieldStart fieldEnd data => some (fiidObjSetBlock obj fieldStart fieldEnd data).2
  | .clear => some (fiidObjClear obj)
  | .clearField field => afterCall obj (fiidObjClearField obj field)
  | .dup => some (fiidObjDup obj)

/-- A sequence of calls. -/
def FiidOp.runs : List FiidOp → FiidObj → Option FiidObj
  | [], obj => some obj
  | op :: ops, obj => (op.run obj).bind (FiidOp.runs ops)

/-- The objects of a template that a program can hold. -/
inductive Reachable (ndebug : Bool) : FiidTemplate → FiidObj → Prop where
  | create {tmpl : FiidTemplate} {obj : FiidObj} :
      fiidObjCreate ndebug tmpl = some obj → Reachable ndebug tmpl obj
  | copy {tmpl tmpl' : FiidTemplate} {src obj : FiidObj} :
      Reachable ndebug tmpl' src → fiidObjCopy ndebug src tmpl = .ok obj → Reachable ndebug tmpl obj
  | step {tmpl : FiidTemplate} {obj obj' : FiidObj} (op : FiidOp) :
      Reachable ndebug tmpl obj → op.run obj = some obj' → Reachable ndebug tmpl obj'

/-! ### The invariants -/

/-- An object fits its template: its fields are those of the template, none set beyond its length,
    and the data has room for exactly these fields. -/
structure FiidObj.Wf (tmpl : FiidTemplate) (obj : FiidObj) : Prop where
  fields : obj.fields.map FiidFieldData.toField = tmpl.fields
  flags : obj.terminatorFlags = tmpl.terminatorFlags
  data : 8 * obj.data.length = maxLen obj.fields
  le : ∀ (i : ℕ) (f : FiidFieldData), obj.fields[i]? = some f → f.setFieldLen ≤ f.maxFieldLen
  terminator : obj.terminatorSetFieldLen = 0

/-- Fields above 64 bits start on a byte boundary and consist of whole bytes. -/
def WideAligned (fields : List FiidField) : Prop :=
  ∀ (i : ℕ) (f : FiidField), fields[i]? = some f → 64 < f.maxFieldLen →
    bitLen (fields.take i) % 8 = 0 ∧ f.maxFieldLen % 8 = 0

instance (fields : List FiidField) : Decidable (WideAligned fields) :=
  decidable_of_iff (∀ i : Fin fields.length, 64 < (fields.get i).maxFieldLen →
      bitLen (fields.take i) % 8 = 0 ∧ (fields.get i).maxFieldLen % 8 = 0)
    ⟨fun h i f hf => by
      obtain ⟨hlt, rfl⟩ := List.getElem?_eq_some_iff.mp hf
      exact h ⟨i, hlt⟩,
    fun h i => h i _ (List.getElem?_eq_getElem i.2)⟩

/-- A field that is set in part ends on a byte boundary. -/
def FiidObj.PartAligned (obj : FiidObj) : Prop :=
  ∀ (i : ℕ) (f : FiidFieldData), obj.fields[i]? = some f → 0 < f.setFieldLen →
    f.setFieldLen < f.maxFieldLen → obj.bitStart (i + 1) % 8 = 0

/-- The lengths that a call may give to field number `i`. -/
def NewLen (obj : FiidObj) (i : ℕ) (f : FiidFieldData) : Prop :=
  f.setFieldLen = 0 ∨ f.setFieldLen = f.maxFieldLen ∨
    (f.setFieldLen ≤ f.maxFieldLen ∧ obj.bitStart (i + 1) % 8 = 0 ∧
      (obj.bitStart i + f.setFieldLen) % 8 = 0) ∨
    (f.setFieldLen = 64 ∧ 64 < f.maxFieldLen)

/-- What a call can do: overwrite data in place, and give fields new lengths. -/
structure Touched (obj obj' : FiidObj) : Prop where
  fields : obj'.fields.map FiidFieldData.toField = obj.fields.map FiidFieldData.toField
  flags : obj'.terminatorFlags = obj.terminatorFlags
  data : obj'.data.length = obj.data.length
  terminator : obj'.terminatorSetFieldLen = 0
  lens : ∀ (i : ℕ) (f' : FiidFieldData), obj'.fields[i]? = some f' →
    (∃ f, obj.fields[i]? = some f ∧ f'.setFieldLen = f.setFieldLen ∧ f'.maxFieldLen = f.maxFieldLen) ∨
      NewLen obj i f'

section Touched
variable {tmpl : FiidTemplate} {obj obj' : FiidObj}

theorem Touched.refl (h : obj.terminatorSetFieldLen = 0) : Touched obj obj :=
  ⟨rfl, rfl, rfl, h, fun _ f hf => Or.inl ⟨f, hf, rfl, rfl⟩⟩

theorem maxLen_take_congr {a b : List FiidFieldData}
    (h : a.map FiidFieldData.toField = b.map FiidFieldData.toField) (i : ℕ) :
    maxLen (a.take i) = maxLen (b.take i) := by
  apply maxLen_congr
  rw [List.map_take, List.map_take, h]

theorem Touched.bitStart (h : Touched obj obj') (i : ℕ) : obj'.bitStart i = obj.bitStart i :=
  maxLen_take_congr h.fields i

theorem Touched.wf (h : Touched obj obj') (hwf : obj.Wf tmpl) : obj'.Wf tmpl := by
  refine ⟨h.fields.trans hwf.fields, h.flags.trans hwf.flags, ?_, ?_, h.terminator⟩
  · rw [h.data, hwf.data]
    exact (maxLen_congr h.fields).symm
  · intro i f' hf'
    rcases h.lens i f' hf' with ⟨f, hf, hset, hmax⟩ | h0 | hfull | ⟨hle, -⟩ | ⟨h64, hwide⟩
    · rw [hset, hmax]
      exact hwf.le i f hf
    · omega
    · omega
    · exact hle
    · omega

theorem getElem?_toField {i : ℕ} {f : FiidFieldData} (hwf : obj.Wf tmpl)
    (h : obj.fields[i]? = some f) : tmpl.fields[i]? = some f.toField := by
  rw [← hwf.fields, List.getElem?_map, h]
  rfl

theorem bitStart_eq (hwf : obj.Wf tmpl) (i : ℕ) : obj.bitStart i = bitLen (tmpl.fields.take i) := by
  rw [FiidObj.bitStart, maxLen_eq_bitLen, List.map_take, hwf.fields]

theorem Touched.partAligned (h : Touched obj obj') (hwf : obj.Wf tmpl)
    (hwide : WideAligned tmpl.fields) (hpart : obj.PartAligned) : obj'.PartAligned := by
  intro i f' hf' hpos hlt
  rw [h.bitStart]
  rcases h.lens i f' hf' with ⟨f, hf, hset, hmax⟩ | h0 | hfull | ⟨-, hal, -⟩ | ⟨-, h64⟩
  · exact hpart i f hf (hset ▸ hpos) (hset ▸ hmax ▸ hlt)
  · omega
  · omega
  · exact hal
  · -- a field above 64 bits starts and ends on a byte boundary
    have hf := getElem?_toField (h.wf hwf) hf'
    obtain ⟨hstart, hmod⟩ := hwide i _ hf h64
    have hsucc : obj.bitStart (i + 1) = obj.bitStart i + f'.maxFieldLen := by
      rw [← h.bitStart, ← h.bitStart]
      exact maxLen_take_succ hf'
    rw [hsucc, bitStart_eq hwf]
    have hmod' : f'.maxFieldLen % 8 = 0 := hmod
    omega

end Touched

/-! ### One call -/

section Step
variable {tmpl : FiidTemplate} {obj obj' : FiidObj}

/-- Overwriting data in place and giving one field a new length. -/
theorem touched_setFieldLenAt {data : List Byte} {i len : ℕ} {f : FiidFieldData}
    (hdata : data.length = obj.data.length) (hterm : obj.terminatorSetFieldLen = 0)
    (hf : obj.fields[i]? = some f) (hlen : NewLen obj i { f with setFieldLen := len }) :
    Touched obj ({ obj with data := data }.setFieldLenAt i len) := by
  refine ⟨map_toField_modify _ _ _, rfl, hdata, hterm, ?_⟩
  intro j f' hf'
  simp only [FiidObj.setFieldLenAt, List.getElem?_modify] at hf'
  obtain ⟨g, hg, rfl⟩ := Option.map_eq_some_iff.mp hf'
  by_cases hij : i = j
  · subst hij
    obtain rfl : g = f := Option.some.inj (hg.symm.trans hf)
    rw [if_pos rfl]
    exact Or.inr hlen
  · rw [if_neg hij]
    exact Or.inl ⟨g, hg, rfl, rfl⟩

theorem set_ok_iff {field : String} {val : BitVec 64} {i : ℕ} {f : FiidFieldData}
    (hf : FieldAt obj field i f) :
    fiidObjSet obj field val = .ok obj' ↔ ∃ data,
      storeBits obj.data (obj.bitStart i) (min f.maxFieldLen 64) val = .ok data ∧
        obj' = { obj with data := data }.setFieldLenAt i (min f.maxFieldLen 64) := by
  simp only [fiidObjSet, hf.lookup, hf.startEnd, ok_bind, dataLen_eq_min]
  rw [bind_eq_ok]
  exact exists_congr fun data => and_congr_right fun _ =>
    ⟨fun h => (Except.ok.inj h).symm, fun h => by rw [h]; rfl⟩

theorem touched_set (hwf : obj.Wf tmpl) {field : String} {val : BitVec 64}
    (h : fiidObjSet obj field val = .ok obj') : Touched obj obj' := by
  obtain ⟨i, f, hf⟩ | hnone := fieldAt_or_none obj field
  · obtain ⟨data, hdata, rfl⟩ := (set_ok_iff hf).mp h
    refine touched_setFieldLenAt (storeBits_length hdata) hwf.terminator hf.entry ?_
    rcases Nat.lt_or_ge 64 f.maxFieldLen with hwide | hle
    · exact Or.inr (Or.inr (Or.inr ⟨min_eq_right hwide.le, hwide⟩))
    · exact Or.inr (Or.inl (min_eq_left hle))
  · simp [fiidObjSet, fiidObjLookupFieldIndex, hnone] at h

theorem bitStart_le {field : String} {i : ℕ} {f : FiidFieldData} (hwf : obj.Wf tmpl)
    (hf : FieldAt obj field i f) : obj.bitStart i + f.maxFieldLen ≤ 8 * obj.data.length := by
  rw [← hf.bitStart_succ, hwf.data]
  exact maxLen_take_le _ _

theorem setData_ok {field : String} {data : List Byte} {i n : ℕ} {f : FiidFieldData}
    (hf : FieldAt obj field i f) (h : fiidObjSetData obj field data = .ok (obj', n)) :
    obj.bitStart i % 8 = 0 ∧ f.maxFieldLen % 8 = 0 ∧ n = min data.length (f.maxFieldLen / 8) ∧
      obj' = { obj with data := splice obj.data (obj.bitStart i / 8) (data.take n) }.setFieldLenAt i
        (n * 8) := by
  simp only [fiidObjSetData, hf.lookup, hf.start, hf.maxFieldLen, ok_bind] at h
  split at h
  · cases h
  · rename_i hstart
    split at h
    · cases h
    · rename_i hlen
      have hs : obj.bitStart i % 8 = 0 := by omega
      have hl : f.maxFieldLen % 8 = 0 := by omega
      rw [bitsRoundBytes_of_aligned hs, bitsRoundBytes_of_aligned hl, dataLen_eq_min] at h
      cases h
      exact ⟨hs, hl, rfl, rfl⟩

theorem touched_setData (hwf : obj.Wf tmpl) {field : String} {data : List Byte} {n : ℕ}
    (h : fiidObjSetData obj field data = .ok (obj', n)) : Touched obj obj' := by
  obtain ⟨i, f, hf⟩ | hnone := fieldAt_or_none obj field
  · obtain ⟨hs, hl, rfl, rfl⟩ := setData_ok hf h
    have hfit := bitStart_le hwf hf
    refine touched_setFieldLenAt (length_splice ?_) hwf.terminator hf.entry ?_
    · rw [List.length_take]; omega
    · refine Or.inr (Or.inr (Or.inl ⟨?_, ?_, ?_⟩))
      · show min data.length (f.maxFieldLen / 8) * 8 ≤ f.maxFieldLen
        omega
      · rw [hf.bitStart_succ]; omega
      · show (obj.bitStart i + min data.length (f.maxFieldLen / 8) * 8) % 8 = 0
        omega
  · simp [fiidObjSetData, fiidObjLookupFieldIndex, hnone] at h

theorem touched_clearField (hwf : obj.Wf tmpl) {field : String}
    (h : fiidObjClearField obj field = .ok obj') : Touched obj obj' := by
  obtain ⟨i, f, hf⟩ | hnone := fieldAt_or_none obj field
  · simp only [fiidObjClearField, hf.lookup, hf.setFieldLen, hf.maxFieldLen, hf.start, ok_bind] at h
    split at h
    · cases h
      exact Touched.refl hwf.terminator
    · split at h
      · obtain ⟨o, ho, h⟩ := bind_eq_ok.mp h
        cases h
        obtain ⟨data, hdata, rfl⟩ := (set_ok_iff hf).mp ho
        -- the length is set twice; the second one stays
        have htwice : ({ obj with data := data }.setFieldLenAt i (min f.maxFieldLen 64)).setFieldLenAt i 0
            = { obj with data := data }.setFieldLenAt i 0 := by
          simp only [FiidObj.setFieldLenAt, FiidObj.mk.injEq, true_and, and_true]
          refine List.ext_getElem? fun j => ?_
          simp only [List.getElem?_modify]
          cases obj.fields[j]? with
          | none => rfl
          | some g => by_cases hij : i = j <;> simp [hij]
        rw [htwice]
        exact touched_setFieldLenAt (storeBits_length hdata) hwf.terminator hf.entry (Or.inl rfl)
      · split at h
        · cases h
        · rename_i hlen
          split at h
          · cases h
          · rename_i hstart
            cases h
            have hfit := bitStart_le hwf hf
            refine touched_setFieldLenAt (length_splice ?_) hwf.terminator hf.entry (Or.inl rfl)
            rw [bitsRoundBytes_of_aligned (by omega), bitsRoundBytes_of_aligned (by omega),
              List.length_replicate]
            omega
  · simp [fiidObjClearField, fiidObjLookupFieldIndex, hnone] at h

theorem touched_clear (obj : FiidObj) : Touched obj (fiidObjClear obj) := by
  refine ⟨?_, rfl, List.length_replicate, rfl, ?_⟩
  · simp only [fiidObjClear, List.map_map]
    rfl
  · intro i f' hf'
    simp only [fiidObjClear, List.getElem?_map] at hf'
    obtain ⟨f, -, rfl⟩ := Option.map_eq_some_iff.mp hf'
    exact Or.inr (Or.inl rfl)

/-- Overwriting data in place and marking fields from a byte boundary on. -/
theorem touched_markFields {data : List Byte} {d first n : ℕ}
    (hdata : data.length = obj.data.length) (hterm : obj.terminatorSetFieldLen = 0)
    (hfirst : first ≤ obj.fields.length) (hstart : obj.bitStart first % 8 = 0) (hd : d % 8 = 0)
    (hend : EndsAt (obj.fields.drop first) d n) :
    Touched obj ({ obj with data := data }.markFields d first (first + n)) := by
  refine ⟨map_toField_markFields _ _ _ _, rfl, hdata, ?_, ?_⟩
  · simp only [FiidObj.markFields]
    split
    · rename_i hlast
      rcases hend with hin | ⟨-, hd⟩
      · have := hin.lt
        rw [List.length_drop] at this
        omega
      · rw [lastSetFieldLen, hd, if_neg (by omega)]
    · exact hterm
  · intro j f' hf'
    rw [getElem?_markFields { obj with data := data } _ _ _ _ hfirst] at hf'
    split at hf'
    · exact Or.inl ⟨f', hf', rfl, rfl⟩
    · rename_i hj
      obtain ⟨f, hf, rfl⟩ := Option.map_eq_some_iff.mp hf'
      rw [Nat.add_sub_cancel_left]
      rcases lt_trichotomy (j - first) n with hlt | heq | hgt
      · refine Or.inr (Or.inr (Or.inl ?_))
        exact if_pos hlt
      · -- the field in which the data ends
        rcases hend with hin | ⟨hlen, -⟩
        · rw [FiidObj.bitStart] at hstart
          refine Or.inr (Or.inr (Or.inr (Or.inl ⟨?_, ?_, ?_⟩)))
          · simp only [markedLen, heq, lt_irrefl, if_false, if_true, lastSetFieldLen]
            split_ifs <;> omega
          · have hj1 : j + 1 = first + (n + 1) := by omega
            have := hin.aligned
            rw [FiidObj.bitStart, hj1, maxLen_take_add]
            omega
          · have hle := hin.le
            have hbefore := hin.before
            have hj : j = first + n := by omega
            have hdrop : (obj.fields.drop first)[n]? = some f := by
              rw [List.getElem?_drop, ← hj]
              exact hf
            rw [maxLen_take_succ hdrop] at hle
            have hsum : maxLen ((obj.fields.drop first).take n)
                + lastSetFieldLen d (maxLen ((obj.fields.drop first).take n)) f.maxFieldLen = d := by
              rw [lastSetFieldLen]
              rcases hbefore with rfl | hlt
              · rw [List.take_zero, maxLen_nil] at hle ⊢
                split_ifs <;> omega
              · split_ifs <;> omega
            rw [FiidObj.bitStart, hj, maxLen_take_add]
            simp only [markedLen, Nat.add_sub_cancel_left, lt_irrefl, if_false, if_true, Nat.zero_add]
            omega
        · have hjlt : j < obj.fields.length := (List.getElem?_eq_some_iff.mp hf).1
          rw [List.length_drop] at hlen
          omega
      · refine Or.inl ⟨f, hf, ?_, rfl⟩
        simp only [markedLen, if_neg (show ¬ j - first < n by omega),
          if_neg (show ¬ j - first = n by omega)]

theorem touched_setAll (hwf : obj.Wf tmpl) (data : List Byte) :
    Touched obj (fiidObjSetAll obj data).2 := by
  cases h : fiidObjSetAll obj data with
  | mk r obj' =>
    cases r with
    | error e =>
      rw [(setAll_error h).1]
      exact Touched.refl hwf.terminator
    | ok n =>
      obtain ⟨hn, last, hlast, rfl⟩ := setAll_ok hwf.data h
      have hlen : (splice obj.data 0 (data.take n)).length = obj.data.length := by
        apply length_splice
        rw [List.length_take]
        omega
      have := touched_markFields hlen hwf.terminator (Nat.zero_le _) rfl (by omega) hlast
      rwa [Nat.zero_add] at this

theorem touched_setBlock (hwf : obj.Wf tmpl) (fieldStart fieldEnd : String) (data : List Byte) :
    Touched obj (fiidObjSetBlock obj fieldStart fieldEnd data).2 := by
  cases h : fiidObjSetBlock obj fieldStart fieldEnd data with
  | mk r obj' =>
    cases r with
    | error e =>
      rw [setBlock_error h]
      exact Touched.refl hwf.terminator
    | ok n =>
      obtain ⟨first, last, k, hblock, hn, hk, rfl⟩ := setBlock_ok h
      have hbits := hblock.bits
      have hs := hblock.startAligned
      have hfit : obj.bitStart (last + 1) ≤ 8 * obj.data.length := by
        rw [hwf.data]
        exact maxLen_take_le _ _
      have hlen : (splice obj.data (obj.bitStart first / 8) (data.take n)).length
          = obj.data.length := by
        apply length_splice
        rw [List.length_take]
        omega
      have hfirst : first ≤ obj.fields.length := by have := hblock.le; have := hblock.lt; omega
      exact touched_markFields hlen hwf.terminator hfirst hs (by omega) (Or.inl (EndsIn.of_block hblock hk))

theorem touched_afterCall {r : Except Stop FiidObj} (hterm : obj.terminatorSetFieldLen = 0)
    (hok : ∀ o, r = .ok o → Touched obj o) (h : afterCall obj r = some obj') : Touched obj obj' := by
  cases r with
  | error e =>
    simp only [afterCall] at h
    split at h
    · cases h
      exact Touched.refl hterm
    · cases h
  | ok o =>
    cases h
    exact hok _ rfl

/-- What any call can do. -/
theorem FiidOp.touched (op : FiidOp) (hwf : obj.Wf tmpl) (h : op.run obj = some obj') :
    Touched obj obj' := by
  cases op with
  | set field val => exact touched_afterCall hwf.terminator (fun _ ho => touched_set hwf ho) h
  | setData field data =>
    refine touched_afterCall hwf.terminator (fun o ho => ?_) h
    obtain ⟨⟨o', n⟩, hr, ho⟩ := bind_eq_ok.mp ho
    cases ho
    exact touched_setData hwf hr
  | setAll data => cases h; exact touched_setAll hwf data
  | setBlock fieldStart fieldEnd data => cases h; exact touched_setBlock hwf fieldStart fieldEnd data
  | clear => cases h; exact touched_clear obj
  | clearField field => exact touched_afterCall hwf.terminator (fun _ ho => touched_clearField hwf ho) h
  | dup =>
    cases h
    exact ⟨rfl, rfl, rfl, hwf.terminator, fun _ f hf => Or.inl ⟨f, hf, rfl, rfl⟩⟩

end Step

/-! ### Whole runs -/

section Runs
variable {ndebug : Bool} {tmpl : FiidTemplate} {obj : FiidObj}

/-- A template that `fiid_obj_create` accepts. -/
theorem create_ok (h : fiidObjCreate ndebug tmpl = some obj) :
    fiidTemplateCheckValidKeys tmpl = true ∧ fiidTemplateCheckValidFlags tmpl = true ∧
      8 * obj.data.length = bitLen tmpl.fields ∧ obj.data = List.replicate obj.data.length 0 ∧
      obj.fields = tmpl.fields.map FiidField.toData ∧ obj.terminatorFlags = tmpl.terminatorFlags ∧
      obj.terminatorSetFieldLen = 0 := by
  simp only [fiidObjCreate] at h
  split at h
  · cases h
  · rename_i hkeys
    split at h
    · cases h
    · rename_i hflags
      split at h
      · cases h
      · rename_i dataLen hlen
        split at h
        · cases h
        · cases h
          obtain ⟨n, hn, rfl⟩ := Option.map_eq_some_iff.mp hlen
          obtain ⟨rfl, -, hmod⟩ := fiidTemplateLen_eq hn
          refine ⟨by simpa using hkeys, by simpa using hflags, ?_, by simp, rfl, rfl, rfl⟩
          rw [List.length_replicate, bitsRoundBytes_of_aligned hmod]
          omega

theorem create_wf (h : fiidObjCreate ndebug tmpl = some obj) : obj.Wf tmpl := by
  obtain ⟨-, -, hdata, -, hfields, hflags, hterm⟩ := create_ok h
  have hmap : obj.fields.map FiidFieldData.toField = tmpl.fields := by
    rw [hfields, List.map_map]
    exact List.map_id _
  refine ⟨hmap, hflags, ?_, ?_, hterm⟩
  · rw [hdata, maxLen_eq_bitLen, hmap]
  · intro i f hf
    rw [hfields, List.getElem?_map] at hf
    obtain ⟨g, -, rfl⟩ := Option.map_eq_some_iff.mp hf
    exact Nat.zero_le _

theorem create_unset (h : fiidObjCreate ndebug tmpl = some obj) {i : ℕ} {f : FiidFieldData}
    (hf : obj.fields[i]? = some f) : f.setFieldLen = 0 := by
  obtain ⟨-, -, -, -, hfields, -, -⟩ := create_ok h
  rw [hfields, List.getElem?_map] at hf
  obtain ⟨g, -, rfl⟩ := Option.map_eq_some_iff.mp hf
  rfl

/-- `fiid_obj_copy` is a creation followed by a `fiid_obj_set_all`. -/
theorem copy_ok {src : FiidObj} (h : fiidObjCopy ndebug src tmpl = .ok obj) :
    ∃ o data, fiidObjCreate ndebug tmpl = some o ∧ obj = (fiidObjSetAll o data).2 := by
  simp only [fiidObjCopy] at h
  split at h
  · cases h
  · split at h
    · cases h
    · split at h
      · cases h
      · rename_i o ho
        obtain ⟨⟨len, buf⟩, -, h⟩ := bind_eq_ok.mp h
        refine ⟨o, buf.take len, ho, ?_⟩
        split at h
        · cases h
        · rename_i hall
          cases h
          rw [hall]

theorem Reachable.runs : ∀ {ops : List FiidOp} {o o' : FiidObj}, Reachable ndebug tmpl o →
    FiidOp.runs ops o = some o' → Reachable ndebug tmpl o'
  | [], _, _, h, hrun => by cases hrun; exact h
  | op :: ops, o, o', h, hrun => by
    obtain ⟨o₁, ho₁, hrun⟩ := Option.bind_eq_some_iff.mp hrun
    exact (h.step op ho₁).runs hrun

/-- Every object fits its template. -/
theorem Reachable.wf (h : Reachable ndebug tmpl obj) : obj.Wf tmpl := by
  induction h with
  | create hc => exact create_wf hc
  | copy _ hcopy _ =>
    obtain ⟨o, data, ho, rfl⟩ := copy_ok hcopy
    exact (touched_setAll (create_wf ho) data).wf (create_wf ho)
  | step op _ hrun ih => exact (op.touched ih hrun).wf ih

/-- In every object of a template whose wide fields are aligned, a field that is set in part ends on
    a byte boundary. -/
theorem Reachable.partAligned (h : Reachable ndebug tmpl obj) (hwide : WideAligned tmpl.fields) :
    obj.PartAligned := by
  have hfresh : ∀ {t : FiidTemplate} {o : FiidObj},
      fiidObjCreate ndebug t = some o → o.PartAligned := by
    intro t o ho i f hf hpos
    have := create_unset ho hf
    omega
  induction h with
  | create hc => exact hfresh hc
  | copy _ hcopy _ =>
    obtain ⟨o, data, ho, rfl⟩ := copy_ok hcopy
    exact (touched_setAll (create_wf ho) data).partAligned (create_wf ho) hwide (hfresh ho)
  | step op hr hrun ih => exact (op.touched hr.wf hrun).partAligned hr.wf hwide (ih hwide)

end Runs

end FreeIpmi.Fiid
