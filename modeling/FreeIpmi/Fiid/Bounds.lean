import FreeIpmi.Fiid.Run
import FreeIpmi.Fiid.GetAll

/-! Why the counters of `fiid/fiid.c` never overflow.

    Every function that adds up field lengths carries the comment "integer overflow conditions
    checked during object creation". The loops are repeated here with checked additions, and the
    checked loops never stop: after any history of calls the set lengths add up to no more than the
    object's data, and `fiid_obj_create` has bounded that by `INT_MAX`. -/

namespace FreeIpmi.Fiid
open Calls

/-! ### Histories of calls -/

/-- The calls of a history: those that change the object, and `fiid_obj_get`. -/
inductive FiidCall where
  | op (change : FiidOp)
  | get (field : String)

/-- The field that a call writes bit by bit. -/
def FiidOp.bitField : FiidOp → Option String
  | .set field _ => some field
  | .clearField field => some field
  | _ => none

/-- What a call that shifts by a whole word leaves behind. C does not define the value of such a
    shift: the bytes may be any, and the field may get any of the lengths that the code stores. -/
def LeftOpen (obj obj' : FiidObj) (field : String) : Prop :=
  obj' = obj ∨ ∃ i f data len, FieldAt obj field i f ∧ data.length = obj.data.length ∧
    (len = 0 ∨ len = min f.maxFieldLen 64) ∧ obj' = { obj with data := data }.setFieldLenAt i len

/-- One call, from object to object. -/
def FiidCall.Leads (obj obj' : FiidObj) : FiidCall → Prop
  | .op change => change.run obj = some obj' ∨
      (change.run obj = none ∧ ∃ field, change.bitField = some field ∧ LeftOpen obj obj' field)
  | .get _ => obj' = obj

/-- A history of calls. -/
inductive Leads : FiidObj → List FiidCall → FiidObj → Prop where
  | nil (obj : FiidObj) : Leads obj [] obj
  | cons {obj obj' obj'' : FiidObj} {call : FiidCall} {calls : List FiidCall} :
      call.Leads obj obj' → Leads obj' calls obj'' → Leads obj (call :: calls) obj''

/-- A run whose calls all have a defined result is a history. -/
theorem Leads.of_runs : ∀ {ops : List FiidOp} {obj obj' : FiidObj},
    FiidOp.runs ops obj = some obj' → Leads obj (ops.map FiidCall.op) obj'
  | [], obj, _, h => by
    cases h
    exact Leads.nil obj
  | op :: ops, obj, obj', h => by
    obtain ⟨o, ho, hrest⟩ := Option.bind_eq_some_iff.mp h
    exact Leads.cons (Or.inl ho) (Leads.of_runs hrest)

/-- Only the calls that write a field bit by bit can have no defined result. -/
theorem FiidOp.run_of_bitField_none {op : FiidOp} (obj : FiidObj) (h : op.bitField = none) :
    ∃ obj', op.run obj = some obj' := by
  cases op with
  | set field val => cases h
  | clearField field => cases h
  | setAll data => exact ⟨_, rfl⟩
  | setBlock fieldStart fieldEnd data => exact ⟨_, rfl⟩
  | clear => exact ⟨_, rfl⟩
  | dup => exact ⟨_, rfl⟩
  | setData field data =>
    obtain ⟨i, f, hf⟩ | hnone := fieldAt_or_none obj field
    · simp only [FiidOp.run, fiidObjSetData, hf.lookup, hf.start, hf.maxFieldLen, ok_bind]
      split
      · exact ⟨_, rfl⟩
      · split <;> exact ⟨_, rfl⟩
    · simp only [FiidOp.run, fiidObjSetData, fiidObjLookupFieldIndex, hnone]
      exact ⟨_, rfl⟩

section Histories
variable {tmpl : FiidTemplate} {obj obj' : FiidObj}

theorem touched_leftOpen (hwf : obj.Wf tmpl) {field : String} (h : LeftOpen obj obj' field) :
    Touched obj obj' := by
  rcases h with rfl | ⟨i, f, data, len, hf, hdata, hlen, rfl⟩
  · exact Touched.refl hwf.terminator
  · refine touched_setFieldLenAt hdata hwf.terminator hf.entry ?_
    rcases hlen with rfl | rfl
    · exact Or.inl rfl
    · rcases Nat.lt_or_ge 64 f.maxFieldLen with hwide | hle
      · exact Or.inr (Or.inr (Or.inr ⟨min_eq_right hwide.le, hwide⟩))
      · exact Or.inr (Or.inl (min_eq_left hle))

/-- What any call of a history can do. -/
theorem FiidCall.touched {call : FiidCall} (hwf : obj.Wf tmpl) (h : call.Leads obj obj') :
    Touched obj obj' := by
  cases call with
  | op change =>
    rcases h with hrun | ⟨-, field, -, hopen⟩
    · exact change.touched hwf hrun
    · exact touched_leftOpen hwf hopen
  | get field =>
    obtain rfl : obj' = obj := h
    exact Touched.refl hwf.terminator

/-- The object still has the layout that it was created with. -/
structure SameLayout (obj obj' : FiidObj) : Prop where
  fields : obj'.fields.map FiidFieldData.toField = obj.fields.map FiidFieldData.toField
  terminatorFlags : obj'.terminatorFlags = obj.terminatorFlags
  dataLen : obj'.data.length = obj.data.length

theorem Leads.sameLayout {calls : List FiidCall} (h : Leads obj calls obj') (hwf : obj.Wf tmpl) :
    obj'.Wf tmpl ∧ SameLayout obj obj' := by
  induction h with
  | nil obj => exact ⟨hwf, rfl, rfl, rfl⟩
  | cons hcall _ ih =>
    have htouched := FiidCall.touched hwf hcall
    obtain ⟨hwf', hlayout⟩ := ih (htouched.wf hwf)
    exact ⟨hwf', hlayout.fields.trans htouched.fields,
      hlayout.terminatorFlags.trans htouched.flags, hlayout.dataLen.trans htouched.data⟩

end Histories

/-! ### Checked counters -/

/-- `a + b` in a counter that is returned as `int`: undefined above `INT_MAX`. -/
def addInt (a b : ℕ) : Except Stop ℕ := if a + b ≤ intMax then .ok (a + b) else .error .undefined

/-- The loop of `fiid_obj_len` and `fiid_obj_block_len`. -/
def setLenChecked : List FiidFieldData → ℕ → Except Stop ℕ
  | [], counter => .ok counter
  | f :: fs, counter => do
    let counter ← addInt counter f.setFieldLen
    setLenChecked fs counter

/-- `fiid_obj_len`. -/
def fiidObjLenChecked (obj : FiidObj) : Except Stop ℕ := setLenChecked obj.fields 0

/-- `fiid_obj_len_bytes`. -/
def fiidObjLenBytesChecked (obj : FiidObj) : Except Stop ℕ := do
  bytesOfSetBits (← fiidObjLenChecked obj)

/-- The loop of `_fiid_obj_field_start_end`. -/
def fieldStartEndChecked (field : String) : List FiidFieldData → ℕ → Except Stop (ℕ × ℕ × ℕ)
  | [], _ => .error (.fiid .fieldNotFound)
  | f :: fs, start =>
    if f.key = field then do
      let stop ← addInt start f.maxFieldLen
      return (f.maxFieldLen, start, stop)
    else do
      let start ← addInt start f.maxFieldLen
      fieldStartEndChecked field fs start

/-- `_fiid_obj_field_start_end`. -/
def fiidObjFieldStartEndChecked (obj : FiidObj) (field : String) : Except Stop (ℕ × ℕ × ℕ) :=
  fieldStartEndChecked field obj.fields 0

/-- `fiid_obj_block_len`. -/
def fiidObjBlockLenChecked (obj : FiidObj) (fieldStart fieldEnd : String) : Except Stop ℕ := do
  let keyIndexStart ← fiidObjLookupFieldIndex obj fieldStart
  let keyIndexEnd ← fiidObjLookupFieldIndex obj fieldEnd
  if keyIndexStart > keyIndexEnd then .error (.fiid .parameters)
  else setLenChecked ((obj.fields.drop keyIndexStart).take (keyIndexEnd + 1 - keyIndexStart)) 0

/-- `fiid_obj_block_len_bytes`. -/
def fiidObjBlockLenBytesChecked (obj : FiidObj) (fieldStart fieldEnd : String) :
    Except Stop ℕ := do
  bytesOfSetBits (← fiidObjBlockLenChecked obj fieldStart fieldEnd)

/-- The search of `fiid_obj_set_all` and `fiid_obj_set_block` for the last field. -/
def keyIndexEndChecked (dataBitsLen : ℕ) : List FiidFieldData → ℕ → ℕ → Except Stop ℕ
  | [], i, _ => .ok i
  | f :: fs, i, bitsCounter => do
    let bitsCounter ← addInt bitsCounter f.maxFieldLen
    if bitsCounter ≥ dataBitsLen then
      if bitsCounter % 8 ≠ 0 then .error (.fiid .dataNotByteAligned) else .ok i
    else keyIndexEndChecked dataBitsLen fs (i + 1) bitsCounter

theorem addInt_of_le {a b : ℕ} (h : a + b ≤ intMax) : addInt a b = .ok (a + b) := if_pos h

theorem setLenChecked_eq : ∀ {fields : List FiidFieldData} {counter : ℕ},
    counter + setLen fields ≤ intMax → setLenChecked fields counter = .ok (counter + setLen fields)
  | [], _, _ => rfl
  | f :: fs, counter, h => by
    rw [setLen_cons] at h ⊢
    rw [setLenChecked, addInt_of_le (by omega), ok_bind, setLenChecked_eq (by omega), Nat.add_assoc]

theorem fieldStartEndChecked_eq (field : String) : ∀ {fields : List FiidFieldData} {start : ℕ},
    start + maxLen fields ≤ intMax →
    fieldStartEndChecked field fields start = fieldStartEnd field fields start
  | [], _, _ => rfl
  | f :: fs, start, h => by
    rw [maxLen_cons] at h
    rw [fieldStartEndChecked, fieldStartEnd, addInt_of_le (by omega), ok_bind, ok_bind,
      fieldStartEndChecked_eq field (by omega)]
    rfl

theorem keyIndexEndChecked_eq (dataBitsLen : ℕ) : ∀ {fields : List FiidFieldData} {i counter : ℕ},
    counter + maxLen fields ≤ intMax →
    keyIndexEndChecked dataBitsLen fields i counter = keyIndexEnd dataBitsLen fields i counter
  | [], _, _, _ => rfl
  | f :: fs, i, counter, h => by
    rw [maxLen_cons] at h
    rw [keyIndexEndChecked, keyIndexEnd, addInt_of_le (by omega), ok_bind,
      keyIndexEndChecked_eq dataBitsLen (by omega)]

/-! ### The bounds -/

/-- The lengths of an object are within their bounds. -/
structure FiidObj.Bounded (obj : FiidObj) : Prop where
  setFieldLen : ∀ f ∈ obj.fields, f.setFieldLen ≤ f.maxFieldLen
  terminator : obj.terminatorSetFieldLen = 0
  total : setLen obj.fields ≤ 8 * obj.data.length
  intMax : 8 * obj.data.length ≤ intMax

/-- No counter over the fields of an object overflows: the checked loops do what the plain ones do. -/
structure FiidObj.NoOverflow (obj : FiidObj) : Prop where
  len : fiidObjLenChecked obj = .ok (fiidObjLen obj)
  lenBytes : fiidObjLenBytesChecked obj = fiidObjLenBytes obj
  fieldStartEnd : ∀ field, fiidObjFieldStartEndChecked obj field = fiidObjFieldStartEnd obj field
  blockLen : ∀ fieldStart fieldEnd,
    fiidObjBlockLenChecked obj fieldStart fieldEnd = fiidObjBlockLen obj fieldStart fieldEnd
  blockLenBytes : ∀ fieldStart fieldEnd,
    fiidObjBlockLenBytesChecked obj fieldStart fieldEnd = fiidObjBlockLenBytes obj fieldStart fieldEnd
  setAll : ∀ dataBitsLen,
    keyIndexEndChecked dataBitsLen obj.fields 0 0 = keyIndexEnd dataBitsLen obj.fields 0 0
  setBlock : ∀ dataBitsLen first last,
    keyIndexEndChecked dataBitsLen (blockFields obj first last) first 0
      = keyIndexEnd dataBitsLen (blockFields obj first last) first 0

section Bounds
variable {ndebug : Bool} {tmpl : FiidTemplate} {obj obj' : FiidObj}

theorem create_intMax (h : fiidObjCreate ndebug tmpl = some obj) :
    8 * obj.data.length ≤ intMax := by
  simp only [fiidObjCreate] at h
  split at h
  · cases h
  · split at h
    · cases h
    · split at h
      · cases h
      · rename_i dataLen hlen
        split at h
        · cases h
        · cases h
          obtain ⟨n, hn, rfl⟩ := Option.map_eq_some_iff.mp hlen
          obtain ⟨-, hmax, hmod⟩ := fiidTemplateLen_eq hn
          rw [List.length_replicate, bitsRoundBytes_of_aligned hmod]
          omega

theorem FiidObj.Wf.bounded (hwf : obj.Wf tmpl) (hmax : 8 * obj.data.length ≤ FreeIpmi.intMax) :
    obj.Bounded where
  setFieldLen _ hf := hwf.le_of_mem hf
  terminator := hwf.terminator
  total := by
    rw [hwf.data]
    exact setLen_le_maxLen fun _ hf => hwf.le_of_mem hf
  intMax := hmax

theorem setLen_sublist_le {a b : List FiidFieldData} (h : a.Sublist b) : setLen a ≤ setLen b :=
  (h.map FiidFieldData.setFieldLen).sum_le_sum fun _ _ => Nat.zero_le _

theorem maxLen_sublist_le {a b : List FiidFieldData} (h : a.Sublist b) : maxLen a ≤ maxLen b :=
  (h.map FiidFieldData.maxFieldLen).sum_le_sum fun _ _ => Nat.zero_le _

theorem blockFields_sublist (obj : FiidObj) (first last : ℕ) :
    (blockFields obj first last).Sublist obj.fields :=
  (List.take_sublist _ _).trans (List.drop_sublist _ _)

theorem FiidObj.Bounded.noOverflow (hb : obj.Bounded) (hwf : obj.Wf tmpl) : obj.NoOverflow := by
  have htotal : setLen obj.fields ≤ FreeIpmi.intMax := hb.total.trans hb.intMax
  have hmax : maxLen obj.fields ≤ FreeIpmi.intMax := hwf.data ▸ hb.intMax
  have hlen : fiidObjLenChecked obj = .ok (fiidObjLen obj) := by
    rw [fiidObjLenChecked, setLenChecked_eq (by omega), Nat.zero_add, fiidObjLen]
  have hblock : ∀ fieldStart fieldEnd,
      fiidObjBlockLenChecked obj fieldStart fieldEnd = fiidObjBlockLen obj fieldStart fieldEnd := by
    intro fieldStart fieldEnd
    have hle : ∀ first last, setLen (blockFields obj first last) ≤ FreeIpmi.intMax := fun first last =>
      (setLen_sublist_le (blockFields_sublist obj first last)).trans htotal
    simp only [fiidObjBlockLenChecked, fiidObjBlockLen]
    refine congrArg _ (funext fun first => congrArg _ (funext fun last => ?_))
    split
    · rfl
    · have := hle first last
      rw [blockFields] at this
      rw [setLenChecked_eq (by omega), Nat.zero_add]
      rfl
  refine ⟨hlen, ?_, ?_, hblock, ?_, ?_, ?_⟩
  · rw [fiidObjLenBytesChecked, hlen, ok_bind, fiidObjLenBytes]
  · intro field
    exact fieldStartEndChecked_eq field (by omega)
  · intro fieldStart fieldEnd
    rw [fiidObjBlockLenBytesChecked, hblock, fiidObjBlockLenBytes]
  · intro dataBitsLen
    exact keyIndexEndChecked_eq dataBitsLen (by omega)
  · intro dataBitsLen first last
    have := maxLen_sublist_le (blockFields_sublist obj first last)
    exact keyIndexEndChecked_eq dataBitsLen (by omega)

/-- After any history of calls on a created object the layout is that of the creation, every set
    length is within its field, their sum within the data, and no counter overflows. -/
theorem history_bounded {calls : List FiidCall} (hcreate : fiidObjCreate ndebug tmpl = some obj)
    (hcalls : Leads obj calls obj') : SameLayout obj obj' ∧ obj'.Bounded ∧ obj'.NoOverflow := by
  obtain ⟨hwf, hlayout⟩ := hcalls.sameLayout (create_wf hcreate)
  have hbounded := hwf.bounded (hlayout.dataLen ▸ create_intMax hcreate)
  exact ⟨hlayout, hbounded, hbounded.noOverflow hwf⟩

theorem history_bounded_sample : SameLayout sampleObj sampleFilled ∧ sampleFilled.Bounded ∧
    sampleFilled.NoOverflow :=
  history_bounded (by decide : fiidObjCreate false sampleTmpl = some sampleObj)
    (Leads.of_runs (by decide : FiidOp.runs
      [.set "low" 5, .set "high" 10, .setData "tail" [1, 2, 3]] sampleObj = some sampleFilled))

end Bounds

end FreeIpmi.Fiid
