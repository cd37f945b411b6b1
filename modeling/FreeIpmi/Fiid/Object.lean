import FreeIpmi.Lib.Calls
import FreeIpmi.Fiid.Template

/-! Fiid objects: layout, creation, lengths and the validity check (`fiid/fiid.c`).

    An object is the packed data of its template plus, per field, how many bits are set. As with
    templates, the list of fields stands for the array up to the terminator, and `cells` is the whole
    array, for the loops that run to `field_data_len`. The error that C stores in `obj->errnum` is
    the error of the returned value instead. -/

namespace FreeIpmi.Fiid

/-- `struct fiid_field_data`, for the fields before the terminator. -/
structure FiidFieldData where
  maxFieldLen : ℕ
  key : String
  setFieldLen : ℕ
  flags : BitVec 32
  maxFieldLen_pos : 0 < maxFieldLen
  deriving DecidableEq

/-- `struct fiid_obj`; `data_len` is the length of `data`. -/
structure FiidObj where
  data : List Byte
  fields : List FiidFieldData
  terminatorFlags : BitVec 32
  terminatorSetFieldLen : ℕ
  makesPacketSufficient : Bool
  deriving DecidableEq

/-- The template entry a field was created from. -/
def FiidFieldData.toField (f : FiidFieldData) : FiidField :=
  ⟨f.maxFieldLen, f.key, f.flags, decide_eq_true f.maxFieldLen_pos⟩

/-- A fresh field of a template entry. -/
def FiidField.toData (f : FiidField) : FiidFieldData :=
  ⟨f.maxFieldLen, f.key, 0, f.flags, f.maxFieldLen_pos⟩

/-- One entry of `obj->field_data`, the terminator included. -/
structure Cell where
  maxFieldLen : ℕ
  setFieldLen : ℕ
  flags : BitVec 32

def FiidFieldData.toCell (f : FiidFieldData) : Cell := ⟨f.maxFieldLen, f.setFieldLen, f.flags⟩

/-- All of `obj->field_data`. -/
def FiidObj.cells (obj : FiidObj) : List Cell :=
  obj.fields.map FiidFieldData.toCell ++ [⟨0, obj.terminatorSetFieldLen, obj.terminatorFlags⟩]

/-- `fiid_obj_create`; `ndebug` tells whether the duplicate-key check is compiled out. Memory is
    assumed not to run out. -/
def fiidObjCreate (ndebug : Bool) (tmpl : FiidTemplate) : Option FiidObj :=
  if !fiidTemplateCheckValidKeys tmpl then none
  else if !fiidTemplateCheckValidFlags tmpl then none
  else match fiidTemplateLenBytes tmpl with
    | none => none
    | some dataLen =>
      if !ndebug && !decide (tmpl.fields.map (·.key)).Nodup then none
      else some
        { data := List.replicate dataLen 0
          fields := tmpl.fields.map FiidField.toData
          terminatorFlags := tmpl.terminatorFlags
          terminatorSetFieldLen := 0
          makesPacketSufficient := (tmpl.fields.map (·.flags) ++ [tmpl.terminatorFlags]).any
            fun flags => flags &&& fiidFieldMakesPacketSufficient ≠ 0 }

/-- `fiid_obj_dup`: `makes_packet_sufficient` is not copied. -/
def fiidObjDup (obj : FiidObj) : FiidObj := { obj with makesPacketSufficient := false }

/-- `_fiid_obj_lookup_field_index`. -/
def fiidObjLookupFieldIndex (obj : FiidObj) (field : String) : Except Stop ℕ :=
  match obj.fields.findIdx? (fun f => f.key = field) with
  | none => .error (.fiid .fieldNotFound)
  | some i => .ok i

/-- The loop of `_fiid_obj_field_start_end`: length, start and end of a field, in bits. -/
def fieldStartEnd (field : String) : List FiidFieldData → ℕ → Except Stop (ℕ × ℕ × ℕ)
  | [], _ => .error (.fiid .fieldNotFound)
  | f :: fs, start =>
    if f.key = field then .ok (f.maxFieldLen, start, start + f.maxFieldLen)
    else fieldStartEnd field fs (start + f.maxFieldLen)

/-- `_fiid_obj_field_start_end`. -/
def fiidObjFieldStartEnd (obj : FiidObj) (field : String) : Except Stop (ℕ × ℕ × ℕ) :=
  fieldStartEnd field obj.fields 0

/-- `_fiid_obj_field_start`. -/
def fiidObjFieldStart (obj : FiidObj) (field : String) : Except Stop ℕ := do
  let (_, start, _) ← fiidObjFieldStartEnd obj field
  return start

/-- `_fiid_obj_field_end`. -/
def fiidObjFieldEnd (obj : FiidObj) (field : String) : Except Stop ℕ := do
  let (_, _, stop) ← fiidObjFieldStartEnd obj field
  return stop

/-- `_fiid_obj_field_len`: the maximum length of a field. -/
def fiidObjMaxFieldLen (obj : FiidObj) (field : String) : Except Stop ℕ :=
  match obj.fields.find? (fun f => f.key = field) with
  | none => .error (.fiid .fieldNotFound)
  | some f => .ok f.maxFieldLen

/-- Total of the maximum lengths of some fields. -/
def maxLen (fields : List FiidFieldData) : ℕ := (fields.map (·.maxFieldLen)).sum

/-- Total of the set lengths of some fields. -/
def setLen (fields : List FiidFieldData) : ℕ := (fields.map (·.setFieldLen)).sum

/-- `fiid_obj_len`. -/
def fiidObjLen (obj : FiidObj) : ℕ := setLen obj.fields

/-- The common end of the `_bytes` functions on objects. -/
def bytesOfSetBits (len : ℕ) : Except Stop ℕ :=
  if len % 8 ≠ 0 then .error (.fiid .dataNotByteAligned) else .ok (bitsRoundBytes len)

/-- `fiid_obj_len_bytes`. -/
def fiidObjLenBytes (obj : FiidObj) : Except Stop ℕ := bytesOfSetBits (fiidObjLen obj)

/-- `fiid_obj_field_len`. -/
def fiidObjFieldLen (obj : FiidObj) (field : String) : Except Stop ℕ :=
  match obj.fields.find? (fun f => f.key = field) with
  | none => .error (.fiid .fieldNotFound)
  | some f => .ok f.setFieldLen

/-- `fiid_obj_field_len_bytes`. -/
def fiidObjFieldLenBytes (obj : FiidObj) (field : String) : Except Stop ℕ := do
  bytesOfSetBits (← fiidObjFieldLen obj field)

/-- `fiid_obj_block_len`. -/
def fiidObjBlockLen (obj : FiidObj) (fieldStart fieldEnd : String) : Except Stop ℕ := do
  let keyIndexStart ← fiidObjLookupFieldIndex obj fieldStart
  let keyIndexEnd ← fiidObjLookupFieldIndex obj fieldEnd
  if keyIndexStart > keyIndexEnd then .error (.fiid .parameters)
  else return setLen ((obj.fields.drop keyIndexStart).take (keyIndexEnd + 1 - keyIndexStart))

/-- `fiid_obj_block_len_bytes`. -/
def fiidObjBlockLenBytes (obj : FiidObj) (fieldStart fieldEnd : String) : Except Stop ℕ := do
  bytesOfSetBits (← fiidObjBlockLen obj fieldStart fieldEnd)

/-- `fiid_obj_clear`. -/
def fiidObjClear (obj : FiidObj) : FiidObj :=
  { obj with
    data := List.replicate obj.data.length 0
    fields := obj.fields.map fun f => { f with setFieldLen := 0 }
    terminatorSetFieldLen := 0 }

/-! ### Validity -/

/-- The running counters of `_fiid_obj_packet_valid`. -/
structure Counters where
  totalSetBits : ℕ
  maxBits : ℕ
  setBits : ℕ
  optionalBits : ℕ

/-- The checks of a field's flags in `_fiid_obj_packet_valid`. No error stands for a return of 0
    that leaves `errnum` alone. -/
def packetValidFlags (makesPacketSufficientChecks : Bool) (c : Cell) :
    Except (Option FiidErr) Unit :=
  let requiredFlag := fiidFieldRequiredFlag c.flags
  let lengthFlag := fiidFieldLengthFlag c.flags
  if makesPacketSufficientChecks then
    if c.flags &&& fiidFieldMakesPacketSufficient ≠ 0 then
      if c.setFieldLen = 0 then .error none
      else if lengthFlag = fiidFieldLengthFixed ∧ c.maxFieldLen ≠ c.setFieldLen then .error none
      else .ok ()
    else .ok ()
  else if requiredFlag = fiidFieldRequired ∧ c.setFieldLen = 0 then
    .error (some .requiredFieldMissing)
  else if (lengthFlag = fiidFieldLengthFixed ∧ c.maxFieldLen ≠ c.setFieldLen) ∧
      (requiredFlag = fiidFieldRequired ∨
        (requiredFlag = fiidFieldOptional ∧ c.setFieldLen ≠ 0)) then
    .error (some .fixedLengthFieldInvalid)
  else .ok ()

/-- One round of the byte-alignment bookkeeping of `_fiid_obj_packet_valid`. -/
def packetValidStep (n : Counters) (c : Cell) : Except (Option FiidErr) Counters :=
  let maxBits := n.maxBits + c.maxFieldLen
  let totalSetBits := n.totalSetBits + c.setFieldLen
  if c.setFieldLen ≠ 0 then
    if n.optionalBits ≠ 0 then .error (some .dataNotByteAligned)
    else if c.setFieldLen ≠ c.maxFieldLen ∧ (n.setBits + c.setFieldLen) % 8 ≠ 0 then
      .error (some .dataNotByteAligned)
    else
      let setBits := n.setBits + c.setFieldLen
      if setBits % 8 = 0 then .ok ⟨totalSetBits, 0, 0, n.optionalBits⟩
      else .ok ⟨totalSetBits, maxBits, setBits, n.optionalBits⟩
  else if n.setBits ≠ 0 then .error (some .dataNotByteAligned)
  else
    let optionalBits := n.optionalBits + c.maxFieldLen
    if optionalBits ≠ 0 ∧ optionalBits % 8 = 0 then
      if optionalBits ≠ maxBits then .error (some .dataNotByteAligned)
      else .ok ⟨totalSetBits, 0, n.setBits, 0⟩
    else .ok ⟨totalSetBits, maxBits, n.setBits, optionalBits⟩

/-- The loop of `_fiid_obj_packet_valid`. -/
def packetValidLoop (makesPacketSufficientChecks : Bool) :
    List Cell → Counters → Except (Option FiidErr) Counters
  | [], n => .ok n
  | c :: cs, n => do
    packetValidFlags makesPacketSufficientChecks c
    let n ← packetValidStep n c
    packetValidLoop makesPacketSufficientChecks cs n

/-- `_fiid_obj_packet_valid`: `ok` is a return of 1, an error a return of 0. -/
def packetValid (obj : FiidObj) (makesPacketSufficientChecks : Bool) :
    Except (Option FiidErr) Unit := do
  let n ← packetValidLoop makesPacketSufficientChecks obj.cells ⟨0, 0, 0, 0⟩
  if n.setBits ≠ 0 then .error (some .dataNotByteAligned)
  else if n.totalSetBits % 8 ≠ 0 then .error (some .dataNotByteAligned)
  else .ok ()

/-- `fiid_obj_packet_valid` returns 1. -/
def fiidObjPacketValid (obj : FiidObj) : Bool := (packetValid obj false).isOk

/-- `fiid_obj_packet_sufficient` returns 1. -/
def fiidObjPacketSufficient (obj : FiidObj) : Bool :=
  if !obj.makesPacketSufficient then (packetValid obj false).isOk
  else (packetValid obj false).isOk || (packetValid obj true).isOk

/-! ### Comparison with a template -/

/-- The loop of `fiid_obj_template_compare`: what differs first, if anything. -/
def templateCompareLoop : List FiidFieldData → List FiidField → Option FiidErr
  | [], [] => none
  | [], _ :: _ => some .templateLengthMismatch
  -- the template's terminator has length 0
  | _ :: _, [] => some .maxFieldLenMismatch
  | f :: fs, g :: gs =>
    if f.maxFieldLen ≠ g.maxFieldLen then some .maxFieldLenMismatch
    else if f.key ≠ g.key then some .keyFieldMismatch
    else if f.flags ≠ g.flags then some .flagsFieldMismatch
    else templateCompareLoop fs gs

/-- `fiid_obj_template_compare`: `ok none` is a return of 1, `ok (some e)` a return of 0. -/
def fiidObjTemplateCompare (obj : FiidObj) (tmpl : FiidTemplate) :
    Except Stop (Option FiidErr) :=
  if !fiidTemplateCheckValidKeys tmpl then .error (.fiid .templateInvalid)
  else if !fiidTemplateCheckValidFlags tmpl then .error (.fiid .templateInvalid)
  else .ok (templateCompareLoop obj.fields tmpl.fields)

/-- `FIID_OBJ_TEMPLATE_COMPARE`: anything but 1 becomes `-1`. -/
def fiidObjTemplateCompareStrict (obj : FiidObj) (tmpl : FiidTemplate) : Except Stop Unit := do
  match ← fiidObjTemplateCompare obj tmpl with
  | none => return ()
  | some _ => .error (.fiid .notIdentical)

end FreeIpmi.Fiid
