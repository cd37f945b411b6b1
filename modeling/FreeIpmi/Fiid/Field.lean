import FreeIpmi.Fiid.BitOps
import FreeIpmi.Fiid.Object

/-! Access to single fields: `fiid_obj_set`, `fiid_obj_get`, `fiid_obj_clear_field`,
    `fiid_obj_set_data` and `fiid_obj_get_data` (`fiid/fiid.c`).

    A field of at most 64 bits may start inside a byte and cross up to nine bytes. `fiid_obj_set` and
    `fiid_obj_get` compute the number of bytes (`bytesUsed`) and then walk them one by one, moving
    two ranges along: bits of the value and bits of the byte (`SpanPos`). A setter that returns `-1`
    has not stored anything yet, so only the successful result carries an object. -/

namespace FreeIpmi.Fiid
open Calls

/-- Conversion of an `int` argument to `uint8_t`. -/
def toUInt8 (n : ℤ) : ℕ := (n % 256).toNat

/-- A failing bit operation becomes `FIID_ERR_INTERNAL_ERROR`. -/
def orInternalError {α : Type} : Except Stop α → Except Stop α
  | .error (.errno _) => .error (.fiid .internalError)
  | r => r

/-- `a[i]`, undefined outside the array. -/
def readByte (a : List Byte) (i : ℕ) : Except Stop Byte :=
  match a[i]? with
  | none => .error .undefined
  | some b => .ok b

/-- The number of bytes a field spans, as `fiid_obj_set` and `fiid_obj_get` compute it. -/
def bytesUsed (startBitInBytePos fieldLen : ℤ) : ℤ :=
  if startBitInBytePos + fieldLen > 8 then
    let bytesUsed := if startBitInBytePos ≠ 0 then 1 else 0
    let fieldLenTemp := fieldLen - startBitInBytePos
    let bytesUsed := bytesUsed + fieldLenTemp.tdiv 8
    let fieldLenTemp := fieldLenTemp - bytesUsed * 8
    if fieldLenTemp ≠ 0 then bytesUsed + 1 else bytesUsed
  else 1

/-- The `int` variables of the byte loops. -/
structure SpanPos where
  startBitInBytePos : ℤ
  endBitInBytePos : ℤ
  startValPos : ℤ
  endValPos : ℤ
  fieldLenLeft : ℤ

/-- The updates at the head of round `i`. -/
def SpanPos.step (i used : ℕ) (p : SpanPos) : SpanPos :=
  let p :=
    if i = 0 then
      let endValPos := 8 - p.startBitInBytePos
      { p with endValPos := endValPos, fieldLenLeft := p.fieldLenLeft - endValPos }
    else if i ≠ used - 1 then
      { p with endValPos := p.endValPos + 8, fieldLenLeft := p.fieldLenLeft - 8 }
    else { p with endValPos := p.endValPos + p.fieldLenLeft }
  { p with endBitInBytePos := if i ≠ used - 1 then 8 else p.fieldLenLeft }

/-- The updates at the end of a round. -/
def SpanPos.next (p : SpanPos) : SpanPos :=
  { p with startBitInBytePos := 0, startValPos := p.endValPos }

/-- The byte loop of `fiid_obj_set`: `n` rounds from round `i` on, over a copy of the data. -/
def setLoop (val : BitVec 64) (bytePos used : ℕ) :
    ℕ → ℕ → SpanPos → List Byte → Except Stop (List Byte)
  | 0, _, _, tempData => .ok tempData
  | n + 1, i, p, tempData => do
    let p := p.step i used
    let extracted ← orInternalError (bitsExtract val (toUInt8 p.startValPos) (toUInt8 p.endValPos))
    let old ← readByte tempData (bytePos + i)
    let merged ← orInternalError (bitsMerge (old.setWidth 64) (toUInt8 p.startBitInBytePos)
      (toUInt8 p.endBitInBytePos) extracted)
    setLoop val bytePos used n (i + 1) p.next (tempData.set (bytePos + i) (merged.setWidth 8))

/-- The byte loop of `fiid_obj_get`. -/
def getLoop (data : List Byte) (bytePos used : ℕ) :
    ℕ → ℕ → SpanPos → BitVec 64 → Except Stop (BitVec 64)
  | 0, _, _, finalVal => .ok finalVal
  | n + 1, i, p, finalVal => do
    let p := p.step i used
    let byte ← readByte data (bytePos + i)
    let extracted ← orInternalError (bitsExtract (byte.setWidth 64) (toUInt8 p.startBitInBytePos)
      (toUInt8 p.endBitInBytePos))
    let merged ← orInternalError (bitsMerge finalVal (toUInt8 p.startValPos) (toUInt8 p.endValPos)
      extracted)
    getLoop data bytePos used n (i + 1) p.next merged

/-- `end_bit_in_byte_pos` before the loops. -/
def endBitInByte (startBitInBytePos fieldLen : ℕ) : ℕ :=
  if startBitInBytePos + fieldLen > 8 then 0 else startBitInBytePos + fieldLen

/-- `obj->field_data[index].set_field_len = len`. -/
def FiidObj.setFieldLenAt (obj : FiidObj) (index len : ℕ) : FiidObj :=
  { obj with fields := obj.fields.modify index fun f => { f with setFieldLen := len } }

/-- What `fiid_obj_set` leaves in `obj->data` for a field at bit `start`. -/
def storeBits (data : List Byte) (start fieldLen : ℕ) (val : BitVec 64) :
    Except Stop (List Byte) := do
  let bytePos := start / 8
  let startBitInBytePos := start - bytePos * 8
  let used := bytesUsed startBitInBytePos fieldLen
  if used > 1 then
    setLoop val bytePos used.toNat used.toNat 0 ⟨startBitInBytePos, 0, 0, 0, fieldLen⟩ data
  else
    let old ← readByte data bytePos
    let merged ← orInternalError (bitsMerge (old.setWidth 64) startBitInBytePos
      (endBitInByte startBitInBytePos fieldLen) val)
    return data.set bytePos (merged.setWidth 8)

/-- What `fiid_obj_get` reads for a field at bit `start`. -/
def loadBits (data : List Byte) (start fieldLen : ℕ) : Except Stop (BitVec 64) := do
  let bytePos := start / 8
  let startBitInBytePos := start - bytePos * 8
  let used := bytesUsed startBitInBytePos fieldLen
  if used > 1 then
    getLoop data bytePos used.toNat used.toNat 0 ⟨startBitInBytePos, 0, 0, 0, fieldLen⟩ 0
  else
    let byte ← readByte data bytePos
    orInternalError (bitsExtract (byte.setWidth 64) startBitInBytePos
      (endBitInByte startBitInBytePos fieldLen))

/-- `fiid_obj_set`. -/
def fiidObjSet (obj : FiidObj) (field : String) (val : BitVec 64) : Except Stop FiidObj := do
  let keyIndex ← fiidObjLookupFieldIndex obj field
  let (fieldLen, startBitPos, _) ← fiidObjFieldStartEnd obj field
  let fieldLen := if fieldLen > 64 then 64 else fieldLen
  let data ← storeBits obj.data startBitPos fieldLen val
  return { obj with data := data }.setFieldLenAt keyIndex fieldLen

/-- `obj->field_data[index].set_field_len`. -/
def fiidObjSetFieldLen (obj : FiidObj) (index : ℕ) : Except Stop ℕ :=
  match obj.fields[index]? with
  | none => .error .undefined
  | some f => .ok f.setFieldLen

/-- `fiid_obj_get`: `none` is a return of 0, a value a return of 1. -/
def fiidObjGet (obj : FiidObj) (field : String) : Except Stop (Option (BitVec 64)) := do
  let keyIndex ← fiidObjLookupFieldIndex obj field
  let setFieldLen ← fiidObjSetFieldLen obj keyIndex
  if setFieldLen = 0 then return none
  else
    let (fieldLen, startBitPos, _) ← fiidObjFieldStartEnd obj field
    let fieldLen := if fieldLen > 64 then 64 else fieldLen
    let fieldLen := if fieldLen > setFieldLen then setFieldLen else fieldLen
    let val ← loadBits obj.data startBitPos fieldLen
    return some val

/-- `FIID_OBJ_GET`: a field that is not set becomes `-1`. -/
def fiidObjGetStrict (obj : FiidObj) (field : String) : Except Stop (BitVec 64) := do
  match ← fiidObjGet obj field with
  | none => .error (.fiid .dataNotAvailable)
  | some val => return val

/-- `fiid_obj_clear_field`. -/
def fiidObjClearField (obj : FiidObj) (field : String) : Except Stop FiidObj := do
  let keyIndex ← fiidObjLookupFieldIndex obj field
  let setFieldLen ← fiidObjSetFieldLen obj keyIndex
  if setFieldLen = 0 then return obj
  else
    let bitsLen ← fiidObjMaxFieldLen obj field
    if bitsLen ≤ 64 then
      let obj ← fiidObjSet obj field 0
      return obj.setFieldLenAt keyIndex 0
    else if bitsLen % 8 ≠ 0 then .error (.fiid .dataNotByteAligned)
    else
      let bytesLen := bitsRoundBytes bitsLen
      let fieldStart ← fiidObjFieldStart obj field
      if fieldStart % 8 ≠ 0 then .error (.fiid .dataNotByteAligned)
      else
        let fieldOffset := bitsRoundBytes fieldStart
        let data := splice obj.data fieldOffset (List.replicate bytesLen 0)
        return { obj with data := data }.setFieldLenAt keyIndex 0

/-- `fiid_obj_set_data`: the object and the number of bytes taken. -/
def fiidObjSetData (obj : FiidObj) (field : String) (data : List Byte) :
    Except Stop (FiidObj × ℕ) := do
  let keyIndex ← fiidObjLookupFieldIndex obj field
  let fieldStart ← fiidObjFieldStart obj field
  if fieldStart % 8 ≠ 0 then .error (.fiid .dataNotByteAligned)
  else
    let bitsLen ← fiidObjMaxFieldLen obj field
    if bitsLen % 8 ≠ 0 then .error (.fiid .dataNotByteAligned)
    else
      let bytesLen := bitsRoundBytes bitsLen
      let dataLen := if data.length > bytesLen then bytesLen else data.length
      let fieldOffset := bitsRoundBytes fieldStart
      let newData := splice obj.data fieldOffset (data.take dataLen)
      return ({ obj with data := newData }.setFieldLenAt keyIndex (dataLen * 8), dataLen)

/-- `fiid_obj_get_data` into a buffer of `dataLen` bytes: the bytes it copies. The rest of the buffer
    is zeroed, or left alone when the field is not set. -/
def fiidObjGetData (obj : FiidObj) (field : String) (dataLen : ℕ) : Except Stop (List Byte) := do
  let keyIndex ← fiidObjLookupFieldIndex obj field
  let setFieldLen ← fiidObjSetFieldLen obj keyIndex
  if setFieldLen = 0 then return []
  else
    let fieldStart ← fiidObjFieldStart obj field
    if fieldStart % 8 ≠ 0 then .error (.fiid .dataNotByteAligned)
    else
      let bitsLen ← fiidObjMaxFieldLen obj field
      let bitsLen := if setFieldLen < bitsLen then setFieldLen else bitsLen
      if bitsLen % 8 ≠ 0 then .error (.fiid .dataNotByteAligned)
      else
        let bytesLen := bitsRoundBytes bitsLen
        if bytesLen > dataLen then .error (.fiid .overflow)
        else
          let fieldOffset := bitsRoundBytes fieldStart
          return (obj.data.drop fieldOffset).take bytesLen

end FreeIpmi.Fiid
