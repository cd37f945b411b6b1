import FreeIpmi.Fiid.Field

/-! Whole objects and blocks of fields: `fiid_obj_set_all`, `fiid_obj_get_all`,
    `fiid_obj_set_block`, `fiid_obj_get_block` and `fiid_obj_copy` (`fiid/fiid.c`).

    The setters copy the bytes as they are and then mark fields as set, the last one only in part
    when the data is short. The getters walk the fields and copy what is set, skipping unset fields
    and the tail of a field that is set in part. A setter returns the object in every case, so that
    one can ask what a failing call leaves behind. -/

namespace FreeIpmi.Fiid
open Calls

/-! ### Setters -/

/-- The search for the last field that short data reaches, from field number `i` on. -/
def keyIndexEnd (dataBitsLen : ℕ) : List FiidFieldData → ℕ → ℕ → Except Stop ℕ
  | [], i, _ => .ok i
  | f :: fs, i, bitsCounter =>
    let bitsCounter := bitsCounter + f.maxFieldLen
    if bitsCounter ≥ dataBitsLen then
      if bitsCounter % 8 ≠ 0 then .error (.fiid .dataNotByteAligned) else .ok i
    else keyIndexEnd dataBitsLen fs (i + 1) bitsCounter

/-- What is set of the last field. -/
def lastSetFieldLen (dataBitsLen bitsCounter maxFieldLen : ℕ) : ℕ :=
  if dataBitsLen < bitsCounter + maxFieldLen then dataBitsLen - bitsCounter else maxFieldLen

/-- The marking loop: the first `n` fields are set completely, the next one as far as the data
    reaches. -/
def markSet (dataBitsLen : ℕ) : ℕ → ℕ → List FiidFieldData → List FiidFieldData
  | _, _, [] => []
  | 0, bitsCounter, f :: fs =>
    { f with setFieldLen := lastSetFieldLen dataBitsLen bitsCounter f.maxFieldLen } :: fs
  | n + 1, bitsCounter, f :: fs =>
    { f with setFieldLen := f.maxFieldLen } :: markSet dataBitsLen n (bitsCounter + f.maxFieldLen) fs

/-- Marking fields `keyIndexStart` to `keyIndexEnd`; the latter may be the terminator. -/
def FiidObj.markFields (obj : FiidObj) (dataBitsLen keyIndexStart keyIndexEnd : ℕ) : FiidObj :=
  { obj with
    fields := obj.fields.take keyIndexStart ++
      markSet dataBitsLen (keyIndexEnd - keyIndexStart) 0 (obj.fields.drop keyIndexStart)
    terminatorSetFieldLen :=
      if keyIndexEnd = obj.fields.length then
        lastSetFieldLen dataBitsLen (maxLen (obj.fields.drop keyIndexStart)) 0
      else obj.terminatorSetFieldLen }

/-- `fiid_obj_set_all`: what it returns, and the object after the call. -/
def fiidObjSetAll (obj : FiidObj) (data : List Byte) : Except Stop ℕ × FiidObj :=
  let dataLen := if data.length > obj.data.length then obj.data.length else data.length
  let dataBitsLen := dataLen * 8
  let last :=
    if dataLen < obj.data.length then keyIndexEnd dataBitsLen obj.fields 0 0
    else .ok obj.fields.length
  match last with
  | .error e => (.error e, obj)
  | .ok last =>
    let obj := { obj with data := splice obj.data 0 (data.take dataLen) }
    (.ok dataLen, obj.markFields dataBitsLen 0 last)

/-- `_fiid_obj_max_block_len`. -/
def fiidObjMaxBlockLen (obj : FiidObj) (fieldStart fieldEnd : String) : Except Stop ℕ := do
  let start ← fiidObjFieldStart obj fieldStart
  let stop ← fiidObjFieldEnd obj fieldEnd
  if start > stop then .error (.fiid .parameters) else return stop - start

/-- The checks at the head of `fiid_obj_set_block` and `fiid_obj_get_block`: the indexes of the first
    and the last field, the first bit of the block and its maximum length in bits. -/
def blockBounds (obj : FiidObj) (fieldStart fieldEnd : String) : Except Stop (ℕ × ℕ × ℕ × ℕ) := do
  let keyIndexStart ← fiidObjLookupFieldIndex obj fieldStart
  let keyIndexEnd ← fiidObjLookupFieldIndex obj fieldEnd
  if keyIndexStart > keyIndexEnd then .error (.fiid .parameters)
  else
    let blockBitsStart ← fiidObjFieldStart obj fieldStart
    if blockBitsStart % 8 ≠ 0 then .error (.fiid .dataNotByteAligned)
    else
      let blockBitsLen ← fiidObjMaxBlockLen obj fieldStart fieldEnd
      if blockBitsLen % 8 ≠ 0 then .error (.fiid .dataNotByteAligned)
      else return (keyIndexStart, keyIndexEnd, blockBitsStart, blockBitsLen)

/-- The fields `keyIndexStart` to `keyIndexEnd` (inclusive). -/
def blockFields (obj : FiidObj) (keyIndexStart keyIndexEnd : ℕ) : List FiidFieldData :=
  (obj.fields.drop keyIndexStart).take (keyIndexEnd + 1 - keyIndexStart)

/-- `fiid_obj_set_block`: what it returns, and the object after the call. -/
def fiidObjSetBlock (obj : FiidObj) (fieldStart fieldEnd : String) (data : List Byte) :
    Except Stop ℕ × FiidObj :=
  match blockBounds obj fieldStart fieldEnd with
  | .error e => (.error e, obj)
  | .ok (first, last, blockBitsStart, blockBitsLen) =>
    let blockBytesLen := bitsRoundBytes blockBitsLen
    let dataLen := if data.length > blockBytesLen then blockBytesLen else data.length
    let dataBitsLen := dataLen * 8
    let last :=
      -- bytes against bits, so this holds for every block
      if dataLen < blockBitsLen then keyIndexEnd dataBitsLen (blockFields obj first last) first 0
      else .ok last
    match last with
    | .error e => (.error e, obj)
    | .ok last =>
      let fieldOffset := bitsRoundBytes blockBitsStart
      let obj := { obj with data := splice obj.data fieldOffset (data.take dataLen) }
      (.ok dataLen, obj.markFields dataBitsLen first last)

/-- `fiid_obj_set_all` as a call that hands on the object. -/
def trySetAll (obj : FiidObj) (data : List Byte) : Except Stop (FiidObj × ℕ) :=
  match fiidObjSetAll obj data with
  | (.error e, _) => .error e
  | (.ok len, obj) => .ok (obj, len)

/-- `fiid_obj_set_block` as a call that hands on the object. -/
def trySetBlock (obj : FiidObj) (fieldStart fieldEnd : String) (data : List Byte) :
    Except Stop (FiidObj × ℕ) :=
  match fiidObjSetBlock obj fieldStart fieldEnd data with
  | (.error e, _) => .error e
  | (.ok len, obj) => .ok (obj, len)

/-! ### Getters -/

/-- The variables of the copying loop of `fiid_obj_get_all` and `fiid_obj_get_block`. -/
structure Gather where
  bytesWritten : ℕ
  maxBitsCounter : ℕ
  setBitsCounter : ℕ
  optionalBitsCounter : ℕ
  dataIndex : ℕ
  objDataIndex : ℕ
  data : List Byte

/-- `memcpy (dst + dstIndex, src + srcIndex, len)`, undefined outside either array. -/
def memcpy (dst : List Byte) (dstIndex : ℕ) (src : List Byte) (srcIndex len : ℕ) :
    Except Stop (List Byte) :=
  if dstIndex + len ≤ dst.length ∧ srcIndex + len ≤ src.length then
    .ok (splice dst dstIndex ((src.drop srcIndex).take len))
  else .error .undefined

/-- One round of the copying loop. -/
def gatherStep (objData : List Byte) (g : Gather) (c : Cell) : Except Stop Gather :=
  let maxBitsCounter := g.maxBitsCounter + c.maxFieldLen
  if c.setFieldLen ≠ 0 then
    if g.optionalBitsCounter ≠ 0 then .error (.fiid .dataNotByteAligned)
    else if c.setFieldLen ≠ c.maxFieldLen ∧ (g.setBitsCounter + c.setFieldLen) % 8 ≠ 0 then
      .error (.fiid .dataNotByteAligned)
    else
      let setBitsCounter := g.setBitsCounter + c.setFieldLen
      if setBitsCounter % 8 = 0 then do
        let maxBytesCount := bitsRoundBytes maxBitsCounter
        let setBytesCount := bitsRoundBytes setBitsCounter
        let data ← memcpy g.data g.dataIndex objData g.objDataIndex setBytesCount
        return { bytesWritten := g.bytesWritten + setBytesCount
                 maxBitsCounter := 0
                 setBitsCounter := 0
                 optionalBitsCounter := g.optionalBitsCounter
                 dataIndex := g.dataIndex + setBytesCount
                 objDataIndex := g.objDataIndex + maxBytesCount
                 data := data }
      else .ok { g with maxBitsCounter := maxBitsCounter, setBitsCounter := setBitsCounter }
  else if g.setBitsCounter ≠ 0 then .error (.fiid .dataNotByteAligned)
  else
    let optionalBitsCounter := g.optionalBitsCounter + c.maxFieldLen
    if optionalBitsCounter ≠ 0 ∧ optionalBitsCounter % 8 = 0 then
      if optionalBitsCounter ≠ maxBitsCounter then .error (.fiid .dataNotByteAligned)
      else .ok { g with
        maxBitsCounter := 0
        optionalBitsCounter := 0
        objDataIndex := g.objDataIndex + bitsRoundBytes optionalBitsCounter }
    else .ok { g with
      maxBitsCounter := maxBitsCounter
      optionalBitsCounter := optionalBitsCounter }

/-- The copying loop. -/
def gatherLoop (objData : List Byte) : List Cell → Gather → Except Stop Gather
  | [], g => .ok g
  | c :: cs, g => do gatherLoop objData cs (← gatherStep objData g c)

/-- The copying loop and the two checks behind it, into a zeroed buffer of `dataLen` bytes: the
    buffer. -/
def gather (objData : List Byte) (cells : List Cell) (objDataIndex bytesLen dataLen : ℕ) :
    Except Stop (List Byte) := do
  let g ← gatherLoop objData cells ⟨0, 0, 0, 0, 0, objDataIndex, List.replicate dataLen 0⟩
  if g.setBitsCounter ≠ 0 then .error (.fiid .dataNotByteAligned)
  else if g.bytesWritten ≠ bytesLen then .error (.fiid .dataNotByteAligned)
  else return g.data

/-- `fiid_obj_get_all` into a buffer of `dataLen` bytes: what it returns, and the buffer. -/
def fiidObjGetAll (obj : FiidObj) (dataLen : ℕ) : Except Stop (ℕ × List Byte) := do
  let bitsLen := fiidObjLen obj
  let bytesLen :=
    if bitsLen = obj.data.length * 8 then obj.data.length else bitsRoundBytes bitsLen
  if dataLen < bytesLen then .error (.fiid .overflow)
  else if bytesLen = obj.data.length then
    let data ← memcpy (List.replicate dataLen 0) 0 obj.data 0 bytesLen
    return (bytesLen, data)
  else
    let data ← gather obj.data obj.cells 0 bytesLen dataLen
    return (bytesLen, data)

/-- `fiid_obj_get_block` into a buffer of `dataLen` bytes: what it returns, and the buffer. -/
def fiidObjGetBlock (obj : FiidObj) (fieldStart fieldEnd : String) (dataLen : ℕ) :
    Except Stop (ℕ × List Byte) := do
  let (first, last, blockBitsStart, blockBitsMaxLen) ← blockBounds obj fieldStart fieldEnd
  let blockBitsSetLen ← fiidObjBlockLen obj fieldStart fieldEnd
  if blockBitsSetLen % 8 ≠ 0 then .error (.fiid .dataNotByteAligned)
  else
    let blockBytesMaxLen := bitsRoundBytes blockBitsMaxLen
    let blockBytesSetLen := bitsRoundBytes blockBitsSetLen
    if dataLen < blockBytesSetLen then .error (.fiid .overflow)
    else
      let fieldOffset := bitsRoundBytes blockBitsStart
      if blockBytesSetLen = blockBytesMaxLen then
        let data ← memcpy (List.replicate dataLen 0) 0 obj.data fieldOffset blockBytesSetLen
        return (blockBytesSetLen, data)
      else
        let data ← gather obj.data ((blockFields obj first last).map FiidFieldData.toCell)
          fieldOffset blockBytesSetLen dataLen
        return (blockBytesSetLen, data)

/-- `fiid_obj_copy`: an object of another template with the same bytes. -/
def fiidObjCopy (ndebug : Bool) (src : FiidObj) (altTmpl : FiidTemplate) : Except Stop FiidObj :=
  match fiidTemplateLenBytes altTmpl with
  | none => .error (.errno .einval)
  | some dataLen =>
    if src.data.length ≠ dataLen then .error (.fiid .parameters)
    else match fiidObjCreate ndebug altTmpl with
      | none => .error (.errno .einval)
      | some dest => do
        let (len, databuf) ← fiidObjGetAll src src.data.length
        match fiidObjSetAll dest (databuf.take len) with
        | (.error e, _) => .error e
        | (.ok _, dest) => return dest

end FreeIpmi.Fiid
