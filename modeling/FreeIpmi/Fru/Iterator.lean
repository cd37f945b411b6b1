import FreeIpmi.Basic
import FreeIpmi.Lib.Calls

/-! The areas of a FRU device, one after the other (`ipmi-fru.c`).

    The common header says which areas there are, and the records of the multirecord area name
    themselves where they end and which of them is the last. `ipmi_fru_next` passes one area after the
    other, and `ipmi_fru_read_data_area` reads the one that comes next. Both only know what they have
    passed; `iteration` says that they walk along a list.

        chassis ──▶ board ──▶ product ──▶ record ──▶ … ──▶ last record ──▶ end
                                             │
                                             └──▶ a header that is not valid: -1, again and again -/

namespace FreeIpmi.Fru
open Calls

/-- The `IPMI_FRU_ERR_*` codes that the modelled functions store. -/
inductive FruErr where
  | parameters | deviceIdAlreadyOpen | noFruInformation | fruInformationInconsistent
  | commonHeaderChecksumInvalid | commonHeaderFormatInvalid | fruAreaLengthInvalid
  | chassisInfoAreaChecksumInvalid | chassisInfoAreaFormatInvalid
  | boardInfoAreaChecksumInvalid | boardInfoAreaFormatInvalid
  | productInfoAreaChecksumInvalid | productInfoAreaFormatInvalid
  | multirecordAreaChecksumInvalid | multirecordAreaFormatInvalid
  | overflow
  deriving DecidableEq

/-- What is stored on a device; the size of the inventory area is a 16-bit number. -/
structure FruDevice where
  content : List Byte
  small : content.length < 2 ^ 16

/-- What `ipmi_fru_open_device_id` sets, with the flags that are looked at. -/
structure Opened where
  skipChecksumChecks : Bool
  readRaw : Bool
  fruInventoryAreaSize : ℕ
  chassisInfoAreaStartingOffset : ℕ
  boardInfoAreaStartingOffset : ℕ
  productInfoAreaStartingOffset : ℕ
  multirecordAreaStartingOffset : ℕ
  deriving DecidableEq

/-- What `_init_fru_parsing_iterator_data` sets. -/
structure IteratorData where
  chassisInfoAreaParsed : Bool
  boardInfoAreaParsed : Bool
  productInfoAreaParsed : Bool
  multirecordAreaParsed : Bool
  multirecordAreaOffsetInBytes : ℕ
  deriving DecidableEq

/-- `struct ipmi_fru_ctx` of an open device. -/
structure FruCtx where
  opened : Opened
  iterator : IteratorData
  deriving DecidableEq

/-- `_init_fru_parsing_iterator_data`. -/
def IteratorData.init : IteratorData := ⟨false, false, false, false, 0⟩

/-- `_read_fru_data`. -/
def readFruData (dev : FruDevice) (size offset n : ℕ) : Except FruErr (List Byte) :=
  if offset + n > size then .error .fruInformationInconsistent
  else .ok ((dev.content.drop offset).take n)

/-- `_check_checksum`. -/
def checkChecksum (skip : Bool) (frubuf : List Byte) (checksumInit : Byte) : Bool :=
  skip || frubuf.foldl (· + ·) checksumInit == 0

/-- The two halves of the byte at `i`; a field of a template starts with the low bits. -/
def lowBits (frubuf : List Byte) (i : ℕ) : ℕ := (frubuf.getD i 0).toNat % 16
def byteAt (frubuf : List Byte) (i : ℕ) : ℕ := (frubuf.getD i 0).toNat

/-! ### Opening -/

/-- The bytes of `tmpl_fru_common_header`, `tmpl_fru_info_area_header`, and
    `tmpl_fru_multirecord_area_header`. -/
def commonHeaderLen : ℕ := 8
def infoAreaHeaderLength : ℕ := 2
def multirecordHeaderLength : ℕ := 5

/-- `IPMI_FRU_COMMON_HEADER_FORMAT_VERSION`, which the info areas have, too, and
    `IPMI_FRU_MULTIRECORD_AREA_FORMAT_VERSION`. -/
def formatVersion : ℕ := 1
def multirecordAreaFormatVersion : ℕ := 2

/-- `ipmi_fru_open_device_id`, with the flags of the context. -/
def ipmiFruOpenDeviceId (skipChecksumChecks readRaw : Bool) (dev : FruDevice) : Except FruErr FruCtx :=
  let size := dev.content.length
  if size = 0 then .error .noFruInformation
  else if readRaw then .ok ⟨⟨skipChecksumChecks, true, size, 0, 0, 0, 0⟩, .init⟩
  else do
    let frubuf ← readFruData dev size 0 commonHeaderLen
    if !checkChecksum skipChecksumChecks frubuf 0 then .error .commonHeaderChecksumInvalid
    else if byteAt frubuf 2 = 0 ∧ byteAt frubuf 3 = 0 ∧ byteAt frubuf 4 = 0 ∧ byteAt frubuf 5 = 0 then
      .error .noFruInformation
    else if lowBits frubuf 0 ≠ formatVersion then .error .commonHeaderFormatInvalid
    else return ⟨⟨skipChecksumChecks, false, size, byteAt frubuf 2, byteAt frubuf 3, byteAt frubuf 4,
      byteAt frubuf 5⟩, .init⟩

/-! ### Passing areas -/

/-- The fields of `tmpl_fru_multirecord_area_header`. -/
structure MultirecordHeader where
  recordTypeId : ℕ
  recordFormatVersion : ℕ
  endOfList : Bool
  recordLength : ℕ
  recordChecksum : Byte

/-- `_parse_multirecord_header`. -/
def parseMultirecordHeader (dev : FruDevice) (o : Opened) (offset : ℕ) :
    Except FruErr MultirecordHeader :=
  if offset + multirecordHeaderLength > o.fruInventoryAreaSize then .error .fruInformationInconsistent
  else do
    let frubuf ← readFruData dev o.fruInventoryAreaSize offset multirecordHeaderLength
    if !checkChecksum o.skipChecksumChecks frubuf 0 then .error .multirecordAreaChecksumInvalid
    else return {
      recordTypeId := byteAt frubuf 0
      recordFormatVersion := lowBits frubuf 1
      endOfList := byteAt frubuf 1 ≥ 128
      recordLength := byteAt frubuf 2
      recordChecksum := frubuf.getD 3 0 }

/-- `ipmi_fru_first`. -/
def ipmiFruFirst (ctx : FruCtx) : FruCtx := { ctx with iterator := .init }

/-- The record that comes next. -/
def FruCtx.multirecordOffset (ctx : FruCtx) : ℕ :=
  if ctx.iterator.multirecordAreaOffsetInBytes = 0 then ctx.opened.multirecordAreaStartingOffset * 8
  else ctx.iterator.multirecordAreaOffsetInBytes

/-- An area that the header declares has not been passed yet. -/
def FruCtx.chassisLeft (ctx : FruCtx) : Bool :=
  ctx.opened.chassisInfoAreaStartingOffset ≠ 0 ∧ !ctx.iterator.chassisInfoAreaParsed
def FruCtx.boardLeft (ctx : FruCtx) : Bool :=
  ctx.opened.boardInfoAreaStartingOffset ≠ 0 ∧ !ctx.iterator.boardInfoAreaParsed
def FruCtx.productLeft (ctx : FruCtx) : Bool :=
  ctx.opened.productInfoAreaStartingOffset ≠ 0 ∧ !ctx.iterator.productInfoAreaParsed
def FruCtx.multirecordLeft (ctx : FruCtx) : Bool :=
  ctx.opened.multirecordAreaStartingOffset ≠ 0 ∧ !ctx.iterator.multirecordAreaParsed

/-- `ipmi_fru_next`. -/
def ipmiFruNext (dev : FruDevice) (ctx : FruCtx) : ℤ × FruCtx :=
  let it := ctx.iterator
  if ctx.chassisLeft then (1, { ctx with iterator := { it with chassisInfoAreaParsed := true } })
  else if ctx.boardLeft then (1, { ctx with iterator := { it with boardInfoAreaParsed := true } })
  else if ctx.productLeft then (1, { ctx with iterator := { it with productInfoAreaParsed := true } })
  else if ctx.multirecordLeft then
    let offset := ctx.multirecordOffset
    match parseMultirecordHeader dev ctx.opened offset with
    | .error _ => (-1, { ctx with iterator := { it with multirecordAreaOffsetInBytes := offset } })
    | .ok header => (1, { ctx with iterator := { it with
        multirecordAreaParsed := header.endOfList
        multirecordAreaOffsetInBytes := offset + multirecordHeaderLength + header.recordLength } })
  else (0, ctx)

/-! ### Reading areas -/

/-- The types of areas; a record has its type id. -/
inductive AreaType where
  | chassisInfoArea | boardInfoArea | productInfoArea | multirecord (recordTypeId : ℕ) | rawData
  deriving DecidableEq

/-- What `ipmi_fru_read_data_area` stores. -/
structure Area where
  areaType : AreaType
  areaLength : ℕ
  areabuf : List Byte
  deriving DecidableEq

/-- What the three info areas differ in. -/
structure InfoArea where
  areaType : AreaType
  startingOffset : Opened → ℕ
  formatInvalid : FruErr
  checksumInvalid : FruErr

def chassisInfo : InfoArea where
  areaType := .chassisInfoArea
  startingOffset := Opened.chassisInfoAreaStartingOffset
  formatInvalid := .chassisInfoAreaFormatInvalid
  checksumInvalid := .chassisInfoAreaChecksumInvalid

def boardInfo : InfoArea where
  areaType := .boardInfoArea
  startingOffset := Opened.boardInfoAreaStartingOffset
  formatInvalid := .boardInfoAreaFormatInvalid
  checksumInvalid := .boardInfoAreaChecksumInvalid

def productInfo : InfoArea where
  areaType := .productInfoArea
  startingOffset := Opened.productInfoAreaStartingOffset
  formatInvalid := .productInfoAreaFormatInvalid
  checksumInvalid := .productInfoAreaChecksumInvalid

/-- `_read_info_area_data`. -/
def readInfoAreaData (dev : FruDevice) (o : Opened) (area : InfoArea) (areabuflen : ℕ) :
    Except FruErr Area := do
  let size := o.fruInventoryAreaSize
  let offset := area.startingOffset o * 8
  let header ← readFruData dev size offset infoAreaHeaderLength
  if lowBits header 0 ≠ formatVersion then .error area.formatInvalid
  else
    let infoAreaLengthBytes := byteAt header 1 * 8
    if byteAt header 1 = 0 ∨ size < offset + infoAreaLengthBytes then .error .fruAreaLengthInvalid
    else do
      let frubuf ← readFruData dev size offset infoAreaLengthBytes
      if !checkChecksum o.skipChecksumChecks frubuf 0 then .error area.checksumInvalid
      else if areabuflen < infoAreaLengthBytes then .error .overflow
      else return ⟨area.areaType, infoAreaLengthBytes - infoAreaHeaderLength,
        frubuf.drop infoAreaHeaderLength⟩

/-- `_read_multirecord_area_data`, of the record at an offset. -/
def readMultirecordAreaData (dev : FruDevice) (o : Opened) (offset areabuflen : ℕ) :
    Except FruErr Area := do
  let header ← parseMultirecordHeader dev o offset
  if header.recordFormatVersion ≠ multirecordAreaFormatVersion then .error .multirecordAreaFormatInvalid
  else if header.recordLength = 0
      ∨ o.fruInventoryAreaSize < offset + multirecordHeaderLength + header.recordLength then
    .error .fruAreaLengthInvalid
  else do
    let frubuf ← readFruData dev o.fruInventoryAreaSize (offset + multirecordHeaderLength)
      header.recordLength
    if !checkChecksum o.skipChecksumChecks frubuf header.recordChecksum then
      .error .multirecordAreaChecksumInvalid
    else if areabuflen < header.recordLength then .error .overflow
    else return ⟨.multirecord header.recordTypeId, header.recordLength, frubuf⟩

/-- `_read_raw_data`. -/
def readRawData (dev : FruDevice) (o : Opened) (areabuflen : ℕ) : Except FruErr Area := do
  let frubuf ← readFruData dev o.fruInventoryAreaSize 0 (min areabuflen o.fruInventoryAreaSize)
  return ⟨.rawData, o.fruInventoryAreaSize, frubuf⟩

/-- `ipmi_fru_read_data_area`; `none` where nothing is stored. -/
def ipmiFruReadDataArea (dev : FruDevice) (ctx : FruCtx) (areabuflen : ℕ) :
    Except FruErr (Option Area) × FruCtx :=
  let o := ctx.opened
  if areabuflen = 0 then (.error .parameters, ctx)
  else if o.readRaw then ((readRawData dev o areabuflen).map some, ctx)
  else if ctx.chassisLeft then ((readInfoAreaData dev o chassisInfo areabuflen).map some, ctx)
  else if ctx.boardLeft then ((readInfoAreaData dev o boardInfo areabuflen).map some, ctx)
  else if ctx.productLeft then ((readInfoAreaData dev o productInfo areabuflen).map some, ctx)
  else if ctx.multirecordLeft then
    let offset := ctx.multirecordOffset
    ((readMultirecordAreaData dev o offset areabuflen).map some,
      { ctx with iterator := { ctx.iterator with multirecordAreaOffsetInBytes := offset } })
  else (.ok none, ctx)

/-! ### The areas as a list -/

/-- An area that the iterator can be at. -/
inductive Place where
  | chassis | board | product
  -- a record, or what is taken for one, at an offset
  | multirecord (offset : ℕ)
  deriving DecidableEq

theorem parse_le {dev : FruDevice} {o : Opened} {offset : ℕ} {header : MultirecordHeader}
    (h : parseMultirecordHeader dev o offset = .ok header) :
    offset + multirecordHeaderLength ≤ o.fruInventoryAreaSize := by
  unfold parseMultirecordHeader at h
  split at h
  · cases h
  · omega

/-- The records from an offset on: up to one with the end-of-list bit, or a header that is not valid. -/
def records (dev : FruDevice) (o : Opened) (offset : ℕ) : List ℕ :=
  offset :: match _hparse : parseMultirecordHeader dev o offset with
    | .error _ => []
    | .ok header =>
      if header.endOfList then []
      else records dev o (offset + multirecordHeaderLength + header.recordLength)
termination_by o.fruInventoryAreaSize - offset
decreasing_by
  have hle := parse_le _hparse
  simp only [multirecordHeaderLength] at hle ⊢
  omega

/-- A place, where an area is left. -/
def leftPlace (left : Bool) (p : Place) : List Place := if left then [p] else []

/-- The areas that have not been passed. -/
def remaining (dev : FruDevice) (ctx : FruCtx) : List Place :=
  leftPlace ctx.chassisLeft .chassis ++ leftPlace ctx.boardLeft .board
    ++ leftPlace ctx.productLeft .product
    ++ if ctx.multirecordLeft then (records dev ctx.opened ctx.multirecordOffset).map .multirecord else []

/-- All areas. -/
def areas (dev : FruDevice) (o : Opened) : List Place := remaining dev ⟨o, .init⟩

/-- An area that `ipmi_fru_next` can pass: any but a record whose header is not valid. -/
def passable (dev : FruDevice) (o : Opened) : Place → Bool
  | .multirecord offset => (parseMultirecordHeader dev o offset).toBool
  | _ => true

/-- The contents of an area. -/
def readPlace (dev : FruDevice) (o : Opened) (areabuflen : ℕ) : Place → Except FruErr Area
  | .chassis => readInfoAreaData dev o chassisInfo areabuflen
  | .board => readInfoAreaData dev o boardInfo areabuflen
  | .product => readInfoAreaData dev o productInfo areabuflen
  | .multirecord offset => readMultirecordAreaData dev o offset areabuflen

/-- What an iterator over a list of areas returns for a read. -/
def readHead (dev : FruDevice) (o : Opened) (areabuflen : ℕ) (rest : List Place) :
    Except FruErr (Option Area) :=
  if areabuflen = 0 then .error .parameters
  else if o.readRaw then (readRawData dev o areabuflen).map some
  else
    match rest with
    | [] => .ok none
    | p :: _ => (readPlace dev o areabuflen p).map some

/-- What it returns for a step, and where it is then. -/
def passHead (dev : FruDevice) (o : Opened) : List Place → ℤ × List Place
  | [] => (0, [])
  | p :: rest => if passable dev o p then (1, rest) else (-1, p :: rest)

/-! ### The iterator walks along the list -/

section steps
variable {dev : FruDevice} {ctx : FruCtx}

theorem records_ok {o : Opened} {offset : ℕ} {header : MultirecordHeader}
    (h : parseMultirecordHeader dev o offset = .ok header) :
    records dev o offset = offset :: if header.endOfList then []
      else records dev o (offset + multirecordHeaderLength + header.recordLength) := by
  rw [records]
  split
  next e he => rw [h] at he; cases he
  next header' he =>
    rw [h] at he
    cases he
    rfl

theorem records_error {o : Opened} {offset : ℕ} {e : FruErr}
    (h : parseMultirecordHeader dev o offset = .error e) : records dev o offset = [offset] := by
  rw [records]
  split
  next => rfl
  next header' he => rw [h] at he; cases he

/-- Behind the info areas only records are left. -/
theorem remaining_records (hc : ctx.chassisLeft = false) (hb : ctx.boardLeft = false)
    (hp : ctx.productLeft = false) : remaining dev ctx = if ctx.multirecordLeft then
      (records dev ctx.opened ctx.multirecordOffset).map .multirecord else [] := by
  simp [remaining, leftPlace, hc, hb, hp]

theorem multirecordOffset_ne_zero (hm : ctx.multirecordLeft = true) : ctx.multirecordOffset ≠ 0 := by
  have hstart : ctx.opened.multirecordAreaStartingOffset ≠ 0 := by
    simp only [FruCtx.multirecordLeft, decide_eq_true_eq] at hm
    exact hm.1
  unfold FruCtx.multirecordOffset
  split <;> omega

/-- The context with the iterator at another record, or behind the last one. -/
def FruCtx.atRecord (ctx : FruCtx) (parsed : Bool) (offset : ℕ) : FruCtx :=
  { ctx with iterator := { ctx.iterator with
      multirecordAreaParsed := parsed, multirecordAreaOffsetInBytes := offset } }

theorem remaining_atRecord (dev : FruDevice) (parsed : Bool) {offset : ℕ} (hc : ctx.chassisLeft = false)
    (hb : ctx.boardLeft = false) (hp : ctx.productLeft = false) (hm : ctx.multirecordLeft = true)
    (hoffset : offset ≠ 0) : remaining dev (ctx.atRecord parsed offset)
      = if parsed then [] else (records dev ctx.opened offset).map .multirecord := by
  have hstart : ctx.opened.multirecordAreaStartingOffset ≠ 0 := by
    simp only [FruCtx.multirecordLeft, decide_eq_true_eq] at hm
    exact hm.1
  rw [remaining_records (show (ctx.atRecord parsed offset).chassisLeft = false from hc)
    (show (ctx.atRecord parsed offset).boardLeft = false from hb)
    (show (ctx.atRecord parsed offset).productLeft = false from hp)]
  cases parsed <;>
    simp [FruCtx.multirecordLeft, FruCtx.multirecordOffset, FruCtx.atRecord, hstart, hoffset]

/-- A step of the iterator. -/
theorem next_spec (dev : FruDevice) (ctx : FruCtx) :
    (ipmiFruNext dev ctx).1 = (passHead dev ctx.opened (remaining dev ctx)).1
      ∧ remaining dev (ipmiFruNext dev ctx).2 = (passHead dev ctx.opened (remaining dev ctx)).2
      ∧ (ipmiFruNext dev ctx).2.opened = ctx.opened := by
  unfold ipmiFruNext
  by_cases hc : ctx.chassisLeft = true
  · rw [if_pos hc]
    refine ⟨?_, ?_, rfl⟩
    · simp [remaining, leftPlace, hc, passHead, passable]
    · simp [remaining, leftPlace, hc, passHead, passable]
      simp [FruCtx.chassisLeft, FruCtx.boardLeft, FruCtx.productLeft, FruCtx.multirecordLeft,
        FruCtx.multirecordOffset]
  rw [if_neg hc]
  by_cases hb : ctx.boardLeft = true
  · rw [if_pos hb]
    refine ⟨?_, ?_, rfl⟩
    · simp [remaining, leftPlace, hc, hb, passHead, passable]
    · have hc' : FruCtx.chassisLeft { ctx with iterator :=
          { ctx.iterator with boardInfoAreaParsed := true } } = false := eq_false_of_ne_true hc
      simp [remaining, leftPlace, hc, hc', hb, passHead, passable]
      simp [FruCtx.boardLeft, FruCtx.productLeft, FruCtx.multirecordLeft, FruCtx.multirecordOffset]
  rw [if_neg hb]
  by_cases hp : ctx.productLeft = true
  · rw [if_pos hp]
    refine ⟨?_, ?_, rfl⟩
    · simp [remaining, leftPlace, hc, hb, hp, passHead, passable]
    · have hc' : FruCtx.chassisLeft { ctx with iterator :=
          { ctx.iterator with productInfoAreaParsed := true } } = false := eq_false_of_ne_true hc
      have hb' : FruCtx.boardLeft { ctx with iterator :=
          { ctx.iterator with productInfoAreaParsed := true } } = false := eq_false_of_ne_true hb
      simp [remaining, leftPlace, hc, hc', hb, hb', hp, passHead, passable]
      simp [FruCtx.productLeft, FruCtx.multirecordLeft, FruCtx.multirecordOffset]
  rw [if_neg hp]
  by_cases hm : ctx.multirecordLeft = true
  · rw [if_pos hm]
    have hc' := eq_false_of_ne_true hc
    have hb' := eq_false_of_ne_true hb
    have hp' := eq_false_of_ne_true hp
    have hne := multirecordOffset_ne_zero hm
    have hparsed : ctx.iterator.multirecordAreaParsed = false := by
      simp only [FruCtx.multirecordLeft, decide_eq_true_eq] at hm
      simpa using hm.2
    rw [remaining_records hc' hb' hp', if_pos hm]
    cases hparse : parseMultirecordHeader dev ctx.opened ctx.multirecordOffset with
    | error e =>
      have hsame := remaining_atRecord dev ctx.iterator.multirecordAreaParsed hc' hb' hp' hm hne
      rw [hparsed, records_error hparse] at hsame
      simp only [hparse]
      rw [records_error hparse]
      refine ⟨by simp [passHead, passable, hparse, Except.toBool], ?_, trivial⟩
      simpa [passHead, passable, hparse, Except.toBool, FruCtx.atRecord, hparsed] using hsame
    | ok header =>
      have hoffset : ctx.multirecordOffset + multirecordHeaderLength + header.recordLength ≠ 0 := by omega
      have hnext := remaining_atRecord dev header.endOfList hc' hb' hp' hm hoffset
      simp only [hparse]
      rw [records_ok hparse]
      refine ⟨by simp [passHead, passable, hparse, Except.toBool], ?_, trivial⟩
      simp only [List.map_cons, passHead, passable, hparse, Except.toBool, if_true]
      refine hnext.trans ?_
      split <;> rfl
  · rw [if_neg hm]
    simp [remaining, leftPlace, hc, hb, hp, hm, passHead]

/-- A read, which only prepares the iterator for the first record. -/
theorem read_spec (dev : FruDevice) (ctx : FruCtx) (areabuflen : ℕ) :
    (ipmiFruReadDataArea dev ctx areabuflen).1 = readHead dev ctx.opened areabuflen (remaining dev ctx)
      ∧ remaining dev (ipmiFruReadDataArea dev ctx areabuflen).2 = remaining dev ctx
      ∧ (ipmiFruReadDataArea dev ctx areabuflen).2.opened = ctx.opened := by
  unfold ipmiFruReadDataArea readHead
  by_cases hlen : areabuflen = 0
  · simp [hlen]
  by_cases hraw : ctx.opened.readRaw = true
  · simp [hlen, hraw]
  by_cases hc : ctx.chassisLeft = true
  · simp [hlen, hraw, hc, remaining, leftPlace, readPlace]
  by_cases hb : ctx.boardLeft = true
  · simp [hlen, hraw, hc, hb, remaining, leftPlace, readPlace]
  by_cases hp : ctx.productLeft = true
  · simp [hlen, hraw, hc, hb, hp, remaining, leftPlace, readPlace]
  by_cases hm : ctx.multirecordLeft = true
  · have hc' := eq_false_of_ne_true hc
    have hb' := eq_false_of_ne_true hb
    have hp' := eq_false_of_ne_true hp
    have hsame := remaining_atRecord dev ctx.iterator.multirecordAreaParsed hc' hb' hp' hm
      (multirecordOffset_ne_zero hm)
    have hparsed : ctx.iterator.multirecordAreaParsed = false := by
      simp only [FruCtx.multirecordLeft, decide_eq_true_eq] at hm
      simpa using hm.2
    obtain ⟨rest, hrest⟩ : ∃ rest, records dev ctx.opened ctx.multirecordOffset
        = ctx.multirecordOffset :: rest := ⟨_, by rw [records]⟩
    rw [remaining_records hc' hb' hp', if_pos hm]
    simp only [hlen, hraw, hc, hb, hp, hm, if_true, if_false, Bool.false_eq_true]
    refine ⟨by simp [hrest, readPlace], ?_, trivial⟩
    simpa [hparsed, FruCtx.atRecord] using hsame
  · simp [hlen, hraw, hc, hb, hp, hm, remaining, leftPlace]

end steps

/-! ### Runs -/

/-- A call. -/
inductive Call where
  | first | next | read (areabuflen : ℕ)

/-- What it returns. -/
inductive Result where
  | first | next (rv : ℤ) | read (area : Except FruErr (Option Area))

/-- One call. -/
def Call.run (dev : FruDevice) (ctx : FruCtx) : Call → Result × FruCtx
  | .first => (.first, ipmiFruFirst ctx)
  | .next => (.next (ipmiFruNext dev ctx).1, (ipmiFruNext dev ctx).2)
  | .read areabuflen =>
    (.read (ipmiFruReadDataArea dev ctx areabuflen).1, (ipmiFruReadDataArea dev ctx areabuflen).2)

/-- The same call of an iterator over the list of areas. -/
def Call.along (dev : FruDevice) (o : Opened) (rest : List Place) : Call → Result × List Place
  | .first => (.first, areas dev o)
  | .next => (.next (passHead dev o rest).1, (passHead dev o rest).2)
  | .read areabuflen => (.read (readHead dev o areabuflen rest), rest)

/-- The results of some calls. -/
def runCalls (dev : FruDevice) : FruCtx → List Call → List Result
  | _, [] => []
  | ctx, c :: cs => (c.run dev ctx).1 :: runCalls dev (c.run dev ctx).2 cs

def alongCalls (dev : FruDevice) (o : Opened) : List Place → List Call → List Result
  | _, [] => []
  | rest, c :: cs => (c.along dev o rest).1 :: alongCalls dev o (c.along dev o rest).2 cs

/-- The step lemma: a call does the same to the list of the areas that are left. -/
theorem Call.run_along (dev : FruDevice) (ctx : FruCtx) (c : Call) :
    (c.run dev ctx).1 = (c.along dev ctx.opened (remaining dev ctx)).1
      ∧ remaining dev (c.run dev ctx).2 = (c.along dev ctx.opened (remaining dev ctx)).2
      ∧ (c.run dev ctx).2.opened = ctx.opened := by
  cases c with
  | first => exact ⟨rfl, rfl, rfl⟩
  | next =>
    obtain ⟨hrv, hrest, hopened⟩ := next_spec dev ctx
    exact ⟨congrArg Result.next hrv, hrest, hopened⟩
  | read areabuflen =>
    obtain ⟨harea, hrest, hopened⟩ := read_spec dev ctx areabuflen
    exact ⟨congrArg Result.read harea, hrest, hopened⟩

/-- The run lemma. -/
theorem runCalls_along (dev : FruDevice) (cs : List Call) (ctx : FruCtx) :
    runCalls dev ctx cs = alongCalls dev ctx.opened (remaining dev ctx) cs := by
  induction cs generalizing ctx with
  | nil => rfl
  | cons c cs ih =>
    obtain ⟨hresult, hrest, hopened⟩ := c.run_along dev ctx
    rw [runCalls, alongCalls, hresult, ih, hrest, hopened]

/-! ### Walks -/

/-- `ipmi_fru_read_data_area` and `ipmi_fru_next`, until the latter does not return 1: what was read,
    and the last return value. -/
def walk (dev : FruDevice) (areabuflen : ℕ) :
    ℕ → FruCtx → Option (List (Except FruErr (Option Area)) × ℤ)
  | 0, _ => none
  | n + 1, ctx =>
    let (area, ctx) := ipmiFruReadDataArea dev ctx areabuflen
    let (rv, ctx) := ipmiFruNext dev ctx
    if rv = 1 then (walk dev areabuflen n ctx).map fun r => (area :: r.1, r.2) else some ([area], rv)

/-- A walk reads the areas that can be passed, one after the other, and then once more. -/
theorem walk_along (dev : FruDevice) (areabuflen : ℕ) {rest : List Place} {ctx : FruCtx}
    (h : remaining dev ctx = rest) :
    walk dev areabuflen (rest.length + 1) ctx = some
      ((rest.takeWhile (passable dev ctx.opened)).map (readHead dev ctx.opened areabuflen [·])
        ++ [readHead dev ctx.opened areabuflen (rest.dropWhile (passable dev ctx.opened))],
        if (rest.dropWhile (passable dev ctx.opened)).isEmpty then 0 else -1) := by
  induction rest generalizing ctx with
  | nil =>
    obtain ⟨harea, hrest, hopened⟩ := read_spec dev ctx areabuflen
    obtain ⟨hrv, -, -⟩ := next_spec dev (ipmiFruReadDataArea dev ctx areabuflen).2
    rw [hrest, h, hopened] at hrv
    rw [h] at harea
    simp [walk, harea, hrv, passHead]
  | cons p rest ih =>
    obtain ⟨harea, hrest, hopened⟩ := read_spec dev ctx areabuflen
    obtain ⟨hrv, hrest', hopened'⟩ := next_spec dev (ipmiFruReadDataArea dev ctx areabuflen).2
    rw [hrest, h, hopened] at hrv hrest'
    rw [h] at harea
    have hhead : readHead dev ctx.opened areabuflen (p :: rest)
        = readHead dev ctx.opened areabuflen [p] := rfl
    by_cases hpass : passable dev ctx.opened p = true
    · rw [passHead, if_pos hpass] at hrv hrest'
      rw [List.length_cons, walk]
      dsimp only
      rw [hrv, if_pos rfl, ih hrest', harea, hhead, hopened', hopened]
      simp [hpass]
    · rw [passHead, if_neg hpass] at hrv
      rw [List.length_cons, walk]
      dsimp only
      rw [hrv, if_neg (by simp), harea]
      simp [hpass]

/-- The records follow each other, and there is only so much room for them. -/
theorem records_bound (dev : FruDevice) (o : Opened) (offset : ℕ) :
    (records dev o offset).Pairwise (· < ·) ∧ (∀ r ∈ records dev o offset, offset ≤ r)
      ∧ (records dev o offset).length ≤ (o.fruInventoryAreaSize - offset) / 5 + 1 := by
  induction hn : o.fruInventoryAreaSize - offset using Nat.strong_induction_on generalizing offset with
  | _ n ih =>
    cases hparse : parseMultirecordHeader dev o offset with
    | error e => simp [records_error hparse]
    | ok header =>
      have hle := parse_le hparse
      rw [records_ok hparse]
      unfold multirecordHeaderLength at hle ⊢
      cases header.endOfList with
      | true => simp
      | false =>
        obtain ⟨hpair, hlow, hlength⟩ :=
          ih (o.fruInventoryAreaSize - (offset + 5 + header.recordLength)) (by omega) _ rfl
        simp only [Bool.false_eq_true, if_false]
        refine ⟨List.pairwise_cons.mpr ⟨fun r hr => ?_, hpair⟩, ?_, ?_⟩
        · have hr' := hlow r hr
          omega
        · intro r hr
          rcases List.mem_cons.mp hr with rfl | hr
          · exact le_rfl
          · have hr' := hlow r hr
            omega
        · rw [List.length_cons]
          omega

theorem areas_bound (dev : FruDevice) (o : Opened) :
    (areas dev o).Nodup ∧ (areas dev o).length ≤ o.fruInventoryAreaSize / 5 + 4 := by
  obtain ⟨hpair, -, hlength⟩ := records_bound dev o (FruCtx.multirecordOffset ⟨o, .init⟩)
  unfold areas remaining
  generalize hms : (if FruCtx.multirecordLeft ⟨o, .init⟩ then
    (records dev o (FruCtx.multirecordOffset ⟨o, .init⟩)).map Place.multirecord else []) = ms
  have hnodup : ms.Nodup := by
    rw [← hms]
    split
    · exact (hpair.imp ne_of_lt).map Place.multirecord fun a b hab => by simpa using hab
    · exact List.nodup_nil
  have hrecord : ∀ p ∈ ms, ∃ offset, p = .multirecord offset := by
    rw [← hms]
    split
    · intro p hp
      obtain ⟨offset, -, rfl⟩ := List.mem_map.mp hp
      exact ⟨offset, rfl⟩
    · simp
  have hroom : ms.length ≤ o.fruInventoryAreaSize / 5 + 1 := by
    rw [← hms]
    split
    · rw [List.length_map]
      omega
    · simp
  have hchassis : Place.chassis ∉ ms := fun h => by simpa using hrecord _ h
  have hboard : Place.board ∉ ms := fun h => by simpa using hrecord _ h
  have hproduct : Place.product ∉ ms := fun h => by simpa using hrecord _ h
  constructor
  · cases FruCtx.chassisLeft ⟨o, .init⟩ <;> cases FruCtx.boardLeft ⟨o, .init⟩ <;>
      cases FruCtx.productLeft ⟨o, .init⟩ <;> simp [leftPlace, hnodup, hchassis, hboard, hproduct]
  · cases FruCtx.chassisLeft ⟨o, .init⟩ <;> cases FruCtx.boardLeft ⟨o, .init⟩ <;>
      cases FruCtx.productLeft ⟨o, .init⟩ <;> simp [leftPlace] <;> omega

/-- An open device is at its first area. -/
theorem open_iterator {skipChecksumChecks readRaw : Bool} {dev : FruDevice} {ctx : FruCtx}
    (h : ipmiFruOpenDeviceId skipChecksumChecks readRaw dev = .ok ctx) :
    ctx.iterator = .init ∧ ctx.opened.fruInventoryAreaSize = dev.content.length := by
  simp only [ipmiFruOpenDeviceId] at h
  split at h
  · cases h
  split at h
  · cases h
    exact ⟨rfl, rfl⟩
  obtain ⟨frubuf, -, h⟩ := bind_eq_ok.mp h
  split at h
  · cases h
  split at h
  · cases h
  split at h
  · cases h
  · cases h
    exact ⟨rfl, rfl⟩

/-- The iterator of an open device walks along the list of its areas, whatever is called in between.
    No area is in the list twice, and a walk ends: it reads every area up to the first record whose
    header is not valid, and then once more. -/
theorem iteration {skipChecksumChecks readRaw : Bool} {dev : FruDevice} {ctx : FruCtx}
    (h : ipmiFruOpenDeviceId skipChecksumChecks readRaw dev = .ok ctx) :
    (∀ cs, runCalls dev ctx cs = alongCalls dev ctx.opened (areas dev ctx.opened) cs)
      ∧ (areas dev ctx.opened).Nodup
      ∧ (areas dev ctx.opened).length ≤ dev.content.length / 5 + 4
      ∧ ∀ areabuflen, walk dev areabuflen ((areas dev ctx.opened).length + 1) (ipmiFruFirst ctx) = some
        (((areas dev ctx.opened).takeWhile (passable dev ctx.opened)).map
            (readHead dev ctx.opened areabuflen [·])
          ++ [readHead dev ctx.opened areabuflen
            ((areas dev ctx.opened).dropWhile (passable dev ctx.opened))],
          if ((areas dev ctx.opened).dropWhile (passable dev ctx.opened)).isEmpty then 0 else -1) := by
  obtain ⟨hiterator, hsize⟩ := open_iterator h
  obtain ⟨hnodup, hlength⟩ := areas_bound dev ctx.opened
  have hremaining : remaining dev ctx = areas dev ctx.opened := by
    rw [areas, ← hiterator]
  refine ⟨fun cs => ?_, hnodup, hsize ▸ hlength, fun areabuflen => ?_⟩
  · rw [runCalls_along, hremaining]
  · exact walk_along dev areabuflen rfl

/-- A device with a chassis area, a board area, and two records behind them. -/
def twoRecords : FruDevice where
  content := [0x01, 0, 0x01, 0x02, 0, 0x03, 0, 0xF9] ++ [0x01, 0x01, 0x17, 0xC1, 0, 0, 0, 0x26]
    ++ [0x01, 0x01, 0, 0, 0, 0, 0xC1, 0x3D] ++ [0x00, 0x02, 0x02, 0x01, 0xFB] ++ [0xAA, 0x55]
    ++ [0xC0, 0x82, 0x03, 0xFA, 0xC1] ++ [1, 2, 3] ++ [0]
  small := by decide

/-- What is set when it is opened. -/
def twoRecordsOpened : Opened := ⟨false, false, 40, 1, 2, 0, 3⟩

theorem areas_twoRecords :
    areas twoRecords twoRecordsOpened = [.chassis, .board, .multirecord 24, .multirecord 31] := by
  have hfirst : parseMultirecordHeader twoRecords twoRecordsOpened 24 = .ok ⟨0, 2, false, 2, 1⟩ := rfl
  have hlast : parseMultirecordHeader twoRecords twoRecordsOpened 31 = .ok ⟨0xC0, 2, true, 3, 0xFA⟩ := rfl
  have hrecords : records twoRecords twoRecordsOpened 24 = [24, 31] := by
    rw [records_ok hfirst]
    exact congrArg _ (records_ok hlast)
  exact congrArg (fun rest => Place.chassis :: .board :: rest.map .multirecord) hrecords

/-- The walk reads all of them, whatever calls there were before. -/
theorem iteration_sample :
    walk twoRecords 512 5 (ipmiFruFirst ⟨twoRecordsOpened, .init⟩) = some
      ([.ok (some ⟨.chassisInfoArea, 6, [0x17, 0xC1, 0, 0, 0, 0x26]⟩),
        .ok (some ⟨.boardInfoArea, 6, [0, 0, 0, 0, 0xC1, 0x3D]⟩),
        .ok (some ⟨.multirecord 0, 2, [0xAA, 0x55]⟩), .ok (some ⟨.multirecord 0xC0, 3, [1, 2, 3]⟩),
        .ok none], 0)
    ∧ runCalls twoRecords ⟨twoRecordsOpened, .init⟩ [.next, .next, .read 512, .read 1, .next, .next, .next]
      = [.next 1, .next 1, .read (.ok (some ⟨.multirecord 0, 2, [0xAA, 0x55]⟩)), .read (.error .overflow),
        .next 1, .next 1, .next 0] := by
  obtain ⟨hcalls, -, -, hwalk⟩ := iteration (show ipmiFruOpenDeviceId false false twoRecords
    = .ok ⟨twoRecordsOpened, .init⟩ from rfl)
  simp only [areas_twoRecords] at hcalls hwalk
  exact ⟨(hwalk 512).trans rfl, (hcalls _).trans rfl⟩

/-- A device whose only declared area is a multirecord area outside of it. -/
def noRecord : FruDevice := ⟨[0x01, 0, 0, 0, 0, 0x01, 0, 0xFE], by decide⟩

/-- `ipmi_fru_next` does not return 1 there, although an area is left. -/
theorem next_fails : ¬ ∀ (skipChecksumChecks readRaw : Bool) (dev : FruDevice) (ctx : FruCtx),
    ipmiFruOpenDeviceId skipChecksumChecks readRaw dev = .ok ctx →
    ((ipmiFruNext dev ctx).1 = 1 ↔ remaining dev ctx ≠ []) := by
  intro h
  have hnext := (h false false noRecord ⟨⟨false, false, 8, 0, 0, 0, 1⟩, .init⟩ rfl).mpr
  have hleft : remaining noRecord ⟨⟨false, false, 8, 0, 0, 0, 1⟩, .init⟩ ≠ [] := by
    rw [remaining_records rfl rfl rfl, if_pos (by decide), records]
    simp
  exact absurd (hnext hleft) (by decide)

end FreeIpmi.Fru
