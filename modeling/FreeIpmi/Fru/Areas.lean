import FreeIpmi.Basic
import FreeIpmi.Lib.Calls
import FreeIpmi.Lib.Loops

/-! The chassis, board and product areas of a FRU device (`ipmi-fru-data.c`).

    An area is a fixed header, a few predefined fields and then custom fields. Every field begins with
    a byte that has its type and its length, and a byte that is not the beginning of a field ends the
    list. A caller passes a pointer for each field that it wants. The numbers of the code are unsigned
    32-bit numbers; a read that is not inside the buffer, and a failed assertion, end a call. -/

namespace FreeIpmi.Fru
open Calls

/-- The `IPMI_FRU_ERR_*` codes of the three functions. -/
inductive AreaErr where
  | parameters | fruInformationInconsistent | overflow | systemError
  deriving DecidableEq, Repr

/-- What ends a call that does not return 0. -/
inductive AreaStop where
  | errnum (e : AreaErr)
  -- a byte that is not in the buffer is read
  | outside
  -- an assertion fails
  | assertion
  deriving DecidableEq, Repr

/-- `ipmi_fru_field_t`: the bytes that are stored in it. -/
abbrev FruField := List Byte

/-- `IPMI_FRU_SENTINEL_VALUE`. -/
def sentinelValue : Byte := 0xC1

/-- `IPMI_FRU_TYPE_LENGTH_TYPE_CODE_LANGUAGE_CODE`. -/
def typeCodeLanguageCode : Byte := 0x03

/-- `areabufptr[i]`. -/
def readAt (areabuf : List Byte) (i : ℕ) : Except AreaStop Byte :=
  match areabuf[i]? with
  | none => .error .outside
  | some x => .ok x

/-- The type code in a type/length byte. -/
def typeCode (typeLength : Byte) : Byte := (typeLength &&& 0xC0) >>> 6

/-- The number of bytes that a type/length byte announces. -/
def numberOfDataBytes (typeLength : Byte) : ℕ := (typeLength &&& 0x3F).toNat

/-- The offset behind a field, as an `unsigned int`. -/
def offsetBehind (areaOffset numberOfDataBytes : ℕ) : ℕ := (areaOffset + 1 + numberOfDataBytes) % 2 ^ 32

/-- `_parse_type_length`: the number of data bytes, and what is stored if a field is passed. -/
def parseTypeLength (areabuf : List Byte) (currentAreaOffset : ℕ) (field : Bool) :
    Except AreaStop (ℕ × FruField) := do
  let typeLength ← readAt areabuf currentAreaOffset
  if typeLength = sentinelValue then .error .assertion
  else
    let n := numberOfDataBytes typeLength
    if typeCode typeLength = typeCodeLanguageCode ∧ n = 0x01 then
      .error (.errnum .fruInformationInconsistent)
    else if offsetBehind currentAreaOffset n > areabuf.length then
      .error (.errnum .fruInformationInconsistent)
    else if field then
      if currentAreaOffset + 1 + n ≤ areabuf.length then
        return (n, (areabuf.drop currentAreaOffset).take (1 + n))
      else .error .outside
    else return (n, [])

/-- What the `memset` of the passed fields leaves. -/
def cleared (wanted : List Bool) : List (Option FruField) :=
  wanted.map fun passed => if passed then some [] else none

/-- The predefined fields from an offset on, of which these are passed: what is stored in them, and the
    offset behind them. There is none after a sentinel (`goto out`). -/
def predefinedFields (areabuf : List Byte) :
    List Bool → ℕ → List (Option FruField) × Except AreaStop (Option ℕ)
  | [], areaOffset => ([], .ok (some areaOffset))
  | passed :: wanted, areaOffset =>
    match readAt areabuf areaOffset with
    | .error e => (cleared (passed :: wanted), .error e)
    | .ok typeLength =>
      if typeLength = sentinelValue then (cleared (passed :: wanted), .ok none)
      else
        match parseTypeLength areabuf areaOffset passed with
        | .error e => (cleared (passed :: wanted), .error e)
        | .ok (n, field) =>
          let (fields, rest) := predefinedFields areabuf wanted (offsetBehind areaOffset n)
          ((if passed then some field else none) :: fields, rest)

/-- The loop over the custom fields. -/
structure CustomLoop where
  areaOffset : ℕ
  customFieldsIndex : ℕ
  -- the fields stored so far
  stored : List FruField

/-- One round. There is no array to store in where it has no room. -/
def CustomLoop.round (areabuf : List Byte) (room : ℕ) (s : CustomLoop) :
    CustomLoop ⊕ (Except AreaStop Unit × List FruField) :=
  if s.areaOffset < areabuf.length ∧ readAt areabuf s.areaOffset ≠ .ok sentinelValue then
    if room ≠ 0 ∧ room ≤ s.customFieldsIndex then .inr (.error (.errnum .overflow), s.stored)
    else
      match parseTypeLength areabuf s.areaOffset (room ≠ 0) with
      | .error e => .inr (.error e, s.stored)
      | .ok (n, field) =>
        .inl {
          areaOffset := offsetBehind s.areaOffset n
          customFieldsIndex := s.customFieldsIndex + 1
          stored := if room ≠ 0 then s.stored ++ [field] else s.stored }
  else .inr (.ok (), s.stored)

/-- What a call returns and stores. -/
structure AreaResult where
  rv : Except AreaStop Unit
  -- `chassis_type` or `language_code`
  typeByte : Option Byte
  mfgDateTime : Option (BitVec 32)
  fields : List (Option FruField)
  -- the array for custom fields
  customFields : List FruField

/-- The array for custom fields, of which the first ones are stored. -/
def customArray (room : ℕ) (stored : List FruField) : List FruField :=
  stored ++ List.replicate (room - stored.length) []

/-- All fields of an area, from an offset on, in a number of rounds of the loop. -/
def areaFields (rounds : ℕ) (areabuf : List Byte) (typeByte : Option Byte)
    (mfgDateTime : Option (BitVec 32)) (wanted : List Bool) (room areaOffset : ℕ) : Option AreaResult :=
  match predefinedFields areabuf wanted areaOffset with
  | (fields, .error e) => some ⟨.error e, typeByte, mfgDateTime, fields, customArray room []⟩
  | (fields, .ok none) => some ⟨.ok (), typeByte, mfgDateTime, fields, customArray room []⟩
  | (fields, .ok (some areaOffset)) =>
    (Loops.run (CustomLoop.round areabuf room) rounds ⟨areaOffset, 0, []⟩).map fun (rv, stored) =>
      ⟨rv, typeByte, mfgDateTime, fields, customArray room stored⟩

/-- A call without a buffer: nothing is stored. -/
def noArea : AreaResult := ⟨.error (.errnum .parameters), none, none, [], []⟩

/-- `ipmi_fru_chassis_info_area`: a flag for each pointer, and the length of the array for custom
    fields, which is 0 for a null pointer. -/
def ipmiFruChassisInfoArea (rounds : ℕ) (areabuf : List Byte)
    (chassisType chassisPartNumber chassisSerialNumber : Bool) (chassisCustomFieldsLen : ℕ) :
    Option AreaResult :=
  match areabuf with
  | [] => some noArea
  | typeByte :: _ =>
    areaFields rounds areabuf (if chassisType then some typeByte else none) none
      [chassisPartNumber, chassisSerialNumber] chassisCustomFieldsLen 1

/-- `mfg_date_time`. The time that `mktime` makes of the first day of 1996 is a parameter; it is `none`
    for -1. -/
def boardMfgDateTime (mktime : Option (BitVec 32)) (areabuf : List Byte) (areaOffset : ℕ) :
    Except AreaStop (BitVec 32) := do
  let low ← readAt areabuf areaOffset
  let mid ← readAt areabuf (areaOffset + 1)
  let high ← readAt areabuf (areaOffset + 2)
  match mktime with
  | none => .error (.errnum .systemError)
  | some t => return (low.setWidth 32 ||| mid.setWidth 32 <<< 8 ||| high.setWidth 32 <<< 16) * 60 + t

/-- `ipmi_fru_board_info_area`. -/
def ipmiFruBoardInfoArea (mktime : Option (BitVec 32)) (rounds : ℕ) (areabuf : List Byte)
    (languageCode mfgDateTime boardManufacturer boardProductName boardSerialNumber boardPartNumber
      boardFruFileId : Bool) (boardCustomFieldsLen : ℕ) : Option AreaResult :=
  let wanted :=
    [boardManufacturer, boardProductName, boardSerialNumber, boardPartNumber, boardFruFileId]
  match areabuf with
  | [] => some noArea
  | typeByte :: _ =>
    let typeByte := if languageCode then some typeByte else none
    if mfgDateTime then
      match boardMfgDateTime mktime areabuf 1 with
      | .error e => some ⟨.error e, typeByte, none, cleared wanted, customArray boardCustomFieldsLen []⟩
      | .ok time => areaFields rounds areabuf typeByte (some time) wanted boardCustomFieldsLen 4
    else areaFields rounds areabuf typeByte none wanted boardCustomFieldsLen 4

/-- `ipmi_fru_product_info_area`. -/
def ipmiFruProductInfoArea (rounds : ℕ) (areabuf : List Byte)
    (languageCode productManufacturerName productName productPartModelNumber productVersion
      productSerialNumber productAssetTag productFruFileId : Bool) (productCustomFieldsLen : ℕ) :
    Option AreaResult :=
  match areabuf with
  | [] => some noArea
  | typeByte :: _ =>
    areaFields rounds areabuf (if languageCode then some typeByte else none) none
      [productManufacturerName, productName, productPartModelNumber, productVersion,
        productSerialNumber, productAssetTag, productFruFileId] productCustomFieldsLen 1

/-- A call of one of the three functions, with the pointers that are passed. -/
inductive AreaCall where
  | chassis (chassisType chassisPartNumber chassisSerialNumber : Bool)
  | board (languageCode mfgDateTime boardManufacturer boardProductName boardSerialNumber
      boardPartNumber boardFruFileId : Bool)
  | product (languageCode productManufacturerName productName productPartModelNumber productVersion
      productSerialNumber productAssetTag productFruFileId : Bool)

/-- What it returns and stores, with room for a number of custom fields. -/
def AreaCall.run (mktime : Option (BitVec 32)) (rounds : ℕ) (areabuf : List Byte) (room : ℕ) :
    AreaCall → Option AreaResult
  | .chassis chassisType partNumber serialNumber =>
    ipmiFruChassisInfoArea rounds areabuf chassisType partNumber serialNumber room
  | .board languageCode mfgDateTime manufacturer productName serialNumber partNumber fruFileId =>
    ipmiFruBoardInfoArea mktime rounds areabuf languageCode mfgDateTime manufacturer productName
      serialNumber partNumber fruFileId room
  | .product languageCode manufacturerName productName partModelNumber version serialNumber assetTag
      fruFileId =>
    ipmiFruProductInfoArea rounds areabuf languageCode manufacturerName productName partModelNumber
      version serialNumber assetTag fruFileId room

end FreeIpmi.Fru
