import FreeIpmi.Fiid.Field
import FreeIpmi.Fiid.Block
import FreeIpmi.Sdr.Cache

/-! Reading an SDR cache (`sdr/ipmi-sdr-cache-read.c`, `sdr/ipmi-sdr-parse.c`).

    The file is mapped into memory as a whole, and every access to it is checked here against its
    size: an access outside is `SdrStop.undefined`. A context is one that `ipmi_sdr_cache_open` has
    opened; debug dumps are off. -/

namespace FreeIpmi.Sdr
open LittleEndian

/-- `struct ipmi_sdr_ctx` with an open cache; `file_size` is the length of `sdrCache`. -/
structure SdrCtx where
  sdrVersion : Byte
  recordCount : BitVec 16
  mostRecentAdditionTimestamp : BitVec 32
  mostRecentEraseTimestamp : BitVec 32
  sdrCache : List Byte
  recordsStartOffset : ℕ
  recordsEndOffset : ℕ
  currentOffset : ℕ
  savedOffsets : List ℕ
  deriving DecidableEq

/-- `sdr_cache[i]`. -/
def readByte (sdrCache : List Byte) (i : ℕ) : Except SdrStop Byte :=
  match sdrCache[i]? with
  | none => .error .undefined
  | some b => .ok b

/-- `memcpy (buf, sdr_cache + i, n)`. -/
def readBytes (sdrCache : List Byte) (i n : ℕ) : Except SdrStop (List Byte) :=
  if i + n ≤ sdrCache.length then .ok ((sdrCache.drop i).take n) else .error .undefined

/-! ### Opening -/

/-- The comparison with the BMC, when there is one; `some none` is a failing `sdr_info`. -/
def checkUpToDate (header : SdrInfo) : Option (Option SdrInfo) → Except SdrStop Unit
  | none => .ok ()
  | some none => .error (.errnum .ipmiError)
  | some (some info) =>
    if header.sdrVersion ≠ info.sdrVersion
        ∨ header.mostRecentAdditionTimestamp ≠ info.mostRecentAdditionTimestamp
        ∨ header.mostRecentEraseTimestamp ≠ info.mostRecentEraseTimestamp then
      .error (.errnum .cacheOutOfDate)
    else .ok ()

/-- The checks of the second format, and the offsets at which the records start and end. -/
def recordsRegion (file versionBuf headerChecksumBuf : List Byte) : Except SdrStop (ℕ × ℕ) :=
  let headerBytesLen := 4 + 4 + 1 + 2 + 4 + 4 + 1
  let trailerBytesLen := 4 + 1
  if versionBuf = sdrCacheFileVersion12 then
    if file.length < headerBytesLen + trailerBytesLen then .error (.errnum .cacheInvalid)
    else do
      let headerChecksumCache ← readByte file (headerBytesLen - 1)
      if ipmiChecksum headerChecksumBuf ≠ headerChecksumCache then .error (.errnum .cacheInvalid)
      else
        let totalBytesWrittenBuf ← readBytes file (file.length - 5) 4
        let trailerChecksumCache ← readByte file (file.length - 1)
        if leValue totalBytesWrittenBuf ≠ file.length then .error (.errnum .cacheInvalid)
        else
          let records ← readBytes file headerBytesLen (file.length - headerBytesLen - 1)
          if ipmiChecksum records ≠ trailerChecksumCache then .error (.errnum .cacheInvalid)
          else .ok (headerBytesLen, file.length - trailerBytesLen)
  else .ok (headerBytesLen - 1, file.length)

/-- `ipmi_sdr_cache_open` of a file. -/
def ipmiSdrCacheOpen (file : List Byte) (ipmiCtx : Option (Option SdrInfo)) :
    Except SdrStop SdrCtx :=
  if file.length < 4 + 4 + 1 + 2 + 4 + 4 then .error (.errnum .cacheInvalid)
  else do
    let magicBuf ← readBytes file 0 4
    let versionBuf ← readBytes file 4 4
    let sdrVersionBuf ← readByte file 8
    let recordCountBuf ← readBytes file 9 2
    let additionTimestampBuf ← readBytes file 11 4
    let eraseTimestampBuf ← readBytes file 15 4
    if magicBuf ≠ sdrCacheFileMagic then .error (.errnum .cacheInvalid)
    else if versionBuf ≠ sdrCacheFileVersion1 ∧ versionBuf ≠ sdrCacheFileVersion12 then
      .error (.errnum .cacheInvalid)
    else
      let header : SdrInfo := ⟨sdrVersionBuf, BitVec.ofNat 16 (leValue recordCountBuf),
        BitVec.ofNat 32 (leValue additionTimestampBuf), BitVec.ofNat 32 (leValue eraseTimestampBuf)⟩
      checkUpToDate header ipmiCtx
      let (recordsStartOffset, recordsEndOffset) ← recordsRegion file versionBuf (magicBuf
        ++ versionBuf ++ [sdrVersionBuf] ++ recordCountBuf ++ additionTimestampBuf
        ++ eraseTimestampBuf)
      return {
        sdrVersion := header.sdrVersion
        recordCount := header.recordCount
        mostRecentAdditionTimestamp := header.mostRecentAdditionTimestamp
        mostRecentEraseTimestamp := header.mostRecentEraseTimestamp
        sdrCache := file
        recordsStartOffset := recordsStartOffset
        recordsEndOffset := recordsEndOffset
        currentOffset := recordsStartOffset
        savedOffsets := [] }

/-! ### Moving the cursor -/

/-- The length byte of the record at `offset`. -/
def recordLengthAt (ctx : SdrCtx) (offset : ℕ) : Except SdrStop ℕ := do
  let recordLength ← readByte ctx.sdrCache (offset + sdrRecordLengthIndex)
  return recordLength.toNat

/-- `ipmi_sdr_cache_first`. -/
def ipmiSdrCacheFirst (ctx : SdrCtx) : SdrCtx := { ctx with currentOffset := ctx.recordsStartOffset }

/-- `ipmi_sdr_cache_next`: whether there is another record. -/
def ipmiSdrCacheNext (ctx : SdrCtx) : Except SdrStop (Bool × SdrCtx) := do
  let recordLength ← recordLengthAt ctx ctx.currentOffset
  if ctx.currentOffset + recordLength + sdrRecordHeaderLength ≥ ctx.recordsEndOffset then
    return (false, ctx)
  else return (true, { ctx with
    currentOffset := ctx.currentOffset + sdrRecordHeaderLength + recordLength })

/-- The loop of `ipmi_sdr_cache_seek`. -/
def seekLoop (ctx : SdrCtx) : ℕ → ℕ → Except SdrStop ℕ
  | 0, offset => .ok offset
  | n + 1, offset => do
    let recordLength ← recordLengthAt ctx offset
    if offset + recordLength + sdrRecordHeaderLength ≥ ctx.recordsEndOffset then return offset
    else seekLoop ctx n (offset + sdrRecordHeaderLength + recordLength)

/-- `ipmi_sdr_cache_seek`. -/
def ipmiSdrCacheSeek (ctx : SdrCtx) (index : ℕ) : Except SdrStop SdrCtx :=
  if index ≥ ctx.recordCount.toNat then .error (.errnum .parameters)
  else do
    let offset ← seekLoop ctx index ctx.recordsStartOffset
    return { ctx with currentOffset := offset }

/-- The loop of the two searches: the first record from `offset` on that `found` accepts. -/
def searchLoop (ctx : SdrCtx) (found : ℕ → Except SdrStop Bool) (offset : ℕ) : Except SdrStop ℕ :=
  if offset < ctx.recordsEndOffset then do
    if ← found offset then return offset
    else
      let recordLength ← recordLengthAt ctx offset
      if offset + recordLength + sdrRecordHeaderLength ≥ ctx.recordsEndOffset then
        .error (.errnum .notFound)
      else searchLoop ctx found (offset + sdrRecordHeaderLength + recordLength)
  else .error (.errnum .notFound)
termination_by ctx.recordsEndOffset - offset
decreasing_by simp only [sdrRecordHeaderLength]; omega

/-- The test of `ipmi_sdr_cache_search_record_id` on the record at `offset`. -/
def hasRecordId (ctx : SdrCtx) (recordId : BitVec 16) (offset : ℕ) : Except SdrStop Bool := do
  let ls ← readByte ctx.sdrCache (offset + sdrRecordIdIndexLs)
  let ms ← readByte ctx.sdrCache (offset + sdrRecordIdIndexMs)
  return recordId = recordIdOf ls ms

/-- `ipmi_sdr_cache_search_record_id`. -/
def ipmiSdrCacheSearchRecordId (ctx : SdrCtx) (recordId : BitVec 16) : Except SdrStop SdrCtx := do
  let offset ← searchLoop ctx (hasRecordId ctx recordId) ctx.recordsStartOffset
  return { ctx with currentOffset := offset }

/-- Whether a shared record covers a sensor number besides its own. -/
def coveredByShare (sensorNumber sensorNumberCurrent shareCount : Byte) : Bool :=
  shareCount.toNat > 1 ∧ sensorNumber.toNat > sensorNumberCurrent.toNat
    ∧ sensorNumber.toNat ≤ sensorNumberCurrent.toNat + (shareCount.toNat - 1)

/-- The test of `ipmi_sdr_cache_search_sensor` on the record at `offset`. -/
def hasSensor (ctx : SdrCtx) (sensorNumber sensorOwnerId : Byte) (offset : ℕ) :
    Except SdrStop Bool := do
  let recordType ← readByte ctx.sdrCache (offset + sdrRecordTypeIndex)
  if recordType = sdrFormatFullSensorRecord ∨ recordType = sdrFormatCompactSensorRecord
      ∨ recordType = sdrFormatEventOnlyRecord then
    let sensorOwnerIdCurrent ← readByte ctx.sdrCache (offset + sdrRecordSensorOwnerIdIndex)
    let sensorNumberCurrent ← readByte ctx.sdrCache (offset + sdrRecordSensorNumberIndex)
    if sensorOwnerIdCurrent = sensorOwnerId ∧ sensorNumberCurrent = sensorNumber then return true
    else if sensorOwnerIdCurrent = sensorOwnerId ∧ recordType = sdrFormatCompactSensorRecord then
      let shareCount ← readByte ctx.sdrCache (offset + sdrRecordCompactShareCount)
      return coveredByShare sensorNumber sensorNumberCurrent (shareCount &&& 0x0F)
    else if sensorOwnerIdCurrent = sensorOwnerId ∧ recordType = sdrFormatEventOnlyRecord then
      let shareCount ← readByte ctx.sdrCache (offset + sdrRecordEventShareCount)
      return coveredByShare sensorNumber sensorNumberCurrent (shareCount &&& 0x0F)
    else return false
  else return false

/-- `ipmi_sdr_cache_search_sensor`. -/
def ipmiSdrCacheSearchSensor (ctx : SdrCtx) (sensorNumber sensorOwnerId : Byte) :
    Except SdrStop SdrCtx := do
  let offset ← searchLoop ctx (hasSensor ctx sensorNumber sensorOwnerId) ctx.recordsStartOffset
  return { ctx with currentOffset := offset }

/-! ### Reading the record under the cursor -/

/-- `ipmi_sdr_cache_record_read` into a buffer of `buflen` bytes. -/
def ipmiSdrCacheRecordRead (ctx : SdrCtx) (buflen : ℕ) : Except SdrStop (List Byte) :=
  if buflen = 0 then .error (.errnum .parameters)
  else do
    let recordLength ← recordLengthAt ctx ctx.currentOffset
    if buflen < recordLength + sdrRecordHeaderLength then .error (.errnum .overflow)
    else readBytes ctx.sdrCache ctx.currentOffset (recordLength + sdrRecordHeaderLength)

/-- `tmpl_sdr_record_header`. -/
def tmplSdrRecordHeader : Fiid.FiidTemplate where
  fields := [⟨16, "record_id", Fiid.fiidFieldRequired ||| Fiid.fiidFieldLengthFixed, .refl true⟩,
    ⟨4, "sdr_version_major", Fiid.fiidFieldRequired ||| Fiid.fiidFieldLengthFixed, .refl true⟩,
    ⟨4, "sdr_version_minor", Fiid.fiidFieldRequired ||| Fiid.fiidFieldLengthFixed, .refl true⟩,
    ⟨8, "record_type", Fiid.fiidFieldRequired ||| Fiid.fiidFieldLengthFixed, .refl true⟩,
    ⟨8, "record_length", Fiid.fiidFieldRequired ||| Fiid.fiidFieldLengthFixed, .refl true⟩]

/-- A failing fiid call becomes an error of the context. -/
def orSdrErrnum {α : Type} : Except Stop α → Except SdrStop α
  | .ok a => .ok a
  | .error .undefined => .error .undefined
  | .error .assertion => .error .assertion
  | .error _ => .error (.errnum .internalError)

/-- `fiid_obj_create` of the record header. -/
def createRecordHeader (ndebug : Bool) : Except SdrStop Fiid.FiidObj :=
  match Fiid.fiidObjCreate ndebug tmplSdrRecordHeader with
  | none => .error (.errnum .internalError)
  | some obj => .ok obj

/-- `ipmi_sdr_parse_record_id_and_type` of the record under the cursor: its id and its type. -/
def ipmiSdrParseRecordIdAndType (ndebug : Bool) (ctx : SdrCtx) :
    Except SdrStop (BitVec 16 × Byte) := do
  let sdrRecordBuf ← ipmiSdrCacheRecordRead ctx sdrMaxRecordLength
  if sdrRecordBuf.length < 5 then .error (.errnum .parseIncompleteSdrRecord)
  else
    let obj ← createRecordHeader ndebug
    let (obj, _) ← orSdrErrnum (Fiid.trySetAll obj (sdrRecordBuf.take 5))
    let recordId ← orSdrErrnum (Fiid.fiidObjGetStrict obj "record_id")
    let recordType ← orSdrErrnum (Fiid.fiidObjGetStrict obj "record_type")
    return (recordId.setWidth 16, recordType.setWidth 8)

/-! ### Iterating -/

/-- A callback: what it returns, and the context that it leaves. It is called with the number of the
    round and the record. -/
abbrev IterateCallback := ℕ → List Byte → SdrCtx → Except SdrStop (ℤ × SdrCtx)

/-- The loop of `ipmi_sdr_cache_iterate`: `n` rounds from round `i` on. -/
def iterateLoop (iterateCallback : IterateCallback) : ℕ → ℕ → SdrCtx → Except SdrStop (ℤ × SdrCtx)
  | 0, _, ctx => .ok (0, ctx)
  | n + 1, i, ctx =>
    match ipmiSdrCacheRecordRead ctx sdrMaxRecordLength with
    | .error (.errnum _) => .ok (-1, ctx)
    | .error e => .error e
    | .ok sdrRecord => do
      let (ret, ctx) ← iterateCallback i sdrRecord ctx
      if ret ≠ 0 then return (ret, ctx)
      else
        -- what `ipmi_sdr_cache_next` returns is not looked at
        let (_, ctx) ← ipmiSdrCacheNext ctx
        iterateLoop iterateCallback n (i + 1) ctx

/-- `_sdr_save_current_offset`. -/
def sdrSaveCurrentOffset (ctx : SdrCtx) : SdrCtx :=
  { ctx with savedOffsets := ctx.currentOffset :: ctx.savedOffsets }

/-- `_sdr_reset_current_offset`. -/
def sdrResetCurrentOffset (ctx : SdrCtx) : Except SdrStop SdrCtx :=
  match ctx.savedOffsets with
  | [] => .error .assertion
  | offset :: offsets => .ok { ctx with currentOffset := offset, savedOffsets := offsets }

/-- `ipmi_sdr_cache_iterate`. -/
def ipmiSdrCacheIterate (ctx : SdrCtx) (iterateCallback : IterateCallback) :
    Except SdrStop (ℤ × SdrCtx) := do
  let ctx := sdrSaveCurrentOffset ctx
  let (rv, ctx) ← iterateLoop iterateCallback ctx.recordCount.toNat 0 (ipmiSdrCacheFirst ctx)
  let ctx ← sdrResetCurrentOffset ctx
  return (rv, ctx)

end FreeIpmi.Sdr
