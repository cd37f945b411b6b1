import FreeIpmi.Sdr.Cache

/-! Writing an SDR cache (`sdr/ipmi-sdr-cache-create.c`).

    The BMC is any machine that answers the three commands; a read may fail, return too few or too
    many bytes, or ask for a new reservation, and its loops are run for a given number of rounds. The
    file is written where its offset stands, so that the header can be written a second time. System
    calls are assumed to succeed. -/

namespace FreeIpmi.Sdr
open LittleEndian

/-! ### The BMC -/

/-- `IPMI_COMP_CODE_RESERVATION_CANCELLED`. -/
def compCodeReservationCancelled : Byte := 0xC5

/-- `IPMI_COMP_CODE_CANNOT_RETURN_REQUESTED_NUMBER_OF_BYTES`. -/
def compCodeCannotReturnRequestedNumberOfBytes : Byte := 0xCA

/-- `IPMI_COMP_CODE_UNSPECIFIED_ERROR`. -/
def compCodeUnspecifiedError : Byte := 0xFF

/-- How `ipmi_cmd_get_sdr` ends: with the fields of the response, with
    `IPMI_ERR_BAD_COMPLETION_CODE`, or with another error. -/
inductive GetSdrRs where
  | ok (nextRecordId : Option (BitVec 16)) (recordData : List Byte)
  | badCompletionCode (compCode : Byte)
  | error
  deriving DecidableEq

/-- A BMC with states `σ`. -/
structure Bmc (σ : Type) where
  getSdrRepositoryInfo : σ → Option SdrInfo × σ
  reserveSdrRepository : σ → Option (BitVec 16) × σ
  getSdr : σ → (reservationId recordId : BitVec 16) → (offsetIntoRecord bytesToRead : ℕ) → GetSdrRs × σ

/-! ### The file -/

/-- An open file: its bytes, and where the next write goes. -/
structure Fd where
  content : List Byte
  offset : ℕ

/-- `fd_write_n`. -/
def Fd.write (fd : Fd) (buf : List Byte) : Fd :=
  ⟨fd.content.take fd.offset ++ buf ++ fd.content.drop (fd.offset + buf.length),
    fd.offset + buf.length⟩

/-- `lseek (fd, 0, SEEK_SET)`. -/
def Fd.seekSet (fd : Fd) : Fd := { fd with offset := 0 }

/-- `lseek (fd, 0, SEEK_END)`. -/
def Fd.seekEnd (fd : Fd) : Fd := { fd with offset := fd.content.length }

/-- The bytes of the header that its checksum covers. -/
def headerBuf (info : SdrInfo) : List Byte :=
  sdrCacheFileMagic ++ sdrCacheFileVersion12 ++ [info.sdrVersion]
    ++ leBytes 2 info.recordCount.toNat
    ++ leBytes 4 info.mostRecentAdditionTimestamp.toNat
    ++ leBytes 4 info.mostRecentEraseTimestamp.toNat

/-- `_sdr_cache_header_write`: the file, and the bytes written so far. -/
def sdrCacheHeaderWrite (fd : Fd) (totalBytesWritten : ℕ) (info : SdrInfo) : Fd × ℕ :=
  ((fd.write (headerBuf info)).write [ipmiChecksum (headerBuf info)],
    totalBytesWritten + (4 + 4 + 1 + 2 + 4 + 4) + 1)

/-- `_sdr_cache_trailer_write`. -/
def sdrCacheTrailerWrite (fd : Fd) (totalBytesWritten : ℕ) (trailerChecksum : Byte) : Fd :=
  let totalBytesWritten := totalBytesWritten + 4 + 1
  let totalBytesWrittenBuf := leBytes 4 (totalBytesWritten % 2 ^ 32)
  (fd.write totalBytesWrittenBuf).write [ipmiChecksumFinal totalBytesWrittenBuf trailerChecksum]

/-! ### Reading one record -/

section GetRecord
variable {σ : Type} (bmc : Bmc σ) (recordId : BitVec 16)

/-- `_sdr_cache_reservation_id`. -/
def sdrCacheReservationId (s : σ) : Except SdrStop (BitVec 16 × σ) :=
  match bmc.reserveSdrRepository s with
  | (none, _) => .error (.errnum .ipmiError)
  | (some reservationId, s) => .ok (reservationId, s)

/-- `fiid_obj_get_data` of `record_data`, into a buffer of `bufLen` bytes. -/
def recordData (data : List Byte) (bufLen : ℕ) : Except SdrStop (List Byte) :=
  if data.length > bufLen then .error (.errnum .internalError) else .ok data

/-- `IPMI_SDR_CACHE_MAX_RESERVATION_ID_RETRY`. -/
def sdrCacheMaxReservationIdRetry : ℕ := 4

/-- The attempt to read the entire record, with the retries that are left: the record and the next
    record id, or `none` for `goto partial_read`. -/
def readEntireRecord (retries : ℕ) (reservationId : BitVec 16) (s : σ) :
    Except SdrStop (Option (List Byte × BitVec 16) × BitVec 16 × σ) :=
  match bmc.getSdr s reservationId recordId 0 0xFF with
  | (.error, s) => .ok (none, reservationId, s)
  | (.badCompletionCode compCode, s) =>
    if compCode = compCodeReservationCancelled then
      match retries with
      | 0 => .ok (none, reservationId, s)
      | retries + 1 => do
        let (reservationId, s) ← sdrCacheReservationId bmc s
        readEntireRecord retries reservationId s
    else .ok (none, reservationId, s)
  | (.ok nextRecordId data, s) => do
    let buf ← recordData data sdrMaxRecordLength
    if buf.length < sdrRecordHeaderLength then .ok (none, reservationId, s)
    else if (buf.getD sdrRecordLengthIndex 0).toNat + sdrRecordHeaderLength > buf.length then
      .ok (none, reservationId, s)
    else
      match nextRecordId with
      | none => .error (.errnum .internalError)
      | some nextRecordId => .ok (some (buf, nextRecordId), reservationId, s)

/-- The read of the record header, with the retries that are left: what arrived, the length of the
    record with its header, and the next record id. -/
def readRecordHeader (retries : ℕ) (reservationId : BitVec 16) (s : σ) :
    Except SdrStop (List Byte × ℕ × Option (BitVec 16) × BitVec 16 × σ) :=
  match bmc.getSdr s reservationId recordId 0 sdrRecordHeaderLength with
  | (.error, _) => .error (.errnum .ipmiError)
  | (.badCompletionCode compCode, s) =>
    if compCode = compCodeReservationCancelled then
      match retries with
      | 0 => .error (.errnum .ipmiError)
      | retries + 1 => do
        let (reservationId, s) ← sdrCacheReservationId bmc s
        readRecordHeader retries reservationId s
    else .error (.errnum .ipmiError)
  | (.ok nextRecordId data, s) => do
    let buf ← recordData data sdrMaxRecordLength
    if buf.length < sdrRecordHeaderLength then .error (.errnum .ipmiError)
    else
      -- `record_length` is the fifth byte of `tmpl_sdr_record_header`
      .ok (buf, (buf.getD sdrRecordLengthIndex 0).toNat + sdrRecordHeaderLength, nextRecordId,
        reservationId, s)

/-- The loop over the rest of the record, for `fuel` rounds; `buf` is what has been read so far. -/
def readRecordData (recordLength : ℕ) :
    (fuel retries bytesToRead : ℕ) → BitVec 16 → List Byte → σ →
      Except SdrStop (List Byte × BitVec 16 × σ)
  | 0, _, _, _, _, _ => .error .unfinished
  | fuel + 1, retries, bytesToRead, reservationId, buf, s =>
    if buf.length < recordLength then
      let bytesToRead :=
        if recordLength - buf.length < bytesToRead then recordLength - buf.length else bytesToRead
      -- `ipmi_cmd_get_sdr` takes the offset as `uint8_t`
      match bmc.getSdr s reservationId recordId (buf.length % 256) bytesToRead with
      | (.error, _) => .error (.errnum .ipmiError)
      | (.badCompletionCode compCode, s) =>
        if compCode = compCodeReservationCancelled ∧ 0 < retries then do
          let (reservationId, s) ← sdrCacheReservationId bmc s
          readRecordData recordLength fuel (retries - 1) bytesToRead reservationId buf s
        else if (compCode = compCodeCannotReturnRequestedNumberOfBytes
            ∨ compCode = compCodeUnspecifiedError) ∧ bytesToRead > sdrRecordHeaderLength then
          let bytesToRead := max (bytesToRead - 4) sdrRecordHeaderLength
          readRecordData recordLength fuel retries bytesToRead reservationId buf s
        else .error (.errnum .ipmiError)
      | (.ok _ data, s) => do
        let data ← recordData data (sdrMaxRecordLength - buf.length)
        readRecordData recordLength fuel retries bytesToRead reservationId (buf ++ data) s
    else .ok (buf, reservationId, s)

/-- `_sdr_cache_get_record`: the record, the reservation id and the next record id. -/
def sdrCacheGetRecord (fuel : ℕ) (reservationId : BitVec 16) (s : σ) :
    Except SdrStop (List Byte × BitVec 16 × BitVec 16 × σ) := do
  let (entire, reservationId, s) ←
    readEntireRecord bmc recordId sdrCacheMaxReservationIdRetry reservationId s
  match entire with
  | some (buf, nextRecordId) => return (buf, reservationId, nextRecordId, s)
  | none =>
    let (buf, recordLength, nextRecordId, reservationId, s) ←
      readRecordHeader bmc recordId sdrCacheMaxReservationIdRetry reservationId s
    if recordLength > sdrMaxRecordLength then .error (.errnum .internalError)
    else
      match nextRecordId with
      | none => .error (.errnum .internalError)
      | some nextRecordId =>
        let (buf, reservationId, s) ← readRecordData bmc recordId recordLength fuel
          sdrCacheMaxReservationIdRetry 16 reservationId buf s
        return (buf, reservationId, nextRecordId, s)

end GetRecord

/-! ### The whole file -/

/-- `IPMI_SDR_CACHE_CREATE_FLAGS_OVERWRITE`. -/
def sdrCacheCreateFlagsOverwrite : BitVec 32 := 0x01

/-- `IPMI_SDR_CACHE_CREATE_FLAGS_DUPLICATE_RECORD_ID`. -/
def sdrCacheCreateFlagsDuplicateRecordId : BitVec 32 := 0x02

/-- `IPMI_SDR_CACHE_CREATE_FLAGS_ASSUME_MAX_SDR_RECORD_COUNT`. -/
def sdrCacheCreateFlagsAssumeMaxSdrRecordCount : BitVec 32 := 0x04

/-- `cache_create_flags_mask`. -/
def sdrCacheCreateFlagsMask : BitVec 32 := sdrCacheCreateFlagsOverwrite
  ||| sdrCacheCreateFlagsDuplicateRecordId ||| sdrCacheCreateFlagsAssumeMaxSdrRecordCount

/-- `IPMI_SDR_RECORD_ID_FIRST`. -/
def sdrRecordIdFirst : BitVec 16 := 0x0000

/-- `IPMI_SDR_RECORD_ID_LAST`. -/
def sdrRecordIdLast : BitVec 16 := 0xFFFF

/-- The variables of `ipmi_sdr_cache_create`. `recordIds` is there only with the duplicate check, and
    `written` lists the records written so far. -/
structure Creation where
  fd : Fd
  totalBytesWritten : ℕ
  recordIds : Option (List (BitVec 16))
  recordCountWritten : ℕ
  trailerChecksum : Byte
  written : List (List Byte)

/-- The duplicate check of `_sdr_cache_record_write`, in an array of `recordCount` ids. -/
def checkRecordId (recordCount : ℕ) (buf : List Byte) :
    Option (List (BitVec 16)) → Except SdrStop (Option (List (BitVec 16)))
  | none => .ok none
  | some recordIds =>
    let recordId := recordIdOf (buf.getD sdrRecordIdIndexLs 0) (buf.getD sdrRecordIdIndexMs 0)
    if recordId ∈ recordIds then .error (.errnum .cacheCreateDuplicateRecordId)
    else if recordIds.length ≥ recordCount then .error .undefined
    else .ok (some (recordIds ++ [recordId]))

/-- `_sdr_cache_record_write`. -/
def sdrCacheRecordWrite (recordCount : ℕ) (c : Creation) (buf : List Byte) :
    Except SdrStop Creation :=
  let recordLen := (buf.getD sdrRecordLengthIndex 0).toNat + sdrRecordHeaderLength
  if buf.length < sdrRecordHeaderLength then .error (.errnum .cacheCreateInvalidRecordLength)
  else if recordLen > buf.length then .error (.errnum .cacheCreateInvalidRecordLength)
  else do
    -- an excess of bytes is cut off
    let buf := buf.take recordLen
    let recordIds ← checkRecordId recordCount buf c.recordIds
    return { c with
      fd := c.fd.write buf
      totalBytesWritten := c.totalBytesWritten + buf.length
      recordIds := recordIds
      trailerChecksum := ipmiChecksumIncremental buf c.trailerChecksum
      written := c.written ++ [buf] }

section Create
variable {σ : Type} (bmc : Bmc σ)

/-- The loop over the records, for `fuel` rounds: the next record id and what has been written. -/
def createLoop (assumeMax : Bool) (recordCount : ℕ) :
    ℕ → BitVec 16 → BitVec 16 → Creation → σ → Except SdrStop (BitVec 16 × Creation)
  | 0, _, _, _, _ => .error .unfinished
  | fuel + 1, nextRecordId, reservationId, c, s =>
    if nextRecordId = sdrRecordIdLast then .ok (nextRecordId, c)
    else if c.recordCountWritten ≥ recordCount then
      if assumeMax then .ok (nextRecordId, c)
      else .error (.errnum .cacheCreateInvalidRecordCount)
    else do
      let (buf, reservationId, nextRecordId, s) ←
        sdrCacheGetRecord bmc nextRecordId fuel reservationId s
      if buf.length ≠ 0 then do
        let c ← sdrCacheRecordWrite recordCount c buf
        createLoop assumeMax recordCount fuel nextRecordId reservationId
          { c with recordCountWritten := c.recordCountWritten + 1 } s
      else createLoop assumeMax recordCount fuel nextRecordId reservationId c s

/-- The header written again when the BMC's record count was wrong: the file and the record count. -/
def rewriteHeader (info : SdrInfo) (nextRecordId : BitVec 16) (c : Creation) :
    Except SdrStop (Fd × BitVec 16) :=
  if c.recordCountWritten ≠ info.recordCount.toNat then
    if nextRecordId = sdrRecordIdLast ∧ c.recordCountWritten ≠ 0 then
      let recordCount := BitVec.ofNat 16 c.recordCountWritten
      let (fd, _) := sdrCacheHeaderWrite c.fd.seekSet 0 { info with recordCount := recordCount }
      .ok (fd.seekEnd, recordCount)
    else .error (.errnum .cacheCreateInvalidRecordCount)
  else .ok (c.fd, info.recordCount)

/-- What a successful `ipmi_sdr_cache_create` leaves behind: the file, the header values, and the
    records in the order in which they were written. -/
structure Created where
  file : List Byte
  info : SdrInfo
  written : List (List Byte)

/-- `ipmi_sdr_cache_create` of a file that exists already or not, its loops run for `fuel` rounds. -/
def ipmiSdrCacheCreate (fuel : ℕ) (fileExists : Bool) (cacheCreateFlags : BitVec 32) (s : σ) :
    Except SdrStop Created :=
  if cacheCreateFlags &&& ~~~sdrCacheCreateFlagsMask ≠ 0 then .error (.errnum .parameters)
  else if cacheCreateFlags &&& sdrCacheCreateFlagsOverwrite = 0 ∧ fileExists then
    .error (.errnum .cacheCreateCacheExists)
  else
    match bmc.getSdrRepositoryInfo s with
    | (none, _) => .error (.errnum .ipmiError)
    | (some info, s) =>
      if info.recordCount = 0 then .error (.errnum .cacheCreateInvalidRecordCount)
      else do
        let (fd, totalBytesWritten) := sdrCacheHeaderWrite ⟨[], 0⟩ 0 info
        let recordIds := if cacheCreateFlags &&& sdrCacheCreateFlagsDuplicateRecordId ≠ 0
          then some [] else none
        let (reservationId, s) ← sdrCacheReservationId bmc s
        let (nextRecordId, c) ← createLoop bmc
          (cacheCreateFlags &&& sdrCacheCreateFlagsAssumeMaxSdrRecordCount ≠ 0)
          info.recordCount.toNat fuel sdrRecordIdFirst reservationId
          ⟨fd, totalBytesWritten, recordIds, 0, 0, []⟩ s
        let (fd, recordCount) ← rewriteHeader info nextRecordId c
        let fd := sdrCacheTrailerWrite fd c.totalBytesWritten c.trailerChecksum
        return ⟨fd.content, { info with recordCount := recordCount }, c.written⟩

end Create

end FreeIpmi.Sdr
