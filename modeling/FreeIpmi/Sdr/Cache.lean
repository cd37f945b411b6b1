import FreeIpmi.Basic
import FreeIpmi.Lib.Calls
import FreeIpmi.Lib.LittleEndian

/-! The SDR cache file (`sdr/ipmi-sdr-defs.h`, `util/ipmi-util.c`).

    The file is a header, the records one after the other, and a trailer. Every record starts with a
    header of five bytes, and the last of them is the number of bytes that follow. -/

namespace FreeIpmi.Sdr
open LittleEndian

/-- The `IPMI_SDR_ERR_*` codes that the modelled functions store in `ctx->errnum`. -/
inductive SdrErr where
  | parameters | cacheCreateCacheExists | cacheCreateDuplicateRecordId
  | cacheCreateInvalidRecordLength | cacheCreateInvalidRecordCount | cacheInvalid | cacheOutOfDate
  | parseIncompleteSdrRecord | parseInvalidSdrRecord | statsNotCompiled | errorReturnedInCallback
  | notFound | ipmiError | overflow | internalError
  deriving DecidableEq, Repr

/-- Why a call does not return a value. -/
inductive SdrStop where
  -- a return of -1
  | errnum (e : SdrErr)
  -- an access outside a file or an array
  | undefined
  | assertion
  -- a loop that has not ended within the given number of rounds
  | unfinished
  deriving DecidableEq, Repr

/-! ### Records -/

/-- `IPMI_SDR_RECORD_HEADER_LENGTH`. -/
def sdrRecordHeaderLength : ℕ := 5

/-- `IPMI_SDR_RECORD_LENGTH_INDEX`. -/
def sdrRecordLengthIndex : ℕ := 4

/-- `IPMI_SDR_RECORD_ID_INDEX_LS`. -/
def sdrRecordIdIndexLs : ℕ := 0

/-- `IPMI_SDR_RECORD_ID_INDEX_MS`. -/
def sdrRecordIdIndexMs : ℕ := 1

/-- `IPMI_SDR_RECORD_TYPE_INDEX`. -/
def sdrRecordTypeIndex : ℕ := 3

/-- `IPMI_SDR_RECORD_SENSOR_OWNER_ID_INDEX`. -/
def sdrRecordSensorOwnerIdIndex : ℕ := 5

/-- `IPMI_SDR_RECORD_SENSOR_NUMBER_INDEX`. -/
def sdrRecordSensorNumberIndex : ℕ := 7

/-- `IPMI_SDR_RECORD_COMPACT_SHARE_COUNT`. -/
def sdrRecordCompactShareCount : ℕ := 23

/-- `IPMI_SDR_RECORD_EVENT_SHARE_COUNT`. -/
def sdrRecordEventShareCount : ℕ := 12

/-- `IPMI_SDR_MAX_RECORD_LENGTH`. -/
def sdrMaxRecordLength : ℕ := 261

/-- `IPMI_SDR_FORMAT_FULL_SENSOR_RECORD`. -/
def sdrFormatFullSensorRecord : Byte := 0x01

/-- `IPMI_SDR_FORMAT_COMPACT_SENSOR_RECORD`. -/
def sdrFormatCompactSensorRecord : Byte := 0x02

/-- `IPMI_SDR_FORMAT_EVENT_ONLY_RECORD`. -/
def sdrFormatEventOnlyRecord : Byte := 0x03

/-- A record id, stored little-endian. -/
def recordIdOf (ls ms : Byte) : BitVec 16 := ls.setWidth 16 ||| ms.setWidth 16 <<< 8

/-! ### Header and trailer -/

/-- The `IPMI_SDR_CACHE_FILE_MAGIC_*` bytes. -/
def sdrCacheFileMagic : List Byte := [0x72, 0x8C, 0x9D, 0x1F]

/-- The `IPMI_SDR_CACHE_FILE_VERSION_1_*` bytes of the first format. -/
def sdrCacheFileVersion1 : List Byte := [0x00, 0x00, 0x00, 0x01]

/-- The `IPMI_SDR_CACHE_FILE_VERSION_1_2_*` bytes. -/
def sdrCacheFileVersion12 : List Byte := [0x00, 0x01, 0x00, 0x02]

/-- What `sdr_info` asks the BMC for, and the header of the file repeats. -/
structure SdrInfo where
  sdrVersion : Byte
  recordCount : BitVec 16
  mostRecentAdditionTimestamp : BitVec 32
  mostRecentEraseTimestamp : BitVec 32
  deriving DecidableEq

/-! ### Checksums -/

/-- `_checksum`: the running sum of the bytes, modulo 256. -/
def checksum (buf : List Byte) (checksumInitial : Byte) : Byte := buf.foldl (· + ·) checksumInitial

/-- `ipmi_checksum`. -/
def ipmiChecksum (buf : List Byte) : Byte := -(checksum buf 0)

/-- `ipmi_checksum_incremental`. -/
def ipmiChecksumIncremental (buf : List Byte) (checksumInitial : Byte) : Byte :=
  checksum buf checksumInitial

/-- `ipmi_checksum_final`. -/
def ipmiChecksumFinal (buf : List Byte) (checksumInitial : Byte) : Byte :=
  -(checksum buf checksumInitial)

/-- The checksum of a file that is summed up piece by piece. -/
theorem checksum_append (a b : List Byte) (checksumInitial : Byte) :
    checksum (a ++ b) checksumInitial = checksum b (checksum a checksumInitial) :=
  List.foldl_append

end FreeIpmi.Sdr
