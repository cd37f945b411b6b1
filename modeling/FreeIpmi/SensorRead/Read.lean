import FreeIpmi.Sdr.Records

/-! Reading a sensor (`sensor-read/ipmi-sensor-read.c`).

    `ipmi_sensor_read` works in three stages: it takes from the SDR record where the sensor is, it
    sends the command Get Sensor Reading, with a flag of the context set while it waits for the
    answer, and it interprets the answer. The command itself is a parameter (`SensorBmc`): it leaves
    the flags of the context alone, which only `ipmi_ctx_set_flags` and opening a context change.
    The context is an open one. -/

namespace FreeIpmi.SensorRead
open Calls Sdr

/-- The `IPMI_SENSOR_READ_ERR_*` codes that `ipmi_sensor_read` stores. -/
inductive SensorReadErr where
  | parameters | sensorReadingUnavailable | sensorScanningDisabled | sensorNonAnalog | sensorNonLinear
  | sensorNotOwnedByBmc | sensorIsSystemSoftware | sensorCannotBeBridged
  | sensorReadingCannotBeObtained | nodeBusy | invalidSdrRecordType | sdrEntryError | ipmiError
  | systemError | internalError
  deriving DecidableEq, Repr

/-! ### The two contexts -/

/-- `IPMI_FLAGS_NOSESSION`. -/
def ipmiFlagsNosession : BitVec 32 := 0x00000002

/-- `IPMI_FLAGS_NO_VALID_CHECK`. -/
def ipmiFlagsNoValidCheck : BitVec 32 := 0x00000100

/-- The flags that a context can have. -/
def ipmiFlagsMask : BitVec 32 := 0x00000713

/-- The flags of an open `ipmi_ctx_t`. -/
structure IpmiCtx where
  flags : BitVec 32
  valid : flags &&& ~~~ipmiFlagsMask = 0

/-- `ipmi_ctx_set_flags` on an open context; `none` for -1. -/
def ipmiCtxSetFlags (ctx : IpmiCtx) (flags : BitVec 32) : Option IpmiCtx :=
  if h : flags &&& ~~~ipmiFlagsMask = 0 then
    if ctx.flags &&& ipmiFlagsNosession ≠ flags &&& ipmiFlagsNosession then none
    else some ⟨flags, h⟩
  else none

/-- `IPMI_SENSOR_READ_FLAGS_BRIDGE_SENSORS`. -/
def sensorReadFlagsBridgeSensors : BitVec 32 := 0x0001

/-- `IPMI_SENSOR_READ_FLAGS_DISCRETE_READING`. -/
def sensorReadFlagsDiscreteReading : BitVec 32 := 0x0002

/-- `IPMI_SENSOR_READ_FLAGS_IGNORE_SCANNING_DISABLED`. -/
def sensorReadFlagsIgnoreScanningDisabled : BitVec 32 := 0x0004

/-- `IPMI_SENSOR_READ_FLAGS_ASSUME_BMC_OWNER`. -/
def sensorReadFlagsAssumeBmcOwner : BitVec 32 := 0x0008

/-- `struct ipmi_sensor_read_ctx`. -/
structure SensorReadCtx where
  flags : BitVec 32
  ipmiCtx : IpmiCtx

/-- Whether the context has a flag. -/
def SensorReadCtx.has (ctx : SensorReadCtx) (flag : BitVec 32) : Bool := ctx.flags &&& flag ≠ 0

/-! ### The command -/

/-- `tmpl_cmd_get_sensor_reading_rs`. -/
def tmplCmdGetSensorReadingRs : Fiid.FiidTemplate where
  fields := [⟨8, "cmd", fixedFlags ||| Fiid.fiidFieldMakesPacketSufficient, .refl true⟩,
    ⟨8, "comp_code", fixedFlags ||| Fiid.fiidFieldMakesPacketSufficient, .refl true⟩,
    ⟨8, "sensor_reading", fixedFlags, .refl true⟩, ⟨5, "reserved1", fixedFlags, .refl true⟩,
    ⟨1, "reading_state", fixedFlags, .refl true⟩, ⟨1, "sensor_scanning", fixedFlags, .refl true⟩,
    ⟨1, "all_event_messages", fixedFlags, .refl true⟩,
    ⟨8, "sensor_event_bitmask1", fixedFlags, .refl true⟩,
    ⟨7, "sensor_event_bitmask2", Fiid.fiidFieldOptional ||| Fiid.fiidFieldLengthFixed, .refl true⟩,
    ⟨1, "reserved2", Fiid.fiidFieldOptional ||| Fiid.fiidFieldLengthFixed, .refl true⟩]

/-- An object for the response, whatever is set of it. -/
structure SensorReadingRs where
  obj : Fiid.FiidObj
  of : obj.Of tmplCmdGetSensorReadingRs.fields

/-- A request: to the BMC, or over the IPMB. -/
inductive SensorRequest where
  | bmc (sensorNumber : Byte)
  | ipmb (channelNumber slaveAddress lun sensorNumber : Byte)
  deriving DecidableEq

/-- The `IPMI_ERR_*` codes that a failing command is asked for. -/
inductive CmdErr where
  | commandInvalidForSelectedInterface | messageTimeout | other
  deriving DecidableEq

/-- What a command returns, with the response as far as there is one. -/
structure CmdAnswer where
  failed : Option CmdErr
  rs : SensorReadingRs

/-- `ipmi_cmd_get_sensor_reading` and `ipmi_cmd_get_sensor_reading_ipmb`: everything behind them. -/
abbrev SensorBmc := BitVec 32 → SensorRequest → CmdAnswer

/-! ### Reading the response -/

/-- `SENSOR_READ_FIID_OBJECT_ERROR_TO_SENSOR_READ_ERRNUM`. -/
def fiidObjectErrorToSensorReadErrnum : Stop → SensorReadErr
  | .fiid .dataNotAvailable => .systemError
  | .fiid .fieldNotFound => .parameters
  | .fiid .dataNotByteAligned => .parameters
  | .fiid .requiredFieldMissing => .parameters
  | .fiid .fixedLengthFieldInvalid => .parameters
  | .fiid .notIdentical => .parameters
  | _ => .internalError

/-- `fiid_obj_get` of a field of the response. -/
def getField (rs : SensorReadingRs) (field : String) : Except SensorReadErr (Option Byte) :=
  match Fiid.fiidObjGet rs.obj field with
  | .ok val => .ok (val.map fun val => val.setWidth 8)
  | .error e => .error (fiidObjectErrorToSensorReadErrnum e)

/-- `FIID_OBJ_GET` of a field of the response. -/
def getFieldStrict (rs : SensorReadingRs) (field : String) : Except SensorReadErr Byte :=
  match Fiid.fiidObjGetStrict rs.obj field with
  | .ok val => .ok (val.setWidth 8)
  | .error e => .error (fiidObjectErrorToSensorReadErrnum e)

/-- `ipmi_check_completion_code (obj_cmd_rs, completionCode) == 1`. -/
def checkCompletionCode (rs : SensorReadingRs) (completionCode : Byte) : Bool :=
  match Fiid.fiidObjGetStrict rs.obj "comp_code" with
  | .ok val => val.setWidth 8 = completionCode
  | .error _ => false

/-- The completion codes that say that there is no such sensor, or no reading of it. -/
def unavailableCompletionCodes : List Byte := [0xCB, 0xCD, 0xC9, 0xCC, 0xCE, 0xD5, 0xD3]

/-- `IPMI_SENSOR_READING_STATE_UNAVAILABLE`. -/
def sensorReadingStateUnavailable : Byte := 0x1

/-- `IPMI_SENSOR_SCANNING_ON_THIS_SENSOR_DISABLE`. -/
def sensorScanningOnThisSensorDisable : Byte := 0x0

/-- `_sensor_reading_corner_case_checks`. -/
def sensorReadingCornerCaseChecks (ctx : SensorReadCtx) (rs : SensorReadingRs) :
    Except SensorReadErr Unit :=
  if checkCompletionCode rs 0xC0 then .error .nodeBusy
  else if unavailableCompletionCodes.any (checkCompletionCode rs) then
    .error .sensorReadingUnavailable
  else if checkCompletionCode rs 0xFF then do
    let readingState ← getField rs "reading_state"
    if readingState = some sensorReadingStateUnavailable then .error .sensorReadingUnavailable
    else if !ctx.has sensorReadFlagsIgnoreScanningDisabled then
      let sensorScanning ← getField rs "sensor_scanning"
      if sensorScanning = some sensorScanningOnThisSensorDisable then .error .sensorScanningDisabled
      else .ok ()
    else .ok ()
  else .ok ()

/-- `_get_sensor_reading`. -/
def getSensorReading (bmc : SensorBmc) (ctx : SensorReadCtx) (sensorNumber : Byte) :
    Except SensorReadErr SensorReadingRs :=
  match bmc ctx.ipmiCtx.flags (.bmc sensorNumber) with
  | ⟨none, rs⟩ => .ok rs
  | ⟨some _, rs⟩ => do
    sensorReadingCornerCaseChecks ctx rs
    .error .ipmiError

/-- `_get_sensor_reading_ipmb`. -/
def getSensorReadingIpmb (bmc : SensorBmc) (ctx : SensorReadCtx)
    (slaveAddress lun channelNumber sensorNumber : Byte) : Except SensorReadErr SensorReadingRs :=
  if ctx.has sensorReadFlagsBridgeSensors then
    match bmc ctx.ipmiCtx.flags (.ipmb channelNumber slaveAddress lun sensorNumber) with
    | ⟨none, rs⟩ => .ok rs
    | ⟨some .commandInvalidForSelectedInterface, _⟩ => .error .sensorCannotBeBridged
    | ⟨some .messageTimeout, _⟩ => .error .sensorReadingCannotBeObtained
    | ⟨some .other, rs⟩ => do
      sensorReadingCornerCaseChecks ctx rs
      .error .ipmiError
  else .error .sensorNotOwnedByBmc

/-! ### Where the sensor is -/

/-- A failing SDR function. The getters of a record fail in no other way. -/
def orSdrEntryError {α : Type} : Except SdrStop α → Except SensorReadErr α
  | .ok a => .ok a
  | .error _ => .error .sdrEntryError

/-- What `ipmi_sensor_read` takes from the record before it sends the command. -/
structure SensorAddress where
  recordType : Byte
  sensorNumber : Byte
  eventReadingTypeCode : Byte
  slaveAddress : Byte
  sensorOwnerLun : Byte
  channelNumber : Byte
  deriving DecidableEq

/-- The sensor number for an offset into a shared record. -/
def sharedSensorNumber (ndebug : Bool) (sdrRecord : List Byte) (recordType sensorNumber : Byte)
    (sharedSensorNumberOffset : Byte) : Except SensorReadErr Byte :=
  if sharedSensorNumberOffset = 0 then .ok sensorNumber
  else if recordType ≠ sdrFormatCompactSensorRecord then .error .invalidSdrRecordType
  else do
    let sharing ← orSdrEntryError
      (ipmiSdrParseSensorRecordSharing ndebug sdrRecord ⟨true, false, false, false⟩)
    if sharing.shareCount.toNat ≤ 1 then .error .invalidSdrRecordType
    else if sensorNumber.toNat + sharing.shareCount.toNat
        < sensorNumber.toNat + sharedSensorNumberOffset.toNat then .error .parameters
    else return sensorNumber + sharedSensorNumberOffset

/-- The first stage of `ipmi_sensor_read`. -/
def sensorAddress (ndebug : Bool) (sdrRecord : List Byte) (sharedSensorNumberOffset : Byte) :
    Except SensorReadErr SensorAddress :=
  if sdrRecord = [] then .error .parameters
  else do
    let (_, recordType) ← orSdrEntryError (sdrRecordIdAndType ndebug sdrRecord)
    if recordType ≠ sdrFormatFullSensorRecord ∧ recordType ≠ sdrFormatCompactSensorRecord then
      .error .invalidSdrRecordType
    else
      let (sensorOwnerIdType, sensorOwnerId) ←
        orSdrEntryError (ipmiSdrParseSensorOwnerId ndebug sdrRecord)
      let (sensorOwnerLun, channelNumber) ←
        orSdrEntryError (ipmiSdrParseSensorOwnerLun ndebug sdrRecord)
      let sensorNumber ← orSdrEntryError (ipmiSdrParseSensorNumber ndebug sdrRecord)
      let sensorNumber ←
        sharedSensorNumber ndebug sdrRecord recordType sensorNumber sharedSensorNumberOffset
      let eventReadingTypeCode ← orSdrEntryError (ipmiSdrParseEventReadingTypeCode ndebug sdrRecord)
      -- `IPMI_SDR_SENSOR_OWNER_ID_TYPE_SYSTEM_SOFTWARE_ID`
      if sensorOwnerIdType = 0x1 then .error .sensorIsSystemSoftware
      else return {
        recordType := recordType
        sensorNumber := sensorNumber
        eventReadingTypeCode := eventReadingTypeCode
        slaveAddress := sensorOwnerId <<< 1 ||| sensorOwnerIdType
        sensorOwnerLun := sensorOwnerLun
        channelNumber := channelNumber }

/-! ### What the response means -/

/-- `IPMI_EVENT_READING_TYPE_CODE_CLASS_*`. -/
inductive ReadingClass where
  | threshold | genericDiscrete | sensorSpecificDiscrete | oem | unknown
  deriving DecidableEq

/-- `ipmi_event_reading_type_code_class`. -/
def eventReadingTypeCodeClass (eventReadingTypeCode : Byte) : ReadingClass :=
  if eventReadingTypeCode = 0x01 then .threshold
  else if 0x02 ≤ eventReadingTypeCode.toNat ∧ eventReadingTypeCode.toNat ≤ 0x0C then .genericDiscrete
  else if eventReadingTypeCode = 0x6F then .sensorSpecificDiscrete
  else if 0x70 ≤ eventReadingTypeCode.toNat ∧ eventReadingTypeCode.toNat ≤ 0x7F then .oem
  else .unknown

/-- A return of 0 or 1: for 0 there may be an error, and there is no reading. -/
structure Reading where
  rv : ℤ
  errnum : Option SensorReadErr
  sensorReadingRaw : Byte
  sensorReading : Option ℚ
  sensorEventBitmask : BitVec 16

/-- The event bitmask, when the response has none, half or all of it. -/
def sensorEventBitmask : Option Byte → Option Byte → Except SensorReadErr (BitVec 16)
  | none, none => .ok 0
  | some low, some high => .ok (low.setWidth 16 ||| high.setWidth 16 <<< 8)
  | some low, none => .ok (low.setWidth 16)
  | none, some _ => .error .ipmiError

/-- The reading of a full record, when it is analog and linear. -/
def decodeReading (libm : Sensor.Libm) (factors : Sensor.Factors) (raw : Byte) (bitmask : BitVec 16) :
    Except SensorReadErr Reading :=
  if !Sensor.linearizationIsLinear factors.linearization then
    .ok ⟨0, some .sensorNonLinear, raw, none, bitmask⟩
  else match Sensor.ipmiSensorDecodeValue libm factors raw with
    | .error _ => .error .internalError
    | .ok reading => .ok ⟨1, none, raw, some reading, bitmask⟩

/-- A threshold sensor. -/
def thresholdReading (libm : Sensor.Libm) (ndebug : Bool) (sdrRecord : List Byte) (recordType raw : Byte)
    (bitmask : BitVec 16) : Except SensorReadErr Reading :=
  if recordType ≠ sdrFormatFullSensorRecord then .ok ⟨1, none, raw, none, bitmask⟩
  else do
    let factors ← orSdrEntryError (ipmiSdrParseSensorDecodingData ndebug sdrRecord)
    if !Sensor.analogDataFormatValid factors.analogDataFormat then
      return ⟨0, some .sensorNonAnalog, raw, none, bitmask⟩
    else decodeReading libm factors raw bitmask

/-- A discrete sensor, which may have a reading nevertheless. -/
def discreteReading (libm : Sensor.Libm) (ndebug : Bool) (ctx : SensorReadCtx) (sdrRecord : List Byte)
    (recordType raw : Byte) (bitmask : BitVec 16) : Except SensorReadErr Reading :=
  if ctx.has sensorReadFlagsDiscreteReading ∧ recordType = sdrFormatFullSensorRecord then do
    let factors ← orSdrEntryError (ipmiSdrParseSensorDecodingData ndebug sdrRecord)
    let units ← orSdrEntryError (ipmiSdrParseSensorUnits ndebug sdrRecord)
    if !Sensor.analogDataFormatValid factors.analogDataFormat
        -- `IPMI_SDR_PERCENTAGE_YES`, `IPMI_SENSOR_UNIT_UNSPECIFIED`
        ∨ (units.percentage ≠ 1 ∧ units.baseUnitType = 0) then
      return ⟨1, none, raw, none, bitmask⟩
    else decodeReading libm factors raw bitmask
  else .ok ⟨1, none, raw, none, bitmask⟩

/-- The last stage of `ipmi_sensor_read`. -/
def interpretReading (libm : Sensor.Libm) (ndebug : Bool) (ctx : SensorReadCtx) (sdrRecord : List Byte)
    (address : SensorAddress) (rs : SensorReadingRs) : Except SensorReadErr Reading := do
  let readingState ← getFieldStrict rs "reading_state"
  if readingState = sensorReadingStateUnavailable then .error .sensorReadingUnavailable
  else
    let sensorScanning ←
      if ctx.has sensorReadFlagsIgnoreScanningDisabled then .ok 1
      else getFieldStrict rs "sensor_scanning"
    if sensorScanning = sensorScanningOnThisSensorDisable then .error .sensorScanningDisabled
    else
      let sensorEventBitmask1 ← getField rs "sensor_event_bitmask1"
      let sensorEventBitmask2 ← getField rs "sensor_event_bitmask2"
      let bitmask ← sensorEventBitmask sensorEventBitmask1 sensorEventBitmask2
      let raw ← getFieldStrict rs "sensor_reading"
      match eventReadingTypeCodeClass address.eventReadingTypeCode with
      | .threshold => thresholdReading libm ndebug sdrRecord address.recordType raw bitmask
      | .genericDiscrete => discreteReading libm ndebug ctx sdrRecord address.recordType raw bitmask
      | .sensorSpecificDiscrete =>
        discreteReading libm ndebug ctx sdrRecord address.recordType raw bitmask
      | .oem => .ok ⟨1, none, raw, none, bitmask⟩
      | .unknown => .ok ⟨0, none, raw, none, bitmask⟩

/-! ### The whole call -/

/-- The second stage: the command, to the BMC or over the IPMB. -/
def requestReading (bmc : SensorBmc) (ctx : SensorReadCtx) (address : SensorAddress) :
    Except SensorReadErr SensorReadingRs :=
  if !ctx.has sensorReadFlagsAssumeBmcOwner then
    -- `IPMI_SLAVE_ADDRESS_BMC`
    if address.slaveAddress = 0x20 then getSensorReading bmc ctx address.sensorNumber
    else getSensorReadingIpmb bmc ctx address.slaveAddress address.sensorOwnerLun
      address.channelNumber address.sensorNumber
  else getSensorReading bmc ctx address.sensorNumber

/-- `ipmi_sensor_read`: what it returns (an error is a return of -1), and the context. -/
def ipmiSensorRead (libm : Sensor.Libm) (bmc : SensorBmc) (ndebug : Bool) (ctx : SensorReadCtx)
    (sdrRecord : List Byte) (sharedSensorNumberOffset : Byte) :
    Except SensorReadErr Reading × SensorReadCtx :=
  match sensorAddress ndebug sdrRecord sharedSensorNumberOffset with
  | .error e => (.error e, ctx)
  | .ok address =>
    match ipmiCtxSetFlags ctx.ipmiCtx (ctx.ipmiCtx.flags ||| ipmiFlagsNoValidCheck) with
    | none => (.error .internalError, ctx)
    | some ipmiCtx =>
      let ctxFlagsOrig := ctx.ipmiCtx.flags
      let ctx := { ctx with ipmiCtx := ipmiCtx }
      match requestReading bmc ctx address with
      -- `goto cleanup`, past the restoring of the flags
      | .error e => (.error e, ctx)
      | .ok rs =>
        match ipmiCtxSetFlags ctx.ipmiCtx ctxFlagsOrig with
        | none => (.error .internalError, ctx)
        | some ipmiCtx =>
          let ctx := { ctx with ipmiCtx := ipmiCtx }
          (interpretReading libm ndebug ctx sdrRecord address rs, ctx)

end FreeIpmi.SensorRead
