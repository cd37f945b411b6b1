import FreeIpmi.Fiid.Bytes
import FreeIpmi.Sdr.CacheRead
import FreeIpmi.Util.Sensor

/-! The records of an SDR and their fields (`record-format/ipmi-sdr-record-format.c`,
    `sdr/ipmi-sdr-parse.c`).

    Every getter checks the type of the record, fills an object of that type from its bytes and reads
    fields of it. A record may be shorter than its type says: then the fields behind its end are
    missing. The getters take the record as an argument; the record under the cursor of a cache is
    such a record too. -/

namespace FreeIpmi.Sdr
open Calls

/-! ### Templates -/

/-- `FIID_FIELD_REQUIRED | FIID_FIELD_LENGTH_FIXED`. -/
def fixedFlags : BitVec 32 := Fiid.fiidFieldRequired ||| Fiid.fiidFieldLengthFixed

/-- `FIID_FIELD_OPTIONAL | FIID_FIELD_LENGTH_VARIABLE`. -/
def variableFlags : BitVec 32 := Fiid.fiidFieldOptional ||| Fiid.fiidFieldLengthVariable

/-- `tmpl_sdr_full_sensor_record`. -/
def tmplSdrFullSensorRecord : Fiid.FiidTemplate where
  fields := [⟨16, "record_id", fixedFlags, .refl true⟩,
    ⟨4, "sdr_version_major", fixedFlags, .refl true⟩,
    ⟨4, "sdr_version_minor", fixedFlags, .refl true⟩, ⟨8, "record_type", fixedFlags, .refl true⟩,
    ⟨8, "record_length", fixedFlags, .refl true⟩,
    ⟨1, "sensor_owner_id.type", fixedFlags, .refl true⟩,
    ⟨7, "sensor_owner_id", fixedFlags, .refl true⟩, ⟨2, "sensor_owner_lun", fixedFlags, .refl true⟩,
    ⟨2, "sensor_owner_lun.reserved", fixedFlags, .refl true⟩,
    ⟨4, "channel_number", fixedFlags, .refl true⟩, ⟨8, "sensor_number", fixedFlags, .refl true⟩,
    ⟨8, "entity_id", fixedFlags, .refl true⟩, ⟨7, "entity_instance", fixedFlags, .refl true⟩,
    ⟨1, "entity_instance.type", fixedFlags, .refl true⟩,
    ⟨1, "sensor_initialization.sensor_scanning", fixedFlags, .refl true⟩,
    ⟨1, "sensor_initialization.event_generation", fixedFlags, .refl true⟩,
    ⟨1, "sensor_initialization.init_sensor_type", fixedFlags, .refl true⟩,
    ⟨1, "sensor_initialization.init_hysteresis", fixedFlags, .refl true⟩,
    ⟨1, "sensor_initialization.init_thresholds", fixedFlags, .refl true⟩,
    ⟨1, "sensor_initialization.init_events", fixedFlags, .refl true⟩,
    ⟨1, "sensor_initialization.init_scanning", fixedFlags, .refl true⟩,
    ⟨1, "sensor_initialization.settable_sensor", fixedFlags, .refl true⟩,
    ⟨2, "sensor_capabilities.event_message_control_support", fixedFlags, .refl true⟩,
    ⟨2, "sensor_capabilities.threshold_access_support", fixedFlags, .refl true⟩,
    ⟨2, "sensor_capabilities.hysteresis_support", fixedFlags, .refl true⟩,
    ⟨1, "sensor_capabilities.auto_re_arm_support", fixedFlags, .refl true⟩,
    ⟨1, "sensor_capabilities.entity_ignore_support", fixedFlags, .refl true⟩,
    ⟨8, "sensor_type", fixedFlags, .refl true⟩,
    ⟨8, "event_reading_type_code", fixedFlags, .refl true⟩,
    ⟨16, "assertion_event_lower_threshold_reading_mask", fixedFlags, .refl true⟩,
    ⟨16, "deassertion_event_upper_threshold_reading_mask", fixedFlags, .refl true⟩,
    ⟨16, "discrete_reading_settable_threshold_readable_threshold_mask", fixedFlags, .refl true⟩,
    ⟨1, "sensor_unit1.percentage", fixedFlags, .refl true⟩,
    ⟨2, "sensor_unit1.modifier_unit", fixedFlags, .refl true⟩,
    ⟨3, "sensor_unit1.rate_unit", fixedFlags, .refl true⟩,
    ⟨2, "sensor_unit1.analog_data_format", fixedFlags, .refl true⟩,
    ⟨8, "sensor_unit2.base_unit", fixedFlags, .refl true⟩,
    ⟨8, "sensor_unit3.modifier_unit", fixedFlags, .refl true⟩,
    ⟨7, "linearization", fixedFlags, .refl true⟩,
    ⟨1, "linearization.reserved", fixedFlags, .refl true⟩, ⟨8, "m_ls", fixedFlags, .refl true⟩,
    ⟨6, "tolerance", fixedFlags, .refl true⟩, ⟨2, "m_ms", fixedFlags, .refl true⟩,
    ⟨8, "b_ls", fixedFlags, .refl true⟩, ⟨6, "accuracy_ls", fixedFlags, .refl true⟩,
    ⟨2, "b_ms", fixedFlags, .refl true⟩, ⟨2, "sensor_direction", fixedFlags, .refl true⟩,
    ⟨2, "accuracy_exp", fixedFlags, .refl true⟩, ⟨4, "accuracy_ms", fixedFlags, .refl true⟩,
    ⟨4, "b_exponent", fixedFlags, .refl true⟩, ⟨4, "r_exponent", fixedFlags, .refl true⟩,
    ⟨1, "analog_characteristics_flag.nominal_reading", fixedFlags, .refl true⟩,
    ⟨1, "analog_characteristics_flag.normal_max", fixedFlags, .refl true⟩,
    ⟨1, "analog_characteristics_flag.normal_min", fixedFlags, .refl true⟩,
    ⟨5, "analog_characteristics_flag.reserved", fixedFlags, .refl true⟩,
    ⟨8, "nominal_reading", fixedFlags, .refl true⟩, ⟨8, "normal_maximum", fixedFlags, .refl true⟩,
    ⟨8, "normal_minimum", fixedFlags, .refl true⟩,
    ⟨8, "sensor_maximum_reading", fixedFlags, .refl true⟩,
    ⟨8, "sensor_minimum_reading", fixedFlags, .refl true⟩,
    ⟨8, "upper_non_recoverable_threshold", fixedFlags, .refl true⟩,
    ⟨8, "upper_critical_threshold", fixedFlags, .refl true⟩,
    ⟨8, "upper_non_critical_threshold", fixedFlags, .refl true⟩,
    ⟨8, "lower_non_recoverable_threshold", fixedFlags, .refl true⟩,
    ⟨8, "lower_critical_threshold", fixedFlags, .refl true⟩,
    ⟨8, "lower_non_critical_threshold", fixedFlags, .refl true⟩,
    ⟨8, "positive_going_threshold_hysteresis", fixedFlags, .refl true⟩,
    ⟨8, "negative_going_threshold_hysteresis", fixedFlags, .refl true⟩,
    ⟨16, "reserved", fixedFlags, .refl true⟩, ⟨8, "oem", fixedFlags, .refl true⟩,
    ⟨8, "id_string_type_length_code", fixedFlags, .refl true⟩,
    ⟨128, "id_string", variableFlags, .refl true⟩]

/-- `tmpl_sdr_compact_sensor_record`. -/
def tmplSdrCompactSensorRecord : Fiid.FiidTemplate where
  fields := [⟨16, "record_id", fixedFlags, .refl true⟩,
    ⟨4, "sdr_version_major", fixedFlags, .refl true⟩,
    ⟨4, "sdr_version_minor", fixedFlags, .refl true⟩, ⟨8, "record_type", fixedFlags, .refl true⟩,
    ⟨8, "record_length", fixedFlags, .refl true⟩,
    ⟨1, "sensor_owner_id.type", fixedFlags, .refl true⟩,
    ⟨7, "sensor_owner_id", fixedFlags, .refl true⟩, ⟨2, "sensor_owner_lun", fixedFlags, .refl true⟩,
    ⟨2, "sensor_owner_lun.reserved", fixedFlags, .refl true⟩,
    ⟨4, "channel_number", fixedFlags, .refl true⟩, ⟨8, "sensor_number", fixedFlags, .refl true⟩,
    ⟨8, "entity_id", fixedFlags, .refl true⟩, ⟨7, "entity_instance", fixedFlags, .refl true⟩,
    ⟨1, "entity_instance.type", fixedFlags, .refl true⟩,
    ⟨1, "sensor_initialization.sensor_scanning", fixedFlags, .refl true⟩,
    ⟨1, "sensor_initialization.event_generation", fixedFlags, .refl true⟩,
    ⟨1, "sensor_initialization.init_sensor_type", fixedFlags, .refl true⟩,
    ⟨1, "sensor_initialization.init_hysteresis", fixedFlags, .refl true⟩,
    ⟨1, "sensor_initialization.init_thresholds", fixedFlags, .refl true⟩,
    ⟨1, "sensor_initialization.init_events", fixedFlags, .refl true⟩,
    ⟨1, "sensor_initialization.init_scanning", fixedFlags, .refl true⟩,
    ⟨1, "sensor_initialization.reserved", fixedFlags, .refl true⟩,
    ⟨2, "sensor_capabilities.event_message_control_support", fixedFlags, .refl true⟩,
    ⟨2, "sensor_capabilities.threshold_access_support", fixedFlags, .refl true⟩,
    ⟨2, "sensor_capabilities.hysteresis_support", fixedFlags, .refl true⟩,
    ⟨1, "sensor_capabilities.auto_re_arm_support", fixedFlags, .refl true⟩,
    ⟨1, "sensor_capabilities.entity_ignore_support", fixedFlags, .refl true⟩,
    ⟨8, "sensor_type", fixedFlags, .refl true⟩,
    ⟨8, "event_reading_type_code", fixedFlags, .refl true⟩,
    ⟨16, "assertion_event_lower_threshold_reading_mask", fixedFlags, .refl true⟩,
    ⟨16, "deassertion_event_upper_threshold_reading_mask", fixedFlags, .refl true⟩,
    ⟨16, "discrete_reading_settable_threshold_readable_threshold_mask", fixedFlags, .refl true⟩,
    ⟨1, "sensor_unit1.percentage", fixedFlags, .refl true⟩,
    ⟨2, "sensor_unit1.modifier_unit", fixedFlags, .refl true⟩,
    ⟨3, "sensor_unit1.rate_unit", fixedFlags, .refl true⟩,
    ⟨2, "sensor_unit1.analog_data_format", fixedFlags, .refl true⟩,
    ⟨8, "sensor_unit2.base_unit", fixedFlags, .refl true⟩,
    ⟨8, "sensor_unit3.modifier_unit", fixedFlags, .refl true⟩,
    ⟨4, "share_count", fixedFlags, .refl true⟩,
    ⟨2, "id_string_instance_modifier_type", fixedFlags, .refl true⟩,
    ⟨2, "sensor_direction", fixedFlags, .refl true⟩,
    ⟨7, "id_string_instance_modifier_offset", fixedFlags, .refl true⟩,
    ⟨1, "entity_instance_sharing", fixedFlags, .refl true⟩,
    ⟨8, "positive_going_threshold_hysteresis", fixedFlags, .refl true⟩,
    ⟨8, "negative_going_threshold_hysteresis", fixedFlags, .refl true⟩,
    ⟨24, "reserved", fixedFlags, .refl true⟩, ⟨8, "oem", fixedFlags, .refl true⟩,
    ⟨8, "id_string_type_length_code", fixedFlags, .refl true⟩,
    ⟨128, "id_string", variableFlags, .refl true⟩]

/-- `tmpl_sdr_event_only_record`. -/
def tmplSdrEventOnlyRecord : Fiid.FiidTemplate where
  fields := [⟨16, "record_id", fixedFlags, .refl true⟩,
    ⟨4, "sdr_version_major", fixedFlags, .refl true⟩,
    ⟨4, "sdr_version_minor", fixedFlags, .refl true⟩, ⟨8, "record_type", fixedFlags, .refl true⟩,
    ⟨8, "record_length", fixedFlags, .refl true⟩,
    ⟨1, "sensor_owner_id.type", fixedFlags, .refl true⟩,
    ⟨7, "sensor_owner_id", fixedFlags, .refl true⟩, ⟨2, "sensor_owner_lun", fixedFlags, .refl true⟩,
    ⟨2, "fru_inventory_device_owner_lun", fixedFlags, .refl true⟩,
    ⟨4, "channel_number", fixedFlags, .refl true⟩, ⟨8, "sensor_number", fixedFlags, .refl true⟩,
    ⟨8, "entity_id", fixedFlags, .refl true⟩, ⟨7, "entity_instance", fixedFlags, .refl true⟩,
    ⟨1, "entity_instance.type", fixedFlags, .refl true⟩, ⟨8, "sensor_type", fixedFlags, .refl true⟩,
    ⟨8, "event_reading_type_code", fixedFlags, .refl true⟩,
    ⟨4, "share_count", fixedFlags, .refl true⟩,
    ⟨2, "id_string_instance_modifier_type", fixedFlags, .refl true⟩,
    ⟨2, "sensor_direction", fixedFlags, .refl true⟩,
    ⟨7, "id_string_instance_modifier_offset", fixedFlags, .refl true⟩,
    ⟨1, "entity_instance_sharing", fixedFlags, .refl true⟩, ⟨8, "reserved", fixedFlags, .refl true⟩,
    ⟨8, "oem", fixedFlags, .refl true⟩, ⟨8, "id_string_type_length_code", fixedFlags, .refl true⟩,
    ⟨128, "id_string", variableFlags, .refl true⟩]

/-- `tmpl_sdr_generic_device_locator_record`. -/
def tmplSdrGenericDeviceLocatorRecord : Fiid.FiidTemplate where
  fields := [⟨16, "record_id", fixedFlags, .refl true⟩,
    ⟨4, "sdr_version_major", fixedFlags, .refl true⟩,
    ⟨4, "sdr_version_minor", fixedFlags, .refl true⟩, ⟨8, "record_type", fixedFlags, .refl true⟩,
    ⟨8, "record_length", fixedFlags, .refl true⟩,
    ⟨1, "device_access_address.reserved", fixedFlags, .refl true⟩,
    ⟨7, "device_access_address", fixedFlags, .refl true⟩,
    ⟨1, "channel_number_ms", fixedFlags, .refl true⟩,
    ⟨7, "device_slave_address", fixedFlags, .refl true⟩,
    ⟨3, "private_bus_id", fixedFlags, .refl true⟩,
    ⟨2, "lun_for_master_write_read_command", fixedFlags, .refl true⟩,
    ⟨3, "channel_number_ls", fixedFlags, .refl true⟩, ⟨3, "address_span", fixedFlags, .refl true⟩,
    ⟨5, "address_span.reserved", fixedFlags, .refl true⟩, ⟨8, "reserved", fixedFlags, .refl true⟩,
    ⟨8, "device_type", fixedFlags, .refl true⟩, ⟨8, "device_type_modifier", fixedFlags, .refl true⟩,
    ⟨8, "entity_id", fixedFlags, .refl true⟩, ⟨7, "entity_instance", fixedFlags, .refl true⟩,
    ⟨1, "entity_instance.type", fixedFlags, .refl true⟩, ⟨8, "oem", fixedFlags, .refl true⟩,
    ⟨8, "device_id_string_type_length", fixedFlags, .refl true⟩,
    ⟨128, "device_id_string", variableFlags, .refl true⟩]

/-- `tmpl_sdr_fru_device_locator_record`. -/
def tmplSdrFruDeviceLocatorRecord : Fiid.FiidTemplate where
  fields := [⟨16, "record_id", fixedFlags, .refl true⟩,
    ⟨4, "sdr_version_major", fixedFlags, .refl true⟩,
    ⟨4, "sdr_version_minor", fixedFlags, .refl true⟩, ⟨8, "record_type", fixedFlags, .refl true⟩,
    ⟨8, "record_length", fixedFlags, .refl true⟩,
    ⟨1, "device_access_address.reserved", fixedFlags, .refl true⟩,
    ⟨7, "device_access_address", fixedFlags, .refl true⟩,
    ⟨8, "logical_fru_device_device_slave_address", fixedFlags, .refl true⟩,
    ⟨3, "private_bus_id", fixedFlags, .refl true⟩,
    ⟨2, "lun_for_master_write_read_fru_command", fixedFlags, .refl true⟩,
    ⟨2, "logical_physical_access_lun_bus_id.reserved", fixedFlags, .refl true⟩,
    ⟨1, "logical_physical_fru_device", fixedFlags, .refl true⟩,
    ⟨4, "channel_number.reserved", fixedFlags, .refl true⟩,
    ⟨4, "channel_number", fixedFlags, .refl true⟩, ⟨8, "reserved", fixedFlags, .refl true⟩,
    ⟨8, "device_type", fixedFlags, .refl true⟩, ⟨8, "device_type_modifier", fixedFlags, .refl true⟩,
    ⟨8, "fru_entity_id", fixedFlags, .refl true⟩,
    ⟨8, "fru_entity_instance", fixedFlags, .refl true⟩, ⟨8, "oem", fixedFlags, .refl true⟩,
    ⟨8, "device_id_string_type_length", fixedFlags, .refl true⟩,
    ⟨128, "device_id_string", variableFlags, .refl true⟩]

/-- `tmpl_sdr_management_controller_device_locator_record`. -/
def tmplSdrManagementControllerDeviceLocatorRecord : Fiid.FiidTemplate where
  fields := [⟨16, "record_id", fixedFlags, .refl true⟩,
    ⟨4, "sdr_version_major", fixedFlags, .refl true⟩,
    ⟨4, "sdr_version_minor", fixedFlags, .refl true⟩, ⟨8, "record_type", fixedFlags, .refl true⟩,
    ⟨8, "record_length", fixedFlags, .refl true⟩,
    ⟨1, "device_slave_address.reserved", fixedFlags, .refl true⟩,
    ⟨7, "device_slave_address", fixedFlags, .refl true⟩,
    ⟨4, "channel_number", fixedFlags, .refl true⟩,
    ⟨4, "channel_number.reserved", fixedFlags, .refl true⟩,
    ⟨2, "global_initialization.event_message_generation", fixedFlags, .refl true⟩,
    ⟨1, "global_initialization.log_initialization_agent_errors", fixedFlags, .refl true⟩,
    ⟨1, "global_initialization.controller_logs_initialization_agent_errors", fixedFlags, .refl true⟩,
    ⟨1, "power_state_notification.reserved", fixedFlags, .refl true⟩,
    ⟨1, "power_state_notification.controller", fixedFlags, .refl true⟩,
    ⟨1, "power_state_notification.acpi_device_power_state_notification", fixedFlags, .refl true⟩,
    ⟨1, "power_state_notification.acpi_system_power_state_notification", fixedFlags, .refl true⟩,
    ⟨1, "device_capabilities.sensor_device", fixedFlags, .refl true⟩,
    ⟨1, "device_capabilities.sdr_repository_device", fixedFlags, .refl true⟩,
    ⟨1, "device_capabilities.sel_device", fixedFlags, .refl true⟩,
    ⟨1, "device_capabilities.fru_inventory_device", fixedFlags, .refl true⟩,
    ⟨1, "device_capabilities.ipmb_event_receiver", fixedFlags, .refl true⟩,
    ⟨1, "device_capabilities.ipmb_event_generator", fixedFlags, .refl true⟩,
    ⟨1, "device_capabilities.bridge", fixedFlags, .refl true⟩,
    ⟨1, "device_capabilities.chassis_device", fixedFlags, .refl true⟩,
    ⟨24, "reserved", fixedFlags, .refl true⟩, ⟨8, "entity_id", fixedFlags, .refl true⟩,
    ⟨7, "entity_instance", fixedFlags, .refl true⟩,
    ⟨1, "entity_instance.type", fixedFlags, .refl true⟩, ⟨8, "oem", fixedFlags, .refl true⟩,
    ⟨8, "device_id_string_type_length", fixedFlags, .refl true⟩,
    ⟨128, "device_id_string", variableFlags, .refl true⟩]

/-! ### Record types -/

/-- The record types that the getters below accept. -/
inductive SdrFormat where
  | fullSensorRecord | compactSensorRecord | eventOnlyRecord | genericDeviceLocatorRecord
  | fruDeviceLocatorRecord | managementControllerDeviceLocatorRecord
  deriving DecidableEq, Repr

/-- `IPMI_SDR_FORMAT_*`. -/
def SdrFormat.recordType : SdrFormat → Byte
  | fullSensorRecord => sdrFormatFullSensorRecord
  | compactSensorRecord => sdrFormatCompactSensorRecord
  | eventOnlyRecord => sdrFormatEventOnlyRecord
  | genericDeviceLocatorRecord => 0x10
  | fruDeviceLocatorRecord => 0x11
  | managementControllerDeviceLocatorRecord => 0x12

/-- The template of a record type. -/
def SdrFormat.tmpl : SdrFormat → Fiid.FiidTemplate
  | fullSensorRecord => tmplSdrFullSensorRecord
  | compactSensorRecord => tmplSdrCompactSensorRecord
  | eventOnlyRecord => tmplSdrEventOnlyRecord
  | genericDeviceLocatorRecord => tmplSdrGenericDeviceLocatorRecord
  | fruDeviceLocatorRecord => tmplSdrFruDeviceLocatorRecord
  | managementControllerDeviceLocatorRecord => tmplSdrManagementControllerDeviceLocatorRecord

/-- The acceptable type that a record has. -/
def SdrFormat.find (acceptableRecordTypes : List SdrFormat) (recordType : Byte) : Option SdrFormat :=
  acceptableRecordTypes.find? fun format => format.recordType = recordType

/-! ### Getters -/

/-- `SDR_FIID_OBJECT_ERROR_TO_SDR_ERRNUM`. -/
def sdrFiidObjectErrorToSdrErrnum : Stop → SdrStop
  | .fiid .dataNotAvailable => .errnum .ipmiError
  | .fiid .fieldNotFound => .errnum .parameters
  | .fiid .dataNotByteAligned => .errnum .parameters
  | .fiid .requiredFieldMissing => .errnum .parameters
  | .fiid .fixedLengthFieldInvalid => .errnum .parameters
  | .fiid .notIdentical => .errnum .parameters
  | .undefined => .undefined
  | .assertion => .assertion
  | _ => .errnum .internalError

/-- A fiid call on an object of the record. -/
def orFiidErrnum {α : Type} : Except Stop α → Except SdrStop α
  | .ok a => .ok a
  | .error e => .error (sdrFiidObjectErrorToSdrErrnum e)

/-- `ipmi_sdr_parse_record_id_and_type` of a given record. -/
def sdrRecordIdAndType (ndebug : Bool) (sdrRecord : List Byte) : Except SdrStop (BitVec 16 × Byte) :=
  if sdrRecord = [] then .error (.errnum .parameters)
  else if sdrRecord.length < 5 then .error (.errnum .parseIncompleteSdrRecord)
  else do
    let obj ← createRecordHeader ndebug
    let (obj, _) ← orFiidErrnum (Fiid.trySetAll obj (sdrRecord.take 5))
    let recordId ← orFiidErrnum (Fiid.fiidObjGetStrict obj "record_id")
    let recordType ← orFiidErrnum (Fiid.fiidObjGetStrict obj "record_type")
    return (recordId.setWidth 16, recordType.setWidth 8)

/-- `fiid_obj_create` of a record. -/
def createRecord (ndebug : Bool) (format : SdrFormat) : Except SdrStop Fiid.FiidObj :=
  match Fiid.fiidObjCreate ndebug format.tmpl with
  | none => .error (.errnum .internalError)
  | some obj => .ok obj

/-- `_sdr_record_get_common`. The types that are not in `SdrFormat` are never acceptable. -/
def sdrRecordGetCommon (ndebug : Bool) (sdrRecord : List Byte)
    (acceptableRecordTypes : List SdrFormat) : Except SdrStop Fiid.FiidObj := do
  let (_, recordType) ← sdrRecordIdAndType ndebug sdrRecord
  match SdrFormat.find acceptableRecordTypes recordType with
  | none => .error (.errnum .parseInvalidSdrRecord)
  | some format =>
    let obj ← createRecord ndebug format
    let (obj, _) ← orFiidErrnum (Fiid.trySetAll obj sdrRecord)
    return obj

/-- `FIID_OBJ_GET` into a `uint8_t`. -/
def getUInt8 (obj : Fiid.FiidObj) (field : String) : Except SdrStop Byte := do
  let val ← orFiidErrnum (Fiid.fiidObjGetStrict obj field)
  return val.setWidth 8

/-- The record types with a sensor. -/
def sensorRecordTypes : List SdrFormat := [.fullSensorRecord, .compactSensorRecord, .eventOnlyRecord]

/-- `ipmi_sdr_parse_sensor_owner_id`: type and id. -/
def ipmiSdrParseSensorOwnerId (ndebug : Bool) (sdrRecord : List Byte) :
    Except SdrStop (Byte × Byte) := do
  let obj ← sdrRecordGetCommon ndebug sdrRecord sensorRecordTypes
  let sensorOwnerIdType ← getUInt8 obj "sensor_owner_id.type"
  let sensorOwnerId ← getUInt8 obj "sensor_owner_id"
  return (sensorOwnerIdType, sensorOwnerId)

/-- `ipmi_sdr_parse_sensor_owner_lun`: lun and channel number. -/
def ipmiSdrParseSensorOwnerLun (ndebug : Bool) (sdrRecord : List Byte) :
    Except SdrStop (Byte × Byte) := do
  let obj ← sdrRecordGetCommon ndebug sdrRecord sensorRecordTypes
  let sensorOwnerLun ← getUInt8 obj "sensor_owner_lun"
  let channelNumber ← getUInt8 obj "channel_number"
  return (sensorOwnerLun, channelNumber)

/-- `ipmi_sdr_parse_sensor_number`. -/
def ipmiSdrParseSensorNumber (ndebug : Bool) (sdrRecord : List Byte) : Except SdrStop Byte := do
  let obj ← sdrRecordGetCommon ndebug sdrRecord sensorRecordTypes
  getUInt8 obj "sensor_number"

/-- `ipmi_sdr_parse_event_reading_type_code`. -/
def ipmiSdrParseEventReadingTypeCode (ndebug : Bool) (sdrRecord : List Byte) :
    Except SdrStop Byte := do
  let obj ← sdrRecordGetCommon ndebug sdrRecord sensorRecordTypes
  getUInt8 obj "event_reading_type_code"

/-- `ipmi_sdr_parse_entity_id_instance_type`: id, instance and type of the entity. -/
def ipmiSdrParseEntityIdInstanceType (ndebug : Bool) (sdrRecord : List Byte) :
    Except SdrStop (Byte × Byte × Byte) := do
  let obj ← sdrRecordGetCommon ndebug sdrRecord
    (sensorRecordTypes ++ [.genericDeviceLocatorRecord, .managementControllerDeviceLocatorRecord])
  let entityId ← getUInt8 obj "entity_id"
  let entityInstance ← getUInt8 obj "entity_instance"
  let entityInstanceType ← getUInt8 obj "entity_instance.type"
  return (entityId, entityInstance, entityInstanceType)

/-- What a caller of `ipmi_sdr_parse_sensor_record_sharing` passes a pointer for. -/
structure SharingWanted where
  shareCount : Bool
  idStringInstanceModifierType : Bool
  idStringInstanceModifierOffset : Bool
  entityInstanceSharing : Bool

/-- What `ipmi_sdr_parse_sensor_record_sharing` stores; 0 where there is no pointer. -/
structure Sharing where
  shareCount : Byte
  idStringInstanceModifierType : Byte
  idStringInstanceModifierOffset : Byte
  entityInstanceSharing : Byte
  deriving DecidableEq

/-- A field that is read only for a pointer that is not null. -/
def getWanted (wanted : Bool) (obj : Fiid.FiidObj) (field : String) : Except SdrStop Byte :=
  if wanted then getUInt8 obj field else .ok 0

/-- `ipmi_sdr_parse_sensor_record_sharing`. -/
def ipmiSdrParseSensorRecordSharing (ndebug : Bool) (sdrRecord : List Byte) (wanted : SharingWanted) :
    Except SdrStop Sharing := do
  let obj ← sdrRecordGetCommon ndebug sdrRecord [.compactSensorRecord, .eventOnlyRecord]
  let shareCount ← getWanted wanted.shareCount obj "share_count"
  let modifierType ←
    getWanted wanted.idStringInstanceModifierType obj "id_string_instance_modifier_type"
  let modifierOffset ←
    getWanted wanted.idStringInstanceModifierOffset obj "id_string_instance_modifier_offset"
  let entityInstanceSharing ← getWanted wanted.entityInstanceSharing obj "entity_instance_sharing"
  return ⟨shareCount, modifierType, modifierOffset, entityInstanceSharing⟩

/-- A nibble as an `int8_t`. -/
def exponentOf (val : Byte) : Byte := if val &&& 0x08 ≠ 0 then val ||| 0xF0 else val

/-- Ten bits as an `int16_t`. -/
def factorOf (ls ms : Byte) : BitVec 16 :=
  let val := ls.setWidth 16 ||| (ms.setWidth 16 &&& 0x3) <<< 8
  if val &&& 0x200 ≠ 0 then val ||| 0xFE00 else val

/-- `ipmi_sdr_parse_sensor_decoding_data`. -/
def ipmiSdrParseSensorDecodingData (ndebug : Bool) (sdrRecord : List Byte) :
    Except SdrStop Sensor.Factors := do
  let obj ← sdrRecordGetCommon ndebug sdrRecord [.fullSensorRecord]
  let rExponent ← getUInt8 obj "r_exponent"
  let bExponent ← getUInt8 obj "b_exponent"
  let mLs ← getUInt8 obj "m_ls"
  let mMs ← getUInt8 obj "m_ms"
  let bLs ← getUInt8 obj "b_ls"
  let bMs ← getUInt8 obj "b_ms"
  let linearization ← getUInt8 obj "linearization"
  let analogDataFormat ← getUInt8 obj "sensor_unit1.analog_data_format"
  return ⟨(exponentOf rExponent).toInt, (exponentOf bExponent).toInt, (factorOf mLs mMs).toInt,
    (factorOf bLs bMs).toInt, linearization, analogDataFormat⟩

/-- What `ipmi_sdr_parse_sensor_units` stores. -/
structure SensorUnits where
  percentage : Byte
  modifier : Byte
  rate : Byte
  baseUnitType : Byte
  modifierUnitType : Byte

/-- A unit that is not in the table is unspecified; the last one is `IPMI_SENSOR_UNIT_GRAMS`. -/
def validUnit (unitType : Byte) : Byte := if unitType.toNat ≤ 92 then unitType else 0

/-- `ipmi_sdr_parse_sensor_units`. -/
def ipmiSdrParseSensorUnits (ndebug : Bool) (sdrRecord : List Byte) : Except SdrStop SensorUnits := do
  let obj ← sdrRecordGetCommon ndebug sdrRecord [.fullSensorRecord, .compactSensorRecord]
  let percentage ← getUInt8 obj "sensor_unit1.percentage"
  let modifier ← getUInt8 obj "sensor_unit1.modifier_unit"
  let rate ← getUInt8 obj "sensor_unit1.rate_unit"
  let baseUnitType ← getUInt8 obj "sensor_unit2.base_unit"
  let modifierUnitType ← getUInt8 obj "sensor_unit3.modifier_unit"
  return ⟨percentage, modifier, rate, validUnit baseUnitType, validUnit modifierUnitType⟩

/-- `ipmi_sdr_parse_id_string` into a buffer of `idStringLen` bytes: the bytes it copies. -/
def ipmiSdrParseIdString (ndebug : Bool) (sdrRecord : List Byte) (idStringLen : ℕ) :
    Except SdrStop (List Byte) := do
  let obj ← sdrRecordGetCommon ndebug sdrRecord sensorRecordTypes
  orFiidErrnum (Fiid.fiidObjGetData obj "id_string" idStringLen)

/-- `ipmi_sdr_parse_device_id_string` into a buffer of `deviceIdStringLen` bytes. -/
def ipmiSdrParseDeviceIdString (ndebug : Bool) (sdrRecord : List Byte) (deviceIdStringLen : ℕ) :
    Except SdrStop (List Byte) := do
  let obj ← sdrRecordGetCommon ndebug sdrRecord [.genericDeviceLocatorRecord, .fruDeviceLocatorRecord,
    .managementControllerDeviceLocatorRecord]
  orFiidErrnum (Fiid.fiidObjGetData obj "device_id_string" deviceIdStringLen)

end FreeIpmi.Sdr
