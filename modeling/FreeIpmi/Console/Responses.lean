import FreeIpmi.Rmcpplus.Check

/-! The packets of a console session (`libipmiconsole/ipmiconsole_defs.h`,
    `ipmiconsole_packet.c`), and the templates of the commands it waits for. -/

namespace FreeIpmi.Console
open Fiid Lan Rmcpplus

/-- The `IPMICONSOLE_PACKET_TYPE_*` that `IPMICONSOLE_PACKET_TYPE_REQUEST` holds for, less the SOL
    data. -/
inductive RequestType where
  | getAuthenticationCapabilitiesRq | openSessionRequest | rakpMessage1 | rakpMessage3
  | setSessionPrivilegeLevelRq | getChannelPayloadSupportRq | getPayloadActivationStatusRq
  | activatePayloadRq | getChannelPayloadVersionRq | deactivatePayloadRq | closeSessionRq
  deriving DecidableEq, Repr

/-- The `IPMICONSOLE_PACKET_TYPE_*` that `IPMICONSOLE_PACKET_TYPE_RESPONSE` holds for. -/
inductive PacketType where
  | getAuthenticationCapabilitiesRs | openSessionResponse | rakpMessage2 | rakpMessage4
  | setSessionPrivilegeLevelRs | getChannelPayloadSupportRs | getPayloadActivationStatusRs
  | activatePayloadRs | solPayloadDataRs | getChannelPayloadVersionRs | deactivatePayloadRs
  | closeSessionRs
  deriving DecidableEq, Repr

/-- `IPMICONSOLE_PROTOCOL_STATE_*`. -/
inductive ProtocolState where
  | start | getAuthenticationCapabilitiesSent | openSessionRequestSent | rakpMessage1Sent
  | rakpMessage3Sent | setSessionPrivilegeLevelSent | getChannelPayloadSupportSent
  | getPayloadActivationStatusSent | activatePayloadSent | solSession | deactivatePayloadSent
  | closeSessionSent | stateEnd
  deriving DecidableEq, Repr

/-! ### Templates -/

/-- The two fields that every response to a command begins with. -/
def responseFields : List FiidField :=
  [⟨8, "cmd", sufficientFixed, .refl true⟩, ⟨8, "comp_code", sufficientFixed, .refl true⟩]

/-- A required field of one bit for each of the names. -/
def flagFields (keys : List String) : List FiidField :=
  keys.map fun key => ⟨1, key, requiredFixed, .refl true⟩

/-- `tmpl_cmd_get_channel_authentication_capabilities_rs`. -/
def tmplCmdGetChannelAuthenticationCapabilitiesRs : FiidTemplate where
  fields := responseFields ++ [⟨8, "channel_number", requiredFixed, .refl true⟩] ++
    flagFields
      ["authentication_type.none", "authentication_type.md2", "authentication_type.md5",
       "authentication_type.reserved1", "authentication_type.straight_password_key",
       "authentication_type.oem_prop", "authentication_type.reserved2",
       "authentication_type.ipmi_v2.0_extended_capabilities_available",
       "authentication_status.anonymous_login", "authentication_status.null_username",
       "authentication_status.non_null_username", "authentication_status.user_level_authentication",
       "authentication_status.per_message_authentication", "authentication_status.k_g"] ++
    [⟨2, "authentication_status.reserved", requiredFixed, .refl true⟩] ++
    flagFields ["channel_supports_ipmi_v1.5_connections", "channel_supports_ipmi_v2.0_connections"] ++
    [⟨6, "reserved", requiredFixed, .refl true⟩,
     ⟨24, "oem_id", requiredFixed, .refl true⟩,
     ⟨8, "oem_auxiliary_data", requiredFixed, .refl true⟩]

/-- `tmpl_cmd_set_session_privilege_level_rs`. -/
def tmplCmdSetSessionPrivilegeLevelRs : FiidTemplate where
  fields := responseFields ++
    [⟨4, "privilege_level", requiredFixed, .refl true⟩,
     ⟨4, "reserved1", requiredFixed, .refl true⟩]

/-- `tmpl_cmd_get_channel_payload_support_rs`. -/
def tmplCmdGetChannelPayloadSupportRs : FiidTemplate where
  fields := responseFields ++
    flagFields
      ["standard_payload_type_0_supported", "standard_payload_type_1_supported",
       "standard_payload_type_2_supported", "standard_payload_type_3_supported",
       "standard_payload_type_4_supported", "standard_payload_type_5_supported",
       "standard_payload_type_6_supported", "standard_payload_type_7_supported",
       "standard_payload_type_8_supported", "standard_payload_type_9_supported",
       "standard_payload_type_10_supported", "standard_payload_type_11_supported",
       "standard_payload_type_12_supported", "standard_payload_type_13_supported",
       "standard_payload_type_14_supported", "standard_payload_type_15_supported",
       "session_setup_payload_0_supported", "session_setup_payload_1_supported",
       "session_setup_payload_2_supported", "session_setup_payload_3_supported",
       "session_setup_payload_4_supported", "session_setup_payload_5_supported",
       "session_setup_payload_6_supported", "session_setup_payload_7_supported",
       "session_setup_payload_8_supported", "session_setup_payload_9_supported",
       "session_setup_payload_10_supported", "session_setup_payload_11_supported",
       "session_setup_payload_12_supported", "session_setup_payload_13_supported",
       "session_setup_payload_14_supported", "session_setup_payload_15_supported",
       "payload_type_20h_supported", "payload_type_21h_supported", "payload_type_22h_supported",
       "payload_type_23h_supported", "payload_type_24h_supported", "payload_type_25h_supported",
       "payload_type_26h_supported", "payload_type_27h_supported", "payload_type_28h_supported",
       "payload_type_29h_supported", "payload_type_2Ah_supported", "payload_type_2Bh_supported",
       "payload_type_2Ch_supported", "payload_type_2Dh_supported", "payload_type_2Eh_supported",
       "payload_type_2Fh_supported"] ++
    [⟨16, "reserved", requiredFixed, .refl true⟩]

/-- `tmpl_cmd_get_payload_activation_status_rs`. -/
def tmplCmdGetPayloadActivationStatusRs : FiidTemplate where
  fields := responseFields ++
    [⟨4, "instance_capacity", requiredFixed, .refl true⟩,
     ⟨4, "reserved", requiredFixed, .refl true⟩] ++
    flagFields
      ["instance_1", "instance_2", "instance_3", "instance_4", "instance_5", "instance_6",
       "instance_7", "instance_8", "instance_9", "instance_10", "instance_11", "instance_12",
       "instance_13", "instance_14", "instance_15", "instance_16"]

/-- `tmpl_cmd_activate_payload_sol_rs`. -/
def tmplCmdActivatePayloadSolRs : FiidTemplate where
  fields := responseFields ++
    [⟨1, "test_mode", requiredFixed, .refl true⟩,
     ⟨31, "reserved1", requiredFixed, .refl true⟩,
     ⟨16, "inbound_payload_size", requiredFixed, .refl true⟩,
     ⟨16, "outbound_payload_size", requiredFixed, .refl true⟩,
     ⟨16, "payload_udp_port_number", requiredFixed, .refl true⟩,
     ⟨16, "payload_vlan_number", requiredFixed, .refl true⟩]

/-- `tmpl_cmd_get_channel_payload_version_rs`. -/
def tmplCmdGetChannelPayloadVersionRs : FiidTemplate where
  fields := responseFields ++
    [⟨4, "minor_format_version", requiredFixed, .refl true⟩,
     ⟨4, "major_format_version", requiredFixed, .refl true⟩]

/-- `tmpl_cmd_deactivate_payload_rs`. -/
def tmplCmdDeactivatePayloadRs : FiidTemplate where
  fields := responseFields

/-- `tmpl_cmd_close_session_rs`. -/
def tmplCmdCloseSessionRs : FiidTemplate where
  fields := responseFields

/-- `ipmiconsole_packet_template`. -/
def ipmiconsolePacketTemplate : PacketType → FiidTemplate
  | .getAuthenticationCapabilitiesRs => tmplCmdGetChannelAuthenticationCapabilitiesRs
  | .openSessionResponse => tmplRmcpplusOpenSessionResponse
  | .rakpMessage2 => tmplRmcpplusRakpMessage2
  | .rakpMessage4 => tmplRmcpplusRakpMessage4
  | .setSessionPrivilegeLevelRs => tmplCmdSetSessionPrivilegeLevelRs
  | .getChannelPayloadSupportRs => tmplCmdGetChannelPayloadSupportRs
  | .getPayloadActivationStatusRs => tmplCmdGetPayloadActivationStatusRs
  | .activatePayloadRs => tmplCmdActivatePayloadSolRs
  | .solPayloadDataRs => tmplSolPayloadDataBmcToRemoteConsole
  | .getChannelPayloadVersionRs => tmplCmdGetChannelPayloadVersionRs
  | .deactivatePayloadRs => tmplCmdDeactivatePayloadRs
  | .closeSessionRs => tmplCmdCloseSessionRs

/-! ### Codes -/

/-- The `IPMI_CMD_*` that `ipmiconsole_check_command` expects; none for the packets it is not
    called for. -/
def expectedCmd : PacketType → Option Byte
  | .getAuthenticationCapabilitiesRs => some 0x38
  | .setSessionPrivilegeLevelRs => some 0x3B
  | .getChannelPayloadSupportRs => some 0x4E
  | .getPayloadActivationStatusRs => some 0x4A
  | .activatePayloadRs => some 0x48
  | .getChannelPayloadVersionRs => some 0x4F
  | .deactivatePayloadRs => some 0x49
  | .closeSessionRs => some 0x3C
  | .openSessionResponse => none
  | .rakpMessage2 => none
  | .rakpMessage4 => none
  | .solPayloadDataRs => none

/-- The `IPMI_PAYLOAD_TYPE_*` that `ipmiconsole_check_payload_type` expects. -/
def expectedPayloadType : PacketType → Byte
  | .openSessionResponse => ipmiPayloadTypeRmcpplusOpenSessionResponse
  | .rakpMessage2 => ipmiPayloadTypeRakpMessage2
  | .rakpMessage4 => ipmiPayloadTypeRakpMessage4
  | .solPayloadDataRs => ipmiPayloadTypeSol
  | _ => ipmiPayloadTypeIpmi

/-- `IPMI_NET_FN_APP_RS`. -/
def ipmiNetFnAppRs : Byte := 0x07

/-- `IPMI_COMP_CODE_COMMAND_SUCCESS`. -/
def ipmiCompCodeCommandSuccess : Byte := 0x00

def ipmiCompCodeActivatePayloadPayloadAlreadyActiveOnAnotherSession : Byte := 0x80
def ipmiCompCodeActivatePayloadPayloadTypeIsDisabled : Byte := 0x81
def ipmiCompCodeActivatePayloadPayloadActivationLimitReached : Byte := 0x82
def ipmiCompCodeActivatePayloadCannotActivatePayloadWithEncryption : Byte := 0x83
def ipmiCompCodeActivatePayloadCannotActivatePayloadWithoutEncryption : Byte := 0x84

def ipmiCompCodeDeactivatePayloadPayloadAlreadyDeactivated : Byte := 0x80
def ipmiCompCodeDeactivatePayloadPayloadTypeIsDisabled : Byte := 0x81

/-- `RMCPPLUS_STATUS_NO_ERRORS`. -/
def rmcpplusStatusNoErrors : Byte := 0x00

/-! ### Flags -/

def ipmiconsoleWorkaroundAuthenticationCapabilities : BitVec 32 := 0x00000001
def ipmiconsoleWorkaroundIntel20Session : BitVec 32 := 0x00000002
def ipmiconsoleWorkaroundSupermicro20Session : BitVec 32 := 0x00000004
def ipmiconsoleWorkaroundSun20Session : BitVec 32 := 0x00000008
def ipmiconsoleWorkaroundNonEmptyIntegrityCheckValue : BitVec 32 := 0x00000020
def ipmiconsoleWorkaroundNoChecksumCheck : BitVec 32 := 0x00000040
def ipmiconsoleWorkaroundIncrementSolPacketSequence : BitVec 32 := 0x00000100
def ipmiconsoleWorkaroundIgnoreSolPayloadSize : BitVec 32 := 0x01000000
def ipmiconsoleWorkaroundIgnoreSolPort : BitVec 32 := 0x02000000
def ipmiconsoleWorkaroundSkipSolActivationStatus : BitVec 32 := 0x04000000
def ipmiconsoleWorkaroundSkipChannelPayloadSupport : BitVec 32 := 0x08000000

def ipmiconsoleEngineOutputOnSolEstablished : BitVec 32 := 0x00000002
def ipmiconsoleEngineSerialKeepalive : BitVec 32 := 0x00000008
def ipmiconsoleEngineSerialKeepaliveEmpty : BitVec 32 := 0x00000010

def ipmiconsoleBehaviorErrorOnSolInuse : BitVec 32 := 0x00000001
def ipmiconsoleBehaviorDeactivateOnly : BitVec 32 := 0x00000002
def ipmiconsoleBehaviorDeactivateAllInstances : BitVec 32 := 0x00000004

end FreeIpmi.Console
