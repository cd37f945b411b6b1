import FreeIpmi.Util.SequenceNumber

/-! The data of `ipmipower`'s power control (`ipmipower.h`).

    A power command goes through one exchange after another: it sends the request of the exchange
    and waits in the state `sent` for the response. Whatever the program reads of a response is a
    field of `Reply`; where a read or a library call fails the program ends with
    `exit (EXIT_FAILURE)`, an `Exit`. -/

namespace FreeIpmi.Power
open Util (Window)

/-- `ipmipower_power_cmd_t`. -/
inductive PowerCmd where
  | powerOff | powerOn | powerCycle | powerReset | powerStatus | pulseDiagnosticInterrupt
  | softShutdownOs | identifyOn | identifyOff | identifyStatus
  deriving DecidableEq

/-- `ipmipower_packet_type_t` without the direction: each stands for a request and its response. -/
inductive PacketType where
  | authenticationCapabilities | getSessionChallenge | activateSession
  -- the responses to the first two messages of RAKP are the messages 2 and 4
  | openSession | rakpMessage1 | rakpMessage3
  | setSessionPrivilegeLevel | getChassisStatus | chassisControl | chassisIdentify
  | c410xGetSensorReading | c410xSlotPowerControl | closeSession
  deriving DecidableEq

/-- `IPMIPOWER_PACKET_TYPE_IPMI_1_5_SETUP_RS`. -/
def PacketType.ipmi15Setup : PacketType → Bool
  | .authenticationCapabilities | .getSessionChallenge | .activateSession => true
  | _ => false

/-- `IPMIPOWER_PACKET_TYPE_IPMI_2_0_SETUP_RS` and `_RQ`. -/
def PacketType.ipmi20Setup : PacketType → Bool
  | .openSession | .rakpMessage1 | .rakpMessage3 => true
  | _ => false

/-- `IPMIPOWER_PACKET_TYPE_IPMI_SESSION_PACKET_RS` and `_RQ`. -/
def PacketType.sessionPacket : PacketType → Bool
  | .setSessionPrivilegeLevel | .getChassisStatus | .chassisControl | .chassisIdentify
  | .c410xGetSensorReading | .c410xSlotPowerControl | .closeSession => true
  | _ => false

/-- `ipmipower_protocol_state_t`; the states in between wait for the response of an exchange. -/
inductive ProtocolState where
  | start
  | sent (pkt : PacketType)
  | done
  deriving DecidableEq

/-- The values of `ipmipower_msg_type_t` that power control outputs. -/
inductive MsgType where
  | on | off | ok | unknown
  | usernameInvalid | passwordInvalid | kGInvalid | privilegeLevelCannotBeObtained
  | operationInvalid | authenticationTypeUnavailable | cipherSuiteIdUnavailable
  | passwordVerificationTimeout | connectionTimeout | sessionTimeout
  | resources | ipmi20Unavailable | bmcBusy | bmcError
  deriving DecidableEq

/-- Why the program ends. -/
inductive Exit where
  -- `FIID_OBJ_GET` or `fiid_obj_get_data` of a field that is not set
  | field
  -- another library call that returns -1
  | call
  | invalidCommandState | invalidState | invalidPktType | goodCode | assertion
  deriving DecidableEq

/-- `cmd_args.common_args.driver_type`. -/
inductive DriverType where | lan | lan20
  deriving DecidableEq

/-- `oem_power_type_t`. -/
inductive OemPowerType where | none | c410x
  deriving DecidableEq

/-- The workaround flags that power control looks at. -/
structure Workarounds where
  -- `NO_CHECKSUM_CHECK` of either list of flags
  noChecksumCheck : Bool := false
  noAuthCodeCheck : Bool := false
  checkUnexpectedAuthcode : Bool := false
  bigEndianSequenceNumber : Bool := false
  acceptSessionIdZero : Bool := false
  forcePermsgAuthentication : Bool := false
  authenticationCapabilities : Bool := false
  authenticationCapabilities20 : Bool := false
  intel20Session : Bool := false
  sun20Session : Bool := false
  openSessionPrivilege : Bool := false

/-- `cmd_args`, and the names of the hosts in `ics`. -/
structure Config where
  driverType : DriverType
  oemPowerType : OemPowerType := .none
  fanout : ℕ := 0
  waitUntilOn : Bool := false
  waitUntilOff : Bool := false
  onIfOff : Bool := false
  authenticationType : ℕ := 0
  privilegeLevel : ℕ := 4
  workarounds : Workarounds := {}
  hostname : ℕ → List Byte

/-- One call of `ipmipower_output`. -/
structure Output where
  msg : MsgType
  hostname : List Byte
  extraArg : Option (List Byte)
  deriving DecidableEq

/-- What the program reads of a packet in `ic->ipmi_in`. A field that is `none` is not set, and a
    library call that is `none` returns -1. -/
structure Reply where
  -- `unassemble_ipmi_lan_pkt` or `unassemble_ipmi_rmcpplus_pkt`
  unassembled : Option Bool := some true
  -- the session headers and `obj_lan_msg_hdr_rs`
  sessionSequenceNumber : Option ℕ := none
  sessionId : Option ℕ := none
  payloadType : Option ℕ := none
  netFn : Option ℕ := none
  rqSeq : Option ℕ := none
  -- the object of the response
  cmd : Option ℕ := none
  compCode : Option ℕ := none
  messageTag : Option ℕ := none
  rmcpplusStatusCode : Option ℕ := none
  remoteConsoleSessionId : Option ℕ := none
  maximumPrivilegeLevel : Option ℕ := none
  managedSystemRandomNumber : Option Unit := none
  perMessageAuthentication : Option ℕ := none
  activateSessionId : Option ℕ := none
  activateAuthenticationType : Option ℕ := none
  powerIsOn : Option ℕ := none
  identifySupported : Option ℕ := none
  identifyState : Option ℕ := none
  sensorReading : Option ℕ := none
  readingState : Option ℕ := none
  sensorScanning : Option ℕ := none
  -- `fiid_obj_packet_valid`
  packetValid : Option Bool := some true
  -- `ipmi_lan_check_checksum`
  checksum : Option Bool := some true
  -- `ipmi_lan_check_packet_session_authentication_code` for an authentication type
  authenticationCode : ℕ → Option Bool := fun _ => some true
  -- `ipmi_rmcpplus_check_*`
  rmcpplusAuthenticationCode : Option Bool := some true
  payloadPad : Option Bool := some true
  integrityPad : Option Bool := some true
  rakp2KeyExchangeAuthenticationCode : Option Bool := some true
  rakp4IntegrityCheckValue : Option Bool := some true
  -- `ipmi_check_open_session_maximum_privilege`
  openSessionMaximumPrivilege : Option Bool := some true
  -- `ipmi_check_authentication_capabilities_*`
  capabilitiesUsername : Option Bool := some true
  capabilitiesAuthenticationType : Option Bool := some true
  capabilitiesIpmi20 : Option Bool := some true
  capabilitiesKG : Option Bool := some true
  -- `ipmi_calculate_rmcpplus_session_keys`
  sessionKeys : Option Unit := some ()

/-- `struct ipmipower_powercmd`, with what it has output. -/
structure Powercmd where
  cmd : PowerCmd
  protocolState : ProtocolState
  retransmissionCount : ℕ
  closeTimeout : ℕ
  sessionInboundCount : ℕ
  -- `highest_received_sequence_number` and `previously_received_list`
  window : Window
  permsgauthEnabled : Bool
  requestedMaximumPrivilegeLevel : ℕ
  initialMessageTag : BitVec 8
  messageTagCount : BitVec 8
  sessionSequenceNumber : BitVec 32
  remoteConsoleSessionId : ℕ
  waitUntilOnState : ℕ
  waitUntilOffState : ℕ
  -- the place of the connection in `ics`
  ic : ℕ
  -- the objects as the last packet left them, and `session_id` of `obj_activate_session_rs`
  rs : Reply
  activateSessionId : Option ℕ
  extraArg : Option (List Byte)
  outputs : List Output

/-- `FIID_OBJ_GET`, or the program ends. -/
def Exit.get {α : Type} : Option α → Except Exit α
  | some v => .ok v
  | none => .error .field

/-- A library call, or the program ends. -/
def Exit.run {α : Type} : Option α → Except Exit α
  | some v => .ok v
  | none => .error .call

/-- `ipmipower_output` for the host of a command. -/
def Powercmd.output (cfg : Config) (ip : Powercmd) (msg : MsgType) : Powercmd :=
  { ip with outputs := ip.outputs ++ [⟨msg, cfg.hostname ip.ic, ip.extraArg⟩] }

end FreeIpmi.Power
