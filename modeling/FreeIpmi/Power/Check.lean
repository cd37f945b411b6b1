import FreeIpmi.Power.Interface

/-! The checks of a response (`ipmipower_check.c`). -/

namespace FreeIpmi.Power

/-- `IPMI_AUTHENTICATION_TYPE_NONE`. -/
def authenticationTypeNone : ℕ := 0x00

/-- `ipmipower_check_checksum`. -/
def checkChecksum (cfg : Config) (r : Reply) : Except Exit Bool :=
  if cfg.workarounds.noChecksumCheck then .ok true else Exit.run r.checksum

/-- `ipmipower_check_authentication_code`. -/
def checkAuthenticationCode (cfg : Config) (ip : Powercmd) (pkt : PacketType) (r : Reply) :
    Except Exit Bool :=
  if pkt = .activateSession ∨ cfg.driverType = .lan then
    if cfg.workarounds.noAuthCodeCheck then .ok true
    else do
      let plain := pkt ≠ .activateSession ∧ !ip.permsgauthEnabled
      let authenticationType := if plain then authenticationTypeNone else cfg.authenticationType
      let rv ← Exit.run (r.authenticationCode authenticationType)
      if cfg.workarounds.checkUnexpectedAuthcode ∧ !rv ∧ plain then
        Exit.run (r.authenticationCode cfg.authenticationType)
      else return rv
  else Exit.run r.rmcpplusAuthenticationCode

/-- The bytes of a 32-bit number in the opposite order. -/
def flipBytes (n : BitVec 32) : BitVec 32 :=
  (n &&& 0xFF000000) >>> 24 ||| (n &&& 0x00FF0000) >>> 8 ||| (n &&& 0x0000FF00) <<< 8
    ||| (n &&& 0x000000FF) <<< 24

/-- A session sequence number, as far as the workaround for its byte order is concerned. -/
def readSequenceNumber (cfg : Config) (n : ℕ) : BitVec 32 :=
  if cfg.workarounds.bigEndianSequenceNumber then flipBytes (.ofNat 32 n) else .ofNat 32 n

/-- `ipmipower_check_outbound_sequence_number`, with the window afterwards. -/
def checkOutboundSequenceNumber (cfg : Config) (ip : Powercmd) (r : Reply) :
    Except Exit (Bool × Powercmd) := do
  let n ← Exit.get r.sessionSequenceNumber
  match Util.checkSessionSequenceNumber (readSequenceNumber cfg n) ip.window 0
      (cfg.driverType = .lan20) with
  | .ok (rv, window) => return (rv, { ip with window })
  | .error _ => .error .call

/-- `ipmipower_check_session_id`. -/
def checkSessionId (cfg : Config) (ip : Powercmd) (pkt : PacketType) (r : Reply) :
    Except Exit Bool := do
  let sessionId ← Exit.get (if pkt.sessionPacket then r.sessionId else r.remoteConsoleSessionId)
  let expected ← if cfg.driverType = .lan ∧ pkt.sessionPacket then Exit.get ip.activateSessionId
    else pure ip.remoteConsoleSessionId
  return (cfg.workarounds.acceptSessionIdZero ∧ sessionId = 0) ∨ sessionId = expected

/-- The `expected_netfn` of `ipmipower_check_network_function`. -/
def expectedNetfn : PacketType → ℕ
  | .getChassisStatus | .chassisControl | .chassisIdentify => 0x01
  | .c410xGetSensorReading => 0x05
  | .c410xSlotPowerControl => 0x31
  | _ => 0x07

/-- `ipmipower_check_network_function`. -/
def checkNetworkFunction (pkt : PacketType) (r : Reply) : Except Exit Bool := do
  let netfn ← Exit.get r.netFn
  return netfn = expectedNetfn pkt

/-- The `expected_cmd` of `ipmipower_check_command`; the messages of RAKP have no command. -/
def expectedCmd : PacketType → Option ℕ
  | .authenticationCapabilities => some 0x38
  | .getSessionChallenge => some 0x39
  | .activateSession => some 0x3A
  | .setSessionPrivilegeLevel => some 0x3B
  | .getChassisStatus => some 0x01
  | .chassisControl => some 0x02
  | .chassisIdentify => some 0x04
  | .c410xGetSensorReading => some 0x2D
  | .c410xSlotPowerControl => some 0xF0
  | .closeSession => some 0x3C
  | .openSession | .rakpMessage1 | .rakpMessage3 => none

/-- `ipmipower_check_command`. -/
def checkCommand (pkt : PacketType) (r : Reply) : Except Exit Bool := do
  let cmd ← Exit.get r.cmd
  match expectedCmd pkt with
  | some expected => return cmd = expected
  | none => .error .invalidPktType

/-- `IPMI_LAN_REQUESTER_SEQUENCE_NUMBER_MAX`. -/
def lanRequesterSequenceNumberMax : ℕ := 0x3F

/-- `ipmipower_check_requester_sequence_number`, for the counter of the connection. -/
def checkRequesterSequenceNumber (counter : ℕ) (r : Reply) : Except Exit Bool := do
  let reqSeq ← Exit.get r.rqSeq
  return reqSeq = counter % (lanRequesterSequenceNumberMax + 1)

/-- `ipmipower_check_completion_code`. -/
def checkCompletionCode (r : Reply) : Except Exit Bool := do
  let compCode ← Exit.get r.compCode
  return compCode = 0

/-- The `expected_payload_type` of `ipmipower_check_payload_type`. -/
def expectedPayloadType : PacketType → ℕ
  | .openSession => 0x11
  | .rakpMessage1 => 0x13
  | .rakpMessage3 => 0x15
  | _ => 0x00

/-- `ipmipower_check_payload_type`. -/
def checkPayloadType (pkt : PacketType) (r : Reply) : Except Exit Bool := do
  let payloadType ← Exit.get r.payloadType
  return payloadType = expectedPayloadType pkt

/-- `ipmipower_check_message_tag`. -/
def checkMessageTag (ip : Powercmd) (r : Reply) : Except Exit Bool := do
  let messageTag ← Exit.get r.messageTag
  return messageTag = (ip.initialMessageTag + ip.messageTagCount).toNat

/-- `ipmipower_check_rmcpplus_status_code`. -/
def checkRmcpplusStatusCode (r : Reply) : Except Exit Bool := do
  let rmcpplusStatusCode ← Exit.get r.rmcpplusStatusCode
  return rmcpplusStatusCode = 0

/-- `ipmipower_check_packet`. -/
def checkPacket (r : Reply) : Except Exit Bool := Exit.run r.packetValid

/-- `ipmipower_check_open_session_response_privilege`. -/
def checkOpenSessionResponsePrivilege (cfg : Config) (ip : Powercmd) (r : Reply) :
    Except Exit Bool :=
  if cfg.workarounds.intel20Session then do
    let maximumPrivilegeLevel ← Exit.get r.maximumPrivilegeLevel
    return maximumPrivilegeLevel = ip.requestedMaximumPrivilegeLevel
  else Exit.run r.openSessionMaximumPrivilege

/-- `ipmipower_packet_errmsg`. -/
def packetErrmsg (cfg : Config) (pkt : PacketType) (r : Reply) : Except Exit MsgType :=
  if pkt.ipmi20Setup then do
    let code ← Exit.get r.rmcpplusStatusCode
    if code = 0x00 then .error .goodCode
    else if code = 0x01 ∨ code = 0x0B then return .bmcBusy
    else if code = 0x0A ∨ code = 0x09 then return .privilegeLevelCannotBeObtained
    else if code = 0x0D then return .usernameInvalid
    else if code = 0x11 then return .cipherSuiteIdUnavailable
    else return .bmcError
  else do
    let code ← Exit.get r.compCode
    if code = 0x00 then .error .goodCode
    else if pkt = .authenticationCapabilities ∧ cfg.driverType = .lan20 ∧ code = 0xCC then
      return .ipmi20Unavailable
    else if pkt = .getSessionChallenge ∧ (code = 0x81 ∨ code = 0x82) then return .usernameInvalid
    else if pkt = .activateSession ∧ code = 0x86 then return .privilegeLevelCannotBeObtained
    else if pkt = .activateSession ∧ (code = 0x81 ∨ code = 0x82 ∨ code = 0x83) then return .bmcBusy
    else if pkt = .activateSession ∧ code = 0xD4 then return .privilegeLevelCannotBeObtained
    else if pkt = .setSessionPrivilegeLevel ∧ (code = 0x81 ∨ code = 0x82 ∨ code = 0x83) then
      return .privilegeLevelCannotBeObtained
    else if pkt = .chassisControl ∧ code = 0xD5 then return .operationInvalid
    else return .bmcError

end FreeIpmi.Power
