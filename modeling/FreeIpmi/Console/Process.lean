import FreeIpmi.Console.Receive

/-! The state machine of a console (`_process_ctx` of `libipmiconsole/ipmiconsole_processing.c`).

    A step is a call of `_process_ctx`, or what the engine does between two calls: it puts a packet
    or the user's characters into a buffer, or asks for the session to be closed. What the clock, the
    sending and the host lookup do in a call is a parameter. A context for which `_process_ctx`
    returns -1 is deleted, so the run ends. -/

namespace FreeIpmi.Console
open Fiid Lan Rmcpplus Util

/-- What happens in a call of `_process_ctx`: the time, the comparisons of it with the timeouts, the
    byte behind a packet on the stack, whether a SOL packet can be sent, whether the user can be told
    of the session, and a new session for a new port. -/
structure Env where
  now : ℕ
  sessionTimeout : Bool
  retransmissionTimeout : Bool
  solTimeouts : SolTimeouts
  beyond : Byte
  solPacketSent : Bool
  notified : Bool
  newSession : Option Randoms

/-! ### Closing -/

/-- `_close_session`: whether closing has been initiated. -/
def closeSession (now : ℕ) (c : Ctx) : Except Halt (Bool × Ctx) := do
  protocolAssert (c.machine.closeSessionFlag ≠ 0)
  match c.protocolState with
  | .start => .error .quit
  | .getAuthenticationCapabilitiesSent => .error .quit
  | .openSessionRequestSent => .error .quit
  | .rakpMessage1Sent => .error .quit
  | .setSessionPrivilegeLevelSent => return (true, ← closeNow now c)
  | .getChannelPayloadSupportSent => return (true, ← closeNow now c)
  | .getPayloadActivationStatusSent => return (true, ← closeNow now c)
  | .solSession => return (true, ← deactivateNow now c)
  | .rakpMessage3Sent => return (false, c)
  | .activatePayloadSent => return (false, c)
  | .deactivatePayloadSent => return (false, c)
  | .closeSessionSent => return (false, c)
  | .stateEnd => return (false, c)

/-- `_check_close_session`. -/
def checkCloseSession (now : ℕ) (c : Ctx) : Except Halt (Bool × Ctx) :=
  if c.machine.closeSessionFlag = 0 then .ok (false, c) else closeSession now c

/-! ### Retransmissions -/

/-- The request that a state waits for the response to. -/
def retransmitted : ProtocolState → Option RequestType
  | .getAuthenticationCapabilitiesSent => some .getAuthenticationCapabilitiesRq
  | .openSessionRequestSent => some .openSessionRequest
  | .rakpMessage1Sent => some .rakpMessage1
  | .rakpMessage3Sent => some .rakpMessage3
  | .setSessionPrivilegeLevelSent => some .setSessionPrivilegeLevelRq
  | .getChannelPayloadSupportSent => some .getChannelPayloadSupportRq
  | .getPayloadActivationStatusSent => some .getPayloadActivationStatusRq
  | .activatePayloadSent => some .activatePayloadRq
  | .deactivatePayloadSent => some .deactivatePayloadRq
  | _ => none

/-- A request sent again, on behalf of `_ipmi_retransmission_timeout`. -/
def retransmit (p : RequestType) (now : ℕ) (c : Ctx) : Except Halt (Rc × Ctx) := do
  let (sent, c) ← sendIpmiPacket p now c
  return (if sent then .one else .minusOne, c)

/-- The session is closed instead, as no payload has been activated yet. -/
def closeUnactivated (now : ℕ) (c : Ctx) : Except Halt (Rc × Ctx) := do
  let (sent, c) ← sendIpmiPacket .closeSessionRq now c
  return if sent then (.zero, c.moveTo .closeSessionSent) else (.minusOne, c)

/-- `c->session.retransmission_count++`. -/
def Ctx.countRetransmission (c : Ctx) : Ctx :=
  { c with sol := { c.sol with retransmissionCount := c.sol.retransmissionCount + 1 } }

/-- `_ipmi_retransmission_timeout`. -/
def ipmiRetransmissionTimeout (env : Env) (c : Ctx) : Except Halt (Rc × Ctx) := do
  protocolAssert (c.protocolState ≠ .start)
  protocolAssert (c.protocolState ≠ .solSession)
  if !env.retransmissionTimeout then return (.zero, c)
  else
    let c := c.countRetransmission
    if c.sol.retransmissionCount > c.config.maximumRetransmissionCount then return (.minusOne, c)
    else if c.protocolState = .rakpMessage3Sent ∧ c.machine.closeSessionFlag ≠ 0 then
      return (.minusOne, c)
    else if c.protocolState = .activatePayloadSent ∧ c.machine.closeSessionFlag ≠ 0 then
      closeUnactivated env.now c
    else if c.protocolState = .closeSessionSent then
      return (.one, if c.machine.closeSessionFlag = 0 then c
        else { c with machine := { c.machine with closeTimeoutFlag := c.machine.closeTimeoutFlag + 1 } })
    else
      match retransmitted c.protocolState with
      | some p => retransmit p env.now c
      | none => return (.minusOne, c)

/-! ### SOL packets -/

instance (m : ℕ) (p : SolPacket) : Decidable (AssembleOk m p) :=
  decidable_of_iff (p.characterData.length ≤ m ∧ p.characterData.length ≤ ipmiconsoleMaxCharacterData ∧
      (p.packetSequenceNumber = 0 →
        p.packetAckNackSequenceNumber ≠ 0 ∧ p.characterData.length = 0))
    ⟨fun ⟨hsize, harray, hack⟩ => ⟨hsize, harray, hack⟩, fun h => ⟨h.size, h.array, h.ackOnly⟩⟩

/-- The SOL session after its packet has been sent. Where sending fails, SOL_SESSION is left for good,
    and only what is read after it is kept: the counters that other requests use as well, and the
    buffers. -/
def solSent (env : Env) (c : Ctx) (sent : Option Sent) (s : SolSession) : Except Halt (Bool × Ctx) := do
  match sent with
  | none => return (true, { c with sol := s })
  | some sent =>
    protocolAssert (c.protocolState = .solSession)
    if ¬ AssembleOk s.maxSolCharacterSendSize sent.packet then .error .library
    else if env.solPacketSent then return (true, { c with sol := s })
    else return (false, { c with sol := { c.sol with
      sessionSequenceNumber := s.sessionSequenceNumber
      retransmissionCount := s.retransmissionCount
      workaroundRetransmissionCount := s.workaroundRetransmissionCount
      consoleRemoteConsoleToBmc := s.consoleRemoteConsoleToBmc
      consoleBmcToRemoteConsole := s.consoleBmcToRemoteConsole } })

/-- Deactivate the payload, and try once more where that fails. -/
def deactivateOrAgain (now : ℕ) (c : Ctx) : Except Halt Ctx := do
  let (sent, c) ← sendIpmiPacket .deactivatePayloadRq now c
  if sent then return c.moveTo .deactivatePayloadSent else deactivateNow now c.setCloseSessionFlag

/-- The first packet of `_process_protocol_state_sol_session_send`, or its retransmission. -/
def solInput (env : Env) (c : Ctx) : Except Halt (Bool × Ctx) := do
  protocolAssert (c.sol.solInputWaitingForAck ≠ 0 → c.protocolState = .solSession)
  match solSessionInput c.config.sol c.sol env.solTimeouts with
  | .error _ =>
    let s := { c.sol with
      retransmissionCount := c.sol.retransmissionCount + 1
      workaroundRetransmissionCount :=
        if c.config.workaround ipmiconsoleWorkaroundIncrementSolPacketSequence then
          c.sol.workaroundRetransmissionCount + 1
        else c.sol.workaroundRetransmissionCount }
    return (true, ← closeNow env.now { c with sol := s }.setCloseSessionFlag)
  | .ok (sent, s) =>
    let (ok, c) ← solSent env c sent s
    if ok then return (sent.isSome, c) else return (true, ← deactivateNow env.now c.setCloseSessionFlag)

/-- `_keepalive_timeout`, and what follows its failure. -/
def keepaliveTimeout (env : Env) (c : Ctx) : Except Halt (Bool × Ctx) := do
  protocolAssert (c.protocolState = .solSession)
  if env.solTimeouts.keepaliveIsNecessary ∧ env.solTimeouts.keepaliveRetransmission then
    let (sent, c) ← sendIpmiPacket .getChannelPayloadVersionRq env.now c
    if sent then return (true, c) else return (true, ← deactivateNow env.now c.setCloseSessionFlag)
  else return (false, c)

/-- `_serial_keepalive_timeout`, and what follows its failure. -/
def serialKeepalive (env : Env) (c : Ctx) : Except Halt (Bool × Ctx) := do
  if c.config.engine ipmiconsoleEngineSerialKeepalive
      ∨ c.config.engine ipmiconsoleEngineSerialKeepaliveEmpty then
    protocolAssert (c.protocolState = .solSession)
    let (o, s) := serialKeepaliveTimeout c.config.sol c.sol env.solTimeouts
    let (ok, c) ← solSent env c o.sent s
    if ok then return (o.sent.isSome, c)
    else return (true, ← deactivateOrAgain env.now c.setCloseSessionFlag)
  else return (false, c)

/-- `_process_protocol_state_sol_session_send`: whether a packet was sent. -/
def processProtocolStateSolSessionSend (env : Env) (c : Ctx) : Except Halt (Bool × Ctx) := do
  let (done, c) ← solInput env c
  if done then return (true, c)
  else
    let (done, c) ← keepaliveTimeout env c
    if done then return (true, c) else serialKeepalive env c

/-- The characters of `obj_sol_payload_data_rs`, which are read only if there are any. -/
def solCharacterData (obj : FiidObj) (packetSequenceNumber solDeactivating : BitVec 64) :
    Except Stop (List Byte) :=
  if packetSequenceNumber = 0 ∨ solDeactivating ≠ 0 then .ok []
  else fiidObjGetData obj "character_data" ipmiconsoleMaxCharacterData

/-- The fields of `obj_sol_payload_data_rs`. -/
def solPayloadData (obj : FiidObj) : Except Stop BmcPacket := do
  let packetSequenceNumber ← fiidObjGetStrict obj "packet_sequence_number"
  let packetAckNackSequenceNumber ← fiidObjGetStrict obj "packet_ack_nack_sequence_number"
  let acceptedCharacterCount ← fiidObjGetStrict obj "accepted_character_count"
  let _ ← fiidObjGetStrict obj "transmit_overrun"
  let solDeactivating ← fiidObjGetStrict obj "sol_deactivating"
  let _ ← fiidObjGetStrict obj "nack"
  let characterData ← solCharacterData obj packetSequenceNumber solDeactivating
  return { packetSequenceNumber := packetSequenceNumber.toNat
           packetAckNackSequenceNumber := packetAckNackSequenceNumber.toNat
           acceptedCharacterCount := acceptedCharacterCount.toNat
           solDeactivating := solDeactivating ≠ 0
           characterData := characterData }

/-- `_process_protocol_state_sol_session_receive` of SOL data: while it is deactivated by the BMC, the
    payload may be another session's. -/
def receiveSolPayloadData (env : Env) (c : Ctx) : Except Halt Ctx := do
  protocolAssert (c.protocolState = .solSession)
  let c' := c.setPacketObject .solPayloadDataRs (fiidObjClear (c.packetObject .solPayloadDataRs))
  onResult (solPayloadData (c.packetObject .solPayloadDataRs))
    (deactivateNow env.now c'.setCloseSessionFlag) fun bmcPacket => do
      match solBmcToRemoteConsolePacket c'.sol bmcPacket with
      | .error .solStolen => closeNow env.now c'.setCloseSessionFlag
      | .error _ => deactivateNow env.now c'.setCloseSessionFlag
      | .ok (o, s) =>
        let (ok, c) ← solSent env c' o.sent s
        if ok then return c else deactivateNow env.now c.setCloseSessionFlag

/-- `_process_protocol_state_sol_session_receive`. -/
def processProtocolStateSolSessionReceive (env : Env) (p : PacketType) (c : Ctx) : Except Halt Ctx :=
  if c.machine.closeSessionFlag ≠ 0 then deactivateNow env.now c
  else if p = .solPayloadDataRs then receiveSolPayloadData env c
  else if p = .getChannelPayloadVersionRs then .ok c
  else deactivateNow env.now c.setCloseSessionFlag

/-! ### Session setup -/

/-- `_process_protocol_state_start`. -/
def processProtocolStateStart (env : Env) (c : Ctx) : Except Halt Ctx := do
  let c ← sendOrQuit .getAuthenticationCapabilitiesRq env.now c
  return c.moveTo .getAuthenticationCapabilitiesSent

/-- A field of one bit. -/
def getFlag (obj : FiidObj) (field : String) : Except Stop Bool := do
  let val ← fiidObjGetStrict obj field
  return val ≠ 0

/-- `ipmi_check_authentication_capabilities_ipmi_2_0`. -/
def checkAuthenticationCapabilitiesIpmi20 (obj : FiidObj) : Except Stop Bool := do
  fiidObjTemplateCompareStrict obj tmplCmdGetChannelAuthenticationCapabilitiesRs
  let available ← getFlag obj "authentication_type.ipmi_v2.0_extended_capabilities_available"
  let supported ← getFlag obj "channel_supports_ipmi_v2.0_connections"
  return available && supported

/-- `ipmi_check_authentication_capabilities_username`. -/
def checkAuthenticationCapabilitiesUsername (username password : List Byte) (obj : FiidObj) :
    Except Stop Bool := do
  fiidObjTemplateCompareStrict obj tmplCmdGetChannelAuthenticationCapabilitiesRs
  let anonymousLogin ← getFlag obj "authentication_status.anonymous_login"
  let nullUsername ← getFlag obj "authentication_status.null_username"
  let nonNullUsername ← getFlag obj "authentication_status.non_null_username"
  return !((username.isEmpty && password.isEmpty && !anonymousLogin)
    || (username.isEmpty && !password.isEmpty && !nullUsername)
    || (!username.isEmpty && !nonNullUsername))

/-- `ipmi_check_authentication_capabilities_k_g`. -/
def checkAuthenticationCapabilitiesKG (kG : List Byte) (obj : FiidObj) : Except Stop Bool := do
  fiidObjTemplateCompareStrict obj tmplCmdGetChannelAuthenticationCapabilitiesRs
  let status ← getFlag obj "authentication_status.k_g"
  return status == !kG.isEmpty

/-- `_check_for_ipmi_2_0_support` and `_check_for_authentication_support`: whether both return 0. -/
def checkForSupport (c : Ctx) : Except Stop Bool := do
  let obj := c.packetObject .getAuthenticationCapabilitiesRs
  let supported ← checkAuthenticationCapabilitiesIpmi20 obj
  if !supported then return false
  else if c.config.workaround ipmiconsoleWorkaroundAuthenticationCapabilities then return true
  else
    let username ← checkAuthenticationCapabilitiesUsername c.config.username c.config.password obj
    if !username then return false else checkAuthenticationCapabilitiesKG c.config.kG obj

/-- `_process_protocol_state_get_authentication_capabilities_sent`. -/
def processProtocolStateGetAuthenticationCapabilitiesSent (env : Env) (c : Ctx) : Except Halt Ctx := do
  protocolAssert (c.protocolState = .getAuthenticationCapabilitiesSent)
  onResult (checkForSupport c) (.error .quit) fun supported => do
    if !supported then .error .quit
    else
      let c ← sendOrQuit .openSessionRequest env.now c
      return c.moveTo .openSessionRequestSent

/-- `_process_protocol_state_open_session_request_sent`. -/
def processProtocolStateOpenSessionRequestSent (env : Env) (c : Ctx) : Except Halt Ctx := do
  let c ← sendOrQuit .rakpMessage1 env.now c
  return c.moveTo .rakpMessage1Sent

/-- A pointer to the array of a key, with the length of the array. -/
def IsKeyArray (key : Option (List Byte)) : Prop :=
  ∃ bytes, key = some bytes ∧ bytes.length = ipmiMaxKeyLength

instance (key : Option (List Byte)) : Decidable (IsKeyArray key) :=
  match key with
  | none => .isFalse fun ⟨_, h, _⟩ => nomatch h
  | some bytes => decidable_of_iff (bytes.length = ipmiMaxKeyLength)
      ⟨fun h => ⟨bytes, rfl, h⟩, fun ⟨_, h, hlen⟩ => Option.some.inj h ▸ hlen⟩

/-- The keys that the RAKP message 2 at hand gives. -/
def cipherKeys (crypto : Crypto) (c : Ctx) : Except Stop SessionKeys := do
  let managedSystemRandomNumber ← get16 (c.packetObject .rakpMessage2) "managed_system_random_number"
  ipmiCalculateRmcpplusSessionKeys crypto c.config.algorithms c.config.passwordData c.config.kG
    c.remoteConsoleRandomNumber.toList managedSystemRandomNumber c.nameOnlyLookup
    c.config.privilegeLevel c.config.usernameData c.keys

/-- `_calculate_cipher_keys`. -/
def calculateCipherKeys (crypto : Crypto) (c : Ctx) : Except Halt Ctx := do
  protocolAssert (c.protocolState = .rakpMessage1Sent)
  protocolAssert (IsKeyArray c.keys.sik)
  protocolAssert (IsKeyArray c.keys.integrity)
  protocolAssert (IsKeyArray c.keys.confidentiality)
  onResult (cipherKeys crypto c) (.error .quit) fun keys => .ok { c with keys := keys }

/-- `_process_protocol_state_rakp_message_1_sent`. -/
def processProtocolStateRakpMessage1Sent (crypto : Crypto) (env : Env) (c : Ctx) : Except Halt Ctx := do
  let c ← calculateCipherKeys crypto c
  let c ← sendOrQuit .rakpMessage3 env.now c
  return c.moveTo .rakpMessage3Sent

/-- `_process_protocol_state_rakp_message_3_sent`. -/
def processProtocolStateRakpMessage3Sent (env : Env) (c : Ctx) : Except Halt Ctx :=
  if c.machine.closeSessionFlag ≠ 0 then .error .quit
  else sendOrClose .setSessionPrivilegeLevelRq .setSessionPrivilegeLevelSent env.now c

/-! ### Payload activation -/

/-- `_process_protocol_state_set_session_privilege_level_sent`. -/
def processProtocolStateSetSessionPrivilegeLevelSent (env : Env) (c : Ctx) : Except Halt Ctx :=
  if c.config.workaround ipmiconsoleWorkaroundSun20Session
      ∨ c.config.workaround ipmiconsoleWorkaroundSkipChannelPayloadSupport then
    sendOrClose .getPayloadActivationStatusRq .getPayloadActivationStatusSent env.now c
  else sendOrClose .getChannelPayloadSupportRq .getChannelPayloadSupportSent env.now c

/-- `_process_protocol_state_get_channel_payload_support_sent`, with `_check_sol_supported`. -/
def processProtocolStateGetChannelPayloadSupportSent (env : Env) (c : Ctx) : Except Halt Ctx := do
  protocolAssert (c.protocolState = .getChannelPayloadSupportSent)
  onResult (getFlag (c.packetObject .getChannelPayloadSupportRs) "standard_payload_type_1_supported")
    (closeNow env.now c.setCloseSessionFlag) fun supported =>
      if !supported then closeNow env.now c.setCloseSessionFlag
      else if c.config.workaround ipmiconsoleWorkaroundSkipSolActivationStatus then
        sendOrClose .activatePayloadRq .activatePayloadSent env.now c
      else sendOrClose .getPayloadActivationStatusRq .getPayloadActivationStatusSent env.now c

/-- The name of the field of an instance, from a template with those of 1 to 16. -/
def instanceField (instanceNumber : ℕ) : String := "instance_" ++ toString instanceNumber

/-- `_check_sol_instance_activated`, without its assertions. -/
def checkSolInstanceActivated (c : Ctx) (instanceNumber : ℕ) : Except Stop Bool :=
  getFlag (c.packetObject .getPayloadActivationStatusRs) (instanceField instanceNumber)

/-- Of the given instances, the ones that are activated. -/
def activatedInstances (c : Ctx) : List ℕ → Except Stop (List Byte)
  | [] => .ok []
  | i :: is => do
    let activated ← checkSolInstanceActivated c i
    let rest ← activatedInstances c is
    return if activated then BitVec.ofNat 8 i :: rest else rest

/-- The instances that the activation status response is asked for: all up to its capacity, or the one
    of the session. -/
def instancesAsked (c : Ctx) (capacity : ℕ) : List ℕ :=
  if c.config.behavior ipmiconsoleBehaviorDeactivateOnly
      ∧ c.config.behavior ipmiconsoleBehaviorDeactivateAllInstances then List.range' 1 capacity
  else [c.config.solPayloadInstance]

/-- `sol_instance_capacity`, which some BMCs give as 0. -/
def solInstanceCapacity (val : BitVec 64) : ℕ :=
  if val.toNat % 2 ^ 32 = 0 then 1 else val.toNat % 2 ^ 32

/-- The instances of the activation status response; none where its capacity is too large. -/
def solInstances (c : Ctx) : Except Stop (Option SolInstances) := do
  let val ← fiidObjGetStrict (c.packetObject .getPayloadActivationStatusRs) "instance_capacity"
  let capacity := solInstanceCapacity val
  if capacity > ipmiInstancesActivatedLength then return none
  else
    let activated ← activatedInstances c (instancesAsked c capacity)
    return some ⟨capacity, activated, 0⟩

/-- `_check_sol_activated` and what follows its value or its failure, after which the instances are
    not read. -/
def checkSolActivated (env : Env) (c : Ctx) (activated : Bool → Ctx → Except Halt Ctx) :
    Except Halt Ctx := do
  protocolAssert (c.protocolState = .getPayloadActivationStatusSent)
  protocolAssert (c.machine.deactivatePayloadInstances = 0)
  protocolAssert (c.machine.deactivatePayloadInstancesAndTryAgainFlag = 0)
  onResult (solInstances c) (closeNow env.now c.setCloseSessionFlag) fun
    | none => closeNow env.now c.setCloseSessionFlag
    | some instances =>
      let c := { c with instances := instances }
      if c.config.behavior ipmiconsoleBehaviorErrorOnSolInuse
          ∧ c.instances.solInstancesActivated ≠ [] then closeNow env.now c.setCloseSessionFlag
      else activated (c.instances.solInstancesActivated ≠ []) c

/-- `c->session.deactivate_payload_instances++`, and the flag to try again. -/
def Ctx.setDeactivatePayloadInstances (c : Ctx) (tryAgain : Bool) : Ctx :=
  { c with machine := { c.machine with
    deactivatePayloadInstances := c.machine.deactivatePayloadInstances + 1
    deactivatePayloadInstancesAndTryAgainFlag :=
      if tryAgain then c.machine.deactivatePayloadInstancesAndTryAgainFlag + 1
      else c.machine.deactivatePayloadInstancesAndTryAgainFlag } }

/-- `c->session.deactivate_only_succeeded_flag++`. -/
def Ctx.setDeactivateOnlySucceededFlag (c : Ctx) : Ctx :=
  { c with machine := { c.machine with
    deactivateOnlySucceededFlag := c.machine.deactivateOnlySucceededFlag + 1 } }

/-- `_process_protocol_state_get_payload_activation_status_sent`. -/
def processProtocolStateGetPayloadActivationStatusSent (env : Env) (c : Ctx) : Except Halt Ctx :=
  checkSolActivated env c fun activated c =>
    if c.config.behavior ipmiconsoleBehaviorDeactivateOnly then
      if activated then
        sendOrClose .deactivatePayloadRq .deactivatePayloadSent env.now
          (c.setDeactivatePayloadInstances false)
      else closeNow env.now c.setCloseSessionFlag.setDeactivateOnlySucceededFlag
    else if activated then
      sendOrClose .deactivatePayloadRq .deactivatePayloadSent env.now
        (c.setDeactivatePayloadInstances true)
    else sendOrClose .activatePayloadRq .activatePayloadSent env.now c

/-- `_check_sol_activated2`: none where it returns -1. -/
def checkSolActivated2 (c : Ctx) : Except Stop (Option Bool) := do
  let val ← fiidObjGetStrict (c.packetObject .activatePayloadRs) "comp_code"
  let compCode : Byte := val.setWidth 8
  if compCode = ipmiCompCodeActivatePayloadPayloadAlreadyActiveOnAnotherSession then
    return if c.config.behavior ipmiconsoleBehaviorErrorOnSolInuse then none else some true
  else if compCode = ipmiCompCodeActivatePayloadPayloadActivationLimitReached
      ∨ compCode = ipmiCompCodeActivatePayloadPayloadTypeIsDisabled
      ∨ compCode = ipmiCompCodeActivatePayloadCannotActivatePayloadWithEncryption
      ∨ compCode = ipmiCompCodeActivatePayloadCannotActivatePayloadWithoutEncryption then return none
  else return some false

/-- `_check_payload_sizes_legitimate` on the response. -/
def payloadSizes (c : Ctx) : Except Stop (Option ℕ) := do
  let inbound ← fiidObjGetStrict (c.packetObject .activatePayloadRs) "inbound_payload_size"
  let outbound ← fiidObjGetStrict (c.packetObject .activatePayloadRs) "outbound_payload_size"
  return checkPayloadSizesLegitimate (c.config.workaround ipmiconsoleWorkaroundIgnoreSolPayloadSize)
    inbound.toNat outbound.toNat

/-- The port of the response; that of the wrong endian is taken for the primary port. -/
def responsePort (c : Ctx) : Except Stop (BitVec 16) := do
  let val ← fiidObjGetStrict (c.packetObject .activatePayloadRs) "payload_udp_port_number"
  let consolePort : BitVec 16 := val.setWidth 16
  return if consolePort = 0x6F02 then rmcpPrimaryRmcpPort else consolePort

/-- `_check_try_new_port`: the new port if there is one, and an outer none where it returns -1. -/
def checkTryNewPort (c : Ctx) : Except Stop (Option (Option (BitVec 16))) := do
  let consolePort ← responsePort c
  if c.machine.consolePort = consolePort then return some none
  else if c.machine.consolePort = rmcpPrimaryRmcpPort then
    return if c.config.workaround ipmiconsoleWorkaroundIgnoreSolPort then some none
      else some (some consolePort)
  else return none

/-- The SOL session is established: what the user entered before is sent. -/
def establishSol (env : Env) (c : Ctx) : Except Halt Ctx := do
  let (sent, s) := sendSolCharacterDataOrBreak c.sol
  let (ok, c) ← solSent env c sent s
  if ok then return c else deactivateNow env.now c.setCloseSessionFlag

/-- The user is told of the session, and a byte of output if the engine is to write one. -/
def notifyEstablished (env : Env) (c : Ctx) : Except Halt Ctx :=
  if !env.notified then deactivateNow env.now c.setCloseSessionFlag
  else
    let c := c.moveTo .solSession
    if c.config.engine ipmiconsoleEngineOutputOnSolEstablished then
      if c.sol.consoleBmcToRemoteConsole.length + 1 > consoleBmcToRemoteConsoleBufMax then
        deactivateNow env.now c.setCloseSessionFlag
      else
        establishSol env { c with sol := { c.sol with
          consoleBmcToRemoteConsole := c.sol.consoleBmcToRemoteConsole ++ [0] } }
    else establishSol env c

/-- The payload is deactivated, to activate it on another port. -/
def tryNewPort (env : Env) (consolePort : BitVec 16) (c : Ctx) : Except Halt Ctx :=
  deactivateOrAgain env.now { c with machine := { c.machine with
    consolePort := consolePort, tryNewPortFlag := c.machine.tryNewPortFlag + 1 } }

/-- The part of `_process_protocol_state_activate_payload_sent` for a payload that is activated. -/
def processActivated (env : Env) (c : Ctx) : Except Halt Ctx := do
  protocolAssert (c.protocolState = .activatePayloadSent)
  onResult (payloadSizes c) (deactivateNow env.now c.setCloseSessionFlag) fun
    | none => deactivateNow env.now c.setCloseSessionFlag
    | some size =>
      let c := { c with sol := { c.sol with maxSolCharacterSendSize := size } }
      onResult (checkTryNewPort c) (deactivateNow env.now c.setCloseSessionFlag) fun
        | none => deactivateNow env.now c.setCloseSessionFlag
        | some (some consolePort) => tryNewPort env consolePort c
        | some none => notifyEstablished env c

/-- The part of it for a payload that another session has activated in the meantime. -/
def processActivatedElsewhere (env : Env) (c : Ctx) : Except Halt Ctx :=
  let c := { c with counts := { c.counts with
    activatePayloadsCount := c.counts.activatePayloadsCount + 1 } }
  if c.counts.activatePayloadsCount > c.config.acceptablePacketErrorsCount + 1 then
    closeNow env.now c.setCloseSessionFlag
  else sendOrClose .getPayloadActivationStatusRq .getPayloadActivationStatusSent env.now c

/-- `_process_protocol_state_activate_payload_sent`. -/
def processProtocolStateActivatePayloadSent (env : Env) (c : Ctx) : Except Halt Ctx := do
  if c.machine.closeSessionFlag ≠ 0 then deactivateNow env.now c
  else
    protocolAssert (c.protocolState = .activatePayloadSent)
    onResult (checkSolActivated2 c) (closeNow env.now c.setCloseSessionFlag) fun
      | none => closeNow env.now c.setCloseSessionFlag
      | some true => processActivatedElsewhere env c
      | some false => processActivated env c

/-! ### Closing, from the responses -/

/-- `c->session.sol_instances_deactivated_count++`. -/
def Ctx.countDeactivated (c : Ctx) : Ctx :=
  { c with instances := { c.instances with
    solInstancesDeactivatedCount := c.instances.solInstancesDeactivatedCount + 1 } }

/-- All the activated instances have been deactivated. -/
def Ctx.allDeactivated (c : Ctx) : Bool :=
  BitVec.ofNat 32 c.instances.solInstancesActivated.length = c.instances.solInstancesDeactivatedCount

/-- The flags are cleared for another try, which is counted. -/
def Ctx.tryAgain (c : Ctx) : Ctx :=
  { c with
    machine := { c.machine with
      deactivatePayloadInstances := 0, deactivatePayloadInstancesAndTryAgainFlag := 0 }
    counts := { c.counts with
      deactivateActivePayloadsCount := c.counts.deactivateActivePayloadsCount + 1 } }

/-- `_process_protocol_state_deactivate_payload_sent`. -/
def processProtocolStateDeactivatePayloadSent (env : Env) (c : Ctx) : Except Halt Ctx :=
  if c.config.behavior ipmiconsoleBehaviorDeactivateOnly then
    let c := c.countDeactivated
    if c.allDeactivated then
      closeNow env.now c.setDeactivateOnlySucceededFlag.setCloseSessionFlag
    else sendOrClose .deactivatePayloadRq .deactivatePayloadSent env.now c
  else if c.machine.closeSessionFlag ≠ 0 ∨ c.machine.tryNewPortFlag ≠ 0 then closeNow env.now c
  else if c.machine.deactivatePayloadInstancesAndTryAgainFlag ≠ 0 then
    let c := c.countDeactivated
    if c.allDeactivated then
      let c := c.tryAgain
      if c.counts.deactivateActivePayloadsCount > c.config.acceptablePacketErrorsCount + 1 then
        closeNow env.now c.setCloseSessionFlag
      else sendOrClose .activatePayloadRq .activatePayloadSent env.now c
    else sendOrClose .deactivatePayloadRq .deactivatePayloadSent env.now c
  else .error .quit

/-- `_process_protocol_state_close_session_sent`: the session is over, or starts anew on the port of
    the payload. -/
def processProtocolStateCloseSessionSent (env : Env) (c : Ctx) : Except Halt Ctx := do
  if c.machine.closeSessionFlag ≠ 0 ∨ c.machine.closeTimeoutFlag ≠ 0 then .error .quit
  else if c.machine.tryNewPortFlag ≠ 0 then
    protocolAssert (c.machine.consolePort ≠ rmcpPrimaryRmcpPort)
    match env.newSession with
    | none => .error .quit
    | some randoms =>
      let consolePort := c.machine.consolePort
      let c := ipmiconsoleCtxSessionSetup c randoms env.now
      let c := { c with machine := { c.machine with consolePort := consolePort } }
      processProtocolStateStart env c
  else .error .quit

/-! ### The state machine -/

/-- `assert (p == expected)`, which reads `p`. -/
def expectPacket (p : Option PacketType) (expected : PacketType) : Except Halt Unit :=
  match p with
  | none => .error .uninitialized
  | some p => protocolAssert (p = expected)

/-- `assert (flag || p == expected)`. -/
def expectPacketUnless (flag : Prop) [Decidable flag] (p : Option PacketType) (expected : PacketType) :
    Except Halt Unit :=
  if flag then .ok () else expectPacket p expected

/-- The part of `_process_ctx` from the label `state_machine` on. -/
def stateMachine (crypto : Crypto) (env : Env) (p : Option PacketType) (c : Ctx) : Except Halt Ctx := do
  match c.protocolState with
  | .getAuthenticationCapabilitiesSent =>
    expectPacket p .getAuthenticationCapabilitiesRs
    processProtocolStateGetAuthenticationCapabilitiesSent env c
  | .openSessionRequestSent =>
    expectPacket p .openSessionResponse
    processProtocolStateOpenSessionRequestSent env c
  | .rakpMessage1Sent =>
    expectPacket p .rakpMessage2
    processProtocolStateRakpMessage1Sent crypto env c
  | .rakpMessage3Sent =>
    expectPacketUnless (c.machine.closeSessionFlag ≠ 0) p .rakpMessage4
    processProtocolStateRakpMessage3Sent env c
  | .setSessionPrivilegeLevelSent =>
    expectPacket p .setSessionPrivilegeLevelRs
    processProtocolStateSetSessionPrivilegeLevelSent env c
  | .getChannelPayloadSupportSent =>
    expectPacket p .getChannelPayloadSupportRs
    processProtocolStateGetChannelPayloadSupportSent env c
  | .getPayloadActivationStatusSent =>
    expectPacket p .getPayloadActivationStatusRs
    processProtocolStateGetPayloadActivationStatusSent env c
  | .activatePayloadSent =>
    expectPacketUnless (c.machine.closeSessionFlag ≠ 0) p .activatePayloadRs
    processProtocolStateActivatePayloadSent env c
  | .solSession =>
    match p with
    | none => .error .uninitialized
    | some p => processProtocolStateSolSessionReceive env p c
  | .deactivatePayloadSent =>
    expectPacketUnless (c.machine.closeSessionFlag ≠ 0) p .deactivatePayloadRs
    processProtocolStateDeactivatePayloadSent env c
  | .closeSessionSent =>
    expectPacketUnless (c.machine.closeSessionFlag ≠ 0 ∨ c.machine.closeTimeoutFlag ≠ 0) p
      .closeSessionRs
    processProtocolStateCloseSessionSent env c
  | .start => .error .quit
  | .stateEnd => .error .quit

/-- Attempt to close the session cleanly, and go on with the state machine where nothing was sent. -/
def closeCleanly (crypto : Crypto) (env : Env) (p : Option PacketType) (c : Ctx) : Except Halt Ctx := do
  let (closing, c) ← closeSession env.now c.setCloseSessionFlag
  if closing then return c else stateMachine crypto env p c

/-- The part of `_process_ctx` that receives a packet. -/
def receiveAndProcess (crypto : Crypto) (env : Env) (c : Ctx) : Except Halt Ctx := do
  let r ← receivePacket crypto env.now env.beyond c
  match r.rc with
  | .minusOne => closeCleanly crypto env r.p r.ctx
  | .zero =>
    if r.ctx.counts.errorsCount > r.ctx.config.acceptablePacketErrorsCount
        ∧ r.ctx.machine.closeSessionFlag = 0 then closeCleanly crypto env r.p r.ctx
    else return r.ctx
  | .one => stateMachine crypto env r.p r.ctx

/-- The part of `_process_ctx` for the state SOL_SESSION. -/
def processSolSession (crypto : Crypto) (env : Env) (c : Ctx) : Except Halt Ctx := do
  let (done, c) ← processProtocolStateSolSessionSend env c
  if done then return c else receiveAndProcess crypto env c

/-- The part of `_process_ctx` for the other states. -/
def processRetransmission (crypto : Crypto) (env : Env) (c : Ctx) : Except Halt Ctx := do
  let (rc, c) ← ipmiRetransmissionTimeout env c
  match rc with
  | .minusOne => closeCleanly crypto env none c
  | .one => return c
  | .zero =>
    if c.machine.closeTimeoutFlag ≠ 0 then stateMachine crypto env none c
    else receiveAndProcess crypto env c

/-- `_process_ctx`, less the timeout for the next `poll`. -/
def processCtx (crypto : Crypto) (env : Env) (c : Ctx) : Except Halt Ctx := do
  let (closing, c) ← checkCloseSession env.now c
  if closing then return c
  else if c.protocolState = .start then processProtocolStateStart env c
  else if env.sessionTimeout then .error .quit
  else if c.protocolState = .solSession then processSolSession crypto env c
  else processRetransmission crypto env c

/-! ### Runs -/

/-- What the engine does with the context next. -/
inductive ConsoleEvent where
  -- a packet of any bytes arrives and takes the place of an unread one
  | recvfrom (pkt : List Byte)
  | consoleRead (buffer : List Byte)
  | generateBreak
  | consoleWrite
  -- the user closes the session, or a descriptor fails
  | close
  | process (env : Env) (sendResults : List Bool)

/-- One step of the engine. The user's descriptors are not looked at once the session is closed. -/
def consoleStep (crypto : Crypto) (c : Ctx) : ConsoleEvent → Except Halt Ctx
  | .recvfrom pkt => .ok { c with ipmiFromBmc := pkt.take ipmiconsolePacketBuflen }
  | .consoleRead buffer =>
    if c.machine.closeSessionFlag ≠ 0 then .ok c
    else
      match consoleRead c.sol buffer with
      | .ok (_, s) => .ok { c with sol := s }
      | .error _ => .ok c.setCloseSessionFlag
  | .generateBreak =>
    if c.machine.closeSessionFlag ≠ 0 then .ok c else .ok { c with sol := asynccommBreak c.sol }
  | .consoleWrite => .ok { c with sol := { c.sol with consoleBmcToRemoteConsole := [] } }
  | .close => .ok c.setCloseSessionFlag
  | .process env sendResults => processCtx crypto env { c with sendResults := sendResults }

/-- The contexts that a context may come to. -/
inductive Reached (crypto : Crypto) (c₀ : Ctx) : Ctx → Prop where
  | refl : Reached crypto c₀ c₀
  | step {c c' : Ctx} {e : ConsoleEvent} :
      Reached crypto c₀ c → consoleStep crypto c e = .ok c' → Reached crypto c₀ c'

end FreeIpmi.Console
