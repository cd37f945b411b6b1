import FreeIpmi.Console.Assemble
import FreeIpmi.Console.Responses
import FreeIpmi.Util.SequenceNumber

/-! The context of a console (`libipmiconsole/ipmiconsole_defs.h`, `ipmiconsole_ctx.c`), and the
    requests it sends.

    The bytes of a request are not modelled: assembling it and writing it out succeeds or fails, as
    an oracle in the context says. The context also keeps a log of the requests sent, the responses
    accepted and the protocol states entered since the session was set up, which no function reads. -/

namespace FreeIpmi.Console
open Fiid Lan Rmcpplus Util

/-- `IPMI_LAN_REQUESTER_SEQUENCE_NUMBER_MAX`. -/
def ipmiLanRequesterSequenceNumberMax : Byte := 0x3F

/-- `IPMI_INSTANCES_ACTIVATED_LENGTH`. -/
def ipmiInstancesActivatedLength : ℕ := 16

/-- The length of the arrays of the three keys, `IPMI_MAX_SIK_KEY_LENGTH` and so on. -/
def ipmiMaxKeyLength : ℕ := 64

/-- `IPMICONSOLE_PACKET_BUFLEN`. -/
def ipmiconsolePacketBuflen : ℕ := 16384

/-- `RMCP_PRIMARY_RMCP_PORT`. -/
def rmcpPrimaryRmcpPort : BitVec 16 := 0x26F

/-! ### Context -/

/-- The part of `c->config` that the session reads; the arrays bound the lengths. -/
structure Config where
  port : BitVec 16
  username : List Byte
  password : List Byte
  kG : List Byte
  privilegeLevel : Byte
  cipherSuiteId : ℕ
  algorithms : Algorithms
  workaroundFlags : BitVec 32
  engineFlags : BitVec 32
  behaviorFlags : BitVec 32
  maximumRetransmissionCount : ℕ
  acceptablePacketErrorsCount : ℕ
  solPayloadInstance : ℕ
  username_le : username.length ≤ ipmiMaxUserNameLength := by decide
  password_le : password.length ≤ ipmi20MaxPasswordLength := by decide
  kG_le : kG.length ≤ ipmiMaxKGLength := by decide

/-- `c->config.workaround_flags & flag`. -/
def Config.workaround (config : Config) (flag : BitVec 32) : Bool :=
  config.workaroundFlags &&& flag != 0

/-- `c->config.engine_flags & flag`. -/
def Config.engine (config : Config) (flag : BitVec 32) : Bool := config.engineFlags &&& flag != 0

/-- `c->config.behavior_flags & flag`. -/
def Config.behavior (config : Config) (flag : BitVec 32) : Bool := config.behaviorFlags &&& flag != 0

/-- The flags and limits of the SOL session. -/
def Config.sol (config : Config) : SolConfig where
  engineSerialKeepalive := config.engine ipmiconsoleEngineSerialKeepalive
  engineSerialKeepaliveEmpty := config.engine ipmiconsoleEngineSerialKeepaliveEmpty
  workaroundIncrementSolPacketSequence :=
    config.workaround ipmiconsoleWorkaroundIncrementSolPacketSequence
  maximumRetransmissionCount := config.maximumRetransmissionCount

/-- The protocol state machine variables. -/
structure StateMachine where
  protocolState : ProtocolState
  closeSessionFlag : ℕ
  tryNewPortFlag : ℕ
  deactivatePayloadInstances : ℕ
  deactivatePayloadInstancesAndTryAgainFlag : ℕ
  closeTimeoutFlag : ℕ
  deactivateOnlySucceededFlag : ℕ
  consolePort : BitVec 16
  deriving DecidableEq

/-- The times that timeouts are counted from. -/
structure Timers where
  lastIpmiPacketSent : ℕ
  lastIpmiPacketReceived : ℕ
  lastKeepalivePacketSent : ℕ
  lastSolPacketReceived : ℕ
  deriving DecidableEq

/-- The protocol maintenance counters; the retransmissions are counted in the SOL session. -/
structure ErrorCounts where
  errorsCount : ℕ
  sessionSequenceNumberErrorsCount : ℕ
  activatePayloadsCount : ℕ
  deactivateActivePayloadsCount : ℕ
  deriving DecidableEq

/-- The SOL instances of the activation status response: the first `sol_instances_activated_count`
    elements of `sol_instances_activated` are a list. -/
structure SolInstances where
  solInstanceCapacity : ℕ
  solInstancesActivated : List Byte
  solInstancesDeactivatedCount : BitVec 32
  deriving DecidableEq

/-- The objects that packets are parsed into; one for each kind of response. -/
structure ConsoleObjs where
  rmcpHdrRs : FiidObj
  lanSessionHdrRs : FiidObj
  lanMsgHdrRs : FiidObj
  lanMsgTrlrRs : FiidObj
  rmcpplusSessionHdrRs : FiidObj
  rmcpplusPayloadRs : FiidObj
  rmcpplusSessionTrlrRs : FiidObj
  cmd : PacketType → FiidObj

/-- A request that was sent, with the message tag at that time, a response that was accepted, or a
    protocol state that was entered. -/
inductive LogEntry where
  | sent (p : RequestType) (messageTag : Byte)
  | accepted (p : PacketType) (obj : FiidObj)
  | entered (state : ProtocolState)

/-- `ipmiconsole_ctx_t`. -/
structure Ctx where
  config : Config
  machine : StateMachine
  timers : Timers
  counts : ErrorCounts
  window : Window
  messageTag : Byte
  requesterSequenceNumber : Byte
  nameOnlyLookup : Bool
  remoteConsoleSessionId : BitVec 32
  remoteConsoleRandomNumber : List.Vector Byte 16
  keys : SessionKeys
  instances : SolInstances
  sol : SolSession
  objs : ConsoleObjs
  ipmiFromBmc : List Byte
  -- what the next requests will return; they succeed when it is empty
  sendResults : List Bool
  log : List LogEntry

/-- How a call of the state machine ends when it does not return to the engine with the session
    alive. -/
inductive Halt where
  -- `_process_ctx` returns -1
  | quit
  -- an assertion about the protocol state or the keys fails
  | assertion
  -- the packet type is read before it is set
  | uninitialized
  -- an element of the instances is read that has not been set
  | outOfRange
  -- a call of the library, or of the assembling of a SOL packet, has no defined result
  | library
  deriving DecidableEq, Repr

/-- What a function of the state machine returns: -1, 0 or 1. -/
inductive Rc where
  | minusOne | zero | one
  deriving DecidableEq, Repr

/-- `assert` of the state machine. -/
def protocolAssert (p : Prop) [Decidable p] : Except Halt Unit :=
  if p then .ok () else .error .assertion

/-- What to do with the value of a call of the library, or with its -1. -/
def onResult {α β : Type} (x : Except Stop α) (failed : Except Halt β) (value : α → Except Halt β) :
    Except Halt β :=
  match x with
  | .ok a => value a
  | .error e => if e.isReturn then failed else .error .library

def Ctx.protocolState (c : Ctx) : ProtocolState := c.machine.protocolState

/-- `c->session.protocol_state = state`. -/
def Ctx.moveTo (state : ProtocolState) (c : Ctx) : Ctx :=
  { c with machine := { c.machine with protocolState := state }, log := c.log ++ [.entered state] }

/-- `c->session.close_session_flag++`. -/
def Ctx.setCloseSessionFlag (c : Ctx) : Ctx :=
  { c with machine := { c.machine with closeSessionFlag := c.machine.closeSessionFlag + 1 } }

/-- `ipmiconsole_packet_object`. -/
def Ctx.packetObject (c : Ctx) (p : PacketType) : FiidObj := c.objs.cmd p

/-! ### Setup -/

/-- The keys before they are calculated: the pointers to the arrays, and the lengths of these. -/
def initialKeys : SessionKeys where
  sik := some (List.replicate ipmiMaxKeyLength 0)
  integrity := some (List.replicate ipmiMaxKeyLength 0)
  confidentiality := some (List.replicate ipmiMaxKeyLength 0)

/-- What `ipmi_get_random` gives for a new session; 0 is drawn again for the session id. -/
structure Randoms where
  messageTag : Byte
  requesterSequenceNumber : Byte
  remoteConsoleSessionId : BitVec 32
  remoteConsoleRandomNumber : List.Vector Byte 16
  remoteConsoleSessionId_ne_zero : remoteConsoleSessionId ≠ 0 := by decide

/-- `ipmiconsole_ctx_session_setup`, where the host is found. -/
def ipmiconsoleCtxSessionSetup (c : Ctx) (randoms : Randoms) (now : ℕ) : Ctx :=
  { c with
    machine :=
      { protocolState := .start, closeSessionFlag := 0, tryNewPortFlag := 0
        deactivatePayloadInstances := 0, deactivatePayloadInstancesAndTryAgainFlag := 0
        closeTimeoutFlag := 0, deactivateOnlySucceededFlag := 0, consolePort := c.config.port }
    timers := ⟨0, now, 0, now⟩
    counts := ⟨0, 0, 0, 0⟩
    window := checkSessionSequenceNumberInit
    messageTag := randoms.messageTag
    requesterSequenceNumber := randoms.requesterSequenceNumber % (ipmiLanRequesterSequenceNumberMax + 1)
    nameOnlyLookup := true
    remoteConsoleSessionId := randoms.remoteConsoleSessionId
    remoteConsoleRandomNumber := randoms.remoteConsoleRandomNumber
    keys := initialKeys
    instances := ⟨0, [], 0⟩
    sol := { SolSession.setup 0 0 with
      consoleRemoteConsoleToBmc := c.sol.consoleRemoteConsoleToBmc
      consoleBmcToRemoteConsole := c.sol.consoleBmcToRemoteConsole }
    log := [] }

/-! ### Requests -/

/-- The requests that take a requester sequence number. -/
def RequestType.takesRequesterSequenceNumber : RequestType → Bool
  | .getAuthenticationCapabilitiesRq => true
  | .getChannelPayloadSupportRq => true
  | .getPayloadActivationStatusRq => true
  | .activatePayloadRq => true
  | .getChannelPayloadVersionRq => true
  | .deactivatePayloadRq => true
  | .closeSessionRq => true
  | _ => false

/-- The requests that take a message tag. -/
def RequestType.takesMessageTag : RequestType → Bool
  | .openSessionRequest => true
  | .rakpMessage1 => true
  | .rakpMessage3 => true
  | _ => false

/-- The requests that take a session sequence number. -/
def RequestType.takesSessionSequenceNumber : RequestType → Bool
  | .setSessionPrivilegeLevelRq => true
  | .getChannelPayloadSupportRq => true
  | .getPayloadActivationStatusRq => true
  | .activatePayloadRq => true
  | .getChannelPayloadVersionRq => true
  | .deactivatePayloadRq => true
  | .closeSessionRq => true
  | _ => false

def nextRequesterSequenceNumber (n : Byte) : Byte :=
  if n + 1 > ipmiLanRequesterSequenceNumberMax then 0 else n + 1

/-- The numbers of a request are taken also when it cannot be sent. -/
def Ctx.number (c : Ctx) (p : RequestType) : Ctx :=
  { c with
    requesterSequenceNumber :=
      if p.takesRequesterSequenceNumber then nextRequesterSequenceNumber c.requesterSequenceNumber
      else c.requesterSequenceNumber
    messageTag := if p.takesMessageTag then c.messageTag + 1 else c.messageTag
    sol := if p.takesSessionSequenceNumber then c.sol.nextSession else c.sol }

/-- The times of a request that was sent. -/
def Timers.stamp (t : Timers) (p : RequestType) (now : ℕ) : Timers :=
  if p ≠ .getChannelPayloadVersionRq then { t with lastIpmiPacketSent := now }
  else { t with lastKeepalivePacketSent := now }

/-- What is left of a request that was sent. -/
def Ctx.logSent (c : Ctx) (p : RequestType) (now : ℕ) : Ctx :=
  { c with timers := c.timers.stamp p now, log := c.log ++ [.sent p c.messageTag] }

/-- `sol_instances_activated[sol_instances_deactivated_count]` is an instance that is activated, where
    it is read for a request to deactivate. -/
def Ctx.InstanceInRange (c : Ctx) : Prop :=
  c.machine.deactivatePayloadInstances ≠ 0 →
    c.instances.solInstancesDeactivatedCount.toNat < c.instances.solInstancesActivated.length
      ∧ c.instances.solInstancesActivated.length ≤ ipmiInstancesActivatedLength

instance (c : Ctx) : Decidable c.InstanceInRange := by unfold Ctx.InstanceInRange; infer_instance

/-- `ipmiconsole_ipmi_packet_assemble`, less the bytes: the keepalive is only assembled in a SOL
    session, and the request to deactivate reads the next instance. -/
def assembleAllowed (p : RequestType) (c : Ctx) : Except Halt Unit := do
  protocolAssert (p = .getChannelPayloadVersionRq → c.protocolState = .solSession)
  if p = .deactivatePayloadRq ∧ ¬ c.InstanceInRange then .error .outOfRange else return ()

/-- `_send_ipmi_packet`: whether it returns 0. -/
def sendIpmiPacket (p : RequestType) (now : ℕ) (c : Ctx) : Except Halt (Bool × Ctx) := do
  let c := c.number p
  assembleAllowed p c
  match c.sendResults with
  | [] => return (true, c.logSent p now)
  | true :: results => return (true, { c with sendResults := results }.logSent p now)
  | false :: results => return (false, { c with sendResults := results })

/-- A request without which the session is given up. -/
def sendOrQuit (p : RequestType) (now : ℕ) (c : Ctx) : Except Halt Ctx := do
  let (sent, c) ← sendIpmiPacket p now c
  if sent then .ok c else .error .quit

/-- Close the session, on which no payload is active. -/
def closeNow (now : ℕ) (c : Ctx) : Except Halt Ctx := do
  let c ← sendOrQuit .closeSessionRq now c
  return c.moveTo .closeSessionSent

/-- Deactivate the payload, to close the session afterwards. -/
def deactivateNow (now : ℕ) (c : Ctx) : Except Halt Ctx := do
  let c ← sendOrQuit .deactivatePayloadRq now c
  return c.moveTo .deactivatePayloadSent

/-- Send a request and go on to the state that waits for its response, or else close the session. -/
def sendOrClose (p : RequestType) (state : ProtocolState) (now : ℕ) (c : Ctx) : Except Halt Ctx := do
  let (sent, c) ← sendIpmiPacket p now c
  if sent then return c.moveTo state else closeNow now c.setCloseSessionFlag

end FreeIpmi.Console
