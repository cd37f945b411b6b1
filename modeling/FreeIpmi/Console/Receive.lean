import FreeIpmi.Console.Checks

/-! Receiving a packet (`ipmiconsole_packet_unassemble` of `libipmiconsole/ipmiconsole_packet.c`,
    `_receive_packet` of `ipmiconsole_processing.c`).

    What the packet is to be is inferred from the protocol state and the payload type. It is parsed
    and then taken through a list of checks; which of them are enforced depends on the kind of the
    packet. An enforced check that does not hold drops the packet, one that cannot be made fails. -/

namespace FreeIpmi.Console
open Fiid Lan Rmcpplus Util Calls Stages

/-! ### Unassembling -/

/-- The session setup message that the state waits for. -/
def setupPacketType : ProtocolState → Option PacketType
  | .openSessionRequestSent => some .openSessionResponse
  | .rakpMessage1Sent => some .rakpMessage2
  | .rakpMessage3Sent => some .rakpMessage4
  | _ => none

/-- The response to a command in the session that the state waits for. -/
def ipmiPacketType : ProtocolState → Option PacketType
  | .setSessionPrivilegeLevelSent => some .setSessionPrivilegeLevelRs
  | .getChannelPayloadSupportSent => some .getChannelPayloadSupportRs
  | .getPayloadActivationStatusSent => some .getPayloadActivationStatusRs
  | .activatePayloadSent => some .activatePayloadRs
  | .solSession => some .getChannelPayloadVersionRs
  | .deactivatePayloadSent => some .deactivatePayloadRs
  | .closeSessionSent => some .closeSessionRs
  | _ => none

/-- The type of a packet with an RMCP+ header. -/
def rmcpplusPacketType (payloadType : Byte) (state : ProtocolState) : Option PacketType :=
  if payloadType = ipmiPayloadTypeRmcpplusOpenSessionResponse
      ∨ payloadType = ipmiPayloadTypeRakpMessage2
      ∨ payloadType = ipmiPayloadTypeRakpMessage4 then setupPacketType state
  else if payloadType = ipmiPayloadTypeIpmi then ipmiPacketType state
  else if payloadType = ipmiPayloadTypeSol then
    if state = .solSession then some .solPayloadDataRs else none
  else none

/-- The type of a packet; none for a malformed or unexpected one. -/
def packetTypeOf (pkt : List Byte) (beyond : Byte) (state : ProtocolState) : Option PacketType :=
  match ipmiIsIpmi15Packet pkt with
  | .error _ => none
  | .ok true =>
    if state = .getAuthenticationCapabilitiesSent then some .getAuthenticationCapabilitiesRs else none
  | .ok false =>
    match ipmiRmcpplusCalculatePayloadType pkt beyond with
    | .error _ => none
    | .ok payloadType => rmcpplusPacketType payloadType state

/-- The objects cleared before a packet is parsed. -/
def ConsoleObjs.clear (objs : ConsoleObjs) : ConsoleObjs where
  rmcpHdrRs := fiidObjClear objs.rmcpHdrRs
  lanSessionHdrRs := fiidObjClear objs.lanSessionHdrRs
  lanMsgHdrRs := fiidObjClear objs.lanMsgHdrRs
  lanMsgTrlrRs := fiidObjClear objs.lanMsgTrlrRs
  rmcpplusSessionHdrRs := fiidObjClear objs.rmcpplusSessionHdrRs
  rmcpplusPayloadRs := fiidObjClear objs.rmcpplusPayloadRs
  rmcpplusSessionTrlrRs := fiidObjClear objs.rmcpplusSessionTrlrRs
  cmd := objs.cmd

/-- `unassemble_ipmi_lan_pkt` into the objects of the context. -/
def unassembleLan (pkt : List Byte) (p : PacketType) (c : Ctx) : Except Stop (Bool × Ctx) := do
  let (accepted, objs) ← unassembleIpmiLanPkt pkt
    { rmcpHdr := c.objs.rmcpHdrRs, sessionHdr := c.objs.lanSessionHdrRs
      msgHdr := c.objs.lanMsgHdrRs, cmd := c.packetObject p, msgTrlr := c.objs.lanMsgTrlrRs } 0
  return (accepted, { c with objs := { c.objs with
    rmcpHdrRs := objs.rmcpHdr, lanSessionHdrRs := objs.sessionHdr, lanMsgHdrRs := objs.msgHdr
    lanMsgTrlrRs := objs.msgTrlr, cmd := Function.update c.objs.cmd p objs.cmd } })

/-- `unassemble_ipmi_rmcpplus_pkt` into the objects of the context. -/
def unassembleRmcpplus (crypto : Crypto) (algorithms : Algorithms)
    (confidentialityKey : Option (List Byte)) (pkt : List Byte) (p : PacketType) (c : Ctx) :
    Except Stop (Bool × Ctx) := do
  let (accepted, objs) ← unassembleIpmiRmcpplusPkt crypto algorithms confidentialityKey pkt
    { rmcpHdr := c.objs.rmcpHdrRs, sessionHdr := c.objs.rmcpplusSessionHdrRs
      payload := c.objs.rmcpplusPayloadRs, lanMsgHdr := c.objs.lanMsgHdrRs, cmd := c.packetObject p
      lanMsgTrlr := c.objs.lanMsgTrlrRs, sessionTrlr := c.objs.rmcpplusSessionTrlrRs } 0
  return (accepted, { c with objs := { c.objs with
    rmcpHdrRs := objs.rmcpHdr, rmcpplusSessionHdrRs := objs.sessionHdr
    rmcpplusPayloadRs := objs.payload, lanMsgHdrRs := objs.lanMsgHdr
    lanMsgTrlrRs := objs.lanMsgTrlr, rmcpplusSessionTrlrRs := objs.sessionTrlr
    cmd := Function.update c.objs.cmd p objs.cmd } })

/-- The algorithms before the session is established. -/
def noAlgorithms : Algorithms where
  authentication := ipmiAuthenticationAlgorithmRakpNone
  integrity := ipmiIntegrityAlgorithmNone
  confidentiality := ipmiConfidentialityAlgorithmNone

/-- A packet is parsed as what it is to be. -/
def unassembleAs (crypto : Crypto) (pkt : List Byte) (p : PacketType) (c : Ctx) :
    Except Stop (Bool × Ctx) :=
  match p with
  | .getAuthenticationCapabilitiesRs => unassembleLan pkt p c
  | .openSessionResponse => unassembleRmcpplus crypto noAlgorithms none pkt p c
  | .rakpMessage2 => unassembleRmcpplus crypto noAlgorithms none pkt p c
  | .rakpMessage4 => unassembleRmcpplus crypto noAlgorithms none pkt p c
  | _ => unassembleRmcpplus crypto c.config.algorithms c.keys.confidentiality pkt p c

/-- `ipmiconsole_packet_unassemble`: whether it returns 1 or 0, and the type it sets. Where it returns
    -1 the caller is left with the objects as they were. -/
def ipmiconsolePacketUnassemble (crypto : Crypto) (beyond : Byte) (pkt : List Byte) (c : Ctx) :
    Except Stop (Bool × Option PacketType × Ctx) :=
  let c := { c with objs := c.objs.clear }
  match packetTypeOf pkt beyond c.protocolState with
  | none => .ok (false, none, c)
  | some p => do
    let (accepted, c) ← unassembleAs crypto pkt p (c.setPacketObject p (fiidObjClear (c.packetObject p)))
    return (accepted, some p, c)

/-! ### Stages -/

/-- `_receive_ipmi_packet_data_reset`. -/
def Ctx.receiveIpmiPacketDataReset (c : Ctx) (now : ℕ) : Ctx :=
  { c with
    sol := c.sol.receiveReset
    counts := { c.counts with errorsCount := 0, sessionSequenceNumberErrorsCount := 0 }
    timers := { c.timers with lastIpmiPacketReceived := now } }

/-- `_receive_sol_packet_data_reset`. -/
def Ctx.receiveSolPacketDataReset (c : Ctx) (now : ℕ) : Ctx :=
  let c := c.receiveIpmiPacketDataReset now
  { c with timers := { c.timers with lastSolPacketReceived := now } }

/-- `_receive_keepalive_packet_data_reset`. -/
def Ctx.receiveKeepalivePacketDataReset (c : Ctx) (now : ℕ) : Ctx :=
  { c with timers := { c.timers with lastIpmiPacketReceived := now } }

/-- `c->session.errors_count++`. -/
def Ctx.countError (c : Ctx) : Ctx :=
  { c with counts := { c.counts with errorsCount := c.counts.errorsCount + 1 } }

/-- `c->session.session_sequence_number_errors_count++`. -/
def Ctx.countSequenceNumberError (c : Ctx) : Ctx :=
  { c with counts := { c.counts with
    sessionSequenceNumberErrorsCount := c.counts.sessionSequenceNumberErrorsCount + 1 } }

/-- Why receiving a packet fails: -1 is returned, or a call of the library has no defined result. -/
inductive ReceiveFailure where
  | failed (c : Ctx)
  | halted

/-- A stage of receiving a packet gives up a packet that is dropped. -/
abbrev ReceiveStage := Stage ReceiveFailure Ctx

def failStage (e : Stop) (c : Ctx) : Except (Exit ReceiveFailure Ctx) Ctx :=
  .error (.fail (if e.isReturn then .failed c else .halted))

/-- A check, and what becomes of a packet that does not pass. -/
def stageOf (check : Check) (refused : ReceiveStage) : ReceiveStage := fun c =>
  match check c with
  | .error e => failStage e c
  | .ok (true, c) => .ok c
  | .ok (false, c) => refused c

/-- The packet is an error, and dropped. -/
def dropped : ReceiveStage := fun c => .error (.unparsed c.countError)

/-- The packet is from the BMC, which reports an error. -/
def resetAndFail (now : ℕ) : ReceiveStage := fun c =>
  .error (.fail (.failed (c.receiveIpmiPacketDataReset now)))

def enforce (check : Check) : ReceiveStage := stageOf check dropped

/-- The check is made for its log and for the window only. -/
def note (check : Check) : ReceiveStage := stageOf check .ok

def enforceUnlessClosing (check : Check) : ReceiveStage :=
  stageOf check fun c => if c.machine.closeSessionFlag = 0 then dropped c else .ok c

def enforceOrReset (now : ℕ) (check : Check) : ReceiveStage := stageOf check (resetAndFail now)

section Stages
variable (crypto : Crypto) (now : ℕ) (pkt : List Byte) (p : PacketType)

/-- The completion codes other than success with which a packet is accepted. -/
def excusedCompletionCode (c : Ctx) : Except Stop Bool := do
  if p = .activatePayloadRs then
    let val ← fiidObjGetStrict (c.packetObject p) "comp_code"
    let compCode : Byte := val.setWidth 8
    return compCode == ipmiCompCodeActivatePayloadPayloadAlreadyActiveOnAnotherSession
      || compCode == ipmiCompCodeActivatePayloadPayloadTypeIsDisabled
      || compCode == ipmiCompCodeActivatePayloadPayloadActivationLimitReached
      || compCode == ipmiCompCodeActivatePayloadCannotActivatePayloadWithEncryption
      || compCode == ipmiCompCodeActivatePayloadCannotActivatePayloadWithoutEncryption
  else if p = .deactivatePayloadRs then
    if c.machine.tryNewPortFlag ≠ 0 then return true
    else
      let val ← fiidObjGetStrict (c.packetObject p) "comp_code"
      let compCode : Byte := val.setWidth 8
      return compCode == ipmiCompCodeDeactivatePayloadPayloadAlreadyDeactivated
        || compCode == ipmiCompCodeDeactivatePayloadPayloadTypeIsDisabled
  else return false

/-- The check of the completion code, and after a success the one of the whole packet. -/
def completionStage (packetStage : ReceiveStage) : ReceiveStage := fun c =>
  match checkCompletionCode p c with
  | .error e => failStage e c
  | .ok true => packetStage c
  | .ok false =>
    match excusedCompletionCode p c with
    | .error e => failStage e c
    | .ok true => .ok c
    | .ok false => resetAndFail now c

/-- The checks of an IPMI 1.5 packet, which is outside of any session. -/
def preSessionStages : List ReceiveStage :=
  [enforce (reading (checkChecksum p)),
   enforce (reading checkNetworkFunction),
   enforce (reading (checkCommand p)),
   enforce (reading checkRequesterSequenceNumber),
   completionStage now p (enforce (reading (checkPacket p)))]

/-- The check that each of the session setup messages has of its own. -/
def setupStage : ReceiveStage :=
  if p = .openSessionResponse then enforceOrReset now (reading checkOpenSessionResponsePrivilege)
  else if p = .rakpMessage2 then enforceOrReset now (checkRakp2KeyExchangeAuthenticationCode crypto)
  else enforceOrReset now (checkRakp4IntegrityCheckValue crypto)

/-- The checks of a session setup message. -/
def setupStages : List ReceiveStage :=
  [enforce (reading (checkPayloadType p)),
   enforce (reading (checkMessageTag p)),
   enforceOrReset now (reading (checkRmcpplusStatusCode p)),
   enforce (reading (checkPacket p)),
   enforce (reading (checkSessionId p)),
   setupStage crypto now p]

/-- The checks of a response on the way to the SOL session. -/
def sessionStages : List ReceiveStage :=
  [enforce (reading (checkPayloadType p)),
   enforce (reading checkPayloadPad),
   enforce (reading checkIntegrityPad),
   enforce (reading (checkChecksum p)),
   enforce (reading (checkAuthenticationCode crypto pkt)),
   enforce checkOutboundSequenceNumber,
   enforce (reading (checkSessionId p)),
   enforce (reading checkNetworkFunction),
   enforce (reading (checkCommand p)),
   enforce (reading checkRequesterSequenceNumber),
   completionStage now p (enforce (reading (checkPacket p)))]

/-- The checks of SOL data. -/
def solStages : List ReceiveStage :=
  [enforce (reading (checkPayloadType p)),
   enforce (reading checkPayloadPad),
   enforce (reading checkIntegrityPad),
   enforce (reading (checkAuthenticationCode crypto pkt)),
   stageOf checkOutboundSequenceNumber fun c => dropped c.countSequenceNumberError,
   enforce (reading (checkSessionId p)),
   enforce (reading (checkPacket p))]

/-- The checks of the response to a keepalive, and of the one that closes the session. The validity
    of the packet is not cared for, but for its session and its command. -/
def uncaredStages : List ReceiveStage :=
  [note (reading (checkPayloadType p)),
   note (reading checkPayloadPad),
   note (reading checkIntegrityPad),
   note (reading (checkChecksum p)),
   note (reading (checkAuthenticationCode crypto pkt)),
   note checkOutboundSequenceNumber,
   enforce (reading (checkSessionId p)),
   note (reading checkNetworkFunction),
   enforce (reading (checkCommand p)),
   note (reading checkRequesterSequenceNumber),
   note (reading (checkCompletionCode p)),
   note (reading (checkPacket p))]

/-- The checks of the response that deactivates the payload: most are not enforced while the session
    is closed. -/
def deactivateStages : List ReceiveStage :=
  [enforceUnlessClosing (reading (checkPayloadType p)),
   enforceUnlessClosing (reading checkPayloadPad),
   enforceUnlessClosing (reading checkIntegrityPad),
   enforceUnlessClosing (reading (checkChecksum p)),
   enforceUnlessClosing (reading (checkAuthenticationCode crypto pkt)),
   enforceUnlessClosing checkOutboundSequenceNumber,
   enforce (reading (checkSessionId p)),
   enforceUnlessClosing (reading checkNetworkFunction),
   enforce (reading (checkCommand p)),
   enforceUnlessClosing (reading checkRequesterSequenceNumber),
   completionStage now p (enforceUnlessClosing (reading (checkPacket p)))]

/-- The checks of a packet. -/
def checkStages : List ReceiveStage :=
  match p with
  | .getAuthenticationCapabilitiesRs => preSessionStages now p
  | .openSessionResponse => setupStages crypto now p
  | .rakpMessage2 => setupStages crypto now p
  | .rakpMessage4 => setupStages crypto now p
  | .setSessionPrivilegeLevelRs => sessionStages crypto now pkt p
  | .getChannelPayloadSupportRs => sessionStages crypto now pkt p
  | .getPayloadActivationStatusRs => sessionStages crypto now pkt p
  | .activatePayloadRs => sessionStages crypto now pkt p
  | .solPayloadDataRs => solStages crypto pkt p
  | .getChannelPayloadVersionRs => uncaredStages crypto pkt p
  | .deactivatePayloadRs => deactivateStages crypto now pkt p
  | .closeSessionRs => uncaredStages crypto pkt p

/-- The times and counts of an accepted packet. -/
def Ctx.acceptPacket (c : Ctx) : Ctx :=
  let c :=
    if p = .getChannelPayloadVersionRs then c.receiveKeepalivePacketDataReset now
    else if p = .solPayloadDataRs then c.receiveSolPacketDataReset now
    else c.receiveIpmiPacketDataReset now
  { c with log := c.log ++ [.accepted p (c.packetObject p)] }

end Stages

/-! ### Receiving -/

/-- What `_receive_packet` returns, the packet type it has set, and the context. -/
structure Received where
  rc : Rc
  p : Option PacketType
  ctx : Ctx

/-- The objects cleared after a packet, for each way to leave `_receive_packet`. -/
def Ctx.cleanup (c : Ctx) : Ctx :=
  { c with objs := { c.objs with
    lanSessionHdrRs := fiidObjClear c.objs.lanSessionHdrRs
    rmcpplusSessionTrlrRs := fiidObjClear c.objs.rmcpplusSessionTrlrRs } }

/-- What the last stage leaves. -/
def received (now : ℕ) (p : PacketType) : Except (Exit ReceiveFailure Ctx) Ctx → Except Halt Received
  | .ok c => .ok ⟨.one, some p, (c.acceptPacket now p).cleanup⟩
  | .error (.unparsed c) => .ok ⟨.zero, some p, c.cleanup⟩
  | .error (.fail (.failed c)) => .ok ⟨.minusOne, some p, c.cleanup⟩
  | .error (.fail .halted) => .error .library

/-- What is done with a packet that has been taken apart. -/
def receiveUnassembled (crypto : Crypto) (now : ℕ) (pkt : List Byte) :
    Bool × Option PacketType × Ctx → Except Halt Received
  | (true, some p, c) => received now p (runStages (checkStages crypto now pkt p) c)
  | (_, p, c) => .ok ⟨.zero, p, c.countError.cleanup⟩

/-- `_receive_packet`; `beyond` stands in its array behind the packet. -/
def receivePacket (crypto : Crypto) (now : ℕ) (beyond : Byte) (c : Ctx) : Except Halt Received :=
  let pkt := c.ipmiFromBmc.take ipmiconsolePacketBuflen
  if pkt.length = 0 then .ok ⟨.zero, none, c⟩
  else
    let c := { c with ipmiFromBmc := c.ipmiFromBmc.drop ipmiconsolePacketBuflen }
    onResult (ipmiconsolePacketUnassemble crypto beyond pkt c)
      (.ok ⟨.minusOne, none, c.cleanup⟩) (receiveUnassembled crypto now pkt)

end FreeIpmi.Console
