import FreeIpmi.Basic
import FreeIpmi.Lib.Calls

/-! The SOL session (`libipmiconsole/ipmiconsole_processing.c`, `ipmiconsole_engine.c`).

    While the protocol state is `SOL_SESSION` the engine reads the user's characters into one ring
    buffer, and the state machine sends them to the BMC, one packet at a time, each until its
    acknowledgement. Characters of the BMC go to a second ring buffer, and are acknowledged as they
    come in. A step is one call of the engine or of the state machine; what the calls to
    `gettimeofday` in it decide is a parameter of the step. A step that fails leaves `SOL_SESSION`
    for good. -/

namespace FreeIpmi.Console
open Calls

/-- `IPMI_SOL_PACKET_SEQUENCE_NUMBER_MAX`. -/
def ipmiSolPacketSequenceNumberMax : ℕ := 0xF

/-- `IPMICONSOLE_MIN_CHARACTER_DATA`. -/
def ipmiconsoleMinCharacterData : ℕ := 1

/-- `IPMICONSOLE_MAX_CHARACTER_DATA`. -/
def ipmiconsoleMaxCharacterData : ℕ := 255

/-- `CONSOLE_REMOTE_CONSOLE_TO_BMC_BUF_MAX`. -/
def consoleRemoteConsoleToBmcBufMax : ℕ := 1024 * 8

/-- `CONSOLE_BMC_TO_REMOTE_CONSOLE_BUF_MAX`. -/
def consoleBmcToRemoteConsoleBufMax : ℕ := 1024 * 16

/-- The `IPMICONSOLE_ERR_*` codes a session ends with. -/
inductive SolStop where
  | success | internalError | excessRetransmissionsSent | solStolen
  deriving DecidableEq, Repr

/-- The flags and limits of `c->config` that the SOL session reads. -/
structure SolConfig where
  engineSerialKeepalive : Bool
  engineSerialKeepaliveEmpty : Bool
  workaroundIncrementSolPacketSequence : Bool
  maximumRetransmissionCount : ℕ

/-- The arguments of `ipmiconsole_sol_packet_assemble`. -/
structure SolPacket where
  packetSequenceNumber : ℕ
  packetAckNackSequenceNumber : ℕ
  acceptedCharacterCount : ℕ
  generateBreak : Bool
  characterData : List Byte
  deriving DecidableEq

/-- A packet sent, and the `is_retransmission` it was sent with. -/
structure Sent where
  packet : SolPacket
  isRetransmission : Bool
  deriving DecidableEq

/-- The fields of `obj_sol_payload_data_rs`. -/
structure BmcPacket where
  packetSequenceNumber : ℕ
  packetAckNackSequenceNumber : ℕ
  acceptedCharacterCount : ℕ
  solDeactivating : Bool
  characterData : List Byte
  deriving DecidableEq

/-- The part of `c->session` and `c->connection` that belongs to the SOL session. The bytes of
    `sol_input_character_data` up to `sol_input_character_data_len` are one list, and so is the
    unread part of a ring buffer. -/
structure SolSession where
  sessionSequenceNumber : ℕ
  retransmissionCount : ℕ
  workaroundRetransmissionCount : ℕ
  maxSolCharacterSendSize : ℕ
  breakRequested : Bool
  bytesBeforeBreak : ℕ
  solInputWaitingForAck : ℕ
  solInputWaitingForBreakAck : ℕ
  solInputPacketSequenceNumber : ℕ
  solInputCharacterData : List Byte
  lastSolOutputPacketSequenceNumber : ℕ
  lastSolOutputAcceptedCharacterCount : ℕ
  consoleRemoteConsoleToBmc : List Byte
  consoleBmcToRemoteConsole : List Byte
  deriving DecidableEq

/-- The session that `ipmiconsole_ctx_session_setup` leaves, once the payload is activated. -/
def SolSession.setup (sessionSequenceNumber maxSolCharacterSendSize : ℕ) : SolSession where
  sessionSequenceNumber := sessionSequenceNumber
  retransmissionCount := 0
  workaroundRetransmissionCount := 0
  maxSolCharacterSendSize := maxSolCharacterSendSize
  breakRequested := false
  bytesBeforeBreak := 0
  solInputWaitingForAck := 0
  solInputWaitingForBreakAck := 0
  solInputPacketSequenceNumber := 0
  solInputCharacterData := []
  lastSolOutputPacketSequenceNumber := 0
  lastSolOutputAcceptedCharacterCount := 0
  consoleRemoteConsoleToBmc := []
  consoleBmcToRemoteConsole := []

/-- `_check_payload_sizes_legitimate`: `max_sol_character_send_size`, or none if the sizes of the
    activate payload response make no sense. The header of a SOL payload has 4 bytes. -/
def checkPayloadSizesLegitimate (workaroundIgnoreSolPayloadSize : Bool)
    (maxInboundPayloadSize maxOutboundPayloadSize : ℕ) : Option ℕ :=
  let solHdrLen := 4
  if !workaroundIgnoreSolPayloadSize then
    if maxInboundPayloadSize ≥ ipmiconsoleMinCharacterData + solHdrLen
        ∧ maxInboundPayloadSize ≤ ipmiconsoleMaxCharacterData + solHdrLen
        ∧ maxOutboundPayloadSize ≥ ipmiconsoleMinCharacterData + solHdrLen
        ∧ maxOutboundPayloadSize ≤ ipmiconsoleMaxCharacterData + solHdrLen then
      some (maxInboundPayloadSize - solHdrLen)
    else none
  else some 32

/-! ### Sending -/

/-- `session_sequence_number++`, past 0. -/
def SolSession.nextSession (s : SolSession) : SolSession :=
  { s with sessionSequenceNumber :=
      if (s.sessionSequenceNumber + 1) % 2 ^ 32 = 0 then 1 else (s.sessionSequenceNumber + 1) % 2 ^ 32 }

/-- `sol_input_packet_sequence_number++`, from the last number to 1. -/
def nextPacketSequenceNumber (n : ℕ) : ℕ := if n + 1 > ipmiSolPacketSequenceNumberMax then 1 else n + 1

/-- The number of characters that a new packet may take out of the buffer. -/
def SolSession.maxCharacterSendSize (s : SolSession) : ℕ :=
  if s.bytesBeforeBreak = 0 then s.maxSolCharacterSendSize else s.bytesBeforeBreak

/-- The sequence number and the characters of a new packet. -/
def SolSession.newCharacterData (s : SolSession) : SolSession :=
  { s with
    solInputPacketSequenceNumber := nextPacketSequenceNumber s.solInputPacketSequenceNumber
    solInputCharacterData := s.consoleRemoteConsoleToBmc.take s.maxCharacterSendSize }

/-- The packet with the character data at hand. -/
def SolSession.assemble (s : SolSession) (packetAckNackSequenceNumber acceptedCharacterCount : ℕ)
    (generateBreak : Bool) : SolPacket :=
  ⟨s.solInputPacketSequenceNumber, packetAckNackSequenceNumber, acceptedCharacterCount, generateBreak,
    s.solInputCharacterData⟩

/-- `_send_sol_packet_with_character_data`. -/
def sendSolPacketWithCharacterData (s : SolSession)
    (packetAckNackSequenceNumber acceptedCharacterCount : ℕ) (isRetransmission : Bool) :
    Sent × SolSession :=
  let s := s.nextSession
  let s := if isRetransmission then s else s.newCharacterData
  (⟨s.assemble packetAckNackSequenceNumber acceptedCharacterCount false, isRetransmission⟩,
    { s with solInputWaitingForAck := s.solInputWaitingForAck + 1 })

/-- `_send_sol_packet_ack_only`. -/
def sendSolPacketAckOnly (s : SolSession) (packetAckNackSequenceNumber acceptedCharacterCount : ℕ) :
    Sent × SolSession :=
  (⟨⟨0, packetAckNackSequenceNumber, acceptedCharacterCount, false, []⟩, false⟩, s.nextSession)

/-- `_send_sol_packet_generate_break`. -/
def sendSolPacketGenerateBreak (s : SolSession) (isRetransmission : Bool) : Sent × SolSession :=
  let s := s.nextSession
  let s := if isRetransmission then s
    else { s with
      solInputPacketSequenceNumber := nextPacketSequenceNumber s.solInputPacketSequenceNumber
      solInputCharacterData := [] }
  (⟨s.assemble 0 0 true, isRetransmission⟩,
    { s with
      solInputWaitingForAck := s.solInputWaitingForAck + 1
      solInputWaitingForBreakAck := s.solInputWaitingForBreakAck + 1 })

/-- The packet of the last transmission again. -/
def sendSolPacketAgain (s : SolSession) : Sent × SolSession :=
  if s.solInputWaitingForBreakAck = 0 then sendSolPacketWithCharacterData s 0 0 true
  else sendSolPacketGenerateBreak s true

/-- `_sol_retransmission_timeout`, where `timedOut` is the comparison with the clock. -/
def solRetransmissionTimeout (config : SolConfig) (s : SolSession) (timedOut : Bool) :
    Except SolStop (Option Sent × SolSession) :=
  if !timedOut then .ok (none, s)
  else
    let s := { s with retransmissionCount := s.retransmissionCount + 1 }
    if s.retransmissionCount > config.maximumRetransmissionCount then
      let s := { s with workaroundRetransmissionCount := s.workaroundRetransmissionCount + 1 }
      if config.workaroundIncrementSolPacketSequence
          ∧ s.workaroundRetransmissionCount < config.maximumRetransmissionCount then
        let s := if s.workaroundRetransmissionCount = 1 then
            { s with solInputPacketSequenceNumber :=
                nextPacketSequenceNumber s.solInputPacketSequenceNumber }
          else s
        let (sent, s) := sendSolPacketAgain s
        .ok (some sent, s)
      else .error .excessRetransmissionsSent
    else
      let (sent, s) := sendSolPacketAgain s
      .ok (some sent, s)

/-- `_send_sol_character_data_or_break`. -/
def sendSolCharacterDataOrBreak (s : SolSession) : Option Sent × SolSession :=
  if s.consoleRemoteConsoleToBmc ≠ []
      ∧ (!s.breakRequested ∨ (s.breakRequested ∧ s.bytesBeforeBreak ≠ 0)) then
    let (sent, s) := sendSolPacketWithCharacterData s 0 0 false
    (some sent, s)
  else if s.breakRequested then
    let (sent, s) := sendSolPacketGenerateBreak s false
    (some sent, s)
  else (none, s)

/-! ### Steps -/

/-- What a step hands on: the packet to the BMC, the characters written to the user's ring buffer,
    and the characters entered into the ring buffer to the BMC. -/
structure SolOutput where
  sent : Option Sent
  written : List Byte
  entered : List Byte
  deriving DecidableEq

/-- What the comparisons with the clock in one call of `_process_protocol_state_sol_session_send`
    say, in their order. The clock is read again for each: although the first and the last compare
    with the same deadline, the last may find it past where the first did not. -/
structure SolTimeouts where
  solRetransmission : Bool
  keepaliveIsNecessary : Bool
  keepaliveRetransmission : Bool
  serialKeepaliveIsNecessary : Bool
  serialKeepalive : Bool
  deriving DecidableEq, Inhabited

/-- `_serial_keepalive_timeout`. -/
def serialKeepaliveTimeout (config : SolConfig) (s : SolSession) (t : SolTimeouts) :
    SolOutput × SolSession :=
  if t.serialKeepaliveIsNecessary ∧ s.consoleRemoteConsoleToBmc = [] ∧ !s.breakRequested
      ∧ s.bytesBeforeBreak = 0 ∧ t.serialKeepalive then
    let entered := if config.engineSerialKeepalive then [0] else []
    let (sent, s) := sendSolPacketWithCharacterData
      { s with consoleRemoteConsoleToBmc := s.consoleRemoteConsoleToBmc ++ entered } 0 0 false
    (⟨some sent, [], entered⟩, s)
  else (⟨none, [], []⟩, s)

/-- The keepalives of `_process_protocol_state_sol_session_send`. The keepalive request is not a SOL
    packet, and takes a session sequence number only. -/
def solSessionKeepalive (config : SolConfig) (s : SolSession) (t : SolTimeouts) :
    SolOutput × SolSession :=
  if t.keepaliveIsNecessary ∧ t.keepaliveRetransmission then (⟨none, [], []⟩, s.nextSession)
  else if config.engineSerialKeepalive ∨ config.engineSerialKeepaliveEmpty then
    serialKeepaliveTimeout config s t
  else (⟨none, [], []⟩, s)

/-- The first packet of `_process_protocol_state_sol_session_send`: the one that waits again, or a
    new one. -/
def solSessionInput (config : SolConfig) (s : SolSession) (t : SolTimeouts) :
    Except SolStop (Option Sent × SolSession) :=
  if s.solInputWaitingForAck ≠ 0 then solRetransmissionTimeout config s t.solRetransmission
  else .ok (sendSolCharacterDataOrBreak s)

/-- `_process_protocol_state_sol_session_send`. -/
def solSessionSend (config : SolConfig) (s : SolSession) (t : SolTimeouts) :
    Except SolStop (SolOutput × SolSession) := do
  let (sent, s) ← solSessionInput config s t
  .ok (if sent.isSome then (⟨sent, [], []⟩, s) else solSessionKeepalive config s t)

/-- The packet acknowledges the one that waits. -/
def SolSession.Acks (s : SolSession) (p : BmcPacket) : Prop :=
  p.packetAckNackSequenceNumber ≠ 0 ∧ s.solInputWaitingForAck ≠ 0
    ∧ s.solInputPacketSequenceNumber = p.packetAckNackSequenceNumber

instance (s : SolSession) (p : BmcPacket) : Decidable (s.Acks p) := by
  unfold SolSession.Acks; infer_instance

/-- What the acknowledgement in a packet does. The count of accepted characters is cut to the
    number of characters sent, and the countdown to the break never passes 0. -/
def SolSession.ack (s : SolSession) (p : BmcPacket) : SolSession :=
  if s.Acks p then
    if s.solInputWaitingForBreakAck = 0 then
      let accepted := min p.acceptedCharacterCount s.solInputCharacterData.length
      { s with
        consoleRemoteConsoleToBmc := s.consoleRemoteConsoleToBmc.drop accepted
        bytesBeforeBreak := s.bytesBeforeBreak - min accepted s.bytesBeforeBreak
        solInputWaitingForAck := 0
        solInputCharacterData := [] }
    else
      { s with
        breakRequested := false
        solInputWaitingForAck := 0
        solInputWaitingForBreakAck := 0
        solInputCharacterData := [] }
  else s

/-- The characters of a packet that the user has not been given yet. -/
def SolSession.characterDataToWrite (s : SolSession) (p : BmcPacket) : List Byte :=
  if s.lastSolOutputPacketSequenceNumber = p.packetSequenceNumber then
    if p.characterData.length ≥ s.lastSolOutputAcceptedCharacterCount then
      p.characterData.drop s.lastSolOutputAcceptedCharacterCount
    else []
  else p.characterData

/-- The part of `_sol_bmc_to_remote_console_packet` for a packet with characters. -/
def solBmcCharacterData (s : SolSession) (p : BmcPacket) : Except SolStop (SolOutput × SolSession) :=
  if p.characterData.length > ipmiconsoleMaxCharacterData then .error .internalError
  else
    let written := s.characterDataToWrite p
    if s.consoleBmcToRemoteConsole.length + written.length > consoleBmcToRemoteConsoleBufMax then
      .error .internalError
    else
      let s := { s with
        consoleBmcToRemoteConsole := s.consoleBmcToRemoteConsole ++ written
        lastSolOutputPacketSequenceNumber := p.packetSequenceNumber
        lastSolOutputAcceptedCharacterCount := p.characterData.length }
      let (sent, s) :=
        if s.solInputWaitingForAck = 0 ∧ s.consoleRemoteConsoleToBmc ≠ [] then
          sendSolPacketWithCharacterData s p.packetSequenceNumber p.characterData.length false
        else sendSolPacketAckOnly s p.packetSequenceNumber p.characterData.length
      .ok (⟨some sent, written, []⟩, s)

/-- The part of `_sol_bmc_to_remote_console_packet` for a packet that only acknowledges. -/
def solBmcAckOnly (s : SolSession) : SolOutput × SolSession :=
  if s.consoleRemoteConsoleToBmc ≠ [] ∧ s.solInputWaitingForAck = 0
      ∧ (!s.breakRequested ∨ (s.breakRequested ∧ s.bytesBeforeBreak ≠ 0)) then
    let (sent, s) := sendSolPacketWithCharacterData s 0 0 false
    (⟨some sent, [], []⟩, s)
  else if s.breakRequested then
    let (sent, s) := sendSolPacketGenerateBreak s false
    (⟨some sent, [], []⟩, s)
  else (⟨none, [], []⟩, s)

/-- `_sol_bmc_to_remote_console_packet`. -/
def solBmcToRemoteConsolePacket (s : SolSession) (p : BmcPacket) :
    Except SolStop (SolOutput × SolSession) :=
  if p.solDeactivating then .error .solStolen
  else
    let s := s.ack p
    if p.packetSequenceNumber ≠ 0 then solBmcCharacterData s p else .ok (solBmcAckOnly s)

/-- `_receive_sol_packet_data_reset`, less the times. -/
def SolSession.receiveReset (s : SolSession) : SolSession :=
  { s with retransmissionCount := 0, workaroundRetransmissionCount := 0 }

/-- `_console_read` of the bytes that `read` returns; none of them is the end of the file. A write
    that does not fit drops what was in the buffer, and is an error. -/
def consoleRead (s : SolSession) (buffer : List Byte) : Except SolStop (SolOutput × SolSession) :=
  if buffer = [] then .error .success
  else if s.consoleRemoteConsoleToBmc.length + buffer.length > consoleRemoteConsoleToBmcBufMax then
    .error .internalError
  else .ok (⟨none, [], buffer⟩,
    { s with consoleRemoteConsoleToBmc := s.consoleRemoteConsoleToBmc ++ buffer })

/-- `_asynccomm` with `IPMICONSOLE_PIPE_GENERATE_BREAK_CODE`. -/
def asynccommBreak (s : SolSession) : SolSession :=
  if !s.breakRequested then
    { s with breakRequested := true, bytesBeforeBreak := s.consoleRemoteConsoleToBmc.length }
  else s

/-- What the engine does with the session next. The characters typed before the session is
    established, and the first call of `_send_sol_character_data_or_break` when it is, are a `read`
    and a `send` like any other. -/
inductive SolEvent where
  | read (buffer : List Byte)
  | break
  | write
  | send (t : SolTimeouts)
  | receive (p : BmcPacket)
  deriving DecidableEq

/-- One step of the session. -/
def solStep (config : SolConfig) (s : SolSession) : SolEvent → Except SolStop (SolOutput × SolSession)
  | .read buffer => consoleRead s buffer
  | .break => .ok (⟨none, [], []⟩, asynccommBreak s)
  | .write => .ok (⟨none, [], []⟩, { s with consoleBmcToRemoteConsole := [] })
  | .send t => solSessionSend config s t
  | .receive p => solBmcToRemoteConsolePacket s.receiveReset p

/-- The steps of a session, each with what it hands on. -/
inductive SolRun (config : SolConfig) :
    SolSession → List (SolEvent × SolOutput) → SolSession → Prop where
  | nil (s : SolSession) : SolRun config s [] s
  | cons {s s' s'' : SolSession} {e : SolEvent} {o : SolOutput} {trace : List (SolEvent × SolOutput)} :
      solStep config s e = .ok (o, s') → SolRun config s' trace s'' →
        SolRun config s ((e, o) :: trace) s''

end FreeIpmi.Console
