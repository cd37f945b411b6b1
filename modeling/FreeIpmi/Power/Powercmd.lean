import FreeIpmi.Power.Check

/-! One visit to a power command (`ipmipower_powercmd.c`).

    `_process_ipmi_packets` gives up a command that has timed out, resends a request that has not been
    answered, and otherwise takes the packet that has arrived for the state the command is in. What
    the clock and the network do during the visit is a `Visit`.

        start ──▶ capabilities ──▶ challenge ──▶ activate ─────────┐
                       │                                           ▼
                       └──▶ open session ──▶ RAKP 1 ──▶ RAKP 3 ──▶ privilege
                                                                   │
        done ◀── close session ◀── status, control, identify ◀─────┘ -/

namespace FreeIpmi.Power

/-- A power command, and `ipmi_requester_sequence_number_counter` of its connection. -/
structure Active where
  ip : Powercmd
  counter : ℕ

/-- `ipmipower_output` for the host of the command. -/
def Active.output (cfg : Config) (w : Active) (msg : MsgType) : Active :=
  { w with ip := w.ip.output cfg msg }

/-- What the clock and the network do while a command is visited. -/
structure Visit where
  timedOut : Bool := false
  -- the request has waited long enough for its response
  retransmit : Bool := false
  -- a new socket: there is one, there are too many files, or the call fails otherwise
  socket : Option Bool := some true
  reply : Option Reply := none

/-! ### Packets -/

/-- `_send_packet`. -/
def sendPacket (cfg : Config) (w : Active) (pkt : PacketType) : Active where
  counter := w.counter + 1
  ip :=
    { w.ip with
      messageTagCount := if pkt.ipmi20Setup then w.ip.messageTagCount + 1 else w.ip.messageTagCount
      sessionSequenceNumber :=
        if cfg.driverType = .lan20 ∧ pkt.sessionPacket then
          if w.ip.sessionSequenceNumber + 1 = 0 then w.ip.sessionSequenceNumber + 1 + 1
          else w.ip.sessionSequenceNumber + 1
        else w.ip.sessionSequenceNumber
      protocolState := .sent pkt
      sessionInboundCount :=
        if cfg.driverType = .lan ∧ pkt.sessionPacket then w.ip.sessionInboundCount + 1
        else w.ip.sessionInboundCount }

/-- The `int` that `_recv_packet` and `_retry_packets` return. -/
inductive Rv where | minusOne | zero | one
  deriving DecidableEq

/-- A check of a packet, and what follows where it fails. -/
def check (c : Except Exit Bool) (failed : Except Exit (Rv × Active))
    (passed : Except Exit (Rv × Active)) : Except Exit (Rv × Active) := do
  if ← c then passed else failed

/-- The packet is ignored. -/
def ignore (w : Active) : Except Exit (Rv × Active) := .ok (.zero, w)

/-- The label `close_session_workaround`: the packet is good. -/
def accept (w : Active) : Except Exit (Rv × Active) :=
  .ok (.one, { w with ip := { w.ip with retransmissionCount := 0 } })

/-- The packet says that the request failed. -/
def refuse (cfg : Config) (w : Active) (pkt : PacketType) (r : Reply) : Except Exit (Rv × Active) := do
  let msg ← packetErrmsg cfg pkt r
  let w := w.output cfg msg
  return (.minusOne, { w with ip := { w.ip with retransmissionCount := 0 } })

/-- `_recv_packet` for the capabilities and the session challenge. -/
def recvUnauthenticated (cfg : Config) (w : Active) (pkt : PacketType) (r : Reply) :
    Except Exit (Rv × Active) :=
  check (checkChecksum cfg r) (ignore w) <|
  check (checkNetworkFunction pkt r) (ignore w) <|
  check (checkCommand pkt r) (ignore w) <|
  check (checkRequesterSequenceNumber w.counter r) (ignore w) <|
  check (checkCompletionCode r) (refuse cfg w pkt r) <|
  check (checkPacket r) (ignore w) <|
  accept w

/-- `_recv_packet` for the activation of a session. -/
def recvActivateSession (cfg : Config) (w : Active) (r : Reply) : Except Exit (Rv × Active) :=
  check (checkChecksum cfg r) (ignore w) <|
  check (checkAuthenticationCode cfg w.ip .activateSession r) (ignore w) <|
  check (checkNetworkFunction .activateSession r) (ignore w) <|
  check (checkCommand .activateSession r) (ignore w) <|
  check (checkRequesterSequenceNumber w.counter r) (ignore w) <|
  check (checkCompletionCode r) (refuse cfg w .activateSession r) <|
  check (checkPacket r) (ignore w) <| do
    let n ← Exit.get r.sessionSequenceNumber
    let window := { w.ip.window with highest := readSequenceNumber cfg n }
    accept { w with ip := { w.ip with window } }

/-- The check of the session sequence number, with the rest of the checks in the window it leaves. -/
def checkSequence (cfg : Config) (w : Active) (r : Reply)
    (passed : Active → Except Exit (Rv × Active)) : Except Exit (Rv × Active) := do
  let (rv, ip) ← checkOutboundSequenceNumber cfg w.ip r
  check (pure rv) (ignore { w with ip }) (passed { w with ip })

/-- `_recv_packet` in a session over IPMI 1.5. -/
def recvSession15 (cfg : Config) (w : Active) (pkt : PacketType) (r : Reply) :
    Except Exit (Rv × Active) :=
  check (checkChecksum cfg r) (ignore w) <|
  check (checkAuthenticationCode cfg w.ip pkt r) (ignore w) <|
  checkSequence cfg w r fun w =>
  check (checkSessionId cfg w.ip pkt r) (ignore w) <|
  check (checkNetworkFunction pkt r) (ignore w) <|
  check (checkCommand pkt r) (ignore w) <|
  check (checkRequesterSequenceNumber w.counter r)
    (if pkt = .closeSession then accept w else ignore w) <|
  check (checkCompletionCode r)
    (if pkt = .closeSession then accept w else refuse cfg w pkt r) <|
  check (checkPacket r) (ignore w) <|
  accept w

/-- The checks of `_recv_packet` for one of the session setup messages, past the session id. -/
def recvSetupContents (cfg : Config) (w : Active) (pkt : PacketType) (r : Reply)
    (passed : Except Exit (Rv × Active)) : Except Exit (Rv × Active) :=
  match pkt with
  | .openSession => check (checkOpenSessionResponsePrivilege cfg w.ip r)
      (.ok (.minusOne, w.output cfg .privilegeLevelCannotBeObtained)) passed
  | .rakpMessage1 => check (Exit.run r.rakp2KeyExchangeAuthenticationCode)
      (.ok (.minusOne, w.output cfg .passwordInvalid)) passed
  | .rakpMessage3 => check (Exit.run r.rakp4IntegrityCheckValue)
      (.ok (.minusOne, w.output cfg .kGInvalid)) passed
  | _ => passed

/-- `_recv_packet` for the session setup of IPMI 2.0. -/
def recvSetup20 (cfg : Config) (w : Active) (pkt : PacketType) (r : Reply) :
    Except Exit (Rv × Active) :=
  check (checkPayloadType pkt r) (ignore w) <|
  check (checkMessageTag w.ip r) (ignore w) <|
  check (checkRmcpplusStatusCode r) (refuse cfg w pkt r) <|
  check (checkSessionId cfg w.ip pkt r) (ignore w) <|
  recvSetupContents cfg w pkt r <|
  check (checkPacket r) (ignore w) <|
  accept w

/-- `_recv_packet` in a session over IPMI 2.0. -/
def recvSession20 (cfg : Config) (w : Active) (pkt : PacketType) (r : Reply) :
    Except Exit (Rv × Active) :=
  check (checkPayloadType pkt r) (ignore w) <|
  check (Exit.run r.payloadPad) (ignore w) <|
  check (Exit.run r.integrityPad) (ignore w) <|
  check (checkChecksum cfg r) (ignore w) <|
  check (checkAuthenticationCode cfg w.ip pkt r) (ignore w) <|
  checkSequence cfg w r fun w =>
  check (checkSessionId cfg w.ip pkt r) (ignore w) <|
  check (checkNetworkFunction pkt r) (ignore w) <|
  check (checkCommand pkt r) (ignore w) <|
  check (checkRequesterSequenceNumber w.counter r)
    (if pkt = .closeSession then accept w else ignore w) <|
  check (checkCompletionCode r)
    -- nothing is output here
    (if pkt = .closeSession then accept w
      else .ok (.minusOne, { w with ip := { w.ip with retransmissionCount := 0 } })) <|
  check (checkPacket r) (ignore w) <|
  accept w

/-- `ipmipower_packet_store`: whether the packet was parsed, and the objects afterwards. -/
def packetStore (w : Active) (pkt : PacketType) (r : Reply) : Except Exit (Bool × Active) := do
  let rv ← Exit.run r.unassembled
  let activateSessionId :=
    if pkt = .activateSession then r.activateSessionId else w.ip.activateSessionId
  return (rv, { w with ip := { w.ip with rs := r, activateSessionId } })

/-- `_recv_packet`. -/
def recvPacket (cfg : Config) (w : Active) (pkt : PacketType) : Option Reply →
    Except Exit (Rv × Active)
  | none => .ok (.zero, w)
  | some r => do
    let (stored, w) ← packetStore w pkt r
    if !stored then ignore w
    else if pkt = .authenticationCapabilities ∨ pkt = .getSessionChallenge then
      recvUnauthenticated cfg w pkt r
    else if pkt = .activateSession then recvActivateSession cfg w r
    else if cfg.driverType = .lan ∧ pkt.sessionPacket then recvSession15 cfg w pkt r
    else if pkt.ipmi20Setup then recvSetup20 cfg w pkt r
    else recvSession20 cfg w pkt r

/-! ### Time -/

/-- The message of `_has_timed_out` in a state. -/
def timeoutMsg : ProtocolState → MsgType
  | .sent .authenticationCapabilities => .connectionTimeout
  | .sent .activateSession => .passwordVerificationTimeout
  | _ => .sessionTimeout

/-- `_has_timed_out`. -/
def hasTimedOut (cfg : Config) (w : Active) (timedOut : Bool) : Bool × Active :=
  if w.ip.protocolState = .start ∨ !timedOut then (false, w)
  else if w.ip.protocolState = .sent .closeSession then (true, w)
  else (true, w.output cfg (timeoutMsg w.ip.protocolState))

/-- `_retry_packets`. -/
def retryPackets (cfg : Config) (w : Active) (v : Visit) : Except Exit (Rv × Active) :=
  if w.ip.protocolState = .start ∨ !v.retransmit then .ok (.zero, w)
  else
    let w := { w with ip := { w.ip with retransmissionCount := w.ip.retransmissionCount + 1 } }
    match w.ip.protocolState with
    | .sent .closeSession =>
      -- pointless to resend
      .ok (.zero, { w with ip := { w.ip with closeTimeout := w.ip.closeTimeout + 1 } })
    | .sent .getSessionChallenge =>
      match v.socket with
      | none => .error .call
      | some false => .ok (.minusOne, w.output cfg .resources)
      | some true => .ok (.one, sendPacket cfg w .getSessionChallenge)
    | .sent pkt => .ok (.one, sendPacket cfg w pkt)
    | _ => .error .invalidState

/-! ### What a response leads to -/

/-- The rest of a visit: `_process_ipmi_packets` returns -1, or goes to the label `done`. -/
abbrev Rest := Except Exit (Bool × Active)

/-- `return (-1)`. -/
def completed (w : Active) : Rest := .ok (true, w)

/-- `_send_packet`, and on to `done`. -/
def sendAndWait (cfg : Config) (w : Active) (pkt : PacketType) : Rest :=
  .ok (false, sendPacket cfg w pkt)

/-- `ipmipower_output`, and the session is closed. -/
def reportAndClose (cfg : Config) (w : Active) (msg : MsgType) : Rest :=
  sendAndWait cfg (w.output cfg msg) .closeSession

/-- A check of the capabilities, and the message where it fails. -/
def demand (cfg : Config) (w : Active) (c : Option Bool) (msg : MsgType) (rest : Rest) : Rest := do
  if ← Exit.run c then rest else completed (w.output cfg msg)

/-- `_check_ipmi_1_5_authentication_capabilities`, and the next request. -/
def authenticationCapabilities15 (cfg : Config) (w : Active) : Rest := do
  let r := w.ip.rs
  let perMessageAuthentication ← Exit.get r.perMessageAuthentication
  let permsgauthEnabled :=
    cfg.workarounds.forcePermsgAuthentication ∨ perMessageAuthentication = 0
  let enabled := { w with ip := { w.ip with permsgauthEnabled } }
  if cfg.workarounds.authenticationCapabilities then
    sendAndWait cfg enabled .getSessionChallenge
  else
    demand cfg w r.capabilitiesUsername .usernameInvalid <|
    demand cfg w r.capabilitiesAuthenticationType .authenticationTypeUnavailable <|
    sendAndWait cfg enabled .getSessionChallenge

/-- `_check_ipmi_2_0_authentication_capabilities`, and the next request. -/
def authenticationCapabilities20 (cfg : Config) (w : Active) : Rest :=
  let r := w.ip.rs
  demand cfg w r.capabilitiesIpmi20 .ipmi20Unavailable <|
  if cfg.workarounds.authenticationCapabilities20 then sendAndWait cfg w .openSession
  else
    demand cfg w r.capabilitiesUsername .usernameInvalid <|
    demand cfg w r.capabilitiesKG .kGInvalid <|
    sendAndWait cfg w .openSession

/-- `_check_activate_session_authentication_type`, and the next request. -/
def activateSession (cfg : Config) (w : Active) : Rest := do
  let authenticationType ← Exit.get w.ip.rs.activateAuthenticationType
  if cfg.workarounds.forcePermsgAuthentication then
    sendAndWait cfg w .setSessionPrivilegeLevel
  else
    let permsgauthEnabled := w.ip.permsgauthEnabled ∨ authenticationType ≠ authenticationTypeNone
    let w := { w with ip := { w.ip with permsgauthEnabled } }
    if permsgauthEnabled ∧ authenticationType ≠ cfg.authenticationType then
      let w := w.output cfg .bmcError
      completed { w with ip := { w.ip with retransmissionCount := 0 } }
    else sendAndWait cfg w .setSessionPrivilegeLevel

/-- `_calculate_cipher_keys`, and the next request. -/
def rakpMessage2 (cfg : Config) (w : Active) : Rest := do
  let _ ← Exit.get w.ip.rs.managedSystemRandomNumber
  let _ ← Exit.run w.ip.rs.sessionKeys
  sendAndWait cfg w .rakpMessage3

/-- The first request of a session. -/
def setSessionPrivilegeLevel (cfg : Config) (w : Active) : Rest :=
  let cmd := w.ip.cmd
  match cfg.oemPowerType with
  | .none =>
    if cmd = .powerStatus ∨ cmd = .identifyStatus
        ∨ (cfg.onIfOff ∧ (cmd = .powerCycle ∨ cmd = .powerReset)) then
      sendAndWait cfg w .getChassisStatus
    else if cmd = .identifyOn ∨ cmd = .identifyOff then sendAndWait cfg w .chassisIdentify
    else sendAndWait cfg w .chassisControl
  | .c410x =>
    if cmd = .powerStatus ∨ cmd = .powerOff ∨ cmd = .powerOn then
      sendAndWait cfg w .c410xGetSensorReading
    else .error .assertion

/-- `wait_until_on`: the command is waiting for the power to be on. -/
def waitsUntilOn (cfg : Config) (ip : Powercmd) : Prop :=
  cfg.waitUntilOn ∧ ip.cmd = .powerOn ∧ ip.waitUntilOnState ≠ 0

/-- `wait_until_off`: the command is waiting for the power to be off. -/
def waitsUntilOff (cfg : Config) (ip : Powercmd) : Prop :=
  cfg.waitUntilOff ∧ ip.cmd = .powerOff ∧ ip.waitUntilOffState ≠ 0

instance (cfg : Config) (ip : Powercmd) : Decidable (waitsUntilOn cfg ip) :=
  inferInstanceAs (Decidable (_ ∧ _))

instance (cfg : Config) (ip : Powercmd) : Decidable (waitsUntilOff cfg ip) :=
  inferInstanceAs (Decidable (_ ∧ _))

/-- The wait for the power to be on or off ends, or goes on. -/
def awaitPower (cfg : Config) (w : Active) (reached : Bool) : Rest :=
  if reached then
    let w := w.output cfg .ok
    let ip := if w.ip.cmd = .powerOn then { w.ip with waitUntilOnState := 0 }
      else { w.ip with waitUntilOffState := 0 }
    sendAndWait cfg { w with ip } .closeSession
  else .ok (false, w)

/-- The report of `identify-status`. -/
def identifyStatus (cfg : Config) (w : Active) : Rest := do
  let supported ← Exit.get w.ip.rs.identifySupported
  if supported ≠ 0 then
    let state ← Exit.get w.ip.rs.identifyState
    reportAndClose cfg w (if state = 0 then .off else if state = 1 ∨ state = 2 then .on else .unknown)
  else reportAndClose cfg w .unknown

/-- The response to Get Chassis Status. -/
def getChassisStatus (cfg : Config) (w : Active) : Rest := do
  let power ← Exit.get w.ip.rs.powerIsOn
  let cmd := w.ip.cmd
  if waitsUntilOn cfg w.ip then awaitPower cfg w (power = 1)
  else if waitsUntilOff cfg w.ip then awaitPower cfg w (power = 0)
  else if cmd = .powerStatus then reportAndClose cfg w (if power = 1 then .on else .off)
  else if cfg.onIfOff ∧ (cmd = .powerCycle ∨ cmd = .powerReset) then
    -- with the power off it is now a power-on operation
    let ip := if power = 0 then { w.ip with cmd := .powerOn } else w.ip
    sendAndWait cfg { w with ip } .chassisControl
  else if cmd = .identifyStatus then identifyStatus cfg w
  else .error .invalidCommandState

/-- A power control was accepted: whether to wait for its effect, and with which request. -/
def controlled (cfg : Config) (w : Active) (status : PacketType) (rest : Rest) : Rest :=
  if cfg.waitUntilOn ∧ w.ip.cmd = .powerOn then
    let ip := { w.ip with waitUntilOnState := w.ip.waitUntilOnState + 1 }
    sendAndWait cfg { w with ip } status
  else if cfg.waitUntilOff ∧ w.ip.cmd = .powerOff then
    let ip := { w.ip with waitUntilOffState := w.ip.waitUntilOffState + 1 }
    sendAndWait cfg { w with ip } status
  else rest

/-- The label `finish_up`. -/
def finishUp (w : Active) : Rest := completed { w with ip := { w.ip with protocolState := .done } }

/-- The response to Chassis Control. -/
def chassisControl (cfg : Config) (w : Active) : Rest :=
  controlled cfg w .getChassisStatus <|
    -- no response to a close session can be expected after a reset
    if w.ip.cmd = .powerReset then finishUp (w.output cfg .ok) else reportAndClose cfg w .ok

/-- The response to Get Sensor Reading of a slot. -/
def c410xGetSensorReading (cfg : Config) (w : Active) : Rest := do
  let sensorReading ← Exit.get w.ip.rs.sensorReading
  let readingState ← Exit.get w.ip.rs.readingState
  let sensorScanning ← Exit.get w.ip.rs.sensorScanning
  let cmd := w.ip.cmd
  -- a reading of 1 can be an empty slot
  let slotPowerOn : Bool := sensorReading > 1
  if readingState = 1 ∨ sensorScanning = 0 then reportAndClose cfg w .bmcError
  else if waitsUntilOn cfg w.ip then awaitPower cfg w slotPowerOn
  else if waitsUntilOff cfg w.ip then awaitPower cfg w !slotPowerOn
  else if cmd = .powerStatus then reportAndClose cfg w (if slotPowerOn then .on else .off)
  else if cmd = .powerOn then
    if slotPowerOn then reportAndClose cfg w .ok else sendAndWait cfg w .c410xSlotPowerControl
  else if cmd = .powerOff then
    if !slotPowerOn then reportAndClose cfg w .ok else sendAndWait cfg w .c410xSlotPowerControl
  else .error .invalidCommandState

/-- What follows a good response. -/
def respond (cfg : Config) (w : Active) : PacketType → Rest
  | .authenticationCapabilities =>
    match cfg.driverType with
    | .lan20 => authenticationCapabilities20 cfg w
    | .lan => authenticationCapabilities15 cfg w
  | .getSessionChallenge => sendAndWait cfg w .activateSession
  | .activateSession => activateSession cfg w
  | .openSession => sendAndWait cfg w .rakpMessage1
  | .rakpMessage1 => rakpMessage2 cfg w
  | .rakpMessage3 => sendAndWait cfg w .setSessionPrivilegeLevel
  | .setSessionPrivilegeLevel => setSessionPrivilegeLevel cfg w
  | .getChassisStatus => getChassisStatus cfg w
  | .chassisControl => chassisControl cfg w
  | .chassisIdentify => reportAndClose cfg w .ok
  | .c410xGetSensorReading => c410xGetSensorReading cfg w
  | .c410xSlotPowerControl =>
    controlled cfg w .c410xGetSensorReading (reportAndClose cfg w .ok)
  | .closeSession => finishUp w

/-- A command that waits for a response. -/
def awaitResponse (cfg : Config) (w : Active) (pkt : PacketType) (v : Visit) : Rest :=
  if pkt = .closeSession ∧ w.ip.closeTimeout ≠ 0 then finishUp w
  else do
    let (rv, w) ← recvPacket cfg w pkt v.reply
    match rv with
    | .one => respond cfg w pkt
    | .zero => return (false, w)
    | .minusOne =>
      if pkt = .closeSession then finishUp w
      -- once there is a session it is closed
      else if pkt.sessionPacket then sendAndWait cfg w .closeSession
      else completed w

/-- What a visit leaves: whether the command is over, the command, and `executing_count`. -/
structure Visited where
  finished : Bool
  active : Active
  executingCount : ℤ

/-- `_process_ipmi_packets`. -/
def processIpmiPackets (cfg : Config) (executingCount : ℤ) (w : Active) (v : Visit) :
    Except Exit Visited :=
  match hasTimedOut cfg w v.timedOut with
  | (true, w) => .ok ⟨true, w, executingCount⟩
  | (false, w) => do
    match ← retryPackets cfg w v with
    | (.minusOne, w) => return ⟨true, w, executingCount⟩
    | (.one, w) => return ⟨false, w, executingCount⟩
    | (.zero, w) =>
      match w.ip.protocolState with
      | .start =>
        if cfg.fanout ≠ 0 ∧ executingCount ≥ cfg.fanout then return ⟨false, w, executingCount⟩
        else return ⟨false, sendPacket cfg w .authenticationCapabilities, executingCount + 1⟩
      | .sent pkt =>
        let (finished, w) ← awaitResponse cfg w pkt v
        return ⟨finished, w, executingCount⟩
      | .done => .error .invalidState

end FreeIpmi.Power
