import FreeIpmi.Lib.Calls
import FreeIpmi.Power.Powercmd

/-! What one visit can do to a power command.

    `Moved` lists the moves with everything they do to the state and the output of the command, and to
    `executing_count`; `visit_moved` says that there are no others. Only one of them
    closes a session without a message: a request that is refused over IPMI 2.0. -/

namespace FreeIpmi.Power
open Calls

variable {cfg : Config} {w : Active} {pkt : PacketType} {r : Reply} {p : Prop}

/-- What a command has output, and for whom. -/
structure Log where
  ic : ℕ
  extraArg : Option (List Byte)
  outputs : List Output

def Powercmd.log (ip : Powercmd) : Log := ⟨ip.ic, ip.extraArg, ip.outputs⟩

/-- One more message. -/
def Log.output (cfg : Config) (l : Log) (msg : MsgType) : Log :=
  { l with outputs := l.outputs ++ [⟨msg, cfg.hostname l.ic, l.extraArg⟩] }

@[simp] theorem output_log (cfg : Config) (w : Active) (msg : MsgType) :
    (w.output cfg msg).ip.log = w.ip.log.output cfg msg := rfl

@[simp] theorem output_protocolState (cfg : Config) (w : Active) (msg : MsgType) :
    (w.output cfg msg).ip.protocolState = w.ip.protocolState := rfl

@[simp] theorem sendPacket_log (cfg : Config) (w : Active) (pkt : PacketType) :
    (sendPacket cfg w pkt).ip.log = w.ip.log := rfl

@[simp] theorem sendPacket_protocolState (cfg : Config) (w : Active) (pkt : PacketType) :
    (sendPacket cfg w pkt).ip.protocolState = .sent pkt := rfl

/-! ### Packets -/

/-- Every value the call returns has `Q`. -/
abbrev Yields {α : Type} (x : Except Exit α) (Q : α → Prop) : Prop := Meets x Q fun _ => True

/-- `_recv_packet` outputs a message where it returns -1, or this happens `silently`; it outputs none
    otherwise. -/
structure Received (cfg : Config) (pkt : PacketType) (silently : Prop) (w : Active)
    (a : Rv × Active) : Prop where
  state : a.2.ip.protocolState = w.ip.protocolState
  closing : pkt = .closeSession → a.1 ≠ .minusOne
  quiet : a.1 ≠ .minusOne → a.2.ip.log = w.ip.log
  refused : a.1 = .minusOne →
    (∃ msg, a.2.ip.log = w.ip.log.output cfg msg) ∨ silently ∧ a.2.ip.log = w.ip.log

/-- `Received` is about the state and the output alone. -/
theorem Received.of_eq {w₀ : Active} {a : Rv × Active} (h : Received cfg pkt p w a)
    (hs : w.ip.protocolState = w₀.ip.protocolState) (hl : w.ip.log = w₀.ip.log) :
    Received cfg pkt p w₀ a where
  state := h.state.trans hs
  closing := h.closing
  quiet hne := (h.quiet hne).trans hl
  refused hm := hl ▸ h.refused hm

theorem yields_check {c : Except Exit Bool} {failed passed : Except Exit (Rv × Active)}
    {Q : Rv × Active → Prop} (hf : c = .ok false → Yields failed Q)
    (hp : c = .ok true → Yields passed Q) : Yields (check c failed passed) Q := by
  unfold check
  rcases c with e | b
  · exact .error trivial
  · cases b with
    | false => simpa using hf rfl
    | true => simpa using hp rfl

/-- A failed read ends the program. -/
theorem yields_get_bind {α β : Type} {x : Option α} {f : α → Except Exit β} {Q : β → Prop}
    (hf : ∀ a, x = some a → Yields (f a) Q) : Yields (Exit.get x >>= f) Q := by
  cases x with
  | none => exact .error trivial
  | some a => exact hf a rfl

theorem yields_run_bind {α β : Type} {x : Option α} {f : α → Except Exit β} {Q : β → Prop}
    (hf : ∀ a, x = some a → Yields (f a) Q) : Yields (Exit.run x >>= f) Q := by
  cases x with
  | none => exact .error trivial
  | some a => exact hf a rfl

theorem yields_ignore (w : Active) : Yields (ignore w) (Received cfg pkt p w) :=
  .ok ⟨rfl, fun _ => by simp, fun _ => rfl, by simp⟩

theorem yields_accept (w : Active) : Yields (accept w) (Received cfg pkt p w) :=
  .ok ⟨rfl, fun _ => by simp, fun _ => rfl, by simp⟩

theorem yields_refuse (hpkt : pkt ≠ .closeSession) :
    Yields (refuse cfg w pkt r) (Received cfg pkt p w) :=
  Meets.bind (R := fun _ => True) ⟨fun _ _ => trivial, fun _ _ => trivial⟩ fun msg _ =>
    .ok ⟨rfl, fun h => absurd h hpkt, fun h => absurd rfl h, fun _ => .inl ⟨msg, rfl⟩⟩

theorem yields_recvUnauthenticated (hpkt : pkt ≠ .closeSession) :
    Yields (recvUnauthenticated cfg w pkt r) (Received cfg pkt p w) := by
  refine yields_check (fun _ => yields_ignore w) fun _ => ?_
  refine yields_check (fun _ => yields_ignore w) fun _ => ?_
  refine yields_check (fun _ => yields_ignore w) fun _ => ?_
  refine yields_check (fun _ => yields_ignore w) fun _ => ?_
  refine yields_check (fun _ => yields_refuse hpkt) fun _ => ?_
  exact yields_check (fun _ => yields_ignore w) fun _ => yields_accept w

theorem yields_recvActivateSession :
    Yields (recvActivateSession cfg w r) (Received cfg .activateSession p w) := by
  refine yields_check (fun _ => yields_ignore w) fun _ => ?_
  refine yields_check (fun _ => yields_ignore w) fun _ => ?_
  refine yields_check (fun _ => yields_ignore w) fun _ => ?_
  refine yields_check (fun _ => yields_ignore w) fun _ => ?_
  refine yields_check (fun _ => yields_ignore w) fun _ => ?_
  refine yields_check (fun _ => yields_refuse (by decide)) fun _ => ?_
  refine yields_check (fun _ => yields_ignore w) fun _ => ?_
  exact yields_get_bind fun n _ => (yields_accept _).weaken fun a ha => ha.of_eq rfl rfl

/-- The check of the sequence number leaves everything but the window. -/
theorem checkOutboundSequenceNumber_eq {ip ip' : Powercmd} {rv : Bool}
    (h : checkOutboundSequenceNumber cfg ip r = .ok (rv, ip')) :
    ∃ n window, r.sessionSequenceNumber = some n
      ∧ Util.checkSessionSequenceNumber (readSequenceNumber cfg n) ip.window 0
        (cfg.driverType = .lan20) = .ok (rv, window)
      ∧ ip' = { ip with window } := by
  unfold checkOutboundSequenceNumber at h
  cases hn : r.sessionSequenceNumber with
  | none =>
    rw [hn] at h
    cases h
  | some n =>
    rw [hn] at h
    simp only [Exit.get, ok_bind] at h
    revert h
    split
    next rv' window hcheck =>
      intro h
      cases h
      exact ⟨n, window, rfl, hcheck, rfl⟩
    next =>
      intro h
      cases h

theorem yields_checkSequence {passed : Active → Except Exit (Rv × Active)}
    (hp : ∀ n window, r.sessionSequenceNumber = some n →
      Util.checkSessionSequenceNumber (readSequenceNumber cfg n) w.ip.window 0
        (cfg.driverType = .lan20) = .ok (true, window) →
      Yields (passed { w with ip := { w.ip with window } })
        (Received cfg pkt p { w with ip := { w.ip with window } })) :
    Yields (checkSequence cfg w r passed) (Received cfg pkt p w) := by
  unfold checkSequence
  rcases hcheck : checkOutboundSequenceNumber cfg w.ip r with e | ⟨rv, ip⟩
  · exact .error trivial
  · obtain ⟨n, window, hn, hwindow, rfl⟩ := checkOutboundSequenceNumber_eq hcheck
    rw [ok_bind]
    refine yields_check (fun _ => ?_) fun hrv => ?_
    · exact (yields_ignore _).weaken fun a ha => ha.of_eq rfl rfl
    · obtain rfl : rv = true := Except.ok.inj hrv
      exact (hp n window hn hwindow).weaken fun a ha => ha.of_eq rfl rfl

theorem yields_recvSession15 : Yields (recvSession15 cfg w pkt r) (Received cfg pkt p w) := by
  refine yields_check (fun _ => yields_ignore w) fun _ => ?_
  refine yields_check (fun _ => yields_ignore w) fun _ => ?_
  refine yields_checkSequence fun n window _ _ => ?_
  refine yields_check (fun _ => yields_ignore _) fun _ => ?_
  refine yields_check (fun _ => yields_ignore _) fun _ => ?_
  refine yields_check (fun _ => yields_ignore _) fun _ => ?_
  refine yields_check (fun _ => ?_) fun _ => ?_
  · exact .ite (fun _ => yields_accept _) fun _ => yields_ignore _
  refine yields_check (fun _ => ?_) fun _ => ?_
  · exact .ite (fun _ => yields_accept _) fun hpkt => yields_refuse hpkt
  exact yields_check (fun _ => yields_ignore _) fun _ => yields_accept _

theorem yields_recvSetup20 (hpkt : pkt ≠ .closeSession) :
    Yields (recvSetup20 cfg w pkt r) (Received cfg pkt p w) := by
  have hrest : Yields (check (checkPacket r) (ignore w) (accept w)) (Received cfg pkt p w) :=
    yields_check (fun _ => yields_ignore w) fun _ => yields_accept w
  have hwrong (msg : MsgType) :
      Yields (.ok (.minusOne, w.output cfg msg)) (Received cfg pkt p w) :=
    .ok ⟨rfl, fun h => absurd h hpkt, fun h => absurd rfl h, fun _ => .inl ⟨msg, rfl⟩⟩
  refine yields_check (fun _ => yields_ignore w) fun _ => ?_
  refine yields_check (fun _ => yields_ignore w) fun _ => ?_
  refine yields_check (fun _ => yields_refuse hpkt) fun _ => ?_
  refine yields_check (fun _ => yields_ignore w) fun _ => ?_
  unfold recvSetupContents
  split
  · exact yields_check (fun _ => hwrong _) fun _ => hrest
  · exact yields_check (fun _ => hwrong _) fun _ => hrest
  · exact yields_check (fun _ => hwrong _) fun _ => hrest
  · exact hrest

/-- A response in a session over IPMI 2.0 that passes every check up to its completion code, and
    says there that the request has failed. -/
structure RefusedIn20 (cfg : Config) (w : Active) (pkt : PacketType) (r : Reply) : Prop where
  driverType : cfg.driverType = .lan20
  sessionPacket : pkt.sessionPacket = true
  open_ : pkt ≠ .closeSession
  unassembled : r.unassembled = some true
  payloadType : checkPayloadType pkt r = .ok true
  payloadPad : r.payloadPad = some true
  integrityPad : r.integrityPad = some true
  checksum : checkChecksum cfg r = .ok true
  authenticationCode : checkAuthenticationCode cfg w.ip pkt r = .ok true
  sequenceNumber : ∃ n window, r.sessionSequenceNumber = some n
    ∧ Util.checkSessionSequenceNumber (readSequenceNumber cfg n) w.ip.window 0
      (cfg.driverType = .lan20) = .ok (true, window)
  sessionId : checkSessionId cfg w.ip pkt r = .ok true
  networkFunction : checkNetworkFunction pkt r = .ok true
  command : checkCommand pkt r = .ok true
  requesterSequenceNumber : checkRequesterSequenceNumber w.counter r = .ok true
  completionCode : checkCompletionCode r = .ok false

theorem run_eq_ok {α : Type} {x : Option α} {a : α} (h : Exit.run x = .ok a) : x = some a := by
  cases x with
  | none => cases h
  | some b =>
    cases h
    rfl

theorem yields_recvSession20 (hdriver : cfg.driverType = .lan20) (hpkt : pkt.sessionPacket = true)
    (hr : r.unassembled = some true) :
    Yields (recvSession20 cfg w pkt r) (Received cfg pkt (RefusedIn20 cfg w pkt r) w) := by
  refine yields_check (fun _ => yields_ignore w) fun hpayload => ?_
  refine yields_check (fun _ => yields_ignore w) fun hpad => ?_
  refine yields_check (fun _ => yields_ignore w) fun hintegrity => ?_
  refine yields_check (fun _ => yields_ignore w) fun hchecksum => ?_
  refine yields_check (fun _ => yields_ignore w) fun hauth => ?_
  refine yields_checkSequence fun n window hn hsequence => ?_
  refine yields_check (fun _ => yields_ignore _) fun hid => ?_
  refine yields_check (fun _ => yields_ignore _) fun hnetfn => ?_
  refine yields_check (fun _ => yields_ignore _) fun hcmd => ?_
  refine yields_check (fun _ => ?_) fun hseq => ?_
  · exact .ite (fun _ => yields_accept _) fun _ => yields_ignore _
  refine yields_check (fun hcode => ?_) fun _ => ?_
  · refine .ite (fun _ => yields_accept _) fun hopen => .ok ⟨rfl, fun h => absurd h hopen,
      fun h => absurd rfl h, fun _ => .inr ⟨?_, rfl⟩⟩
    exact ⟨hdriver, hpkt, hopen, hr, hpayload, run_eq_ok hpad, run_eq_ok hintegrity, hchecksum, hauth,
      ⟨n, window, hn, hsequence⟩, hid, hnetfn, hcmd, hseq, hcode⟩
  exact yields_check (fun _ => yields_ignore _) fun _ => yields_accept _

/-- A stored packet changes the objects alone. -/
theorem packetStore_eq {a : Bool × Active} (h : packetStore w pkt r = .ok a) :
    r.unassembled = some a.1 ∧ ∃ activateSessionId, a.2 = { w with ip := { w.ip with
      rs := r, activateSessionId } }
      ∧ (pkt ≠ .activateSession → activateSessionId = w.ip.activateSessionId) := by
  obtain ⟨rv, hrv, hrest⟩ := bind_eq_ok.mp h
  cases hrest
  exact ⟨run_eq_ok hrv, _, rfl, fun hpkt => if_neg hpkt⟩

theorem yields_recvPacket {reply : Option Reply} : Yields (recvPacket cfg w pkt reply)
    (Received cfg pkt (∃ r, reply = some r ∧ RefusedIn20 cfg w pkt r) w) := by
  cases reply with
  | none => exact yields_ignore w
  | some r =>
    refine Meets.bind (R := fun a => packetStore w pkt r = .ok a) ⟨fun _ ha => ha, fun _ _ => trivial⟩ ?_
    rintro ⟨stored, w'⟩ hstore
    obtain ⟨hr, activateSessionId, rfl, hsame⟩ := packetStore_eq hstore
    have hback {q : Prop} {x : Except Exit (Rv × Active)}
        (h : Yields x (Received cfg pkt q { w with ip := { w.ip with rs := r, activateSessionId } })) :
        Yields x (Received cfg pkt q w) := h.weaken fun a ha => ha.of_eq rfl rfl
    refine Meets.ite (fun _ => hback (yields_ignore _)) fun hstored => ?_
    refine Meets.ite (fun h => hback (yields_recvUnauthenticated ?_)) fun hpkt => ?_
    · rcases h with rfl | rfl <;> decide
    refine Meets.ite (fun h => hback (h ▸ yields_recvActivateSession)) fun hactivate => ?_
    refine Meets.ite (fun _ => hback yields_recvSession15) fun hdriver => ?_
    refine Meets.ite (fun h => hback (yields_recvSetup20 ?_)) fun hsetup => ?_
    · rintro rfl
      exact absurd h (by decide)
    obtain rfl := hsame hactivate
    obtain rfl : stored = true := by simpa using hstored
    have hsession : pkt.sessionPacket = true := by
      cases pkt <;> simp_all [PacketType.ipmi20Setup, PacketType.sessionPacket]
    have hdriver20 : cfg.driverType = .lan20 := by
      cases hd : cfg.driverType with
      | lan => exact absurd ⟨hd, hsession⟩ hdriver
      | lan20 => rfl
    refine (hback (yields_recvSession20 hdriver20 hsession hr)).weaken fun a ha =>
      { ha with refused := fun hm => (ha.refused hm).imp id fun ⟨h, hl⟩ => ⟨⟨r, rfl, ?_⟩, hl⟩ }
    exact ⟨h.driverType, h.sessionPacket, h.open_, h.unassembled, h.payloadType, h.payloadPad,
      h.integrityPad, h.checksum, h.authenticationCode, h.sequenceNumber, h.sessionId,
      h.networkFunction, h.command, h.requesterSequenceNumber, h.completionCode⟩

/-! ### Responses -/

/-- What a good response leads to: the next request or more of the same wait, the end of the session
    with a message, or the end of the command with one. -/
inductive Responded (cfg : Config) (l : Log) : Bool × Active → Prop where
  | next {w : Active} {pkt : PacketType} (hl : w.ip.log = l) (hs : w.ip.protocolState = .sent pkt)
      (hpkt : pkt ≠ .closeSession) : Responded cfg l (false, w)
  | closes {w : Active} (msg : MsgType) (hl : w.ip.log = l.output cfg msg)
      (hs : w.ip.protocolState = .sent .closeSession) : Responded cfg l (false, w)
  | ends {w : Active} (msg : MsgType) (hl : w.ip.log = l.output cfg msg) : Responded cfg l (true, w)

variable {l : Log}

theorem yields_sendAndWait (hl : w.ip.log = l) (hpkt : pkt ≠ .closeSession) :
    Yields (sendAndWait cfg w pkt) (Responded cfg l) :=
  .ok (.next hl rfl hpkt)

theorem yields_reportAndClose (hl : w.ip.log = l) (msg : MsgType) :
    Yields (reportAndClose cfg w msg) (Responded cfg l) :=
  .ok (.closes msg (hl ▸ rfl) rfl)

theorem yields_demand {c : Option Bool} {msg : MsgType} {rest : Rest} (hl : w.ip.log = l)
    (hrest : Yields rest (Responded cfg l)) : Yields (demand cfg w c msg rest) (Responded cfg l) := by
  refine yields_run_bind fun b _ => ?_
  cases b with
  | false => exact .ok (.ends msg (hl ▸ rfl))
  | true => exact hrest

theorem yields_authenticationCapabilities15 :
    Yields (authenticationCapabilities15 cfg w) (Responded cfg w.ip.log) := by
  refine yields_get_bind fun n _ => .ite (fun _ => ?_) fun _ => ?_
  · exact yields_sendAndWait rfl (by decide)
  · exact yields_demand rfl <| yields_demand rfl <| yields_sendAndWait rfl (by decide)

theorem yields_authenticationCapabilities20 :
    Yields (authenticationCapabilities20 cfg w) (Responded cfg w.ip.log) := by
  refine yields_demand rfl <| .ite (fun _ => ?_) fun _ => ?_
  · exact yields_sendAndWait rfl (by decide)
  · exact yields_demand rfl <| yields_demand rfl <| yields_sendAndWait rfl (by decide)

theorem yields_activateSession : Yields (activateSession cfg w) (Responded cfg w.ip.log) := by
  refine yields_get_bind fun n _ => .ite (fun _ => ?_) fun _ => .ite (fun _ => ?_) fun _ => ?_
  · exact yields_sendAndWait rfl (by decide)
  · exact .ok (.ends .bmcError rfl)
  · exact yields_sendAndWait rfl (by decide)

theorem yields_rakpMessage2 : Yields (rakpMessage2 cfg w) (Responded cfg w.ip.log) :=
  yields_get_bind fun _ _ => yields_run_bind fun _ _ => yields_sendAndWait rfl (by decide)

theorem yields_setSessionPrivilegeLevel :
    Yields (setSessionPrivilegeLevel cfg w) (Responded cfg w.ip.log) := by
  unfold setSessionPrivilegeLevel
  cases cfg.oemPowerType with
  | none =>
    refine .ite (fun _ => ?_) fun _ => .ite (fun _ => ?_) fun _ => ?_
    · exact yields_sendAndWait rfl (by decide)
    · exact yields_sendAndWait rfl (by decide)
    · exact yields_sendAndWait rfl (by decide)
  | c410x => exact .ite (fun _ => yields_sendAndWait rfl (by decide)) fun _ => .error trivial

theorem yields_awaitPower {reached : Bool} (hs : w.ip.protocolState = .sent pkt)
    (hpkt : pkt ≠ .closeSession) : Yields (awaitPower cfg w reached) (Responded cfg w.ip.log) := by
  refine .ite (fun _ => ?_) fun _ => .ok (.next rfl hs hpkt)
  dsimp only
  split
  · exact .ok (.closes .ok rfl rfl)
  · exact .ok (.closes .ok rfl rfl)

theorem yields_identifyStatus : Yields (identifyStatus cfg w) (Responded cfg w.ip.log) := by
  refine yields_get_bind fun _ _ => .ite (fun _ => ?_) fun _ => yields_reportAndClose rfl .unknown
  exact yields_get_bind fun _ _ => yields_reportAndClose rfl _

theorem yields_getChassisStatus (hs : w.ip.protocolState = .sent .getChassisStatus) :
    Yields (getChassisStatus cfg w) (Responded cfg w.ip.log) := by
  refine yields_get_bind fun power _ => ?_
  refine .ite (fun _ => yields_awaitPower hs (by decide)) fun _ => ?_
  refine .ite (fun _ => yields_awaitPower hs (by decide)) fun _ => ?_
  refine .ite (fun _ => yields_reportAndClose rfl _) fun _ => ?_
  refine .ite (fun _ => yields_sendAndWait ?_ (by decide)) fun _ => ?_
  · split
    · rfl
    · rfl
  exact .ite (fun _ => yields_identifyStatus) fun _ => .error trivial

theorem yields_controlled {status : PacketType} {rest : Rest} (hstatus : status ≠ .closeSession)
    (hrest : Yields rest (Responded cfg w.ip.log)) :
    Yields (controlled cfg w status rest) (Responded cfg w.ip.log) := by
  refine .ite (fun _ => yields_sendAndWait rfl hstatus) fun _ => ?_
  exact .ite (fun _ => yields_sendAndWait rfl hstatus) fun _ => hrest

theorem yields_chassisControl : Yields (chassisControl cfg w) (Responded cfg w.ip.log) := by
  refine yields_controlled (by decide) <| .ite (fun _ => ?_) fun _ => ?_
  · exact .ok (.ends .ok rfl)
  · exact yields_reportAndClose rfl .ok

theorem yields_c410xGetSensorReading (hs : w.ip.protocolState = .sent .c410xGetSensorReading) :
    Yields (c410xGetSensorReading cfg w) (Responded cfg w.ip.log) := by
  have hslot : Yields (sendAndWait cfg w .c410xSlotPowerControl) (Responded cfg w.ip.log) :=
    yields_sendAndWait rfl (by decide)
  have hreport (msg : MsgType) : Yields (reportAndClose cfg w msg) (Responded cfg w.ip.log) :=
    yields_reportAndClose rfl msg
  refine yields_get_bind fun _ _ => yields_get_bind fun _ _ => yields_get_bind fun _ _ => ?_
  refine .ite (fun _ => hreport _) fun _ => ?_
  refine .ite (fun _ => yields_awaitPower hs (by decide)) fun _ => ?_
  refine .ite (fun _ => yields_awaitPower hs (by decide)) fun _ => ?_
  refine .ite (fun _ => hreport _) fun _ => ?_
  refine .ite (fun _ => .ite (fun _ => hreport _) fun _ => hslot) fun _ => ?_
  exact .ite (fun _ => .ite (fun _ => hreport _) fun _ => hslot) fun _ => .error trivial

theorem yields_respond (hs : w.ip.protocolState = .sent pkt) (hpkt : pkt ≠ .closeSession) :
    Yields (respond cfg w pkt) (Responded cfg w.ip.log) := by
  cases pkt with
  | authenticationCapabilities =>
    unfold respond
    cases cfg.driverType with
    | lan => exact yields_authenticationCapabilities15
    | lan20 => exact yields_authenticationCapabilities20
  | getSessionChallenge => exact yields_sendAndWait rfl (by decide)
  | activateSession => exact yields_activateSession
  | openSession => exact yields_sendAndWait rfl (by decide)
  | rakpMessage1 => exact yields_rakpMessage2
  | rakpMessage3 => exact yields_sendAndWait rfl (by decide)
  | setSessionPrivilegeLevel => exact yields_setSessionPrivilegeLevel
  | getChassisStatus => exact yields_getChassisStatus hs
  | chassisControl => exact yields_chassisControl
  | chassisIdentify => exact yields_reportAndClose rfl .ok
  | c410xGetSensorReading => exact yields_c410xGetSensorReading hs
  | c410xSlotPowerControl =>
    exact yields_controlled (by decide) (yields_reportAndClose rfl .ok)
  | closeSession => exact absurd rfl hpkt

/-- What the wait for a response leads to. -/
inductive Awaited (cfg : Config) (w : Active) (pkt : PacketType) (v : Visit) : Bool × Active → Prop where
  | responded {a : Bool × Active} (hpkt : pkt ≠ .closeSession) (h : Responded cfg w.ip.log a) :
      Awaited cfg w pkt v a
  | silent {w' : Active} (h : ∃ r, v.reply = some r ∧ RefusedIn20 cfg w pkt r)
      (hl : w'.ip.log = w.ip.log) (hs : w'.ip.protocolState = .sent .closeSession) :
      Awaited cfg w pkt v (false, w')
  | closing {w' : Active} (hpkt : pkt = .closeSession) (hl : w'.ip.log = w.ip.log)
      (hs : w'.ip.protocolState = .sent .closeSession) : Awaited cfg w pkt v (false, w')
  | closed {w' : Active} (hpkt : pkt = .closeSession) (hl : w'.ip.log = w.ip.log) :
      Awaited cfg w pkt v (true, w')

theorem yields_awaitResponse {v : Visit} (hstate : w.ip.protocolState = .sent pkt) :
    Yields (awaitResponse cfg w pkt v) (Awaited cfg w pkt v) := by
  refine .ite (fun h => .ok (.closed h.1 rfl)) fun _ => yields_recvPacket.bind ?_
  rintro ⟨rv, w'⟩ ha
  have hsent : w'.ip.protocolState = .sent pkt := ha.state.trans hstate
  by_cases hpkt : pkt = .closeSession
  · have hl : w'.ip.log = w.ip.log := ha.quiet (ha.closing hpkt)
    cases rv with
    | one =>
      subst hpkt
      exact .ok (.closed rfl hl)
    | zero => exact .ok (.closing hpkt hl (hpkt ▸ hsent))
    | minusOne => exact absurd rfl (ha.closing hpkt)
  · cases rv with
    | one =>
      have hl : w'.ip.log = w.ip.log := ha.quiet (by simp)
      exact (hl ▸ yields_respond hsent hpkt).weaken fun a h => .responded hpkt h
    | zero => exact .ok (.responded hpkt (.next (ha.quiet (by simp)) hsent hpkt))
    | minusOne =>
      refine .ite (fun h => absurd h hpkt) fun _ => ?_
      rcases ha.refused rfl with ⟨msg, hl⟩ | ⟨hsilent, hl⟩
      · refine .ite (fun _ => ?_) fun _ => ?_
        · exact .ok (.responded hpkt (.closes msg hl rfl))
        · exact .ok (.responded hpkt (.ends msg hl))
      · obtain ⟨r, hr, hrefused⟩ := hsilent
        refine .ite (fun _ => .ok (.silent ⟨r, hr, hrefused⟩ hl rfl)) fun h => ?_
        exact absurd hrefused.sessionPacket h

/-! ### Visits -/

/-- What `_retry_packets` can do. -/
inductive Retried (cfg : Config) (w : Active) (v : Visit) : Rv × Active → Prop where
  | quiet (h : w.ip.protocolState ≠ .start → v.retransmit = false) : Retried cfg w v (.zero, w)
  | closing {w' : Active} (hs : w.ip.protocolState = .sent .closeSession)
      (hs' : w'.ip.protocolState = .sent .closeSession) (hl : w'.ip.log = w.ip.log) :
      Retried cfg w v (.zero, w')
  | resent {pkt : PacketType} {w' : Active} (hs : w.ip.protocolState = .sent pkt)
      (hpkt : pkt ≠ .closeSession) (hl : w'.ip.log = w.ip.log) :
      Retried cfg w v (.one, sendPacket cfg w' pkt)
  | failed {w' : Active} {msg : MsgType} (hs : w.ip.protocolState = .sent .getSessionChallenge)
      (hl : w'.ip.log = w.ip.log.output cfg msg) : Retried cfg w v (.minusOne, w')

theorem yields_retryPackets (v : Visit) : Yields (retryPackets cfg w v) (Retried cfg w v) := by
  refine .ite (fun h => .ok (.quiet fun hs => ?_)) fun _ => ?_
  · simpa [hs] using h
  dsimp only
  cases hs : w.ip.protocolState with
  | start => exact .error trivial
  | done => exact .error trivial
  | sent pkt =>
    by_cases hclose : pkt = .closeSession
    · subst hclose
      exact .ok (.closing hs rfl rfl)
    by_cases hchallenge : pkt = .getSessionChallenge
    · subst hchallenge
      rcases v.socket with - | b
      · exact .error trivial
      · cases b with
        | false => exact .ok (.failed hs rfl)
        | true => exact .ok (.resent hs (by decide) rfl)
    · have hresent : Retried cfg w v (.one, sendPacket cfg { w with ip := { w.ip with
          retransmissionCount := w.ip.retransmissionCount + 1 } } pkt) := .resent hs hclose rfl
      cases pkt <;> first | exact .ok hresent | exact absurd rfl hclose | exact absurd rfl hchallenge

theorem hasTimedOut_true {b : Bool} {w' : Active} (h : hasTimedOut cfg w b = (true, w')) :
    w.ip.protocolState ≠ .start ∧ (w.ip.protocolState = .sent .closeSession ∧ w'.ip.log = w.ip.log
      ∨ w.ip.protocolState ≠ .sent .closeSession ∧ ∃ msg, w'.ip.log = w.ip.log.output cfg msg) := by
  unfold hasTimedOut at h
  split at h
  next => simp at h
  next hc =>
    refine ⟨fun hs => hc (.inl hs), ?_⟩
    split at h
    next hclose =>
      obtain rfl := (Prod.mk.inj h).2
      exact .inl ⟨hclose, rfl⟩
    next hopen =>
      obtain rfl := (Prod.mk.inj h).2
      exact .inr ⟨hopen, _, rfl⟩

/-- A command that does not time out is not changed. -/
theorem hasTimedOut_false {b : Bool} {w' : Active} (h : hasTimedOut cfg w b = (false, w')) :
    w' = w ∧ (w.ip.protocolState ≠ .start → b = false) := by
  unfold hasTimedOut at h
  split at h
  next hc => exact ⟨(Prod.mk.inj h).2.symm, fun hs => by simpa [hs] using hc⟩
  next => split at h <;> simp at h

/-- A visit in which a request is refused and nothing is output. -/
def RefusedSilently (cfg : Config) (w : Active) (v : Visit) : Prop :=
  v.timedOut = false ∧ v.retransmit = false ∧ ∃ pkt r,
    w.ip.protocolState = .sent pkt ∧ v.reply = some r ∧ RefusedIn20 cfg w pkt r

/-- What a visit does to the command and to `executing_count`. -/
inductive Moved (cfg : Config) (count : ℤ) (w : Active) (v : Visit) : Visited → Prop where
  -- too many commands are executing
  | waits (hs : w.ip.protocolState = .start) : Moved cfg count w v ⟨false, w, count⟩
  | starts {w' : Active} {pkt : PacketType} (hs : w.ip.protocolState = .start)
      (hlimit : cfg.fanout ≠ 0 → count < cfg.fanout) (hl : w'.ip.log = w.ip.log)
      (hs' : w'.ip.protocolState = .sent pkt) (hpkt : pkt ≠ .closeSession) :
      Moved cfg count w v ⟨false, w', count + 1⟩
  | goesOn {w' : Active} {pkt pkt' : PacketType} (hs : w.ip.protocolState = .sent pkt)
      (hs' : w'.ip.protocolState = .sent pkt') (hl : w'.ip.log = w.ip.log)
      (hpkt : pkt = .closeSession ↔ pkt' = .closeSession) : Moved cfg count w v ⟨false, w', count⟩
  | closes {w' : Active} {pkt : PacketType} {msg : MsgType} (hs : w.ip.protocolState = .sent pkt)
      (hpkt : pkt ≠ .closeSession) (hs' : w'.ip.protocolState = .sent .closeSession)
      (hl : w'.ip.log = w.ip.log.output cfg msg) : Moved cfg count w v ⟨false, w', count⟩
  | silent {w' : Active} {pkt : PacketType} (hs : w.ip.protocolState = .sent pkt)
      (h : RefusedSilently cfg w v) (hs' : w'.ip.protocolState = .sent .closeSession)
      (hl : w'.ip.log = w.ip.log) : Moved cfg count w v ⟨false, w', count⟩
  | ends {w' : Active} {msg : MsgType} (hs : w.ip.protocolState ≠ .start)
      (hs' : w.ip.protocolState ≠ .sent .closeSession) (hl : w'.ip.log = w.ip.log.output cfg msg) :
      Moved cfg count w v ⟨true, w', count⟩
  | closed {w' : Active} (hs : w.ip.protocolState = .sent .closeSession)
      (hl : w'.ip.log = w.ip.log) : Moved cfg count w v ⟨true, w', count⟩

theorem visit_moved (cfg : Config) (count : ℤ) (w : Active) (v : Visit) :
    Yields (processIpmiPackets cfg count w v) (Moved cfg count w v) := by
  unfold processIpmiPackets
  rcases htime : hasTimedOut cfg w v.timedOut with ⟨- | _, w'⟩
  · obtain ⟨rfl, htimedOut⟩ := hasTimedOut_false htime
    refine (yields_retryPackets v).bind ?_
    rintro ⟨rv, w₁⟩ hretried
    cases hretried with
    | failed hs hl => exact .ok (.ends (by simp [hs]) (by simp [hs]) hl)
    | resent hs hpkt hl => exact .ok (.goesOn hs rfl hl Iff.rfl)
    | closing hs hs' hl =>
      simp only [hs']
      refine (yields_awaitResponse hs').bind ?_
      rintro a (⟨hpkt, -⟩ | ⟨⟨r, -, hr⟩, -, -⟩ | ⟨-, hl', hs''⟩ | ⟨-, hl'⟩)
      · exact absurd rfl hpkt
      · exact absurd rfl hr.open_
      · exact .ok (.goesOn hs hs'' (hl'.trans hl) Iff.rfl)
      · exact .ok (.closed hs (hl'.trans hl))
    | quiet hquiet =>
      cases hs : w'.ip.protocolState with
      | start =>
        simp only [hs]
        refine .ite (fun _ => .ok (.waits hs)) fun hfanout => ?_
        refine .ok (.starts hs (fun h => ?_) rfl rfl (by decide))
        exact lt_of_not_ge fun hge => hfanout ⟨h, hge⟩
      | done =>
        simp only [hs]
        exact .error trivial
      | sent pkt =>
        simp only [hs]
        refine (yields_awaitResponse hs).bind ?_
        rintro a (⟨hpkt, ha⟩ | ⟨⟨r, hr, hrefused⟩, hl, hs'⟩ | ⟨rfl, hl, hs'⟩ | ⟨rfl, hl⟩)
        · rcases ha with ⟨hl, hs', hpkt'⟩ | ⟨msg, hl, hs'⟩ | ⟨msg, hl⟩
          · exact .ok (.goesOn hs hs' hl (by simp [hpkt, hpkt']))
          · exact .ok (.closes hs hpkt hs' hl)
          · exact .ok (.ends (by simp [hs]) (by simpa [hs] using hpkt) hl)
        · have hstart : w'.ip.protocolState ≠ .start := by simp [hs]
          exact .ok (.silent hs ⟨htimedOut hstart, hquiet hstart, pkt, r, hs, hr, hrefused⟩ hs' hl)
        · exact .ok (.goesOn hs hs' hl Iff.rfl)
        · exact .ok (.closed hs hl)
  · obtain ⟨hstart, ⟨hclose, hl⟩ | ⟨hopen, msg, hl⟩⟩ := hasTimedOut_true htime
    · exact .ok (.closed hclose hl)
    · exact .ok (.ends hstart hopen hl)

end FreeIpmi.Power
