import FreeIpmi.Console.Frame

/-! The moves of the state machine.

    Whatever the handlers do in a call of `_process_ctx`, to the protocol state, the flags, the keys and
    the instances it amounts to a few moves. A move says when it is made and what it changes; what holds
    in every run is then a matter of the moves. -/

namespace FreeIpmi.Console
open Fiid Lan Rmcpplus Util Calls Stages

/-! ### Protocol states -/

/-- The keys have not been calculated. -/
def ProtocolState.beforeKeys : ProtocolState → Bool
  | .start => true
  | .getAuthenticationCapabilitiesSent => true
  | .openSessionRequestSent => true
  | .rakpMessage1Sent => true
  | _ => false

/-- A session is up, and is not being closed. -/
def ProtocolState.inSession : ProtocolState → Bool
  | .setSessionPrivilegeLevelSent => true
  | .getChannelPayloadSupportSent => true
  | .getPayloadActivationStatusSent => true
  | .activatePayloadSent => true
  | .solSession => true
  | .deactivatePayloadSent => true
  | _ => false

/-- A payload or the session is being given up. -/
def ProtocolState.deactivating : ProtocolState → Bool
  | .deactivatePayloadSent => true
  | .closeSessionSent => true
  | .stateEnd => true
  | _ => false

/-- The states in which `_close_session` leaves the closing to the state machine. -/
def ProtocolState.closedLater : ProtocolState → Bool
  | .rakpMessage3Sent => true
  | .activatePayloadSent => true
  | .deactivatePayloadSent => true
  | .closeSessionSent => true
  | .stateEnd => true
  | _ => false

/-- The packets that a state accepts. -/
def ProtocolState.Awaits (state : ProtocolState) (p : PacketType) : Prop :=
  setupPacketType state = some p ∨ ipmiPacketType state = some p
    ∨ (state = .solSession ∧ p = .solPayloadDataRs)
    ∨ (state = .getAuthenticationCapabilitiesSent ∧ p = .getAuthenticationCapabilitiesRs)

theorem rmcpplusPacketType_awaits {payloadType : Byte} {state : ProtocolState} {p : PacketType}
    (h : rmcpplusPacketType payloadType state = some p) : state.Awaits p := by
  unfold rmcpplusPacketType at h
  split at h
  · exact Or.inl h
  · split at h
    · exact Or.inr (Or.inl h)
    · split at h
      · by_cases hs : state = .solSession
        · rw [if_pos hs] at h
          cases h
          exact Or.inr (Or.inr (Or.inl ⟨hs, rfl⟩))
        · rw [if_neg hs] at h
          cases h
      · cases h

/-- A packet is taken for one that the state accepts. -/
theorem packetTypeOf_awaits {pkt : List Byte} {beyond : Byte} {state : ProtocolState} {p : PacketType}
    (h : packetTypeOf pkt beyond state = some p) : state.Awaits p := by
  unfold packetTypeOf at h
  split at h
  · cases h
  · by_cases hs : state = .getAuthenticationCapabilitiesSent
    · rw [if_pos hs] at h
      cases h
      exact Or.inr (Or.inr (Or.inr ⟨hs, rfl⟩))
    · rw [if_neg hs] at h
      cases h
  · split at h
    · cases h
    · exact rmcpplusPacketType_awaits h

/-! ### What is kept -/

/-- The state is entered to activate the payload. -/
def LogEntry.isActivation : LogEntry → Bool
  | .entered .activatePayloadSent => true
  | _ => false

/-- How often the state ACTIVATE_PAYLOAD_SENT has been entered in this session. -/
def Ctx.activations (c : Ctx) : ℕ := c.log.countP LogEntry.isActivation

/-- What a session keeps whichever way it goes. -/
structure Kept (c c' : Ctx) : Prop where
  config : c'.config = c.config
  nameOnlyLookup : c'.nameOnlyLookup = c.nameOnlyLookup
  remoteConsoleSessionId : c'.remoteConsoleSessionId = c.remoteConsoleSessionId
  remoteConsoleRandomNumber : c'.remoteConsoleRandomNumber = c.remoteConsoleRandomNumber
  keys : c'.keys = c.keys
  closeSessionFlag : c.machine.closeSessionFlag ≤ c'.machine.closeSessionFlag
  tryNewPortFlag : c'.machine.tryNewPortFlag = c.machine.tryNewPortFlag
  consolePort : c'.machine.consolePort = c.machine.consolePort
  closeTimeoutFlag : c'.machine.closeTimeoutFlag = c.machine.closeTimeoutFlag
  log : c.log <+: c'.log

/-- The session goes to a protocol state. -/
structure Turn (s : ProtocolState) (c c' : Ctx) : Prop extends Kept c c' where
  protocolState : c'.protocolState = s
  activations : c'.activations = c.activations + if s = .activatePayloadSent then 1 else 0

/-- The deactivate flags, the instances and the count of attempts are kept. -/
structure SamePayload (c c' : Ctx) : Prop where
  deactivatePayloadInstances :
    c'.machine.deactivatePayloadInstances = c.machine.deactivatePayloadInstances
  deactivatePayloadInstancesAndTryAgainFlag :
    c'.machine.deactivatePayloadInstancesAndTryAgainFlag
      = c.machine.deactivatePayloadInstancesAndTryAgainFlag
  instances : c'.instances = c.instances
  activatePayloadsCount : c'.counts.activatePayloadsCount = c.counts.activatePayloadsCount

/-- A request was sent. -/
structure SentBy (p : RequestType) (c c' : Ctx) : Prop where
  config : c'.config = c.config
  machine : c'.machine = c.machine
  nameOnlyLookup : c'.nameOnlyLookup = c.nameOnlyLookup
  remoteConsoleSessionId : c'.remoteConsoleSessionId = c.remoteConsoleSessionId
  remoteConsoleRandomNumber : c'.remoteConsoleRandomNumber = c.remoteConsoleRandomNumber
  keys : c'.keys = c.keys
  instances : c'.instances = c.instances
  activatePayloadsCount : c'.counts.activatePayloadsCount = c.counts.activatePayloadsCount
  log : c'.log = c.log ++ [.sent p c'.messageTag]
  packetObject : ∀ q, c'.packetObject q = c.packetObject q

variable {c c₁ c' : Ctx} {s : ProtocolState} {p : RequestType} {now : ℕ} {E : Halt → Prop}

theorem Kept.refl (c : Ctx) : Kept c c :=
  ⟨rfl, rfl, rfl, rfl, rfl, le_refl _, rfl, rfl, rfl, List.prefix_refl _⟩

theorem Kept.trans (h : Kept c c₁) (h' : Kept c₁ c') : Kept c c' where
  config := h'.config.trans h.config
  nameOnlyLookup := h'.nameOnlyLookup.trans h.nameOnlyLookup
  remoteConsoleSessionId := h'.remoteConsoleSessionId.trans h.remoteConsoleSessionId
  remoteConsoleRandomNumber := h'.remoteConsoleRandomNumber.trans h.remoteConsoleRandomNumber
  keys := h'.keys.trans h.keys
  closeSessionFlag := h.closeSessionFlag.trans h'.closeSessionFlag
  tryNewPortFlag := h'.tryNewPortFlag.trans h.tryNewPortFlag
  consolePort := h'.consolePort.trans h.consolePort
  closeTimeoutFlag := h'.closeTimeoutFlag.trans h.closeTimeoutFlag
  log := h.log.trans h'.log

theorem SamePayload.refl (c : Ctx) : SamePayload c c := ⟨rfl, rfl, rfl, rfl⟩

theorem SamePayload.trans (h : SamePayload c c₁) (h' : SamePayload c₁ c') : SamePayload c c' where
  deactivatePayloadInstances := h'.deactivatePayloadInstances.trans h.deactivatePayloadInstances
  deactivatePayloadInstancesAndTryAgainFlag :=
    h'.deactivatePayloadInstancesAndTryAgainFlag.trans h.deactivatePayloadInstancesAndTryAgainFlag
  instances := h'.instances.trans h.instances
  activatePayloadsCount := h'.activatePayloadsCount.trans h.activatePayloadsCount

/-- What is kept before a turn is kept by the whole of it. -/
theorem Turn.of_kept (hk : Kept c c₁) (ha : c₁.log = c.log) (h : Turn s c₁ c') : Turn s c c' where
  toKept := hk.trans h.toKept
  protocolState := h.protocolState
  activations := by
    have hc : c₁.activations = c.activations := congrArg (List.countP LogEntry.isActivation) ha
    rw [h.activations, hc]

theorem SameSession.kept {q : Option PacketType} (h : SameSession q c c') : Kept c c' where
  config := h.config
  nameOnlyLookup := h.nameOnlyLookup
  remoteConsoleSessionId := h.remoteConsoleSessionId
  remoteConsoleRandomNumber := h.remoteConsoleRandomNumber
  keys := h.keys
  closeSessionFlag := by rw [h.machine]
  tryNewPortFlag := by rw [h.machine]
  consolePort := by rw [h.machine]
  closeTimeoutFlag := by rw [h.machine]
  log := by rw [h.log]

theorem SameSession.samePayload {q : Option PacketType} (h : SameSession q c c') : SamePayload c c' where
  deactivatePayloadInstances := by rw [h.machine]
  deactivatePayloadInstancesAndTryAgainFlag := by rw [h.machine]
  instances := h.instances
  activatePayloadsCount := h.activatePayloadsCount

theorem SameSession.instanceInRange {q : Option PacketType} (h : SameSession q c c')
    (hc : c.InstanceInRange) : c'.InstanceInRange := by
  rw [Ctx.InstanceInRange, h.machine, h.instances]
  exact hc

theorem kept_setCloseSessionFlag (c : Ctx) : Kept c c.setCloseSessionFlag :=
  { Kept.refl c with closeSessionFlag := Nat.le_succ _ }

theorem kept_setDeactivateOnlySucceededFlag (c : Ctx) : Kept c c.setDeactivateOnlySucceededFlag :=
  { Kept.refl c with }

theorem SentBy.protocolState (h : SentBy p c c') : c'.protocolState = c.protocolState :=
  congrArg StateMachine.protocolState h.machine

theorem SentBy.kept (h : SentBy p c c') : Kept c c' where
  config := h.config
  nameOnlyLookup := h.nameOnlyLookup
  remoteConsoleSessionId := h.remoteConsoleSessionId
  remoteConsoleRandomNumber := h.remoteConsoleRandomNumber
  keys := h.keys
  closeSessionFlag := by rw [h.machine]
  tryNewPortFlag := by rw [h.machine]
  consolePort := by rw [h.machine]
  closeTimeoutFlag := by rw [h.machine]
  log := ⟨_, h.log.symm⟩

theorem SentBy.samePayload (h : SentBy p c c') : SamePayload c c' where
  deactivatePayloadInstances := by rw [h.machine]
  deactivatePayloadInstancesAndTryAgainFlag := by rw [h.machine]
  instances := h.instances
  activatePayloadsCount := h.activatePayloadsCount

theorem SentBy.activations (h : SentBy p c c') : c'.activations = c.activations := by
  simp [Ctx.activations, h.log, LogEntry.isActivation]

theorem activations_moveTo (s : ProtocolState) (c : Ctx) :
    (c.moveTo s).activations = c.activations + if s = .activatePayloadSent then 1 else 0 := by
  cases s <;> simp [Ctx.activations, Ctx.moveTo, LogEntry.isActivation]

theorem kept_moveTo (s : ProtocolState) (c : Ctx) : Kept c (c.moveTo s) :=
  { Kept.refl c with log := List.prefix_append _ _ }

/-- The state is entered after the request was sent. -/
theorem SentBy.turn (h : SentBy p c c') (s : ProtocolState) : Turn s c (c'.moveTo s) where
  toKept := h.kept.trans (kept_moveTo s c')
  protocolState := rfl
  activations := by rw [activations_moveTo, h.activations]

theorem SentBy.samePayload_moveTo (h : SentBy p c c') (s : ProtocolState) :
    SamePayload c (c'.moveTo s) :=
  { h.samePayload with }

/-! ### Requests -/

/-- The reasons to stop that are not a failure of the state machine itself. -/
def Halt.Proper (h : Halt) : Prop := h = .quit ∨ h = .library

theorem proper_quit : Halt.quit.Proper := Or.inl rfl

theorem proper_library : Halt.library.Proper := Or.inr rfl

theorem protocolAssert_meets {a : Prop} [Decidable a] (ha : a) :
    Meets (protocolAssert a) (fun _ => a) Halt.Proper :=
  Meets.ite (fun _ => Meets.ok ha) fun hn => absurd ha hn

/-- What the assembling of a request relies on. -/
structure Assembles (p : RequestType) (c : Ctx) : Prop where
  keepalive : p = .getChannelPayloadVersionRq → c.protocolState = .solSession
  instances : p = .deactivatePayloadRq → c.InstanceInRange

theorem assembles_of_ne (h : p ≠ .getChannelPayloadVersionRq) (h' : p ≠ .deactivatePayloadRq) :
    Assembles p c := ⟨fun hp => absurd hp h, fun hp => absurd hp h'⟩

theorem assembles_deactivate (h : c.InstanceInRange) : Assembles .deactivatePayloadRq c :=
  ⟨nofun, fun _ => h⟩

/-- What `_send_ipmi_packet` leaves, with and without success. -/
inductive Sending (p : RequestType) (c : Ctx) : Bool × Ctx → Prop where
  | sent {c' : Ctx} : SentBy p c c' → Sending p c (true, c')
  | failed {c' : Ctx} : SameSession none c c' → Sending p c (false, c')

theorem sendIpmiPacket_meets (h : Assembles p c) :
    Meets (sendIpmiPacket p now c) (Sending p c) Halt.Proper := by
  have hallowed : Meets (assembleAllowed p (c.number p)) (fun _ => True) Halt.Proper :=
    (protocolAssert_meets h.keepalive).bind fun _ _ =>
      Meets.ite (fun hn => absurd (h.instances hn.1) hn.2) fun _ => Meets.ok trivial
  unfold sendIpmiPacket
  refine hallowed.bind fun _ _ => ?_
  split
  · exact Meets.ok (.sent ⟨rfl, rfl, rfl, rfl, rfl, rfl, rfl, rfl, rfl, fun _ => rfl⟩)
  · exact Meets.ok (.sent ⟨rfl, rfl, rfl, rfl, rfl, rfl, rfl, rfl, rfl, fun _ => rfl⟩)
  · exact Meets.ok (.failed { SameSession.refl none c with })

theorem sendOrQuit_meets (h : Assembles p c) : Meets (sendOrQuit p now c) (SentBy p c) Halt.Proper := by
  refine (sendIpmiPacket_meets h).bind ?_
  rintro _ (h' | h')
  · exact Meets.ok h'
  · exact Meets.error proper_quit

/-- A turn that keeps the flags, the instances and the count of attempts. -/
def PlainTurn (s : ProtocolState) (c c' : Ctx) : Prop := Turn s c c' ∧ SamePayload c c'

theorem PlainTurn.of_sameSession {q : Option PacketType} (h : SameSession q c c₁)
    (h' : PlainTurn s c₁ c') : PlainTurn s c c' :=
  ⟨h'.1.of_kept h.kept h.log, h.samePayload.trans h'.2⟩

theorem PlainTurn.of_setCloseSessionFlag (h : PlainTurn s c.setCloseSessionFlag c') : PlainTurn s c c' :=
  ⟨h.1.of_kept (kept_setCloseSessionFlag c) rfl, { h.2 with }⟩

theorem closeNow_meets : Meets (closeNow now c) (PlainTurn .closeSessionSent c) Halt.Proper :=
  (sendOrQuit_meets (assembles_of_ne (by decide) (by decide))).bind fun _ h =>
    Meets.ok ⟨h.turn _, h.samePayload_moveTo _⟩

theorem deactivateNow_meets (h : c.InstanceInRange) :
    Meets (deactivateNow now c) (PlainTurn .deactivatePayloadSent c) Halt.Proper :=
  (sendOrQuit_meets (assembles_deactivate h)).bind fun _ h =>
    Meets.ok ⟨h.turn _, h.samePayload_moveTo _⟩

theorem closeFlagged_meets :
    Meets (closeNow now c.setCloseSessionFlag) (PlainTurn .closeSessionSent c) Halt.Proper :=
  closeNow_meets.weaken fun _ h => h.of_setCloseSessionFlag

theorem deactivateFlagged_meets (h : c.InstanceInRange) :
    Meets (deactivateNow now c.setCloseSessionFlag) (PlainTurn .deactivatePayloadSent c) Halt.Proper :=
  (deactivateNow_meets (c := c.setCloseSessionFlag) h).weaken fun _ h => h.of_setCloseSessionFlag

theorem sendOrClose_meets (h : Assembles p c) :
    Meets (sendOrClose p s now c)
      (fun c' => (∃ c₁, SentBy p c c₁ ∧ c' = c₁.moveTo s) ∨ PlainTurn .closeSessionSent c c')
      Halt.Proper := by
  refine (sendIpmiPacket_meets h).bind ?_
  rintro _ (h' | h')
  · exact Meets.ok (Or.inl ⟨_, h', rfl⟩)
  · exact closeFlagged_meets.weaken fun _ hc => Or.inr (hc.of_sameSession h')

theorem deactivateOrAgain_meets (h : c.InstanceInRange) :
    Meets (deactivateOrAgain now c) (PlainTurn .deactivatePayloadSent c) Halt.Proper := by
  refine (sendIpmiPacket_meets (assembles_deactivate h)).bind ?_
  rintro _ (h' | h')
  · exact Meets.ok ⟨h'.turn _, h'.samePayload_moveTo _⟩
  · exact (deactivateFlagged_meets (h'.instanceInRange h)).weaken fun _ hc => hc.of_sameSession h'

/-! ### Moves -/

/-- The packet at hand is accepted, and the context is left for its handler. -/
def Accepts (crypto : Crypto) (p : PacketType) (c c' : Ctx) : Prop :=
  ∃ now beyond, Receives crypto now beyond c ⟨.one, some p, c'⟩

/-- The states that follow on one another when a request has been sent. -/
def ProtocolState.Precedes (s s' : ProtocolState) : Prop :=
  (s = .start ∧ s' = .getAuthenticationCapabilitiesSent)
    ∨ (s = .getAuthenticationCapabilitiesSent ∧ s' = .openSessionRequestSent)
    ∨ (s = .setSessionPrivilegeLevelSent ∧ s' = .getChannelPayloadSupportSent)
    ∨ (s = .setSessionPrivilegeLevelSent ∧ s' = .getPayloadActivationStatusSent)
    ∨ (s = .getChannelPayloadSupportSent ∧ s' = .getPayloadActivationStatusSent)

/-- The instances are those of an activation status response, some of them activated. -/
structure SolInstances.Selected (i : SolInstances) : Prop where
  activated : i.solInstancesActivated ≠ []
  length_le : i.solInstancesActivated.length ≤ ipmiInstancesActivatedLength
  deactivated : i.solInstancesDeactivatedCount = 0

/-- The session on the port of the payload. -/
def Ctx.restarted (c : Ctx) (randoms : Randoms) (now : ℕ) : Ctx :=
  let c' := ipmiconsoleCtxSessionSetup c randoms now
  { c' with machine := { c'.machine with consolePort := c.machine.consolePort } }

/-- `c->session.activate_payloads_count++`. -/
def Ctx.countActivate (c : Ctx) : Ctx :=
  { c with counts := { c.counts with activatePayloadsCount := c.counts.activatePayloadsCount + 1 } }

/-- A move of the state machine. -/
inductive Move (crypto : Crypto) : Ctx → Ctx → Prop where
  -- a packet is refused, or something happens that the protocol does not see
  | quiet {c c' : Ctx} (p : Option PacketType) : (∀ q, p = some q → c.protocolState.Awaits q) →
      Quiet p c c' → Move crypto c c'
  | flag (c : Ctx) : Move crypto c c.setCloseSessionFlag
  | closeTimeout (c : Ctx) : c.protocolState = .closeSessionSent → c.machine.closeSessionFlag ≠ 0 →
      Move crypto c { c with machine := { c.machine with
        closeTimeoutFlag := c.machine.closeTimeoutFlag + 1 } }
  | resend {c c' : Ctx} (p : RequestType) :
      retransmitted c.protocolState = some p ∨ c.protocolState = .solSession → SentBy p c c' →
      Move crypto c c'
  | notSent {c c' : Ctx} : c.protocolState.inSession → SameSession none c c' → Move crypto c c'
  | accept {c c' : Ctx} (p : PacketType) : setupPacketType c.protocolState = none →
      Accepts crypto p c c' → Move crypto c c'
  -- the session is set up; a session setup message goes with the request that follows on it
  | advance {c c₁ : Ctx} (p : RequestType) (s : ProtocolState) : c.protocolState.Precedes s →
      c.machine.closeSessionFlag = 0 → SentBy p c c₁ → Move crypto c (c₁.moveTo s)
  | openSession {c c₁ c₂ : Ctx} : c.protocolState = .openSessionRequestSent →
      c.machine.closeSessionFlag = 0 → Accepts crypto .openSessionResponse c c₁ →
      SentBy .rakpMessage1 c₁ c₂ → Move crypto c (c₂.moveTo .rakpMessage1Sent)
  | exchangeKeys {c c₁ c₂ : Ctx} {keys : SessionKeys} : c.protocolState = .rakpMessage1Sent →
      c.machine.closeSessionFlag = 0 → Accepts crypto .rakpMessage2 c c₁ →
      cipherKeys crypto c₁ = .ok keys → SentBy .rakpMessage3 { c₁ with keys := keys } c₂ →
      Move crypto c (c₂.moveTo .rakpMessage3Sent)
  | authenticate {c c₁ c' : Ctx} {s : ProtocolState} : c.protocolState = .rakpMessage3Sent →
      c.machine.closeSessionFlag = 0 → Accepts crypto .rakpMessage4 c c₁ →
      s = .setSessionPrivilegeLevelSent ∨ s = .closeSessionSent → PlainTurn s c₁ c' → Move crypto c c'
  -- the payload is activated
  | activate {c c' : Ctx} : c.protocolState = .getChannelPayloadSupportSent →
      c.machine.closeSessionFlag = 0 → PlainTurn .activatePayloadSent c c' → Move crypto c c'
  | activateIdle {c c' : Ctx} (i : SolInstances) : c.protocolState = .getPayloadActivationStatusSent →
      c.machine.closeSessionFlag = 0 → c.config.behavior ipmiconsoleBehaviorDeactivateOnly = false →
      PlainTurn .activatePayloadSent { c with instances := i } c' → Move crypto c c'
  | activatedElsewhere {c c' : Ctx} : c.protocolState = .activatePayloadSent →
      c.machine.closeSessionFlag = 0 →
      c.counts.activatePayloadsCount + 1 ≤ c.config.acceptablePacketErrorsCount + 1 →
      PlainTurn .getPayloadActivationStatusSent c.countActivate c' → Move crypto c c'
  | establish (c : Ctx) : c.protocolState = .activatePayloadSent → c.machine.closeSessionFlag = 0 →
      Move crypto c (c.moveTo .solSession)
  | newPort (c : Ctx) (consolePort : BitVec 16) : c.protocolState = .activatePayloadSent →
      c.machine.closeSessionFlag = 0 → consolePort ≠ rmcpPrimaryRmcpPort →
      Move crypto c { c with machine := { c.machine with
        consolePort := consolePort, tryNewPortFlag := c.machine.tryNewPortFlag + 1 } }
  -- the payload is deactivated
  | leave {c c' : Ctx} : c.protocolState = .activatePayloadSent ∨ c.protocolState = .solSession →
      PlainTurn .deactivatePayloadSent c c' → Move crypto c c'
  | select {c c' : Ctx} (i : SolInstances) : c.protocolState = .getPayloadActivationStatusSent →
      c.machine.closeSessionFlag = 0 → i.Selected →
      PlainTurn .deactivatePayloadSent
        (({ c with instances := i } : Ctx).setDeactivatePayloadInstances
          (!c.config.behavior ipmiconsoleBehaviorDeactivateOnly)) c' → Move crypto c c'
  | next {c c' : Ctx} : c.protocolState = .deactivatePayloadSent →
      c.config.behavior ipmiconsoleBehaviorDeactivateOnly
        ∨ (c.machine.deactivatePayloadInstancesAndTryAgainFlag ≠ 0 ∧ c.machine.closeSessionFlag = 0) →
      c.countDeactivated.allDeactivated = false →
      PlainTurn .deactivatePayloadSent c.countDeactivated c' → Move crypto c c'
  | again {c c' : Ctx} : c.protocolState = .deactivatePayloadSent →
      c.machine.closeSessionFlag = 0 → c.config.behavior ipmiconsoleBehaviorDeactivateOnly = false →
      c.machine.deactivatePayloadInstancesAndTryAgainFlag ≠ 0 →
      PlainTurn .activatePayloadSent c.countDeactivated.tryAgain c' → Move crypto c c'
  -- the session is closed
  | close {c c' : Ctx} : c.protocolState.inSession → Turn .closeSessionSent c c' → Move crypto c c'
  | restart {c c₁ : Ctx} (randoms : Randoms) (now : ℕ) : c.protocolState = .closeSessionSent →
      c.machine.closeSessionFlag = 0 → SentBy .getAuthenticationCapabilitiesRq (c.restarted randoms now) c₁ →
      Move crypto c (c₁.moveTo .getAuthenticationCapabilitiesSent)

/-- A few moves, one after the other. -/
abbrev Moves (crypto : Crypto) : Ctx → Ctx → Prop := Relation.ReflTransGen (Move crypto)

end FreeIpmi.Console
