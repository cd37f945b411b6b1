import FreeIpmi.Console.Process

/-! What receiving a packet leaves alone.

    Whatever a packet contains, the stages it goes through change only the window, the error counts,
    the times of the last responses and the object that the packet is parsed into. A packet is
    accepted only as the response that the protocol state waits for. -/

namespace FreeIpmi.Console
open Fiid Lan Rmcpplus Util Calls Stages

/-- `c'` is `c` for what the state machine goes by, but for the object of the packet and the numbers
    of requests. -/
structure SameSession (p : Option PacketType) (c c' : Ctx) : Prop where
  config : c'.config = c.config
  machine : c'.machine = c.machine
  nameOnlyLookup : c'.nameOnlyLookup = c.nameOnlyLookup
  remoteConsoleSessionId : c'.remoteConsoleSessionId = c.remoteConsoleSessionId
  remoteConsoleRandomNumber : c'.remoteConsoleRandomNumber = c.remoteConsoleRandomNumber
  keys : c'.keys = c.keys
  instances : c'.instances = c.instances
  activatePayloadsCount : c'.counts.activatePayloadsCount = c.counts.activatePayloadsCount
  log : c'.log = c.log
  packetObject : ∀ q, p ≠ some q → c'.packetObject q = c.packetObject q

/-- The message tag is the same as well. -/
structure Quiet (p : Option PacketType) (c c' : Ctx) : Prop extends SameSession p c c' where
  messageTag : c'.messageTag = c.messageTag

/-- `c'` is `c` but for what a packet of the given type may change. -/
structure Frame (p : Option PacketType) (c c' : Ctx) : Prop extends Quiet p c c' where
  lastSolPacketReceived : c'.timers.lastSolPacketReceived = c.timers.lastSolPacketReceived
  consoleRemoteConsoleToBmc : c'.sol.consoleRemoteConsoleToBmc = c.sol.consoleRemoteConsoleToBmc
  consoleBmcToRemoteConsole : c'.sol.consoleBmcToRemoteConsole = c.sol.consoleBmcToRemoteConsole

variable {p : Option PacketType} {c c' c'' : Ctx}

theorem SameSession.refl (p : Option PacketType) (c : Ctx) : SameSession p c c :=
  ⟨rfl, rfl, rfl, rfl, rfl, rfl, rfl, rfl, rfl, fun _ _ => rfl⟩

theorem SameSession.trans (h : SameSession p c c') (h' : SameSession p c' c'') :
    SameSession p c c'' where
  config := h'.config.trans h.config
  machine := h'.machine.trans h.machine
  nameOnlyLookup := h'.nameOnlyLookup.trans h.nameOnlyLookup
  remoteConsoleSessionId := h'.remoteConsoleSessionId.trans h.remoteConsoleSessionId
  remoteConsoleRandomNumber := h'.remoteConsoleRandomNumber.trans h.remoteConsoleRandomNumber
  keys := h'.keys.trans h.keys
  instances := h'.instances.trans h.instances
  activatePayloadsCount := h'.activatePayloadsCount.trans h.activatePayloadsCount
  log := h'.log.trans h.log
  packetObject q hq := (h'.packetObject q hq).trans (h.packetObject q hq)

theorem SameSession.protocolState (h : SameSession p c c') : c'.protocolState = c.protocolState :=
  congrArg StateMachine.protocolState h.machine

theorem Quiet.refl (p : Option PacketType) (c : Ctx) : Quiet p c c := ⟨SameSession.refl p c, rfl⟩

theorem Quiet.trans (h : Quiet p c c') (h' : Quiet p c' c'') : Quiet p c c'' where
  toSameSession := h.toSameSession.trans h'.toSameSession
  messageTag := h'.messageTag.trans h.messageTag

theorem Frame.refl (p : Option PacketType) (c : Ctx) : Frame p c c := ⟨Quiet.refl p c, rfl, rfl, rfl⟩

theorem Frame.trans (h : Frame p c c') (h' : Frame p c' c'') : Frame p c c'' where
  toQuiet := h.toQuiet.trans h'.toQuiet
  lastSolPacketReceived := h'.lastSolPacketReceived.trans h.lastSolPacketReceived
  consoleRemoteConsoleToBmc := h'.consoleRemoteConsoleToBmc.trans h.consoleRemoteConsoleToBmc
  consoleBmcToRemoteConsole := h'.consoleBmcToRemoteConsole.trans h.consoleBmcToRemoteConsole

/-- The object of the packet is the only one that it is parsed into. -/
theorem frame_setPacketObject (p : PacketType) (c : Ctx) (obj : FiidObj) :
    Frame (some p) c (c.setPacketObject p obj) :=
  { Frame.refl (some p) c with
    packetObject := by
      intro q hq
      have hne : q ≠ p := fun h => hq (congrArg some h.symm)
      simp [Ctx.packetObject, Ctx.setPacketObject, hne] }

theorem frame_countError (p : Option PacketType) (c : Ctx) : Frame p c c.countError :=
  { Frame.refl p c with }

theorem frame_reset (p : Option PacketType) (c : Ctx) (now : ℕ) :
    Frame p c (c.receiveIpmiPacketDataReset now) :=
  { Frame.refl p c with }

theorem frame_cleanup (p : Option PacketType) (c : Ctx) : Frame p c c.cleanup :=
  { Frame.refl p c with }

theorem onResult_meets {α β : Type} {x : Except Stop α} {failed : Except Halt β}
    {value : α → Except Halt β} {Q : β → Prop} {E : Halt → Prop} (hE : E .library)
    (hfailed : Meets failed Q E) (hvalue : ∀ a, x = .ok a → Meets (value a) Q E) :
    Meets (onResult x failed value) Q E := by
  cases x with
  | ok a => exact hvalue a rfl
  | error e => exact Meets.ite (fun _ => hfailed) fun _ => Meets.error hE

/-! ### Stages -/

/-- The context that a stage leaves when it does not go on. -/
def Leaves (R : Ctx → Prop) : Exit ReceiveFailure Ctx → Prop
  | .fail (.failed c) => R c
  | .fail .halted => True
  | .unparsed c => R c

theorem Leaves.mono {R S : Ctx → Prop} (h : ∀ c, R c → S c) : ∀ e, Leaves R e → Leaves S e
  | .fail (.failed c), hc => h c hc
  | .fail .halted, _ => trivial
  | .unparsed c, hc => h c hc

theorem failStage_meets {R Q : Ctx → Prop} (e : Stop) (h : R c) :
    Meets (failStage e c) Q (Leaves R) := by
  refine Meets.error ?_
  by_cases he : e.isReturn
  · rw [if_pos he]
    exact h
  · rw [if_neg he]
    trivial

/-- The stage changes no more than the packet may. -/
def FrameStage (p : Option PacketType) (stage : ReceiveStage) : Prop :=
  ∀ c, Meets (stage c) (Frame p c) (Leaves (Frame p c))

/-- The check changes no more than the packet may. -/
def FrameCheck (p : Option PacketType) (check : Check) : Prop :=
  ∀ c b c', check c = .ok (b, c') → Frame p c c'

theorem reading_eq_ok {check : Ctx → Except Stop Bool} {b : Bool} (h : reading check c = .ok (b, c')) :
    check c = .ok b ∧ c' = c := by
  obtain ⟨b', hb', h'⟩ := bind_eq_ok.mp h
  cases h'
  exact ⟨hb', rfl⟩

@[simp] theorem frameCheck_reading (p : Option PacketType) (check : Ctx → Except Stop Bool) :
    FrameCheck p (reading check) := by
  intro c b c' h
  obtain ⟨-, rfl⟩ := reading_eq_ok h
  exact Frame.refl p c'

@[simp] theorem frameCheck_outboundSequenceNumber (p : Option PacketType) :
    FrameCheck p checkOutboundSequenceNumber := by
  intro c b c' h
  unfold checkOutboundSequenceNumber at h
  obtain ⟨val, -, h⟩ := bind_eq_ok.mp h
  obtain ⟨⟨passed, window⟩, -, h⟩ := bind_eq_ok.mp h
  cases h
  exact { Frame.refl p c with }

theorem frameCheck_rakp2 (crypto : Crypto) :
    FrameCheck (some .rakpMessage2) (checkRakp2KeyExchangeAuthenticationCode crypto) := by
  intro c b c' h
  unfold checkRakp2KeyExchangeAuthenticationCode at h
  obtain ⟨obj, -, h⟩ := bind_eq_ok.mp h
  obtain ⟨passed, -, h⟩ := bind_eq_ok.mp h
  cases h
  exact frame_setPacketObject .rakpMessage2 c obj

theorem frameCheck_rakp4 (crypto : Crypto) :
    FrameCheck (some .rakpMessage4) (checkRakp4IntegrityCheckValue crypto) := by
  intro c b c' h
  unfold checkRakp4IntegrityCheckValue at h
  split at h
  · cases h
    exact Frame.refl _ c
  · obtain ⟨id, -, h⟩ := bind_eq_ok.mp h
    obtain ⟨guid, -, h⟩ := bind_eq_ok.mp h
    obtain ⟨obj, -, h⟩ := bind_eq_ok.mp h
    obtain ⟨passed, -, h⟩ := bind_eq_ok.mp h
    cases h
    exact frame_setPacketObject .rakpMessage4 c obj

theorem stageOf_frame {check : Check} {refused : ReceiveStage} (hcheck : FrameCheck p check)
    (hrefused : FrameStage p refused) : FrameStage p (stageOf check refused) := by
  intro c
  unfold stageOf
  rcases h : check c with e | ⟨_ | _, c'⟩
  · exact failStage_meets e (Frame.refl p c)
  · have hc' := hcheck c _ c' h
    exact (hrefused c').mono (fun _ h => hc'.trans h) (Leaves.mono fun _ h => hc'.trans h)
  · exact Meets.ok (hcheck c _ c' h)

theorem dropped_frame (p : Option PacketType) : FrameStage p dropped := fun c =>
  Meets.error (frame_countError p c)

theorem resetAndFail_frame (p : Option PacketType) (now : ℕ) : FrameStage p (resetAndFail now) := fun c =>
  Meets.error (frame_reset p c now)

@[simp] theorem enforce_frame {check : Check} (h : FrameCheck p check) : FrameStage p (enforce check) :=
  stageOf_frame h (dropped_frame p)

@[simp] theorem note_frame {check : Check} (h : FrameCheck p check) : FrameStage p (note check) :=
  stageOf_frame h fun c => Meets.ok (Frame.refl p c)

@[simp] theorem enforceUnlessClosing_frame {check : Check} (h : FrameCheck p check) :
    FrameStage p (enforceUnlessClosing check) :=
  stageOf_frame h fun c => Meets.ite (fun _ => dropped_frame p c) fun _ => Meets.ok (Frame.refl p c)

@[simp] theorem enforceOrReset_frame {check : Check} {now : ℕ} (h : FrameCheck p check) :
    FrameStage p (enforceOrReset now check) :=
  stageOf_frame h (resetAndFail_frame p now)

@[simp] theorem enforceCounting_frame :
    FrameStage p (stageOf checkOutboundSequenceNumber fun c => dropped c.countSequenceNumberError) :=
  stageOf_frame (frameCheck_outboundSequenceNumber p) fun c =>
    Meets.error { Frame.refl p c with }

@[simp] theorem completionStage_frame {now : ℕ} {q : PacketType} {packetStage : ReceiveStage}
    (h : FrameStage p packetStage) : FrameStage p (completionStage now q packetStage) := by
  intro c
  unfold completionStage
  split
  · exact failStage_meets _ (Frame.refl p c)
  · exact h c
  · split
    · exact failStage_meets _ (Frame.refl p c)
    · exact Meets.ok (Frame.refl p c)
    · exact resetAndFail_frame p now c

section Receive
variable (crypto : Crypto) (now : ℕ) (pkt : List Byte)

@[simp] theorem setupStage_frame : ∀ p : PacketType, setupPacketType .openSessionRequestSent = some p
    ∨ setupPacketType .rakpMessage1Sent = some p ∨ setupPacketType .rakpMessage3Sent = some p →
    FrameStage (some p) (setupStage crypto now p) := by
  rintro p (h | h | h) <;> cases h
  · exact enforceOrReset_frame (frameCheck_reading _ _)
  · exact enforceOrReset_frame (frameCheck_rakp2 crypto)
  · exact enforceOrReset_frame (frameCheck_rakp4 crypto)

/-- No check of a packet changes more than the packet may. -/
theorem checkStages_frame (p : PacketType) :
    ∀ stage ∈ checkStages crypto now pkt p, FrameStage (some p) stage := by
  cases p <;> simp [checkStages, preSessionStages, setupStages, sessionStages, solStages, uncaredStages,
    deactivateStages, setupPacketType]

theorem runCheckStages_frame (p : PacketType) (c : Ctx) :
    Meets (runStages (checkStages crypto now pkt p) c) (Frame (some p) c)
      (Leaves (Frame (some p) c)) := by
  refine runStages_meets (fun stage hstage c' hc' => ?_) (Frame.refl (some p) c)
  have h := checkStages_frame crypto now pkt p stage hstage c'
  exact h.mono (fun _ h => hc'.trans h) (Leaves.mono fun _ h => hc'.trans h)

/-! ### Unassembling -/

theorem unassembleLan_frame {p : PacketType} {b : Bool} (h : unassembleLan pkt p c = .ok (b, c')) :
    Frame (some p) c c' := by
  unfold unassembleLan at h
  obtain ⟨⟨accepted, objs⟩, -, h⟩ := bind_eq_ok.mp h
  cases h
  exact { frame_setPacketObject p c objs.cmd with }

theorem unassembleRmcpplus_frame {algorithms : Algorithms} {key : Option (List Byte)} {p : PacketType}
    {b : Bool} (h : unassembleRmcpplus crypto algorithms key pkt p c = .ok (b, c')) :
    Frame (some p) c c' := by
  unfold unassembleRmcpplus at h
  obtain ⟨⟨accepted, objs⟩, -, h⟩ := bind_eq_ok.mp h
  cases h
  exact { frame_setPacketObject p c objs.cmd with }

theorem unassembleAs_frame {p : PacketType} {b : Bool} (h : unassembleAs crypto pkt p c = .ok (b, c')) :
    Frame (some p) c c' := by
  unfold unassembleAs at h
  cases p with
  | getAuthenticationCapabilitiesRs => exact unassembleLan_frame pkt h
  | _ => exact unassembleRmcpplus_frame crypto pkt h

/-- A packet that can be parsed is of the type that is inferred for it. -/
theorem unassemble_frame {beyond : Byte} {b : Bool} {q : Option PacketType}
    (h : ipmiconsolePacketUnassemble crypto beyond pkt c = .ok (b, q, c')) :
    q = packetTypeOf pkt beyond c.protocolState ∧ Frame q c c' := by
  unfold ipmiconsolePacketUnassemble at h
  rcases hp : packetTypeOf pkt beyond c.protocolState with _ | p
  · simp only [Ctx.protocolState] at hp h
    rw [hp] at h
    cases h
    exact ⟨rfl, { Frame.refl none c with }⟩
  · simp only [Ctx.protocolState] at hp h
    rw [hp] at h
    obtain ⟨⟨accepted, c₁⟩, h₁, h⟩ := bind_eq_ok.mp h
    cases h
    have hclear : Frame (some p) c { c with objs := c.objs.clear } := { Frame.refl (some p) c with }
    exact ⟨rfl, (hclear.trans (frame_setPacketObject p _ _)).trans
      (unassembleAs_frame crypto pkt h₁)⟩

/-! ### Receiving -/

/-- The type inferred for the packet at hand. -/
def Ctx.packetType (c : Ctx) (beyond : Byte) : Option PacketType :=
  packetTypeOf (c.ipmiFromBmc.take ipmiconsolePacketBuflen) beyond c.protocolState

/-- How a packet is received: it is refused, or goes through all the checks of its type. -/
inductive Receives (beyond : Byte) (c : Ctx) : Received → Prop where
  | refused {rc : Rc} {p : Option PacketType} {c' : Ctx} :
      rc ≠ .one → Frame (c.packetType beyond) c c' → Receives beyond c ⟨rc, p, c'⟩
  | accepted {p : PacketType} {c₁ c₂ : Ctx} :
      c.packetType beyond = some p → Frame (some p) c c₁ → Frame (some p) c₁ c₂ →
        runStages (checkStages crypto now (c.ipmiFromBmc.take ipmiconsolePacketBuflen) p) c₁ = .ok c₂ →
        Receives beyond c ⟨.one, some p, (c₂.acceptPacket now p).cleanup⟩

/-- A packet refused at a later time is refused. -/
theorem Receives.refused_trans {beyond : Byte} {rc : Rc} {p : Option PacketType} (hrc : rc ≠ .one)
    (h : Frame (c.packetType beyond) c c') (h' : Frame (c.packetType beyond) c' c'') :
    Receives crypto now beyond c ⟨rc, p, c''.cleanup⟩ :=
  .refused hrc ((h.trans h').trans (frame_cleanup _ c''))

theorem received_spec {beyond : Byte} {p : PacketType} {c₁ : Ctx} (hp : c.packetType beyond = some p)
    (h₁ : Frame (some p) c c₁) :
    Meets (received now p
        (runStages (checkStages crypto now (c.ipmiFromBmc.take ipmiconsolePacketBuflen) p) c₁))
      (Receives crypto now beyond c) (· = .library) := by
  have hrun := runCheckStages_frame crypto now (c.ipmiFromBmc.take ipmiconsolePacketBuflen) p c₁
  have hframe := hp ▸ h₁
  unfold received
  split
  · rename_i c₂ h₂
    exact Meets.ok (.accepted hp h₁ (hrun.value c₂ h₂) h₂)
  · rename_i c₂ h₂
    have h₂ : Frame (some p) c₁ c₂ := hrun.reason _ h₂
    rw [← hp] at h₂
    exact Meets.ok (.refused_trans crypto now (by decide) hframe h₂)
  · rename_i c₂ h₂
    have h₂ : Frame (some p) c₁ c₂ := hrun.reason _ h₂
    rw [← hp] at h₂
    exact Meets.ok (.refused_trans crypto now (by decide) hframe h₂)
  · exact Meets.error rfl

theorem receiveUnassembled_spec {beyond : Byte} {b : Bool} {c₁ : Ctx}
    (h₁ : Frame (c.packetType beyond) c c₁) :
    Meets (receiveUnassembled crypto now (c.ipmiFromBmc.take ipmiconsolePacketBuflen)
        (b, c.packetType beyond, c₁))
      (Receives crypto now beyond c) (· = .library) := by
  have hzero : ∀ p, Receives crypto now beyond c ⟨.zero, p, c₁.countError.cleanup⟩ := fun _ =>
    Receives.refused_trans crypto now (by decide) h₁ (frame_countError _ c₁)
  cases b with
  | false => exact Meets.ok (hzero (c.packetType beyond))
  | true =>
    rcases hp : c.packetType beyond with _ | p
    · exact Meets.ok (hzero none)
    · rw [hp] at h₁
      exact received_spec crypto now hp h₁

/-- `_receive_packet` accepts only a packet that went through its checks. -/
theorem receivePacket_spec (beyond : Byte) (c : Ctx) :
    Meets (receivePacket crypto now beyond c) (Receives crypto now beyond c) (· = .library) := by
  unfold receivePacket
  refine Meets.ite (fun _ => Meets.ok (.refused (by decide) (Frame.refl _ c))) fun _ => ?_
  have hread : ∀ q, Frame q c { c with ipmiFromBmc := c.ipmiFromBmc.drop ipmiconsolePacketBuflen } :=
    fun q => { Frame.refl q c with }
  refine onResult_meets rfl ?_ ?_
  · exact Meets.ok (Receives.refused_trans crypto now (by decide) (hread _) (Frame.refl _ _))
  · rintro ⟨b, q, c₁⟩ hu
    obtain ⟨hq, h₁⟩ := unassemble_frame crypto _ hu
    have hq : q = c.packetType beyond := hq
    rw [hq] at h₁ ⊢
    exact receiveUnassembled_spec crypto now ((hread _).trans h₁)

end Receive

end FreeIpmi.Console
