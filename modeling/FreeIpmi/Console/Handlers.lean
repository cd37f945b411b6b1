import FreeIpmi.Console.States

/-! The handlers make moves.

    Each function of the state machine is called where its assertions hold, and what it does is a
    chain of moves; so is a call of `_process_ctx`, and every step of the engine. -/

namespace FreeIpmi.Console
open Fiid Lan Rmcpplus Util Calls Stages

variable {crypto : Crypto} {env : Env} {now : ℕ} {c c₀ c₁ c' : Ctx} {p : Option PacketType}

/-- The call asserts nothing that does not hold, and makes moves from the context. -/
abbrev MakesMoves (crypto : Crypto) (c : Ctx) (x : Except Halt Ctx) : Prop :=
  Meets x (Moves crypto c) Halt.Proper

theorem quiet_move (h : Quiet none c c') : Move crypto c c' := .quiet none nofun h

theorem MakesMoves.of_quiet {x : Except Halt Ctx} (h : Quiet none c c₁) (hx : MakesMoves crypto c₁ x) :
    MakesMoves crypto c x :=
  hx.weaken fun _ hm => .head (quiet_move h) hm

theorem MakesMoves.of_flag {x : Except Halt Ctx} (hx : MakesMoves crypto c.setCloseSessionFlag x) :
    MakesMoves crypto c x :=
  hx.weaken fun _ hm => .head (.flag c) hm

/-! ### Giving up -/

theorem closeNow_moves (h : c.protocolState.inSession = true) : MakesMoves crypto c (closeNow now c) :=
  closeNow_meets.weaken fun _ hc => .single (.close h hc.1)

theorem deactivateNow_moves (hc : StatesInv c)
    (h : c.protocolState = .activatePayloadSent ∨ c.protocolState = .solSession) :
    MakesMoves crypto c (deactivateNow now c) := by
  have hrange : c.InstanceInRange :=
    hc.instanceInRange (by rcases h with h | h <;> rw [h] <;> rfl)
  exact (deactivateNow_meets hrange).weaken fun _ hm => .single (.leave h hm)

theorem closeFlagged_moves (h : c.protocolState.inSession = true) :
    MakesMoves crypto c (closeNow now c.setCloseSessionFlag) :=
  .of_flag (closeNow_moves h)

theorem deactivateFlagged_moves (hc : StatesInv c)
    (h : c.protocolState = .activatePayloadSent ∨ c.protocolState = .solSession) :
    MakesMoves crypto c (deactivateNow now c.setCloseSessionFlag) :=
  .of_flag (deactivateNow_moves (statesInv_setCloseSessionFlag hc) h)

theorem deactivateOrAgain_moves (hc : StatesInv c)
    (h : c.protocolState = .activatePayloadSent ∨ c.protocolState = .solSession) :
    MakesMoves crypto c (deactivateOrAgain now c) := by
  have hrange : c.InstanceInRange :=
    hc.instanceInRange (by rcases h with h | h <;> rw [h] <;> rfl)
  exact (deactivateOrAgain_meets hrange).weaken fun _ hm => .single (.leave h hm)

/-- The session is closed after a change that does not outlive it. -/
theorem closeNow_moves_of (h : c.protocolState.inSession = true) (hk : Kept c c₁)
    (hlog : c₁.log = c.log) : MakesMoves crypto c (closeNow now c₁) :=
  closeNow_meets.weaken fun _ hc => .single (.close h (hc.1.of_kept hk hlog))

theorem sendOrClose_moves_of {p : RequestType} {s : ProtocolState}
    (h : c.protocolState.inSession = true) (hk : Kept c c₁) (hlog : c₁.log = c.log)
    (hp : Assembles p c₁) (hs : ∀ c₂, SentBy p c₁ c₂ → Move crypto c (c₂.moveTo s)) :
    MakesMoves crypto c (sendOrClose p s now c₁) := by
  refine (sendOrClose_meets hp).weaken ?_
  rintro c' (⟨c₂, h₂, rfl⟩ | hclose)
  · exact .single (hs c₂ h₂)
  · exact .single (.close h (hclose.1.of_kept hk hlog))

theorem sendOrClose_moves {p : RequestType} {s : ProtocolState} (h : c.protocolState.inSession = true)
    (hp : Assembles p c) (hs : ∀ c₁, SentBy p c c₁ → Move crypto c (c₁.moveTo s)) :
    MakesMoves crypto c (sendOrClose p s now c) :=
  sendOrClose_moves_of h (Kept.refl c) rfl hp hs

/-! ### SOL packets -/

/-- A SOL packet is sent only in a SOL session, and is nothing to the protocol. -/
theorem solSent_meets {sent : Option Sent} {sol : SolSession}
    (hs : sent ≠ none → c.protocolState = .solSession) :
    Meets (solSent env c sent sol) (fun r => Quiet none c r.2) Halt.Proper := by
  unfold solSent
  cases sent with
  | none => exact Meets.ok { Quiet.refl none c with }
  | some sent =>
    refine (protocolAssert_meets (hs nofun)).bind fun _ _ => ?_
    exact Meets.ite (fun _ => Meets.error proper_library) fun _ =>
      Meets.ite (fun _ => Meets.ok { Quiet.refl none c with }) fun _ =>
        Meets.ok { Quiet.refl none c with }

/-- What a part of sending leaves: it goes on only where nothing has happened. -/
structure SolStep (crypto : Crypto) (c : Ctx) (r : Bool × Ctx) : Prop where
  moves : Moves crypto c r.2
  machine : r.1 = false → r.2.machine = c.machine

theorem solStep_of_quiet (h : Quiet none c c') (b : Bool) : SolStep crypto c (b, c') :=
  ⟨.single (quiet_move h), fun _ => h.machine⟩

theorem SolStep.of_moves (h : Moves crypto c c') : SolStep crypto c (true, c') := ⟨h, nofun⟩

theorem makesMoves_done {x : Except Halt Ctx} (hx : MakesMoves crypto c x) :
    Meets (x >>= fun c' => pure (true, c')) (SolStep crypto c) Halt.Proper :=
  hx.bind fun _ h => Meets.ok (.of_moves h)

theorem solInput_meets (hc : StatesInv c) (hs : c.protocolState = .solSession) :
    Meets (solInput env c) (SolStep crypto c) Halt.Proper := by
  unfold solInput
  refine (protocolAssert_meets fun _ => hs).bind fun _ _ => ?_
  split
  · have hq : Quiet none c { c with sol := { c.sol with
        retransmissionCount := c.sol.retransmissionCount + 1
        workaroundRetransmissionCount :=
          if c.config.workaround ipmiconsoleWorkaroundIncrementSolPacketSequence then
            c.sol.workaroundRetransmissionCount + 1
          else c.sol.workaroundRetransmissionCount } } := { Quiet.refl none c with }
    exact makesMoves_done (.of_quiet hq (closeFlagged_moves (by rw [hq.protocolState, hs]; rfl)))
  · refine (solSent_meets fun _ => hs).bind ?_
    rintro ⟨ok, c'⟩ hq
    refine Meets.ite (fun _ => Meets.ok (solStep_of_quiet hq _)) fun _ => ?_
    exact makesMoves_done (.of_quiet hq
      (deactivateFlagged_moves (hq.statesInv hc) (Or.inr (hq.protocolState.trans hs))))

theorem keepaliveTimeout_meets (hc : StatesInv c) (hs : c.protocolState = .solSession) :
    Meets (keepaliveTimeout env c) (SolStep crypto c) Halt.Proper := by
  unfold keepaliveTimeout
  refine (protocolAssert_meets hs).bind fun _ _ => Meets.ite (fun _ => ?_) fun _ =>
    Meets.ok (solStep_of_quiet (Quiet.refl none c) _)
  have hkeepalive : Assembles .getChannelPayloadVersionRq c := ⟨fun _ => hs, fun h => nomatch h⟩
  refine (sendIpmiPacket_meets hkeepalive).bind ?_
  rintro _ (h | h)
  · exact Meets.ok (.of_moves (.single (.resend _ (Or.inr hs) h)))
  · have hmove : Move crypto c _ := .notSent (by rw [hs]; rfl) h
    exact (deactivateFlagged_moves (h.statesInv hc) (Or.inr (h.protocolState.trans hs))).bind
      fun _ hm => Meets.ok (.of_moves (.head hmove hm))

theorem serialKeepalive_meets (hc : StatesInv c) (hs : c.protocolState = .solSession) :
    Meets (serialKeepalive env c) (SolStep crypto c) Halt.Proper := by
  unfold serialKeepalive
  refine Meets.ite (fun _ => ?_) fun _ => Meets.ok (solStep_of_quiet (Quiet.refl none c) _)
  refine (protocolAssert_meets hs).bind fun _ _ => (solSent_meets fun _ => hs).bind ?_
  rintro ⟨ok, c'⟩ hq
  refine Meets.ite (fun _ => Meets.ok (solStep_of_quiet hq _)) fun _ => ?_
  have hc' := statesInv_setCloseSessionFlag (hq.statesInv hc)
  exact makesMoves_done (.of_quiet hq (.of_flag
    (deactivateOrAgain_moves hc' (Or.inr (hq.protocolState.trans hs)))))

theorem SolStep.bind {f : Ctx → Except Halt (Bool × Ctx)} {x : Except Halt (Bool × Ctx)}
    (hc : StatesInv c) (hs : c.protocolState = .solSession)
    (hx : Meets x (SolStep crypto c) Halt.Proper)
    (hf : ∀ c', StatesInv c' → c'.protocolState = .solSession →
      Meets (f c') (SolStep crypto c') Halt.Proper) :
    Meets (x >>= fun r => if r.1 then pure (true, r.2) else f r.2) (SolStep crypto c) Halt.Proper := by
  refine hx.bind ?_
  rintro ⟨done, c'⟩ h
  cases done with
  | true => exact Meets.ok (.of_moves h.moves)
  | false =>
    have hm : c'.machine = c.machine := h.machine rfl
    have hs' : c'.protocolState = .solSession := (congrArg StateMachine.protocolState hm).trans hs
    exact (hf c' (h.moves.statesInv hc) hs').weaken fun _ h' =>
      ⟨h.moves.trans h'.moves, fun hdone => (h'.machine hdone).trans hm⟩

theorem processProtocolStateSolSessionSend_meets (hc : StatesInv c)
    (hs : c.protocolState = .solSession) :
    Meets (processProtocolStateSolSessionSend env c) (SolStep crypto c) Halt.Proper :=
  SolStep.bind hc hs (solInput_meets hc hs) fun _ hc' hs' =>
    SolStep.bind hc' hs' (keepaliveTimeout_meets hc' hs') fun _ hc'' hs'' => serialKeepalive_meets hc'' hs''

theorem receiveSolPayloadData_moves (hc : StatesInv c) (hs : c.protocolState = .solSession) :
    MakesMoves crypto c (receiveSolPayloadData env c) := by
  unfold receiveSolPayloadData
  refine (protocolAssert_meets hs).bind fun _ _ => ?_
  -- the object is cleared first
  have hq := (frame_setPacketObject .solPayloadDataRs c
    (fiidObjClear (c.packetObject .solPayloadDataRs))).toQuiet
  have hmove : Move crypto c _ := .quiet (some .solPayloadDataRs)
    (fun q h => by cases h; exact Or.inr (Or.inr (Or.inl ⟨hs, rfl⟩))) hq
  have hc' := hq.statesInv hc
  have hs' := hq.protocolState.trans hs
  refine Meets.weaken (R := Moves crypto _) ?_ fun _ hm => .head hmove hm
  refine onResult_meets proper_library (deactivateFlagged_moves hc' (Or.inr hs')) fun bmcPacket _ => ?_
  split
  · exact closeFlagged_moves (by rw [hs']; rfl)
  · exact deactivateFlagged_moves hc' (Or.inr hs')
  · refine (solSent_meets fun _ => hs').bind ?_
    rintro ⟨ok, c''⟩ hq'
    refine Meets.ite (fun _ => Meets.ok (.single (quiet_move hq'))) fun _ => ?_
    exact MakesMoves.of_quiet hq'
      (deactivateFlagged_moves (hq'.statesInv hc') (Or.inr (hq'.protocolState.trans hs')))

theorem processProtocolStateSolSessionReceive_moves {p : PacketType} (hc : StatesInv c)
    (hs : c.protocolState = .solSession) :
    MakesMoves crypto c (processProtocolStateSolSessionReceive env p c) :=
  Meets.ite (fun _ => deactivateNow_moves hc (Or.inr hs)) fun _ =>
    Meets.ite (fun _ => receiveSolPayloadData_moves hc hs) fun _ =>
      Meets.ite (fun _ => Meets.ok .refl) fun _ => deactivateFlagged_moves hc (Or.inr hs)

/-! ### Session setup -/

theorem processProtocolStateStart_moves (hs : c.protocolState = .start)
    (hflag : c.machine.closeSessionFlag = 0) :
    MakesMoves crypto c (processProtocolStateStart env c) :=
  (sendOrQuit_meets (assembles_of_ne (by decide) (by decide))).bind fun _ h =>
    Meets.ok (.single (.advance _ _ (Or.inl ⟨hs, rfl⟩) hflag h))

theorem processProtocolStateGetAuthenticationCapabilitiesSent_moves
    (hs : c.protocolState = .getAuthenticationCapabilitiesSent)
    (hflag : c.machine.closeSessionFlag = 0) :
    MakesMoves crypto c (processProtocolStateGetAuthenticationCapabilitiesSent env c) := by
  refine (protocolAssert_meets hs).bind fun _ _ =>
    onResult_meets proper_library (Meets.error proper_quit) fun supported _ =>
      Meets.ite (fun _ => Meets.error proper_quit) fun _ => ?_
  exact (sendOrQuit_meets (assembles_of_ne (by decide) (by decide))).bind fun _ h =>
    Meets.ok (.single (.advance _ _ (Or.inr (Or.inl ⟨hs, rfl⟩)) hflag h))

theorem processProtocolStateOpenSessionRequestSent_moves
    (hs : c.protocolState = .openSessionRequestSent) (hflag : c.machine.closeSessionFlag = 0)
    (hacc : Accepts crypto .openSessionResponse c c₁) :
    MakesMoves crypto c (processProtocolStateOpenSessionRequestSent env c₁) :=
  (sendOrQuit_meets (assembles_of_ne (by decide) (by decide))).bind fun _ h =>
    Meets.ok (.single (.openSession hs hflag hacc h))

theorem isKeyArray_replicate : IsKeyArray (some (List.replicate ipmiMaxKeyLength 0)) :=
  ⟨_, rfl, List.length_replicate⟩

/-- The keys are calculated into the arrays of the context, as they were set up. -/
theorem calculateCipherKeys_meets (hc : StatesInv c) (hs : c.protocolState = .rakpMessage1Sent) :
    Meets (calculateCipherKeys crypto c)
      (fun c' => ∃ keys, cipherKeys crypto c = .ok keys ∧ c' = { c with keys := keys }) Halt.Proper := by
  have hkeys : c.keys = initialKeys := hc.keys (by rw [hs]; rfl)
  unfold calculateCipherKeys
  rw [hkeys]
  refine (protocolAssert_meets hs).bind fun _ _ =>
    (protocolAssert_meets isKeyArray_replicate).bind fun _ _ =>
    (protocolAssert_meets isKeyArray_replicate).bind fun _ _ =>
    (protocolAssert_meets isKeyArray_replicate).bind fun _ _ => ?_
  exact onResult_meets proper_library (Meets.error proper_quit) fun keys h => Meets.ok ⟨keys, h, rfl⟩

theorem processProtocolStateRakpMessage1Sent_moves (hc : StatesInv c)
    (hs : c.protocolState = .rakpMessage1Sent) (hflag : c.machine.closeSessionFlag = 0)
    (hacc : Accepts crypto .rakpMessage2 c c₁) :
    MakesMoves crypto c (processProtocolStateRakpMessage1Sent crypto env c₁) := by
  refine (calculateCipherKeys_meets (hacc.statesInv hc) (hacc.protocolState.trans hs)).bind ?_
  rintro c₂ ⟨keys, hkeys, rfl⟩
  exact (sendOrQuit_meets (assembles_of_ne (by decide) (by decide))).bind fun _ h =>
    Meets.ok (.single (.exchangeKeys hs hflag hacc hkeys h))

theorem processProtocolStateRakpMessage3Sent_moves (hs : c.protocolState = .rakpMessage3Sent)
    (hflag : c.machine.closeSessionFlag = 0) (hacc : Accepts crypto .rakpMessage4 c c₁) :
    MakesMoves crypto c (processProtocolStateRakpMessage3Sent env c₁) := by
  refine Meets.ite (fun _ => Meets.error proper_quit) fun _ => ?_
  refine (sendOrClose_meets (assembles_of_ne (by decide) (by decide))).weaken ?_
  rintro c' (⟨c₂, h, rfl⟩ | h)
  · exact .single (.authenticate hs hflag hacc (Or.inl rfl) ⟨h.turn _, h.samePayload_moveTo _⟩)
  · exact .single (.authenticate hs hflag hacc (Or.inr rfl) h)

/-! ### Payload activation -/

theorem processProtocolStateSetSessionPrivilegeLevelSent_moves
    (hs : c.protocolState = .setSessionPrivilegeLevelSent) (hflag : c.machine.closeSessionFlag = 0) :
    MakesMoves crypto c (processProtocolStateSetSessionPrivilegeLevelSent env c) := by
  have hin : c.protocolState.inSession = true := by rw [hs]; rfl
  refine Meets.ite (fun _ => ?_) fun _ => ?_
  · exact sendOrClose_moves hin (assembles_of_ne (by decide) (by decide)) fun _ h =>
      .advance _ _ (Or.inr (Or.inr (Or.inr (Or.inl ⟨hs, rfl⟩)))) hflag h
  · exact sendOrClose_moves hin (assembles_of_ne (by decide) (by decide)) fun _ h =>
      .advance _ _ (Or.inr (Or.inr (Or.inl ⟨hs, rfl⟩))) hflag h

theorem processProtocolStateGetChannelPayloadSupportSent_moves
    (hs : c.protocolState = .getChannelPayloadSupportSent) (hflag : c.machine.closeSessionFlag = 0) :
    MakesMoves crypto c (processProtocolStateGetChannelPayloadSupportSent env c) := by
  have hin : c.protocolState.inSession = true := by rw [hs]; rfl
  refine (protocolAssert_meets hs).bind fun _ _ =>
    onResult_meets proper_library (closeFlagged_moves hin) fun supported _ =>
      Meets.ite (fun _ => closeFlagged_moves hin) fun _ => Meets.ite (fun _ => ?_) fun _ => ?_
  · exact sendOrClose_moves hin (assembles_of_ne (by decide) (by decide)) fun _ h =>
      .activate hs hflag ⟨h.turn _, h.samePayload_moveTo _⟩
  · exact sendOrClose_moves hin (assembles_of_ne (by decide) (by decide)) fun _ h =>
      .advance _ _ (Or.inr (Or.inr (Or.inr (Or.inr ⟨hs, rfl⟩)))) hflag h

theorem activatedInstances_length : ∀ {is : List ℕ} {l : List Byte},
    activatedInstances c is = .ok l → l.length ≤ is.length
  | [], l, h => by
    cases h
    exact le_refl 0
  | i :: is, l, h => by
    unfold activatedInstances at h
    obtain ⟨activated, -, h⟩ := bind_eq_ok.mp h
    obtain ⟨rest, hrest, h⟩ := bind_eq_ok.mp h
    have hle := activatedInstances_length hrest
    cases h
    split
    · exact Nat.succ_le_succ hle
    · exact hle.trans (Nat.le_succ _)

theorem length_instancesAsked {capacity : ℕ} (h : ¬ capacity > ipmiInstancesActivatedLength) :
    (instancesAsked c capacity).length ≤ ipmiInstancesActivatedLength := by
  unfold instancesAsked
  split
  · rw [List.length_range']
    exact not_lt.mp h
  · exact (by decide : 1 ≤ ipmiInstancesActivatedLength)

/-- No more instances are taken from a response than the array has room for. -/
theorem solInstances_spec {i : SolInstances} (h : solInstances c = .ok (some i)) :
    i.solInstancesActivated.length ≤ ipmiInstancesActivatedLength
      ∧ i.solInstancesDeactivatedCount = 0 := by
  unfold solInstances at h
  obtain ⟨val, -, h⟩ := bind_eq_ok.mp h
  dsimp only at h
  split at h
  · cases h
  · rename_i hcapacity
    obtain ⟨activated, hactivated, h⟩ := bind_eq_ok.mp h
    cases h
    exact ⟨(activatedInstances_length hactivated).trans (length_instancesAsked hcapacity), rfl⟩

theorem selectInstances_moves {i : SolInstances} {tryAgain : Bool} (hc : StatesInv c)
    (hs : c.protocolState = .getPayloadActivationStatusSent) (hflag : c.machine.closeSessionFlag = 0)
    (hi : i.Selected) (ht : tryAgain = !c.config.behavior ipmiconsoleBehaviorDeactivateOnly) :
    MakesMoves crypto c (sendOrClose .deactivatePayloadRq .deactivatePayloadSent now
      (({ c with instances := i } : Ctx).setDeactivatePayloadInstances tryAgain)) := by
  have hk : Kept c (({ c with instances := i } : Ctx).setDeactivatePayloadInstances tryAgain) :=
    { Kept.refl c with }
  rw [StatesInv, hs] at hc
  refine sendOrClose_moves_of (by rw [hs]; rfl) hk rfl
    (assembles_deactivate ((hc.select hi tryAgain).instances rfl)) fun _ h => ?_
  subst ht
  exact .select i hs hflag hi ⟨h.turn _, h.samePayload_moveTo _⟩

theorem processProtocolStateGetPayloadActivationStatusSent_moves (hc : StatesInv c)
    (hs : c.protocolState = .getPayloadActivationStatusSent) (hflag : c.machine.closeSessionFlag = 0) :
    MakesMoves crypto c (processProtocolStateGetPayloadActivationStatusSent env c) := by
  have hin : c.protocolState.inSession = true := by rw [hs]; rfl
  obtain ⟨hclear, hclear'⟩ := hc.deactivate (by rw [hs]; rfl)
  unfold processProtocolStateGetPayloadActivationStatusSent checkSolActivated
  refine (protocolAssert_meets hs).bind fun _ _ => (protocolAssert_meets hclear).bind fun _ _ =>
    (protocolAssert_meets hclear').bind fun _ _ =>
      onResult_meets proper_library (closeFlagged_moves hin) fun i hi => ?_
  cases i with
  | none => exact closeFlagged_moves hin
  | some i =>
    obtain ⟨hlength, hzero⟩ := solInstances_spec hi
    have hk : Kept c { c with instances := i } := { Kept.refl c with }
    refine Meets.ite (fun _ => ?_) fun _ => ?_
    · exact closeNow_moves_of hin (hk.trans (kept_setCloseSessionFlag _)) rfl
    · refine Meets.ite (fun honly => ?_) fun honly => ?_
      · refine Meets.ite (fun hactivated => ?_) fun _ => ?_
        · have hsel : i.Selected := ⟨of_decide_eq_true hactivated, hlength, hzero⟩
          exact selectInstances_moves hc hs hflag hsel (by rw [honly]; rfl)
        · exact closeNow_moves_of hin ((hk.trans (kept_setCloseSessionFlag _)).trans
            (kept_setDeactivateOnlySucceededFlag _)) rfl
      · have honly : c.config.behavior ipmiconsoleBehaviorDeactivateOnly = false :=
          Bool.eq_false_iff.mpr honly
        refine Meets.ite (fun hactivated => ?_) fun _ => ?_
        · have hsel : i.Selected := ⟨of_decide_eq_true hactivated, hlength, hzero⟩
          exact selectInstances_moves hc hs hflag hsel (by rw [honly]; rfl)
        · exact sendOrClose_moves_of hin hk rfl (assembles_of_ne (by decide) (by decide)) fun _ h =>
            .activateIdle i hs hflag honly ⟨h.turn _, h.samePayload_moveTo _⟩

theorem establishSol_moves (hc : StatesInv c) (hs : c.protocolState = .solSession) :
    MakesMoves crypto c (establishSol env c) := by
  refine (solSent_meets fun _ => hs).bind ?_
  rintro ⟨ok, c'⟩ hq
  refine Meets.ite (fun _ => Meets.ok (.single (quiet_move hq))) fun _ => ?_
  exact MakesMoves.of_quiet hq
    (deactivateFlagged_moves (hq.statesInv hc) (Or.inr (hq.protocolState.trans hs)))

theorem notifyEstablished_moves (hc : StatesInv c) (hs : c.protocolState = .activatePayloadSent)
    (hflag : c.machine.closeSessionFlag = 0) : MakesMoves crypto c (notifyEstablished env c) := by
  have hmove : Move crypto c (c.moveTo .solSession) := .establish c hs hflag
  have hc' := hmove.statesInv hc
  refine Meets.ite (fun _ => deactivateFlagged_moves hc (Or.inl hs)) fun _ => ?_
  refine Meets.weaken (R := Moves crypto (c.moveTo .solSession)) ?_ fun _ hm => .head hmove hm
  refine Meets.ite (fun _ => ?_) fun _ => establishSol_moves hc' rfl
  refine Meets.ite (fun _ => deactivateFlagged_moves hc' (Or.inr rfl)) fun _ => ?_
  have hq : Quiet none (c.moveTo .solSession) { c.moveTo .solSession with sol := { c.sol with
      consoleBmcToRemoteConsole := c.sol.consoleBmcToRemoteConsole ++ [0] } } :=
    { Quiet.refl none _ with }
  exact MakesMoves.of_quiet hq (establishSol_moves (hq.statesInv hc') rfl)

/-- A new port is tried once, instead of the primary one. -/
theorem checkTryNewPort_spec {consolePort : BitVec 16}
    (h : checkTryNewPort c = .ok (some (some consolePort))) : consolePort ≠ rmcpPrimaryRmcpPort := by
  unfold checkTryNewPort at h
  obtain ⟨port, -, h⟩ := bind_eq_ok.mp h
  rintro rfl
  by_cases hport : c.machine.consolePort = port
  · rw [if_pos hport] at h
    cases h
  · rw [if_neg hport] at h
    split at h
    · rename_i hprimary
      rw [hprimary] at hport
      split at h
      · cases h
      · cases h
        exact hport rfl
    · cases h

theorem tryNewPort_moves {consolePort : BitVec 16} (hc : StatesInv c)
    (hs : c.protocolState = .activatePayloadSent) (hflag : c.machine.closeSessionFlag = 0)
    (hport : consolePort ≠ rmcpPrimaryRmcpPort) :
    MakesMoves crypto c (tryNewPort env consolePort c) := by
  have hmove : Move crypto c { c with machine := { c.machine with
      consolePort := consolePort, tryNewPortFlag := c.machine.tryNewPortFlag + 1 } } :=
    .newPort c consolePort hs hflag hport
  exact (deactivateOrAgain_moves (hmove.statesInv hc) (Or.inl hs)).weaken fun _ hm => .head hmove hm

theorem processActivated_moves (hc : StatesInv c) (hs : c.protocolState = .activatePayloadSent)
    (hflag : c.machine.closeSessionFlag = 0) : MakesMoves crypto c (processActivated env c) := by
  refine (protocolAssert_meets hs).bind fun _ _ =>
    onResult_meets proper_library (deactivateFlagged_moves hc (Or.inl hs)) fun size _ => ?_
  cases size with
  | none => exact deactivateFlagged_moves hc (Or.inl hs)
  | some size =>
    have hq : Quiet none c { c with sol := { c.sol with maxSolCharacterSendSize := size } } :=
      { Quiet.refl none c with }
    have hc' := hq.statesInv hc
    refine MakesMoves.of_quiet hq
      (onResult_meets proper_library (deactivateFlagged_moves hc' (Or.inl hs)) fun port hport => ?_)
    rcases port with _ | _ | port
    · exact deactivateFlagged_moves hc' (Or.inl hs)
    · exact notifyEstablished_moves hc' hs hflag
    · exact tryNewPort_moves hc' hs hflag (checkTryNewPort_spec hport)

theorem processActivatedElsewhere_moves (hs : c.protocolState = .activatePayloadSent)
    (hflag : c.machine.closeSessionFlag = 0) :
    MakesMoves crypto c (processActivatedElsewhere env c) := by
  have hin : c.protocolState.inSession = true := by rw [hs]; rfl
  have hk : Kept c c.countActivate := { Kept.refl c with }
  refine Meets.ite (fun _ => ?_) fun hcount => ?_
  · exact closeNow_moves_of hin (hk.trans (kept_setCloseSessionFlag _)) rfl
  · exact sendOrClose_moves_of hin hk rfl (assembles_of_ne (by decide) (by decide)) fun _ h =>
      .activatedElsewhere hs hflag (not_lt.mp hcount) ⟨h.turn _, h.samePayload_moveTo _⟩

theorem processProtocolStateActivatePayloadSent_moves (hc : StatesInv c)
    (hs : c.protocolState = .activatePayloadSent) :
    MakesMoves crypto c (processProtocolStateActivatePayloadSent env c) := by
  have hin : c.protocolState.inSession = true := by rw [hs]; rfl
  refine Meets.ite (fun _ => deactivateNow_moves hc (Or.inl hs)) fun hflag => ?_
  have hflag : c.machine.closeSessionFlag = 0 := not_not.mp hflag
  refine (protocolAssert_meets hs).bind fun _ _ =>
    onResult_meets proper_library (closeFlagged_moves hin) fun activated _ => ?_
  rcases activated with _ | _ | _
  · exact closeFlagged_moves hin
  · exact processActivated_moves hc hs hflag
  · exact processActivatedElsewhere_moves hs hflag

/-! ### Closing -/

theorem nextInstance_moves (hc : StatesInv c) (hs : c.protocolState = .deactivatePayloadSent)
    (hnext : c.config.behavior ipmiconsoleBehaviorDeactivateOnly
      ∨ (c.machine.deactivatePayloadInstancesAndTryAgainFlag ≠ 0 ∧ c.machine.closeSessionFlag = 0))
    (hall : c.countDeactivated.allDeactivated = false) :
    MakesMoves crypto c
      (sendOrClose .deactivatePayloadRq .deactivatePayloadSent now c.countDeactivated) := by
  have hk : Kept c c.countDeactivated := { Kept.refl c with }
  rw [StatesInv, hs] at hc
  exact sendOrClose_moves_of (by rw [hs]; rfl) hk rfl
    (assembles_deactivate ((hc.next hall).instances rfl)) fun _ h =>
      .next hs hnext hall ⟨h.turn _, h.samePayload_moveTo _⟩

theorem processProtocolStateDeactivatePayloadSent_moves (hc : StatesInv c)
    (hs : c.protocolState = .deactivatePayloadSent) :
    MakesMoves crypto c (processProtocolStateDeactivatePayloadSent env c) := by
  have hin : c.protocolState.inSession = true := by rw [hs]; rfl
  have hk : Kept c c.countDeactivated := { Kept.refl c with }
  refine Meets.ite (fun honly => ?_) fun honly => ?_
  · refine Meets.ite (fun _ => ?_) fun hall => ?_
    · exact closeNow_moves_of hin ((hk.trans (kept_setDeactivateOnlySucceededFlag _)).trans
        (kept_setCloseSessionFlag _)) rfl
    · exact nextInstance_moves hc hs (Or.inl honly) (Bool.eq_false_iff.mpr hall)
  · have honly : c.config.behavior ipmiconsoleBehaviorDeactivateOnly = false :=
      Bool.eq_false_iff.mpr honly
    refine Meets.ite (fun _ => closeNow_moves hin) fun hflags => ?_
    have hflag : c.machine.closeSessionFlag = 0 := by
      by_contra h
      exact hflags (Or.inl h)
    refine Meets.ite (fun htry => ?_) fun _ => Meets.error proper_quit
    refine Meets.ite (fun _ => ?_) fun hall => ?_
    · have hk' : Kept c c.countDeactivated.tryAgain := { Kept.refl c with }
      refine Meets.ite (fun _ => ?_) fun _ => ?_
      · exact closeNow_moves_of hin (hk'.trans (kept_setCloseSessionFlag _)) rfl
      · exact sendOrClose_moves_of hin hk' rfl (assembles_of_ne (by decide) (by decide)) fun _ h =>
          .again hs hflag honly htry ⟨h.turn _, h.samePayload_moveTo _⟩
    · exact nextInstance_moves hc hs (Or.inr ⟨htry, hflag⟩) (Bool.eq_false_iff.mpr hall)

theorem processProtocolStateCloseSessionSent_moves (hc : StatesInv c)
    (hs : c.protocolState = .closeSessionSent) :
    MakesMoves crypto c (processProtocolStateCloseSessionSent env c) := by
  refine Meets.ite (fun _ => Meets.error proper_quit) fun hflags => ?_
  have hflag : c.machine.closeSessionFlag = 0 := by
    by_contra h
    exact hflags (Or.inl h)
  refine Meets.ite (fun ht => ?_) fun _ => Meets.error proper_quit
  refine (protocolAssert_meets (hc.port ht)).bind fun _ _ => ?_
  cases env.newSession with
  | none => exact Meets.error proper_quit
  | some randoms =>
    exact (sendOrQuit_meets (assembles_of_ne (by decide) (by decide))).bind fun _ h =>
      Meets.ok (.single (.restart randoms env.now hs hflag h))

/-! ### The state machine -/

theorem expectPacket_meets {q : PacketType} : Meets (expectPacket (some q) q) (fun _ => True) Halt.Proper :=
  (protocolAssert_meets rfl).weaken fun _ _ => trivial

theorem expectPacketUnless_meets {flag : Prop} [Decidable flag] {q : PacketType}
    (h : flag ∨ p = some q) : Meets (expectPacketUnless flag p q) (fun _ => True) Halt.Proper := by
  refine Meets.ite (fun _ => Meets.ok trivial) fun hflag => ?_
  obtain rfl := h.resolve_left hflag
  exact expectPacket_meets

/-- Entered to close the session, the state machine reads no packet. -/
theorem stateMachine_closing (hc : StatesInv c) (hflag : c.machine.closeSessionFlag ≠ 0)
    (hlater : c.protocolState.closedLater = true) :
    Meets (stateMachine crypto env p c)
      (fun c' => c.protocolState.inSession = true ∧ Moves crypto c c') Halt.Proper := by
  unfold stateMachine
  cases hs : c.protocolState <;> rw [hs] at hlater <;> try cases hlater
  case rakpMessage3Sent =>
    exact (expectPacketUnless_meets (Or.inl hflag)).bind fun _ _ =>
      Meets.ite (fun _ => Meets.error proper_quit) fun hn => absurd hflag hn
  case activatePayloadSent =>
    exact (expectPacketUnless_meets (Or.inl hflag)).bind fun _ _ =>
      (processProtocolStateActivatePayloadSent_moves hc hs).weaken fun _ h => ⟨rfl, h⟩
  case deactivatePayloadSent =>
    exact (expectPacketUnless_meets (Or.inl hflag)).bind fun _ _ =>
      (processProtocolStateDeactivatePayloadSent_moves hc hs).weaken fun _ h => ⟨rfl, h⟩
  case closeSessionSent =>
    exact (expectPacketUnless_meets (Or.inl (Or.inl hflag))).bind fun _ _ =>
      Meets.ite (fun _ => Meets.error proper_quit) fun hn => absurd (Or.inl hflag) hn
  case stateEnd => exact Meets.error proper_quit

/-- Entered after a packet was accepted outside of the session setup, it is the response of the
    state. -/
theorem stateMachine_response {q : PacketType} (hc : StatesInv c)
    (hflag : c.machine.closeSessionFlag = 0 ∨ c.protocolState.closedLater = true)
    (hsetup : setupPacketType c.protocolState = none) (hq : c.protocolState.Awaits q) :
    MakesMoves crypto c (stateMachine crypto env (some q) c) := by
  unfold stateMachine
  unfold ProtocolState.Awaits at hq
  cases hs : c.protocolState <;> rw [hs] at hflag hsetup hq <;> try cases hsetup
  all_goals simp only [setupPacketType, ipmiPacketType, reduceCtorEq, false_or, or_false, false_and,
    true_and, Option.some.injEq, ProtocolState.closedLater] at hq hflag
  case getAuthenticationCapabilitiesSent =>
    subst hq
    exact expectPacket_meets.bind fun _ _ =>
      processProtocolStateGetAuthenticationCapabilitiesSent_moves hs hflag
  case setSessionPrivilegeLevelSent =>
    subst hq
    exact expectPacket_meets.bind fun _ _ =>
      processProtocolStateSetSessionPrivilegeLevelSent_moves hs hflag
  case getChannelPayloadSupportSent =>
    subst hq
    exact expectPacket_meets.bind fun _ _ =>
      processProtocolStateGetChannelPayloadSupportSent_moves hs hflag
  case getPayloadActivationStatusSent =>
    subst hq
    exact expectPacket_meets.bind fun _ _ =>
      processProtocolStateGetPayloadActivationStatusSent_moves hc hs hflag
  case activatePayloadSent =>
    subst hq
    exact (expectPacketUnless_meets (Or.inr rfl)).bind fun _ _ =>
      processProtocolStateActivatePayloadSent_moves hc hs
  case solSession => exact processProtocolStateSolSessionReceive_moves hc hs
  case deactivatePayloadSent =>
    subst hq
    exact (expectPacketUnless_meets (Or.inr rfl)).bind fun _ _ =>
      processProtocolStateDeactivatePayloadSent_moves hc hs
  case closeSessionSent =>
    subst hq
    exact (expectPacketUnless_meets (Or.inr rfl)).bind fun _ _ =>
      processProtocolStateCloseSessionSent_moves hc hs

/-- Entered after a session setup message was accepted, it is the message that the state waits for. -/
theorem stateMachine_setup {q : PacketType} (hc : StatesInv c)
    (hflag : c.machine.closeSessionFlag = 0 ∨ c.protocolState.closedLater = true)
    (hsetup : setupPacketType c.protocolState ≠ none) (hacc : Accepts crypto q c c₁) :
    MakesMoves crypto c (stateMachine crypto env (some q) c₁) := by
  obtain ⟨-, -, hm, hq⟩ := hacc.kept
  have hs₁ := hacc.protocolState
  unfold stateMachine
  unfold ProtocolState.Awaits at hq
  cases hs : c.protocolState <;> rw [hs] at hflag hsetup hq hs₁ <;> try exact absurd rfl hsetup
  all_goals
    simp only [setupPacketType, ipmiPacketType, reduceCtorEq, or_false, false_and,
      Option.some.injEq, ProtocolState.closedLater] at hq hflag
    subst hq
    rw [hs₁]
  case openSessionRequestSent =>
    exact expectPacket_meets.bind fun _ _ =>
      processProtocolStateOpenSessionRequestSent_moves hs hflag hacc
  case rakpMessage1Sent =>
    exact expectPacket_meets.bind fun _ _ =>
      processProtocolStateRakpMessage1Sent_moves hc hs hflag hacc
  case rakpMessage3Sent =>
    refine (expectPacketUnless_meets (Or.inr rfl)).bind fun _ _ => ?_
    by_cases hflag : c.machine.closeSessionFlag = 0
    · exact processProtocolStateRakpMessage3Sent_moves hs hflag hacc
    · rw [← hm] at hflag
      exact Meets.ite (fun _ => Meets.error proper_quit) fun hn => absurd hflag hn

/-- After an accepted packet the state machine goes on with the response of the state. -/
theorem stateMachine_accepted {q : PacketType} (hc : StatesInv c)
    (hflag : c.machine.closeSessionFlag = 0 ∨ c.protocolState.closedLater = true)
    (hacc : Accepts crypto q c c₁) : MakesMoves crypto c (stateMachine crypto env (some q) c₁) := by
  by_cases hsetup : setupPacketType c.protocolState = none
  · obtain ⟨-, -, hm, hq⟩ := hacc.kept
    have hs₁ := hacc.protocolState
    have hmoves : MakesMoves crypto c₁ (stateMachine crypto env (some q) c₁) := by
      refine stateMachine_response (hacc.statesInv hc) ?_ (by rw [hs₁]; exact hsetup) (by rw [hs₁]; exact hq)
      rw [hm, hs₁]
      exact hflag
    exact hmoves.weaken fun _ h => .head (.accept q hsetup hacc) h
  · exact stateMachine_setup hc hflag hsetup hacc

/-! ### Calls of the engine -/

/-- What `_close_session` leaves: the closing has been initiated, or is left to the state machine. -/
inductive Closing (crypto : Crypto) (c : Ctx) : Bool × Ctx → Prop where
  | initiated {c' : Ctx} : c.protocolState.inSession = true → Moves crypto c c' →
      Closing crypto c (true, c')
  | later : c.protocolState.closedLater = true → Closing crypto c (false, c)

theorem closeSession_meets (hc : StatesInv c) (hflag : c.machine.closeSessionFlag ≠ 0) :
    Meets (closeSession now c) (Closing crypto c) Halt.Proper := by
  have hclose (hin : c.protocolState.inSession = true) :
      Meets (do return (true, ← closeNow now c)) (Closing crypto c) Halt.Proper :=
    (closeNow_moves hin).bind fun _ h => Meets.ok (.initiated hin h)
  unfold closeSession
  refine (protocolAssert_meets hflag).bind fun _ _ => ?_
  cases hs : c.protocolState
  case start => exact Meets.error proper_quit
  case getAuthenticationCapabilitiesSent => exact Meets.error proper_quit
  case openSessionRequestSent => exact Meets.error proper_quit
  case rakpMessage1Sent => exact Meets.error proper_quit
  case setSessionPrivilegeLevelSent => exact hclose (by rw [hs]; rfl)
  case getChannelPayloadSupportSent => exact hclose (by rw [hs]; rfl)
  case getPayloadActivationStatusSent => exact hclose (by rw [hs]; rfl)
  case solSession =>
    exact (deactivateNow_moves hc (Or.inr hs)).bind fun _ h =>
      Meets.ok (.initiated (by rw [hs]; rfl) h)
  all_goals exact Meets.ok (.later (by rw [hs]; rfl))

/-- Closing cleanly is done in a session, else the context is given up. -/
theorem closeCleanly_meets (hc : StatesInv c) :
    Meets (closeCleanly crypto env p c)
      (fun c' => c.protocolState.inSession = true ∧ Moves crypto c c') Halt.Proper := by
  have hc' := statesInv_setCloseSessionFlag hc
  have hflag : c.setCloseSessionFlag.machine.closeSessionFlag ≠ 0 := Nat.succ_ne_zero _
  have hclosing : Meets (closeSession env.now c.setCloseSessionFlag)
      (Closing crypto c.setCloseSessionFlag) Halt.Proper := closeSession_meets hc' hflag
  refine hclosing.bind ?_
  rintro _ (⟨hin, hm⟩ | hlater)
  · exact Meets.ok ⟨hin, .head (.flag c) hm⟩
  · exact (stateMachine_closing hc' hflag hlater).weaken fun _ h => ⟨h.1, .head (.flag c) h.2⟩

theorem receiveAndProcess_moves (hc : StatesInv c)
    (hflag : c.machine.closeSessionFlag = 0 ∨ c.protocolState.closedLater = true) :
    MakesMoves crypto c (receiveAndProcess crypto env c) := by
  refine (receivePacket_spec crypto env.now env.beyond c).mono (fun _ h => h)
    (fun _ h => h ▸ proper_library) |>.bind ?_
  rintro ⟨rc, q, c₁⟩ h
  by_cases hrc : rc = .one
  · subst hrc
    have hacc : ∃ q', q = some q' ∧ Accepts crypto q' c c₁ := by
      cases h with
      | refused hrc => exact absurd rfl hrc
      | accepted hp h₁ h₂ hrun => exact ⟨_, rfl, _, _, .accepted hp h₁ h₂ hrun⟩
    obtain ⟨q', rfl, hacc⟩ := hacc
    exact stateMachine_accepted hc hflag hacc
  · have hq : Quiet (c.packetType env.beyond) c c₁ := by
      cases h with
      | refused _ h => exact h.toQuiet
      | accepted => exact absurd rfl hrc
    have hmove : Move crypto c c₁ := .quiet _ (fun _ h => packetTypeOf_awaits h) hq
    have hclean : MakesMoves crypto c (closeCleanly crypto env q c₁) :=
      (closeCleanly_meets (hq.statesInv hc)).weaken fun _ h => .head hmove h.2
    cases rc with
    | minusOne => exact hclean
    | zero => exact Meets.ite (fun _ => hclean) fun _ => Meets.ok (.single hmove)
    | one => exact absurd rfl hrc

/-- What `_ipmi_retransmission_timeout` leaves. -/
inductive Retransmitted (crypto : Crypto) (c : Ctx) : Rc × Ctx → Prop where
  | failed {c' : Ctx} : SameSession none c c' → Retransmitted crypto c (.minusOne, c')
  | waiting {c' : Ctx} : Moves crypto c c' →
      (c'.machine.closeSessionFlag = 0 ∨ c'.protocolState.closedLater = true) →
      Retransmitted crypto c (.zero, c')
  | timedOut {c' : Ctx} : Moves crypto c c' → Retransmitted crypto c (.one, c')

theorem assembles_retransmitted {q : RequestType} (hc : StatesInv c)
    (h : retransmitted c.protocolState = some q) : Assembles q c := by
  cases hs : c.protocolState <;> rw [hs] at h <;> simp only [retransmitted, reduceCtorEq,
    Option.some.injEq] at h
  case deactivatePayloadSent =>
    subst h
    exact assembles_deactivate (hc.instances hs)
  all_goals
    subst h
    exact assembles_of_ne (by decide) (by decide)

theorem retransmit_meets {q : RequestType} (hc : StatesInv c)
    (h : retransmitted c.protocolState = some q) :
    Meets (retransmit q now c) (Retransmitted crypto c) Halt.Proper := by
  refine (sendIpmiPacket_meets (assembles_retransmitted hc h)).bind ?_
  rintro _ (hsent | hfailed)
  · exact Meets.ok (.timedOut (.single (.resend q (Or.inl h) hsent)))
  · exact Meets.ok (.failed hfailed)

theorem closeUnactivated_meets (hs : c.protocolState = .activatePayloadSent) :
    Meets (closeUnactivated now c) (Retransmitted crypto c) Halt.Proper := by
  have hin : c.protocolState.inSession = true := by rw [hs]; rfl
  refine (sendIpmiPacket_meets (assembles_of_ne (p := .closeSessionRq) (by decide) (by decide))).bind ?_
  rintro _ (hsent | hfailed)
  · exact Meets.ok (.waiting (.single (.close hin (hsent.turn _))) (Or.inr rfl))
  · exact Meets.ok (.failed hfailed)

/-- The timeout of a request, once it has passed. -/
theorem ipmiRetransmissionTimeout_meets (hc : StatesInv c) (hstart : c.protocolState ≠ .start)
    (hsol : c.protocolState ≠ .solSession)
    (hflag : c.machine.closeSessionFlag = 0 ∨ c.protocolState.closedLater = true) :
    Meets (ipmiRetransmissionTimeout env c) (Retransmitted crypto c) Halt.Proper := by
  have hq : Quiet none c c.countRetransmission := { Quiet.refl none c with }
  have hc' : StatesInv c.countRetransmission := hq.statesInv hc
  refine (protocolAssert_meets hstart).bind fun _ _ => (protocolAssert_meets hsol).bind fun _ _ =>
    Meets.ite (fun _ => Meets.ok (.waiting .refl hflag)) fun _ => ?_
  refine Meets.weaken (R := Retransmitted crypto c.countRetransmission) ?_ ?_
  · refine Meets.ite (fun _ => Meets.ok (.failed (SameSession.refl none _))) fun _ =>
      Meets.ite (fun _ => Meets.ok (.failed (SameSession.refl none _))) fun _ =>
      Meets.ite (fun h => closeUnactivated_meets h.1) fun _ => Meets.ite (fun hs => ?_) fun _ => ?_
    · by_cases hf : c.countRetransmission.machine.closeSessionFlag = 0
      · rw [if_pos hf]
        exact Meets.ok (.timedOut .refl)
      · rw [if_neg hf]
        exact Meets.ok (.timedOut (.single (.closeTimeout _ hs hf)))
    · split
      · rename_i q hq
        exact retransmit_meets hc' hq
      · exact Meets.ok (.failed (SameSession.refl none _))
  · rintro _ (h | ⟨h, hf⟩ | h)
    · exact .failed (hq.toSameSession.trans h)
    · exact .waiting (.head (quiet_move hq) h) hf
    · exact .timedOut (.head (quiet_move hq) h)

theorem processRetransmission_moves (hc : StatesInv c) (hstart : c.protocolState ≠ .start)
    (hsol : c.protocolState ≠ .solSession)
    (hflag : c.machine.closeSessionFlag = 0 ∨ c.protocolState.closedLater = true) :
    MakesMoves crypto c (processRetransmission crypto env c) := by
  have htimeout : Meets (ipmiRetransmissionTimeout env c) (Retransmitted crypto c) Halt.Proper :=
    ipmiRetransmissionTimeout_meets hc hstart hsol hflag
  refine htimeout.bind ?_
  rintro _ (h | ⟨h, hf⟩ | h)
  · -- closing cleanly goes on only in a session, where the failure is a move
    exact (closeCleanly_meets (h.statesInv hc)).weaken fun _ hm =>
      .head (.notSent (h.protocolState ▸ hm.1) h) hm.2
  · have hc' := h.statesInv hc
    refine Meets.ite (fun ht => ?_) fun _ =>
      (receiveAndProcess_moves hc' hf).weaken fun _ hm => h.trans hm
    obtain ⟨hflag, hs⟩ := hc'.closeTimeout ht
    exact (stateMachine_closing hc' hflag (by rw [hs]; rfl)).weaken fun _ hm => h.trans hm.2
  · exact Meets.ok h

theorem processSolSession_moves (hc : StatesInv c) (hs : c.protocolState = .solSession)
    (hflag : c.machine.closeSessionFlag = 0) :
    MakesMoves crypto c (processSolSession crypto env c) := by
  have hsend : Meets (processProtocolStateSolSessionSend env c) (SolStep crypto c) Halt.Proper :=
    processProtocolStateSolSessionSend_meets hc hs
  refine hsend.bind ?_
  rintro ⟨done, c'⟩ h
  cases done with
  | true => exact Meets.ok h.moves
  | false =>
    have hm : c'.machine = c.machine := h.machine rfl
    have hflag' : c'.machine.closeSessionFlag = 0 := by rw [hm]; exact hflag
    exact (receiveAndProcess_moves (h.moves.statesInv hc) (Or.inl hflag')).weaken fun _ hm =>
      h.moves.trans hm

/-- A session that has not been started is started, and then runs. -/
theorem processOpen_moves (hc : StatesInv c)
    (hflag : c.machine.closeSessionFlag = 0 ∨ c.protocolState.closedLater = true) :
    MakesMoves crypto c
      (if c.protocolState = .start then processProtocolStateStart env c
        else if env.sessionTimeout then .error .quit
        else if c.protocolState = .solSession then processSolSession crypto env c
        else processRetransmission crypto env c) := by
  refine Meets.ite (fun hs => ?_) fun hstart => Meets.ite (fun _ => Meets.error proper_quit) fun _ =>
    Meets.ite (fun hs => ?_) fun hsol => processRetransmission_moves hc hstart hsol hflag
  · rw [hs] at hflag
    exact processProtocolStateStart_moves hs (hflag.resolve_right (by decide))
  · rw [hs] at hflag
    exact processSolSession_moves hc hs (hflag.resolve_right (by decide))

/-- A call of `_process_ctx` makes moves. -/
theorem processCtx_moves (hc : StatesInv c) : MakesMoves crypto c (processCtx crypto env c) := by
  unfold processCtx checkCloseSession
  by_cases hflag : c.machine.closeSessionFlag = 0
  · rw [if_pos hflag]
    exact processOpen_moves hc (Or.inl hflag)
  · rw [if_neg hflag]
    have hclosing : Meets (closeSession env.now c) (Closing crypto c) Halt.Proper :=
      closeSession_meets hc hflag
    refine hclosing.bind ?_
    rintro _ (⟨-, hm⟩ | hlater)
    · exact Meets.ok hm
    · exact processOpen_moves hc (Or.inr hlater)

/-- Every step of the engine makes moves, and fails no assertion. -/
theorem consoleStep_moves (hc : StatesInv c) (e : ConsoleEvent) :
    MakesMoves crypto c (consoleStep crypto c e) := by
  cases e with
  | recvfrom pkt => exact Meets.ok (.single (quiet_move { Quiet.refl none c with }))
  | consoleRead buffer =>
    refine Meets.ite (fun _ => Meets.ok .refl) fun _ => ?_
    split
    · exact Meets.ok (.single (quiet_move { Quiet.refl none c with }))
    · exact Meets.ok (.single (.flag c))
  | generateBreak =>
    exact Meets.ite (fun _ => Meets.ok .refl) fun _ =>
      Meets.ok (.single (quiet_move { Quiet.refl none c with }))
  | consoleWrite => exact Meets.ok (.single (quiet_move { Quiet.refl none c with }))
  | close => exact Meets.ok (.single (.flag c))
  | process env sendResults =>
    have hq : Quiet none c { c with sendResults := sendResults } := { Quiet.refl none c with }
    exact MakesMoves.of_quiet hq (processCtx_moves (hq.statesInv hc))

/-! ### Runs -/

/-- What the moves keep holds in every run. -/
theorem Reached.induction {P : Ctx → Prop} (hinv : StatesInv c₀) (h₀ : P c₀)
    (hmove : ∀ c c', StatesInv c → Move crypto c c' → P c → P c') (h : Reached crypto c₀ c) : P c := by
  have hboth : StatesInv c ∧ P c := by
    induction h with
    | refl => exact ⟨hinv, h₀⟩
    | step _ hstep ih =>
      have hmoves := (consoleStep_moves ih.1 _).value _ hstep
      clear hstep
      induction hmoves with
      | refl => exact ih
      | tail _ hm ih' => exact ⟨hm.statesInv ih'.1, hmove _ _ ih'.1 hm ih'.2⟩
  exact hboth.2

theorem reached_statesInv {randoms : Randoms}
    (h : Reached crypto (ipmiconsoleCtxSessionSetup c₀ randoms now) c) : StatesInv c :=
  h.induction (statesInv_setup c₀ randoms now) (statesInv_setup c₀ randoms now)
    fun _ _ _ hmove hc => hmove.statesInv hc

/-- In every run from the start of a session, whatever arrives, times out, cannot be sent or is asked
    for by the user, no step fails an assertion about the protocol state, the packet type, the keys or
    the flags, and none reads the packet type before it is set. -/
theorem consoleStep_assertions (crypto : Crypto) (c₀ : Ctx) (randoms : Randoms) (now : ℕ) (c : Ctx)
    (h : Reached crypto (ipmiconsoleCtxSessionSetup c₀ randoms now) c) (e : ConsoleEvent) :
    consoleStep crypto c e ≠ .error .assertion ∧ consoleStep crypto c e ≠ .error .uninitialized := by
  have hstep : MakesMoves crypto c (consoleStep crypto c e) :=
    consoleStep_moves (reached_statesInv h) e
  refine ⟨fun he => ?_, fun he => ?_⟩
  · rcases hstep.reason _ he with h | h <;> cases h
  · rcases hstep.reason _ he with h | h <;> cases h

/-! ### A sample session -/

/-- The object that a packet is parsed into, before there is one. -/
def emptyObj (tmpl : FiidTemplate) : FiidObj := (fiidObjCreate true tmpl).getD ⟨[], [], 0, 0, false⟩

def sampleObjs : ConsoleObjs where
  rmcpHdrRs := emptyObj tmplRmcpHdr
  lanSessionHdrRs := emptyObj tmplLanSessionHdr
  lanMsgHdrRs := emptyObj tmplLanMsgHdrRs
  lanMsgTrlrRs := emptyObj tmplLanMsgTrlr
  rmcpplusSessionHdrRs := emptyObj tmplRmcpplusSessionHdr
  rmcpplusPayloadRs := emptyObj tmplRmcpplusPayload
  rmcpplusSessionTrlrRs := emptyObj tmplRmcpplusSessionTrlr
  cmd p := emptyObj (ipmiconsolePacketTemplate p)

/-- A new context; the session is set up after it is created. -/
def sampleCtx (config : Config) : Ctx where
  config := config
  machine := ⟨.start, 0, 0, 0, 0, 0, 0, 0⟩
  timers := ⟨0, 0, 0, 0⟩
  counts := ⟨0, 0, 0, 0⟩
  window := checkSessionSequenceNumberInit
  messageTag := 0
  requesterSequenceNumber := 0
  nameOnlyLookup := true
  remoteConsoleSessionId := 0
  remoteConsoleRandomNumber := List.Vector.replicate 16 0
  keys := initialKeys
  instances := ⟨0, [], 0⟩
  sol := SolSession.setup 0 0
  objs := sampleObjs
  ipmiFromBmc := []
  sendResults := []
  log := []

/-- A user without a name and a password, as cipher suite 0 allows. -/
def sampleConfig : Config where
  port := rmcpPrimaryRmcpPort
  username := []
  password := []
  kG := []
  privilegeLevel := 4
  cipherSuiteId := 0
  algorithms := noAlgorithms
  workaroundFlags := 0
  engineFlags := 0
  behaviorFlags := 0
  maximumRetransmissionCount := 0
  acceptablePacketErrorsCount := 16
  solPayloadInstance := 1

def sampleRandoms : Randoms where
  messageTag := 0
  requesterSequenceNumber := 0
  remoteConsoleSessionId := 0x11223344
  remoteConsoleRandomNumber := List.Vector.replicate 16 0

def sampleCrypto : Crypto where
  hmacSha1 _ _ := List.Vector.replicate 20 0
  hmacMd5 _ _ := List.Vector.replicate 16 0
  hmacSha256 _ _ := List.Vector.replicate 32 0
  md5 _ := List.Vector.replicate 16 0
  aesCbc128Decrypt _ _ x := x

/-- A call in which everything can be sent and no timeout has passed. -/
def quietEnv : Env := ⟨0, false, false, ⟨false, false, false, false, false⟩, 0, true, true, none⟩

def sampleStart (config : Config) : Ctx := ipmiconsoleCtxSessionSetup (sampleCtx config) sampleRandoms 0

/-- The steps of the engine, one after the other. -/
def consoleSteps (crypto : Crypto) : List ConsoleEvent → Ctx → Except Halt Ctx
  | [], c => .ok c
  | e :: es, c => do consoleSteps crypto es (← consoleStep crypto c e)

/-- Each packet arrives in a call of its own, after the session has been started. -/
def answeredBy (pkts : List (List Byte)) : List ConsoleEvent :=
  .process quietEnv [] :: pkts.flatMap fun pkt => [.recvfrom pkt, .process quietEnv []]

theorem reached_consoleSteps {es : List ConsoleEvent} (h : Reached crypto c₀ c)
    (hes : consoleSteps crypto es c = .ok c') : Reached crypto c₀ c' := by
  induction es generalizing c with
  | nil =>
    cases hes
    exact h
  | cons e es ih =>
    obtain ⟨c₁, hstep, hes⟩ := bind_eq_ok.mp hes
    exact ih (.step h hstep) hes

/-- A property of where some steps lead, from its evaluation. -/
theorem exists_reached {es : List ConsoleEvent} {P : Ctx → Bool}
    (h : (consoleSteps crypto es c).toOption.any P = true) : ∃ c', Reached crypto c c' ∧ P c' = true := by
  cases hes : consoleSteps crypto es c with
  | error e =>
    rw [hes] at h
    cases h
  | ok c' =>
    rw [hes] at h
    exact ⟨c', reached_consoleSteps .refl hes, h⟩

/-- The responses of a BMC up to the payload support; there is no authentication. -/
def responsePkts : List (List Byte) :=
  [[0x06, 0x00, 0xff, 0x07, 0x00, 0x00, 0x00, 0x00, 0x00, 0x00, 0x00, 0x00, 0x00, 0x10, 0x81, 0x1c,
   0x63, 0x20, 0x04, 0x38, 0x00, 0x01, 0x80, 0x07, 0x02, 0x00, 0x00, 0x00, 0x00, 0x1a],
  [0x06, 0x00, 0xff, 0x07, 0x06, 0x11, 0x00, 0x00, 0x00, 0x00, 0x00, 0x00, 0x00, 0x00, 0x24, 0x00,
   0x01, 0x00, 0x04, 0x00, 0x44, 0x33, 0x22, 0x11, 0x88, 0x77, 0x66, 0x55, 0x00, 0x00, 0x00, 0x08,
   0x00, 0x00, 0x00, 0x00, 0x01, 0x00, 0x00, 0x08, 0x00, 0x00, 0x00, 0x00, 0x02, 0x00, 0x00, 0x08,
   0x00, 0x00, 0x00, 0x00],
  [0x06, 0x00, 0xff, 0x07, 0x06, 0x13, 0x00, 0x00, 0x00, 0x00, 0x00, 0x00, 0x00, 0x00, 0x28, 0x00,
   0x02, 0x00, 0x00, 0x00, 0x44, 0x33, 0x22, 0x11, 0x00, 0x00, 0x00, 0x00, 0x00, 0x00, 0x00, 0x00,
   0x00, 0x00, 0x00, 0x00, 0x00, 0x00, 0x00, 0x00, 0x00, 0x00, 0x00, 0x00, 0x00, 0x00, 0x00, 0x00,
   0x00, 0x00, 0x00, 0x00, 0x00, 0x00, 0x00, 0x00],
  [0x06, 0x00, 0xff, 0x07, 0x06, 0x15, 0x00, 0x00, 0x00, 0x00, 0x00, 0x00, 0x00, 0x00, 0x08, 0x00,
   0x03, 0x00, 0x00, 0x00, 0x44, 0x33, 0x22, 0x11],
  [0x06, 0x00, 0xff, 0x07, 0x06, 0x00, 0x44, 0x33, 0x22, 0x11, 0x01, 0x00, 0x00, 0x00, 0x09, 0x00,
   0x81, 0x1c, 0x63, 0x20, 0x04, 0x3b, 0x00, 0x04, 0x9d],
  [0x06, 0x00, 0xff, 0x07, 0x06, 0x00, 0x44, 0x33, 0x22, 0x11, 0x02, 0x00, 0x00, 0x00, 0x10, 0x00,
   0x81, 0x1c, 0x63, 0x20, 0x08, 0x4e, 0x00, 0x03, 0x00, 0x00, 0x00, 0x00, 0x00, 0x00, 0x00, 0x87]]

/-- The next response: two instances of the payload are activated. -/
def activationStatusPkt : List Byte :=
  [0x06, 0x00, 0xff, 0x07, 0x06, 0x00, 0x44, 0x33, 0x22, 0x11, 0x03, 0x00, 0x00, 0x00, 0x0b, 0x00,
   0x81, 0x1c, 0x63, 0x20, 0x0c, 0x4a, 0x00, 0x02, 0x03, 0x00, 0x85]

/-- The response to a request to deactivate the payload. -/
def deactivatePkt₁ : List Byte :=
  [0x06, 0x00, 0xff, 0x07, 0x06, 0x00, 0x44, 0x33, 0x22, 0x11, 0x04, 0x00, 0x00, 0x00, 0x08, 0x00,
   0x81, 0x1c, 0x63, 0x20, 0x10, 0x49, 0x00, 0x87]

set_option maxRecDepth 20000 in
theorem activationStatusPkt_deactivates :
    (consoleSteps sampleCrypto (answeredBy (responsePkts ++ [activationStatusPkt])
        ++ [.recvfrom deactivatePkt₁]) (sampleStart sampleConfig)).toOption.any
      (fun c => c.keys ≠ initialKeys && c.protocolState = .deactivatePayloadSent
        && c.machine.deactivatePayloadInstances ≠ 0) = true := by
  decide +kernel

/-- The keys have been computed and an activated instance found, and the response to the request that
    deactivates it is processed. -/
theorem consoleStep_assertions_sample :
    ∃ c, Reached sampleCrypto (sampleStart sampleConfig) c ∧ c.keys ≠ initialKeys
      ∧ c.protocolState = .deactivatePayloadSent ∧ c.machine.deactivatePayloadInstances ≠ 0
      ∧ consoleStep sampleCrypto c (.process quietEnv []) ≠ .error .assertion
      ∧ consoleStep sampleCrypto c (.process quietEnv []) ≠ .error .uninitialized := by
  obtain ⟨c, hreached, hc⟩ := exists_reached activationStatusPkt_deactivates
  simp only [Bool.and_eq_true, decide_eq_true_eq] at hc
  obtain ⟨⟨hkeys, hs⟩, hflag⟩ := hc
  exact ⟨c, hreached, hkeys, hs, hflag, consoleStep_assertions sampleCrypto (sampleCtx sampleConfig)
    sampleRandoms 0 c hreached _⟩

end FreeIpmi.Console
