import FreeIpmi.Console.Handlers

/-! The closing of a session.

    Once the session is to be closed, the protocol state goes down to the end, and in
    DEACTIVATE_PAYLOAD_SENT the number of instances still to be deactivated does. A session that only
    deactivates payloads but has activated one itself is stuck there: it has no instance to count. -/

namespace FreeIpmi.Console
open Fiid Lan Rmcpplus Util Calls

/-! ### Measure -/

/-- How far a state is from the end. -/
def ProtocolState.distance : ProtocolState → ℕ
  | .stateEnd => 0
  | .closeSessionSent => 1
  | .deactivatePayloadSent => 2
  | _ => 3

/-- The activated instances that have not been deactivated yet. -/
def SolInstances.remaining (i : SolInstances) : ℕ :=
  i.solInstancesActivated.length - i.solInstancesDeactivatedCount.toNat

/-- What is left of the closing. -/
def Ctx.teardown (c : Ctx) : ℕ ×ₗ ℕ := toLex (c.protocolState.distance, c.instances.remaining)

/-- The part of a pass that waits for a response: one is accepted, or else its request is not sent
    again. -/
def Ctx.waitEnds (crypto : Crypto) (env : Env) (c : Ctx) : Bool :=
  match ipmiRetransmissionTimeout env c with
  | .ok (.minusOne, _) => true
  | .ok (.zero, c') =>
    if c'.machine.closeTimeoutFlag ≠ 0 then true
    else
      match receivePacket crypto env.now env.beyond c' with
      | .ok r => r.rc = .one
      | .error _ => false
  | .ok (.one, _) => false
  | .error _ => false

/-- A call of `_process_ctx` that closes the session neither at once nor for its timeout waits for a
    response, and the wait ends. -/
def Ctx.answered (crypto : Crypto) (c : Ctx) : ConsoleEvent → Bool
  | .process env sendResults =>
    match checkCloseSession env.now { c with sendResults := sendResults } with
    | .ok (false, c') =>
      c'.protocolState != .start && !env.sessionTimeout && c'.protocolState != .solSession
        && c'.waitEnds crypto env
    | _ => false
  | _ => false

/-- A call of `_process_ctx` that closes the session at once. -/
def Ctx.initiates (c : Ctx) : ConsoleEvent → Bool
  | .process _ _ => c.machine.closeSessionFlag ≠ 0 && !c.protocolState.closedLater
  | _ => false

/-- The session only deactivates payloads, and there is none that it has found activated. -/
structure Ctx.Stuck (c : Ctx) : Prop where
  closeSessionFlag : c.machine.closeSessionFlag ≠ 0
  protocolState : c.protocolState = .deactivatePayloadSent
  deactivateOnly : c.config.behavior ipmiconsoleBehaviorDeactivateOnly = true
  activated : c.instances.solInstancesActivated = []

variable {crypto : Crypto} {env : Env} {now : ℕ} {c c₀ c₁ c' : Ctx} {p : Option PacketType}

theorem teardown_lt_of_distance (h : c'.protocolState.distance < c.protocolState.distance) :
    c'.teardown < c.teardown :=
  Prod.Lex.toLex_lt_toLex.mpr (Or.inl h)

theorem teardown_lt_of_remaining (h : c'.protocolState = c.protocolState)
    (hr : c'.instances.remaining < c.instances.remaining) : c'.teardown < c.teardown :=
  Prod.Lex.toLex_lt_toLex.mpr (Or.inr ⟨by rw [h], hr⟩)

theorem teardown_le_of_remaining (h : c'.protocolState = c.protocolState)
    (hr : c'.instances.remaining ≤ c.instances.remaining) : c'.teardown ≤ c.teardown :=
  Prod.Lex.toLex_le_toLex.mpr (Or.inr ⟨by rw [h], hr⟩)

/-- The measure is about the protocol state and the instances. -/
theorem teardown_eq (h : c'.protocolState = c.protocolState) (hi : c'.instances = c.instances) :
    c'.teardown = c.teardown := by
  rw [Ctx.teardown, h, hi]
  rfl

theorem distance_inSession (h : c.protocolState.inSession = true) : 2 ≤ c.protocolState.distance := by
  cases hs : c.protocolState <;> rw [hs] at h <;> first | exact absurd h (by decide) | decide

theorem Turn.teardown_lt_close (h : Turn .closeSessionSent c₁ c') (hin : c.protocolState.inSession = true) :
    c'.teardown < c.teardown := by
  refine teardown_lt_of_distance ?_
  rw [h.protocolState]
  exact distance_inSession hin

theorem Turn.teardown_lt_deactivate (h : Turn .deactivatePayloadSent c₁ c')
    (hs : c.protocolState = .activatePayloadSent ∨ c.protocolState = .solSession) :
    c'.teardown < c.teardown := by
  refine teardown_lt_of_distance ?_
  rw [h.protocolState]
  rcases hs with hs | hs <;> rw [hs] <;> decide

/-! ### The next instance -/

theorem remaining_next (h : c.InstanceInRange) (hflag : c.machine.deactivatePayloadInstances ≠ 0)
    (hall : c.countDeactivated.allDeactivated = false) :
    c.countDeactivated.instances.remaining < c.instances.remaining := by
  obtain ⟨hlt, hle⟩ := h hflag
  have hne : BitVec.ofNat 32 c.instances.solInstancesActivated.length
      ≠ c.instances.solInstancesDeactivatedCount + 1 := of_decide_eq_false hall
  obtain ⟨hadd, -⟩ := toNat_next hle hlt hne
  change c.instances.solInstancesActivated.length - (c.instances.solInstancesDeactivatedCount + 1).toNat
    < c.instances.solInstancesActivated.length - c.instances.solInstancesDeactivatedCount.toNat
  rw [hadd]
  omega

theorem remaining_nil {i : SolInstances} (h : i.solInstancesActivated = []) : i.remaining = 0 := by
  simp [SolInstances.remaining, h]

/-- With no activated instance the counter has nothing to count down. -/
theorem remaining_next_le (hinv : StatesInv c) (hs : c.protocolState = .deactivatePayloadSent)
    (honly : c.config.behavior ipmiconsoleBehaviorDeactivateOnly = true)
    (hall : c.countDeactivated.allDeactivated = false) :
    c.countDeactivated.instances.remaining ≤ c.instances.remaining := by
  by_cases hflag : c.machine.deactivatePayloadInstances = 0
  · have hnil := hinv.activated honly (Or.inr ⟨hs, hflag⟩)
    rw [remaining_nil (i := c.countDeactivated.instances) hnil]
    exact Nat.zero_le _
  · exact (remaining_next (hinv.instances hs) hflag hall).le

/-- Where the session is not stuck, one instance less is left. -/
theorem remaining_next_lt (hinv : StatesInv c) (hs : c.protocolState = .deactivatePayloadSent)
    (honly : c.config.behavior ipmiconsoleBehaviorDeactivateOnly = true)
    (hclosing : c.machine.closeSessionFlag ≠ 0) (hstuck : ¬ c.Stuck)
    (hall : c.countDeactivated.allDeactivated = false) :
    c.countDeactivated.instances.remaining < c.instances.remaining := by
  refine remaining_next (hinv.instances hs) (fun hflag => ?_) hall
  exact hstuck ⟨hclosing, hs, honly, hinv.activated honly (Or.inr ⟨hs, hflag⟩)⟩

/-! ### Moves -/

/-- While the session is closed, no move takes it away from the end. -/
theorem Move.teardown_le (h : Move crypto c c') (hinv : StatesInv c)
    (hclosing : c.machine.closeSessionFlag ≠ 0) :
    c.machine.closeSessionFlag ≤ c'.machine.closeSessionFlag ∧ c'.teardown ≤ c.teardown := by
  cases h with
  | quiet p _ h => exact ⟨h.kept.closeSessionFlag, (teardown_eq h.protocolState h.instances).le⟩
  | flag => exact ⟨Nat.le_succ _, le_refl _⟩
  | closeTimeout _ _ => exact ⟨le_refl _, le_refl _⟩
  | resend p _ h => exact ⟨h.kept.closeSessionFlag, (teardown_eq h.protocolState h.instances).le⟩
  | notSent _ h => exact ⟨h.kept.closeSessionFlag, (teardown_eq h.protocolState h.instances).le⟩
  | accept p _ h =>
    obtain ⟨hk, hs, -, -⟩ := h.kept
    exact ⟨hk.closeSessionFlag, (teardown_eq h.protocolState hs.instances).le⟩
  | advance p s hs hflag h => exact absurd hflag hclosing
  | openSession hs hflag hacc h => exact absurd hflag hclosing
  | exchangeKeys hs hflag hacc _ h => exact absurd hflag hclosing
  | authenticate hs hflag hacc hs' h => exact absurd hflag hclosing
  | activate hs hflag h => exact absurd hflag hclosing
  | activateIdle i hs hflag honly h => exact absurd hflag hclosing
  | activatedElsewhere hs hflag hle h => exact absurd hflag hclosing
  | establish hs hflag => exact absurd hflag hclosing
  | newPort port hs hflag hport => exact absurd hflag hclosing
  | leave hs h => exact ⟨h.1.closeSessionFlag, (h.1.teardown_lt_deactivate hs).le⟩
  | select i hs hflag hi h => exact absurd hflag hclosing
  | next hs honly hall h =>
    have honly := honly.resolve_right fun h => hclosing h.2
    refine ⟨h.1.closeSessionFlag, teardown_le_of_remaining (h.1.protocolState.trans hs.symm) ?_⟩
    rw [h.2.instances]
    exact remaining_next_le hinv hs honly hall
  | again hs hflag honly htry h => exact absurd hflag hclosing
  | close hs h => exact ⟨h.closeSessionFlag, (h.teardown_lt_close hs).le⟩
  | restart randoms now hs hflag h => exact absurd hflag hclosing

theorem Moves.teardown_le (h : Moves crypto c c') (hinv : StatesInv c)
    (hclosing : c.machine.closeSessionFlag ≠ 0) :
    c.machine.closeSessionFlag ≤ c'.machine.closeSessionFlag ∧ c'.teardown ≤ c.teardown := by
  induction h with
  | refl => exact ⟨le_refl _, le_refl _⟩
  | tail hmoves hmove ih =>
    have hclosing' := Nat.ne_of_gt ((Nat.pos_of_ne_zero hclosing).trans_le ih.1)
    have hstep := hmove.teardown_le (Moves.statesInv hmoves hinv) hclosing'
    exact ⟨ih.1.trans hstep.1, hstep.2.trans ih.2⟩

/-! ### The handlers -/

/-- The call leaves less to close. -/
abbrev Closes (c : Ctx) (x : Except Halt Ctx) : Prop :=
  Meets x (fun c' => c'.teardown < c.teardown) Halt.Proper

theorem closeNow_closes (hin : c.protocolState.inSession = true) : Closes c (closeNow now c₁) :=
  closeNow_meets.weaken fun _ h => h.1.teardown_lt_close hin

theorem deactivateNow_closes (hinv : StatesInv c)
    (hs : c.protocolState = .activatePayloadSent ∨ c.protocolState = .solSession) :
    Closes c (deactivateNow now c) := by
  have hrange : c.InstanceInRange := hinv.instanceInRange (by rcases hs with hs | hs <;> rw [hs] <;> rfl)
  exact (deactivateNow_meets hrange).weaken fun _ h => h.1.teardown_lt_deactivate hs

theorem processDeactivatePayloadSent_closes (hinv : StatesInv c)
    (hs : c.protocolState = .deactivatePayloadSent) (hclosing : c.machine.closeSessionFlag ≠ 0)
    (hstuck : ¬ c.Stuck) : Closes c (processProtocolStateDeactivatePayloadSent env c) := by
  have hin : c.protocolState.inSession = true := by rw [hs]; rfl
  refine Meets.ite (fun honly => ?_) fun _ => ?_
  · refine Meets.ite (fun _ => closeNow_closes hin) fun hall => ?_
    have hall : c.countDeactivated.allDeactivated = false := Bool.eq_false_iff.mpr hall
    have hnext : StatesAt .deactivatePayloadSent c.countDeactivated := by
      rw [StatesInv, hs] at hinv
      exact hinv.next hall
    refine (sendOrClose_meets (assembles_deactivate (hnext.instances rfl))).weaken ?_
    rintro c' (⟨c₂, h₂, rfl⟩ | hclose)
    · refine teardown_lt_of_remaining hs.symm ?_
      change c₂.instances.remaining < _
      rw [h₂.instances]
      exact remaining_next_lt hinv hs honly hclosing hstuck hall
    · exact hclose.1.teardown_lt_close hin
  · exact Meets.ite (fun _ => closeNow_closes hin) fun hn => absurd (Or.inl hclosing) hn

/-- Entered to close the session, the state machine gets on with it. -/
theorem stateMachine_closes (hinv : StatesInv c) (hclosing : c.machine.closeSessionFlag ≠ 0)
    (hlater : c.protocolState.closedLater = true) (hstuck : ¬ c.Stuck) :
    Closes c (stateMachine crypto env p c) := by
  unfold stateMachine
  cases hs : c.protocolState <;> rw [hs] at hlater <;> try cases hlater
  case rakpMessage3Sent =>
    exact (expectPacketUnless_meets (Or.inl hclosing)).bind fun _ _ =>
      Meets.ite (fun _ => Meets.error proper_quit) fun hn => absurd hclosing hn
  case activatePayloadSent =>
    exact (expectPacketUnless_meets (Or.inl hclosing)).bind fun _ _ =>
      Meets.ite (fun _ => deactivateNow_closes hinv (Or.inl hs)) fun hn => absurd hclosing hn
  case deactivatePayloadSent =>
    exact (expectPacketUnless_meets (Or.inl hclosing)).bind fun _ _ =>
      processDeactivatePayloadSent_closes hinv hs hclosing hstuck
  case closeSessionSent =>
    exact (expectPacketUnless_meets (Or.inl (Or.inl hclosing))).bind fun _ _ =>
      Meets.ite (fun _ => Meets.error proper_quit) fun hn => absurd (Or.inl hclosing) hn
  case stateEnd => exact Meets.error proper_quit

/-! ### Calls of the engine -/

/-- The context is stuck or not by its state, its configuration and its instances. -/
theorem not_stuck_of (h : ¬ c.Stuck) (hclosing : c.machine.closeSessionFlag ≠ 0)
    (hs : c'.protocolState = c.protocolState) (hconfig : c'.config = c.config)
    (hi : c'.instances = c.instances) : ¬ c'.Stuck := by
  intro h'
  refine h ⟨hclosing, hs.symm.trans h'.protocolState, ?_, ?_⟩
  · rw [← hconfig]
    exact h'.deactivateOnly
  · rw [← hi]
    exact h'.activated

/-- What `_close_session` leaves: less to close, or the closing to the state machine. -/
inductive ClosesOr (c : Ctx) : Bool × Ctx → Prop where
  | initiated {c' : Ctx} : c'.teardown < c.teardown → ClosesOr c (true, c')
  | later : c.protocolState.closedLater = true → ClosesOr c (false, c)

theorem closeSession_closes (hinv : StatesInv c) (hclosing : c.machine.closeSessionFlag ≠ 0) :
    Meets (closeSession now c) (ClosesOr c) Halt.Proper := by
  have hclose (hin : c.protocolState.inSession = true) :
      Meets (do return (true, ← closeNow now c)) (ClosesOr c) Halt.Proper :=
    (closeNow_closes hin).bind fun _ h => Meets.ok (.initiated h)
  unfold closeSession
  refine (protocolAssert_meets hclosing).bind fun _ _ => ?_
  cases hs : c.protocolState
  case start => exact Meets.error proper_quit
  case getAuthenticationCapabilitiesSent => exact Meets.error proper_quit
  case openSessionRequestSent => exact Meets.error proper_quit
  case rakpMessage1Sent => exact Meets.error proper_quit
  case setSessionPrivilegeLevelSent => exact hclose (by rw [hs]; rfl)
  case getChannelPayloadSupportSent => exact hclose (by rw [hs]; rfl)
  case getPayloadActivationStatusSent => exact hclose (by rw [hs]; rfl)
  case solSession =>
    exact (deactivateNow_closes hinv (Or.inr hs)).bind fun _ h => Meets.ok (.initiated h)
  all_goals exact Meets.ok (.later (by rw [hs]; rfl))

theorem closeCleanly_closes (hinv : StatesInv c) (hclosing : c.machine.closeSessionFlag ≠ 0)
    (hstuck : ¬ c.Stuck) : Closes c (closeCleanly crypto env p c) := by
  have hinv' := statesInv_setCloseSessionFlag hinv
  have hclosing' : c.setCloseSessionFlag.machine.closeSessionFlag ≠ 0 := Nat.succ_ne_zero _
  refine (closeSession_closes hinv' hclosing').bind ?_
  rintro _ (h | hlater)
  · exact Meets.ok h
  · exact stateMachine_closes hinv' hclosing' hlater (not_stuck_of hstuck hclosing rfl rfl rfl)

/-- Where the response is waited for, the state is the same, or the session is closed instead. -/
theorem ipmiRetransmissionTimeout_waits (h : ipmiRetransmissionTimeout env c = .ok (.zero, c')) :
    c' = c ∨ c'.protocolState = .closeSessionSent := by
  unfold ipmiRetransmissionTimeout at h
  obtain ⟨_, -, h⟩ := bind_eq_ok.mp h
  obtain ⟨_, -, h⟩ := bind_eq_ok.mp h
  split at h
  · cases h
    exact Or.inl rfl
  · dsimp only at h
    split at h
    · cases h
    · split at h
      · cases h
      · split at h
        · -- nothing is activated, and the session is closed
          unfold closeUnactivated at h
          obtain ⟨⟨sent, c₁⟩, -, h⟩ := bind_eq_ok.mp h
          cases sent with
          | true =>
            cases h
            exact Or.inr rfl
          | false => cases h
        · split at h
          · cases h
          · split at h
            · unfold retransmit at h
              obtain ⟨⟨sent, c₁⟩, -, h⟩ := bind_eq_ok.mp h
              cases sent <;> cases h
            · cases h

/-- An accepted response brings the closing on. -/
theorem receiveAndProcess_closes {r : Received} (hinv : StatesInv c)
    (hclosing : c.machine.closeSessionFlag ≠ 0) (hlater : c.protocolState.closedLater = true)
    (hstuck : ¬ c.Stuck) (hr : receivePacket crypto env.now env.beyond c = .ok r) (hrc : r.rc = .one)
    (h : receiveAndProcess crypto env c = .ok c') : c'.teardown < c.teardown := by
  have hspec := (receivePacket_spec crypto env.now env.beyond c).value _ hr
  obtain ⟨rc, q, c₁⟩ := r
  obtain rfl : rc = .one := hrc
  have hacc : ∃ q', q = some q' ∧ Accepts crypto q' c c₁ := by
    cases hspec with
    | refused hrc => exact absurd rfl hrc
    | accepted hp h₁ h₂ hrun => exact ⟨_, rfl, _, _, .accepted hp h₁ h₂ hrun⟩
  obtain ⟨q', rfl, hacc⟩ := hacc
  obtain ⟨hk, hs, hm, -⟩ := hacc.kept
  have hstate := hacc.protocolState
  have hcloses : Closes c₁ (stateMachine crypto env (some q') c₁) :=
    stateMachine_closes (hacc.statesInv hinv) (by rw [hm]; exact hclosing) (by rw [hstate]; exact hlater)
      (not_stuck_of hstuck hclosing hstate hk.config hs.instances)
  unfold receiveAndProcess at h
  rw [hr] at h
  rw [← teardown_eq hstate hs.instances]
  exact hcloses.value _ h

theorem processRetransmission_closes (hinv : StatesInv c) (hclosing : c.machine.closeSessionFlag ≠ 0)
    (hlater : c.protocolState.closedLater = true) (hstuck : ¬ c.Stuck)
    (hans : c.waitEnds crypto env = true)
    (h : processRetransmission crypto env c = .ok c') : c'.teardown < c.teardown := by
  have hstart : c.protocolState ≠ .start := by rintro hs; rw [hs] at hlater; cases hlater
  have hsol : c.protocolState ≠ .solSession := by rintro hs; rw [hs] at hlater; cases hlater
  have htimeout : Meets (ipmiRetransmissionTimeout env c) (Retransmitted crypto c) Halt.Proper :=
    ipmiRetransmissionTimeout_meets hinv hstart hsol (Or.inr hlater)
  unfold processRetransmission at h
  obtain ⟨⟨rc, c₁⟩, hrc, h⟩ := bind_eq_ok.mp h
  unfold Ctx.waitEnds at hans
  rw [hrc] at hans
  cases rc with
  | minusOne =>
    -- the retransmissions are exhausted
    cases htimeout.value _ hrc with
    | failed hsame =>
      have hstuck' := not_stuck_of hstuck hclosing hsame.protocolState hsame.config hsame.instances
      have hclosing' : c₁.machine.closeSessionFlag ≠ 0 := by rw [hsame.machine]; exact hclosing
      rw [← teardown_eq hsame.protocolState hsame.instances]
      exact (closeCleanly_closes (hsame.statesInv hinv) hclosing' hstuck').value _ h
  | one => cases hans
  | zero =>
    cases htimeout.value _ hrc with
    | waiting hmoves hflag =>
      obtain ⟨hle, hteardown⟩ := hmoves.teardown_le hinv hclosing
      have hinv₁ : StatesInv c₁ := Moves.statesInv hmoves hinv
      have hclosing₁ := Nat.ne_of_gt ((Nat.pos_of_ne_zero hclosing).trans_le hle)
      have hlater₁ := hflag.resolve_left hclosing₁
      have hstuck₁ : ¬ c₁.Stuck := by
        rcases ipmiRetransmissionTimeout_waits hrc with rfl | hs
        · exact hstuck
        · intro h'
          rw [h'.protocolState] at hs
          cases hs
      refine lt_of_lt_of_le ?_ hteardown
      dsimp only at h hans
      split at h
      · exact (stateMachine_closes hinv₁ hclosing₁ hlater₁ hstuck₁).value _ h
      · rename_i hflag
        rw [if_neg hflag] at hans
        cases hr : receivePacket crypto env.now env.beyond c₁ with
        | error e => rw [hr] at hans; cases hans
        | ok r =>
          rw [hr] at hans
          exact receiveAndProcess_closes hinv₁ hclosing₁ hlater₁ hstuck₁ hr (of_decide_eq_true hans) h

theorem processCtx_closes (hinv : StatesInv c) (hclosing : c.machine.closeSessionFlag ≠ 0)
    (hstuck : ¬ c.Stuck) (hadvance : c.answered crypto (.process env c.sendResults) = true
      ∨ c.initiates (.process env c.sendResults) = true)
    (h : processCtx crypto env c = .ok c') : c'.teardown < c.teardown := by
  unfold processCtx at h
  obtain ⟨r, hr, h⟩ := bind_eq_ok.mp h
  have hclose : closeSession env.now c = .ok r := by
    rw [checkCloseSession, if_neg hclosing] at hr
    exact hr
  rcases (closeSession_closes hinv hclosing).value _ hclose with hlt | hlater
  · cases h
    exact hlt
  · have hans : c.answered crypto (.process env c.sendResults) = true := by
      refine hadvance.resolve_right fun hnow => ?_
      rw [Ctx.initiates, hlater] at hnow
      simp at hnow
    have hcheck : checkCloseSession env.now { c with sendResults := c.sendResults } = .ok (false, c) := hr
    simp only [Ctx.answered, hcheck, Bool.and_eq_true, bne_iff_ne, Bool.not_eq_true'] at hans
    obtain ⟨⟨⟨hstart, hsession⟩, hsol⟩, hwait⟩ := hans
    dsimp only at h
    rw [if_neg (by decide), if_neg hstart, hsession, if_neg (by decide), if_neg hsol] at h
    exact processRetransmission_closes hinv hclosing hlater hstuck hwait h

/-- A step that is answered or initiates the closing brings it on, where the session is not stuck. -/
theorem consoleStep_closes {e : ConsoleEvent} (hinv : StatesInv c)
    (hclosing : c.machine.closeSessionFlag ≠ 0) (hok : ¬ (c.Stuck ∧ c.answered crypto e = true))
    (hadvance : c.answered crypto e = true ∨ c.initiates e = true) (h : consoleStep crypto c e = .ok c') :
    c'.teardown < c.teardown := by
  have hstuck : ¬ c.Stuck := fun hs => by
    refine hok ⟨hs, hadvance.resolve_right fun hnow => ?_⟩
    cases e with
    | process env sendResults =>
      rw [Ctx.initiates, hs.protocolState] at hnow
      simp [ProtocolState.closedLater] at hnow
    | _ => cases hnow
  cases e with
  | process env sendResults =>
    have hq : Quiet none c { c with sendResults := sendResults } := { Quiet.refl none c with }
    have hstuck' : ¬ Ctx.Stuck { c with sendResults := sendResults } :=
      not_stuck_of hstuck hclosing rfl rfl rfl
    exact processCtx_closes (c := { c with sendResults := sendResults }) (hq.statesInv hinv) hclosing
      hstuck' hadvance h
  | _ => rcases hadvance with hans | hnow <;> contradiction

/-! ### Runs -/

/-- The contexts that a context may come to in steps that all meet a condition. -/
inductive ReachedWhile (crypto : Crypto) (ok : Ctx → ConsoleEvent → Prop) (c₀ : Ctx) : Ctx → Prop where
  | refl : ReachedWhile crypto ok c₀ c₀
  | step {c c' : Ctx} {e : ConsoleEvent} : ReachedWhile crypto ok c₀ c → ok c e →
      consoleStep crypto c e = .ok c' → ReachedWhile crypto ok c₀ c'

/-- The step is not answered where the session is stuck. -/
def Unstuck (crypto : Crypto) (c : Ctx) (e : ConsoleEvent) : Prop :=
  ¬ (c.Stuck ∧ c.answered crypto e = true)

theorem ReachedWhile.reached {ok : Ctx → ConsoleEvent → Prop} (h : ReachedWhile crypto ok c₀ c) :
    Reached crypto c₀ c := by
  induction h with
  | refl => exact .refl
  | step _ _ hstep ih => exact .step ih hstep

/-- One step of the closing: the flag stays, what is left gets no more, and gets less when the step is
    answered or initiates the closing. -/
structure Progress (crypto : Crypto) (c : Ctx) (e : ConsoleEvent) (c' : Ctx) : Prop where
  closing : c'.machine.closeSessionFlag ≠ 0
  le : c'.teardown ≤ c.teardown
  lt : c.answered crypto e = true ∨ c.initiates e = true → c'.teardown < c.teardown

theorem consoleStep_progress {e : ConsoleEvent} (hinv : StatesInv c)
    (hclosing : c.machine.closeSessionFlag ≠ 0) (hok : Unstuck crypto c e)
    (h : consoleStep crypto c e = .ok c') : Progress crypto c e c' := by
  have hmoves : Moves crypto c c' := (consoleStep_moves hinv e).value _ h
  obtain ⟨hflag, hle⟩ := hmoves.teardown_le hinv hclosing
  exact ⟨Nat.ne_of_gt ((Nat.pos_of_ne_zero hclosing).trans_le hflag), hle,
    fun hadvance => consoleStep_closes hinv hclosing hok hadvance h⟩

/-- A run that goes on for ever, from a context on. -/
structure EndlessRun (crypto : Crypto) (c : Ctx) (run : ℕ → Ctx) (events : ℕ → ConsoleEvent) : Prop where
  start : run 0 = c
  unstuck : ∀ n, Unstuck crypto (run n) (events n)
  step : ∀ n, consoleStep crypto (run n) (events n) = .ok (run (n + 1))

theorem EndlessRun.progress {run : ℕ → Ctx} {events : ℕ → ConsoleEvent} (h : EndlessRun crypto c run events)
    (hinv : StatesInv c) (hclosing : c.machine.closeSessionFlag ≠ 0) (n : ℕ) :
    StatesInv (run n) ∧ Progress crypto (run n) (events n) (run (n + 1)) := by
  have hstate : StatesInv (run n) ∧ (run n).machine.closeSessionFlag ≠ 0 := by
    induction n with
    | zero =>
      rw [h.start]
      exact ⟨hinv, hclosing⟩
    | succ n ih =>
      have hmoves : Moves crypto (run n) (run (n + 1)) := (consoleStep_moves ih.1 _).value _ (h.step n)
      exact ⟨Moves.statesInv hmoves ih.1, (consoleStep_progress ih.1 ih.2 (h.unstuck n) (h.step n)).closing⟩
  exact ⟨hstate.1, consoleStep_progress hstate.1 hstate.2 (h.unstuck n) (h.step n)⟩

/-- What is left of the closing cannot get less for ever. -/
theorem EndlessRun.eventually_unanswered {run : ℕ → Ctx} {events : ℕ → ConsoleEvent}
    (h : EndlessRun crypto c run events) (hinv : StatesInv c) (hclosing : c.machine.closeSessionFlag ≠ 0) :
    ∃ k, ∀ n ≥ k, (run n).answered crypto (events n) = false ∧ (run n).initiates (events n) = false := by
  have hprogress (n : ℕ) := (h.progress hinv hclosing n).2
  have hanti : Antitone fun n => (run n).teardown := antitone_nat_of_succ_le fun n => (hprogress n).le
  obtain ⟨k, hk⟩ := WellFoundedLT.antitone_chain_condition hanti
  refine ⟨k, fun n hn => ?_⟩
  have hsame : ¬ ((run n).answered crypto (events n) = true ∨ (run n).initiates (events n) = true) := by
    intro hadvance
    have heq : (run n).teardown = (run (n + 1)).teardown :=
      (hk n hn).symm.trans (hk (n + 1) (hn.trans (Nat.le_succ n)))
    exact ((hprogress n).lt hadvance).ne heq.symm
  obtain ⟨hans, hnow⟩ := not_or.mp hsame
  exact ⟨Bool.eq_false_of_not_eq_true hans, Bool.eq_false_of_not_eq_true hnow⟩

/-- In every run in which no step is answered where the session is stuck, closing the session makes
    progress with every answered step, and a run that goes on for ever is answered only finitely
    often. -/
theorem teardown_progresses (crypto : Crypto) (c₀ : Ctx) (randoms : Randoms) (now : ℕ) (c : Ctx)
    (h : ReachedWhile crypto (Unstuck crypto) (ipmiconsoleCtxSessionSetup c₀ randoms now) c)
    (hclosing : c.machine.closeSessionFlag ≠ 0) :
    (∀ e c', Unstuck crypto c e → consoleStep crypto c e = .ok c' → Progress crypto c e c')
      ∧ ∀ run events, EndlessRun crypto c run events → ∃ k, ∀ n ≥ k,
        (run n).answered crypto (events n) = false ∧ (run n).initiates (events n) = false := by
  have hinv := reached_statesInv h.reached
  refine ⟨fun e c' hok hstep => consoleStep_progress hinv hclosing hok hstep, fun run events hruns => ?_⟩
  exact hruns.eventually_unanswered hinv hclosing

/-! ### A session that is closed -/

/-- The steps, as long as the session is not closed without an activated instance. -/
def instanceSteps (crypto : Crypto) : List ConsoleEvent → Ctx → Option Ctx
  | [], c => some c
  | e :: es, c =>
    if c.machine.closeSessionFlag = 0 ∨ c.instances.solInstancesActivated ≠ [] then
      (consoleStep crypto c e).toOption.bind (instanceSteps crypto es)
    else none

theorem reachedWhile_instanceSteps {es : List ConsoleEvent}
    (h : ReachedWhile crypto (Unstuck crypto) c₀ c) (hes : instanceSteps crypto es c = some c') :
    ReachedWhile crypto (Unstuck crypto) c₀ c' := by
  induction es generalizing c with
  | nil =>
    cases hes
    exact h
  | cons e es ih =>
    rw [instanceSteps] at hes
    split at hes
    · rename_i hinstances
      obtain ⟨c₁, hstep, hes⟩ := Option.bind_eq_some_iff.mp hes
      cases hret : consoleStep crypto c e with
      | error e =>
        rw [hret] at hstep
        cases hstep
      | ok c₂ =>
        rw [hret] at hstep
        cases hstep
        refine ih (.step h ?_ hret) hes
        rintro ⟨hstuck, -⟩
        exact hinstances.elim hstuck.closeSessionFlag fun hne => hne hstuck.activated
    · cases hes

/-- Every instance that the BMC tells of is deactivated, and nothing else is done. -/
def deactivateAllConfig : Config :=
  { sampleConfig with
    behaviorFlags := ipmiconsoleBehaviorDeactivateOnly ||| ipmiconsoleBehaviorDeactivateAllInstances }

set_option maxRecDepth 20000 in
theorem deactivateAll_instances :
    (instanceSteps sampleCrypto (answeredBy (responsePkts ++ [activationStatusPkt])
        ++ [.close, .recvfrom deactivatePkt₁]) (sampleStart deactivateAllConfig)).any
      (fun c => c.machine.closeSessionFlag ≠ 0 && c.protocolState = .deactivatePayloadSent
        && c.instances.remaining = 2 && c.instances.solInstancesActivated ≠ []
        && c.answered sampleCrypto (.process quietEnv [])
        && (consoleStep sampleCrypto c (.process quietEnv [])).toOption.any fun c' =>
          c'.protocolState = .deactivatePayloadSent) = true := by
  decide +kernel

/-- Two instances are activated when the session is closed in DEACTIVATE_PAYLOAD_SENT: with the response
    for the first, one is left. -/
theorem teardown_progresses_sample :
    ∃ c c', c.protocolState = .deactivatePayloadSent ∧ c.instances.remaining = 2
      ∧ c.answered sampleCrypto (.process quietEnv []) = true
      ∧ consoleStep sampleCrypto c (.process quietEnv []) = .ok c'
      ∧ c'.protocolState = .deactivatePayloadSent ∧ c'.teardown < c.teardown
      ∧ ∀ run events, EndlessRun sampleCrypto c run events → ∃ k, ∀ n ≥ k,
        (run n).answered sampleCrypto (events n) = false ∧ (run n).initiates (events n) = false := by
  have hsteps := deactivateAll_instances
  cases hc : instanceSteps sampleCrypto (answeredBy (responsePkts ++ [activationStatusPkt])
      ++ [.close, .recvfrom deactivatePkt₁]) (sampleStart deactivateAllConfig) with
  | none =>
    rw [hc] at hsteps
    cases hsteps
  | some c =>
    simp only [hc, Option.any_some, Bool.and_eq_true, decide_eq_true_eq] at hsteps
    obtain ⟨⟨⟨⟨⟨hclosing, hs⟩, htwo⟩, hinstances⟩, hans⟩, hstep⟩ := hsteps
    cases hret : consoleStep sampleCrypto c (.process quietEnv []) with
    | error e =>
      rw [hret] at hstep
      cases hstep
    | ok c' =>
      rw [hret] at hstep
      obtain ⟨hprogress, hends⟩ := teardown_progresses sampleCrypto (sampleCtx deactivateAllConfig)
        sampleRandoms 0 c (reachedWhile_instanceSteps .refl hc) hclosing
      refine ⟨c, c', hs, htwo, hans, hret, of_decide_eq_true hstep, ?_, hends⟩
      exact (hprogress _ c' (fun h => hinstances h.1.activated) hret).lt (Or.inl hans)

/-! ### A session that is stuck -/

/-- Payloads are only deactivated, and the activation status is not asked for. -/
def skipConfig : Config :=
  { sampleConfig with
    workaroundFlags := ipmiconsoleWorkaroundSkipSolActivationStatus
    behaviorFlags := ipmiconsoleBehaviorDeactivateOnly }

/-- A call in which the timeout of the last request has passed. -/
def lateEnv : Env := { quietEnv with retransmissionTimeout := true }

/-- The session activates a payload, and is closed before that is answered; the request to deactivate
    it has been answered. -/
def stuckEvents : List ConsoleEvent :=
  answeredBy responsePkts ++ [.close, .process lateEnv [], .recvfrom deactivatePkt₁]

/-- The context is being closed, and its next step is answered but leaves as much to close. -/
def Ctx.lacksProgress (crypto : Crypto) (c : Ctx) (e : ConsoleEvent) : Bool :=
  c.machine.closeSessionFlag ≠ 0 && c.answered crypto e
    && (consoleStep crypto c e).toOption.any fun c' => ¬ c'.teardown < c.teardown

set_option maxRecDepth 20000 in
theorem stuckEvents_lacksProgress :
    (consoleSteps sampleCrypto stuckEvents (sampleStart skipConfig)).toOption.any
      (fun c => c.lacksProgress sampleCrypto (.process quietEnv [])) = true := by
  decide +kernel

/-- The answer is accepted, and the request is only sent again. -/
theorem teardown_stuck :
    ∃ c, Reached sampleCrypto (sampleStart skipConfig) c ∧ c.machine.closeSessionFlag ≠ 0
      ∧ c.answered sampleCrypto (.process quietEnv []) = true
      ∧ ∃ c', consoleStep sampleCrypto c (.process quietEnv []) = .ok c' ∧ ¬ c'.teardown < c.teardown := by
  obtain ⟨c, hreached, h⟩ := exists_reached stuckEvents_lacksProgress
  simp only [Ctx.lacksProgress, Bool.and_eq_true, decide_eq_true_eq] at h
  obtain ⟨⟨hclosing, hans⟩, hstep⟩ := h
  refine ⟨c, hreached, hclosing, hans, ?_⟩
  cases hc : consoleStep sampleCrypto c (.process quietEnv []) with
  | error e =>
    rw [hc] at hstep
    cases hstep
  | ok c' =>
    rw [hc] at hstep
    exact ⟨c', rfl, of_decide_eq_true hstep⟩

end FreeIpmi.Console
