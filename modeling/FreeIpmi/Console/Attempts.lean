import FreeIpmi.Console.Handlers

/-! How often the payload is activated.

    The states of the activation, of the activation status and of the deactivation form two cycles.
    Both go through ACTIVATE_PAYLOAD_SENT, which is left for another round only when
    `activate_payloads_count` has been raised, so that counter bounds the rounds. -/

namespace FreeIpmi.Console
open Fiid Lan Rmcpplus Util Calls

/-! ### Invariant -/

/-- The payload has not been activated, or will be activated again. -/
def Ctx.MayActivate (c : Ctx) (s : ProtocolState) : Prop :=
  (s.deactivating = false ∧ s ≠ .activatePayloadSent ∧ s ≠ .solSession)
    ∨ (s = .deactivatePayloadSent ∧ c.machine.deactivatePayloadInstancesAndTryAgainFlag ≠ 0)

/-- There have been no more than the given number of activations, and the count of the ones that
    another session preempted is within its limit. -/
structure AttemptsWithin (n : ℕ) (c : Ctx) : Prop where
  activations : c.activations ≤ n
  count : c.counts.activatePayloadsCount ≤ c.config.acceptablePacketErrorsCount + 1

/-- How the number of activations goes with a protocol state. -/
structure AttemptsAt (s : ProtocolState) (c : Ctx) : Prop where
  total : c.activations ≤ c.config.acceptablePacketErrorsCount + 2
  waiting : s = .activatePayloadSent → AttemptsWithin (c.counts.activatePayloadsCount + 1) c
  before : c.MayActivate s → AttemptsWithin c.counts.activatePayloadsCount c

abbrev AttemptsInv (c : Ctx) : Prop := AttemptsAt c.protocolState c

/-- What the invariant is about. -/
structure SameAttempts (c c' : Ctx) : Prop where
  activations : c'.activations = c.activations
  config : c'.config = c.config
  activatePayloadsCount : c'.counts.activatePayloadsCount = c.counts.activatePayloadsCount
  tryAgain : c'.machine.deactivatePayloadInstancesAndTryAgainFlag
    = c.machine.deactivatePayloadInstancesAndTryAgainFlag

variable {crypto : Crypto} {c c₀ c₁ c' : Ctx} {s s' : ProtocolState} {p : RequestType} {now : ℕ}

theorem SamePayload.sameAttempts (h : SamePayload c c') (hk : Kept c c')
    (ha : c'.activations = c.activations) : SameAttempts c c' :=
  ⟨ha, hk.config, h.activatePayloadsCount, h.deactivatePayloadInstancesAndTryAgainFlag⟩

theorem SameSession.sameAttempts {q : Option PacketType} (h : SameSession q c c') : SameAttempts c c' :=
  h.samePayload.sameAttempts h.kept (congrArg (List.countP LogEntry.isActivation) h.log)

theorem SentBy.sameAttempts (h : SentBy p c c') : SameAttempts c c' :=
  h.samePayload.sameAttempts h.kept h.activations

theorem AttemptsWithin.congr {n : ℕ} (h : AttemptsWithin n c) (hs : SameAttempts c c') :
    AttemptsWithin n c' where
  activations := by
    rw [hs.activations]
    exact h.activations
  count := by
    rw [hs.activatePayloadsCount, hs.config]
    exact h.count

theorem AttemptsAt.congr (h : AttemptsAt s c) (hs : SameAttempts c c') : AttemptsAt s c' where
  total := by
    rw [hs.activations, hs.config]
    exact h.total
  waiting hw := by
    rw [hs.activatePayloadsCount]
    exact (h.waiting hw).congr hs
  before hb := by
    rw [Ctx.MayActivate, hs.tryAgain] at hb
    rw [hs.activatePayloadsCount]
    exact (h.before hb).congr hs

/-- Where no activation follows, only the total matters. -/
theorem AttemptsAt.over (h : AttemptsAt s c) (hs : s' ≠ .activatePayloadSent)
    (hs' : ¬ c.MayActivate s') : AttemptsAt s' c where
  total := h.total
  waiting hw := absurd hw hs
  before hb := absurd hb hs'

theorem AttemptsWithin.at (h : AttemptsWithin c.counts.activatePayloadsCount c)
    (hs : s ≠ .activatePayloadSent) : AttemptsAt s c where
  total := (h.activations.trans h.count).trans (Nat.le_succ _)
  waiting hw := absurd hw hs
  before _ := h

/-- The state is entered for one activation more. -/
theorem AttemptsWithin.activate (h : AttemptsWithin c.counts.activatePayloadsCount c)
    (ha : c'.activations = c.activations + 1) (hk : c'.config = c.config)
    (hc : c'.counts.activatePayloadsCount = c.counts.activatePayloadsCount) :
    AttemptsAt .activatePayloadSent c' where
  total := by
    rw [ha, hk]
    exact Nat.succ_le_succ (h.activations.trans h.count)
  waiting _ := by
    refine ⟨?_, ?_⟩
    · rw [ha, hc]
      exact Nat.succ_le_succ h.activations
    · rw [hc, hk]
      exact h.count
  before hb := by
    rcases hb with ⟨-, hb, -⟩ | ⟨hb, -⟩
    · exact absurd rfl hb
    · cases hb

theorem PlainTurn.sameAttempts (h : PlainTurn s c c') (hs : s ≠ .activatePayloadSent) :
    SameAttempts c c' :=
  h.2.sameAttempts h.1.toKept (by rw [h.1.activations, if_neg hs, Nat.add_zero])

/-- A turn to another state than that of the activation. -/
theorem PlainTurn.attemptsInv (h : PlainTurn s c c') (hs : s ≠ .activatePayloadSent)
    (hc : AttemptsAt s c) : AttemptsInv c' := by
  rw [AttemptsInv, h.1.protocolState]
  exact hc.congr (h.sameAttempts hs)

theorem PlainTurn.attemptsInv_activate (h : PlainTurn .activatePayloadSent c c')
    (hc : AttemptsWithin c.counts.activatePayloadsCount c) : AttemptsInv c' := by
  rw [AttemptsInv, h.1.protocolState]
  exact hc.activate h.1.activations h.1.config h.2.activatePayloadsCount

/-! ### The moves keep the invariant -/

theorem AttemptsAt.setup (h : AttemptsAt s c) (hs : s.deactivating = false ∧ s ≠ .activatePayloadSent ∧
    s ≠ .solSession) : AttemptsWithin c.counts.activatePayloadsCount c :=
  h.before (Or.inl hs)

theorem precedes_setup (h : s.Precedes s') :
    (s.deactivating = false ∧ s ≠ .activatePayloadSent ∧ s ≠ .solSession)
      ∧ s' ≠ .activatePayloadSent := by
  rcases h with ⟨rfl, rfl⟩ | ⟨rfl, rfl⟩ | ⟨rfl, rfl⟩ | ⟨rfl, rfl⟩ | ⟨rfl, rfl⟩ <;> decide

theorem attemptsWithin_zero (h : c.log = []) (hc : c.counts.activatePayloadsCount = 0) :
    AttemptsWithin c.counts.activatePayloadsCount c where
  activations := by simp [Ctx.activations, h]
  count := by simp [hc]

theorem SameAttempts.attemptsInv (h : SameAttempts c c') (hm : c'.protocolState = c.protocolState)
    (hc : AttemptsInv c) : AttemptsInv c' := by
  rw [AttemptsInv, hm]
  exact hc.congr h

theorem not_mayActivate_close : ¬ c.MayActivate .closeSessionSent := by
  rintro (⟨h, -, -⟩ | ⟨h, -⟩) <;> cases h

theorem acceptPacket_activations {q : PacketType} (now : ℕ) (c : Ctx) :
    (c.acceptPacket now q).cleanup.activations = c.activations := by
  unfold Ctx.acceptPacket Ctx.cleanup Ctx.activations
  split <;> try split
  all_goals
    simp only [List.countP_append]
    rfl

theorem Accepts.sameAttempts {q : PacketType} (h : Accepts crypto q c c') : SameAttempts c c' := by
  obtain ⟨hk, hs, -, -⟩ := h.kept
  refine hs.sameAttempts hk ?_
  obtain ⟨now, beyond, h⟩ := h
  cases h with
  | refused hrc => exact absurd rfl hrc
  | accepted hp h₁ h₂ hrun =>
    rw [acceptPacket_activations, h₂.toSameSession.sameAttempts.activations,
      h₁.toSameSession.sameAttempts.activations]

/-- No move leaves the invariant. -/
theorem Move.attemptsInv (h : Move crypto c c') (hinv : StatesInv c) (hc : AttemptsInv c) :
    AttemptsInv c' := by
  cases h with
  | quiet p _ h => exact h.toSameSession.sameAttempts.attemptsInv h.protocolState hc
  | flag => exact SameAttempts.attemptsInv (c := c) ⟨rfl, rfl, rfl, rfl⟩ rfl hc
  | closeTimeout _ _ => exact SameAttempts.attemptsInv (c := c) ⟨rfl, rfl, rfl, rfl⟩ rfl hc
  | resend p _ h => exact h.sameAttempts.attemptsInv h.protocolState hc
  | notSent _ h => exact h.sameAttempts.attemptsInv h.protocolState hc
  | accept p _ h => exact h.sameAttempts.attemptsInv h.protocolState hc
  | advance p s hs _ h =>
    obtain ⟨hsetup, hne⟩ := precedes_setup hs
    exact PlainTurn.attemptsInv ⟨h.turn s, h.samePayload_moveTo s⟩ hne ((hc.setup hsetup).at hne)
  | openSession hs _ hacc h =>
    have h₁ := (hc.congr hacc.sameAttempts).setup (by rw [hs]; decide)
    exact PlainTurn.attemptsInv (s := .rakpMessage1Sent) ⟨h.turn _, h.samePayload_moveTo _⟩ nofun
      (h₁.at nofun)
  | exchangeKeys hs _ hacc _ h =>
    have h₁ := (hc.congr hacc.sameAttempts).setup (by rw [hs]; decide)
    rename_i c₁ c₂ keys _ _
    have h₂ : AttemptsWithin c₁.counts.activatePayloadsCount { c₁ with keys := keys } :=
      h₁.congr ⟨rfl, rfl, rfl, rfl⟩
    exact PlainTurn.attemptsInv (s := .rakpMessage3Sent) ⟨h.turn _, h.samePayload_moveTo _⟩ nofun
      (AttemptsWithin.at ⟨h₂.activations, h₂.count⟩ nofun)
  | authenticate hs _ hacc hs' h =>
    have h₁ := (hc.congr hacc.sameAttempts).setup (by rw [hs]; decide)
    rcases hs' with rfl | rfl
    · exact h.attemptsInv (by decide) (h₁.at (by decide))
    · exact h.attemptsInv (by decide) (h₁.at (by decide))
  | activate hs _ h => exact h.attemptsInv_activate (hc.setup (by rw [hs]; decide))
  | activateIdle i hs _ honly h =>
    exact h.attemptsInv_activate ((hc.setup (by rw [hs]; decide)).congr ⟨rfl, rfl, rfl, rfl⟩)
  | activatedElsewhere hs _ hle h =>
    -- the counter makes up for the activation that was preempted
    have h₁ : AttemptsWithin c.countActivate.counts.activatePayloadsCount c.countActivate :=
      ⟨(hc.waiting hs).activations, hle⟩
    exact h.attemptsInv (by decide) (h₁.at (by decide))
  | establish hs _ =>
    have h₁ : AttemptsAt .solSession c := hc.over (by decide) (by simp [Ctx.MayActivate])
    exact h₁.congr ⟨by rw [activations_moveTo, if_neg (by decide), Nat.add_zero], rfl, rfl, rfl⟩
  | newPort port hs _ hport => exact SameAttempts.attemptsInv (c := c) ⟨rfl, rfl, rfl, rfl⟩ rfl hc
  | leave hs h =>
    refine h.attemptsInv (by decide) (hc.over (by decide) ?_)
    rintro (⟨hd, -⟩ | ⟨-, htry⟩)
    · cases hd
    · exact htry (hinv.deactivate (by rcases hs with hs | hs <;> rw [hs] <;> rfl)).2
  | select i hs _ hi h =>
    have h₁ : AttemptsWithin c.counts.activatePayloadsCount c := hc.setup (by rw [hs]; decide)
    exact h.attemptsInv (by decide) (AttemptsWithin.at ⟨h₁.activations, h₁.count⟩ (by decide))
  | next hs _ hall h =>
    rw [AttemptsInv, hs] at hc
    exact h.attemptsInv (by decide) (hc.congr ⟨rfl, rfl, rfl, rfl⟩)
  | again hs _ honly htry h =>
    have h₁ := hc.before (Or.inr ⟨hs, htry⟩)
    exact h.attemptsInv_activate ⟨h₁.activations, h₁.count⟩
  | close hs h =>
    rw [AttemptsInv, h.protocolState]
    have hsame : c'.activations = c.activations := by
      rw [h.activations, if_neg (by decide), Nat.add_zero]
    refine ⟨?_, nofun, fun hb => absurd hb not_mayActivate_close⟩
    rw [hsame, h.config]
    exact hc.total
  | restart randoms now _ _ h =>
    have h₁ : AttemptsWithin (c.restarted randoms now).counts.activatePayloadsCount
        (c.restarted randoms now) := attemptsWithin_zero rfl rfl
    exact PlainTurn.attemptsInv (s := .getAuthenticationCapabilitiesSent)
      ⟨h.turn _, h.samePayload_moveTo _⟩ nofun (h₁.at nofun)

/-! ### Runs -/

theorem attemptsInv_setup (c : Ctx) (randoms : Randoms) (now : ℕ) :
    AttemptsInv (ipmiconsoleCtxSessionSetup c randoms now) :=
  AttemptsWithin.at (attemptsWithin_zero rfl rfl) nofun

/-- In every run from the start of a session, whatever the BMC answers, ACTIVATE_PAYLOAD_SENT has been
    entered at most `acceptable_packet_errors_count + 2` times since the session was set up, and no
    request to deactivate a payload reads an instance that was not activated. -/
theorem reached_activations_le (crypto : Crypto) (c₀ : Ctx) (randoms : Randoms) (now : ℕ) (c : Ctx)
    (h : Reached crypto (ipmiconsoleCtxSessionSetup c₀ randoms now) c) :
    c.activations ≤ c.config.acceptablePacketErrorsCount + 2
      ∧ ∀ e, consoleStep crypto c e ≠ .error .outOfRange := by
  have hattempts : AttemptsInv c := h.induction (statesInv_setup c₀ randoms now)
    (attemptsInv_setup c₀ randoms now) fun _ _ hinv hmove hc => hmove.attemptsInv hinv hc
  refine ⟨hattempts.total, fun e he => ?_⟩
  have hstep : MakesMoves crypto c (consoleStep crypto c e) :=
    consoleStep_moves (reached_statesInv h) e
  rcases hstep.reason _ he with h | h <;> cases h

/-- The protocol state has been entered since the session was set up. -/
def Ctx.hasEntered (c : Ctx) (s : ProtocolState) : Bool :=
  c.log.any fun
    | .entered s' => s' = s
    | _ => false

set_option maxRecDepth 20000 in
theorem deactivatePkt_activates :
    (consoleSteps sampleCrypto (answeredBy (responsePkts ++ [activationStatusPkt, deactivatePkt₁]))
        (sampleStart sampleConfig)).toOption.any
      (fun c => c.protocolState = .activatePayloadSent && c.activations = 1
        && c.hasEntered .deactivatePayloadSent) = true := by
  decide +kernel

/-- The session has deactivated an instance, and activates the payload in its turn. -/
theorem reached_activations_le_sample :
    ∃ c, Reached sampleCrypto (sampleStart sampleConfig) c ∧ c.protocolState = .activatePayloadSent
      ∧ c.activations = 1 ∧ c.hasEntered .deactivatePayloadSent = true
      ∧ c.activations ≤ c.config.acceptablePacketErrorsCount + 2
      ∧ ∀ e, consoleStep sampleCrypto c e ≠ .error .outOfRange := by
  obtain ⟨c, hreached, hc⟩ := exists_reached deactivatePkt_activates
  simp only [Bool.and_eq_true, decide_eq_true_eq] at hc
  obtain ⟨⟨hs, hone⟩, hentered⟩ := hc
  exact ⟨c, hreached, hs, hone, hentered, reached_activations_le sampleCrypto (sampleCtx sampleConfig)
    sampleRandoms 0 c hreached⟩

end FreeIpmi.Console
