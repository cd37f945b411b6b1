import FreeIpmi.Console.Moves

/-! The assertions of the state machine.

    What the handlers assert about the protocol state, the packet type, the keys and the flags holds
    in every run: the invariant ties the flags and the keys to the protocol state, and the state
    machine is entered only with the response of the state, or to close the session. -/

namespace FreeIpmi.Console
open Fiid Lan Rmcpplus Util Calls Stages

/-! ### Invariant -/

/-- Both deactivate flags are clear. -/
def Ctx.DeactivateClear (c : Ctx) : Prop :=
  c.machine.deactivatePayloadInstances = 0 ∧ c.machine.deactivatePayloadInstancesAndTryAgainFlag = 0

/-- How the keys, the flags and the instances go with a protocol state. -/
structure StatesAt (s : ProtocolState) (c : Ctx) : Prop where
  keys : s.beforeKeys = true → c.keys = initialKeys
  deactivate : s.deactivating = false → c.DeactivateClear
  port : c.machine.tryNewPortFlag ≠ 0 → c.machine.consolePort ≠ rmcpPrimaryRmcpPort
  closeTimeout : c.machine.closeTimeoutFlag ≠ 0 →
    c.machine.closeSessionFlag ≠ 0 ∧ s = .closeSessionSent
  instances : s = .deactivatePayloadSent → c.InstanceInRange
  -- nothing is activated by a session that only deactivates, but what it has selected itself
  activated : c.config.behavior ipmiconsoleBehaviorDeactivateOnly = true →
    s.deactivating = false ∨ (s = .deactivatePayloadSent ∧ c.machine.deactivatePayloadInstances = 0) →
      c.instances.solInstancesActivated = []

/-- The invariant of the state machine. -/
abbrev StatesInv (c : Ctx) : Prop := StatesAt c.protocolState c

variable {crypto : Crypto} {env : Env} {now : ℕ} {c c₁ c' : Ctx} {s s' : ProtocolState}

/-- The states between which the invariant carries over by itself. -/
def ProtocolState.leadsTo (s s' : ProtocolState) : Bool :=
  (!s'.beforeKeys || s.beforeKeys) && (s'.deactivating || !s.deactivating) && s != .closeSessionSent
    && (s' != .deactivatePayloadSent || !s.deactivating || s == .deactivatePayloadSent)

theorem StatesAt.instanceInRange (h : StatesAt s c) (hs : s.deactivating = false) :
    c.InstanceInRange := fun hn => absurd (h.deactivate hs).1 hn

theorem StatesAt.closeTimeout_eq_zero (h : StatesAt s c) (hs : s ≠ .closeSessionSent) :
    c.machine.closeTimeoutFlag = 0 := by
  by_contra hn
  exact hs (h.closeTimeout hn).2

theorem StatesAt.to (h : StatesAt s c) (hs : s.leadsTo s' = true) : StatesAt s' c := by
  simp only [ProtocolState.leadsTo, Bool.and_eq_true, Bool.or_eq_true, Bool.not_eq_true',
    bne_iff_ne, beq_iff_eq] at hs
  obtain ⟨⟨⟨hkeys, hd⟩, hclose⟩, hdeact⟩ := hs
  refine ⟨fun hb => h.keys (hkeys.resolve_left (by simp [hb])), fun hd' => ?_, h.port, fun ht => ?_,
    fun hs' => ?_, fun honly hs' => ?_⟩
  · exact h.deactivate (hd.resolve_left (by simp [hd']))
  · exact absurd (h.closeTimeout_eq_zero hclose) ht
  · rcases hdeact with (hne | hs) | hs
    · exact absurd hs' hne
    · exact h.instanceInRange hs
    · exact h.instances hs
  · rcases hs' with hs' | ⟨hs', hflag⟩
    · exact h.activated honly (Or.inl (hd.resolve_left (by simp [hs'])))
    · rcases hdeact with (hne | hs) | hs
      · exact absurd hs' hne
      · exact h.activated honly (Or.inl hs)
      · exact h.activated honly (Or.inr ⟨hs, hflag⟩)

/-- The invariant is about what a session keeps and about its payload. -/
theorem StatesAt.congr (h : StatesAt s c) (hk : Kept c c') (hp : SamePayload c c') : StatesAt s c' where
  keys hs := hk.keys.trans (h.keys hs)
  deactivate hs := by
    rw [Ctx.DeactivateClear, hp.deactivatePayloadInstances, hp.deactivatePayloadInstancesAndTryAgainFlag]
    exact h.deactivate hs
  port ht := by
    rw [hk.tryNewPortFlag] at ht
    rw [hk.consolePort]
    exact h.port ht
  closeTimeout ht := by
    rw [hk.closeTimeoutFlag] at ht
    have hold := h.closeTimeout ht
    have hle := hk.closeSessionFlag
    exact ⟨by omega, hold.2⟩
  instances hs := by
    rw [Ctx.InstanceInRange, hp.deactivatePayloadInstances, hp.instances]
    exact h.instances hs
  activated honly hs := by
    rw [hk.config] at honly
    rw [hp.deactivatePayloadInstances] at hs
    rw [hp.instances]
    exact h.activated honly hs

theorem PlainTurn.statesInv (h : PlainTurn s c c') (hc : StatesAt s c) : StatesInv c' := by
  rw [StatesInv, h.1.protocolState]
  exact hc.congr h.1.toKept h.2

theorem SameSession.statesInv {q : Option PacketType} (h : SameSession q c c') (hc : StatesInv c) :
    StatesInv c' := by
  rw [StatesInv, h.protocolState]
  exact hc.congr h.kept h.samePayload

theorem SentBy.statesInv {p : RequestType} (h : SentBy p c c') (hc : StatesInv c) : StatesInv c' := by
  rw [StatesInv, h.protocolState]
  exact hc.congr h.kept h.samePayload

theorem SentBy.statesInv_moveTo {p : RequestType} (h : SentBy p c c') (hc : StatesAt s c) :
    StatesInv (c'.moveTo s) :=
  PlainTurn.statesInv ⟨h.turn s, h.samePayload_moveTo s⟩ hc

/-- What an accepted packet leaves for its handler. -/
theorem acceptPacket_kept {p : PacketType} (now : ℕ) (c : Ctx) :
    Kept c (c.acceptPacket now p).cleanup ∧ SamePayload c (c.acceptPacket now p).cleanup
      ∧ (c.acceptPacket now p).cleanup.machine = c.machine := by
  unfold Ctx.acceptPacket
  refine ⟨?_, ?_, ?_⟩ <;> split <;> try split
  all_goals first
    | exact { Kept.refl c with log := List.prefix_append _ _ }
    | exact { SamePayload.refl c with }
    | rfl

/-- An accepted packet changes nothing that the state machine goes by. -/
theorem Accepts.kept {p : PacketType} (h : Accepts crypto p c c') :
    Kept c c' ∧ SamePayload c c' ∧ c'.machine = c.machine ∧ c.protocolState.Awaits p := by
  obtain ⟨now, beyond, h⟩ := h
  cases h with
  | refused hrc => exact absurd rfl hrc
  | accepted hp h₁ h₂ hrun =>
    rename_i c₁ c₂
    obtain ⟨hk, hs, hm⟩ := acceptPacket_kept now c₂ (p := p)
    exact ⟨(h₁.kept.trans h₂.kept).trans hk, (h₁.samePayload.trans h₂.samePayload).trans hs,
      hm.trans (h₂.machine.trans h₁.machine), packetTypeOf_awaits hp⟩

theorem Accepts.protocolState {p : PacketType} (h : Accepts crypto p c c') :
    c'.protocolState = c.protocolState := congrArg StateMachine.protocolState h.kept.2.2.1

theorem Accepts.statesInv {p : PacketType} (h : Accepts crypto p c c') (hc : StatesInv c) :
    StatesInv c' := by
  obtain ⟨hk, hs, -, -⟩ := h.kept
  rw [StatesInv, h.protocolState]
  exact hc.congr hk hs

/-- The state is left when the packet has been accepted. -/
theorem Accepts.statesAt {p : PacketType} (h : Accepts crypto p c c') (hc : StatesInv c)
    (hs : c.protocolState.leadsTo s = true) : StatesAt s c' :=
  (h.statesInv hc).to (by rw [h.protocolState]; exact hs)

/-! ### The moves keep the invariant -/

theorem statesInv_setup (c : Ctx) (randoms : Randoms) (now : ℕ) :
    StatesInv (ipmiconsoleCtxSessionSetup c randoms now) where
  keys _ := rfl
  deactivate _ := ⟨rfl, rfl⟩
  port h := absurd rfl h
  closeTimeout h := absurd rfl h
  instances h := nomatch h
  activated _ _ := rfl

theorem statesInv_setCloseSessionFlag (h : StatesInv c) : StatesInv c.setCloseSessionFlag :=
  h.congr (kept_setCloseSessionFlag c) { SamePayload.refl c with }

theorem statesInv_restarted (c : Ctx) (randoms : Randoms) (now : ℕ) :
    StatesInv (c.restarted randoms now) where
  keys _ := rfl
  deactivate _ := ⟨rfl, rfl⟩
  port h := absurd rfl h
  closeTimeout h := absurd rfl h
  instances h := nomatch h
  activated _ _ := rfl

theorem precedes_leadsTo (h : s.Precedes s') : s.leadsTo s' = true := by
  rcases h with ⟨rfl, rfl⟩ | ⟨rfl, rfl⟩ | ⟨rfl, rfl⟩ | ⟨rfl, rfl⟩ | ⟨rfl, rfl⟩ <;> rfl

/-- The instances of a response are selected to be deactivated. -/
theorem StatesAt.select {i : SolInstances} (h : StatesAt .getPayloadActivationStatusSent c)
    (hi : i.Selected) (tryAgain : Bool) :
    StatesAt .deactivatePayloadSent
      (({ c with instances := i } : Ctx).setDeactivatePayloadInstances tryAgain) where
  keys hs := nomatch hs
  deactivate hs := nomatch hs
  port := h.port
  closeTimeout ht := absurd (h.closeTimeout_eq_zero (by decide)) ht
  instances _ _ := by
    have hpos := List.length_pos_iff.mpr hi.activated
    refine ⟨?_, hi.length_le⟩
    change i.solInstancesDeactivatedCount.toNat < i.solInstancesActivated.length
    rw [hi.deactivated]
    exact hpos
  activated _ hs := by
    rcases hs with hs | ⟨-, hs⟩
    · cases hs
    · exact absurd hs (Nat.succ_ne_zero _)

/-- A counter below a small length steps without overflow. -/
theorem toNat_next {n : BitVec 32} {k : ℕ} (hk : k ≤ ipmiInstancesActivatedLength) (hn : n.toNat < k)
    (hne : BitVec.ofNat 32 k ≠ n + 1) : (n + 1).toNat = n.toNat + 1 ∧ n.toNat + 1 < k := by
  have hk : k ≤ 16 := hk
  have hadd : (n + 1).toNat = n.toNat + 1 := by
    rw [BitVec.toNat_add]
    exact Nat.mod_eq_of_lt (by change n.toNat + 1 < 2 ^ 32; omega)
  have hlt : n.toNat + 1 ≠ k := by
    intro h
    apply hne
    apply BitVec.eq_of_toNat_eq
    rw [hadd, h, BitVec.toNat_ofNat]
    exact Nat.mod_eq_of_lt (by omega)
  exact ⟨hadd, by omega⟩

theorem instanceInRange_next (h : c.InstanceInRange) (hall : c.countDeactivated.allDeactivated = false) :
    c.countDeactivated.InstanceInRange := by
  intro hn
  obtain ⟨hlt, hle⟩ := h hn
  have hne : BitVec.ofNat 32 c.instances.solInstancesActivated.length
      ≠ c.instances.solInstancesDeactivatedCount + 1 := of_decide_eq_false hall
  obtain ⟨hadd, hlt⟩ := toNat_next hle hlt hne
  refine ⟨?_, hle⟩
  change (c.instances.solInstancesDeactivatedCount + 1).toNat < _
  rw [hadd]
  exact hlt

theorem StatesAt.next (h : StatesAt .deactivatePayloadSent c)
    (hall : c.countDeactivated.allDeactivated = false) :
    StatesAt .deactivatePayloadSent c.countDeactivated where
  keys hs := nomatch hs
  deactivate hs := nomatch hs
  port := h.port
  closeTimeout ht := absurd (h.closeTimeout_eq_zero (by decide)) ht
  instances hs := instanceInRange_next (h.instances hs) hall
  activated := h.activated

theorem StatesAt.again (h : StatesAt .deactivatePayloadSent c)
    (honly : c.config.behavior ipmiconsoleBehaviorDeactivateOnly = false) :
    StatesAt .activatePayloadSent c.countDeactivated.tryAgain where
  keys hs := nomatch hs
  deactivate _ := ⟨rfl, rfl⟩
  port := h.port
  closeTimeout ht := absurd (h.closeTimeout_eq_zero (by decide)) ht
  instances hs := nomatch hs
  activated hb := absurd (honly.symm.trans hb) (by decide)

theorem StatesAt.idle {i : SolInstances} (h : StatesAt .getPayloadActivationStatusSent c)
    (honly : c.config.behavior ipmiconsoleBehaviorDeactivateOnly = false) :
    StatesAt .activatePayloadSent { c with instances := i } where
  keys hs := nomatch hs
  deactivate _ := h.deactivate rfl
  port := h.port
  closeTimeout ht := absurd (h.closeTimeout_eq_zero (by decide)) ht
  instances hs := nomatch hs
  activated hb := absurd (honly.symm.trans hb) (by decide)

/-- In CLOSE_SESSION_SENT the flags of the payload have no meaning any more. -/
theorem StatesAt.close (h : StatesAt s c) (hs : s ≠ .closeSessionSent)
    (hturn : Turn .closeSessionSent c c') : StatesInv c' := by
  rw [StatesInv, hturn.protocolState]
  refine ⟨nofun, nofun, fun ht => ?_, fun ht => ?_, nofun, fun _ hs => ?_⟩
  · rw [hturn.tryNewPortFlag] at ht
    rw [hturn.consolePort]
    exact h.port ht
  · rw [hturn.closeTimeoutFlag] at ht
    exact absurd (h.closeTimeout_eq_zero hs) ht
  · rcases hs with hs | ⟨hs, -⟩ <;> cases hs

/-- No move leaves the invariant. -/
theorem Move.statesInv (h : Move crypto c c') (hc : StatesInv c) : StatesInv c' := by
  cases h with
  | quiet p _ h => exact h.toSameSession.statesInv hc
  | flag => exact statesInv_setCloseSessionFlag hc
  | closeTimeout hs hflag =>
    exact ⟨hc.keys, hc.deactivate, hc.port, fun _ => ⟨hflag, hs⟩, hc.instances, hc.activated⟩
  | resend p _ h => exact h.statesInv hc
  | notSent _ h => exact h.statesInv hc
  | accept p _ h => exact h.statesInv hc
  | advance p s hs _ h => exact h.statesInv_moveTo (hc.to (precedes_leadsTo hs))
  | openSession hs _ hacc h => exact h.statesInv_moveTo (hacc.statesAt hc (by rw [hs]; rfl))
  | exchangeKeys hs _ hacc _ h =>
    have h₁ : StatesAt .rakpMessage3Sent _ := hacc.statesAt hc (by rw [hs]; rfl)
    exact h.statesInv_moveTo { h₁ with keys := nofun }
  | authenticate hs _ hacc hs' h =>
    rcases hs' with rfl | rfl
    · exact h.statesInv (hacc.statesAt hc (by rw [hs]; rfl))
    · exact h.statesInv (hacc.statesAt hc (by rw [hs]; rfl))
  | activate hs _ h => exact h.statesInv (StatesAt.to hc (by rw [hs]; rfl))
  | activateIdle i hs _ honly h =>
    rw [StatesInv, hs] at hc
    exact h.statesInv (hc.idle honly)
  | activatedElsewhere hs _ _ h =>
    have h₁ : StatesAt .getPayloadActivationStatusSent _ := StatesAt.to hc (by rw [hs]; rfl)
    exact h.statesInv { h₁ with }
  | establish hs _ =>
    have h₁ : StatesAt .solSession _ := StatesAt.to hc (by rw [hs]; rfl)
    exact h₁.congr (kept_moveTo .solSession c) { SamePayload.refl c with }
  | newPort port hs _ hport => exact { hc with port := fun _ => hport }
  | leave hs h =>
    refine h.statesInv (StatesAt.to hc ?_)
    rcases hs with hs | hs <;> rw [hs] <;> rfl
  | select i hs _ hi h =>
    rw [StatesInv, hs] at hc
    exact h.statesInv (hc.select hi _)
  | next hs _ hall h =>
    rw [StatesInv, hs] at hc
    exact h.statesInv (hc.next hall)
  | again hs _ honly _ h =>
    rw [StatesInv, hs] at hc
    exact h.statesInv (hc.again honly)
  | close hs h => exact StatesAt.close hc (by rintro he; rw [he] at hs; cases hs) h
  | restart randoms now _ _ h =>
    exact h.statesInv_moveTo ((statesInv_restarted _ randoms now).to rfl)

theorem Moves.statesInv (h : Moves crypto c c') (hc : StatesInv c) : StatesInv c' := by
  induction h with
  | refl => exact hc
  | tail _ hmove ih => exact hmove.statesInv ih

end FreeIpmi.Console
