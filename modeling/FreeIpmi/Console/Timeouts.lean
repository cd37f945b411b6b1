import FreeIpmi.Util.Timeval
import FreeIpmi.Console.Handlers

/-! How long the engine sleeps (`_calculate_timeout` of `libipmiconsole/ipmiconsole_processing.c`),
    and when a pass of `_process_ctx` acts on a timer.

    A context is seen here with the lengths of its timeouts, and its times are microseconds. The
    comparisons of a pass with the clock are the parameters of `processCtx`: `timerActed` tells from
    them which timer the pass acts on, and `processCtx_quiet` that it does nothing of the kind where
    there is none. -/

namespace FreeIpmi.Console
open Util Calls Rmcpplus

/-! ### Timers -/

/-- The lengths of the timeouts in the configuration, in milliseconds. -/
structure TimeoutConfig where
  sessionTimeoutLen : BitVec 32
  retransmissionTimeoutLen : BitVec 32
  retransmissionBackoffCount : BitVec 32
  keepaliveTimeoutLen : BitVec 32
  retransmissionKeepaliveTimeoutLen : BitVec 32

/-- A context, with the lengths of its timeouts and the time of its last SOL packet with input. -/
structure TimedCtx where
  ctx : Ctx
  timeouts : TimeoutConfig
  lastSolInputPacketSent : ℕ

/-- The time that is `len` milliseconds after a time of the context. -/
def after (time : ℕ) (len : BitVec 32) : Timeval := timevalAddMs (.ofMicros time) len

/-- How many times the timeout of a retransmission is taken. -/
def TimedCtx.retransmissionTimeoutMultiplier (c : TimedCtx) : BitVec 32 :=
  if c.timeouts.retransmissionBackoffCount ≠ 0 then
    BitVec.ofNat 32 c.ctx.sol.retransmissionCount / c.timeouts.retransmissionBackoffCount + 1
  else 1

def TimedCtx.backedOffTimeoutLen (c : TimedCtx) : BitVec 32 :=
  c.timeouts.retransmissionTimeoutLen * c.retransmissionTimeoutMultiplier

/-- The comparison of `_session_timeout`. -/
def TimedCtx.sessionTimedOut (c : TimedCtx) (current : Timeval) : Bool :=
  timevalGt current (after c.ctx.timers.lastIpmiPacketReceived c.timeouts.sessionTimeoutLen)

/-- The comparison of `_ipmi_retransmission_timeout`. -/
def TimedCtx.ipmiRetransmissionTimedOut (c : TimedCtx) (current : Timeval) : Bool :=
  timevalGt current (after c.ctx.timers.lastIpmiPacketSent c.backedOffTimeoutLen)

/-- The comparison of `_sol_retransmission_timeout`, and the second one of
    `_serial_keepalive_timeout`. -/
def TimedCtx.solRetransmissionTimedOut (c : TimedCtx) (current : Timeval) : Bool :=
  timevalGt current (after c.lastSolInputPacketSent c.timeouts.retransmissionTimeoutLen)

/-- `_keepalive_is_necessary`. -/
def TimedCtx.keepaliveIsNecessary (c : TimedCtx) (current : Timeval) : Bool :=
  timevalGt current (after c.ctx.timers.lastIpmiPacketReceived c.timeouts.keepaliveTimeoutLen)

/-- The comparison of `_keepalive_timeout`. -/
def TimedCtx.keepaliveTimedOut (c : TimedCtx) (current : Timeval) : Bool :=
  timevalGt current
    (after c.ctx.timers.lastKeepalivePacketSent c.timeouts.retransmissionKeepaliveTimeoutLen)

/-- `_serial_keepalive_is_necessary`. -/
def TimedCtx.serialKeepaliveIsNecessary (c : TimedCtx) (current : Timeval) : Bool :=
  timevalGt current (after c.ctx.timers.lastSolPacketReceived c.timeouts.sessionTimeoutLen)

/-! ### A pass -/

/-- The comparisons of a pass with the clock. -/
structure Timeouts where
  session : Bool
  retransmission : Bool
  sol : SolTimeouts

/-- The comparisons of a pass at one point in time. -/
def TimedCtx.timeoutsAt (c : TimedCtx) (current : Timeval) : Timeouts where
  session := c.sessionTimedOut current
  retransmission := c.ipmiRetransmissionTimedOut current
  sol :=
    { solRetransmission := c.solRetransmissionTimedOut current
      keepaliveIsNecessary := c.keepaliveIsNecessary current
      keepaliveRetransmission := c.keepaliveTimedOut current
      serialKeepaliveIsNecessary := c.serialKeepaliveIsNecessary current
      serialKeepalive := c.solRetransmissionTimedOut current }

/-- No timeout. -/
def Timeouts.none : Timeouts := ⟨false, false, ⟨false, false, false, false, false⟩⟩

def Env.withTimeouts (env : Env) (t : Timeouts) : Env :=
  { env with sessionTimeout := t.session, retransmissionTimeout := t.retransmission, solTimeouts := t.sol }

inductive Timer where
  | session
  | ipmiRetransmission
  | solRetransmission
  | keepalive
  | serialKeepalive
  deriving DecidableEq

/-- A serial keepalive may be sent: it is asked for, and there is nothing else to send. -/
def Ctx.mayKeepSerialAlive (c : Ctx) : Bool :=
  (c.config.engine ipmiconsoleEngineSerialKeepalive
      || c.config.engine ipmiconsoleEngineSerialKeepaliveEmpty)
    && c.sol.consoleRemoteConsoleToBmc == [] && !c.sol.breakRequested && c.sol.bytesBeforeBreak == 0

/-- There are characters or a break to send, and no acknowledgement to wait for. -/
def Ctx.sendsInput (c : Ctx) : Bool :=
  c.sol.solInputWaitingForAck == 0 && (sendSolCharacterDataOrBreak c.sol).1.isSome

/-- The pass closes the session at once. -/
def Ctx.closesNow (c : Ctx) : Bool :=
  c.machine.closeSessionFlag != 0 && !c.protocolState.closedLater

/-- The timer that `_process_protocol_state_sol_session_send` acts on. -/
def solTimerActed (c : Ctx) (t : SolTimeouts) : Option Timer :=
  if c.sol.solInputWaitingForAck ≠ 0 ∧ t.solRetransmission then some .solRetransmission
  else if c.sendsInput then none
  else if t.keepaliveIsNecessary ∧ t.keepaliveRetransmission then some .keepalive
  else if c.mayKeepSerialAlive ∧ t.serialKeepaliveIsNecessary ∧ t.serialKeepalive then
    some .serialKeepalive
  else none

/-- The timer that a pass of `_process_ctx` acts on. -/
def timerActed (c : Ctx) (t : Timeouts) : Option Timer :=
  if c.closesNow then none
  else if c.protocolState = .start then none
  else if t.session then some .session
  else if c.protocolState = .solSession then solTimerActed c t.sol
  else if t.retransmission then some .ipmiRetransmission
  else none

/-! ### The timeout of the poll -/

/-- What is left until a deadline, in milliseconds. -/
def remaining (deadline current : Timeval) : BitVec 32 :=
  timevalMillisecondCalc (timevalSub deadline current)

/-- `if (ms < timeout) timeout = ms`. -/
def sooner (ms timeout : BitVec 32) : BitVec 32 := if ms < timeout then ms else timeout

/-- The deadline of the keepalive that `_calculate_timeout` takes: the next retransmission of the one
    that is necessary, or when one becomes necessary. -/
def TimedCtx.keepaliveDeadline (c : TimedCtx) (current : Timeval) : Timeval :=
  if c.keepaliveIsNecessary current then
    after c.ctx.timers.lastKeepalivePacketSent c.timeouts.retransmissionKeepaliveTimeoutLen
  else after c.ctx.timers.lastIpmiPacketReceived c.timeouts.keepaliveTimeoutLen

/-- `_calculate_timeout`, which reads the clock a second time to see whether a keepalive is
    necessary. -/
def TimedCtx.calculateTimeout (c : TimedCtx) (current current' : Timeval) : BitVec 32 :=
  let sessionTimeoutMs :=
    remaining (after c.ctx.timers.lastIpmiPacketReceived c.timeouts.sessionTimeoutLen) current
  if c.ctx.protocolState = .solSession then
    let timeout :=
      if c.ctx.sol.solInputWaitingForAck ≠ 0 then
        sooner (remaining (after c.lastSolInputPacketSent c.backedOffTimeoutLen) current) sessionTimeoutMs
      else sessionTimeoutMs
    sooner (remaining (c.keepaliveDeadline current') current) timeout
  else sooner (remaining (after c.ctx.timers.lastIpmiPacketSent c.backedOffTimeoutLen) current)
    sessionTimeoutMs

/-! ### A pass without a timer -/

section Quiet
variable {crypto : Crypto} {env : Env} {c : Ctx} {t t' : Timeouts}

/-- Without anything to send the session stays as it is. -/
theorem sendSolCharacterDataOrBreak_none {s : SolSession}
    (h : (sendSolCharacterDataOrBreak s).1.isSome = false) : sendSolCharacterDataOrBreak s = (none, s) := by
  unfold sendSolCharacterDataOrBreak at h ⊢
  split
  · rename_i hdata
    rw [if_pos hdata] at h
    cases h
  · rename_i hdata
    rw [if_neg hdata] at h
    split
    · rename_i hbreak
      rw [if_pos hbreak] at h
      cases h
    · rfl

theorem solInput_quiet (h : c.sol.solInputWaitingForAck ≠ 0 → t.sol.solRetransmission = false) :
    solInput (env.withTimeouts t) c = solInput (env.withTimeouts .none) c := by
  have hinput : solSessionInput c.config.sol c.sol t.sol
      = solSessionInput c.config.sol c.sol Timeouts.none.sol := by
    by_cases hwaits : c.sol.solInputWaitingForAck ≠ 0
    · rw [solSessionInput, solSessionInput, if_pos hwaits, if_pos hwaits, h hwaits]
      rfl
    · rw [solSessionInput, solSessionInput, if_neg hwaits, if_neg hwaits]
  have hsol : ∀ u : Timeouts, (env.withTimeouts u).solTimeouts = u.sol := fun _ => rfl
  rw [solInput, solInput, hsol, hsol, hinput]
  rfl

/-- A session with nothing to send passes on to the keepalives. -/
theorem solInput_idle (hs : c.protocolState = .solSession) (hsend : c.sendsInput = false) :
    solInput (env.withTimeouts .none) c = .ok (false, c) := by
  have hinput : solSessionInput c.config.sol c.sol Timeouts.none.sol = .ok (none, c.sol) := by
    by_cases hwaits : c.sol.solInputWaitingForAck ≠ 0
    · rw [solSessionInput, if_pos hwaits]
      rfl
    · have hzero : (c.sol.solInputWaitingForAck == 0) = true := by simpa using hwaits
      rw [Ctx.sendsInput, hzero, Bool.true_and] at hsend
      rw [solSessionInput, if_neg hwaits, sendSolCharacterDataOrBreak_none hsend]
  have hsol : (env.withTimeouts .none).solTimeouts = Timeouts.none.sol := rfl
  have hassert : protocolAssert (c.sol.solInputWaitingForAck ≠ 0 → c.protocolState = .solSession)
      = .ok () := if_pos fun _ => hs
  rw [solInput, hassert, ok_bind, hsol, hinput]
  rfl

/-- A session that sends input is done with that. -/
theorem solInput_done (hsend : c.sendsInput = true) {r : Bool × Ctx}
    (h : solInput (env.withTimeouts t) c = .ok r) : r.1 = true := by
  simp only [Ctx.sendsInput, Bool.and_eq_true, beq_iff_eq] at hsend
  obtain ⟨hzero, hsome⟩ := hsend
  have hinput : solSessionInput c.config.sol c.sol (env.withTimeouts t).solTimeouts
      = .ok (sendSolCharacterDataOrBreak c.sol) := if_neg (not_not.mpr hzero)
  rw [solInput, hinput] at h
  obtain ⟨u, -, h⟩ := bind_eq_ok.mp h
  cases hpair : sendSolCharacterDataOrBreak c.sol with
  | mk sent s =>
    rw [hpair] at h hsome
    obtain ⟨⟨ok, c'⟩, -, h⟩ := bind_eq_ok.mp h
    cases ok with
    | true =>
      cases h
      exact hsome
    | false =>
      obtain ⟨c'', -, h⟩ := bind_eq_ok.mp h
      cases h
      rfl

theorem keepaliveTimeout_quiet
    (h : ¬ (t.sol.keepaliveIsNecessary = true ∧ t.sol.keepaliveRetransmission = true)) :
    keepaliveTimeout (env.withTimeouts t) c = keepaliveTimeout (env.withTimeouts .none) c := by
  have hnone : ¬ ((env.withTimeouts .none).solTimeouts.keepaliveIsNecessary = true ∧
      (env.withTimeouts .none).solTimeouts.keepaliveRetransmission = true) := by
    rintro ⟨h, -⟩
    cases h
  have hyes : ¬ ((env.withTimeouts t).solTimeouts.keepaliveIsNecessary = true ∧
      (env.withTimeouts t).solTimeouts.keepaliveRetransmission = true) := h
  rw [keepaliveTimeout, keepaliveTimeout, if_neg hyes, if_neg hnone]

theorem keepaliveTimeout_idle (hs : c.protocolState = .solSession) :
    keepaliveTimeout (env.withTimeouts .none) c = .ok (false, c) := by
  have hassert : protocolAssert (c.protocolState = .solSession) = .ok () := if_pos hs
  rw [keepaliveTimeout, hassert, ok_bind]
  rfl

theorem serialKeepalive_quiet (h : ¬ (c.mayKeepSerialAlive = true ∧
      t.sol.serialKeepaliveIsNecessary = true ∧ t.sol.serialKeepalive = true)) :
    serialKeepalive (env.withTimeouts t) c = serialKeepalive (env.withTimeouts .none) c := by
  by_cases hflags : c.config.engine ipmiconsoleEngineSerialKeepalive
      ∨ c.config.engine ipmiconsoleEngineSerialKeepaliveEmpty
  · have hkeep : serialKeepaliveTimeout c.config.sol c.sol t.sol
        = serialKeepaliveTimeout c.config.sol c.sol Timeouts.none.sol := by
      rw [serialKeepaliveTimeout, serialKeepaliveTimeout, if_neg, if_neg]
      · rintro ⟨hnever, -⟩
        cases hnever
      · rintro ⟨hnecessary, hempty, hbreak, hbytes, htimeout⟩
        refine h ⟨?_, hnecessary, htimeout⟩
        simp only [Ctx.mayKeepSerialAlive, Bool.and_eq_true, Bool.or_eq_true, beq_iff_eq]
        exact ⟨⟨⟨hflags, hempty⟩, hbreak⟩, hbytes⟩
    have hsol : ∀ u : Timeouts, (env.withTimeouts u).solTimeouts = u.sol := fun _ => rfl
    rw [serialKeepalive, serialKeepalive, if_pos hflags, if_pos hflags, hsol, hsol, hkeep]
    rfl
  · rw [serialKeepalive, serialKeepalive, if_neg hflags, if_neg hflags]

/-- In SOL_SESSION a pass that acts on no timer sends what it would without any. -/
theorem solSessionSend_quiet (hs : c.protocolState = .solSession) (h : solTimerActed c t.sol = none) :
    processProtocolStateSolSessionSend (env.withTimeouts t) c
      = processProtocolStateSolSessionSend (env.withTimeouts .none) c := by
  unfold solTimerActed at h
  split at h
  · cases h
  · rename_i hretransmission
    have hquiet : c.sol.solInputWaitingForAck ≠ 0 → t.sol.solRetransmission = false := by
      intro hwaits
      by_contra htimeout
      exact hretransmission ⟨hwaits, by simpa using htimeout⟩
    rw [processProtocolStateSolSessionSend, processProtocolStateSolSessionSend, solInput_quiet hquiet]
    by_cases hsend : c.sendsInput = true
    · cases hinput : solInput (env.withTimeouts .none) c with
      | error e => rfl
      | ok r =>
        obtain ⟨done, c'⟩ := r
        have hdone : done = true := solInput_done hsend hinput
        subst hdone
        rfl
    · rw [if_neg hsend] at h
      split at h
      · cases h
      · rename_i hkeepalive
        split at h
        · cases h
        · rename_i hserial
          simp only [solInput_idle hs (Bool.eq_false_of_not_eq_true hsend), keepaliveTimeout_quiet hkeepalive,
            keepaliveTimeout_idle hs, serialKeepalive_quiet hserial, ok_bind]

/-- What `_check_close_session` leaves to the rest of the pass. -/
theorem checkCloseSession_later {now : ℕ} (h : c.closesNow = false) :
    checkCloseSession now c = .ok (false, c) := by
  rw [checkCloseSession]
  by_cases hflag : c.machine.closeSessionFlag = 0
  · rw [if_pos hflag]
  · have hlater : c.protocolState.closedLater = true := by
      simpa [Ctx.closesNow, hflag] using h
    have hassert : protocolAssert (c.machine.closeSessionFlag ≠ 0) = .ok () := if_pos hflag
    rw [if_neg hflag, closeSession, hassert, ok_bind]
    cases hs : c.protocolState <;> rw [hs] at hlater <;> first | rfl | cases hlater

/-- A session that is closed at once is not looked at any further. -/
theorem checkCloseSession_now {now : ℕ} (h : c.closesNow = true) {r : Bool × Ctx}
    (hr : checkCloseSession now c = .ok r) : r.1 = true := by
  simp only [Ctx.closesNow, Bool.and_eq_true, bne_iff_ne, ne_eq, Bool.not_eq_true'] at h
  obtain ⟨hflag, hlater⟩ := h
  rw [checkCloseSession, if_neg hflag, closeSession] at hr
  obtain ⟨u, -, hr⟩ := bind_eq_ok.mp hr
  have hsent : ∀ {x : Except Halt Ctx}, (do return (true, ← x)) = .ok r → r.1 = true := by
    intro x hx
    obtain ⟨c', -, hx⟩ := bind_eq_ok.mp hx
    cases hx
    rfl
  cases hs : c.protocolState <;> rw [hs] at hlater hr <;> dsimp only at hr <;> first
    | exact hsent hr
    | exact absurd hlater (by decide)
    | cases hr

/-- A pass that acts on no timer is the pass at a time when no timer is due. -/
theorem processCtx_quiet (h : timerActed c t = none) :
    processCtx crypto (env.withTimeouts t) c = processCtx crypto (env.withTimeouts .none) c := by
  have hnow : ∀ u : Timeouts, (env.withTimeouts u).now = env.now := fun _ => rfl
  rw [processCtx, processCtx, hnow, hnow]
  unfold timerActed at h
  split at h
  · rename_i hcloses
    cases hcheck : checkCloseSession env.now c with
    | error e => rfl
    | ok r =>
      obtain ⟨closing, c'⟩ := r
      have hclosing : closing = true := checkCloseSession_now hcloses hcheck
      subst hclosing
      rfl
  · rename_i hcloses
    simp only [checkCloseSession_later (Bool.eq_false_of_not_eq_true hcloses), ok_bind, Bool.false_eq_true,
      if_false]
    split at h
    · rename_i hstart
      rw [if_pos hstart, if_pos hstart]
      rfl
    · rename_i hstart
      split at h
      · cases h
      · rename_i hsession
        have hdue : ¬ (env.withTimeouts t).sessionTimeout = true := hsession
        have hnone : ¬ (env.withTimeouts .none).sessionTimeout = true := Bool.false_ne_true
        rw [if_neg hstart, if_neg hstart, if_neg hdue, if_neg hnone]
        split at h
        · rename_i hsol
          rw [if_pos hsol, if_pos hsol, processSolSession, processSolSession, solSessionSend_quiet hsol h]
          rfl
        · rename_i hsol
          split at h
          · cases h
          · rename_i hretransmission
            have hsame : ipmiRetransmissionTimeout (env.withTimeouts t) c
                = ipmiRetransmissionTimeout (env.withTimeouts .none) c := by
              have hfalse : (env.withTimeouts t).retransmissionTimeout = false :=
                Bool.eq_false_of_not_eq_true hretransmission
              rw [ipmiRetransmissionTimeout, ipmiRetransmissionTimeout, hfalse]
              rfl
            rw [if_neg hsol, if_neg hsol, processRetransmission, processRetransmission, hsame]
            rfl

end Quiet

/-! ### In time -/

/-- Which comparisons make a pass act on a timer in SOL_SESSION. -/
theorem solTimerActed_iff (c : Ctx) (t : SolTimeouts) : solTimerActed c t ≠ none ↔
    (c.sol.solInputWaitingForAck ≠ 0 ∧ t.solRetransmission = true) ∨
      (c.sendsInput = false ∧ ((t.keepaliveIsNecessary = true ∧ t.keepaliveRetransmission = true) ∨
        (c.mayKeepSerialAlive = true ∧ t.serialKeepaliveIsNecessary = true ∧ t.serialKeepalive = true))) := by
  unfold solTimerActed
  split
  · rename_i hretransmission
    exact iff_of_true (Option.some_ne_none _) (Or.inl hretransmission)
  · rename_i hretransmission
    split
    · rename_i hsend
      refine iff_of_false (fun h => h rfl) ?_
      rintro (h | ⟨h, -⟩)
      · exact hretransmission h
      · rw [hsend] at h
        cases h
    · rename_i hsend
      have hsend' := Bool.eq_false_of_not_eq_true hsend
      split
      · rename_i hkeepalive
        exact iff_of_true (Option.some_ne_none _) (Or.inr ⟨hsend', Or.inl hkeepalive⟩)
      · rename_i hkeepalive
        split
        · rename_i hserial
          exact iff_of_true (Option.some_ne_none _) (Or.inr ⟨hsend', Or.inr hserial⟩)
        · rename_i hserial
          refine iff_of_false (fun h => h rfl) ?_
          rintro (h | ⟨-, h | h⟩)
          · exact hretransmission h
          · exact hkeepalive h
          · exact hserial h

theorem timerActed_iff (c : Ctx) (t : Timeouts) : timerActed c t ≠ none ↔
    c.closesNow = false ∧ c.protocolState ≠ .start ∧
      (t.session = true ∨ (c.protocolState = .solSession ∧ solTimerActed c t.sol ≠ none) ∨
        (c.protocolState ≠ .solSession ∧ t.retransmission = true)) := by
  unfold timerActed
  by_cases hcloses : c.closesNow = true
  · simp [hcloses]
  · by_cases hstart : c.protocolState = .start
    · simp [hcloses, hstart]
    · by_cases hsession : t.session = true
      · simp [hcloses, hstart, hsession]
      · by_cases hsol : c.protocolState = .solSession
        · simp [hcloses, hsol, hsession]
        · simp [hcloses, hstart, hsession, hsol]

/-- The engine does not sleep longer than until the first time, in milliseconds, at which a pass would
    act on a timer. -/
def TimedCtx.InTime (c : TimedCtx) (current current' : Timeval) : Prop :=
  ∀ time : Timeval, current.micros ≤ time.micros → timerActed c.ctx (c.timeoutsAt time) ≠ none →
    (c.calculateTimeout current current').toNat ≤ msRoundUp (time.micros - current.micros)

/-- The milliseconds, counted from the clock, after which a time is past. -/
def firstMs (due : ℕ) (current : Timeval) : ℕ := msRoundUp (due + 1 - current.micros)

/-- When SOL input is retransmitted, in microseconds; the back-off plays no part. -/
def TimedCtx.solRetransmissionDue (c : TimedCtx) : ℕ :=
  c.lastSolInputPacketSent + 1000 * c.timeouts.retransmissionTimeoutLen.toNat

/-- When a serial keepalive is sent: nothing has been received for the length of the session timeout, nor
    sent for that of a retransmission. -/
def TimedCtx.serialKeepaliveDue (c : TimedCtx) : ℕ :=
  max (c.ctx.timers.lastSolPacketReceived + 1000 * c.timeouts.sessionTimeoutLen.toNat)
    c.solRetransmissionDue

/-- The time `len` milliseconds after `time` comes within `n` milliseconds of the clock. The count has 32
    bits, and wraps where `time` is ahead of the clock by enough. -/
def ComesWithin (time : ℕ) (len : BitVec 32) (current : Timeval) (n : ℕ) : Prop :=
  (time + 1000 * len.toNat - current.micros + 999) / 1000 % 2 ^ 32 ≤ n

/-- The end of the session comes within `n` milliseconds, or the next keepalive: the retransmission of the
    one that is necessary, or the time when one becomes necessary. -/
def TimedCtx.OtherDeadlineWithin (c : TimedCtx) (current current' : Timeval) (n : ℕ) : Prop :=
  ComesWithin c.ctx.timers.lastIpmiPacketReceived c.timeouts.sessionTimeoutLen current n ∨
    if c.ctx.timers.lastIpmiPacketReceived + 1000 * c.timeouts.keepaliveTimeoutLen.toNat
        < current'.micros then
      ComesWithin c.ctx.timers.lastKeepalivePacketSent c.timeouts.retransmissionKeepaliveTimeoutLen
        current n
    else ComesWithin c.ctx.timers.lastIpmiPacketReceived c.timeouts.keepaliveTimeoutLen current n

/-- The back-off does not put off the retransmission of SOL input: its multiplier is 1 (or the product
    wraps or is 0), its deadline is past as well, or it adds a millisecond that the rounding takes; or the
    clock has been set back. -/
inductive TimedCtx.BackoffHarmless (c : TimedCtx) (current : Timeval) : Prop where
  | plain : c.backedOffTimeoutLen ≤ c.timeouts.retransmissionTimeoutLen → c.BackoffHarmless current
  | past : c.lastSolInputPacketSent + 1000 * c.backedOffTimeoutLen.toNat ≤ current.micros →
      c.BackoffHarmless current
  | rounded : c.backedOffTimeoutLen.toNat = c.timeouts.retransmissionTimeoutLen.toNat + 1 →
      c.lastSolInputPacketSent ≤ current.micros →
      1000 ∣ current.micros - c.lastSolInputPacketSent → c.BackoffHarmless current
  | ahead : current.micros < c.lastSolInputPacketSent →
      ComesWithin c.lastSolInputPacketSent c.backedOffTimeoutLen current
        (firstMs c.solRetransmissionDue current) → c.BackoffHarmless current

section InTime
variable {c : TimedCtx} {current current' time : Timeval} {n due : ℕ}

theorem toNat_sooner_le (x y : BitVec 32) : (sooner x y).toNat ≤ n ↔ x.toNat ≤ n ∨ y.toNat ≤ n := by
  unfold sooner
  split
  · rename_i hlt
    have := BitVec.lt_def.mp hlt
    omega
  · rename_i hlt
    have := mt BitVec.lt_def.mpr hlt
    omega

theorem micros_after (time : ℕ) (len : BitVec 32) : (after time len).micros = time + 1000 * len.toNat := by
  rw [after, micros_timevalAddMs, Timeval.micros_ofMicros]

theorem remaining_after_le_iff {len : BitVec 32} {t : ℕ} :
    (remaining (after t len) current).toNat ≤ n ↔ ComesWithin t len current n := by
  rw [remaining, timevalMillisecondCalc_eq, BitVec.toNat_ofNat, micros_timevalSub, micros_after]
  rfl

/-- What has come by a time has come since its first millisecond. -/
theorem comesWithin_of_lt {len : BitVec 32} {t : ℕ} (h : t + 1000 * len.toNat < time.micros) :
    ComesWithin t len current (msRoundUp (time.micros - current.micros)) := by
  have hn : (t + 1000 * len.toNat - current.micros + 999) / 1000
      ≤ msRoundUp (time.micros - current.micros) := msRoundUp_mono (by omega)
  exact (Nat.mod_le _ _).trans hn

theorem firstMs_le (h : due < time.micros) :
    firstMs due current ≤ msRoundUp (time.micros - current.micros) :=
  msRoundUp_mono (by omega)

/-- A comparison with the clock, in numbers. -/
theorem timevalGt_after_iff {len : BitVec 32} {t : ℕ} :
    timevalGt time (after t len) = true ↔ t + 1000 * len.toNat < time.micros := by
  rw [timevalGt_iff, micros_after]

theorem remaining_keepalive_le_iff :
    (remaining (c.keepaliveDeadline current') current).toNat ≤ n ↔
      if c.ctx.timers.lastIpmiPacketReceived + 1000 * c.timeouts.keepaliveTimeoutLen.toNat
          < current'.micros then
        ComesWithin c.ctx.timers.lastKeepalivePacketSent c.timeouts.retransmissionKeepaliveTimeoutLen
          current n
      else ComesWithin c.ctx.timers.lastIpmiPacketReceived c.timeouts.keepaliveTimeoutLen current n := by
  unfold TimedCtx.keepaliveDeadline TimedCtx.keepaliveIsNecessary
  by_cases hnecessary : c.ctx.timers.lastIpmiPacketReceived
      + 1000 * c.timeouts.keepaliveTimeoutLen.toNat < current'.micros
  · rw [if_pos hnecessary, if_pos (timevalGt_after_iff.mpr hnecessary), remaining_after_le_iff]
  · rw [if_neg hnecessary, if_neg (mt timevalGt_after_iff.mp hnecessary), remaining_after_le_iff]

/-- In SOL_SESSION the timeout is what is left of the earliest deadline looked at. -/
theorem calculateTimeout_le_iff (hs : c.ctx.protocolState = .solSession) :
    (c.calculateTimeout current current').toNat ≤ n ↔
      (c.ctx.sol.solInputWaitingForAck ≠ 0 ∧
        ComesWithin c.lastSolInputPacketSent c.backedOffTimeoutLen current n) ∨
      c.OtherDeadlineWithin current current' n := by
  unfold TimedCtx.calculateTimeout TimedCtx.OtherDeadlineWithin
  rw [if_pos hs, toNat_sooner_le, remaining_keepalive_le_iff, or_comm]
  by_cases hwaits : c.ctx.sol.solInputWaitingForAck ≠ 0
  · rw [if_pos hwaits, toNat_sooner_le, remaining_after_le_iff, remaining_after_le_iff, or_assoc,
      and_iff_right hwaits]
  · rw [if_neg hwaits, remaining_after_le_iff]
    exact (or_iff_right fun h => hwaits h.1).symm

/-- The session timeout is looked at in every state. -/
theorem calculateTimeout_session (h : c.sessionTimedOut time = true) :
    (c.calculateTimeout current current').toNat ≤ msRoundUp (time.micros - current.micros) := by
  have hcomes : ComesWithin c.ctx.timers.lastIpmiPacketReceived c.timeouts.sessionTimeoutLen current
      (msRoundUp (time.micros - current.micros)) := comesWithin_of_lt (timevalGt_after_iff.mp h)
  by_cases hs : c.ctx.protocolState = .solSession
  · exact (calculateTimeout_le_iff hs).mpr (Or.inr (Or.inl hcomes))
  · unfold TimedCtx.calculateTimeout
    rw [if_neg hs, toNat_sooner_le, remaining_after_le_iff, remaining_after_le_iff]
    exact Or.inr hcomes

/-- Outside of SOL_SESSION the retransmission is looked at. -/
theorem calculateTimeout_retransmission (hs : c.ctx.protocolState ≠ .solSession)
    (h : c.ipmiRetransmissionTimedOut time = true) :
    (c.calculateTimeout current current').toNat ≤ msRoundUp (time.micros - current.micros) := by
  unfold TimedCtx.calculateTimeout
  rw [if_neg hs, toNat_sooner_le, remaining_after_le_iff]
  exact Or.inl (comesWithin_of_lt (timevalGt_after_iff.mp h))

/-- A keepalive waits for both of its deadlines, so that it does not matter which one is looked at. -/
theorem calculateTimeout_keepalive (hs : c.ctx.protocolState = .solSession)
    (hnecessary : c.keepaliveIsNecessary time = true) (h : c.keepaliveTimedOut time = true) :
    (c.calculateTimeout current current').toNat ≤ msRoundUp (time.micros - current.micros) := by
  refine (calculateTimeout_le_iff hs).mpr (Or.inr (Or.inr ?_))
  split
  · exact comesWithin_of_lt (timevalGt_after_iff.mp h)
  · exact comesWithin_of_lt (timevalGt_after_iff.mp hnecessary)

/-- Both deadlines of the serial keepalive are past exactly when the later one is. -/
theorem serialKeepaliveDue_lt : c.serialKeepaliveDue < time.micros ↔
    c.serialKeepaliveIsNecessary time = true ∧ c.solRetransmissionTimedOut time = true := by
  unfold TimedCtx.serialKeepaliveDue TimedCtx.solRetransmissionDue TimedCtx.serialKeepaliveIsNecessary
    TimedCtx.solRetransmissionTimedOut
  rw [timevalGt_after_iff, timevalGt_after_iff, max_lt_iff]

/-- Where the last SOL input was sent before now, the back-off is harmless in lengths. -/
theorem backoffHarmless_iff : c.BackoffHarmless current ↔
    ComesWithin c.lastSolInputPacketSent c.backedOffTimeoutLen current
      (firstMs c.solRetransmissionDue current) := by
  have hlong := c.backedOffTimeoutLen.isLt
  unfold ComesWithin firstMs TimedCtx.solRetransmissionDue msRoundUp
  constructor
  · rintro (hle | hpast | ⟨hone, hle, hdvd⟩ | ⟨-, hcomes⟩)
    · have hle := BitVec.le_def.mp hle
      refine (Nat.mod_le _ _).trans (Nat.div_le_div_right ?_)
      omega
    · omega
    · omega
    · exact hcomes
  · intro hcomes
    by_cases hahead : current.micros < c.lastSolInputPacketSent
    · exact .ahead hahead hcomes
    · by_cases hle : c.backedOffTimeoutLen ≤ c.timeouts.retransmissionTimeoutLen
      · exact .plain hle
      · by_cases hpast : c.lastSolInputPacketSent + 1000 * c.backedOffTimeoutLen.toNat ≤ current.micros
        · exact .past hpast
        · rw [BitVec.le_def] at hle
          exact .rounded (by omega) (by omega) (by omega)

/-- A timer is acted on in time only if the sleep ends in its first millisecond. -/
theorem TimedCtx.InTime.le_firstMs (h : c.InTime current current')
    (hacts : ∀ time : Timeval, due < time.micros → timerActed c.ctx (c.timeoutsAt time) ≠ none) :
    (c.calculateTimeout current current').toNat ≤ firstMs due current := by
  have hpast := h (.ofMicros (max (due + 1) current.micros))
    (by rw [Timeval.micros_ofMicros]; exact le_max_right _ _)
    (hacts _ (by rw [Timeval.micros_ofMicros]; exact Nat.lt_of_lt_of_le (Nat.lt_succ_self _) (le_max_left _ _)))
  rw [Timeval.micros_ofMicros] at hpast
  exact hpast.trans (msRoundUp_mono (by omega))

/-- The engine wakes up in time for every timer but two. While SOL input waits for its acknowledgement,
    the back-off has to be harmless, or the end of the session or a keepalive has to come in time. While a
    serial keepalive may be sent, one of these or the backed-off retransmission has to. -/
theorem inTime_iff (c : TimedCtx) (current current' : Timeval) : c.InTime current current' ↔
    (c.ctx.protocolState = .solSession → c.ctx.closesNow = false →
      (c.ctx.sol.solInputWaitingForAck ≠ 0 → c.BackoffHarmless current ∨
        c.OtherDeadlineWithin current current' (firstMs c.solRetransmissionDue current)) ∧
      (c.ctx.mayKeepSerialAlive = true → c.ctx.sendsInput = false →
        (c.ctx.sol.solInputWaitingForAck ≠ 0 ∧ ComesWithin c.lastSolInputPacketSent
            c.backedOffTimeoutLen current (firstMs c.serialKeepaliveDue current)) ∨
          c.OtherDeadlineWithin current current' (firstMs c.serialKeepaliveDue current))) := by
  constructor
  · intro h hs hcloses
    have hstart : c.ctx.protocolState ≠ .start := by
      rw [hs]
      decide
    have hacts : ∀ time, solTimerActed c.ctx (c.timeoutsAt time).sol ≠ none →
        timerActed c.ctx (c.timeoutsAt time) ≠ none := fun time hsol =>
      (timerActed_iff _ _).mpr ⟨hcloses, hstart, Or.inr (Or.inl ⟨hs, hsol⟩)⟩
    refine ⟨fun hwaits => ?_, fun hserial hsend => ?_⟩
    · have hle : (c.calculateTimeout current current').toNat ≤ firstMs c.solRetransmissionDue current :=
        h.le_firstMs fun time hpast => hacts time
          ((solTimerActed_iff _ _).mpr (Or.inl ⟨hwaits, timevalGt_after_iff.mpr hpast⟩))
      exact ((calculateTimeout_le_iff hs).mp hle).imp_left fun hcomes => backoffHarmless_iff.mpr hcomes.2
    · exact (calculateTimeout_le_iff hs).mp (h.le_firstMs fun time hpast => hacts time
        ((solTimerActed_iff _ _).mpr (Or.inr ⟨hsend, Or.inr ⟨hserial, serialKeepaliveDue_lt.mp hpast⟩⟩)))
  · intro h time hle hacts
    obtain ⟨hcloses, -, hsession | ⟨hs, hsol⟩ | ⟨hs, hretransmission⟩⟩ := (timerActed_iff _ _).mp hacts
    · exact calculateTimeout_session hsession
    · obtain ⟨hinput, hkeep⟩ := h hs hcloses
      rcases (solTimerActed_iff _ _).mp hsol with
        ⟨hwaits, hpast⟩ | ⟨hsend, ⟨hnecessary, hpast⟩ | ⟨hserial, hpast⟩⟩
      · have hsleep := (calculateTimeout_le_iff hs).mpr ((hinput hwaits).imp_left fun hharmless =>
          ⟨hwaits, backoffHarmless_iff.mp hharmless⟩)
        exact hsleep.trans (firstMs_le (timevalGt_after_iff.mp hpast))
      · exact calculateTimeout_keepalive hs hnecessary hpast
      · exact ((calculateTimeout_le_iff hs).mpr (hkeep hserial hsend)).trans
          (firstMs_le (serialKeepaliveDue_lt.mpr hpast))
    · exact calculateTimeout_retransmission hs hretransmission

/-- The multiplier is 1 without back-off, and until there have been that many retransmissions. -/
theorem backoffHarmless_of_lt (h : c.timeouts.retransmissionBackoffCount = 0 ∨
      BitVec.ofNat 32 c.ctx.sol.retransmissionCount < c.timeouts.retransmissionBackoffCount) :
    c.BackoffHarmless current := by
  have hone : c.retransmissionTimeoutMultiplier = 1 := by
    unfold TimedCtx.retransmissionTimeoutMultiplier
    split
    · rename_i hcount
      have hlt := BitVec.lt_def.mp (h.resolve_left hcount)
      apply BitVec.eq_of_toNat_eq
      rw [BitVec.toNat_add, BitVec.toNat_udiv, Nat.div_eq_of_lt hlt]
      rfl
    · rfl
  refine .plain ?_
  rw [TimedCtx.backedOffTimeoutLen, hone, mul_one]
  exact BitVec.le_refl _

/-- Before the back-off begins and without serial keepalives the engine always wakes up in time. -/
theorem inTime_of_plain (h : c.timeouts.retransmissionBackoffCount = 0 ∨
      BitVec.ofNat 32 c.ctx.sol.retransmissionCount < c.timeouts.retransmissionBackoffCount)
    (hserial : c.ctx.mayKeepSerialAlive = false) : c.InTime current current' := by
  refine (inTime_iff c current current').mpr fun _ _ =>
    ⟨fun _ => Or.inl (backoffHarmless_of_lt h), fun hmay => ?_⟩
  rw [hserial] at hmay
  cases hmay

end InTime

/-- The default lengths. -/
def defaultTimeouts : TimeoutConfig := ⟨60000, 500, 2, 20000, 5000⟩

/-- A session in SOL_SESSION whose SOL input has been retransmitted twice; everything was sent and
    received at the same time. -/
def backedOffCtx (now : ℕ) : TimedCtx where
  ctx := { sampleCtx sampleConfig with
    machine := ⟨.solSession, 0, 0, 0, 0, 0, 0, 0⟩
    timers := ⟨now, now, now, now⟩
    sol := { SolSession.setup 0 255 with solInputWaitingForAck := 1, retransmissionCount := 2 } }
  timeouts := defaultTimeouts
  lastSolInputPacketSent := now

/-- A session with serial keepalives in which the BMC has sent nothing but IPMI packets for a minute. -/
def serialKeepaliveCtx (now : ℕ) : TimedCtx where
  ctx := { sampleCtx { sampleConfig with engineFlags := ipmiconsoleEngineSerialKeepalive } with
    machine := ⟨.solSession, 0, 0, 0, 0, 0, 0, 0⟩
    timers := ⟨now, now, now, now - 59000000⟩
    sol := SolSession.setup 0 255 }
  timeouts := defaultTimeouts
  lastSolInputPacketSent := 0

/-- The third retransmission is due after 501 milliseconds, and the engine sleeps for 1000; the serial
    keepalive is due after 1001, and the engine sleeps for 20000. -/
theorem late_samples : ¬ (backedOffCtx 100000000).InTime (.ofMicros 100000000) (.ofMicros 100000000) ∧
    ¬ (serialKeepaliveCtx 100000000).InTime (.ofMicros 100000000) (.ofMicros 100000000) := by
  refine ⟨fun h => ?_, fun h => ?_⟩
  · have hle := h (.ofMicros 100500001) (by simp) (by decide +kernel)
    have hsleep : ((backedOffCtx 100000000).calculateTimeout (.ofMicros 100000000)
      (.ofMicros 100000000)).toNat = 1000 := by decide +kernel
    rw [hsleep, Timeval.micros_ofMicros, Timeval.micros_ofMicros, msRoundUp] at hle
    omega
  · have hle := h (.ofMicros 101000001) (by simp) (by decide +kernel)
    have hsleep : ((serialKeepaliveCtx 100000000).calculateTimeout (.ofMicros 100000000)
      (.ofMicros 100000000)).toNat = 20000 := by decide +kernel
    rw [hsleep, Timeval.micros_ofMicros, Timeval.micros_ofMicros, msRoundUp] at hle
    omega

end FreeIpmi.Console
