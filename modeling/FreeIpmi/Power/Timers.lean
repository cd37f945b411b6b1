import FreeIpmi.Util.Timeval
import FreeIpmi.Power.Schedule

/-! The clock in `ipmipower_powercmd.c`: when `_has_timed_out` and `_retry_packets` act on a command,
    and the timeout that `_process_ipmi_packets` returns for it.

    The comparisons with the clock are what a `Visit` is told of it. All three functions count in
    milliseconds of an `unsigned int`, rounded up, so that each timer acts a known number of
    milliseconds from now (`msUntil`). -/

namespace FreeIpmi.Power
open Util Calls

/-! ### The source -/

/-- The timeouts of `cmd_args`, in milliseconds. The options refuse a back-off count of 0. -/
structure TimeoutArgs where
  sessionTimeout : BitVec 32
  retransmissionTimeout : BitVec 32
  retransmissionWaitTimeout : BitVec 32
  retransmissionBackoffCount : BitVec 32
  backoff_ne : retransmissionBackoffCount ≠ 0

/-- A command with `time_begin`, and `last_ipmi_send` of its connection. -/
structure TimedCommand where
  active : Active
  timeBegin : Timeval
  lastIpmiSend : Timeval

/-- The command waits until the power is on or off. -/
def TimedCommand.waits (c : TimedCommand) : Bool :=
  c.active.ip.waitUntilOnState ≠ 0 && c.active.ip.cmd = .powerOn
    || c.active.ip.waitUntilOffState ≠ 0 && c.active.ip.cmd = .powerOff

/-- `retransmission_timeout`, with its back-off. -/
def TimedCommand.retransmissionTimeout (args : TimeoutArgs) (c : TimedCommand) : BitVec 32 :=
  let backoff := 1 + BitVec.ofNat 32 c.active.ip.retransmissionCount / args.retransmissionBackoffCount
  if c.waits then args.retransmissionWaitTimeout * backoff else args.retransmissionTimeout * backoff

/-- The comparison of `_has_timed_out`. -/
def TimedCommand.sessionTimedOut (args : TimeoutArgs) (c : TimedCommand) (curTime : Timeval) : Bool :=
  args.sessionTimeout ≤ elapsed c.timeBegin curTime

/-- The comparisons of `_retry_packets`. The end of the session is counted from the current time. -/
def TimedCommand.retransmits (args : TimeoutArgs) (c : TimedCommand) (curTime : Timeval) : Bool :=
  if elapsed c.lastIpmiSend curTime < c.retransmissionTimeout args then false
  else
    let endTime := timevalAddMs curTime args.sessionTimeout
    let timeLeft := timevalMillisecondCalc (timevalSub endTime curTime)
    !decide (timeLeft < c.retransmissionTimeout args)

/-- `_has_timed_out`, at a time. -/
def TimedCommand.hasTimedOut (cfg : Config) (args : TimeoutArgs) (c : TimedCommand)
    (curTime : Timeval) : Bool × Active :=
  Power.hasTimedOut cfg c.active (c.sessionTimedOut args curTime)

/-- `_retry_packets`, at a time. -/
def TimedCommand.retryPackets (cfg : Config) (args : TimeoutArgs) (c : TimedCommand) (v : Visit)
    (curTime : Timeval) : Except Exit (Rv × Active) :=
  Power.retryPackets cfg c.active { v with retransmit := c.retransmits args curTime }

/-- The timeout that `_process_ipmi_packets` returns for a command that it leaves unfinished: it has
    not been started, for want of a place, or is at the label `done`. The source returns the number
    as an `int`, which it fits below 24 days. -/
def TimedCommand.timeout (args : TimeoutArgs) (c : TimedCommand) (curTime : Timeval) : BitVec 32 :=
  if c.active.ip.protocolState = .start then args.sessionTimeout
  else
    let endTime := timevalAddMs c.timeBegin args.sessionTimeout
    let timeout := timevalMillisecondCalc (timevalSub endTime curTime)
    if timeout > c.retransmissionTimeout args then c.retransmissionTimeout args else timeout

/-! ### When a timer acts -/

/-- At a time, `_has_timed_out` gives the command up or `_retry_packets` does anything at all. -/
def TimedCommand.Acts (cfg : Config) (args : TimeoutArgs) (c : TimedCommand) (time : Timeval) : Prop :=
  (c.hasTimedOut cfg args time).1 = true ∨
    ∃ v, c.retryPackets cfg args v time ≠ .ok (.zero, c.active)

/-- The timeout ends before a timer would act on the command, in whole milliseconds. -/
def TimedCommand.InTime (cfg : Config) (args : TimeoutArgs) (c : TimedCommand) (curTime : Timeval) :
    Prop :=
  ∀ time : Timeval, curTime.micros ≤ time.micros → c.Acts cfg args time →
    (c.timeout args curTime).toNat ≤ msRoundUp (time.micros - curTime.micros)

/-- A request is sent again only while one more timeout remains before the end of the session. -/
def TimedCommand.ResendsInTime (cfg : Config) (args : TimeoutArgs) (c : TimedCommand)
    (curTime : Timeval) : Prop :=
  ∀ v w, c.retryPackets cfg args v curTime = .ok (.one, w) →
    curTime.micros + 1000 * (c.retransmissionTimeout args).toNat
      ≤ c.timeBegin.micros + 1000 * args.sessionTimeout.toNat

section Timers
variable {cfg : Config} {args : TimeoutArgs} {c : TimedCommand} {curTime time : Timeval}

/-- The second comparison does not look at the session: its time left is all of the timeout. -/
theorem retransmits_iff : c.retransmits args curTime = true ↔
    c.retransmissionTimeout args ≤ elapsed c.lastIpmiSend curTime ∧
      c.retransmissionTimeout args ≤ args.sessionTimeout := by
  have hleft : timevalMillisecondCalc (timevalSub (timevalAddMs curTime args.sessionTimeout) curTime)
      = args.sessionTimeout := by
    have hms : msRoundUp (1000 * args.sessionTimeout.toNat) = args.sessionTimeout.toNat := by
      rw [msRoundUp]
      omega
    rw [timevalMillisecondCalc_eq, micros_timevalSub, micros_timevalAddMs, Nat.add_sub_cancel_left,
      hms, BitVec.ofNat_toNat, BitVec.setWidth_eq]
  rw [TimedCommand.retransmits]
  dsimp only
  rw [hleft]
  simp only [BitVec.lt_def, BitVec.le_def]
  split
  · rename_i hlt
    simp [hlt]
  · rename_i hge
    simp [Nat.le_of_not_lt hge]

theorem hasTimedOut_iff : (c.hasTimedOut cfg args time).1 = true ↔
    c.active.ip.protocolState ≠ .start ∧ c.sessionTimedOut args time = true := by
  rw [TimedCommand.hasTimedOut, Power.hasTimedOut]
  by_cases hstart : c.active.ip.protocolState = .start
  · simp [hstart]
  · cases c.sessionTimedOut args time with
    | false => simp
    | true =>
      by_cases hclose : c.active.ip.protocolState = .sent .closeSession
      · simp [hclose]
      · simp [hstart, hclose]

/-- What `_retry_packets` does once it is due changes the command, or ends the program. -/
theorem retryPackets_acts {w : Active} {v : Visit} (hs : w.ip.protocolState ≠ .start)
    (hv : v.retransmit = true) : Power.retryPackets cfg w v ≠ .ok (.zero, w) := by
  have hdue : ¬ (w.ip.protocolState = .start ∨ (!v.retransmit) = true) := by simp [hs, hv]
  rw [Power.retryPackets, if_neg hdue]
  dsimp only
  cases hstate : w.ip.protocolState with
  | start => exact absurd hstate hs
  | done =>
    intro heq
    cases heq
  | sent pkt =>
    cases pkt with
    | closeSession =>
      intro heq
      have hcount := congrArg (fun x : Rv × Active => x.2.ip.retransmissionCount) (Except.ok.inj heq)
      simp at hcount
    | getSessionChallenge => rcases v.socket with _ | _ | _ <;> simp
    | _ => simp

/-- The command waits for the answer to a request that is sent again: any but the one to close the
    session. -/
def TimedCommand.Resendable (c : TimedCommand) : Prop :=
  ∃ pkt, c.active.ip.protocolState = .sent pkt ∧ pkt ≠ .closeSession

theorem resendable_of_retryPackets {v : Visit} {w : Active}
    (h : c.retryPackets cfg args v time = .ok (.one, w)) :
    c.Resendable ∧ c.retransmits args time = true := by
  constructor
  · have hretried := (yields_retryPackets _).value _ h
    cases hretried with
    | resent hs hpkt hl => exact ⟨_, hs, hpkt⟩
  · by_contra hnot
    have hidle : c.active.ip.protocolState = .start ∨ (!c.retransmits args time) = true :=
      Or.inr (by simpa using hnot)
    rw [TimedCommand.retryPackets, Power.retryPackets, if_pos hidle] at h
    cases h

theorem exists_retryPackets (cfg : Config) (hs : c.Resendable) (h : c.retransmits args time = true) :
    ∃ v w, c.retryPackets cfg args v time = .ok (.one, w) := by
  obtain ⟨pkt, hs, hpkt⟩ := hs
  have hdue : ¬ (c.active.ip.protocolState = .start ∨ (!c.retransmits args time) = true) := by
    simp [hs, h]
  refine ⟨{}, ?_⟩
  rw [TimedCommand.retryPackets, Power.retryPackets, if_neg hdue]
  dsimp only
  rw [hs]
  cases pkt with
  | closeSession => exact absurd rfl hpkt
  | _ => exact ⟨_, rfl⟩

theorem acts_iff : c.Acts cfg args time ↔ c.active.ip.protocolState ≠ .start ∧
    (c.sessionTimedOut args time = true ∨ c.retransmits args time = true) := by
  rw [TimedCommand.Acts, hasTimedOut_iff]
  constructor
  · rintro (⟨hs, hout⟩ | ⟨v, hretry⟩)
    · exact ⟨hs, Or.inl hout⟩
    · have hdue : ¬ (c.active.ip.protocolState = .start ∨ (!c.retransmits args time) = true) := by
        intro hidle
        refine hretry ?_
        rw [TimedCommand.retryPackets, Power.retryPackets, if_pos hidle]
      rw [not_or, Bool.not_eq_true', Bool.not_eq_false] at hdue
      exact ⟨hdue.1, Or.inr hdue.2⟩
  · rintro ⟨hs, hout | hretry⟩
    · exact Or.inl ⟨hs, hout⟩
    · exact Or.inr ⟨{}, retryPackets_acts hs hretry⟩

/-! ### In time -/

/-- What is left of the session, in the milliseconds of an `unsigned int`. -/
def TimedCommand.sessionLeft (args : TimeoutArgs) (c : TimedCommand) (curTime : Timeval) : ℕ :=
  msRoundUp (c.timeBegin.micros + 1000 * args.sessionTimeout.toNat - curTime.micros) % 4294967296

theorem timeout_le_iff (hs : c.active.ip.protocolState ≠ .start) {n : ℕ} :
    (c.timeout args curTime).toNat ≤ n ↔
      c.sessionLeft args curTime ≤ n ∨ (c.retransmissionTimeout args).toNat ≤ n := by
  have hleft : (timevalMillisecondCalc (timevalSub (timevalAddMs c.timeBegin args.sessionTimeout)
      curTime)).toNat = c.sessionLeft args curTime := by
    rw [timevalMillisecondCalc_eq, micros_timevalSub, micros_timevalAddMs, BitVec.toNat_ofNat]
    rfl
  rw [TimedCommand.timeout, if_neg hs]
  dsimp only
  split
  · rename_i hgt
    rw [gt_iff_lt, BitVec.lt_def, hleft] at hgt
    omega
  · rename_i hle
    rw [gt_iff_lt, BitVec.lt_def, hleft] at hle
    rw [hleft]
    omega

/-- The milliseconds until the next retransmission are a whole timeout exactly when the last packet
    was sent in the current millisecond. -/
theorem retransmissionTimeout_le_msUntil :
    (c.retransmissionTimeout args).toNat
        ≤ msUntil c.lastIpmiSend (c.retransmissionTimeout args) curTime ↔
      c.retransmissionTimeout args = 0 ∨ elapsed c.lastIpmiSend curTime = 0 := by
  rw [← BitVec.toNat_inj, ← BitVec.toNat_inj, msUntil]
  have hround : 1 ≤ msRoundUp (c.lastIpmiSend.micros - curTime.micros + 1) := by
    rw [msRoundUp]
    omega
  have hset : (elapsed c.lastIpmiSend curTime).toNat ≠ 0 →
      msRoundUp (c.lastIpmiSend.micros - curTime.micros + 1) = 1 := by
    rw [toNat_elapsed]
    simp only [msRoundUp]
    omega
  have hzero : (0 : BitVec 32).toNat = 0 := rfl
  rw [hzero]
  split
  · rename_i hpast
    rw [BitVec.le_def] at hpast
    omega
  · rename_i hwait
    rw [BitVec.le_def] at hwait
    omega

/-- What is left of the session meets its end: it is a whole number of milliseconds, as are then the ones
    since it was begun, or too many for an `unsigned int` (of a session of 0 ms, none of them there).
    Otherwise both are rounded up, and together are more than the session. -/
def TimedCommand.MeetsSessionEnd (args : TimeoutArgs) (c : TimedCommand) (curTime : Timeval) : Prop :=
  let left := c.timeBegin.micros + 1000 * args.sessionTimeout.toNat - curTime.micros
  if args.sessionTimeout = 0 then 4294967296 ∣ msRoundUp left
  else 1000 ∣ left ∨ 4294967296 ≤ msRoundUp left

theorem sessionLeft_le_msUntil_iff :
    c.sessionLeft args curTime ≤ msUntil c.timeBegin args.sessionTimeout curTime ↔
      c.MeetsSessionEnd args curTime := by
  have hsession := args.sessionTimeout.isLt
  rw [TimedCommand.sessionLeft, TimedCommand.MeetsSessionEnd, msUntil]
  by_cases hzero : args.sessionTimeout = 0
  · have helapsed : args.sessionTimeout ≤ elapsed c.timeBegin curTime :=
      BitVec.le_def.mpr (by simp [hzero])
    rw [if_pos hzero, if_pos helapsed]
    omega
  · have hne : args.sessionTimeout.toNat ≠ 0 := fun h => hzero (BitVec.eq_of_toNat_eq h)
    rw [if_neg hzero]
    split
    · rename_i hpast
      rw [BitVec.le_def, toNat_elapsed] at hpast
      simp only [msRoundUp] at *
      omega
    · rename_i hwait
      rw [BitVec.le_def, toNat_elapsed] at hwait
      rw [toNat_elapsed]
      simp only [msRoundUp] at *
      omega

/-- The timeout ends in time for the end of the session: what is left of it meets its end, or the
    retransmission timeout, where that decides, is no longer than the milliseconds until
    `_has_timed_out` sees all of them. -/
def TimedCommand.WakesForSession (args : TimeoutArgs) (c : TimedCommand) (curTime : Timeval) : Prop :=
  c.MeetsSessionEnd args curTime ∨
    (c.retransmissionTimeout args).toNat ≤ msUntil c.timeBegin args.sessionTimeout curTime

/-- The timeout ends in time for the next retransmission: the last packet was sent in this
    millisecond, or the session ends first. -/
def TimedCommand.WakesForRetransmission (args : TimeoutArgs) (c : TimedCommand) (curTime : Timeval) :
    Prop :=
  c.retransmissionTimeout args ≤ args.sessionTimeout →
    c.retransmissionTimeout args = 0 ∨ elapsed c.lastIpmiSend curTime = 0 ∨
      c.sessionLeft args curTime ≤ msUntil c.lastIpmiSend (c.retransmissionTimeout args) curTime

/-- A retransmission that is due leaves one timeout before the end of the session. -/
def TimedCommand.LeavesTime (args : TimeoutArgs) (c : TimedCommand) (curTime : Timeval) : Prop :=
  c.Resendable → c.retransmissionTimeout args ≤ elapsed c.lastIpmiSend curTime →
    c.retransmissionTimeout args ≤ args.sessionTimeout →
    curTime.micros + 1000 * (c.retransmissionTimeout args).toNat
      ≤ c.timeBegin.micros + 1000 * args.sessionTimeout.toNat

theorem wakesInTime_iff : c.InTime cfg args curTime ↔ (c.active.ip.protocolState ≠ .start →
    c.WakesForSession args curTime ∧ c.WakesForRetransmission args curTime) := by
  by_cases hs : c.active.ip.protocolState = .start
  · refine iff_of_true ?_ (fun h => absurd hs h)
    intro time _ hacts
    exact absurd hs (acts_iff.mp hacts).1
  · have hsession : c.WakesForSession args curTime ↔
        (c.timeout args curTime).toNat ≤ msUntil c.timeBegin args.sessionTimeout curTime := by
      rw [TimedCommand.WakesForSession, timeout_le_iff hs, sessionLeft_le_msUntil_iff]
    have hretry : c.WakesForRetransmission args curTime ↔
        (c.retransmissionTimeout args ≤ args.sessionTimeout → (c.timeout args curTime).toNat
          ≤ msUntil c.lastIpmiSend (c.retransmissionTimeout args) curTime) := by
      rw [TimedCommand.WakesForRetransmission, timeout_le_iff hs, retransmissionTimeout_le_msUntil]
      tauto
    rw [hsession, hretry, le_msUntil_iff, le_msUntil_iff]
    constructor
    · intro h _
      refine ⟨fun time hle hpast => ?_, fun hfits time hle hpast => ?_⟩
      · refine h time hle (acts_iff.mpr ⟨hs, Or.inl ?_⟩)
        exact decide_eq_true hpast
      · exact h time hle (acts_iff.mpr ⟨hs, Or.inr (retransmits_iff.mpr ⟨hpast, hfits⟩)⟩)
    · intro h time hle hacts
      obtain ⟨hsession, hretry⟩ := h hs
      rcases (acts_iff.mp hacts).2 with hout | hagain
      · exact hsession time hle (of_decide_eq_true hout)
      · obtain ⟨hpast, hfits⟩ := retransmits_iff.mp hagain
        exact hretry hfits time hle hpast

theorem resendsInTime_iff : c.ResendsInTime cfg args curTime ↔ c.LeavesTime args curTime := by
  constructor
  · intro h hs hpast hfits
    obtain ⟨v, w, hsent⟩ := exists_retryPackets cfg hs (retransmits_iff.mpr ⟨hpast, hfits⟩)
    exact h v w hsent
  · intro h v w hsent
    obtain ⟨hs, hagain⟩ := resendable_of_retryPackets hsent
    obtain ⟨hpast, hfits⟩ := retransmits_iff.mp hagain
    exact h hs hpast hfits

/-- When both timers are right at a time. -/
theorem timers_iff (cfg : Config) (args : TimeoutArgs) (c : TimedCommand) (curTime : Timeval) :
    (c.InTime cfg args curTime ∧ c.ResendsInTime cfg args curTime) ↔
      (c.active.ip.protocolState ≠ .start →
          c.WakesForSession args curTime ∧ c.WakesForRetransmission args curTime) ∧
        c.LeavesTime args curTime := by
  rw [wakesInTime_iff, resendsInTime_iff]

/-- A visit that leaves a command unfinished and not started has not touched it: the command waits
    for a place, and the timeout is that of a session. -/
theorem unstarted_of_visit {count : ℤ} {w : Active} {v : Visit} {a : Visited}
    (h : processIpmiPackets cfg count w v = .ok a) (hfinished : a.finished = false)
    (hs : a.active.ip.protocolState = .start) : a.active = w := by
  have hmoved := (visit_moved cfg count w v).value a h
  cases hmoved with
  | waits hs' => rfl
  | starts hs' hlimit hl hsent hpkt => cases hsent.symm.trans hs
  | goesOn hs' hsent hl hpkt => cases hsent.symm.trans hs
  | closes hs' hpkt hsent hl => cases hsent.symm.trans hs
  | silent hs' hrefused hsent hl => cases hsent.symm.trans hs
  | ends hs' hclosed hl => cases hfinished
  | closed hs' hl => cases hfinished

end Timers

/-! ### Late timers -/

/-- The default timeouts. -/
def defaultArgs : TimeoutArgs := ⟨20000, 400, 500, 8, by decide⟩

def lanHost : Config where
  driverType := .lan
  hostname := fun _ => [0x62, 0x6D]

/-- A power status command that was started at 100 s and sent its last request at another time. -/
def statusSent (lastIpmiSend : ℕ) : TimedCommand where
  active :=
    { ip := { newPowercmd lanHost .powerStatus 0 none 0 7 with
        protocolState := .sent .getChassisStatus }
      counter := 5 }
  timeBegin := .ofMicros 100000000
  lastIpmiSend := .ofMicros lastIpmiSend

/-- A packet that is ignored 300 ms after the request puts its retransmission off, from 100 ms to
    400 ms; and 100 ms before the end of the session a request is sent again that could be answered for
    400 ms. -/
theorem late_timers :
    ¬ (statusSent 100000000).InTime lanHost defaultArgs (.ofMicros 100300000) ∧
      ¬ (statusSent 119500000).ResendsInTime lanHost defaultArgs (.ofMicros 119900000) := by
  rw [wakesInTime_iff, resendsInTime_iff]
  constructor
  · intro h
    have hnot : ¬ ((400#32 = 0) ∨ elapsed (.ofMicros 100000000) (.ofMicros 100300000) = 0 ∨
        (statusSent 100000000).sessionLeft defaultArgs (.ofMicros 100300000)
          ≤ msUntil (.ofMicros 100000000) 400 (.ofMicros 100300000)) := by decide +kernel
    exact hnot ((h (by decide)).2 (by decide))
  · intro h
    have hpast := h ⟨.getChassisStatus, rfl, by decide⟩ (by decide +kernel) (by decide)
    revert hpast
    decide +kernel

end FreeIpmi.Power
