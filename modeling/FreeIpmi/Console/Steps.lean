import FreeIpmi.Console.Sol

/-! What a step of the SOL session can do.

    One lemma for each function says which packets it may send and what it does to the session; the
    invariants of the session are derived from these. -/

namespace FreeIpmi.Console
open Calls

variable {config : SolConfig} {s s' : SolSession} {o : SolOutput}

/-- What a retransmission changes before it sends: the counts, and, with the workaround, once the
    sequence number. -/
structure Retimed (config : SolConfig) (s s' : SolSession) : Prop where
  number : s'.solInputPacketSequenceNumber = s.solInputPacketSequenceNumber ∨
    config.workaroundIncrementSolPacketSequence ∧
      s'.solInputPacketSequenceNumber = nextPacketSequenceNumber s.solInputPacketSequenceNumber
  rest : s' = { s with
    retransmissionCount := s'.retransmissionCount
    workaroundRetransmissionCount := s'.workaroundRetransmissionCount
    solInputPacketSequenceNumber := s'.solInputPacketSequenceNumber }

theorem solRetransmissionTimeout_cases {timedOut : Bool} {sent : Option Sent}
    (h : solRetransmissionTimeout config s timedOut = .ok (sent, s')) :
    (timedOut = false ∧ sent = none ∧ s' = s) ∨
      (timedOut = true ∧ ∃ s₁, Retimed config s s₁ ∧ sent = some (sendSolPacketAgain s₁).1 ∧
        s' = (sendSolPacketAgain s₁).2) := by
  cases timedOut with
  | false => cases h; exact Or.inl ⟨rfl, rfl, rfl⟩
  | true =>
    refine Or.inr ⟨rfl, ?_⟩
    simp only [solRetransmissionTimeout, Bool.not_true, Bool.false_eq_true, if_false] at h
    split at h
    · split at h
      · rename_i hcond
        cases h
        refine ⟨_, ⟨?_, ?_⟩, rfl, rfl⟩
        · split
          · exact Or.inr ⟨hcond.1, rfl⟩
          · exact Or.inl rfl
        · split <;> rfl
      · cases h
    · cases h
      exact ⟨{ s with retransmissionCount := s.retransmissionCount + 1 }, ⟨Or.inl rfl, rfl⟩, rfl, rfl⟩

/-- `_send_sol_character_data_or_break`: characters, a break, or nothing. -/
theorem sendSolCharacterDataOrBreak_cases (s : SolSession) :
    (s.consoleRemoteConsoleToBmc ≠ [] ∧ (s.breakRequested = true → s.bytesBeforeBreak ≠ 0) ∧
        sendSolCharacterDataOrBreak s = ((sendSolPacketWithCharacterData s 0 0 false).map some id)) ∨
      (s.breakRequested = true ∧ (s.consoleRemoteConsoleToBmc = [] ∨ s.bytesBeforeBreak = 0) ∧
        sendSolCharacterDataOrBreak s = ((sendSolPacketGenerateBreak s false).map some id)) ∨
      (s.consoleRemoteConsoleToBmc = [] ∧ s.breakRequested = false ∧
        sendSolCharacterDataOrBreak s = (none, s)) := by
  rw [sendSolCharacterDataOrBreak]
  split
  · rename_i h
    refine Or.inl ⟨h.1, fun hbreak => ?_, rfl⟩
    simpa [hbreak] using h.2
  · rename_i h
    split
    · rename_i hbreak
      refine Or.inr (Or.inl ⟨hbreak, ?_, rfl⟩)
      simpa [hbreak, imp_iff_not_or] using h
    · rename_i hbreak
      have hno := Bool.eq_false_of_not_eq_true hbreak
      exact Or.inr (Or.inr ⟨by simpa [hno] using h, hno, rfl⟩)

/-- A packet that only acknowledges is answered in the same way, but characters wait for the
    acknowledgement of the characters before them. -/
theorem solBmcAckOnly_cases (s : SolSession) :
    (s.consoleRemoteConsoleToBmc ≠ [] ∧ s.solInputWaitingForAck = 0 ∧
        (s.breakRequested = true → s.bytesBeforeBreak ≠ 0) ∧
        solBmcAckOnly s = ((sendSolPacketWithCharacterData s 0 0 false).map
          (fun sent => ⟨some sent, [], []⟩) id)) ∨
      (s.breakRequested = true ∧
        (s.consoleRemoteConsoleToBmc = [] ∨ s.solInputWaitingForAck ≠ 0 ∨ s.bytesBeforeBreak = 0) ∧
        solBmcAckOnly s = ((sendSolPacketGenerateBreak s false).map
          (fun sent => ⟨some sent, [], []⟩) id)) ∨
      ((s.consoleRemoteConsoleToBmc = [] ∨ s.solInputWaitingForAck ≠ 0) ∧ s.breakRequested = false ∧
        solBmcAckOnly s = (⟨none, [], []⟩, s)) := by
  rw [solBmcAckOnly]
  split
  · rename_i h
    refine Or.inl ⟨h.1, h.2.1, fun hbreak => ?_, rfl⟩
    simpa [hbreak] using h.2.2
  · rename_i h
    split
    · rename_i hbreak
      refine Or.inr (Or.inl ⟨hbreak, ?_, rfl⟩)
      by_cases hbuf : s.consoleRemoteConsoleToBmc = []
      · exact Or.inl hbuf
      by_cases hwait : s.solInputWaitingForAck = 0
      · exact Or.inr (Or.inr (by simpa [hbreak, hbuf, hwait] using h))
      · exact Or.inr (Or.inl hwait)
    · rename_i hbreak
      have hno := Bool.eq_false_of_not_eq_true hbreak
      exact Or.inr (Or.inr ⟨by simpa [hno, imp_iff_not_or] using h, hno, rfl⟩)

/-- The state after the characters of a packet are written and remembered. -/
def SolSession.remember (s : SolSession) (p : BmcPacket) : SolSession :=
  { s with
    consoleBmcToRemoteConsole := s.consoleBmcToRemoteConsole ++ s.characterDataToWrite p
    lastSolOutputPacketSequenceNumber := p.packetSequenceNumber
    lastSolOutputAcceptedCharacterCount := p.characterData.length }

/-- A packet with characters is answered with characters, or else acknowledged alone. -/
theorem solBmcCharacterData_cases {p : BmcPacket} (h : solBmcCharacterData s p = .ok (o, s')) :
    p.characterData.length ≤ ipmiconsoleMaxCharacterData ∧
      ((s.solInputWaitingForAck = 0 ∧ s.consoleRemoteConsoleToBmc ≠ [] ∧
        o = ⟨some (sendSolPacketWithCharacterData (s.remember p) p.packetSequenceNumber
          p.characterData.length false).1, s.characterDataToWrite p, []⟩ ∧
        s' = (sendSolPacketWithCharacterData (s.remember p) p.packetSequenceNumber
          p.characterData.length false).2) ∨
      ((s.solInputWaitingForAck ≠ 0 ∨ s.consoleRemoteConsoleToBmc = []) ∧
        o = ⟨some (sendSolPacketAckOnly (s.remember p) p.packetSequenceNumber
          p.characterData.length).1, s.characterDataToWrite p, []⟩ ∧
        s' = (s.remember p).nextSession)) := by
  simp only [solBmcCharacterData] at h
  split at h
  · cases h
  rename_i hlen
  split at h
  · cases h
  refine ⟨not_lt.mp hlen, ?_⟩
  split at h
  · rename_i hcond
    cases h
    exact Or.inl ⟨hcond.1, hcond.2, rfl, rfl⟩
  · rename_i hcond
    cases h
    exact Or.inr ⟨(not_and_or.mp hcond).imp id not_not.mp, rfl, rfl⟩

/-- The session has nothing to send: no characters wait, and no break is due. -/
structure Idle (s : SolSession) : Prop where
  buffer : s.consoleRemoteConsoleToBmc = []
  noBreak : s.breakRequested = false
  bytes : s.bytesBeforeBreak = 0

/-- A serial keepalive is due. -/
structure SerialKeepaliveDue (config : SolConfig) (s : SolSession) (t : SolTimeouts) : Prop where
  noKeepalive : ¬ (t.keepaliveIsNecessary ∧ t.keepaliveRetransmission)
  flags : config.engineSerialKeepalive ∨ config.engineSerialKeepaliveEmpty
  necessary : t.serialKeepaliveIsNecessary
  idle : Idle s
  timedOut : t.serialKeepalive

/-- The session as it sends a serial keepalive. -/
def SolSession.enterKeepalive (s : SolSession) (config : SolConfig) : SolSession :=
  { s with consoleRemoteConsoleToBmc :=
      s.consoleRemoteConsoleToBmc ++ if config.engineSerialKeepalive then [0] else [] }

theorem solSessionKeepalive_cases (config : SolConfig) (s : SolSession) (t : SolTimeouts) :
    (SerialKeepaliveDue config s t ∧ solSessionKeepalive config s t =
        ((sendSolPacketWithCharacterData (s.enterKeepalive config) 0 0 false).map
          (fun sent => ⟨some sent, [], if config.engineSerialKeepalive then [0] else []⟩) id)) ∨
      (¬ SerialKeepaliveDue config s t ∧
        (solSessionKeepalive config s t = (⟨none, [], []⟩, s.nextSession) ∨
          solSessionKeepalive config s t = (⟨none, [], []⟩, s))) := by
  rw [solSessionKeepalive]
  split
  · rename_i hkeepalive
    exact Or.inr ⟨fun hdue => hdue.noKeepalive hkeepalive, Or.inl rfl⟩
  rename_i hkeepalive
  split
  · rename_i hflags
    rw [serialKeepaliveTimeout]
    split
    · rename_i h
      obtain ⟨hnecessary, hbuf, hbreak, hbytes, ht⟩ := h
      exact Or.inl ⟨⟨hkeepalive, hflags, hnecessary, ⟨hbuf, by simpa using hbreak, hbytes⟩, ht⟩, rfl⟩
    · rename_i h
      refine Or.inr ⟨fun hdue => h ?_, Or.inr rfl⟩
      exact ⟨hdue.necessary, hdue.idle.buffer, by simpa using hdue.idle.noBreak, hdue.idle.bytes,
        hdue.timedOut⟩
  · rename_i hflags
    exact Or.inr ⟨fun hdue => hflags hdue.flags, Or.inr rfl⟩

/-- `_process_protocol_state_sol_session_send`: a retransmission while a packet waits, characters
    or a break while none does, and else a keepalive. -/
theorem solSessionSend_cases {t : SolTimeouts} (h : solSessionSend config s t = .ok (o, s')) :
    (s.solInputWaitingForAck ≠ 0 ∧ t.solRetransmission = true ∧ ∃ s₁, Retimed config s s₁ ∧
        o = ⟨some (sendSolPacketAgain s₁).1, [], []⟩ ∧ s' = (sendSolPacketAgain s₁).2) ∨
      (s.solInputWaitingForAck = 0 ∧ ∃ sent, sendSolCharacterDataOrBreak s = (some sent, s') ∧
        o = ⟨some sent, [], []⟩) ∨
      ((s.solInputWaitingForAck ≠ 0 → t.solRetransmission = false) ∧
        (s.solInputWaitingForAck = 0 → s.consoleRemoteConsoleToBmc = [] ∧ s.breakRequested = false) ∧
        (o, s') = solSessionKeepalive config s t) := by
  rw [solSessionSend] at h
  obtain ⟨⟨sent, s₁⟩, hfirst, hrest⟩ := bind_eq_ok.mp h
  dsimp only at hrest
  rw [solSessionInput] at hfirst
  by_cases hwait : s.solInputWaitingForAck = 0
  · rw [if_neg (not_not.mpr hwait)] at hfirst
    have hsent := Except.ok.inj hfirst
    cases sent with
    | some sent =>
      rw [Option.isSome_some, if_pos rfl] at hrest
      cases hrest
      exact Or.inr (Or.inl ⟨hwait, sent, hsent, rfl⟩)
    | none =>
      obtain ⟨-, -, heq⟩ | ⟨-, -, heq⟩ | ⟨hbuf, hbreak, heq⟩ := sendSolCharacterDataOrBreak_cases s <;>
        rw [hsent] at heq <;> cases heq
      rw [Option.isSome_none, if_neg Bool.false_ne_true] at hrest
      exact Or.inr (Or.inr ⟨fun hne => absurd hwait hne, fun _ => ⟨hbuf, hbreak⟩,
        (Except.ok.inj hrest).symm⟩)
  · rw [if_pos hwait] at hfirst
    obtain ⟨ht, rfl, rfl⟩ | ⟨ht, s₂, hretimed, rfl, rfl⟩ := solRetransmissionTimeout_cases hfirst
    · rw [Option.isSome_none, if_neg Bool.false_ne_true] at hrest
      exact Or.inr (Or.inr ⟨fun _ => ht, fun h0 => absurd h0 hwait, (Except.ok.inj hrest).symm⟩)
    · rw [Option.isSome_some, if_pos rfl] at hrest
      cases hrest
      exact Or.inl ⟨hwait, ht, s₂, hretimed, rfl, rfl⟩

/-- A packet of the BMC: its acknowledgement first, then its characters, or else an answer of our
    own. -/
theorem solStep_receive_cases {p : BmcPacket} (h : solStep config s (.receive p) = .ok (o, s')) :
    (p.packetSequenceNumber ≠ 0 ∧ solBmcCharacterData (s.receiveReset.ack p) p = .ok (o, s')) ∨
      (p.packetSequenceNumber = 0 ∧ (o, s') = solBmcAckOnly (s.receiveReset.ack p)) := by
  simp only [solStep, solBmcToRemoteConsolePacket] at h
  split at h
  · cases h
  split at h
  · exact Or.inl ⟨‹_›, h⟩
  · rename_i hp
    exact Or.inr ⟨not_not.mp hp, (Except.ok.inj h).symm⟩

theorem solStep_read_cases {buffer : List Byte} (h : solStep config s (.read buffer) = .ok (o, s')) :
    buffer ≠ [] ∧
      s.consoleRemoteConsoleToBmc.length + buffer.length ≤ consoleRemoteConsoleToBmcBufMax ∧
      o = ⟨none, [], buffer⟩ ∧
      s' = { s with consoleRemoteConsoleToBmc := s.consoleRemoteConsoleToBmc ++ buffer } := by
  simp only [solStep, consoleRead] at h
  split at h
  · cases h
  rename_i hne
  split at h
  · cases h
  rename_i hfits
  cases h
  exact ⟨hne, not_lt.mp hfits, rfl, rfl⟩

/-! ### Runs -/

/-- The steps for a list of events, as long as none fails. -/
def solSteps (config : SolConfig) : SolSession → List SolEvent →
    Except SolStop (List (SolEvent × SolOutput) × SolSession)
  | s, [] => .ok ([], s)
  | s, e :: es => do
    let (o, s) ← solStep config s e
    let (trace, s) ← solSteps config s es
    .ok ((e, o) :: trace, s)

theorem solRun_of_solSteps : ∀ {l : List SolEvent} {s s' : SolSession}
    {trace : List (SolEvent × SolOutput)}, solSteps config s l = .ok (trace, s') →
    SolRun config s trace s'
  | [], s, s', trace, h => by
    cases h
    exact .nil s
  | e :: es, s, s', trace, h => by
    obtain ⟨⟨o, s₁⟩, hstep, h⟩ := bind_eq_ok.mp h
    obtain ⟨⟨rest, s₂⟩, hrest, h⟩ := bind_eq_ok.mp h
    cases h
    exact .cons hstep (solRun_of_solSteps hrest)

theorem sendSolPacketAgain_max (s : SolSession) :
    (sendSolPacketAgain s).2.maxSolCharacterSendSize = s.maxSolCharacterSendSize := by
  rw [sendSolPacketAgain]
  split <;> rfl

theorem ack_max (s : SolSession) (p : BmcPacket) :
    (s.ack p).maxSolCharacterSendSize = s.maxSolCharacterSendSize := by
  rw [SolSession.ack]
  split
  · split <;> rfl
  · rfl

/-- The size of a packet is that of the activate payload response throughout. -/
theorem solStep_max {e : SolEvent} (h : solStep config s e = .ok (o, s')) :
    s'.maxSolCharacterSendSize = s.maxSolCharacterSendSize := by
  cases e with
  | read buffer =>
    obtain ⟨-, -, -, rfl⟩ := solStep_read_cases h
    rfl
  | «break» =>
    cases h
    rw [asynccommBreak]
    split <;> rfl
  | write => cases h; rfl
  | send t =>
    obtain ⟨-, -, s₁, hretimed, -, rfl⟩ | ⟨-, sent, hsent, -⟩ | ⟨-, -, heq⟩ := solSessionSend_cases h
    · rw [sendSolPacketAgain_max, hretimed.rest]
    · obtain ⟨-, -, heq⟩ | ⟨-, -, heq⟩ | ⟨-, -, heq⟩ := sendSolCharacterDataOrBreak_cases s <;>
        rw [hsent] at heq <;> cases heq
      · rfl
      · rfl
    · obtain ⟨-, hsend⟩ | ⟨-, hsend | hsend⟩ := solSessionKeepalive_cases config s t <;>
        rw [← heq] at hsend <;> cases hsend <;> rfl
  | receive p =>
    have hack : (s.receiveReset.ack p).maxSolCharacterSendSize = s.maxSolCharacterSendSize :=
      ack_max s.receiveReset p
    rw [← hack]
    obtain ⟨-, hdata⟩ | ⟨-, heq⟩ := solStep_receive_cases h
    · obtain ⟨-, ⟨-, -, -, rfl⟩ | ⟨-, -, rfl⟩⟩ := solBmcCharacterData_cases hdata <;> rfl
    · obtain ⟨-, -, -, hsend⟩ | ⟨-, -, hsend⟩ | ⟨-, -, hsend⟩ :=
        solBmcAckOnly_cases (s.receiveReset.ack p) <;> rw [← heq] at hsend <;> cases hsend <;> rfl

/-- A condition on the session and the next event holds before each step of a run. -/
def EachStep (config : SolConfig) (P : SolSession → SolEvent → Prop) :
    SolSession → List (SolEvent × SolOutput) → Prop
  | _, [] => True
  | s, (e, _) :: trace =>
    P s e ∧ ∀ o s', solStep config s e = .ok (o, s') → EachStep config P s' trace

/-- The session as it comes to send, after the acknowledgement in a packet. -/
def SolSession.atSend (s : SolSession) : SolEvent → SolSession
  | .receive p => s.receiveReset.ack p
  | _ => s

end FreeIpmi.Console
