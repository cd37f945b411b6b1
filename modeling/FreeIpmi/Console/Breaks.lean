import FreeIpmi.Console.Assemble

/-! Serial breaks.

    A break takes its place between the characters typed before and after it: the session counts
    the characters before it down, sends the break when none is left, and goes on when the break is
    acknowledged. `SolHistory` keeps what the events of a session say about this, `Allowed` is what
    the break asks of a new packet, and `Follows` ties the flags of the session to the history.
    Three branches do not check what they should: a packet that only acknowledges makes the session
    send the break while another packet waits, a packet with characters makes it send characters
    from after the break, and the clock may let a serial keepalive out while another packet waits.
    A session keeps its promise exactly as long as none of them is taken (`BreakSafe`). -/

namespace FreeIpmi.Console
open Calls

/-- What has happened to the characters of the user: those entered so far, how many of them are
    acknowledged, the packet that waits for its acknowledgement, and where a break stands that is
    not acknowledged. -/
structure SolHistory where
  entered : List Byte
  acked : ℕ
  waiting : Option SolPacket
  breakAt : Option ℕ

/-- Before the first event. -/
def SolHistory.start : SolHistory := ⟨[], 0, none, none⟩

/-- A packet acknowledges the one that waits: its characters as far as the packet accepts them, or
    the break. -/
def SolHistory.acknowledge (H : SolHistory) (p : BmcPacket) : SolHistory :=
  match H.waiting with
  | none => H
  | some q =>
    if p.packetAckNackSequenceNumber ≠ 0 ∧ p.packetAckNackSequenceNumber = q.packetSequenceNumber then
      if q.generateBreak then { H with waiting := none, breakAt := none }
      else { H with
        waiting := none
        acked := H.acked + min p.acceptedCharacterCount q.characterData.length }
    else H

/-- The history after the first half of a step: what the event says, and what it enters. A second
    request for a break counts for nothing until the first is acknowledged. -/
def SolHistory.hear (H : SolHistory) : SolEvent → SolOutput → SolHistory
  | .receive p, _ => H.acknowledge p
  | .break, _ => { H with breakAt := some (H.breakAt.getD H.entered.length) }
  | _, o => { H with entered := H.entered ++ o.entered }

/-- The history after a step, whose packet waits now if it has a number. -/
def SolHistory.next (H : SolHistory) (e : SolEvent) (o : SolOutput) : SolHistory :=
  match o.sent with
  | none => H.hear e o
  | some sent =>
    if sent.packet.packetSequenceNumber = 0 then H.hear e o
    else { H.hear e o with waiting := some sent.packet }

/-- A new packet may be sent: no other waits; if it has characters, they are the next ones, and none
    of them stands after a break; if it is a break, all characters before it are acknowledged. -/
structure Allowed (H : SolHistory) (p : SolPacket) : Prop where
  free : H.waiting = none
  characters : p.generateBreak = false → p.characterData <+: H.entered.drop H.acked ∧
    ∀ b, H.breakAt = some b → H.acked + p.characterData.length ≤ b
  «break» : p.generateBreak = true → ∃ b, H.breakAt = some b ∧ b ≤ H.acked

/-- Every new packet of a session is allowed when it is sent. -/
def KeepsPromise : SolHistory → List (SolEvent × SolOutput) → Prop
  | _, [] => True
  | H, (e, o) :: trace =>
    (∀ sent, o.sent = some sent → sent.isRetransmission = false →
      sent.packet.packetSequenceNumber ≠ 0 → Allowed (H.hear e o) sent.packet) ∧
    KeepsPromise (H.next e o) trace

/-- None of the three branches is taken. -/
def BreakSafe (config : SolConfig) (s : SolSession) : SolEvent → Prop
  | .receive p =>
    if p.packetSequenceNumber = 0 then
      -- no break is due while a packet waits
      (s.atSend (.receive p)).breakRequested = true → (s.atSend (.receive p)).solInputWaitingForAck = 0
    else
      -- no break is due while characters could be sent
      (s.atSend (.receive p)).solInputWaitingForAck = 0 →
        (s.atSend (.receive p)).consoleRemoteConsoleToBmc ≠ [] →
        (s.atSend (.receive p)).breakRequested = true → (s.atSend (.receive p)).bytesBeforeBreak ≠ 0
  | .send t =>
    -- no keepalive is due while a packet waits that is not sent again
    s.solInputWaitingForAck ≠ 0 → t.solRetransmission = false → ¬ SerialKeepaliveDue config s t
  | _ => True

/-! ### The flags of the session follow the history -/

/-- The fields of the session that decide what it sends. -/
structure SolInput where
  waitingForAck : ℕ
  waitingForBreakAck : ℕ
  number : ℕ
  characterData : List Byte
  breakRequested : Bool
  bytesBeforeBreak : ℕ
  buffer : List Byte

def SolSession.input (s : SolSession) : SolInput where
  waitingForAck := s.solInputWaitingForAck
  waitingForBreakAck := s.solInputWaitingForBreakAck
  number := s.solInputPacketSequenceNumber
  characterData := s.solInputCharacterData
  breakRequested := s.breakRequested
  bytesBeforeBreak := s.bytesBeforeBreak
  buffer := s.consoleRemoteConsoleToBmc

/-- The packet that waits is the one the session would send again. Its characters are at the head of
    the buffer, and before the break; a break waits with nothing left before it. -/
structure Waits (i : SolInput) (q : SolPacket) : Prop where
  waiting : i.waitingForAck ≠ 0
  number : q.packetSequenceNumber = i.number
  number_ne : i.number ≠ 0
  data : q.characterData = i.characterData
  isBreak : q.generateBreak = true ↔ i.waitingForBreakAck ≠ 0
  front : i.characterData <+: i.buffer
  before : q.generateBreak = false → i.breakRequested = true →
    i.characterData.length ≤ i.bytesBeforeBreak
  after : q.generateBreak = true →
    i.characterData = [] ∧ i.breakRequested = true ∧ i.bytesBeforeBreak = 0

/-- The session is where the history says. -/
structure Follows (H : SolHistory) (i : SolInput) : Prop where
  acked_le : H.acked ≤ H.entered.length
  buffer : i.buffer = H.entered.drop H.acked
  breakRequested : i.breakRequested = H.breakAt.isSome
  breakAt : ∀ b, H.breakAt = some b → b = H.acked + i.bytesBeforeBreak
  bytes_le : i.bytesBeforeBreak ≤ i.buffer.length
  noBreak : i.breakRequested = false → i.bytesBeforeBreak = 0
  idle : H.waiting = none → i.waitingForAck = 0 ∧ i.waitingForBreakAck = 0
  packet : ∀ q, H.waiting = some q → Waits i q

section Follows
variable {config : SolConfig} {H : SolHistory} {s s' : SolSession} {o : SolOutput}

theorem Follows.setup (n m : ℕ) : Follows .start (SolSession.setup n m).input where
  acked_le := le_rfl
  buffer := rfl
  breakRequested := rfl
  breakAt _ h := by cases h
  bytes_le := le_rfl
  noBreak _ := rfl
  idle _ := ⟨rfl, rfl⟩
  packet _ h := by cases h

theorem Follows.waiting_none_iff (h : Follows H s.input) :
    H.waiting = none ↔ s.solInputWaitingForAck = 0 := by
  constructor
  · exact fun hnone => (h.idle hnone).1
  · intro hzero
    cases hwaiting : H.waiting with
    | none => rfl
    | some q => exact absurd hzero (h.packet q hwaiting).waiting

/-- Characters are entered. -/
theorem Follows.enter (h : Follows H s.input) (more : List Byte) :
    Follows { H with entered := H.entered ++ more }
      { s.input with buffer := s.input.buffer ++ more } where
  acked_le := by
    have := h.acked_le
    simp only [List.length_append]
    omega
  buffer := by
    change s.input.buffer ++ more = _
    rw [h.buffer, List.drop_append_of_le_length h.acked_le]
  breakRequested := h.breakRequested
  breakAt := h.breakAt
  bytes_le := by
    have := h.bytes_le
    simp only [List.length_append]
    omega
  noBreak := h.noBreak
  idle := h.idle
  packet q hq := by
    have hwaits := h.packet q hq
    exact ⟨hwaits.waiting, hwaits.number, hwaits.number_ne, hwaits.data, hwaits.isBreak,
      hwaits.front.trans (List.prefix_append _ _), hwaits.before, hwaits.after⟩

/-- A break is requested, after all characters that are entered. -/
theorem Follows.requestBreak (h : Follows H s.input) :
    Follows { H with breakAt := some (H.breakAt.getD H.entered.length) }
      (asynccommBreak s).input := by
  rw [asynccommBreak]
  cases hbreak : H.breakAt with
  | some b =>
    have hrequested : s.breakRequested = true := by
      have := h.breakRequested
      rwa [hbreak] at this
    rw [hrequested]
    have hsame : ({ H with breakAt := some ((some b).getD H.entered.length) } : SolHistory) = H := by
      rw [Option.getD_some, ← hbreak]
    rw [hsame]
    exact h
  | none =>
    have hrequested : s.breakRequested = false := by
      have := h.breakRequested
      rwa [hbreak] at this
    have hlen : s.consoleRemoteConsoleToBmc.length = H.entered.length - H.acked := by
      have hbuffer : s.consoleRemoteConsoleToBmc = _ := h.buffer
      rw [hbuffer, List.length_drop]
    rw [hrequested]
    refine ⟨h.acked_le, h.buffer, rfl, ?_, le_rfl, by rintro ⟨⟩, h.idle, ?_⟩
    · intro b hb
      cases hb
      have hacked := h.acked_le
      change H.entered.length = H.acked + s.consoleRemoteConsoleToBmc.length
      omega
    · intro q hq
      have hwaits := h.packet q hq
      refine ⟨hwaits.waiting, hwaits.number, hwaits.number_ne, hwaits.data, hwaits.isBreak,
        hwaits.front, fun _ _ => hwaits.front.length_le, fun hq => ?_⟩
      -- a break that waits was requested before
      have hdue : s.breakRequested = true := (hwaits.after hq).2.1
      rw [hrequested] at hdue
      cases hdue

/-- The characters of the packet that waits are accepted, up to a count. -/
theorem Follows.accept (h : Follows H s.input) {q : SolPacket} (hwaits : Waits s.input q)
    (hbreak : q.generateBreak = false) (hzero : s.solInputWaitingForBreakAck = 0) (count : ℕ) :
    Follows { H with waiting := none, acked := H.acked + min count q.characterData.length }
      ({ s with
        consoleRemoteConsoleToBmc :=
          s.consoleRemoteConsoleToBmc.drop (min count s.solInputCharacterData.length)
        bytesBeforeBreak := s.bytesBeforeBreak
          - min (min count s.solInputCharacterData.length) s.bytesBeforeBreak
        solInputWaitingForAck := 0
        solInputCharacterData := [] } : SolSession).input := by
  have hdata : q.characterData = s.solInputCharacterData := hwaits.data
  have hbuffer : s.consoleRemoteConsoleToBmc = H.entered.drop H.acked := h.buffer
  have hfront : s.solInputCharacterData.length ≤ s.consoleRemoteConsoleToBmc.length :=
    hwaits.front.length_le
  have hbytes : s.bytesBeforeBreak ≤ s.consoleRemoteConsoleToBmc.length := h.bytes_le
  have hlen : s.consoleRemoteConsoleToBmc.length = H.entered.length - H.acked := by
    rw [hbuffer, List.length_drop]
  have hacked := h.acked_le
  rw [hdata]
  refine ⟨?_, ?_, h.breakRequested, ?_, ?_, ?_, fun _ => ⟨rfl, hzero⟩, nofun⟩
  · change H.acked + min count s.solInputCharacterData.length ≤ H.entered.length
    omega
  · change s.consoleRemoteConsoleToBmc.drop _ = _
    rw [hbuffer, List.drop_drop]
  · intro b hb
    have hdue : s.breakRequested = true := by
      have hrequested : s.breakRequested = _ := h.breakRequested
      rw [hrequested, hb]
      rfl
    have hbefore : s.solInputCharacterData.length ≤ s.bytesBeforeBreak := hwaits.before hbreak hdue
    have hplace : b = H.acked + s.bytesBeforeBreak := h.breakAt b hb
    change b = H.acked + min count s.solInputCharacterData.length + (s.bytesBeforeBreak - _)
    omega
  · change s.bytesBeforeBreak - _ ≤ (s.consoleRemoteConsoleToBmc.drop _).length
    rw [List.length_drop]
    cases hdue : s.breakRequested with
    | false =>
      have hnone : s.bytesBeforeBreak = 0 := h.noBreak hdue
      omega
    | true =>
      have hbefore : s.solInputCharacterData.length ≤ s.bytesBeforeBreak := hwaits.before hbreak hdue
      omega
  · intro hdue
    have hnone : s.bytesBeforeBreak = 0 := h.noBreak hdue
    change s.bytesBeforeBreak - _ = 0
    omega

/-- A packet of the BMC comes in. -/
theorem Follows.ack (h : Follows H s.input) (p : BmcPacket) :
    Follows (H.acknowledge p) (s.ack p).input := by
  rw [SolHistory.acknowledge, SolSession.ack]
  cases hwaiting : H.waiting with
  | none =>
    have hzero := h.waiting_none_iff.mp hwaiting
    rw [if_neg fun hacks => hacks.2.1 hzero]
    exact h
  | some q =>
    have hwaits := h.packet q hwaiting
    have hnumber : q.packetSequenceNumber = s.solInputPacketSequenceNumber := hwaits.number
    by_cases hacks : p.packetAckNackSequenceNumber ≠ 0 ∧
        p.packetAckNackSequenceNumber = q.packetSequenceNumber
    · have hsession : s.Acks p := ⟨hacks.1, hwaits.waiting, by rw [← hnumber, hacks.2]⟩
      simp only [if_pos hacks, if_pos hsession]
      cases hbreak : q.generateBreak with
      | true =>
        have hne : s.solInputWaitingForBreakAck ≠ 0 := hwaits.isBreak.mp hbreak
        rw [if_pos rfl, if_neg hne]
        refine ⟨h.acked_le, h.buffer, rfl, by rintro _ ⟨⟩, h.bytes_le, fun _ => (hwaits.after hbreak).2.2,
          fun _ => ⟨rfl, rfl⟩, by rintro _ ⟨⟩⟩
      | false =>
        have hzero : s.solInputWaitingForBreakAck = 0 := by
          by_contra hne
          have := hwaits.isBreak.mpr hne
          rw [hbreak] at this
          cases this
        rw [if_neg Bool.false_ne_true, if_pos hzero]
        exact h.accept hwaits hbreak hzero p.acceptedCharacterCount
    · have hsession : ¬ s.Acks p := fun h' => hacks ⟨h'.1, by rw [← h'.2.2, hnumber]⟩
      simp only [if_neg hacks, if_neg hsession]
      exact h

/-! ### Sending -/

/-- The history once a packet is sent. -/
def SolHistory.sends (H : SolHistory) (p : SolPacket) : SolHistory := { H with waiting := some p }

/-- New characters keep the promise if no packet waits, and if characters stand before the break
    that is due. -/
theorem Follows.newCharacterData (h : Follows H s.input) (hwait : s.solInputWaitingForAck = 0)
    (hbreak : s.breakRequested = true →
      s.bytesBeforeBreak ≠ 0 ∨ s.consoleRemoteConsoleToBmc = []) (a k : ℕ) :
    Allowed H (sendSolPacketWithCharacterData s a k false).1.packet ∧
      Follows (H.sends (sendSolPacketWithCharacterData s a k false).1.packet)
        (sendSolPacketWithCharacterData s a k false).2.input := by
  have hnone := h.waiting_none_iff.mpr hwait
  have hbuffer : s.consoleRemoteConsoleToBmc = H.entered.drop H.acked := h.buffer
  have hprefix : s.consoleRemoteConsoleToBmc.take s.maxCharacterSendSize
      <+: s.consoleRemoteConsoleToBmc := List.take_prefix _ _
  -- characters before a break only
  have hbefore : s.breakRequested = true →
      (s.consoleRemoteConsoleToBmc.take s.maxCharacterSendSize).length ≤ s.bytesBeforeBreak := by
    intro hdue
    rw [List.length_take]
    rcases hbreak hdue with hne | hnil
    · rw [SolSession.maxCharacterSendSize, if_neg hne]
      exact min_le_left _ _
    · simp [hnil]
  constructor
  · refine ⟨hnone, fun _ => ⟨hbuffer ▸ hprefix, fun b hb => ?_⟩, fun h => absurd h Bool.false_ne_true⟩
    have hdue : s.breakRequested = true := by
      have hrequested : s.breakRequested = _ := h.breakRequested
      rw [hrequested, hb]
      rfl
    have hplace : b = H.acked + s.bytesBeforeBreak := h.breakAt b hb
    have hle := hbefore hdue
    change H.acked + (s.consoleRemoteConsoleToBmc.take s.maxCharacterSendSize).length ≤ b
    omega
  · refine ⟨h.acked_le, h.buffer, h.breakRequested, h.breakAt, h.bytes_le, h.noBreak, by rintro ⟨⟩, ?_⟩
    intro q hq
    cases hq
    exact ⟨Nat.succ_ne_zero _, rfl, nextPacketSequenceNumber_ne_zero _, rfl,
      ⟨by rintro ⟨⟩, fun hne => absurd (h.idle hnone).2 hne⟩, hprefix, fun _ => hbefore, by rintro ⟨⟩⟩

/-- A break keeps the promise if it is due, no packet waits, and nothing stands before it. -/
theorem Follows.generateBreak (h : Follows H s.input) (hwait : s.solInputWaitingForAck = 0)
    (hdue : s.breakRequested = true)
    (hbefore : s.consoleRemoteConsoleToBmc = [] ∨ s.bytesBeforeBreak = 0) :
    Allowed H (sendSolPacketGenerateBreak s false).1.packet ∧
      Follows (H.sends (sendSolPacketGenerateBreak s false).1.packet)
        (sendSolPacketGenerateBreak s false).2.input := by
  have hnone := h.waiting_none_iff.mpr hwait
  have hbytes : s.bytesBeforeBreak = 0 := by
    rcases hbefore with hnil | hzero
    · have hle : s.bytesBeforeBreak ≤ s.consoleRemoteConsoleToBmc.length := h.bytes_le
      rw [hnil] at hle
      exact Nat.le_zero.mp hle
    · exact hzero
  constructor
  · refine ⟨hnone, nofun, fun _ => ?_⟩
    have hrequested : s.breakRequested = H.breakAt.isSome := h.breakRequested
    rw [hdue] at hrequested
    obtain ⟨b, hb⟩ := Option.isSome_iff_exists.mp hrequested.symm
    have hplace : b = H.acked + s.bytesBeforeBreak := h.breakAt b hb
    exact ⟨b, hb, by omega⟩
  · refine ⟨h.acked_le, h.buffer, h.breakRequested, h.breakAt, h.bytes_le, h.noBreak, nofun, ?_⟩
    intro q hq
    cases hq
    exact ⟨Nat.succ_ne_zero _, rfl, nextPacketSequenceNumber_ne_zero _, rfl,
      ⟨fun _ => Nat.succ_ne_zero _, fun _ => rfl⟩, List.nil_prefix, nofun,
      fun _ => ⟨rfl, hdue, hbytes⟩⟩

/-- The packet that waits is sent again. -/
theorem Follows.again (h : Follows H s.input) (hwait : s.solInputWaitingForAck ≠ 0) :
    (sendSolPacketAgain s).1.isRetransmission = true ∧
      (sendSolPacketAgain s).1.packet.packetSequenceNumber ≠ 0 ∧
      Follows (H.sends (sendSolPacketAgain s).1.packet) (sendSolPacketAgain s).2.input := by
  obtain ⟨q, hq⟩ : ∃ q, H.waiting = some q :=
    Option.ne_none_iff_exists'.mp fun hnone => hwait (h.waiting_none_iff.mp hnone)
  have hwaits := h.packet q hq
  have hpacket : ∀ {r : SolPacket} {i : SolInput}, r.packetSequenceNumber = i.number →
      r.characterData = i.characterData → r.generateBreak = q.generateBreak →
      i.waitingForAck ≠ 0 → (i.waitingForBreakAck ≠ 0 ↔ s.input.waitingForBreakAck ≠ 0) →
      i = { s.input with
        waitingForAck := i.waitingForAck, waitingForBreakAck := i.waitingForBreakAck } →
      Waits i r := by
    intro r i hnumber hdata hsame hne hbreak hi
    rw [hi] at hnumber hdata ⊢
    exact ⟨hne, hnumber, hwaits.number_ne, hdata, by rw [hsame, hbreak]; exact hwaits.isBreak,
      hwaits.front, by rw [hsame]; exact hwaits.before, by rw [hsame]; exact hwaits.after⟩
  have hnumber : s.solInputPacketSequenceNumber ≠ 0 := hwaits.number_ne
  rw [sendSolPacketAgain]
  split
  · rename_i hzero
    have hdata : q.generateBreak = false := by
      rw [← Bool.not_eq_true, hwaits.isBreak]
      exact not_not.mpr hzero
    refine ⟨rfl, hnumber, h.acked_le, h.buffer, h.breakRequested, h.breakAt, h.bytes_le, h.noBreak,
      by rintro ⟨⟩, fun r hr => ?_⟩
    cases hr
    exact hpacket rfl rfl hdata.symm (Nat.succ_ne_zero _) Iff.rfl rfl
  · rename_i hne
    have hbreak : q.generateBreak = true := hwaits.isBreak.mpr hne
    refine ⟨rfl, hnumber, h.acked_le, h.buffer, h.breakRequested, h.breakAt, h.bytes_le, h.noBreak,
      by rintro ⟨⟩, fun r hr => ?_⟩
    cases hr
    exact hpacket rfl rfl hbreak.symm (Nat.succ_ne_zero _)
      ⟨fun _ => hne, fun _ => Nat.succ_ne_zero _⟩ rfl

/-- With the workaround, the packet that waits takes another number before it is sent again. -/
theorem Follows.retimed (h : Follows H s.input) (hretimed : Retimed config s s') :
    ∃ H', Follows H' s'.input ∧ ∀ p, H'.sends p = H.sends p := by
  obtain ⟨hnumber, hrest⟩ := hretimed
  refine ⟨{ H with waiting := H.waiting.map fun q =>
    { q with packetSequenceNumber := s'.solInputPacketSequenceNumber } }, ?_, fun p => rfl⟩
  have hne : s.input.number ≠ 0 → s'.solInputPacketSequenceNumber ≠ 0 := by
    intro h0
    rcases hnumber with hsame | ⟨-, hnext⟩
    · rw [hsame]; exact h0
    · rw [hnext]; exact nextPacketSequenceNumber_ne_zero _
  rw [hrest]
  refine ⟨h.acked_le, h.buffer, h.breakRequested, h.breakAt, h.bytes_le, h.noBreak, ?_, ?_⟩
  · intro hnone
    exact h.idle (Option.map_eq_none_iff.mp hnone)
  · intro r hr
    obtain ⟨q, hq, rfl⟩ := Option.map_eq_some_iff.mp hr
    have hwaits := h.packet q hq
    exact ⟨hwaits.waiting, rfl, hne hwaits.number_ne, hwaits.data, hwaits.isBreak, hwaits.front,
      hwaits.before, hwaits.after⟩

/-! ### Steps and runs -/

/-- A step keeps the promise, and the session still follows the history. -/
structure StepKeeps (H : SolHistory) (e : SolEvent) (o : SolOutput) (s' : SolSession) : Prop where
  allowed : ∀ sent, o.sent = some sent → sent.isRetransmission = false →
    sent.packet.packetSequenceNumber ≠ 0 → Allowed (H.hear e o) sent.packet
  follows : Follows (H.next e o) s'.input

variable {e : SolEvent}

theorem StepKeeps.of_none (h : Follows (H.hear e o) s'.input) (hnone : o.sent = none) :
    StepKeeps H e o s' := by
  refine ⟨fun sent hsent => ?_, ?_⟩
  · rw [hnone] at hsent
    cases hsent
  · rw [SolHistory.next, hnone]
    exact h

theorem StepKeeps.of_new {sent : Sent} (hsent : o.sent = some sent)
    (hnumber : sent.packet.packetSequenceNumber ≠ 0)
    (h : Allowed (H.hear e o) sent.packet ∧ Follows ((H.hear e o).sends sent.packet) s'.input) :
    StepKeeps H e o s' := by
  refine ⟨fun sent' hsent' _ _ => ?_, ?_⟩
  · rw [hsent] at hsent'
    cases hsent'
    exact h.1
  · simp only [SolHistory.next, hsent, if_neg hnumber]
    exact h.2

theorem StepKeeps.of_again {sent : Sent} (hsent : o.sent = some sent)
    (h : sent.isRetransmission = true ∧ sent.packet.packetSequenceNumber ≠ 0 ∧
      Follows ((H.hear e o).sends sent.packet) s'.input) : StepKeeps H e o s' := by
  refine ⟨fun sent' hsent' hnew => ?_, ?_⟩
  · rw [hsent] at hsent'
    cases hsent'
    rw [h.1] at hnew
    cases hnew
  · simp only [SolHistory.next, hsent, if_neg h.2.1]
    exact h.2.2

theorem solSessionSend_keeps (h : Follows H s.input) {t : SolTimeouts}
    (hstep : solSessionSend config s t = .ok (o, s')) (hsafe : BreakSafe config s (.send t)) :
    StepKeeps H (.send t) o s' := by
  have hsame : ∀ {sent written}, H.hear (.send t) ⟨sent, written, []⟩ = H := by
    intro sent written
    simp only [SolHistory.hear, List.append_nil]
  obtain ⟨hwait, -, s₁, hretimed, rfl, rfl⟩ | ⟨hwait, sent, hsent, rfl⟩ | ⟨hnot, hidle, heq⟩ :=
    solSessionSend_cases hstep
  · have hwait₁ : s₁.solInputWaitingForAck ≠ 0 := by rw [hretimed.rest]; exact hwait
    obtain ⟨H', hfollows, hsends⟩ := h.retimed hretimed
    have hagain := hfollows.again hwait₁
    rw [hsends] at hagain
    exact .of_again rfl (by rw [hsame]; exact hagain)
  · obtain ⟨-, hdue, heq⟩ | ⟨hdue, hbefore, heq⟩ | ⟨-, -, heq⟩ :=
      sendSolCharacterDataOrBreak_cases s <;> rw [hsent] at heq <;> cases heq
    · exact .of_new rfl (nextPacketSequenceNumber_ne_zero _)
        (by rw [hsame]; exact h.newCharacterData hwait (fun hbreak => Or.inl (hdue hbreak)) 0 0)
    · exact .of_new rfl (nextPacketSequenceNumber_ne_zero _)
        (by rw [hsame]; exact h.generateBreak hwait hdue hbefore)
  · obtain ⟨hdue, hsend⟩ | ⟨-, hsend | hsend⟩ := solSessionKeepalive_cases config s t <;>
      rw [← heq] at hsend <;> cases hsend
    · have hwait : s.solInputWaitingForAck = 0 := by
        by_contra hne
        exact hsafe hne (hnot hne) hdue
      refine .of_new rfl (nextPacketSequenceNumber_ne_zero _) ?_
      have hentered : Follows _ (s.enterKeepalive config).input :=
        h.enter (if config.engineSerialKeepalive then [0] else [])
      refine hentered.newCharacterData hwait (fun hbreak => ?_) 0 0
      have hno : s.breakRequested = true := hbreak
      rw [hdue.idle.noBreak] at hno
      cases hno
    · exact .of_none (by rw [hsame]; exact h) rfl
    · exact .of_none (by rw [hsame]; exact h) rfl

theorem solStep_keeps (h : Follows H s.input) (hstep : solStep config s e = .ok (o, s'))
    (hsafe : BreakSafe config s e) : StepKeeps H e o s' := by
  cases e with
  | read buffer =>
    obtain ⟨-, -, rfl, rfl⟩ := solStep_read_cases hstep
    exact .of_none (h.enter buffer) rfl
  | «break» =>
    cases hstep
    exact .of_none h.requestBreak rfl
  | write =>
    cases hstep
    refine .of_none ?_ rfl
    simp only [SolHistory.hear, List.append_nil]
    exact h
  | send t => exact solSessionSend_keeps h hstep hsafe
  | receive p =>
    have hreset : Follows H s.receiveReset.input := h
    have hack := hreset.ack p
    obtain ⟨hp, hdata⟩ | ⟨hp, heq⟩ := solStep_receive_cases hstep
    · rw [BreakSafe, if_neg hp] at hsafe
      obtain ⟨-, ⟨hwait, hbuf, rfl, rfl⟩ | ⟨-, rfl, rfl⟩⟩ := solBmcCharacterData_cases hdata
      · refine .of_new rfl (nextPacketSequenceNumber_ne_zero _) ?_
        have hremember : Follows _ ((s.receiveReset.ack p).remember p).input := hack
        exact hremember.newCharacterData hwait (fun hdue => Or.inl (hsafe hwait hbuf hdue)) _ _
      · exact ⟨fun sent hsent _ hnumber => by cases hsent; exact absurd rfl hnumber, hack⟩
    · rw [BreakSafe, if_pos hp] at hsafe
      obtain ⟨-, hwait, hdue, hsend⟩ | ⟨hdue, hbefore, hsend⟩ | ⟨-, -, hsend⟩ :=
        solBmcAckOnly_cases (s.receiveReset.ack p) <;> rw [← heq] at hsend <;> cases hsend
      · exact .of_new rfl (nextPacketSequenceNumber_ne_zero _)
          (hack.newCharacterData hwait (fun hbreak => Or.inl (hdue hbreak)) 0 0)
      · have hwait := hsafe hdue
        refine .of_new rfl (nextPacketSequenceNumber_ne_zero _) (hack.generateBreak hwait hdue ?_)
        rcases hbefore with hnil | hne | hzero
        · exact Or.inl hnil
        · exact absurd hwait hne
        · exact Or.inr hzero
      · exact .of_none hack rfl

/-- Characters from after a break that is due are not allowed. -/
theorem Follows.not_allowed (h : Follows H s.input) (hmax : 0 < s.maxSolCharacterSendSize)
    (hbuf : s.consoleRemoteConsoleToBmc ≠ []) (hdue : s.breakRequested = true)
    (hzero : s.bytesBeforeBreak = 0) {a k : ℕ} :
    ¬ Allowed H (sendSolPacketWithCharacterData s a k false).1.packet := by
  intro hallowed
  have hrequested : s.breakRequested = H.breakAt.isSome := h.breakRequested
  rw [hdue] at hrequested
  obtain ⟨b, hb⟩ := Option.isSome_iff_exists.mp hrequested.symm
  have hplace : b = H.acked + s.bytesBeforeBreak := h.breakAt b hb
  have hle : H.acked + (s.consoleRemoteConsoleToBmc.take s.maxCharacterSendSize).length ≤ b :=
    (hallowed.characters rfl).2 b hb
  have hlen := List.length_pos_iff.mpr hbuf
  rw [List.length_take, SolSession.maxCharacterSendSize, if_pos hzero] at hle
  omega

/-- A step that keeps the promise takes none of the three branches. -/
theorem breakSafe_of_allowed (h : Follows H s.input) (hmax : 0 < s.maxSolCharacterSendSize)
    (hstep : solStep config s e = .ok (o, s'))
    (hallowed : ∀ sent, o.sent = some sent → sent.isRetransmission = false →
      sent.packet.packetSequenceNumber ≠ 0 → Allowed (H.hear e o) sent.packet) :
    BreakSafe config s e := by
  cases e with
  | read buffer => trivial
  | «break» => trivial
  | write => trivial
  | send t =>
    intro hwait hnot hdue
    obtain ⟨-, ht, -⟩ | ⟨hzero, -⟩ | ⟨-, -, heq⟩ := solSessionSend_cases hstep
    · rw [hnot] at ht
      cases ht
    · exact hwait hzero
    · obtain ⟨-, hsend⟩ | ⟨hno, -⟩ := solSessionKeepalive_cases config s t
      · rw [← heq] at hsend
        cases hsend
        have hfree := (hallowed _ rfl rfl (nextPacketSequenceNumber_ne_zero _)).free
        exact hwait (h.waiting_none_iff.mp hfree)
      · exact hno hdue
  | receive p =>
    have hreset : Follows H s.receiveReset.input := h
    have hack := hreset.ack p
    rw [BreakSafe]
    obtain ⟨hp, hdata⟩ | ⟨hp, heq⟩ := solStep_receive_cases hstep
    · rw [if_neg hp]
      intro hwait hbuf hdue hzero
      obtain ⟨-, ⟨-, -, rfl, rfl⟩ | ⟨hne | hnil, -⟩⟩ := solBmcCharacterData_cases hdata
      · have hremember : Follows (H.acknowledge p) ((s.receiveReset.ack p).remember p).input := hack
        have hmax' : 0 < (s.receiveReset.ack p).maxSolCharacterSendSize := by
          rw [ack_max]
          exact hmax
        exact hremember.not_allowed hmax' hbuf hdue hzero
          (hallowed _ rfl rfl (nextPacketSequenceNumber_ne_zero _))
      · exact hne hwait
      · exact hbuf hnil
    · rw [if_pos hp]
      intro hdue
      by_contra hwait
      obtain ⟨-, hzero, -⟩ | ⟨-, -, hsend⟩ | ⟨-, hno, -⟩ := solBmcAckOnly_cases (s.receiveReset.ack p)
      · exact hwait hzero
      · rw [← heq] at hsend
        cases hsend
        have hfree := (hallowed _ rfl rfl (nextPacketSequenceNumber_ne_zero _)).free
        exact hwait (hack.waiting_none_iff.mp hfree)
      · have hdue' : (s.receiveReset.ack p).breakRequested = true := hdue
        rw [hno] at hdue'
        cases hdue'

end Follows

/-- In every session, every new packet is sent only when no packet waits, characters only from
    before a break, and a break only when all characters before it are acknowledged, if and only if
    no step takes one of the three branches. -/
theorem keepsPromise_iff_breakSafe {config : SolConfig} {ignore : Bool} {i o n m : ℕ}
    {trace : List (SolEvent × SolOutput)} {s : SolSession}
    (hm : checkPayloadSizesLegitimate ignore i o = some m)
    (h : SolRun config (.setup n m) trace s) :
    KeepsPromise .start trace ↔ EachStep config (BreakSafe config) (.setup n m) trace := by
  have hmax : 0 < (SolSession.setup n m).maxSolCharacterSendSize :=
    (checkPayloadSizesLegitimate_bounds hm).1
  have hfollows := Follows.setup n m
  generalize SolHistory.start = H at hfollows ⊢
  generalize SolSession.setup n m = s₀ at h hfollows hmax ⊢
  induction h generalizing H with
  | nil s => exact Iff.rfl
  | @cons s s₁ s' e out trace hstep _ ih =>
    have hmax₁ : 0 < s₁.maxSolCharacterSendSize := by rw [solStep_max hstep]; exact hmax
    constructor
    · rintro ⟨hallowed, hrest⟩
      have hsafe := breakSafe_of_allowed hfollows hmax hstep hallowed
      refine ⟨hsafe, fun o' s₂ hstep' => ?_⟩
      cases hstep.symm.trans hstep'
      exact (ih _ (solStep_keeps hfollows hstep hsafe).follows hmax₁).mp hrest
    · rintro ⟨hsafe, hrest⟩
      have hkeeps := solStep_keeps hfollows hstep hsafe
      exact ⟨hkeeps.allowed, (ih _ hkeeps.follows hmax₁).mpr (hrest out s₁ hstep)⟩

/-- An acknowledgement of all characters. -/
def bmcAck (packetAckNackSequenceNumber acceptedCharacterCount : ℕ) : SolEvent :=
  .receive ⟨0, packetAckNackSequenceNumber, acceptedCharacterCount, false, []⟩

/-- A character, a break and another character, each acknowledged. -/
theorem keepsPromise_iff_breakSafe_sample : ∃ trace s,
    SolRun ⟨false, false, false, 10⟩ (.setup 0 2) trace s ∧
    trace.map Prod.fst = [.read [97], .break, .read [98], .send default, bmcAck 1 1, bmcAck 2 0] ∧
    (KeepsPromise .start trace ↔
      EachStep ⟨false, false, false, 10⟩ (BreakSafe ⟨false, false, false, 10⟩) (.setup 0 2) trace) := by
  have hrun : SolRun ⟨false, false, false, 10⟩ (.setup 0 2) _ _ := solRun_of_solSteps
    (l := [.read [97], .break, .read [98], .send default, bmcAck 1 1, bmcAck 2 0]) rfl
  have hm : checkPayloadSizesLegitimate false 6 6 = some 2 := rfl
  exact ⟨_, _, hrun, rfl, keepsPromise_iff_breakSafe hm hrun⟩

/-- While the second character waits, a break is requested, and the acknowledgement of the first
    character comes in again: the break is sent. -/
theorem not_keepsPromise_of_stale_ack : ∃ trace s,
    checkPayloadSizesLegitimate false 259 259 = some 255 ∧
    SolRun ⟨false, false, false, 10⟩ (.setup 0 255) trace s ∧
    trace.map Prod.fst = [.read [97], .send default, bmcAck 1 1, .read [98], .send default, .break,
      bmcAck 1 1] ∧
    ¬ KeepsPromise .start trace := by
  have hrun : SolRun ⟨false, false, false, 10⟩ (.setup 0 255) _ _ := solRun_of_solSteps
    (l := [.read [97], .send default, bmcAck 1 1, .read [98], .send default, .break, bmcAck 1 1]) rfl
  refine ⟨_, _, rfl, hrun, rfl, fun hkeeps => ?_⟩
  obtain ⟨-, -, -, -, -, -, hlast, -⟩ := hkeeps
  have hfree := (hlast _ rfl rfl (by decide)).free
  cases hfree

end FreeIpmi.Console
