import FreeIpmi.Console.Network

/-! SOL input is delivered exactly once, and in order.

    A packet of the BMC carries four bits of the index of the packet that it acknowledges, so an old
    acknowledgement could be taken for one of a later packet, 15 or 30 after it. `ToConsoleInv` is
    the invariant that rules this out: an acknowledgement was sent after those of all earlier packets
    were received, and before those of all packets more than `lag` after it. Between it and the
    latest one there are then at least 14 less `lag` others, too many for the window if `lag` is at
    most 5. With a `lag` of 6 the session takes the old acknowledgement, and loses characters. -/

namespace FreeIpmi.Console
open Util

/-- The sequence number of a packet, by its index. -/
def numberOf : ℕ → ℕ
  | 0 => 0
  | n + 1 => n % 15 + 1

theorem numberOf_succ (n : ℕ) : numberOf (n + 1) = nextPacketSequenceNumber (numberOf n) := by
  cases n with
  | zero => rfl
  | succ n =>
    change (n + 1) % 15 + 1 = if n % 15 + 1 + 1 > 15 then 1 else n % 15 + 1 + 1
    split <;> omega

/-- Packets with one number are 15 or more apart. -/
theorem add_le_of_numberOf_eq {i j : ℕ} (hi : i ≠ 0) (hij : i < j) (h : numberOf i = numberOf j) :
    i + 15 ≤ j := by
  cases i with
  | zero => exact absurd rfl hi
  | succ i =>
    cases j with
    | zero => omega
    | succ j =>
      simp only [numberOf] at h
      omega

/-! ### What a step sends -/

/-- What a step sends: nothing with a number, a packet with the next number, or the packet that
    waits again. -/
inductive Sends (s : SolSession) (e : SolEvent) (o : SolOutput) (s' : SolSession) : Prop where
  | nothing : o.sent = none → s'.solInputPacketSequenceNumber = s.solInputPacketSequenceNumber →
      Sends s e o s'
  | ackOnly (sent : Sent) : o.sent = some sent → sent.packet.packetSequenceNumber = 0 →
      sent.isRetransmission = false →
      s'.solInputPacketSequenceNumber = s.solInputPacketSequenceNumber → Sends s e o s'
  | new (sent : Sent) : o.sent = some sent → sent.isRetransmission = false →
      sent.packet.packetSequenceNumber = nextPacketSequenceNumber s.solInputPacketSequenceNumber →
      s'.solInputPacketSequenceNumber = nextPacketSequenceNumber s.solInputPacketSequenceNumber →
      Sends s e o s'
  | again (sent : Sent) : o.sent = some sent → sent.isRetransmission = true →
      s.solInputWaitingForAck ≠ 0 → (∀ H : SolHistory, H.hear e o = H) →
      sent.packet.packetSequenceNumber = s.solInputPacketSequenceNumber →
      sent.packet.characterData = s.solInputCharacterData →
      s'.solInputPacketSequenceNumber = s.solInputPacketSequenceNumber → Sends s e o s'

section Sends
variable {config : SolConfig} {s s' : SolSession} {e : SolEvent} {o : SolOutput}

theorem sendSolPacketAgain_same (s : SolSession) :
    (sendSolPacketAgain s).1.isRetransmission = true ∧
      (sendSolPacketAgain s).1.packet.packetSequenceNumber = s.solInputPacketSequenceNumber ∧
      (sendSolPacketAgain s).1.packet.characterData = s.solInputCharacterData ∧
      (sendSolPacketAgain s).2.solInputPacketSequenceNumber = s.solInputPacketSequenceNumber := by
  rw [sendSolPacketAgain]
  split <;> exact ⟨rfl, rfl, rfl, rfl⟩

theorem ack_number (s : SolSession) (p : BmcPacket) :
    (s.ack p).solInputPacketSequenceNumber = s.solInputPacketSequenceNumber := by
  rw [SolSession.ack]
  split
  · split <;> rfl
  · rfl

theorem solSessionSend_sends {t : SolTimeouts}
    (hworkaround : config.workaroundIncrementSolPacketSequence = false)
    (h : solSessionSend config s t = .ok (o, s')) : Sends s (.send t) o s' := by
  obtain ⟨hwait, -, s₁, hretimed, rfl, rfl⟩ | ⟨-, sent, hsent, rfl⟩ | ⟨-, -, heq⟩ :=
    solSessionSend_cases h
  · obtain ⟨hagain, hnumber, hdata, hnext⟩ := sendSolPacketAgain_same s₁
    have hsame : s₁.solInputPacketSequenceNumber = s.solInputPacketSequenceNumber := by
      rcases hretimed.number with hsame | ⟨hno, -⟩
      · exact hsame
      · rw [hworkaround] at hno
        cases hno
    refine .again _ rfl hagain hwait (fun H => ?_) (hnumber.trans hsame) ?_ (hnext.trans hsame)
    · simp only [SolHistory.hear, List.append_nil]
    · rw [hdata, hretimed.rest]
  · obtain ⟨-, -, heq⟩ | ⟨-, -, heq⟩ | ⟨-, -, heq⟩ := sendSolCharacterDataOrBreak_cases s <;>
      rw [hsent] at heq <;> cases heq
    · exact .new _ rfl rfl rfl rfl
    · exact .new _ rfl rfl rfl rfl
  · obtain ⟨-, hsend⟩ | ⟨-, hsend | hsend⟩ := solSessionKeepalive_cases config s t <;>
      rw [← heq] at hsend <;> cases hsend
    · exact .new _ rfl rfl rfl rfl
    · exact .nothing rfl rfl
    · exact .nothing rfl rfl

theorem solStep_sends (hworkaround : config.workaroundIncrementSolPacketSequence = false)
    (h : solStep config s e = .ok (o, s')) : Sends s e o s' := by
  cases e with
  | read buffer =>
    obtain ⟨-, -, rfl, rfl⟩ := solStep_read_cases h
    exact .nothing rfl rfl
  | «break» =>
    cases h
    refine .nothing rfl ?_
    rw [asynccommBreak]
    split <;> rfl
  | write =>
    cases h
    exact .nothing rfl rfl
  | send t => exact solSessionSend_sends hworkaround h
  | receive p =>
    have hack : (s.receiveReset.ack p).solInputPacketSequenceNumber = _ := ack_number s.receiveReset p
    obtain ⟨-, hdata⟩ | ⟨-, heq⟩ := solStep_receive_cases h
    · obtain ⟨-, ⟨-, -, rfl, rfl⟩ | ⟨-, rfl, rfl⟩⟩ := solBmcCharacterData_cases hdata
      · exact .new _ rfl rfl (congrArg nextPacketSequenceNumber hack)
          (congrArg nextPacketSequenceNumber hack)
      · exact .ackOnly _ rfl rfl rfl hack
    · obtain ⟨-, -, -, hsend⟩ | ⟨-, -, hsend⟩ | ⟨-, -, hsend⟩ :=
        solBmcAckOnly_cases (s.receiveReset.ack p) <;> rw [← heq] at hsend <;> cases hsend
      · exact .new _ rfl rfl (congrArg nextPacketSequenceNumber hack)
          (congrArg nextPacketSequenceNumber hack)
      · exact .new _ rfl rfl (congrArg nextPacketSequenceNumber hack)
          (congrArg nextPacketSequenceNumber hack)
      · exact .nothing rfl hack

/-- A packet of the BMC enters no characters. -/
theorem solStep_receive_entered {p : BmcPacket} (h : solStep config s (.receive p) = .ok (o, s')) :
    o.entered = [] := by
  obtain ⟨-, hdata⟩ | ⟨-, heq⟩ := solStep_receive_cases h
  · obtain ⟨-, ⟨-, -, rfl, rfl⟩ | ⟨-, rfl, rfl⟩⟩ := solBmcCharacterData_cases hdata <;> rfl
  · obtain ⟨-, -, -, hsend⟩ | ⟨-, -, hsend⟩ | ⟨-, -, hsend⟩ :=
      solBmcAckOnly_cases (s.receiveReset.ack p) <;> rw [← heq] at hsend <;> cases hsend <;> rfl

end Sends

/-! ### The invariant -/

/-- The ghosts of a world: the history of the session, the characters of each packet, and the place
    of the packet of the BMC whose acknowledgement of it the session took. -/
structure Ghost where
  history : SolHistory
  characters : ℕ → List Byte
  ackPlace : ℕ → ℕ

/-- The number of characters of the packet that waits which the BMC has accepted. -/
def pending (g : Ghost) (w : World) : ℕ :=
  match g.history.waiting with
  | none => 0
  | some _ => ((w.bmc.handled w.index).map Prod.snd).getD 0

/-- How many packets the session has acknowledgements of. -/
def ackedIndex (g : Ghost) (w : World) : ℕ :=
  match g.history.waiting with
  | none => w.index
  | some _ => w.index - 1

/-- The session follows its history. -/
structure SessionInv (g : Ghost) (w : World) : Prop where
  follows : Follows g.history w.session.input
  number : w.session.solInputPacketSequenceNumber = numberOf w.index

/-- The packet that waits is the latest one, and its characters are the next ones. -/
structure Latest (g : Ghost) (w : World) (q : SolPacket) : Prop where
  index : w.index ≠ 0
  number : q.packetSequenceNumber = numberOf w.index
  noBreak : q.generateBreak = false
  data : q.characterData = g.characters w.index
  front : q.characterData <+: w.entered.drop g.history.acked

/-- The characters of the history: the BMC has accepted those acknowledged, and some of those that
    wait. -/
structure HistoryInv (g : Ghost) (w : World) : Prop where
  entered : g.history.entered = w.entered
  noBreak : g.history.breakAt = none
  waiting : ∀ q, g.history.waiting = some q → Latest g w q
  acked_le : g.history.acked ≤ w.entered.length
  accepted : w.bmc.accepted = w.entered.take (g.history.acked + pending g w)

/-- The packets on their way to the BMC: each has the number and the characters of its index, and of
    each index one was new. -/
structure ToBmcInv (g : Ghost) (w : World) : Prop where
  entries : ∀ r ∈ w.toBmc, r.index ≠ 0 → r.index ≤ w.index ∧
    r.sent.packet.packetSequenceNumber = numberOf r.index ∧
    r.sent.packet.characterData = g.characters r.index
  acks : ∀ r ∈ w.toBmc, r.index = 0 → r.sent.isRetransmission = false
  first : ∀ i, i ≠ 0 → i ≤ w.index → ∃ q ∈ w.toBmc, q.index = i ∧ q.sent.isRetransmission = false

/-- The BMC has handled every packet before the one that waits. -/
structure BmcInv (g : Ghost) (w : World) : Prop where
  handled : ∀ i number count, w.bmc.handled i = some (number, count) →
    i ≠ 0 ∧ i ≤ w.index ∧ i ≤ w.bmc.latest ∧ number = numberOf i ∧ count ≤ (g.characters i).length
  all : ∀ i, i ≠ 0 → i ≤ ackedIndex g w → w.bmc.handled i ≠ none

/-- The acknowledgements on their way to the session: each was sent after those of earlier packets
    were received, and before any of a packet more than `lag` after it. -/
structure ToConsoleInv (lag : ℕ) (g : Ghost) (w : World) : Prop where
  entries : ∀ r ∈ w.toConsole,
    (r.index = 0 → r.packet.packetAckNackSequenceNumber = 0) ∧
    (r.index ≠ 0 → w.bmc.handled r.index
      = some (r.packet.packetAckNackSequenceNumber, r.packet.acceptedCharacterCount))
  after : ∀ (place : ℕ) (r : ToConsole), w.toConsole[place]? = some r →
    ∀ i, i ≠ 0 → i < r.index → i ≤ ackedIndex g w ∧ g.ackPlace i < place
  before : ∀ (place : ℕ) (r : ToConsole), w.toConsole[place]? = some r → r.index ≠ 0 →
    ∀ (place' : ℕ) (r' : ToConsole), place' ≤ place → w.toConsole[place']? = some r' →
      r'.index ≤ r.index + lag
  acked : ∀ i, i ≠ 0 → i ≤ ackedIndex g w → g.ackPlace i < w.consoleReached ∧
    ∃ r, w.toConsole[g.ackPlace i]? = some r ∧ r.index = i

/-- The invariant of the network between the session and the BMC. -/
structure NetInv (lag : ℕ) (g : Ghost) (w : World) : Prop where
  history : HistoryInv g w
  toBmc : ToBmcInv g w
  bmc : BmcInv g w
  toConsole : ToConsoleInv lag g w

section Invariant
variable {config : SolConfig} {lag : ℕ} {g : Ghost} {w w' : World}

/-- The places of the acknowledgements taken grow with the index. -/
theorem ToConsoleInv.ackPlace_add (h : ToConsoleInv lag g w) {i : ℕ} (hi : i ≠ 0) :
    ∀ {k : ℕ}, i + k ≤ ackedIndex g w → g.ackPlace i + k ≤ g.ackPlace (i + k)
  | 0, _ => le_rfl
  | k + 1, hk => by
    have ih := h.ackPlace_add hi (k := k) (by omega)
    obtain ⟨-, r, hr, hindex⟩ := h.acked (i + (k + 1)) (by omega) hk
    have hlt := (h.after _ r hr (i + k) (by omega) (by omega)).2
    omega

/-- In the window, an acknowledgement with the number of the packet that waits is of this packet. -/
theorem NetInv.index_eq (h : NetInv lag g w) (hlag : lag ≤ 5) {place : ℕ} {r : ToConsole}
    (hr : w.toConsole[place]? = some r)
    (hwindow : w.consoleReached ≤ place + 1 + sequenceNumberWindowDefault)
    (hne : r.packet.packetAckNackSequenceNumber ≠ 0) {q : SolPacket}
    (hwait : g.history.waiting = some q)
    (hnumber : r.packet.packetAckNackSequenceNumber = numberOf w.index) :
    r.index ≠ 0 ∧ r.index = w.index := by
  obtain ⟨hzero, hentry⟩ := h.toConsole.entries r (List.mem_of_getElem? hr)
  have hindex : r.index ≠ 0 := fun h0 => hne (hzero h0)
  obtain ⟨-, hle, -, hof, -⟩ := h.bmc.handled _ _ _ (hentry hindex)
  refine ⟨hindex, ?_⟩
  rw [hof] at hnumber
  by_contra hdiff
  have hlt : r.index < w.index := lt_of_le_of_ne hle hdiff
  have hapart := add_le_of_numberOf_eq hindex hlt hnumber
  have hacked : ackedIndex g w = w.index - 1 := by rw [ackedIndex, hwait]
  -- the first acknowledgement that is surely behind this one
  have hbehind : place < g.ackPlace (r.index + lag + 1) := by
    by_contra hbefore
    obtain ⟨-, r', hr', hindex'⟩ := h.toConsole.acked (r.index + lag + 1) (by omega) (by omega)
    have hfirst := h.toConsole.before place r hr hindex _ r' (not_lt.mp hbefore) hr'
    omega
  -- and from there one place at least for each packet
  obtain ⟨k, hk⟩ := Nat.exists_eq_add_of_le (show r.index + lag + 1 ≤ w.index - 1 by omega)
  have hplaces := h.toConsole.ackPlace_add (i := r.index + lag + 1) (k := k) (by omega) (by omega)
  rw [← hk] at hplaces
  have hreached := (h.toConsole.acked (w.index - 1) (by omega) (by omega)).1
  have height : sequenceNumberWindowDefault = 8 := rfl
  omega

/-- The history does not ask what is on its way. -/
theorem HistoryInv.congr (h : HistoryInv g w) (hindex : w'.index = w.index)
    (hentered : w'.entered = w.entered) (hbmc : w'.bmc = w.bmc) : HistoryInv g w' := by
  refine ⟨hentered ▸ h.entered, h.noBreak, fun q hq => ?_, hentered ▸ h.acked_le, ?_⟩
  · obtain ⟨hne, hnumber, hbreak, hdata, hfront⟩ := h.waiting q hq
    exact ⟨hindex ▸ hne, hindex ▸ hnumber, hbreak, hindex ▸ hdata, hentered ▸ hfront⟩
  · have hpending : pending g w' = pending g w := by rw [pending, pending, hindex, hbmc]
    rw [hpending, hbmc, hentered]
    exact h.accepted

/-! ### Steps of the session -/

theorem pending_of_free (hfree : g.history.waiting = none) : pending g w = 0 := by
  rw [pending, hfree]

theorem NetInv.pending_le (h : NetInv lag g w) :
    g.history.acked + pending g w ≤ w.entered.length := by
  have hacked := h.history.acked_le
  rw [pending]
  cases hwait : g.history.waiting with
  | none => exact hacked
  | some q =>
    have hlatest := h.history.waiting q hwait
    have hfront := hlatest.front.length_le
    rw [hlatest.data, List.length_drop] at hfront
    cases hhandled : w.bmc.handled w.index with
    | none => exact hacked
    | some entry =>
      obtain ⟨-, -, -, -, hcount⟩ := h.bmc.handled w.index entry.1 entry.2 hhandled
      change g.history.acked + entry.2 ≤ w.entered.length
      omega

/-- Characters are entered. -/
theorem NetInv.enter (h : NetInv lag g w) (more : List Byte) :
    NetInv lag { g with history := { g.history with entered := g.history.entered ++ more } }
      { w with entered := w.entered ++ more } := by
  refine ⟨⟨?_, h.history.noBreak, ?_, ?_, ?_⟩, ⟨h.toBmc.entries, h.toBmc.acks, h.toBmc.first⟩,
    ⟨h.bmc.handled, h.bmc.all⟩, ⟨h.toConsole.entries, h.toConsole.after, h.toConsole.before,
      h.toConsole.acked⟩⟩
  · exact congrArg (· ++ more) h.history.entered
  · intro q hq
    have hlatest := h.history.waiting q hq
    refine ⟨hlatest.index, hlatest.number, hlatest.noBreak, hlatest.data, ?_⟩
    change q.characterData <+: (w.entered ++ more).drop g.history.acked
    rw [List.drop_append_of_le_length h.history.acked_le]
    exact hlatest.front.trans (List.prefix_append _ _)
  · change g.history.acked ≤ (w.entered ++ more).length
    rw [List.length_append]
    exact Nat.le_add_right_of_le h.history.acked_le
  · change w.bmc.accepted = (w.entered ++ more).take (g.history.acked + pending g w)
    rw [List.take_append_of_le_length h.pending_le]
    exact h.history.accepted

/-- A packet that only acknowledges is sent. -/
theorem NetInv.ackOnly (h : NetInv lag g w) {sent : Sent} (hnew : sent.isRetransmission = false) :
    NetInv lag g { w with toBmc := w.toBmc ++ [⟨0, sent⟩] } := by
  refine ⟨h.history.congr rfl rfl rfl, ⟨?_, ?_, ?_⟩, ⟨h.bmc.handled, h.bmc.all⟩,
    ⟨h.toConsole.entries, h.toConsole.after, h.toConsole.before, h.toConsole.acked⟩⟩
  · intro r hr hindex
    rcases List.mem_append.mp hr with hr | hr
    · exact h.toBmc.entries r hr hindex
    · cases List.mem_singleton.mp hr
      exact absurd rfl hindex
  · intro r hr hindex
    rcases List.mem_append.mp hr with hr | hr
    · exact h.toBmc.acks r hr hindex
    · cases List.mem_singleton.mp hr
      exact hnew
  · intro i hi hle
    obtain ⟨q, hq, hsame⟩ := h.toBmc.first i hi hle
    exact ⟨q, List.mem_append_left _ hq, hsame⟩

/-- The packet that waits is sent again. -/
theorem NetInv.again (h : NetInv lag g w) {q : SolPacket} (hwait : g.history.waiting = some q)
    {sent : Sent} (hnumber : sent.packet.packetSequenceNumber = q.packetSequenceNumber)
    (hdata : sent.packet.characterData = q.characterData)
    (hbreak : sent.packet.generateBreak = false) :
    NetInv lag { g with history := g.history.sends sent.packet }
      { w with toBmc := w.toBmc ++ [⟨w.index, sent⟩] } := by
  have hlatest := h.history.waiting q hwait
  have hpending : pending { g with history := g.history.sends sent.packet }
      { w with toBmc := w.toBmc ++ [⟨w.index, sent⟩] } = pending g w := by
    simp only [pending, SolHistory.sends, hwait]
  have hacked : ackedIndex { g with history := g.history.sends sent.packet }
      { w with toBmc := w.toBmc ++ [⟨w.index, sent⟩] } = ackedIndex g w := by
    simp only [ackedIndex, SolHistory.sends, hwait]
  refine ⟨⟨h.history.entered, h.history.noBreak, ?_, h.history.acked_le, ?_⟩, ⟨?_, ?_, ?_⟩,
    ⟨h.bmc.handled, ?_⟩, ⟨h.toConsole.entries, ?_, h.toConsole.before, ?_⟩⟩
  · intro p hp
    cases hp
    exact ⟨hlatest.index, hnumber.trans hlatest.number, hbreak, hdata.trans hlatest.data,
      hdata ▸ hlatest.front⟩
  · rw [hpending]
    exact h.history.accepted
  · intro r hr hindex
    rcases List.mem_append.mp hr with hr | hr
    · exact h.toBmc.entries r hr hindex
    · cases List.mem_singleton.mp hr
      exact ⟨le_rfl, hnumber.trans hlatest.number, hdata.trans hlatest.data⟩
  · intro r hr hindex
    rcases List.mem_append.mp hr with hr | hr
    · exact h.toBmc.acks r hr hindex
    · cases List.mem_singleton.mp hr
      exact absurd hindex hlatest.index
  · intro i hi hle
    obtain ⟨p, hp, hsame⟩ := h.toBmc.first i hi hle
    exact ⟨p, List.mem_append_left _ hp, hsame⟩
  · rw [hacked]
    exact h.bmc.all
  · rw [hacked]
    exact h.toConsole.after
  · rw [hacked]
    exact h.toConsole.acked

/-- The ghosts once a new packet is sent. -/
def Ghost.sends (g : Ghost) (w : World) (p : SolPacket) : Ghost :=
  { g with
    history := g.history.sends p
    characters := Function.update g.characters (w.index + 1) p.characterData }

/-- A new packet is sent while none waits. -/
theorem NetInv.new (h : NetInv lag g w) (hfree : g.history.waiting = none) {sent : Sent}
    (hnew : sent.isRetransmission = false)
    (hnumber : sent.packet.packetSequenceNumber = numberOf (w.index + 1))
    (hbreak : sent.packet.generateBreak = false)
    (hfront : sent.packet.characterData <+: w.entered.drop g.history.acked) :
    NetInv lag (g.sends w sent.packet)
      { w with index := w.index + 1, toBmc := w.toBmc ++ [⟨w.index + 1, sent⟩] } := by
  have hold : ∀ i, i ≤ w.index →
      (g.sends w sent.packet).characters i = g.characters i := fun i hi =>
    Function.update_of_ne (by omega) _ _
  have hself : (g.sends w sent.packet).characters (w.index + 1) = sent.packet.characterData :=
    Function.update_self _ _ _
  have hnone : w.bmc.handled (w.index + 1) = none := by
    by_contra hsome
    obtain ⟨entry, hentry⟩ := Option.ne_none_iff_exists'.mp hsome
    obtain ⟨-, hle, -⟩ := h.bmc.handled _ entry.1 entry.2 hentry
    omega
  have hpending : pending (g.sends w sent.packet)
      { w with index := w.index + 1, toBmc := w.toBmc ++ [⟨w.index + 1, sent⟩] } = pending g w := by
    rw [pending_of_free hfree]
    simp only [pending, Ghost.sends, SolHistory.sends, hnone, Option.map_none, Option.getD_none]
  have hacked : ackedIndex (g.sends w sent.packet)
      { w with index := w.index + 1, toBmc := w.toBmc ++ [⟨w.index + 1, sent⟩] } = ackedIndex g w := by
    simp only [ackedIndex, Ghost.sends, SolHistory.sends, hfree, Nat.add_sub_cancel]
  refine ⟨⟨h.history.entered, h.history.noBreak, ?_, h.history.acked_le, ?_⟩, ⟨?_, ?_, ?_⟩,
    ⟨?_, ?_⟩, ⟨h.toConsole.entries, ?_, h.toConsole.before, ?_⟩⟩
  · intro p hp
    cases hp
    exact ⟨Nat.succ_ne_zero _, hnumber, hbreak, hself.symm, hfront⟩
  · rw [hpending]
    exact h.history.accepted
  · intro r hr hindex
    rcases List.mem_append.mp hr with hr | hr
    · obtain ⟨hle, hnum, hdata⟩ := h.toBmc.entries r hr hindex
      exact ⟨Nat.le_succ_of_le hle, hnum, hdata.trans (hold _ hle).symm⟩
    · cases List.mem_singleton.mp hr
      exact ⟨le_rfl, hnumber, hself.symm⟩
  · intro r hr hindex
    rcases List.mem_append.mp hr with hr | hr
    · exact h.toBmc.acks r hr hindex
    · cases List.mem_singleton.mp hr
      exact absurd hindex (Nat.succ_ne_zero _)
  · intro i hi hle
    rcases Nat.le_succ_iff.mp hle with hle | rfl
    · obtain ⟨p, hp, hsame⟩ := h.toBmc.first i hi hle
      exact ⟨p, List.mem_append_left _ hp, hsame⟩
    · exact ⟨_, List.mem_append_right _ (List.mem_singleton_self _), rfl, hnew⟩
  · intro i number count hhandled
    obtain ⟨hi, hle, hlatest, hnum, hcount⟩ := h.bmc.handled i number count hhandled
    exact ⟨hi, Nat.le_succ_of_le hle, hlatest, hnum, (hold i hle).symm ▸ hcount⟩
  · rw [hacked]
    exact h.bmc.all
  · rw [hacked]
    exact h.toConsole.after
  · rw [hacked]
    exact h.toConsole.acked

/-! ### Steps of the network -/

/-- A packet of the BMC is received. -/
theorem NetInv.acknowledge (h : NetInv lag g w) (hlag : lag ≤ 5) {place : ℕ} {r : ToConsole}
    (hr : w.toConsole[place]? = some r)
    (hwindow : w.consoleReached ≤ place + 1 + sequenceNumberWindowDefault) :
    ∃ ackPlace, NetInv lag ⟨g.history.acknowledge r.packet, g.characters, ackPlace⟩
      { w with consoleReached := max w.consoleReached (place + 1) } := by
  have hlater : ∀ i, i ≠ 0 → i ≤ ackedIndex g w →
      g.ackPlace i < max w.consoleReached (place + 1) ∧
        ∃ r, w.toConsole[g.ackPlace i]? = some r ∧ r.index = i := fun i hi hle =>
    ⟨lt_max_of_lt_left (h.toConsole.acked i hi hle).1, (h.toConsole.acked i hi hle).2⟩
  -- nothing is acknowledged
  have hsame : g.history.acknowledge r.packet = g.history →
      ∃ ackPlace, NetInv lag ⟨g.history.acknowledge r.packet, g.characters, ackPlace⟩
        { w with consoleReached := max w.consoleReached (place + 1) } := by
    intro heq
    rw [heq]
    exact ⟨g.ackPlace, h.history.congr rfl rfl rfl, ⟨h.toBmc.entries, h.toBmc.acks, h.toBmc.first⟩,
      ⟨h.bmc.handled, h.bmc.all⟩, ⟨h.toConsole.entries, h.toConsole.after, h.toConsole.before, hlater⟩⟩
  cases hwait : g.history.waiting with
  | none => exact hsame (by rw [SolHistory.acknowledge, hwait])
  | some q =>
    have hlatest := h.history.waiting q hwait
    by_cases hacks : r.packet.packetAckNackSequenceNumber ≠ 0 ∧
        r.packet.packetAckNackSequenceNumber = q.packetSequenceNumber
    · obtain ⟨hindex, heq⟩ := h.index_eq hlag hr hwindow hacks.1 hwait
        (hacks.2.trans hlatest.number)
      have hhandled := (h.toConsole.entries r (List.mem_of_getElem? hr)).2 hindex
      rw [heq] at hhandled
      obtain ⟨-, -, -, -, hcount⟩ := h.bmc.handled _ _ _ hhandled
      have hpending : pending g w = r.packet.acceptedCharacterCount := by
        simp only [pending, hwait, hhandled, Option.map_some, Option.getD_some]
      have hlength : min r.packet.acceptedCharacterCount q.characterData.length
          = r.packet.acceptedCharacterCount := by
        rw [hlatest.data]
        exact min_eq_left hcount
      have hhistory : g.history.acknowledge r.packet = { g.history with
          waiting := none, acked := g.history.acked + r.packet.acceptedCharacterCount } := by
        simp only [SolHistory.acknowledge, hwait, if_pos hacks, hlatest.noBreak, hlength,
          Bool.false_eq_true, if_false]
      have hfits := h.pending_le
      have haccepted := h.history.accepted
      rw [hpending] at hfits haccepted
      rw [hhistory]
      have hold : ∀ i, i < w.index → Function.update g.ackPlace w.index place i = g.ackPlace i :=
        fun i hi => Function.update_of_ne (Nat.ne_of_lt hi) _ _
      have hacked : ∀ i, i < w.index → i ≤ ackedIndex g w := by
        intro i hi
        rw [ackedIndex, hwait]
        exact Nat.le_sub_one_of_lt hi
      refine ⟨Function.update g.ackPlace w.index place,
        ⟨h.history.entered, h.history.noBreak, by rintro _ ⟨⟩, hfits, haccepted⟩,
        ⟨h.toBmc.entries, h.toBmc.acks, h.toBmc.first⟩, ⟨h.bmc.handled, ?_⟩,
        ⟨h.toConsole.entries, ?_, h.toConsole.before, ?_⟩⟩
      · intro i hi hle
        rcases Nat.lt_or_eq_of_le hle with hlt | rfl
        · exact h.bmc.all i hi (hacked i hlt)
        · exact fun hnone => Option.some_ne_none _ (hhandled.symm.trans hnone)
      · intro place' r' hr' i hi hlt
        obtain ⟨-, hentry⟩ := h.toConsole.entries r' (List.mem_of_getElem? hr')
        obtain ⟨-, hle, -⟩ := h.bmc.handled _ _ _ (hentry (by omega))
        have hbefore : i < w.index := by omega
        refine ⟨Nat.le_of_lt hbefore, ?_⟩
        change Function.update g.ackPlace w.index place i < place'
        rw [hold i hbefore]
        exact (h.toConsole.after place' r' hr' i hi hlt).2
      · intro i hi hle
        change Function.update g.ackPlace w.index place i < _ ∧
          ∃ r, w.toConsole[Function.update g.ackPlace w.index place i]? = some r ∧ r.index = i
        rcases Nat.lt_or_eq_of_le hle with hlt | rfl
        · rw [hold i hlt]
          exact hlater i hi (hacked i hlt)
        · change Function.update g.ackPlace w.index place w.index < _ ∧
            ∃ r, w.toConsole[Function.update g.ackPlace w.index place w.index]? = some r ∧
              r.index = w.index
          rw [Function.update_self]
          exact ⟨lt_max_of_lt_right (Nat.lt_succ_self place), r, hr, heq⟩
    · exact hsame (by simp only [SolHistory.acknowledge, hwait, if_neg hacks])

/-- A packet reaches the BMC, which accepts some of its characters if it is new. -/
theorem NetInv.deliverToBmc (h : NetInv lag g w) {r : ToBmc} (hr : r ∈ w.toBmc)
    (bmcReached count : ℕ) :
    NetInv lag g { w with bmcReached := bmcReached, bmc := w.bmc.handle r count } := by
  have hsame : w.bmc.handle r count = w.bmc →
      NetInv lag g { w with bmcReached := bmcReached, bmc := w.bmc.handle r count } := by
    intro heq
    rw [heq]
    exact ⟨h.history.congr rfl rfl rfl, ⟨h.toBmc.entries, h.toBmc.acks, h.toBmc.first⟩,
      ⟨h.bmc.handled, h.bmc.all⟩, ⟨h.toConsole.entries, h.toConsole.after, h.toConsole.before,
        h.toConsole.acked⟩⟩
  by_cases hindex : r.index = 0
  · exact hsame (if_pos hindex)
  cases hhandled : w.bmc.handled r.index with
  | some entry => exact hsame (by rw [Bmc.handle, if_neg hindex, hhandled])
  | none =>
    obtain ⟨hle, hnumber, hdata⟩ := h.toBmc.entries r hr hindex
    -- all packets before the one that waits are handled
    obtain ⟨q, hwait⟩ : ∃ q, g.history.waiting = some q := by
      cases hwait : g.history.waiting with
      | some q => exact ⟨q, rfl⟩
      | none =>
        have hall := h.bmc.all r.index hindex
        rw [ackedIndex, hwait] at hall
        exact absurd hhandled (hall hle)
    have heq : r.index = w.index := by
      have hall := h.bmc.all r.index hindex
      rw [ackedIndex, hwait] at hall
      by_contra hne
      exact hall (Nat.le_sub_one_of_lt (lt_of_le_of_ne hle hne)) hhandled
    have hlatest := h.history.waiting q hwait
    have hsent : r.sent.packet.characterData = q.characterData := by
      rw [hdata, heq, hlatest.data]
    rw [Bmc.handle, if_neg hindex, hhandled]
    generalize hc : min count r.sent.packet.characterData.length = c
    have hc_le : c ≤ r.sent.packet.characterData.length := hc ▸ min_le_right _ _
    have hpending : pending g w = 0 := by
      simp only [pending, hwait, ← heq, hhandled, Option.map_none, Option.getD_none]
    have hold : ∀ i, i ≠ r.index → Function.update w.bmc.handled r.index
        (some (r.sent.packet.packetSequenceNumber, c)) i = w.bmc.handled i := fun i hi =>
      Function.update_of_ne hi _ _
    refine ⟨⟨h.history.entered, h.history.noBreak, fun p hp => ?_, h.history.acked_le, ?_⟩,
      ⟨h.toBmc.entries, h.toBmc.acks, h.toBmc.first⟩, ⟨?_, ?_⟩, ⟨?_, h.toConsole.after,
        h.toConsole.before, h.toConsole.acked⟩⟩
    · have hlatest := h.history.waiting p hp
      exact ⟨hlatest.index, hlatest.number, hlatest.noBreak, hlatest.data, hlatest.front⟩
    · obtain ⟨rest, hrest⟩ := hlatest.front
      have haccepted := h.history.accepted
      rw [hpending, Nat.add_zero] at haccepted
      have hnow : pending g { w with
          bmcReached := bmcReached
          bmc := ⟨Function.update w.bmc.handled r.index
            (some (r.sent.packet.packetSequenceNumber, c)), max w.bmc.latest r.index,
            w.bmc.accepted ++ r.sent.packet.characterData.take c⟩ } = c := by
        simp only [pending, hwait, ← heq, Function.update_self, Option.map_some, Option.getD_some]
      rw [hnow]
      change w.bmc.accepted ++ r.sent.packet.characterData.take c = _
      rw [hsent] at hc_le ⊢
      rw [List.take_add, haccepted, ← hrest, List.take_append_of_le_length hc_le]
    · intro i number k hi
      by_cases hother : i = r.index
      · subst hother
        change Function.update w.bmc.handled r.index _ r.index = _ at hi
        rw [Function.update_self] at hi
        cases hi
        exact ⟨hindex, hle, le_max_right _ _, hnumber, hdata ▸ hc_le⟩
      · change Function.update w.bmc.handled r.index _ i = _ at hi
        rw [hold i hother] at hi
        obtain ⟨hne, hle, hmax, hrest⟩ := h.bmc.handled i number k hi
        exact ⟨hne, hle, le_max_of_le_left hmax, hrest⟩
    · intro i hi hacked
      by_cases hother : i = r.index
      · subst hother
        change Function.update w.bmc.handled r.index _ r.index ≠ none
        rw [Function.update_self]
        exact Option.some_ne_none _
      · change Function.update w.bmc.handled r.index _ i ≠ none
        rw [hold i hother]
        exact h.bmc.all i hi hacked
    · intro p hp
      obtain ⟨hzero, hentry⟩ := h.toConsole.entries p hp
      refine ⟨hzero, fun hne => ?_⟩
      have hother : p.index ≠ r.index := by
        intro hsame
        rw [← hsame, hentry hne] at hhandled
        cases hhandled
      change Function.update w.bmc.handled r.index _ p.index = _
      rw [hold _ hother]
      exact hentry hne

/-- What the BMC sends acknowledges a packet it has handled, or nothing. -/
theorem Bmc.packet_cases {b : Bmc} {index number : ℕ} {data : List Byte} {r : ToConsole}
    (h : b.packet lag index number data = some r) :
    (r.index = 0 ∧ r.packet.packetAckNackSequenceNumber = 0) ∨
      (r.index ≠ 0 ∧ b.latest ≤ r.index + lag ∧ b.handled r.index
        = some (r.packet.packetAckNackSequenceNumber, r.packet.acceptedCharacterCount)) := by
  rw [Bmc.packet] at h
  split at h
  · cases h
    exact Or.inl ⟨rfl, rfl⟩
  rename_i hindex
  split at h
  · cases h
  rename_i hhandled
  split at h
  · cases h
    exact Or.inr ⟨hindex, ‹_›, hhandled⟩
  · cases h

/-- The BMC sends a packet. -/
theorem NetInv.bmcSends (h : NetInv lag g w) {index number : ℕ} {data : List Byte} {r : ToConsole}
    (hr : w.bmc.packet lag index number data = some r) :
    NetInv lag g { w with toConsole := w.toConsole ++ [r] } := by
  have hcases := Bmc.packet_cases hr
  have hget : ∀ (place : ℕ) (p : ToConsole), (w.toConsole ++ [r])[place]? = some p →
      w.toConsole[place]? = some p ∨ (place = w.toConsole.length ∧ p = r) := by
    intro place p hp
    rcases Nat.lt_or_ge place w.toConsole.length with hlt | hge
    · rw [List.getElem?_append_left hlt] at hp
      exact Or.inl hp
    · rw [List.getElem?_append_right hge, List.getElem?_singleton] at hp
      split at hp
      · cases hp
        exact Or.inr ⟨by omega, rfl⟩
      · cases hp
  have hlatest : ∀ p ∈ w.toConsole, p.index ≤ w.bmc.latest := by
    intro p hp
    by_cases hzero : p.index = 0
    · rw [hzero]
      exact Nat.zero_le _
    · exact (h.bmc.handled _ _ _ ((h.toConsole.entries p hp).2 hzero)).2.2.1
  refine ⟨h.history.congr rfl rfl rfl, ⟨h.toBmc.entries, h.toBmc.acks, h.toBmc.first⟩,
    ⟨h.bmc.handled, h.bmc.all⟩, ⟨?_, ?_, ?_, ?_⟩⟩
  · intro p hp
    rcases List.mem_append.mp hp with hp | hp
    · exact h.toConsole.entries p hp
    · cases List.mem_singleton.mp hp
      obtain ⟨hzero, hnone⟩ | ⟨hindex, -, hhandled⟩ := hcases
      · exact ⟨fun _ => hnone, fun hne => absurd hzero hne⟩
      · exact ⟨fun hzero => absurd hzero hindex, fun _ => hhandled⟩
  · intro place p hp i hi hlt
    rcases hget place p hp with hp | ⟨rfl, rfl⟩
    · exact h.toConsole.after place p hp i hi hlt
    · obtain ⟨hzero, -⟩ | ⟨-, -, hhandled⟩ := hcases
      · omega
      obtain ⟨-, hle, -⟩ := h.bmc.handled _ _ _ hhandled
      have hacked : i ≤ ackedIndex g w := by
        rw [ackedIndex]
        split <;> omega
      obtain ⟨-, q, hq, -⟩ := h.toConsole.acked i hi hacked
      exact ⟨hacked, (List.getElem?_eq_some_iff.mp hq).1⟩
  · intro place p hp hindex place' p' hle hp'
    rcases hget place p hp with hp | ⟨rfl, rfl⟩
    · have hlt : place < w.toConsole.length := (List.getElem?_eq_some_iff.mp hp).1
      rcases hget place' p' hp' with hp' | ⟨rfl, rfl⟩
      · exact h.toConsole.before place p hp hindex place' p' hle hp'
      · omega
    · obtain ⟨hzero, -⟩ | ⟨-, hlag, -⟩ := hcases
      · exact absurd hzero hindex
      rcases hget place' p' hp' with hp' | ⟨rfl, rfl⟩
      · exact (hlatest p' (List.mem_of_getElem? hp')).trans hlag
      · exact Nat.le_add_right _ _
  · intro i hi hle
    obtain ⟨hlt, q, hq, hsame⟩ := h.toConsole.acked i hi hle
    refine ⟨hlt, q, ?_, hsame⟩
    change (w.toConsole ++ [r])[g.ackPlace i]? = some q
    rw [List.getElem?_append_left (List.getElem?_eq_some_iff.mp hq).1]
    exact hq

/-! ### Steps and runs of the world -/

/-- The invariant of the world. -/
structure Delivers (lag : ℕ) (g : Ghost) (w : World) : Prop where
  session : SessionInv g w
  net : NetInv lag g w

theorem Delivers.start (lag n m : ℕ) :
    Delivers lag ⟨.start, fun _ => [], fun _ => 0⟩ (World.start n m) := by
  refine ⟨⟨Follows.setup n m, rfl⟩, ⟨rfl, rfl, nofun, le_rfl, rfl⟩, ⟨nofun, nofun, ?_⟩, ⟨nofun, ?_⟩,
    ⟨nofun, nofun, nofun, ?_⟩⟩
  · exact fun i hi hle => absurd (Nat.le_zero.mp hle) hi
  · exact fun i hi hle => absurd (Nat.le_zero.mp hle) hi
  · exact fun i hi hle => absurd (Nat.le_zero.mp hle) hi

theorem NetInv.session (h : NetInv lag g w) (s : SolSession) (typed : List Byte) :
    NetInv lag g { w with session := s, typed := typed } :=
  ⟨h.history.congr rfl rfl rfl, ⟨h.toBmc.entries, h.toBmc.acks, h.toBmc.first⟩,
    ⟨h.bmc.handled, h.bmc.all⟩,
    ⟨h.toConsole.entries, h.toConsole.after, h.toConsole.before, h.toConsole.acked⟩⟩

theorem Follows.generateBreak_eq_false {H : SolHistory} {i : SolInput} (h : Follows H i)
    (hnone : H.breakAt = none) {q : SolPacket} (hwait : H.waiting = some q) :
    q.generateBreak = false := by
  rw [← Bool.not_eq_true]
  intro hbreak
  have hdue := ((h.packet q hwait).after hbreak).2.1
  rw [h.breakRequested, hnone] at hdue
  cases hdue

/-- The session takes a step: it has heard an event, and sends. -/
theorem SessionInv.sessionStep {e : SolEvent} (h : SessionInv g w)
    (hworkaround : config.workaroundIncrementSolPacketSequence = false)
    (hsafe : BreakSafe config w.session e)
    (hhear : ∀ o s', solStep config w.session e = .ok (o, s') → ∃ ackPlace,
      NetInv lag ⟨g.history.hear e o, g.characters, ackPlace⟩ { w with entered := w.entered ++ o.entered })
    (hstep : w.sessionStep config e = some w') : ∃ g', Delivers lag g' w' := by
  unfold World.sessionStep at hstep
  split at hstep
  · cases hstep
  rename_i o s' hsol
  obtain ⟨ackPlace, hheard⟩ := hhear o s' hsol
  have hkeeps := solStep_keeps h.follows hsol hsafe
  have hfollows := hkeeps.follows
  cases solStep_sends hworkaround hsol with
  | nothing hsent hsame =>
    rw [SolHistory.next, hsent] at hfollows
    rw [hsent] at hstep
    cases hstep
    exact ⟨_, ⟨hfollows, hsame.trans h.number⟩, hheard.session s' _⟩
  | ackOnly sent hsent hzero hnew hsame =>
    simp only [SolHistory.next, hsent, if_pos hzero] at hfollows
    simp only [hsent, if_pos hzero] at hstep
    cases hstep
    exact ⟨_, ⟨hfollows, hsame.trans h.number⟩, (hheard.session s' _).ackOnly hnew⟩
  | new sent hsent hnew hnumber hnext =>
    have hne : sent.packet.packetSequenceNumber ≠ 0 := by
      rw [hnumber]
      exact nextPacketSequenceNumber_ne_zero _
    have hnot : ¬ sent.isRetransmission = true := by rw [hnew]; exact Bool.false_ne_true
    simp only [SolHistory.next, hsent, if_neg hne] at hfollows
    simp only [hsent, if_neg hne, if_neg hnot] at hstep
    cases hstep
    rw [h.number, ← numberOf_succ] at hnumber hnext
    have hallowed := hkeeps.allowed sent hsent hnew hne
    have hbreak := hfollows.generateBreak_eq_false hheard.history.noBreak rfl
    have hfront := (hallowed.characters hbreak).1
    rw [hheard.history.entered] at hfront
    exact ⟨_, ⟨hfollows, hnext⟩,
      (hheard.session s' _).new hallowed.free hnew hnumber hbreak hfront⟩
  | again sent hsent hagain hwait hhear hnumber hdata hsame =>
    obtain ⟨q, hq⟩ : ∃ q, g.history.waiting = some q :=
      Option.ne_none_iff_exists'.mp fun hnone => hwait (h.follows.waiting_none_iff.mp hnone)
    have hwaits := h.follows.packet q hq
    have hnum : sent.packet.packetSequenceNumber = q.packetSequenceNumber :=
      hnumber.trans hwaits.number.symm
    have hne : sent.packet.packetSequenceNumber ≠ 0 := by
      rw [hnumber]
      exact hwaits.number_ne
    simp only [SolHistory.next, hsent, if_neg hne] at hfollows
    simp only [hsent, if_neg hne, if_pos hagain] at hstep
    cases hstep
    have hbreak := hfollows.generateBreak_eq_false hheard.history.noBreak rfl
    have hq' : (g.history.hear e o).waiting = some q := by rw [hhear]; exact hq
    exact ⟨_, ⟨hfollows, hsame.trans h.number⟩,
      (hheard.session s' _).again hq' hnum (hdata.trans hwaits.data.symm) hbreak⟩

/-- One step of the world. -/
theorem Delivers.step {a : Action} (h : Delivers lag g w) (hlag : lag ≤ 5)
    (hworkaround : config.workaroundIncrementSolPacketSequence = false)
    (hsteady : Steady config w a) (hstep : w.step config lag a = some w') :
    ∃ g', Delivers lag g' w' := by
  cases a with
  | read buffer =>
    exact h.session.sessionStep (e := .read buffer) hworkaround trivial
      (fun o s' _ => ⟨g.ackPlace, h.net.enter o.entered⟩) hstep
  | write =>
    exact h.session.sessionStep (e := .write) hworkaround trivial
      (fun o s' _ => ⟨g.ackPlace, h.net.enter o.entered⟩) hstep
  | send t =>
    exact h.session.sessionStep (e := .send t) hworkaround hsteady
      (fun o s' _ => ⟨g.ackPlace, h.net.enter o.entered⟩) hstep
  | deliverToBmc place count =>
    rw [World.step] at hstep
    split at hstep
    · cases hstep
    rename_i r hr
    split at hstep
    · cases hstep
      exact ⟨g, ⟨h.session.follows, h.session.number⟩,
        h.net.deliverToBmc (List.mem_of_getElem? hr) _ _⟩
    · cases hstep
  | bmcSends index number data =>
    obtain ⟨r, hr, rfl⟩ := Option.map_eq_some_iff.mp hstep
    exact ⟨g, ⟨h.session.follows, h.session.number⟩, h.net.bmcSends hr⟩
  | deliverToConsole place =>
    rw [World.step] at hstep
    split at hstep
    · cases hstep
    rename_i r hr
    split at hstep
    · rename_i hwindow
      obtain ⟨ackPlace, hacknowledged⟩ := h.net.acknowledge hlag hr hwindow
      have hreached : SessionInv g { w with consoleReached := max w.consoleReached (place + 1) } :=
        ⟨h.session.follows, h.session.number⟩
      refine hreached.sessionStep hworkaround ?_ (fun o s' hsol => ⟨ackPlace, ?_⟩) hstep
      · -- no break is requested
        have hreset : Follows g.history w.session.receiveReset.input := h.session.follows
        have hnone : (w.session.atSend (.receive r.packet)).breakRequested = false := by
          have hrequested := (hreset.ack r.packet).breakRequested
          rw [hacknowledged.history.noBreak] at hrequested
          exact hrequested
        rw [BreakSafe]
        split
        · intro hdue
          exact absurd (hnone.symm.trans hdue) Bool.false_ne_true
        · intro _ _ hdue
          exact absurd (hnone.symm.trans hdue) Bool.false_ne_true
      · rw [solStep_receive_entered hsol, List.append_nil]
        exact hacknowledged
    · cases hstep

/-- The invariant holds in every run whose steps are steady. -/
theorem Delivers.run (hlag : lag ≤ 5)
    (hworkaround : config.workaroundIncrementSolPacketSequence = false) :
    ∀ {actions : List Action} {g : Ghost} {w : World}, Delivers lag g w →
      EveryStepSteady config lag w actions → w.run config lag actions = some w' →
      ∃ g', Delivers lag g' w'
  | [], g, w, h, _, hrun => by
    cases hrun
    exact ⟨g, h⟩
  | a :: actions, g, w, h, hsteady, hrun => by
    obtain ⟨w₁, hstep, hrest⟩ := Option.bind_eq_some_iff.mp hrun
    obtain ⟨g₁, h₁⟩ := h.step hlag hworkaround hsteady.1 hstep
    exact Delivers.run hlag hworkaround h₁ (hsteady.2 w₁ hstep) hrest

theorem Delivers.accepted_prefix (h : Delivers lag g w) : w.bmc.accepted <+: w.entered := by
  rw [h.net.history.accepted]
  exact List.take_prefix _ _

theorem Delivers.sendsAgainTheSame (h : Delivers lag g w) : SendsAgainTheSame w := by
  intro r hr hagain
  have hindex : r.index ≠ 0 := by
    intro hzero
    rw [h.net.toBmc.acks r hr hzero] at hagain
    cases hagain
  obtain ⟨hle, hnumber, hdata⟩ := h.net.toBmc.entries r hr hindex
  obtain ⟨q, hq, hsame, hnew⟩ := h.net.toBmc.first r.index hindex hle
  obtain ⟨-, hnumber', hdata'⟩ := h.net.toBmc.entries q hq (hsame ▸ hindex)
  rw [hsame] at hnumber' hdata'
  exact ⟨q, hq, hnew, hsame, hnumber'.trans hnumber.symm, hdata'.trans hdata.symm⟩

end Invariant

/-! ### The characters typed -/

section Typed
variable {config : SolConfig} {lag : ℕ} {w w' : World}

/-- Without `IPMICONSOLE_ENGINE_SERIAL_KEEPALIVE` only the user's characters are entered. -/
theorem solStep_entered {s s' : SolSession} {e : SolEvent} {o : SolOutput}
    (hkeepalive : config.engineSerialKeepalive = false) (h : solStep config s e = .ok (o, s')) :
    o.entered = e.typed := by
  cases e with
  | read buffer =>
    obtain ⟨-, -, rfl, -⟩ := solStep_read_cases h
    rfl
  | «break» =>
    cases h
    rfl
  | write =>
    cases h
    rfl
  | send t =>
    obtain ⟨-, -, s₁, -, rfl, -⟩ | ⟨-, sent, -, rfl⟩ | ⟨-, -, heq⟩ := solSessionSend_cases h
    · rfl
    · rfl
    · obtain ⟨-, hsend⟩ | ⟨-, hsend | hsend⟩ := solSessionKeepalive_cases config s t <;>
        rw [← heq] at hsend <;> cases hsend
      · exact if_neg (by rw [hkeepalive]; exact Bool.false_ne_true)
      · rfl
      · rfl
  | receive p => exact solStep_receive_entered h

theorem sessionStep_typed {e : SolEvent} (hkeepalive : config.engineSerialKeepalive = false)
    (h : w.entered = w.typed) (hstep : w.sessionStep config e = some w') : w'.entered = w'.typed := by
  unfold World.sessionStep at hstep
  split at hstep
  · cases hstep
  rename_i o s' hsol
  have hentered := solStep_entered hkeepalive hsol
  have hboth : w.entered ++ o.entered = w.typed ++ e.typed := by rw [h, hentered]
  split at hstep
  · cases hstep
    exact hboth
  · split at hstep
    · cases hstep
      exact hboth
    · split at hstep <;> cases hstep <;> exact hboth

theorem step_typed {a : Action} (hkeepalive : config.engineSerialKeepalive = false)
    (h : w.entered = w.typed) (hstep : w.step config lag a = some w') : w'.entered = w'.typed := by
  cases a with
  | read buffer => exact sessionStep_typed (e := .read buffer) hkeepalive h hstep
  | write => exact sessionStep_typed (e := .write) hkeepalive h hstep
  | send t => exact sessionStep_typed (e := .send t) hkeepalive h hstep
  | deliverToBmc place count =>
    rw [World.step] at hstep
    split at hstep
    · cases hstep
    · split at hstep <;> cases hstep
      exact h
  | bmcSends index number data =>
    obtain ⟨r, -, rfl⟩ := Option.map_eq_some_iff.mp hstep
    exact h
  | deliverToConsole place =>
    rw [World.step] at hstep
    split at hstep
    · cases hstep
    · split at hstep
      · exact sessionStep_typed
          (w := { w with consoleReached := max w.consoleReached (place + 1) }) hkeepalive h hstep
      · cases hstep

theorem run_typed (hkeepalive : config.engineSerialKeepalive = false) :
    ∀ {actions : List Action} {w : World}, w.entered = w.typed →
      w.run config lag actions = some w' → w'.entered = w'.typed
  | [], w, h, hrun => by
    cases hrun
    exact h
  | a :: actions, w, h, hrun => by
    obtain ⟨w₁, hstep, hrest⟩ := Option.bind_eq_some_iff.mp hrun
    exact run_typed hkeepalive (step_typed hkeepalive h hstep) hrest

end Typed

/-! ### Delivery -/

/-- In every run, against a BMC that acknowledges a packet while no more than five later ones are
    handled, the characters it has accepted are a prefix of those entered, which are those typed
    unless the engine enters serial keepalives; and every retransmission is of a packet sent before,
    with its number and its characters. -/
theorem sol_input_delivered {config : SolConfig} {lag n m : ℕ} {actions : List Action} {w : World}
    (hlag : lag ≤ 5) (hworkaround : config.workaroundIncrementSolPacketSequence = false)
    (hsteady : EveryStepSteady config lag (World.start n m) actions)
    (hrun : (World.start n m).run config lag actions = some w) :
    w.bmc.accepted <+: w.entered ∧ (config.engineSerialKeepalive = false → w.entered = w.typed) ∧
      SendsAgainTheSame w := by
  obtain ⟨g, h⟩ := (Delivers.start lag n m).run hlag hworkaround hsteady hrun
  exact ⟨h.accepted_prefix, fun hkeepalive => run_typed hkeepalive rfl hrun, h.sendsAgainTheSame⟩

theorem everyStepSteady_of_noKeepalive {config : SolConfig} {lag : ℕ}
    (hkeepalive : config.engineSerialKeepalive = false)
    (hempty : config.engineSerialKeepaliveEmpty = false) :
    ∀ (actions : List Action) (w : World), EveryStepSteady config lag w actions
  | [], _ => trivial
  | a :: actions, w => by
    refine ⟨?_, fun w' _ => everyStepSteady_of_noKeepalive hkeepalive hempty actions w'⟩
    cases a with
    | send t =>
      intro _ _ hdue
      have hflags := hdue.flags
      rw [hkeepalive, hempty] at hflags
      simp at hflags
    | _ => trivial

/-- A timeout of the packet that waits. -/
def again : SolTimeouts := { (default : SolTimeouts) with solRetransmission := true }

/-- Two characters in one packet, which is sent twice; the BMC accepts one of them, and then the
    other. -/
def twice : List Action :=
  [.read [97, 98], .send default, .send again, .deliverToBmc 0 1, .deliverToBmc 1 2, .bmcSends 1 0 [],
    .deliverToConsole 0, .deliverToBmc 2 1]

theorem sol_input_delivered_sample : ∃ w,
    (World.start 0 255).run ⟨false, false, false, 10⟩ 5 twice = some w ∧
    w.bmc.accepted = [97, 98] ∧
    (w.bmc.accepted <+: w.entered ∧ (false = false → w.entered = w.typed) ∧ SendsAgainTheSame w) := by
  have hsome : ((World.start 0 255).run ⟨false, false, false, 10⟩ 5 twice).isSome := by decide
  have hboth : ((World.start 0 255).run ⟨false, false, false, 10⟩ 5 twice).all
      fun w => w.bmc.accepted = [97, 98] := by decide
  obtain ⟨w, hw⟩ := Option.isSome_iff_exists.mp hsome
  rw [hw] at hboth
  have hsteady : EveryStepSteady ⟨false, false, false, 10⟩ 5 (World.start 0 255) twice :=
    everyStepSteady_of_noKeepalive rfl rfl _ _
  exact ⟨w, hw, by simpa using hboth, sol_input_delivered le_rfl rfl hsteady hw⟩

/-- A character is typed, sent, accepted, and acknowledged. -/
def exchange (c place back : ℕ) : List Action :=
  [.read [BitVec.ofNat 8 (96 + c)], .send default, .deliverToBmc place 1, .bmcSends c 0 [],
    .deliverToConsole back]

/-- A run in which the BMC acknowledges the first packet again after six later ones, and the session
    receives this when the sixteenth packet waits, which has the same number. -/
def staleAck : List Action :=
  ([.read [97], .send default, .send again, .deliverToBmc 0 1, .bmcSends 1 0 [], .deliverToConsole 0]
      : List Action)
    ++ (List.range 6).flatMap (fun k => exchange (k + 2) (k + 2) (k + 1))
    ++ ([.deliverToBmc 1 1, .bmcSends 1 0 []] : List Action)
    ++ (List.range 8).flatMap (fun k => exchange (k + 8) (k + 8) (k + 8))
    ++ ([.read [112], .send default, .deliverToConsole 7, .read [113], .send default,
      .deliverToBmc 17 1] : List Action)

/-- The BMC accepts a character that was not typed with a serial keepalive; and without keepalives
    a character is lost to an old acknowledgement. -/
theorem not_sol_input_delivered :
    (∃ w, (World.start 0 255).run ⟨true, false, false, 10⟩ 0 [.send { (default : SolTimeouts) with
        serialKeepaliveIsNecessary := true, serialKeepalive := true }, .deliverToBmc 0 1] = some w ∧
      ¬ w.bmc.accepted <+: w.typed) ∧
    ∃ w, (World.start 0 255).run ⟨false, false, false, 10⟩ 6 staleAck = some w ∧
      ¬ w.bmc.accepted <+: w.typed := by
  refine ⟨⟨_, rfl, by decide⟩, ?_⟩
  have hsome : ((World.start 0 255).run ⟨false, false, false, 10⟩ 6 staleAck).isSome := by decide
  have hlost : ((World.start 0 255).run ⟨false, false, false, 10⟩ 6 staleAck).all
      fun w => !decide (w.bmc.accepted <+: w.typed) := by decide
  obtain ⟨w, hw⟩ := Option.isSome_iff_exists.mp hsome
  rw [hw] at hlost
  exact ⟨w, hw, by simpa using hlost⟩

end FreeIpmi.Console
