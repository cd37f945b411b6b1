import FreeIpmi.Console.Steps

/-! Console output: the characters of the BMC.

    `_sol_bmc_to_remote_console_packet` remembers the sequence number and the length of the last
    packet only. Of a retransmission it writes what lies beyond the length of the packet before it.
    `outputOf` is what a sequence of packets writes; on a run of equal sequence numbers this is the
    longest data exactly when no packet is longer than the one before it after the first that is
    shorter (`Settles`): after a short retransmission a longer one is written again from there. -/

namespace FreeIpmi.Console
open Calls

/-! ### What a run of the session writes -/

/-- The packets with characters among the packets received. -/
def dataPackets : List (SolEvent × SolOutput) → List BmcPacket
  | [] => []
  | (.receive p, _) :: trace =>
    if p.packetSequenceNumber ≠ 0 then p :: dataPackets trace else dataPackets trace
  | (_, _) :: trace => dataPackets trace

/-- The bytes written to `console_bmc_to_remote_console`. -/
def writtenBy (trace : List (SolEvent × SolOutput)) : List Byte :=
  (trace.map fun step => step.2.written).flatten

/-- The answer to a packet with characters acknowledges it with their number. -/
def Acknowledges (p : BmcPacket) (o : SolOutput) : Prop :=
  ∃ sent, o.sent = some sent ∧ sent.packet.packetAckNackSequenceNumber = p.packetSequenceNumber
    ∧ sent.packet.acceptedCharacterCount = p.characterData.length

/-- What a sequence of packets writes, after a packet with number `n` and `k` characters. -/
def outputOf (n k : ℕ) : List BmcPacket → List Byte
  | [] => []
  | p :: ps =>
    (if n = p.packetSequenceNumber then
      if p.characterData.length ≥ k then p.characterData.drop k else []
    else p.characterData) ++ outputOf p.packetSequenceNumber p.characterData.length ps

/-- The memory of the receiver is as it was. -/
structure SameOutput (s s' : SolSession) : Prop where
  number : s'.lastSolOutputPacketSequenceNumber = s.lastSolOutputPacketSequenceNumber
  count : s'.lastSolOutputAcceptedCharacterCount = s.lastSolOutputAcceptedCharacterCount

section Step
variable {config : SolConfig} {s s' : SolSession} {o : SolOutput}

theorem SameOutput.refl (s : SolSession) : SameOutput s s := ⟨rfl, rfl⟩

theorem SameOutput.trans {s s' s'' : SolSession} (h : SameOutput s s') (h' : SameOutput s' s'') :
    SameOutput s s'' := ⟨h'.number.trans h.number, h'.count.trans h.count⟩

theorem sendSolPacketWithCharacterData_sameOutput (s : SolSession) (a k : ℕ) (again : Bool) :
    SameOutput s (sendSolPacketWithCharacterData s a k again).2 := by
  cases again <;> exact ⟨rfl, rfl⟩

theorem sendSolPacketGenerateBreak_sameOutput (s : SolSession) (again : Bool) :
    SameOutput s (sendSolPacketGenerateBreak s again).2 := by
  cases again <;> exact ⟨rfl, rfl⟩

theorem sendSolPacketAgain_sameOutput (s : SolSession) : SameOutput s (sendSolPacketAgain s).2 := by
  rw [sendSolPacketAgain]
  split
  · exact sendSolPacketWithCharacterData_sameOutput s 0 0 true
  · exact sendSolPacketGenerateBreak_sameOutput s true

theorem ack_sameOutput (s : SolSession) (p : BmcPacket) : SameOutput s (s.ack p) := by
  rw [SolSession.ack]
  split
  · split <;> exact ⟨rfl, rfl⟩
  · exact .refl s

theorem Retimed.sameOutput (h : Retimed config s s') : SameOutput s s' := by
  rw [h.rest]
  exact ⟨rfl, rfl⟩

theorem solSessionKeepalive_sameOutput (config : SolConfig) (s : SolSession) (t : SolTimeouts) :
    SameOutput s (solSessionKeepalive config s t).2 ∧
      (solSessionKeepalive config s t).1.written = [] := by
  obtain ⟨-, heq⟩ | ⟨-, heq | heq⟩ := solSessionKeepalive_cases config s t <;> rw [heq]
  · exact ⟨⟨rfl, rfl⟩, rfl⟩
  · exact ⟨⟨rfl, rfl⟩, rfl⟩
  · exact ⟨.refl s, rfl⟩

theorem solSessionSend_sameOutput {t : SolTimeouts} (h : solSessionSend config s t = .ok (o, s')) :
    SameOutput s s' ∧ o.written = [] := by
  obtain ⟨-, -, s₁, hretimed, rfl, rfl⟩ | ⟨-, sent, hsent, rfl⟩ | ⟨-, -, heq⟩ := solSessionSend_cases h
  · exact ⟨hretimed.sameOutput.trans (sendSolPacketAgain_sameOutput s₁), rfl⟩
  · obtain ⟨-, -, heq⟩ | ⟨-, -, heq⟩ | ⟨-, -, heq⟩ := sendSolCharacterDataOrBreak_cases s <;>
      rw [hsent] at heq <;> cases heq
    · exact ⟨sendSolPacketWithCharacterData_sameOutput s 0 0 false, rfl⟩
    · exact ⟨sendSolPacketGenerateBreak_sameOutput s false, rfl⟩
  · have hsame := solSessionKeepalive_sameOutput config s t
    rwa [← heq] at hsame

theorem solBmcAckOnly_sameOutput (s : SolSession) :
    SameOutput s (solBmcAckOnly s).2 ∧ (solBmcAckOnly s).1.written = [] := by
  obtain ⟨-, -, -, heq⟩ | ⟨-, -, heq⟩ | ⟨-, -, heq⟩ := solBmcAckOnly_cases s <;> rw [heq]
  · exact ⟨sendSolPacketWithCharacterData_sameOutput s 0 0 false, rfl⟩
  · exact ⟨sendSolPacketGenerateBreak_sameOutput s false, rfl⟩
  · exact ⟨.refl s, rfl⟩

/-- A packet with characters is written beyond what the last one had, remembered, and
    acknowledged. -/
theorem solBmcCharacterData_output {p : BmcPacket} (h : solBmcCharacterData s p = .ok (o, s')) :
    o.written = s.characterDataToWrite p ∧
      s'.lastSolOutputPacketSequenceNumber = p.packetSequenceNumber ∧
      s'.lastSolOutputAcceptedCharacterCount = p.characterData.length ∧ Acknowledges p o := by
  obtain ⟨-, ⟨-, -, rfl, rfl⟩ | ⟨-, rfl, rfl⟩⟩ := solBmcCharacterData_cases h
  · exact ⟨rfl, rfl, rfl, _, rfl, rfl, rfl⟩
  · exact ⟨rfl, rfl, rfl, _, rfl, rfl, rfl⟩

theorem characterDataToWrite_congr {s s' : SolSession} (h : SameOutput s s') (p : BmcPacket) :
    s'.characterDataToWrite p = s.characterDataToWrite p := by
  rw [SolSession.characterDataToWrite, h.number, h.count]
  rfl

/-- A packet with characters, as a step of the session. -/
theorem solStep_data {p : BmcPacket} (hp : p.packetSequenceNumber ≠ 0)
    (h : solStep config s (.receive p) = .ok (o, s')) :
    o.written = s.characterDataToWrite p ∧
      s'.lastSolOutputPacketSequenceNumber = p.packetSequenceNumber ∧
      s'.lastSolOutputAcceptedCharacterCount = p.characterData.length ∧ Acknowledges p o := by
  obtain ⟨-, hdata⟩ | ⟨h0, -⟩ := solStep_receive_cases h
  · obtain ⟨hwritten, hrest⟩ := solBmcCharacterData_output hdata
    rw [characterDataToWrite_congr (ack_sameOutput s.receiveReset p)] at hwritten
    exact ⟨hwritten, hrest⟩
  · exact absurd h0 hp

theorem solBmcCharacterData_succeeds (s : SolSession) (p : BmcPacket) :
    (∃ r, solBmcCharacterData s p = .ok r) ↔
      p.characterData.length ≤ ipmiconsoleMaxCharacterData ∧
      s.consoleBmcToRemoteConsole.length + (s.characterDataToWrite p).length
        ≤ consoleBmcToRemoteConsoleBufMax := by
  by_cases hlen : p.characterData.length > ipmiconsoleMaxCharacterData
  · simp [solBmcCharacterData, hlen]
  by_cases hroom : s.consoleBmcToRemoteConsole.length + (s.characterDataToWrite p).length
      > consoleBmcToRemoteConsoleBufMax
  · simp [solBmcCharacterData, hlen, hroom]
  · rw [solBmcCharacterData, if_neg hlen]
    dsimp only
    rw [if_neg hroom]
    exact ⟨fun _ => ⟨not_lt.mp hlen, not_lt.mp hroom⟩, fun _ => ⟨_, rfl⟩⟩

/-- Such a packet is refused only with the flag that SOL is deactivating, with more characters than
    one can acknowledge, or when the user's buffer is full. -/
theorem solStep_data_succeeds {p : BmcPacket} (hp : p.packetSequenceNumber ≠ 0) :
    (∃ r, solStep config s (.receive p) = .ok r) ↔ p.solDeactivating = false ∧
      p.characterData.length ≤ ipmiconsoleMaxCharacterData ∧
      s.consoleBmcToRemoteConsole.length + (s.characterDataToWrite p).length
        ≤ consoleBmcToRemoteConsoleBufMax := by
  have hbuffer : (s.receiveReset.ack p).consoleBmcToRemoteConsole = s.consoleBmcToRemoteConsole := by
    rw [SolSession.ack]
    split
    · split <;> rfl
    · rfl
  have hwrite : (s.receiveReset.ack p).characterDataToWrite p = s.characterDataToWrite p :=
    characterDataToWrite_congr (ack_sameOutput s.receiveReset p) p
  have hdata := solBmcCharacterData_succeeds (s.receiveReset.ack p) p
  rw [hbuffer, hwrite] at hdata
  rw [← hdata]
  simp only [solStep, solBmcToRemoteConsolePacket, if_pos hp]
  cases p.solDeactivating with
  | true => simp
  | false => simp

/-- Every other step writes nothing, and leaves the memory of the receiver. -/
theorem solStep_sameOutput {e : SolEvent}
    (he : ∀ p, e = .receive p → p.packetSequenceNumber = 0)
    (h : solStep config s e = .ok (o, s')) : SameOutput s s' ∧ o.written = [] := by
  cases e with
  | read buffer =>
    obtain ⟨-, -, rfl, rfl⟩ := solStep_read_cases h
    exact ⟨⟨rfl, rfl⟩, rfl⟩
  | «break» =>
    cases h
    refine ⟨?_, rfl⟩
    rw [asynccommBreak]
    split <;> exact ⟨rfl, rfl⟩
  | write => cases h; exact ⟨⟨rfl, rfl⟩, rfl⟩
  | send t => exact solSessionSend_sameOutput h
  | receive p =>
    obtain ⟨hp, -⟩ | ⟨-, heq⟩ := solStep_receive_cases h
    · exact absurd (he p rfl) hp
    · obtain ⟨hsame, hwritten⟩ := solBmcAckOnly_sameOutput (s.receiveReset.ack p)
      rw [← heq] at hsame hwritten
      have hreset : SameOutput s s.receiveReset := ⟨rfl, rfl⟩
      exact ⟨(hreset.trans (ack_sameOutput s.receiveReset p)).trans hsame, hwritten⟩

/-- What a run writes depends on its packets with characters only. -/
theorem writtenBy_eq {trace : List (SolEvent × SolOutput)} (h : SolRun config s trace s') :
    writtenBy trace = outputOf s.lastSolOutputPacketSequenceNumber
      s.lastSolOutputAcceptedCharacterCount (dataPackets trace) := by
  induction h with
  | nil s => rfl
  | @cons s s₁ s' e o trace hstep _ ih =>
    have hcons : writtenBy ((e, o) :: trace) = o.written ++ writtenBy trace := by
      simp [writtenBy]
    rw [hcons, ih]
    by_cases he : ∀ p, e = .receive p → p.packetSequenceNumber = 0
    · obtain ⟨hsame, hwritten⟩ := solStep_sameOutput he hstep
      rw [hwritten, hsame.number, hsame.count, List.nil_append]
      cases e with
      | receive p => simp [dataPackets, he p rfl]
      | _ => rfl
    · push Not at he
      obtain ⟨p, rfl, hp⟩ := he
      obtain ⟨hwritten, hnumber, hcount, -⟩ := solStep_data hp hstep
      rw [hwritten, hnumber, hcount]
      simp only [dataPackets, if_pos hp, outputOf]
      rfl

theorem acknowledges_of_mem {trace : List (SolEvent × SolOutput)} (h : SolRun config s trace s')
    {p : BmcPacket} (hp : p.packetSequenceNumber ≠ 0) (hmem : (.receive p, o) ∈ trace) :
    Acknowledges p o := by
  induction h with
  | nil s => cases hmem
  | cons hstep _ ih =>
    rcases List.mem_cons.mp hmem with heq | hrest
    · cases heq
      exact (solStep_data hp hstep).2.2.2
    · exact ih hrest

end Step

/-! ### Runs of equal sequence numbers -/

/-- The runs of packets with one sequence number. -/
def solRuns (ps : List BmcPacket) : List (List BmcPacket) :=
  ps.splitBy fun p q => p.packetSequenceNumber == q.packetSequenceNumber

/-- The data of the longest packet. -/
def longest : List BmcPacket → List Byte
  | [] => []
  | p :: ps =>
    if p.characterData.length < (longest ps).length then longest ps else p.characterData

/-- The packets of a run carry the same data: each has a prefix of the longest. -/
def SameData (run : List BmcPacket) : Prop := ∀ p ∈ run, p.characterData <+: longest run

/-- No packet is longer than the one before it after the first that is shorter than the one before
    it; `k` is the length of the packet before these. -/
def Settles (k : ℕ) : List BmcPacket → Prop
  | [] => True
  | p :: ps =>
    (p.characterData.length < k →
      (p :: ps).Pairwise fun q r => r.characterData.length ≤ q.characterData.length) ∧
    Settles p.characterData.length ps

/-- The lengths of a run settle. -/
def RunSettles : List BmcPacket → Prop
  | [] => True
  | p :: ps => Settles p.characterData.length ps

instance decidableSettles : ∀ (k : ℕ) (ps : List BmcPacket), Decidable (Settles k ps)
  | _, [] => .isTrue trivial
  | _, p :: ps =>
    have := decidableSettles p.characterData.length ps
    inferInstanceAs (Decidable (_ ∧ _))

instance : ∀ ps : List BmcPacket, Decidable (RunSettles ps)
  | [] => .isTrue trivial
  | p :: ps => decidableSettles p.characterData.length ps

instance (run : List BmcPacket) : Decidable (SameData run) := by
  unfold SameData
  infer_instance

section Run
variable {n k : ℕ} {D : List Byte}

/-- The longest data is no longer than a bound of all. -/
theorem longest_le {m : ℕ} : ∀ {ps : List BmcPacket}, (∀ p ∈ ps, p.characterData.length ≤ m) →
    (longest ps).length ≤ m
  | [], _ => Nat.zero_le m
  | p :: ps, h => by
    rw [longest]
    split
    · exact longest_le fun q hq => h q (List.mem_cons_of_mem p hq)
    · exact h p List.mem_cons_self

theorem outputOf_cons_same {p : BmcPacket} {ps : List BmcPacket} (h : p.packetSequenceNumber = n) :
    outputOf n k (p :: ps) = (if p.characterData.length ≥ k then p.characterData.drop k else [])
      ++ outputOf n p.characterData.length ps := by
  rw [outputOf, if_pos h.symm, h]

/-- Packets that only get shorter write nothing. -/
theorem outputOf_shrinking : ∀ {ps : List BmcPacket} {k : ℕ},
    (∀ p ∈ ps, p.packetSequenceNumber = n) → (∀ p ∈ ps, p.characterData.length ≤ k) →
    (ps.Pairwise fun q r => r.characterData.length ≤ q.characterData.length) → outputOf n k ps = []
  | [], _, _, _, _ => rfl
  | p :: ps, k, hn, hk, hpair => by
    rw [List.pairwise_cons] at hpair
    have hp := hk p List.mem_cons_self
    rw [outputOf_cons_same (hn p List.mem_cons_self),
      outputOf_shrinking (fun q hq => hn q (List.mem_cons_of_mem p hq)) hpair.1 hpair.2]
    simp [hp]

/-- A settled run writes its data on from the packet before it, up to the longest. -/
theorem outputOf_settles : ∀ {ps : List BmcPacket} {k : ℕ},
    (∀ p ∈ ps, p.packetSequenceNumber = n) → (∀ p ∈ ps, p.characterData <+: D) → k ≤ D.length →
    Settles k ps → D.take k ++ outputOf n k ps = D.take (max k (longest ps).length)
  | [], k, _, _, _, _ => by simp [outputOf, longest]
  | p :: ps, k, hn, hD, hk, hsettles => by
    have hp := hD p List.mem_cons_self
    have hn' : ∀ q ∈ ps, q.packetSequenceNumber = n := fun q hq => hn q (List.mem_cons_of_mem p hq)
    by_cases hlt : p.characterData.length < k
    · -- from here on the packets only get shorter
      have hpair := hsettles.1 hlt
      have hle : ∀ q ∈ p :: ps, q.characterData.length ≤ k := by
        intro q hq
        rcases List.mem_cons.mp hq with rfl | hq
        · exact hlt.le
        · exact ((List.pairwise_cons.mp hpair).1 q hq).trans hlt.le
      rw [outputOf_shrinking hn hle hpair, max_eq_left (longest_le hle), List.append_nil]
    · have ih := outputOf_settles hn' (fun q hq => hD q (List.mem_cons_of_mem p hq)) hp.length_le
        hsettles.2
      have hdrop : D.take k ++ p.characterData.drop k = D.take p.characterData.length := by
        conv_lhs => rw [List.prefix_iff_eq_take.mp hp, List.drop_take]
        rw [← List.take_add]
        congr 1
        omega
      have hmax : max k (longest (p :: ps)).length
          = max p.characterData.length (longest ps).length := by
        rw [longest]
        split <;> omega
      rw [outputOf_cons_same (hn p List.mem_cons_self), if_pos (not_lt.mp hlt), ← List.append_assoc,
        hdrop, ih, hmax]

/-- Packets that write nothing only get shorter. -/
theorem shrinking_of_outputOf_nil : ∀ {ps : List BmcPacket} {k : ℕ},
    (∀ p ∈ ps, p.packetSequenceNumber = n) → outputOf n k ps = [] →
    (∀ p ∈ ps, p.characterData.length ≤ k) ∧
      ps.Pairwise fun q r => r.characterData.length ≤ q.characterData.length
  | [], k, _, _ => ⟨fun p hp => absurd hp List.not_mem_nil, List.Pairwise.nil⟩
  | p :: ps, k, hn, hnil => by
    rw [outputOf_cons_same (hn p List.mem_cons_self), List.append_eq_nil_iff] at hnil
    have hp : p.characterData.length ≤ k := by
      by_contra hlt
      simp [(not_le.mp hlt).le] at hnil
      omega
    obtain ⟨hps, hpair⟩ := shrinking_of_outputOf_nil
      (fun q hq => hn q (List.mem_cons_of_mem p hq)) hnil.2
    refine ⟨fun q hq => ?_, List.pairwise_cons.mpr ⟨hps, hpair⟩⟩
    rcases List.mem_cons.mp hq with rfl | hq
    · exact hp
    · exact (hps q hq).trans hp

theorem length_longest_cons (p : BmcPacket) (ps : List BmcPacket) :
    (longest (p :: ps)).length = max p.characterData.length (longest ps).length := by
  rw [longest]
  split <;> omega

/-- A run writes at least up to its longest packet, and just as much only if it settles. -/
theorem settles_of_length_le : ∀ {ps : List BmcPacket} {k : ℕ},
    (∀ p ∈ ps, p.packetSequenceNumber = n) →
    (longest ps).length ≤ k + (outputOf n k ps).length ∧
      (k + (outputOf n k ps).length ≤ max k (longest ps).length → Settles k ps)
  | [], k, _ => ⟨by simp [longest], fun _ => trivial⟩
  | p :: ps, k, hn => by
    have hn' : ∀ q ∈ ps, q.packetSequenceNumber = n := fun q hq => hn q (List.mem_cons_of_mem p hq)
    obtain ⟨hge, hle⟩ := settles_of_length_le (k := p.characterData.length) hn'
    rw [outputOf_cons_same (hn p List.mem_cons_self), List.length_append, length_longest_cons]
    by_cases hlt : p.characterData.length < k
    · rw [if_neg (not_le.mpr hlt), List.length_nil, zero_add]
      refine ⟨by omega, fun h => ?_⟩
      have hnil : outputOf n p.characterData.length ps = [] :=
        List.eq_nil_of_length_eq_zero (by omega)
      obtain ⟨hshorter, hpair⟩ := shrinking_of_outputOf_nil hn' hnil
      exact ⟨fun _ => List.pairwise_cons.mpr ⟨hshorter, hpair⟩, hle (by rw [hnil]; simp)⟩
    · rw [if_pos (not_lt.mp hlt), List.length_drop]
      exact ⟨by omega, fun h => ⟨fun h' => absurd h' hlt, hle (by omega)⟩⟩

end Run

/-! ### A whole session -/

section Session
variable {n k : ℕ}

/-- What a whole run of packets writes, the first as new data. -/
def runOutput (run : List BmcPacket) : List Byte :=
  match run with
  | [] => []
  | p :: ps => p.characterData ++ outputOf p.packetSequenceNumber p.characterData.length ps

/-- The runs of a sequence: none is empty, each has one number, and the next has another. -/
structure Runs (n : ℕ) (runs : List (List BmcPacket)) : Prop where
  ne_nil : ∀ run ∈ runs, run ≠ []
  same : ∀ run ∈ runs, ∀ p ∈ run, ∀ q ∈ run, p.packetSequenceNumber = q.packetSequenceNumber
  next : runs.IsChain fun run run' => ∀ p ∈ run, ∀ q ∈ run', p.packetSequenceNumber ≠ q.packetSequenceNumber
  first : ∀ run ∈ runs.head?, ∀ p ∈ run, p.packetSequenceNumber ≠ n

theorem outputOf_append_same (rest : List BmcPacket) : ∀ {ps : List BmcPacket} {k : ℕ},
    (∀ p ∈ ps, p.packetSequenceNumber = n) →
    ∃ k', outputOf n k (ps ++ rest) = outputOf n k ps ++ outputOf n k' rest
  | [], k, _ => ⟨k, rfl⟩
  | p :: ps, k, hn => by
    have hp := hn p List.mem_cons_self
    obtain ⟨k', hk'⟩ := outputOf_append_same rest (k := p.characterData.length)
      fun q hq => hn q (List.mem_cons_of_mem p hq)
    refine ⟨k', ?_⟩
    rw [List.cons_append, outputOf_cons_same hp, outputOf_cons_same hp, hk', List.append_assoc]

/-- The runs are written one after the other. -/
theorem outputOf_runs : ∀ {runs : List (List BmcPacket)} {n : ℕ} (k : ℕ), Runs n runs →
    outputOf n k runs.flatten = (runs.map runOutput).flatten
  | [], _, _, _ => rfl
  | [] :: _, _, _, h => absurd rfl (h.ne_nil [] List.mem_cons_self)
  | (p :: ps) :: runs, n, k, h => by
    have hsame : ∀ q ∈ ps, q.packetSequenceNumber = p.packetSequenceNumber := fun q hq =>
      h.same _ List.mem_cons_self q (List.mem_cons_of_mem p hq) p List.mem_cons_self
    have hnew : n ≠ p.packetSequenceNumber :=
      (h.first (p :: ps) rfl p List.mem_cons_self).symm
    have hrest : Runs p.packetSequenceNumber runs := by
      refine ⟨fun run hrun => h.ne_nil run (List.mem_cons_of_mem _ hrun),
        fun run hrun => h.same run (List.mem_cons_of_mem _ hrun), h.next.tail, ?_⟩
      intro run hrun q hq
      cases runs with
      | nil => cases hrun
      | cons run' runs =>
        cases hrun
        exact (h.next.rel p List.mem_cons_self q hq).symm
    obtain ⟨k', hk'⟩ := outputOf_append_same runs.flatten (k := p.characterData.length) hsame
    rw [List.flatten_cons, List.cons_append, outputOf, if_neg hnew, hk', outputOf_runs k' hrest]
    simp [runOutput]

theorem number_eq_head : ∀ {p : BmcPacket} {ps : List BmcPacket},
    (p :: ps).IsChain (fun p q => p.packetSequenceNumber == q.packetSequenceNumber) →
    ∀ q ∈ p :: ps, q.packetSequenceNumber = p.packetSequenceNumber
  | p, [], _, q, hq => by rw [List.mem_singleton.mp hq]
  | p, r :: ps, h, q, hq => by
    obtain ⟨hpr, hrest⟩ := List.isChain_cons_cons.mp h
    rcases List.mem_cons.mp hq with rfl | hq
    · rfl
    · exact (number_eq_head hrest q hq).trans (beq_iff_eq.mp hpr).symm

/-- The runs of a sequence of numbered packets, from the start of a session. -/
theorem runs_solRuns {ps : List BmcPacket} (hps : ∀ p ∈ ps, p.packetSequenceNumber ≠ 0) :
    Runs 0 (solRuns ps) := by
  have hsame : ∀ run ∈ solRuns ps, ∀ p ∈ run, ∀ q ∈ run,
      p.packetSequenceNumber = q.packetSequenceNumber := by
    intro run hrun p hp q hq
    have hchain := List.isChain_of_mem_splitBy hrun
    cases run with
    | nil => cases hp
    | cons r rs => exact (number_eq_head hchain p hp).trans (number_eq_head hchain q hq).symm
  refine ⟨fun run hrun => List.ne_nil_of_mem_splitBy hrun, hsame, ?_, ?_⟩
  · have hnext := List.isChain_getLast_head_splitBy
      (fun p q : BmcPacket => p.packetSequenceNumber == q.packetSequenceNumber) ps
    refine hnext.imp_of_mem_imp fun run run' hrun hrun' hlast p hp q hq => ?_
    obtain ⟨hne, hne', hdiff⟩ := hlast
    rw [hsame run hrun p hp _ (List.getLast_mem hne), hsame run' hrun' q hq _ (List.head_mem hne')]
    simpa using hdiff
  · intro run hrun p hp
    apply hps
    rw [← List.flatten_splitBy (fun p q => p.packetSequenceNumber == q.packetSequenceNumber) ps]
    exact List.mem_flatten.mpr ⟨run, List.mem_of_mem_head? hrun, hp⟩

theorem dataPackets_numbered {trace : List (SolEvent × SolOutput)} {p : BmcPacket}
    (hp : p ∈ dataPackets trace) : p.packetSequenceNumber ≠ 0 := by
  induction trace with
  | nil => cases hp
  | cons step trace ih =>
    obtain ⟨e, o⟩ := step
    cases e with
    | receive q =>
      rw [dataPackets] at hp
      split at hp
      · rcases List.mem_cons.mp hp with rfl | hp
        · assumption
        · exact ih hp
      · exact ih hp
    | _ => exact ih hp

/-- A settled run of the same data writes its longest packet. -/
theorem runOutput_eq {run : List BmcPacket} (hdata : SameData run) (hsettles : RunSettles run)
    (hsame : ∀ p ∈ run, ∀ q ∈ run, p.packetSequenceNumber = q.packetSequenceNumber) :
    runOutput run = longest run := by
  cases run with
  | nil => rfl
  | cons p ps =>
    have hp := hdata p List.mem_cons_self
    have hps := outputOf_settles
      (fun q hq => hsame q (List.mem_cons_of_mem p hq) p List.mem_cons_self)
      (fun q hq => hdata q (List.mem_cons_of_mem p hq)) hp.length_le hsettles
    rw [← length_longest_cons, List.take_length, ← List.prefix_iff_eq_take.mp hp] at hps
    exact hps

/-- Any run writes at least as much as its longest packet, and just as much only if it settles. -/
theorem longest_le_runOutput {run : List BmcPacket}
    (hsame : ∀ p ∈ run, ∀ q ∈ run, p.packetSequenceNumber = q.packetSequenceNumber) :
    (longest run).length ≤ (runOutput run).length ∧
      ((runOutput run).length ≤ (longest run).length → RunSettles run) := by
  cases run with
  | nil => exact ⟨le_rfl, fun _ => trivial⟩
  | cons p ps =>
    obtain ⟨hge, hle⟩ := settles_of_length_le (k := p.characterData.length)
      fun q hq => hsame q (List.mem_cons_of_mem p hq) p List.mem_cons_self
    simp only [runOutput, length_longest_cons, List.length_append]
    exact ⟨by omega, hle⟩

/-- Many runs write at least as much as their longest packets, and just as much only if all
    settle. -/
theorem settles_of_flatten_length : ∀ {runs : List (List BmcPacket)},
    (∀ run ∈ runs, ∀ p ∈ run, ∀ q ∈ run, p.packetSequenceNumber = q.packetSequenceNumber) →
    (runs.map longest).flatten.length ≤ (runs.map runOutput).flatten.length ∧
      ((runs.map runOutput).flatten.length ≤ (runs.map longest).flatten.length →
        ∀ run ∈ runs, RunSettles run)
  | [], _ => ⟨le_rfl, fun _ run hrun => by cases hrun⟩
  | run :: runs, hsame => by
    obtain ⟨hge, hle⟩ := longest_le_runOutput (hsame run List.mem_cons_self)
    obtain ⟨hges, hles⟩ := settles_of_flatten_length
      fun run' hrun' => hsame run' (List.mem_cons_of_mem run hrun')
    simp only [List.map_cons, List.flatten_cons, List.length_append]
    refine ⟨by omega, fun h run' hrun' => ?_⟩
    rcases List.mem_cons.mp hrun' with rfl | hrun'
    · exact hle (by omega)
    · exact hles (by omega) run' hrun'

/-- The console output of a session, of which the BMC sends retransmissions of the same data, is
    delivered exactly once, and every packet is acknowledged with its own length, if and only if
    every run of retransmissions settles. -/
theorem output_exactlyOnce_iff {config : SolConfig} {sessionSequenceNumber maxSize : ℕ}
    {trace : List (SolEvent × SolOutput)} {s : SolSession}
    (h : SolRun config (.setup sessionSequenceNumber maxSize) trace s)
    (hdata : ∀ run ∈ solRuns (dataPackets trace), SameData run) :
    (writtenBy trace = ((solRuns (dataPackets trace)).map longest).flatten ∧
      ∀ p o, (.receive p, o) ∈ trace → p.packetSequenceNumber ≠ 0 → Acknowledges p o) ↔
    ∀ run ∈ solRuns (dataPackets trace), RunSettles run := by
  have hruns : Runs 0 (solRuns (dataPackets trace)) := runs_solRuns fun _ => dataPackets_numbered
  have hwritten : writtenBy trace = ((solRuns (dataPackets trace)).map runOutput).flatten := by
    rw [writtenBy_eq h, ← outputOf_runs 0 hruns, solRuns, List.flatten_splitBy]
    rfl
  rw [hwritten]
  constructor
  · rintro ⟨heq, -⟩
    exact (settles_of_flatten_length hruns.same).2 (by rw [heq])
  · intro hsettles
    refine ⟨?_, fun p o hmem hp => acknowledges_of_mem h hp hmem⟩
    congr 1
    exact List.map_congr_left fun run hrun =>
      runOutput_eq (hdata run hrun) (hsettles run hrun) (hruns.same run hrun)

end Session

/-! ### A retransmission that is shorter, and then one that is longer -/

/-- A configuration without serial keepalives. -/
def solConfig : SolConfig := ⟨false, false, false, 10⟩

/-- A packet of the BMC with characters. -/
def bmcData (packetSequenceNumber : ℕ) (characterData : List Byte) : SolEvent :=
  .receive ⟨packetSequenceNumber, 0, 0, false, characterData⟩

/-- Number 1 with 3, 5 and 2 characters, then number 2. -/
theorem output_exactlyOnce_settled : ∃ trace s, SolRun solConfig (.setup 0 255) trace s ∧
    writtenBy trace = [97, 98, 99, 100, 101, 102] ∧
    (writtenBy trace = ((solRuns (dataPackets trace)).map longest).flatten ∧
      ∀ p o, (.receive p, o) ∈ trace → p.packetSequenceNumber ≠ 0 → Acknowledges p o) := by
  let es := [bmcData 1 [97, 98, 99], bmcData 1 [97, 98, 99, 100, 101], bmcData 1 [97, 98],
    bmcData 2 [102]]
  have hrun : SolRun solConfig (.setup 0 255) _ _ := solRun_of_solSteps (l := es) rfl
  exact ⟨_, _, hrun, by decide, (output_exactlyOnce_iff hrun (by decide)).mpr (by decide)⟩

/-- Number 1 with 5, 3 and again 5 characters. -/
theorem output_repeated_of_regrown : ∃ trace s, SolRun solConfig (.setup 0 255) trace s ∧
    (∀ run ∈ solRuns (dataPackets trace), SameData run) ∧
    writtenBy trace = [97, 98, 99, 100, 101, 100, 101] ∧
    ¬ (writtenBy trace = ((solRuns (dataPackets trace)).map longest).flatten ∧
      ∀ p o, (.receive p, o) ∈ trace → p.packetSequenceNumber ≠ 0 → Acknowledges p o) := by
  let es := [bmcData 1 [97, 98, 99, 100, 101], bmcData 1 [97, 98, 99],
    bmcData 1 [97, 98, 99, 100, 101]]
  have hrun : SolRun solConfig (.setup 0 255) _ _ := solRun_of_solSteps (l := es) rfl
  refine ⟨_, _, hrun, by decide, by decide, fun h => ?_⟩
  exact absurd h.1 (by decide)

end FreeIpmi.Console
