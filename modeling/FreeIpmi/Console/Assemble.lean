import FreeIpmi.Console.Steps

/-! The assertions of `ipmiconsole_sol_packet_assemble`.

    The number of characters in a new packet is cut to `max_sol_character_send_size`, unless a break
    is due: then it is cut to the number of characters before the break, which may be the whole
    ring buffer. `sol_input_character_data` has room for 255 characters and one more, so such a
    packet also runs past its end. -/

namespace FreeIpmi.Console

/-- The assertions about the arguments of `ipmiconsole_sol_packet_assemble`, and the size of the
    array that the characters come from. -/
structure AssembleOk (maxSolCharacterSendSize : ℕ) (p : SolPacket) : Prop where
  size : p.characterData.length ≤ maxSolCharacterSendSize
  array : p.characterData.length ≤ ipmiconsoleMaxCharacterData
  ackOnly : p.packetSequenceNumber = 0 →
    p.packetAckNackSequenceNumber ≠ 0 ∧ p.characterData.length = 0

/-- Of the characters at hand, no more than fit one packet stand before a break, if the session is
    free to send some. -/
def BreakFits (s : SolSession) : SolEvent → Prop
  | .send t => (s.atSend (.send t)).solInputWaitingForAck = 0 →
      min (s.atSend (.send t)).bytesBeforeBreak (s.atSend (.send t)).consoleRemoteConsoleToBmc.length
        ≤ s.maxSolCharacterSendSize
  | .receive p => (s.atSend (.receive p)).solInputWaitingForAck = 0 →
      min (s.atSend (.receive p)).bytesBeforeBreak
        (s.atSend (.receive p)).consoleRemoteConsoleToBmc.length ≤ s.maxSolCharacterSendSize
  | _ => True

/-- The activate payload response bounds the size by 1 and 255. -/
theorem checkPayloadSizesLegitimate_bounds {ignore : Bool} {i o m : ℕ}
    (h : checkPayloadSizesLegitimate ignore i o = some m) :
    1 ≤ m ∧ m ≤ ipmiconsoleMaxCharacterData := by
  cases ignore with
  | true =>
    cases h
    decide
  | false =>
    simp only [checkPayloadSizesLegitimate, Bool.not_false, if_true] at h
    split at h
    · rename_i hsizes
      cases h
      simp only [ipmiconsoleMinCharacterData, ipmiconsoleMaxCharacterData] at hsizes ⊢
      omega
    · cases h

/-- What the packets of a session rest on: the characters kept for a retransmission fit, and the
    packet that waits has a number. -/
structure Fits (m : ℕ) (s : SolSession) : Prop where
  max : s.maxSolCharacterSendSize = m
  data : s.solInputCharacterData.length ≤ m
  number : s.solInputWaitingForAck ≠ 0 → s.solInputPacketSequenceNumber ≠ 0

section Step
variable {config : SolConfig} {m : ℕ} {s s' : SolSession} {o : SolOutput}

theorem nextPacketSequenceNumber_ne_zero (n : ℕ) : nextPacketSequenceNumber n ≠ 0 := by
  rw [nextPacketSequenceNumber]
  split <;> omega

theorem Fits.setup {m : ℕ} (n : ℕ) : Fits m (.setup n m) :=
  ⟨rfl, Nat.zero_le m, fun h => absurd rfl h⟩

theorem Fits.ack (h : Fits m s) (p : BmcPacket) : Fits m (s.ack p) := by
  rw [SolSession.ack]
  split
  · split
    · exact ⟨h.max, Nat.zero_le m, fun hne => absurd rfl hne⟩
    · exact ⟨h.max, Nat.zero_le m, fun hne => absurd rfl hne⟩
  · exact h

/-- A packet of new characters is good if and only if they are cut to the size of one. -/
theorem newCharacterData_assembleOk_iff (hm : m ≤ ipmiconsoleMaxCharacterData) (a k : ℕ) :
    AssembleOk m (sendSolPacketWithCharacterData s a k false).1.packet ↔
      min s.maxCharacterSendSize s.consoleRemoteConsoleToBmc.length ≤ m := by
  have hlen : (sendSolPacketWithCharacterData s a k false).1.packet.characterData.length
      = min s.maxCharacterSendSize s.consoleRemoteConsoleToBmc.length := List.length_take
  constructor
  · intro h
    rw [← hlen]
    exact h.size
  · intro h
    rw [← hlen] at h
    exact ⟨h, h.trans hm, fun h0 => absurd h0 (nextPacketSequenceNumber_ne_zero _)⟩

theorem Fits.newCharacterData (h : Fits m s) (a k : ℕ)
    (hsize : min s.maxCharacterSendSize s.consoleRemoteConsoleToBmc.length ≤ m) :
    Fits m (sendSolPacketWithCharacterData s a k false).2 := by
  refine ⟨h.max, ?_, fun _ => nextPacketSequenceNumber_ne_zero _⟩
  exact le_trans (le_of_eq List.length_take) hsize

/-- Cut to the characters before the break, or to the size of a packet. -/
theorem min_maxCharacterSendSize_le_iff (h : Fits m s) :
    min s.maxCharacterSendSize s.consoleRemoteConsoleToBmc.length ≤ m ↔
      min s.bytesBeforeBreak s.consoleRemoteConsoleToBmc.length ≤ m := by
  rw [SolSession.maxCharacterSendSize, h.max]
  split
  · rename_i h0
    simp [h0]
  · exact Iff.rfl

theorem generateBreak_assembleOk (again : Bool) (h : Fits m s) (hm : m ≤ ipmiconsoleMaxCharacterData)
    (hagain : again = true → s.solInputWaitingForAck ≠ 0) :
    AssembleOk m (sendSolPacketGenerateBreak s again).1.packet ∧
      Fits m (sendSolPacketGenerateBreak s again).2 := by
  cases again with
  | false =>
    exact ⟨⟨Nat.zero_le m, Nat.zero_le _, fun h0 => absurd h0 (nextPacketSequenceNumber_ne_zero _)⟩,
      ⟨h.max, Nat.zero_le m, fun _ => nextPacketSequenceNumber_ne_zero _⟩⟩
  | true =>
    have hnumber := h.number (hagain rfl)
    exact ⟨⟨h.data, h.data.trans hm, fun h0 => absurd h0 hnumber⟩, ⟨h.max, h.data, fun _ => hnumber⟩⟩

theorem again_assembleOk (h : Fits m s) (hm : m ≤ ipmiconsoleMaxCharacterData)
    (hwait : s.solInputWaitingForAck ≠ 0) :
    AssembleOk m (sendSolPacketAgain s).1.packet ∧ Fits m (sendSolPacketAgain s).2 := by
  rw [sendSolPacketAgain]
  split
  · have hnumber := h.number hwait
    exact ⟨⟨h.data, h.data.trans hm, fun h0 => absurd h0 hnumber⟩, ⟨h.max, h.data, fun _ => hnumber⟩⟩
  · exact generateBreak_assembleOk true h hm fun _ => hwait

theorem Fits.retimed (h : Fits m s) (hretimed : Retimed config s s') : Fits m s' := by
  obtain ⟨hnumber, hrest⟩ := hretimed
  have hne : s.solInputWaitingForAck ≠ 0 → s'.solInputPacketSequenceNumber ≠ 0 := by
    intro hwait
    rcases hnumber with hsame | ⟨-, hnext⟩
    · rw [hsame]; exact h.number hwait
    · rw [hnext]; exact nextPacketSequenceNumber_ne_zero _
  rw [hrest]
  exact ⟨h.max, h.data, hne⟩

/-- What a step sends is good, and the session still fits. -/
structure StepFits (m : ℕ) (o : SolOutput) (s' : SolSession) : Prop where
  sent : ∀ sent, o.sent = some sent → AssembleOk m sent.packet
  fits : Fits m s'

theorem StepFits.of_none (h : Fits m s') (hnone : o.sent = none) : StepFits m o s' := by
  refine ⟨fun sent hsent => ?_, h⟩
  rw [hnone] at hsent
  cases hsent

theorem StepFits.of_some {sent : Sent} (hsent : o.sent = some sent)
    (h : AssembleOk m sent.packet ∧ Fits m s') : StepFits m o s' :=
  ⟨fun _ hsent' => Option.some.inj (hsent.symm.trans hsent') ▸ h.1, h.2⟩

/-- New characters are good if few enough stand before the break. -/
theorem StepFits.of_newCharacterData (h : Fits m s) (hm : m ≤ ipmiconsoleMaxCharacterData) {a k : ℕ}
    (hfits : min s.bytesBeforeBreak s.consoleRemoteConsoleToBmc.length ≤ m)
    (hsent : o.sent = some (sendSolPacketWithCharacterData s a k false).1)
    (hs' : s' = (sendSolPacketWithCharacterData s a k false).2) : StepFits m o s' := by
  have hsize := (min_maxCharacterSendSize_le_iff h).mpr hfits
  exact .of_some hsent ⟨(newCharacterData_assembleOk_iff hm a k).mpr hsize,
    hs' ▸ h.newCharacterData a k hsize⟩

/-- ... and only then. -/
theorem breakFits_of_newCharacterData (h : Fits m s) (hm : m ≤ ipmiconsoleMaxCharacterData) {a k : ℕ}
    (hsent : o.sent = some (sendSolPacketWithCharacterData s a k false).1)
    (hok : ∀ sent, o.sent = some sent → AssembleOk m sent.packet) :
    min s.bytesBeforeBreak s.consoleRemoteConsoleToBmc.length ≤ m :=
  (min_maxCharacterSendSize_le_iff h).mp ((newCharacterData_assembleOk_iff hm a k).mp (hok _ hsent))

theorem min_le_of_nothing (h : s.consoleRemoteConsoleToBmc = [] ∨ s.bytesBeforeBreak = 0) :
    min s.bytesBeforeBreak s.consoleRemoteConsoleToBmc.length ≤ m := by
  rcases h with h | h <;> simp [h]

theorem solSessionSend_fits (h : Fits m s) (hm : m ≤ ipmiconsoleMaxCharacterData) {t : SolTimeouts}
    (hstep : solSessionSend config s t = .ok (o, s')) (hfits : BreakFits s (.send t)) :
    StepFits m o s' := by
  obtain ⟨hwait, -, s₁, hretimed, rfl, rfl⟩ | ⟨hwait, sent, hsent, rfl⟩ | ⟨-, -, heq⟩ :=
    solSessionSend_cases hstep
  · have hwait₁ : s₁.solInputWaitingForAck ≠ 0 := by rw [hretimed.rest]; exact hwait
    exact .of_some rfl (again_assembleOk (h.retimed hretimed) hm hwait₁)
  · obtain ⟨-, -, heq⟩ | ⟨-, -, heq⟩ | ⟨-, -, heq⟩ := sendSolCharacterDataOrBreak_cases s <;>
      rw [hsent] at heq <;> cases heq
    · have hsize := hfits hwait
      rw [h.max] at hsize
      exact .of_newCharacterData h hm hsize rfl rfl
    · exact .of_some rfl (generateBreak_assembleOk false h hm (by rintro ⟨⟩))
  · obtain ⟨hdue, hsend⟩ | ⟨-, hsend | hsend⟩ := solSessionKeepalive_cases config s t <;>
      rw [← heq] at hsend <;> cases hsend
    · have hkeep : Fits m (s.enterKeepalive config) := ⟨h.max, h.data, h.number⟩
      exact .of_newCharacterData hkeep hm (min_le_of_nothing (Or.inr hdue.idle.bytes)) rfl rfl
    · exact .of_none ⟨h.max, h.data, h.number⟩ rfl
    · exact .of_none h rfl

theorem solStep_fits (h : Fits m s) (hm : m ≤ ipmiconsoleMaxCharacterData) {e : SolEvent}
    (hstep : solStep config s e = .ok (o, s')) (hfits : BreakFits s e) : StepFits m o s' := by
  cases e with
  | read buffer =>
    obtain ⟨-, -, rfl, rfl⟩ := solStep_read_cases hstep
    exact .of_none ⟨h.max, h.data, h.number⟩ rfl
  | «break» =>
    cases hstep
    refine .of_none ?_ rfl
    rw [asynccommBreak]
    split
    · exact ⟨h.max, h.data, h.number⟩
    · exact h
  | write => cases hstep; exact .of_none ⟨h.max, h.data, h.number⟩ rfl
  | send t => exact solSessionSend_fits h hm hstep hfits
  | receive p =>
    have hreset : Fits m s.receiveReset := ⟨h.max, h.data, h.number⟩
    have hack := hreset.ack p
    simp only [BreakFits, SolSession.atSend, h.max] at hfits
    obtain ⟨hp, hdata⟩ | ⟨-, heq⟩ := solStep_receive_cases hstep
    · obtain ⟨-, ⟨hwait, -, rfl, rfl⟩ | ⟨-, rfl, rfl⟩⟩ := solBmcCharacterData_cases hdata
      · have hremember : Fits m ((s.receiveReset.ack p).remember p) :=
          ⟨hack.max, hack.data, hack.number⟩
        exact .of_newCharacterData hremember hm (hfits hwait) rfl rfl
      · exact .of_some rfl ⟨⟨Nat.zero_le m, Nat.zero_le _, fun _ => ⟨hp, rfl⟩⟩,
          ⟨hack.max, hack.data, hack.number⟩⟩
    · obtain ⟨-, hwait, -, hsend⟩ | ⟨-, -, hsend⟩ | ⟨-, -, hsend⟩ :=
        solBmcAckOnly_cases (s.receiveReset.ack p) <;> rw [← heq] at hsend <;> cases hsend
      · exact .of_newCharacterData hack hm (hfits hwait) rfl rfl
      · exact .of_some rfl (generateBreak_assembleOk false hack hm (by rintro ⟨⟩))
      · exact .of_none hack rfl

/-- A step whose packet is good had few enough characters before the break. -/
theorem breakFits_of_solStep (h : Fits m s) (hm : m ≤ ipmiconsoleMaxCharacterData) {e : SolEvent}
    (hstep : solStep config s e = .ok (o, s'))
    (hok : ∀ sent, o.sent = some sent → AssembleOk m sent.packet) : BreakFits s e := by
  cases e with
  | read buffer => trivial
  | «break» => trivial
  | write => trivial
  | send t =>
    intro hwait
    rw [h.max]
    obtain ⟨hne, -⟩ | ⟨-, sent, hsent, rfl⟩ | ⟨-, hidle, -⟩ := solSessionSend_cases hstep
    · exact absurd hwait hne
    · obtain ⟨-, -, heq⟩ | ⟨-, hdue, heq⟩ | ⟨-, -, heq⟩ := sendSolCharacterDataOrBreak_cases s <;>
        rw [hsent] at heq <;> cases heq
      · exact breakFits_of_newCharacterData (o := ⟨some _, [], []⟩) h hm rfl hok
      · exact min_le_of_nothing hdue
    · exact min_le_of_nothing (Or.inl (hidle hwait).1)
  | receive p =>
    have hreset : Fits m s.receiveReset := ⟨h.max, h.data, h.number⟩
    have hack := hreset.ack p
    simp only [BreakFits, SolSession.atSend, h.max]
    intro hwait
    obtain ⟨hp, hdata⟩ | ⟨-, heq⟩ := solStep_receive_cases hstep
    · obtain ⟨-, ⟨-, -, rfl, -⟩ | ⟨hidle, -⟩⟩ := solBmcCharacterData_cases hdata
      · have hremember : Fits m ((s.receiveReset.ack p).remember p) :=
          ⟨hack.max, hack.data, hack.number⟩
        have hsize := breakFits_of_newCharacterData (o := ⟨some _, _, []⟩) hremember hm rfl hok
        exact hsize
      · rcases hidle with hne | hbuf
        · exact absurd hwait hne
        · exact min_le_of_nothing (Or.inl hbuf)
    · obtain ⟨-, -, -, hsend⟩ | ⟨-, hdue, hsend⟩ | ⟨hidle, -, -⟩ :=
        solBmcAckOnly_cases (s.receiveReset.ack p)
      · rw [← heq] at hsend
        cases hsend
        exact breakFits_of_newCharacterData (o := ⟨some _, [], []⟩) hack hm rfl hok
      · rcases hdue with hbuf | hne | hbytes
        · exact min_le_of_nothing (Or.inl hbuf)
        · exact absurd hwait hne
        · exact min_le_of_nothing (Or.inr hbytes)
      · rcases hidle with hbuf | hne
        · exact min_le_of_nothing (Or.inl hbuf)
        · exact absurd hwait hne

end Step

/-! ### Whole sessions -/

/-- In every session, every packet is good if and only if, whenever the session is free to send
    characters, no more than fit one packet stand before a break. -/
theorem assembleOk_iff_breakFits {config : SolConfig} {ignore : Bool} {i o n m : ℕ}
    {trace : List (SolEvent × SolOutput)} {s : SolSession}
    (hm : checkPayloadSizesLegitimate ignore i o = some m)
    (h : SolRun config (.setup n m) trace s) :
    (∀ step ∈ trace, ∀ sent, step.2.sent = some sent → AssembleOk m sent.packet) ↔
      EachStep config BreakFits (.setup n m) trace := by
  have hmax := (checkPayloadSizesLegitimate_bounds hm).2
  have hfits : Fits m (.setup n m) := .setup n
  generalize SolSession.setup n m = s₀ at h hfits
  induction h with
  | nil s => exact ⟨fun _ => trivial, fun _ step hstep => by cases hstep⟩
  | @cons s s₁ s' e out trace hstep _ ih =>
    constructor
    · intro hok
      have hbreak := breakFits_of_solStep hfits hmax hstep (hok (e, out) List.mem_cons_self)
      refine ⟨hbreak, fun o' s₂ hstep' => ?_⟩
      cases hstep.symm.trans hstep'
      exact (ih (solStep_fits hfits hmax hstep hbreak).fits).mp
        fun step hmem => hok step (List.mem_cons_of_mem _ hmem)
    · rintro ⟨hbreak, hrest⟩ step hmem sent hsent
      have hfit := solStep_fits hfits hmax hstep hbreak
      rcases List.mem_cons.mp hmem with rfl | hmem
      · exact hfit.sent sent hsent
      · exact (ih hfit.fits).mpr (hrest out s₁ hstep) step hmem sent hsent

/-- Two characters, of which two fit in a packet, then a break and a third. -/
theorem assembleOk_iff_breakFits_sample : ∃ trace s, SolRun ⟨false, false, false, 10⟩ (.setup 0 2) trace s ∧
    trace.map Prod.fst = [.read [97, 98], .break, .read [99], .send default] ∧
    ((∀ step ∈ trace, ∀ sent, step.2.sent = some sent → AssembleOk 2 sent.packet) ↔
      EachStep ⟨false, false, false, 10⟩ BreakFits (.setup 0 2) trace) := by
  have hrun : SolRun ⟨false, false, false, 10⟩ (.setup 0 2) _ _ :=
    solRun_of_solSteps (l := [.read [97, 98], .break, .read [99], .send default]) rfl
  have hm : checkPayloadSizesLegitimate false 6 6 = some 2 := rfl
  exact ⟨_, _, hrun, rfl, assembleOk_iff_breakFits hm hrun⟩

set_option maxRecDepth 4000 in
/-- 300 characters and a break: the packet has all 300. -/
theorem not_assembleOk_of_break : ∃ trace s, checkPayloadSizesLegitimate false 259 259 = some 255 ∧
    SolRun ⟨false, false, false, 10⟩ (.setup 0 255) trace s ∧
    ¬ ∀ step ∈ trace, ∀ sent, step.2.sent = some sent → AssembleOk 255 sent.packet := by
  have hrun : SolRun ⟨false, false, false, 10⟩ (.setup 0 255) _ _ :=
    solRun_of_solSteps (l := [.read (List.replicate 300 97), .break, .send default]) rfl
  refine ⟨_, _, rfl, hrun, fun hok => ?_⟩
  have hpacket := (hok _ (List.mem_of_mem_getLast? rfl) _ rfl).size
  exact absurd hpacket (by decide)

end FreeIpmi.Console
