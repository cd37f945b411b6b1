import FreeIpmi.Api.Session
import FreeIpmi.Ipmb.Bridge

/-! What a call receives while it waits (`api_lan_cmd_wrapper` and `api_lan_2_0_cmd_wrapper`).

    In a round of its loop a call is out of time, cannot receive, gets nothing, or gets a datagram. A
    datagram is taken apart and verified, and what these two functions return says which of the rounds
    of a session it is. So the calls of both versions are the loop over the rounds that their datagrams
    make.

    A call fails for a datagram when one of the two functions fails for it. Where a condition says when
    they do not, no datagram makes the call fail exactly when each one that is taken meets the
    condition (`Receiver.Sound.failsLocally_iff`). -/

namespace FreeIpmi.Api
open Ipmb

/-! ### The end of a loop -/

/-- The rounds after which the loop goes on. -/
def Round.goesOn (skipRetransmit : Bool) : Round → Bool
  | .resend o => !skipRetransmit && o == .sent
  | .unparsed => true
  | .ignored => true
  | _ => false

/-- The round at which the loop ends. -/
def lastRound (skipRetransmit : Bool) : List Round → Round
  | [] => .sessionTimeout
  | r :: rounds => if r.goesOn skipRetransmit then lastRound skipRetransmit rounds else r

/-- How the loop ends at its last round. -/
def Round.exit (v : Version) (skipRetransmit : Bool) : Round → Exit
  | .unassembleError => .left
  | .resend _ => .cleanup skipRetransmit
  | .accepted clock => if clock then .cleanup true else v.clockError
  | _ => .cleanup false

/-- What the wrapper returns after its loop: whether it is 0. -/
def Exit.succeeds : Exit → Bool
  | .left => false
  | .cleanup rv => rv

/-- A round that ends the loop for the session timeout, or for an error in sending, in receiving or in
    reading the clock. -/
def Round.Local : Round → Prop
  | .sessionTimeout => True
  | .receiveError => True
  | .resend o => o ≠ .sent
  | .accepted clock => clock = false
  | _ => False

/-- The call fails only for the session timeout or for such an error. -/
def Call.FailsLocally (v : Version) (c : Call) : Prop :=
  ∀ s, (cmdWrapper v c s).2 = false →
    c.early = true ∨ c.first ≠ .sent ∨ (lastRound c.skipRetransmit c.rounds).Local

section Loop
variable {v : Version} {skipRetransmit : Bool} {c : Call}

theorem cmdLoop_exit (v : Version) (skipRetransmit : Bool) (rounds : List Round) (s : Counters) :
    (cmdLoop v skipRetransmit rounds s).2
      = (lastRound skipRetransmit rounds).exit v skipRetransmit := by
  induction rounds generalizing s with
  | nil => rfl
  | cons r rounds ih =>
    cases r with
    | resend o =>
      cases skipRetransmit with
      | true => rfl
      | false =>
        cases o with
        | failed => rfl
        | sent => exact ih _
        | late => rfl
    | unparsed => exact ih s
    | ignored => exact ih s
    | _ => rfl

/-- The loop never ends at a round after which it goes on. -/
theorem lastRound_ends (skipRetransmit : Bool) (rounds : List Round) :
    (lastRound skipRetransmit rounds).goesOn skipRetransmit = false := by
  induction rounds with
  | nil => rfl
  | cons r rounds ih =>
    rw [lastRound]
    split_ifs with hgoes
    · exact ih
    · exact Bool.eq_false_iff.mpr hgoes

/-- The loop does not end at a packet that a function fails for. -/
def SkipsPackets (skipRetransmit : Bool) (rounds : List Round) : Prop :=
  lastRound skipRetransmit rounds ≠ .unassembleError ∧ lastRound skipRetransmit rounds ≠ .verifyError

/-- Of the rounds that end a loop, only those with a packet that a function fails for make the call fail
    for another reason. -/
theorem Round.local_iff (v : Version) {r : Round} (hends : r.goesOn skipRetransmit = false) :
    ((r.exit v skipRetransmit).succeeds = false → r.Local) ↔ r ≠ .unassembleError ∧ r ≠ .verifyError := by
  cases r with
  | sessionTimeout => exact iff_of_true (fun _ => trivial) ⟨nofun, nofun⟩
  | receiveError => exact iff_of_true (fun _ => trivial) ⟨nofun, nofun⟩
  | resend o =>
    refine iff_of_true (fun hfails hsent => ?_) ⟨nofun, nofun⟩
    have hkept : skipRetransmit = false := hfails
    rw [hkept, hsent] at hends
    cases hends
  | unassembleError => exact iff_of_false (fun h => h rfl) fun h => h.1 rfl
  | unparsed => cases hends
  | verifyError => exact iff_of_false (fun h => h rfl) fun h => h.2 rfl
  | ignored => cases hends
  | accepted clock =>
    refine iff_of_true (fun hfails => ?_) ⟨nofun, nofun⟩
    cases clock with
    | false => rfl
    | true => cases hfails

/-- A call whose first request is out returns what its loop does. -/
theorem cmdWrapper_returns (hearly : c.early = false) (hfirst : c.first = .sent) (s : Counters) :
    (cmdWrapper v c s).2
      = ((lastRound c.skipRetransmit c.rounds).exit v c.skipRetransmit).succeeds := by
  have hexit := cmdLoop_exit v c.skipRetransmit c.rounds (s.cmdSend c.first)
  rw [cmdWrapper, hearly, if_neg Bool.false_ne_true, if_pos hfirst, ← hexit]
  rcases cmdLoop v c.skipRetransmit c.rounds (s.cmdSend c.first) with ⟨s', _ | rv⟩
  · rfl
  · rfl

theorem failsLocally_iff :
    c.FailsLocally v ↔ (c.early = false → c.first = .sent → SkipsPackets c.skipRetransmit c.rounds) := by
  have hends := Round.local_iff v (lastRound_ends c.skipRetransmit c.rounds)
  constructor
  · intro h hearly hfirst
    refine hends.mp fun hfails => ?_
    rcases h (.start 0 0) ((cmdWrapper_returns hearly hfirst _).trans hfails) with he | hf | hlocal
    · rw [hearly] at he
      cases he
    · exact absurd hfirst hf
    · exact hlocal
  · intro h s hfails
    by_cases hearly : c.early = true
    · exact Or.inl hearly
    · by_cases hfirst : c.first = .sent
      · have hearly := Bool.eq_false_iff.mpr hearly
        rw [cmdWrapper_returns hearly hfirst] at hfails
        exact Or.inr (Or.inr (hends.mpr (h hearly hfirst) hfails))
      · exact Or.inr (Or.inl hfirst)

end Loop

/-! ### Datagrams -/

/-- What the surroundings do in one round of the loop. -/
inductive Event where
  -- the session has timed out, or the clock cannot be read
  | sessionTimeout
  | receiveError
  -- the datagram, without bytes if none came in time; how the request is sent again when there are no
  -- bytes, and whether the clock can be read when the datagram is the reply
  | received (data : List Byte) (again : Send) (clock : Bool)

/-- How a version of the call takes what it receives, with the state that this needs. -/
structure Receiver (σ : Type) where
  /-- What the receiving function does before it waits. -/
  clear : σ → σ
  /-- The counters for sending again. -/
  advance : σ → σ
  unassemble : List Byte → σ → Except Stop (Bool × σ)
  verify : List Byte → σ → Except Stop Bool × σ

section Receiver
variable {σ : Type} (rcv : Receiver σ)

/-- A datagram is taken apart, and verified if it could be. -/
def Receiver.taken (pkt : List Byte) (clock : Bool) (s : σ) : Round × σ :=
  match rcv.unassemble pkt s with
  | .error _ => (.unassembleError, s)
  | .ok (false, s) => (.unparsed, s)
  | .ok (true, s) =>
    match rcv.verify pkt s with
    | (.error _, s) => (.verifyError, s)
    | (.ok false, s) => (.ignored, s)
    | (.ok true, s) => (.accepted clock, s)

/-- The part of a datagram that the buffer has room for. -/
def inBuffer (data : List Byte) : List Byte := data.take ipmiMaxPktLen

/-- The round that an event makes. A datagram without bytes is taken for none. -/
def Receiver.roundOf : Event → σ → Round × σ
  | .sessionTimeout, s => (.sessionTimeout, s)
  | .receiveError, s => (.receiveError, rcv.clear s)
  | .received data again clock, s =>
    if (inBuffer data).length = 0 then (.resend again, rcv.advance (rcv.clear s))
    else rcv.taken (inBuffer data) clock (rcv.clear s)

def Receiver.roundsOf : List Event → σ → List Round
  | [], _ => []
  | e :: events, s => (rcv.roundOf e s).1 :: Receiver.roundsOf events (rcv.roundOf e s).2

/-- A datagram that is taken when the event occurs. -/
def Event.Takes : Event → List Byte → Prop
  | .received data _ _, pkt => inBuffer data = pkt ∧ pkt ≠ []
  | _, _ => False

/-- Every datagram meets the condition in the state in which the loop takes it. -/
def Receiver.Along (skipRetransmit : Bool) (C : List Byte → σ → Prop) : List Event → σ → Prop
  | [], _ => True
  | e :: events, s => (∀ pkt, e.Takes pkt → C pkt (rcv.clear s)) ∧
      ((rcv.roundOf e s).1.goesOn skipRetransmit = true →
        Receiver.Along skipRetransmit C events (rcv.roundOf e s).2)

/-- None of the two functions fails for the datagram. -/
def Receiver.Answers (pkt : List Byte) (s : σ) : Prop :=
  ∃ parsed s', rcv.unassemble pkt s = .ok (parsed, s') ∧
    (parsed = true → ∃ right, (rcv.verify pkt s').1 = .ok right)

/-- What holds of the state is kept, and the condition says when the functions do not fail. -/
structure Receiver.Sound (I : σ → Prop) (C : List Byte → σ → Prop) : Prop where
  clear : ∀ s, I s → I (rcv.clear s)
  advance : ∀ s, I s → I (rcv.advance s)
  unassemble : ∀ pkt s parsed s', I s → rcv.unassemble pkt s = .ok (parsed, s') → I s'
  verify : ∀ pkt s, I s → I (rcv.verify pkt s).2
  answers_iff : ∀ pkt s, I s → pkt ≠ [] → pkt.length ≤ ipmiMaxPktLen →
    (rcv.Answers pkt (rcv.clear s) ↔ C pkt (rcv.clear s))

variable {rcv} {I : σ → Prop} {C : List Byte → σ → Prop} {skipRetransmit : Bool}

theorem Receiver.Sound.taken (h : rcv.Sound I C) {s : σ} (hs : I s) (pkt : List Byte) (clock : Bool) :
    I (rcv.taken pkt clock s).2 := by
  rw [Receiver.taken]
  split
  · exact hs
  · rename_i s' hparse
    exact h.unassemble _ _ _ _ hs hparse
  · rename_i s' hparse
    have hkept := h.verify pkt s' (h.unassemble _ _ _ _ hs hparse)
    split <;> rename_i hverify <;> rwa [hverify] at hkept

theorem Receiver.Sound.roundOf (h : rcv.Sound I C) {s : σ} (hs : I s) (e : Event) :
    I (rcv.roundOf e s).2 := by
  cases e with
  | sessionTimeout => exact hs
  | receiveError => exact h.clear s hs
  | received data again clock =>
    rw [Receiver.roundOf]
    split_ifs
    · exact h.advance _ (h.clear s hs)
    · exact h.taken (h.clear s hs) _ _

/-- The round of a datagram is that of a function that fails exactly when one of the two does. -/
theorem Receiver.taken_answers (pkt : List Byte) (clock : Bool) (s : σ) :
    ((rcv.taken pkt clock s).1 ≠ .unassembleError ∧ (rcv.taken pkt clock s).1 ≠ .verifyError) ↔
      rcv.Answers pkt s := by
  rw [Receiver.taken, Receiver.Answers]
  rcases hparse : rcv.unassemble pkt s with e | ⟨_ | _, s'⟩
  · exact iff_of_false (fun h => h.1 rfl) (by rintro ⟨_, _, ⟨⟩, _⟩)
  · exact iff_of_true ⟨nofun, nofun⟩ ⟨false, s', rfl, nofun⟩
  · dsimp only
    rcases hverify : rcv.verify pkt s' with ⟨e | _ | _, s''⟩
    · refine iff_of_false (fun h => h.2 rfl) ?_
      rintro ⟨_, _, hok, hright⟩
      cases hok
      obtain ⟨right, hright⟩ := hright rfl
      rw [hverify] at hright
      cases hright
    · exact iff_of_true ⟨nofun, nofun⟩ ⟨true, s', rfl, fun _ => ⟨false, by rw [hverify]⟩⟩
    · exact iff_of_true ⟨nofun, nofun⟩ ⟨true, s', rfl, fun _ => ⟨true, by rw [hverify]⟩⟩

/-- An event makes no round of a function that fails exactly when its datagram meets the condition. -/
theorem Receiver.Sound.roundOf_iff (h : rcv.Sound I C) {s : σ} (hs : I s) (e : Event) :
    ((rcv.roundOf e s).1 ≠ .unassembleError ∧ (rcv.roundOf e s).1 ≠ .verifyError) ↔
      ∀ pkt, e.Takes pkt → C pkt (rcv.clear s) := by
  cases e with
  | sessionTimeout => exact iff_of_true ⟨nofun, nofun⟩ fun _ => False.elim
  | receiveError => exact iff_of_true ⟨nofun, nofun⟩ fun _ => False.elim
  | received data again clock =>
    rw [Receiver.roundOf]
    split_ifs with hempty
    · refine iff_of_true ⟨nofun, nofun⟩ ?_
      rintro _ ⟨rfl, hne⟩
      exact absurd (List.length_eq_zero_iff.mp hempty) hne
    · have hne : inBuffer data ≠ [] := fun hnil => hempty (List.length_eq_zero_iff.mpr hnil)
      rw [Receiver.taken_answers, h.answers_iff _ s hs hne (List.length_take_le _ _)]
      constructor
      · rintro hC _ ⟨rfl, -⟩
        exact hC
      · exact fun hC => hC _ ⟨rfl, hne⟩

/-- The rounds that the datagrams make are those of a run along the condition. -/
theorem Receiver.Sound.skipsPackets_iff (h : rcv.Sound I C) (events : List Event) {s : σ} (hs : I s) :
    SkipsPackets skipRetransmit (rcv.roundsOf events s) ↔ rcv.Along skipRetransmit C events s := by
  induction events generalizing s with
  | nil => exact iff_of_true ⟨nofun, nofun⟩ trivial
  | cons e events ih =>
    have hround := h.roundOf_iff hs e
    rw [SkipsPackets, Receiver.roundsOf, lastRound, Receiver.Along]
    split_ifs with hgoes
    · have hrest := ih (h.roundOf hs e)
      rw [SkipsPackets] at hrest
      rw [hrest, ← hround]
      constructor
      · intro hlast
        refine ⟨⟨fun heq => ?_, fun heq => ?_⟩, fun _ => hlast⟩
        · rw [heq] at hgoes
          cases hgoes
        · rw [heq] at hgoes
          cases hgoes
      · exact fun hboth => hboth.2 hgoes
    · rw [← hround]
      exact ⟨fun hlast => ⟨hlast, fun htrue => absurd htrue hgoes⟩, fun hboth => hboth.1⟩

/-- A call in which the receiver takes the datagrams fails only for the session timeout or a local error,
    exactly when every datagram that it takes meets the condition. -/
theorem Receiver.Sound.failsLocally_iff (h : rcv.Sound I C) (v : Version) (early : Bool) (first : Send)
    (events : List Event) {s : σ} (hs : first = .sent → I s) :
    Call.FailsLocally v ⟨skipRetransmit, early, first, rcv.roundsOf events s⟩ ↔
      (early = false → first = .sent → rcv.Along skipRetransmit C events s) := by
  rw [Api.failsLocally_iff]
  exact forall_congr' fun _ => forall_congr' fun hfirst => h.skipsPackets_iff events (hs hfirst)

end Receiver

end FreeIpmi.Api
