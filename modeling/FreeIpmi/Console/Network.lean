import FreeIpmi.Console.Breaks
import FreeIpmi.Util.SequenceNumber

/-! A SOL session and its BMC, with the network between them.

    The network may lose, repeat and delay what either side sends, as long as a packet is no further
    behind the latest one delivered than the session sequence number window; a packet takes the
    place of its session sequence number. The BMC handles each new packet of the session at most
    once, however often it arrives: it accepts some of its first characters, and acknowledges the
    packet with their number, again and again if it likes. It knows a packet by its index here, the
    number of new packets up to it; on the wire it has four bits for it. -/

namespace FreeIpmi.Console
open Util

/-- A packet of the session on its way: its index, 0 if it only acknowledges. -/
structure ToBmc where
  index : ℕ
  sent : Sent
  deriving DecidableEq

/-- A packet of the BMC on its way: the index of the packet it acknowledges, 0 for none. -/
structure ToConsole where
  index : ℕ
  packet : BmcPacket
  deriving DecidableEq

/-- The BMC: of each packet it has handled the sequence number and the count of the characters it
    accepted, the latest of them, and all characters it accepted. -/
structure Bmc where
  handled : ℕ → Option (ℕ × ℕ)
  latest : ℕ
  accepted : List Byte

/-- The two sides, everything they have sent, and how many places the latest packet delivered to
    each side is from the start. The user's characters are counted apart from those the session
    enters by itself. -/
structure World where
  session : SolSession
  typed : List Byte
  entered : List Byte
  index : ℕ
  toBmc : List ToBmc
  bmcReached : ℕ
  bmc : Bmc
  toConsole : List ToConsole
  consoleReached : ℕ

/-- The start of a session. -/
def World.start (sessionSequenceNumber maxSolCharacterSendSize : ℕ) : World where
  session := .setup sessionSequenceNumber maxSolCharacterSendSize
  typed := []
  entered := []
  index := 0
  toBmc := []
  bmcReached := 0
  bmc := ⟨fun _ => none, 0, []⟩
  toConsole := []
  consoleReached := 0

inductive Action where
  | read (buffer : List Byte)
  | write
  | send (t : SolTimeouts)
  -- a packet of the session is delivered; if it is new, the BMC accepts some characters
  | deliverToBmc (place count : ℕ)
  -- the BMC sends characters, or none, and acknowledges a packet, or none
  | bmcSends (index packetSequenceNumber : ℕ) (characterData : List Byte)
  | deliverToConsole (place : ℕ)
  deriving DecidableEq

/-- The characters that the user has typed. -/
def SolEvent.typed : SolEvent → List Byte
  | .read buffer => buffer
  | _ => []

/-- The world after a step of the session. -/
def World.sessionStep (config : SolConfig) (w : World) (e : SolEvent) : Option World :=
  match solStep config w.session e with
  | .error _ => none
  | .ok (o, s) =>
    let w := { w with
      session := s
      entered := w.entered ++ o.entered
      typed := w.typed ++ e.typed }
    match o.sent with
    | none => some w
    | some sent =>
      if sent.packet.packetSequenceNumber = 0 then some { w with toBmc := w.toBmc ++ [⟨0, sent⟩] }
      else if sent.isRetransmission then some { w with toBmc := w.toBmc ++ [⟨w.index, sent⟩] }
      else some { w with index := w.index + 1, toBmc := w.toBmc ++ [⟨w.index + 1, sent⟩] }

/-- The BMC handles a packet with a number, if it is new. -/
def Bmc.handle (b : Bmc) (r : ToBmc) (count : ℕ) : Bmc :=
  if r.index = 0 then b
  else match b.handled r.index with
    | some _ => b
    | none =>
      let count := min count r.sent.packet.characterData.length
      ⟨Function.update b.handled r.index (some (r.sent.packet.packetSequenceNumber, count)),
        max b.latest r.index, b.accepted ++ r.sent.packet.characterData.take count⟩

/-- The packet of the BMC that acknowledges a packet it has handled, if no more than `lag` later
    ones are handled; with index 0 it acknowledges none. -/
def Bmc.packet (b : Bmc) (lag index packetSequenceNumber : ℕ) (characterData : List Byte) :
    Option ToConsole :=
  if index = 0 then some ⟨0, packetSequenceNumber, 0, 0, false, characterData⟩
  else match b.handled index with
    | none => none
    | some (number, count) =>
      if b.latest ≤ index + lag then
        some ⟨index, packetSequenceNumber, number, count, false, characterData⟩
      else none

/-- One step of the world. -/
def World.step (config : SolConfig) (lag : ℕ) (w : World) : Action → Option World
  | .read buffer => w.sessionStep config (.read buffer)
  | .write => w.sessionStep config .write
  | .send t => w.sessionStep config (.send t)
  | .deliverToBmc place count =>
    match w.toBmc[place]? with
    | none => none
    | some r =>
      if w.bmcReached ≤ place + 1 + sequenceNumberWindowDefault then
        some { w with bmcReached := max w.bmcReached (place + 1), bmc := w.bmc.handle r count }
      else none
  | .bmcSends index packetSequenceNumber characterData =>
    (w.bmc.packet lag index packetSequenceNumber characterData).map fun r =>
      { w with toConsole := w.toConsole ++ [r] }
  | .deliverToConsole place =>
    match w.toConsole[place]? with
    | none => none
    | some r =>
      if w.consoleReached ≤ place + 1 + sequenceNumberWindowDefault then
        ({ w with consoleReached := max w.consoleReached (place + 1) } : World).sessionStep config
          (.receive r.packet)
      else none

/-- The world after a list of actions. -/
def World.run (config : SolConfig) (lag : ℕ) : World → List Action → Option World
  | w, [] => some w
  | w, a :: actions => (w.step config lag a).bind fun w => w.run config lag actions

/-- No serial keepalive is due while a packet waits that is not sent again. -/
def Steady (config : SolConfig) (w : World) : Action → Prop
  | .send t => w.session.solInputWaitingForAck ≠ 0 → t.solRetransmission = false →
      ¬ SerialKeepaliveDue config w.session t
  | _ => True

/-- Every step of a run is steady. -/
def EveryStepSteady (config : SolConfig) (lag : ℕ) : World → List Action → Prop
  | _, [] => True
  | w, a :: actions =>
    Steady config w a ∧ ∀ w', w.step config lag a = some w' → EveryStepSteady config lag w' actions

/-- Everything the session sends again is a packet it has sent before, with the same number and the
    same characters. -/
def SendsAgainTheSame (w : World) : Prop :=
  ∀ r ∈ w.toBmc, r.sent.isRetransmission = true → ∃ q ∈ w.toBmc, q.sent.isRetransmission = false ∧
    q.index = r.index ∧
    q.sent.packet.packetSequenceNumber = r.sent.packet.packetSequenceNumber ∧
    q.sent.packet.characterData = r.sent.packet.characterData

end FreeIpmi.Console
