import FreeIpmi.Util.SequenceNumber

/-! The counters of a LAN session (`api/ipmi-lan-session-common.c`).

    A command is sent with the session sequence number and the `rq_seq` of the context, which move on
    with each retransmission and at the end of the call. A bridged command is sent inside a Send
    Message command, and so through a call of its own. What the network does to a call is a list of
    rounds of its loop; when the list is used up the session has timed out. -/

namespace FreeIpmi.Api

inductive Version where | v15 | v20
  deriving DecidableEq

/-- `IPMI_LAN_REQUESTER_SEQUENCE_NUMBER_MAX`. -/
def requesterSequenceNumberMax : ℕ := 0x3F

/-- One request that a call set out to send. -/
structure Attempt where
  number : BitVec 32
  rqSeq : ℕ
  transmitted : Bool
  -- how often the session sequence number had moved
  moves : ℕ
  deriving DecidableEq

/-- The part of `ctx->io.outofband` that numbers the requests, and what it did so far. -/
structure Counters where
  sessionSequenceNumber : BitVec 32
  rqSeq : ℕ
  attempts : List Attempt
  moves : ℕ
  deriving DecidableEq

/-- A session whose first request is still to be sent. -/
def Counters.start (number : BitVec 32) (rqSeq : ℕ) : Counters := ⟨number, rqSeq, [], 0⟩

/-- The next session sequence number; in IPMI 2.0 numbers of 0 are special. -/
def Version.next : Version → BitVec 32 → BitVec 32
  | .v15, n => n + 1
  | .v20, n => if n + 1 = 0 then n + 1 + 1 else n + 1

/-- The two increments after a request. -/
def Counters.advance (v : Version) (s : Counters) : Counters :=
  { s with
    sessionSequenceNumber := v.next s.sessionSequenceNumber
    rqSeq := (s.rqSeq + 1) % (requesterSequenceNumberMax + 1)
    moves := s.moves + 1 }

/-- How `_api_lan_cmd_send` ends: before the packet is out, well, or with an error after it is out. -/
inductive Send where | failed | sent | late
  deriving DecidableEq

/-- `_api_lan_cmd_send`; whether it succeeded is a property of `o`. -/
def Counters.cmdSend (s : Counters) (o : Send) : Counters :=
  { s with attempts := s.attempts ++ [⟨s.sessionSequenceNumber, s.rqSeq, o ≠ .failed, s.moves⟩] }

/-- What happens in one round of the loop of a call. -/
inductive Round where
  | sessionTimeout
  | receiveError
  -- nothing was received in time
  | resend (o : Send)
  -- a packet that `unassemble_*_pkt` fails for, or does not parse
  | unassembleError
  | unparsed
  -- a packet that the verification fails for, or passes over
  | verifyError
  | ignored
  -- the expected reply; whether the clock could be read then
  | accepted (clock : Bool)
  deriving DecidableEq

/-- How the loop ends: at the cleanup label, or past it. -/
inductive Exit where
  | left
  | cleanup (rv : Bool)
  deriving DecidableEq

/-- A reply was verified and the clock cannot be read: IPMI 1.5 returns at once. -/
def Version.clockError : Version → Exit
  | .v15 => .left
  | .v20 => .cleanup false

/-- The loop of `api_lan_cmd_wrapper` and `api_lan_2_0_cmd_wrapper`. -/
def cmdLoop (v : Version) (skipRetransmit : Bool) : List Round → Counters → Counters × Exit
  | [], s => (s, .cleanup false)
  | .sessionTimeout :: _, s => (s, .cleanup false)
  | .receiveError :: _, s => (s, .cleanup false)
  | .resend o :: rounds, s =>
    if skipRetransmit then (s, .cleanup true)
    else if o = .sent then cmdLoop v skipRetransmit rounds ((s.advance v).cmdSend o)
    else ((s.advance v).cmdSend o, .cleanup false)
  | .unassembleError :: _, s => (s, .left)
  | .unparsed :: rounds, s => cmdLoop v skipRetransmit rounds s
  | .verifyError :: _, s => (s, .cleanup false)
  | .ignored :: rounds, s => cmdLoop v skipRetransmit rounds s
  | .accepted clock :: _, s => (s, if clock then .cleanup true else v.clockError)

/-- A call inside the session, and what it meets. -/
structure Call where
  -- `IPMI_INTERNAL_WORKAROUND_FLAGS_CLOSE_SESSION_SKIP_RETRANSMIT`
  skipRetransmit : Bool
  -- the clock could not be read before the first request
  early : Bool
  first : Send
  rounds : List Round
  deriving DecidableEq

def cmdWrapper (v : Version) (c : Call) (s : Counters) : Counters × Bool :=
  if c.early then (s, false)
  else if c.first = .sent then
    match cmdLoop v c.skipRetransmit c.rounds (s.cmdSend c.first) with
    | (s, .left) => (s, false)
    | (s, .cleanup rv) => (s.advance v, rv)
  else ((s.cmdSend c.first).advance v, false)

def apiLanCmdWrapper : Call → Counters → Counters × Bool := cmdWrapper .v15

def apiLan20CmdWrapper : Call → Counters → Counters × Bool := cmdWrapper .v20

/-- What `_ipmi_cmd_send_ipmb` meets: it fails before the Send Message command, or sends it, which may
    be answered with an error, and then reads the clock. -/
inductive IpmbSend where
  | notBuilt
  | message (c : Call) (answered clock : Bool)
  deriving DecidableEq

def ipmiCmdSendIpmb (wrapper : Call → Counters → Counters × Bool) : IpmbSend → Counters → Counters × Bool
  | .notBuilt, s => (s, false)
  | .message c answered clock, s =>
    let (s, ok) := wrapper c s
    (s, ok && answered && clock)

/-- What happens in one round of the loop of a bridged call. -/
inductive IpmbRound where
  | sessionTimeout
  | receiveError
  | resend (o : IpmbSend)
  | unassembleError
  | unparsed
  | verifyError
  | ignored
  | accepted (clock : Bool)
  deriving DecidableEq

/-- The loop of `api_lan_cmd_wrapper_ipmb` and `api_lan_2_0_cmd_wrapper_ipmb`. -/
def ipmbLoop (wrapper : Call → Counters → Counters × Bool) :
    List IpmbRound → Counters → Counters × Exit
  | [], s => (s, .cleanup false)
  | .sessionTimeout :: _, s => (s, .cleanup false)
  | .receiveError :: _, s => (s, .cleanup false)
  | .resend o :: rounds, s =>
    match ipmiCmdSendIpmb wrapper o s with
    | (s, true) => ipmbLoop wrapper rounds s
    | (s, false) => (s, .cleanup false)
  | .unassembleError :: _, s => (s, .left)
  | .unparsed :: rounds, s => ipmbLoop wrapper rounds s
  | .verifyError :: _, s => (s, .cleanup false)
  | .ignored :: rounds, s => ipmbLoop wrapper rounds s
  | .accepted clock :: _, s => (s, .cleanup clock)

/-- The increment at the end of a bridged call: `rq_seq` has moved already, and no number is skipped. -/
def Counters.cleanupIpmb (s : Counters) : Counters :=
  { s with
    sessionSequenceNumber := s.sessionSequenceNumber + 1
    moves := s.moves + 1 }

def cmdWrapperIpmb (wrapper : Call → Counters → Counters × Bool) (first : IpmbSend)
    (rounds : List IpmbRound) (s : Counters) : Counters × Bool :=
  match ipmiCmdSendIpmb wrapper first s with
  | (s, true) =>
    match ipmbLoop wrapper rounds s with
    | (s, .left) => (s, false)
    | (s, .cleanup rv) => (s.cleanupIpmb, rv)
  | (s, false) => (s.cleanupIpmb, false)

def apiLanCmdWrapperIpmb : IpmbSend → List IpmbRound → Counters → Counters × Bool :=
  cmdWrapperIpmb apiLanCmdWrapper

def apiLan20CmdWrapperIpmb : IpmbSend → List IpmbRound → Counters → Counters × Bool :=
  cmdWrapperIpmb apiLan20CmdWrapper

/-- A command of the session, direct or bridged. -/
inductive Request where
  | cmd (c : Call)
  | ipmb (first : IpmbSend) (rounds : List IpmbRound)
  deriving DecidableEq

def Request.exec : Version → Request → Counters → Counters
  | .v15, .cmd c, s => (apiLanCmdWrapper c s).1
  | .v20, .cmd c, s => (apiLan20CmdWrapper c s).1
  | .v15, .ipmb first rounds, s => (apiLanCmdWrapperIpmb first rounds s).1
  | .v20, .ipmb first rounds, s => (apiLan20CmdWrapperIpmb first rounds s).1

/-- A session's calls, one after the other. -/
def runSession (v : Version) (requests : List Request) (s : Counters) : Counters :=
  requests.foldl (fun s r => r.exec v s) s

end FreeIpmi.Api
