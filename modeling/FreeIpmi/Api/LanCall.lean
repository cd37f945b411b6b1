import FreeIpmi.Api.Rounds
import FreeIpmi.Lan.Receive

/-! What `api_lan_cmd_wrapper` does with a datagram.

    The receiving function clears the objects of the headers and of the trailer, the datagram is taken
    apart and verified, and the objects and the window of the session are used again for the next one.

    The verification of a packet that was taken apart returns 1 or 0, but for the one sequence number
    whose check has no result. So the only datagram that a call over IPMI 1.5 fails for is one whose
    command ends inside a field that does not end with a byte. -/

namespace FreeIpmi.Api
open Fiid Lan Util Calls Stages Ipmb

/-- `IPMI_FLAGS_NO_LEGAL_CHECK`. -/
def flagsNoLegalCheck : BitVec 32 := 0x00000200

/-- The flags of `unassemble_ipmi_lan_pkt` and of `unassemble_ipmi_rmcpplus_pkt`. -/
def OutOfBand.intfFlags (ctx : OutOfBand) : BitVec 32 :=
  if hasFlag ctx.flags flagsNoLegalCheck then ipmiInterfaceFlagsNoLegalCheck else 0

/-- The next sequence number of a request. -/
def nextLanRqSeq (rqSeq : Byte) : Byte := (rqSeq + 1) % BitVec.ofNat 8 (requesterSequenceNumberMax + 1)

/-- What changes while the call waits: its counters, the objects of the response, and the window of the
    session. -/
structure LanWait where
  call : VerifyCall
  objs : LanObjs
  window : Window

/-- The counters before the request is sent again. -/
def VerifyCall.advance (call : VerifyCall) : VerifyCall :=
  { call with
    sessionSequenceNumber := call.sessionSequenceNumber.map Version.v15.next
    rqSeq := call.rqSeq.map nextLanRqSeq }

/-- The objects that `_api_lan_cmd_recv` clears. -/
def clearReceived (objs : LanObjs) : LanObjs :=
  { objs with
    rmcpHdr := fiidObjClear objs.rmcpHdr
    sessionHdr := fiidObjClear objs.sessionHdr
    msgHdr := fiidObjClear objs.msgHdr
    msgTrlr := fiidObjClear objs.msgTrlr }

/-- How `api_lan_cmd_wrapper` takes what it receives. -/
def lanReceiver (digests : Digests) (ctx : OutOfBand) : Receiver LanWait where
  clear s := { s with objs := clearReceived s.objs }
  advance s := { s with call := s.call.advance }
  unassemble pkt s := do
    let (parsed, objs) ← unassembleIpmiLanPkt pkt s.objs ctx.intfFlags
    return (parsed, { s with objs })
  verify _ s :=
    let (ret, window) := verifyPacket digests ctx s.call s.objs s.window
    (ret, { s with window })

/-! ### The verification -/

/-- A session sequence number in the byte order that it is checked in. -/
def inOrder (ctx : OutOfBand) (sessionSequenceNumber : BitVec 32) : BitVec 32 :=
  if hasFlag ctx.workaroundFlags workaroundBigEndianSequenceNumber then flipBytes sessionSequenceNumber
  else sessionSequenceNumber

/-- The packet gets to the check of its sequence number, which has no result: with an IPMI 2.0 context,
    it is the last one, before any other. -/
structure NumberUndefined (digests : Digests) (ctx : OutOfBand) (call : VerifyCall) (pkt : List Byte)
    (objs : LanObjs) (w : Window) : Prop where
  front : FrontRight digests ctx call pkt objs
  given : call.sessionSequenceNumber.isSome = true
  first : FirstIsLast (ctx.type = .lan20) w (inOrder ctx (sessionSequenceNumberAt pkt))

section Verify
variable {digests : Digests} {ctx : OutOfBand} {call : VerifyCall} {pkt : List Byte}
  {objs before : LanObjs} {w : Window} {flags : BitVec 32} {ndebug : Bool} {cmdTmpl : FiidTemplate}

theorem andThen_returns {check next : Except Stop Bool} (hcheck : ∃ right, check = .ok right)
    (hnext : ∃ right, next = .ok right) : ∃ right, andThen check next = .ok right := by
  obtain ⟨_ | _, rfl⟩ := hcheck
  · exact ⟨false, rfl⟩
  · exact hnext

/-- The checks in front of the sequence number answer. -/
theorem frontChecks_return (digests : Digests) (ctx : OutOfBand) (hobjs : before.Passed ndebug cmdTmpl)
    (hret : unassembleIpmiLanPkt pkt before flags = .ok (true, objs)) (hcall : call.Valid)
    (hsupported : authenticationTypeSupported call.authenticationType = true) :
    ∃ right, andThen (verifySessionId ctx call objs)
      (andThen (verifyChecksum ctx objs) (verifyCode digests ctx call objs)) = .ok right := by
  obtain ⟨hchecksum, hcode⟩ := hobjs.checks_answer hret
  refine andThen_returns ?_ (andThen_returns ?_ ?_)
  · obtain ⟨val, hget, -⟩ := sessionHdr_get (hobjs.accepted hret)
      (show valuePlace _ _ "session_id" = some (8 * 5, 32) from rfl) (by norm_num)
    rw [verifySessionId, hget]
    exact ⟨_, rfl⟩
  · rw [verifyChecksum]
    split
    · exact ⟨true, rfl⟩
    · exact hchecksum
  · obtain ⟨right, hright⟩ := hcode digests call.authenticationType call.password hsupported
      hcall.password
    have hcheck : checkCode digests objs call.authenticationType call.password = .ok right := hright
    simp only [verifyCode, hcheck, ok_bind]
    split
    · split <;> exact ⟨_, rfl⟩
    · exact ⟨true, rfl⟩

theorem ipmiCheckSessionSequenceNumber_returns_iff (n : BitVec 32) :
    (∃ r, ipmiCheckSessionSequenceNumber ctx n w = .ok r) ↔
      ¬ FirstIsLast (ctx.type = .lan20) w (inOrder ctx n) :=
  check_returns_iff (Nat.zero_le 32)

theorem verifySequenceNumber_returns_iff (h : Accepted pkt objs) :
    (∃ r, verifySequenceNumber ctx call objs w = .ok r) ↔ (call.sessionSequenceNumber.isSome = true →
      ¬ FirstIsLast (ctx.type = .lan20) w (inOrder ctx (sessionSequenceNumberAt pkt))) := by
  obtain ⟨val, hget, hval⟩ := sessionHdr_get h
    (show valuePlace _ _ "session_sequence_number" = some (8 * 1, 32) from rfl) (by norm_num)
  have hnumber : val.setWidth 32 = sessionSequenceNumberAt pkt := hval
  rw [verifySequenceNumber]
  cases call.sessionSequenceNumber with
  | none =>
    refine iff_of_true ⟨_, rfl⟩ fun hgiven => ?_
    cases hgiven
  | some number =>
    simp only [hget, ok_bind, hnumber]
    rw [ipmiCheckSessionSequenceNumber_returns_iff]
    exact ⟨fun h _ => h, fun h => h rfl⟩

/-- The verification of a packet that was taken apart returns 1 or 0, but for one sequence number. -/
theorem verifyPacket_returns_iff (hobjs : before.Passed ndebug cmdTmpl)
    (hret : unassembleIpmiLanPkt pkt before flags = .ok (true, objs)) (hcall : call.Valid)
    (hsupported : authenticationTypeSupported call.authenticationType = true) :
    (∃ right, (verifyPacket digests ctx call objs w).1 = .ok right) ↔
      ¬ NumberUndefined digests ctx call pkt objs w := by
  have hacc := hobjs.accepted hret
  have hright : _ ↔ FrontRight digests ctx call pkt objs := frontChecks_accept hacc
  have hnumber : (∃ r, verifySequenceNumber ctx call objs w = .ok r) ↔ _ :=
    verifySequenceNumber_returns_iff hacc
  obtain ⟨front, hfront⟩ := frontChecks_return digests ctx hobjs hret hcall hsupported
  rw [verifyPacket, if_neg hcall.not_asserts, hfront]
  rw [hfront] at hright
  cases front with
  | false =>
    refine iff_of_true ⟨false, rfl⟩ fun hundef => ?_
    cases hright.mpr hundef.front
  | true =>
    dsimp only
    rcases hseq : verifySequenceNumber ctx call objs w with e | ⟨passed, w'⟩
    · have hundef : ¬ _ := fun h => by
        obtain ⟨r, hr⟩ := hnumber.mpr h
        rw [hseq] at hr
        cases hr
      obtain ⟨hgiven, hfirst⟩ := Classical.not_imp.mp hundef
      refine iff_of_false ?_ fun hdef => hdef ⟨hright.mp rfl, hgiven, not_not.mp hfirst⟩
      rintro ⟨right, hright⟩
      cases hright
    · have hdef := hnumber.mp ⟨_, hseq⟩
      refine iff_of_true ?_ fun hundef => hdef hundef.given hundef.first
      cases passed with
      | false => exact ⟨false, rfl⟩
      | true => exact ⟨_, hacc.rqSeq _⟩

end Verify

/-! ### A datagram -/

/-- The datagram can be taken apart, and if it is, the check of its sequence number has a result. -/
structure LanTakes (digests : Digests) (ctx : OutOfBand) (cmdTmpl : FiidTemplate) (pkt : List Byte)
    (s : LanWait) : Prop where
  aligned : ReachesCmd pkt →
    EndsByteAligned cmdTmpl.fields (cmdBytes pkt (authenticationTypeAt pkt)).length
  number : ∀ objs, unassembleIpmiLanPkt pkt s.objs ctx.intfFlags = .ok (true, objs) →
    ¬ NumberUndefined digests ctx s.call pkt objs s.window

/-- What stays the same while the call waits: the objects have their templates, and the arguments are
    those of a request that was sent. -/
structure LanWait.Ready (ndebug : Bool) (cmdTmpl : FiidTemplate) (s : LanWait) : Prop where
  objs : s.objs.Passed ndebug cmdTmpl
  valid : s.call.Valid
  supported : authenticationTypeSupported s.call.authenticationType = true

section Receive
variable {digests : Digests} {ctx : OutOfBand} {ndebug : Bool} {cmdTmpl : FiidTemplate}

theorem intfFlags_known (ctx : OutOfBand) : ctx.intfFlags &&& ~~~ ipmiInterfaceFlagsNoLegalCheck = 0 := by
  rw [OutOfBand.intfFlags]
  split <;> decide

theorem clearReceived_becomes (objs : LanObjs) : objs.Becomes (clearReceived objs) :=
  ⟨becomes_clear _, becomes_clear _, becomes_clear _, .refl _, becomes_clear _⟩

theorem LanWait.Ready.keeps {s : LanWait} (h : s.Ready ndebug cmdTmpl) {objs : LanObjs}
    (hb : s.objs.Becomes objs) : LanWait.Ready ndebug cmdTmpl { s with objs } :=
  ⟨h.objs.becomes hb, h.valid, h.supported⟩

/-- While the call waits, exactly the datagrams with `LanTakes` make neither of the functions fail. -/
theorem lanReceiver_sound (digests : Digests) (ctx : OutOfBand) (ndebug : Bool) (cmdTmpl : FiidTemplate) :
    (lanReceiver digests ctx).Sound (·.Ready ndebug cmdTmpl) (LanTakes digests ctx cmdTmpl) where
  clear s h := h.keeps (clearReceived_becomes _)
  advance s h := ⟨h.objs, ⟨h.valid.authenticationType, h.valid.password⟩, h.supported⟩
  unassemble pkt s parsed s' h hret := by
    obtain ⟨⟨b, objs⟩, hcall, hret⟩ := bind_eq_ok.mp hret
    cases hret
    exact h.keeps (unassembleIpmiLanPkt_becomes hcall)
  verify pkt s h := ⟨h.objs, h.valid, h.supported⟩
  answers_iff pkt s h _ _ := by
    have hready := h.keeps (clearReceived_becomes s.objs)
    constructor
    · rintro ⟨parsed, s', hret, hverify⟩
      obtain ⟨⟨b, objs⟩, hcall, hret⟩ := bind_eq_ok.mp hret
      cases hret
      refine ⟨(hready.objs.of_returns hcall).2, fun objs' hcall' => ?_⟩
      cases hcall.symm.trans hcall'
      exact (verifyPacket_returns_iff hready.objs hcall h.valid h.supported).mp (hverify rfl)
    · rintro ⟨haligned, hnumber⟩
      obtain ⟨parsed, w, hcall, -⟩ := hready.objs.returns (intfFlags_known ctx) haligned
      refine ⟨parsed, { s with objs := w.objs }, bind_eq_ok.mpr ⟨_, hcall, rfl⟩, fun hparsed => ?_⟩
      rw [hparsed] at hcall
      exact (verifyPacket_returns_iff hready.objs hcall h.valid h.supported).mpr (hnumber _ hcall)

end Receive

end FreeIpmi.Api
