import FreeIpmi.Api.LanCall
import FreeIpmi.Rmcpplus.Receive

/-! The verification of a received RMCP+ packet (`_api_lan_2_0_cmd_wrapper_verify_packet` in
    `api/ipmi-lan-session-common.c`).

    A packet in a session is verified by its session id, its checksums, its authentication code, its
    session sequence number and the sequence number of the request; the session id among the arguments
    is not used. A response to a message of the session setup is verified by its type, its message tag
    and the session id of the console.

    On a packet that was taken apart there are two ways to fail. The session id of the console is read
    from a response that may end before it, and one session sequence number has no result
    (`verifyPacket20_returns_iff`). -/

namespace FreeIpmi.Api
open Fiid Lan Rmcpplus Util Calls Stages ByteBits Ipmb

def workaroundNoChecksumCheck20 : BitVec 32 := 0x00000040

/-- `RMCPPLUS_STATUS_NO_ERRORS`. -/
def statusNoErrors : Byte := 0x00

/-- What the verification reads of an IPMI 2.0 context, but for the window. -/
structure OutOfBand20 extends OutOfBand where
  workaroundFlags20 : BitVec 32
  remoteConsoleSessionId : BitVec 32

/-- The arguments; `none` is NULL, and a NULL password has no bytes. -/
structure VerifyCall20 where
  payloadType : Byte
  messageTag : Option Byte
  sessionSequenceNumber : Option (BitVec 32)
  rqSeq : Option Byte
  integrityKey : Option (List Byte)
  password : List Byte

/-! ### The source -/

/-- The payload types of the requests. -/
def requestPayloadType (payloadType : Byte) : Bool :=
  payloadType == ipmiPayloadTypeIpmi
    || payloadType == ipmiPayloadTypeRmcpplusOpenSessionRequest
    || payloadType == ipmiPayloadTypeRakpMessage1
    || payloadType == ipmiPayloadTypeRakpMessage3

/-- The payload type of the response to a request. -/
def responsePayloadType (payloadType : Byte) : Byte :=
  if payloadType = ipmiPayloadTypeIpmi then ipmiPayloadTypeIpmi
  else if payloadType = ipmiPayloadTypeRmcpplusOpenSessionRequest then
    ipmiPayloadTypeRmcpplusOpenSessionResponse
  else if payloadType = ipmiPayloadTypeRakpMessage1 then ipmiPayloadTypeRakpMessage2
  else ipmiPayloadTypeRakpMessage4

def verifyPayloadType (call : VerifyCall20) (objs : RmcpplusObjs) : Except Stop Bool := do
  let payloadType ← payloadTypeOf objs.sessionHdr
  return payloadType = responsePayloadType call.payloadType

/-- The session id of a packet in a session. -/
def verifySessionId20 (ctx : OutOfBand20) (objs : RmcpplusObjs) : Except Stop Bool := do
  let val ← fiidObjGetStrict objs.sessionHdr "session_id"
  let sessionId : BitVec 32 := val.setWidth 32
  return sessionId = ctx.remoteConsoleSessionId

def verifyChecksum20 (ctx : OutOfBand20) (objs : RmcpplusObjs) : Except Stop Bool :=
  if hasFlag ctx.workaroundFlags20 workaroundNoChecksumCheck20 then .ok true
  else ipmiLanCheckChecksum objs.lanMsgHdr objs.cmd objs.lanMsgTrlr

def verifySequenceNumber20 (ctx : OutOfBand20) (call : VerifyCall20) (objs : RmcpplusObjs)
    (w : Window) : Except Stop (Bool × Window) :=
  match call.sessionSequenceNumber with
  | none => .ok (true, w)
  | some _ => do
    let val ← fiidObjGetStrict objs.sessionHdr "session_sequence_number"
    ipmiCheckSessionSequenceNumber ctx.toOutOfBand (val.setWidth 32) w

/-- The checks of a packet in a session that do not change the window. -/
def verifyMsg (crypto : Crypto) (ctx : OutOfBand20) (integrityAlgorithm : Byte) (call : VerifyCall20)
    (objs : RmcpplusObjs) (pkt : List Byte) : Except Stop Bool :=
  andThen (verifyPayloadType call objs) (andThen (verifySessionId20 ctx objs)
    (andThen (verifyChecksum20 ctx objs)
      (ipmiRmcpplusCheckPacketSessionAuthenticationCode crypto integrityAlgorithm pkt call.integrityKey
        call.password objs.sessionTrlr)))

def verifyMessageTag (call : VerifyCall20) (objs : RmcpplusObjs) : Except Stop Bool :=
  match call.messageTag with
  | none => .ok true
  | some messageTag => do
    let val ← fiidObjGetStrict objs.cmd "message_tag"
    return val.setWidth 8 = messageTag

/-- The session id of the console is only compared where there is no error. -/
def verifyConsoleId (ctx : OutOfBand20) (objs : RmcpplusObjs) : Except Stop Bool := do
  let val ← fiidObjGetStrict objs.cmd "rmcpplus_status_code"
  let rmcpplusStatusCode : Byte := val.setWidth 8
  let val ← fiidObjGetStrict objs.cmd "remote_console_session_id"
  let sessionId : BitVec 32 := val.setWidth 32
  return !(rmcpplusStatusCode = statusNoErrors && sessionId != ctx.remoteConsoleSessionId)

/-- The three branches for the responses of the session setup, which differ in the payload type. -/
def verifySetup (ctx : OutOfBand20) (call : VerifyCall20) (objs : RmcpplusObjs) : Except Stop Bool :=
  andThen (verifyPayloadType call objs) (andThen (verifyMessageTag call objs) (verifyConsoleId ctx objs))

/-- `_api_lan_2_0_cmd_wrapper_verify_packet`: the verdict, and the window it leaves. -/
def verifyPacket20 (crypto : Crypto) (ctx : OutOfBand20) (integrityAlgorithm : Byte)
    (call : VerifyCall20) (objs : RmcpplusObjs) (pkt : List Byte) (w : Window) :
    Except Stop Bool × Window :=
  if ctx.type ≠ .lan20 ∨ !requestPayloadType call.payloadType
      ∨ !ipmiIntegrityAlgorithmSupported integrityAlgorithm
      ∨ call.password.length > ipmi20MaxPasswordLength ∨ pkt.length = 0 then (.error .assertion, w)
  else if call.payloadType = ipmiPayloadTypeIpmi then
    match verifyMsg crypto ctx integrityAlgorithm call objs pkt with
    | .error e => (.error e, w)
    | .ok false => (.ok false, w)
    | .ok true =>
      match verifySequenceNumber20 ctx call objs w with
      | .error e => (.error e, w)
      | .ok (false, w) => (.ok false, w)
      | .ok (true, w) => (ipmiLanCheckRqSeq (some objs.lanMsgHdr) (call.rqSeq.getD 0), w)
  else (verifySetup ctx call objs, w)

/-! ### When it returns 1 or 0 -/

/-- The arguments as the assertion asks for them. -/
structure VerifyCall20.Valid (ctx : OutOfBand20) (integrityAlgorithm : Byte) (call : VerifyCall20) :
    Prop where
  type : ctx.type = .lan20
  payloadType : requestPayloadType call.payloadType = true
  integrity : ipmiIntegrityAlgorithmSupported integrityAlgorithm = true
  password : call.password.length ≤ ipmi20MaxPasswordLength

/-- The bytes of a response in front of the session id of the console. -/
def consoleIdStart : ℕ := 4

/-- A response of the session setup that the call waits for by its type and its message tag. -/
def VerifyCall20.Awaits (call : VerifyCall20) (pkt : List Byte) : Prop :=
  (headerAt pkt).payloadType = responsePayloadType call.payloadType ∧
    ∀ tag ∈ call.messageTag, (payloadAt pkt).head? = some tag

/-- The verification does not fail: a response that the call waits for gets to the session id of the
    console, and a packet in a session has a number whose check has a result. -/
structure Verifiable (crypto : Crypto) (ctx : OutOfBand20) (integrityAlgorithm : Byte)
    (call : VerifyCall20) (objs : RmcpplusObjs) (pkt : List Byte) (w : Window) : Prop where
  setup : call.payloadType ≠ ipmiPayloadTypeIpmi → call.Awaits pkt →
    consoleIdStart < (payloadAt pkt).length
  number : call.payloadType = ipmiPayloadTypeIpmi →
    verifyMsg crypto ctx integrityAlgorithm call objs pkt = .ok true →
      call.sessionSequenceNumber.isSome = true →
        ¬ FirstIsLast true w (inOrder ctx.toOutOfBand (headerAt pkt).sessionSequenceNumber)

section Verify
variable {crypto : Crypto} {algorithms : Algorithms} {confidentialityKey : Option (List Byte)}
  {ctx : OutOfBand20} {integrityAlgorithm : Byte} {call : VerifyCall20} {objs : RmcpplusObjs}
  {pkt : List Byte} {w : Window} {cmdFields : List FiidField} {ndebug : Bool} {cmdTmpl : FiidTemplate}

/-- The session header of an accepted packet is read as it is in the packet. -/
theorem hdr_get (h : Rmcpplus.Accepted crypto algorithms confidentialityKey cmdFields pkt objs)
    {field : String} {offset len : ℕ}
    (hplace : valuePlace tmplRmcpplusSessionHdr.fields hdrLens field = some (offset, len)) :
    fiidObjGetStrict objs.sessionHdr field = .ok (valueAt (headerBytes pkt) offset len) :=
  h.session.getStrict h.sessionOf hplace

theorem verifyPayloadType_eq
    (h : Rmcpplus.Accepted crypto algorithms confidentialityKey cmdFields pkt objs) :
    verifyPayloadType call objs
      = .ok (decide ((headerAt pkt).payloadType = responsePayloadType call.payloadType)) := by
  rw [verifyPayloadType, payloadTypeOf, hdr_get h (show valuePlace _ _ _ = some (8, 6) by decide)]
  rfl

/-- A message with a header, a command that can be read and a checksum has checksums to compare, and a
    sequence number. -/
theorem msgRead_checks {message : List Byte} (h : MsgRead cmdFields message objs) :
    (∃ right, ipmiLanCheckChecksum objs.lanMsgHdr objs.cmd objs.lanMsgTrlr = .ok right) ∧
      ∀ rqSeq, ∃ right, ipmiLanCheckRqSeq (some objs.lanMsgHdr) rqSeq = .ok right := by
  obtain ⟨obj, n, hof, hunset, hfill, htrlr⟩ := h.cmd
  have hlong := h.long
  have hn := hfill.len
  rw [List.length_take, List.length_drop] at hn
  rw [aroundCmd] at hlong hn
  obtain ⟨x, hx⟩ := List.length_eq_one_iff.mp (show ((message.drop (5 + n)).take 1).length = 1 by
    rw [List.length_take, List.length_drop]
    omega)
  rw [hx] at htrlr
  refine ⟨⟨_, ipmiLanCheckChecksum_eq h.hdrOf h.hdr ?_ (hfill.reads hof hunset) h.trlrOf htrlr⟩,
    fun rqSeq => ⟨_, headerCheck_eq h.hdr h.hdrOf (show valuePlace _ _ "rq_seq" = some (34, 6) from rfl)
      rqSeq⟩⟩
  rw [List.length_take]
  omega

/-- The authentication code of a packet that fits into the buffer can be checked. -/
theorem checkCode20_returns (crypto : Crypto) (hfit : objs.Fit ndebug cmdTmpl)
    (hbytes : objs.sessionTrlr.ByteLens) (hcall : call.Valid ctx integrityAlgorithm) (hne : pkt ≠ [])
    (hlen : pkt.length ≤ ipmiMaxPktLen) :
    ∃ right, ipmiRmcpplusCheckPacketSessionAuthenticationCode crypto integrityAlgorithm pkt
      call.integrityKey call.password objs.sessionTrlr = .ok right := by
  have hof := hfit.sessionTrlr.wf.of
  have hpassword := hcall.password
  have hparameters : ¬ ((!ipmiIntegrityAlgorithmSupported integrityAlgorithm) = true
      ∨ pkt.length = 0 ∨ call.password.length > ipmi20MaxPasswordLength) := by
    have hpos := List.length_pos_iff.mpr hne
    rw [hcall.integrity, Bool.not_true]
    rintro (h | h | h)
    · cases h
    · omega
    · omega
  have hrmcp : orTemplateInvalid (fiidTemplateLenBytes tmplRmcpHdr) = .ok 4 := by decide
  obtain ⟨code, hcode⟩ := hbytes.getData hof authenticationCode_place (le_refl 32)
  have hinput : ¬ (integrityInput integrityAlgorithm pkt call.password 4).length > ipmiMaxPayloadLength := by
    have hle := length_integrityInput_le integrityAlgorithm pkt hpassword 4
    rw [ipmi20MaxPasswordLength] at hle
    rw [ipmiMaxPktLen] at hlen
    rw [ipmiMaxPayloadLength]
    omega
  simp only [ipmiRmcpplusCheckPacketSessionAuthenticationCode, if_neg hparameters,
    hof.compare (show TemplateOk tmplRmcpplusSessionTrlr by decide), hrmcp, hcode, ok_bind,
    if_neg hinput]
  split_ifs <;> exact ⟨_, rfl⟩

/-- The checks of a packet in a session that do not change the window answer. -/
theorem verifyMsg_returns
    (h : Rmcpplus.Accepted crypto algorithms confidentialityKey cmdFields pkt objs)
    (hfit : objs.Fit ndebug cmdTmpl) (hcall : call.Valid ctx integrityAlgorithm)
    (htype : call.payloadType = ipmiPayloadTypeIpmi) (hlen : pkt.length ≤ ipmiMaxPktLen) :
    ∃ right, verifyMsg crypto ctx integrityAlgorithm call objs pkt = .ok right := by
  have hne : pkt ≠ [] := by
    have hlong := h.readable.long
    intro hnil
    rw [hnil, List.length_nil] at hlong
    omega
  rw [verifyMsg, verifyPayloadType_eq h]
  by_cases hmsg : (headerAt pkt).payloadType = responsePayloadType call.payloadType
  · have hipmi : (headerAt pkt).payloadType = ipmiPayloadTypeIpmi := by
      rw [hmsg, responsePayloadType, if_pos htype]
    refine andThen_returns ⟨_, rfl⟩ (andThen_returns ?_ (andThen_returns ?_ ?_))
    · rw [verifySessionId20, hdr_get h (show valuePlace _ _ _ = some (16, 32) by decide)]
      exact ⟨_, rfl⟩
    · rw [verifyChecksum20]
      split
      · exact ⟨true, rfl⟩
      · exact (msgRead_checks (h.payload.msg hipmi)).1
    · exact checkCode20_returns crypto hfit h.trlrBytes hcall hne hlen
  · rw [decide_eq_false hmsg]
    exact ⟨false, rfl⟩

theorem verifySequenceNumber20_returns_iff
    (h : Rmcpplus.Accepted crypto algorithms confidentialityKey cmdFields pkt objs)
    (hcall : call.Valid ctx integrityAlgorithm) :
    (∃ r, verifySequenceNumber20 ctx call objs w = .ok r) ↔
      (call.sessionSequenceNumber.isSome = true →
        ¬ FirstIsLast true w (inOrder ctx.toOutOfBand (headerAt pkt).sessionSequenceNumber)) := by
  rw [verifySequenceNumber20]
  cases call.sessionSequenceNumber with
  | none => exact iff_of_true ⟨_, rfl⟩ nofun
  | some number =>
    simp only [hdr_get h (show valuePlace _ _ "session_sequence_number" = some (48, 32) by decide), ok_bind]
    rw [ipmiCheckSessionSequenceNumber_returns_iff, hcall.type]
    exact ⟨fun h _ => h, fun h => h rfl⟩

/-- Where the verification of a response of the session setup reads. -/
structure SetupPlaces (fields : List FiidField) : Prop where
  tag : bytePlace fields "message_tag" = some (0, 8)
  status : bytePlace fields "rmcpplus_status_code" = some (8, 8)
  consoleId : wholePlace fields "remote_console_session_id" = some (consoleIdStart, 4)

section Setup
variable {fields : List FiidField} {obj : FiidObj} {d : List Byte} {n : ℕ}

/-- The session id of the console can be read if the response gets to it, whatever the status. -/
theorem verifyConsoleId_returns_iff (ctx : OutOfBand20) (hplaces : SetupPlaces fields) (hof : obj.Of fields)
    (hunset : obj.Unset) (hfill : Filled fields obj objs.cmd d n) :
    (∃ right, verifyConsoleId ctx objs = .ok right) ↔ consoleIdStart < d.length := by
  rw [← hfill.getStrict_ok_iff hof hunset hplaces.consoleId]
  constructor
  · rintro ⟨right, hret⟩
    obtain ⟨_, -, hret⟩ := bind_eq_ok.mp hret
    obtain ⟨val, hval, -⟩ := bind_eq_ok.mp hret
    exact ⟨val, hval⟩
  · rintro ⟨val, hval⟩
    have hlong := (hfill.getStrict_ok_iff hof hunset hplaces.consoleId).mp ⟨val, hval⟩
    rw [consoleIdStart] at hlong
    have hstatus := hfill.getStrict hof hunset hplaces.status
    rw [List.getElem?_eq_getElem (show 8 / 8 < d.length by omega)] at hstatus
    simp only [verifyConsoleId, hstatus, hval, ok_bind]
    exact ⟨_, rfl⟩

theorem verifyMessageTag_eq (hplaces : SetupPlaces fields) (hof : obj.Of fields) (hunset : obj.Unset)
    (hfill : Filled fields obj objs.cmd d n) (hne : d ≠ []) :
    verifyMessageTag call objs = .ok (decide (∀ tag ∈ call.messageTag, d.head? = some tag)) := by
  rw [verifyMessageTag]
  cases call.messageTag with
  | none => simp
  | some tag =>
    obtain ⟨x, d', rfl⟩ := List.exists_cons_of_ne_nil hne
    have hget := hfill.getStrict hof hunset hplaces.tag
    simp only [Nat.zero_div, List.getElem?_cons_zero, Nat.zero_mod, bitField_full] at hget
    simp [hget, pure, Except.pure]

/-- The checks of a response of the type that the call waits for. -/
theorem setup_returns_iff (hplaces : SetupPlaces fields) (hof : obj.Of fields) (hunset : obj.Unset)
    (hfill : Filled fields obj objs.cmd d n) (hne : d ≠ []) :
    (∃ right, andThen (verifyMessageTag call objs) (verifyConsoleId ctx objs) = .ok right) ↔
      ((∀ tag ∈ call.messageTag, d.head? = some tag) → consoleIdStart < d.length) := by
  rw [verifyMessageTag_eq hplaces hof hunset hfill hne]
  by_cases htag : ∀ tag ∈ call.messageTag, d.head? = some tag
  · rw [decide_eq_true htag, ← verifyConsoleId_returns_iff ctx hplaces hof hunset hfill]
    exact ⟨fun h _ => h, fun h => h htag⟩
  · rw [decide_eq_false htag]
    exact iff_of_true ⟨false, rfl⟩ fun h => absurd h htag

end Setup

/-- The responses of the session setup. -/
theorem setupPlaces_of_compared (hfit : objs.Fit ndebug cmdTmpl)
    (hrequest : requestPayloadType call.payloadType = true)
    (hsetup : call.payloadType ≠ ipmiPayloadTypeIpmi)
    (hcompared : objs.comparePayload (responsePayloadType call.payloadType) = .ok ()) :
    SetupPlaces cmdTmpl.fields ∧ responsePayloadType call.payloadType ≠ ipmiPayloadTypeIpmi ∧
      ¬ Ciphered (responsePayloadType call.payloadType) := by
  have hfields : ∀ {tmpl : FiidTemplate}, TemplateOk tmpl →
      fiidObjTemplateCompareStrict objs.cmd tmpl = .ok () → cmdTmpl.fields = tmpl.fields :=
    fun hok hcmp => hfit.cmd.wf.of.fields.symm.trans (hfit.cmd.wf.of_compare hok hcmp).fields
  simp only [requestPayloadType, Bool.or_eq_true, beq_iff_eq] at hrequest
  rcases hrequest with ((hipmi | hopen) | hrakp1) | hrakp3
  · exact absurd hipmi hsetup
  · rw [hopen] at hcompared ⊢
    rw [hfields (by decide) (show fiidObjTemplateCompareStrict objs.cmd tmplRmcpplusOpenSessionResponse
      = .ok () from hcompared)]
    exact ⟨⟨by decide, by decide, by decide⟩, by decide, by decide⟩
  · rw [hrakp1] at hcompared ⊢
    rw [hfields (by decide) (show fiidObjTemplateCompareStrict objs.cmd tmplRmcpplusRakpMessage2
      = .ok () from hcompared)]
    exact ⟨⟨by decide, by decide, by decide⟩, by decide, by decide⟩
  · rw [hrakp3] at hcompared ⊢
    rw [hfields (by decide) (show fiidObjTemplateCompareStrict objs.cmd tmplRmcpplusRakpMessage4
      = .ok () from hcompared)]
    exact ⟨⟨by decide, by decide, by decide⟩, by decide, by decide⟩

theorem verifySetup_returns_iff
    (h : Rmcpplus.Accepted crypto algorithms confidentialityKey cmdTmpl.fields pkt objs)
    (hfit : objs.Fit ndebug cmdTmpl) (hcall : call.Valid ctx integrityAlgorithm)
    (hsetup : call.payloadType ≠ ipmiPayloadTypeIpmi) :
    (∃ right, verifySetup ctx call objs = .ok right) ↔
      (call.Awaits pkt → consoleIdStart < (payloadAt pkt).length) := by
  rw [verifySetup, verifyPayloadType_eq h, VerifyCall20.Awaits]
  by_cases htype : (headerAt pkt).payloadType = responsePayloadType call.payloadType
  · obtain ⟨hplaces, hne, hplain⟩ := setupPlaces_of_compared hfit hcall.payloadType hsetup
      (htype ▸ h.compared)
    obtain ⟨obj, n, hof, hunset, hfill⟩ := h.payload.other (by rw [htype]; exact hne)
    rw [Rmcpplus.messageOf, if_neg (by rw [htype]; exact fun hboth => hplain hboth.1)] at hfill
    rw [decide_eq_true htype, and_iff_right htype,
      ← setup_returns_iff hplaces hof hunset hfill h.readable.payload_ne_nil]
    rfl
  · rw [decide_eq_false htype]
    exact iff_of_true ⟨false, rfl⟩ fun hboth => absurd hboth.1 htype

theorem accepted_returns_iff
    (h : Rmcpplus.Accepted crypto algorithms confidentialityKey cmdTmpl.fields pkt objs)
    (hfit : objs.Fit ndebug cmdTmpl) (hcall : call.Valid ctx integrityAlgorithm)
    (hlen : pkt.length ≤ ipmiMaxPktLen) :
    (∃ right, (verifyPacket20 crypto ctx integrityAlgorithm call objs pkt w).1 = .ok right) ↔
      Verifiable crypto ctx integrityAlgorithm call objs pkt w := by
  have hassert : ¬ (ctx.type ≠ .lan20 ∨ (!requestPayloadType call.payloadType) = true
      ∨ (!ipmiIntegrityAlgorithmSupported integrityAlgorithm) = true
      ∨ call.password.length > ipmi20MaxPasswordLength ∨ pkt.length = 0) := by
    have hlong := h.readable.long
    have hpassword := hcall.password
    rw [hcall.payloadType, hcall.integrity]
    rintro (hne | hfalse | hfalse | hover | hzero)
    · exact hne hcall.type
    · cases hfalse
    · cases hfalse
    · omega
    · omega
  rw [verifyPacket20, if_neg hassert]
  by_cases htype : call.payloadType = ipmiPayloadTypeIpmi
  · rw [if_pos htype]
    have hnumber : (∃ r, verifySequenceNumber20 ctx call objs w = .ok r) ↔ _ :=
      verifySequenceNumber20_returns_iff h hcall
    obtain ⟨right, hmsg⟩ := verifyMsg_returns h hfit hcall htype hlen
    have hverifiable : (right = true → call.sessionSequenceNumber.isSome = true →
          ¬ FirstIsLast true w (inOrder ctx.toOutOfBand (headerAt pkt).sessionSequenceNumber)) →
        Verifiable crypto ctx integrityAlgorithm call objs pkt w := fun hdef =>
      ⟨fun hne => absurd htype hne, fun _ hok => hdef (Except.ok.inj (hmsg.symm.trans hok))⟩
    rw [hmsg]
    cases right with
    | false => exact iff_of_true ⟨false, rfl⟩ (hverifiable nofun)
    | true =>
      dsimp only
      rcases hseq : verifySequenceNumber20 ctx call objs w with e | ⟨passed, w'⟩
      · refine iff_of_false nofun fun hv => ?_
        obtain ⟨r, hr⟩ := hnumber.mpr (hv.number htype hmsg)
        cases hseq.symm.trans hr
      · refine iff_of_true ?_ (hverifiable fun _ => hnumber.mp ⟨_, hseq⟩)
        cases passed with
        | false => exact ⟨false, rfl⟩
        | true =>
          have hpayload := (andThen_accepts.mp hmsg).1
          rw [verifyPayloadType_eq h, Except.ok.injEq, decide_eq_true_eq, responsePayloadType,
            if_pos htype] at hpayload
          exact (msgRead_checks (h.payload.msg hpayload)).2 _
  · rw [if_neg htype]
    refine (verifySetup_returns_iff h hfit hcall htype).trans ⟨fun hsetup => ?_, fun hv => ?_⟩
    · exact ⟨fun _ => hsetup, fun hipmi => absurd hipmi htype⟩
    · exact hv.setup htype

/-- The verification of a packet that was taken apart returns 1 or 0 exactly when a response that the
    call waits for is not cut in front of the session id of the console, and the number of a packet in
    the session has a result. -/
theorem verifyPacket20_returns_iff {before : RmcpplusObjs} {flags : BitVec 32}
    (hobjs : before.Fit ndebug cmdTmpl) (hbytes : before.sessionTrlr.ByteLens)
    (hret : unassembleIpmiRmcpplusPkt crypto algorithms confidentialityKey pkt before flags
      = .ok (true, objs)) (hcall : call.Valid ctx integrityAlgorithm) (hlen : pkt.length ≤ ipmiMaxPktLen) :
    (∃ right, (verifyPacket20 crypto ctx integrityAlgorithm call objs pkt w).1 = .ok right) ↔
      Verifiable crypto ctx integrityAlgorithm call objs pkt w :=
  accepted_returns_iff (hobjs.accepted hbytes hret)
    (hobjs.becomes (unassembleIpmiRmcpplusPkt_becomes hret)) hcall hlen

end Verify

end FreeIpmi.Api
