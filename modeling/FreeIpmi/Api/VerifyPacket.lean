import FreeIpmi.Lan.Fields
import FreeIpmi.Util.SequenceNumber

/-! The verification of a received packet (`_api_lan_cmd_wrapper_verify_packet` in
    `api/ipmi-lan-session-common.c`): session id, checksums, authentication code, session sequence
    number and sequence number of the request, each with the workarounds that relax it.

    The checks are a chain, and the session sequence number moves the window of the session on the
    way. On a parsed packet the chain is a conjunction (`verifyPacket_accepts_iff`). -/

namespace FreeIpmi.Api
open Fiid Lan Util Calls LittleEndian

/-! ### Flags -/

def workaroundAcceptSessionIdZero : BitVec 32 := 0x00000002
def workaroundCheckUnexpectedAuthcode : BitVec 32 := 0x00000008
def workaroundBigEndianSequenceNumber : BitVec 32 := 0x00000010
def workaroundNoAuthCodeCheck : BitVec 32 := 0x00000020
def workaroundNoChecksumCheck : BitVec 32 := 0x00000040

/-- `IPMI_FLAGS_IGNORE_AUTHENTICATION_CODE`. -/
def flagsIgnoreAuthenticationCode : BitVec 32 := 0x00000400

/-- `IPMI_INTERNAL_WORKAROUND_FLAGS_CHECK_UNEXPECTED_AUTHCODE`. -/
def internalCheckUnexpectedAuthcode : BitVec 32 := 0x00000002

def hasFlag (flags flag : BitVec 32) : Bool := flags &&& flag != 0

/-- `ctx->type`, of the types that come here. -/
inductive DeviceType where | lan | lan20
  deriving DecidableEq

/-- What the verification reads of the context, but for the window. -/
structure OutOfBand where
  type : DeviceType
  workaroundFlags : BitVec 32
  flags : BitVec 32
  perMsgAuthDisabled : Bool
  authenticationType : Byte

/-- The arguments; `none` is NULL, and a NULL password has no bytes. -/
structure VerifyCall where
  internalWorkaroundFlags : BitVec 32
  authenticationType : Byte
  checkAuthenticationCode : Bool
  sessionSequenceNumber : Option (BitVec 32)
  sessionId : BitVec 32
  rqSeq : Option Byte
  password : List Byte

/-! ### The source -/

/-- `api_lan_cmd_get_session_parameters`: the authentication type and the internal flags of a command
    inside the session. -/
def apiLanCmdGetSessionParameters (ctx : OutOfBand) : Byte × BitVec 32 :=
  if ctx.perMsgAuthDisabled then
    (ipmiAuthenticationTypeNone,
      if hasFlag ctx.workaroundFlags workaroundCheckUnexpectedAuthcode then
        internalCheckUnexpectedAuthcode
      else 0)
  else (ctx.authenticationType, 0)

/-- `ipmi_check_completion_code`. -/
def ipmiCheckCompletionCode (objCmd : Option FiidObj) (completionCode : Byte) : Except Stop Bool :=
  headerCheck (fiidObjValid objCmd) objCmd "comp_code" completionCode

/-- `ipmi_check_completion_code_success`. -/
def ipmiCheckCompletionCodeSuccess (objCmd : Option FiidObj) : Except Stop Bool :=
  ipmiCheckCompletionCode objCmd 0

/-- The bytes the other way round. -/
def flipBytes (n : BitVec 32) : BitVec 32 :=
  (n &&& 0xFF000000) >>> 24 ||| (n &&& 0x00FF0000) >>> 8 ||| (n &&& 0x0000FF00) <<< 8
    ||| (n &&& 0x000000FF) <<< 24

/-- `_ipmi_check_session_sequence_number`. -/
def ipmiCheckSessionSequenceNumber (ctx : OutOfBand) (sessionSequenceNumber : BitVec 32) (w : Window) :
    Except Stop (Bool × Window) :=
  let sessionSequenceNumber :=
    if hasFlag ctx.workaroundFlags workaroundBigEndianSequenceNumber then
      flipBytes sessionSequenceNumber
    else sessionSequenceNumber
  checkSessionSequenceNumber sessionSequenceNumber w 0 (ctx.type = .lan20)

/-- The second chance of a packet with another session id: an answer with a bad completion code. -/
def secondChance (objs : LanObjs) : Bool :=
  match ipmiCheckCompletionCodeSuccess (some objs.cmd) with
  | .error _ => false
  | .ok success => !success

def verifySessionId (ctx : OutOfBand) (call : VerifyCall) (objs : LanObjs) : Except Stop Bool := do
  let val ← fiidObjGetStrict objs.sessionHdr "session_id"
  let rsSessionId : BitVec 32 := val.setWidth 32
  return call.sessionId = rsSessionId
    || hasFlag ctx.workaroundFlags workaroundAcceptSessionIdZero && rsSessionId = 0
    || secondChance objs

def verifyChecksum (ctx : OutOfBand) (objs : LanObjs) : Except Stop Bool :=
  if hasFlag ctx.workaroundFlags workaroundNoChecksumCheck then .ok true
  else ipmiLanCheckChecksum objs.msgHdr objs.cmd objs.msgTrlr

/-- The check of the code is asked for, and no flag switches it off. -/
def VerifyCall.checksCode (call : VerifyCall) (ctx : OutOfBand) : Bool :=
  call.checkAuthenticationCode && !hasFlag ctx.flags flagsIgnoreAuthenticationCode
    && !hasFlag ctx.workaroundFlags workaroundNoAuthCodeCheck

/-- `ipmi_lan_check_session_authentication_code` on the received objects. -/
def checkCode (digests : Digests) (objs : LanObjs) (authenticationType : Byte)
    (password : List Byte) : Except Stop Bool :=
  ipmiLanCheckSessionAuthenticationCode digests objs.sessionHdr objs.msgHdr objs.cmd objs.msgTrlr
    authenticationType password

/-- The second attempt at the code repeats the first. -/
def verifyCode (digests : Digests) (ctx : OutOfBand) (call : VerifyCall) (objs : LanObjs) :
    Except Stop Bool := do
  if call.checksCode ctx then
    let ret ← checkCode digests objs call.authenticationType call.password
    if hasFlag call.internalWorkaroundFlags internalCheckUnexpectedAuthcode && !ret then
      checkCode digests objs call.authenticationType call.password
    else return ret
  else return true

def verifySequenceNumber (ctx : OutOfBand) (call : VerifyCall) (objs : LanObjs) (w : Window) :
    Except Stop (Bool × Window) :=
  match call.sessionSequenceNumber with
  | none => .ok (true, w)
  | some _ => do
    let val ← fiidObjGetStrict objs.sessionHdr "session_sequence_number"
    ipmiCheckSessionSequenceNumber ctx (val.setWidth 32) w

/-- A check, and the next one on what it lets through. -/
def andThen (check next : Except Stop Bool) : Except Stop Bool := do
  if ← check then next else return false

/-- `_api_lan_cmd_wrapper_verify_packet`: the verdict, and the window it leaves. -/
def verifyPacket (digests : Digests) (ctx : OutOfBand) (call : VerifyCall) (objs : LanObjs)
    (w : Window) : Except Stop Bool × Window :=
  if !ipmi15AuthenticationTypeValid call.authenticationType
      || call.password.length > ipmi15MaxPasswordLength then (.error .assertion, w)
  else
    match andThen (verifySessionId ctx call objs)
      (andThen (verifyChecksum ctx objs) (verifyCode digests ctx call objs)) with
    | .error e => (.error e, w)
    | .ok false => (.ok false, w)
    | .ok true =>
      match verifySequenceNumber ctx call objs w with
      | .error e => (.error e, w)
      | .ok (false, w) => (.ok false, w)
      | .ok (true, w) => (ipmiLanCheckRqSeq (some objs.msgHdr) (call.rqSeq.getD 0), w)

/-! ### What is verified -/

section Verify
variable {digests : Digests} {ctx : OutOfBand} {call : VerifyCall} {pkt : List Byte} {objs : LanObjs}
  {w : Window}

/-- The arguments as the callers have to pass them. -/
structure VerifyCall.Valid (call : VerifyCall) : Prop where
  authenticationType : ipmi15AuthenticationTypeValid call.authenticationType = true
  password : call.password.length ≤ ipmi15MaxPasswordLength

/-- The completion code of an answer is there and is an error. -/
def IsError (objs : LanObjs) : Prop := ipmiCheckCompletionCodeSuccess (some objs.cmd) = .ok false

def Verifies (digests : Digests) (objs : LanObjs) (authenticationType : Byte) (password : List Byte) :
    Prop :=
  checkCode digests objs authenticationType password = .ok true

/-- The session id is the expected one, or is zero where that is tolerated. -/
def SessionIdRight (ctx : OutOfBand) (call : VerifyCall) (pkt : List Byte) (objs : LanObjs) : Prop :=
  sessionIdAt pkt = call.sessionId ∨
    sessionIdAt pkt = 0 ∧
      (hasFlag ctx.workaroundFlags workaroundAcceptSessionIdZero = true ∨ IsError objs)

def ChecksumsRight (ctx : OutOfBand) (objs : LanObjs) : Prop :=
  hasFlag ctx.workaroundFlags workaroundNoChecksumCheck = true ∨
    ipmiLanCheckChecksum objs.msgHdr objs.cmd objs.msgTrlr = .ok true

/-- A second attempt was asked for, which is to be made with the type of the session. -/
def VerifyCall.unexpectedCode (call : VerifyCall) : Bool :=
  hasFlag call.internalWorkaroundFlags internalCheckUnexpectedAuthcode

def CodeRight (digests : Digests) (ctx : OutOfBand) (call : VerifyCall) (objs : LanObjs) : Prop :=
  call.checksCode ctx = true →
    Verifies digests objs call.authenticationType call.password ∨
      call.unexpectedCode = true ∧ Verifies digests objs ctx.authenticationType call.password

/-- The number of the packet, in the byte order that the BMC is known for, is one that the window
    of the session accepts. -/
def SequenceNumberRight (ctx : OutOfBand) (call : VerifyCall) (pkt : List Byte) (w : Window) : Prop :=
  call.sessionSequenceNumber.isSome = true →
    ∃ w', ipmiCheckSessionSequenceNumber ctx (sessionSequenceNumberAt pkt) w = .ok (true, w')

/-- The packet is the answer that the call waits for. -/
structure Acceptable (digests : Digests) (ctx : OutOfBand) (call : VerifyCall) (pkt : List Byte)
    (objs : LanObjs) (w : Window) : Prop where
  sessionId : SessionIdRight ctx call pkt objs
  checksums : ChecksumsRight ctx objs
  code : CodeRight digests ctx call objs
  sequenceNumber : SequenceNumberRight ctx call pkt w
  rqSeq : rqSeqAt pkt = call.rqSeq.getD 0

/-- The second attempt belongs to a session without per-message authentication whose workaround is
    on; the first type is then none, and else the type of the session. -/
theorem getSessionParameters_unexpected (ctx : OutOfBand) :
    hasFlag (apiLanCmdGetSessionParameters ctx).2 internalCheckUnexpectedAuthcode
        = (ctx.perMsgAuthDisabled && hasFlag ctx.workaroundFlags workaroundCheckUnexpectedAuthcode) ∧
      (apiLanCmdGetSessionParameters ctx).1
        = if ctx.perMsgAuthDisabled then ipmiAuthenticationTypeNone else ctx.authenticationType := by
  rw [apiLanCmdGetSessionParameters]
  cases ctx.perMsgAuthDisabled with
  | false => simp [hasFlag]
  | true =>
    cases hasFlag ctx.workaroundFlags workaroundCheckUnexpectedAuthcode with
    | false => simp [hasFlag]
    | true => simp [hasFlag, internalCheckUnexpectedAuthcode]

/-! ### The chain of checks -/

@[simp] theorem andThen_accepts {check next : Except Stop Bool} :
    andThen check next = .ok true ↔ check = .ok true ∧ next = .ok true := by
  rcases check with e | _ | _ <;> simp [andThen, pure, Except.pure]

/-- A field of the session header, as the verification reads it. -/
theorem sessionHdr_get (h : Accepted pkt objs) {field : String} {o : ℕ}
    (hplace : valuePlace tmplLanSessionHdr.fields (sessionLens (authenticationTypeAt pkt)) field
      = some (8 * o, 32)) (hroom : o + 4 ≤ 10) :
    ∃ val, fiidObjGetStrict objs.sessionHdr field = .ok val ∧
      val.setWidth 32 = BitVec.ofNat 32 (leValue ((pkt.drop (4 + o)).take 4)) := by
  have hlong := h.long
  refine ⟨_, h.session.getStrict h.sessionOf hplace, ?_⟩
  have hval := toNat_valueAt (n := 4) (o := 4 + o) (b := pkt) (by norm_num) (by omega)
  rw [valueAt_slice (by omega), ← hval, BitVec.ofNat_toNat]
  congr 2
  omega

theorem secondChance_iff : secondChance objs = true ↔ IsError objs := by
  rw [secondChance, IsError]
  rcases ipmiCheckCompletionCodeSuccess (some objs.cmd) with e | _ | _ <;> simp

/-- An answer with another session id passes if its completion code is an error, whatever the id. -/
theorem verifySessionId_accepts (h : Accepted pkt objs) :
    verifySessionId ctx call objs = .ok true ↔
      SessionIdRight ctx call pkt objs ∨ IsError objs := by
  obtain ⟨val, hget, hval⟩ := sessionHdr_get h (show valuePlace _ _ "session_id" = some (8 * 5, 32) from rfl)
    (by norm_num)
  have hid : val.setWidth 32 = sessionIdAt pkt := hval
  rw [verifySessionId, hget, SessionIdRight, ← secondChance_iff]
  simp only [ok_bind, pure, Except.pure, Except.ok.injEq, hid, Bool.or_eq_true, Bool.and_eq_true,
    decide_eq_true_eq]
  constructor
  · rintro ((hsame | ⟨hflag, hzero⟩) | hchance)
    · exact Or.inl (Or.inl hsame.symm)
    · exact Or.inl (Or.inr ⟨hzero, Or.inl hflag⟩)
    · exact Or.inr hchance
  · rintro ((hsame | ⟨hzero, hflag | hchance⟩) | hchance)
    · exact Or.inl (Or.inl hsame.symm)
    · exact Or.inl (Or.inr ⟨hflag, hzero⟩)
    · exact Or.inr hchance
    · exact Or.inr hchance

theorem verifyChecksum_accepts :
    verifyChecksum ctx objs = .ok true ↔ ChecksumsRight ctx objs := by
  rw [verifyChecksum, ChecksumsRight]
  cases hasFlag ctx.workaroundFlags workaroundNoChecksumCheck with
  | false => simp
  | true => simp

/-- The code has to be one of the first type, attempted twice or not. -/
theorem verifyCode_accepts :
    verifyCode digests ctx call objs = .ok true ↔
      (call.checksCode ctx = true → Verifies digests objs call.authenticationType call.password) := by
  rw [verifyCode, Verifies]
  cases call.checksCode ctx with
  | false => simp [pure, Except.pure]
  | true =>
    rcases checkCode digests objs call.authenticationType call.password with e | _ | _
    · simp
    · cases hasFlag call.internalWorkaroundFlags internalCheckUnexpectedAuthcode <;>
        simp [pure, Except.pure]
    · simp [pure, Except.pure]

theorem verifySequenceNumber_accepts (h : Accepted pkt objs) :
    (∃ w', verifySequenceNumber ctx call objs w = .ok (true, w')) ↔
      SequenceNumberRight ctx call pkt w := by
  obtain ⟨val, hget, hval⟩ := sessionHdr_get h
    (show valuePlace _ _ "session_sequence_number" = some (8 * 1, 32) from rfl) (by norm_num)
  have hnumber : val.setWidth 32 = sessionSequenceNumberAt pkt := hval
  rw [verifySequenceNumber, SequenceNumberRight]
  cases call.sessionSequenceNumber with
  | none => simp
  | some number => simp [hget, hnumber]

/-- The checks that do not change the state. -/
def FrontRight (digests : Digests) (ctx : OutOfBand) (call : VerifyCall) (pkt : List Byte)
    (objs : LanObjs) : Prop :=
  (SessionIdRight ctx call pkt objs ∨ IsError objs) ∧ ChecksumsRight ctx objs ∧
    (call.checksCode ctx = true → Verifies digests objs call.authenticationType call.password)

theorem frontChecks_accept (h : Accepted pkt objs) :
    andThen (verifySessionId ctx call objs)
      (andThen (verifyChecksum ctx objs) (verifyCode digests ctx call objs)) = .ok true ↔
        FrontRight digests ctx call pkt objs := by
  rw [andThen_accepts, andThen_accepts, verifySessionId_accepts h, verifyChecksum_accepts,
    verifyCode_accepts, FrontRight]

theorem VerifyCall.Valid.not_asserts (hcall : call.Valid) :
    ¬ (!ipmi15AuthenticationTypeValid call.authenticationType
      || decide (call.password.length > ipmi15MaxPasswordLength)) = true := by
  have hpassword := hcall.password
  simp [hcall.authenticationType, hpassword]

/-- What the chain accepts. -/
theorem verifyPacket_accepts_iff (hcall : call.Valid) (h : Accepted pkt objs) :
    (verifyPacket digests ctx call objs w).1 = .ok true ↔
      FrontRight digests ctx call pkt objs ∧ SequenceNumberRight ctx call pkt w ∧
        rqSeqAt pkt = call.rqSeq.getD 0 := by
  have hfront : _ ↔ FrontRight digests ctx call pkt objs := frontChecks_accept h
  rw [verifyPacket, if_neg hcall.not_asserts, ← hfront, ← verifySequenceNumber_accepts h]
  rcases andThen (verifySessionId ctx call objs)
      (andThen (verifyChecksum ctx objs) (verifyCode digests ctx call objs)) with e | _ | _
  · simp
  · simp
  · rcases verifySequenceNumber ctx call objs w with e | ⟨_ | _, w'⟩
    · simp
    · simp
    · have hrqSeq : ipmiLanCheckRqSeq (some objs.msgHdr) (call.rqSeq.getD 0) = .ok true ↔
          rqSeqAt pkt = call.rqSeq.getD 0 := by
        rw [h.rqSeq]
        simp
      simpa using hrqSeq

/-! ### The two slips -/

/-- The answer is to another session, which a bad completion code makes up for. -/
def ErrorElsewhere (call : VerifyCall) (pkt : List Byte) (objs : LanObjs) : Prop :=
  sessionIdAt pkt ≠ call.sessionId ∧ sessionIdAt pkt ≠ 0 ∧ IsError objs

/-- The authentication code is only right for the second attempt, with the type of the session. -/
def CodeUnexpected (digests : Digests) (ctx : OutOfBand) (call : VerifyCall) (objs : LanObjs) : Prop :=
  call.checksCode ctx = true ∧ call.unexpectedCode = true ∧
    ¬ Verifies digests objs call.authenticationType call.password ∧
    Verifies digests objs ctx.authenticationType call.password

/-- The checks that are as they should be. -/
def OthersRight (ctx : OutOfBand) (call : VerifyCall) (pkt : List Byte) (objs : LanObjs) (w : Window) :
    Prop :=
  ChecksumsRight ctx objs ∧ SequenceNumberRight ctx call pkt w ∧ rqSeqAt pkt = call.rqSeq.getD 0

/-- One of the slips decides about the packet: it would be accepted but for the other session id, or
    but for the type of its authentication code. -/
def Misjudged (digests : Digests) (ctx : OutOfBand) (call : VerifyCall) (pkt : List Byte)
    (objs : LanObjs) (w : Window) : Prop :=
  OthersRight ctx call pkt objs w ∧
    (ErrorElsewhere call pkt objs ∧
        (call.checksCode ctx = true → Verifies digests objs call.authenticationType call.password) ∨
      SessionIdRight ctx call pkt objs ∧ CodeUnexpected digests ctx call objs)

theorem sessionIdRight_or_error :
    SessionIdRight ctx call pkt objs ∨ IsError objs ↔
      SessionIdRight ctx call pkt objs ∨ ErrorElsewhere call pkt objs := by
  constructor
  · rintro (hright | herror)
    · exact Or.inl hright
    · by_cases hsame : sessionIdAt pkt = call.sessionId
      · exact Or.inl (Or.inl hsame)
      · by_cases hzero : sessionIdAt pkt = 0
        · exact Or.inl (Or.inr ⟨hzero, Or.inr herror⟩)
        · exact Or.inr ⟨hsame, hzero, herror⟩
  · rintro (hright | ⟨-, -, herror⟩)
    · exact Or.inl hright
    · exact Or.inr herror

theorem ErrorElsewhere.not_right (h : ErrorElsewhere call pkt objs) :
    ¬ SessionIdRight ctx call pkt objs := by
  rintro (hsame | ⟨hzero, -⟩)
  · exact h.1 hsame
  · exact h.2.1 hzero

theorem codeRight_iff :
    CodeRight digests ctx call objs ↔
      (call.checksCode ctx = true → Verifies digests objs call.authenticationType call.password) ∨
        CodeUnexpected digests ctx call objs := by
  rw [CodeRight, CodeUnexpected]
  by_cases hchecks : call.checksCode ctx = true
  · by_cases hverifies : Verifies digests objs call.authenticationType call.password
    · simp [hverifies]
    · simp [hchecks, hverifies]
  · simp [hchecks]

/-- The verification returns 1 for the acceptable packets, exactly for those that no slip decides
    about. -/
theorem verifyPacket_acceptable_iff {ndebug : Bool} {cmdTmpl : FiidTemplate} {before : LanObjs}
    {flags : BitVec 32} (hobjs : before.Passed ndebug cmdTmpl)
    (hret : unassembleIpmiLanPkt pkt before flags = .ok (true, objs)) (hcall : call.Valid) :
    ((verifyPacket digests ctx call objs w).1 = .ok true ↔ Acceptable digests ctx call pkt objs w) ↔
      ¬ Misjudged digests ctx call pkt objs w := by
  rw [verifyPacket_accepts_iff hcall (hobjs.accepted hret), FrontRight, sessionIdRight_or_error]
  constructor
  · intro hiff
    rintro ⟨⟨hchecksums, hnumber, hrqSeq⟩, ⟨helse, hcode⟩ | ⟨hid, hcode⟩⟩
    · have hacc := hiff.mp ⟨⟨Or.inr helse, hchecksums, hcode⟩, hnumber, hrqSeq⟩
      exact helse.not_right hacc.sessionId
    · have hacc : Acceptable digests ctx call pkt objs w :=
        ⟨hid, hchecksums, codeRight_iff.mpr (Or.inr hcode), hnumber, hrqSeq⟩
      obtain ⟨⟨-, -, hverifies⟩, -⟩ := hiff.mpr hacc
      exact hcode.2.2.1 (hverifies hcode.1)
  · intro hnot
    constructor
    · rintro ⟨⟨hid, hchecksums, hcode⟩, hnumber, hrqSeq⟩
      have hright : SessionIdRight ctx call pkt objs := by
        refine hid.resolve_right fun helse => hnot ?_
        exact ⟨⟨hchecksums, hnumber, hrqSeq⟩, Or.inl ⟨helse, hcode⟩⟩
      exact ⟨hright, hchecksums, codeRight_iff.mpr (Or.inl hcode), hnumber, hrqSeq⟩
    · rintro ⟨hid, hchecksums, hcode, hnumber, hrqSeq⟩
      have hverifies := (codeRight_iff.mp hcode).resolve_right fun hunexpected => hnot
        ⟨⟨hchecksums, hnumber, hrqSeq⟩, Or.inr ⟨hid, hunexpected⟩⟩
      exact ⟨⟨Or.inl hid, hchecksums, hverifies⟩, hnumber, hrqSeq⟩

/-- On a packet whose command fits its object, checksums and code are those of the bytes. -/
theorem verified_bytes {ndebug : Bool} {cmdTmpl : FiidTemplate} {before : LanObjs}
    {flags : BitVec 32} (hobjs : before.Passed ndebug cmdTmpl)
    (hret : unassembleIpmiLanPkt pkt before flags = .ok (true, objs))
    (hfit : 8 * (cmdBytes pkt (authenticationTypeAt pkt)).length ≤ bitLen cmdTmpl.fields) :
    (ChecksumsRight ctx objs ↔ hasFlag ctx.workaroundFlags workaroundNoChecksumCheck = true ∨
        ipmiLanCheckPacketChecksum pkt = .ok true) ∧
      ∀ authenticationType password, Verifies digests objs authenticationType password ↔
        ipmiLanCheckPacketSessionAuthenticationCode digests pkt authenticationType password
          = .ok true := by
  obtain ⟨hchecksum, hcode⟩ := verifiers_agree digests hobjs hret hfit
  refine ⟨?_, fun authenticationType password => ?_⟩
  · rw [ChecksumsRight, hchecksum]
  · rw [Verifies, checkCode, hcode]

end Verify

/-! ### Where the slips show -/

/-- A session without authentication, and no workarounds. -/
def plainCtx : OutOfBand := ⟨.lan, 0, 0, false, ipmiAuthenticationTypeNone⟩

/-- A command in session 0x05060708, waiting for the answer to request 1. -/
def plainCall : VerifyCall := ⟨0, ipmiAuthenticationTypeNone, true, some 1, 0x05060708, some 1, []⟩

/-- The answer with VLAN id 0x123 for this command. -/
def sessionPkt : List Byte :=
  [6, 0, 0xff, 7] ++ [0, 1, 0, 0, 0, 8, 7, 6, 5] ++ [11] ++ [0x81, 0x34, 0x4b, 0x20, 0x04] ++
    [0x02, 0x00, 0x11, 0x23, 0x81] ++ [0x25]

theorem verifyPacket_acceptable_iff_session : ∃ objs,
    unassembleIpmiLanPkt sessionPkt vlanIdObjs 0 = .ok (true, objs) ∧
      (((verifyPacket zeroDigests plainCtx plainCall objs checkSessionSequenceNumberInit).1 = .ok true ↔
          Acceptable zeroDigests plainCtx plainCall sessionPkt objs checkSessionSequenceNumberInit) ↔
        ¬ Misjudged zeroDigests plainCtx plainCall sessionPkt objs checkSessionSequenceNumberInit) :=
  ⟨_, rfl, verifyPacket_acceptable_iff vlanIdObjs_passed
    (show unassembleIpmiLanPkt sessionPkt vlanIdObjs 0 = .ok (true, _) from rfl)
    ⟨by decide, by decide⟩⟩

/-- An answer in session 0x01020304, with completion code 0xC1. -/
def otherSessionPkt : List Byte :=
  [6, 0, 0xff, 7] ++ [0, 1, 0, 0, 0, 4, 3, 2, 1] ++ [11] ++ [0x81, 0x34, 0x4b, 0x20, 0x04] ++
    [0x02, 0xC1, 0x11, 0x23, 0x81] ++ [0x64]

/-- A session with straight passwords and without per-message authentication, towards a BMC that
    sends authentication codes all the same. -/
def unexpectedCtx : OutOfBand :=
  ⟨.lan, workaroundCheckUnexpectedAuthcode, 0, true, ipmiAuthenticationTypeStraightPasswordKey⟩

/-- The command with the parameters of this session. -/
def unexpectedCall : VerifyCall :=
  { plainCall with
    internalWorkaroundFlags := (apiLanCmdGetSessionParameters unexpectedCtx).2
    authenticationType := (apiLanCmdGetSessionParameters unexpectedCtx).1
    password := [0x61, 0x62] }

/-- The answer with the authentication code of the session, the password. -/
def unexpectedPkt : List Byte :=
  [6, 0, 0xff, 7] ++ [4, 1, 0, 0, 0, 8, 7, 6, 5] ++ pwbuf [0x61, 0x62] ++ [11] ++
    [0x81, 0x34, 0x4b, 0x20, 0x04] ++ [0x02, 0x00, 0x11, 0x23, 0x81] ++ [0x25]

/-- The first answer passes for one to the command in session 0x05060708, and the second one is refused
    although the workaround is on. -/
theorem verifyPacket_slips :
    (∃ objs, unassembleIpmiLanPkt otherSessionPkt vlanIdObjs 0 = .ok (true, objs) ∧ plainCall.Valid ∧
      (verifyPacket zeroDigests plainCtx plainCall objs checkSessionSequenceNumberInit).1 = .ok true ∧
      ¬ Acceptable zeroDigests plainCtx plainCall otherSessionPkt objs
        checkSessionSequenceNumberInit) ∧
    ∃ objs, unassembleIpmiLanPkt unexpectedPkt vlanIdObjs 0 = .ok (true, objs) ∧ unexpectedCall.Valid ∧
      (verifyPacket zeroDigests unexpectedCtx unexpectedCall objs checkSessionSequenceNumberInit).1
        = .ok false ∧
      Acceptable zeroDigests unexpectedCtx unexpectedCall unexpectedPkt objs
        checkSessionSequenceNumberInit := by
  constructor
  · refine ⟨_, rfl, ⟨by decide, by decide⟩, rfl, ?_⟩
    rintro ⟨hid | ⟨hzero, -⟩, -⟩
    · exact absurd hid (by decide)
    · exact absurd hzero (by decide)
  · refine ⟨_, rfl, ⟨by decide, by decide⟩, rfl, Or.inl (by decide), Or.inr rfl, ?_, ?_, by decide⟩
    · intro _
      exact Or.inr ⟨by decide, rfl⟩
    · intro _
      exact ⟨_, rfl⟩

end FreeIpmi.Api
