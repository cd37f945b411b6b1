import FreeIpmi.Fiid.Receive
import FreeIpmi.Lib.Loops
import FreeIpmi.Api.VerifyPacket
import FreeIpmi.Ipmb.Checksums

/-! Bridged commands over KCS (`api_kcs_cmd_ipmb` in `api/ipmi-kcs-driver-api.c`).

    A command for another controller is sent as an IPMB message in a Send Message request, and the
    responses are read with Get Message, until one with the right sequence number and checksums comes.
    The BMC is the sequence of its answers to the two requests, whatever these say. The objects of their
    responses are created successfully, the assertions on the arguments are left to the callers, and so
    is the wait between two reads.

    A message with the sequence number of another request is skipped, and no counter counts it: the
    call ends exactly when finitely many such messages come. -/

namespace FreeIpmi.Ipmb
open Fiid Calls Stages Lan Api Loops

/-! ### Answers -/

/-- The `IPMI_ERR_*` codes that the modelled functions leave in `ctx->errnum`. -/
inductive ApiErr where
  | messageTimeout | bmcBusy | privilegeLevelInsufficient | commandInvalidOrUnsupported
  | badCompletionCode
  -- what `errno` or the error of an object is translated to, never a timeout
  | call (e : Stop)
  deriving DecidableEq

/-- One call of `ipmi_cmd_send_message` or `ipmi_cmd_get_message`: whether it returns 0, and the object
    of the response afterwards. -/
structure CmdRs where
  success : Bool
  obj : FiidObj

/-- `tmpl_cmd_get_message_rs`. -/
def tmplCmdGetMessageRs : FiidTemplate where
  fields :=
    [⟨8, "cmd", requiredFixed ||| fiidFieldMakesPacketSufficient, .refl true⟩,
     ⟨8, "comp_code", requiredFixed ||| fiidFieldMakesPacketSufficient, .refl true⟩,
     ⟨4, "channel_number", requiredFixed, .refl true⟩,
     ⟨4, "inferred_privilege_level", requiredFixed, .refl true⟩,
     ⟨1024, "message_data", fiidFieldOptional ||| fiidFieldLengthVariable, .refl true⟩]

/-- The answers of the BMC, in the order of the requests. -/
structure Bmc where
  sendMessage : ℕ → CmdRs
  getMessage : ℕ → CmdRs
  getMessage_of : ∀ n, (getMessage n).obj.Of tmplCmdGetMessageRs.fields

/-- `ipmi_check_completion_code (obj, completion_code) == 1`. -/
def hasCompletionCode (obj : FiidObj) (completionCode : Byte) : Bool :=
  match ipmiCheckCompletionCode (some obj) completionCode with
  | .ok equal => equal
  | .error _ => false

/-- `api_set_api_errnum_by_bad_response`. -/
def apiErrnumByBadResponse (obj : FiidObj) : ApiErr :=
  -- IPMI_COMP_CODE_COMMAND_TIMEOUT
  if hasCompletionCode obj 0xC3 then .messageTimeout
  -- NODE_BUSY, OUT_OF_SPACE, SDR_REPOSITORY_IN_UPDATE_MODE, DEVICE_IN_FIRMWARE_UPDATE_MODE and
  -- BMC_INITIALIZATION_IN_PROGRESS
  else if hasCompletionCode obj 0xC0 || hasCompletionCode obj 0xC4 || hasCompletionCode obj 0xD0
      || hasCompletionCode obj 0xD1 || hasCompletionCode obj 0xD2 then .bmcBusy
  -- INSUFFICIENT_PRIVILEGE_LEVEL
  else if hasCompletionCode obj 0xD4 then .privilegeLevelInsufficient
  -- INVALID_COMMAND, COMMAND_INVALID_FOR_LUN, REQUEST_DATA_LENGTH_INVALID,
  -- REQUEST_DATA_LENGTH_LIMIT_EXCEEDED, PARAMETER_OUT_OF_RANGE and INVALID_DATA_FIELD_IN_REQUEST
  else if hasCompletionCode obj 0xC1 || hasCompletionCode obj 0xC2 || hasCompletionCode obj 0xC7
      || hasCompletionCode obj 0xC8 || hasCompletionCode obj 0xC9 || hasCompletionCode obj 0xCC then
    .commandInvalidOrUnsupported
  else .badCompletionCode

/-! ### Requests -/

/-- `IPMI_MAX_PKT_LEN`. -/
def ipmiMaxPktLen : ℕ := 4096

/-- `IPMI_SLAVE_ADDRESS_BMC`. -/
def ipmiSlaveAddressBmc : Byte := 0x20

/-- `IPMI_BMC_IPMB_LUN_SMS_MSG_LUN`. -/
def ipmiBmcIpmbLunSmsMsgLun : Byte := 0x02

/-- `IPMI_KCS_IPMB_RETRANSMISSION_COUNT`. -/
def ipmiKcsIpmbRetransmissionCount : ℕ := 64

/-- `IPMI_KCS_IPMB_REREAD_COUNT`. -/
def ipmiKcsIpmbRereadCount : ℕ := 64

/-- What does not change in a call of `api_kcs_cmd_ipmb`: the build option, the target of the context,
    its flag `IPMI_FLAGS_NO_LEGAL_CHECK`, and the request. -/
structure Call where
  ndebug : Bool
  rsAddr : Byte
  netFn : Byte
  lun : Byte
  noLegalCheck : Bool
  objCmdRq : FiidObj

/-- The flags of `unassemble_ipmi_ipmb_msg`. -/
def Call.intfFlags (call : Call) : BitVec 32 :=
  if call.noLegalCheck then ipmiInterfaceFlagsNoLegalCheck else 0

/-- An object that `fiid_obj_create` returns. -/
def created (obj : Option FiidObj) : Except Stop FiidObj :=
  match obj with
  | none => .error (.errno .einval)
  | some obj => .ok obj

/-- The message that `_api_kcs_ipmb_send` makes of the request. -/
def ipmbMsgRq (call : Call) (rqSeq : Byte) : Except Stop (List Byte) := do
  let objIpmbMsgHdrRq ← created (fiidObjCreate call.ndebug tmplIpmbMsgHdrRq)
  let objIpmbMsgRq ← created (fiidObjCreate call.ndebug tmplIpmbMsg)
  let objIpmbMsgHdrRq ← fillIpmbMsgHdr call.rsAddr call.netFn call.lun ipmiSlaveAddressBmc
    ipmiBmcIpmbLunSmsMsgLun rqSeq objIpmbMsgHdrRq
  let (objIpmbMsgRq, _) ← assembleIpmiIpmbMsg call.ndebug objIpmbMsgHdrRq call.objCmdRq objIpmbMsgRq 0
  let (len, buf) ← fiidObjGetAll objIpmbMsgRq ipmiMaxPktLen
  return buf.take len

/-- `_api_kcs_ipmb_send` after some requests: its error, if any, and the number of requests. -/
def apiKcsIpmbSend (call : Call) (bmc : Bmc) (rqSeq : Byte) (sends : ℕ) : Except ApiErr Unit × ℕ :=
  match ipmbMsgRq call rqSeq with
  | .error e => (.error (.call e), sends)
  | .ok _ =>
    let rs := bmc.sendMessage sends
    if rs.success then (.ok (), sends + 1)
    -- LOST_ARBITRATION, BUS_ERROR and NAK_ON_WRITE
    else if hasCompletionCode rs.obj 0x81 || hasCompletionCode rs.obj 0x82
        || hasCompletionCode rs.obj 0x83 then (.error .messageTimeout, sends + 1)
    else (.error (apiErrnumByBadResponse rs.obj), sends + 1)

/-! ### Responses -/

/-- The message object that `_api_kcs_ipmb_recv` fills from an answer. -/
def ipmbMsgRs (call : Call) (rs : CmdRs) : Except ApiErr FiidObj :=
  match created (fiidObjCreate call.ndebug tmplIpmbMsg) with
  | .error e => .error (.call e)
  | .ok objIpmbMsgRs =>
    if !rs.success then
      -- DATA_NOT_AVAILABLE
      if hasCompletionCode rs.obj 0x80 then .error .messageTimeout
      else .error (apiErrnumByBadResponse rs.obj)
    else
      match fiidObjGetData rs.obj "message_data" ipmiMaxPktLen with
      | .error e => .error (.call e)
      | .ok buf =>
        match trySetAll objIpmbMsgRs buf with
        | .error e => .error (.call e)
        | .ok (objIpmbMsgRs, _) => .ok objIpmbMsgRs

/-- `_api_kcs_ipmb_recv`: the objects of the response. That `unassemble_ipmi_ipmb_msg` returns 0 is not
    looked at. -/
def apiKcsIpmbRecv (call : Call) (rs : CmdRs) (objs : IpmbObjs) : Except ApiErr IpmbObjs :=
  match ipmbMsgRs call rs with
  | .error err => .error err
  | .ok objIpmbMsgRs =>
    match unassembleIpmiIpmbMsg objIpmbMsgRs objs call.intfFlags with
    | .error e => .error (.call e)
    | .ok (_, objs) => .ok objs

/-! ### The loop -/

/-- The variables of the loop, `ctx->io.inband.rq_seq`, and how many requests were issued. -/
structure State where
  rqSeq : Byte
  retransmissionCount : ℕ
  rereadCount : ℕ
  objs : IpmbObjs
  sends : ℕ
  gets : ℕ

/-- What `api_kcs_cmd_ipmb` leaves behind: the objects of the response or the error, the next sequence
    number, and how many requests were issued. -/
structure Outcome where
  response : Except ApiErr IpmbObjs
  rqSeq : Byte
  sends : ℕ
  gets : ℕ

/-- The next sequence number. -/
def nextRqSeq (rqSeq : Byte) : Byte := (rqSeq + 1) % (ipmiIpmbRequesterSequenceNumberMax + 1)

/-- The `cleanup` of `api_kcs_cmd_ipmb`. -/
def State.cleanup (s : State) (response : Except ApiErr IpmbObjs) : Outcome :=
  ⟨response, nextRqSeq s.rqSeq, s.sends, s.gets⟩

/-- One round of the loop of `api_kcs_cmd_ipmb`. -/
def round (call : Call) (bmc : Bmc) (s : State) : State ⊕ Outcome :=
  let read := { s with gets := s.gets + 1 }
  match apiKcsIpmbRecv call (bmc.getMessage s.gets) s.objs with
  | .error err =>
    if err = .messageTimeout then
      if ipmiKcsIpmbRereadCount < s.rereadCount + 1 then .inr (read.cleanup (.error .messageTimeout))
      else .inl { read with rereadCount := s.rereadCount + 1 }
    else .inr (read.cleanup (.error err))
  | .ok objs =>
    let read := { read with objs }
    match ipmiIpmbCheckRqSeq objs.msgHdr s.rqSeq with
    | .error e => .inr (read.cleanup (.error (.call e)))
    | .ok false => .inl read
    | .ok true =>
      match ipmiIpmbCheckChecksum ipmiSlaveAddressBmc objs.msgHdr objs.cmd objs.msgTrlr with
      | .error e => .inr (read.cleanup (.error (.call e)))
      | .ok true => .inr (read.cleanup (.ok objs))
      | .ok false =>
        if ipmiKcsIpmbRetransmissionCount < s.retransmissionCount + 1 then
          .inr (read.cleanup (.error .messageTimeout))
        else
          let again := { read with
            retransmissionCount := s.retransmissionCount + 1, rqSeq := nextRqSeq s.rqSeq }
          match apiKcsIpmbSend call bmc again.rqSeq s.sends with
          | (.error err, sends) => .inr ({ again with sends }.cleanup (.error err))
          | (.ok _, sends) => .inl { again with sends }

/-- `api_kcs_cmd_ipmb` up to its loop: the state in which the loop starts, or the outcome. -/
def start (call : Call) (bmc : Bmc) (rqSeq : Byte) (objCmdRs : FiidObj) : State ⊕ Outcome :=
  let next := nextRqSeq rqSeq
  match created (fiidObjCreate call.ndebug tmplIpmbMsgHdrRs),
      created (fiidObjCreate call.ndebug tmplIpmbMsgTrlr) with
  | .ok objIpmbMsgHdrRs, .ok objIpmbMsgTrlr =>
    match apiKcsIpmbSend call bmc rqSeq 0 with
    | (.error err, sends) => .inr ⟨.error err, next, sends, 0⟩
    | (.ok _, sends) => .inl ⟨rqSeq, 0, 0, ⟨objIpmbMsgHdrRs, objCmdRs, objIpmbMsgTrlr⟩, sends, 0⟩
  | .error e, _ => .inr ⟨.error (.call e), next, 0, 0⟩
  | _, .error e => .inr ⟨.error (.call e), next, 0, 0⟩

/-- `api_kcs_cmd_ipmb` with at most `n` rounds of its loop. -/
def apiKcsCmdIpmb (call : Call) (bmc : Bmc) (rqSeq : Byte) (objCmdRs : FiidObj) (n : ℕ) :
    Option Outcome :=
  match start call bmc rqSeq objCmdRs with
  | .inl s => run (round call bmc) n s
  | .inr r => some r

/-! ### What a round can do -/

/-- A round that reads a message with another sequence number. -/
def stray (call : Call) (bmc : Bmc) (s : State) : Bool :=
  match apiKcsIpmbRecv call (bmc.getMessage s.gets) s.objs with
  | .error _ => false
  | .ok objs =>
    match ipmiIpmbCheckRqSeq objs.msgHdr s.rqSeq with
    | .ok equal => !equal
    | .error _ => false

section Round
variable {call : Call} {bmc : Bmc} {s s' : State} {r : Outcome} {objs : IpmbObjs}

/-- The rounds that go on: nothing was there to read, the message was for another request, or its
    checksum was wrong. -/
inductive Next (call : Call) (bmc : Bmc) (s : State) : State → Prop where
  | reread (hcount : s.rereadCount < ipmiKcsIpmbRereadCount) :
      Next call bmc s { s with gets := s.gets + 1, rereadCount := s.rereadCount + 1 }
  | skip {objs : IpmbObjs} (hrecv : apiKcsIpmbRecv call (bmc.getMessage s.gets) s.objs = .ok objs)
      (hstray : stray call bmc s = true) : Next call bmc s { s with gets := s.gets + 1, objs }
  | resend {objs : IpmbObjs} (hrecv : apiKcsIpmbRecv call (bmc.getMessage s.gets) s.objs = .ok objs)
      (hcount : s.retransmissionCount < ipmiKcsIpmbRetransmissionCount) {sends : ℕ}
      (hsends : sends ≤ s.sends + 1) :
      Next call bmc s ⟨nextRqSeq s.rqSeq, s.retransmissionCount + 1, s.rereadCount, objs, sends,
        s.gets + 1⟩

/-- A send issues at most one request. -/
theorem apiKcsIpmbSend_sends (call : Call) (bmc : Bmc) (rqSeq : Byte) (sends : ℕ) :
    (apiKcsIpmbSend call bmc rqSeq sends).2 ≤ sends + 1 := by
  rw [apiKcsIpmbSend]
  cases ipmbMsgRq call rqSeq with
  | error e => exact Nat.le_succ _
  | ok m =>
    dsimp only
    split_ifs <;> exact le_rfl

/-- The rounds that end the loop: the counters are used up, a call failed, or the response is there. -/
inductive Last (call : Call) (bmc : Bmc) (s : State) : Outcome → Prop where
  | failed {rqSeq : Byte} {err : ApiErr} {sends : ℕ}
      (hsends : sends ≤ s.sends ∨
        sends ≤ s.sends + 1 ∧ s.retransmissionCount < ipmiKcsIpmbRetransmissionCount) :
      Last call bmc s ⟨.error err, rqSeq, sends, s.gets + 1⟩
  | returned {objs : IpmbObjs} (hrecv : apiKcsIpmbRecv call (bmc.getMessage s.gets) s.objs = .ok objs)
      (hseq : ipmiIpmbCheckRqSeq objs.msgHdr s.rqSeq = .ok true)
      (hchecksum : ipmiIpmbCheckChecksum ipmiSlaveAddressBmc objs.msgHdr objs.cmd objs.msgTrlr = .ok true) :
      Last call bmc s ⟨.ok objs, nextRqSeq s.rqSeq, s.sends, s.gets + 1⟩

theorem round_cases (call : Call) (bmc : Bmc) (s : State) :
    (∃ s', round call bmc s = .inl s' ∧ Next call bmc s s') ∨
      ∃ r, round call bmc s = .inr r ∧ Last call bmc s r := by
  have hfailed : ∀ err, Last call bmc s (State.cleanup { s with gets := s.gets + 1 } (.error err)) :=
    fun err => .failed (Or.inl le_rfl)
  rw [round]
  cases hrecv : apiKcsIpmbRecv call (bmc.getMessage s.gets) s.objs with
  | error err =>
    dsimp only
    by_cases htimeout : err = .messageTimeout
    · rw [if_pos htimeout]
      by_cases hcount : ipmiKcsIpmbRereadCount < s.rereadCount + 1
      · rw [if_pos hcount]
        exact Or.inr ⟨_, rfl, hfailed _⟩
      · rw [if_neg hcount]
        exact Or.inl ⟨_, rfl, .reread (Nat.not_lt.mp hcount)⟩
    · rw [if_neg htimeout]
      exact Or.inr ⟨_, rfl, hfailed _⟩
  | ok objs =>
    dsimp only
    cases hseq : ipmiIpmbCheckRqSeq objs.msgHdr s.rqSeq with
    | error e => exact Or.inr ⟨_, rfl, .failed (Or.inl le_rfl)⟩
    | ok equal =>
      cases equal with
      | false =>
        have hstray : stray call bmc s = true := by
          rw [stray, hrecv]
          dsimp only
          rw [hseq]
          rfl
        exact Or.inl ⟨_, rfl, .skip hrecv hstray⟩
      | true =>
        dsimp only
        cases hchecksum : ipmiIpmbCheckChecksum ipmiSlaveAddressBmc objs.msgHdr objs.cmd objs.msgTrlr with
        | error e => exact Or.inr ⟨_, rfl, .failed (Or.inl le_rfl)⟩
        | ok right =>
          cases right with
          | true => exact Or.inr ⟨_, rfl, .returned hrecv hseq hchecksum⟩
          | false =>
            dsimp only
            by_cases hcount : ipmiKcsIpmbRetransmissionCount < s.retransmissionCount + 1
            · rw [if_pos hcount]
              exact Or.inr ⟨_, rfl, .failed (Or.inl le_rfl)⟩
            · rw [if_neg hcount]
              have hsends := apiKcsIpmbSend_sends call bmc (nextRqSeq s.rqSeq) s.sends
              have hless := Nat.not_lt.mp hcount
              cases hsend : apiKcsIpmbSend call bmc (nextRqSeq s.rqSeq) s.sends with
              | mk result sends =>
                rw [hsend] at hsends
                cases result with
                | error err => exact Or.inr ⟨_, rfl, .failed (Or.inr ⟨hsends, hless⟩)⟩
                | ok _ => exact Or.inl ⟨_, rfl, .resend hrecv hless hsends⟩

theorem round_next (h : round call bmc s = .inl s') : Next call bmc s s' := by
  rcases round_cases call bmc s with ⟨s₁, hround, hnext⟩ | ⟨r, hround, -⟩
  · cases h.symm.trans hround
    exact hnext
  · cases h.symm.trans hround

theorem round_last (h : round call bmc s = .inr r) : Last call bmc s r := by
  rcases round_cases call bmc s with ⟨s₁, hround, -⟩ | ⟨r₁, hround, hlast⟩
  · cases h.symm.trans hround
  · cases h.symm.trans hround
    exact hlast

end Round

/-! ### Requests -/

/-- The counters are in range, and every request but the first was counted. -/
structure State.Counted (s : State) : Prop where
  reread : s.rereadCount ≤ ipmiKcsIpmbRereadCount
  retransmission : s.retransmissionCount ≤ ipmiKcsIpmbRetransmissionCount
  sends : s.sends ≤ s.retransmissionCount + 1

/-- What is left of both counters. -/
def State.left (s : State) : ℕ :=
  (ipmiKcsIpmbRereadCount - s.rereadCount) + (ipmiKcsIpmbRetransmissionCount - s.retransmissionCount)

/-- How many of the first `n` rounds read a message with another sequence number. -/
def strays (call : Call) (bmc : Bmc) (rqSeq : Byte) (objCmdRs : FiidObj) (n : ℕ) : ℕ :=
  match start call bmc rqSeq objCmdRs with
  | .inl s => passes (round call bmc) (stray call bmc) n s
  | .inr _ => 0

section Requests
variable {call : Call} {bmc : Bmc} {s s' : State} {r : Outcome} {rqSeq : Byte} {objCmdRs : FiidObj}
  {n k : ℕ}

theorem Next.counted (h : Next call bmc s s') (hs : s.Counted) : s'.Counted := by
  obtain ⟨hreread, hretransmission, hsent⟩ := hs
  cases h with
  | reread hcount => exact ⟨hcount, hretransmission, hsent⟩
  | skip => exact ⟨hreread, hretransmission, hsent⟩
  | resend _ hcount hsends => exact ⟨hreread, hcount, by dsimp only; omega⟩

/-- Every round but the stray ones uses up a counter. -/
theorem Next.left (h : Next call bmc s s') : s'.left < s.left + (stray call bmc s).toNat := by
  cases h with
  | reread hcount =>
    simp only [State.left]
    omega
  | skip _ hstray =>
    rw [hstray]
    exact Nat.lt_succ_self _
  | resend _ hcount =>
    simp only [State.left]
    omega

theorem Next.gets (h : Next call bmc s s') : s'.gets = s.gets + 1 := by
  cases h <;> rfl

theorem Last.gets (h : Last call bmc s r) : r.gets = s.gets + 1 := by
  cases h <;> rfl

theorem Last.sends (h : Last call bmc s r) (hs : s.Counted) :
    r.sends ≤ ipmiKcsIpmbRetransmissionCount + 1 := by
  have hsent := hs.sends
  have hmax := hs.retransmission
  cases h with
  | failed hsends =>
    dsimp only
    omega
  | returned =>
    dsimp only
    omega

/-- The state in which the loop starts. -/
theorem start_inl (h : start call bmc rqSeq objCmdRs = .inl s) :
    s.Counted ∧ s.left = 128 ∧ s.gets = 0 ∧ s.objs.cmd = objCmdRs ∧
      fiidObjCreate call.ndebug tmplIpmbMsgHdrRs = some s.objs.msgHdr ∧
      fiidObjCreate call.ndebug tmplIpmbMsgTrlr = some s.objs.msgTrlr := by
  have hsends := apiKcsIpmbSend_sends call bmc rqSeq 0
  rw [start] at h
  cases hhdr : fiidObjCreate call.ndebug tmplIpmbMsgHdrRs with
  | none =>
    rw [hhdr] at h
    cases h
  | some objIpmbMsgHdrRs =>
    cases htrlr : fiidObjCreate call.ndebug tmplIpmbMsgTrlr with
    | none =>
      rw [hhdr, htrlr] at h
      cases h
    | some objIpmbMsgTrlr =>
      rw [hhdr, htrlr] at h
      dsimp only [created] at h
      cases hsend : apiKcsIpmbSend call bmc rqSeq 0 with
      | mk result sends =>
        rw [hsend] at h hsends
        cases result with
        | error err => cases h
        | ok _ =>
          cases h
          exact ⟨⟨Nat.zero_le _, Nat.zero_le _, hsends⟩, rfl, rfl, rfl, rfl, rfl⟩

theorem apiKcsCmdIpmb_inl (h : start call bmc rqSeq objCmdRs = .inl s) :
    apiKcsCmdIpmb call bmc rqSeq objCmdRs n = run (round call bmc) n s := by
  rw [apiKcsCmdIpmb, h]

theorem apiKcsCmdIpmb_inr (h : start call bmc rqSeq objCmdRs = .inr r) :
    apiKcsCmdIpmb call bmc rqSeq objCmdRs n = some r := by
  rw [apiKcsCmdIpmb, h]

/-- The loop starts once the request is sent. -/
theorem start_of_send {objIpmbMsgHdrRs objIpmbMsgTrlr : FiidObj}
    (hhdr : fiidObjCreate call.ndebug tmplIpmbMsgHdrRs = some objIpmbMsgHdrRs)
    (htrlr : fiidObjCreate call.ndebug tmplIpmbMsgTrlr = some objIpmbMsgTrlr)
    (hsend : apiKcsIpmbSend call bmc rqSeq 0 = (.ok (), n)) :
    start call bmc rqSeq objCmdRs
      = .inl ⟨rqSeq, 0, 0, ⟨objIpmbMsgHdrRs, objCmdRs, objIpmbMsgTrlr⟩, n, 0⟩ := by
  rw [start, hhdr, htrlr]
  simp only [created, hsend]

/-- A request that is put together and taken by the BMC. -/
theorem apiKcsIpmbSend_ok {m : List Byte} (hrq : ipmbMsgRq call rqSeq = .ok m)
    (hsuccess : (bmc.sendMessage n).success = true) :
    apiKcsIpmbSend call bmc rqSeq n = (.ok (), n + 1) := by
  rw [apiKcsIpmbSend, hrq]
  dsimp only
  rw [if_pos hsuccess]

theorem ipmbMsgRq_ok {hdr hdr' msg : FiidObj} {r : FiidObj × ℕ} {g : ℕ × List Byte}
    (hhdr : fiidObjCreate call.ndebug tmplIpmbMsgHdrRq = some hdr)
    (hmsg : fiidObjCreate call.ndebug tmplIpmbMsg = some msg)
    (hfill : fillIpmbMsgHdr call.rsAddr call.netFn call.lun ipmiSlaveAddressBmc ipmiBmcIpmbLunSmsMsgLun
      rqSeq hdr = .ok hdr')
    (hassemble : assembleIpmiIpmbMsg call.ndebug hdr' call.objCmdRq msg 0 = .ok r)
    (hget : fiidObjGetAll r.1 ipmiMaxPktLen = .ok g) :
    ipmbMsgRq call rqSeq = .ok (g.2.take g.1) := by
  rw [ipmbMsgRq, hhdr, hmsg]
  simp only [created, ok_bind, hfill, hassemble, hget]
  rfl

/-- A call that does not get to its loop. -/
theorem start_inr (h : start call bmc rqSeq objCmdRs = .inr r) :
    r.sends ≤ 1 ∧ r.gets = 0 ∧ ∃ err, r.response = .error err := by
  have hsends := apiKcsIpmbSend_sends call bmc rqSeq 0
  rw [start] at h
  cases hhdr : created (fiidObjCreate call.ndebug tmplIpmbMsgHdrRs) with
  | error e =>
    rw [hhdr] at h
    cases h
    exact ⟨Nat.zero_le _, rfl, _, rfl⟩
  | ok objIpmbMsgHdrRs =>
    cases htrlr : created (fiidObjCreate call.ndebug tmplIpmbMsgTrlr) with
    | error e =>
      rw [hhdr, htrlr] at h
      cases h
      exact ⟨Nat.zero_le _, rfl, _, rfl⟩
    | ok objIpmbMsgTrlr =>
      rw [hhdr, htrlr] at h
      dsimp only at h
      cases hsend : apiKcsIpmbSend call bmc rqSeq 0 with
      | mk result sends =>
        rw [hsend] at h hsends
        cases result with
        | error err =>
          cases h
          exact ⟨hsends, rfl, _, rfl⟩
        | ok _ => cases h

/-- The call returns exactly when finitely many messages of other requests come. -/
theorem returns_iff_strays : (∃ n r, apiKcsCmdIpmb call bmc rqSeq objCmdRs n = some r) ↔
    ∃ k, ∀ n, strays call bmc rqSeq objCmdRs n ≤ k := by
  cases hstart : start call bmc rqSeq objCmdRs with
  | inl s =>
    simp only [apiKcsCmdIpmb_inl hstart, strays, hstart]
    exact ends_iff_passes State.Counted State.left
      (fun s s' hs hround => ⟨(round_next hround).counted hs, (round_next hround).left⟩)
      (start_inl hstart).1
  | inr r =>
    simp only [strays, hstart]
    exact iff_of_true ⟨0, r, apiKcsCmdIpmb_inr hstart⟩ ⟨0, fun _ => le_rfl⟩

/-- With at most `k` such messages, it returns after that many rounds and requests. -/
theorem returns_of_strays (hk : ∀ n, strays call bmc rqSeq objCmdRs n ≤ k) :
    ∃ r, apiKcsCmdIpmb call bmc rqSeq objCmdRs (129 + k) = some r ∧ r.sends ≤ 65 ∧ r.gets ≤ 129 + k := by
  cases hstart : start call bmc rqSeq objCmdRs with
  | inl s =>
    obtain ⟨hcounted, hleft, hgets, -⟩ := start_inl hstart
    simp only [strays, hstart] at hk
    obtain ⟨r, hrun, hsends⟩ := run_of_passes (n := 129 + k) State.Counted State.left
      (fun s s' hs hround => ⟨(round_next hround).counted hs, (round_next hround).left⟩)
      (fun s r hs hround => (round_last hround).sends hs) hcounted hk (by omega)
    have hcost := run_cost State.gets Outcome.gets (fun s s' hround => (round_next hround).gets.le)
      (fun s r hround => (round_last hround).gets.le) hrun
    exact ⟨r, (apiKcsCmdIpmb_inl hstart).trans hrun, hsends, by omega⟩
  | inr r =>
    obtain ⟨hsends, hgets, -⟩ := start_inr hstart
    exact ⟨r, apiKcsCmdIpmb_inr hstart, hsends.trans (by norm_num), by omega⟩

end Requests

/-! ### Messages -/

/-- The message of the answer, and what `unassemble_ipmi_ipmb_msg` makes of it. -/
structure Received (call : Call) (bmc : Bmc) (s : State) (data : List Byte) (accepted : Bool)
    (objs : IpmbObjs) : Prop where
  success : (bmc.getMessage s.gets).success = true
  read : fiidObjGetData (bmc.getMessage s.gets).obj "message_data" ipmiMaxPktLen = .ok data
  parsed : ∃ objIpmbMsgRs, messageIn objIpmbMsgRs = .ok data ∧
    unassembleIpmiIpmbMsg objIpmbMsgRs s.objs call.intfFlags = .ok (accepted, objs)

/-- The message is the response to the request with a sequence number. -/
structure IsResponse (rqSeq : Byte) (data : List Byte) (accepted : Bool) : Prop where
  parsed : accepted = true
  seq : data.getD 3 0 >>> 2 = rqSeq
  sums : ResponseSums ipmiSlaveAddressBmc data

/-- The command that is cut out of a message has the fields that make it sufficient, or legality is not
    checked. -/
def CmdSufficient (call : Call) (objCmd : FiidObj) (data : List Byte) : Prop :=
  call.noLegalCheck = true ∨ ∃ obj n,
    trySetAll (fiidObjClear objCmd) ((data.drop 4).take (data.length - 5)) = .ok (obj, n) ∧
      fiidObjPacketSufficient obj = true

/-- The objects of `api_kcs_cmd_ipmb`. -/
structure IpmbObjs.Owned (ndebug : Bool) (cmdTmpl : FiidTemplate) (objs : IpmbObjs) : Prop where
  msgHdr : Reachable ndebug tmplIpmbMsgHdrRs objs.msgHdr
  cmd : Reachable ndebug cmdTmpl objs.cmd
  msgTrlr : Reachable ndebug tmplIpmbMsgTrlr objs.msgTrlr

theorem IpmbObjs.Owned.passed {ndebug : Bool} {cmdTmpl : FiidTemplate} {objs : IpmbObjs}
    (h : objs.Owned ndebug cmdTmpl) : objs.Passed ndebug cmdTmpl :=
  ⟨⟨_, h.msgHdr⟩, h.cmd, ⟨_, h.msgTrlr⟩⟩

section Data
variable {obj : FiidObj}

/-- An answer carries at most 128 bytes. -/
theorem length_messageData (hof : obj.Of tmplCmdGetMessageRs.fields) {dataLen : ℕ} {b : List Byte}
    (h : fiidObjGetData obj "message_data" dataLen = .ok b) : b.length ≤ 128 := by
  obtain ⟨f, hf⟩ := fieldAt_of_tmpl hof
    (show tmplCmdGetMessageRs.fields.findIdx? (fun f => f.key = "message_data") = some 4 from rfl)
  have hmax : f.toField = tmplCmdGetMessageRs.fields[4] :=
    Option.some.inj ((getElem?_toField hof hf.entry).symm.trans rfl)
  have hlen : f.maxFieldLen = 1024 := congrArg FiidField.maxFieldLen hmax
  refine (getData_le hf.maxFieldLen h).trans ?_
  rw [hlen]
  decide

end Data

section Owned
variable {ndebug : Bool} {cmdTmpl : FiidTemplate} {m : List Byte} {objs objs' : IpmbObjs}
  {objIpmbMsg : FiidObj} {flags : BitVec 32} {accepted : Bool}

theorem IpmbObjs.Owned.clear (h : objs.Owned ndebug cmdTmpl) : objs.clear.Owned ndebug cmdTmpl :=
  ⟨h.msgHdr.step .clear rfl, h.cmd.step .clear rfl, h.msgTrlr.step .clear rfl⟩

/-- Parsing keeps the objects, also where it gives up. -/
theorem parseIpmbMsg_owned (h : objs.Owned ndebug cmdTmpl) :
    Keeps (·.Owned ndebug cmdTmpl) (parseIpmbMsg m objs) := by
  refine keeps_call fun r hhdr => ?_
  have h₁ : IpmbObjs.Owned ndebug cmdTmpl { objs with msgHdr := r.1 } :=
    ⟨becomes_trySetAll hhdr _ _ h.msgHdr, h.cmd, h.msgTrlr⟩
  refine keeps_ite (keeps_unparsed h₁) (keeps_call fun _ _ => keeps_ite (keeps_unparsed h₁) ?_)
  refine keeps_call fun r' hcmd => ?_
  have h₂ : IpmbObjs.Owned ndebug cmdTmpl { objs with msgHdr := r.1, cmd := r'.1 } :=
    ⟨h₁.msgHdr, becomes_trySetAll hcmd _ _ h.cmd, h.msgTrlr⟩
  refine keeps_ite (keeps_unparsed h₂) (keeps_call fun r'' htrlr => ?_)
  exact keeps_ok ⟨h₁.msgHdr, h₂.cmd, becomes_trySetAll htrlr _ _ h.msgTrlr⟩

/-- `unassemble_ipmi_ipmb_msg` keeps the objects. -/
theorem IpmbObjs.Owned.unassemble (h : objs.Owned ndebug cmdTmpl) (hm : messageIn objIpmbMsg = .ok m)
    (hret : unassembleIpmiIpmbMsg objIpmbMsg objs flags = .ok (accepted, objs')) :
    objs'.Owned ndebug cmdTmpl := by
  have howned := parseIpmbMsg_owned (m := m) h.clear
  rcases (h.passed.walks hm hret).2 with ⟨-, hparse⟩ | ⟨-, hparse⟩
  · exact howned.value _ hparse
  · exact howned.reason _ hparse _ rfl

/-- The trailer that a walk has not got to has no checksum to compare. -/
theorem checkChecksum_unset {rqAddr : Byte} (hof : objs.msgTrlr.Of tmplIpmbMsgTrlr.fields)
    (hunset : objs.msgTrlr.Unset) :
    ipmiIpmbCheckChecksum rqAddr objs.msgHdr objs.cmd objs.msgTrlr ≠ .ok true := by
  obtain ⟨f, hf⟩ := fieldAt_of_tmpl hof
    (show tmplIpmbMsgTrlr.fields.findIdx? (fun f => f.key = "checksum2") = some 0 from rfl)
  have hzero : f.setFieldLen = 0 := hunset f (List.mem_of_getElem? hf.entry)
  have hget : fiidObjGetStrict objs.msgTrlr "checksum2" = .error (.fiid .dataNotAvailable) := by
    rw [fiidObjGetStrict, fiidObjGet, hf.lookup, ok_bind, hf.setFieldLen, ok_bind, if_pos hzero]
    rfl
  intro h
  rw [ipmiIpmbCheckChecksum] at h
  obtain ⟨_, -, h⟩ := bind_eq_ok.mp h
  obtain ⟨_, -, h⟩ := bind_eq_ok.mp h
  obtain ⟨_, -, h⟩ := bind_eq_ok.mp h
  obtain ⟨_, -, h⟩ := bind_eq_ok.mp h
  obtain ⟨_, -, h⟩ := bind_eq_ok.mp h
  obtain ⟨⟨objLen, buf1⟩, -, h⟩ := bind_eq_ok.mp h
  dsimp only at h
  split at h
  · cases h
  · rw [hget] at h
    cases h

/-- The command of a message that is cut. -/
theorem parseIpmbMsg_cmd (h : objs.Cleared cmdTmpl.fields) (hret : parseIpmbMsg m objs = .ok objs') :
    ∃ n, trySetAll objs.cmd ((m.drop 4).take (m.length - 5)) = .ok (objs'.cmd, n) := by
  have htrlrLen : orTemplateInvalid (fiidTemplateLenBytes tmplIpmbMsgTrlr) = .ok 1 := by decide
  simp only [parseIpmbMsg, htrlrLen, call_ok, ok_bind] at hret
  obtain ⟨⟨hdr, k⟩, hcall, hret⟩ := bind_eq_ok.mp hret
  have hk := (trySetAll_ok h.hdrOf h.hdrUnset (call_eq_ok.mp hcall)).len
  rw [show bitLen tmplIpmbMsgHdrRs.fields = 32 from rfl] at hk
  dsimp only at hret
  split at hret
  · cases hret
  split at hret
  · cases hret
  obtain rfl : k = 4 := by omega
  obtain ⟨⟨cmd, n⟩, hcall, hret⟩ := bind_eq_ok.mp hret
  dsimp only at hret
  split at hret
  · cases hret
  obtain ⟨⟨trlr, k⟩, -, hret⟩ := bind_eq_ok.mp hret
  cases hret
  refine ⟨n, ?_⟩
  rw [← call_eq_ok.mp hcall, Nat.sub_sub]

/-- The sequence number of a message that is cut is in its fourth byte. -/
theorem IpmbParsed.checkRqSeq {cmdFields : List FiidField} {n : ℕ} (h : IpmbParsed cmdFields m n objs)
    (rqSeq : Byte) : ipmiIpmbCheckRqSeq objs.msgHdr rqSeq = .ok (m.getD 3 0 >>> 2 == rqSeq) := by
  have hbyte : (m.take 4).getD 3 0 = m.getD 3 0 := by
    rw [List.getD_eq_getElem?_getD, List.getElem?_take_of_lt (by norm_num), ← List.getD_eq_getElem?_getD]
  have hcheck := headerCheck_eq h.hdr h.hdrOf
    (show valuePlace tmplIpmbMsgHdrRs.fields ipmbMsgHdrLens "rq_seq" = some (8 * 3 + 2, 6) by decide) rqSeq
  rw [valueAt_high, hbyte, byte_setWidth] at hcheck
  exact hcheck

/-- Such a message is refused for its command only. -/
theorem IpmbParsed.accepted_eq {cmdFields : List FiidField} {n : ℕ} (h : IpmbParsed cmdFields m n objs)
    (howned : objs.Owned ndebug cmdTmpl) (call : Call) :
    objs.accepted call.intfFlags = (call.noLegalCheck || fiidObjPacketSufficient objs.cmd) := by
  have hhdr : fiidObjPacketValid objs.msgHdr = true := by
    rw [packetValid_of_lens howned.msgHdr.wf h.hdr.lens]
    decide
  have htrlr : fiidObjPacketValid objs.msgTrlr = true := by
    rw [packetValid_of_lens howned.msgTrlr.wf h.trlr.lens]
    decide
  have hflags : decide (call.intfFlags &&& ipmiInterfaceFlagsNoLegalCheck ≠ 0) = call.noLegalCheck := by
    rw [Call.intfFlags]
    cases call.noLegalCheck <;> decide
  rw [IpmbObjs.accepted, hhdr, htrlr, hflags, Bool.true_and, Bool.and_true]

/-- The bytes that neither the command nor the trailer took. -/
theorem IpmbParsed.sums_iff {cmdFields : List FiidField} {n : ℕ} (h : IpmbParsed cmdFields m n objs)
    {rqAddr : Byte} (hsums : ResponseSums rqAddr (m.take (5 + n))) :
    ResponseSums rqAddr m ↔ (m.drop (5 + bitLen cmdFields / 8)).sum = 0 := by
  have hlen := h.len
  have hlong := h.long
  obtain ⟨hheader, hrest⟩ := (responseSums_take_iff rqAddr m (by omega)).mp hsums
  have hdrop : m.drop (5 + bitLen cmdFields / 8) = m.drop (5 + n) := by
    rcases Nat.lt_or_ge (bitLen cmdFields) (8 * (m.length - 5)) with hover | hfits
    · exact congrArg m.drop (by omega)
    · rw [List.drop_of_length_le (by omega), List.drop_of_length_le (by omega)]
  have hsplit : (m.drop 2).sum = (m.drop (5 + n)).sum := by
    have hparts : m.drop 2 = (m.take (5 + n)).drop 2 ++ m.drop (5 + n) := by
      rw [← List.drop_append_of_le_length (by rw [List.length_take]; omega), List.take_append_drop]
    rw [hparts, List.sum_append, hrest, zero_add]
  rw [hdrop, ← hsplit]
  exact ⟨fun hright => hright.rest, fun hzero => ⟨hheader, hzero⟩⟩

end Owned

/-- The loop of the call gets to a state. -/
def InLoop (call : Call) (bmc : Bmc) (rqSeq : Byte) (objCmdRs : FiidObj) (s : State) : Prop :=
  ∃ s₀, start call bmc rqSeq objCmdRs = .inl s₀ ∧ Reached (round call bmc) s₀ s

section Response
variable {call : Call} {bmc : Bmc} {s s' : State} {r : Outcome} {objs : IpmbObjs}
  {cmdTmpl : FiidTemplate} {rqSeq : Byte} {objCmdRs : FiidObj} {n : ℕ}

/-- What is in the message object. -/
theorem ipmbMsgRs_ok {rs : CmdRs} {objIpmbMsgRs : FiidObj} (hof : rs.obj.Of tmplCmdGetMessageRs.fields)
    (h : ipmbMsgRs call rs = .ok objIpmbMsgRs) :
    rs.success = true ∧ ∃ data, fiidObjGetData rs.obj "message_data" ipmiMaxPktLen = .ok data ∧
      messageIn objIpmbMsgRs = .ok data := by
  rw [ipmbMsgRs] at h
  cases hcreate : fiidObjCreate call.ndebug tmplIpmbMsg with
  | none =>
    rw [hcreate] at h
    cases h
  | some obj =>
    rw [hcreate] at h
    dsimp only [created] at h
    split at h
    · split at h <;> cases h
    rename_i hsuccess
    split at h
    · cases h
    rename_i data hdata
    have hlen := length_messageData hof hdata
    obtain ⟨obj', hset, -, hreads⟩ := trySetAll_ipmbMsg (create_wf hcreate).of data
    rw [hset] at h
    cases h
    rw [List.take_of_length_le (by omega)] at hreads
    exact ⟨by simpa using hsuccess, data, hdata, messageIn_of_reads hreads (hlen.trans (by decide))⟩

theorem apiKcsIpmbRecv_ok (h : apiKcsIpmbRecv call (bmc.getMessage s.gets) s.objs = .ok objs) :
    ∃ data accepted, Received call bmc s data accepted objs := by
  rw [apiKcsIpmbRecv] at h
  cases hmsg : ipmbMsgRs call (bmc.getMessage s.gets) with
  | error err =>
    rw [hmsg] at h
    cases h
  | ok objIpmbMsgRs =>
    rw [hmsg] at h
    dsimp only at h
    obtain ⟨hsuccess, data, hdata, hm⟩ := ipmbMsgRs_ok (bmc.getMessage_of s.gets) hmsg
    cases hret : unassembleIpmiIpmbMsg objIpmbMsgRs s.objs call.intfFlags with
    | error e =>
      rw [hret] at h
      cases h
    | ok result =>
      rw [hret] at h
      cases h
      exact ⟨data, result.1, hsuccess, hdata, objIpmbMsgRs, hm, hret⟩

theorem Next.owned (h : Next call bmc s s') (hs : s.objs.Owned call.ndebug cmdTmpl) :
    s'.objs.Owned call.ndebug cmdTmpl := by
  have hrecv : ∀ {objs}, apiKcsIpmbRecv call (bmc.getMessage s.gets) s.objs = .ok objs →
      objs.Owned call.ndebug cmdTmpl := by
    intro objs hrecv
    obtain ⟨_, _, _, _, _, hm, hret⟩ := apiKcsIpmbRecv_ok hrecv
    exact hs.unassemble hm hret
  cases h with
  | reread => exact hs
  | skip h _ => exact hrecv h
  | resend h _ _ => exact hrecv h

/-- What is returned was cut, has the right sequence number and the right sums as far as the command
    has room for it. -/
theorem received_iff (hs : s.objs.Owned call.ndebug cmdTmpl)
    (hrecv : apiKcsIpmbRecv call (bmc.getMessage s.gets) s.objs = .ok objs)
    (hseq : ipmiIpmbCheckRqSeq objs.msgHdr s.rqSeq = .ok true)
    (hchecksum : ipmiIpmbCheckChecksum ipmiSlaveAddressBmc objs.msgHdr objs.cmd objs.msgTrlr = .ok true) :
    ∃ data accepted, Received call bmc s data accepted objs ∧
      (IsResponse s.rqSeq data accepted ↔
        CmdSufficient call s.objs.cmd data ∧ (data.drop (5 + bitLen cmdTmpl.fields / 8)).sum = 0) := by
  obtain ⟨data, accepted, hreceived⟩ := apiKcsIpmbRecv_ok hrecv
  obtain ⟨objIpmbMsgRs, hm, hret⟩ := hreceived.parsed
  have howned := hs.unassemble hm hret
  refine ⟨data, accepted, hreceived, ?_⟩
  obtain ⟨hcleared, ⟨haccepted, hparse⟩ | ⟨-, hparse⟩⟩ := hs.passed.walks hm hret
  · obtain ⟨n, hparsed⟩ := parseIpmbMsg_ok hcleared hparse
    have hright : ResponseSums ipmiSlaveAddressBmc (data.take (5 + n)) := by
      rw [hparsed.checkChecksum] at hchecksum
      exact of_decide_eq_true (Except.ok.inj hchecksum)
    have hrqSeq : data.getD 3 0 >>> 2 = s.rqSeq := by
      rw [hparsed.checkRqSeq] at hseq
      exact beq_iff_eq.mp (Except.ok.inj hseq)
    have hcmd : accepted = true ↔ CmdSufficient call s.objs.cmd data := by
      obtain ⟨k, hcut⟩ := parseIpmbMsg_cmd hcleared hparse
      rw [haccepted, hparsed.accepted_eq howned, Bool.or_eq_true, CmdSufficient]
      refine or_congr_right ⟨fun h => ⟨_, k, hcut, h⟩, ?_⟩
      rintro ⟨obj, k', hset, h⟩
      cases hcut.symm.trans hset
      exact h
    constructor
    · rintro ⟨hok, -, hsums⟩
      exact ⟨hcmd.mp hok, (hparsed.sums_iff hright).mp hsums⟩
    · rintro ⟨hok, hzero⟩
      exact ⟨hcmd.mpr hok, hrqSeq, (hparsed.sums_iff hright).mpr hzero⟩
  · -- a walk that gave up left the trailer without a checksum
    refine absurd hchecksum (checkChecksum_unset howned.msgTrlr.wf.of ?_)
    rw [parseIpmbMsg_unparsed hparse]
    exact unset_clear _

/-- The last round of a call that returns a response. -/
theorem exists_lastRound (hr : Reachable call.ndebug cmdTmpl objCmdRs)
    (hrun : apiKcsCmdIpmb call bmc rqSeq objCmdRs n = some r) (hresponse : r.response = .ok objs) :
    ∃ s, InLoop call bmc rqSeq objCmdRs s ∧ s.objs.Owned call.ndebug cmdTmpl ∧
      round call bmc s = .inr r ∧ r.gets = s.gets + 1 ∧
      r.rqSeq = nextRqSeq s.rqSeq ∧ apiKcsIpmbRecv call (bmc.getMessage s.gets) s.objs = .ok objs ∧
      ipmiIpmbCheckRqSeq objs.msgHdr s.rqSeq = .ok true ∧
      ipmiIpmbCheckChecksum ipmiSlaveAddressBmc objs.msgHdr objs.cmd objs.msgTrlr = .ok true := by
  cases hstart : start call bmc rqSeq objCmdRs with
  | inr r₀ =>
    rw [apiKcsCmdIpmb_inr hstart] at hrun
    cases hrun
    obtain ⟨-, -, err, herr⟩ := start_inr hstart
    cases hresponse.symm.trans herr
  | inl s₀ =>
    rw [apiKcsCmdIpmb_inl hstart] at hrun
    obtain ⟨-, -, -, hcmd, hhdr, htrlr⟩ := start_inl hstart
    have hs₀ : s₀.objs.Owned call.ndebug cmdTmpl := ⟨.create hhdr, by rwa [hcmd], .create htrlr⟩
    obtain ⟨s, hreached, hround⟩ := exists_last hrun
    have hs := hreached.invariant (fun s => s.objs.Owned call.ndebug cmdTmpl) hs₀
      fun s s' _ hs hnext => (round_next hnext).owned hs
    refine ⟨s, ⟨s₀, hstart, hreached⟩, hs, hround, ?_⟩
    cases round_last hround with
    | failed => cases hresponse
    | returned hrecv hseq hchecksum =>
      cases hresponse
      exact ⟨rfl, rfl, hrecv, hseq, hchecksum⟩

end Response

/-- Bridged commands. The call returns exactly when finitely many messages with another sequence number
    come. With `k` of them it issues at most 65 Send Message and `129 + k` Get Message requests. A
    message that is returned is the response exactly when its command is sufficient, which the call does
    not look at, and when the bytes for which the command has no room sum to 0. -/
theorem apiKcsCmdIpmb_iff (call : Call) (bmc : Bmc) (rqSeq : Byte) (cmdTmpl : FiidTemplate)
    (objCmdRs : FiidObj) (hr : Reachable call.ndebug cmdTmpl objCmdRs) :
    ((∃ n r, apiKcsCmdIpmb call bmc rqSeq objCmdRs n = some r) ↔
      ∃ k, ∀ n, strays call bmc rqSeq objCmdRs n ≤ k) ∧
    (∀ k, (∀ n, strays call bmc rqSeq objCmdRs n ≤ k) →
      ∃ r, apiKcsCmdIpmb call bmc rqSeq objCmdRs (129 + k) = some r ∧ r.sends ≤ 65 ∧
        r.gets ≤ 129 + k) ∧
    (∀ n r objs, apiKcsCmdIpmb call bmc rqSeq objCmdRs n = some r → r.response = .ok objs →
      ∃ s data accepted, InLoop call bmc rqSeq objCmdRs s ∧ round call bmc s = .inr r ∧
        r.gets = s.gets + 1 ∧ r.rqSeq = nextRqSeq s.rqSeq ∧ Received call bmc s data accepted objs ∧
        (IsResponse s.rqSeq data accepted ↔
          CmdSufficient call s.objs.cmd data ∧
            (data.drop (5 + bitLen cmdTmpl.fields / 8)).sum = 0)) := by
  refine ⟨returns_iff_strays, fun k => returns_of_strays, ?_⟩
  intro n r objs hrun hresponse
  obtain ⟨s, hin, hs, hround, hgets, hrqSeq, hrecv, hseq, hchecksum⟩ :=
    exists_lastRound hr hrun hresponse
  obtain ⟨data, accepted, hreceived, hiff⟩ := received_iff hs hrecv hseq hchecksum
  exact ⟨s, data, accepted, hin, hround, hgets, hrqSeq, hreceived, hiff⟩

/-! ### Answers to a cold reset -/

/-- `tmpl_cmd_cold_reset_rq`. -/
def tmplCmdColdResetRq : FiidTemplate where
  fields := [⟨8, "cmd", requiredFixed, .refl true⟩]

/-- `tmpl_cmd_send_message_rs`. -/
def tmplCmdSendMessageRs : FiidTemplate where
  fields :=
    [⟨8, "cmd", requiredFixed ||| fiidFieldMakesPacketSufficient, .refl true⟩,
     ⟨8, "comp_code", requiredFixed ||| fiidFieldMakesPacketSufficient, .refl true⟩,
     ⟨1024, "response_data", fiidFieldOptional ||| fiidFieldLengthVariable, .refl true⟩]

/-- A cold reset for the controller at 0x82. -/
def coldResetCall : Call where
  ndebug := false
  rsAddr := 0x82
  netFn := 0x06
  lun := 0
  noLegalCheck := false
  objCmdRq := builtObj tmplCmdColdResetRq 1 [.setAll [0x02]]

/-- The answer to Get Message with some message. -/
def messageRs (data : List Byte) : CmdRs where
  success := true
  obj := (fiidObjSetAll (createdObj tmplCmdGetMessageRs 131 true) ([0x33, 0x00, 0x00] ++ data)).2

theorem messageRs_of (data : List Byte) : (messageRs data).obj.Of tmplCmdGetMessageRs.fields := by
  have hcreate : fiidObjCreate false tmplCmdGetMessageRs
      = some (createdObj tmplCmdGetMessageRs 131 true) := by decide +kernel
  have hwf := create_wf hcreate
  rw [messageRs]
  generalize createdObj tmplCmdGetMessageRs 131 true = obj at hwf
  exact ((touched_setAll hwf _).wf hwf).of

/-- A BMC that takes every message, and answers with one message again and again. -/
def bmcWith (data : List Byte) : Bmc where
  sendMessage _ := ⟨true, (fiidObjSetAll (createdObj tmplCmdSendMessageRs 130 true) [0x34, 0x00]).2⟩
  getMessage _ := messageRs data
  getMessage_of _ := messageRs_of data

/-- The state in which the loop of that call starts. -/
def coldResetStart : State := ⟨1, 0, 0, coldResetObjs, 1, 0⟩

section ColdReset
variable {data : List Byte} {objs objs' : IpmbObjs} {accepted : Bool}

theorem coldReset_ipmbMsgRq : ∃ m, ipmbMsgRq coldResetCall 1 = .ok m := by
  have hmsgCreate : fiidObjCreate false tmplIpmbMsg = some (createdObj tmplIpmbMsg 255 false) := by
    decide +kernel
  have hhdrCreate : fiidObjCreate false tmplIpmbMsgHdrRq = some (createdObj tmplIpmbMsgHdrRq 5 false) := by
    decide
  have hcmdCreate : fiidObjCreate false tmplCmdColdResetRq
      = some (createdObj tmplCmdColdResetRq 1 false) := by decide
  have hcmd : Reachable false tmplCmdColdResetRq coldResetCall.objCmdRq :=
    builtObj_reachable [.setAll [0x02]] hcmdCreate
  have hvalid : fiidObjPacketValid coldResetCall.objCmdRq = true := by decide
  have hhdr : Reachable false tmplIpmbMsgHdrRq
      (builtObj tmplIpmbMsgHdrRq 5 [.setAll [0x82, 0x18, 0x66, 0x20, 0x06]]) :=
    builtObj_reachable _ hhdrCreate
  have hfill : fillIpmbMsgHdr coldResetCall.rsAddr coldResetCall.netFn coldResetCall.lun
      ipmiSlaveAddressBmc ipmiBmcIpmbLunSmsMsgLun 1 (createdObj tmplIpmbMsgHdrRq 5 false)
      = .ok (builtObj tmplIpmbMsgHdrRq 5 [.setAll [0x82, 0x18, 0x66, 0x20, 0x06]]) := by decide +kernel
  obtain ⟨b, hreads, -⟩ := reads_of_packetValid hcmd.wf (hcmd.partAligned (by decide)) hvalid
  have hb : b.length = 1 := Except.ok.inj (hreads.lenBytes.symm.trans
    (show fiidObjLenBytes coldResetCall.objCmdRq = .ok 1 by decide))
  obtain ⟨r, hassemble, hmsg⟩ := assembleIpmiIpmbMsg_returns false hhdr.wf.of
    (create_wf hmsgCreate).of (by decide) hvalid hreads (by rw [hb]; decide)
  have hget := hmsg.getAll ipmiMaxPktLen
    ((List.length_take_le _ _).trans (show 255 ≤ ipmiMaxPktLen by decide))
  exact ⟨_, ipmbMsgRq_ok hhdrCreate hmsgCreate hfill hassemble hget⟩

/-- The request is sent, and the loop starts. -/
theorem coldReset_start (data : List Byte) :
    start coldResetCall (bmcWith data) 1 coldResetObjs.cmd = .inl coldResetStart := by
  have hhdr : fiidObjCreate coldResetCall.ndebug tmplIpmbMsgHdrRs = some coldResetObjs.msgHdr := by
    decide
  have htrlr : fiidObjCreate coldResetCall.ndebug tmplIpmbMsgTrlr = some coldResetObjs.msgTrlr := by
    decide
  obtain ⟨m, hrq⟩ := coldReset_ipmbMsgRq
  exact start_of_send hhdr htrlr (apiKcsIpmbSend_ok hrq rfl)

/-- A message is read. -/
theorem coldReset_recv {s : State}
    (hdata : fiidObjGetData (messageRs data).obj "message_data" ipmiMaxPktLen = .ok data)
    (hcmp : s.objs.compareTemplates = .ok ())
    (hparse : report (·.accepted 0) (parseIpmbMsg data s.objs.clear) = .ok (accepted, objs')) :
    apiKcsIpmbRecv coldResetCall (messageRs data) s.objs = .ok objs' ∧
      Received coldResetCall (bmcWith data) s data accepted objs' := by
  have hcreate : fiidObjCreate false tmplIpmbMsg = some (createdObj tmplIpmbMsg 255 false) := by
    decide +kernel
  have hlen := length_messageData ((bmcWith data).getMessage_of 0) hdata
  obtain ⟨objIpmbMsgRs, hset, -, hreads⟩ := trySetAll_ipmbMsg (create_wf hcreate).of data
  rw [List.take_of_length_le (by omega)] at hreads
  have hm := messageIn_of_reads hreads (hlen.trans (by decide))
  have hret := unassembleIpmiIpmbMsg_eq hm
    (show coldResetCall.intfFlags &&& ~~~ ipmiInterfaceFlagsNoLegalCheck = 0 by decide) hcmp
  rw [show coldResetCall.intfFlags = 0 from rfl, hparse] at hret
  refine ⟨?_, rfl, hdata, objIpmbMsgRs, hm, hret⟩
  rw [apiKcsIpmbRecv, ipmbMsgRs, show coldResetCall.ndebug = false from rfl, hcreate]
  simp only [created, hdata, hset, show (messageRs data).success = true from rfl]
  simp only [Bool.not_true, Bool.false_eq_true, if_false, show coldResetCall.intfFlags = 0 from rfl, hret]

/-- A message with the right sequence number and checksums is returned at once. -/
theorem coldReset_returned
    (hdata : fiidObjGetData (messageRs data).obj "message_data" ipmiMaxPktLen = .ok data)
    (hparse : report (·.accepted 0) (parseIpmbMsg data coldResetObjs.clear) = .ok (accepted, objs'))
    (hseq : ipmiIpmbCheckRqSeq objs'.msgHdr 1 = .ok true)
    (hchecksum : ipmiIpmbCheckChecksum ipmiSlaveAddressBmc objs'.msgHdr objs'.cmd objs'.msgTrlr
      = .ok true) :
    round coldResetCall (bmcWith data) coldResetStart = .inr ⟨.ok objs', 2, 1, 1⟩ ∧
      Received coldResetCall (bmcWith data) coldResetStart data accepted objs' := by
  obtain ⟨hrecv, hreceived⟩ := coldReset_recv (s := coldResetStart) hdata (by decide) hparse
  refine ⟨?_, hreceived⟩
  have hget : (bmcWith data).getMessage coldResetStart.gets = messageRs data := rfl
  rw [round, hget, hrecv]
  simp only [show coldResetStart.rqSeq = 1 from rfl, hseq, hchecksum]
  rfl

theorem coldReset_run {r : Outcome} (hround : round coldResetCall (bmcWith data) coldResetStart = .inr r) :
    apiKcsCmdIpmb coldResetCall (bmcWith data) 1 coldResetObjs.cmd 1 = some r :=
  (apiKcsCmdIpmb_inl (coldReset_start data)).trans (run_inr hround)

/-- Messages with another sequence number are read forever. -/
theorem coldReset_stray
    (hdata : fiidObjGetData (messageRs data).obj "message_data" ipmiMaxPktLen = .ok data)
    (hparse : report (·.accepted 0) (parseIpmbMsg data coldResetObjs.clear) = .ok (accepted, objs'))
    (hseq : ipmiIpmbCheckRqSeq objs'.msgHdr 1 = .ok false) (hcmp : objs'.compareTemplates = .ok ())
    (hclear : objs'.clear = coldResetObjs.clear) :
    ¬ Ends (round coldResetCall (bmcWith data)) coldResetStart := by
  refine not_ends (fun s => s.rqSeq = 1 ∧ s.objs.compareTemplates = .ok () ∧
    s.objs.clear = coldResetObjs.clear) ?_ ⟨rfl, by decide, rfl⟩
  rintro s ⟨hs, hcmpS, hclearS⟩
  rw [← hclearS] at hparse
  have hrecv := (coldReset_recv hdata hcmpS hparse).1
  have hget : (bmcWith data).getMessage s.gets = messageRs data := rfl
  refine ⟨{ s with gets := s.gets + 1, objs := objs' }, ?_, hs, hcmp, hclear⟩
  rw [round, hget, hrecv]
  simp only [hs, hseq]

end ColdReset

/-- The response is there at once. -/
theorem apiKcsCmdIpmb_iff_coldReset : ∃ r objs,
    apiKcsCmdIpmb coldResetCall (bmcWith (coldResetMsg [] 0x78)) 1 coldResetObjs.cmd 1 = some r ∧
      r.response = .ok objs ∧ IsResponse 1 (coldResetMsg [] 0x78) true := by
  have hdata : fiidObjGetData (messageRs (coldResetMsg [] 0x78)).obj "message_data" ipmiMaxPktLen
      = .ok (coldResetMsg [] 0x78) := by decide +kernel
  obtain ⟨objs, hparse, hseq, hchecksum⟩ : ∃ objs,
      report (·.accepted 0) (parseIpmbMsg (coldResetMsg [] 0x78) coldResetObjs.clear) = .ok (true, objs) ∧
      ipmiIpmbCheckRqSeq objs.msgHdr 1 = .ok true ∧
      ipmiIpmbCheckChecksum ipmiSlaveAddressBmc objs.msgHdr objs.cmd objs.msgTrlr = .ok true :=
    ⟨_, rfl, rfl, rfl⟩
  obtain ⟨hround, -⟩ := coldReset_returned hdata hparse hseq hchecksum
  have hrun := coldReset_run hround
  obtain ⟨s, data, accepted, ⟨s₀, hstart, hreached⟩, -, -, -, hreceived, hiff⟩ :=
    (apiKcsCmdIpmb_iff coldResetCall (bmcWith (coldResetMsg [] 0x78)) 1 tmplCmdColdResetRs
      coldResetObjs.cmd coldResetObjs_passed.cmd).2.2 1 _ objs hrun rfl
  cases (coldReset_start _).symm.trans hstart
  rcases reached_iff.mp hreached with rfl | ⟨s₁, hnext, -⟩
  · cases hdata.symm.trans hreceived.read
    have hresponse := hiff.mpr ⟨Or.inr ⟨_, _, rfl, rfl⟩, by decide⟩
    exact ⟨_, objs, hrun, rfl, rfl, hresponse.seq, hresponse.sums⟩
  · cases hround.symm.trans hnext

/-- A message for another requester that comes again and again is read forever. A response without a
    completion code is returned, and so is one with bytes behind what is taken for its checksum. -/
theorem bridge_slips :
    (∀ n, apiKcsCmdIpmb coldResetCall (bmcWith [0x1e, 0xc2, 0x82, 0x14, 0x02, 0x00, 0x68]) 1
      coldResetObjs.cmd n = none) ∧
    (∃ r objs, apiKcsCmdIpmb coldResetCall (bmcWith [0x1e, 0xc2, 0x82, 0x04, 0x02, 0x78]) 1
        coldResetObjs.cmd 1 = some r ∧ r.response = .ok objs ∧
      Received coldResetCall (bmcWith [0x1e, 0xc2, 0x82, 0x04, 0x02, 0x78]) coldResetStart
        [0x1e, 0xc2, 0x82, 0x04, 0x02, 0x78] false objs) ∧
    (∃ r objs, apiKcsCmdIpmb coldResetCall (bmcWith (coldResetMsg [0x78] 0x01)) 1 coldResetObjs.cmd 1
        = some r ∧ r.response = .ok objs ∧
      Received coldResetCall (bmcWith (coldResetMsg [0x78] 0x01)) coldResetStart
        (coldResetMsg [0x78] 0x01) true objs ∧
      ¬ ResponseSums ipmiSlaveAddressBmc (coldResetMsg [0x78] 0x01)) := by
  refine ⟨?_, ?_, ?_⟩
  · have hdata : fiidObjGetData (messageRs [0x1e, 0xc2, 0x82, 0x14, 0x02, 0x00, 0x68]).obj "message_data"
        ipmiMaxPktLen = .ok [0x1e, 0xc2, 0x82, 0x14, 0x02, 0x00, 0x68] := by decide +kernel
    obtain ⟨objs, hparse, hseq, hcmp, hclear⟩ : ∃ objs,
        report (·.accepted 0) (parseIpmbMsg [0x1e, 0xc2, 0x82, 0x14, 0x02, 0x00, 0x68]
          coldResetObjs.clear) = .ok (true, objs) ∧
        ipmiIpmbCheckRqSeq objs.msgHdr 1 = .ok false ∧ objs.compareTemplates = .ok () ∧
        objs.clear = coldResetObjs.clear := ⟨_, rfl, rfl, rfl, rfl⟩
    have hends := coldReset_stray hdata hparse hseq hcmp hclear
    intro n
    rw [apiKcsCmdIpmb_inl (coldReset_start _)]
    cases hrun : run (round coldResetCall (bmcWith [0x1e, 0xc2, 0x82, 0x14, 0x02, 0x00, 0x68])) n
        coldResetStart with
    | none => rfl
    | some r => exact absurd ⟨n, r, hrun⟩ hends
  · have hdata : fiidObjGetData (messageRs [0x1e, 0xc2, 0x82, 0x04, 0x02, 0x78]).obj "message_data"
        ipmiMaxPktLen = .ok [0x1e, 0xc2, 0x82, 0x04, 0x02, 0x78] := by decide +kernel
    obtain ⟨objs, hparse, hseq, hchecksum⟩ : ∃ objs,
        report (·.accepted 0) (parseIpmbMsg [0x1e, 0xc2, 0x82, 0x04, 0x02, 0x78] coldResetObjs.clear)
          = .ok (false, objs) ∧
        ipmiIpmbCheckRqSeq objs.msgHdr 1 = .ok true ∧
        ipmiIpmbCheckChecksum ipmiSlaveAddressBmc objs.msgHdr objs.cmd objs.msgTrlr = .ok true :=
      ⟨_, rfl, rfl, rfl⟩
    obtain ⟨hround, hreceived⟩ := coldReset_returned hdata hparse hseq hchecksum
    exact ⟨_, objs, coldReset_run hround, rfl, hreceived⟩
  · have hdata : fiidObjGetData (messageRs (coldResetMsg [0x78] 0x01)).obj "message_data" ipmiMaxPktLen
        = .ok (coldResetMsg [0x78] 0x01) := by decide +kernel
    obtain ⟨objs, hparse, hseq, hchecksum⟩ : ∃ objs,
        report (·.accepted 0) (parseIpmbMsg (coldResetMsg [0x78] 0x01) coldResetObjs.clear)
          = .ok (true, objs) ∧
        ipmiIpmbCheckRqSeq objs.msgHdr 1 = .ok true ∧
        ipmiIpmbCheckChecksum ipmiSlaveAddressBmc objs.msgHdr objs.cmd objs.msgTrlr = .ok true :=
      ⟨_, rfl, rfl, rfl⟩
    obtain ⟨hround, hreceived⟩ := coldReset_returned hdata hparse hseq hchecksum
    exact ⟨_, objs, coldReset_run hround, rfl, hreceived, by decide⟩

end FreeIpmi.Ipmb
