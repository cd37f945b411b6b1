import FreeIpmi.Rmcpplus.Sent

/-! An IPMI or SOL request that `assemble_ipmi_rmcpplus_pkt` has built goes through the parser and
    through the checks of its paddings and of its code, with the same algorithms and keys.

    The parser is walked through stage by stage on the bytes of the request. The headers stand in
    front, the payload behind its length, and what is left is the trailer, which is read from its
    end. -/

namespace FreeIpmi.Rmcpplus
open ByteBits Fiid Calls Stages Lan LittleEndian

/-! ### The session header of a request -/

/-- The lengths of a session header for a request, without OEM fields. The length of the payload is
    computed in any case. -/
def SessionHdrSet (lens : List ℕ) : Prop :=
  lens = [4, 4, 6, 1, 1, 0, 0, 0, 32, 32, 0] ∨ lens = hdrLens

/-- The session header in the bytes of an object. -/
def requestHdrAt (session : List Byte) : RequestHdr where
  payloadType := (valueAt session 8 6).setWidth 8
  payloadAuthenticated := valueAt session 14 1 ≠ 0
  payloadEncrypted := valueAt session 15 1 ≠ 0
  sessionId := (valueAt session 16 32).setWidth 32
  sessionSequenceNumber := (valueAt session 48 32).setWidth 32

/-- The fields of the session header that are sent as they are. -/
def sessionFields : List String :=
  ["authentication_type", "payload_type", "payload_type.authenticated", "payload_type.encrypted",
   "session_id", "session_sequence_number"]

section SessionHdr
variable {obj : FiidObj} {session rest payload rmcp behind : List Byte} {lens : List ℕ}

/-- Each of these fields stands in the first ten bytes. -/
theorem SessionHdrSet.places (hset : SessionHdrSet lens) {field : String} (hfield : field ∈ sessionFields) :
    ∃ offset len, offset + len ≤ 80 ∧
      valuePlace tmplRmcpplusSessionHdr.fields lens field = some (offset, len) ∧
      valuePlace tmplRmcpplusSessionHdr.fields hdrLens field = some (offset, len) := by
  have hlist : ∀ lens, SessionHdrSet lens →
      valuePlace tmplRmcpplusSessionHdr.fields lens "authentication_type" = some (0, 4) ∧
      valuePlace tmplRmcpplusSessionHdr.fields lens "payload_type" = some (8, 6) ∧
      valuePlace tmplRmcpplusSessionHdr.fields lens "payload_type.authenticated" = some (14, 1) ∧
      valuePlace tmplRmcpplusSessionHdr.fields lens "payload_type.encrypted" = some (15, 1) ∧
      valuePlace tmplRmcpplusSessionHdr.fields lens "session_id" = some (16, 32) ∧
      valuePlace tmplRmcpplusSessionHdr.fields lens "session_sequence_number" = some (48, 32) := by
    rintro lens (rfl | rfl) <;> decide
  obtain ⟨h1, h2, h3, h4, h5, h6⟩ := hlist lens hset
  obtain ⟨h1', h2', h3', h4', h5', h6'⟩ := hlist hdrLens (Or.inr rfl)
  simp only [sessionFields, List.mem_cons, List.not_mem_nil, or_false] at hfield
  rcases hfield with rfl | rfl | rfl | rfl | rfl | rfl
  · exact ⟨0, 4, by norm_num, h1, h1'⟩
  · exact ⟨8, 6, by norm_num, h2, h2'⟩
  · exact ⟨14, 1, by norm_num, h3, h3'⟩
  · exact ⟨15, 1, by norm_num, h4, h4'⟩
  · exact ⟨16, 32, by norm_num, h5, h5'⟩
  · exact ⟨48, 32, by norm_num, h6, h6'⟩

/-- What is read from the session header of a request. -/
theorem requestHdrOf_eq (hof : obj.Of tmplRmcpplusSessionHdr.fields) (hset : SessionHdrSet lens)
    (hholds : obj.Holds lens (session ++ rest)) (hlen : session.length = 10) :
    requestHdrOf obj = .ok (requestHdrAt session) := by
  have hplaces : valuePlace tmplRmcpplusSessionHdr.fields lens "payload_type" = some (8, 6) ∧
      valuePlace tmplRmcpplusSessionHdr.fields lens "payload_type.authenticated" = some (14, 1) ∧
      valuePlace tmplRmcpplusSessionHdr.fields lens "payload_type.encrypted" = some (15, 1) ∧
      valuePlace tmplRmcpplusSessionHdr.fields lens "session_id" = some (16, 32) ∧
      valuePlace tmplRmcpplusSessionHdr.fields lens "session_sequence_number" = some (48, 32) := by
    rcases hset with rfl | rfl <;> decide
  obtain ⟨h1, h2, h3, h4, h5⟩ := hplaces
  have hget : ∀ {field : String} {offset len : ℕ}, offset + len ≤ 80 →
      valuePlace tmplRmcpplusSessionHdr.fields lens field = some (offset, len) →
        fiidObjGetStrict obj field = .ok (valueAt session offset len) := by
    intro field offset len hle hplace
    rw [hholds.getStrict hof hplace, valueAt_append (by omega)]
  simp only [requestHdrOf, payloadTypeOf, hget (by norm_num) h1, hget (by norm_num) h2,
    hget (by norm_num) h3, hget (by norm_num) h4, hget (by norm_num) h5, ok_bind]
  rfl

/-- The block of the session header up to its sequence number; the OEM fields between are empty. -/
theorem getBlock_session (hwf : obj.Wf tmplRmcpplusSessionHdr) (hset : SessionHdrSet lens)
    (hholds : obj.Holds lens (session ++ rest)) (hlen : session.length = 10) {dataLen : ℕ}
    (hroom : 10 ≤ dataLen) :
    fiidObjGetBlock obj "authentication_type" "session_sequence_number" dataLen
      = .ok (10, session ++ List.replicate (dataLen - 10) 0) := by
  have hb : BlockAt obj "authentication_type" "session_sequence_number" 0 9 := by
    refine ⟨fieldAt_of_tmpl hwf.of (by decide), fieldAt_of_tmpl hwf.of (by decide), by norm_num, ?_, ?_⟩
    · rw [bitStart_eq hwf.of]
      rfl
    · rw [bitStart_eq hwf.of]
      show bitLen (tmplRmcpplusSessionHdr.fields.take 10) % 8 = 0
      decide
  have hcells : (blockFields obj 0 9).map FiidFieldData.toCell
      = (cellsOf tmplRmcpplusSessionHdr lens).take 10 := by
    have hall := cells_eq hwf
    rw [hholds.lens, FiidObj.cells] at hall
    have hfields : 10 ≤ (obj.fields.map FiidFieldData.toCell).length := by
      rw [List.length_map, hwf.length]
      decide
    rw [← hall, List.take_append_of_le_length hfields, ← List.map_take]
    rfl
  have hal : ∃ n, alignLoop ((cellsOf tmplRmcpplusSessionHdr lens).take 10) ⟨0, 0, 0, 0⟩ = .ok n ∧
      n.setBits = 0 := by
    rcases hset with rfl | rfl
    · exact ⟨_, by rfl, by rfl⟩
    · exact ⟨_, by rfl, by rfl⟩
  obtain ⟨n, hal, hzero⟩ := hal
  have hfit : CellsFit (obj.bitStart 0) ((cellsOf tmplRmcpplusSessionHdr lens).take 10) := by
    rw [bitStart_eq hwf.of]
    rcases hset with rfl | rfl <;> simp [tmplRmcpplusSessionHdr, cellsOf, CellsFit, hdrLens]
  obtain ⟨hseg, -⟩ := hholds.segment 0 10
  have hsum : ((lens.drop 0).take 10).sum = 80 := by
    rcases hset with rfl | rfl <;> rfl
  have hsetLen : setLen (blockFields obj 0 9) = 80 := by
    rw [setLen_eq_sum, blockFields, List.map_take, List.map_drop, ← hsum, ← hholds.lens]
    rfl
  have hbits : cellBits obj.data (obj.bitStart 0) ((blockFields obj 0 9).map FiidFieldData.toCell)
      = window session 0 (8 * session.length) := by
    rw [hlen, ← window_append_left (b := rest) (by omega)]
    rw [hsum] at hseg
    exact hseg
  rw [← hcells] at hal hfit
  rw [getBlock_ok hwf hb hal hzero hfit (by omega), hsetLen, hbits, pack_window]

end SessionHdr

/-! ### The layout of a request -/

/-- The session header that the parser finds in front of a payload of `len` bytes. -/
def RequestHdr.received (h : RequestHdr) (len : ℕ) : SessionHdr where
  payloadType := h.payloadType
  payloadAuthenticated := h.payloadAuthenticated
  payloadEncrypted := h.payloadEncrypted
  sessionId := h.sessionId
  sessionSequenceNumber := h.sessionSequenceNumber
  ipmiPayloadLen := len

@[simp] theorem hasTrlr_received (h : RequestHdr) (len : ℕ) : (h.received len).hasTrlr = h.hasTrlr := rfl

/-- What the assembler takes for a request is not malformed. -/
theorem malformed_received {h : RequestHdr} {algorithms : Algorithms} {len : ℕ}
    (hrejected : h.rejected algorithms = false) (hlen : len ≠ 0) :
    (h.received len).malformed algorithms = false := by
  have hzero : (len == 0) = false := beq_eq_false_iff_ne.mpr hlen
  simp only [RequestHdr.rejected, Bool.or_eq_false_iff] at hrejected
  obtain ⟨⟨⟨⟨-, hsetup⟩, hauth⟩, hkeyed⟩, hnone⟩ := hrejected
  simp only [SessionHdr.malformed, RequestHdr.received, Bool.or_eq_false_iff]
  exact ⟨⟨⟨⟨hsetup, hauth⟩, hkeyed⟩, hnone⟩, hzero⟩

/-- The little-endian length behind the session header. -/
theorem valueAt_leBytes {session : List Byte} {v : ℕ} (hlen : session.length = 10) (hv : v < 65536) :
    ((valueAt (session ++ leBytes 2 v) 80 16).setWidth 16).toNat = v := by
  have hwindow : window (session ++ leBytes 2 v) 80 16
      = window (leBytes 2 v) 0 (8 * (leBytes 2 v).length) := by
    rw [length_leBytes]
    refine window_congr fun q hq => ?_
    rw [bit_append_right (by omega), hlen]
    congr 1
    omega
  rw [valueAt, hwindow, BitVec.toNat_setWidth, BitVec.toNat_setWidth, toNat_window,
    leValue_leBytes (show v < 256 ^ 2 from hv)]
  omega

section Layout
variable {rmcp session payload trlr : List Byte}

theorem headerBytes_front (hrmcp : rmcp.length = 4) (hsession : session.length = 10) :
    headerBytes (requestFront rmcp session payload ++ trlr) = session ++ leBytes 2 payload.length := by
  have hlen := length_leBytes 2 payload.length
  rw [headerBytes, requestFront]
  simp only [List.append_assoc]
  rw [List.drop_left' hrmcp, ← List.append_assoc session]
  exact List.take_left' (by rw [List.length_append]; omega)

theorem headerAt_front (hrmcp : rmcp.length = 4) (hsession : session.length = 10)
    (hlt : payload.length < 65536) : headerAt (requestFront rmcp session payload ++ trlr)
      = (requestHdrAt session).received payload.length := by
  have hvalue : ∀ {offset len : ℕ}, offset + len ≤ 80 →
      valueAt (session ++ leBytes 2 payload.length) offset len = valueAt session offset len :=
    fun hle => valueAt_append (by omega)
  simp only [headerAt, headerBytes_front hrmcp hsession, valueAt_leBytes hsession hlt]
  simp only [hvalue (show 8 + 6 ≤ 80 by norm_num), hvalue (show 14 + 1 ≤ 80 by norm_num),
    hvalue (show 15 + 1 ≤ 80 by norm_num), hvalue (show 16 + 32 ≤ 80 by norm_num),
    hvalue (show 48 + 32 ≤ 80 by norm_num)]
  rfl

theorem drop_front (hrmcp : rmcp.length = 4) (hsession : session.length = 10) :
    (requestFront rmcp session payload ++ trlr).drop 16 = payload ++ trlr := by
  rw [requestFront, List.append_assoc]
  refine List.drop_left' ?_
  simp only [List.length_append, length_leBytes, hrmcp, hsession]

end Layout

/-! ### The headers -/

section Headers
variable {pkt : List Byte} {objs : RmcpplusObjs} {algorithms : Algorithms} {w : RmcpplusWalk}

/-- Behind the first stage nothing touches the object of the RMCP header. -/
theorem headerStages_tail_keeps (obj : FiidObj) : ∀ stage ∈ (headerStages algorithms pkt).tail,
    ∀ w : RmcpplusWalk, w.objs.rmcpHdr = obj →
      Keeps (fun w : RmcpplusWalk => w.objs.rmcpHdr = obj) (stage w) := by
  intro stage hstage w hw
  have hsession : ∀ fieldStart fieldEnd, Keeps (fun w : RmcpplusWalk => w.objs.rmcpHdr = obj)
      (sessionHdrStage pkt fieldStart fieldEnd w) := fun _ _ => keeps_call fun _ _ => keeps_ok hw
  have hmore : Keeps (fun w : RmcpplusWalk => w.objs.rmcpHdr = obj) (moreStage pkt w) :=
    keeps_ite (keeps_unparsed hw) (keeps_ok hw)
  simp only [headerStages, List.tail_cons, List.mem_cons, List.not_mem_nil, or_false] at hstage
  rcases hstage with rfl | rfl | rfl | rfl | rfl | rfl | rfl
  · exact hmore
  · exact hsession _ _
  · exact hmore
  · exact keeps_call fun _ _ => keeps_ite (keeps_ok hw) (keeps_unparsed hw)
  · exact hsession _ _
  · exact hmore
  · exact keeps_call fun _ _ => keeps_ite (keeps_unparsed hw) (keeps_ok hw)

theorem headerStages_rmcpHdr (hof : objs.rmcpHdr.Of tmplRmcpHdr.fields) (hunset : objs.rmcpHdr.Unset)
    (hlong : 4 ≤ pkt.length) (hrun : runStages (headerStages algorithms pkt) ⟨0, objs⟩ = .ok w) :
    w.objs.rmcpHdr.Holds rmcpHdrLens (pkt.take 4) := by
  obtain ⟨obj, n, hcall, hfill⟩ := trySetAll_filled hof hunset (endsByteAligned_rmcpHdr pkt.length)
  have hlen := hfill.len
  rw [show bitLen tmplRmcpHdr.fields = 32 from rfl] at hlen
  obtain rfl : n = 4 := by omega
  have hholds : obj.Holds rmcpHdrLens (pkt.take 4) := hfill.holds hof hunset
  obtain ⟨w₁, hfirst, hrest⟩ := runStages_cons_eq_ok.mp hrun
  simp only [rmcpHdrStage, List.drop_zero, hcall, call_ok, ok_bind] at hfirst
  cases hfirst
  rw [(runStages_meets (headerStages_tail_keeps obj) rfl).value _ hrest]
  exact hholds

/-- The parser gets behind the headers of a request. -/
theorem headerStages_readable (hread : Readable algorithms pkt)
    (hrmcp : objs.rmcpHdr.Of tmplRmcpHdr.fields) (hrmcpUnset : objs.rmcpHdr.Unset)
    (hof : objs.sessionHdr.Of tmplRmcpplusSessionHdr.fields) (hunset : objs.sessionHdr.Unset) :
    ∃ w, runStages (headerStages algorithms pkt) ⟨0, objs⟩ = .ok w ∧
      InHeader pkt objs 11 16 hdrLens w ∧ w.objs.rmcpHdr.Holds rmcpHdrLens (pkt.take 4) := by
  rcases headerStages_ensures algorithms pkt hrmcp hrmcpUnset hof hunset ⟨0, objs⟩ rfl with
    ⟨w, hrun, hw, -⟩ | ⟨w, -, hnot⟩
  · have hlong := hread.long
    exact ⟨w, hrun, hw, headerStages_rmcpHdr hrmcp hrmcpUnset (by omega) hrun⟩
  · exact absurd hread hnot

end Headers

/-! ### The payload -/

/-- The objects of a payload that was taken apart. -/
structure ContentRead (payloadType : Byte) (objCmd : FiidObj) (hdr cmd : List Byte)
    (objs : RmcpplusObjs) : Prop where
  same : objCmd.SameFields objs.cmd
  reads : objs.cmd.Reads cmd
  msgHdr : payloadType = ipmiPayloadTypeIpmi →
    objs.lanMsgHdr.Of tmplLanMsgHdrRs.fields ∧ objs.lanMsgHdr.Holds msgHdrLens hdr
  msgTrlr : payloadType = ipmiPayloadTypeIpmi → objs.lanMsgTrlr.Of tmplLanMsgTrlr.fields ∧
    objs.lanMsgTrlr.Holds [8] [ipmiChecksum (hdr.drop 3 ++ cmd)]

/-- The headers and the trailer of the packet are left alone. -/
structure Framed (objs objs' : RmcpplusObjs) : Prop where
  rmcpHdr : objs'.rmcpHdr = objs.rmcpHdr
  sessionHdr : objs'.sessionHdr = objs.sessionHdr
  sessionTrlr : objs'.sessionTrlr = objs.sessionTrlr

section Payload
variable {objs : RmcpplusObjs} {objCmd : FiidObj} {cmdFields : List FiidField} {hdr cmd : List Byte}
  {payloadType : Byte}

/-- A command is read back into an object of its template. -/
theorem trySetAll_cmd (hfront : FrontFilled cmdFields objCmd) (hof : objCmd.Of cmdFields)
    (hholds : objCmd.Holds objCmd.lens cmd) {obj : FiidObj} (hobj : obj.Of cmdFields)
    (hunset : obj.Unset) : ∃ obj', trySetAll obj cmd = .ok (obj', cmd.length) ∧
      objCmd.SameFields obj' ∧ obj'.Reads cmd := by
  obtain ⟨obj', hcall, hlens, hbits⟩ := hfront.setAll hof hholds hobj hunset
  have hends := hfront.ends
  have hlen : fiidObjLen objCmd = 8 * cmd.length := hholds.setLen
  rw [hlen, Nat.mul_div_cancel_left _ (by norm_num)] at hends
  obtain ⟨obj'', n, hcall', hfill⟩ := trySetAll_filled hobj hunset hends
  have hsame := hcall.symm.trans hfill.call
  rw [Prod.mk.injEq, Except.ok.injEq] at hsame
  obtain ⟨rfl, rfl⟩ := hsame
  have hreads := hfill.reads hobj hunset
  rw [List.take_length] at hreads
  exact ⟨obj', hcall', ⟨hlens, hbits⟩, hreads⟩

/-- A message is taken apart into header, command and checksum. -/
theorem deconstructMsg_requestMsg (h : MsgObjs cmdFields objs) (hlen : hdr.length = 5) (hne : cmd ≠ [])
    {obj : FiidObj} (hcmd : trySetAll objs.cmd cmd = .ok (obj, cmd.length))
    (hsame : objCmd.SameFields obj) (hreads : obj.Reads cmd) :
    ∃ objs', deconstructMsg (requestMsg hdr cmd) objs = .ok objs' ∧
      ContentRead ipmiPayloadTypeIpmi objCmd hdr cmd objs' ∧ Framed objs objs' ∧
      objs'.payload = objs.payload := by
  have htrlr : orTemplateInvalid (fiidTemplateLenBytes tmplLanMsgTrlr) = .ok 1 := by decide
  have hpos := List.length_pos_iff.mpr hne
  have hmsgLen : (requestMsg hdr cmd).length = 6 + cmd.length := length_requestMsg hlen cmd
  obtain ⟨objHdr, n, hhdrCall, hhdrFill⟩ := trySetAll_filled h.lanMsgHdr h.lanMsgHdrUnset
    (endsByteAligned_msgHdr (requestMsg hdr cmd).length)
  have hn := hhdrFill.len
  rw [show bitLen tmplLanMsgHdrRs.fields = 40 from rfl] at hn
  obtain rfl : n = 5 := by omega
  have hhdr : objHdr.Holds msgHdrLens ((requestMsg hdr cmd).take 5) :=
    hhdrFill.holds h.lanMsgHdr h.lanMsgHdrUnset
  have htake : (requestMsg hdr cmd).take 5 = hdr := List.take_left' hlen
  have hcmdBytes : ((requestMsg hdr cmd).drop 5).take ((requestMsg hdr cmd).length - 5 - 1) = cmd := by
    rw [requestMsg, List.drop_left' hlen]
    refine List.take_left' ?_
    simp only [List.length_append, List.length_singleton, hlen]
    omega
  have hsum : (requestMsg hdr cmd).drop (5 + cmd.length) = [ipmiChecksum (hdr.drop 3 ++ cmd)] := by
    rw [requestMsg, ← List.append_assoc]
    exact List.drop_left' (by rw [List.length_append, hlen])
  obtain ⟨objTrlr, k, htrlrCall, htrlrFill⟩ := trySetAll_filled h.lanMsgTrlr h.lanMsgTrlrUnset
    (endsByteAligned_msgTrlr [ipmiChecksum (hdr.drop 3 ++ cmd)].length)
  have hk := htrlrFill.len
  rw [show bitLen tmplLanMsgTrlr.fields = 8 from rfl, List.length_singleton] at hk
  obtain rfl : k = 1 := by omega
  have htrlrHolds : objTrlr.Holds [8] [ipmiChecksum (hdr.drop 3 ++ cmd)] :=
    htrlrFill.holds h.lanMsgTrlr h.lanMsgTrlrUnset
  rw [htake] at hhdr
  simp only [deconstructMsg, htrlr, hhdrCall, call_ok, ok_bind, hcmdBytes, hcmd, hsum, htrlrCall]
  rw [if_neg (by omega), if_neg (by omega), if_neg (by omega)]
  exact ⟨_, rfl, ⟨hsame, hreads, fun _ => ⟨hhdrFill.of, hhdr⟩, fun _ => ⟨htrlrFill.of, htrlrHolds⟩⟩,
    ⟨rfl, rfl, rfl⟩, rfl⟩

theorem deconstructPayloadBuf_content (h : BufObjs payloadType cmdFields objs)
    (hlen : payloadType = ipmiPayloadTypeIpmi → hdr.length = 5) (hne : cmd ≠ [])
    (hfront : FrontFilled cmdFields objCmd) (hof : objCmd.Of cmdFields)
    (hholds : objCmd.Holds objCmd.lens cmd) : ∃ objs',
    deconstructPayloadBuf payloadType (requestContent payloadType hdr cmd) objs = .ok objs' ∧
      ContentRead payloadType objCmd hdr cmd objs' ∧ Framed objs objs' ∧
      objs'.payload = objs.payload := by
  obtain ⟨obj, hcall, hsame, hreads⟩ := trySetAll_cmd hfront hof hholds h.cmd h.cmdUnset
  rw [deconstructPayloadBuf, requestContent]
  by_cases htype : payloadType = ipmiPayloadTypeIpmi
  · rw [if_pos htype, if_pos htype]
    subst htype
    exact deconstructMsg_requestMsg (h.msg rfl) (hlen rfl) hne hcall hsame hreads
  · rw [if_neg htype, if_neg htype, hcall]
    exact ⟨_, rfl, ⟨hsame, hreads, fun heq => absurd heq htype, fun heq => absurd heq htype⟩,
      ⟨rfl, rfl, rfl⟩, rfl⟩

/-- The fields of the payload when it has been taken apart: a decrypted one has its padding in the
    trailer. -/
def readParts (algorithms : Algorithms) (iv content : List Byte) : List (List Byte) :=
  if algorithms.confidentiality = ipmiConfidentialityAlgorithmNone then [[], content, []]
  else [iv, content, confidentialityPad (confidentialityPadLen content.length)]

theorem ContentRead.withPayload (h : ContentRead payloadType objCmd hdr cmd objs) (obj : FiidObj) :
    ContentRead payloadType objCmd hdr cmd { objs with payload := obj } :=
  ⟨h.same, h.reads, h.msgHdr, h.msgTrlr⟩

/-- A field of the payload is set. -/
theorem setPayload_parts {parts : List (List Byte)} {field : String} {i : ℕ} {g : FiidField}
    (h : objs.payload.Parts tmplRmcpplusPayload.fields parts)
    (hi : tmplRmcpplusPayload.fields.findIdx? (fun f => f.key = field) = some i)
    (hg : tmplRmcpplusPayload.fields[i]? = some g) {d : List Byte} (hfit : 8 * d.length ≤ g.maxFieldLen) :
    ∃ obj, setPayload field d objs = .ok { objs with payload := obj } ∧
      obj.Parts tmplRmcpplusPayload.fields (parts.set i d) := by
  obtain ⟨obj, hset, hparts⟩ := h.setFitting hi hg hfit
  refine ⟨obj, ?_, hparts⟩
  simp only [setPayload, hset, call_ok, ok_bind]
  rfl

section Content
variable {algorithms : Algorithms} {content iv : List Byte}

theorem getLastD_padded (content : List Byte) :
    (padded content).getLastD 0 = BitVec.ofNat 8 (confidentialityPadLen content.length) := by
  rw [padded, confidentialityPad, ← List.append_assoc, List.getLastD_concat]

/-- The padding is found from the last byte, and what stands in front of it is the content. -/
theorem deconstructDecrypted_padded (h : BufObjs payloadType cmdFields objs)
    (hcontent : content = requestContent payloadType hdr cmd) (hcontentNe : content ≠ [])
    (hfits : content.length ≤ ipmiMaxPayloadLength)
    (hlen : payloadType = ipmiPayloadTypeIpmi → hdr.length = 5) (hne : cmd ≠ [])
    (hfront : FrontFilled cmdFields objCmd) (hof : objCmd.Of cmdFields)
    (hholds : objCmd.Holds objCmd.lens cmd)
    (hpayload : objs.payload.Parts tmplRmcpplusPayload.fields [iv, [], []]) : ∃ objs',
    deconstructDecrypted payloadType (padded content) objs = .ok objs' ∧
      ContentRead payloadType objCmd hdr cmd objs' ∧ Framed objs objs' ∧
      objs'.payload.Parts tmplRmcpplusPayload.fields
        [iv, content, confidentialityPad (confidentialityPadLen content.length)] := by
  obtain ⟨-, hdata, htrailer⟩ := payload_indices
  have hpad := (confidentialityPadLen_spec content.length).1
  have hbyte : ((padded content).getLastD 0).toNat = confidentialityPadLen content.length := by
    rw [getLastD_padded, BitVec.toNat_ofNat]
    exact Nat.mod_eq_of_lt (by omega)
  have hpadded := length_padded content
  have hpos := List.length_pos_iff.mpr hcontentNe
  have hcmdLen : (padded content).length - confidentialityPadLen content.length - 1 = content.length := by
    omega
  have htake : (padded content).take content.length = content := List.take_left' rfl
  have hdrop : (padded content).drop content.length
      = confidentialityPad (confidentialityPadLen content.length) := List.drop_left' rfl
  obtain ⟨obj₁, hset₁, h₁⟩ := setPayload_parts hpayload hdata rfl (d := content) (by
    rw [ipmiMaxPayloadLength] at hfits
    simp only
    omega)
  obtain ⟨obj₂, hset₂, h₂⟩ := h₁.setFitting htrailer rfl
    (d := confidentialityPad (confidentialityPadLen content.length)) (by
      rw [length_confidentialityPad]
      simp only
      omega)
  have htrlr : setConfidentialityTrailer (confidentialityPad (confidentialityPadLen content.length))
      { objs with payload := obj₁ } = { objs with payload := obj₂ } := by
    rw [setConfidentialityTrailer, hset₂]
  obtain ⟨objs', hread, hcontentRead, hframe, hsame⟩ := deconstructPayloadBuf_content
    (h.withPayload obj₂) hlen hne hfront hof hholds
  simp only [deconstructDecrypted, hbyte, hcmdLen, htake, hdrop, hset₁, ok_bind, htrlr]
  rw [if_neg (by rw [ipmiCryptAesCbc128BlockLength]; omega), if_neg (by omega), if_neg (by omega),
    hcontent, hread]
  refine ⟨objs', rfl, hcontentRead, ⟨hframe.rmcpHdr, hframe.sessionHdr, hframe.sessionTrlr⟩, ?_⟩
  rw [hsame, ← hcontent]
  exact h₂

/-- The cipher of `libgcrypt`: whole blocks that were encrypted are decrypted to what they were. -/
def Inverse (crypto : Crypto) (cipher : Cipher) : Prop :=
  ∀ key iv data, data.length % ipmiCryptAesCbc128BlockLength = 0 →
    crypto.aesCbc128Decrypt key iv (cipher.aesCbc128Encrypt key iv data) = data

theorem deconstructPayload_request {crypto : Crypto} {cipher : Cipher}
    {confidentialityKey : Option (List Byte)} {h : SessionHdr} (hkind : Ciphered h.payloadType)
    (hbuf : BufObjs h.payloadType cmdFields objs) (hinverse : Inverse crypto cipher)
    (hcontent : content = requestContent h.payloadType hdr cmd) (hcontentNe : content ≠ [])
    (hfits : content.length ≤ ipmiMaxPayloadLength)
    (hencrypted : algorithms.confidentiality ≠ ipmiConfidentialityAlgorithmNone →
      Encrypted cipher (confidentialityKey.getD []) h.payloadEncrypted iv content)
    (hlen : h.payloadType = ipmiPayloadTypeIpmi → hdr.length = 5) (hne : cmd ≠ [])
    (hfront : FrontFilled cmdFields objCmd) (hof : objCmd.Of cmdFields)
    (hholds : objCmd.Holds objCmd.lens cmd)
    (hpayload : objs.payload.Parts tmplRmcpplusPayload.fields [[], [], []]) : ∃ objs',
    deconstructPayload crypto algorithms confidentialityKey h
        (payloadParts cipher algorithms (confidentialityKey.getD []) iv content).flatten objs = .ok objs' ∧
      ContentRead h.payloadType objCmd hdr cmd objs' ∧ Framed objs objs' ∧
      objs'.payload.Parts tmplRmcpplusPayload.fields (readParts algorithms iv content) := by
  obtain ⟨hheader, hdata, -⟩ := payload_indices
  rw [deconstructPayload, if_pos hkind]
  by_cases hnone : algorithms.confidentiality = ipmiConfidentialityAlgorithmNone
  · rw [if_pos hnone, payloadParts, if_pos hnone, readParts, if_pos hnone]
    obtain ⟨objs', hread, hcontentRead, hframe, hsame⟩ := deconstructPayloadBuf_content hbuf hlen hne
      hfront hof hholds
    rw [← hsame] at hpayload
    obtain ⟨obj, hset, hparts⟩ := setPayload_parts hpayload hdata rfl (d := content) (by
      rw [ipmiMaxPayloadLength] at hfits
      simp only
      omega)
    have hflat : [[], content, []].flatten = content := by simp
    rw [deconstructPayloadConfidentialityNone, hflat, hcontent, hread, ok_bind, ← hcontent, hset]
    exact ⟨_, rfl, hcontentRead.withPayload obj, ⟨hframe.rmcpHdr, hframe.sessionHdr, hframe.sessionTrlr⟩,
      hparts⟩
  · have henc := hencrypted hnone
    obtain ⟨key, rfl⟩ : ∃ key, confidentialityKey = some key := by
      cases confidentialityKey with
      | none =>
        have hzero := henc.keyLen
        cases hzero
      | some key => exact ⟨key, rfl⟩
    rw [if_neg hnone, payloadParts, if_neg hnone, readParts, if_neg hnone, henc.marked]
    obtain ⟨encrypted, hdef⟩ : ∃ encrypted, encrypted = cipher.aesCbc128Encrypt
        (key.take ipmiCryptAesCbc128BlockLength) iv (padded content) := ⟨_, rfl⟩
    have hkeyLen := henc.keyLen
    have hivLen := henc.ivLen
    have hblocks := padded_blocks content
    have hlenEnc := henc.length
    simp only [Option.getD_some] at hkeyLen hlenEnc ⊢
    rw [← hdef] at hlenEnc ⊢
    have hflat : [iv, encrypted.take content.length, encrypted.drop content.length].flatten
        = iv ++ encrypted := by simp
    have hdecrypt : crypto.aesCbc128Decrypt (key.take ipmiCryptAesCbc128BlockLength) iv encrypted
        = padded content := by
      rw [hdef]
      exact hinverse _ _ _ hblocks
    have hpadded := length_padded content
    obtain ⟨obj, hset, hparts⟩ := setPayload_parts hpayload hheader rfl (d := iv) (by
      rw [hivLen, ipmiCryptAesCbc128BlockLength]
      norm_num)
    obtain ⟨objs', hread, hcontentRead, hframe, hparts'⟩ := deconstructDecrypted_padded
      (hbuf.withPayload obj) hcontent hcontentNe hfits hlen hne hfront hof hholds hparts
    simp only [hflat, deconstructPayloadConfidentialityAesCbc128, List.take_left' hivLen,
      List.drop_left' hivLen, hset, ok_bind, hdecrypt]
    rw [if_neg (by omega), if_neg (by rw [List.length_append]; omega),
      if_neg (by rw [List.length_append]; omega), if_neg (by rw [hlenEnc]; exact not_not.mpr hblocks),
      if_neg (by rw [hlenEnc]; exact not_not.mpr rfl), hread]
    exact ⟨objs', rfl, hcontentRead, ⟨hframe.rmcpHdr, hframe.sessionHdr, hframe.sessionTrlr⟩, hparts'⟩

end Content

end Payload

/-! ### The trailer -/

/-- The fields of the trailer behind `n` bytes. -/
def trlrParts (n : ℕ) (nextHeader : Byte) (code : List Byte) : List (List Byte) :=
  [List.replicate (integrityPadLen (n + 2)) ipmiIntegrityPadData,
    [BitVec.ofNat 8 (integrityPadLen (n + 2))], [nextHeader], code]

section Trailer
variable {w : RmcpplusWalk} {algorithms : Algorithms} {parts : List (List Byte)} {d : List Byte}

/-- A field of the trailer is set. -/
theorem trlrDataStage_parts (h : w.objs.sessionTrlr.Parts tmplRmcpplusSessionTrlr.fields parts)
    {field : String} {i : ℕ} {g : FiidField}
    (hi : tmplRmcpplusSessionTrlr.fields.findIdx? (fun f => f.key = field) = some i)
    (hg : tmplRmcpplusSessionTrlr.fields[i]? = some g) (hfit : 8 * d.length ≤ g.maxFieldLen) :
    ∃ obj, trlrDataStage field d w = .ok { w with objs := { w.objs with sessionTrlr := obj } } ∧
      obj.Parts tmplRmcpplusSessionTrlr.fields (parts.set i d) := by
  obtain ⟨obj, hset, hparts⟩ := h.setFitting hi hg hfit
  refine ⟨obj, ?_, hparts⟩
  simp only [trlrDataStage, hset, call_ok, ok_bind]
  rfl

/-- From the end of the packet: the code, the next header, the length of the padding, the padding. -/
theorem trlrStage_request {h : SessionHdr} (hhdr : sessionHdrOf w.objs.sessionHdr = .ok h)
    (htrlr : h.hasTrlr = true) {n : ℕ} {nextHeader : Byte} {code pkt : List Byte}
    (hrest : pkt.drop w.indx = trlrFront n nextHeader ++ code)
    (hcode : code.length = authenticationCodeLen algorithms.integrity) (hcodeLen : 0 < code.length)
    (hcodeMax : code.length ≤ 32)
    (hparts : w.objs.sessionTrlr.Parts tmplRmcpplusSessionTrlr.fields [[], [], [], []]) :
    ∃ obj, trlrStage algorithms pkt w = .ok { w with objs := { w.objs with sessionTrlr := obj } } ∧
      obj.Parts tmplRmcpplusSessionTrlr.fields (trlrParts n nextHeader code) := by
  have hpadFieldLen : orTemplateInvalid (fiidTemplateFieldLenBytes tmplRmcpplusSessionTrlr "pad_length")
      = .ok 1 := by decide
  have hnextFieldLen : orTemplateInvalid
      (fiidTemplateFieldLenBytes tmplRmcpplusSessionTrlr "next_header") = .ok 1 := by decide
  obtain ⟨hpadIndex, hlengthIndex, hnextIndex, hcodeIndex⟩ := trlr_indices
  obtain ⟨p, hp⟩ : ∃ p, p = integrityPadLen (n + 2) := ⟨_, rfl⟩
  have hlt := (integrityPadLen_lt (n + 2)).1
  obtain ⟨pad, hpad⟩ : ∃ pad, pad = List.replicate p ipmiIntegrityPadData := ⟨_, rfl⟩
  have hpadLen : pad.length = p := by rw [hpad, List.length_replicate]
  rw [trlrParts, ← hp, ← hpad]
  rw [trlrFront, ← hp, ← hpad] at hrest
  rw [← hp] at hlt
  have hlen : (pkt.drop w.indx).length = p + 2 + code.length := by
    rw [hrest, List.length_append, List.length_append, hpadLen]
    rfl
  have hcodeAt : (pkt.drop w.indx).drop (p + 2) = code := by
    rw [hrest]
    exact List.drop_left' (by simp [hpadLen])
  have hnextAt : ((pkt.drop w.indx).drop (p + 1)).take 1 = [nextHeader] := by
    rw [hrest, show pad ++ [BitVec.ofNat 8 p, nextHeader] ++ code
      = (pad ++ [BitVec.ofNat 8 p]) ++ ([nextHeader] ++ code) by simp,
      List.drop_left' (by simp [hpadLen])]
    rfl
  have hlengthAt : ((pkt.drop w.indx).drop p).take 1 = [BitVec.ofNat 8 p] := by
    rw [hrest, List.append_assoc, List.drop_left' hpadLen]
    rfl
  have hpadAt : (pkt.drop w.indx).take p = pad := by
    rw [hrest, List.append_assoc, List.take_left' hpadLen]
  obtain ⟨obj₁, hset₁, h₁⟩ := trlrDataStage_parts hparts hcodeIndex rfl (d := code) (by
    simp only
    omega)
  obtain ⟨obj₂, hset₂, h₂⟩ := trlrDataStage_parts
    (w := { w with objs := { w.objs with sessionTrlr := obj₁ } }) h₁ hnextIndex rfl
    (d := [nextHeader]) (by simp)
  obtain ⟨obj₃, hset₃, h₃⟩ := trlrDataStage_parts
    (w := { w with objs := { w.objs with sessionTrlr := obj₂ } }) h₂ hlengthIndex rfl
    (d := [BitVec.ofNat 8 p]) (by simp)
  obtain ⟨obj₄, hset₄, h₄⟩ := trlrDataStage_parts
    (w := { w with objs := { w.objs with sessionTrlr := obj₃ } }) h₃ hpadIndex rfl
    (d := pad) (by
      rw [hpadLen]
      simp only
      omega)
  have hget : fiidObjGetStrict obj₃ "pad_length" = .ok ((BitVec.ofNat 8 p).setWidth 64) :=
    h₃.getByte hlengthIndex rfl rfl rfl
  have hbyte : (((BitVec.ofNat 8 p).setWidth 64).setWidth 8).toNat = p := by
    rw [byte_setWidth, BitVec.toNat_ofNat]
    exact Nat.mod_eq_of_lt (by omega)
  refine ⟨obj₄, ?_, h₄⟩
  have hsub1 : (pkt.drop w.indx).length - code.length = p + 2 := by omega
  have hsub2 : p + 2 - 1 = p + 1 := rfl
  have hsub3 : p + 1 - 1 = p := rfl
  simp only [trlrStage, hhdr, htrlr, hpadFieldLen, hnextFieldLen, call_ok, ok_bind, Bool.not_true,
    Bool.false_eq_true, if_false, ← hcode, hsub1, hsub2, hsub3, hcodeAt, hnextAt, hlengthAt]
  rw [if_neg (by omega), if_pos (by omega), hset₁, ok_bind, runStages, hset₂, ok_bind, runStages, hset₃,
    ok_bind, runStages]
  simp only [integrityPadStage, hget, call_ok, ok_bind, hbyte]
  rw [if_neg (by rw [ipmiIntegrityPadMultiple]; omega), if_neg (by omega), hpadAt, hset₄]
  rfl

end Trailer

/-! ### The checks -/

section Checks
variable {algorithms : Algorithms} {obj : FiidObj} {iv content : List Byte}

theorem confidentialityPad_getD {padLen i : ℕ} (hi : i < padLen) :
    (confidentialityPad padLen).getD i 0 = BitVec.ofNat 8 (i + 1) := by
  have hlen : i < ((List.range padLen).map fun i => BitVec.ofNat 8 (i + 1)).length := by simpa using hi
  rw [confidentialityPad, List.getD_eq_getElem?_getD, List.getElem?_append_left hlen]
  simp [hi]

/-- The padding that was decrypted is the one that was encrypted. -/
theorem checkPayloadPad_read
    (hsupported : ipmiConfidentialityAlgorithmSupported algorithms.confidentiality = true)
    (h : obj.Parts tmplRmcpplusPayload.fields (readParts algorithms iv content)) :
    ipmiRmcpplusCheckPayloadPad algorithms.confidentiality obj = .ok true := by
  obtain ⟨-, -, htrailer⟩ := payload_indices
  have hcompare := h.of.compare (show TemplateOk tmplRmcpplusPayload by decide)
  rw [ipmiRmcpplusCheckPayloadPad, hsupported, if_neg (by decide), hcompare, ok_bind]
  by_cases hnone : algorithms.confidentiality = ipmiConfidentialityAlgorithmNone
  · rw [if_pos hnone]
    rfl
  · rw [readParts, if_neg hnone] at h
    have hpad := (confidentialityPadLen_spec content.length).1
    have hget : fiidObjGetData obj "confidentiality_trailer" 64
        = .ok (confidentialityPad (confidentialityPadLen content.length)) :=
      h.getData htrailer rfl (by rw [length_confidentialityPad]; omega)
    have hlast : (confidentialityPad (confidentialityPadLen content.length)).getLastD 0
        = BitVec.ofNat 8 (confidentialityPadLen content.length) := by
      rw [confidentialityPad, List.getLastD_concat]
    have hnat : (BitVec.ofNat 8 (confidentialityPadLen content.length)).toNat
        = confidentialityPadLen content.length := by
      rw [BitVec.toNat_ofNat]
      exact Nat.mod_eq_of_lt (by omega)
    simp only [if_neg hnone, hget, ok_bind, length_confidentialityPad, hlast, Nat.add_sub_cancel, hnat]
    rw [if_neg (by omega), if_neg (by simp)]
    refine congrArg Except.ok (List.all_eq_true.mpr fun i hi => ?_)
    rw [confidentialityPad_getD (List.mem_range.mp hi), beq_self_eq_true]

theorem checkIntegrityPad_read {n : ℕ} {nextHeader : Byte} {code : List Byte}
    (h : obj.Parts tmplRmcpplusSessionTrlr.fields (trlrParts n nextHeader code)) :
    ipmiRmcpplusCheckIntegrityPad obj = .ok true := by
  obtain ⟨hpadIndex, hlengthIndex, -, -⟩ := trlr_indices
  obtain ⟨p, hp⟩ : ∃ p, p = integrityPadLen (n + 2) := ⟨_, rfl⟩
  have hlt := (integrityPadLen_lt (n + 2)).1
  rw [trlrParts, ← hp] at h
  rw [← hp] at hlt
  have hcompare := h.of.compare (show TemplateOk tmplRmcpplusSessionTrlr by decide)
  have hlength : fiidObjGetStrict obj "pad_length" = .ok ((BitVec.ofNat 8 p).setWidth 64) :=
    h.getByte hlengthIndex rfl rfl rfl
  have hpad : fiidObjGetData obj "integrity_pad" 8 = .ok (List.replicate p ipmiIntegrityPadData) :=
    h.getData hpadIndex rfl (by rw [List.length_replicate]; omega)
  have hbyte : (((BitVec.ofNat 8 p).setWidth 64).setWidth 8).toNat = p := by
    rw [byte_setWidth, BitVec.toNat_ofNat]
    exact Nat.mod_eq_of_lt (by omega)
  simp only [ipmiRmcpplusCheckIntegrityPad, hcompare, hlength, hpad, ok_bind, hbyte]
  by_cases hzero : p = 0
  · rw [if_pos hzero]
    rfl
  · rw [if_neg hzero, if_neg (by rw [ipmiIntegrityPadMultiple]; omega)]
    refine congrArg Except.ok (List.all_eq_true.mpr fun i hi => ?_)
    have hip := List.mem_range.mp hi
    rw [List.getD_eq_getElem?_getD, List.getElem?_replicate, if_pos hip, Option.getD_some,
      beq_self_eq_true]

/-- The code in a packet is checked over what it was computed over. -/
theorem checkCode_read {crypto : Crypto} {keys : RequestKeys} {n : ℕ} {nextHeader : Byte}
    {front : List Byte} (hkeyed : integrityAlgorithmKeyed algorithms.integrity = true)
    (hpassword : keys.authenticationCodeData.length ≤ ipmi20MaxPasswordLength) (hfront : 4 < front.length)
    (hhashed : (requestHashData algorithms.integrity keys.authenticationCodeData
      ((front ++ trlrFront (front.length - 4) nextHeader).drop 4)).length ≤ ipmiMaxPayloadLength)
    (h : obj.Parts tmplRmcpplusSessionTrlr.fields (trlrParts n nextHeader (sessionCode crypto algorithms keys
      ((front ++ trlrFront (front.length - 4) nextHeader).drop 4)))) :
    ipmiRmcpplusCheckPacketSessionAuthenticationCode crypto algorithms.integrity
      (front ++ requestTrlr crypto algorithms keys nextHeader front) (some keys.integrity)
      keys.authenticationCodeData obj = .ok true := by
  obtain ⟨-, -, -, hcodeIndex⟩ := trlr_indices
  obtain ⟨signed, hsigned⟩ : ∃ signed, signed = front ++ trlrFront (front.length - 4) nextHeader :=
    ⟨_, rfl⟩
  rw [← hsigned] at hhashed h
  obtain ⟨code, hcode⟩ : ∃ code, code = sessionCode crypto algorithms keys (signed.drop 4) := ⟨_, rfl⟩
  obtain ⟨hcodeLen, hcodeMax⟩ := length_sessionCode crypto keys (signed.drop 4) hkeyed
  rw [← hcode] at h hcodeLen
  have hpkt : front ++ requestTrlr crypto algorithms keys nextHeader front = signed ++ code := by
    rw [requestTrlr, ← List.append_assoc, ← hsigned, hcode]
  have hsignedLen : 4 < signed.length := by
    rw [hsigned, List.length_append]
    omega
  have hlen : (signed ++ code).length = signed.length + code.length := List.length_append
  have hbody : ((signed ++ code).drop 4).take ((signed ++ code).length - 4
      - authenticationCodeLen algorithms.integrity) = signed.drop 4 := by
    rw [List.drop_append_of_le_length hsignedLen.le]
    refine List.take_left' ?_
    rw [List.length_drop]
    omega
  have hinput : integrityInput algorithms.integrity (signed ++ code) keys.authenticationCodeData 4
      = requestHashData algorithms.integrity keys.authenticationCodeData (signed.drop 4) := by
    rw [integrityInput, requestHashData, hbody]
  have hhdrLen : orTemplateInvalid (fiidTemplateLenBytes tmplRmcpHdr) = .ok 4 := by decide
  have hcompare := h.of.compare (show TemplateOk tmplRmcpplusSessionTrlr by decide)
  have hget : fiidObjGetData obj "authentication_code" 32 = .ok code :=
    h.getData hcodeIndex rfl (by omega)
  have hsupported := integritySupported_of_keyed hkeyed
  have hsome : algorithms.integrity ≠ ipmiIntegrityAlgorithmNone := by
    intro hnone
    rw [hnone] at hkeyed
    revert hkeyed
    decide
  rw [hpkt, ipmiRmcpplusCheckPacketSessionAuthenticationCode, hsupported, if_neg (by
    rw [hlen]
    simp only [Bool.not_true, Bool.false_eq_true, false_or]
    omega)]
  simp only [hcompare, hhdrLen, hget, ok_bind, hinput, Option.getD_some]
  rw [if_neg hsome, if_neg (not_not.mpr hcodeLen), if_neg (by omega), if_neg (by omega)]
  rw [hcode]
  exact congrArg Except.ok (decide_eq_true rfl)

end Checks

/-! ### The objects of a request -/

/-- The objects of a request, as the callers of the assembler fill them: the session header without OEM
    fields, a trailer with the next header only, and a command that is set from the front. -/
structure RmcpplusRequest.Fit (ndebug : Bool) (cmdTmpl : FiidTemplate) (h : RequestHdr)
    (objs : RmcpplusRequest) : Prop where
  rmcpHdr : Reachable ndebug tmplRmcpHdr objs.rmcpHdr
  sessionHdr : Reachable ndebug tmplRmcpplusSessionHdr objs.sessionHdr
  sessionSet : SessionHdrSet objs.sessionHdr.lens
  msgHdr : h.payloadType = ipmiPayloadTypeIpmi → ∃ objLanMsgHdr, objs.lanMsgHdr = some objLanMsgHdr ∧
    Reachable ndebug tmplLanMsgHdrRq objLanMsgHdr
  cmd : Reachable ndebug cmdTmpl objs.cmd
  front : FrontFilled cmdTmpl.fields objs.cmd
  nonempty : 0 < fiidObjLen objs.cmd
  trlr : h.hasTrlr = true → ∃ objTrlr, objs.sessionTrlr = some objTrlr ∧
    Reachable ndebug tmplRmcpplusSessionTrlr objTrlr ∧
    (objTrlr.lens = [0, 0, 8, 0] ∨ objTrlr.lens = [0, 8, 8, 0])

section Objects
variable {ndebug : Bool} {cmdTmpl : FiidTemplate} {h : RequestHdr} {objs : RmcpplusRequest}
  {algorithms : Algorithms} {keys : RequestKeys} {pktLen : ℕ} {flags : BitVec 32}

/-- The trailer that a caller fills. -/
theorem trlr_parts {objTrlr : FiidObj} (hr : Reachable ndebug tmplRmcpplusSessionTrlr objTrlr)
    (hlens : objTrlr.lens = [0, 0, 8, 0] ∨ objTrlr.lens = [0, 8, 8, 0]) :
    ∃ nextHeader padLength, objTrlr.Parts tmplRmcpplusSessionTrlr.fields
      [[], padLength, [nextHeader], []] := by
  have hbytes : objTrlr.ByteLens := by
    rcases hlens with hlens | hlens <;>
    · rw [FiidObj.ByteLens, hlens]
      decide
  have hparts := parts_of_byteLens hr.wf.of (by decide) hbytes
  have hfour : objTrlr.lens.length = 4 := by rcases hlens with hlens | hlens <;> rw [hlens] <;> rfl
  have hlist : (List.range objTrlr.lens.length).map objTrlr.fieldBytes = [objTrlr.fieldBytes 0,
      objTrlr.fieldBytes 1, objTrlr.fieldBytes 2, objTrlr.fieldBytes 3] := by
    rw [hfour]
    rfl
  rw [hlist] at hparts
  have hsame := hparts.lens
  simp only [List.map_cons, List.map_nil] at hsame
  have hends : objTrlr.fieldBytes 0 = [] ∧ (objTrlr.fieldBytes 2).length = 1 ∧
      objTrlr.fieldBytes 3 = [] := by
    rcases hlens with hlens | hlens <;>
    · rw [hlens] at hsame
      simp only [List.cons.injEq, and_true] at hsame
      obtain ⟨h0, -, h2, h3⟩ := hsame
      refine ⟨List.length_eq_zero_iff.mp (by omega), by omega, List.length_eq_zero_iff.mp (by omega)⟩
  obtain ⟨h0, h2, h3⟩ := hends
  obtain ⟨nextHeader, hnext⟩ := List.length_eq_one_iff.mp h2
  rw [h0, hnext, h3] at hparts
  exact ⟨nextHeader, _, hparts⟩

/-- The first checksum in the bytes of a message header. -/
theorem checksum1_bytes {objLanMsgHdr : FiidObj} {hdr : List Byte}
    (hof : objLanMsgHdr.Of tmplLanMsgHdrRq.fields) (hholds : objLanMsgHdr.Holds msgHdrLens hdr)
    (hright : Checksum1Right objLanMsgHdr) : ipmiChecksum (hdr.take 2) = hdr.getD 2 0 := by
  obtain ⟨b, hblock, hget⟩ := hright
  have hlen := length_msgHdr hholds
  have hx : hdr[2]? = some (hdr.getD 2 0) := by
    rw [List.getElem?_eq_getElem (by omega), List.getD_eq_getElem _ _ (by omega)]
  rw [hholds.getBlock hof (show blockPlace _ _ "rs_addr" "net_fn" = some (0, 2) by decide) le_rfl]
    at hblock
  rw [hholds.getStrict hof (show valuePlace _ _ "checksum1" = some (8 * 2, 8) by decide),
    valueAt_byte hx] at hget
  have hb : hdr.take 2 = b := by simpa using congrArg Prod.snd (Except.ok.inj hblock)
  have hsum := congrArg (BitVec.setWidth 8) (Except.ok.inj hget)
  rw [byte_setWidth, byte_setWidth] at hsum
  rw [hsum, hb]

/-- The bytes of a message header. -/
def HdrBytes (objs : RmcpplusRequest) (hdr : List Byte) : Prop :=
  ∃ objLanMsgHdr, objs.lanMsgHdr = some objLanMsgHdr ∧ objLanMsgHdr.Holds msgHdrLens hdr ∧
    objLanMsgHdr.Reads hdr

theorem RmcpplusRequest.Fit.hdrBytes (hfit : objs.Fit ndebug cmdTmpl h)
    (hr : RequestChecked algorithms keys objs h) (htype : h.payloadType = ipmiPayloadTypeIpmi) :
    ∃ hdr, HdrBytes objs hdr := by
  obtain ⟨objLanMsgHdr, hobj, hreach⟩ := hfit.msgHdr htype
  obtain ⟨obj, hsome, -, hvalid⟩ := hr.payload.msgHdr htype
  obtain rfl := Option.some.inj (hobj.symm.trans hsome)
  have hholds : objLanMsgHdr.Holds msgHdrLens _ := holds_of_packetValid hreach.wf hvalid (by decide)
  exact ⟨_, objLanMsgHdr, hobj, hholds, hholds.lenBytes, fun _ hroom =>
    hholds.getAll_full hreach.wf.of (by decide) hroom⟩

/-- What a request is made of. -/
theorem RmcpplusRequest.Fit.holds (hfit : objs.Fit ndebug cmdTmpl h)
    (hcheck : checkRequest algorithms keys objs pktLen flags = .ok h)
    (hmet : AssertsMet algorithms h.payloadType h.payloadEncrypted objs.lanMsgHdr) :
    ∃ rmcp session rest hdr cmd nextHeader, RequestHolds rmcp session hdr cmd nextHeader h objs ∧
      objs.rmcpHdr.Holds rmcpHdrLens rmcp ∧
      objs.sessionHdr.Holds objs.sessionHdr.lens (session ++ rest) ∧
      (h.payloadType = ipmiPayloadTypeIpmi → HdrBytes objs hdr) ∧
      objs.cmd.Holds objs.cmd.lens cmd := by
  have hr := requestChecked_of_check hcheck
  have hrmcp : objs.rmcpHdr.Holds rmcpHdrLens _ :=
    holds_of_packetValid hfit.rmcpHdr.wf hr.rmcpValid (by decide)
  have hsum := hrmcp.sum
  rw [show rmcpHdrLens.sum = 8 * 4 from rfl] at hsum
  have hmod : setLen objs.sessionHdr.fields % 8 = 0 := by
    rw [setLen_eq_sum, show objs.sessionHdr.fields.map _ = objs.sessionHdr.lens from rfl]
    rcases hfit.sessionSet with hlens | hlens <;> rw [hlens] <;> rfl
  have hsession := holds_pack hmod
  obtain ⟨b, hb⟩ : ∃ b, b = pack objs.sessionHdr.setBits := ⟨_, rfl⟩
  rw [← hb] at hsession
  have hlong : 10 ≤ b.length := by
    have hsum := hsession.sum
    rcases hfit.sessionSet with hlens | hlens
    · rw [hlens] at hsum
      simp only [List.sum_cons, List.sum_nil] at hsum
      omega
    · rw [hlens, hdrLens] at hsum
      simp only [List.sum_cons, List.sum_nil] at hsum
      omega
  have hsplit : b = b.take 10 ++ b.drop 10 := (List.take_append_drop 10 b).symm
  have hsessionLen : (b.take 10).length = 10 := by
    rw [List.length_take]
    omega
  rw [hsplit] at hsession
  have hcmdValid := hr.payload.cmd
  have hpart := hfit.front.partAligned hfit.cmd.wf.of (setLen_of_packetValid hfit.cmd.wf hcmdValid)
  obtain ⟨cmd, hcmdReads, hcmdHolds⟩ := reads_of_packetValid hfit.cmd.wf hpart hcmdValid
  have hhdr : ∃ hdr, (h.payloadType = ipmiPayloadTypeIpmi → HdrBytes objs hdr) := by
    by_cases htype : h.payloadType = ipmiPayloadTypeIpmi
    · obtain ⟨hdr, hbytes⟩ := hfit.hdrBytes hr htype
      exact ⟨hdr, fun _ => hbytes⟩
    · exact ⟨[], fun heq => absurd heq htype⟩
  obtain ⟨hdr, hhdr⟩ := hhdr
  have htrlr : ∃ nextHeader, h.hasTrlr = true → ∃ objTrlr padLength, objs.sessionTrlr = some objTrlr ∧
      objTrlr.Parts tmplRmcpplusSessionTrlr.fields [[], padLength, [nextHeader], []] := by
    by_cases hyes : h.hasTrlr = true
    · obtain ⟨objTrlr, hobj, hreach, hlens⟩ := hfit.trlr hyes
      obtain ⟨nextHeader, padLength, hparts⟩ := trlr_parts hreach hlens
      exact ⟨nextHeader, fun _ => ⟨objTrlr, padLength, hobj, hparts⟩⟩
    · exact ⟨0, fun heq => absurd heq hyes⟩
  obtain ⟨nextHeader, htrlr⟩ := htrlr
  refine ⟨_, b.take 10, b.drop 10, hdr, cmd, nextHeader, ⟨⟨hrmcp.lenBytes, fun _ hroom =>
    hrmcp.getAll_full hfit.rmcpHdr.wf.of (by decide) hroom⟩, by omega, fun _ hroom =>
    getBlock_session hfit.sessionHdr.wf hfit.sessionSet hsession hsessionLen hroom, hsessionLen, ?_,
    hcmdReads, htrlr⟩, hrmcp, hsession, hhdr, hcmdHolds⟩
  obtain ⟨objLanMsgHdr, hobj, -⟩ := hmet.msgHdr
  refine ⟨objLanMsgHdr, hobj, fun htype => ?_⟩
  obtain ⟨obj, hsome, hholds, hreads⟩ := hhdr htype
  obtain rfl := Option.some.inj (hobj.symm.trans hsome)
  exact ⟨hreads, length_msgHdr hholds⟩

end Objects

/-! ### The parser on a request -/

/-- The objects that a request has filled. -/
structure RequestRead (algorithms : Algorithms) (h : RequestHdr) (objCmd : FiidObj)
    (rmcp header hdr cmd iv content : List Byte) (len : ℕ) (trlr : List (List Byte))
    (objs : RmcpplusObjs) : Prop where
  rmcpHdr : objs.rmcpHdr.Holds rmcpHdrLens rmcp
  readBack : sessionHdrOf objs.sessionHdr = .ok (h.received len)
  sessionOf : objs.sessionHdr.Of tmplRmcpplusSessionHdr.fields
  session : objs.sessionHdr.Holds hdrLens header
  payload : objs.payload.Parts tmplRmcpplusPayload.fields (readParts algorithms iv content)
  contentRead : ContentRead h.payloadType objCmd hdr cmd objs
  sessionTrlr : h.hasTrlr = true → objs.sessionTrlr.Parts tmplRmcpplusSessionTrlr.fields trlr

/-- How the bytes of a request are laid out. -/
structure RequestLaid (crypto : Crypto) (cipher : Cipher) (algorithms : Algorithms) (keys : RequestKeys)
    (h : RequestHdr) (nextHeader : Byte) (rmcp session hdr cmd iv content payload front pkt : List Byte) :
    Prop where
  rmcpLen : rmcp.length = 4
  sessionLen : session.length = 10
  sessionHdr : requestHdrAt session = h
  hdrLen : h.payloadType = ipmiPayloadTypeIpmi → hdr.length = 5
  cmdNe : cmd ≠ []
  contentEq : content = requestContent h.payloadType hdr cmd
  contentLen : content.length ≤ ipmiMaxPayloadLength
  encrypted : algorithms.confidentiality ≠ ipmiConfidentialityAlgorithmNone →
    Encrypted cipher (keys.confidentiality.getD []) h.payloadEncrypted iv content
  payloadEq : payload
    = (payloadParts cipher algorithms (keys.confidentiality.getD []) iv content).flatten
  payloadLen : payload.length < 65536
  frontEq : front = requestFront rmcp session payload
  pktEq : pkt = requestBytes crypto algorithms keys h nextHeader front

section Laid
variable {crypto : Crypto} {cipher : Cipher} {algorithms : Algorithms} {keys : RequestKeys}
  {h : RequestHdr} {nextHeader : Byte} {rmcp session hdr cmd iv content payload front pkt : List Byte}

theorem RequestLaid.contentNe (hl : RequestLaid crypto cipher algorithms keys h nextHeader rmcp session hdr
    cmd iv content payload front pkt) : content ≠ [] := by
  have hpos := List.length_pos_iff.mpr hl.cmdNe
  rw [hl.contentEq, requestContent]
  split
  · refine List.length_pos_iff.mp ?_
    rw [requestMsg, List.length_append, List.length_append]
    omega
  · exact hl.cmdNe

/-- The payload is not shorter than its content. -/
theorem RequestLaid.length_payload (hl : RequestLaid crypto cipher algorithms keys h nextHeader rmcp
    session hdr cmd iv content payload front pkt) : payload.length
      = if algorithms.confidentiality = ipmiConfidentialityAlgorithmNone then content.length
        else 16 + content.length + confidentialityPadLen content.length + 1 := by
  rw [hl.payloadEq, payloadParts]
  split
  · simp
  · rename_i hsome
    have henc := hl.encrypted hsome
    have hlen := henc.length
    have hiv := henc.ivLen
    rw [length_padded] at hlen
    rw [ipmiCryptAesCbc128BlockLength] at hiv
    simp only [List.flatten_cons, List.flatten_nil, List.append_nil, List.take_append_drop,
      List.length_append, hlen, hiv]
    omega

theorem RequestLaid.payloadNe (hl : RequestLaid crypto cipher algorithms keys h nextHeader rmcp session hdr
    cmd iv content payload front pkt) : payload ≠ [] := by
  have hpos := List.length_pos_iff.mpr hl.contentNe
  refine List.length_pos_iff.mp ?_
  rw [hl.length_payload]
  split
  · exact hpos
  · omega

/-- The packet is its front and a trailer. -/
theorem RequestLaid.pkt_eq (hl : RequestLaid crypto cipher algorithms keys h nextHeader rmcp session hdr
    cmd iv content payload front pkt) : ∃ trlr, pkt = front ++ trlr ∧
      (h.hasTrlr = true → trlr = requestTrlr crypto algorithms keys nextHeader front) := by
  rw [hl.pktEq, requestBytes]
  split
  · exact ⟨_, rfl, fun _ => rfl⟩
  · rename_i hno
    exact ⟨[], (List.append_nil _).symm, fun hyes => absurd hyes hno⟩

end Laid

section Parser
variable {ndebug : Bool} {cmdTmpl : FiidTemplate} {h : RequestHdr} {objs : RmcpplusRequest}
  {received : RmcpplusObjs} {crypto : Crypto} {cipher : Cipher} {algorithms : Algorithms}
  {keys : RequestKeys} {rmcp session hdr cmd iv content front payload pkt : List Byte} {nextHeader : Byte}
  {w : RmcpplusWalk}

@[simp] theorem clearFor_rmcpHdr (objs : RmcpplusObjs) (h : SessionHdr) :
    (objs.clearFor h).rmcpHdr = objs.rmcpHdr := by
  simp only [RmcpplusObjs.clearFor]
  split_ifs <;> rfl

/-- A packet with a trailer has an algorithm that computes its code. -/
theorem keyed_of_hasTrlr (hrejected : h.rejected algorithms = false) (htrlr : h.hasTrlr = true) :
    integrityAlgorithmKeyed algorithms.integrity = true := by
  simp only [RequestHdr.rejected, Bool.or_eq_false_iff] at hrejected
  obtain ⟨⟨-, hkeyed⟩, -⟩ := hrejected
  rw [RequestHdr.hasTrlr] at htrlr
  rwa [htrlr, Bool.true_and, Bool.not_eq_false'] at hkeyed

/-- The checks of the objects pass, and those that the request fills are cleared. -/
theorem objsStage_request (hfit : received.Fit ndebug cmdTmpl)
    (hframe : w.objs = { received.clear with
      rmcpHdr := w.objs.rmcpHdr, sessionHdr := w.objs.sessionHdr }) {hdr : SessionHdr}
    (hhdr : sessionHdrOf w.objs.sessionHdr = .ok hdr)
    (hcompared : received.comparePayload hdr.payloadType = .ok ()) :
    objsStage w = .ok { w with objs := w.objs.clearFor hdr } := by
  have hcompare : w.objs.comparePayload hdr.payloadType = .ok () := by
    rw [← hcompared, ← comparePayload_clear received, hframe]
    rfl
  have htrlr : fiidObjTemplateCompareStrict w.objs.sessionTrlr tmplRmcpplusSessionTrlr = .ok () := by
    rw [hframe]
    exact hfit.sessionTrlr.wf.of.compare (by decide)
  simp only [objsStage, hhdr, hcompare, htrlr, call_ok, ok_bind]
  split <;> rfl

theorem payloadStage_request {hdr : SessionHdr} {trlr : List Byte} (hindx : w.indx = 16)
    (hhdr : sessionHdrOf w.objs.sessionHdr = .ok hdr) (hlen : hdr.ipmiPayloadLen = payload.length)
    (hdrop : pkt.drop 16 = payload ++ trlr) {objs' : RmcpplusObjs}
    (hret : deconstructPayload crypto algorithms keys.confidentiality hdr payload w.objs = .ok objs') :
    payloadStage crypto algorithms keys.confidentiality pkt w = .ok ⟨16 + payload.length, objs'⟩ := by
  have hroom : ¬ (payload ++ trlr).length < payload.length := by
    rw [List.length_append]
    omega
  simp only [payloadStage, hhdr, call_ok, ok_bind, hindx, hdrop, hlen, if_neg hroom]
  rw [List.take_left, hret]
  rfl

/-- The trailer of a request, if it has one. -/
theorem trlrStage_read {read : RmcpplusObjs} {indx len : ℕ}
    (hhdr : sessionHdrOf read.sessionHdr = .ok (h.received len))
    (hkeyed : h.hasTrlr = true → integrityAlgorithmKeyed algorithms.integrity = true)
    (hrest : h.hasTrlr = true → pkt.drop indx = requestTrlr crypto algorithms keys nextHeader front)
    (hparts : h.hasTrlr = true →
      read.sessionTrlr.Parts tmplRmcpplusSessionTrlr.fields [[], [], [], []]) :
    ∃ obj, trlrStage algorithms pkt ⟨indx, read⟩ = .ok ⟨indx, { read with sessionTrlr := obj }⟩ ∧
      (h.hasTrlr = true → obj.Parts tmplRmcpplusSessionTrlr.fields (trlrParts (front.length - 4)
        nextHeader (sessionCode crypto algorithms keys
          ((front ++ trlrFront (front.length - 4) nextHeader).drop 4)))) := by
  cases htrlr : h.hasTrlr with
  | false =>
    refine ⟨read.sessionTrlr, ?_, fun hyes => by cases hyes⟩
    simp only [trlrStage, hhdr, hasTrlr_received, htrlr, call_ok, ok_bind]
    rfl
  | true =>
    obtain ⟨hcodeLen, hcodeMax⟩ := length_sessionCode crypto keys
      ((front ++ trlrFront (front.length - 4) nextHeader).drop 4) (hkeyed htrlr)
    obtain ⟨obj, hret, hobj⟩ := trlrStage_request (w := ⟨indx, read⟩) hhdr htrlr (hrest htrlr) hcodeLen
      (by omega) (by omega) (hparts htrlr)
    exact ⟨obj, hret, fun _ => hobj⟩

/-- The parser goes through a request to its end. -/
theorem rmcpplusStages_request (hreq : objs.Fit ndebug cmdTmpl h) (hfit : received.Fit ndebug cmdTmpl)
    (hcompared : received.comparePayload h.payloadType = .ok ()) (hkind : Ciphered h.payloadType)
    (hinverse : Inverse crypto cipher) (hrejected : h.rejected algorithms = false)
    (hcmd : objs.cmd.Holds objs.cmd.lens cmd)
    (hl : RequestLaid crypto cipher algorithms keys h nextHeader rmcp session hdr cmd iv content payload
      front pkt) :
    ∃ w, runStages (rmcpplusStages crypto algorithms keys.confidentiality pkt) ⟨0, received.clear⟩
        = .ok w ∧
      RequestRead algorithms h objs.cmd rmcp (session ++ leBytes 2 payload.length) hdr cmd iv content
        payload.length (trlrParts (front.length - 4) nextHeader (sessionCode crypto algorithms keys
          ((front ++ trlrFront (front.length - 4) nextHeader).drop 4))) w.objs := by
  obtain ⟨trlr, hpkt, htrlr⟩ := hl.pkt_eq
  have hfront := hl.frontEq
  have hpktEq : pkt = requestFront rmcp session payload ++ trlr := by rw [hpkt, hfront]
  have hheader : headerAt pkt = h.received payload.length := by
    rw [hpktEq, headerAt_front hl.rmcpLen hl.sessionLen hl.payloadLen, hl.sessionHdr]
  have hbytes : headerBytes pkt = session ++ leBytes 2 payload.length := by
    rw [hpktEq, headerBytes_front hl.rmcpLen hl.sessionLen]
  have hdrop : pkt.drop 16 = payload ++ trlr := by
    rw [hpktEq, drop_front hl.rmcpLen hl.sessionLen]
  have hfrontLen : (requestFront rmcp session payload).length = 16 + payload.length :=
    length_front hl.rmcpLen hl.sessionLen
  have hpos := List.length_pos_iff.mpr hl.payloadNe
  have hpktLen : pkt.length = 16 + payload.length + trlr.length := by
    rw [hpktEq, List.length_append, hfrontLen]
  have hresponse : ResponseType (h.received payload.length).payloadType :=
    hkind.elim Or.inl fun hsol => Or.inr (Or.inl hsol)
  have hread : Readable algorithms pkt :=
    ⟨by omega, hheader ▸ hresponse, hheader ▸ malformed_received hrejected (by omega)⟩
  have hrmcpOf : received.clear.rmcpHdr.Of tmplRmcpHdr.fields := (touched_clear _).of hfit.rmcpHdr.wf.of
  have hsessionOf : received.clear.sessionHdr.Of tmplRmcpplusSessionHdr.fields :=
    (touched_clear _).of hfit.sessionHdr.wf.of
  obtain ⟨w, hrun, hw, hrmcp⟩ := headerStages_readable hread hrmcpOf (unset_clear _) hsessionOf
    (unset_clear _)
  have hindx : w.indx = 16 := by
    have := hw.indx
    omega
  have hhdr : sessionHdrOf w.objs.sessionHdr = .ok (h.received payload.length) := by
    rw [← hheader]
    exact hw.sessionHdr (by omega)
  have hobjsStage := objsStage_request hfit hw.frame hhdr hcompared
  have hbuf : BufObjs (h.received payload.length).payloadType cmdTmpl.fields
      (w.objs.clearFor (h.received payload.length)) :=
    hfit.passed.bufObjs hw.frame hresponse hcompared
  have hempty : (w.objs.clearFor (h.received payload.length)).payload.Parts tmplRmcpplusPayload.fields
      [[], [], []] := by
    rw [clearFor_payload, hw.frame]
    exact parts_of_unset ((touched_clear _).of hfit.payload.wf.of) (by decide) (unset_clear _)
  obtain ⟨objs', hret, hcontentRead, hframe, hparts⟩ := deconstructPayload_request
    (h := h.received payload.length) hkind hbuf hinverse hl.contentEq hl.contentNe hl.contentLen
    hl.encrypted hl.hdrLen hl.cmdNe hreq.front hreq.cmd.wf.of hcmd hempty
  rw [← hl.payloadEq] at hret
  have hpayloadStage : payloadStage crypto algorithms keys.confidentiality pkt
      { w with objs := w.objs.clearFor (h.received payload.length) }
        = .ok ⟨16 + payload.length, objs'⟩ := by
    refine payloadStage_request ?_ ?_ rfl hdrop hret
    · exact hindx
    · rw [clearFor_sessionHdr]
      exact hhdr
  have hsessionHdr : objs'.sessionHdr = w.objs.sessionHdr := by
    rw [hframe.sessionHdr, clearFor_sessionHdr]
  have htrlrStage : ∃ obj, trlrStage algorithms pkt ⟨16 + payload.length, objs'⟩
      = .ok ⟨16 + payload.length, { objs' with sessionTrlr := obj }⟩ ∧
        (h.hasTrlr = true → obj.Parts tmplRmcpplusSessionTrlr.fields (trlrParts (front.length - 4)
          nextHeader (sessionCode crypto algorithms keys
            ((front ++ trlrFront (front.length - 4) nextHeader).drop 4)))) := by
    refine trlrStage_read (by rw [hsessionHdr]; exact hhdr) (keyed_of_hasTrlr hrejected)
      (fun hyes => ?_) fun hyes => ?_
    · rw [← htrlr hyes, ← List.drop_drop, hdrop, List.drop_left]
    · have hreceived : (h.received payload.length).hasTrlr = true := hyes
      rw [hframe.sessionTrlr, clearFor_sessionTrlr _ hreceived, hw.frame]
      exact parts_of_unset ((touched_clear _).of hfit.sessionTrlr.wf.of) (by decide) (unset_clear _)
  obtain ⟨obj, htrlrStage, hobj⟩ := htrlrStage
  have hsplit : rmcpplusStages crypto algorithms keys.confidentiality pkt = headerStages algorithms pkt ++
      [objsStage, payloadStage crypto algorithms keys.confidentiality pkt, trlrStage algorithms pkt] := rfl
  refine ⟨⟨16 + payload.length, { objs' with sessionTrlr := obj }⟩, ?_, ⟨?_, ?_, ?_, ?_, hparts, ?_,
    hobj⟩⟩
  · rw [hsplit, runStages_append, hrun, ok_bind, runStages, hobjsStage, ok_bind, runStages, hpayloadStage,
      ok_bind, runStages, htrlrStage]
    rfl
  · have hpktTake : pkt.take 4 = rmcp := by
      rw [hpktEq, requestFront]
      simp only [List.append_assoc]
      exact List.take_left' hl.rmcpLen
    rw [← hpktTake]
    show objs'.rmcpHdr.Holds _ _
    rw [hframe.rmcpHdr, clearFor_rmcpHdr]
    exact hrmcp
  · show sessionHdrOf objs'.sessionHdr = _
    rw [hsessionHdr]
    exact hhdr
  · show objs'.sessionHdr.Of _
    rw [hsessionHdr]
    exact hw.of
  · show objs'.sessionHdr.Holds _ _
    rw [hsessionHdr, ← hbytes]
    exact hw.holds (by omega) (by norm_num)
  · exact ⟨hcontentRead.same, hcontentRead.reads, hcontentRead.msgHdr, hcontentRead.msgTrlr⟩

/-! ### A received request -/

theorem flags_optionalVariable (max set : ℕ) :
    packetValidFlags false ⟨max, set, optionalVariable⟩ = .ok () := by
  have hrequired : fiidFieldRequiredFlag optionalVariable ≠ fiidFieldRequired := by decide
  have hlength : fiidFieldLengthFlag optionalVariable ≠ fiidFieldLengthFixed := by decide
  simp [packetValidFlags, hrequired, hlength]

theorem flags_requiredVariable (max : ℕ) {set : ℕ} (hset : set ≠ 0) :
    packetValidFlags false ⟨max, set, requiredVariable⟩ = .ok () := by
  have hlength : fiidFieldLengthFlag requiredVariable ≠ fiidFieldLengthFixed := by decide
  simp [packetValidFlags, hset, hlength]

/-- A payload that was taken apart is valid. -/
theorem payload_valid {obj : FiidObj} (hwf : obj.Wf tmplRmcpplusPayload) (hne : content ≠ [])
    (h : obj.Parts tmplRmcpplusPayload.fields (readParts algorithms iv content)) :
    fiidObjPacketValid obj = true := by
  have hpos := List.length_pos_iff.mpr hne
  have hcells : ∃ header trlr, obj.cells = [⟨512, header, optionalVariable⟩,
      ⟨524288, 8 * content.length, requiredVariable⟩, ⟨512, trlr, optionalVariable⟩, ⟨0, 0, 0⟩] := by
    rw [cells_eq hwf, h.lens, readParts]
    split <;> exact ⟨_, _, rfl⟩
  obtain ⟨header, trlr, hcells⟩ := hcells
  refine h.packetValid ?_
  rw [hcells]
  simp only [List.forall_mem_cons]
  refine ⟨flags_optionalVariable _ _, flags_requiredVariable _ (by omega), flags_optionalVariable _ _,
    by decide, by simp⟩

/-- So is a trailer. -/
theorem sessionTrlr_valid {obj : FiidObj} (hwf : obj.Wf tmplRmcpplusSessionTrlr) {n : ℕ}
    {code : List Byte} (h : obj.Parts tmplRmcpplusSessionTrlr.fields (trlrParts n nextHeader code)) :
    fiidObjPacketValid obj = true := by
  have hcells : ∃ pad codeLen, obj.cells = [⟨32, pad, optionalVariable⟩, ⟨8, 8, requiredFixed⟩,
      ⟨8, 8, requiredFixed⟩, ⟨256, codeLen, optionalVariable⟩, ⟨0, 0, 0⟩] := by
    rw [cells_eq hwf, h.lens, trlrParts]
    exact ⟨_, _, rfl⟩
  obtain ⟨pad, codeLen, hcells⟩ := hcells
  refine h.packetValid ?_
  rw [hcells]
  simp only [List.forall_mem_cons]
  refine ⟨flags_optionalVariable _ _, by decide, by decide, flags_optionalVariable _ _, by decide, by simp⟩

/-- The objects that a request has filled are accepted. -/
theorem RequestRead.accepted {flags : BitVec 32} {header : List Byte} {len n : ℕ} {code : List Byte}
    (hread : RequestRead algorithms h objs.cmd rmcp header hdr cmd iv content len
      (trlrParts n nextHeader code) received)
    (hfit : received.Fit ndebug cmdTmpl) (hcmd : objs.cmd.Wf cmdTmpl)
    (hvalid : fiidObjPacketValid objs.cmd = true) (hne : content ≠ []) :
    received.accepted flags = true := by
  have hrmcp : fiidObjPacketValid received.rmcpHdr = true := by
    rw [packetValid_of_lens hfit.rmcpHdr.wf hread.rmcpHdr.lens]
    decide
  have hsession : fiidObjPacketValid received.sessionHdr = true := by
    rw [packetValid_of_lens hfit.sessionHdr.wf hread.session.lens]
    decide
  have hpayload := payload_valid hfit.payload.wf hne hread.payload
  have hcmdValid : fiidObjPacketValid received.cmd = true := by
    rw [packetValid_of_lens hfit.cmd.wf hread.contentRead.same.lens, ← packetValid_of_lens hcmd rfl]
    exact hvalid
  have hsufficient : fiidObjPacketSufficient received.cmd = true := by
    rw [fiidObjPacketValid] at hcmdValid
    rw [fiidObjPacketSufficient, hcmdValid]
    simp
  have hmsgHdr : h.payloadType = ipmiPayloadTypeIpmi → fiidObjPacketValid received.lanMsgHdr = true := by
    intro htype
    rw [packetValid_of_lens hfit.lanMsgHdr.wf (hread.contentRead.msgHdr htype).2.lens]
    decide
  have hmsgTrlr : h.payloadType = ipmiPayloadTypeIpmi → fiidObjPacketValid received.lanMsgTrlr = true := by
    intro htype
    rw [packetValid_of_lens hfit.lanMsgTrlr.wf (hread.contentRead.msgTrlr htype).2.lens]
    decide
  have htrlr : h.hasTrlr = true → fiidObjPacketValid received.sessionTrlr = true := fun hyes =>
    sessionTrlr_valid hfit.sessionTrlr.wf (hread.sessionTrlr hyes)
  have hipmi : (h.payloadType != ipmiPayloadTypeIpmi || fiidObjPacketValid received.lanMsgHdr) = true ∧
      (h.payloadType != ipmiPayloadTypeIpmi || fiidObjPacketValid received.lanMsgTrlr) = true := by
    by_cases htype : h.payloadType = ipmiPayloadTypeIpmi
    · simp [hmsgHdr htype, hmsgTrlr htype]
    · simp [htype]
  have hlast : (!h.hasTrlr || fiidObjPacketValid received.sessionTrlr) = true := by
    cases hyes : h.hasTrlr with
    | false => rfl
    | true => exact htrlr hyes
  simp only [RmcpplusObjs.accepted, hread.readBack, hasTrlr_received, hrmcp, hsession, hpayload,
    hsufficient, hlast, Bool.true_and, Bool.or_true, Bool.and_true, Bool.and_eq_true]
  exact hipmi

end Parser

end FreeIpmi.Rmcpplus
