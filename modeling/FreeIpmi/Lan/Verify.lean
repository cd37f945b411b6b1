import FreeIpmi.Lan.Check
import FreeIpmi.Lan.Parse
import FreeIpmi.Fiid.Bytes

/-! The two versions of the packet checks agree.

    After a successful parse every object holds a known part of the packet (`AtEnd.contents`). Both
    versions of a check are computed in terms of these parts, the one on the objects by putting the
    message together again, the one on the bytes by cutting the packet at recomputed offsets. -/

namespace FreeIpmi.Lan
open Fiid Calls Stages ByteBits

/-! ### The parts of a packet -/

section Contents
variable {pkt : List Byte} {cmdFields : List FiidField} {fl : List (BitVec 32)} {n : ℕ} {w : Walk}

/-- What is in the objects after a complete walk. -/
structure Contents (pkt : List Byte) (cmdFields : List FiidField) (c n : ℕ) (objs : LanObjs) : Prop where
  rmcpHdr : objs.rmcpHdr.Holds rmcpHdrLens (pkt.take 4)
  sessionHdr : objs.sessionHdr.Holds [8, 32, 32, 8 * c, 8] ((pkt.drop 4).take (10 + c))
  msgHdr : objs.msgHdr.Holds msgHdrLens ((pkt.drop (14 + c)).take 5)
  cmd : objs.cmd.Holds objs.cmd.lens ((pkt.drop (19 + c)).take n)
  msgTrlr : objs.msgTrlr.Holds [8] ((pkt.drop (19 + c + n)).take 1)

theorem split_window {p : List Byte} {lo m n : ℕ} {a b : List Bool} (h : a ++ b = window p lo n)
    (ha : a.length = m) : a = window p lo m ∧ b = window p (lo + m) (n - m) := by
  have hle : m ≤ n := by
    have := congrArg List.length h
    rw [List.length_append, length_window] at this
    omega
  refine ⟨?_, ?_⟩
  · rw [← window_take p lo hle, ← h, List.take_left' ha]
  · rw [← window_drop, ← h, List.drop_left' ha]

theorem length_setBits {obj : FiidObj} {lens : List ℕ} (h : obj.lens = lens) :
    obj.setBits.length = lens.sum := by
  rw [FiidObj.setBits, length_cellBits, setLen_eq_sum, ← h]
  rfl

theorem AtEnd.contents (hw : AtEnd pkt cmdFields fl (authenticationTypeAt pkt) n w) :
    Contents pkt cmdFields (codeLen (authenticationTypeAt pkt)) n w.objs := by
  have hle := hw.walked.le
  have hindx := hw.indx
  have hbits := hw.walked.bits
  obtain ⟨obj, -, -, hfill⟩ := hw.cmd
  have hcmd : w.objs.cmd.setBits.length = 8 * n := by rw [hfill.bits, length_window]
  simp only [LanObjs.setBits, List.append_assoc] at hbits
  obtain ⟨h1, hbits⟩ := split_window hbits (length_setBits hw.rmcpHdr)
  obtain ⟨h2, hbits⟩ := split_window hbits (length_setBits hw.sessionHdr)
  obtain ⟨h3, hbits⟩ := split_window hbits (length_setBits hw.msgHdr)
  obtain ⟨h4, h5⟩ := split_window hbits hcmd
  have hs1 : rmcpHdrLens.sum = 8 * 4 := by decide
  have hs2 : (sessionLens (authenticationTypeAt pkt)).sum
      = 8 * (10 + codeLen (authenticationTypeAt pkt)) := by
    simp only [sessionLens, List.sum_cons, List.sum_nil]
    omega
  have hs3 : msgHdrLens.sum = 8 * 5 := by decide
  rw [hs1] at h1 h2 h3 h4 h5
  rw [hs2] at h2 h3 h4 h5
  rw [hs3] at h3 h4 h5
  refine ⟨?_, ?_, ?_, ?_, ?_⟩
  · have := holds_of_window hw.rmcpHdr (show 0 + 4 ≤ pkt.length by omega) (by rw [h1])
    rwa [List.drop_zero] at this
  · refine holds_of_window hw.sessionHdr (by omega) (by rw [h2, Nat.zero_add])
  · refine holds_of_window hw.msgHdr (by omega) ?_
    rw [h3]
    congr 1
    omega
  · refine holds_of_window rfl (by omega) ?_
    rw [h4]
    congr 1
    omega
  · refine holds_of_window hw.msgTrlr (by omega) ?_
    rw [h5]
    congr 1 <;> omega

end Contents

/-- A packet cut into its parts: RMCP header, the fixed fields of the session header, authentication
    code, message length, message header, command and checksum. -/
structure Layout (pkt rmcp session code : List Byte) (msgLen : Byte) (hdr cmd : List Byte)
    (checksum : Byte) : Prop where
  eq : pkt = rmcp ++ (session ++ (code ++ ([msgLen] ++ (hdr ++ (cmd ++ [checksum])))))
  rmcp : rmcp.length = 4
  session : session.length = 9
  code : code.length = codeLen (authenticationTypeAt pkt)
  hdr : hdr.length = 5

section Layout
variable {pkt rmcp session code : List Byte} {msgLen : Byte} {hdr cmd : List Byte} {checksum : Byte}

/-- Every packet with a command can be cut. -/
theorem ReachesCmd.layout (h : ReachesCmd pkt) : ∃ rmcp session code msgLen hdr cmd checksum,
    Layout pkt rmcp session code msgLen hdr cmd checksum := by
  have hlong := h.2
  obtain ⟨c, hc⟩ : ∃ c, c = codeLen (authenticationTypeAt pkt) := ⟨_, rfl⟩
  rw [← hc] at hlong
  have hsplit : ∀ (l : List Byte) (i : ℕ), l = l.take i ++ l.drop i :=
    fun l i => (List.take_append_drop i l).symm
  have hone : ∀ (l : List Byte), l.length = 1 → ∃ x, l = [x] := fun l => List.length_eq_one_iff.mp
  obtain ⟨msgLen, hmsgLen⟩ := hone ((pkt.drop (13 + c)).take 1) (by simp; omega)
  obtain ⟨checksum, hchecksum⟩ := hone (pkt.drop (pkt.length - 1)) (by simp; omega)
  refine ⟨pkt.take 4, (pkt.drop 4).take 9, (pkt.drop 13).take c, msgLen, (pkt.drop (14 + c)).take 5,
    (pkt.drop (19 + c)).take (pkt.length - (20 + c)), checksum, ?_, by simp; omega, by simp; omega,
    by rw [← hc]; simp; omega, by simp; omega⟩
  have hend : pkt.drop (19 + c) = (pkt.drop (19 + c)).take (pkt.length - (20 + c)) ++ [checksum] := by
    conv_lhs => rw [hsplit (pkt.drop (19 + c)) (pkt.length - (20 + c))]
    rw [List.drop_drop, ← hchecksum]
    congr 2
    omega
  rw [← hend, ← hmsgLen]
  have hstep : ∀ i j, (pkt.drop i).take j ++ pkt.drop (i + j) = pkt.drop i := fun i j => by
    rw [← List.drop_drop, List.take_append_drop]
  have h19 := hstep (14 + c) 5
  have h14 := hstep (13 + c) 1
  have h13 := hstep 13 c
  have h4 := hstep 4 9
  rw [show 14 + c + 5 = 19 + c by omega] at h19
  rw [show 13 + c + 1 = 14 + c by omega] at h14
  rw [h19, h14, h13, h4, List.take_append_drop]

theorem Layout.drop_rmcp (h : Layout pkt rmcp session code msgLen hdr cmd checksum) :
    pkt.drop 4 = session ++ (code ++ ([msgLen] ++ (hdr ++ (cmd ++ [checksum])))) := by
  rw [h.eq, List.drop_left' h.rmcp]

theorem Layout.drop_session (h : Layout pkt rmcp session code msgLen hdr cmd checksum) :
    pkt.drop 13 = code ++ ([msgLen] ++ (hdr ++ (cmd ++ [checksum]))) := by
  rw [show 13 = 4 + 9 from rfl, ← List.drop_drop, h.drop_rmcp, List.drop_left' h.session]

theorem Layout.drop_msgLen (h : Layout pkt rmcp session code msgLen hdr cmd checksum) :
    pkt.drop (14 + codeLen (authenticationTypeAt pkt)) = hdr ++ (cmd ++ [checksum]) := by
  rw [show 14 + codeLen (authenticationTypeAt pkt) = 13 + codeLen (authenticationTypeAt pkt) + 1 by omega,
    ← List.drop_drop, ← List.drop_drop, h.drop_session, List.drop_left' h.code]
  rfl

theorem Layout.drop_hdr (h : Layout pkt rmcp session code msgLen hdr cmd checksum) :
    pkt.drop (19 + codeLen (authenticationTypeAt pkt)) = cmd ++ [checksum] := by
  rw [show 19 + codeLen (authenticationTypeAt pkt) = 14 + codeLen (authenticationTypeAt pkt) + 5 by omega,
    ← List.drop_drop, h.drop_msgLen, List.drop_left' h.hdr]

theorem Layout.type (h : Layout pkt rmcp session code msgLen hdr cmd checksum) :
    session.getD 0 0 = authenticationTypeAt pkt := by
  have hsession := h.session
  have hget : (pkt.drop 4)[0]? = pkt[4]? := List.getElem?_drop
  rw [h.drop_rmcp, List.getElem?_append_left (by omega)] at hget
  rw [authenticationTypeAt, List.getD_eq_getElem?_getD, List.getD_eq_getElem?_getD, hget]

theorem Layout.length (h : Layout pkt rmcp session code msgLen hdr cmd checksum) :
    pkt.length = 20 + codeLen (authenticationTypeAt pkt) + cmd.length := by
  have hlen := congrArg List.length h.eq
  simp only [List.length_append, List.length_singleton, h.rmcp, h.session, h.code, h.hdr] at hlen
  omega

theorem Layout.cmdBytes (h : Layout pkt rmcp session code msgLen hdr cmd checksum) :
    cmdBytes pkt (authenticationTypeAt pkt) = cmd := by
  have hlen := h.length
  rw [Lan.cmdBytes, h.drop_hdr]
  exact List.take_left' (by omega)

end Layout

/-! ### Lengths of the templates -/

theorem lenBytes_rmcpHdr : orTemplateInvalid (fiidTemplateLenBytes tmplRmcpHdr) = .ok 4 := by decide

theorem lenBytes_sessionHdr : orTemplateInvalid (fiidTemplateLenBytes tmplLanSessionHdr) = .ok 26 := by
  decide

theorem blockLenBytes_session : orTemplateInvalid
    (fiidTemplateBlockLenBytes tmplLanSessionHdr "authentication_type" "session_id") = .ok 9 := by decide

theorem fieldLenBytes_msgLen :
    orTemplateInvalid (fiidTemplateFieldLenBytes tmplLanSessionHdr "ipmi_msg_len") = .ok 1 := by decide

theorem fieldStartBytes_type :
    orTemplateInvalid (fiidTemplateFieldStartBytes tmplLanSessionHdr "authentication_type") = .ok 0 := by
  decide

theorem fieldStartBytes_code :
    orTemplateInvalid (fiidTemplateFieldStartBytes tmplLanSessionHdr "authentication_code") = .ok 9 := by
  decide

theorem fieldStartBytes_id :
    orTemplateInvalid (fiidTemplateFieldStartBytes tmplLanSessionHdr "session_id") = .ok 5 := by decide

theorem fieldStartBytes_sequenceNumber : orTemplateInvalid
    (fiidTemplateFieldStartBytes tmplLanSessionHdr "session_sequence_number") = .ok 1 := by decide

theorem fieldLenBytes_id :
    orTemplateInvalid (fiidTemplateFieldLenBytes tmplLanSessionHdr "session_id") = .ok 4 := by decide

theorem fieldLenBytes_sequenceNumber : orTemplateInvalid
    (fiidTemplateFieldLenBytes tmplLanSessionHdr "session_sequence_number") = .ok 4 := by decide

theorem blockLenBytes_checksum1 : orTemplateInvalid
    (fiidTemplateBlockLenBytes tmplLanMsgHdrRs "rq_addr" "net_fn") = .ok 2 := by decide

/-! ### Putting parts together -/

/-- A part put behind what is already written, into a zeroed rest. -/
theorem splice_behind {a b : List Byte} {k : ℕ} (hle : b.length ≤ k) :
    splice (a ++ List.replicate k 0) a.length (b ++ List.replicate (k - b.length) 0)
      = (a ++ b) ++ List.replicate (k - b.length) 0 := by
  have hzero : k - (b ++ List.replicate (k - b.length) (0 : Byte)).length = 0 := by
    rw [List.length_append, List.length_replicate]
    omega
  rw [splice_append_replicate, hzero, List.replicate_zero, List.append_nil, ← List.append_assoc]

theorem length_rest (a : List Byte) (k : ℕ) : (a ++ List.replicate k (0 : Byte)).length - a.length = k := by
  rw [List.length_append, List.length_replicate, Nat.add_sub_cancel_left]

theorem putAll_eq {a b : List Byte} {k : ℕ} {obj : FiidObj} (hle : b.length ≤ k)
    (hget : fiidObjGetAll obj k = .ok (b.length, b ++ List.replicate (k - b.length) 0)) :
    putAll (a ++ List.replicate k 0) a.length obj
      = .ok ((a ++ b) ++ List.replicate (k - b.length) 0, (a ++ b).length) := by
  rw [putAll, length_rest, hget, ok_bind]
  simp only [splice_behind hle]
  rw [List.length_append]
  rfl

theorem putBlock_eq {a b : List Byte} {k : ℕ} {obj : FiidObj} {fieldStart fieldEnd : String}
    (hle : b.length ≤ k) (hget : fiidObjGetBlock obj fieldStart fieldEnd k
      = .ok (b.length, b ++ List.replicate (k - b.length) 0)) :
    putBlock (a ++ List.replicate k 0) a.length obj fieldStart fieldEnd
      = .ok ((a ++ b) ++ List.replicate (k - b.length) 0, (a ++ b).length) := by
  rw [putBlock, length_rest, hget, ok_bind]
  simp only [splice_behind hle]
  rw [List.length_append]
  rfl

/-! ### Checksums -/

/-- Both checksums of a message are right. -/
def checksumsMatch (hdr cmd : List Byte) (checksum : Byte) : Bool :=
  ipmiChecksum (hdr.take 2) = hdr.getD 2 0 && ipmiChecksum (hdr.drop 3 ++ cmd) = checksum

theorem byte_setWidth (x : Byte) : (x.setWidth 64).setWidth 8 = x := by simp

section Checksum
variable {hdr cmd : List Byte} {checksum : Byte} {objLanMsgHdr objCmd objLanMsgTrlr : FiidObj}

theorem ipmiLanCheckChecksum_eq (hof : objLanMsgHdr.Of tmplLanMsgHdrRs.fields)
    (hhdr : objLanMsgHdr.Holds msgHdrLens hdr) (hlen : hdr.length = 5) (hcmd : objCmd.Reads cmd)
    (hofTrlr : objLanMsgTrlr.Of tmplLanMsgTrlr.fields) (htrlr : objLanMsgTrlr.Holds [8] [checksum]) :
    ipmiLanCheckChecksum objLanMsgHdr objCmd objLanMsgTrlr = .ok (checksumsMatch hdr cmd checksum) := by
  have hx : hdr[2]? = some (hdr.getD 2 0) := by
    rw [List.getElem?_eq_getElem (by omega), List.getD_eq_getElem _ _ (by omega)]
  have h1 : fiidObjGetStrict objLanMsgHdr "checksum1" = .ok ((hdr.getD 2 0).setWidth 64) := by
    rw [hhdr.getStrict hof (show valuePlace _ _ _ = some (8 * 2, 8) by decide), valueAt_byte hx]
  have h2 : fiidObjGetStrict objLanMsgTrlr "checksum2" = .ok (checksum.setWidth 64) := by
    rw [htrlr.getStrict hofTrlr (show valuePlace _ _ _ = some (8 * 0, 8) by decide),
      valueAt_byte (show [checksum][0]? = some checksum from rfl)]
  have hb1 := hhdr.getBlock hof (show blockPlace _ _ "rq_addr" "net_fn" = some (0, 2) by decide)
    (show 2 ≤ 5 by norm_num)
  have hdrop : (hdr.drop 3).length = 2 := by
    rw [List.length_drop, hlen]
  have hb2 := hhdr.getBlock hof (show blockPlace _ _ "rs_addr" "rq_seq" = some (3, 2) by decide)
    (show 2 ≤ 5 + cmd.length by omega)
  rw [List.take_of_length_le (by omega)] at hb2
  have hput1 := putBlock_eq (a := []) (show (hdr.drop 3).length ≤ 5 + cmd.length by omega)
    (by rw [hdrop]; exact hb2)
  have hput2 := putAll_eq (a := hdr.drop 3) (show cmd.length ≤ 5 + cmd.length - 2 by omega)
    (hcmd.getAll _ (by omega))
  simp only [List.nil_append, List.length_nil, hdrop] at hput1 hput2
  simp only [ipmiLanCheckChecksum, hof.compare (show TemplateOk tmplLanMsgHdrRs by decide),
    hofTrlr.compare (show TemplateOk tmplLanMsgTrlr by decide), hhdr.lenBytes, hlen, hcmd.lenBytes, h1, hb1,
    h2, hput1, hput2, ok_bind]
  have htake : (hdr.take 2).length = 2 := by
    rw [List.length_take, hlen]
    rfl
  rw [List.drop_zero, List.take_left' htake, List.take_left' rfl, byte_setWidth, byte_setWidth]
  by_cases hok : ipmiChecksum (hdr.take 2) = hdr.getD 2 0
  · rw [if_neg (not_not.mpr hok.symm), checksumsMatch, decide_eq_true hok, Bool.true_and]
    exact congrArg Except.ok (decide_eq_decide.mpr eq_comm)
  · rw [if_pos (Ne.symm hok), checksumsMatch, decide_eq_false hok, Bool.false_and]
    rfl

theorem ipmiLanCheckPacketChecksum_eq {pkt rmcp session code : List Byte} {msgLen : Byte}
    (h : Layout pkt rmcp session code msgLen hdr cmd checksum) :
    ipmiLanCheckPacketChecksum pkt = .ok (checksumsMatch hdr cmd checksum) := by
  have hlen := h.length
  have hhdr := h.hdr
  obtain ⟨c, hc⟩ : ∃ c, c = codeLen (authenticationTypeAt pkt) := ⟨_, rfl⟩
  have hd14 := h.drop_msgLen
  rw [← hc] at hlen hd14
  have htype : readByte pkt 4 = .ok (authenticationTypeAt pkt) := readByte_of_lt (by omega)
  have hcode : (if authenticationTypeAt pkt ≠ ipmiAuthenticationTypeNone then ipmi15MaxPasswordLength else 0)
      = c := by
    rw [hc, codeLen]
    split_ifs <;> simp_all
  have hat : ∀ i, pkt[14 + c + i]? = (hdr ++ (cmd ++ [checksum]))[i]? := fun i => by
    rw [← hd14, List.getElem?_drop]
  have h16 : readByte pkt (14 + c + 2) = .ok (hdr.getD 2 0) := by
    rw [readByte, hat, List.getElem?_append_left (by omega), List.getElem?_eq_getElem (by omega),
      List.getD_eq_getElem _ _ (by omega)]
  have hlast : readByte pkt (14 + c + 2 + 1 + (pkt.length - (14 + c + 2 + 1) - 1)) = .ok checksum := by
    rw [readByte, show 14 + c + 2 + 1 + (pkt.length - (14 + c + 2 + 1) - 1) = 14 + c + (5 + cmd.length) by
      omega, hat, List.getElem?_append_right (by omega), List.getElem?_append_right (by omega)]
    simp [hhdr]
  have hb1 : (pkt.drop (14 + c)).take 2 = hdr.take 2 := by
    rw [hd14, List.take_append_of_le_length (by omega)]
  have hb2 : (pkt.drop (14 + c + 2 + 1)).take (pkt.length - (14 + c + 2 + 1) - 1) = hdr.drop 3 ++ cmd := by
    rw [Nat.add_assoc, ← List.drop_drop, hd14, List.drop_append_of_le_length (by omega), ← List.append_assoc]
    refine List.take_left' ?_
    rw [List.length_append, List.length_drop]
    omega
  have hindex : 4 + 9 + c + 1 = 14 + c := by omega
  simp only [ipmiLanCheckPacketChecksum, lenBytes_rmcpHdr, fieldStartBytes_type, blockLenBytes_session,
    fieldLenBytes_msgLen, blockLenBytes_checksum1, ok_bind, Nat.add_zero, htype, hcode, hindex, h16, hb1]
  rw [if_neg (by omega), if_neg (by omega)]
  by_cases hok : ipmiChecksum (hdr.take 2) = hdr.getD 2 0
  · rw [if_neg (not_not.mpr hok), if_neg (by omega), hlast, ok_bind, hb2, checksumsMatch,
      decide_eq_true hok, Bool.true_and]
    rfl
  · rw [if_pos hok, checksumsMatch, decide_eq_false hok, Bool.false_and]
    rfl

end Checksum

/-! ### Authentication code -/

/-- What the password check of a message amounts to. -/
def codeMatches (digests : Digests) (session code msg : List Byte) (authenticationType : Byte)
    (password : List Byte) : Except Stop Bool :=
  if !authenticationTypeSupported authenticationType ∨ password.length > ipmi15MaxPasswordLength then
    .error (.errno .einval)
  else if authenticationType ≠ session.getD 0 0 then .ok false
  else if authenticationType = ipmiAuthenticationTypeNone then .ok true
  else .ok (authenticationCodeCalc digests authenticationType password (session.drop 5) msg
    ((session.drop 1).take 4) = code)

theorem pwbuf_of_length {b : List Byte} (h : b.length = 16) : pwbuf b = b := by
  have hrest : (List.replicate 16 (0 : Byte)).drop 16 = [] := rfl
  rw [pwbuf, splice, ipmi15MaxPasswordLength, List.take_zero, List.nil_append, Nat.zero_add, h, hrest,
    List.append_nil]

theorem authenticationCodeCalc_straight (digests : Digests)
    (password sessionId msg sequenceNumber : List Byte) :
    authenticationCodeCalc digests ipmiAuthenticationTypeStraightPasswordKey password sessionId msg
      sequenceNumber = pwbuf password := rfl

/-- A supported type other than these is the straight password. -/
theorem straight_of_supported {t : Byte} (h : authenticationTypeSupported t = true)
    (hnone : t ≠ ipmiAuthenticationTypeNone) (hmd2 : t ≠ ipmiAuthenticationTypeMd2)
    (hmd5 : t ≠ ipmiAuthenticationTypeMd5) : t = ipmiAuthenticationTypeStraightPasswordKey := by
  simpa [authenticationTypeSupported, hnone, hmd2, hmd5] using h

theorem packetValidStrict_of_valid {obj : FiidObj} (h : fiidObjPacketValid obj = true) :
    fiidObjPacketValidStrict obj = .ok () := by
  rw [fiidObjPacketValid] at h
  rw [fiidObjPacketValidStrict]
  cases hv : packetValid obj false with
  | error e =>
    rw [hv] at h
    cases h
  | ok u => rfl

section Code
variable {digests : Digests} {session code hdr cmd : List Byte} {msgLen checksum : Byte}
  {objLanSessionHdr objLanMsgHdr objCmd objLanMsgTrlr : FiidObj}

/-- The objects of a parsed packet, with what they hold. -/
structure Parsed (session code : List Byte) (msgLen : Byte) (hdr cmd : List Byte) (checksum : Byte)
    (objLanSessionHdr objLanMsgHdr objCmd objLanMsgTrlr : FiidObj) : Prop where
  sessionOf : objLanSessionHdr.Of tmplLanSessionHdr.fields
  sessionValid : fiidObjPacketValid objLanSessionHdr = true
  sessionHolds : objLanSessionHdr.Holds (sessionLens (session.getD 0 0)) (session ++ (code ++ [msgLen]))
  sessionLen : session.length = 9
  codeLen : code.length = codeLen (session.getD 0 0)
  hdrOf : objLanMsgHdr.Of tmplLanMsgHdrRs.fields
  hdrValid : fiidObjPacketValid objLanMsgHdr = true
  hdrHolds : objLanMsgHdr.Holds msgHdrLens hdr
  hdrLen : hdr.length = 5
  cmd : objCmd.Reads cmd
  trlrOf : objLanMsgTrlr.Of tmplLanMsgTrlr.fields
  trlrValid : fiidObjPacketValid objLanMsgTrlr = true
  trlrHolds : objLanMsgTrlr.Holds [8] [checksum]

variable (h : Parsed session code msgLen hdr cmd checksum objLanSessionHdr objLanMsgHdr objCmd objLanMsgTrlr)
include h

theorem Parsed.messageOf :
    messageOf objLanMsgHdr objCmd objLanMsgTrlr = .ok (hdr ++ (cmd ++ [checksum])) := by
  have hhdr := h.hdrLen
  have hget1 := h.hdrHolds.getAll_full h.hdrOf (by decide)
    (show hdr.length ≤ hdr.length + cmd.length + [checksum].length by omega)
  have hput1 := putAll_eq (a := []) (show hdr.length ≤ hdr.length + cmd.length + [checksum].length by omega)
    hget1
  have hput2 := putAll_eq (a := hdr)
    (show cmd.length ≤ hdr.length + cmd.length + [checksum].length - hdr.length by omega)
    (h.cmd.getAll _ (by omega))
  have hget3 := h.trlrHolds.getAll_full h.trlrOf (by decide) (show [checksum].length
    ≤ hdr.length + cmd.length + [checksum].length - hdr.length - cmd.length by omega)
  have hput3 := putAll_eq (a := hdr ++ cmd) (show [checksum].length
    ≤ hdr.length + cmd.length + [checksum].length - hdr.length - cmd.length by omega) hget3
  rw [List.nil_append, List.nil_append, List.length_nil] at hput1
  simp only [Lan.messageOf, h.hdrHolds.lenBytes, h.cmd.lenBytes, h.trlrHolds.lenBytes, ok_bind, hput1,
    hput2, hput3]
  rw [List.take_left' rfl, List.append_assoc]
  rfl

theorem Parsed.checkAuthenticationCode (authenticationType : Byte) (password : List Byte) :
    ipmiLanCheckSessionAuthenticationCode digests objLanSessionHdr objLanMsgHdr objCmd objLanMsgTrlr
      authenticationType password
      = codeMatches digests session code (hdr ++ (cmd ++ [checksum])) authenticationType password := by
  have hsession := h.sessionLen
  have hcode := h.codeLen
  have hbyte : (session ++ (code ++ [msgLen]))[0]? = some (session.getD 0 0) := by
    rw [List.getElem?_append_left (by omega), List.getElem?_eq_getElem (by omega),
      List.getD_eq_getElem _ _ (by omega)]
  have htype : fiidObjGetStrict objLanSessionHdr "authentication_type"
      = .ok ((session.getD 0 0).setWidth 64) := by
    have hplace : valuePlace tmplLanSessionHdr.fields (sessionLens (session.getD 0 0))
        "authentication_type" = some (8 * 0, 8) := by
      rw [sessionLens]
      rcases codeLen_le (session.getD 0 0) with hc | hc <;> rw [hc] <;> decide
    rw [h.sessionHolds.getStrict h.sessionOf hplace, valueAt_byte hbyte]
  have hrecv : fiidObjGetData objLanSessionHdr "authentication_code" ipmi15MaxPasswordLength = .ok code := by
    have hplace : dataPlace tmplLanSessionHdr.fields (sessionLens (session.getD 0 0))
        "authentication_code" = some (9, code.length) := by
      rw [sessionLens, hcode]
      rcases codeLen_le (session.getD 0 0) with hc | hc <;> rw [hc] <;> decide
    rw [h.sessionHolds.getData h.sessionOf hplace (by
      rw [hcode]
      rcases codeLen_le (session.getD 0 0) with hc | hc <;> rw [hc] <;> decide),
      List.drop_left' hsession, List.take_left' rfl]
  have hid : fiidObjGetData objLanSessionHdr "session_id" 1024 = .ok (session.drop 5) := by
    have hplace : dataPlace tmplLanSessionHdr.fields (sessionLens (session.getD 0 0))
        "session_id" = some (5, 4) := by
      rw [sessionLens]
      rcases codeLen_le (session.getD 0 0) with hc | hc <;> rw [hc] <;> decide
    rw [h.sessionHolds.getData h.sessionOf hplace (by norm_num),
      List.drop_append_of_le_length (by omega), List.take_left' (by rw [List.length_drop]; omega)]
  have hseq : fiidObjGetData objLanSessionHdr "session_sequence_number" 1024
      = .ok ((session.drop 1).take 4) := by
    have hplace : dataPlace tmplLanSessionHdr.fields (sessionLens (session.getD 0 0))
        "session_sequence_number" = some (1, 4) := by
      rw [sessionLens]
      rcases codeLen_le (session.getD 0 0) with hc | hc <;> rw [hc] <;> decide
    rw [h.sessionHolds.getData h.sessionOf hplace (by norm_num),
      List.drop_append_of_le_length (by omega),
      List.take_append_of_le_length (by rw [List.length_drop]; omega)]
  rw [ipmiLanCheckSessionAuthenticationCode, codeMatches]
  split
  · rfl
  · rename_i hok
    simp only [h.sessionOf.compare (show TemplateOk tmplLanSessionHdr by decide),
      h.hdrOf.compare (show TemplateOk tmplLanMsgHdrRs by decide),
      h.trlrOf.compare (show TemplateOk tmplLanMsgTrlr by decide),
      packetValidStrict_of_valid h.sessionValid, packetValidStrict_of_valid h.hdrValid,
      packetValidStrict_of_valid h.trlrValid, htype, hrecv, hid, hseq, h.messageOf, ok_bind, byte_setWidth]
    split
    · rfl
    · rename_i heq
      rw [not_not] at heq
      split
      · rename_i hnone
        have hzero : code.length = 0 := by
          rw [hcode, ← heq, Lan.codeLen, if_pos hnone]
        simp [hzero, pure, Except.pure]
      · rename_i hne
        have hfull : code.length = 16 := by
          rw [hcode, ← heq, Lan.codeLen, if_neg hne]
          rfl
        rw [pwbuf_of_length hfull]
        split
        · rename_i hstraight
          rw [hstraight, authenticationCodeCalc_straight]
          exact congrArg Except.ok (decide_eq_decide.mpr eq_comm)
        · exact congrArg Except.ok (decide_eq_decide.mpr eq_comm)

end Code

/-- The packet version of the check. -/
theorem Layout.checkAuthenticationCode {pkt rmcp session code : List Byte} {msgLen : Byte}
    {hdr cmd : List Byte} {checksum : Byte} (h : Layout pkt rmcp session code msgLen hdr cmd checksum)
    (digests : Digests) (authenticationType : Byte) (password : List Byte) :
    ipmiLanCheckPacketSessionAuthenticationCode digests pkt authenticationType password
      = codeMatches digests session code (hdr ++ (cmd ++ [checksum])) authenticationType password := by
  have hlen := h.length
  have hsession := h.session
  have hd4 := h.drop_rmcp
  have hfirst := h.type
  have hread : readByte pkt 4 = .ok (session.getD 0 0) := by
    rw [hfirst]
    exact readByte_of_lt (by omega)
  rw [ipmiLanCheckPacketSessionAuthenticationCode, codeMatches]
  split
  · rfl
  · rename_i hok
    simp only [lenBytes_rmcpHdr, fieldStartBytes_type, fieldStartBytes_code, fieldStartBytes_id,
      fieldStartBytes_sequenceNumber, fieldLenBytes_id, fieldLenBytes_sequenceNumber,
      lenBytes_sessionHdr, ok_bind, Nat.add_zero, hread]
    rw [if_neg (by omega)]
    split
    · rfl
    · rename_i heq
      rw [not_not] at heq
      rw [← heq]
      split
      · rfl
      · rename_i hne
        have hc : codeLen (authenticationTypeAt pkt) = 16 := by
          rw [← hfirst, ← heq, Lan.codeLen, if_neg hne]
          rfl
        have hcode := h.code
        have hd30 := h.drop_msgLen
        rw [hc] at hlen hcode hd30
        have hrecv : (pkt.drop (4 + 9)).take ipmi15MaxPasswordLength = code := by
          rw [h.drop_session]
          exact List.take_left' hcode
        have hid : (pkt.drop (4 + 5)).take 4 = session.drop 5 := by
          rw [← List.drop_drop, hd4, List.drop_append_of_le_length (by omega)]
          exact List.take_left' (by rw [List.length_drop]; omega)
        have hseq : (pkt.drop (4 + 1)).take 4 = (session.drop 1).take 4 := by
          rw [← List.drop_drop, hd4, List.drop_append_of_le_length (by omega),
            List.take_append_of_le_length (by rw [List.length_drop]; omega)]
        have hmsg : pkt.drop (4 + 26) = hdr ++ (cmd ++ [checksum]) := hd30
        have hroom : ¬ pkt.length < 4 + 9 + ipmi15MaxPasswordLength := by
          rw [ipmi15MaxPasswordLength]
          omega
        rw [if_neg hroom, hrecv, hid, hseq, hmsg]
        split
        · rw [if_neg (by omega)]
          rfl
        · rename_i hmd
          obtain ⟨hmd2, hmd5⟩ := not_or.mp hmd
          have hsupported : authenticationTypeSupported authenticationType = true := by
            by_contra hno
            exact hok (Or.inl (by simpa using hno))
          rw [straight_of_supported hsupported hne hmd2 hmd5, authenticationCodeCalc_straight]
          rfl

/-! ### After a parse -/

section Verify
variable {pkt rmcp session code : List Byte} {msgLen : Byte} {hdr cmd : List Byte} {checksum : Byte}
  {cmdFields : List FiidField} {fl : List (BitVec 32)} {n : ℕ} {w : Walk}

/-- After a walk the objects hold the parts of the packet: of the command as many bytes as its object has
    room for, and the byte behind them as the checksum. -/
theorem AtEnd.parsed_take (hw : AtEnd pkt cmdFields fl (authenticationTypeAt pkt) n w)
    (hl : Layout pkt rmcp session code msgLen hdr cmd checksum)
    (hsession : fiidObjPacketValid w.objs.sessionHdr = true) (hhdr : fiidObjPacketValid w.objs.msgHdr = true)
    (htrlr : fiidObjPacketValid w.objs.msgTrlr = true) :
    ∃ x, (pkt.drop (19 + codeLen (authenticationTypeAt pkt) + n)).take 1 = [x] ∧
      Parsed session code msgLen hdr (cmd.take n) x w.objs.sessionHdr w.objs.msgHdr w.objs.cmd
        w.objs.msgTrlr := by
  obtain ⟨obj, hof, hunset, hfill⟩ := hw.cmd
  have hc := hw.contents
  have hlen := hl.length
  have hbytes := hl.cmdBytes
  have hle := hw.walked.le
  have hindx := hw.indx
  obtain ⟨x, hx⟩ := List.length_eq_one_iff.mp
    (show ((pkt.drop (19 + codeLen (authenticationTypeAt pkt) + n)).take 1).length = 1 by
      rw [List.length_take, List.length_drop]
      omega)
  have hsessionBytes : (pkt.drop 4).take (10 + codeLen (authenticationTypeAt pkt))
      = session ++ (code ++ [msgLen]) := by
    rw [hl.drop_rmcp, ← List.append_assoc code, ← List.append_assoc session]
    refine List.take_left' ?_
    rw [List.length_append, List.length_append, List.length_singleton, hl.session, hl.code]
    omega
  have hhdrBytes : (pkt.drop (14 + codeLen (authenticationTypeAt pkt))).take 5 = hdr := by
    rw [hl.drop_msgLen]
    exact List.take_left' hl.hdr
  have hcmd : w.objs.cmd.Reads (cmd.take n) := by
    rw [← hbytes]
    exact hfill.reads hof hunset
  refine ⟨x, hx, hw.walked.sessionHdr, hsession, ?_, hl.session, ?_, hw.walked.msgHdr, hhdr, ?_, hl.hdr,
    hcmd, hw.walked.msgTrlr, htrlr, ?_⟩
  · rw [hl.type, ← hsessionBytes]
    exact hc.sessionHdr
  · rw [hl.type]
    exact hl.code
  · rw [← hhdrBytes]
    exact hc.msgHdr
  · rw [← hx]
    exact hc.msgTrlr

/-- After a walk through a packet whose command fits, the objects hold its parts. -/
theorem AtEnd.parsed (hw : AtEnd pkt cmdFields fl (authenticationTypeAt pkt) n w)
    (hl : Layout pkt rmcp session code msgLen hdr cmd checksum) (hfit : 8 * cmd.length ≤ bitLen cmdFields)
    (hsession : fiidObjPacketValid w.objs.sessionHdr = true) (hhdr : fiidObjPacketValid w.objs.msgHdr = true)
    (htrlr : fiidObjPacketValid w.objs.msgTrlr = true) :
    Parsed session code msgLen hdr cmd checksum w.objs.sessionHdr w.objs.msgHdr w.objs.cmd w.objs.msgTrlr := by
  obtain ⟨obj, -, -, hfill⟩ := hw.cmd
  obtain ⟨x, hx, hp⟩ := hw.parsed_take hl hsession hhdr htrlr
  have hn : n = cmd.length := by
    have := hfill.len
    rw [hl.cmdBytes] at this
    omega
  rw [← List.drop_drop, hl.drop_hdr, hn, List.drop_left' rfl] at hx
  obtain rfl : checksum = x := List.head_eq_of_cons_eq hx
  rwa [hn, List.take_length] at hp

/-- A packet that `unassemble_ipmi_lan_pkt` accepts, and whose command fits into its object, passes a
    check on the objects exactly when it passes the check on the bytes, errors included. -/
theorem verifiers_agree {ndebug : Bool} {cmdTmpl : FiidTemplate} {objs objs' : LanObjs}
    {flags : BitVec 32} (digests : Digests) (h : objs.Passed ndebug cmdTmpl)
    (hret : unassembleIpmiLanPkt pkt objs flags = .ok (true, objs'))
    (hfit : 8 * (cmdBytes pkt (authenticationTypeAt pkt)).length ≤ bitLen cmdTmpl.fields) :
    ipmiLanCheckChecksum objs'.msgHdr objs'.cmd objs'.msgTrlr = ipmiLanCheckPacketChecksum pkt ∧
      ∀ authenticationType password,
        ipmiLanCheckSessionAuthenticationCode digests objs'.sessionHdr objs'.msgHdr objs'.cmd
            objs'.msgTrlr authenticationType password
          = ipmiLanCheckPacketSessionAuthenticationCode digests pkt authenticationType password := by
  obtain ⟨hflags, hal⟩ := h.of_returns hret
  obtain ⟨accepted, w, hcall, hw⟩ := h.returns hflags hal
  rw [hret] at hcall
  cases hcall
  rcases hw with ⟨n, hw, hacc⟩ | ⟨-, hacc⟩
  · have hacc := hacc.symm
    simp only [LanObjs.accepted, Bool.and_eq_true] at hacc
    obtain ⟨⟨⟨⟨-, hsession⟩, hhdr⟩, -⟩, htrlr⟩ := hacc
    obtain ⟨rmcp, session, code, msgLen, hdr, cmd, checksum, hl⟩ := hw.reaches.layout
    rw [hl.cmdBytes] at hfit
    have hp := hw.parsed hl hfit hsession hhdr htrlr
    refine ⟨?_, fun authenticationType password => ?_⟩
    · rw [ipmiLanCheckChecksum_eq hp.hdrOf hp.hdrHolds hp.hdrLen hp.cmd hp.trlrOf hp.trlrHolds,
        ipmiLanCheckPacketChecksum_eq hl]
    · rw [hp.checkAuthenticationCode, hl.checkAuthenticationCode]
  · cases hacc

end Verify

/-- Digests of zeros; a packet of type none is never hashed. -/
def zeroDigests : Digests := ⟨fun _ => List.Vector.replicate 16 0, fun _ => List.Vector.replicate 16 0⟩

/-- The password "admin", and the response in a session with it and MD5. -/
def adminPassword : List Byte := [0x61, 0x64, 0x6D, 0x69, 0x6E]

def md5Pkt : List Byte :=
  vlanIdPkt.take 4 ++ [2] ++ [0x05, 0, 0, 0] ++ [0xB4, 0x03, 0x02, 0x01]
    ++ [0x80, 0xFD, 0x94, 0x4F, 0x8F, 0x26, 0x74, 0x18, 0xC1, 0x60, 0x6A, 0x9E, 0xF6, 0x7D, 0x4C, 0x2A]
    ++ vlanIdPkt.drop 13

/-- The digest of what is hashed for it. -/
def md5Digests : Digests where
  md2 := fun _ => List.Vector.replicate 16 0
  md5 := fun input =>
    if input = hashInput (pwbuf adminPassword) [0xB4, 0x03, 0x02, 0x01] (vlanIdPkt.drop 14) [0x05, 0, 0, 0] then
      ⟨[0x80, 0xFD, 0x94, 0x4F, 0x8F, 0x26, 0x74, 0x18, 0xC1, 0x60, 0x6A, 0x9E, 0xF6, 0x7D, 0x4C, 0x2A], rfl⟩
    else List.Vector.replicate 16 0

/-- Its authentication code verifies on the bytes, and so on the objects. -/
theorem verifiers_agree_md5 : ∃ objs', unassembleIpmiLanPkt md5Pkt vlanIdObjs 0 = .ok (true, objs') ∧
    ipmiLanCheckChecksum objs'.msgHdr objs'.cmd objs'.msgTrlr = ipmiLanCheckPacketChecksum md5Pkt ∧
    ipmiLanCheckPacketSessionAuthenticationCode md5Digests md5Pkt ipmiAuthenticationTypeMd5 adminPassword
      = .ok true ∧
    ipmiLanCheckSessionAuthenticationCode md5Digests objs'.sessionHdr objs'.msgHdr objs'.cmd
      objs'.msgTrlr ipmiAuthenticationTypeMd5 adminPassword = .ok true := by
  have hagree := verifiers_agree md5Digests vlanIdObjs_passed
    (show unassembleIpmiLanPkt md5Pkt vlanIdObjs 0 = .ok (true, _) from rfl) (by decide)
  have hcode : ipmiLanCheckPacketSessionAuthenticationCode md5Digests md5Pkt ipmiAuthenticationTypeMd5
      adminPassword = .ok true := by rfl
  exact ⟨_, rfl, hagree.1, hcode, (hagree.2 _ _).trans hcode⟩

end FreeIpmi.Lan
