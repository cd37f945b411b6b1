import FreeIpmi.Lan.Verify

/-! A request that `assemble_ipmi_lan_pkt` has built goes through the parser and the checks.

    The assembler writes part after part behind each other, leaves a gap for the authentication code
    and the message length, and fills the gap when the message is complete. The buffer then starts
    with `requestPkt`, which has the layout that the parser cuts. -/

namespace FreeIpmi.Lan
open Fiid Calls Stages ByteBits

/-! ### The bytes of a request -/

/-- Header, command and checksum. -/
def requestMsg (hdr cmd : List Byte) : List Byte := hdr ++ (cmd ++ [ipmiChecksum (hdr.drop 3 ++ cmd)])

/-- The authentication code for the type in the session header. -/
def requestCode (digests : Digests) (session password msg : List Byte) : List Byte :=
  if session.getD 0 0 = ipmiAuthenticationTypeNone then []
  else authenticationCodeCalc digests (session.getD 0 0) password (session.drop 5) msg
    ((session.drop 1).take 4)

def requestPkt (digests : Digests) (rmcp session hdr cmd password : List Byte) : List Byte :=
  rmcp ++ (session ++ (requestCode digests session password (requestMsg hdr cmd) ++
    ([BitVec.ofNat 8 (requestMsg hdr cmd).length] ++ requestMsg hdr cmd)))

theorem length_pwbuf {password : List Byte} (h : password.length ≤ ipmi15MaxPasswordLength) :
    (pwbuf password).length = ipmi15MaxPasswordLength := by
  rw [pwbuf, length_splice (by simpa using h), List.length_replicate]

theorem length_authenticationCodeCalc {digests : Digests} {t : Byte} {password : List Byte}
    (h : password.length ≤ ipmi15MaxPasswordLength) (sessionId msg sequenceNumber : List Byte) :
    (authenticationCodeCalc digests t password sessionId msg sequenceNumber).length
      = ipmi15MaxPasswordLength := by
  simp only [authenticationCodeCalc]
  split_ifs
  · exact List.Vector.toList_length _
  · exact List.Vector.toList_length _
  · exact length_pwbuf h

/-! ### The message -/

section Message
variable {hdr cmd : List Byte} {objLanMsgHdr objCmd : FiidObj}

theorem length_msgHdr (hhdr : objLanMsgHdr.Holds msgHdrLens hdr) : hdr.length = 5 := by
  have hsum := hhdr.sum
  rw [show msgHdrLens.sum = 8 * 5 from rfl] at hsum
  omega

theorem length_requestMsg (hlen : hdr.length = 5) (cmd : List Byte) :
    (requestMsg hdr cmd).length = 6 + cmd.length := by
  rw [requestMsg, List.length_append, List.length_append, List.length_singleton, hlen]
  omega

/-- The two parts of the message header, put one after the other. -/
theorem putMsgHdr (hof : objLanMsgHdr.Of tmplLanMsgHdrRq.fields)
    (hhdr : objLanMsgHdr.Holds msgHdrLens hdr) (a : List Byte) {k : ℕ} (hroom : 5 ≤ k) :
    putBlock (a ++ List.replicate k 0) a.length objLanMsgHdr "rs_addr" "checksum1"
        = .ok (a ++ hdr.take 3 ++ List.replicate (k - 3) 0, (a ++ hdr.take 3).length) ∧
      putBlock (a ++ hdr.take 3 ++ List.replicate (k - 3) 0) (a ++ hdr.take 3).length objLanMsgHdr
          "rq_addr" "rq_seq"
        = .ok (a ++ hdr ++ List.replicate (k - 5) 0, (a ++ hdr).length) := by
  have hlen := length_msgHdr hhdr
  have htake : (hdr.take 3).length = 3 := by
    rw [List.length_take]
    omega
  have hdrop : (hdr.drop 3).length = 2 := by
    rw [List.length_drop]
    omega
  have hget1 := hhdr.getBlock hof (show blockPlace _ _ "rs_addr" "checksum1" = some (0, 3) by decide)
    (show 3 ≤ k by omega)
  have hget2 := hhdr.getBlock hof (show blockPlace _ _ "rq_addr" "rq_seq" = some (3, 2) by decide)
    (show 2 ≤ k - 3 by omega)
  rw [List.drop_zero] at hget1
  rw [List.take_of_length_le (by omega)] at hget2
  have hput1 := putBlock_eq (a := a) (show (hdr.take 3).length ≤ k by omega) (by rw [htake]; exact hget1)
  have hput2 := putBlock_eq (a := a ++ hdr.take 3) (show (hdr.drop 3).length ≤ k - 3 by omega)
    (by rw [hdrop]; exact hget2)
  rw [htake] at hput1
  have hparts : a ++ hdr.take 3 ++ hdr.drop 3 = a ++ hdr := by
    rw [List.append_assoc, List.take_append_drop]
  rw [hdrop, hparts, Nat.sub_sub] at hput2
  exact ⟨hput1, hput2⟩

/-- The trailer is created and takes one byte. -/
theorem trlr_reads (ndebug : Bool) (checksum : Byte) : ∃ objLanMsgTrlr obj',
    fiidObjCreate ndebug tmplLanMsgTrlr = some objLanMsgTrlr ∧
      fiidObjSetAll objLanMsgTrlr [checksum] = (.ok 1, obj') ∧ obj'.Reads [checksum] := by
  have hcreate : fiidObjCreate ndebug tmplLanMsgTrlr = some (createdObj tmplLanMsgTrlr 1 false) := by
    cases ndebug <;> decide
  have hof := (create_wf hcreate).of
  have hunset := (show Fresh ndebug tmplLanMsgTrlr _ from Or.inl hcreate).unset
  obtain ⟨obj', n, -, hfill⟩ := trySetAll_filled hof hunset (endsByteAligned_msgTrlr [checksum].length)
  have hlen := hfill.len
  rw [show bitLen tmplLanMsgTrlr.fields = 8 from rfl, List.length_singleton] at hlen
  obtain rfl : n = 1 := by omega
  have hlens := hfill.full (by rw [List.length_singleton]; decide)
  have hholds : obj'.Holds obj'.lens [checksum] := ⟨rfl, hfill.bits⟩
  exact ⟨_, obj', hcreate, hfill.call, hholds.lenBytes, fun dataLen hroom =>
    hholds.getAll_full hfill.of hlens hroom⟩

/-- The message goes behind what is already written. -/
theorem putMessage_eq (ndebug : Bool) (hof : objLanMsgHdr.Of tmplLanMsgHdrRq.fields)
    (hhdr : objLanMsgHdr.Holds msgHdrLens hdr) {a : List Byte} {k : ℕ} (hroom : 6 + cmd.length ≤ k)
    (hget : fiidObjGetAll objCmd (k - 5)
      = .ok (cmd.length, cmd ++ List.replicate (k - 5 - cmd.length) 0)) :
    putMessage ndebug (a ++ List.replicate k 0) a.length objLanMsgHdr objCmd
      = .ok ((a ++ requestMsg hdr cmd) ++ List.replicate (k - (requestMsg hdr cmd).length) 0,
        (a ++ requestMsg hdr cmd).length) := by
  have hlen := length_msgHdr hhdr
  have htake : (hdr.take 3).length = 3 := by
    rw [List.length_take]
    omega
  obtain ⟨hput1, hput2⟩ := putMsgHdr hof hhdr a (show 5 ≤ k by omega)
  have hput3 := putAll_eq (a := a ++ hdr) (show cmd.length ≤ k - 5 by omega) hget
  have hsum : ((a ++ hdr ++ cmd ++ List.replicate (k - 5 - cmd.length) 0).drop
      (a ++ hdr.take 3).length).take ((a ++ hdr ++ cmd).length - (a ++ hdr.take 3).length)
      = hdr.drop 3 ++ cmd := by
    have hsplit : a ++ hdr ++ cmd = a ++ hdr.take 3 ++ (hdr.drop 3 ++ cmd) := by
      rw [List.append_assoc a (hdr.take 3), ← List.append_assoc (hdr.take 3), List.take_append_drop,
        List.append_assoc]
    rw [hsplit, List.append_assoc (a ++ hdr.take 3), List.drop_left]
    refine List.take_left' ?_
    simp only [List.length_append]
    omega
  obtain ⟨objLanMsgTrlr, obj', hcreate, hset, hreads⟩ :=
    trlr_reads ndebug (ipmiChecksum (hdr.drop 3 ++ cmd))
  have hput4 := putAll_eq (a := a ++ hdr ++ cmd)
    (show [ipmiChecksum (hdr.drop 3 ++ cmd)].length ≤ k - 5 - cmd.length by
      rw [List.length_singleton]
      omega) (hreads.getAll _ (by rw [List.length_singleton]; omega))
  have hparts : a ++ hdr ++ cmd ++ [ipmiChecksum (hdr.drop 3 ++ cmd)] = a ++ requestMsg hdr cmd := by
    rw [List.append_assoc a, List.append_assoc a, List.append_assoc hdr]
    rfl
  have hzeros : k - 5 - cmd.length - [ipmiChecksum (hdr.drop 3 ++ cmd)].length
      = k - (requestMsg hdr cmd).length := by
    rw [length_requestMsg hlen, List.length_singleton]
    omega
  rw [putMessage, hput1, ok_bind]
  simp only [hput2, ok_bind, hput3, hcreate, hsum, hset, hput4, hparts, hzeros]

/-- A message is only put together when the command can be read. -/
theorem putMessage_getAll {ndebug : Bool} {a : List Byte} {k : ℕ} {r : List Byte × ℕ}
    (hof : objLanMsgHdr.Of tmplLanMsgHdrRq.fields) (hhdr : objLanMsgHdr.Holds msgHdrLens hdr)
    (hroom : 5 ≤ k)
    (h : putMessage ndebug (a ++ List.replicate k 0) a.length objLanMsgHdr objCmd = .ok r) :
    ∃ q, fiidObjGetAll objCmd (k - 5) = .ok q := by
  obtain ⟨hput1, hput2⟩ := putMsgHdr hof hhdr a hroom
  rw [putMessage, hput1, ok_bind] at h
  simp only [hput2, ok_bind] at h
  obtain ⟨r, hput3, -⟩ := bind_eq_ok.mp h
  rw [putAll, length_rest] at hput3
  obtain ⟨q, hget, -⟩ := bind_eq_ok.mp hput3
  exact ⟨q, hget⟩

end Message

/-! ### The request -/

/-- The first checksum of the message header is that of the bytes before it. -/
def Checksum1Right (objLanMsgHdr : FiidObj) : Prop :=
  ∃ buf, fiidObjGetBlock objLanMsgHdr "rs_addr" "net_fn" 2 = .ok (2, buf) ∧
    fiidObjGetStrict objLanMsgHdr "checksum1" = .ok ((ipmiChecksum buf).setWidth 64)

section Request
variable {digests : Digests} {rmcp session hdr cmd password : List Byte}

theorem length_requestCode (h : password.length ≤ ipmi15MaxPasswordLength) (msg : List Byte) :
    (requestCode digests session password msg).length = codeLen (session.getD 0 0) := by
  rw [requestCode, codeLen]
  split_ifs
  · rfl
  · exact length_authenticationCodeCalc h _ _ _

/-- The lengths of a session header for a request: type, sequence number and id are set, no
    authentication code is preset. The message length is computed in any case. -/
def SessionSet (lens : List ℕ) : Prop := lens = [8, 32, 32, 0, 0] ∨ lens = [8, 32, 32, 0, 8]

theorem SessionSet.places {lens : List ℕ} (hset : SessionSet lens) :
    valuePlace tmplLanSessionHdr.fields lens "authentication_type" = some (8 * 0, 8) ∧
      lens[3]? = some 0 ∧
      dataPlace tmplLanSessionHdr.fields lens "session_id" = some (5, 4) ∧
      dataPlace tmplLanSessionHdr.fields lens "session_sequence_number" = some (1, 4) ∧
      blockPlace tmplLanSessionHdr.fields lens "authentication_type" "session_id" = some (0, 9) := by
  rcases hset with rfl | rfl <;> decide

/-- What the objects of a request hold. -/
structure Request (rmcp session hdr cmd : List Byte)
    (objRmcpHdr objLanSessionHdr objLanMsgHdr objCmd : FiidObj) : Prop where
  rmcpOf : objRmcpHdr.Of tmplRmcpHdr.fields
  rmcpHolds : objRmcpHdr.Holds rmcpHdrLens rmcp
  sessionOf : objLanSessionHdr.Of tmplLanSessionHdr.fields
  sessionHolds : ∃ lens rest, SessionSet lens ∧ objLanSessionHdr.Holds lens (session ++ rest)
  sessionLen : session.length = 9
  hdrOf : objLanMsgHdr.Of tmplLanMsgHdrRq.fields
  hdrHolds : objLanMsgHdr.Holds msgHdrLens hdr
  cmd : objCmd.Reads cmd

variable {objRmcpHdr objLanSessionHdr objLanMsgHdr objCmd : FiidObj}
  (h : Request rmcp session hdr cmd objRmcpHdr objLanSessionHdr objLanMsgHdr objCmd)
include h

theorem Request.rmcpLen : rmcp.length = 4 := by
  have hsum := h.rmcpHolds.sum
  rw [show rmcpHdrLens.sum = 8 * 4 from rfl] at hsum
  omega

theorem Request.hdrLen : hdr.length = 5 := length_msgHdr h.hdrHolds

/-- What the assembler reads from the session header. -/
theorem Request.readSession : fiidObjGetStrict objLanSessionHdr "authentication_type"
      = .ok ((session.getD 0 0).setWidth 64) ∧
    fiidObjFieldLenBytes objLanSessionHdr "authentication_code" = .ok 0 ∧
    fiidObjGetData objLanSessionHdr "session_id" 1024 = .ok (session.drop 5) ∧
    fiidObjGetData objLanSessionHdr "session_sequence_number" 1024 = .ok ((session.drop 1).take 4) ∧
    ∀ dataLen, 9 ≤ dataLen →
      fiidObjGetBlock objLanSessionHdr "authentication_type" "session_id" dataLen
        = .ok (9, session ++ List.replicate (dataLen - 9) 0) := by
  obtain ⟨lens, rest, hset, hholds⟩ := h.sessionHolds
  obtain ⟨hptype, hcode, hpid, hpseq, hpblock⟩ := hset.places
  have hlen := h.sessionLen
  have hof := h.sessionOf
  refine ⟨?_, ?_, ?_, ?_, fun dataLen hroom => ?_⟩
  · have hbyte : (session ++ rest)[0]? = some (session.getD 0 0) := by
      rw [List.getElem?_append_left (by omega), List.getElem?_eq_getElem (by omega),
        List.getD_eq_getElem _ _ (by omega)]
    rw [hholds.getStrict hof hptype, valueAt_byte hbyte]
  · have hidx : tmplLanSessionHdr.fields.findIdx? (fun f => f.key = "authentication_code") = some 3 := by
      decide
    obtain ⟨f, hf, hzero⟩ := fieldAt_of_lens hof hholds.lens hidx hcode
    rw [fiidObjFieldLenBytes, hf.fieldLen, ok_bind, hzero]
    rfl
  · rw [hholds.getData hof hpid (by norm_num), List.drop_append_of_le_length (by omega),
      List.take_left' (by rw [List.length_drop]; omega)]
  · rw [hholds.getData hof hpseq (by norm_num), List.drop_append_of_le_length (by omega),
      List.take_append_of_le_length (by rw [List.length_drop]; omega)]
  · rw [hholds.getBlock hof hpblock hroom, List.drop_zero, List.take_left' hlen]

/-- The authentication code that is put into the gap. -/
theorem Request.authenticationCode {t : Byte} (ht : t = session.getD 0 0) (digests : Digests)
    (hsupported : authenticationTypeSupported t = true) (password msg : List Byte) :
    authenticationCode digests t objLanSessionHdr password msg
      = .ok (requestCode digests session password msg) := by
  obtain ⟨-, hcode, hid, hseq, -⟩ := h.readSession
  subst ht
  rw [requestCode, Lan.authenticationCode]
  by_cases hnone : session.getD 0 0 = ipmiAuthenticationTypeNone
  · rw [if_pos hnone, if_pos hnone]
    rfl
  · rw [if_neg hnone, if_neg hnone]
    simp only [hcode, hid, hseq, ok_bind, ne_eq, not_true_eq_false, if_false, authenticationCodeCalc]
    by_cases hstraight : session.getD 0 0 = ipmiAuthenticationTypeStraightPasswordKey
    · rw [if_pos hstraight, hstraight]
      rfl
    · rw [if_neg hstraight]
      by_cases hmd2 : session.getD 0 0 = ipmiAuthenticationTypeMd2
      · rw [if_pos hmd2, if_pos hmd2]
        rfl
      · have hmd5 : session.getD 0 0 = ipmiAuthenticationTypeMd5 := by
          by_contra hmd5
          exact hstraight (straight_of_supported hsupported hnone hmd2 hmd5)
        rw [if_neg hmd2, if_neg hmd2, if_pos hmd5]
        rfl

theorem Request.minSize {t : Byte} (hsupported : authenticationTypeSupported t = true) :
    ipmiLanPktRqMinSize t objCmd = .ok (20 + codeLen t + cmd.length) := by
  have hhdr : orTemplateInvalid (fiidTemplateLenBytes tmplLanMsgHdrRq) = .ok 5 := by decide
  have htrlr : orTemplateInvalid (fiidTemplateLenBytes tmplLanMsgTrlr) = .ok 1 := by decide
  simp only [authenticationTypeSupported, Bool.or_eq_true, beq_iff_eq] at hsupported
  rcases hsupported with ((rfl | rfl) | rfl) | rfl <;>
  · simp only [ipmiLanPktRqMinSize, lenBytes_rmcpHdr, hhdr, htrlr, blockLenBytes_session,
      fieldLenBytes_msgLen, h.cmd.lenBytes, ok_bind]
    exact congrArg Except.ok (Nat.add_right_cancel_iff.mpr (by decide))

theorem Request.length_msg : (requestMsg hdr cmd).length = 6 + cmd.length :=
  length_requestMsg h.hdrLen cmd

theorem Request.putMessage (ndebug : Bool) {a : List Byte} {k : ℕ} (hroom : 6 + cmd.length ≤ k) :
    putMessage ndebug (a ++ List.replicate k 0) a.length objLanMsgHdr objCmd
      = .ok ((a ++ requestMsg hdr cmd) ++ List.replicate (k - (requestMsg hdr cmd).length) 0,
        (a ++ requestMsg hdr cmd).length) :=
  putMessage_eq ndebug h.hdrOf h.hdrHolds hroom (h.cmd.getAll _ (by omega))

omit h in
/-- The gap behind the session header is filled at the end. -/
theorem fill_gap (pre msg zeros : List Byte) (msgLen : Byte) {code : List Byte} {c : ℕ}
    (hcode : code.length = c) :
    splice (splice (((pre ++ (List.replicate c 0 ++ [0])) ++ msg) ++ zeros) (pre.length + c) [msgLen])
        pre.length code
      = (pre ++ (code ++ ([msgLen] ++ msg))) ++ zeros := by
  have hlen : pre.length + c = (pre ++ List.replicate c (0 : Byte)).length := by simp
  have hsplit : ((pre ++ (List.replicate c 0 ++ [0])) ++ msg) ++ zeros
      = (pre ++ List.replicate c 0) ++ ([0] ++ (msg ++ zeros)) := by simp
  have hover : splice ((pre ++ List.replicate c 0) ++ ([0] ++ (msg ++ zeros)))
      (pre ++ List.replicate c (0 : Byte)).length [msgLen]
      = pre ++ (List.replicate c 0 ++ ([msgLen] ++ (msg ++ zeros))) := by
    rw [splice_over (show [(0 : Byte)].length = [msgLen].length from rfl), List.append_assoc]
  rw [hsplit, hlen, hover, splice_over (by rw [List.length_replicate, hcode])]
  simp

omit h in
theorem codeIndx (t : Byte) (i : ℕ) :
    (if t ≠ ipmiAuthenticationTypeNone then i + ipmi15MaxPasswordLength else i) = i + codeLen t := by
  rw [codeLen]
  by_cases hnone : t = ipmiAuthenticationTypeNone
  · rw [if_neg (not_not.mpr hnone), if_pos hnone, Nat.add_zero]
  · rw [if_pos hnone, if_neg hnone]

omit h in
/-- The zeros behind the session header, with the gap cut off. -/
theorem open_gap {pre : List Byte} {c k : ℕ} (hroom : c + 1 ≤ k) :
    pre ++ List.replicate k 0
      = (pre ++ (List.replicate c 0 ++ [0])) ++ List.replicate (k - (c + 1)) (0 : Byte) := by
  have hzeros : List.replicate k (0 : Byte)
      = List.replicate c 0 ++ (List.replicate 1 0 ++ List.replicate (k - (c + 1)) 0) := by
    rw [List.replicate_append_replicate, List.replicate_append_replicate]
    congr 1
    omega
  rw [hzeros]
  simp

/-- The buffer starts with the request. -/
theorem Request.assemble {ndebug : Bool} {pktLen n : ℕ} {flags : BitVec 32} {buf : List Byte}
    (hok : assembleIpmiLanPkt ndebug digests objRmcpHdr objLanSessionHdr objLanMsgHdr objCmd password
      pktLen flags = .ok (n, buf)) :
    password.length ≤ ipmi15MaxPasswordLength ∧ authenticationTypeSupported (session.getD 0 0) = true ∧
      buf.take n = requestPkt digests rmcp session hdr cmd password := by
  obtain ⟨htype, -, -, -, hblock⟩ := h.readSession
  have hrmcpLen := h.rmcpLen
  have hsessionLen := h.sessionLen
  rw [assembleIpmiLanPkt] at hok
  split at hok
  · cases hok
  rename_i hparams
  have hpw : password.length ≤ ipmi15MaxPasswordLength := Nat.not_lt.mp fun hlt => hparams (Or.inl hlt)
  obtain ⟨_, -, hok⟩ := bind_eq_ok.mp hok
  obtain ⟨_, -, hok⟩ := bind_eq_ok.mp hok
  obtain ⟨_, -, hok⟩ := bind_eq_ok.mp hok
  obtain ⟨_, -, hok⟩ := bind_eq_ok.mp hok
  obtain ⟨_, -, hok⟩ := bind_eq_ok.mp hok
  obtain ⟨_, -, hok⟩ := bind_eq_ok.mp hok
  simp only [htype, ok_bind, byte_setWidth] at hok
  obtain ⟨t, ht⟩ : ∃ t, t = session.getD 0 0 := ⟨_, rfl⟩
  rw [← ht] at hok ⊢
  split at hok
  · cases hok
  rename_i hsupported
  have hsupported : authenticationTypeSupported t = true := by simpa using hsupported
  rw [h.minSize hsupported, ok_bind] at hok
  split at hok
  · cases hok
  rename_i hsize
  have hroom : 20 + codeLen t + cmd.length ≤ pktLen := Nat.not_lt.mp hsize
  have hput1 := putAll_eq (a := []) (show rmcp.length ≤ pktLen by omega)
    (h.rmcpHolds.getAll_full h.rmcpOf (by decide) (by omega))
  have hput2 := putBlock_eq (a := rmcp) (show session.length ≤ pktLen - rmcp.length by omega)
    (by rw [hsessionLen]; exact hblock _ (by omega))
  simp only [List.nil_append, List.length_nil] at hput1
  rw [hput1, ok_bind] at hok
  simp only [hput2, ok_bind, fieldLenBytes_msgLen, codeIndx] at hok
  obtain ⟨pre, hpre⟩ : ∃ pre, pre = rmcp ++ session := ⟨_, rfl⟩
  obtain ⟨gap, hgap⟩ : ∃ gap, gap = List.replicate (codeLen t) 0 ++ [(0 : Byte)] := ⟨_, rfl⟩
  have hindx : pre.length + codeLen t + 1 = (pre ++ gap).length := by
    rw [hgap, List.length_append, List.length_append, List.length_replicate, List.length_singleton]
    omega
  have hput3 := h.putMessage ndebug (a := pre ++ gap)
    (k := pktLen - rmcp.length - session.length - (codeLen t + 1)) (by omega)
  rw [← hpre, open_gap (c := codeLen t) (by omega), ← hgap, hindx, hput3, ok_bind] at hok
  have hmsg : (((pre ++ gap ++ requestMsg hdr cmd) ++ List.replicate (pktLen - rmcp.length - session.length
      - (codeLen t + 1) - (requestMsg hdr cmd).length) 0).drop (pre ++ gap).length).take
        ((pre ++ gap ++ requestMsg hdr cmd).length - (pre ++ gap).length) = requestMsg hdr cmd := by
    rw [List.append_assoc (pre ++ gap), List.drop_left]
    refine List.take_left' ?_
    rw [List.length_append]
    omega
  have hcode : (requestCode digests session password (requestMsg hdr cmd)).length = codeLen t := by
    rw [length_requestCode hpw, ht]
  have hfill := fill_gap pre (requestMsg hdr cmd) (List.replicate (pktLen - rmcp.length - session.length
    - (codeLen t + 1) - (requestMsg hdr cmd).length) 0) (BitVec.ofNat 8 (requestMsg hdr cmd).length) hcode
  rw [← hgap] at hfill
  simp only [hmsg, h.authenticationCode ht digests hsupported, ok_bind, hfill] at hok
  rw [if_neg (by norm_num)] at hok
  split at hok
  · cases hok
  · cases hok
    refine ⟨hpw, hsupported, ?_⟩
    have hpkt : pre ++ (requestCode digests session password (requestMsg hdr cmd) ++
        ([BitVec.ofNat 8 (requestMsg hdr cmd).length] ++ requestMsg hdr cmd))
        = requestPkt digests rmcp session hdr cmd password := by
      rw [requestPkt, hpre, List.append_assoc]
    rw [hpkt]
    refine List.take_left' ?_
    rw [← hpkt, hgap]
    simp only [List.length_append, List.length_replicate, List.length_singleton, hcode]
    omega

/-- The request has the layout that the parser cuts. -/
theorem Request.layout (digests : Digests) (hpw : password.length ≤ ipmi15MaxPasswordLength) :
    authenticationTypeAt (requestPkt digests rmcp session hdr cmd password) = session.getD 0 0 ∧
      Layout (requestPkt digests rmcp session hdr cmd password) rmcp session
        (requestCode digests session password (requestMsg hdr cmd))
        (BitVec.ofNat 8 (requestMsg hdr cmd).length) hdr cmd (ipmiChecksum (hdr.drop 3 ++ cmd)) := by
  have htype : authenticationTypeAt (requestPkt digests rmcp session hdr cmd password)
      = session.getD 0 0 := by
    have hrmcp := h.rmcpLen
    have hsession := h.sessionLen
    rw [authenticationTypeAt, requestPkt, List.getD_eq_getElem?_getD,
      List.getElem?_append_right (by omega), hrmcp, List.getElem?_append_left (by omega),
      List.getD_eq_getElem?_getD]
  refine ⟨htype, rfl, h.rmcpLen, h.sessionLen, ?_, h.hdrLen⟩
  rw [htype, length_requestCode hpw]

theorem Request.checksum1 (hright : Checksum1Right objLanMsgHdr) :
    ipmiChecksum (hdr.take 2) = hdr.getD 2 0 := by
  obtain ⟨b, hblock, hget⟩ := hright
  have hlen := h.hdrLen
  have hx : hdr[2]? = some (hdr.getD 2 0) := by
    rw [List.getElem?_eq_getElem (by omega), List.getD_eq_getElem _ _ (by omega)]
  rw [h.hdrHolds.getBlock h.hdrOf (show blockPlace _ _ "rs_addr" "net_fn" = some (0, 2) by decide)
    le_rfl] at hblock
  rw [h.hdrHolds.getStrict h.hdrOf (show valuePlace _ _ "checksum1" = some (8 * 2, 8) by decide),
    valueAt_byte hx] at hget
  have hb : hdr.take 2 = b := by simpa using congrArg Prod.snd (Except.ok.inj hblock)
  have hsum := congrArg (BitVec.setWidth 8) (Except.ok.inj hget)
  rw [byte_setWidth, byte_setWidth] at hsum
  rw [hsum, hb]

omit h in
/-- The code in the request matches the password. -/
theorem requestCode_matches (hpw : password.length ≤ ipmi15MaxPasswordLength)
    (hsupported : authenticationTypeSupported (session.getD 0 0) = true) (msg : List Byte) :
    codeMatches digests session (requestCode digests session password msg) msg (session.getD 0 0) password
      = .ok true := by
  rw [Lan.codeMatches, requestCode, hsupported, if_neg (by simpa using hpw), if_neg (by simp)]
  split
  · rfl
  · simp

end Request

/-! ### The objects of a request -/

/-- The objects of a request. The set fields of the command are a prefix of its template. -/
structure RequestObjs (ndebug : Bool) (cmdTmpl : FiidTemplate)
    (objRmcpHdr objLanSessionHdr objLanMsgHdr objCmd : FiidObj) : Prop where
  rmcpHdr : Reachable ndebug tmplRmcpHdr objRmcpHdr
  sessionHdr : Reachable ndebug tmplLanSessionHdr objLanSessionHdr
  sessionSet : SessionSet objLanSessionHdr.lens
  msgHdr : Reachable ndebug tmplLanMsgHdrRq objLanMsgHdr
  checksum1 : Checksum1Right objLanMsgHdr
  cmd : Reachable ndebug cmdTmpl objCmd
  front : FrontFilled cmdTmpl.fields objCmd
  nonempty : 0 < fiidObjLen objCmd

/-- A valid session header without an authentication code is one for a request. -/
theorem sessionSet_of_packetValid {ndebug : Bool} {obj : FiidObj}
    (hr : Reachable ndebug tmplLanSessionHdr obj) (hvalid : fiidObjPacketValid obj = true)
    (hcode : fiidObjFieldLen obj "authentication_code" = .ok 0) : SessionSet obj.lens := by
  have hwf := hr.wf
  have hlen : obj.lens.length = 5 := by
    rw [FiidObj.lens, List.length_map, hwf.of.length]
    rfl
  have hat : ∀ (i : ℕ) (g : FiidField), tmplLanSessionHdr.fields[i]? = some g →
      g.flags = requiredFixed → obj.lens[i]? = some g.maxFieldLen := by
    intro i g hg hflags
    obtain ⟨f, hf⟩ : ∃ f, obj.fields[i]? = some f := by
      have hlt := (List.getElem?_eq_some_iff.mp hg).1
      rw [← hwf.of.length] at hlt
      exact ⟨_, List.getElem?_eq_getElem hlt⟩
    have hfg : f.toField = g := by
      rw [getElem?_toField hwf hf] at hg
      exact Option.some.inj hg
    have hfixed := (fixed_of_packetValid hvalid (List.mem_of_getElem? hf)
      (by rw [show f.flags = g.flags from congrArg FiidField.flags hfg, hflags]; decide)).1
      (by rw [show f.flags = g.flags from congrArg FiidField.flags hfg, hflags]; decide)
    rw [FiidObj.lens, List.getElem?_map, hf, Option.map_some, hfixed]
    exact congrArg some (congrArg FiidField.maxFieldLen hfg)
  have h3 : obj.lens[3]? = some 0 := by
    obtain ⟨f, hf⟩ := fieldAt_of_tmpl hwf.of
      (show tmplLanSessionHdr.fields.findIdx? (fun f => f.key = "authentication_code") = some 3 by decide)
    rw [hf.fieldLen] at hcode
    rw [FiidObj.lens, List.getElem?_map, hf.entry, Option.map_some]
    exact congrArg some (Except.ok.inj hcode)
  refine Or.inr (List.ext_getElem? fun i => ?_)
  rcases i with _ | _ | _ | _ | _ | i
  · exact hat 0 _ rfl rfl
  · exact hat 1 _ rfl rfl
  · exact hat 2 _ rfl rfl
  · exact h3
  · exact hat 4 _ rfl rfl
  · rw [List.getElem?_eq_none (by omega), List.getElem?_eq_none (by simp)]

section RequestObjs
variable {ndebug : Bool} {digests : Digests} {cmdTmpl : FiidTemplate} {password buf : List Byte}
  {pktLen n : ℕ} {flags : BitVec 32} {objRmcpHdr objLanSessionHdr objLanMsgHdr objCmd : FiidObj}

theorem valid_of_packetValidStrict {obj : FiidObj} (h : fiidObjPacketValidStrict obj = .ok ()) :
    fiidObjPacketValid obj = true := by
  rw [fiidObjPacketValidStrict] at h
  rw [fiidObjPacketValid]
  cases hv : packetValid obj false with
  | error e =>
    rw [hv] at h
    cases h
  | ok u => rfl

/-- The assembler has checked the headers and the command. -/
theorem valid_of_assemble (hok : assembleIpmiLanPkt ndebug digests objRmcpHdr objLanSessionHdr
    objLanMsgHdr objCmd password pktLen flags = .ok (n, buf)) :
    fiidObjPacketValid objRmcpHdr = true ∧ fiidObjPacketValid objLanMsgHdr = true ∧
      fiidObjPacketValid objCmd = true := by
  rw [assembleIpmiLanPkt] at hok
  split at hok
  · cases hok
  · obtain ⟨_, -, hok⟩ := bind_eq_ok.mp hok
    obtain ⟨_, -, hok⟩ := bind_eq_ok.mp hok
    obtain ⟨_, -, hok⟩ := bind_eq_ok.mp hok
    obtain ⟨_, hrmcp, hok⟩ := bind_eq_ok.mp hok
    obtain ⟨_, hhdr, hok⟩ := bind_eq_ok.mp hok
    obtain ⟨_, hcmd, -⟩ := bind_eq_ok.mp hok
    exact ⟨valid_of_packetValidStrict hrmcp, valid_of_packetValidStrict hhdr,
      valid_of_packetValidStrict hcmd⟩

/-- An object of a template without optional or variable fields, completely set. -/
theorem holds_of_packetValid {tmpl : FiidTemplate} {obj : FiidObj} (hwf : obj.Wf tmpl)
    (hvalid : fiidObjPacketValid obj = true)
    (hall : ∀ g ∈ tmpl.fields, fiidFieldLengthFlag g.flags = fiidFieldLengthFixed ∧
      fiidFieldRequiredFlag g.flags = fiidFieldRequired) :
    obj.Holds (tmpl.fields.map (·.maxFieldLen)) (pack obj.setBits) := by
  have hholds := holds_pack (setLen_of_packetValid hwf hvalid)
  rwa [lens_of_packetValid hwf hvalid hall] at hholds

theorem RequestObjs.request
    (h : RequestObjs ndebug cmdTmpl objRmcpHdr objLanSessionHdr objLanMsgHdr objCmd)
    (hok : assembleIpmiLanPkt ndebug digests objRmcpHdr objLanSessionHdr objLanMsgHdr objCmd password
      pktLen flags = .ok (n, buf)) :
    ∃ rmcp session hdr cmd, Request rmcp session hdr cmd objRmcpHdr objLanSessionHdr objLanMsgHdr objCmd ∧
      objCmd.Holds objCmd.lens cmd := by
  obtain ⟨hrmcp, hhdr, hcmd⟩ := valid_of_assemble hok
  have hmod : setLen objLanSessionHdr.fields % 8 = 0 := by
    rw [setLen_eq_sum, show objLanSessionHdr.fields.map _ = objLanSessionHdr.lens from rfl]
    rcases h.sessionSet with hlens | hlens <;> rw [hlens] <;> rfl
  have hsession := holds_pack hmod
  obtain ⟨b, hb⟩ : ∃ b, b = pack objLanSessionHdr.setBits := ⟨_, rfl⟩
  rw [← hb] at hsession
  have hlong : 9 ≤ b.length := by
    have hsum := hsession.sum
    rcases h.sessionSet with hlens | hlens <;> rw [hlens] at hsum <;>
      simp only [List.sum_cons, List.sum_nil] at hsum <;> omega
  have hpart := h.front.partAligned h.cmd.wf.of (setLen_of_packetValid h.cmd.wf hcmd)
  obtain ⟨cmd, hreads, hholds⟩ := reads_of_packetValid h.cmd.wf hpart hcmd
  refine ⟨_, b.take 9, _, cmd, ⟨h.rmcpHdr.wf.of, holds_of_packetValid h.rmcpHdr.wf hrmcp (by decide),
    h.sessionHdr.wf.of, ⟨_, b.drop 9, h.sessionSet, ?_⟩, ?_, h.msgHdr.wf.of,
    holds_of_packetValid h.msgHdr.wf hhdr (by decide), hreads⟩, hholds⟩
  · rw [List.take_append_drop]
    exact hsession
  · rw [List.length_take]
    omega

/-! ### The round trip -/

/-- Objects of the templates of a response. -/
structure LanObjs.Fit (ndebug : Bool) (cmdTmpl : FiidTemplate) (objs : LanObjs) : Prop where
  rmcpHdr : Reachable ndebug tmplRmcpHdr objs.rmcpHdr
  sessionHdr : Reachable ndebug tmplLanSessionHdr objs.sessionHdr
  msgHdr : Reachable ndebug tmplLanMsgHdrRs objs.msgHdr
  cmd : Reachable ndebug cmdTmpl objs.cmd
  msgTrlr : Reachable ndebug tmplLanMsgTrlr objs.msgTrlr

theorem LanObjs.Fit.passed {objs : LanObjs} (h : objs.Fit ndebug cmdTmpl) :
    objs.Passed ndebug cmdTmpl where
  rmcpHdr := ⟨_, h.rmcpHdr⟩
  sessionHdr := ⟨_, h.sessionHdr⟩
  msgHdr := ⟨_, h.msgHdr⟩
  cmd := h.cmd
  msgTrlr := ⟨_, h.msgTrlr⟩
  compared := by
    simp only [LanObjs.compareTemplates, h.rmcpHdr.wf.of.compare (show TemplateOk tmplRmcpHdr by decide),
      h.sessionHdr.wf.of.compare (show TemplateOk tmplLanSessionHdr by decide),
      h.msgHdr.wf.of.compare (show TemplateOk tmplLanMsgHdrRs by decide),
      h.msgTrlr.wf.of.compare (show TemplateOk tmplLanMsgTrlr by decide), ok_bind]

/-- The objects after the walk are still of their templates. -/
structure LanObjs.FitWf (cmdTmpl : FiidTemplate) (objs : LanObjs) : Prop where
  rmcpHdr : objs.rmcpHdr.Wf tmplRmcpHdr
  sessionHdr : objs.sessionHdr.Wf tmplLanSessionHdr
  msgHdr : objs.msgHdr.Wf tmplLanMsgHdrRs
  cmd : objs.cmd.Wf cmdTmpl
  msgTrlr : objs.msgTrlr.Wf tmplLanMsgTrlr

theorem Walked.fitWf {pkt : List Byte} {objs : LanObjs} {w : Walk} (h : objs.Fit ndebug cmdTmpl)
    (hw : Walked pkt cmdTmpl.fields objs.flags w) : w.objs.FitWf cmdTmpl := by
  have hflags := hw.flags
  simp only [LanObjs.flags, List.cons.injEq, and_true] at hflags
  obtain ⟨h1, h2, h3, h4, h5⟩ := hflags
  have hwf : ∀ {tmpl : FiidTemplate} {obj obj' : FiidObj}, Reachable ndebug tmpl obj →
      obj'.terminatorFlags = obj.terminatorFlags → obj'.Of tmpl.fields → obj'.Wf tmpl := by
    intro tmpl obj obj' hr hfl hof
    have htf : obj'.terminatorFlags = tmpl.terminatorFlags := by rw [hfl, hr.wf.flags]
    rw [FiidObj.Of, htf] at hof
    exact hof
  exact ⟨hwf h.rmcpHdr h1 hw.rmcpHdr, hwf h.sessionHdr h2 hw.sessionHdr, hwf h.msgHdr h3 hw.msgHdr,
    hwf h.cmd h4 hw.cmd, hwf h.msgTrlr h5 hw.msgTrlr⟩

/-- What a received request has in common with the one that was sent: the same headers and command,
    but for the message length, which the assembler computes. -/
structure Received (objRmcpHdr objLanSessionHdr objLanMsgHdr objCmd : FiidObj) (objs : LanObjs) : Prop where
  rmcpHdr : objRmcpHdr.SameFields objs.rmcpHdr
  sessionHdr : ∀ field ∈ ["authentication_type", "session_sequence_number", "session_id"],
    ∃ val, fiidObjGetStrict objLanSessionHdr field = .ok val ∧
      fiidObjGetStrict objs.sessionHdr field = .ok val
  msgLen : fiidObjGetStrict objs.sessionHdr "ipmi_msg_len"
    = .ok ((BitVec.ofNat 8 (6 + fiidObjLen objCmd / 8)).setWidth 64)
  msgHdr : objLanMsgHdr.SameFields objs.msgHdr
  cmd : objCmd.SameFields objs.cmd

theorem valid_of_supported {t : Byte} (h : authenticationTypeSupported t = true) :
    ipmi15AuthenticationTypeValid t = true := by
  rw [ipmi15AuthenticationTypeValid]
  rw [authenticationTypeSupported] at h
  rw [h, Bool.true_or]

/-- The bits in front of a byte are the same, whatever follows. -/
theorem valueAt_append {a b : List Byte} {offset len : ℕ} (h : offset + len ≤ 8 * a.length) :
    valueAt (a ++ b) offset len = valueAt a offset len := by
  rw [valueAt, valueAt, window_append_left h]

theorem RequestObjs.received {pkt rmcp session hdr cmd code : List Byte} {msgLen checksum : Byte} {m : ℕ}
    {fl : List (BitVec 32)} {w : Walk}
    (h : RequestObjs ndebug cmdTmpl objRmcpHdr objLanSessionHdr objLanMsgHdr objCmd)
    (h' : Request rmcp session hdr cmd objRmcpHdr objLanSessionHdr objLanMsgHdr objCmd)
    (hcmd : objCmd.Holds objCmd.lens cmd) (hlen : msgLen = BitVec.ofNat 8 (requestMsg hdr cmd).length)
    (hw : AtEnd pkt cmdTmpl.fields fl (authenticationTypeAt pkt) m w)
    (hl : Layout pkt rmcp session code msgLen hdr cmd checksum)
    (hp : Parsed session code msgLen hdr cmd checksum w.objs.sessionHdr w.objs.msgHdr w.objs.cmd
      w.objs.msgTrlr) :
    Received objRmcpHdr objLanSessionHdr objLanMsgHdr objCmd w.objs := by
  have hsessionLen := h'.sessionLen
  refine ⟨?_, fun field hfield => ?_, ?_, h'.hdrHolds.sameFields hp.hdrHolds, ?_⟩
  · have hrmcp := hw.contents.rmcpHdr
    rw [hl.eq, List.take_left' hl.rmcp] at hrmcp
    exact h'.rmcpHolds.sameFields hrmcp
  · obtain ⟨lens, rest, hset, hholds⟩ := h'.sessionHolds
    have hplaces : ∃ offset len, offset + len ≤ 72 ∧
        valuePlace tmplLanSessionHdr.fields lens field = some (offset, len) ∧
        valuePlace tmplLanSessionHdr.fields (sessionLens (session.getD 0 0)) field = some (offset, len) := by
      have hlist : ∀ lens, SessionSet lens ∨ lens = sessionLens (session.getD 0 0) →
          valuePlace tmplLanSessionHdr.fields lens "authentication_type" = some (0, 8) ∧
          valuePlace tmplLanSessionHdr.fields lens "session_sequence_number" = some (8, 32) ∧
          valuePlace tmplLanSessionHdr.fields lens "session_id" = some (40, 32) := by
        rintro lens ((rfl | rfl) | rfl)
        · decide
        · decide
        · rw [sessionLens]
          rcases codeLen_le (session.getD 0 0) with hc | hc <;> rw [hc] <;> decide
      obtain ⟨h1, h2, h3⟩ := hlist lens (Or.inl hset)
      obtain ⟨h1', h2', h3'⟩ := hlist _ (Or.inr rfl)
      simp only [List.mem_cons, List.not_mem_nil, or_false] at hfield
      rcases hfield with rfl | rfl | rfl
      · exact ⟨0, 8, by norm_num, h1, h1'⟩
      · exact ⟨8, 32, by norm_num, h2, h2'⟩
      · exact ⟨40, 32, by norm_num, h3, h3'⟩
    obtain ⟨offset, len, hle, hplace, hplace'⟩ := hplaces
    refine ⟨valueAt session offset len, ?_, ?_⟩
    · rw [hholds.getStrict h'.sessionOf hplace, valueAt_append (by omega)]
    · rw [hp.sessionHolds.getStrict hp.sessionOf hplace', valueAt_append (by omega)]
  · have hcode := hp.codeLen
    have hplace : valuePlace tmplLanSessionHdr.fields (sessionLens (session.getD 0 0)) "ipmi_msg_len"
        = some (8 * (9 + code.length), 8) := by
      rw [sessionLens, hcode]
      rcases codeLen_le (session.getD 0 0) with hc | hc <;> rw [hc] <;> decide
    have hbyte : (session ++ (code ++ [msgLen]))[9 + code.length]? = some msgLen := by
      rw [List.getElem?_append_right (by omega), List.getElem?_append_right (by omega), hsessionLen,
        Nat.add_sub_cancel_left, Nat.sub_self]
      rfl
    have hbits : fiidObjLen objCmd = 8 * cmd.length := hcmd.setLen
    rw [hp.sessionHolds.getStrict hp.sessionOf hplace, valueAt_byte hbyte, hlen, h'.length_msg, hbits,
      Nat.mul_div_cancel_left _ (by norm_num)]
  · obtain ⟨obj, hof, hunset, hfill⟩ := hw.cmd
    have hcall := hfill.call
    rw [hl.cmdBytes] at hcall
    obtain ⟨obj', hcall', hlens, hbits⟩ := h.front.setAll h.cmd.wf.of hcmd hof hunset
    rw [hcall] at hcall'
    cases hcall'
    exact ⟨hlens, hbits⟩

/-- A request whose checksum is right, and whose command is set from the front, is parsed back into the
    same headers and command, and passes all checks with the same password. -/
theorem assembleIpmiLanPkt_roundTrip {objs : LanObjs} {parseFlags : BitVec 32}
    (h : RequestObjs ndebug cmdTmpl objRmcpHdr objLanSessionHdr objLanMsgHdr objCmd)
    (hfit : objs.Fit ndebug cmdTmpl)
    (hflags : parseFlags &&& ~~~ ipmiInterfaceFlagsNoLegalCheck = 0)
    (hok : assembleIpmiLanPkt ndebug digests objRmcpHdr objLanSessionHdr objLanMsgHdr objCmd password
      pktLen flags = .ok (n, buf)) :
    ∃ objs' authenticationType,
      unassembleIpmiLanPkt (buf.take n) objs parseFlags = .ok (true, objs') ∧
      Received objRmcpHdr objLanSessionHdr objLanMsgHdr objCmd objs' ∧
      authenticationTypeOf objLanSessionHdr = .ok authenticationType ∧
      ipmiLanCheckChecksum objs'.msgHdr objs'.cmd objs'.msgTrlr = .ok true ∧
      ipmiLanCheckPacketChecksum (buf.take n) = .ok true ∧
      ipmiLanCheckSessionAuthenticationCode digests objs'.sessionHdr objs'.msgHdr objs'.cmd
        objs'.msgTrlr authenticationType password = .ok true ∧
      ipmiLanCheckPacketSessionAuthenticationCode digests (buf.take n) authenticationType password
        = .ok true := by
  obtain ⟨rmcp, session, hdr, cmd, hreq, hcmd⟩ := h.request hok
  obtain ⟨hpw, hsupported, hbuf⟩ := hreq.assemble hok
  obtain ⟨htype, hl⟩ := hreq.layout digests hpw
  rw [hbuf]
  obtain ⟨pkt, hpkt⟩ : ∃ pkt, pkt = requestPkt digests rmcp session hdr cmd password := ⟨_, rfl⟩
  rw [← hpkt] at htype hl ⊢
  have hbits : fiidObjLen objCmd = 8 * cmd.length := hcmd.setLen
  have hnonempty := h.nonempty
  have hreach : ReachesCmd pkt := by
    refine ⟨?_, ?_⟩
    · rw [htype]
      exact valid_of_supported hsupported
    · have := hl.length
      omega
  have hends : EndsByteAligned cmdTmpl.fields (cmdBytes pkt (authenticationTypeAt pkt)).length := by
    have hfront := h.front.ends
    rwa [hbits, Nat.mul_div_cancel_left _ (by norm_num), ← hl.cmdBytes] at hfront
  obtain ⟨accepted, w, hcall, hw⟩ := hfit.passed.returns hflags (fun _ => hends)
  rcases hw with ⟨m, hw, hacc⟩ | ⟨⟨-, hnot⟩, -⟩
  swap
  · exact absurd hreach hnot
  have hwf := hw.walked.fitWf hfit
  have hrmcpValid : fiidObjPacketValid w.objs.rmcpHdr = true := by
    rw [packetValid_of_lens hwf.rmcpHdr hw.rmcpHdr]
    decide
  have hsessionValid : fiidObjPacketValid w.objs.sessionHdr = true := by
    rw [packetValid_of_lens hwf.sessionHdr hw.sessionHdr, sessionLens]
    rcases codeLen_le (authenticationTypeAt pkt) with hc | hc <;> rw [hc] <;> decide
  have hhdrValid : fiidObjPacketValid w.objs.msgHdr = true := by
    rw [packetValid_of_lens hwf.msgHdr hw.msgHdr]
    decide
  have htrlrValid : fiidObjPacketValid w.objs.msgTrlr = true := by
    rw [packetValid_of_lens hwf.msgTrlr hw.msgTrlr]
    decide
  have hp := hw.parsed hl (hcmd.le_bitLen h.cmd.wf.of) hsessionValid hhdrValid htrlrValid
  have hrecv := h.received hreq hcmd rfl hw hl hp
  have hcmdValid : fiidObjPacketValid w.objs.cmd = true := by
    rw [packetValid_of_lens hwf.cmd hrecv.cmd.lens, ← packetValid_of_lens h.cmd.wf rfl]
    exact (valid_of_assemble hok).2.2
  have hsufficient : fiidObjPacketSufficient w.objs.cmd = true := by
    rw [fiidObjPacketValid] at hcmdValid
    rw [fiidObjPacketSufficient, hcmdValid]
    simp
  have haccepted : accepted = true := by
    rw [hacc, LanObjs.accepted, hrmcpValid, hsessionValid, hhdrValid, hsufficient, htrlrValid]
    simp
  have hsums : checksumsMatch hdr cmd (ipmiChecksum (hdr.drop 3 ++ cmd)) = true := by
    rw [checksumsMatch, hreq.checksum1 h.checksum1]
    simp
  refine ⟨w.objs, session.getD 0 0, by rw [hcall, haccepted], hrecv, ?_, ?_, ?_, ?_, ?_⟩
  · rw [authenticationTypeOf, hreq.readSession.1, ok_bind, byte_setWidth]
    rfl
  · rw [ipmiLanCheckChecksum_eq hp.hdrOf hp.hdrHolds hp.hdrLen hp.cmd hp.trlrOf hp.trlrHolds, hsums]
  · rw [ipmiLanCheckPacketChecksum_eq hl, hsums]
  · rw [hp.checkAuthenticationCode]
    exact requestCode_matches hpw hsupported _
  · rw [hl.checkAuthenticationCode]
    exact requestCode_matches hpw hsupported _

end RequestObjs

/-! ### Requests -/

/-- `tmpl_cmd_get_device_id_rq`. -/
def tmplCmdGetDeviceIdRq : FiidTemplate where
  fields := [⟨8, "cmd", requiredFixed, .refl true⟩]

/-- `tmpl_cmd_platform_event_rq`. -/
def tmplCmdPlatformEventRq : FiidTemplate where
  fields :=
    [⟨8, "cmd", requiredFixed, .refl true⟩,
     ⟨8, "generator_id", optionalFixed, .refl true⟩,
     ⟨8, "event_message_format_version", requiredFixed, .refl true⟩,
     ⟨8, "sensor_type", requiredFixed, .refl true⟩,
     ⟨8, "sensor_number", requiredFixed, .refl true⟩,
     ⟨7, "event_type_code", requiredFixed, .refl true⟩,
     ⟨1, "event_dir", requiredFixed, .refl true⟩,
     ⟨8, "event_data1", requiredFixed, .refl true⟩,
     ⟨8, "event_data2", requiredFixed, .refl true⟩,
     ⟨8, "event_data3", requiredFixed, .refl true⟩]

/-- The object after some calls, starting with a new one. -/
def builtObj (tmpl : FiidTemplate) (dataLen : ℕ) (ops : List FiidOp) : FiidObj :=
  (FiidOp.runs ops (createdObj tmpl dataLen false)).getD (createdObj tmpl dataLen false)

theorem builtObj_reachable {ndebug : Bool} {tmpl : FiidTemplate} {dataLen : ℕ} (ops : List FiidOp)
    (hcreate : fiidObjCreate ndebug tmpl = some (createdObj tmpl dataLen false)) :
    Reachable ndebug tmpl (builtObj tmpl dataLen ops) := by
  rw [builtObj]
  cases hruns : FiidOp.runs ops (createdObj tmpl dataLen false) with
  | none => exact .create hcreate
  | some obj => exact Reachable.runs (.create hcreate) hruns

def sentRmcpHdr : FiidObj := builtObj tmplRmcpHdr 4 [.setAll [6, 0, 0xff, 7]]

/-- A session header with the straight password and a message length that is not right. -/
def sentSessionHdr : FiidObj := builtObj tmplLanSessionHdr 26
  [.setBlock "authentication_type" "session_id" [4, 1, 0, 0, 0, 0x78, 0x56, 0x34, 0x12],
   .setData "ipmi_msg_len" [99]]

/-- A message header with the given checksum; the right one is `0xc8`. -/
def sentMsgHdr (checksum1 : Byte) : FiidObj :=
  builtObj tmplLanMsgHdrRq 5 [.setAll [0x20, 0x18, checksum1, 0x81, 0x04]]

def sentGetDeviceId : FiidObj := builtObj tmplCmdGetDeviceIdRq 1 [.setAll [0x01]]

/-- A platform event without the optional generator id. -/
def sentPlatformEvent : FiidObj := builtObj tmplCmdPlatformEventRq 9
  [.setBlock "cmd" "cmd" [0x02],
   .setBlock "event_message_format_version" "event_data3" [0x04, 0x01, 0x30, 0x01, 0x59, 0x50, 0x4b]]

/-- New objects for a response with the given command. -/
def receivingObjs (cmdTmpl : FiidTemplate) (dataLen : ℕ) : LanObjs where
  rmcpHdr := createdObj tmplRmcpHdr 4 false
  sessionHdr := createdObj tmplLanSessionHdr 26 false
  msgHdr := createdObj tmplLanMsgHdrRs 5 false
  cmd := createdObj cmdTmpl dataLen false
  msgTrlr := createdObj tmplLanMsgTrlr 1 false

theorem receivingObjs_fit : (receivingObjs tmplCmdGetDeviceIdRq 1).Fit false tmplCmdGetDeviceIdRq where
  rmcpHdr := .create (by decide)
  sessionHdr := .create (by decide)
  msgHdr := .create (by decide)
  cmd := .create (by decide)
  msgTrlr := .create (by decide)

def sentPassword : List Byte := [0x70, 0x77]

theorem sentGetDeviceId_objs : RequestObjs false tmplCmdGetDeviceIdRq sentRmcpHdr sentSessionHdr
    (sentMsgHdr 0xc8) sentGetDeviceId where
  rmcpHdr := builtObj_reachable _ (by decide)
  sessionHdr := builtObj_reachable _ (by decide)
  sessionSet := Or.inr (by decide)
  msgHdr := builtObj_reachable _ (by decide)
  checksum1 := ⟨[0x20, 0x18], by rfl, by rfl⟩
  cmd := builtObj_reachable _ (by decide)
  front := ⟨by decide, by decide⟩
  nonempty := by decide

theorem assembleIpmiLanPkt_roundTrip_getDeviceId : ∃ buf,
    assembleIpmiLanPkt false zeroDigests sentRmcpHdr sentSessionHdr (sentMsgHdr 0xc8) sentGetDeviceId
      sentPassword 40 0 = .ok (37, buf) ∧
    ∃ objs' authenticationType,
      unassembleIpmiLanPkt (buf.take 37) (receivingObjs tmplCmdGetDeviceIdRq 1) 0 = .ok (true, objs') ∧
      Received sentRmcpHdr sentSessionHdr (sentMsgHdr 0xc8) sentGetDeviceId objs' ∧
      authenticationTypeOf sentSessionHdr = .ok authenticationType ∧
      ipmiLanCheckChecksum objs'.msgHdr objs'.cmd objs'.msgTrlr = .ok true ∧
      ipmiLanCheckPacketChecksum (buf.take 37) = .ok true ∧
      ipmiLanCheckSessionAuthenticationCode zeroDigests objs'.sessionHdr objs'.msgHdr objs'.cmd
        objs'.msgTrlr authenticationType sentPassword = .ok true ∧
      ipmiLanCheckPacketSessionAuthenticationCode zeroDigests (buf.take 37) authenticationType
        sentPassword = .ok true := by
  have hok : ∃ buf, assembleIpmiLanPkt false zeroDigests sentRmcpHdr sentSessionHdr (sentMsgHdr 0xc8)
      sentGetDeviceId sentPassword 40 0 = .ok (37, buf) := ⟨_, by rfl⟩
  obtain ⟨buf, hok⟩ := hok
  exact ⟨buf, hok, assembleIpmiLanPkt_roundTrip sentGetDeviceId_objs receivingObjs_fit (by decide) hok⟩

/-- Valid requests that do not come back as they were. A parser with the header of the request fails;
    one with the header of a response returns 1, but not with the message length of the session header
    that was sent, and a wrong first checksum is found wrong; a command with a gap is not accepted. -/
theorem assembleIpmiLanPkt_not_roundTrip :
    (fiidObjPacketValid sentRmcpHdr = true ∧ fiidObjPacketValid sentSessionHdr = true ∧
      fiidObjFieldLen sentSessionHdr "authentication_code" = .ok 0 ∧
      fiidObjPacketValid (sentMsgHdr 0) = true ∧ fiidObjPacketValid sentGetDeviceId = true ∧
      fiidObjPacketValid sentPlatformEvent = true) ∧
    (∃ buf, assembleIpmiLanPkt false zeroDigests sentRmcpHdr sentSessionHdr (sentMsgHdr 0)
        sentGetDeviceId sentPassword 40 0 = .ok (37, buf) ∧
      unassembleIpmiLanPkt (buf.take 37) { receivingObjs tmplCmdGetDeviceIdRq 1 with
        msgHdr := createdObj tmplLanMsgHdrRq 5 false } 0 = .error (.fiid .notIdentical) ∧
      ∃ objs', unassembleIpmiLanPkt (buf.take 37) (receivingObjs tmplCmdGetDeviceIdRq 1) 0
          = .ok (true, objs') ∧
        fiidObjGetStrict sentSessionHdr "ipmi_msg_len" = .ok 99 ∧
        fiidObjGetStrict objs'.sessionHdr "ipmi_msg_len" = .ok 7 ∧
        ipmiLanCheckChecksum objs'.msgHdr objs'.cmd objs'.msgTrlr = .ok false ∧
        ipmiLanCheckPacketChecksum (buf.take 37) = .ok false) ∧
    ∃ buf objs', assembleIpmiLanPkt false zeroDigests sentRmcpHdr sentSessionHdr (sentMsgHdr 0xc8)
        sentPlatformEvent sentPassword 50 0 = .ok (44, buf) ∧
      unassembleIpmiLanPkt (buf.take 44) (receivingObjs tmplCmdPlatformEventRq 9) 0
        = .ok (false, objs') := by
  refine ⟨⟨by decide, by decide, by decide, by decide, by decide, by decide⟩, ⟨_, by rfl, by rfl, _,
    by rfl, by rfl, by rfl, by rfl, by rfl⟩, _, _, by rfl, by rfl⟩

end FreeIpmi.Lan
