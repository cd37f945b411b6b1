import FreeIpmi.Fiid.Bytes
import FreeIpmi.Lan.Parse
import FreeIpmi.Rmcpplus.Lengths

/-! Which packets `unassemble_ipmi_rmcpplus_pkt` answers with 1 or 0.

    The walk through the headers never fails. Behind them the packet chooses what is done with the
    objects and the key that the caller has: the payload type chooses the templates, and the
    decryption is entered for every payload of a session with a cipher, whether the packet is marked
    as encrypted or not. -/

namespace FreeIpmi.Rmcpplus
open Fiid Calls Stages ByteBits Lan

/-! ### The session header of a packet -/

/-- The bytes of the session header. -/
def headerBytes (pkt : List Byte) : List Byte := (pkt.drop 4).take 12

/-- The session header of a packet. -/
def headerAt (pkt : List Byte) : SessionHdr where
  payloadType := (valueAt (headerBytes pkt) 8 6).setWidth 8
  payloadAuthenticated := valueAt (headerBytes pkt) 14 1 ≠ 0
  payloadEncrypted := valueAt (headerBytes pkt) 15 1 ≠ 0
  sessionId := (valueAt (headerBytes pkt) 16 32).setWidth 32
  sessionSequenceNumber := (valueAt (headerBytes pkt) 48 32).setWidth 32
  ipmiPayloadLen := ((valueAt (headerBytes pkt) 80 16).setWidth 16).toNat

/-- A payload type that can be parsed. -/
def ResponseType (payloadType : Byte) : Prop :=
  payloadType = ipmiPayloadTypeIpmi ∨ payloadType = ipmiPayloadTypeSol
    ∨ payloadType = ipmiPayloadTypeRmcpplusOpenSessionResponse
    ∨ payloadType = ipmiPayloadTypeRakpMessage2 ∨ payloadType = ipmiPayloadTypeRakpMessage4

/-- The headers are complete, and make sense in the session. -/
structure Readable (algorithms : Algorithms) (pkt : List Byte) : Prop where
  long : 16 < pkt.length
  response : ResponseType (headerAt pkt).payloadType
  wellFormed : (headerAt pkt).malformed algorithms = false

/-- The walk through the headers: of the session header the fields in front of number `k` are filled, up to
    byte `n` of the packet. -/
structure InHeader (pkt : List Byte) (objs : RmcpplusObjs) (k n : ℕ) (lens : List ℕ) (w : RmcpplusWalk) :
    Prop where
  frame : w.objs = { objs with rmcpHdr := w.objs.rmcpHdr, sessionHdr := w.objs.sessionHdr }
  of : w.objs.sessionHdr.Of tmplRmcpplusSessionHdr.fields
  indx : w.indx = min n pkt.length
  unset : w.objs.sessionHdr.UnsetFrom k
  bits : w.objs.sessionHdr.setBits = window (pkt.drop 4) 0 (8 * (w.indx - 4))
  lens : n ≤ pkt.length → w.objs.sessionHdr.lens = lens

section Header
variable {pkt : List Byte} {objs : RmcpplusObjs} {algorithms : Algorithms}

theorem rmcpHdrStage_ensures (hrmcp : objs.rmcpHdr.Of tmplRmcpHdr.fields) (hunset : objs.rmcpHdr.Unset)
    (hof : objs.sessionHdr.Of tmplRmcpplusSessionHdr.fields) (hempty : objs.sessionHdr.Unset)
    {R : RmcpplusWalk → Prop} : Ensures (fun w => w = ⟨0, objs⟩) (rmcpHdrStage pkt)
      (InHeader pkt objs 0 4 (List.replicate 11 0)) R := by
  rintro w rfl
  obtain ⟨obj', n, hcall, hfill⟩ := trySetAll_filled hrmcp hunset (endsByteAligned_rmcpHdr pkt.length)
  have hlen := hfill.len
  rw [show bitLen tmplRmcpHdr.fields = 32 from rfl] at hlen
  refine Or.inl ⟨⟨0 + n, { objs with rmcpHdr := obj' }⟩, ?_, ⟨rfl, hof, ?_, hempty.unsetFrom 0, ?_, ?_⟩⟩
  · simp only [rmcpHdrStage, List.drop_zero, hcall, call_ok, ok_bind]
    rfl
  · show 0 + n = _
    omega
  · have hzero : 0 + n - 4 = 0 := by omega
    rw [hempty.setBits, hzero, Nat.mul_zero, window_zero]
  · intro _
    have hmap : objs.sessionHdr.lens = objs.sessionHdr.fields.map fun _ => 0 :=
      List.map_congr_left hempty
    rw [hmap, List.map_const', FiidObj.Wf.length hof]
    rfl

theorem moreStage_ensures {P R : RmcpplusWalk → Prop}
    (h : ∀ w, P w → pkt.length ≤ w.indx → R w) :
    Ensures P (moreStage pkt) (fun w => P w ∧ w.indx < pkt.length) R := by
  intro w hw
  rcases Nat.lt_or_ge w.indx pkt.length with hlt | hge
  · exact Or.inl ⟨w, if_neg (by omega), hw, hlt⟩
  · exact Or.inr ⟨w, if_pos hge, h w hw hge⟩

/-- A block of the session header: where it stands, and that data for it never ends inside a byte. -/
structure HeaderBlock (fieldStart fieldEnd : String) (first last : ℕ) : Prop where
  start : tmplRmcpplusSessionHdr.fields.findIdx? (fun f => f.key = fieldStart) = some first
  stop : tmplRmcpplusSessionHdr.fields.findIdx? (fun f => f.key = fieldEnd) = some last
  le : first ≤ last
  startAligned : bitLen (tmplRmcpplusSessionHdr.fields.take first) % 8 = 0
  endAligned : bitLen (tmplRmcpplusSessionHdr.fields.take (last + 1)) % 8 = 0
  aligned : ∀ m, 0 < m → EndsByteAligned (fieldBlock tmplRmcpplusSessionHdr.fields first last) m

theorem HeaderBlock.blockAt {fieldStart fieldEnd : String} {first last : ℕ}
    (h : HeaderBlock fieldStart fieldEnd first last) {obj : FiidObj}
    (hof : obj.Of tmplRmcpplusSessionHdr.fields) : BlockAt obj fieldStart fieldEnd first last :=
  ⟨fieldAt_of_tmpl hof h.start, fieldAt_of_tmpl hof h.stop, h.le,
    by rw [bitStart_eq hof]; exact h.startAligned, by rw [bitStart_eq hof]; exact h.endAligned⟩

theorem sessionHdrStage_ensures {fieldStart fieldEnd : String} {first last k n : ℕ} {lens : List ℕ} (m : ℕ)
    (h : HeaderBlock fieldStart fieldEnd first last) (hk : k ≤ first) (hn : 4 ≤ n)
    (hm : bitLen (fieldBlock tmplRmcpplusSessionHdr.fields first last) = 8 * m) (hpos : 0 < m)
    {R : RmcpplusWalk → Prop} :
    Ensures (fun w => InHeader pkt objs k n lens w ∧ w.indx < pkt.length)
      (sessionHdrStage pkt fieldStart fieldEnd)
      (InHeader pkt objs (last + 1) (n + m) (lens.take first ++
        (fieldBlock tmplRmcpplusSessionHdr.fields first last).map (·.maxFieldLen) ++
          lens.drop (last + 1))) R := by
  rintro w ⟨hw, hmore⟩
  have hindx : w.indx = n := by
    have := hw.indx
    omega
  have hlong : n < pkt.length := hindx ▸ hmore
  have hdrop : (pkt.drop w.indx).length = pkt.length - n := by rw [List.length_drop, hindx]
  obtain ⟨obj', c, hcall, hfill⟩ := trySetBlock_filled (d := pkt.drop w.indx) hw.of (h.blockAt hw.of)
    (hw.unset.mono hk) (h.aligned _ (by rw [hdrop]; omega))
  have hlen := hfill.len
  rw [hm, hdrop] at hlen
  refine Or.inl ⟨⟨w.indx + c, { w.objs with sessionHdr := obj' }⟩, ?_,
    ⟨?_, hfill.of, ?_, hfill.unset, ?_, ?_⟩⟩
  · simp only [sessionHdrStage, hcall, call_ok, ok_bind]
    rfl
  · rw [hw.frame]
  · show w.indx + c = _
    omega
  · show obj'.setBits = window (pkt.drop 4) 0 (8 * (w.indx + c - 4))
    have hsplit : w.indx + c - 4 = (w.indx - 4) + c := by omega
    have hrest : pkt.drop w.indx = (pkt.drop 4).drop (w.indx - 4) := by
      rw [List.drop_drop, Nat.add_sub_cancel' (by omega)]
    rw [hfill.bits, hw.bits, hsplit, hrest, window_extend]
  · intro hle
    rw [hfill.full (by rw [hm, hdrop]; omega), hw.lens hlong.le]

/-- What the object of the session header holds. -/
theorem InHeader.holds {k n : ℕ} {lens : List ℕ} {w : RmcpplusWalk} (hw : InHeader pkt objs k n lens w)
    (hle : n ≤ pkt.length) (hn : 4 ≤ n) :
    w.objs.sessionHdr.Holds lens ((pkt.drop 4).take (n - 4)) := by
  have hindx := hw.indx
  have hlen : ((pkt.drop 4).take (n - 4)).length = n - 4 := by
    rw [List.length_take, List.length_drop]
    omega
  refine ⟨hw.lens hle, ?_⟩
  rw [hw.bits, hlen, hindx, min_eq_left hle]
  exact window_congr fun k hk => by rw [bit_take (by omega)]

/-- The first bits of the header do not need the others. -/
theorem valueAt_take {offset len m : ℕ} (h : offset + len ≤ 8 * m) (hm : m ≤ 12) :
    valueAt ((pkt.drop 4).take m) offset len = valueAt (headerBytes pkt) offset len := by
  have hwindow : window ((pkt.drop 4).take m) offset len = window (headerBytes pkt) offset len :=
    window_congr fun k hk => by rw [headerBytes, bit_take (by omega), bit_take (by omega)]
  rw [valueAt, valueAt, hwindow]

/-- The lengths of the first block. -/
def typeLens : List ℕ := [4, 4, 6, 1, 1, 0, 0, 0, 0, 0, 0]

/-- The lengths of a complete header. -/
def hdrLens : List ℕ := [4, 4, 6, 1, 1, 0, 0, 0, 32, 32, 16]

theorem InHeader.payloadType {w : RmcpplusWalk} (hw : InHeader pkt objs 5 6 typeLens w)
    (hle : 6 ≤ pkt.length) :
    payloadTypeOf w.objs.sessionHdr = .ok (headerAt pkt).payloadType := by
  have hplace : valuePlace tmplRmcpplusSessionHdr.fields typeLens "payload_type" = some (8, 6) := by decide
  rw [payloadTypeOf, (hw.holds hle (by norm_num)).getStrict hw.of hplace, ok_bind,
    valueAt_take (by norm_num) (by norm_num)]
  rfl

theorem InHeader.sessionHdr {w : RmcpplusWalk} (hw : InHeader pkt objs 11 16 hdrLens w)
    (hle : 16 ≤ pkt.length) : sessionHdrOf w.objs.sessionHdr = .ok (headerAt pkt) := by
  have hholds := hw.holds hle (by norm_num)
  have hget : ∀ {field : String} {offset len : ℕ},
      valuePlace tmplRmcpplusSessionHdr.fields hdrLens field = some (offset, len) →
        fiidObjGetStrict w.objs.sessionHdr field = .ok (valueAt (headerBytes pkt) offset len) :=
    fun hplace => hholds.getStrict hw.of hplace
  have htype : valuePlace tmplRmcpplusSessionHdr.fields hdrLens "payload_type" = some (8, 6) := by decide
  have hauth : valuePlace tmplRmcpplusSessionHdr.fields hdrLens "payload_type.authenticated"
      = some (14, 1) := by decide
  have henc : valuePlace tmplRmcpplusSessionHdr.fields hdrLens "payload_type.encrypted"
      = some (15, 1) := by decide
  have hid : valuePlace tmplRmcpplusSessionHdr.fields hdrLens "session_id" = some (16, 32) := by decide
  have hseq : valuePlace tmplRmcpplusSessionHdr.fields hdrLens "session_sequence_number"
      = some (48, 32) := by decide
  have hlen : valuePlace tmplRmcpplusSessionHdr.fields hdrLens "ipmi_payload_len" = some (80, 16) := by
    decide
  simp only [sessionHdrOf, payloadTypeOf, hget htype, hget hauth, hget henc, hget hid, hget hseq,
    hget hlen, ok_bind]
  rfl

/-! ### The walk through the headers -/

theorem typeBlock : HeaderBlock "authentication_type" "payload_type.encrypted" 0 4 := by
  exact ⟨by decide, by decide, by norm_num, by decide, by decide,
    fun m hm => endsByteAligned_of_pos (by decide) hm⟩

theorem sessionBlock : HeaderBlock "session_id" "ipmi_payload_len" 8 10 := by
  exact ⟨by decide, by decide, by norm_num, by decide, by decide,
    fun m hm => endsByteAligned_of_pos (by decide) hm⟩

theorem payloadTypeStage_ensures :
    Ensures (fun w => InHeader pkt objs 5 6 typeLens w ∧ w.indx < pkt.length) payloadTypeStage
      (fun w => (InHeader pkt objs 5 6 typeLens w ∧ w.indx < pkt.length) ∧
        ResponseType (headerAt pkt).payloadType)
      (fun _ => ¬ Readable algorithms pkt) := by
  rintro w ⟨hw, hmore⟩
  have hle : 6 ≤ pkt.length := by
    have := hw.indx
    omega
  simp only [payloadTypeStage, hw.payloadType hle, call_ok, ok_bind]
  by_cases htype : ResponseType (headerAt pkt).payloadType
  · exact Or.inl ⟨w, if_pos htype, ⟨hw, hmore⟩, htype⟩
  · exact Or.inr ⟨w, if_neg htype, fun h => htype h.response⟩

theorem malformedStage_ensures :
    Ensures (fun w => (InHeader pkt objs 11 16 hdrLens w ∧ ResponseType (headerAt pkt).payloadType) ∧
        w.indx < pkt.length) (malformedStage algorithms)
      (fun w => InHeader pkt objs 11 16 hdrLens w ∧ Readable algorithms pkt)
      (fun _ => ¬ Readable algorithms pkt) := by
  rintro w ⟨⟨hw, htype⟩, hmore⟩
  have hlong : 16 < pkt.length := by
    have := hw.indx
    omega
  simp only [malformedStage, hw.sessionHdr hlong.le, call_ok, ok_bind]
  by_cases hmal : (headerAt pkt).malformed algorithms = true
  · exact Or.inr ⟨w, if_pos hmal, fun h => absurd (hmal.symm.trans h.wellFormed) (by decide)⟩
  · exact Or.inl ⟨w, if_neg hmal, hw, hlong, htype, Bool.eq_false_iff.mpr hmal⟩

/-- The stages up to the header checks. -/
def headerStages (algorithms : Algorithms) (pkt : List Byte) : List RmcpplusStage :=
  [rmcpHdrStage pkt, moreStage pkt,
   sessionHdrStage pkt "authentication_type" "payload_type.encrypted", moreStage pkt,
   payloadTypeStage,
   sessionHdrStage pkt "session_id" "ipmi_payload_len", moreStage pkt,
   malformedStage algorithms]

/-- The walk gets behind the headers of the packets that are readable, and gives the others up. -/
theorem headerStages_ensures (algorithms : Algorithms) (pkt : List Byte)
    (hrmcp : objs.rmcpHdr.Of tmplRmcpHdr.fields) (hunset : objs.rmcpHdr.Unset)
    (hof : objs.sessionHdr.Of tmplRmcpplusSessionHdr.fields) (hempty : objs.sessionHdr.Unset) :
    Ensures (fun w => w = ⟨0, objs⟩) (runStages (headerStages algorithms pkt))
      (fun w => InHeader pkt objs 11 16 hdrLens w ∧ Readable algorithms pkt)
      (fun _ => ¬ Readable algorithms pkt) := by
  have hshort : ∀ {k n : ℕ} {lens : List ℕ}, n ≤ 16 → ∀ w, InHeader pkt objs k n lens w →
      pkt.length ≤ w.indx → ¬ Readable algorithms pkt := by
    intro k n lens hn w hw hle h
    have hindx := hw.indx
    have hlong := h.long
    omega
  have htype : Ensures (fun w => InHeader pkt objs 0 4 (List.replicate 11 0) w ∧ w.indx < pkt.length)
      (sessionHdrStage pkt "authentication_type" "payload_type.encrypted")
      (InHeader pkt objs 5 6 typeLens) (fun _ => ¬ Readable algorithms pkt) :=
    sessionHdrStage_ensures 2 typeBlock le_rfl le_rfl (by rfl) (by norm_num)
  have hsession : Ensures (fun w => InHeader pkt objs 5 6 typeLens w ∧ w.indx < pkt.length)
      (sessionHdrStage pkt "session_id" "ipmi_payload_len")
      (InHeader pkt objs 11 16 hdrLens) (fun _ => ¬ Readable algorithms pkt) :=
    sessionHdrStage_ensures 10 sessionBlock (by norm_num) (by norm_num) (by rfl) (by norm_num)
  refine (rmcpHdrStage_ensures hrmcp hunset hof hempty).cons ((moreStage_ensures ?_).cons (htype.cons
    ((moreStage_ensures ?_).cons (payloadTypeStage_ensures.cons (hsession.frame.cons
    ((moreStage_ensures ?_).cons (malformedStage_ensures.cons Ensures.nil)))))))
  · exact hshort (by norm_num)
  · exact hshort (by norm_num)
  · exact fun w hw => hshort le_rfl w hw.1

end Header

/-! ### The payload -/

/-- The payload of a packet: as many bytes as the header says, if there are so many. -/
def payloadAt (pkt : List Byte) : List Byte := (pkt.drop 16).take (headerAt pkt).ipmiPayloadLen

/-- What a payload is decrypted to. -/
def decrypted (crypto : Crypto) (key payload : List Byte) : List Byte :=
  crypto.aesCbc128Decrypt (key.take ipmiCryptAesCbc128BlockLength)
    (payload.take ipmiCryptAesCbc128BlockLength) (payload.drop ipmiCryptAesCbc128BlockLength)

/-- What was decrypted, without its padding. -/
def withoutPad (payloadBuf : List Byte) : List Byte :=
  let padLength := (payloadBuf.getLastD 0).toNat
  if padLength > ipmiCryptAesCbc128BlockLength then []
  else payloadBuf.take (payloadBuf.length - padLength - 1)

/-- The message in the payload of a packet. -/
def messageAt (crypto : Crypto) (algorithms : Algorithms) (confidentialityKey : Option (List Byte))
    (pkt : List Byte) : List Byte :=
  if algorithms.confidentiality = ipmiConfidentialityAlgorithmNone then payloadAt pkt
  else withoutPad (decrypted crypto (confidentialityKey.getD []) (payloadAt pkt))

/-- The bytes of a message around its command: the header in front of it and the checksum behind it. -/
def aroundCmd : ℕ := 6

/-- A message whose command does not end in a field that ends inside a byte. -/
def CmdEnds (cmdFields : List FiidField) (message : List Byte) : Prop :=
  aroundCmd < message.length → EndsByteAligned cmdFields (message.length - aroundCmd)

/-- The session header and its trailer are not touched. -/
structure Kept (objs objs' : RmcpplusObjs) : Prop where
  sessionHdr : objs'.sessionHdr = objs.sessionHdr
  sessionTrlr : objs'.sessionTrlr = objs.sessionTrlr

/-- The objects that a message is taken apart into. -/
structure MsgObjs (cmdFields : List FiidField) (objs : RmcpplusObjs) : Prop where
  lanMsgHdr : objs.lanMsgHdr.Of tmplLanMsgHdrRs.fields
  lanMsgHdrUnset : objs.lanMsgHdr.Unset
  cmd : objs.cmd.Of cmdFields
  cmdUnset : objs.cmd.Unset
  lanMsgTrlr : objs.lanMsgTrlr.Of tmplLanMsgTrlr.fields
  lanMsgTrlrUnset : objs.lanMsgTrlr.Unset

section Payload
variable {objs : RmcpplusObjs} {cmdFields : List FiidField}

theorem deconstructMsg_answers (h : MsgObjs cmdFields objs) (buf : List Byte) :
    Answers (deconstructMsg buf objs) ↔ CmdEnds cmdFields buf := by
  have htrlr : orTemplateInvalid (fiidTemplateLenBytes tmplLanMsgTrlr) = .ok 1 := by decide
  obtain ⟨hdr, n, hcall, hfill⟩ := trySetAll_filled h.lanMsgHdr h.lanMsgHdrUnset
    (endsByteAligned_msgHdr buf.length)
  have hn := hfill.len
  rw [show bitLen tmplLanMsgHdrRs.fields = 40 from rfl] at hn
  simp only [deconstructMsg, htrlr, hcall, call_ok, ok_bind, CmdEnds, aroundCmd]
  by_cases hmore : n ≥ buf.length
  · rw [if_pos hmore]
    exact iff_of_true (answers_unparsed _) fun hlong => by omega
  · rw [if_neg hmore]
    by_cases hroom : buf.length - n ≤ 1
    · rw [if_pos hroom]
      exact iff_of_true (answers_unparsed _) fun hlong => by omega
    · rw [if_neg hroom]
      obtain rfl : n = 5 := by omega
      have hlen : ((buf.drop 5).take (buf.length - 5 - 1)).length = buf.length - 6 := by
        rw [List.length_take, List.length_drop]
        omega
      by_cases hal : EndsByteAligned cmdFields (buf.length - 6)
      · obtain ⟨cmd, m, hcmd, hcmdFill⟩ := trySetAll_filled
          (d := (buf.drop 5).take (buf.length - 5 - 1)) h.cmd h.cmdUnset (by rw [hlen]; exact hal)
        obtain ⟨trlr, k, htrlrCall, -⟩ := trySetAll_filled (d := buf.drop (5 + m)) h.lanMsgTrlr
          h.lanMsgTrlrUnset (endsByteAligned_msgTrlr _)
        refine iff_of_true ?_ fun _ => hal
        simp only [hcmd, htrlrCall, call_ok, ok_bind]
        split
        · exact answers_unparsed _
        · exact answers_ok _
      · refine iff_of_false ?_ fun himp => hal (himp (by omega))
        rw [trySetAll_error h.cmd (by rw [hlen]; exact hal)]
        exact not_answers_fail _

theorem meets_any {ε α : Type} (x : Except ε α) : Meets x (fun _ => True) (fun _ => True) :=
  ⟨fun _ _ => trivial, fun _ _ => trivial⟩

/-- Taking a buffer apart changes the objects of the message only. -/
theorem deconstructPayloadBuf_kept (payloadType : Byte) (buf : List Byte) (objs : RmcpplusObjs) :
    Meets (deconstructPayloadBuf payloadType buf objs)
      (fun objs' => Kept objs objs' ∧ objs'.payload = objs.payload) (fun _ => True) := by
  rw [deconstructPayloadBuf]
  refine Meets.ite (fun _ => ?_) fun _ => (meets_any _).bind fun r _ => Meets.ok ⟨⟨rfl, rfl⟩, rfl⟩
  refine (meets_any _).bind fun trlrLen _ => (meets_any _).bind fun r _ => ?_
  refine Meets.ite (fun _ => Meets.error trivial) fun _ => ?_
  refine Meets.ite (fun _ => Meets.error trivial) fun _ => (meets_any _).bind fun r _ => ?_
  refine Meets.ite (fun _ => Meets.error trivial) fun _ => (meets_any _).bind fun r _ => ?_
  exact Meets.ok ⟨⟨rfl, rfl⟩, rfl⟩

/-- The objects that a payload is taken apart into. -/
structure BufObjs (payloadType : Byte) (cmdFields : List FiidField) (objs : RmcpplusObjs) : Prop where
  cmd : objs.cmd.Of cmdFields
  cmdUnset : objs.cmd.Unset
  msg : payloadType = ipmiPayloadTypeIpmi → MsgObjs cmdFields objs
  others : payloadType ≠ ipmiPayloadTypeIpmi → ∀ n, 0 < n → EndsByteAligned cmdFields n

theorem deconstructPayloadBuf_answers {payloadType : Byte} (h : BufObjs payloadType cmdFields objs)
    {buf : List Byte} (hbuf : buf ≠ []) : Answers (deconstructPayloadBuf payloadType buf objs) ↔
      (payloadType = ipmiPayloadTypeIpmi → CmdEnds cmdFields buf) := by
  rw [deconstructPayloadBuf]
  by_cases htype : payloadType = ipmiPayloadTypeIpmi
  · rw [if_pos htype, deconstructMsg_answers (h.msg htype)]
    exact ⟨fun hends _ => hends, fun himp => himp htype⟩
  · obtain ⟨obj, n, hcall, -⟩ := trySetAll_filled h.cmd h.cmdUnset
      (h.others htype _ (List.length_pos_iff.mpr hbuf))
    rw [if_neg htype, hcall]
    exact iff_of_true (answers_ok _) fun h => absurd h htype

/-- `fiid_obj_set_data` on a field of the payload succeeds. -/
theorem setPayload_ok {field : String} {o m : ℕ} (hof : objs.payload.Of tmplRmcpplusPayload.fields)
    (hplace : wholePlace tmplRmcpplusPayload.fields field = some (o, m)) (buf : List Byte) :
    ∃ obj, setPayload field buf objs = .ok { objs with payload := obj } ∧
      obj.Of tmplRmcpplusPayload.fields := by
  obtain ⟨obj, i, hcall, hof', -⟩ := setData_whole hof hplace buf
  refine ⟨obj, ?_, hof'⟩
  simp only [setPayload, hcall, call_ok, ok_bind]
  rfl

theorem payloadData_place :
    wholePlace tmplRmcpplusPayload.fields "payload_data" = some (64, 65536) := by decide

theorem confidentialityHeader_place :
    wholePlace tmplRmcpplusPayload.fields "confidentiality_header" = some (0, 64) := by decide

theorem deconstructPayloadConfidentialityNone_answers {payloadType : Byte}
    (h : BufObjs payloadType cmdFields objs) (hof : objs.payload.Of tmplRmcpplusPayload.fields)
    {buf : List Byte} (hbuf : buf ≠ []) :
    Answers (deconstructPayloadConfidentialityNone payloadType buf objs) ↔
      (payloadType = ipmiPayloadTypeIpmi → CmdEnds cmdFields buf) := by
  rw [deconstructPayloadConfidentialityNone, answers_bind, deconstructPayloadBuf_answers h hbuf]
  refine and_iff_left fun objs' hobjs' => ?_
  have hpayload := ((deconstructPayloadBuf_kept payloadType buf objs).value objs' hobjs').2
  obtain ⟨obj, hset, -⟩ := setPayload_ok (hpayload ▸ hof) payloadData_place buf
  rw [hset]
  exact answers_ok _

/-- The object of the payload does not matter to the others. -/
theorem BufObjs.withPayload {payloadType : Byte} (h : BufObjs payloadType cmdFields objs) (obj : FiidObj) :
    BufObjs payloadType cmdFields { objs with payload := obj } where
  cmd := h.cmd
  cmdUnset := h.cmdUnset
  msg htype :=
    have hmsg := h.msg htype
    ⟨hmsg.lanMsgHdr, hmsg.lanMsgHdrUnset, hmsg.cmd, hmsg.cmdUnset, hmsg.lanMsgTrlr, hmsg.lanMsgTrlrUnset⟩
  others := h.others

theorem setConfidentialityTrailer_eq (buf : List Byte) (objs : RmcpplusObjs) :
    ∃ obj, setConfidentialityTrailer buf objs = { objs with payload := obj } := by
  rw [setConfidentialityTrailer]
  split
  · exact ⟨_, rfl⟩
  · exact ⟨objs.payload, rfl⟩

theorem cmdEnds_nil : CmdEnds cmdFields [] := nofun

theorem deconstructDecrypted_answers {payloadType : Byte} (h : BufObjs payloadType cmdFields objs)
    (hof : objs.payload.Of tmplRmcpplusPayload.fields) (payloadBuf : List Byte) :
    Answers (deconstructDecrypted payloadType payloadBuf objs) ↔
      (payloadType = ipmiPayloadTypeIpmi → CmdEnds cmdFields (withoutPad payloadBuf)) := by
  simp only [deconstructDecrypted, withoutPad]
  by_cases hpad : (payloadBuf.getLastD 0).toNat > ipmiCryptAesCbc128BlockLength
  · rw [if_pos hpad, if_pos hpad]
    exact iff_of_true (answers_unparsed _) fun _ => cmdEnds_nil
  · rw [if_neg hpad, if_neg hpad]
    have hzero : ∀ n, n = 0 → CmdEnds cmdFields (payloadBuf.take n) := by
      rintro n rfl
      exact cmdEnds_nil
    by_cases hshort : (payloadBuf.getLastD 0).toNat + 1 > payloadBuf.length
    · rw [if_pos hshort]
      exact iff_of_true (answers_unparsed _) fun _ => hzero _ (by omega)
    · rw [if_neg hshort]
      by_cases hempty : payloadBuf.length - (payloadBuf.getLastD 0).toNat - 1 = 0
      · rw [if_pos hempty]
        exact iff_of_true (answers_unparsed _) fun _ => hzero _ hempty
      · rw [if_neg hempty]
        obtain ⟨obj, hset, -⟩ := setPayload_ok hof payloadData_place
          (payloadBuf.take (payloadBuf.length - (payloadBuf.getLastD 0).toNat - 1))
        obtain ⟨obj', htrlr⟩ := setConfidentialityTrailer_eq
          (payloadBuf.drop (payloadBuf.length - (payloadBuf.getLastD 0).toNat - 1))
          { objs with payload := obj }
        rw [hset, ok_bind, htrlr]
        refine deconstructPayloadBuf_answers (h.withPayload obj') fun hnil => ?_
        have hlen := congrArg List.length hnil
        rw [List.length_take, List.length_nil] at hlen
        omega

/-- What the decryption needs: the mark, a key that is long enough, and whole blocks. -/
structure Decryptable (confidentialityKey : Option (List Byte)) (payloadEncrypted : Bool)
    (payload : List Byte) : Prop where
  marked : payloadEncrypted = true
  key : ipmiCryptAesCbc128BlockLength ≤ (confidentialityKey.getD []).length
  blocks : ipmiCryptAesCbc128BlockLength < payload.length →
    payload.length % ipmiCryptAesCbc128BlockLength = 0

/-- The decryption yields as many bytes as it is given. -/
def Crypto.KeepsLength (crypto : Crypto) : Prop :=
  ∀ key iv data, (crypto.aesCbc128Decrypt key iv data).length = data.length

theorem deconstructPayloadConfidentialityAesCbc128_answers {crypto : Crypto} (hcrypto : crypto.KeepsLength)
    {confidentialityKey : Option (List Byte)} {payloadType : Byte} {payloadEncrypted : Bool}
    (hkey : (confidentialityKey.getD []).length ≠ 0) (h : BufObjs payloadType cmdFields objs)
    (hof : objs.payload.Of tmplRmcpplusPayload.fields) (buf : List Byte) :
    Answers (deconstructPayloadConfidentialityAesCbc128 crypto confidentialityKey payloadType
        payloadEncrypted buf objs) ↔ Decryptable confidentialityKey payloadEncrypted buf ∧
      (payloadType = ipmiPayloadTypeIpmi →
        CmdEnds cmdFields (withoutPad (decrypted crypto (confidentialityKey.getD []) buf))) := by
  obtain ⟨key, rfl⟩ : ∃ key, confidentialityKey = some key := by
    cases confidentialityKey with
    | none => exact absurd rfl hkey
    | some key => exact ⟨key, rfl⟩
  cases payloadEncrypted with
  | false => exact iff_of_false (not_answers_fail _) fun hcond => absurd hcond.1.marked (by decide)
  | true =>
    have hlen := hcrypto (key.take ipmiCryptAesCbc128BlockLength)
      (buf.take ipmiCryptAesCbc128BlockLength) (buf.drop ipmiCryptAesCbc128BlockLength)
    simp only [deconstructPayloadConfidentialityAesCbc128]
    by_cases hshort : key.length < ipmiCryptAesCbc128BlockLength
    · rw [if_pos hshort]
      exact iff_of_false (not_answers_fail _) fun hcond => absurd hcond.1.key (Nat.not_le.mpr hshort)
    · rw [if_neg hshort]
      have hlong := Nat.not_lt.mp hshort
      by_cases hmore : ipmiCryptAesCbc128BlockLength < buf.length
      · rw [if_neg (by omega), if_neg (by omega)]
        obtain ⟨obj, hset, hof'⟩ := setPayload_ok hof confidentialityHeader_place
          (buf.take ipmiCryptAesCbc128BlockLength)
        rw [hset, ok_bind]
        have hmod : (buf.drop ipmiCryptAesCbc128BlockLength).length % ipmiCryptAesCbc128BlockLength
            = buf.length % ipmiCryptAesCbc128BlockLength := by
          rw [List.length_drop]
          rw [ipmiCryptAesCbc128BlockLength] at hmore ⊢
          omega
        rw [hmod]
        by_cases hblocks : buf.length % ipmiCryptAesCbc128BlockLength = 0
        · rw [if_neg (not_not.mpr hblocks), if_neg (not_not.mpr hlen),
            deconstructDecrypted_answers (h.withPayload obj) hof']
          exact ⟨fun hends => ⟨⟨rfl, hlong, fun _ => hblocks⟩, hends⟩, fun hcond => hcond.2⟩
        · rw [if_pos hblocks]
          exact iff_of_false (not_answers_fail _) fun hcond => hblocks (hcond.1.blocks hmore)
      · refine iff_of_true ?_ ⟨⟨rfl, hlong, fun hlt => absurd hlt hmore⟩, fun _ => ?_⟩
        · by_cases hlt : buf.length < ipmiCryptAesCbc128BlockLength
          · rw [if_pos hlt]
            exact answers_unparsed _
          · rw [if_neg hlt, if_pos (by omega)]
            exact answers_unparsed _
        · have hnil : decrypted crypto key buf = [] := by
            rw [List.drop_eq_nil_of_le (Nat.not_lt.mp hmore), List.length_nil] at hlen
            rw [decrypted, List.drop_eq_nil_of_le (Nat.not_lt.mp hmore)]
            exact List.eq_nil_of_length_eq_zero hlen
          rw [Option.getD_some, hnil]
          exact cmdEnds_nil

theorem deconstructPayloadRakp_answers {payloadType : Byte} (h : BufObjs payloadType cmdFields objs)
    (htype : payloadType ≠ ipmiPayloadTypeIpmi) (hof : objs.payload.Of tmplRmcpplusPayload.fields)
    {buf : List Byte} (hbuf : buf ≠ []) : Answers (deconstructPayloadRakp buf objs) := by
  obtain ⟨obj, hset, -⟩ := setPayload_ok hof payloadData_place buf
  obtain ⟨cmd, n, hcall, -⟩ := trySetAll_filled h.cmd h.cmdUnset
    (h.others htype _ (List.length_pos_iff.mpr hbuf))
  rw [deconstructPayloadRakp, hset, ok_bind, hcall]
  exact answers_ok _

theorem deconstructPayload_answers {crypto : Crypto} (hcrypto : crypto.KeepsLength)
    {algorithms : Algorithms} {confidentialityKey : Option (List Byte)}
    (hkey : algorithms.confidentiality ≠ ipmiConfidentialityAlgorithmNone →
      (confidentialityKey.getD []).length ≠ 0) {h : SessionHdr}
    (hobjs : BufObjs h.payloadType cmdFields objs)
    (hof : objs.payload.Of tmplRmcpplusPayload.fields) {buf : List Byte} (hbuf : buf ≠ []) :
    Answers (deconstructPayload crypto algorithms confidentialityKey h buf objs) ↔
      (Ciphered h.payloadType → algorithms.confidentiality ≠ ipmiConfidentialityAlgorithmNone →
        Decryptable confidentialityKey h.payloadEncrypted buf) ∧
      (h.payloadType = ipmiPayloadTypeIpmi → CmdEnds cmdFields
        (if algorithms.confidentiality = ipmiConfidentialityAlgorithmNone then buf
          else withoutPad (decrypted crypto (confidentialityKey.getD []) buf))) := by
  rw [deconstructPayload]
  by_cases hmsg : Ciphered h.payloadType
  · rw [if_pos hmsg]
    by_cases hnone : algorithms.confidentiality = ipmiConfidentialityAlgorithmNone
    · rw [if_pos hnone, if_pos hnone, deconstructPayloadConfidentialityNone_answers hobjs hof hbuf]
      exact ⟨fun hends => ⟨fun _ hne => absurd hnone hne, hends⟩, fun hcond => hcond.2⟩
    · rw [if_neg hnone, if_neg hnone,
        deconstructPayloadConfidentialityAesCbc128_answers hcrypto (hkey hnone) hobjs hof]
      exact ⟨fun hcond => ⟨fun _ _ => hcond.1, hcond.2⟩, fun hcond => ⟨hcond.1 hmsg hnone, hcond.2⟩⟩
  · rw [if_neg hmsg]
    have htype : h.payloadType ≠ ipmiPayloadTypeIpmi := fun heq => hmsg (Or.inl heq)
    exact iff_of_true (deconstructPayloadRakp_answers hobjs htype hof hbuf)
      ⟨fun h => absurd h hmsg, fun h => absurd h htype⟩

/-! ### What the payload leaves alone -/

theorem Kept.refl (objs : RmcpplusObjs) : Kept objs objs := ⟨rfl, rfl⟩

theorem setPayload_kept (field : String) (buf : List Byte) (objs : RmcpplusObjs) :
    Meets (setPayload field buf objs) (Kept objs) (fun _ => True) :=
  (meets_any _).bind fun _ _ => Meets.ok ⟨rfl, rfl⟩

theorem Kept.trans {objs₁ objs₂ : RmcpplusObjs} (h : Kept objs objs₁) (h' : Kept objs₁ objs₂) :
    Kept objs objs₂ :=
  ⟨h'.sessionHdr.trans h.sessionHdr, h'.sessionTrlr.trans h.sessionTrlr⟩

/-- The buffer behind objects that are kept. -/
theorem Kept.deconstructPayloadBuf {objs₁ : RmcpplusObjs} (h : Kept objs objs₁) (payloadType : Byte)
    (buf : List Byte) :
    Meets (Rmcpplus.deconstructPayloadBuf payloadType buf objs₁) (Kept objs) (fun _ => True) :=
  (deconstructPayloadBuf_kept payloadType buf objs₁).weaken fun _ h' => h.trans h'.1

theorem deconstructDecrypted_kept (payloadType : Byte) (payloadBuf : List Byte) (objs : RmcpplusObjs) :
    Meets (deconstructDecrypted payloadType payloadBuf objs) (Kept objs) (fun _ => True) := by
  rw [deconstructDecrypted]
  refine Meets.ite (fun _ => Meets.error trivial) fun _ => ?_
  refine Meets.ite (fun _ => Meets.error trivial) fun _ => ?_
  refine Meets.ite (fun _ => Meets.error trivial) fun _ => ?_
  refine (setPayload_kept _ _ _).bind fun objs₁ h₁ => ?_
  obtain ⟨obj, htrlr⟩ := setConfidentialityTrailer_eq
    (payloadBuf.drop (payloadBuf.length - (payloadBuf.getLastD 0).toNat - 1)) objs₁
  have h₂ : Kept objs { objs₁ with payload := obj } := h₁.trans ⟨rfl, rfl⟩
  rw [htrlr]
  exact h₂.deconstructPayloadBuf _ _

theorem deconstructPayload_kept (crypto : Crypto) (algorithms : Algorithms)
    (confidentialityKey : Option (List Byte)) (h : SessionHdr) (buf : List Byte) (objs : RmcpplusObjs) :
    Meets (deconstructPayload crypto algorithms confidentialityKey h buf objs) (Kept objs)
      (fun _ => True) := by
  rw [deconstructPayload]
  refine Meets.ite (fun _ => Meets.ite (fun _ => ?_) fun _ => ?_) fun _ => ?_
  · refine ((Kept.refl objs).deconstructPayloadBuf _ _).bind fun objs₁ h₁ => ?_
    exact (setPayload_kept _ _ _).weaken fun _ h₂ => h₁.trans h₂
  · rw [deconstructPayloadConfidentialityAesCbc128.eq_def]
    split
    · refine Meets.ite (fun _ => Meets.error trivial) fun _ => ?_
      refine Meets.ite (fun _ => Meets.error trivial) fun _ => ?_
      refine Meets.ite (fun _ => Meets.error trivial) fun _ => ?_
      refine (setPayload_kept _ _ _).bind fun objs₁ h₁ => ?_
      refine Meets.ite (fun _ => Meets.error trivial) fun _ => ?_
      refine Meets.ite (fun _ => Meets.error trivial) fun _ => ?_
      exact (deconstructDecrypted_kept _ _ _).weaken fun _ h₂ => h₁.trans h₂
    · exact Meets.error trivial
  · refine (setPayload_kept _ _ _).bind fun objs₁ h₁ => (meets_any _).bind fun r _ => ?_
    exact Meets.ok (h₁.trans ⟨rfl, rfl⟩)

end Payload

/-! ### The trailer -/

section Trailer
variable {pkt : List Byte} {algorithms : Algorithms} {w : RmcpplusWalk}

/-- `fiid_obj_set_data` on a field of the trailer succeeds, and changes the length of that field only. -/
theorem trlrDataStage_ok {field : String} {o m : ℕ}
    (hof : w.objs.sessionTrlr.Of tmplRmcpplusSessionTrlr.fields)
    (hplace : wholePlace tmplRmcpplusSessionTrlr.fields field = some (o, m)) (data : List Byte) :
    ∃ obj i, trlrDataStage field data w
        = .ok { w with objs := { w.objs with sessionTrlr := obj } } ∧
      obj.Of tmplRmcpplusSessionTrlr.fields ∧
      tmplRmcpplusSessionTrlr.fields.findIdx? (fun f => f.key = field) = some i ∧
      obj.lens = w.objs.sessionTrlr.lens.set i (8 * min data.length m) := by
  obtain ⟨obj, i, hcall, hof', hi, hlens⟩ := setData_whole hof hplace data
  refine ⟨obj, i, ?_, hof', hi, hlens⟩
  simp only [trlrDataStage, hcall, call_ok, ok_bind]
  rfl

theorem integrityPad_place :
    wholePlace tmplRmcpplusSessionTrlr.fields "integrity_pad" = some (0, 4) := by decide

theorem padLength_place :
    wholePlace tmplRmcpplusSessionTrlr.fields "pad_length" = some (4, 1) := by decide

theorem nextHeader_place :
    wholePlace tmplRmcpplusSessionTrlr.fields "next_header" = some (5, 1) := by decide

theorem authenticationCode_place :
    wholePlace tmplRmcpplusSessionTrlr.fields "authentication_code" = some (6, 32) := by decide

/-- The length of the padding is read back, and the padding is set. -/
theorem integrityPadStage_answers (c : ℕ) (hof : w.objs.sessionTrlr.Of tmplRmcpplusSessionTrlr.fields)
    (hlens : w.objs.sessionTrlr.lens = [0, 8, 8, 8 * c]) (rest : List Byte) (padMax : ℕ) :
    Answers (integrityPadStage rest padMax w) := by
  have hsum : w.objs.sessionTrlr.lens.sum % 8 = 0 := by
    simp only [hlens, List.sum_cons, List.sum_nil]
    omega
  have hplace : valuePlace tmplRmcpplusSessionTrlr.fields w.objs.sessionTrlr.lens "pad_length"
      = some (0, 8) := by
    have hidx : tmplRmcpplusSessionTrlr.fields.findIdx? (fun f => f.key = "pad_length") = some 1 := by
      decide
    simp only [valuePlace, hidx, hlens, Option.bind_eq_bind, Option.bind_some]
    rfl
  obtain ⟨val, hval⟩ := getStrict_returns hof hsum hplace
  simp only [integrityPadStage, hval, call_ok, ok_bind]
  split
  · exact answers_unparsed _
  · obtain ⟨obj, i, hset, -⟩ := trlrDataStage_ok hof integrityPad_place
      (rest.take (if (val.setWidth 8).toNat > padMax then padMax else (val.setWidth 8).toNat))
    rw [hset]
    exact answers_ok _

/-- The fields in front of the padding are set, from the end of the packet. -/
theorem trlrFields_answers {c : ℕ} (hof : w.objs.sessionTrlr.Of tmplRmcpplusSessionTrlr.fields)
    (hlens : w.objs.sessionTrlr.lens = [0, 0, 0, 8 * c]) {nextHeader padLength : List Byte}
    (hnext : nextHeader.length = 1) (hpad : padLength.length = 1) (rest : List Byte) (padMax : ℕ) :
    Answers (runStages [trlrDataStage "next_header" nextHeader, trlrDataStage "pad_length" padLength,
      integrityPadStage rest padMax] w) := by
  obtain ⟨obj, i, hset, hof₁, hi, hlens₁⟩ := trlrDataStage_ok hof nextHeader_place nextHeader
  obtain rfl : 2 = i := Option.some.inj hi
  have hof₂ : ({ w with objs := { w.objs with sessionTrlr := obj } } : RmcpplusWalk).objs.sessionTrlr.Of
      tmplRmcpplusSessionTrlr.fields := hof₁
  obtain ⟨obj', i', hset', hof', hi', hlens'⟩ := trlrDataStage_ok hof₂ padLength_place padLength
  obtain rfl : 1 = i' := Option.some.inj hi'
  rw [runStages, hset, ok_bind, runStages, hset', ok_bind, runStages, answers_bind]
  refine ⟨integrityPadStage_answers c hof' ?_ rest padMax, fun s _ => answers_ok s⟩
  rw [hlens', hlens₁, hlens, hnext, hpad]
  rfl

/-- With the object of the trailer cleared, the trailer is read or given up. -/
theorem trlrStage_answers {h : SessionHdr} (hhdr : sessionHdrOf w.objs.sessionHdr = .ok h)
    (hof : h.hasTrlr = true → w.objs.sessionTrlr.Of tmplRmcpplusSessionTrlr.fields)
    (hunset : h.hasTrlr = true → w.objs.sessionTrlr.Unset) :
    Answers (trlrStage algorithms pkt w) := by
  have hpadLen : orTemplateInvalid (fiidTemplateFieldLenBytes tmplRmcpplusSessionTrlr "pad_length")
      = .ok 1 := by decide
  have hnextLen : orTemplateInvalid (fiidTemplateFieldLenBytes tmplRmcpplusSessionTrlr "next_header")
      = .ok 1 := by decide
  simp only [trlrStage, hhdr, hpadLen, hnextLen, call_ok, ok_bind]
  cases htrlr : h.hasTrlr with
  | false => exact answers_ok w
  | true =>
    have hof := hof htrlr
    have hempty : w.objs.sessionTrlr.lens = [0, 0, 0, 8 * 0] := by
      have hmap : w.objs.sessionTrlr.lens = w.objs.sessionTrlr.fields.map fun _ => 0 :=
        List.map_congr_left (hunset htrlr)
      rw [hmap, List.map_const', FiidObj.Wf.length hof]
      rfl
    simp only [Bool.not_true, Bool.false_eq_true, if_false]
    by_cases hshort : (pkt.drop w.indx).length < authenticationCodeLen algorithms.integrity + 1 + 1
    · rw [if_pos hshort]
      exact answers_unparsed w
    · rw [if_neg hshort]
      have hone : ∀ i, i < (pkt.drop w.indx).length → (((pkt.drop w.indx).drop i).take 1).length = 1 := by
        intro i hi
        rw [List.length_take, List.length_drop]
        omega
      have hnext := hone ((pkt.drop w.indx).length - authenticationCodeLen algorithms.integrity - 1)
        (by omega)
      have hpad := hone ((pkt.drop w.indx).length - authenticationCodeLen algorithms.integrity - 1 - 1)
        (by omega)
      by_cases hcode : authenticationCodeLen algorithms.integrity ≠ 0
      · obtain ⟨obj, i, hset, hof', hi, hlens⟩ := trlrDataStage_ok hof authenticationCode_place
          ((pkt.drop w.indx).drop ((pkt.drop w.indx).length - authenticationCodeLen algorithms.integrity))
        obtain rfl : 3 = i := Option.some.inj hi
        rw [if_pos hcode, hset, ok_bind]
        rw [hempty] at hlens
        exact trlrFields_answers hof' hlens hnext hpad _ _
      · rw [if_neg hcode]
        exact trlrFields_answers hof hempty hnext hpad _ _

end Trailer

/-! ### The objects of the caller -/

section Objects
variable {objs : RmcpplusObjs} {cmdFields : List FiidField} {payloadType : Byte}

theorem comparePayload_msg (h : objs.comparePayload ipmiPayloadTypeIpmi = .ok ()) :
    fiidObjTemplateCompareStrict objs.lanMsgHdr tmplLanMsgHdrRs = .ok () ∧
      fiidObjTemplateCompareStrict objs.lanMsgTrlr tmplLanMsgTrlr = .ok () := by
  rw [RmcpplusObjs.comparePayload, if_pos rfl] at h
  obtain ⟨_, hhdr, htrlr⟩ := bind_eq_ok.mp h
  exact ⟨hhdr, htrlr⟩

/-- An object that passes one of these comparisons has fields that any data can end in. -/
theorem endsByteAligned_compared {tmpl : FiidTemplate} (hof : objs.cmd.Of cmdFields)
    (hok : TemplateOk tmpl) (h : fiidObjTemplateCompareStrict objs.cmd tmpl = .ok ())
    (hbytes : ∀ i < tmpl.fields.length, bitLen (tmpl.fields.take (i + 1)) % 8 = 0 ∨
      bitLen (tmpl.fields.take (i + 1)) ≤ 8 * (bitLen (tmpl.fields.take i) / 8) + 8) :
    ∀ n, 0 < n → EndsByteAligned cmdFields n := by
  have hfields : cmdFields = tmpl.fields := by
    rw [← (compareStrict_ok_iff hok).mp h]
    exact hof.fields.symm
  intro n hn
  rw [hfields]
  exact endsByteAligned_of_pos hbytes hn

theorem comparePayload_others (hof : objs.cmd.Of cmdFields) (hresponse : ResponseType payloadType)
    (htype : payloadType ≠ ipmiPayloadTypeIpmi) (h : objs.comparePayload payloadType = .ok ()) :
    ∀ n, 0 < n → EndsByteAligned cmdFields n := by
  rcases hresponse.resolve_left htype with rfl | rfl | rfl | rfl
  · rw [RmcpplusObjs.comparePayload, if_neg (by decide), if_pos rfl, compareEither] at h
    split at h
    · rename_i hcmp
      exact endsByteAligned_compared hof (by decide) hcmp (by decide)
    · exact endsByteAligned_compared hof (by decide) h (by decide)
  · rw [RmcpplusObjs.comparePayload, if_neg (by decide), if_neg (by decide), if_pos rfl] at h
    exact endsByteAligned_compared hof (by decide) h (by decide)
  · rw [RmcpplusObjs.comparePayload, if_neg (by decide), if_neg (by decide), if_neg (by decide),
      if_pos rfl] at h
    exact endsByteAligned_compared hof (by decide) h (by decide)
  · rw [RmcpplusObjs.comparePayload, if_neg (by decide), if_neg (by decide), if_neg (by decide),
      if_neg (by decide), if_pos rfl] at h
    exact endsByteAligned_compared hof (by decide) h (by decide)

@[simp] theorem clearFor_cmd (objs : RmcpplusObjs) (h : SessionHdr) : (objs.clearFor h).cmd = objs.cmd := by
  simp only [RmcpplusObjs.clearFor]
  split_ifs <;> rfl

@[simp] theorem clearFor_payload (objs : RmcpplusObjs) (h : SessionHdr) :
    (objs.clearFor h).payload = objs.payload := by
  simp only [RmcpplusObjs.clearFor]
  split_ifs <;> rfl

@[simp] theorem clearFor_sessionHdr (objs : RmcpplusObjs) (h : SessionHdr) :
    (objs.clearFor h).sessionHdr = objs.sessionHdr := by
  simp only [RmcpplusObjs.clearFor]
  split_ifs <;> rfl

theorem clearFor_msg (objs : RmcpplusObjs) {h : SessionHdr} (htype : h.payloadType = ipmiPayloadTypeIpmi) :
    (objs.clearFor h).lanMsgHdr = fiidObjClear objs.lanMsgHdr ∧
      (objs.clearFor h).lanMsgTrlr = fiidObjClear objs.lanMsgTrlr := by
  simp only [RmcpplusObjs.clearFor, if_pos htype]
  split_ifs <;> exact ⟨rfl, rfl⟩

theorem clearFor_sessionTrlr (objs : RmcpplusObjs) {h : SessionHdr} (htrlr : h.hasTrlr = true) :
    (objs.clearFor h).sessionTrlr = fiidObjClear objs.sessionTrlr := by
  simp only [RmcpplusObjs.clearFor, if_pos htrlr]
  split_ifs <;> rfl

theorem comparePayload_clear (objs : RmcpplusObjs) (payloadType : Byte) :
    objs.clear.comparePayload payloadType = objs.comparePayload payloadType := by
  simp only [RmcpplusObjs.comparePayload, RmcpplusObjs.clear, compareEither, compareStrict_clear]

end Objects

/-- The objects of a call: they exist, and those of every packet have their templates. -/
structure RmcpplusObjs.Passed (ndebug : Bool) (cmdTmpl : FiidTemplate) (objs : RmcpplusObjs) : Prop where
  rmcpHdr : ∃ tmpl, Reachable ndebug tmpl objs.rmcpHdr
  sessionHdr : ∃ tmpl, Reachable ndebug tmpl objs.sessionHdr
  payload : ∃ tmpl, Reachable ndebug tmpl objs.payload
  lanMsgHdr : ∃ tmpl, Reachable ndebug tmpl objs.lanMsgHdr
  cmd : Reachable ndebug cmdTmpl objs.cmd
  lanMsgTrlr : ∃ tmpl, Reachable ndebug tmpl objs.lanMsgTrlr
  sessionTrlr : ∃ tmpl, Reachable ndebug tmpl objs.sessionTrlr
  compared : objs.compareTemplates = .ok ()

/-- The parameters that the entry of the function checks. -/
structure ParametersValid (algorithms : Algorithms) (confidentialityKey : Option (List Byte))
    (flags : BitVec 32) : Prop where
  authentication : ipmiAuthenticationAlgorithmSupported algorithms.authentication = true
  integrity : ipmiIntegrityAlgorithmSupported algorithms.integrity = true
  confidentiality : ipmiConfidentialityAlgorithmSupported algorithms.confidentiality = true
  key : algorithms.confidentiality = ipmiConfidentialityAlgorithmAesCbc128 →
    (confidentialityKey.getD []).length ≠ 0
  flags : flags &&& ~~~ ipmiInterfaceFlagsNoLegalCheck = 0

/-- The caller has what the packet asks for. -/
structure Answerable (crypto : Crypto) (algorithms : Algorithms)
    (confidentialityKey : Option (List Byte)) (cmdFields : List FiidField) (objs : RmcpplusObjs)
    (pkt : List Byte) : Prop where
  objects : objs.comparePayload (headerAt pkt).payloadType = .ok ()
  trlr : (headerAt pkt).hasTrlr = true →
    fiidObjTemplateCompareStrict objs.sessionTrlr tmplRmcpplusSessionTrlr = .ok ()
  decryptable : Ciphered (headerAt pkt).payloadType →
    algorithms.confidentiality ≠ ipmiConfidentialityAlgorithmNone →
      Decryptable confidentialityKey (headerAt pkt).payloadEncrypted (payloadAt pkt)
  cmd : (headerAt pkt).payloadType = ipmiPayloadTypeIpmi →
    CmdEnds cmdFields (messageAt crypto algorithms confidentialityKey pkt)

section Unassemble
variable {ndebug : Bool} {cmdTmpl : FiidTemplate} {objs : RmcpplusObjs} {crypto : Crypto}
  {algorithms : Algorithms} {confidentialityKey : Option (List Byte)} {pkt : List Byte}
  {flags : BitVec 32} {w : RmcpplusWalk}

/-- An object that was compared has the fields of the template, cleared or not. -/
theorem of_compared {tmpl : FiidTemplate} {obj : FiidObj} (hr : ∃ tmpl, Reachable ndebug tmpl obj)
    (hok : TemplateOk tmpl) (h : fiidObjTemplateCompareStrict obj tmpl = .ok ()) :
    (fiidObjClear obj).Of tmpl.fields := by
  obtain ⟨_, hr⟩ := hr
  exact (touched_clear _).of (hr.wf.of_compare hok h)

/-- With the templates of the payload compared, the payload can be taken apart. -/
theorem RmcpplusObjs.Passed.bufObjs (h : objs.Passed ndebug cmdTmpl)
    (hframe : w.objs = { objs.clear with rmcpHdr := w.objs.rmcpHdr, sessionHdr := w.objs.sessionHdr })
    {hdr : SessionHdr} (hresponse : ResponseType hdr.payloadType)
    (hcompared : objs.comparePayload hdr.payloadType = .ok ()) :
    BufObjs hdr.payloadType cmdTmpl.fields (w.objs.clearFor hdr) := by
  have hcmd : (w.objs.clearFor hdr).cmd = fiidObjClear objs.cmd := by
    rw [clearFor_cmd, hframe]
    rfl
  have hcmdOf : (w.objs.clearFor hdr).cmd.Of cmdTmpl.fields := by
    rw [hcmd]
    exact (touched_clear _).of h.cmd.wf.of
  have hcmdUnset : (w.objs.clearFor hdr).cmd.Unset := by
    rw [hcmd]
    exact unset_clear _
  refine ⟨hcmdOf, hcmdUnset, fun htype => ?_, fun htype =>
    comparePayload_others h.cmd.wf.of hresponse htype hcompared⟩
  rw [htype] at hcompared
  obtain ⟨hmsgHdr, hmsgTrlr⟩ := comparePayload_msg hcompared
  have hmsg := clearFor_msg w.objs htype
  rw [show w.objs.lanMsgHdr = objs.lanMsgHdr by rw [hframe]; rfl,
    show w.objs.lanMsgTrlr = objs.lanMsgTrlr by rw [hframe]; rfl] at hmsg
  refine ⟨?_, ?_, hcmdOf, hcmdUnset, ?_, ?_⟩
  · rw [hmsg.1]
    exact of_compared h.lanMsgHdr (by decide) hmsgHdr
  · rw [hmsg.1]
    exact unset_clear _
  · rw [hmsg.2]
    exact of_compared h.lanMsgTrlr (by decide) hmsgTrlr
  · rw [hmsg.2]
    exact unset_clear _

theorem answers_onObjs {i : ℕ} {x : Except (Exit Stop RmcpplusObjs) RmcpplusObjs} :
    Answers (onObjs i x) ↔ Answers x := by
  match x with
  | .ok objs => exact iff_of_true (answers_ok _) (answers_ok _)
  | .error (.unparsed objs) => exact iff_of_true (answers_unparsed _) (answers_unparsed _)
  | .error (.fail e) => exact iff_of_false (not_answers_fail e) (not_answers_fail e)

theorem onObjs_eq_ok {i : ℕ} {x : Except (Exit Stop RmcpplusObjs) RmcpplusObjs} {w : RmcpplusWalk}
    (h : onObjs i x = .ok w) : x = .ok w.objs := by
  match x with
  | .ok objs =>
    cases h
    rfl

/-- A readable packet has a payload. -/
theorem Readable.payload_ne_nil (h : Readable algorithms pkt) : payloadAt pkt ≠ [] := by
  have hlong := h.long
  have hmal := h.wellFormed
  have hne : (headerAt pkt).ipmiPayloadLen ≠ 0 := by
    intro hzero
    rw [SessionHdr.malformed, hzero, beq_self_eq_true, Bool.or_true] at hmal
    cases hmal
  intro hnil
  have hlen := congrArg List.length hnil
  rw [payloadAt, List.length_take, List.length_drop, List.length_nil] at hlen
  omega

/-- What the payload stage does, behind the headers. -/
theorem payloadStage_eq (crypto : Crypto) (algorithms : Algorithms)
    (confidentialityKey : Option (List Byte)) (hindx : w.indx = 16)
    (hhdr : sessionHdrOf w.objs.sessionHdr = .ok (headerAt pkt)) : ∃ i,
    payloadStage crypto algorithms confidentialityKey pkt w = onObjs i
      (deconstructPayload crypto algorithms confidentialityKey (headerAt pkt) (payloadAt pkt) w.objs) := by
  have htake : (pkt.drop 16).take (if (pkt.drop 16).length < (headerAt pkt).ipmiPayloadLen
      then (pkt.drop 16).length else (headerAt pkt).ipmiPayloadLen) = payloadAt pkt := by
    rw [payloadAt]
    split
    · rename_i hlt
      rw [List.take_length, List.take_of_length_le hlt.le]
    · rfl
  simp only [payloadStage, hhdr, call_ok, ok_bind, hindx, htake]
  exact ⟨_, rfl⟩

theorem ParametersValid.cipherKey (h : ParametersValid algorithms confidentialityKey flags)
    (hne : algorithms.confidentiality ≠ ipmiConfidentialityAlgorithmNone) :
    (confidentialityKey.getD []).length ≠ 0 := by
  refine h.key ?_
  have hsupported := h.confidentiality
  rw [ipmiConfidentialityAlgorithmSupported, Bool.or_eq_true, beq_iff_eq, beq_iff_eq] at hsupported
  exact hsupported.resolve_left hne

/-- With the templates compared, the walk behind the headers depends on the payload only. -/
theorem RmcpplusObjs.Passed.compared_answers (h : objs.Passed ndebug cmdTmpl)
    (hcrypto : crypto.KeepsLength) (hvalid : ParametersValid algorithms confidentialityKey flags)
    (hw : InHeader pkt objs.clear 11 16 hdrLens w) (hread : Readable algorithms pkt)
    (hcompared : objs.comparePayload (headerAt pkt).payloadType = .ok ())
    (htrlr : (headerAt pkt).hasTrlr = true →
      fiidObjTemplateCompareStrict objs.sessionTrlr tmplRmcpplusSessionTrlr = .ok ()) :
    Answers (runStages [payloadStage crypto algorithms confidentialityKey pkt,
        trlrStage algorithms pkt] { w with objs := w.objs.clearFor (headerAt pkt) }) ↔
      (Ciphered (headerAt pkt).payloadType →
        algorithms.confidentiality ≠ ipmiConfidentialityAlgorithmNone →
          Decryptable confidentialityKey (headerAt pkt).payloadEncrypted (payloadAt pkt)) ∧
      ((headerAt pkt).payloadType = ipmiPayloadTypeIpmi →
        CmdEnds cmdTmpl.fields (messageAt crypto algorithms confidentialityKey pkt)) := by
  have hlong := hread.long
  have hindx : w.indx = 16 := by
    have := hw.indx
    omega
  have hhdr : sessionHdrOf (w.objs.clearFor (headerAt pkt)).sessionHdr = .ok (headerAt pkt) := by
    rw [clearFor_sessionHdr]
    exact hw.sessionHdr hlong.le
  have hpayload : (w.objs.clearFor (headerAt pkt)).payload.Of tmplRmcpplusPayload.fields := by
    rw [clearFor_payload, hw.frame]
    have hcmp := h.compared
    simp only [RmcpplusObjs.compareTemplates] at hcmp
    obtain ⟨_, -, hcmp⟩ := bind_eq_ok.mp hcmp
    obtain ⟨_, -, hcmp⟩ := bind_eq_ok.mp hcmp
    exact of_compared h.payload (by decide) hcmp
  have hat : ({ w with objs := w.objs.clearFor (headerAt pkt) } : RmcpplusWalk).indx = 16 := hindx
  obtain ⟨i, hstage⟩ := payloadStage_eq crypto algorithms confidentialityKey hat hhdr
  rw [runStages, hstage, answers_bind, answers_onObjs,
    deconstructPayload_answers hcrypto hvalid.cipherKey
      (h.bufObjs hw.frame hread.response hcompared) hpayload hread.payload_ne_nil]
  refine and_iff_left fun w' hw' => ?_
  have hkept := (deconstructPayload_kept crypto algorithms confidentialityKey (headerAt pkt)
    (payloadAt pkt) (w.objs.clearFor (headerAt pkt))).value _ (onObjs_eq_ok hw')
  rw [runStages, answers_bind]
  refine ⟨trlrStage_answers (by rw [hkept.sessionHdr]; exact hhdr) (fun ht => ?_) (fun ht => ?_),
    fun s _ => answers_ok s⟩
  · rw [hkept.sessionTrlr, clearFor_sessionTrlr _ ht, hw.frame]
    exact of_compared h.sessionTrlr (by decide) (htrlr ht)
  · rw [hkept.sessionTrlr, clearFor_sessionTrlr _ ht]
    exact unset_clear _

/-- Behind the headers the walk goes on, or gives up, exactly when the caller has what the packet asks
    for. -/
theorem RmcpplusObjs.Passed.payload_answers (h : objs.Passed ndebug cmdTmpl)
    (hcrypto : crypto.KeepsLength) (hvalid : ParametersValid algorithms confidentialityKey flags)
    (hw : InHeader pkt objs.clear 11 16 hdrLens w) (hread : Readable algorithms pkt) :
    Answers (runStages [objsStage, payloadStage crypto algorithms confidentialityKey pkt,
        trlrStage algorithms pkt] w) ↔
      Answerable crypto algorithms confidentialityKey cmdTmpl.fields objs pkt := by
  have hhdr := hw.sessionHdr hread.long.le
  have hcompare : w.objs.comparePayload (headerAt pkt).payloadType
      = objs.comparePayload (headerAt pkt).payloadType := by
    rw [← comparePayload_clear objs, hw.frame]
    rfl
  have htrlrEq : w.objs.sessionTrlr = objs.sessionTrlr := by
    rw [hw.frame]
    rfl
  rw [runStages]
  simp only [objsStage, hhdr, call_ok, ok_bind, hcompare, htrlrEq]
  cases hcompared : objs.comparePayload (headerAt pkt).payloadType with
  | error e =>
    refine iff_of_false (not_answers_fail e) fun hcond => ?_
    cases hcond.objects.symm.trans hcompared
  | ok u =>
    have hrest := fun htrlr => h.compared_answers hcrypto hvalid hw hread hcompared htrlr
    by_cases ht : (headerAt pkt).hasTrlr = true
    · rw [if_pos ht]
      cases htrlr : fiidObjTemplateCompareStrict objs.sessionTrlr tmplRmcpplusSessionTrlr with
      | error e =>
        refine iff_of_false (not_answers_fail e) fun hcond => ?_
        cases (hcond.trlr ht).symm.trans htrlr
      | ok u' =>
        refine (hrest fun _ => htrlr).trans ⟨fun hcond => ?_, fun hcond => ?_⟩
        · exact ⟨hcompared, fun _ => htrlr, hcond.1, hcond.2⟩
        · exact ⟨hcond.decryptable, hcond.cmd⟩
    · rw [if_neg ht]
      refine (hrest fun htrue => absurd htrue ht).trans ⟨fun hcond => ?_, fun hcond => ?_⟩
      · exact ⟨hcompared, fun htrue => absurd htrue ht, hcond.1, hcond.2⟩
      · exact ⟨hcond.decryptable, hcond.cmd⟩

/-- The whole walk. -/
theorem RmcpplusObjs.Passed.stages_answer (h : objs.Passed ndebug cmdTmpl)
    (hcrypto : crypto.KeepsLength) (hvalid : ParametersValid algorithms confidentialityKey flags) :
    Answers (runStages (rmcpplusStages crypto algorithms confidentialityKey pkt) ⟨0, objs.clear⟩) ↔
      (Readable algorithms pkt →
        Answerable crypto algorithms confidentialityKey cmdTmpl.fields objs pkt) := by
  have hcmp := h.compared
  simp only [RmcpplusObjs.compareTemplates] at hcmp
  obtain ⟨_, hrmcp, hcmp⟩ := bind_eq_ok.mp hcmp
  obtain ⟨_, hsession, -⟩ := bind_eq_ok.mp hcmp
  have hsplit : rmcpplusStages crypto algorithms confidentialityKey pkt = headerStages algorithms pkt ++
      [objsStage, payloadStage crypto algorithms confidentialityKey pkt, trlrStage algorithms pkt] := rfl
  rw [hsplit, runStages_append]
  have hrmcpOf : objs.clear.rmcpHdr.Of tmplRmcpHdr.fields := of_compared h.rmcpHdr (by decide) hrmcp
  have hsessionOf : objs.clear.sessionHdr.Of tmplRmcpplusSessionHdr.fields :=
    of_compared h.sessionHdr (by decide) hsession
  rcases headerStages_ensures algorithms pkt hrmcpOf (unset_clear _) hsessionOf (unset_clear _)
    ⟨0, objs.clear⟩ rfl with ⟨w, hrun, hw, hread⟩ | ⟨w, hrun, hnot⟩
  · rw [hrun, ok_bind, h.payload_answers hcrypto hvalid hw hread]
    exact ⟨fun hcond _ => hcond, fun himp => himp hread⟩
  · rw [hrun, error_bind]
    exact iff_of_true (answers_unparsed w) fun hread => absurd hread hnot

/-- The check at the entry. -/
theorem parametersValid_iff : ParametersValid algorithms confidentialityKey flags ↔
    ¬ ((!ipmiAuthenticationAlgorithmSupported algorithms.authentication) = true
      ∨ (!ipmiIntegrityAlgorithmSupported algorithms.integrity) = true
      ∨ (!ipmiConfidentialityAlgorithmSupported algorithms.confidentiality) = true
      ∨ (algorithms.confidentiality = ipmiConfidentialityAlgorithmAesCbc128
        ∧ (confidentialityKey.getD []).length = 0)
      ∨ flags &&& ~~~ ipmiInterfaceFlagsNoLegalCheck ≠ 0) := by
  simp only [Bool.not_eq_true', not_or, Bool.not_eq_false, not_and, not_not]
  constructor
  · exact fun h => ⟨h.authentication, h.integrity, h.confidentiality, h.key, h.flags⟩
  · exact fun ⟨ha, hi, hc, hk, hf⟩ => ⟨ha, hi, hc, hk, hf⟩

/-- The parser returns 1 or 0 exactly when the parameters are valid and, for a readable packet, the
    caller has what the packet asks for. -/
theorem unassembleIpmiRmcpplusPkt_returns_iff (h : objs.Passed ndebug cmdTmpl)
    (hcrypto : crypto.KeepsLength) :
    (∃ r, unassembleIpmiRmcpplusPkt crypto algorithms confidentialityKey pkt objs flags = .ok r) ↔
      ParametersValid algorithms confidentialityKey flags ∧ (Readable algorithms pkt →
        Answerable crypto algorithms confidentialityKey cmdTmpl.fields objs pkt) := by
  rw [unassembleIpmiRmcpplusPkt]
  by_cases hvalid : ParametersValid algorithms confidentialityKey flags
  · rw [if_neg (parametersValid_iff.mp hvalid), h.compared, ok_bind, and_iff_right hvalid,
      ← h.stages_answer hcrypto hvalid, ← report_returns_iff (fun w => w.objs.accepted flags)]
    constructor
    · rintro ⟨r, hr⟩
      obtain ⟨a, ha, -⟩ := bind_eq_ok.mp hr
      exact ⟨a, ha⟩
    · rintro ⟨a, ha⟩
      exact ⟨_, bind_eq_ok.mpr ⟨a, ha, rfl⟩⟩
  · rw [if_pos (not_not.mp fun hentry => hvalid (parametersValid_iff.mpr hentry))]
    exact iff_of_false nofun fun hcond => hvalid hcond.1

end Unassemble

/-! ### A packet without the mark -/

/-- The objects for a response with the VLAN id. -/
def receivingObjs : RmcpplusObjs where
  rmcpHdr := createdObj tmplRmcpHdr 4 false
  sessionHdr := createdObj tmplRmcpplusSessionHdr 18 false
  payload := createdObj tmplRmcpplusPayload 65664 false
  lanMsgHdr := createdObj tmplLanMsgHdrRs 5 false
  cmd := createdObj tmplCmdGetLanConfigurationParametersVlanIdRs 5 true
  lanMsgTrlr := createdObj tmplLanMsgTrlr 1 false
  sessionTrlr := createdObj tmplRmcpplusSessionTrlr 38 false

theorem receivingObjs_passed :
    receivingObjs.Passed false tmplCmdGetLanConfigurationParametersVlanIdRs where
  rmcpHdr := ⟨tmplRmcpHdr, .create (by decide)⟩
  sessionHdr := ⟨tmplRmcpplusSessionHdr, .create (by decide)⟩
  payload := ⟨tmplRmcpplusPayload, .create (by rfl)⟩
  lanMsgHdr := ⟨tmplLanMsgHdrRs, .create (by decide)⟩
  cmd := .create (by decide)
  lanMsgTrlr := ⟨tmplLanMsgTrlr, .create (by decide)⟩
  sessionTrlr := ⟨tmplRmcpplusSessionTrlr, .create (by decide)⟩
  compared := by decide

def zeroCrypto : Crypto where
  hmacSha1 _ _ := List.Vector.replicate 20 0
  hmacMd5 _ _ := List.Vector.replicate 16 0
  hmacSha256 _ _ := List.Vector.replicate 32 0
  md5 _ := List.Vector.replicate 16 0
  aesCbc128Decrypt _ _ data := data

/-- A response with VLAN id 0x123, outside of a session and not marked as encrypted. -/
def plainPkt : List Byte :=
  [6, 0, 0xff, 7] ++ [6, 0x00, 0, 0, 0, 0, 0, 0, 0, 0, 11, 0] ++ [0x81, 0x34, 0x4b, 0x20, 0x04] ++
    [0x02, 0x00, 0x11, 0x23, 0x81] ++ [0x25]

/-- Without a cipher it is parsed. -/
theorem unassembleIpmiRmcpplusPkt_plain : ∃ r,
    unassembleIpmiRmcpplusPkt zeroCrypto ⟨0, 0, 0⟩ none plainPkt receivingObjs 0 = .ok r :=
  (unassembleIpmiRmcpplusPkt_returns_iff receivingObjs_passed fun _ _ _ => rfl).mpr
    ⟨⟨by decide, by decide, by decide, by decide, by decide⟩, fun _ =>
      ⟨by decide, by decide, fun _ hne => absurd rfl hne, fun _ _ => by decide⟩⟩

/-- A caller with a cipher fails an assertion. -/
theorem unassembleIpmiRmcpplusPkt_plain_asserts :
    receivingObjs.Passed false tmplCmdGetLanConfigurationParametersVlanIdRs ∧
      ParametersValid ⟨1, 1, 1⟩ (some (List.replicate 16 0)) 0 ∧
      unassembleIpmiRmcpplusPkt zeroCrypto ⟨1, 1, 1⟩ (some (List.replicate 16 0)) plainPkt
        receivingObjs 0 = .error .assertion :=
  ⟨receivingObjs_passed, ⟨by decide, by decide, by decide, by decide, by decide⟩, by rfl⟩

end FreeIpmi.Rmcpplus
