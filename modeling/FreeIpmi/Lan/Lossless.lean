import FreeIpmi.Lan.Verify
import FreeIpmi.Rmcpplus.Interface

/-! What the objects of a parsed response give back.

    The trailer is read from where the command object stopped, so the checksum is the last byte of the
    message, and no byte is lost, exactly when the command object takes all bytes between the message
    header and the last one. The same walk through a message is in both versions of the protocol
    (`MsgParsed`). -/

namespace FreeIpmi.Lan
open Fiid Calls Stages ByteBits Rmcpplus

/-! ### The bytes of objects -/

/-- What `fiid_obj_get_all` returns into a buffer of the size of the object. -/
def bytesOf (obj : FiidObj) : Except Stop (List Byte) := do
  let (len, data) ← fiidObjGetAll obj obj.data.length
  return data.take len

/-- The bytes of a message: header, command, trailer. -/
def messageBytes (objLanMsgHdr objCmd objLanMsgTrlr : FiidObj) : Except Stop (List Byte) := do
  let hdr ← bytesOf objLanMsgHdr
  let cmd ← bytesOf objCmd
  let trlr ← bytesOf objLanMsgTrlr
  return hdr ++ (cmd ++ trlr)

/-- The bytes of a packet: RMCP header, session header, message. -/
def LanObjs.bytes (objs : LanObjs) : Except Stop (List Byte) := do
  let rmcp ← bytesOf objs.rmcpHdr
  let session ← bytesOf objs.sessionHdr
  let msg ← messageBytes objs.msgHdr objs.cmd objs.msgTrlr
  return rmcp ++ (session ++ msg)

section Bytes
variable {fields : List FiidField} {obj obj' : FiidObj} {lens : List ℕ} {b d : List Byte} {n : ℕ}

theorem bytesOf_eq {k : ℕ} (h : fiidObjGetAll obj obj.data.length
    = .ok (b.length, b ++ List.replicate k 0)) : bytesOf obj = .ok b := by
  rw [bytesOf, h, ok_bind]
  exact congrArg Except.ok List.take_left

/-- An object of a given size has room for its set bytes. -/
theorem length_le_of_holds (h : obj.Holds lens b) (hof : obj.Of fields) : b.length ≤ obj.data.length := by
  have hset := h.setLen
  have hmax := setLen_le_maxLen fun f hf => hof.le_of_mem (f := f) hf
  have hdata := hof.data
  omega

theorem bytesOf_full (h : obj.Holds lens b) (hof : obj.Of fields)
    (hfull : lens = fields.map (·.maxFieldLen)) : bytesOf obj = .ok b :=
  bytesOf_eq (h.getAll_full hof hfull (length_le_of_holds h hof))

/-- A valid object of fields of fixed length, some of which may be missing. -/
theorem bytesOf_fixed (h : obj.Holds lens b) (hof : obj.Of fields) (hvalid : fiidObjPacketValid obj = true)
    (hall : ∀ g ∈ fields, fiidFieldLengthFlag g.flags = fiidFieldLengthFixed ∧
      (fiidFieldRequiredFlag g.flags = fiidFieldRequired ∨
        fiidFieldRequiredFlag g.flags = fiidFieldOptional)) : bytesOf obj = .ok b := by
  obtain ⟨n, hal, hset⟩ := align_of_packetValid hvalid
  have hfit : CellsFit 0 (obj.fields.map FiidFieldData.toCell) := by
    refine cellsFit_of_fields fun i f hf => ⟨hof.le i f hf, fun hpos hlt => ?_⟩
    have hmem : f ∈ obj.fields := List.mem_of_getElem? hf
    have hfield : f.toField ∈ fields := by
      rw [← show obj.fields.map FiidFieldData.toField = fields from hof.fields]
      exact List.mem_map_of_mem hmem
    obtain ⟨hfixed, hkind⟩ := hall _ hfield
    obtain ⟨hreq, hopt⟩ := fixed_of_packetValid hvalid hmem hfixed
    rcases hkind with hkind | hkind
    · have := hreq hkind
      omega
    · have := hopt hkind
      omega
  have hlen := h.setLen
  have hroom := length_le_of_holds h hof
  obtain ⟨-, -, hget⟩ := getAll_ok hof hal hset hfit (show setLen obj.fields ≤ 8 * obj.data.length by omega)
  rw [hlen, h.pack_setBits, Nat.mul_div_cancel_left _ (by norm_num)] at hget
  exact bytesOf_eq hget

/-- The command object gives back the bytes that it took. -/
theorem bytesOf_filled (hof : obj.Of fields) (hunset : obj.Unset) (hfill : Filled fields obj obj' d n) :
    bytesOf obj' = .ok (d.take n) := by
  have hlen := hfill.len
  have hdata := hfill.of.dataLen
  have htake : (d.take n).length = n := by
    rw [List.length_take]
    omega
  have hget := getAll_of_setAll hof hunset hfill.call (show n ≤ obj'.data.length by omega)
  refine bytesOf_eq (k := obj'.data.length - n) ?_
  rw [htake]
  exact hget

end Bytes

/-! ### A parsed message -/

/-- The checksum is the last byte of the message, and the objects give back the message. -/
structure MessageKept (msg : List Byte) (objLanMsgHdr objCmd objLanMsgTrlr : FiidObj) : Prop where
  checksum2 : fiidObjGetStrict objLanMsgTrlr "checksum2" = .ok ((msg.getLastD 0).setWidth 64)
  bytes : messageBytes objLanMsgHdr objCmd objLanMsgTrlr = .ok msg

/-- The message was cut behind its header and behind the `n` bytes that the command took. -/
structure MsgParsed (cmdFields : List FiidField) (msg : List Byte) (n : ℕ)
    (objLanMsgHdr objCmd objLanMsgTrlr : FiidObj) : Prop where
  long : 6 < msg.length
  len : 8 * n = min (8 * (msg.length - 6)) (bitLen cmdFields)
  hdr : bytesOf objLanMsgHdr = .ok (msg.take 5)
  cmd : bytesOf objCmd = .ok ((msg.drop 5).take n)
  trlr : bytesOf objLanMsgTrlr = .ok ((msg.drop (5 + n)).take 1)
  checksum2 : fiidObjGetStrict objLanMsgTrlr "checksum2" = .ok ((msg.getD (5 + n) 0).setWidth 64)

section Parsed
variable {cmdFields : List FiidField} {msg : List Byte} {n : ℕ} {objLanMsgHdr objCmd objLanMsgTrlr : FiidObj}

/-- The three parts of a message, as the parsers leave them in the objects. -/
theorem MsgParsed.of {obj : FiidObj} (hlong : 6 < msg.length)
    (hhdrOf : objLanMsgHdr.Of tmplLanMsgHdrRs.fields) (hhdr : objLanMsgHdr.Holds msgHdrLens (msg.take 5))
    (hof : obj.Of cmdFields) (hunset : obj.Unset)
    (hfill : Filled cmdFields obj objCmd ((msg.drop 5).take (msg.length - 6)) n)
    (htrlrOf : objLanMsgTrlr.Of tmplLanMsgTrlr.fields)
    (htrlr : objLanMsgTrlr.Holds [8] ((msg.drop (5 + n)).take 1)) :
    MsgParsed cmdFields msg n objLanMsgHdr objCmd objLanMsgTrlr := by
  have hlen := hfill.len
  have hcmdLen : ((msg.drop 5).take (msg.length - 6)).length = msg.length - 6 := by
    rw [List.length_take, List.length_drop]
    omega
  rw [hcmdLen] at hlen
  have hn : n ≤ msg.length - 6 := by omega
  have hcmd := bytesOf_filled hof hunset hfill
  rw [List.take_take, min_eq_left hn] at hcmd
  have hbyte : ((msg.drop (5 + n)).take 1)[0]? = some (msg.getD (5 + n) 0) := by
    have hlt : 5 + n < msg.length := by omega
    rw [List.getElem?_take_of_lt (by norm_num), List.getElem?_drop, Nat.add_zero,
      List.getElem?_eq_getElem hlt, List.getD_eq_getElem _ _ hlt]
  have hplace : valuePlace tmplLanMsgTrlr.fields [8] "checksum2" = some (0, 8) := rfl
  have hval := valueAt_byte hbyte
  rw [Nat.mul_zero] at hval
  refine ⟨hlong, hlen, bytesOf_full hhdr hhdrOf rfl, hcmd, bytesOf_full htrlr htrlrOf rfl, ?_⟩
  rw [htrlr.getStrict htrlrOf hplace, hval]

/-- What is given back is the message up to the byte that was taken for the checksum. -/
theorem MsgParsed.messageBytes (h : MsgParsed cmdFields msg n objLanMsgHdr objCmd objLanMsgTrlr) :
    messageBytes objLanMsgHdr objCmd objLanMsgTrlr = .ok (msg.take (6 + n)) := by
  have hsplit : msg.take 5 ++ ((msg.drop 5).take n ++ (msg.drop (5 + n)).take 1) = msg.take (6 + n) := by
    rw [← List.drop_drop, ← List.take_add, ← List.take_add, show 5 + (n + 1) = 6 + n by omega]
  simp only [Lan.messageBytes, h.hdr, h.cmd, h.trlr, ok_bind]
  exact congrArg Except.ok hsplit

/-- Nothing is lost exactly when the command object has room for the whole command. -/
theorem MsgParsed.kept_iff (h : MsgParsed cmdFields msg n objLanMsgHdr objCmd objLanMsgTrlr) :
    MessageKept msg objLanMsgHdr objCmd objLanMsgTrlr ↔ 8 * (msg.length - 6) ≤ bitLen cmdFields := by
  have hlong := h.long
  have hlen := h.len
  constructor
  · rintro ⟨-, hbytes⟩
    rw [h.messageBytes] at hbytes
    have htake := congrArg List.length (Except.ok.inj hbytes)
    rw [List.length_take] at htake
    omega
  · intro hfit
    have hn : 6 + n = msg.length := by omega
    refine ⟨?_, ?_⟩
    · rw [h.checksum2]
      have hlast : msg.getD (5 + n) 0 = msg.getLastD 0 := by
        rw [List.getLastD_eq_getLast?, List.getLast?_eq_getElem?, List.getD_eq_getElem?_getD]
        congr 2
        omega
      rw [hlast]
    · rw [h.messageBytes, hn, List.take_length]

end Parsed

/-- An object that took as many bytes as it has fields for. -/
theorem holds_of_filled {fields : List FiidField} {obj obj' : FiidObj} {d : List Byte} {n : ℕ}
    (h : Filled fields obj obj' d n) (hfull : bitLen fields ≤ 8 * d.length) :
    obj'.Holds (fields.map (·.maxFieldLen)) (d.take n) := by
  have hlen := h.len
  have hholds := holds_of_window (h.full hfull) (show 0 + n ≤ d.length by omega) (by rw [h.bits])
  rwa [List.drop_zero] at hholds

/-! ### IPMI 1.5 -/

/-- The checksum is the last byte of the packet, and the objects give back the packet. -/
structure PacketKept (pkt : List Byte) (objs : LanObjs) : Prop where
  checksum2 : fiidObjGetStrict objs.msgTrlr "checksum2" = .ok ((pkt.getLastD 0).setWidth 64)
  bytes : objs.bytes = .ok pkt

section Lan
variable {pkt : List Byte} {cmdFields : List FiidField} {fl : List (BitVec 32)} {n : ℕ} {w : Walk}

theorem AtEnd.msgParsed (hw : AtEnd pkt cmdFields fl (authenticationTypeAt pkt) n w) :
    MsgParsed cmdFields (pkt.drop (14 + codeLen (authenticationTypeAt pkt))) n w.objs.msgHdr w.objs.cmd
      w.objs.msgTrlr := by
  obtain ⟨obj, hof, hunset, hfill⟩ := hw.cmd
  have hlong := hw.reaches.2
  have hc := hw.contents
  have hcmd : cmdBytes pkt (authenticationTypeAt pkt)
      = ((pkt.drop (14 + codeLen (authenticationTypeAt pkt))).drop 5).take
        ((pkt.drop (14 + codeLen (authenticationTypeAt pkt))).length - 6) := by
    rw [cmdBytes, List.drop_drop, List.length_drop]
    congr 1
    · omega
    · congr 1
      omega
  have htrlr : (pkt.drop (14 + codeLen (authenticationTypeAt pkt))).drop (5 + n)
      = pkt.drop (19 + codeLen (authenticationTypeAt pkt) + n) := by
    rw [List.drop_drop]
    congr 1
    omega
  rw [hcmd] at hfill
  refine MsgParsed.of ?_ hw.walked.msgHdr hc.msgHdr hof hunset hfill hw.walked.msgTrlr ?_
  · rw [List.length_drop]
    omega
  · rw [htrlr]
    exact hc.msgTrlr

/-- The two headers in front of the message lose nothing. -/
theorem AtEnd.bytes (hw : AtEnd pkt cmdFields fl (authenticationTypeAt pkt) n w)
    (hsession : fiidObjPacketValid w.objs.sessionHdr = true) :
    w.objs.bytes = (do
      let msg ← messageBytes w.objs.msgHdr w.objs.cmd w.objs.msgTrlr
      return pkt.take (14 + codeLen (authenticationTypeAt pkt)) ++ msg) := by
  have hc := hw.contents
  have hrmcp : bytesOf w.objs.rmcpHdr = .ok (pkt.take 4) := bytesOf_full hc.rmcpHdr hw.walked.rmcpHdr rfl
  have hhdr := bytesOf_fixed hc.sessionHdr hw.walked.sessionHdr hsession (by decide)
  have hsplit : pkt.take 4 ++ (pkt.drop 4).take (10 + codeLen (authenticationTypeAt pkt))
      = pkt.take (14 + codeLen (authenticationTypeAt pkt)) := by
    rw [← List.take_add]
    congr 1
    omega
  simp only [LanObjs.bytes, hrmcp, hhdr, ok_bind, ← List.append_assoc, hsplit]

/-- The whole packet is kept when its message is. -/
theorem AtEnd.kept_iff (hw : AtEnd pkt cmdFields fl (authenticationTypeAt pkt) n w)
    (hsession : fiidObjPacketValid w.objs.sessionHdr = true) :
    PacketKept pkt w.objs ↔ MessageKept (pkt.drop (14 + codeLen (authenticationTypeAt pkt))) w.objs.msgHdr
      w.objs.cmd w.objs.msgTrlr := by
  have hlong := hw.reaches.2
  have hlast : (pkt.drop (14 + codeLen (authenticationTypeAt pkt))).getLastD 0 = pkt.getLastD 0 := by
    rw [List.getLastD_eq_getLast?, List.getLastD_eq_getLast?, List.getLast?_drop, if_neg (by omega)]
  have hbytes := hw.bytes hsession
  have hmsg := hw.msgParsed.messageBytes
  rw [hmsg, ok_bind] at hbytes
  constructor
  · rintro ⟨hchecksum, hkept⟩
    refine ⟨by rw [hlast]; exact hchecksum, ?_⟩
    rw [hbytes] at hkept
    have happ := Except.ok.inj hkept
    conv_rhs at happ => rw [← List.take_append_drop (14 + codeLen (authenticationTypeAt pkt)) pkt]
    rw [hmsg, List.append_cancel_left happ]
  · rintro ⟨hchecksum, hkept⟩
    refine ⟨by rw [← hlast]; exact hchecksum, ?_⟩
    rw [hmsg] at hkept
    rw [hbytes, Except.ok.inj hkept]
    exact congrArg Except.ok (List.take_append_drop _ _)

/-- A packet that `unassemble_ipmi_lan_pkt` accepts is kept exactly when its command fits. -/
theorem LanObjs.Passed.kept_iff {ndebug : Bool} {cmdTmpl : FiidTemplate} {objs objs' : LanObjs}
    {flags : BitVec 32} (h : objs.Passed ndebug cmdTmpl)
    (hret : unassembleIpmiLanPkt pkt objs flags = .ok (true, objs')) :
    PacketKept pkt objs' ↔
      8 * (cmdBytes pkt (authenticationTypeAt pkt)).length ≤ bitLen cmdTmpl.fields := by
  obtain ⟨hflags, hal⟩ := h.of_returns hret
  obtain ⟨accepted, w, hcall, hw⟩ := h.returns hflags hal
  rw [hret] at hcall
  cases hcall
  rcases hw with ⟨n, hw, hacc⟩ | ⟨-, hacc⟩
  · have hacc := hacc.symm
    simp only [LanObjs.accepted, Bool.and_eq_true] at hacc
    obtain ⟨⟨⟨⟨-, hsession⟩, -⟩, -⟩, -⟩ := hacc
    have hlong := hw.reaches.2
    rw [hw.kept_iff hsession, hw.msgParsed.kept_iff, length_cmdBytes hlong, List.length_drop]
    have hsub : pkt.length - (14 + codeLen (authenticationTypeAt pkt)) - 6
        = pkt.length - (20 + codeLen (authenticationTypeAt pkt)) := by omega
    rw [hsub]
  · cases hacc

end Lan

/-! ### IPMI 2.0 -/

/-- The objects with which `_deconstruct_payload_buf` is called: the templates are those that it
    asserts, and the caller has cleared them. -/
structure PayloadObjs (ndebug : Bool) (cmdTmpl : FiidTemplate) (objs : RmcpplusObjs) : Prop where
  lanMsgHdr : ∃ tmpl, Reachable ndebug tmpl objs.lanMsgHdr
  cmd : Reachable ndebug cmdTmpl objs.cmd
  lanMsgTrlr : ∃ tmpl, Reachable ndebug tmpl objs.lanMsgTrlr
  comparedHdr : fiidObjTemplateCompareStrict objs.lanMsgHdr tmplLanMsgHdrRs = .ok ()
  comparedTrlr : fiidObjTemplateCompareStrict objs.lanMsgTrlr tmplLanMsgTrlr = .ok ()
  unsetHdr : objs.lanMsgHdr.Unset
  unsetCmd : objs.cmd.Unset
  unsetTrlr : objs.lanMsgTrlr.Unset

section Payload
variable {ndebug : Bool} {cmdTmpl : FiidTemplate} {objs objs' : RmcpplusObjs} {buf : List Byte}

/-- `fiid_obj_set_all` returns only for data that it can represent. -/
theorem trySetAll_ok {fields : List FiidField} {obj obj' : FiidObj} {d : List Byte} {n : ℕ}
    (hof : obj.Of fields) (hunset : obj.Unset) (h : trySetAll obj d = .ok (obj', n)) :
    Filled fields obj obj' d n := by
  by_cases hal : EndsByteAligned fields d.length
  · obtain ⟨obj'', n', hcall, hfill⟩ := trySetAll_filled hof hunset hal
    rw [h] at hcall
    cases hcall
    exact hfill
  · rw [trySetAll_error hof hal] at h
    cases h

theorem PayloadObjs.hdrOf (h : PayloadObjs ndebug cmdTmpl objs) :
    objs.lanMsgHdr.Of tmplLanMsgHdrRs.fields := by
  obtain ⟨tmpl, hr⟩ := h.lanMsgHdr
  exact hr.wf.of_compare (by decide) h.comparedHdr

theorem PayloadObjs.trlrOf (h : PayloadObjs ndebug cmdTmpl objs) :
    objs.lanMsgTrlr.Of tmplLanMsgTrlr.fields := by
  obtain ⟨tmpl, hr⟩ := h.lanMsgTrlr
  exact hr.wf.of_compare (by decide) h.comparedTrlr

/-- A message that `_deconstruct_payload_buf` takes apart is cut as an IPMI 1.5 message is. -/
theorem PayloadObjs.msgParsed (h : PayloadObjs ndebug cmdTmpl objs)
    (hret : deconstructMsg buf objs = .ok objs') :
    ∃ n, MsgParsed cmdTmpl.fields buf n objs'.lanMsgHdr objs'.cmd objs'.lanMsgTrlr := by
  have htrlrLen : orTemplateInvalid (fiidTemplateLenBytes tmplLanMsgTrlr) = .ok 1 := by decide
  obtain ⟨hdr, m, hhdrCall, hhdr⟩ := trySetAll_filled h.hdrOf h.unsetHdr (endsByteAligned_msgHdr buf.length)
  have hm := hhdr.len
  rw [show bitLen tmplLanMsgHdrRs.fields = 40 from rfl] at hm
  simp only [deconstructMsg, htrlrLen, hhdrCall, call_ok, ok_bind] at hret
  split at hret
  · cases hret
  · rename_i hmore
    split at hret
    · cases hret
    · rename_i hlong
      have hm5 : m = 5 := by omega
      subst hm5
      have hsub : buf.length - 5 - 1 = buf.length - 6 := by omega
      obtain ⟨⟨cmd, n⟩, hcall, hret⟩ := bind_eq_ok.mp hret
      rw [hsub] at hcall
      cases hcmdCall : trySetAll objs.cmd ((buf.drop 5).take (buf.length - 6)) with
      | error e =>
        rw [hcmdCall] at hcall
        cases hcall
      | ok r =>
        rw [hcmdCall] at hcall
        cases hcall
        have hcmd := trySetAll_ok h.cmd.wf.of h.unsetCmd hcmdCall
        split at hret
        · cases hret
        · rename_i hrest
          obtain ⟨trlr, k, htrlrCall, htrlr⟩ := trySetAll_filled h.trlrOf h.unsetTrlr
            (endsByteAligned_msgTrlr (buf.drop (5 + n)).length)
          have hk := htrlr.len
          have hone : bitLen tmplLanMsgTrlr.fields = 8 := rfl
          rw [hone, List.length_drop] at hk
          have hk1 : k = 1 := by omega
          subst hk1
          rw [htrlrCall] at hret
          cases hret
          have hhdrHolds := holds_of_filled hhdr (by
            rw [show bitLen tmplLanMsgHdrRs.fields = 40 from rfl]
            omega)
          have htrlrHolds := holds_of_filled htrlr (by
            rw [hone, List.length_drop]
            omega)
          exact ⟨n, MsgParsed.of (by omega) hhdr.of hhdrHolds h.cmd.wf.of h.unsetCmd hcmd htrlr.of
            htrlrHolds⟩

/-- A payload of any other kind is all command. -/
theorem PayloadObjs.cmdKept_iff {payloadType : Byte} (hcmd : Reachable ndebug cmdTmpl objs.cmd)
    (hunset : objs.cmd.Unset) (hother : payloadType ≠ ipmiPayloadTypeIpmi)
    (hret : deconstructPayloadBuf payloadType buf objs = .ok objs') :
    bytesOf objs'.cmd = .ok buf ↔ 8 * buf.length ≤ bitLen cmdTmpl.fields := by
  rw [deconstructPayloadBuf, if_neg hother] at hret
  cases hcall : trySetAll objs.cmd buf with
  | error e =>
    rw [hcall] at hret
    cases hret
  | ok r =>
    rw [hcall] at hret
    cases hret
    have hfill := trySetAll_ok hcmd.wf.of hunset hcall
    have hlen := hfill.len
    rw [bytesOf_filled hcmd.wf.of hunset hfill]
    constructor
    · intro htake
      have hshort := congrArg List.length (Except.ok.inj htake)
      rw [List.length_take] at hshort
      omega
    · intro hfit
      rw [List.take_of_length_le (by omega)]

/-- Both parsers keep all bytes, and take the last one for the checksum, exactly when the command fits
    into its object: in a packet of IPMI 1.5, in the message of a payload, and in any other payload. -/
theorem parse_kept_iff (ndebug : Bool) (cmdTmpl : FiidTemplate) :
    (∀ objs objs' pkt flags, objs.Passed ndebug cmdTmpl →
      unassembleIpmiLanPkt pkt objs flags = .ok (true, objs') →
      (PacketKept pkt objs' ↔
        8 * (cmdBytes pkt (authenticationTypeAt pkt)).length ≤ bitLen cmdTmpl.fields)) ∧
    (∀ objs objs' msg, PayloadObjs ndebug cmdTmpl objs →
      deconstructPayloadBuf ipmiPayloadTypeIpmi msg objs = .ok objs' →
      (MessageKept msg objs'.lanMsgHdr objs'.cmd objs'.lanMsgTrlr ↔
        8 * (msg.length - 6) ≤ bitLen cmdTmpl.fields)) ∧
    (∀ objs objs' payloadType buf, Reachable ndebug cmdTmpl objs.cmd → objs.cmd.Unset →
      payloadType ≠ ipmiPayloadTypeIpmi →
      deconstructPayloadBuf payloadType buf objs = .ok objs' →
      (bytesOf objs'.cmd = .ok buf ↔ 8 * buf.length ≤ bitLen cmdTmpl.fields)) := by
  refine ⟨?_, ?_, ?_⟩
  · intro objs objs' pkt flags h hret
    exact h.kept_iff hret
  · intro objs objs' msg h hret
    rw [deconstructPayloadBuf, if_pos rfl] at hret
    obtain ⟨n, hparsed⟩ := h.msgParsed hret
    exact hparsed.kept_iff
  · intro objs objs' payloadType buf hcmd hunset hother hret
    exact PayloadObjs.cmdKept_iff hcmd hunset hother hret

end Payload

theorem parse_kept_vlanId : ∃ objs', unassembleIpmiLanPkt vlanIdPkt vlanIdObjs 0 = .ok (true, objs') ∧
    PacketKept vlanIdPkt objs' := by
  have hkept := (parse_kept_iff false tmplCmdGetLanConfigurationParametersVlanIdRs).1 vlanIdObjs _ vlanIdPkt 0
    vlanIdObjs_passed (show unassembleIpmiLanPkt vlanIdPkt vlanIdObjs 0 = .ok (true, _) from rfl)
  exact ⟨_, rfl, hkept.mpr (by decide)⟩

/-- The response with one more byte than its template, 0xAA, and the checksum 0x7B. -/
def longVlanIdPkt : List Byte := (vlanIdPkt.set 13 12).take 24 ++ [0xAA, 0x7B]

/-- The byte too many is taken for the checksum, and the checksum is lost. -/
theorem parse_longVlanId : ∃ objs',
    unassembleIpmiLanPkt longVlanIdPkt vlanIdObjs 0 = .ok (true, objs') ∧
      fiidObjGetStrict objs'.msgTrlr "checksum2" = .ok 0xAA ∧ longVlanIdPkt.getLastD 0 = 0x7B ∧
      ¬ PacketKept longVlanIdPkt objs' := by
  have hread : ∃ objs', unassembleIpmiLanPkt longVlanIdPkt vlanIdObjs 0 = .ok (true, objs') ∧
      fiidObjGetStrict objs'.msgTrlr "checksum2" = .ok 0xAA := ⟨_, rfl, rfl⟩
  obtain ⟨objs', hret, hchecksum⟩ := hread
  refine ⟨objs', hret, hchecksum, rfl, fun hkept => ?_⟩
  have hlast := hkept.checksum2
  rw [hchecksum] at hlast
  exact absurd (Except.ok.inj hlast) (by decide)

end FreeIpmi.Lan
