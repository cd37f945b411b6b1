import FreeIpmi.Fiid.Written
import FreeIpmi.Lib.LittleEndian
import FreeIpmi.Lan.RoundTrip

/-! The lengths that an IPMI 1.5 packet declares (`interface/ipmi-lan-interface.c`).

    Every part is put behind what is already written, so the packet grows by as many bytes as the
    part has. `ipmi_msg_len` is one byte, and nothing keeps a message below 256 bytes. -/

namespace FreeIpmi.Lan
open Fiid Calls LittleEndian

/-! ### Parts behind one another -/

/-- `a` is written to the front of a zeroed buffer of `pktLen` bytes, and the index is behind it. -/
structure Front (pktLen : ℕ) (a : List Byte) (r : List Byte × ℕ) : Prop where
  le : a.length ≤ pktLen
  buffer : r.1 = a ++ List.replicate (pktLen - a.length) 0
  index : r.2 = a.length

theorem Front.nil (pktLen : ℕ) : Front pktLen [] (List.replicate pktLen 0, 0) :=
  ⟨Nat.zero_le _, rfl, rfl⟩

/-- A written buffer behind `a`. -/
theorem Front.append {pktLen : ℕ} {a : List Byte} {r : List Byte × ℕ} (h : Front pktLen a r)
    {len : ℕ} {buf : List Byte} (hw : Written (pktLen - a.length) len buf) :
    ∃ b, b.length = len ∧ Front pktLen (a ++ b) (splice r.1 r.2 buf, r.2 + len) := by
  obtain ⟨b, rfl, rfl⟩ := hw.parts
  have hle := hw.le
  have hfit := h.le
  refine ⟨b, rfl, ⟨?_, ?_, ?_⟩⟩
  · rw [List.length_append]
    omega
  · rw [h.buffer, h.index, splice_behind hle, List.length_append, Nat.sub_sub]
  · rw [h.index, List.length_append]

theorem Front.rest {pktLen : ℕ} {a : List Byte} {r : List Byte × ℕ} (h : Front pktLen a r) :
    r.1.length - r.2 = pktLen - a.length := by
  rw [h.buffer, h.index, length_rest]

theorem putAll_front {pktLen : ℕ} {a : List Byte} {r : List Byte × ℕ} (h : Front pktLen a r)
    (obj : FiidObj) : Meets (putAll r.1 r.2 obj)
      (fun r' => ∃ b, b.length = bitsRoundBytes (fiidObjLen obj) ∧ Front pktLen (a ++ b) r')
      (· ≠ .assertion) := by
  rw [putAll, h.rest]
  refine (getAll_written obj _).bind ?_
  rintro ⟨len, buf⟩ ⟨rfl, hw⟩
  exact Meets.ok (h.append hw)

theorem putBlock_front {pktLen : ℕ} {a : List Byte} {r : List Byte × ℕ} (h : Front pktLen a r)
    (obj : FiidObj) (fieldStart fieldEnd : String) : Meets (putBlock r.1 r.2 obj fieldStart fieldEnd)
      (fun r' => ∃ b, fiidObjBlockLenBytes obj fieldStart fieldEnd = .ok b.length ∧
        Front pktLen (a ++ b) r') (· ≠ .assertion) := by
  rw [putBlock, h.rest]
  refine (getBlock_written obj fieldStart fieldEnd _).bind ?_
  rintro ⟨len, buf⟩ ⟨hlen, hw⟩
  obtain ⟨b, rfl, hfront⟩ := h.append hw
  exact Meets.ok ⟨b, hlen, hfront⟩

/-! ### Complete objects -/

/-- The fields of an object in which everything is set. -/
def completeFields (tmpl : FiidTemplate) : List FiidFieldData :=
  tmpl.fields.map fun g => ⟨g.maxFieldLen, g.key, g.maxFieldLen, g.flags, g.maxFieldLen_pos⟩

/-- A valid object of a template without optional or variable fields is complete. -/
theorem fields_of_packetValid {obj : FiidObj} {tmpl : FiidTemplate}
    (hfields : obj.fields.map FiidFieldData.toField = tmpl.fields)
    (hvalid : fiidObjPacketValid obj = true)
    (hall : ∀ g ∈ tmpl.fields, fiidFieldLengthFlag g.flags = fiidFieldLengthFixed ∧
      fiidFieldRequiredFlag g.flags = fiidFieldRequired) : obj.fields = completeFields tmpl := by
  have hcomplete : ∀ f ∈ obj.fields, (⟨f.toField.maxFieldLen, f.toField.key, f.toField.maxFieldLen,
      f.toField.flags, f.toField.maxFieldLen_pos⟩ : FiidFieldData) = f := by
    intro f hf
    have hmem : f.toField ∈ tmpl.fields := by
      rw [← hfields]
      exact List.mem_map_of_mem hf
    obtain ⟨hfixed, hrequired⟩ := hall _ hmem
    have hset := (fixed_of_packetValid hvalid hf hfixed).1 hrequired
    obtain ⟨maxFieldLen, key, setFieldLen, flags, hpos⟩ := f
    obtain rfl : setFieldLen = maxFieldLen := hset
    rfl
  rw [completeFields, ← hfields, List.map_map]
  exact ((List.map_congr_left hcomplete).trans (List.map_id' _)).symm

section Message
variable {objLanMsgHdr : FiidObj}

/-- The two halves of a complete message header. -/
theorem blockLenBytes_msgHdr (hhdr : objLanMsgHdr.fields = completeFields tmplLanMsgHdrRq) :
    fiidObjBlockLenBytes objLanMsgHdr "rs_addr" "checksum1" = .ok 3 ∧
      fiidObjBlockLenBytes objLanMsgHdr "rq_addr" "rq_seq" = .ok 2 := by
  simp only [fiidObjBlockLenBytes, fiidObjBlockLen, fiidObjLookupFieldIndex, hhdr]
  exact ⟨by decide, by decide⟩

theorem putMessage_front {ndebug : Bool} {pktLen : ℕ} {a : List Byte} {r : List Byte × ℕ}
    (h : Front pktLen a r) (hhdr : objLanMsgHdr.fields = completeFields tmplLanMsgHdrRq)
    (objCmd : FiidObj) : Meets (putMessage ndebug r.1 r.2 objLanMsgHdr objCmd)
      (fun r' => ∃ msg, msg.length = 6 + bitsRoundBytes (fiidObjLen objCmd) ∧
        Front pktLen (a ++ msg) r') (· ≠ .assertion) := by
  obtain ⟨hlen1, hlen2⟩ := blockLenBytes_msgHdr hhdr
  refine (putBlock_front h objLanMsgHdr "rs_addr" "checksum1").bind ?_
  rintro r₁ ⟨b₁, hb₁, h₁⟩
  refine (putBlock_front h₁ objLanMsgHdr "rq_addr" "rq_seq").bind ?_
  rintro r₂ ⟨b₂, hb₂, h₂⟩
  refine (putAll_front h₂ objCmd).bind ?_
  rintro r₃ ⟨b₃, hb₃, h₃⟩
  obtain ⟨objLanMsgTrlr, obj', hcreate, hset, hreads⟩ := trlr_reads ndebug
    (ipmiChecksum ((r₃.1.drop r₁.2).take (r₃.2 - r₁.2)))
  simp only [hcreate, hset]
  refine (putAll_front h₃ obj').weaken ?_
  rintro r₄ ⟨b₄, hb₄, h₄⟩
  refine ⟨b₁ ++ b₂ ++ b₃ ++ b₄, ?_, by simpa only [List.append_assoc] using h₄⟩
  rw [hlen1] at hb₁
  rw [hlen2] at hb₂
  have htrlr : bitsRoundBytes (fiidObjLen obj') = 1 :=
    ((bytesOfSetBits_meets _).value _ hreads.lenBytes).1.symm
  have hlen₁ : 3 = b₁.length := Except.ok.inj hb₁
  have hlen₂ : 2 = b₂.length := Except.ok.inj hb₂
  simp only [List.length_append]
  omega

end Message

/-! ### The authentication code -/

/-- What a call returns is what it returns. -/
theorem returns {α : Type} (x : Except Stop α) : Meets x (fun a => x = .ok a) (fun _ => True) :=
  ⟨fun _ h => h, fun _ _ => trivial⟩

/-- The code fills its gap. -/
theorem authenticationCode_length (digests : Digests) (t : Byte) (objLanSessionHdr : FiidObj)
    {password : List Byte} (hpw : password.length ≤ ipmi15MaxPasswordLength) (msg : List Byte) :
    Meets (authenticationCode digests t objLanSessionHdr password msg)
      (fun code => code.length = codeLen t) (fun _ => True) := by
  rw [authenticationCode, codeLen]
  by_cases hnone : t = ipmiAuthenticationTypeNone
  · rw [if_pos hnone, if_pos hnone]
    exact Meets.ok rfl
  rw [if_neg hnone, if_neg hnone]
  refine (returns _).bind fun len _ => Meets.ite (fun _ => ?_) fun _ => ?_
  · refine ((getData_length objLanSessionHdr _ _).mono (fun _ h => h) fun _ _ => trivial).bind ?_
    intro code hcode
    exact Meets.ok (length_pwbuf hcode)
  refine Meets.ite (fun _ => Meets.ok (length_pwbuf hpw)) fun _ => ?_
  refine (returns _).bind fun sessionId _ => (returns _).bind fun sequenceNumber _ => ?_
  exact Meets.ite (fun _ => Meets.ok (List.Vector.toList_length _)) fun _ =>
    Meets.ok (List.Vector.toList_length _)

/-! ### The declared length -/

/-- The first `n` bytes of a buffer of `pktLen` bytes are a head, a length field, the body that the
    field gives the length of, and a trailer; the rest of the buffer is untouched. -/
structure Declares (head len body trlr : List Byte) (pktLen n : ℕ) (pkt : List Byte) : Prop where
  buffer : pkt = (head ++ len ++ body ++ trlr) ++ List.replicate (pktLen - n) 0
  stop : n = (head ++ len ++ body ++ trlr).length
  fits : n ≤ pktLen
  right : leValue len = body.length

/-- How many bytes stand in front of `ipmi_msg_len`: the RMCP header, the session header, and the
    authentication code. -/
def LanHead (objRmcpHdr objLanSessionHdr : FiidObj) (k : ℕ) : Prop :=
  ∃ t rmcpLen sessionLen, authenticationTypeOf objLanSessionHdr = .ok t ∧
    fiidObjLenBytes objRmcpHdr = .ok rmcpLen ∧
    fiidObjBlockLenBytes objLanSessionHdr "authentication_type" "session_id" = .ok sessionLen ∧
    k = rmcpLen + sessionLen + codeLen t

theorem LanHead.unique {objRmcpHdr objLanSessionHdr : FiidObj} {k k' : ℕ}
    (h : LanHead objRmcpHdr objLanSessionHdr k) (h' : LanHead objRmcpHdr objLanSessionHdr k') :
    k = k' := by
  obtain ⟨t, rmcpLen, sessionLen, ht, hrmcp, hsession, rfl⟩ := h
  obtain ⟨t', rmcpLen', sessionLen', ht', hrmcp', hsession', rfl⟩ := h'
  rw [ht] at ht'
  rw [hrmcp] at hrmcp'
  rw [hsession] at hsession'
  cases ht'
  cases hrmcp'
  cases hsession'
  rfl

/-- What `assemble_ipmi_lan_pkt` returns has a true `ipmi_msg_len`, and ends with the message. -/
def LanLengthsTrue (objRmcpHdr objLanSessionHdr : FiidObj) (pktLen : ℕ) (r : ℕ × List Byte) : Prop :=
  ∃ head len body, LanHead objRmcpHdr objLanSessionHdr head.length ∧ len.length = 1 ∧
    Declares head len body [] pktLen r.1 r.2

/-- The index behind the gap that the code and the message length are put into later. -/
theorem Front.gap {pktLen : ℕ} {a : List Byte} {r : List Byte × ℕ} (h : Front pktLen a r) {c : ℕ}
    (hroom : a.length + c + 1 ≤ pktLen) :
    Front pktLen (a ++ (List.replicate c 0 ++ [0])) (r.1, r.2 + c + 1) := by
  refine ⟨?_, ?_, ?_⟩
  · simpa [Nat.add_assoc] using hroom
  · rw [h.buffer, open_gap (by omega : c + 1 ≤ pktLen - a.length)]
    simp [Nat.sub_sub]
  · simp [h.index, Nat.add_assoc]

/-- Without room for the gap there is none for the message header. -/
theorem putMessage_noRoom {ndebug : Bool} {pkt : List Byte} {indx : ℕ} {objLanMsgHdr : FiidObj}
    (hhdr : objLanMsgHdr.fields = completeFields tmplLanMsgHdrRq) (objCmd : FiidObj)
    (hroom : pkt.length ≤ indx) :
    Meets (putMessage ndebug pkt indx objLanMsgHdr objCmd) (fun _ => False) (fun _ => True) := by
  have hput : Meets (putBlock pkt indx objLanMsgHdr "rs_addr" "checksum1") (fun _ => False)
      (fun _ => True) := by
    rw [putBlock, Nat.sub_eq_zero_of_le hroom]
    refine ((getBlock_written objLanMsgHdr _ _ 0).mono (fun _ h => h) fun _ _ => trivial).bind ?_
    rintro ⟨len, buf⟩ ⟨hlen, hw⟩
    rw [(blockLenBytes_msgHdr hhdr).1] at hlen
    obtain rfl : 3 = len := Except.ok.inj hlen
    have hle : 3 ≤ 0 := hw.le
    omega
  exact hput.bind fun _ h => h.elim

/-- The layout of a packet, for every call. -/
theorem assembleIpmiLanPkt_layout (ndebug : Bool) (digests : Digests)
    (objRmcpHdr objLanSessionHdr objLanMsgHdr objCmd : FiidObj) (password : List Byte) (pktLen : ℕ)
    (flags : BitVec 32) :
    Meets (assembleIpmiLanPkt ndebug digests objRmcpHdr objLanSessionHdr objLanMsgHdr objCmd password
        pktLen flags)
      (fun r => ∃ head msg, LanHead objRmcpHdr objLanSessionHdr head.length ∧
        msg.length = 6 + bitsRoundBytes (fiidObjLen objCmd) ∧
        r.2 = (head ++ leBytes 1 msg.length ++ msg) ++ List.replicate (pktLen - r.1) 0 ∧
        r.1 = (head ++ leBytes 1 msg.length ++ msg).length ∧ r.1 ≤ pktLen) (fun _ => True) := by
  have hofRmcp : TemplateOk tmplRmcpHdr := by decide
  have hofMsgHdr : TemplateOk tmplLanMsgHdrRq := by decide
  rw [assembleIpmiLanPkt]
  refine Meets.ite (fun _ => Meets.error trivial) fun hparams => ?_
  have hpw : password.length ≤ ipmi15MaxPasswordLength := Nat.not_lt.mp fun hlt => hparams (Or.inl hlt)
  refine (returns _).bind fun _ hrmcp => (returns _).bind fun _ _ => (returns _).bind fun _ hmsg => ?_
  refine (returns _).bind fun _ hvrmcp => (returns _).bind fun _ hvmsg => (returns _).bind fun _ _ => ?_
  refine (returns _).bind fun val hval => ?_
  refine Meets.ite (fun _ => Meets.error trivial) fun _ => (returns _).bind fun requiredLen _ => ?_
  refine Meets.ite (fun _ => Meets.error trivial) fun _ => ?_
  have hrmcpFields := fields_of_packetValid ((compareStrict_ok_iff hofRmcp).mp hrmcp)
    (valid_of_packetValidStrict hvrmcp) (by decide)
  have hmsgFields := fields_of_packetValid ((compareStrict_ok_iff hofMsgHdr).mp hmsg)
    (valid_of_packetValidStrict hvmsg) (by decide)
  have hrmcpLen : fiidObjLenBytes objRmcpHdr = .ok (bitsRoundBytes (fiidObjLen objRmcpHdr)) := by
    rw [fiidObjLenBytes, bytesOfSetBits, fiidObjLen, hrmcpFields]
    rfl
  have ht : authenticationTypeOf objLanSessionHdr = .ok (val.setWidth 8) := by
    rw [authenticationTypeOf, hval]
    rfl
  obtain ⟨t, htype⟩ : ∃ t : Byte, t = val.setWidth 8 := ⟨_, rfl⟩
  rw [← htype] at ht
  simp only [← htype]
  refine ((putAll_front (Front.nil pktLen) objRmcpHdr).mono (fun _ h => h) fun _ _ => trivial).bind ?_
  rintro r₁ ⟨rmcp, hrmcpLength, h₁⟩
  refine ((putBlock_front h₁ objLanSessionHdr "authentication_type" "session_id").mono
    (fun _ h => h) fun _ _ => trivial).bind ?_
  rintro r₂ ⟨session, hsession, h₂⟩
  simp only [codeIndx, fieldLenBytes_msgLen, ok_bind]
  rw [if_neg (by decide)]
  rw [List.nil_append] at h₂
  obtain ⟨pre, hpre⟩ : ∃ pre, pre = rmcp ++ session := ⟨_, rfl⟩
  rw [← hpre] at h₂
  have hhead : LanHead objRmcpHdr objLanSessionHdr (pre.length + codeLen t) :=
    ⟨t, rmcp.length, session.length, ht, by rw [hrmcpLen, hrmcpLength], hsession, by
      rw [hpre, List.length_append]⟩
  by_cases hroom : pre.length + codeLen t + 1 ≤ pktLen
  · refine ((putMessage_front (h₂.gap hroom) hmsgFields objCmd).mono (fun _ h => h)
      fun _ _ => trivial).bind ?_
    rintro r₃ ⟨msg, hmsgLen, h₃⟩
    have hmsgBytes : (r₃.1.drop (r₂.2 + codeLen t + 1)).take (r₃.2 - (r₂.2 + codeLen t + 1)) = msg := by
      have hindx : r₂.2 + codeLen t + 1 = (pre ++ (List.replicate (codeLen t) 0 ++ [0])).length :=
        (h₂.gap hroom).index
      rw [h₃.buffer, h₃.index, hindx, List.append_assoc _ msg, List.drop_left]
      refine List.take_left' ?_
      rw [List.length_append]
      omega
    simp only [hmsgBytes]
    refine (authenticationCode_length digests t objLanSessionHdr hpw msg).bind fun code hcode => ?_
    refine Meets.ite (fun _ => Meets.error trivial) fun _ => Meets.ok ?_
    refine ⟨pre ++ code, msg, ?_, hmsgLen, ?_, ?_, ?_⟩
    · rwa [List.length_append, hcode]
    · have hfill := fill_gap pre msg (List.replicate (pktLen - r₃.2) 0) (BitVec.ofNat 8 msg.length) hcode
      rw [h₃.buffer, ← h₃.index, h₂.index, hfill]
      simp only [leBytes, List.append_assoc]
    · rw [h₃.index]
      simp only [List.length_append, List.length_replicate, hcode, length_leBytes, List.length_singleton]
      omega
    · rw [h₃.index]
      exact h₃.le
  · refine (putMessage_noRoom hmsgFields objCmd ?_).bind fun _ h => h.elim
    have hle := h₂.le
    rw [h₂.buffer, h₂.index, List.length_append, List.length_replicate]
    omega

/-- `ipmi_msg_len` is true exactly when the message is shorter than 256 bytes. -/
theorem lanLengthsTrue_iff (ndebug : Bool) (digests : Digests)
    (objRmcpHdr objLanSessionHdr objLanMsgHdr objCmd : FiidObj) (password : List Byte) (pktLen : ℕ)
    (flags : BitVec 32) :
    Meets (assembleIpmiLanPkt ndebug digests objRmcpHdr objLanSessionHdr objLanMsgHdr objCmd password
        pktLen flags)
      (fun r => LanLengthsTrue objRmcpHdr objLanSessionHdr pktLen r ↔
        bitsRoundBytes (fiidObjLen objCmd) ≤ 249) (fun _ => True) := by
  refine (assembleIpmiLanPkt_layout ndebug digests objRmcpHdr objLanSessionHdr objLanMsgHdr objCmd
    password pktLen flags).weaken ?_
  rintro ⟨n, pkt⟩ ⟨head, msg, hhead, hmsg, hbuffer, hstop, hfits⟩
  constructor
  · rintro ⟨head', len, body, hhead', hlen, hdecl⟩
    have hone := leValue_lt len
    rw [hlen, hdecl.right] at hone
    have hsame : head'.length = head.length := hhead'.unique hhead
    have hends := hdecl.stop.symm.trans hstop
    simp only [List.length_append, length_leBytes, hlen, List.length_nil] at hends
    omega
  · intro hle
    refine ⟨head, leBytes 1 msg.length, msg, hhead, length_leBytes _ _, ?_, ?_, hfits, ?_⟩
    · rw [List.append_nil]
      exact hbuffer
    · rw [List.append_nil]
      exact hstop
    · exact leValue_leBytes (by omega)

end FreeIpmi.Lan
