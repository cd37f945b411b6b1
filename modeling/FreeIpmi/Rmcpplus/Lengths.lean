import FreeIpmi.Rmcpplus.Payload

/-! The lengths that an RMCP+ packet declares (`interface/ipmi-rmcpplus-interface.c`).

    Every part goes behind what is already written, if the buffer has room for it. `ipmi_payload_len`
    has two bytes, and a payload is let through up to `IPMI_MAX_PAYLOAD_LENGTH`, which is one more
    than they can tell; the initialization vector of a cipher is not counted at all. -/

namespace FreeIpmi.Rmcpplus
open ByteBits Fiid Calls Lan LittleEndian

/-! ### Parts behind one another -/

section Parts
variable {pktLen : ℕ} {a : List Byte} {r : List Byte × ℕ}

theorem putAllIfRoom_front (h : Front pktLen a r) (obj : FiidObj) :
    Meets (putAllIfRoom r.1 r.2 obj)
      (fun r' => ∃ b, b.length = bitsRoundBytes (fiidObjLen obj) ∧ Front pktLen (a ++ b) r')
      (· ≠ .assertion) :=
  (lenBytes_meets obj).bind fun _ _ =>
    Meets.ite (fun _ => Meets.error (by decide)) fun _ => putAll_front h obj

theorem putBlockIfRoom_front (h : Front pktLen a r) (obj : FiidObj) (fieldStart fieldEnd : String) :
    Meets (putBlockIfRoom r.1 r.2 obj fieldStart fieldEnd)
      (fun r' => ∃ b, fiidObjBlockLenBytes obj fieldStart fieldEnd = .ok b.length ∧
        Front pktLen (a ++ b) r') (· ≠ .assertion) := by
  have hlen : Meets (fiidObjBlockLenBytes obj fieldStart fieldEnd) (fun _ => True) (· ≠ .assertion) :=
    (blockLen_ordinary obj fieldStart fieldEnd).bind fun _ _ =>
      (bytesOfSetBits_meets _).weaken fun _ _ => trivial
  exact hlen.bind fun _ _ =>
    Meets.ite (fun _ => Meets.error (by decide)) fun _ => putBlock_front h obj fieldStart fieldEnd

end Parts

/-! ### The length of the payload -/

/-- The bits of a number in little-endian bytes. -/
theorem bit_leBytes : ∀ {n v q : ℕ}, q < 8 * n → bit (leBytes n v) q = v.testBit q
  | 0, _, _, h => by omega
  | n + 1, v, q, h => by
    rw [bit_eq_getElem?, leBytes]
    by_cases hq : q < 8
    · have hdiv : q / 8 = 0 := by omega
      have hmod : q % 8 = q := by omega
      rw [hdiv, hmod, List.getElem?_cons_zero, Option.getD_some, BitVec.getLsbD_ofNat,
        decide_eq_true hq, Bool.true_and]
    · have hdiv : q / 8 = (q - 8) / 8 + 1 := by omega
      have hmod : q % 8 = (q - 8) % 8 := by omega
      have hrec := bit_leBytes (n := n) (v := v / 256) (q := q - 8) (by omega)
      have hshift : (v / 256).testBit (q - 8) = v.testBit q := by
        rw [show 256 = 2 ^ 8 from rfl, Nat.testBit_div_two_pow]
        congr 1
        omega
      rw [hdiv, hmod, List.getElem?_cons_succ, ← bit_eq_getElem?, hrec, hshift]

/-- `fiid_obj_set` on the last field of the session header, alone in its object. -/
theorem set_payloadLen (payloadLen : ℕ) : ∃ data,
    fiidObjSet (fiidObjClear (createdObj tmplRmcpplusSessionHdr 18 false)) "ipmi_payload_len"
        (BitVec.ofNat 64 payloadLen)
      = .ok ({ createdObj tmplRmcpplusSessionHdr 18 false with data := data }.setFieldLenAt 10 16) ∧
    data.length = 18 ∧ window data 128 16 = window (leBytes 2 payloadLen) 0 16 := by
  have hfit : 128 + 16 ≤ 8 * (List.replicate 18 (0 : Byte)).length := by decide
  obtain ⟨data, hstore, hlen, hbits⟩ := storeBits_spec (BitVec.ofNat 64 payloadLen) (by decide)
    (by decide) hfit (by decide)
  refine ⟨data, ?_, by rw [hlen]; rfl, window_congr fun k hk => ?_⟩
  · have hfield : FieldAt (fiidObjClear (createdObj tmplRmcpplusSessionHdr 18 false))
        "ipmi_payload_len" 10 ⟨16, "ipmi_payload_len", 0, requiredFixed, by decide⟩ :=
      ⟨by decide, by decide⟩
    exact (set_ok_iff hfield).mpr ⟨data, hstore, rfl⟩
  · have hlost : spanLost (128 % 8) 16 = 0 := by decide
    rw [hbits, hlost, if_pos (by omega), Nat.zero_add, bit_leBytes (by omega), BitVec.getLsbD_ofNat,
      decide_eq_true (by omega), Bool.true_and, Nat.add_sub_cancel_left]

/-- The fields of a session header in which only the length of the payload is set. -/
def payloadLenFields : List FiidFieldData :=
  (tmplRmcpplusSessionHdr.fields.map FiidField.toData).modify 10 fun f => { f with setFieldLen := 16 }

theorem lenBytes_payloadLen {obj : FiidObj} (hfields : obj.fields = payloadLenFields) :
    fiidObjLenBytes obj = .ok 2 := by
  rw [fiidObjLenBytes, fiidObjLen, hfields]
  decide

/-- Such a header is read out as its last two bytes. -/
theorem getAll_payloadLen {obj : FiidObj} (hfields : obj.fields = payloadLenFields)
    (hflags : obj.terminatorFlags = 0) (hterm : obj.terminatorSetFieldLen = 0)
    (hlen : obj.data.length = 18) {b : List Byte} (hb : b.length = 2)
    (hwindow : window obj.data 128 16 = window b 0 16) {dataLen : ℕ} (hroom : 2 ≤ dataLen) :
    fiidObjGetAll obj dataLen = .ok (b.length, b ++ List.replicate (dataLen - b.length) 0) := by
  have hwf : obj.Wf tmplRmcpplusSessionHdr := by
    refine ⟨by rw [hfields]; rfl, hflags, by rw [hlen, hfields]; rfl, fun i f hf => ?_, hterm⟩
    have hle : ∀ f ∈ payloadLenFields, f.setFieldLen ≤ f.maxFieldLen := by decide
    rw [hfields] at hf
    exact hle f (List.mem_of_getElem? hf)
  have hset : setLen obj.fields = 16 := by
    rw [hfields]
    rfl
  have hbits : obj.setBits = window b 0 (8 * b.length) := by
    rw [FiidObj.setBits, hfields, hb, ← hwindow]
    simp [payloadLenFields, tmplRmcpplusSessionHdr, cellBits, FiidField.toData, FiidFieldData.toCell]
  have hfit : CellsFit 0 (obj.fields.map FiidFieldData.toCell) := by
    rw [hfields]
    simp [payloadLenFields, tmplRmcpplusSessionHdr, CellsFit, FiidField.toData, FiidFieldData.toCell]
  have halign : alignLoop obj.cells ⟨0, 0, 0, 0⟩ = .ok ⟨16, 0, 0, 0⟩ := by
    rw [FiidObj.cells, hfields, hterm, hflags]
    rfl
  have hdst : setLen obj.fields ≤ 8 * dataLen := by omega
  obtain ⟨-, -, hget⟩ := getAll_ok hwf halign rfl hfit hdst
  rw [hget, hset, hbits, pack_window, hb]

/-- The length goes into two bytes. -/
theorem putPayloadLen_front (ndebug : Bool) {pktLen : ℕ} {a : List Byte} {r : List Byte × ℕ}
    (h : Front pktLen a r) (payloadLen : ℕ) : Meets (putPayloadLen ndebug r.1 r.2 payloadLen)
      (fun r' => Front pktLen (a ++ leBytes 2 payloadLen) r')
      (fun e => e.isReturn = true ∧ pktLen < a.length + 2) := by
  have hcreate : fiidObjCreate ndebug tmplRmcpplusSessionHdr
      = some (createdObj tmplRmcpplusSessionHdr 18 false) := by
    cases ndebug <;> decide
  obtain ⟨data, hset, hlen, hwindow⟩ := set_payloadLen payloadLen
  have hlenBytes : fiidObjLenBytes ({ createdObj tmplRmcpplusSessionHdr 18 false with
      data := data }.setFieldLenAt 10 16) = .ok 2 := lenBytes_payloadLen rfl
  simp only [putPayloadLen, hcreate, hset, ok_bind, putAllIfRoom, hlenBytes]
  refine Meets.ite (fun hlong => Meets.error ⟨rfl, ?_⟩) fun hroom => ?_
  · rw [h.rest] at hlong
    omega
  rw [h.rest] at hroom
  have htwo : 2 ≤ pktLen - a.length := Nat.le_of_not_gt hroom
  obtain ⟨obj, hobj⟩ : ∃ obj, obj = { createdObj tmplRmcpplusSessionHdr 18 false with
    data := data }.setFieldLenAt 10 16 := ⟨_, rfl⟩
  have hfields : obj.fields = payloadLenFields := by rw [hobj]; rfl
  have hflags : obj.terminatorFlags = 0 := by rw [hobj]; rfl
  have hterm : obj.terminatorSetFieldLen = 0 := by rw [hobj]; rfl
  have hdata : obj.data = data := by rw [hobj]; rfl
  rw [← hdata] at hlen hwindow
  have hget := getAll_payloadLen hfields hflags hterm hlen (length_leBytes 2 payloadLen) hwindow htwo
  rw [hobj] at hget
  rw [h.buffer, h.index, putAll_eq (by rw [length_leBytes]; exact htwo) hget]
  refine Meets.ok ⟨?_, ?_, rfl⟩
  · have hle := h.le
    rw [List.length_append, length_leBytes]
    omega
  · rw [List.length_append, Nat.sub_sub]

/-! ### The trailer -/

/-- What the entry has checked of an authenticated packet. -/
structure TrlrChecked (algorithms : Algorithms) (keys : RequestKeys) (objTrlr : FiidObj) : Prop where
  keyed : integrityAlgorithmKeyed algorithms.integrity = true
  password : algorithms.integrity = ipmiIntegrityAlgorithmMd5128 →
    keys.authenticationCodeData.length ≤ ipmi20MaxPasswordLength
  template : templateIs objTrlr tmplRmcpplusSessionTrlr = true

theorem integritySupported_of_keyed {algorithm : Byte} (h : integrityAlgorithmKeyed algorithm = true) :
    ipmiIntegrityAlgorithmSupported algorithm = true := by
  simp only [integrityAlgorithmKeyed, Bool.or_eq_true] at h
  simp only [ipmiIntegrityAlgorithmSupported, Bool.or_eq_true]
  tauto

section Trlr
variable {algorithms : Algorithms} {keys : RequestKeys} {objTrlr : FiidObj}

theorem templateIs_of_same {obj obj' : FiidObj} {tmpl : FiidTemplate} (hok : TemplateOk tmpl)
    (h : templateIs obj tmpl = true) (hsame : obj.SameTemplate obj') : templateIs obj' tmpl = true :=
  (templateIs_of_fields hok).mpr (hsame.trans ((templateIs_of_fields hok).mp h))

theorem constructSessionTrlrPad_template {integrityAlgorithm : Byte}
    (halg : ipmiIntegrityAlgorithmSupported integrityAlgorithm = true) (ipmiMsgLen : ℕ)
    (htmpl : templateIs objTrlr tmplRmcpplusSessionTrlr = true) :
    Meets (constructSessionTrlrPad integrityAlgorithm ipmiMsgLen objTrlr)
      (fun obj => templateIs obj tmplRmcpplusSessionTrlr = true) (· ≠ .assertion) := by
  rw [constructSessionTrlrPad, halg, htmpl, Bool.and_self, assertThat_true, ok_bind]
  refine (orTemplateInvalid_ordinary _).bind fun padLengthFieldLen _ => ?_
  refine (orTemplateInvalid_ordinary _).bind fun nextHeaderFieldLen _ => ?_
  have hpad : ∀ padLength, Meets (setIntegrityPad objTrlr padLength)
      (fun obj => templateIs obj tmplRmcpplusSessionTrlr = true) (· ≠ .assertion) := fun padLength =>
    Meets.ite (fun _ => (setData_sameTemplate objTrlr _ _).bind fun _ hsame =>
      Meets.ok (templateIs_of_same (by decide) htmpl hsame)) fun _ => Meets.ok htmpl
  refine (hpad _).bind fun obj hobj => ?_
  exact (set_sameTemplate obj _ _).weaken fun _ hsame => templateIs_of_same (by decide) hobj hsame

theorem constructSessionTrlrAuthenticationCode_ordinary (crypto : Crypto)
    (hc : TrlrChecked algorithms keys objTrlr) {obj : FiidObj}
    (hobj : templateIs obj tmplRmcpplusSessionTrlr = true) {pktData : List Byte} (hdata : pktData ≠ []) :
    Meets (constructSessionTrlrAuthenticationCode crypto algorithms.integrity keys.integrity
        keys.authenticationCodeData obj pktData ipmiMaxPayloadLength)
      (fun _ => True) (· ≠ .assertion) := by
  have hpw : (algorithms.integrity == ipmiIntegrityAlgorithmMd5128
      && decide (keys.authenticationCodeData.length > ipmi20MaxPasswordLength)) = false := by
    rw [Bool.and_eq_false_imp, beq_iff_eq]
    intro hmd5
    have hle := hc.password hmd5
    exact decide_eq_false (by omega)
  have hlen : (pktData.length != 0) = true := bne_iff_ne.mpr fun h => hdata (List.length_eq_zero_iff.mp h)
  have hbuf : (ipmiMaxPayloadLength != 0) = true := by decide
  have hcompare : fiidObjTemplateCompareStrict obj tmplRmcpplusSessionTrlr = .ok () :=
    (compareStrict_ok_iff (by decide)).mpr ((templateIs_of_fields (by decide)).mp hobj)
  have hfield : Meets (fiidObjFieldLenBytes obj "authentication_code") (fun _ => True)
      (· ≠ .assertion) :=
    (fieldLen_ordinary obj _).bind fun _ _ => (bytesOfSetBits_meets _).weaken fun _ _ => trivial
  rw [constructSessionTrlrAuthenticationCode, hc.keyed, hpw, hlen, hbuf, hcompare]
  simp only [Bool.not_false, Bool.and_self, assertThat_true, ok_bind]
  refine hfield.bind fun len _ => Meets.ite (fun _ => ?_) fun _ => ?_
  · exact (getData_length obj _ _).weaken fun _ _ => trivial
  · rw [digestCode, integritySupported_of_keyed hc.keyed, assertThat_true, ok_bind]
    refine Meets.ite (fun _ => Meets.error (by decide)) fun _ => ?_
    exact Meets.ite (fun _ => Meets.error (by decide)) fun _ => Meets.ok trivial

/-- Bytes copied behind what is written. -/
theorem front_splice {pktLen : ℕ} {a code : List Byte} {r : List Byte × ℕ} (h : Front pktLen a r)
    (hroom : code.length ≤ pktLen - a.length) :
    Front pktLen (a ++ code) (splice r.1 r.2 code, r.2 + code.length) := by
  have hle := h.le
  refine ⟨?_, ?_, ?_⟩
  · rw [List.length_append]
    omega
  · rw [h.buffer, h.index, splice_append_replicate, List.length_append, Nat.sub_sub]
  · rw [h.index, List.length_append]

theorem putTrlr_front (crypto : Crypto) (hc : TrlrChecked algorithms keys objTrlr) {pktLen : ℕ}
    {a : List Byte} {r : List Byte × ℕ} (h : Front pktLen a r) {objRmcpHdrLen : ℕ}
    (hlt : objRmcpHdrLen < a.length) :
    Meets (putTrlr crypto algorithms keys objRmcpHdrLen objTrlr r.1 r.2)
      (fun r' => ∃ b, Front pktLen (a ++ b) r') (· ≠ .assertion) := by
  refine (constructSessionTrlrPad_template (integritySupported_of_keyed hc.keyed) _ ?_).bind
    fun obj hobj => ?_
  · exact hc.template
  refine (putBlockIfRoom_front h obj _ _).bind ?_
  rintro r₁ ⟨b₁, -, h₁⟩
  have hdata : (r₁.1.drop objRmcpHdrLen).take (r₁.2 - objRmcpHdrLen) ≠ [] := by
    intro hnil
    have hlen := congrArg List.length hnil
    rw [List.length_take, List.length_drop, h₁.index, h₁.buffer] at hlen
    simp only [List.length_append, List.length_nil] at hlen
    omega
  refine (constructSessionTrlrAuthenticationCode_ordinary crypto hc hobj hdata).bind fun code _ => ?_
  refine Meets.ite (fun _ => Meets.error (by decide)) fun hroom => Meets.ok ?_
  rw [h₁.rest] at hroom
  refine ⟨b₁ ++ code, ?_⟩
  rw [← List.append_assoc]
  exact front_splice h₁ (Nat.le_of_not_gt hroom)

end Trlr

/-! ### The packet -/

/-- What a call that passes the entry checks can rely on. -/
structure RequestChecked (algorithms : Algorithms) (keys : RequestKeys) (objs : RmcpplusRequest)
    (h : RequestHdr) : Prop where
  hdr : requestHdrOf objs.sessionHdr = .ok h
  notRejected : h.rejected algorithms = false
  supported : AlgorithmsChecked algorithms keys.confidentiality
  integrity : ipmiIntegrityAlgorithmSupported algorithms.integrity = true
  rmcpHdr : objs.rmcpHdr.fields = completeFields tmplRmcpHdr
  rmcpValid : fiidObjPacketValid objs.rmcpHdr = true
  sessionHdr : templateIs objs.sessionHdr tmplRmcpplusSessionHdr = true
  payload : PayloadChecked h.payloadType objs.lanMsgHdr objs.cmd
  trlr : h.hasTrlr = true → ∃ objTrlr, objs.sessionTrlr = some objTrlr ∧
    TrlrChecked algorithms keys objTrlr

section Packet
variable {algorithms : Algorithms} {keys : RequestKeys} {objs : RmcpplusRequest} {h : RequestHdr}
  {pktLen : ℕ} {flags : BitVec 32}

theorem templateIs_of_compare {obj : FiidObj} {tmpl : FiidTemplate} {u : Unit}
    (hcmp : fiidObjTemplateCompareStrict obj tmpl = .ok u) : templateIs obj tmpl = true := by
  rw [templateIs, hcmp]
  rfl

theorem payloadChecked_of_check (hrequest : payloadTypeRequest h.payloadType = true)
    (hcmd : fiidObjPacketValid objs.cmd = true) {u : Unit}
    (hcheck : objs.checkPayload h.payloadType = .ok u) :
    PayloadChecked h.payloadType objs.lanMsgHdr objs.cmd := by
  refine ⟨hrequest, fun hipmi => ?_, fun hsol => ?_, hcmd⟩
  · rw [RmcpplusRequest.checkPayload, if_pos hipmi] at hcheck
    cases hobj : objs.lanMsgHdr with
    | none =>
      rw [hobj] at hcheck
      cases hcheck
    | some obj =>
      rw [hobj] at hcheck
      obtain ⟨_, hcmp, hvalid⟩ := bind_eq_ok.mp hcheck
      exact ⟨obj, rfl, templateIs_of_compare hcmp, valid_of_packetValidStrict hvalid⟩
  · rw [RmcpplusRequest.checkPayload, hsol, if_neg (by decide), if_pos rfl, compareEither] at hcheck
    rw [solTemplate, Bool.or_eq_true]
    split at hcheck
    · rename_i hcmp
      exact Or.inl (templateIs_of_compare hcmp)
    · exact Or.inr (templateIs_of_compare hcheck)

/-- The entry checks, in the order in which they are made. -/
theorem requestChecked_of_check (hcheck : checkRequest algorithms keys objs pktLen flags = .ok h) :
    RequestChecked algorithms keys objs h := by
  rw [checkRequest] at hcheck
  split at hcheck
  · cases hcheck
  rename_i hparams
  obtain ⟨hauth, hparams⟩ := not_or.mp hparams
  obtain ⟨hintegrity, hparams⟩ := not_or.mp hparams
  obtain ⟨hpw, hparams⟩ := not_or.mp hparams
  obtain ⟨hconf, hparams⟩ := not_or.mp hparams
  obtain ⟨hkey, -⟩ := not_or.mp hparams
  obtain ⟨_, hrmcp, hcheck⟩ := bind_eq_ok.mp hcheck
  obtain ⟨_, hsession, hcheck⟩ := bind_eq_ok.mp hcheck
  obtain ⟨_, hvrmcp, hcheck⟩ := bind_eq_ok.mp hcheck
  obtain ⟨_, hvcmd, hcheck⟩ := bind_eq_ok.mp hcheck
  obtain ⟨h', hhdr, hcheck⟩ := bind_eq_ok.mp hcheck
  split at hcheck
  · cases hcheck
  rename_i hrejected
  obtain ⟨_, hpayload, hcheck⟩ := bind_eq_ok.mp hcheck
  obtain ⟨_, htrlr, hcheck⟩ := bind_eq_ok.mp hcheck
  obtain ⟨_, -, hcheck⟩ := bind_eq_ok.mp hcheck
  cases hcheck
  rw [Bool.not_eq_true] at hrejected
  have hparts := hrejected
  simp only [RequestHdr.rejected, Bool.or_eq_false_iff] at hparts
  obtain ⟨⟨⟨⟨hrequest, -⟩, -⟩, hkeyed⟩, -⟩ := hparts
  simp only [Bool.not_eq_true', Bool.not_eq_false] at hauth hintegrity hconf
  simp only [ipmiConfidentialityAlgorithmSupported, Bool.or_eq_true, beq_iff_eq] at hconf
  refine ⟨hhdr, hrejected, ⟨hauth, hconf, fun haes hzero => hkey ⟨haes, hzero⟩⟩, hintegrity, ?_,
    valid_of_packetValidStrict hvrmcp, templateIs_of_compare hsession,
    payloadChecked_of_check (by simpa using hrequest) (valid_of_packetValidStrict hvcmd) hpayload,
    fun htrlr' => ?_⟩
  · exact fields_of_packetValid ((compareStrict_ok_iff (by decide)).mp hrmcp)
      (valid_of_packetValidStrict hvrmcp) (by decide)
  · have hkeyed' : integrityAlgorithmKeyed algorithms.integrity = true := by
      rw [RequestHdr.hasTrlr] at htrlr'
      rwa [htrlr', Bool.true_and, Bool.not_eq_false'] at hkeyed
    rw [RmcpplusRequest.checkTrlr, if_pos htrlr'] at htrlr
    cases hobj : objs.sessionTrlr with
    | none =>
      rw [hobj] at htrlr
      cases htrlr
    | some objTrlr =>
      rw [hobj] at htrlr
      exact ⟨objTrlr, rfl, hkeyed', fun hmd5 => Nat.le_of_not_gt fun hgt => hpw ⟨hmd5, hgt⟩,
        templateIs_of_compare htrlr⟩

/-- The object for the payload can be created. -/
theorem create_payload (ndebug : Bool) : ∃ obj,
    fiidObjCreate ndebug tmplRmcpplusPayload = some obj ∧ obj.fields = payloadFields 0 0 0 := by
  have hkeys : fiidTemplateCheckValidKeys tmplRmcpplusPayload = true := by decide
  have hflags : fiidTemplateCheckValidFlags tmplRmcpplusPayload = true := by decide
  have hlen : fiidTemplateLenBytes tmplRmcpplusPayload = some 65664 := by decide +kernel
  have hnodup : (tmplRmcpplusPayload.fields.map (·.key)).Nodup := by decide
  simp only [fiidObjCreate, hkeys, hflags, hlen, hnodup, decide_true, Bool.not_true, Bool.and_false,
    Bool.false_eq_true, if_false]
  exact ⟨_, rfl, rfl⟩

/-- The payload stands behind its length. -/
theorem putPayload_front (ndebug : Bool) (cipher : Cipher)
    (hr : RequestChecked algorithms keys objs h)
    (hmet : AssertsMet algorithms h.payloadType h.payloadEncrypted objs.lanMsgHdr) {a : List Byte}
    {r : List Byte × ℕ} (hf : Front pktLen a r) :
    Meets (putPayload ndebug cipher algorithms keys h objs r.1 r.2)
      (fun r' => ∃ payload, payload.length = payloadBytes algorithms h.payloadType objs.cmd ∧
        Front pktLen (a ++ leBytes 2 payload.length ++ payload) r') (· ≠ .assertion) := by
  obtain ⟨obj, hcreate, hfields⟩ := create_payload ndebug
  simp only [putPayload, hcreate]
  refine (constructPayload_set ndebug cipher hr.supported hr.payload hmet hfields).bind ?_
  rintro ⟨obj', payloadLen⟩ ⟨rfl, header, data, trlr, hobj', hsum⟩
  refine ((putPayloadLen_front ndebug hf _).mono (fun _ hq => hq) fun _ he =>
    ne_assertion_of_isReturn he.1).bind fun r₁ h₁ => ?_
  refine (putAllIfRoom_front h₁ obj').weaken ?_
  rintro r₂ ⟨payload, hpayload, h₂⟩
  rw [len_payload hobj', hsum, bitsRoundBytes_mul] at hpayload
  refine ⟨payload, hpayload, ?_⟩
  rw [hpayload]
  exact h₂

theorem putTrlr_request (crypto : Crypto) (hr : RequestChecked algorithms keys objs h)
    {a : List Byte} {r : List Byte × ℕ} (hf : Front pktLen a r) {objRmcpHdrLen : ℕ}
    (hlt : objRmcpHdrLen < a.length) :
    Meets (objs.putTrlr crypto algorithms keys h objRmcpHdrLen r.1 r.2)
      (fun r' => ∃ trlr, (h.hasTrlr = false → trlr = []) ∧ Front pktLen (a ++ trlr) r')
      (· ≠ .assertion) := by
  rw [RmcpplusRequest.putTrlr]
  refine Meets.ite (fun htrlr => ?_) fun htrlr => Meets.ok ⟨[], fun _ => rfl, ?_⟩
  · obtain ⟨objTrlr, hobj, hc⟩ := hr.trlr htrlr
    rw [hobj]
    refine (putTrlr_front crypto hc hf hlt).weaken ?_
    rintro r' ⟨trlr, hfront⟩
    exact ⟨trlr, fun hno => absurd htrlr (by rw [hno]; decide), hfront⟩
  · rwa [List.append_nil]

/-- How many bytes stand in front of `ipmi_payload_len`: the RMCP header and the session header. -/
def RmcpplusHead (objs : RmcpplusRequest) (k : ℕ) : Prop :=
  ∃ rmcpLen sessionLen, fiidObjLenBytes objs.rmcpHdr = .ok rmcpLen ∧
    fiidObjBlockLenBytes objs.sessionHdr "authentication_type" "session_sequence_number"
      = .ok sessionLen ∧ k = rmcpLen + sessionLen

/-- The RMCP header is four bytes long. -/
theorem RequestChecked.rmcpLen (hr : RequestChecked algorithms keys objs h) :
    fiidObjLenBytes objs.rmcpHdr = .ok 4 ∧ bitsRoundBytes (fiidObjLen objs.rmcpHdr) = 4 := by
  simp only [fiidObjLenBytes, fiidObjLen, hr.rmcpHdr]
  exact ⟨by decide, by decide⟩

/-- What the packet looks like, for every call that passes the checks and meets the assertions. -/
def RmcpplusLayout (algorithms : Algorithms) (objs : RmcpplusRequest) (h : RequestHdr) (pktLen : ℕ)
    (r : ℕ × List Byte) : Prop :=
  ∃ head payload trlr, RmcpplusHead objs head.length ∧
    payload.length = payloadBytes algorithms h.payloadType objs.cmd ∧
    (h.hasTrlr = false → trlr = []) ∧
    Front pktLen (head ++ leBytes 2 payload.length ++ payload ++ trlr) (r.2, r.1)

theorem assembleIpmiRmcpplusPkt_layout (ndebug : Bool) (crypto : Crypto) (cipher : Cipher)
    (hcheck : checkRequest algorithms keys objs pktLen flags = .ok h)
    (hmet : AssertsMet algorithms h.payloadType h.payloadEncrypted objs.lanMsgHdr) :
    Meets (assembleIpmiRmcpplusPkt ndebug crypto cipher algorithms keys objs pktLen flags)
      (RmcpplusLayout algorithms objs h pktLen) (· ≠ .assertion) := by
  have hr := requestChecked_of_check hcheck
  obtain ⟨hlenBytes, hfour⟩ := hr.rmcpLen
  rw [assembleIpmiRmcpplusPkt, hcheck, ok_bind]
  refine (putAllIfRoom_front (Front.nil pktLen) objs.rmcpHdr).bind ?_
  rintro r₁ ⟨rmcp, hrmcp, h₁⟩
  refine (putBlockIfRoom_front h₁ objs.sessionHdr "authentication_type"
    "session_sequence_number").bind ?_
  rintro r₂ ⟨session, hsession, h₂⟩
  refine (putPayload_front ndebug cipher hr hmet h₂).bind ?_
  rintro r₃ ⟨payload, hpayload, h₃⟩
  rw [List.nil_append] at h₁ h₂ h₃
  have hlt : r₁.2 < (rmcp ++ session ++ leBytes 2 payload.length ++ payload).length := by
    rw [h₁.index]
    simp only [List.length_append, length_leBytes]
    omega
  refine (putTrlr_request crypto hr h₃ hlt).bind ?_
  rintro r₄ ⟨trlr, htrlr, h₄⟩
  refine Meets.ite (fun _ => Meets.error (by decide)) fun _ => Meets.ok ?_
  refine ⟨rmcp ++ session, payload, trlr, ⟨4, session.length, hlenBytes, hsession, ?_⟩, hpayload,
    htrlr, h₄⟩
  rw [List.length_append, hrmcp, hfour]

/-! ### Where the assertions fail -/

/-- The RMCP header and the session header up to the sequence number can be copied into the buffer. -/
def HeadersFit (objs : RmcpplusRequest) (pktLen : ℕ) : Prop := ∃ rmcpLen rmcpBuf r,
  fiidObjGetAll objs.rmcpHdr pktLen = .ok (rmcpLen, rmcpBuf) ∧
    fiidObjGetBlock objs.sessionHdr "authentication_type" "session_sequence_number" (pktLen - rmcpLen)
      = .ok r

/-- An object is copied where there is room for what `fiid_obj_get_all` copies. -/
theorem putAllIfRoom_eq_ok {pkt : List Byte} {indx len : ℕ} {obj : FiidObj} {r : List Byte × ℕ}
    (hlen : fiidObjLenBytes obj = .ok len) : putAllIfRoom pkt indx obj = .ok r ↔
      ∃ buf, fiidObjGetAll obj (pkt.length - indx) = .ok (len, buf) ∧
        r = (splice pkt indx buf, indx + len) := by
  have hround := ((lenBytes_meets obj).value _ hlen)
  rw [putAllIfRoom, hlen, ok_bind]
  constructor
  · intro h
    split at h
    · cases h
    · obtain ⟨⟨len', buf⟩, hget, hr⟩ := bind_eq_ok.mp h
      obtain ⟨hlen', -⟩ := (getAll_written obj _).value _ hget
      obtain rfl : len' = len := hlen'.trans hround.symm
      exact ⟨buf, hget, (Except.ok.inj hr).symm⟩
  · rintro ⟨buf, hget, rfl⟩
    have hle := ((getAll_written obj _).value _ hget).2.le
    rw [if_neg (Nat.not_lt.mpr hle), putAll, hget]
    rfl

/-- A block, likewise. -/
theorem putBlockIfRoom_isOk {pkt : List Byte} {indx : ℕ} {obj : FiidObj}
    {fieldStart fieldEnd : String} : (∃ r, putBlockIfRoom pkt indx obj fieldStart fieldEnd = .ok r) ↔
      ∃ r, fiidObjGetBlock obj fieldStart fieldEnd (pkt.length - indx) = .ok r := by
  constructor
  · rintro ⟨r, h⟩
    obtain ⟨len, -, h⟩ := bind_eq_ok.mp h
    split at h
    · cases h
    · obtain ⟨r', hget, -⟩ := bind_eq_ok.mp h
      exact ⟨r', hget⟩
  · rintro ⟨⟨len, buf⟩, hget⟩
    obtain ⟨hlen, hw⟩ := (getBlock_written obj _ _ _).value _ hget
    refine ⟨(splice pkt indx buf, indx + len), ?_⟩
    rw [putBlockIfRoom, hlen, ok_bind, if_neg (Nat.not_lt.mpr hw.le), putBlock, hget]
    rfl

theorem headersFit_iff (hr : RequestChecked algorithms keys objs h) :
    HeadersFit objs pktLen ↔ ∃ r₁ r₂,
      putAllIfRoom (List.replicate pktLen 0) 0 objs.rmcpHdr = .ok r₁ ∧
        putBlockIfRoom r₁.1 r₁.2 objs.sessionHdr "authentication_type" "session_sequence_number"
          = .ok r₂ := by
  obtain ⟨hlenBytes, hfour⟩ := hr.rmcpLen
  have hrest : ∀ {r : List Byte × ℕ}, putAllIfRoom (List.replicate pktLen 0) 0 objs.rmcpHdr = .ok r →
      r.1.length - r.2 = pktLen - 4 := by
    intro r hput
    obtain ⟨b, hb, hfront⟩ := (putAllIfRoom_front (Front.nil pktLen) objs.rmcpHdr).value r hput
    rw [hfront.rest, List.nil_append, hb, hfour]
  constructor
  · rintro ⟨rmcpLen, rmcpBuf, r, hrmcp, hsession⟩
    obtain rfl : rmcpLen = 4 := ((getAll_written objs.rmcpHdr pktLen).value _ hrmcp).1.trans hfour
    have hput : putAllIfRoom (List.replicate pktLen 0) 0 objs.rmcpHdr
        = .ok (splice (List.replicate pktLen 0) 0 rmcpBuf, 0 + 4) :=
      (putAllIfRoom_eq_ok hlenBytes).mpr ⟨rmcpBuf, by rw [List.length_replicate]; exact hrmcp, rfl⟩
    rw [← hrest hput] at hsession
    obtain ⟨r₂, hblock⟩ := putBlockIfRoom_isOk.mpr ⟨r, hsession⟩
    exact ⟨_, r₂, hput, hblock⟩
  · rintro ⟨r₁, r₂, h₁, h₂⟩
    obtain ⟨buf, hget, -⟩ := (putAllIfRoom_eq_ok hlenBytes).mp h₁
    obtain ⟨r, hblock⟩ := putBlockIfRoom_isOk.mp ⟨r₂, h₂⟩
    rw [List.length_replicate] at hget
    rw [hrest h₁] at hblock
    exact ⟨4, buf, r, hget, hblock⟩

/-- Without what the helpers assert, the call fails an assertion as soon as it has written the
    headers. -/
theorem assembleIpmiRmcpplusPkt_assertion (ndebug : Bool) (crypto : Crypto) (cipher : Cipher)
    (hcheck : checkRequest algorithms keys objs pktLen flags = .ok h)
    (hmet : ¬ AssertsMet algorithms h.payloadType h.payloadEncrypted objs.lanMsgHdr) :
    (assembleIpmiRmcpplusPkt ndebug crypto cipher algorithms keys objs pktLen flags
        = .error .assertion ↔ HeadersFit objs pktLen) ∧
      ∀ r, assembleIpmiRmcpplusPkt ndebug crypto cipher algorithms keys objs pktLen flags ≠ .ok r := by
  have hr := requestChecked_of_check hcheck
  obtain ⟨obj, hcreate, -⟩ := create_payload ndebug
  have hpayload : ∀ pkt indx, putPayload ndebug cipher algorithms keys h objs pkt indx
      = .error .assertion := by
    intro pkt indx
    rw [putPayload, hcreate]
    simp only [constructPayload_assertion ndebug cipher hmet, error_bind]
  rw [assembleIpmiRmcpplusPkt, hcheck, ok_bind, headersFit_iff hr]
  simp only [hpayload, error_bind]
  cases hrmcp : putAllIfRoom (List.replicate pktLen 0) 0 objs.rmcpHdr with
  | error e =>
    have hne := (putAllIfRoom_front (Front.nil pktLen) objs.rmcpHdr).reason e hrmcp
    simp [hne]
  | ok r₁ =>
    obtain ⟨b, -, hfront⟩ := (putAllIfRoom_front (Front.nil pktLen) objs.rmcpHdr).value r₁ hrmcp
    simp only [ok_bind]
    cases hsession : putBlockIfRoom r₁.1 r₁.2 objs.sessionHdr "authentication_type"
        "session_sequence_number" with
    | error e =>
      have hne := (putBlockIfRoom_front hfront objs.sessionHdr "authentication_type"
        "session_sequence_number").reason e hsession
      simp [hne, hsession]
    | ok r₂ =>
      simp only [ok_bind]
      exact ⟨iff_of_true trivial ⟨r₁, r₂, rfl, hsession⟩, fun _ => nofun⟩

end Packet

/-! ### The declared lengths -/

/-- What `assemble_ipmi_rmcpplus_pkt` returns has a true `ipmi_payload_len`, and ends with the
    payload, or with the trailer of an authenticated packet. -/
def RmcpplusLengthsTrue (algorithms : Algorithms) (objs : RmcpplusRequest) (h : RequestHdr)
    (pktLen : ℕ) (r : ℕ × List Byte) : Prop :=
  ∃ head len body trlr, RmcpplusHead objs head.length ∧ len.length = 2 ∧
    body.length = payloadBytes algorithms h.payloadType objs.cmd ∧
    (h.hasTrlr = false → trlr = []) ∧ Declares head len body trlr pktLen r.1 r.2

/-- The longest content that two bytes can give the length of; a cipher adds 16 bytes of
    initialization vector and fills up the last block. -/
def contentMax (algorithms : Algorithms) (payloadType : Byte) : ℕ :=
  if Ciphered payloadType ∧ algorithms.confidentiality ≠ ipmiConfidentialityAlgorithmNone then 65503
  else 65535

theorem payloadBytes_lt_iff (algorithms : Algorithms) (payloadType : Byte) (objCmd : FiidObj) :
    payloadBytes algorithms payloadType objCmd < 65536 ↔
      contentBytes payloadType objCmd ≤ contentMax algorithms payloadType := by
  obtain ⟨hpad, hblock⟩ := confidentialityPadLen_spec (contentBytes payloadType objCmd)
  rw [payloadBytes, contentMax]
  split
  · omega
  · omega

/-- `ipmi_payload_len` is true exactly when its two bytes can tell it. -/
theorem rmcpplusLengthsTrue_iff (ndebug : Bool) (crypto : Crypto) (cipher : Cipher)
    (algorithms : Algorithms) (keys : RequestKeys) (objs : RmcpplusRequest) (pktLen : ℕ)
    (flags : BitVec 32) :
    Meets (assembleIpmiRmcpplusPkt ndebug crypto cipher algorithms keys objs pktLen flags)
      (fun r => ∃ h, requestHdrOf objs.sessionHdr = .ok h ∧
        (RmcpplusLengthsTrue algorithms objs h pktLen r ↔
          contentBytes h.payloadType objs.cmd ≤ contentMax algorithms h.payloadType))
      (fun _ => True) := by
  refine ⟨fun r hr => ?_, fun _ _ => trivial⟩
  cases hcheck : checkRequest algorithms keys objs pktLen flags with
  | error e =>
    rw [assembleIpmiRmcpplusPkt, hcheck] at hr
    cases hr
  | ok h =>
    refine ⟨h, (requestChecked_of_check hcheck).hdr, ?_⟩
    by_cases hmet : AssertsMet algorithms h.payloadType h.payloadEncrypted objs.lanMsgHdr
    · obtain ⟨head, payload, trlr, hhead, hpayload, htrlr, hfront⟩ :=
        (assembleIpmiRmcpplusPkt_layout ndebug crypto cipher hcheck hmet).value r hr
      rw [← payloadBytes_lt_iff]
      constructor
      · rintro ⟨head', len, body, trlr', -, hlen, hbody, -, hdecl⟩
        have htwo := leValue_lt len
        rw [hlen, hdecl.right, hbody] at htwo
        omega
      · intro hlt
        refine ⟨head, leBytes 2 payload.length, payload, trlr, hhead, length_leBytes _ _, hpayload,
          htrlr, ⟨?_, hfront.index, ?_, ?_⟩⟩
        · rw [show r.1 = _ from hfront.index]
          exact hfront.buffer
        · rw [show r.1 = _ from hfront.index]
          exact hfront.le
        · exact leValue_leBytes (by omega)
    · exact absurd hr ((assembleIpmiRmcpplusPkt_assertion ndebug crypto cipher hcheck hmet).2 r)

/-- For every call of both assemblers: what is returned ends with the packet, and the declared length
    is true exactly when the field for it can tell it. -/
theorem declaredLengths_iff (ndebug : Bool) (digests : Digests)
    (objRmcpHdr objLanSessionHdr objLanMsgHdr objCmd : FiidObj) (password : List Byte)
    (crypto : Crypto) (cipher : Cipher) (algorithms : Algorithms) (keys : RequestKeys)
    (objs : RmcpplusRequest) (pktLen : ℕ) (flags : BitVec 32) :
    Meets (assembleIpmiLanPkt ndebug digests objRmcpHdr objLanSessionHdr objLanMsgHdr objCmd password
        pktLen flags)
      (fun r => LanLengthsTrue objRmcpHdr objLanSessionHdr pktLen r ↔ cmdBytes objCmd ≤ 249)
      (fun _ => True) ∧
    Meets (assembleIpmiRmcpplusPkt ndebug crypto cipher algorithms keys objs pktLen flags)
      (fun r => ∃ h, requestHdrOf objs.sessionHdr = .ok h ∧
        (RmcpplusLengthsTrue algorithms objs h pktLen r ↔
          contentBytes h.payloadType objs.cmd ≤ contentMax algorithms h.payloadType))
      (fun _ => True) :=
  ⟨lanLengthsTrue_iff ndebug digests objRmcpHdr objLanSessionHdr objLanMsgHdr objCmd password pktLen
      flags,
    rmcpplusLengthsTrue_iff ndebug crypto cipher algorithms keys objs pktLen flags⟩

/-- `tmpl_cmd_write_fru_data_rq`. -/
def tmplCmdWriteFruDataRq : FiidTemplate where
  fields :=
    [⟨8, "cmd", requiredFixed, .refl true⟩,
     ⟨8, "fru_device_id", requiredFixed, .refl true⟩,
     ⟨16, "fru_inventory_offset_to_write", requiredFixed, .refl true⟩,
     ⟨2040, "data_to_write", requiredVariable, .refl true⟩]

/-- 246 bytes for the FRU device: a message of 256 bytes. -/
def sentWriteFruData : FiidObj :=
  builtObj tmplCmdWriteFruDataRq 259 [.setAll (0x12 :: List.replicate 249 0)]

/-- The message length of such a request is 0. -/
theorem declaredLengths_writeFruData : ∃ buf,
    assembleIpmiLanPkt false zeroDigests sentRmcpHdr sentSessionHdr (sentMsgHdr 0xc8)
      sentWriteFruData sentPassword 300 0 = .ok (286, buf) ∧
    ¬ LanLengthsTrue sentRmcpHdr sentSessionHdr 300 (286, buf) := by
  have hlen : (assembleIpmiLanPkt false zeroDigests sentRmcpHdr sentSessionHdr (sentMsgHdr 0xc8)
      sentWriteFruData sentPassword 300 0).map (·.1) = .ok 286 := by decide +kernel
  cases hok : assembleIpmiLanPkt false zeroDigests sentRmcpHdr sentSessionHdr (sentMsgHdr 0xc8)
      sentWriteFruData sentPassword 300 0 with
  | error e =>
    rw [hok] at hlen
    cases hlen
  | ok r =>
    obtain ⟨n, buf⟩ := r
    rw [hok] at hlen
    obtain rfl : n = 286 := Except.ok.inj hlen
    refine ⟨buf, rfl, fun htrue => ?_⟩
    have hle := ((lanLengthsTrue_iff _ _ _ _ _ _ _ _ _).value _ hok).mp htrue
    revert hle
    decide +kernel

end FreeIpmi.Rmcpplus
