import FreeIpmi.Rmcpplus.Sent

/-! How `assemble_ipmi_rmcpplus_pkt` ends behind its entry checks
    (`interface/ipmi-rmcpplus-interface.c`).

    The entry checks leave out a message header that the type of the payload does not need, and a
    packet that is not encrypted although there is a cipher; the helpers assert both. The buffer in
    which the bytes for an authentication code are put together takes `IPMI_MAX_PAYLOAD_LENGTH` bytes,
    but only the content of a payload is checked against that length. Everything else is reported. -/

namespace FreeIpmi.Rmcpplus
open ByteBits Fiid Calls Lan LittleEndian

/-! ### Objects -/

/-- An object that calls of the library have made, of a template whose wide fields lie on byte
    boundaries. -/
def Made (ndebug : Bool) (obj : FiidObj) : Prop :=
  ∃ tmpl, Reachable ndebug tmpl obj ∧ WideAligned tmpl.fields

/-- All the objects of a request are made so. -/
structure RmcpplusRequest.Made (ndebug : Bool) (objs : RmcpplusRequest) : Prop where
  rmcpHdr : Rmcpplus.Made ndebug objs.rmcpHdr
  sessionHdr : Rmcpplus.Made ndebug objs.sessionHdr
  lanMsgHdr : ∀ obj, objs.lanMsgHdr = some obj → Rmcpplus.Made ndebug obj
  cmd : Rmcpplus.Made ndebug objs.cmd
  sessionTrlr : ∀ obj, objs.sessionTrlr = some obj → Rmcpplus.Made ndebug obj

section Made
variable {ndebug : Bool} {obj : FiidObj} {tmpl : FiidTemplate}

theorem Made.reads (h : Made ndebug obj) (hvalid : fiidObjPacketValid obj = true) : ∃ b, obj.Reads b := by
  obtain ⟨_, hr, hwide⟩ := h
  obtain ⟨b, hreads, -⟩ := reads_of_packetValid hr.wf (hr.partAligned hwide) hvalid
  exact ⟨b, hreads⟩

/-- The object was made of the template that it is compared with. -/
theorem Made.of (h : Made ndebug obj) (hok : TemplateOk tmpl) (htmpl : templateIs obj tmpl = true) :
    obj.Of tmpl.fields ∧ obj.PartAligned ∧ (WholeFields tmpl.fields → obj.ByteLens) := by
  obtain ⟨tmpl', hr, hwide⟩ := h
  have hfields : tmpl'.fields = tmpl.fields := by
    rw [← hr.wf.fields]
    exact (templateIs_of_fields hok).mp htmpl
  exact ⟨hfields ▸ hr.wf.of, hr.partAligned hwide, fun hwhole => hr.byteLens (hfields.symm ▸ hwhole)⟩

end Made

/-! ### The payload -/

section Payload
variable {ndebug : Bool} {cipher : Cipher} {algorithms : Algorithms} {keys : RequestKeys} {h : RequestHdr}
  {objs : RmcpplusRequest} {pktLen : ℕ} {a : List Byte} {r : List Byte × ℕ}

theorem constructPayloadRakp_bytes {payloadType : Byte} {objCmd objRmcpplusPayload : FiidObj}
    {cmd : List Byte} (hcmd : objCmd.Reads cmd)
    (hobj : objRmcpplusPayload.Parts tmplRmcpplusPayload.fields [[], [], []]) :
    Meets (constructPayloadRakp payloadType objCmd objRmcpplusPayload)
      (fun r => r.1.Parts tmplRmcpplusPayload.fields [[], cmd, []] ∧ r.2 = cmd.length ∧
        cmd.length ≤ ipmiMaxPayloadLength)
      (fun e => e = .assertion ∨ TooLong ipmiMaxPayloadLength cmd.length e) := by
  refine ((assertThat_meets _).mono (fun _ hq => hq) fun _ => Or.inl).bind fun _ _ => ?_
  rcases Nat.lt_or_ge ipmiMaxPayloadLength cmd.length with hlong | hfits
  · rw [hcmd.overflow hlong]
    exact Meets.error (Or.inr ⟨rfl, Or.inl hlong⟩)
  · obtain ⟨-, hdata, -⟩ := payload_indices
    obtain ⟨obj, hset, hparts⟩ := hobj.setFitting (d := cmd) hdata rfl (by
      rw [ipmiMaxPayloadLength] at hfits
      simp only
      omega)
    rw [hcmd.getAll _ hfits]
    simp only [ok_bind, List.take_left, hset]
    exact Meets.ok ⟨hparts, rfl, hfits⟩

/-- The message header of an IPMI request is read as its five bytes. -/
theorem RmcpplusRequest.Made.msgHdr (hmade : objs.Made ndebug) (hr : RequestChecked algorithms keys objs h)
    {objLanMsgHdr : FiidObj} (hobj : objs.lanMsgHdr = some objLanMsgHdr) :
    ∃ hdr, h.payloadType = ipmiPayloadTypeIpmi → objLanMsgHdr.Reads hdr ∧ hdr.length = 5 := by
  by_cases hipmi : h.payloadType = ipmiPayloadTypeIpmi
  · obtain ⟨obj, hsome, htmpl, hvalid⟩ := hr.payload.msgHdr hipmi
    obtain rfl := Option.some.inj (hobj.symm.trans hsome)
    obtain ⟨hdr, hreads⟩ := (hmade.lanMsgHdr _ hobj).reads hvalid
    have hfields := fields_of_packetValid ((templateIs_of_fields (by decide)).mp htmpl) hvalid (by decide)
    have hfive : fiidObjLenBytes objLanMsgHdr = .ok 5 := by
      rw [fiidObjLenBytes, fiidObjLen, hfields]
      decide
    exact ⟨hdr, fun _ => ⟨hreads, Except.ok.inj (hreads.lenBytes.symm.trans hfive)⟩⟩
  · exact ⟨[], fun heq => absurd heq hipmi⟩

/-- The payload of any other type is the command as it is. -/
theorem putPayload_rakp (ndebug : Bool) (cipher : Cipher) (algorithms : Algorithms) (keys : RequestKeys)
    (hkind : ¬ Ciphered h.payloadType) {cmd : List Byte} (hcmd : objs.cmd.Reads cmd)
    (hf : Front pktLen a r) :
    Meets (putPayload ndebug cipher algorithms keys h objs r.1 r.2)
      (fun r' => cmd.length ≤ ipmiMaxPayloadLength ∧ Front pktLen (a ++ leBytes 2 cmd.length ++ cmd) r')
      (fun e => e = .assertion ∨ e.isReturn = true ∧ (ipmiMaxPayloadLength < cmd.length ∨
        pktLen < a.length + 2 + cmd.length)) := by
  obtain ⟨objRmcpplusPayload, hcreate, hempty⟩ := create_payload_parts ndebug
  simp only [putPayload, hcreate]
  refine Meets.bind (R := fun p => p.1.Parts tmplRmcpplusPayload.fields [[], cmd, []] ∧
    p.2 = cmd.length ∧ cmd.length ≤ ipmiMaxPayloadLength) ?_ ?_
  · refine ((assertThat_meets _).mono (fun _ hq => hq) fun _ => Or.inl).bind fun _ _ => ?_
    rw [if_neg hkind]
    exact (constructPayloadRakp_bytes hcmd hempty).mono (fun _ hq => hq) fun _ he =>
      he.imp_right fun hlong => ⟨hlong.1, Or.inl (by have := hlong.2; omega)⟩
  · rintro ⟨obj, payloadLen⟩ ⟨hparts, rfl, hle⟩
    have hreads := hparts.reads
    rw [show [[], cmd, []].flatten = cmd by simp] at hreads
    refine ((putPayloadLen_front ndebug hf _).mono (fun _ hq => hq) fun _ he =>
      Or.inr ⟨he.1, Or.inr (by omega)⟩).bind fun r₃ h₃ => ?_
    refine (putAllIfRoom_reads h₃ hreads).mono (fun r₄ h₄ => ⟨hle, h₄⟩) fun _ he =>
      Or.inr ⟨he.1, Or.inr ?_⟩
    have hlong := he.2
    rwa [List.length_append, List.length_append, length_leBytes] at hlong

/-- The payload goes behind its length, where it fits. -/
theorem putPayload_fits (hkeeps : KeepsLength cipher) (hr : RequestChecked algorithms keys objs h)
    (hmade : objs.Made ndebug)
    (hmet : AssertsMet algorithms h.payloadType h.payloadEncrypted objs.lanMsgHdr)
    (hf : Front pktLen a r) :
    Meets (putPayload ndebug cipher algorithms keys h objs r.1 r.2)
      (fun r' => PayloadFits cipher algorithms keys.confidentiality h.payloadType objs.cmd ∧
        ∃ payload, payload.length = payloadBytes algorithms h.payloadType objs.cmd ∧
          Front pktLen (a ++ leBytes 2 payload.length ++ payload) r')
      (fun e => e.isReturn = true ∧
        (PayloadFits cipher algorithms keys.confidentiality h.payloadType objs.cmd →
          pktLen < a.length + 2 + payloadBytes algorithms h.payloadType objs.cmd)) := by
  have hordinary := (putPayload_front ndebug cipher hr hmet hf).reason
  obtain ⟨objLanMsgHdr, hobj, -⟩ := hmet.msgHdr
  obtain ⟨cmd, hcmd⟩ := hmade.cmd.reads hr.payload.cmd
  by_cases hkind : Ciphered h.payloadType
  · obtain ⟨hdr, hhdr⟩ := hmade.msgHdr hr hobj
    have hcontent : (requestContent h.payloadType hdr cmd).length = contentBytes h.payloadType objs.cmd :=
      length_requestContent hcmd.lenBytes fun hipmi => (hhdr hipmi).2
    have hready := payloadReady_iff algorithms keys.confidentiality hkeeps hkind hcontent
    have hpayload := payloadLength_content algorithms hkind hcontent
    have hput := putPayload_bytes ndebug cipher algorithms keys hkind hobj hhdr hcmd rfl hf
    refine ⟨fun r' hr' => ?_, fun e he => ?_⟩
    · obtain ⟨iv, payload, -, hlen, hfront, hbuilt, -⟩ := hput.value r' hr'
      exact ⟨hready.mp hbuilt, payload, hlen.trans hpayload, hfront⟩
    · obtain ⟨hreturn, hnot⟩ := (hput.reason e he).resolve_left (hordinary e he)
      rw [hpayload] at hnot
      exact ⟨hreturn, fun hfits => hnot.resolve_left fun hnot => hnot (hready.mpr hfits)⟩
  · obtain ⟨hipmi, -⟩ := not_or.mp hkind
    have hcontent : contentBytes h.payloadType objs.cmd = cmd.length := by
      rw [contentBytes, if_neg hipmi, cmdBytes_of_lenBytes hcmd.lenBytes]
    have hbytes : payloadBytes algorithms h.payloadType objs.cmd = cmd.length := by
      rw [payloadBytes, if_neg fun hc => hkind hc.1, hcontent]
    have hput := putPayload_rakp ndebug cipher algorithms keys hkind hcmd hf
    rw [hbytes]
    refine ⟨fun r' hr' => ?_, fun e he => ?_⟩
    · obtain ⟨hle, hfront⟩ := hput.value r' hr'
      exact ⟨⟨hcontent ▸ hle, fun hc => absurd hc hkind⟩, cmd, rfl, hfront⟩
    · obtain ⟨hreturn, hnot⟩ := (hput.reason e he).resolve_left (hordinary e he)
      exact ⟨hreturn, fun hfits => hnot.resolve_left (Nat.not_lt.mpr (hcontent ▸ hfits.content))⟩

end Payload

/-! ### The trailer -/

/-- What a code is computed over, behind `head` bytes of headers: the packet behind its RMCP header, up
    to the next header. -/
def signedBytes (algorithms : Algorithms) (payloadType : Byte) (objCmd objTrlr : FiidObj) (head : ℕ) : ℕ :=
  let n := head - 4 + 2 + payloadBytes algorithms payloadType objCmd
  let padLength := integrityPadLen (n + 2)
  n + (if padLength = 0 then (objTrlr.fieldBytes 0).length else padLength) + 1
    + (objTrlr.fieldBytes 2).length

/-- The call gets as far as computing a code: none is preset in the trailer, the payload can be put
    together, and the buffer has room for the packet up to the next header. -/
structure CodeReached (cipher : Cipher) (algorithms : Algorithms) (keys : RequestKeys) (h : RequestHdr)
    (objs : RmcpplusRequest) (pktLen : ℕ) (objTrlr : FiidObj) (head : ℕ) : Prop where
  hasTrlr : h.hasTrlr = true
  trlr : objs.sessionTrlr = some objTrlr
  notPreset : objTrlr.fieldBytes 3 = []
  headers : RmcpplusHead objs head
  payload : PayloadFits cipher algorithms keys.confidentiality h.payloadType objs.cmd
  room : 4 + signedBytes algorithms h.payloadType objs.cmd objTrlr head ≤ pktLen

/-- Where a code is computed, the buffer for what is hashed takes it. -/
def CodeFits (cipher : Cipher) (algorithms : Algorithms) (keys : RequestKeys) (h : RequestHdr)
    (objs : RmcpplusRequest) (pktLen : ℕ) : Prop :=
  ∀ objTrlr head, CodeReached cipher algorithms keys h objs pktLen objTrlr head →
    hashedBytes algorithms (signedBytes algorithms h.payloadType objs.cmd objTrlr head)
      ≤ ipmiMaxPayloadLength

section Packet
variable {ndebug : Bool} {crypto : Crypto} {cipher : Cipher} {algorithms : Algorithms} {keys : RequestKeys}
  {h : RequestHdr} {objs : RmcpplusRequest} {pktLen : ℕ} {flags : BitVec 32}
  {head payload : List Byte} {r : List Byte × ℕ}

theorem RmcpplusHead.unique {k k' : ℕ} (hk : RmcpplusHead objs k) (hk' : RmcpplusHead objs k') :
    k' = k := by
  obtain ⟨rmcpLen, sessionLen, hrmcp, hsession, rfl⟩ := hk
  obtain ⟨rmcpLen', sessionLen', hrmcp', hsession', rfl⟩ := hk'
  rw [hrmcp] at hrmcp'
  rw [hsession] at hsession'
  cases hrmcp'
  cases hsession'
  rfl

/-- The bytes of a trailer. -/
theorem Made.trlr {objTrlr : FiidObj} (hmade : Made ndebug objTrlr)
    (htmpl : templateIs objTrlr tmplRmcpplusSessionTrlr = true) :
    objTrlr.Parts tmplRmcpplusSessionTrlr.fields [objTrlr.fieldBytes 0, objTrlr.fieldBytes 1,
      objTrlr.fieldBytes 2, objTrlr.fieldBytes 3] := by
  obtain ⟨hof, -, hbytes⟩ := hmade.of (by decide) htmpl
  have hparts := parts_of_byteLens hof (by decide) (hbytes (by decide))
  have hfour : objTrlr.lens.length = 4 := by
    rw [FiidObj.lens, List.length_map, ← List.length_map FiidFieldData.toField, hof.fields]
    rfl
  rwa [hfour] at hparts

/-- The packet up to the next header has the length that follows from the objects. -/
theorem length_head (objTrlr : FiidObj) {front : List Byte}
    (hpayload : payload.length = payloadBytes algorithms h.payloadType objs.cmd)
    (hfront : front = head ++ leBytes 2 payload.length ++ payload) (hle : 4 ≤ head.length) :
    (front ++ trlrHead (front.length - 4) (objTrlr.fieldBytes 0) (objTrlr.fieldBytes 2)).length
      = 4 + signedBytes algorithms h.payloadType objs.cmd objTrlr head.length := by
  have hn : front.length - 4 = head.length - 4 + 2 + payloadBytes algorithms h.payloadType objs.cmd := by
    rw [hfront, ← hpayload]
    simp only [List.length_append, length_leBytes]
    omega
  rw [hn]
  simp only [signedBytes, trlrHead, trlrPad, List.length_append, List.length_singleton]
  have hlen : front.length = head.length + 2 + payloadBytes algorithms h.payloadType objs.cmd := by
    omega
  split
  · omega
  · rw [List.length_replicate]
    omega

/-- In lengths, the buffer for what is hashed overflows exactly where a code is reached that does not
    fit. -/
theorem codeFits_iff {objTrlr : FiidObj} {front : List Byte}
    (hhead : RmcpplusHead objs head.length)
    (hfits : PayloadFits cipher algorithms keys.confidentiality h.payloadType objs.cmd)
    (htrlr : h.hasTrlr = true) (hobj : objs.sessionTrlr = some objTrlr)
    (hpassword : algorithms.integrity = ipmiIntegrityAlgorithmMd5128 →
      keys.authenticationCodeData.length ≤ ipmi20MaxPasswordLength)
    (hlen : (front ++ trlrHead (front.length - 4) (objTrlr.fieldBytes 0) (objTrlr.fieldBytes 2)).length
      = 4 + signedBytes algorithms h.payloadType objs.cmd objTrlr head.length) :
    CodeFits cipher algorithms keys h objs pktLen ↔
      ¬ HashOverflows algorithms keys pktLen (objTrlr.fieldBytes 3)
        (front ++ trlrHead (front.length - 4) (objTrlr.fieldBytes 0) (objTrlr.fieldBytes 2)) := by
  have hhashed : ∀ signed, HashFits algorithms keys signed ↔
      hashedBytes algorithms signed.length ≤ ipmiMaxPayloadLength := fun signed => by
    rw [HashFits, length_hashData hpassword]
  constructor
  · rintro hcodeFits ⟨hnone, hroom, hlong⟩
    rw [hlen] at hroom
    refine hlong ((hhashed _).mpr ?_)
    rw [List.length_drop, hlen, Nat.add_sub_cancel_left]
    exact hcodeFits objTrlr head.length ⟨htrlr, hobj, hnone, hhead, hfits, hroom⟩
  · intro hnot objTrlr' head' hreached
    obtain rfl := Option.some.inj (hobj.symm.trans hreached.trlr)
    obtain rfl := hhead.unique hreached.headers
    by_contra hlong
    refine hnot ⟨hreached.notPreset, hlen ▸ hreached.room, fun hhash => hlong ?_⟩
    have hle := (hhashed _).mp hhash
    rwa [List.length_drop, hlen, Nat.add_sub_cancel_left] at hle

/-- The trailer goes behind the payload, is reported, or overflows the buffer for what is hashed. -/
theorem putTrlr_stops (hr : RequestChecked algorithms keys objs h) (hmade : objs.Made ndebug)
    (hhead : RmcpplusHead objs head.length) (hle : 4 ≤ head.length)
    (hfits : PayloadFits cipher algorithms keys.confidentiality h.payloadType objs.cmd)
    (hpayload : payload.length = payloadBytes algorithms h.payloadType objs.cmd)
    (hf : Front pktLen (head ++ leBytes 2 payload.length ++ payload) r) :
    Meets (objs.putTrlr crypto algorithms keys h 4 r.1 r.2)
      (fun r' => CodeFits cipher algorithms keys h objs pktLen ∧ r'.2 ≤ pktLen)
      (fun e => e.isReturn = true ∧ CodeFits cipher algorithms keys h objs pktLen ∨
        e = .undefined ∧ ¬ CodeFits cipher algorithms keys h objs pktLen) := by
  rw [RmcpplusRequest.putTrlr]
  refine Meets.ite (fun htrlr => ?_) fun htrlr => ?_
  · obtain ⟨objTrlr, hobj, hc⟩ := hr.trlr htrlr
    obtain ⟨front, hfront⟩ : ∃ front, front = head ++ leBytes 2 payload.length ++ payload := ⟨_, rfl⟩
    rw [← hfront] at hf
    have hlt : 4 < front.length := by
      rw [hfront]
      simp only [List.length_append, length_leBytes]
      omega
    have hordinary := (putTrlr_front crypto hc hf hlt).reason
    have hput := putTrlr_parts crypto algorithms keys hf
      ((hmade.sessionTrlr _ hobj).trlr hc.template) rfl
    have hcode : CodeFits cipher algorithms keys h objs pktLen ↔ _ :=
      codeFits_iff hhead hfits htrlr hobj hc.password (length_head objTrlr hpayload hfront hle)
    rw [hobj]
    refine ⟨fun r' hr' => ?_, fun e he => ?_⟩
    · obtain ⟨hfront', hnot⟩ := hput.value r' hr'
      exact ⟨hcode.mpr hnot, hfront'.index ▸ hfront'.le⟩
    · rcases (hput.reason e he).resolve_left (hordinary e he) with ⟨hundefined, hover⟩ | ⟨hreturn, hnot, -⟩
      · exact Or.inr ⟨hundefined, fun hyes => hcode.mp hyes hover⟩
      · exact Or.inl ⟨hreturn, hcode.mpr hnot⟩
  · exact Meets.ok ⟨fun _ _ hreached => absurd hreached.hasTrlr htrlr, hf.index ▸ hf.le⟩

/-! ### The packet -/

/-- Writing the session header returns, whether it fits or not. -/
theorem putSessionHdr_returns (hmade : objs.Made ndebug) (hr : RequestChecked algorithms keys objs h)
    (r : List Byte × ℕ) : Meets (putBlockIfRoom r.1 r.2 objs.sessionHdr "authentication_type"
      "session_sequence_number") (fun _ => True) (·.isReturn = true) := by
  obtain ⟨hof, hpart, -⟩ := hmade.sessionHdr.of (by decide) hr.sessionHdr
  have hstart : ∀ i, bitLen (tmplRmcpplusSessionHdr.fields.take i) % 8 = 0 →
      objs.sessionHdr.bitStart i % 8 = 0 := fun i hi => by
    rw [bitStart_eq hof]
    exact hi
  have hb : BlockAt objs.sessionHdr "authentication_type" "session_sequence_number" 0 9 :=
    ⟨fieldAt_of_tmpl hof (by decide), fieldAt_of_tmpl hof (by decide), by norm_num,
      hstart 0 (by decide), hstart 10 (by decide)⟩
  rw [putBlockIfRoom, fiidObjBlockLenBytes, hb.blockLen, ok_bind]
  refine Meets.bind (R := fun _ => True) (Meets.ite (fun _ => Meets.error rfl) fun _ =>
    Meets.ok trivial) fun len _ => Meets.ite (fun _ => Meets.error rfl) fun _ => ?_
  exact (getBlock_returns hof hpart hb _).bind fun _ _ => Meets.ok trivial

/-- The headers are written where they fit; else the call returns. -/
theorem headers_stop (crypto : Crypto) (cipher : Cipher) (hmade : objs.Made ndebug)
    (hcheck : checkRequest algorithms keys objs pktLen flags = .ok h) (hnot : ¬ HeadersFit objs pktLen) :
    ∃ e, assembleIpmiRmcpplusPkt ndebug crypto cipher algorithms keys objs pktLen flags = .error e ∧
      e.isReturn = true := by
  have hr := requestChecked_of_check hcheck
  obtain ⟨rmcp, hrmcp⟩ := hmade.rmcpHdr.reads hr.rmcpValid
  rw [assembleIpmiRmcpplusPkt, hcheck, ok_bind]
  cases hput : putAllIfRoom (List.replicate pktLen 0) 0 objs.rmcpHdr with
  | error e => exact ⟨e, rfl, ((putAllIfRoom_reads (Front.nil pktLen) hrmcp).reason e hput).1⟩
  | ok r₁ =>
    simp only [ok_bind]
    cases hblock : putBlockIfRoom r₁.1 r₁.2 objs.sessionHdr "authentication_type"
        "session_sequence_number" with
    | error e => exact ⟨e, rfl, (putSessionHdr_returns hmade hr r₁).reason e hblock⟩
    | ok r₂ => exact absurd ((headersFit_iff hr).mpr ⟨r₁, r₂, hput, hblock⟩) hnot

/-- A payload that does not fit into the buffer leaves no room for a code. -/
theorem codeFits_of_noRoom (hhead : RmcpplusHead objs head.length)
    (hlong : PayloadFits cipher algorithms keys.confidentiality h.payloadType objs.cmd →
      pktLen < head.length + 2 + payloadBytes algorithms h.payloadType objs.cmd) :
    CodeFits cipher algorithms keys h objs pktLen := by
  intro objTrlr k hreached
  obtain rfl := hhead.unique hreached.headers
  have hroom := hreached.room
  have hpkt := hlong hreached.payload
  rw [signedBytes] at hroom
  omega

/-- Behind the headers, with what the helpers assert, the buffer for what is hashed is all that can go
    wrong. -/
theorem assembleIpmiRmcpplusPkt_stops (ndebug : Bool) (crypto : Crypto) (hkeeps : KeepsLength cipher)
    (hmade : objs.Made ndebug) (hcheck : checkRequest algorithms keys objs pktLen flags = .ok h)
    (hfit : HeadersFit objs pktLen)
    (hmet : AssertsMet algorithms h.payloadType h.payloadEncrypted objs.lanMsgHdr) :
    Meets (assembleIpmiRmcpplusPkt ndebug crypto cipher algorithms keys objs pktLen flags)
      (fun r => (PayloadFits cipher algorithms keys.confidentiality h.payloadType objs.cmd ∧
        r.1 ≤ pktLen) ∧ CodeFits cipher algorithms keys h objs pktLen)
      (fun e => e.isReturn = true ∧ CodeFits cipher algorithms keys h objs pktLen ∨
        e = .undefined ∧ ¬ CodeFits cipher algorithms keys h objs pktLen) := by
  have hr := requestChecked_of_check hcheck
  obtain ⟨hlenBytes, hfour⟩ := hr.rmcpLen
  obtain ⟨r₁, r₂, hput, hblock⟩ := (headersFit_iff hr).mp hfit
  obtain ⟨rmcp, hrmcp, h₁⟩ := (putAllIfRoom_front (Front.nil pktLen) objs.rmcpHdr).value r₁ hput
  obtain ⟨session, hsession, h₂⟩ := (putBlockIfRoom_front h₁ objs.sessionHdr "authentication_type"
    "session_sequence_number").value r₂ hblock
  rw [List.nil_append] at h₁ h₂
  rw [hfour] at hrmcp
  have hfrontLen : (rmcp ++ session).length = 4 + session.length := by rw [List.length_append, hrmcp]
  have hhead : RmcpplusHead objs (rmcp ++ session).length :=
    ⟨4, session.length, hlenBytes, hsession, hfrontLen⟩
  have hindx : r₁.2 = 4 := h₁.index.trans hrmcp
  rw [assembleIpmiRmcpplusPkt, hcheck, ok_bind, hput]
  simp only [ok_bind]
  rw [hblock, hindx]
  simp only [ok_bind]
  refine ((putPayload_fits hkeeps hr hmade hmet h₂).mono (fun _ hq => hq) fun _ he =>
    Or.inl ⟨he.1, codeFits_of_noRoom hhead he.2⟩).bind ?_
  rintro r₃ ⟨hfits, payload, hpayload, h₃⟩
  refine (putTrlr_stops hr hmade hhead (by omega) hfits hpayload h₃).bind ?_
  rintro r₄ ⟨hcode, hle⟩
  exact Meets.ite (fun _ => Meets.error (Or.inl ⟨rfl, hcode⟩)) fun _ => Meets.ok ⟨⟨hfits, hle⟩, hcode⟩

/-- A call that passes the entry checks fails no assertion exactly when it does not get as far as the
    payload, or meets what the helpers assert of it. -/
theorem noAssertion_iff (ndebug : Bool) (crypto : Crypto) (cipher : Cipher)
    (hcheck : checkRequest algorithms keys objs pktLen flags = .ok h) :
    assembleIpmiRmcpplusPkt ndebug crypto cipher algorithms keys objs pktLen flags ≠ .error .assertion ↔
      (HeadersFit objs pktLen →
        AssertsMet algorithms h.payloadType h.payloadEncrypted objs.lanMsgHdr) := by
  by_cases hmet : AssertsMet algorithms h.payloadType h.payloadEncrypted objs.lanMsgHdr
  · have hordinary := assembleIpmiRmcpplusPkt_layout ndebug crypto cipher hcheck hmet
    exact iff_of_true (fun herror => hordinary.reason _ herror rfl) fun _ => hmet
  · have hfails := (assembleIpmiRmcpplusPkt_assertion ndebug crypto cipher hcheck hmet).1
    rw [Ne, hfails]
    exact ⟨fun hfit h => absurd h hfit, fun himp hfit => hmet (himp hfit)⟩

/-- A call that passes the entry checks fails no assertion exactly when it does not get as far as the
    payload, or meets what the helpers assert of it. With objects of the library, it returns a length only
    for a payload and a buffer of good sizes and a key that fits, and else -1 with an errno, exactly when
    it moreover does not hash more than the buffer for that takes. -/
theorem assertsMet_iff (ndebug : Bool) (crypto : Crypto) (cipher : Cipher)
    (hcheck : checkRequest algorithms keys objs pktLen flags = .ok h) :
    (assembleIpmiRmcpplusPkt ndebug crypto cipher algorithms keys objs pktLen flags
        ≠ .error .assertion ↔
      (HeadersFit objs pktLen →
        AssertsMet algorithms h.payloadType h.payloadEncrypted objs.lanMsgHdr)) ∧
    (objs.Made ndebug → KeepsLength cipher →
      (Meets (assembleIpmiRmcpplusPkt ndebug crypto cipher algorithms keys objs pktLen flags)
          (fun r => PayloadFits cipher algorithms keys.confidentiality h.payloadType objs.cmd ∧
            r.1 ≤ pktLen) (·.isReturn = true) ↔
        (HeadersFit objs pktLen →
          AssertsMet algorithms h.payloadType h.payloadEncrypted objs.lanMsgHdr ∧
            CodeFits cipher algorithms keys h objs pktLen))) := by
  have hassert := noAssertion_iff ndebug crypto cipher hcheck
  refine ⟨hassert, fun hmade hkeeps => ?_⟩
  by_cases hfit : HeadersFit objs pktLen
  · rw [forall_prop_of_true hfit] at hassert ⊢
    constructor
    · intro hmeets
      have hmet := hassert.mp fun hfails => absurd (hmeets.reason _ hfails) (by decide)
      refine ⟨hmet, ?_⟩
      have hstops := assembleIpmiRmcpplusPkt_stops ndebug crypto hkeeps hmade hcheck hfit hmet
      cases hret : assembleIpmiRmcpplusPkt ndebug crypto cipher algorithms keys objs pktLen flags with
      | ok r => exact (hstops.value r hret).2
      | error e =>
        rcases hstops.reason e hret with ⟨-, hcode⟩ | ⟨rfl, -⟩
        · exact hcode
        · exact absurd (hmeets.reason _ hret) (by decide)
    · rintro ⟨hmet, hcode⟩
      exact (assembleIpmiRmcpplusPkt_stops ndebug crypto hkeeps hmade hcheck hfit hmet).mono
        (fun _ hq => hq.1) fun _ he => (he.resolve_right fun hundefined => hundefined.2 hcode).1
  · obtain ⟨e, hret, hreturn⟩ := headers_stop crypto cipher hmade hcheck hfit
    rw [hret]
    exact iff_of_true (Meets.error hreturn) fun hyes => absurd hyes hfit

end Packet

/-! ### Requests -/

/-- The session header of an authenticated and encrypted IPMI request. -/
def sentSecretSessionHdr : FiidObj :=
  builtObj tmplRmcpplusSessionHdr 18
    [.set "authentication_type" 6, .set "reserved1" 0, .set "payload_type" 0,
     .set "payload_type.authenticated" 1, .set "payload_type.encrypted" 1,
     .set "session_id" 0x12345678, .set "session_sequence_number" 3]

def sentSessionTrlr : FiidObj := builtObj tmplRmcpplusSessionTrlr 38 [.set "next_header" 7]

/-- Get Device ID, authenticated and encrypted. -/
def secretObjs : RmcpplusRequest where
  rmcpHdr := sentRmcpHdr
  sessionHdr := sentSecretSessionHdr
  lanMsgHdr := some (sentMsgHdr 0xc8)
  cmd := sentGetDeviceId
  sessionTrlr := some sentSessionTrlr

def secretHdr : RequestHdr := ⟨0, true, true, 0x12345678, 3⟩

/-- The message of the request with its padding. -/
def secretBlock : List Byte :=
  [0x20, 0x18, 0xc8, 0x81, 0x04, 0x01, 0x7a, 1, 2, 3, 4, 5, 6, 7, 8, 8]

/-- The block under the key `10 .. 1f` and the initialization vector `20 .. 2f`. -/
def encryptedBlock : List Byte :=
  [0x44, 0xad, 0xd9, 0x80, 0x24, 0xcb, 0x84, 0xa7, 0x7e, 0x9c, 0x37, 0xa1, 0xb7, 0x37, 0x64, 0xd5]

/-- AES on these two blocks. -/
def swapBlocks (data : List Byte) : List Byte :=
  if data = secretBlock then encryptedBlock else if data = encryptedBlock then secretBlock else data

def sampleCipher : Cipher where
  aesCbc128Encrypt _ _ := swapBlocks
  random := some ⟨(List.range 16).map fun i => BitVec.ofNat 8 (0x20 + i), by simp⟩

/-- HMAC-SHA1 of the packet under the key `30 .. 43`. -/
def sampleCrypto : Crypto where
  hmacSha1 _ _ := ⟨[0x9f, 0x28, 0x2d, 0x65, 0x01, 0x22, 0x9b, 0x9f, 0xea, 0x10, 0xea, 0x8d, 0xe6, 0xed,
    0x6c, 0x11, 0x79, 0x00, 0xbf, 0xc8], rfl⟩
  hmacMd5 _ _ := List.Vector.replicate 16 0
  hmacSha256 _ _ := List.Vector.replicate 32 0
  md5 _ := List.Vector.replicate 16 0
  aesCbc128Decrypt _ _ := swapBlocks

def sampleKeys : RequestKeys where
  integrity := (List.range 20).map fun i => BitVec.ofNat 8 (0x30 + i)
  confidentiality := some ((List.range 16).map fun i => BitVec.ofNat 8 (0x10 + i))
  authenticationCodeData := sentPassword

def aesHmacSha1 : Algorithms :=
  ⟨ipmiAuthenticationAlgorithmRakpHmacSha1, ipmiIntegrityAlgorithmHmacSha196,
    ipmiConfidentialityAlgorithmAesCbc128⟩

theorem sampleCipher_keepsLength : KeepsLength sampleCipher := by
  intro key iv data _
  show (swapBlocks data).length = data.length
  rw [swapBlocks]
  split
  · rename_i heq
    rw [heq]
    rfl
  · split
    · rename_i heq
      rw [heq]
      rfl
    · rfl

theorem secretObjs_check : checkRequest aesHmacSha1 sampleKeys secretObjs 100 0 = .ok secretHdr := by rfl

theorem builtObj_made {ndebug : Bool} {tmpl : FiidTemplate} {dataLen : ℕ} (ops : List FiidOp)
    (hcreate : fiidObjCreate ndebug tmpl = some (createdObj tmpl dataLen false))
    (hwide : WideAligned tmpl.fields) : Made ndebug (builtObj tmpl dataLen ops) :=
  ⟨tmpl, builtObj_reachable ops hcreate, hwide⟩

theorem secretObjs_made : secretObjs.Made false where
  rmcpHdr := show Made _ sentRmcpHdr from builtObj_made _ (by decide) (by decide)
  sessionHdr := show Made _ sentSecretSessionHdr from builtObj_made _ (by decide) (by decide)
  lanMsgHdr := by
    rintro obj ⟨⟩
    exact builtObj_made _ (by decide) (by decide)
  cmd := show Made _ sentGetDeviceId from builtObj_made _ (by decide) (by decide)
  sessionTrlr := by
    rintro obj ⟨⟩
    exact builtObj_made _ (by decide) (by decide)

/-- An authenticated and encrypted request is sent or reported. -/
theorem assertsMet_iff_secret :
    assembleIpmiRmcpplusPkt false sampleCrypto sampleCipher aesHmacSha1 sampleKeys secretObjs 100 0
        ≠ .error .assertion ∧
      Meets (assembleIpmiRmcpplusPkt false sampleCrypto sampleCipher aesHmacSha1 sampleKeys secretObjs
          100 0)
        (fun r => PayloadFits sampleCipher aesHmacSha1 sampleKeys.confidentiality ipmiPayloadTypeIpmi
          sentGetDeviceId ∧ r.1 ≤ 100) (·.isReturn = true) := by
  have hmet : AssertsMet aesHmacSha1 secretHdr.payloadType secretHdr.payloadEncrypted
      secretObjs.lanMsgHdr := ⟨⟨_, rfl, by decide⟩, fun _ _ => rfl⟩
  have hstated := assertsMet_iff false sampleCrypto sampleCipher secretObjs_check
  refine ⟨hstated.1.mpr fun _ => hmet,
    (hstated.2 secretObjs_made sampleCipher_keepsLength).mpr fun _ => ⟨hmet, ?_⟩⟩
  intro objTrlr head hreached
  have hhead : RmcpplusHead secretObjs 14 := ⟨4, 10, by rfl, by rfl, rfl⟩
  obtain rfl := hhead.unique hreached.headers
  obtain rfl : sentSessionTrlr = objTrlr := Option.some.inj hreached.trlr
  decide

/-- A session header without a session, with the given payload type. -/
def sentRmcpplusSessionHdr (payloadType : Byte) : FiidObj :=
  builtObj tmplRmcpplusSessionHdr 18
    [.set "authentication_type" 6, .set "reserved1" 0, .set "payload_type" (payloadType.setWidth 64),
     .set "payload_type.authenticated" 0, .set "payload_type.encrypted" 0, .set "session_id" 0,
     .set "session_sequence_number" 0]

def sentOpenSessionRequest : FiidObj :=
  builtObj tmplRmcpplusOpenSessionRequest 32 [.setAll (List.replicate 32 0)]

/-- An Open Session Request without the message header that it does not need. -/
def openSessionObjs : RmcpplusRequest where
  rmcpHdr := sentRmcpHdr
  sessionHdr := sentRmcpplusSessionHdr ipmiPayloadTypeRmcpplusOpenSessionRequest
  lanMsgHdr := none
  cmd := sentOpenSessionRequest
  sessionTrlr := none

/-- An IPMI request that is not marked as encrypted. -/
def getDeviceIdObjs : RmcpplusRequest where
  rmcpHdr := sentRmcpHdr
  sessionHdr := sentRmcpplusSessionHdr ipmiPayloadTypeIpmi
  lanMsgHdr := some (sentMsgHdr 0xc8)
  cmd := sentGetDeviceId
  sessionTrlr := none

def plainCipher : Cipher := ⟨fun _ _ data => data, some (List.Vector.replicate 16 0)⟩

def noKeys : RequestKeys := ⟨[], none, []⟩

def requestHdr (payloadType : Byte) : RequestHdr := ⟨payloadType, false, false, 0, 0⟩

/-- Both calls pass the entry checks and fail an assertion: without the message header that only an IPMI
    payload needs, and with a cipher for a packet that is not marked as encrypted. -/
theorem assertions_fail :
    (checkRequest ⟨0, 0, 0⟩ noKeys openSessionObjs 100 0
        = .ok (requestHdr ipmiPayloadTypeRmcpplusOpenSessionRequest) ∧
      assembleIpmiRmcpplusPkt false zeroCrypto plainCipher ⟨0, 0, 0⟩ noKeys openSessionObjs 100 0
        = .error .assertion) ∧
    checkRequest ⟨1, 1, 1⟩ ⟨[], some (List.replicate 16 0), []⟩ getDeviceIdObjs 100 0
        = .ok (requestHdr ipmiPayloadTypeIpmi) ∧
      assembleIpmiRmcpplusPkt false zeroCrypto plainCipher ⟨1, 1, 1⟩
        ⟨[], some (List.replicate 16 0), []⟩ getDeviceIdObjs 100 0 = .error .assertion := by
  refine ⟨⟨by rfl, ?_⟩, by rfl, ?_⟩
  · have hmet : ¬ AssertsMet ⟨0, 0, 0⟩ ipmiPayloadTypeRmcpplusOpenSessionRequest false none :=
      fun hmet => Exists.elim hmet.msgHdr fun _ hobj => absurd hobj.1 (by simp)
    exact (assembleIpmiRmcpplusPkt_assertion (h := requestHdr _) false zeroCrypto plainCipher
      (by rfl) hmet).1.mpr ⟨4, _, _, by rfl, by rfl⟩
  · have hmet : ¬ AssertsMet ⟨1, 1, 1⟩ ipmiPayloadTypeIpmi false (some (sentMsgHdr 0xc8)) :=
      fun hmet => absurd (hmet.encrypted (Or.inl rfl) rfl) (by decide)
    exact (assembleIpmiRmcpplusPkt_assertion (h := requestHdr _) false zeroCrypto plainCipher
      (by rfl) hmet).1.mpr ⟨4, _, _, by rfl, by rfl⟩

end FreeIpmi.Rmcpplus
