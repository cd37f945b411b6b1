import FreeIpmi.Rmcpplus.RoundTrip
import FreeIpmi.Rmcpplus.Asserts

/-! What `assemble_ipmi_rmcpplus_pkt` has sent, `unassemble_ipmi_rmcpplus_pkt` delivers: with the same
    algorithms and keys, and a cipher that is undone by decryption, an IPMI or SOL request comes back
    field by field, and everything that is checked of it is found right. -/

namespace FreeIpmi.Rmcpplus
open ByteBits Fiid Calls Stages Lan LittleEndian

/-- What the parser has read of a request: the headers, the content of the payload without its padding,
    and the command. The length of the payload is computed by the assembler, so it is not the one of the
    object that was sent. -/
structure RmcpplusReceived (algorithms : Algorithms) (objs : RmcpplusRequest) (h : RequestHdr)
    (received : RmcpplusObjs) : Prop where
  rmcpHdr : objs.rmcpHdr.SameFields received.rmcpHdr
  sessionHdr : ∀ field ∈ sessionFields,
    fiidObjGetStrict received.sessionHdr field = fiidObjGetStrict objs.sessionHdr field
  readBack : sessionHdrOf received.sessionHdr
    = .ok (h.received (payloadBytes algorithms h.payloadType objs.cmd))
  payload : ∃ hdr cmd, (h.payloadType = ipmiPayloadTypeIpmi → HdrBytes objs hdr) ∧ objs.cmd.Reads cmd ∧
    fiidObjGetData received.payload "payload_data" ipmiMaxPayloadLength
      = .ok (requestContent h.payloadType hdr cmd)
  msgHdr : h.payloadType = ipmiPayloadTypeIpmi →
    ∃ objLanMsgHdr, objs.lanMsgHdr = some objLanMsgHdr ∧ objLanMsgHdr.SameFields received.lanMsgHdr
  cmd : objs.cmd.SameFields received.cmd

/-- What is checked of a received packet. Of the two checksums of a message the assembler computes the
    second only. -/
structure RmcpplusVerified (crypto : Crypto) (algorithms : Algorithms) (keys : RequestKeys)
    (objs : RmcpplusRequest) (h : RequestHdr) (pkt : List Byte) (received : RmcpplusObjs) : Prop where
  checksum : h.payloadType = ipmiPayloadTypeIpmi →
    (∀ objLanMsgHdr ∈ objs.lanMsgHdr, Checksum1Right objLanMsgHdr) →
      ipmiLanCheckChecksum received.lanMsgHdr received.cmd received.lanMsgTrlr = .ok true
  payloadPad : ipmiRmcpplusCheckPayloadPad algorithms.confidentiality received.payload = .ok true
  integrityPad : h.hasTrlr = true → ipmiRmcpplusCheckIntegrityPad received.sessionTrlr = .ok true
  code : h.hasTrlr = true → ipmiRmcpplusCheckPacketSessionAuthenticationCode crypto algorithms.integrity
    pkt (some keys.integrity) keys.authenticationCodeData received.sessionTrlr = .ok true

/-! ### When a request is sent -/

/-- The packet for the objects, in bytes. -/
def packetBytes (algorithms : Algorithms) (h : RequestHdr) (objs : RmcpplusRequest) : ℕ :=
  packetLength algorithms h (payloadBytes algorithms h.payloadType objs.cmd)

/-- What a request needs behind the entry checks: what the helpers assert, a payload that can be put
    together, and room for what is hashed and for the packet. -/
structure RmcpplusFits (cipher : Cipher) (algorithms : Algorithms) (keys : RequestKeys) (h : RequestHdr)
    (objs : RmcpplusRequest) (pktLen : ℕ) : Prop where
  asserts : AssertsMet algorithms h.payloadType h.payloadEncrypted objs.lanMsgHdr
  payload : PayloadFits cipher algorithms keys.confidentiality h.payloadType objs.cmd
  hashed : h.hasTrlr = true →
    hashedLength algorithms (payloadBytes algorithms h.payloadType objs.cmd) ≤ ipmiMaxPayloadLength
  room : packetBytes algorithms h objs ≤ pktLen
  int : packetBytes algorithms h objs ≤ intMax

section Fits
variable {ndebug : Bool} {cmdTmpl : FiidTemplate} {h : RequestHdr} {objs : RmcpplusRequest}
  {crypto : Crypto} {cipher : Cipher} {algorithms : Algorithms} {keys : RequestKeys} {content : List Byte}
  {flags : BitVec 32} {pktLen : ℕ}

/-- The content is ready exactly when the objects fit. -/
theorem requestReady_iff (hkeeps : KeepsLength cipher) (hkind : Ciphered h.payloadType)
    (hasserts : AssertsMet algorithms h.payloadType h.payloadEncrypted objs.lanMsgHdr)
    (hcontent : content.length = contentBytes h.payloadType objs.cmd) :
    RequestReady cipher algorithms keys h content pktLen ↔
      RmcpplusFits cipher algorithms keys h objs pktLen := by
  have hpayload : payloadLength algorithms content = payloadBytes algorithms h.payloadType objs.cmd :=
    payloadLength_content algorithms hkind hcontent
  have hready := payloadReady_iff algorithms keys.confidentiality hkeeps hkind hcontent
  constructor
  · rintro ⟨hfits, hhashed, hroom, hint⟩
    rw [hpayload] at hhashed hroom hint
    exact ⟨hasserts, hready.mp hfits, hhashed, hroom, hint⟩
  · rintro ⟨-, hfits, hhashed, hroom, hint⟩
    rw [← hpayload] at hhashed
    rw [packetBytes, ← hpayload] at hroom hint
    exact ⟨hready.mpr hfits, hhashed, hroom, hint⟩

/-- What is returned has the length that follows from the objects, and they fit. -/
theorem fits_of_returns (crypto : Crypto) (hkeeps : KeepsLength cipher)
    (hcheck : checkRequest algorithms keys objs pktLen flags = .ok h) (hkind : Ciphered h.payloadType)
    (hreq : objs.Fit ndebug cmdTmpl h) {r : ℕ × List Byte}
    (hok : assembleIpmiRmcpplusPkt ndebug crypto cipher algorithms keys objs pktLen flags = .ok r) :
    RmcpplusFits cipher algorithms keys h objs pktLen ∧ r.1 = packetBytes algorithms h objs := by
  have hmet : AssertsMet algorithms h.payloadType h.payloadEncrypted objs.lanMsgHdr := by
    by_contra hnot
    exact (assembleIpmiRmcpplusPkt_assertion ndebug crypto cipher hcheck hnot).2 _ hok
  obtain ⟨rmcp, session, rest, hdr, cmd, nextHeader, hh, -, -, -, hcmd⟩ := hreq.holds hcheck hmet
  obtain ⟨objLanMsgHdr, -, hhdr⟩ := hh.hdrReads
  have hcontent := length_requestContent hcmd.lenBytes fun htype => (hhdr htype).2
  obtain ⟨iv, hs⟩ := (assembleIpmiRmcpplusPkt_bytes ndebug crypto cipher hcheck hkind hh).value _ hok
  refine ⟨(requestReady_iff hkeeps hkind hmet hcontent).mp hs.ready, ?_⟩
  rw [hs.len, payloadLength_content algorithms hkind hcontent, packetBytes]

/-- Objects that fit are sent. -/
theorem RmcpplusFits.returns (hfits : RmcpplusFits cipher algorithms keys h objs pktLen) (crypto : Crypto)
    (hkeeps : KeepsLength cipher) (hcheck : checkRequest algorithms keys objs pktLen flags = .ok h)
    (hkind : Ciphered h.payloadType) (hreq : objs.Fit ndebug cmdTmpl h) :
    ∃ buf, assembleIpmiRmcpplusPkt ndebug crypto cipher algorithms keys objs pktLen flags
      = .ok (packetBytes algorithms h objs, buf) := by
  obtain ⟨rmcp, session, rest, hdr, cmd, nextHeader, hh, -, -, -, hcmd⟩ :=
    hreq.holds hcheck hfits.asserts
  obtain ⟨objLanMsgHdr, -, hhdr⟩ := hh.hdrReads
  have hcontent := length_requestContent hcmd.lenBytes fun htype => (hhdr htype).2
  cases hret : assembleIpmiRmcpplusPkt ndebug crypto cipher algorithms keys objs pktLen flags with
  | ok r =>
    obtain ⟨n, buf⟩ := r
    obtain ⟨-, rfl⟩ := fits_of_returns crypto hkeeps hcheck hkind hreq hret
    exact ⟨buf, rfl⟩
  | error e =>
    rcases (assembleIpmiRmcpplusPkt_bytes ndebug crypto cipher hcheck hkind hh).reason e hret with
      rfl | hnot
    · exact absurd rfl
        ((assembleIpmiRmcpplusPkt_layout ndebug crypto cipher hcheck hfits.asserts).reason _ hret)
    · exact absurd ((requestReady_iff hkeeps hkind hfits.asserts hcontent).mpr hfits) hnot

end Fits

section Delivered
variable {ndebug : Bool} {cmdTmpl : FiidTemplate} {h : RequestHdr} {objs : RmcpplusRequest}
  {received : RmcpplusObjs} {crypto : Crypto} {cipher : Cipher} {algorithms : Algorithms}
  {keys : RequestKeys} {rmcp session rest hdr cmd iv content front payload : List Byte} {nextHeader : Byte}
  {flags : BitVec 32} {pktLen : ℕ} {r : ℕ × List Byte}

/-- What is returned is laid out for the parser. -/
theorem RequestSent.laid (hs : RequestSent crypto cipher algorithms keys h nextHeader rmcp session
      (requestContent h.payloadType hdr cmd) iv pktLen r)
    (hh : RequestHolds rmcp session hdr cmd nextHeader h objs) (hkind : Ciphered h.payloadType)
    (hsession : requestHdrAt session = h) (hcmd : objs.cmd.Holds objs.cmd.lens cmd)
    (hnonempty : 0 < fiidObjLen objs.cmd)
    (hlong : contentBytes h.payloadType objs.cmd ≤ contentMax algorithms h.payloadType) :
    ∃ content payload front, payload.length = payloadBytes algorithms h.payloadType objs.cmd ∧
      RequestLaid crypto cipher algorithms keys h nextHeader rmcp session hdr cmd iv content payload front
        (r.2.take r.1) := by
  obtain ⟨objLanMsgHdr, -, hhdr⟩ := hh.hdrReads
  have hhdrLen : h.payloadType = ipmiPayloadTypeIpmi → hdr.length = 5 := fun htype => (hhdr htype).2
  have hcontent := length_requestContent hcmd.lenBytes hhdrLen
  have hpayload := (length_payloadParts hs.encrypted).trans (payloadLength_content algorithms hkind hcontent)
  have hlt := (payloadBytes_lt_iff algorithms h.payloadType objs.cmd).mpr hlong
  have hcmdNe : cmd ≠ [] := by
    rintro rfl
    rw [show fiidObjLen objs.cmd = 8 * ([] : List Byte).length from hcmd.setLen] at hnonempty
    exact absurd hnonempty (by decide)
  exact ⟨_, _, _, hpayload, ⟨hh.rmcpLen, hh.sessionLen, hsession, hhdrLen, hcmdNe, rfl,
    hs.ready.payload.le, hs.encrypted, rfl, hpayload.symm ▸ hlt, rfl, hs.pkt⟩⟩

/-- The fields that stand in the first ten bytes of both headers. -/
theorem sessionFields_same {obj : FiidObj} (hset : SessionHdrSet objs.sessionHdr.lens)
    (hof : objs.sessionHdr.Of tmplRmcpplusSessionHdr.fields)
    (hholds : objs.sessionHdr.Holds objs.sessionHdr.lens (session ++ rest)) (hlen : session.length = 10)
    (hof' : obj.Of tmplRmcpplusSessionHdr.fields) {lenBytes : List Byte}
    (hholds' : obj.Holds hdrLens (session ++ lenBytes)) :
    ∀ field ∈ sessionFields,
      fiidObjGetStrict obj field = fiidObjGetStrict objs.sessionHdr field := by
  intro field hfield
  obtain ⟨offset, len, hle, hplace, hplace'⟩ := hset.places hfield
  rw [hholds.getStrict hof hplace, hholds'.getStrict hof' hplace', valueAt_append (by omega),
    valueAt_append (by omega)]

/-- The checksums of a message that was read back, if the caller has set the first one. -/
theorem RequestRead.checksum {header : List Byte} {len : ℕ} {trlr : List (List Byte)}
    (hread : RequestRead algorithms h objs.cmd rmcp header hdr cmd iv content len trlr received)
    (hreq : objs.Fit ndebug cmdTmpl h) (htype : h.payloadType = ipmiPayloadTypeIpmi)
    (hbytes : HdrBytes objs hdr)
    (hright : ∀ objLanMsgHdr ∈ objs.lanMsgHdr, Checksum1Right objLanMsgHdr) :
    ipmiLanCheckChecksum received.lanMsgHdr received.cmd received.lanMsgTrlr = .ok true := by
  obtain ⟨objLanMsgHdr, hobj, hreach⟩ := hreq.msgHdr htype
  obtain ⟨obj, hsome, hholds, -⟩ := hbytes
  obtain rfl := Option.some.inj (hobj.symm.trans hsome)
  have hsum := checksum1_bytes hreach.wf.of hholds (hright _ hobj)
  obtain ⟨hof, hhdr⟩ := hread.contentRead.msgHdr htype
  obtain ⟨hofTrlr, htrlr⟩ := hread.contentRead.msgTrlr htype
  rw [ipmiLanCheckChecksum_eq hof hhdr (length_msgHdr hholds) hread.contentRead.reads hofTrlr htrlr,
    checksumsMatch, hsum]
  simp

/-- The content of a payload that was read back. -/
theorem RequestRead.payloadData {header : List Byte} {len : ℕ} {trlr : List (List Byte)}
    (hread : RequestRead algorithms h objs.cmd rmcp header hdr cmd iv content len trlr received)
    (hlen : content.length ≤ ipmiMaxPayloadLength) :
    fiidObjGetData received.payload "payload_data" ipmiMaxPayloadLength = .ok content := by
  refine hread.payload.getData payload_indices.2.1 ?_ hlen
  rw [readParts]
  split <;> rfl

/-- The call of the parser, once its stages and its verdict are known. -/
theorem unassembleIpmiRmcpplusPkt_eq {pkt : List Byte} {w : RmcpplusWalk}
    (hfit : received.Fit ndebug cmdTmpl)
    (hsupported : AlgorithmsChecked algorithms keys.confidentiality)
    (hintegrity : ipmiIntegrityAlgorithmSupported algorithms.integrity = true)
    (hflags : flags &&& ~~~ ipmiInterfaceFlagsNoLegalCheck = 0)
    (hrun : runStages (rmcpplusStages crypto algorithms keys.confidentiality pkt) ⟨0, received.clear⟩
      = .ok w) :
    unassembleIpmiRmcpplusPkt crypto algorithms keys.confidentiality pkt received flags
      = .ok (w.objs.accepted flags, w.objs) := by
  have hconf : ipmiConfidentialityAlgorithmSupported algorithms.confidentiality = true := by
    rcases hsupported.confidentiality with heq | heq <;> rw [heq] <;> rfl
  rw [unassembleIpmiRmcpplusPkt, if_neg, hfit.passed.compared, ok_bind, hrun]
  · rfl
  · rw [hsupported.authentication, hintegrity, hconf]
    simp only [Bool.not_true, Bool.false_eq_true, false_or, not_or, not_and, not_not]
    exact ⟨fun haes => hsupported.key haes, hflags⟩

/-- A request that was laid out comes back. -/
theorem RequestLaid.delivered {pkt : List Byte} (hreq : objs.Fit ndebug cmdTmpl h)
    {sendFlags : BitVec 32}
    (hcheck : checkRequest algorithms keys objs pktLen sendFlags = .ok h)
    (hfit : received.Fit ndebug cmdTmpl) (hcompared : received.comparePayload h.payloadType = .ok ())
    (hflags : flags &&& ~~~ ipmiInterfaceFlagsNoLegalCheck = 0) (hkind : Ciphered h.payloadType)
    (hinverse : Inverse crypto cipher)
    (hpassword : keys.authenticationCodeData.length ≤ ipmi20MaxPasswordLength)
    (hrmcp : objs.rmcpHdr.Holds rmcpHdrLens rmcp)
    (hsession : objs.sessionHdr.Holds objs.sessionHdr.lens (session ++ rest))
    (hbytes : h.payloadType = ipmiPayloadTypeIpmi → HdrBytes objs hdr)
    (hcmd : objs.cmd.Holds objs.cmd.lens cmd) (hreads : objs.cmd.Reads cmd)
    (hl : RequestLaid crypto cipher algorithms keys h nextHeader rmcp session hdr cmd iv content payload
      front pkt)
    (hpayload : payload.length = payloadBytes algorithms h.payloadType objs.cmd)
    (hhashed : h.hasTrlr = true → hashedLength algorithms payload.length ≤ ipmiMaxPayloadLength) :
    ∃ received', unassembleIpmiRmcpplusPkt crypto algorithms keys.confidentiality pkt received flags
        = .ok (true, received') ∧
      RmcpplusReceived algorithms objs h received' ∧
      RmcpplusVerified crypto algorithms keys objs h pkt received' := by
  have hr := requestChecked_of_check hcheck
  obtain ⟨w, hrun, hread⟩ := rmcpplusStages_request hreq hfit hcompared hkind hinverse hr.notRejected hcmd hl
  have hret := unassembleIpmiRmcpplusPkt_eq hfit hr.supported hr.integrity hflags hrun
  have hfit' := hfit.becomes (unassembleIpmiRmcpplusPkt_becomes hret)
  have haccepted : w.objs.accepted flags = true :=
    hread.accepted hfit' hreq.cmd.wf hr.payload.cmd hl.contentNe
  rw [haccepted] at hret
  have hdata := hread.payloadData hl.contentLen
  rw [hl.contentEq] at hdata
  refine ⟨w.objs, hret, ⟨?_, ?_, ?_, ⟨hdr, cmd, hbytes, hreads, hdata⟩, ?_, hread.contentRead.same⟩,
    ⟨?_, ?_, ?_, ?_⟩⟩
  · exact hrmcp.sameFields hread.rmcpHdr
  · exact sessionFields_same hreq.sessionSet hreq.sessionHdr.wf.of hsession hl.sessionLen hread.sessionOf
      hread.session
  · rw [← hpayload]
    exact hread.readBack
  · intro htype
    obtain ⟨objLanMsgHdr, hobj, hholds, -⟩ := hbytes htype
    exact ⟨objLanMsgHdr, hobj, hholds.sameFields (hread.contentRead.msgHdr htype).2⟩
  · exact fun htype => hread.checksum hreq htype (hbytes htype)
  · refine checkPayloadPad_read ?_ hread.payload
    rcases hr.supported.confidentiality with heq | heq <;> rw [heq] <;> rfl
  · exact fun htrlr => checkIntegrityPad_read (hread.sessionTrlr htrlr)
  · intro htrlr
    have hkeyed := keyed_of_hasTrlr hr.notRejected htrlr
    have hfrontLen : front.length = 16 + payload.length := by
      rw [hl.frontEq, length_front hl.rmcpLen hl.sessionLen]
    have hfits := hhashed htrlr
    rw [← length_requestHashData (fun _ => hpassword) hfrontLen] at hfits
    obtain ⟨trlr, hpkt, htrlrEq⟩ := hl.pkt_eq
    rw [hpkt, htrlrEq htrlr]
    exact checkCode_read hkeyed hpassword (by omega) hfits (hread.sessionTrlr htrlr)

/-- The region that a code is computed over is made of whole words. -/
theorem RequestSent.aligned (hs : RequestSent crypto cipher algorithms keys h nextHeader rmcp session content
    iv pktLen r) (htrlr : h.hasTrlr = true) :
    ∃ k, r.1 = 4 + 4 * k + authenticationCodeLen algorithms.integrity := by
  have hpad := (integrityPadLen_lt (12 + payloadLength algorithms content + 2)).2
  have hlen := hs.len
  rw [packetLength, if_pos htrlr, signedLength] at hlen
  refine ⟨(12 + payloadLength algorithms content + 2
    + integrityPadLen (12 + payloadLength algorithms content + 2)) / 4, ?_⟩
  omega

/-- The bytes of a packet that is returned for objects as callers fill them. -/
theorem RmcpplusRequest.Fit.sent {sendFlags : BitVec 32} (hreq : objs.Fit ndebug cmdTmpl h)
    (hhdr : requestHdrOf objs.sessionHdr = .ok h) (hkind : Ciphered h.payloadType)
    (hok : assembleIpmiRmcpplusPkt ndebug crypto cipher algorithms keys objs pktLen sendFlags = .ok r) :
    checkRequest algorithms keys objs pktLen sendFlags = .ok h ∧
    ∃ rmcp session rest hdr cmd nextHeader iv, RequestHolds rmcp session hdr cmd nextHeader h objs ∧
      objs.rmcpHdr.Holds rmcpHdrLens rmcp ∧
      objs.sessionHdr.Holds objs.sessionHdr.lens (session ++ rest) ∧
      (h.payloadType = ipmiPayloadTypeIpmi → HdrBytes objs hdr) ∧
      objs.cmd.Holds objs.cmd.lens cmd ∧
      RequestSent crypto cipher algorithms keys h nextHeader rmcp session
        (requestContent h.payloadType hdr cmd) iv pktLen r := by
  cases hcheck : checkRequest algorithms keys objs pktLen sendFlags with
  | error e =>
    rw [assembleIpmiRmcpplusPkt, hcheck] at hok
    cases hok
  | ok h' =>
    obtain rfl : h' = h := Except.ok.inj ((requestChecked_of_check hcheck).hdr.symm.trans hhdr)
    have hmet : AssertsMet algorithms h'.payloadType h'.payloadEncrypted objs.lanMsgHdr := by
      by_contra hnot
      exact (assembleIpmiRmcpplusPkt_assertion ndebug crypto cipher hcheck hnot).2 _ hok
    obtain ⟨rmcp, session, rest, hdr, cmd, nextHeader, hh, hrmcp, hsession, hbytes, hcmd⟩ :=
      hreq.holds hcheck hmet
    obtain ⟨iv, hs⟩ := (assembleIpmiRmcpplusPkt_bytes ndebug crypto cipher hcheck hkind hh).value _ hok
    exact ⟨rfl, rmcp, session, rest, hdr, cmd, nextHeader, iv, hh, hrmcp, hsession, hbytes, hcmd, hs⟩

/-- What has been sent is delivered, whatever the content, the padding, the algorithms and the keys. -/
theorem RmcpplusRequest.Fit.delivered {sendFlags : BitVec 32}
    (hreq : objs.Fit ndebug cmdTmpl h) (hhdr : requestHdrOf objs.sessionHdr = .ok h)
    (hkind : Ciphered h.payloadType) (hfit : received.Fit ndebug cmdTmpl)
    (hcompared : received.comparePayload h.payloadType = .ok ())
    (hflags : flags &&& ~~~ ipmiInterfaceFlagsNoLegalCheck = 0)
    (hlong : contentBytes h.payloadType objs.cmd ≤ contentMax algorithms h.payloadType)
    (hinverse : Inverse crypto cipher)
    (hpassword : keys.authenticationCodeData.length ≤ ipmi20MaxPasswordLength)
    (hok : assembleIpmiRmcpplusPkt ndebug crypto cipher algorithms keys objs pktLen sendFlags = .ok r) :
    ∃ received', unassembleIpmiRmcpplusPkt crypto algorithms keys.confidentiality (r.2.take r.1) received
        flags = .ok (true, received') ∧
      RmcpplusReceived algorithms objs h received' ∧
      RmcpplusVerified crypto algorithms keys objs h (r.2.take r.1) received' := by
  obtain ⟨hcheck, rmcp, session, rest, hdr, cmd, nextHeader, iv, hh, hrmcp, hsession, hbytes, hcmd, hs⟩ :=
    hreq.sent hhdr hkind hok
  have hat : requestHdrAt session = h := by
    have heq := requestHdrOf_eq hreq.sessionHdr.wf.of hreq.sessionSet hsession hh.sessionLen
    exact Except.ok.inj (heq.symm.trans hhdr)
  obtain ⟨content, payload, front, hpayload, hl⟩ := hs.laid hh hkind hat hcmd hreq.nonempty hlong
  have hhashed : h.hasTrlr = true → hashedLength algorithms payload.length ≤ ipmiMaxPayloadLength := by
    intro htrlr
    rw [hl.payloadEq, length_payloadParts hl.encrypted, hl.contentEq]
    exact hs.ready.hashed htrlr
  exact hl.delivered hreq hcheck hfit hcompared hflags hkind hinverse hpassword hrmcp hsession hbytes
    hcmd hh.cmdReads hpayload hhashed

/-- The round trip: what has been sent is delivered and verifies, and the authenticated region of the
    packet is made of whole words. -/
theorem assembleIpmiRmcpplusPkt_roundTrip {sendFlags : BitVec 32} {n : ℕ} {buf : List Byte}
    (hhdr : requestHdrOf objs.sessionHdr = .ok h) (hkind : Ciphered h.payloadType)
    (hreq : objs.Fit ndebug cmdTmpl h) (hfit : received.Fit ndebug cmdTmpl)
    (hcompared : received.comparePayload h.payloadType = .ok ())
    (hflags : flags &&& ~~~ ipmiInterfaceFlagsNoLegalCheck = 0)
    (hlong : contentBytes h.payloadType objs.cmd ≤ contentMax algorithms h.payloadType)
    (hinverse : Inverse crypto cipher)
    (hpassword : keys.authenticationCodeData.length ≤ ipmi20MaxPasswordLength)
    (hok : assembleIpmiRmcpplusPkt ndebug crypto cipher algorithms keys objs pktLen sendFlags
      = .ok (n, buf)) :
    (∃ received', unassembleIpmiRmcpplusPkt crypto algorithms keys.confidentiality (buf.take n) received
        flags = .ok (true, received') ∧
      RmcpplusReceived algorithms objs h received' ∧
      RmcpplusVerified crypto algorithms keys objs h (buf.take n) received') ∧
    (h.hasTrlr = true → ∃ k, n = 4 + 4 * k + authenticationCodeLen algorithms.integrity) := by
  obtain ⟨-, rmcp, session, rest, hdr, cmd, nextHeader, iv, -, -, -, -, -, hs⟩ := hreq.sent hhdr hkind hok
  have hdelivered := hreq.delivered hhdr hkind hfit hcompared hflags hlong hinverse hpassword hok
  exact ⟨hdelivered, hs.aligned⟩

end Delivered

/-! ### The encrypted request -/

theorem swapBlocks_swapBlocks (data : List Byte) : swapBlocks (swapBlocks data) = data := by
  have hne : encryptedBlock ≠ secretBlock := by decide
  by_cases hsecret : data = secretBlock
  · simp [swapBlocks, hsecret, hne]
  · by_cases hencrypted : data = encryptedBlock
    · simp [swapBlocks, hencrypted, hne]
    · simp [swapBlocks, hsecret, hencrypted]

theorem sampleCipher_inverse : Inverse sampleCrypto sampleCipher := fun _ _ data _ =>
  swapBlocks_swapBlocks data

theorem secretObjs_fit : secretObjs.Fit false tmplCmdGetDeviceIdRq secretHdr where
  rmcpHdr := show Reachable _ _ sentRmcpHdr from builtObj_reachable _ (by decide)
  sessionHdr := show Reachable _ _ sentSecretSessionHdr from builtObj_reachable _ (by decide)
  sessionSet := Or.inl (by decide)
  msgHdr := fun _ => ⟨_, rfl, builtObj_reachable _ (by decide)⟩
  cmd := show Reachable _ _ sentGetDeviceId from builtObj_reachable _ (by decide)
  front := ⟨by decide, by decide⟩
  nonempty := by decide
  trlr := fun _ => ⟨_, rfl, builtObj_reachable _ (by decide), Or.inl (by decide)⟩

theorem secretObjs_fits : RmcpplusFits sampleCipher aesHmacSha1 sampleKeys secretHdr secretObjs 100 where
  asserts := ⟨⟨_, rfl, by decide⟩, fun _ _ => rfl⟩
  payload := ⟨by decide, fun _ _ => ⟨by decide, by decide, by decide⟩⟩
  hashed := fun _ => by decide
  room := by decide
  int := by decide

/-- New objects for a response. -/
def receivingRmcpplusObjs : RmcpplusObjs where
  rmcpHdr := createdObj tmplRmcpHdr 4 false
  sessionHdr := createdObj tmplRmcpplusSessionHdr 18 false
  payload := createdObj tmplRmcpplusPayload 65664 false
  lanMsgHdr := createdObj tmplLanMsgHdrRs 5 false
  cmd := createdObj tmplCmdGetDeviceIdRq 1 false
  lanMsgTrlr := createdObj tmplLanMsgTrlr 1 false
  sessionTrlr := createdObj tmplRmcpplusSessionTrlr 38 false

theorem create_receivedPayload : fiidObjCreate false tmplRmcpplusPayload
    = some (createdObj tmplRmcpplusPayload 65664 false) := by
  have hkeys : fiidTemplateCheckValidKeys tmplRmcpplusPayload = true := by decide
  have hflags : fiidTemplateCheckValidFlags tmplRmcpplusPayload = true := by decide
  have hlen : fiidTemplateLenBytes tmplRmcpplusPayload = some 65664 := by decide +kernel
  have hnodup : (tmplRmcpplusPayload.fields.map (·.key)).Nodup := by decide
  simp only [fiidObjCreate, hkeys, hflags, hlen, hnodup, decide_true, Bool.not_true, Bool.and_false,
    Bool.false_eq_true, if_false]
  rfl

theorem receivingRmcpplusObjs_fit : receivingRmcpplusObjs.Fit false tmplCmdGetDeviceIdRq where
  rmcpHdr := .create (by decide)
  sessionHdr := .create (by decide)
  payload := .create create_receivedPayload
  lanMsgHdr := .create (by decide)
  cmd := .create (by decide)
  lanMsgTrlr := .create (by decide)
  sessionTrlr := .create (by decide)

theorem assembleIpmiRmcpplusPkt_roundTrip_secret : ∃ buf,
    assembleIpmiRmcpplusPkt false sampleCrypto sampleCipher aesHmacSha1 sampleKeys secretObjs 100 0
      = .ok (64, buf) ∧
    (∃ received', unassembleIpmiRmcpplusPkt sampleCrypto aesHmacSha1 sampleKeys.confidentiality
        (buf.take 64) receivingRmcpplusObjs 0 = .ok (true, received') ∧
      RmcpplusReceived aesHmacSha1 secretObjs secretHdr received' ∧
      RmcpplusVerified sampleCrypto aesHmacSha1 sampleKeys secretObjs secretHdr (buf.take 64) received') ∧
    (secretHdr.hasTrlr = true → ∃ k, 64 = 4 + 4 * k + authenticationCodeLen aesHmacSha1.integrity) := by
  obtain ⟨buf, hok⟩ := secretObjs_fits.returns sampleCrypto sampleCipher_keepsLength secretObjs_check
    (Or.inl rfl) secretObjs_fit
  rw [show packetBytes aesHmacSha1 secretHdr secretObjs = 64 by decide] at hok
  exact ⟨buf, hok, assembleIpmiRmcpplusPkt_roundTrip (by rfl) (Or.inl rfl) secretObjs_fit
    receivingRmcpplusObjs_fit (by rfl) (by decide) (by decide)
    sampleCipher_inverse (by decide) hok⟩

/-- Its session header with a length of the payload. -/
def declaredSessionHdr : FiidObj :=
  builtObj tmplRmcpplusSessionHdr 18
    [.set "authentication_type" 6, .set "reserved1" 0, .set "payload_type" 0,
     .set "payload_type.authenticated" 1, .set "payload_type.encrypted" 1,
     .set "session_id" 0x12345678, .set "session_sequence_number" 3, .set "ipmi_payload_len" 99]

def declaredObjs : RmcpplusRequest := { secretObjs with sessionHdr := declaredSessionHdr }

theorem declaredObjs_fit : declaredObjs.Fit false tmplCmdGetDeviceIdRq secretHdr where
  rmcpHdr := secretObjs_fit.rmcpHdr
  sessionHdr := show Reachable _ _ declaredSessionHdr from builtObj_reachable _ (by decide)
  sessionSet := Or.inr (by decide)
  msgHdr := secretObjs_fit.msgHdr
  cmd := secretObjs_fit.cmd
  front := secretObjs_fit.front
  nonempty := secretObjs_fit.nonempty
  trlr := secretObjs_fit.trlr

/-- A valid request whose session header does not come back: the length of the payload is that of the
    packet, not the 99 of the object. -/
theorem assembleIpmiRmcpplusPkt_not_roundTrip :
    (fiidObjPacketValid declaredObjs.rmcpHdr = true ∧ fiidObjPacketValid declaredObjs.sessionHdr = true ∧
      fiidObjPacketValid (sentMsgHdr 0xc8) = true ∧ fiidObjPacketValid declaredObjs.cmd = true) ∧
    ∃ buf received', assembleIpmiRmcpplusPkt false sampleCrypto sampleCipher aesHmacSha1 sampleKeys
        declaredObjs 100 0 = .ok (64, buf) ∧
      unassembleIpmiRmcpplusPkt sampleCrypto aesHmacSha1 sampleKeys.confidentiality (buf.take 64)
        receivingRmcpplusObjs 0 = .ok (true, received') ∧
      (sessionHdrOf declaredObjs.sessionHdr).map (·.ipmiPayloadLen) = .ok 99 ∧
      (sessionHdrOf received'.sessionHdr).map (·.ipmiPayloadLen) = .ok 32 := by
  refine ⟨⟨by decide, by decide, by decide, by decide⟩, ?_⟩
  have hcheck : checkRequest aesHmacSha1 sampleKeys declaredObjs 100 0 = .ok secretHdr := by rfl
  have hfits : RmcpplusFits sampleCipher aesHmacSha1 sampleKeys secretHdr declaredObjs 100 :=
    ⟨secretObjs_fits.asserts, secretObjs_fits.payload, secretObjs_fits.hashed, secretObjs_fits.room,
      secretObjs_fits.int⟩
  obtain ⟨buf, hok⟩ := hfits.returns sampleCrypto sampleCipher_keepsLength hcheck (Or.inl rfl)
    declaredObjs_fit
  rw [show packetBytes aesHmacSha1 secretHdr declaredObjs = 64 by decide] at hok
  have hflags : (0 : BitVec 32) &&& ~~~ ipmiInterfaceFlagsNoLegalCheck = 0 := by decide
  obtain ⟨received', hret, hreceived, -⟩ := declaredObjs_fit.delivered (by rfl) (Or.inl rfl)
    receivingRmcpplusObjs_fit (by rfl) hflags (by decide) sampleCipher_inverse (by decide) hok
  refine ⟨buf, received', hok, hret, by rfl, ?_⟩
  rw [hreceived.readBack]
  rfl

end FreeIpmi.Rmcpplus
