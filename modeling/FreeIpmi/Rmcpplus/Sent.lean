import FreeIpmi.Fiid.Parts
import FreeIpmi.Rmcpplus.Receive

/-! The bytes of the packet that `assemble_ipmi_rmcpplus_pkt` builds from an IPMI or a SOL request.

    Every part is put behind what is already written, so that the packet is the parts behind each
    other: the headers, the length of the payload, the payload, and for an authenticated packet the
    padding, the two bytes that describe it, and the code over everything but the RMCP header. -/

namespace FreeIpmi.Rmcpplus
open ByteBits Fiid Calls Lan LittleEndian

/-! ### The parts of a request -/

/-- What is encrypted, or sent as it is. -/
def requestContent (payloadType : Byte) (hdr cmd : List Byte) : List Byte :=
  if payloadType = ipmiPayloadTypeIpmi then requestMsg hdr cmd else cmd

/-- The content with the padding that fills up its last block. -/
def padded (content : List Byte) : List Byte :=
  content ++ confidentialityPad (confidentialityPadLen content.length)

/-- The fields of the payload. -/
def payloadParts (cipher : Cipher) (algorithms : Algorithms) (key iv content : List Byte) :
    List (List Byte) :=
  if algorithms.confidentiality = ipmiConfidentialityAlgorithmNone then [[], content, []]
  else
    let encrypted := cipher.aesCbc128Encrypt (key.take ipmiCryptAesCbc128BlockLength) iv (padded content)
    [iv, encrypted.take content.length, encrypted.drop content.length]

/-- The padding of a trailer behind `n` bytes, with its length and the next header. -/
def trlrFront (n : ℕ) (nextHeader : Byte) : List Byte :=
  List.replicate (integrityPadLen (n + 2)) ipmiIntegrityPadData ++
    [BitVec.ofNat 8 (integrityPadLen (n + 2)), nextHeader]

/-- The authentication code over some bytes. -/
def sessionCode (crypto : Crypto) (algorithms : Algorithms) (keys : RequestKeys) (signed : List Byte) :
    List Byte :=
  (integrityDigest crypto algorithms.integrity keys.integrity
    (requestHashData algorithms.integrity keys.authenticationCodeData signed)).take
      (authenticationCodeLen algorithms.integrity)

/-- The packet up to its trailer. -/
def requestFront (rmcp session payload : List Byte) : List Byte :=
  rmcp ++ session ++ leBytes 2 payload.length ++ payload

/-- The trailer behind the front of a packet. -/
def requestTrlr (crypto : Crypto) (algorithms : Algorithms) (keys : RequestKeys) (nextHeader : Byte)
    (front : List Byte) : List Byte :=
  trlrFront (front.length - 4) nextHeader ++
    sessionCode crypto algorithms keys ((front ++ trlrFront (front.length - 4) nextHeader).drop 4)

/-- What the objects of a request hold. No authentication code is preset. -/
structure RequestHolds (rmcp session hdr cmd : List Byte) (nextHeader : Byte) (h : RequestHdr)
    (objs : RmcpplusRequest) : Prop where
  rmcpReads : objs.rmcpHdr.Reads rmcp
  rmcpLen : rmcp.length = 4
  sessionReads : ∀ dataLen, 10 ≤ dataLen →
    fiidObjGetBlock objs.sessionHdr "authentication_type" "session_sequence_number" dataLen
      = .ok (10, session ++ List.replicate (dataLen - 10) 0)
  sessionLen : session.length = 10
  hdrReads : ∃ objLanMsgHdr, objs.lanMsgHdr = some objLanMsgHdr ∧
    (h.payloadType = ipmiPayloadTypeIpmi → objLanMsgHdr.Reads hdr ∧ hdr.length = 5)
  cmdReads : objs.cmd.Reads cmd
  trlrParts : h.hasTrlr = true → ∃ objTrlr padLength, objs.sessionTrlr = some objTrlr ∧
    objTrlr.Parts tmplRmcpplusSessionTrlr.fields [[], padLength, [nextHeader], []]

/-! ### Parts behind one another -/

section Front
variable {pktLen : ℕ} {a b : List Byte} {r : List Byte × ℕ} {obj : FiidObj}

/-- Where there is room for the object, it is put there. -/
theorem putAll_room (h : Front pktLen a r) (hr : obj.Reads b) (hroom : b.length ≤ pktLen - a.length) :
    ∃ r', putAll r.1 r.2 obj = .ok r' ∧ Front pktLen (a ++ b) r' := by
  have hle := h.le
  rw [h.buffer, h.index, putAll_eq hroom (hr.getAll _ hroom)]
  refine ⟨_, rfl, ?_, ?_, rfl⟩
  · rw [List.length_append]
    omega
  · rw [List.length_append, Nat.sub_sub]

theorem putAll_reads (h : Front pktLen a r) (hr : obj.Reads b) :
    Meets (putAll r.1 r.2 obj) (Front pktLen (a ++ b))
      (fun e => e.isReturn = true ∧ pktLen < (a ++ b).length) := by
  by_cases hroom : b.length ≤ pktLen - a.length
  · obtain ⟨r', hput, hfront⟩ := putAll_room h hr hroom
    rw [hput]
    exact Meets.ok hfront
  · rw [putAll, h.rest, hr.overflow (Nat.lt_of_not_ge hroom)]
    refine Meets.error ⟨rfl, ?_⟩
    rw [List.length_append]
    omega

theorem putAllIfRoom_reads (h : Front pktLen a r) (hr : obj.Reads b) :
    Meets (putAllIfRoom r.1 r.2 obj) (Front pktLen (a ++ b))
      (fun e => e.isReturn = true ∧ pktLen < (a ++ b).length) := by
  rw [putAllIfRoom, hr.lenBytes, ok_bind]
  refine Meets.ite (fun hlong => Meets.error ⟨rfl, ?_⟩) fun _ => putAll_reads h hr
  rw [h.rest] at hlong
  rw [List.length_append]
  omega

theorem putBlockIfRoom_reads (h : Front pktLen a r) {fieldStart fieldEnd : String}
    (hget : ∀ dataLen, b.length ≤ dataLen → fiidObjGetBlock obj fieldStart fieldEnd dataLen
      = .ok (b.length, b ++ List.replicate (dataLen - b.length) 0)) :
    Meets (putBlockIfRoom r.1 r.2 obj fieldStart fieldEnd) (Front pktLen (a ++ b))
      (fun e => e.isReturn = true ∧ pktLen < (a ++ b).length) := by
  have hlen := ((getBlock_written obj fieldStart fieldEnd b.length).value _ (hget _ le_rfl)).1
  rw [putBlockIfRoom, hlen, ok_bind]
  refine Meets.ite (fun hlong => Meets.error ⟨rfl, ?_⟩) fun hroom => ?_
  · rw [h.rest] at hlong
    rw [List.length_append]
    omega
  rw [h.rest] at hroom
  have hroom : b.length ≤ pktLen - a.length := Nat.le_of_not_gt hroom
  have hle := h.le
  rw [h.buffer, h.index, putBlock_eq hroom (hget _ hroom)]
  refine Meets.ok ⟨?_, ?_, rfl⟩
  · rw [List.length_append]
    omega
  · rw [List.length_append, Nat.sub_sub]

/-- What was written in front. -/
theorem take_front (h : Front pktLen a r) : r.1.take r.2 = a := by
  rw [h.buffer, h.index, List.take_left]

end Front

/-! ### The payload -/

section Payload
variable {objLanMsgHdr objCmd objRmcpplusPayload : FiidObj} {hdr cmd content : List Byte}
  {payloadType : Byte}

theorem assertThat_meets (p : Bool) : Meets (assertThat p) (fun _ => p = true) (· = .assertion) := by
  cases p with
  | false => exact Meets.error rfl
  | true => exact Meets.ok rfl

/-- `n` bytes are too long for a buffer or for a payload, which is reported. -/
def TooLong (bufLen n : ℕ) (e : Stop) : Prop :=
  e.isReturn = true ∧ (bufLen < n ∨ ipmiMaxPayloadLength < n)

theorem payloadFits_stops (len bufLen : ℕ) :
    Meets (payloadFits len bufLen) (fun _ => True) (TooLong bufLen len) :=
  Meets.ite (fun hlong => Meets.error ⟨rfl, Or.inr hlong⟩) fun _ =>
    Meets.ite (fun hlong => Meets.error ⟨rfl, Or.inl hlong⟩) fun _ => Meets.ok trivial

theorem constructMsg_bytes (ndebug : Bool) (hhdr : objLanMsgHdr.Reads hdr) (hcmd : objCmd.Reads cmd)
    (hlen : hdr.length = 5) (payloadBufLen : ℕ) :
    Meets (constructMsg ndebug objLanMsgHdr objCmd payloadBufLen)
      (Front payloadBufLen (requestMsg hdr cmd)) (TooLong payloadBufLen (requestMsg hdr cmd).length) := by
  have htrlrLen : orTemplateInvalid (fiidTemplateLenBytes tmplLanMsgTrlr) = .ok 1 := by decide
  have hstart : orTemplateInvalid (fiidTemplateFieldEndBytes tmplLanMsgHdrRq "checksum1") = .ok 3 := by
    decide
  have hmsgLen := length_requestMsg hlen cmd
  have hfits : Meets (payloadFits (hdr.length + cmd.length + 1) payloadBufLen) (fun _ => True)
      (TooLong payloadBufLen (requestMsg hdr cmd).length) := by
    rw [hmsgLen, show 6 + cmd.length = hdr.length + cmd.length + 1 by omega]
    exact payloadFits_stops _ _
  have hshort : ∀ {front : List Byte} {e : Stop}, front.length ≤ 6 + cmd.length →
      e.isReturn = true ∧ payloadBufLen < front.length →
      TooLong payloadBufLen (requestMsg hdr cmd).length e := by
    rintro front e hle ⟨hreturn, hlong⟩
    exact ⟨hreturn, Or.inl (by omega)⟩
  rw [constructMsg, htrlrLen, hhdr.lenBytes, ok_bind, ok_bind, hcmd.lenBytes, ok_bind]
  refine hfits.bind fun _ _ => ?_
  refine ((putAll_reads (Front.nil payloadBufLen) hhdr).mono (fun _ hq => hq) fun _ =>
    hshort (by rw [List.nil_append]; omega)).bind fun r₁ h₁ => ?_
  refine ((putAll_reads h₁ hcmd).mono (fun _ hq => hq) fun _ =>
    hshort (by rw [List.nil_append, List.length_append]; omega)).bind fun r₂ h₂ => ?_
  have hcreate : fiidObjCreate ndebug tmplLanMsgTrlr = some (createdObj tmplLanMsgTrlr 1 false) := by
    cases ndebug <;> decide
  have hsum : (r₂.1.drop 3).take (r₂.2 - 3) = hdr.drop 3 ++ cmd := by
    rw [h₂.buffer, h₂.index, List.nil_append, List.append_assoc,
      List.drop_append_of_le_length (by omega), ← List.append_assoc]
    refine List.take_left' ?_
    simp only [List.length_append, List.length_drop]
    omega
  obtain ⟨objLanMsgTrlr, obj', hcreate', hset, hreads⟩ :=
    trlr_reads ndebug (ipmiChecksum (hdr.drop 3 ++ cmd))
  obtain rfl := Option.some.inj (hcreate.symm.trans hcreate')
  simp only [hcreate, hstart, ok_bind, hsum, hset]
  refine (putAll_reads h₂ hreads).mono (fun r₃ h₃ => ?_) fun _ => hshort ?_
  · rwa [List.nil_append, List.append_assoc] at h₃
  · simp only [List.nil_append, List.length_append, List.length_singleton, hlen]
    omega

/-- The content of a payload. -/
theorem constructPayloadBuf_bytes (ndebug : Bool) (hkind : Ciphered payloadType)
    (hhdr : payloadType = ipmiPayloadTypeIpmi → objLanMsgHdr.Reads hdr ∧ hdr.length = 5)
    (hcmd : objCmd.Reads cmd) (payloadBufLen : ℕ) :
    Meets (constructPayloadBuf ndebug payloadType (some objLanMsgHdr) objCmd payloadBufLen)
      (Front payloadBufLen (requestContent payloadType hdr cmd))
      (fun e => e = .assertion ∨ TooLong payloadBufLen (requestContent payloadType hdr cmd).length e) := by
  refine ((assertThat_meets _).mono (fun _ hq => hq) fun _ => Or.inl).bind fun _ _ => ?_
  rcases hkind with rfl | rfl
  · exact (constructMsg_bytes ndebug (hhdr rfl).1 hcmd (hhdr rfl).2 payloadBufLen).mono
      (fun _ hq => hq) fun _ => Or.inr
  · have hsol : (ipmiPayloadTypeSol == ipmiPayloadTypeIpmi) = false := by decide
    rw [hsol, requestContent, if_neg (by decide)]
    have hsolBytes : Meets (constructSol objCmd payloadBufLen) (Front payloadBufLen cmd)
        (TooLong payloadBufLen cmd.length) := by
      rw [constructSol, hcmd.lenBytes, ok_bind]
      refine (payloadFits_stops _ _).bind fun _ _ => ?_
      have hput := putAll_reads (Front.nil payloadBufLen) hcmd
      rw [List.nil_append] at hput
      exact hput.mono (fun _ hq => hq) fun _ he => ⟨he.1, Or.inl he.2⟩
    exact hsolBytes.mono (fun _ hq => hq) fun _ => Or.inr

/-- What a cipher needs: a key, an initialization vector, room for the padding, and that it keeps the
    length. -/
structure Encryptable (cipher : Cipher) (key content : List Byte) : Prop where
  keyLen : ipmiCryptAesCbc128BlockLength ≤ key.length
  fits : (padded content).length ≤ ipmiMaxPayloadLength
  random : ∃ random, cipher.random = some random ∧
    (cipher.aesCbc128Encrypt (key.take ipmiCryptAesCbc128BlockLength) random.toList
      (padded content)).length = (padded content).length

/-- What a payload needs. -/
structure PayloadReady (cipher : Cipher) (algorithms : Algorithms) (key content : List Byte) : Prop where
  le : content.length ≤ ipmiMaxPayloadLength
  encryptable : algorithms.confidentiality ≠ ipmiConfidentialityAlgorithmNone →
    Encryptable cipher key content

theorem TooLong.not_ready {cipher : Cipher} {algorithms : Algorithms} {key : List Byte} {e : Stop}
    (h : TooLong ipmiMaxPayloadLength content.length e) :
    e.isReturn = true ∧ ¬ PayloadReady cipher algorithms key content := by
  obtain ⟨hreturn, hlong⟩ := h
  refine ⟨hreturn, fun hready => ?_⟩
  have hle := hready.le
  omega

/-- A content that was encrypted, in a packet that is marked so. -/
structure Encrypted (cipher : Cipher) (key : List Byte) (payloadEncrypted : Bool)
    (iv content : List Byte) : Prop where
  marked : payloadEncrypted = true
  random : ∃ random, cipher.random = some random ∧ iv = random.toList
  keyLen : ipmiCryptAesCbc128BlockLength ≤ key.length
  fits : (padded content).length ≤ ipmiMaxPayloadLength
  length : (cipher.aesCbc128Encrypt (key.take ipmiCryptAesCbc128BlockLength) iv
    (padded content)).length = (padded content).length

/-- The payload object that was put together, and the length that is reported for it. -/
structure PayloadBuilt (cipher : Cipher) (algorithms : Algorithms)
    (confidentialityKey : Option (List Byte)) (payloadEncrypted : Bool) (iv content : List Byte)
    (r : FiidObj × ℕ) : Prop where
  le : content.length ≤ ipmiMaxPayloadLength
  parts : r.1.Parts tmplRmcpplusPayload.fields
    (payloadParts cipher algorithms (confidentialityKey.getD []) iv content)
  len : r.2
    = (payloadParts cipher algorithms (confidentialityKey.getD []) iv content).flatten.length
  encrypted : algorithms.confidentiality ≠ ipmiConfidentialityAlgorithmNone →
    Encrypted cipher (confidentialityKey.getD []) payloadEncrypted iv content

theorem Encrypted.encryptable {cipher : Cipher} {key iv : List Byte} {payloadEncrypted : Bool}
    (h : Encrypted cipher key payloadEncrypted iv content) : Encryptable cipher key content := by
  obtain ⟨random, hrandom, rfl⟩ := h.random
  exact ⟨h.keyLen, h.fits, random, hrandom, h.length⟩

theorem Encrypted.ivLen {cipher : Cipher} {key iv : List Byte} {payloadEncrypted : Bool}
    (h : Encrypted cipher key payloadEncrypted iv content) :
    iv.length = ipmiCryptAesCbc128BlockLength := by
  obtain ⟨random, -, rfl⟩ := h.random
  exact random.toList_length

/-- The payload that was built was ready. -/
theorem PayloadBuilt.ready {cipher : Cipher} {algorithms : Algorithms}
    {confidentialityKey : Option (List Byte)} {payloadEncrypted : Bool} {iv : List Byte}
    {r : FiidObj × ℕ}
    (h : PayloadBuilt cipher algorithms confidentialityKey payloadEncrypted iv content r) :
    PayloadReady cipher algorithms (confidentialityKey.getD []) content :=
  ⟨h.le, fun hsome => (h.encrypted hsome).encryptable⟩

theorem payload_indices :
    tmplRmcpplusPayload.fields.findIdx? (fun f => f.key = "confidentiality_header") = some 0 ∧
      tmplRmcpplusPayload.fields.findIdx? (fun f => f.key = "payload_data") = some 1 ∧
      tmplRmcpplusPayload.fields.findIdx? (fun f => f.key = "confidentiality_trailer") = some 2 := by
  decide

theorem constructPayloadConfidentialityNone_bytes (ndebug : Bool) (cipher : Cipher)
    {algorithms : Algorithms} (hnone : algorithms.confidentiality = ipmiConfidentialityAlgorithmNone)
    (confidentialityKey : Option (List Byte)) (payloadEncrypted : Bool) (iv : List Byte)
    (hkind : Ciphered payloadType)
    (hhdr : payloadType = ipmiPayloadTypeIpmi → objLanMsgHdr.Reads hdr ∧ hdr.length = 5)
    (hcmd : objCmd.Reads cmd) (hobj : objRmcpplusPayload.Parts tmplRmcpplusPayload.fields [[], [], []]) :
    Meets (constructPayloadConfidentialityNone ndebug payloadType (some objLanMsgHdr) objCmd
        objRmcpplusPayload)
      (PayloadBuilt cipher algorithms confidentialityKey payloadEncrypted iv
        (requestContent payloadType hdr cmd))
      (fun e => e = .assertion ∨ e.isReturn = true ∧
        ¬ PayloadReady cipher algorithms (confidentialityKey.getD []) (requestContent payloadType hdr cmd)) := by
  refine ((assertThat_meets _).mono (fun _ hq => hq) fun _ => Or.inl).bind fun _ _ => ?_
  refine ((constructPayloadBuf_bytes ndebug hkind hhdr hcmd ipmiMaxPayloadLength).mono
    (fun _ hq => hq) fun _ he => he.imp_right TooLong.not_ready).bind ?_
  rintro ⟨payloadBuf, payloadLen⟩ hr
  have htake : payloadBuf.take payloadLen = _ := take_front hr
  obtain ⟨-, hdata, -⟩ := payload_indices
  have hle := hr.le
  obtain ⟨obj, hset, hparts⟩ := hobj.setFitting (d := requestContent payloadType hdr cmd) hdata rfl (by
    rw [ipmiMaxPayloadLength] at hle
    simp only
    omega)
  simp only [htake, hset, ok_bind]
  refine Meets.ok ⟨hle, ?_, ?_, fun hsome => absurd hnone hsome⟩
  · rw [payloadParts, if_pos hnone]
    exact hparts
  · rw [payloadParts, if_pos hnone]
    simpa using hr.index

theorem length_confidentialityPad (padLen : ℕ) : (confidentialityPad padLen).length = padLen + 1 := by
  simp [confidentialityPad]

theorem length_padded (content : List Byte) :
    (padded content).length = content.length + confidentialityPadLen content.length + 1 := by
  rw [padded, List.length_append, length_confidentialityPad, Nat.add_assoc]

/-- The padding fills up the last block. -/
theorem padded_blocks (content : List Byte) :
    (padded content).length % ipmiCryptAesCbc128BlockLength = 0 := by
  have hspec := (confidentialityPadLen_spec content.length).2
  rw [length_padded, ipmiCryptAesCbc128BlockLength]
  omega

theorem setEncrypted_parts (hobj : objRmcpplusPayload.Parts tmplRmcpplusPayload.fields [[], [], []])
    {iv encrypted : List Byte} {payloadLen : ℕ} (hiv : iv.length ≤ 64) (hlen : payloadLen ≤ 65536)
    (hpad : encrypted.length ≤ payloadLen + 64) : ∃ obj,
    setEncrypted objRmcpplusPayload iv encrypted payloadLen = .ok obj ∧
      obj.Parts tmplRmcpplusPayload.fields [iv, encrypted.take payloadLen, encrypted.drop payloadLen] := by
  obtain ⟨hheader, hdata, htrailer⟩ := payload_indices
  obtain ⟨obj₁, hset₁, h₁⟩ := hobj.setFitting (d := iv) hheader rfl (by
    simp only
    omega)
  obtain ⟨obj₂, hset₂, h₂⟩ := h₁.setFitting (d := encrypted.take payloadLen) hdata rfl (by
    rw [List.length_take]
    simp only
    omega)
  obtain ⟨obj₃, hset₃, h₃⟩ := h₂.setFitting (d := encrypted.drop payloadLen) htrailer rfl (by
    rw [List.length_drop]
    simp only
    omega)
  refine ⟨obj₃, ?_, h₃⟩
  simp only [setEncrypted, hset₁, hset₂, hset₃, ok_bind]
  rfl

theorem constructPayloadConfidentialityAesCbc128_bytes (ndebug : Bool) (cipher : Cipher)
    {algorithms : Algorithms} (hsome : algorithms.confidentiality ≠ ipmiConfidentialityAlgorithmNone)
    (confidentialityKey : Option (List Byte)) (payloadEncrypted : Bool)
    (hkind : Ciphered payloadType)
    (hhdr : payloadType = ipmiPayloadTypeIpmi → objLanMsgHdr.Reads hdr ∧ hdr.length = 5)
    (hcmd : objCmd.Reads cmd) (hobj : objRmcpplusPayload.Parts tmplRmcpplusPayload.fields [[], [], []]) :
    Meets (constructPayloadConfidentialityAesCbc128 ndebug cipher confidentialityKey payloadType
        payloadEncrypted (some objLanMsgHdr) objCmd objRmcpplusPayload)
      (fun r => ∃ iv, PayloadBuilt cipher algorithms confidentialityKey payloadEncrypted iv
        (requestContent payloadType hdr cmd) r)
      (fun e => e = .assertion ∨ e.isReturn = true ∧
        ¬ PayloadReady cipher algorithms (confidentialityKey.getD []) (requestContent payloadType hdr cmd)) := by
  rw [constructPayloadConfidentialityAesCbc128]
  cases hassert : payloadAsserts payloadType (some objLanMsgHdr) objCmd objRmcpplusPayload &&
    payloadEncrypted && fiidObjPacketValid objCmd && (confidentialityKey.getD []).length != 0 with
  | false => exact Meets.error (Or.inl rfl)
  | true =>
    simp only [Bool.and_eq_true] at hassert
    rw [assertThat_true, ok_bind]
    refine Meets.ite (fun hkey => Meets.error (Or.inr ⟨rfl, fun hready => ?_⟩)) fun hkey => ?_
    · have hkeyLen := (hready.encryptable hsome).keyLen
      omega
    cases hrandom : cipher.random with
    | none =>
      refine Meets.error (Or.inr ⟨rfl, fun hready => ?_⟩)
      obtain ⟨random, heq, -⟩ := (hready.encryptable hsome).random
      rw [hrandom] at heq
      cases heq
    | some iv =>
      refine ((constructPayloadBuf_bytes ndebug hkind hhdr hcmd ipmiMaxPayloadLength).mono
        (fun _ hq => hq) fun _ he => he.imp_right TooLong.not_ready).bind fun r hr => ?_
      obtain ⟨content, hcontent⟩ : ∃ content, content = requestContent payloadType hdr cmd := ⟨_, rfl⟩
      rw [← hcontent] at hr ⊢
      have hle := hr.le
      have hpad := (confidentialityPadLen_spec content.length).1
      show Meets (encryptPayload cipher objRmcpplusPayload (confidentialityKey.getD []) iv.toList r.1 r.2)
        _ _
      rw [encryptPayload, hr.index]
      refine Meets.ite (fun hlong => Meets.error (Or.inr ⟨rfl, fun hready => ?_⟩)) fun hfits => ?_
      · have hpadded := (hready.encryptable hsome).fits
        rw [length_padded] at hpadded
        omega
      have hdata : (splice r.1 content.length (confidentialityPad
          (confidentialityPadLen content.length))).take
            (content.length + confidentialityPadLen content.length + 1) = padded content := by
        rw [hr.buffer, splice_append_replicate]
        exact List.take_left' (length_padded content)
      simp only [hdata]
      rw [if_neg (not_not.mpr (padded_blocks content)), ← length_padded]
      refine Meets.ite (fun hdiff => Meets.error (Or.inr ⟨rfl, fun hready => ?_⟩)) fun hsame => ?_
      · obtain ⟨random, heq, hkept⟩ := (hready.encryptable hsome).random
        rw [hrandom] at heq
        obtain rfl := Option.some.inj heq
        exact hdiff hkept
      have hiv : iv.toList.length = 16 := iv.toList_length
      have hiv64 : iv.toList.length ≤ 64 := by omega
      obtain ⟨obj, hset, hparts⟩ := setEncrypted_parts hobj hiv64
        (show content.length ≤ 65536 from hle)
        (show (cipher.aesCbc128Encrypt ((confidentialityKey.getD []).take ipmiCryptAesCbc128BlockLength)
          iv.toList (padded content)).length ≤ content.length + 64 by
            rw [not_not.mp hsame, length_padded]
            omega)
      rw [hset, ok_bind]
      refine Meets.ok ⟨iv.toList, hle, ?_, ?_, fun _ => ⟨hassert.1.1.2, ⟨iv, hrandom, rfl⟩,
        Nat.not_lt.mp hkey, ?_, not_not.mp hsame⟩⟩
      · rw [payloadParts, if_neg hsome]
        exact hparts
      · have hlen' := not_not.mp hsame
        rw [length_padded] at hlen'
        simp [payloadParts, hsome, hiv, hlen']
        omega
      · rw [length_padded]
        exact Nat.not_lt.mp hfits

theorem constructPayload_bytes (ndebug : Bool) (cipher : Cipher) (algorithms : Algorithms)
    (confidentialityKey : Option (List Byte)) (payloadEncrypted : Bool)
    (hkind : Ciphered payloadType)
    (hhdr : payloadType = ipmiPayloadTypeIpmi → objLanMsgHdr.Reads hdr ∧ hdr.length = 5)
    (hcmd : objCmd.Reads cmd) (hobj : objRmcpplusPayload.Parts tmplRmcpplusPayload.fields [[], [], []]) :
    Meets (constructPayload ndebug cipher algorithms confidentialityKey payloadType payloadEncrypted
        (some objLanMsgHdr) objCmd objRmcpplusPayload)
      (fun r => ∃ iv, PayloadBuilt cipher algorithms confidentialityKey payloadEncrypted iv
        (requestContent payloadType hdr cmd) r)
      (fun e => e = .assertion ∨ e.isReturn = true ∧
        ¬ PayloadReady cipher algorithms (confidentialityKey.getD []) (requestContent payloadType hdr cmd)) := by
  refine ((assertThat_meets _).mono (fun _ hq => hq) fun _ => Or.inl).bind fun _ _ => ?_
  rw [if_pos hkind]
  by_cases hnone : algorithms.confidentiality = ipmiConfidentialityAlgorithmNone
  · rw [if_pos hnone]
    exact (constructPayloadConfidentialityNone_bytes ndebug cipher hnone confidentialityKey
      payloadEncrypted [] hkind hhdr hcmd hobj).weaken fun r hr => ⟨[], hr⟩
  · rw [if_neg hnone]
    exact constructPayloadConfidentialityAesCbc128_bytes ndebug cipher hnone confidentialityKey
      payloadEncrypted hkind hhdr hcmd hobj

/-- The object for the payload is created empty. -/
theorem create_payload_parts (ndebug : Bool) : ∃ obj,
    fiidObjCreate ndebug tmplRmcpplusPayload = some obj ∧
      obj.Parts tmplRmcpplusPayload.fields [[], [], []] := by
  obtain ⟨obj, hcreate, -⟩ := create_payload ndebug
  exact ⟨obj, hcreate, parts_of_unset (create_wf hcreate).of (by decide)
    (show Fresh ndebug tmplRmcpplusPayload obj from Or.inl hcreate).unset⟩

end Payload

/-! ### The trailer -/

section Trailer
variable {algorithms : Algorithms} {keys : RequestKeys} {objTrlr : FiidObj}
  {pad padLength next code : List Byte}

theorem trlr_indices :
    tmplRmcpplusSessionTrlr.fields.findIdx? (fun f => f.key = "integrity_pad") = some 0 ∧
      tmplRmcpplusSessionTrlr.fields.findIdx? (fun f => f.key = "pad_length") = some 1 ∧
      tmplRmcpplusSessionTrlr.fields.findIdx? (fun f => f.key = "next_header") = some 2 ∧
      tmplRmcpplusSessionTrlr.fields.findIdx? (fun f => f.key = "authentication_code") = some 3 := by
  decide

theorem integrityPadLen_lt (n : ℕ) : integrityPadLen n < 4 ∧ (n + integrityPadLen n) % 4 = 0 := by
  have hpad : integrityPadLen n = if n % 4 ≠ 0 then 4 - n % 4 else 0 := rfl
  rw [hpad]
  split
  · omega
  · omega

/-- The padding behind `n` bytes: where none is needed, what the caller has put there stays. -/
def trlrPad (n : ℕ) (pad : List Byte) : List Byte :=
  if integrityPadLen (n + 2) = 0 then pad
  else List.replicate (integrityPadLen (n + 2)) ipmiIntegrityPadData

/-- A trailer behind `n` bytes, up to its code. -/
def trlrHead (n : ℕ) (pad next : List Byte) : List Byte :=
  trlrPad n pad ++ [BitVec.ofNat 8 (integrityPadLen (n + 2))] ++ next

theorem trlrHead_front (n : ℕ) (nextHeader : Byte) :
    trlrHead n [] [nextHeader] = trlrFront n nextHeader := by
  rw [trlrHead, trlrPad, trlrFront]
  split
  · rename_i hzero
    rw [hzero]
    rfl
  · simp

/-- The code of a trailer: the one that the caller has put there, or else a computed one. -/
def trlrCode (crypto : Crypto) (algorithms : Algorithms) (keys : RequestKeys) (code signed : List Byte) :
    List Byte :=
  if code = [] then sessionCode crypto algorithms keys signed else code

/-- The buffer for what is hashed takes it. -/
def HashFits (algorithms : Algorithms) (keys : RequestKeys) (signed : List Byte) : Prop :=
  (requestHashData algorithms.integrity keys.authenticationCodeData signed).length ≤ ipmiMaxPayloadLength

/-- What a trailer needs: room in the buffers for what is hashed, and for itself. -/
structure TrlrReady (crypto : Crypto) (algorithms : Algorithms) (keys : RequestKeys) (nextHeader : Byte)
    (pktLen : ℕ) (front : List Byte) : Prop where
  hashed : (requestHashData algorithms.integrity keys.authenticationCodeData
    ((front ++ trlrFront (front.length - 4) nextHeader).drop 4)).length ≤ ipmiMaxPayloadLength
  room : (front ++ requestTrlr crypto algorithms keys nextHeader front).length ≤ pktLen

/-- The padding and its length. -/
theorem constructSessionTrlrPad_parts (integrityAlgorithm : Byte) (n : ℕ)
    (h : objTrlr.Parts tmplRmcpplusSessionTrlr.fields [pad, padLength, next, code]) :
    Meets (constructSessionTrlrPad integrityAlgorithm n objTrlr)
      (fun obj => obj.Parts tmplRmcpplusSessionTrlr.fields
        [trlrPad n pad, [BitVec.ofNat 8 (integrityPadLen (n + 2))], next, code]) (· = .assertion) := by
  have hpadLen : orTemplateInvalid (fiidTemplateFieldLenBytes tmplRmcpplusSessionTrlr "pad_length")
      = .ok 1 := by decide
  have hnextLen : orTemplateInvalid (fiidTemplateFieldLenBytes tmplRmcpplusSessionTrlr "next_header")
      = .ok 1 := by decide
  obtain ⟨hpad, hlength, -, -⟩ := trlr_indices
  refine (assertThat_meets _).bind fun _ _ => ?_
  obtain ⟨p, hp⟩ : ∃ p, p = integrityPadLen (n + 2) := ⟨_, rfl⟩
  have hlt := (integrityPadLen_lt (n + 2)).1
  simp only [hpadLen, hnextLen, ok_bind, Nat.add_assoc, Nat.reduceAdd, trlrPad]
  rw [← hp] at hlt ⊢
  have hset : ∃ obj, setIntegrityPad objTrlr p = .ok obj ∧
      obj.Parts tmplRmcpplusSessionTrlr.fields
        [if p = 0 then pad else List.replicate p ipmiIntegrityPadData, padLength, next, code] := by
    rw [setIntegrityPad]
    by_cases hzero : p = 0
    · rw [if_neg (not_not.mpr hzero), if_pos hzero]
      exact ⟨objTrlr, rfl, h⟩
    · obtain ⟨obj, hset, hparts⟩ := h.setFitting (d := List.replicate p ipmiIntegrityPadData) hpad rfl (by
        rw [List.length_replicate]
        simp only
        omega)
      rw [if_pos hzero, if_neg hzero, hset]
      exact ⟨obj, rfl, hparts⟩
  obtain ⟨obj, hset, hobj⟩ := hset
  obtain ⟨obj', hcall, hparts⟩ := hobj.setByte hlength rfl rfl (BitVec.ofNat 64 p)
  have hbyte : (BitVec.ofNat 64 p).setWidth 8 = BitVec.ofNat 8 p := by
    rw [BitVec.setWidth_ofNat_of_le (by norm_num)]
  rw [hbyte] at hparts
  rw [hset, ok_bind, hcall]
  exact Meets.ok hparts

theorem length_integrityDigest (crypto : Crypto) (integrityAlgorithm : Byte) (key data : List Byte) :
    (integrityDigest crypto integrityAlgorithm key data).length ≤ ipmiMaxPayloadLength := by
  rw [integrityDigest, ipmiMaxPayloadLength]
  split_ifs <;>
  · rw [List.Vector.toList_length]
    norm_num

/-- The code that the caller has put into the trailer, or else a computed one, where the buffer takes what
    is hashed for it. -/
theorem constructSessionTrlrAuthenticationCode_bytes (crypto : Crypto)
    (h : objTrlr.Parts tmplRmcpplusSessionTrlr.fields [pad, padLength, next, code])
    (pktData : List Byte) :
    Meets (constructSessionTrlrAuthenticationCode crypto algorithms.integrity keys.integrity
        keys.authenticationCodeData objTrlr pktData ipmiMaxPayloadLength)
      (fun b => b = trlrCode crypto algorithms keys code pktData ∧
        (code = [] → HashFits algorithms keys pktData))
      (fun e => e = .assertion ∨ e = .undefined ∧ code = [] ∧ ¬ HashFits algorithms keys pktData) := by
  obtain ⟨-, -, -, hcode⟩ := trlr_indices
  obtain ⟨f, hf, hset⟩ := fieldAt_of_lens h.of h.lens hcode (show _ = some (8 * code.length) from rfl)
  have hlen : fiidObjFieldLenBytes objTrlr "authentication_code" = .ok code.length := by
    rw [fiidObjFieldLenBytes, hf.fieldLen, ok_bind, hset, bytesOfSetBits, if_neg (by omega),
      bitsRoundBytes_mul]
  have hcompare := h.of.compare (show TemplateOk tmplRmcpplusSessionTrlr by decide)
  refine ((assertThat_meets _).mono (fun _ hq => hq) fun _ => Or.inl).bind fun _ _ => ?_
  simp only [hcompare, hlen, ok_bind]
  refine Meets.ite (fun hpreset => ?_) fun hnone => ?_
  · -- the template has room for 32 bytes
    have hne : code ≠ [] := List.ne_nil_of_length_pos (Nat.pos_of_ne_zero hpreset)
    have hmax : f.maxFieldLen = 256 := by
      have hentry := (getElem?_toField h.of hf.entry).symm
      exact congrArg FiidField.maxFieldLen (Option.some.inj (hentry.trans rfl))
    have hle := h.of.le _ f hf.entry
    rw [h.getData hcode rfl (by rw [ipmiMaxPayloadLength]; omega)]
    exact Meets.ok ⟨(if_neg hne).symm, fun hnil => absurd hnil hne⟩
  · obtain rfl : code = [] := List.length_eq_zero_iff.mp (not_not.mp hnone)
    rw [digestCode]
    refine ((assertThat_meets _).mono (fun _ hq => hq) fun _ => Or.inl).bind fun _ _ => ?_
    refine Meets.ite (fun hlong => Meets.error (Or.inr ⟨rfl, rfl, Nat.not_le.mpr hlong⟩)) fun hfits => ?_
    have hdigest := length_integrityDigest crypto algorithms.integrity keys.integrity
      (requestHashData algorithms.integrity keys.authenticationCodeData pktData)
    rw [if_neg (Nat.not_lt.mpr hdigest)]
    exact Meets.ok ⟨rfl, fun _ => Nat.not_lt.mp hfits⟩

/-- The code behind a front and the head of a trailer overflows the buffer for what is hashed. -/
structure HashOverflows (algorithms : Algorithms) (keys : RequestKeys) (pktLen : ℕ)
    (code front : List Byte) : Prop where
  computed : code = []
  room : front.length ≤ pktLen
  long : ¬ HashFits algorithms keys (front.drop 4)

/-- A trailer goes behind the front of a packet, unless its code overflows the buffer. -/
theorem putTrlr_parts (crypto : Crypto) (algorithms : Algorithms) (keys : RequestKeys) {pktLen : ℕ}
    {front : List Byte} {r : List Byte × ℕ} (hf : Front pktLen front r)
    (h : objTrlr.Parts tmplRmcpplusSessionTrlr.fields [pad, padLength, next, code]) {head : List Byte}
    (hhead : head = front ++ trlrHead (front.length - 4) pad next) :
    Meets (putTrlr crypto algorithms keys 4 objTrlr r.1 r.2)
      (fun r' => Front pktLen (head ++ trlrCode crypto algorithms keys code (head.drop 4)) r' ∧
        ¬ HashOverflows algorithms keys pktLen code head)
      (fun e => e = .assertion ∨ e = .undefined ∧ HashOverflows algorithms keys pktLen code head ∨
        e.isReturn = true ∧ ¬ HashOverflows algorithms keys pktLen code head ∧
          pktLen < (head ++ trlrCode crypto algorithms keys code (head.drop 4)).length) := by
  have hdup : (fiidObjDup objTrlr).Parts tmplRmcpplusSessionTrlr.fields [pad, padLength, next, code] :=
    ⟨⟨h.of.fields, rfl, h.of.data, h.of.le, h.of.terminator⟩, h.whole, h.lens, h.bits⟩
  rw [putTrlr, hf.index]
  refine ((constructSessionTrlrPad_parts algorithms.integrity (front.length - 4) hdup).mono
    (fun _ hq => hq) fun _ => Or.inl).bind fun obj hobj => ?_
  have hblock : ∀ dataLen, (trlrHead (front.length - 4) pad next).length ≤ dataLen →
      fiidObjGetBlock obj "integrity_pad" "next_header" dataLen
        = .ok ((trlrHead (front.length - 4) pad next).length,
          trlrHead (front.length - 4) pad next ++
            List.replicate (dataLen - (trlrHead (front.length - 4) pad next).length) 0) := by
    intro dataLen hroom
    obtain ⟨hfirst, -, hlast, -⟩ := trlr_indices
    have hb : BlockAt obj "integrity_pad" "next_header" 0 2 :=
      ⟨fieldAt_of_tmpl hobj.of hfirst, fieldAt_of_tmpl hobj.of hlast, by norm_num, hobj.bitStart 0,
        hobj.bitStart 3⟩
    exact hobj.getBlock hb (by simp [trlrHead]) hroom
  have hput := putBlockIfRoom_reads hf hblock
  rw [hf.index, ← hhead] at hput
  refine (hput.mono (fun _ hq => hq) fun _ he => Or.inr (Or.inr ⟨he.1, fun hover =>
    absurd hover.room (Nat.not_le.mpr he.2), by rw [List.length_append]; omega⟩)).bind ?_
  rintro ⟨pkt, indx⟩ h₁
  have hsigned : (pkt.drop 4).take (indx - 4) = head.drop 4 := by
    rw [← List.drop_take]
    exact congrArg _ (take_front h₁)
  simp only [hsigned]
  refine ((constructSessionTrlrAuthenticationCode_bytes crypto hobj _).mono (fun _ hq => hq)
    fun _ he => he.imp_right fun hlong => Or.inl ⟨hlong.1, hlong.2.1, h₁.le, hlong.2.2⟩).bind ?_
  rintro b ⟨rfl, hfits⟩
  have hnot : ¬ HashOverflows algorithms keys pktLen code head := fun hover =>
    hover.long (hfits hover.computed)
  have hrest : pkt.length - indx = _ := h₁.rest
  rw [hrest]
  have hle := h₁.le
  refine Meets.ite (fun hlong => Meets.error (Or.inr (Or.inr ⟨rfl, hnot, ?_⟩))) fun hroom => ?_
  · rw [List.length_append]
    omega
  · exact Meets.ok ⟨front_splice h₁ (Nat.le_of_not_gt hroom), hnot⟩

/-- The trailer goes behind the front of the packet. -/
theorem putTrlr_bytes (crypto : Crypto) {pktLen : ℕ} {front : List Byte} {r : List Byte × ℕ}
    {nextHeader : Byte} (hf : Front pktLen front r)
    (h : objTrlr.Parts tmplRmcpplusSessionTrlr.fields [[], padLength, [nextHeader], []]) :
    Meets (putTrlr crypto algorithms keys 4 objTrlr r.1 r.2)
      (fun r' => Front pktLen (front ++ requestTrlr crypto algorithms keys nextHeader front) r' ∧
        TrlrReady crypto algorithms keys nextHeader pktLen front)
      (fun e => e = .assertion ∨ ¬ TrlrReady crypto algorithms keys nextHeader pktLen front) := by
  obtain ⟨head, hhead⟩ : ∃ head, head = front ++ trlrHead (front.length - 4) [] [nextHeader] := ⟨_, rfl⟩
  have hfront : head = front ++ trlrFront (front.length - 4) nextHeader := by
    rw [hhead, trlrHead_front]
  have htrlr : head ++ trlrCode crypto algorithms keys [] (head.drop 4)
      = front ++ requestTrlr crypto algorithms keys nextHeader front := by
    rw [requestTrlr, ← List.append_assoc, ← hfront]
    rfl
  have hfits : HashFits algorithms keys (head.drop 4) ↔
      (requestHashData algorithms.integrity keys.authenticationCodeData
        ((front ++ trlrFront (front.length - 4) nextHeader).drop 4)).length ≤ ipmiMaxPayloadLength := by
    rw [HashFits, hfront]
  have hput := putTrlr_parts crypto algorithms keys hf h hhead
  rw [htrlr] at hput
  refine hput.mono ?_ ?_
  · rintro r' ⟨hr', hnot⟩
    refine ⟨hr', hfits.mp ?_, hr'.le⟩
    by_contra hlong
    have hle := hr'.le
    rw [← htrlr, List.length_append] at hle
    exact hnot ⟨rfl, by omega, hlong⟩
  · rintro e (rfl | ⟨-, hover⟩ | ⟨-, -, hlong⟩)
    · exact Or.inl rfl
    · exact Or.inr fun hready => hover.long (hfits.mpr hready.hashed)
    · exact Or.inr fun hready => absurd hready.room (Nat.not_le.mpr hlong)

end Trailer

/-! ### The packet -/

/-- The packet that is sent. -/
def requestBytes (crypto : Crypto) (algorithms : Algorithms) (keys : RequestKeys) (h : RequestHdr)
    (nextHeader : Byte) (front : List Byte) : List Byte :=
  if h.hasTrlr then front ++ requestTrlr crypto algorithms keys nextHeader front else front

/-- The length of a payload. -/
def payloadLength (algorithms : Algorithms) (content : List Byte) : ℕ :=
  if algorithms.confidentiality = ipmiConfidentialityAlgorithmNone then content.length
  else 16 + (padded content).length

/-- The bytes behind the RMCP header that a code is computed over, for a payload of `n` bytes. -/
def signedLength (n : ℕ) : ℕ := 12 + n + integrityPadLen (12 + n + 2) + 2

/-- The length of the packet. -/
def packetLength (algorithms : Algorithms) (h : RequestHdr) (n : ℕ) : ℕ :=
  if h.hasTrlr then 4 + signedLength n + authenticationCodeLen algorithms.integrity else 16 + n

/-- What is hashed for a code over `n` bytes: for the plain digest the password stands in front and
    behind. -/
def hashedBytes (algorithms : Algorithms) (n : ℕ) : ℕ :=
  if algorithms.integrity = ipmiIntegrityAlgorithmMd5128 then n + 40 else n

/-- What is hashed for the code of a packet with a payload of `n` bytes. -/
def hashedLength (algorithms : Algorithms) (n : ℕ) : ℕ := hashedBytes algorithms (signedLength n)

/-- What a request needs behind the entry checks. -/
structure RequestReady (cipher : Cipher) (algorithms : Algorithms) (keys : RequestKeys) (h : RequestHdr)
    (content : List Byte) (pktLen : ℕ) : Prop where
  payload : PayloadReady cipher algorithms (keys.confidentiality.getD []) content
  hashed : h.hasTrlr = true →
    hashedLength algorithms (payloadLength algorithms content) ≤ ipmiMaxPayloadLength
  room : packetLength algorithms h (payloadLength algorithms content) ≤ pktLen
  int : packetLength algorithms h (payloadLength algorithms content) ≤ intMax

/-- What is returned for a request. -/
structure RequestSent (crypto : Crypto) (cipher : Cipher) (algorithms : Algorithms) (keys : RequestKeys)
    (h : RequestHdr) (nextHeader : Byte) (rmcp session content iv : List Byte) (pktLen : ℕ)
    (r : ℕ × List Byte) : Prop where
  ready : RequestReady cipher algorithms keys h content pktLen
  encrypted : algorithms.confidentiality ≠ ipmiConfidentialityAlgorithmNone →
    Encrypted cipher (keys.confidentiality.getD []) h.payloadEncrypted iv content
  len : r.1 = packetLength algorithms h (payloadLength algorithms content)
  pkt : r.2.take r.1 = requestBytes crypto algorithms keys h nextHeader (requestFront rmcp session
    (payloadParts cipher algorithms (keys.confidentiality.getD []) iv content).flatten)

section Lengths
variable {crypto : Crypto} {cipher : Cipher} {algorithms : Algorithms} {keys : RequestKeys}
  {h : RequestHdr} {nextHeader : Byte} {rmcp session content iv payload front : List Byte}

theorem length_payloadParts {key : List Byte} {payloadEncrypted : Bool}
    (hencrypted : algorithms.confidentiality ≠ ipmiConfidentialityAlgorithmNone →
      Encrypted cipher key payloadEncrypted iv content) :
    (payloadParts cipher algorithms key iv content).flatten.length = payloadLength algorithms content := by
  rw [payloadParts, payloadLength]
  split
  · simp
  · rename_i hsome
    have henc := hencrypted hsome
    have hlen := henc.length
    have hiv := henc.ivLen
    rw [ipmiCryptAesCbc128BlockLength] at hiv
    simp only [List.flatten_cons, List.flatten_nil, List.append_nil, List.take_append_drop,
      List.length_append, hlen, hiv]

theorem length_front (hrmcp : rmcp.length = 4) (hsession : session.length = 10) :
    (requestFront rmcp session payload).length = 16 + payload.length := by
  rw [requestFront]
  simp only [List.length_append, length_leBytes, hrmcp, hsession]

theorem length_trlrFront (n : ℕ) (nextHeader : Byte) :
    (trlrFront n nextHeader).length = integrityPadLen (n + 2) + 2 := by
  rw [trlrFront, List.length_append, List.length_replicate]
  rfl

theorem length_sessionCode (crypto : Crypto) (keys : RequestKeys) (signed : List Byte)
    (hkeyed : integrityAlgorithmKeyed algorithms.integrity = true) :
    (sessionCode crypto algorithms keys signed).length = authenticationCodeLen algorithms.integrity ∧
      (authenticationCodeLen algorithms.integrity = 12 ∨ authenticationCodeLen algorithms.integrity = 16) := by
  obtain ⟨input, hinput⟩ : ∃ input, input
      = requestHashData algorithms.integrity keys.authenticationCodeData signed := ⟨_, rfl⟩
  rw [sessionCode, ← hinput, List.length_take]
  simp only [integrityAlgorithmKeyed, Bool.or_eq_true, beq_iff_eq] at hkeyed
  rcases hkeyed with ((h | h) | h) | h <;> rw [h] <;>
    simp [integrityDigest, authenticationCodeLen, ipmiIntegrityAlgorithmNone,
      ipmiIntegrityAlgorithmHmacSha196, ipmiIntegrityAlgorithmHmacMd5128, ipmiIntegrityAlgorithmMd5128,
      ipmiIntegrityAlgorithmHmacSha256128]

/-- The bytes that a code is computed over. -/
theorem length_signed {n : ℕ} (hfront : front.length = 16 + n) :
    (front ++ trlrFront (front.length - 4) nextHeader).length = 4 + signedLength n := by
  have hsub : 16 + n - 4 = 12 + n := by omega
  rw [List.length_append, length_trlrFront, hfront, hsub, signedLength]
  omega

theorem length_hashData
    (hpassword : algorithms.integrity = ipmiIntegrityAlgorithmMd5128 →
      keys.authenticationCodeData.length ≤ ipmi20MaxPasswordLength) (signed : List Byte) :
    (requestHashData algorithms.integrity keys.authenticationCodeData signed).length
      = hashedBytes algorithms signed.length := by
  rw [requestHashData, hashedBytes]
  split
  · rename_i hmd5
    have hle := hpassword hmd5
    rw [ipmi20MaxPasswordLength] at hle
    simp only [List.length_append, splice, List.length_take, List.length_drop,
      List.length_replicate, ipmi20MaxPasswordLength]
    omega
  · rfl

theorem length_requestHashData {n : ℕ}
    (hpassword : algorithms.integrity = ipmiIntegrityAlgorithmMd5128 →
      keys.authenticationCodeData.length ≤ ipmi20MaxPasswordLength)
    (hfront : front.length = 16 + n) :
    (requestHashData algorithms.integrity keys.authenticationCodeData
      ((front ++ trlrFront (front.length - 4) nextHeader).drop 4)).length = hashedLength algorithms n := by
  rw [length_hashData hpassword, List.length_drop, length_signed hfront, hashedLength,
    Nat.add_sub_cancel_left]

/-- The whole packet. -/
theorem length_requestBytes {n : ℕ}
    (hkeyed : h.hasTrlr = true → integrityAlgorithmKeyed algorithms.integrity = true)
    (hfront : front.length = 16 + n) :
    (requestBytes crypto algorithms keys h nextHeader front).length = packetLength algorithms h n := by
  rw [requestBytes, packetLength]
  split
  · rename_i htrlr
    rw [requestTrlr, ← List.append_assoc, List.length_append, length_signed hfront,
      (length_sessionCode crypto keys _ (hkeyed htrlr)).1]
  · exact hfront

/-- The trailer of a request that is ready. -/
theorem RequestReady.trlr {pktLen : ℕ} (hready : RequestReady cipher algorithms keys h content pktLen)
    (htrlr : h.hasTrlr = true) (hkeyed : integrityAlgorithmKeyed algorithms.integrity = true)
    (hpassword : algorithms.integrity = ipmiIntegrityAlgorithmMd5128 →
      keys.authenticationCodeData.length ≤ ipmi20MaxPasswordLength)
    (hfront : front.length = 16 + payloadLength algorithms content) :
    TrlrReady crypto algorithms keys nextHeader pktLen front := by
  have hroom := hready.room
  have hlen : (requestBytes crypto algorithms keys h nextHeader front).length
      = packetLength algorithms h (payloadLength algorithms content) :=
    length_requestBytes (fun _ => hkeyed) hfront
  rw [← hlen, requestBytes, if_pos htrlr] at hroom
  exact ⟨by rw [length_requestHashData hpassword hfront]; exact hready.hashed htrlr, hroom⟩

end Lengths

/-- The payload of a request goes behind its length. -/
theorem putPayload_bytes (ndebug : Bool) (cipher : Cipher) (algorithms : Algorithms) (keys : RequestKeys)
    {h : RequestHdr} {objs : RmcpplusRequest} {objLanMsgHdr : FiidObj} {hdr cmd content a : List Byte}
    {pktLen : ℕ} {r : List Byte × ℕ} (hkind : Ciphered h.payloadType)
    (hobj : objs.lanMsgHdr = some objLanMsgHdr)
    (hhdr : h.payloadType = ipmiPayloadTypeIpmi → objLanMsgHdr.Reads hdr ∧ hdr.length = 5)
    (hcmd : objs.cmd.Reads cmd) (hcontent : content = requestContent h.payloadType hdr cmd)
    (hf : Front pktLen a r) :
    Meets (putPayload ndebug cipher algorithms keys h objs r.1 r.2)
      (fun r' => ∃ iv payload, payload
          = (payloadParts cipher algorithms (keys.confidentiality.getD []) iv content).flatten ∧
        payload.length = payloadLength algorithms content ∧
        Front pktLen (a ++ leBytes 2 payload.length ++ payload) r' ∧
        PayloadReady cipher algorithms (keys.confidentiality.getD []) content ∧
        (algorithms.confidentiality ≠ ipmiConfidentialityAlgorithmNone →
          Encrypted cipher (keys.confidentiality.getD []) h.payloadEncrypted iv content))
      (fun e => e = .assertion ∨ e.isReturn = true ∧
        (¬ PayloadReady cipher algorithms (keys.confidentiality.getD []) content ∨
          pktLen < a.length + 2 + payloadLength algorithms content)) := by
  obtain ⟨objRmcpplusPayload, hcreate, hempty⟩ := create_payload_parts ndebug
  have hbuilds := constructPayload_bytes ndebug cipher algorithms keys.confidentiality h.payloadEncrypted
    hkind hhdr hcmd hempty
  rw [← hcontent] at hbuilds
  simp only [putPayload, hcreate, hobj]
  refine (hbuilds.mono (fun _ hq => hq) fun _ he => he.imp_right fun hnot =>
    ⟨hnot.1, Or.inl hnot.2⟩).bind ?_
  rintro ⟨obj, payloadLen⟩ ⟨iv, hbuilt⟩
  have hlen : payloadLen = _ := hbuilt.len
  have hpayload := length_payloadParts hbuilt.encrypted
  have hshort : ∀ {front : List Byte} {e : Stop},
      front.length ≤ a.length + 2 + payloadLength algorithms content →
      e.isReturn = true ∧ pktLen < front.length → e = .assertion ∨ e.isReturn = true ∧
        (¬ PayloadReady cipher algorithms (keys.confidentiality.getD []) content ∨
          pktLen < a.length + 2 + payloadLength algorithms content) := fun hle hlong =>
    Or.inr ⟨hlong.1, Or.inr (by omega)⟩
  refine ((putPayloadLen_front ndebug hf payloadLen).mono (fun _ hq => hq) fun _ he =>
    Or.inr ⟨he.1, Or.inr (by omega)⟩).bind fun r₃ h₃ => ?_
  refine (putAllIfRoom_reads h₃ hbuilt.parts.reads).mono (fun r₄ h₄ => ?_) fun _ => hshort ?_
  · rw [hlen] at h₄
    exact ⟨iv, _, rfl, hpayload, h₄, hbuilt.ready, hbuilt.encrypted⟩
  · rw [List.length_append, List.length_append, length_leBytes, hpayload]

/-- The packet of a request; the assembler stops only on an assertion, or where something is missing
    that the request needs. -/
theorem assembleIpmiRmcpplusPkt_bytes (ndebug : Bool) (crypto : Crypto) (cipher : Cipher)
    {algorithms : Algorithms} {keys : RequestKeys} {objs : RmcpplusRequest} {pktLen : ℕ}
    {flags : BitVec 32} {h : RequestHdr} {rmcp session hdr cmd : List Byte} {nextHeader : Byte}
    (hcheck : checkRequest algorithms keys objs pktLen flags = .ok h) (hkind : Ciphered h.payloadType)
    (hh : RequestHolds rmcp session hdr cmd nextHeader h objs) :
    Meets (assembleIpmiRmcpplusPkt ndebug crypto cipher algorithms keys objs pktLen flags)
      (fun r => ∃ iv, RequestSent crypto cipher algorithms keys h nextHeader rmcp session
        (requestContent h.payloadType hdr cmd) iv pktLen r)
      (fun e => e = .assertion ∨ ¬ RequestReady cipher algorithms keys h
        (requestContent h.payloadType hdr cmd) pktLen) := by
  obtain ⟨objLanMsgHdr, hhdr, hhdrReads⟩ := hh.hdrReads
  have hr := requestChecked_of_check hcheck
  have hkeyed : h.hasTrlr = true → integrityAlgorithmKeyed algorithms.integrity = true := fun htrlr =>
    Exists.elim (hr.trlr htrlr) fun _ hc => hc.2.keyed
  have hpassword : h.hasTrlr = true → algorithms.integrity = ipmiIntegrityAlgorithmMd5128 →
      keys.authenticationCodeData.length ≤ ipmi20MaxPasswordLength := fun htrlr =>
    Exists.elim (hr.trlr htrlr) fun _ hc => hc.2.password
  have hsessionReads := hh.sessionReads
  rw [← hh.sessionLen] at hsessionReads
  obtain ⟨content, hcontent⟩ : ∃ content, content = requestContent h.payloadType hdr cmd := ⟨_, rfl⟩
  rw [← hcontent]
  -- whatever stands in front of the payload is shorter than the packet
  have hshort : ∀ {n : ℕ}, n ≤ 16 + payloadLength algorithms content →
      pktLen < n → ¬ RequestReady cipher algorithms keys h content pktLen := by
    intro n hle hlong hready
    have hroom := hready.room
    have hsigned : signedLength (payloadLength algorithms content)
        = 12 + payloadLength algorithms content
          + integrityPadLen (12 + payloadLength algorithms content + 2) + 2 := rfl
    rw [packetLength] at hroom
    split at hroom <;> omega
  rw [assembleIpmiRmcpplusPkt, hcheck, ok_bind]
  refine ((putAllIfRoom_reads (Front.nil pktLen) hh.rmcpReads).mono (fun _ hq => hq) fun _ hlong =>
    Or.inr (hshort (by rw [List.nil_append, hh.rmcpLen]; omega) hlong.2)).bind ?_
  rintro ⟨pkt₁, objRmcpHdrLen⟩ h₁
  obtain rfl : objRmcpHdrLen = 4 := h₁.index.trans hh.rmcpLen
  refine ((putBlockIfRoom_reads h₁ hsessionReads).mono (fun _ hq => hq) fun _ hlong => Or.inr (hshort (by
    rw [List.nil_append, List.length_append, hh.rmcpLen, hh.sessionLen]; omega) hlong.2)).bind
      fun r₂ h₂ => ?_
  rw [List.nil_append] at h₂
  have hfrontLen : (rmcp ++ session).length = 14 := by
    rw [List.length_append, hh.rmcpLen, hh.sessionLen]
  refine ((putPayload_bytes ndebug cipher algorithms keys hkind hhdr hhdrReads hh.cmdReads hcontent h₂).mono
    (fun _ hq => hq) fun _ he => he.imp_right fun hnot hready => ?_).bind ?_
  · rcases hnot.2 with hnot | hlong
    · exact hnot hready.payload
    · exact hshort (by omega) hlong hready
  · rintro r₃ ⟨iv, payload, hpayload, hpayloadLen, h₃, hready, hencrypted⟩
    rw [← requestFront] at h₃
    have hlen : (requestFront rmcp session payload).length = 16 + payloadLength algorithms content := by
      rw [length_front hh.rmcpLen hh.sessionLen, hpayloadLen]
    refine Meets.bind (R := fun r => Front pktLen (requestBytes crypto algorithms keys h nextHeader
      (requestFront rmcp session payload)) r ∧ (h.hasTrlr = true →
        hashedLength algorithms (payloadLength algorithms content) ≤ ipmiMaxPayloadLength)) ?_ ?_
    · rw [RmcpplusRequest.putTrlr, requestBytes]
      by_cases htrlr : h.hasTrlr = true
      · obtain ⟨objTrlr, padLength, hobj, hparts⟩ := hh.trlrParts htrlr
        rw [if_pos htrlr, if_pos htrlr, hobj]
        refine (putTrlr_bytes crypto h₃ hparts).mono (fun _ hr => ⟨hr.1, fun _ => ?_⟩) fun _ he =>
          he.imp_right fun hnot hready => hnot (hready.trlr htrlr (hkeyed htrlr) (hpassword htrlr) hlen)
        have hhashed := hr.2.hashed
        rwa [length_requestHashData (hpassword htrlr) hlen] at hhashed
      · rw [if_neg htrlr, if_neg htrlr]
        exact Meets.ok ⟨h₃, fun hyes => absurd hyes htrlr⟩
    · rintro ⟨pkt, indx⟩ ⟨h₄, hhashed⟩
      have hindx : indx = packetLength algorithms h (payloadLength algorithms content) := by
        rw [← length_requestBytes hkeyed hlen]
        exact h₄.index
      have hle := h₄.le
      rw [length_requestBytes hkeyed hlen] at hle
      refine Meets.ite (fun hlong => Meets.error (Or.inr fun hready => ?_)) fun hint => Meets.ok
        ⟨iv, ⟨hready, hhashed, hle, by omega⟩, hencrypted, hindx, ?_⟩
      · have hint := hready.int
        omega
      · rw [← hpayload]
        exact take_front h₄

/-! ### What fits -/

/-- CBC keeps the length of whole blocks. -/
def KeepsLength (cipher : Cipher) : Prop :=
  ∀ key iv data, data.length % ipmiCryptAesCbc128BlockLength = 0 →
    (cipher.aesCbc128Encrypt key iv data).length = data.length

/-- A payload can be put together: its content is not too long, and with a cipher there is a key of one
    block, an initialization vector and room for the padding. -/
structure PayloadFits (cipher : Cipher) (algorithms : Algorithms) (confidentialityKey : Option (List Byte))
    (payloadType : Byte) (objCmd : FiidObj) : Prop where
  content : contentBytes payloadType objCmd ≤ ipmiMaxPayloadLength
  encryptable : Ciphered payloadType → algorithms.confidentiality ≠ ipmiConfidentialityAlgorithmNone →
    ipmiCryptAesCbc128BlockLength ≤ (confidentialityKey.getD []).length ∧
      payloadBytes algorithms payloadType objCmd ≤ 16 + ipmiMaxPayloadLength ∧ cipher.random ≠ none

section Fits
variable {cipher : Cipher} {algorithms : Algorithms} {confidentialityKey : Option (List Byte)}
  {payloadType : Byte} {objCmd : FiidObj} {hdr cmd content : List Byte}

theorem cmdBytes_of_lenBytes {n : ℕ} (h : fiidObjLenBytes objCmd = .ok n) : cmdBytes objCmd = n :=
  ((lenBytes_meets objCmd).value n h).symm

theorem length_requestContent (hcmd : fiidObjLenBytes objCmd = .ok cmd.length)
    (hhdr : payloadType = ipmiPayloadTypeIpmi → hdr.length = 5) :
    (requestContent payloadType hdr cmd).length = contentBytes payloadType objCmd := by
  rw [requestContent, contentBytes, cmdBytes_of_lenBytes hcmd]
  split
  · rename_i htype
    exact length_requestMsg (hhdr htype) cmd
  · rfl

/-- The payload has the length that the layout of the assembler tells. -/
theorem payloadLength_content (algorithms : Algorithms) (hkind : Ciphered payloadType)
    (hcontent : content.length = contentBytes payloadType objCmd) :
    payloadLength algorithms content = payloadBytes algorithms payloadType objCmd := by
  rw [payloadLength, payloadBytes, length_padded, hcontent]
  by_cases hnone : algorithms.confidentiality = ipmiConfidentialityAlgorithmNone
  · rw [if_pos hnone, if_neg fun hboth => hboth.2 hnone]
  · rw [if_neg hnone, if_pos ⟨hkind, hnone⟩]
    omega

/-- The content is ready exactly when the payload fits. -/
theorem payloadReady_iff (algorithms : Algorithms) (confidentialityKey : Option (List Byte))
    (hkeeps : KeepsLength cipher) (hkind : Ciphered payloadType)
    (hcontent : content.length = contentBytes payloadType objCmd) :
    PayloadReady cipher algorithms (confidentialityKey.getD []) content ↔
      PayloadFits cipher algorithms confidentialityKey payloadType objCmd := by
  have hsecret : algorithms.confidentiality ≠ ipmiConfidentialityAlgorithmNone →
      payloadBytes algorithms payloadType objCmd = 16 + (padded content).length := fun hsome => by
    rw [← payloadLength_content algorithms hkind hcontent, payloadLength, if_neg hsome]
  constructor
  · rintro ⟨hle, hencryptable⟩
    refine ⟨hcontent ▸ hle, fun _ hsome => ?_⟩
    obtain ⟨hkey, hfits, random, hrandom, -⟩ := hencryptable hsome
    refine ⟨hkey, ?_, fun hnone => by rw [hnone] at hrandom; cases hrandom⟩
    rw [hsecret hsome]
    omega
  · rintro ⟨hle, hencryptable⟩
    refine ⟨hcontent.symm ▸ hle, fun hsome => ?_⟩
    obtain ⟨hkey, hfits, hrandom⟩ := hencryptable hkind hsome
    obtain ⟨random, hrandom⟩ := Option.ne_none_iff_exists'.mp hrandom
    rw [hsecret hsome] at hfits
    exact ⟨hkey, by omega, random, hrandom, hkeeps _ _ _ (padded_blocks content)⟩

end Fits

end FreeIpmi.Rmcpplus
