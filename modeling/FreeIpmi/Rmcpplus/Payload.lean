import FreeIpmi.Lan.Lengths
import FreeIpmi.Rmcpplus.Assemble

/-! What `_construct_payload` puts into the payload object (`interface/ipmi-rmcpplus-interface.c`), and
    when one of its assertions fails.

    The entry checks look at the message header of an IPMI payload only, and not at the encryption
    flag where there is a cipher. -/

namespace FreeIpmi.Rmcpplus
open Fiid Calls Lan

/-! ### The payload object -/

/-- The fields of a payload object, so far set. -/
def payloadFields (header data trlr : ℕ) : List FiidFieldData :=
  [⟨512, "confidentiality_header", header, optionalVariable, by decide⟩,
   ⟨524288, "payload_data", data, requiredVariable, by decide⟩,
   ⟨512, "confidentiality_trailer", trlr, optionalVariable, by decide⟩]

section PayloadObj
variable {obj : FiidObj} {header data trlr : ℕ}

theorem templateIs_of_fields {tmpl : FiidTemplate} (hok : TemplateOk tmpl) :
    templateIs obj tmpl = true ↔ obj.fields.map FiidFieldData.toField = tmpl.fields := by
  rw [← compareStrict_ok_iff hok, templateIs]
  cases fiidObjTemplateCompareStrict obj tmpl with
  | error e => simp [Except.isOk, Except.toBool]
  | ok u => simp [Except.isOk, Except.toBool]

theorem templateIs_payload (h : obj.fields = payloadFields header data trlr) :
    templateIs obj tmplRmcpplusPayload = true := by
  rw [templateIs_of_fields (by decide), h]
  rfl

theorem len_payload (h : obj.fields = payloadFields header data trlr) :
    fiidObjLen obj = header + data + trlr := by
  simp [fiidObjLen, setLen, h, payloadFields, Nat.add_assoc]

/-- What `fiid_obj_set_data` does to the fields. -/
theorem setData_fields {field : String} {i : ℕ} {f : FiidFieldData} (hf : FieldAt obj field i f)
    {m : ℕ} (hm : f.maxFieldLen = 8 * m) {d : List Byte} (hd : d.length ≤ m) :
    Meets (fiidObjSetData obj field d)
      (fun r => r.1.fields = obj.fields.modify i fun f => { f with setFieldLen := 8 * d.length })
      (· ≠ .assertion) := by
  refine ⟨fun r hr => ?_, (setData_sameTemplate obj field d).reason⟩
  obtain ⟨-, -, hn, hobj⟩ := setData_ok hf hr
  rw [min_eq_left (by omega)] at hn
  rw [hobj, hn, Nat.mul_comm]
  rfl

/-- Data that fits is stored whole. -/
theorem setData_header (h : obj.fields = payloadFields header data trlr) {d : List Byte}
    (hd : d.length ≤ 64) : Meets (fiidObjSetData obj "confidentiality_header" d)
      (fun r => r.1.fields = payloadFields (8 * d.length) data trlr) (· ≠ .assertion) :=
  (setData_fields (i := 0) ⟨by rw [h]; rfl, by rw [h]; rfl⟩ rfl hd).weaken fun r hr => by
    rw [hr, h]
    rfl

theorem setData_payload (h : obj.fields = payloadFields header data trlr) {d : List Byte}
    (hd : d.length ≤ ipmiMaxPayloadLength) : Meets (fiidObjSetData obj "payload_data" d)
      (fun r => r.1.fields = payloadFields header (8 * d.length) trlr) (· ≠ .assertion) :=
  (setData_fields (i := 1) ⟨by rw [h]; rfl, by rw [h]; rfl⟩ rfl hd).weaken fun r hr => by
    rw [hr, h]
    rfl

theorem setData_trailer (h : obj.fields = payloadFields header data trlr) {d : List Byte}
    (hd : d.length ≤ 64) : Meets (fiidObjSetData obj "confidentiality_trailer" d)
      (fun r => r.1.fields = payloadFields header data (8 * d.length)) (· ≠ .assertion) :=
  (setData_fields (i := 2) ⟨by rw [h]; rfl, by rw [h]; rfl⟩ rfl hd).weaken fun r hr => by
    rw [hr, h]
    rfl

end PayloadObj

/-! ### The message -/

theorem orTemplateInvalid_ordinary (len : Option ℕ) :
    Meets (orTemplateInvalid len) (fun _ => True) (· ≠ .assertion) := by
  cases len with
  | none => exact Meets.error (by decide)
  | some len => exact Meets.ok trivial

theorem payloadFits_meets (payloadLen payloadBufLen : ℕ) :
    Meets (payloadFits payloadLen payloadBufLen) (fun _ => payloadLen ≤ ipmiMaxPayloadLength)
      (· ≠ .assertion) :=
  Meets.ite (fun _ => Meets.error (by decide)) fun h =>
    Meets.ite (fun _ => Meets.error (by decide)) fun _ => Meets.ok (Nat.not_lt.mp h)

/-- The bytes of a command. -/
def cmdBytes (objCmd : FiidObj) : ℕ := bitsRoundBytes (fiidObjLen objCmd)

theorem lenBytes_meets (obj : FiidObj) : Meets (fiidObjLenBytes obj)
    (fun n => n = bitsRoundBytes (fiidObjLen obj)) (· ≠ .assertion) :=
  (bytesOfSetBits_meets _).weaken fun _ h => h.1

/-- The bytes that are encrypted or sent as they are: the message of an IPMI payload has five bytes of
    header and a checksum around its command. -/
def contentBytes (payloadType : Byte) (objCmd : FiidObj) : ℕ :=
  if payloadType = ipmiPayloadTypeIpmi then 6 + cmdBytes objCmd else cmdBytes objCmd

/-- What a payload buffer holds afterwards. -/
def Content (payloadBufLen len : ℕ) (r : List Byte × ℕ) : Prop :=
  len ≤ ipmiMaxPayloadLength ∧ ∃ b, b.length = len ∧ Front payloadBufLen b r

theorem constructMsg_content (ndebug : Bool) {objLanMsgHdr : FiidObj}
    (hhdr : objLanMsgHdr.fields = completeFields tmplLanMsgHdrRq) (objCmd : FiidObj)
    (payloadBufLen : ℕ) : Meets (constructMsg ndebug objLanMsgHdr objCmd payloadBufLen)
      (Content payloadBufLen (6 + cmdBytes objCmd)) (· ≠ .assertion) := by
  have hhdrLen : bitsRoundBytes (fiidObjLen objLanMsgHdr) = 5 := by
    rw [fiidObjLen, hhdr]
    rfl
  have htrlrLen : orTemplateInvalid (fiidTemplateLenBytes tmplLanMsgTrlr) = .ok 1 := by decide
  rw [constructMsg, htrlrLen]
  refine (lenBytes_meets objLanMsgHdr).bind ?_
  rintro hdrLen rfl
  rw [ok_bind]
  refine (lenBytes_meets objCmd).bind ?_
  rintro cmdLen rfl
  refine (payloadFits_meets _ _).bind fun _ hfits => ?_
  rw [hhdrLen] at hfits
  refine (putAll_front (Front.nil payloadBufLen) objLanMsgHdr).bind ?_
  rintro r₁ ⟨b₁, hb₁, h₁⟩
  refine (putAll_front h₁ objCmd).bind ?_
  rintro r₂ ⟨b₂, hb₂, h₂⟩
  have hcreate : fiidObjCreate ndebug tmplLanMsgTrlr = some (createdObj tmplLanMsgTrlr 1 false) := by
    cases ndebug <;> decide
  simp only [hcreate]
  refine (orTemplateInvalid_ordinary _).bind fun checksumStart _ => ?_
  obtain ⟨objLanMsgTrlr, obj', hcreate', hset, hreads⟩ := trlr_reads ndebug
    (ipmiChecksum ((r₂.1.drop checksumStart).take (r₂.2 - checksumStart)))
  obtain rfl := Option.some.inj (hcreate.symm.trans hcreate')
  simp only [hset]
  refine (putAll_front h₂ obj').weaken ?_
  rintro r₃ ⟨b₃, hb₃, h₃⟩
  have htrlr : bitsRoundBytes (fiidObjLen obj') = 1 :=
    ((bytesOfSetBits_meets _).value _ hreads.lenBytes).1.symm
  refine ⟨by rw [cmdBytes]; omega, [] ++ b₁ ++ b₂ ++ b₃, ?_, h₃⟩
  simp only [List.length_append, List.length_nil, cmdBytes]
  omega

theorem constructSol_content (objCmd : FiidObj) (payloadBufLen : ℕ) :
    Meets (constructSol objCmd payloadBufLen) (Content payloadBufLen (cmdBytes objCmd))
      (· ≠ .assertion) := by
  rw [constructSol]
  refine (lenBytes_meets objCmd).bind ?_
  rintro cmdLen rfl
  refine (payloadFits_meets _ _).bind fun _ hfits => ?_
  refine (putAll_front (Front.nil payloadBufLen) objCmd).weaken ?_
  rintro r ⟨b, hb, h⟩
  exact ⟨hfits, b, hb, h⟩

/-! ### The helpers -/

@[simp] theorem assertThat_true : assertThat true = .ok () := rfl

@[simp] theorem assertThat_false : assertThat false = .error .assertion := rfl

/-- What the entry has checked of the payload. -/
structure PayloadChecked (payloadType : Byte) (objLanMsgHdr : Option FiidObj) (objCmd : FiidObj) :
    Prop where
  request : payloadTypeRequest payloadType = true
  msgHdr : payloadType = ipmiPayloadTypeIpmi → ∃ obj, objLanMsgHdr = some obj ∧
    templateIs obj tmplLanMsgHdrRq = true ∧ fiidObjPacketValid obj = true
  sol : payloadType = ipmiPayloadTypeSol → solTemplate objCmd = true
  cmd : fiidObjPacketValid objCmd = true

/-- A payload that a cipher may be used for. -/
abbrev Ciphered (payloadType : Byte) : Prop :=
  payloadType = ipmiPayloadTypeIpmi ∨ payloadType = ipmiPayloadTypeSol

section Helpers
variable {payloadType : Byte} {objLanMsgHdr : Option FiidObj} {objCmd objRmcpplusPayload : FiidObj}

theorem constructPayloadBuf_content (ndebug : Bool)
    (h : PayloadChecked payloadType objLanMsgHdr objCmd) (hkind : Ciphered payloadType)
    {payloadBufLen : ℕ} (hlen : payloadBufLen ≠ 0) :
    Meets (constructPayloadBuf ndebug payloadType objLanMsgHdr objCmd payloadBufLen)
      (Content payloadBufLen (contentBytes payloadType objCmd)) (· ≠ .assertion) := by
  rcases hkind with rfl | rfl
  · obtain ⟨obj, rfl, htmpl, hvalid⟩ := h.msgHdr rfl
    have hfields := fields_of_packetValid ((templateIs_of_fields (by decide)).mp htmpl) hvalid
      (by decide)
    have hsol : (ipmiPayloadTypeIpmi == ipmiPayloadTypeSol) = false := by decide
    simp only [constructPayloadBuf, hsol, beq_self_eq_true, Option.any_some, htmpl, hvalid,
      bne_iff_ne.mpr hlen, Bool.true_or, Bool.and_self, Bool.not_true, Bool.not_false, Bool.and_false,
      Bool.false_and, assertThat_true, ok_bind]
    exact constructMsg_content ndebug hfields objCmd payloadBufLen
  · have hipmi : (ipmiPayloadTypeSol == ipmiPayloadTypeIpmi) = false := by decide
    simp only [constructPayloadBuf, hipmi, beq_self_eq_true, h.sol rfl, bne_iff_ne.mpr hlen,
      Bool.or_true, Bool.and_self, Bool.not_true, Bool.not_false, Bool.and_false, Bool.false_and,
      assertThat_true, ok_bind]
    exact constructSol_content objCmd payloadBufLen

/-- A payload object with `n` bytes, of which the function reports the length. -/
def PayloadSet (n : ℕ) (r : FiidObj × ℕ) : Prop :=
  r.2 = n ∧ ∃ header data trlr, r.1.fields = payloadFields header data trlr ∧
    header + data + trlr = 8 * n

theorem payloadAsserts_true (h : PayloadChecked payloadType objLanMsgHdr objCmd)
    (hkind : Ciphered payloadType) (hobj : objRmcpplusPayload.fields = payloadFields 0 0 0) :
    payloadAsserts payloadType objLanMsgHdr objCmd objRmcpplusPayload = true := by
  have htmpl := templateIs_payload hobj
  rcases hkind with rfl | rfl
  · obtain ⟨obj, rfl, -, -⟩ := h.msgHdr rfl
    have hsol : (ipmiPayloadTypeIpmi == ipmiPayloadTypeSol) = false := by decide
    simp [payloadAsserts, htmpl, hsol]
  · have hipmi : (ipmiPayloadTypeSol == ipmiPayloadTypeIpmi) = false := by decide
    simp [payloadAsserts, htmpl, hipmi, h.sol rfl]

theorem Content.take {payloadBufLen len : ℕ} {r : List Byte × ℕ} (h : Content payloadBufLen len r) :
    r.2 = len ∧ (r.1.take r.2).length = len := by
  obtain ⟨-, b, rfl, hfront⟩ := h
  refine ⟨hfront.index, ?_⟩
  rw [hfront.buffer, hfront.index, List.take_left]

theorem constructPayloadConfidentialityNone_set (ndebug : Bool)
    (h : PayloadChecked payloadType objLanMsgHdr objCmd) (hkind : Ciphered payloadType)
    (hobj : objRmcpplusPayload.fields = payloadFields 0 0 0) :
    Meets (constructPayloadConfidentialityNone ndebug payloadType objLanMsgHdr objCmd
      objRmcpplusPayload) (PayloadSet (contentBytes payloadType objCmd)) (· ≠ .assertion) := by
  rw [constructPayloadConfidentialityNone, payloadAsserts_true h hkind hobj, assertThat_true, ok_bind]
  refine (constructPayloadBuf_content ndebug h hkind (by decide)).bind fun r hr => ?_
  obtain ⟨hlen, htake⟩ := hr.take
  refine (setData_payload hobj (d := r.1.take r.2) (by rw [htake]; exact hr.1)).bind fun r' hr' => ?_
  exact Meets.ok ⟨hlen, 0, _, 0, hr', by rw [htake]; omega⟩

/-- The padding fills up the last block. -/
theorem confidentialityPadLen_spec (payloadLen : ℕ) : confidentialityPadLen payloadLen < 16 ∧
    (payloadLen + confidentialityPadLen payloadLen + 1) % 16 = 0 := by
  have hpad : confidentialityPadLen payloadLen
      = if (payloadLen + 1) % 16 ≠ 0 then 16 - (payloadLen + 1) % 16 else 0 := rfl
  rw [hpad]
  split
  · omega
  · omega

theorem setEncrypted_set (hobj : objRmcpplusPayload.fields = payloadFields 0 0 0)
    {iv encrypted : List Byte} {payloadLen : ℕ} (hiv : iv.length = 16)
    (hlen : payloadLen ≤ ipmiMaxPayloadLength) (hle : payloadLen ≤ encrypted.length)
    (hpad : encrypted.length ≤ payloadLen + 64) :
    Meets (setEncrypted objRmcpplusPayload iv encrypted payloadLen)
      (fun obj => obj.fields = payloadFields (8 * 16) (8 * payloadLen)
        (8 * (encrypted.length - payloadLen))) (· ≠ .assertion) := by
  have htake : (encrypted.take payloadLen).length = payloadLen := by
    rw [List.length_take]
    omega
  have hdrop : (encrypted.drop payloadLen).length = encrypted.length - payloadLen := List.length_drop
  refine (setData_header hobj (by omega)).bind fun r₁ h₁ => ?_
  refine (setData_payload h₁ (by omega)).bind fun r₂ h₂ => ?_
  refine (setData_trailer h₂ (by omega)).bind fun r₃ h₃ => Meets.ok ?_
  rw [h₃, hiv, htake, hdrop]

theorem encryptPayload_set (cipher : Cipher) (hobj : objRmcpplusPayload.fields = payloadFields 0 0 0)
    (key payloadBuf : List Byte) {iv : List Byte} (hiv : iv.length = 16) (payloadLen : ℕ) :
    Meets (encryptPayload cipher objRmcpplusPayload key iv payloadBuf payloadLen)
      (PayloadSet (16 + payloadLen + confidentialityPadLen payloadLen + 1)) (· ≠ .assertion) := by
  have hpad := (confidentialityPadLen_spec payloadLen).1
  refine Meets.ite (fun _ => Meets.error (by decide)) fun hfits => ?_
  refine Meets.ite (fun _ => Meets.error (by decide)) fun _ => ?_
  refine Meets.ite (fun _ => Meets.error (by decide)) fun hlen => ?_
  have hlen := not_not.mp hlen
  refine (setEncrypted_set hobj hiv (by omega) (by omega) (by omega)).bind fun obj hset => ?_
  exact Meets.ok ⟨by rw [hiv], _, _, _, hset, by omega⟩

theorem constructPayloadConfidentialityAesCbc128_set (ndebug : Bool) (cipher : Cipher)
    {confidentialityKey : Option (List Byte)} (h : PayloadChecked payloadType objLanMsgHdr objCmd)
    (hkind : Ciphered payloadType) (hobj : objRmcpplusPayload.fields = payloadFields 0 0 0)
    (hkey : (confidentialityKey.getD []).length ≠ 0) :
    Meets (constructPayloadConfidentialityAesCbc128 ndebug cipher confidentialityKey payloadType true
        objLanMsgHdr objCmd objRmcpplusPayload)
      (PayloadSet (16 + contentBytes payloadType objCmd
        + confidentialityPadLen (contentBytes payloadType objCmd) + 1)) (· ≠ .assertion) := by
  rw [constructPayloadConfidentialityAesCbc128, payloadAsserts_true h hkind hobj, h.cmd,
    bne_iff_ne.mpr hkey]
  simp only [Bool.and_self, assertThat_true, ok_bind]
  refine Meets.ite (fun _ => Meets.error (by decide)) fun _ => ?_
  cases hrandom : cipher.random with
  | none => exact Meets.error (by decide)
  | some iv =>
    refine (constructPayloadBuf_content ndebug h hkind (by decide)).bind fun r hr => ?_
    rw [← hr.take.1]
    exact encryptPayload_set cipher hobj _ _ iv.toList_length _

theorem templateComparable_of_ok {obj : FiidObj} {tmpl : FiidTemplate} (hok : TemplateOk tmpl) :
    templateComparable obj tmpl = true := by
  rw [templateComparable, fiidObjTemplateCompare, hok.1, hok.2]
  rfl

theorem constructPayloadRakp_set (h : PayloadChecked payloadType objLanMsgHdr objCmd)
    (hkind : ¬ Ciphered payloadType) (hobj : objRmcpplusPayload.fields = payloadFields 0 0 0) :
    Meets (constructPayloadRakp payloadType objCmd objRmcpplusPayload)
      (PayloadSet (contentBytes payloadType objCmd)) (· ≠ .assertion) := by
  obtain ⟨hipmi, hsol⟩ := not_or.mp hkind
  have hrequest := h.request
  rw [payloadTypeRequest, beq_eq_false_iff_ne.mpr hipmi, beq_eq_false_iff_ne.mpr hsol, Bool.false_or,
    Bool.false_or] at hrequest
  have hopen : templateComparable objCmd tmplRmcpplusOpenSessionRequest = true :=
    templateComparable_of_ok (by decide)
  have hrakp1 : templateComparable objCmd tmplRmcpplusRakpMessage1 = true :=
    templateComparable_of_ok (by decide)
  have hrakp3 : templateComparable objCmd tmplRmcpplusRakpMessage3 = true :=
    templateComparable_of_ok (by decide)
  rw [constructPayloadRakp, hrequest, hopen, hrakp1, hrakp3, templateIs_payload hobj, h.cmd]
  simp only [Bool.not_true, Bool.and_false, Bool.not_false, Bool.and_self, assertThat_true, ok_bind]
  refine (getAll_written objCmd ipmiMaxPayloadLength).bind ?_
  rintro r ⟨hlen, hw⟩
  have htake : (r.2.take r.1).length = r.1 := by
    rw [List.length_take, hw.length]
    exact min_eq_left hw.le
  refine (setData_payload hobj (by rw [htake]; exact hw.le)).bind fun r' hr' => Meets.ok ?_
  refine ⟨?_, 0, _, 0, hr', ?_⟩
  · rw [contentBytes, if_neg hipmi]
    exact hlen
  · rw [htake, contentBytes, if_neg hipmi, cmdBytes, ← hlen]
    omega

/-! ### The payload -/

/-- The length of the payload, with the initialization vector and the padding of a cipher. -/
def payloadBytes (algorithms : Algorithms) (payloadType : Byte) (objCmd : FiidObj) : ℕ :=
  let content := contentBytes payloadType objCmd
  if Ciphered payloadType ∧ algorithms.confidentiality ≠ ipmiConfidentialityAlgorithmNone then
    16 + content + confidentialityPadLen content + 1
  else content

/-- What the helpers assert beyond what the entry has checked: a message header, whatever the type of
    the payload, and the encryption flag where there is a cipher. -/
structure AssertsMet (algorithms : Algorithms) (payloadType : Byte) (payloadEncrypted : Bool)
    (objLanMsgHdr : Option FiidObj) : Prop where
  msgHdr : ∃ obj, objLanMsgHdr = some obj ∧ templateIs obj tmplLanMsgHdrRq = true
  encrypted : Ciphered payloadType →
    algorithms.confidentiality = ipmiConfidentialityAlgorithmAesCbc128 → payloadEncrypted = true

/-- What the entry has checked of the algorithms and the key. -/
structure AlgorithmsChecked (algorithms : Algorithms) (confidentialityKey : Option (List Byte)) : Prop where
  authentication : ipmiAuthenticationAlgorithmSupported algorithms.authentication = true
  confidentiality : algorithms.confidentiality = ipmiConfidentialityAlgorithmNone ∨
    algorithms.confidentiality = ipmiConfidentialityAlgorithmAesCbc128
  key : algorithms.confidentiality = ipmiConfidentialityAlgorithmAesCbc128 →
    (confidentialityKey.getD []).length ≠ 0

section Payload
variable {algorithms : Algorithms} {confidentialityKey : Option (List Byte)} {payloadEncrypted : Bool}

theorem AlgorithmsChecked.supported (ha : AlgorithmsChecked algorithms confidentialityKey) :
    ipmiConfidentialityAlgorithmSupported algorithms.confidentiality = true := by
  rcases ha.confidentiality with h | h <;> rw [h] <;> decide

theorem constructPayload_set (ndebug : Bool) (cipher : Cipher)
    (ha : AlgorithmsChecked algorithms confidentialityKey)
    (h : PayloadChecked payloadType objLanMsgHdr objCmd)
    (hmet : AssertsMet algorithms payloadType payloadEncrypted objLanMsgHdr)
    (hobj : objRmcpplusPayload.fields = payloadFields 0 0 0) :
    Meets (constructPayload ndebug cipher algorithms confidentialityKey payloadType payloadEncrypted
        objLanMsgHdr objCmd objRmcpplusPayload)
      (PayloadSet (payloadBytes algorithms payloadType objCmd)) (· ≠ .assertion) := by
  obtain ⟨obj, rfl, htmpl⟩ := hmet.msgHdr
  rw [constructPayload, h.request, ha.authentication, ha.supported, Option.any_some, htmpl,
    templateIs_payload hobj]
  simp only [Option.isNone_some, Bool.and_false, Bool.not_false, Bool.and_self, assertThat_true, ok_bind]
  by_cases hkind : Ciphered payloadType
  · rw [if_pos hkind]
    rcases ha.confidentiality with hnone | haes
    · rw [if_pos hnone, payloadBytes, if_neg (fun hc => hc.2 hnone)]
      exact constructPayloadConfidentialityNone_set ndebug h hkind hobj
    · have hsome : algorithms.confidentiality ≠ ipmiConfidentialityAlgorithmNone := by
        rw [haes]
        decide
      rw [if_neg hsome, payloadBytes, if_pos ⟨hkind, hsome⟩, hmet.encrypted hkind haes]
      exact constructPayloadConfidentialityAesCbc128_set ndebug cipher h hkind hobj (ha.key haes)
  · rw [if_neg hkind, payloadBytes, if_neg (fun hc => hkind hc.1)]
    exact constructPayloadRakp_set h hkind hobj

/-- Otherwise one of the assertions fails. -/
theorem constructPayload_assertion (ndebug : Bool) (cipher : Cipher)
    (hmet : ¬ AssertsMet algorithms payloadType payloadEncrypted objLanMsgHdr) :
    constructPayload ndebug cipher algorithms confidentialityKey payloadType payloadEncrypted
      objLanMsgHdr objCmd objRmcpplusPayload = .error .assertion := by
  have hassert : ∀ {α : Type} (p : Bool) (f : Unit → Except Stop α), f () = .error .assertion →
      (assertThat p >>= f) = .error .assertion := by
    intro α p f hf
    cases p with
    | false => rfl
    | true => exact hf
  by_cases hmsgHdr : ∃ obj, objLanMsgHdr = some obj ∧ templateIs obj tmplLanMsgHdrRq = true
  · have henc : ¬ (Ciphered payloadType →
        algorithms.confidentiality = ipmiConfidentialityAlgorithmAesCbc128 → payloadEncrypted = true) :=
      fun henc => hmet ⟨hmsgHdr, henc⟩
    simp only [Classical.not_imp, Bool.not_eq_true] at henc
    obtain ⟨hkind, haes, rfl⟩ := henc
    rw [constructPayload]
    refine hassert _ _ ?_
    rw [if_pos hkind, haes, if_neg (by decide), constructPayloadConfidentialityAesCbc128]
    simp only [Bool.and_false, Bool.false_and, assertThat_false, error_bind]
  · have hany : (objLanMsgHdr.any fun obj => templateIs obj tmplLanMsgHdrRq) = false := by
      cases objLanMsgHdr with
      | none => rfl
      | some obj => simpa using hmsgHdr
    rw [constructPayload, hany]
    simp only [Bool.and_false, Bool.false_and, assertThat_false, error_bind]

end Payload

end Helpers

end FreeIpmi.Rmcpplus
