import FreeIpmi.Rmcpplus.Check

/-! The assembly of RMCP+ packets (`interface/ipmi-rmcpplus-interface.c`).

    A packet is the RMCP header, the session header, the length of the payload, the payload and, in an
    authenticated packet, the session trailer with the authentication code. The payload is put
    together in an object of its own, which `_construct_payload` fills; the helpers assert again what
    `assemble_ipmi_rmcpplus_pkt` has checked. The message header and the session trailer need not be
    objects. The cipher of `libgcrypt` is a parameter, as are the random numbers. -/

namespace FreeIpmi.Rmcpplus
open Fiid Calls Lan

/-! ### Templates -/

/-- `tmpl_rmcpplus_open_session_request`. -/
def tmplRmcpplusOpenSessionRequest : FiidTemplate where
  fields :=
    [⟨8, "message_tag", requiredFixed, .refl true⟩,
     ⟨4, "requested_maximum_privilege_level", requiredFixed, .refl true⟩,
     ⟨4, "reserved1", requiredFixed, .refl true⟩,
     ⟨16, "reserved2", requiredFixed, .refl true⟩,
     ⟨32, "remote_console_session_id", requiredFixed, .refl true⟩,
     ⟨8, "authentication_payload.payload_type", requiredFixed, .refl true⟩,
     ⟨16, "reserved3", requiredFixed, .refl true⟩,
     ⟨8, "authentication_payload.payload_length", requiredFixed, .refl true⟩,
     ⟨6, "authentication_payload.authentication_algorithm", requiredFixed, .refl true⟩,
     ⟨2, "reserved4", requiredFixed, .refl true⟩,
     ⟨24, "reserved5", requiredFixed, .refl true⟩,
     ⟨8, "integrity_payload.payload_type", requiredFixed, .refl true⟩,
     ⟨16, "reserved6", requiredFixed, .refl true⟩,
     ⟨8, "integrity_payload.payload_length", requiredFixed, .refl true⟩,
     ⟨6, "integrity_payload.integrity_algorithm", requiredFixed, .refl true⟩,
     ⟨2, "reserved7", requiredFixed, .refl true⟩,
     ⟨24, "reserved8", requiredFixed, .refl true⟩,
     ⟨8, "confidentiality_payload.payload_type", requiredFixed, .refl true⟩,
     ⟨16, "reserved9", requiredFixed, .refl true⟩,
     ⟨8, "confidentiality_payload.payload_length", requiredFixed, .refl true⟩,
     ⟨6, "confidentiality_payload.confidentiality_algorithm", requiredFixed, .refl true⟩,
     ⟨2, "reserved10", requiredFixed, .refl true⟩,
     ⟨24, "reserved11", requiredFixed, .refl true⟩]

/-- `tmpl_rmcpplus_rakp_message_1`. -/
def tmplRmcpplusRakpMessage1 : FiidTemplate where
  fields :=
    [⟨8, "message_tag", requiredFixed, .refl true⟩,
     ⟨24, "reserved1", requiredFixed, .refl true⟩,
     ⟨32, "managed_system_session_id", requiredFixed, .refl true⟩,
     ⟨128, "remote_console_random_number", requiredFixed, .refl true⟩,
     ⟨4, "requested_maximum_privilege_level", requiredFixed, .refl true⟩,
     ⟨1, "name_only_lookup", requiredFixed, .refl true⟩,
     ⟨3, "reserved2", requiredFixed, .refl true⟩,
     ⟨16, "reserved3", requiredFixed, .refl true⟩,
     ⟨8, "user_name_length", requiredFixed, .refl true⟩,
     ⟨128, "user_name", optionalVariable, .refl true⟩]

/-- `tmpl_rmcpplus_rakp_message_3`. -/
def tmplRmcpplusRakpMessage3 : FiidTemplate where
  fields :=
    [⟨8, "message_tag", requiredFixed, .refl true⟩,
     ⟨8, "rmcpplus_status_code", requiredFixed, .refl true⟩,
     ⟨16, "reserved1", requiredFixed, .refl true⟩,
     ⟨32, "managed_system_session_id", requiredFixed, .refl true⟩,
     ⟨512, "key_exchange_authentication_code", optionalVariable, .refl true⟩]

/-- `tmpl_sol_payload_data_remote_console_to_bmc`. -/
def tmplSolPayloadDataRemoteConsoleToBmc : FiidTemplate where
  fields :=
    [⟨4, "packet_sequence_number", requiredFixed, .refl true⟩,
     ⟨4, "reserved1", requiredFixed, .refl true⟩,
     ⟨4, "packet_ack_nack_sequence_number", requiredFixed, .refl true⟩,
     ⟨4, "reserved2", requiredFixed, .refl true⟩,
     ⟨8, "accepted_character_count", requiredFixed, .refl true⟩,
     ⟨1, "flush_outbound", requiredFixed, .refl true⟩,
     ⟨1, "flush_inbound", requiredFixed, .refl true⟩,
     ⟨1, "drop_dcd_dsr", requiredFixed, .refl true⟩,
     ⟨1, "cts_pause", requiredFixed, .refl true⟩,
     ⟨1, "generate_break", requiredFixed, .refl true⟩,
     ⟨1, "ring_wor", requiredFixed, .refl true⟩,
     ⟨1, "nack", requiredFixed, .refl true⟩,
     ⟨1, "reserved3", requiredFixed, .refl true⟩,
     ⟨524288, "character_data", optionalVariable, .refl true⟩]

/-! ### Requests -/

/-- The objects of a request. -/
structure RmcpplusRequest where
  rmcpHdr : FiidObj
  sessionHdr : FiidObj
  lanMsgHdr : Option FiidObj
  cmd : FiidObj
  sessionTrlr : Option FiidObj

/-- The keys of a request, and the password; a NULL key is `none`. -/
structure RequestKeys where
  integrity : List Byte
  confidentiality : Option (List Byte)
  authenticationCodeData : List Byte

/-- The encryption of `libgcrypt` (key, initialization vector, data), and what `ipmi_get_random`
    yields, if it does. -/
structure Cipher where
  aesCbc128Encrypt : List Byte → List Byte → List Byte → List Byte
  random : Option (List.Vector Byte 16)

/-- The session header of a request as it is read back from its object. -/
structure RequestHdr where
  payloadType : Byte
  payloadAuthenticated : Bool
  payloadEncrypted : Bool
  sessionId : BitVec 32
  sessionSequenceNumber : BitVec 32
  deriving DecidableEq

def requestHdrOf (objRmcpplusSessionHdr : FiidObj) : Except Stop RequestHdr := do
  let payloadType ← payloadTypeOf objRmcpplusSessionHdr
  let payloadAuthenticated ← fiidObjGetStrict objRmcpplusSessionHdr "payload_type.authenticated"
  let payloadEncrypted ← fiidObjGetStrict objRmcpplusSessionHdr "payload_type.encrypted"
  let sessionId ← fiidObjGetStrict objRmcpplusSessionHdr "session_id"
  let sessionSequenceNumber ← fiidObjGetStrict objRmcpplusSessionHdr "session_sequence_number"
  return { payloadType := payloadType
           payloadAuthenticated := payloadAuthenticated ≠ 0
           payloadEncrypted := payloadEncrypted ≠ 0
           sessionId := sessionId.setWidth 32
           sessionSequenceNumber := sessionSequenceNumber.setWidth 32 }

/-- The payload types of requests. -/
def payloadTypeRequest (payloadType : Byte) : Bool :=
  payloadType == ipmiPayloadTypeIpmi
    || payloadType == ipmiPayloadTypeSol
    || payloadType == ipmiPayloadTypeRmcpplusOpenSessionRequest
    || payloadType == ipmiPayloadTypeRakpMessage1
    || payloadType == ipmiPayloadTypeRakpMessage3

/-- The integrity algorithms that compute a code. -/
def integrityAlgorithmKeyed (integrityAlgorithm : Byte) : Bool :=
  integrityAlgorithm == ipmiIntegrityAlgorithmHmacSha196
    || integrityAlgorithm == ipmiIntegrityAlgorithmHmacMd5128
    || integrityAlgorithm == ipmiIntegrityAlgorithmMd5128
    || integrityAlgorithm == ipmiIntegrityAlgorithmHmacSha256128

/-- The headers that are not those of a request. -/
def RequestHdr.rejected (h : RequestHdr) (algorithms : Algorithms) : Bool :=
  !payloadTypeRequest h.payloadType
    || (ipmiPayloadTypeSessionSetup h.payloadType
      && (h.payloadAuthenticated || h.payloadEncrypted || h.sessionId != 0
        || h.sessionSequenceNumber != 0))
    || (h.sessionId != 0 && !h.payloadAuthenticated
      && algorithms.integrity != ipmiIntegrityAlgorithmNone)
    || (h.sessionId != 0 && h.payloadAuthenticated && !integrityAlgorithmKeyed algorithms.integrity)
    || (algorithms.confidentiality == ipmiConfidentialityAlgorithmNone && h.payloadEncrypted)

/-- The packet gets a trailer with an authentication code. -/
def RequestHdr.hasTrlr (h : RequestHdr) : Bool := h.sessionId != 0 && h.payloadAuthenticated

/-- The checks of the objects that only some payload types use. -/
def RmcpplusRequest.checkPayload (objs : RmcpplusRequest) (payloadType : Byte) :
    Except Stop Unit :=
  if payloadType = ipmiPayloadTypeIpmi then
    match objs.lanMsgHdr with
    | none => .error (.errno .einval)
    | some objLanMsgHdr => do
      fiidObjTemplateCompareStrict objLanMsgHdr tmplLanMsgHdrRq
      fiidObjPacketValidStrict objLanMsgHdr
  else if payloadType = ipmiPayloadTypeSol then
    compareEither objs.cmd tmplSolPayloadData tmplSolPayloadDataRemoteConsoleToBmc
  else if payloadType = ipmiPayloadTypeRmcpplusOpenSessionRequest then
    fiidObjTemplateCompareStrict objs.cmd tmplRmcpplusOpenSessionRequest
  else if payloadType = ipmiPayloadTypeRakpMessage1 then
    fiidObjTemplateCompareStrict objs.cmd tmplRmcpplusRakpMessage1
  else if payloadType = ipmiPayloadTypeRakpMessage3 then
    fiidObjTemplateCompareStrict objs.cmd tmplRmcpplusRakpMessage3
  else .ok ()

def RmcpplusRequest.checkTrlr (objs : RmcpplusRequest) (h : RequestHdr) : Except Stop Unit :=
  if h.hasTrlr then
    match objs.sessionTrlr with
    | none => .error (.errno .einval)
    | some objTrlr => fiidObjTemplateCompareStrict objTrlr tmplRmcpplusSessionTrlr
  else .ok ()

/-- OEM payloads are not supported. -/
def RmcpplusRequest.checkOem (objs : RmcpplusRequest) : Except Stop Unit := do
  let oemIanaLen ← fiidObjFieldLen objs.sessionHdr "oem_iana"
  let oemPayloadIdLen ← fiidObjFieldLen objs.sessionHdr "oem_payload_id"
  if oemIanaLen ≠ 0 ∨ oemPayloadIdLen ≠ 0 then .error (.errno .einval) else return ()

/-- The parameter checks of `assemble_ipmi_rmcpplus_pkt`, up to where it starts to write. -/
def checkRequest (algorithms : Algorithms) (keys : RequestKeys) (objs : RmcpplusRequest)
    (pktLen : ℕ) (flags : BitVec 32) : Except Stop RequestHdr := do
  if !ipmiAuthenticationAlgorithmSupported algorithms.authentication
      ∨ !ipmiIntegrityAlgorithmSupported algorithms.integrity
      ∨ (algorithms.integrity = ipmiIntegrityAlgorithmMd5128
        ∧ keys.authenticationCodeData.length > ipmi20MaxPasswordLength)
      ∨ !ipmiConfidentialityAlgorithmSupported algorithms.confidentiality
      ∨ (algorithms.confidentiality = ipmiConfidentialityAlgorithmAesCbc128
        ∧ (keys.confidentiality.getD []).length = 0)
      ∨ pktLen = 0 ∨ flags &&& ~~~ 0 ≠ 0 then .error (.errno .einval)
  else
    fiidObjTemplateCompareStrict objs.rmcpHdr tmplRmcpHdr
    fiidObjTemplateCompareStrict objs.sessionHdr tmplRmcpplusSessionHdr
    fiidObjPacketValidStrict objs.rmcpHdr
    fiidObjPacketValidStrict objs.cmd
    let h ← requestHdrOf objs.sessionHdr
    if h.rejected algorithms then .error (.errno .einval)
    else
      objs.checkPayload h.payloadType
      objs.checkTrlr h
      objs.checkOem
      return h

/-! ### The payload -/

/-- `assert`. -/
def assertThat (p : Bool) : Except Stop Unit := if p then .ok () else .error .assertion

/-- `fiid_obj_template_compare` returns 1. -/
def templateIs (obj : FiidObj) (tmpl : FiidTemplate) : Bool :=
  (fiidObjTemplateCompareStrict obj tmpl).isOk

/-- `fiid_obj_template_compare` does not return `-1`. -/
def templateComparable (obj : FiidObj) (tmpl : FiidTemplate) : Bool :=
  (fiidObjTemplateCompare obj tmpl).isOk

/-- The command is one of SOL. -/
def solTemplate (objCmd : FiidObj) : Bool :=
  templateIs objCmd tmplSolPayloadData || templateIs objCmd tmplSolPayloadDataRemoteConsoleToBmc

/-- The checks of a payload's length. -/
def payloadFits (payloadLen payloadBufLen : ℕ) : Except Stop Unit :=
  if payloadLen > ipmiMaxPayloadLength then .error (.errno .einval)
  else if payloadLen > payloadBufLen then .error (.errno .enospc)
  else .ok ()

/-- `_construct_payload_buf` for an IPMI message: header, command, checksum. -/
def constructMsg (ndebug : Bool) (objLanMsgHdr objCmd : FiidObj) (payloadBufLen : ℕ) :
    Except Stop (List Byte × ℕ) := do
  let objLanMsgHdrLen ← fiidObjLenBytes objLanMsgHdr
  let objLanMsgTrlrLen ← orTemplateInvalid (fiidTemplateLenBytes tmplLanMsgTrlr)
  let objCmdLen ← fiidObjLenBytes objCmd
  payloadFits (objLanMsgHdrLen + objCmdLen + objLanMsgTrlrLen) payloadBufLen
  let (payloadBuf, indx) ← putAll (List.replicate payloadBufLen 0) 0 objLanMsgHdr
  let (payloadBuf, indx) ← putAll payloadBuf indx objCmd
  match fiidObjCreate ndebug tmplLanMsgTrlr with
  | none => .error (.errno .einval)
  | some objLanMsgTrlr =>
    let checksumStartOffset ← orTemplateInvalid (fiidTemplateFieldEndBytes tmplLanMsgHdrRq "checksum1")
    let checksum := ipmiChecksum ((payloadBuf.drop checksumStartOffset).take
      (indx - checksumStartOffset))
    match fiidObjSetAll objLanMsgTrlr [checksum] with
    | (.error e, _) => .error e
    | (.ok _, objLanMsgTrlr) => putAll payloadBuf indx objLanMsgTrlr

/-- `_construct_payload_buf` for SOL: the command only. -/
def constructSol (objCmd : FiidObj) (payloadBufLen : ℕ) : Except Stop (List Byte × ℕ) := do
  let objCmdLen ← fiidObjLenBytes objCmd
  payloadFits objCmdLen payloadBufLen
  putAll (List.replicate payloadBufLen 0) 0 objCmd

section Payload
variable (ndebug : Bool) (cipher : Cipher) (algorithms : Algorithms)
  (confidentialityKey : Option (List Byte)) (payloadType : Byte) (payloadEncrypted : Bool)
  (objLanMsgHdr : Option FiidObj) (objCmd : FiidObj)

/-- `_construct_payload_buf`: the buffer, and how many bytes of it are used. -/
def constructPayloadBuf (payloadBufLen : ℕ) : Except Stop (List Byte × ℕ) := do
  assertThat ((payloadType == ipmiPayloadTypeIpmi || payloadType == ipmiPayloadTypeSol)
    && !(payloadType == ipmiPayloadTypeIpmi
      && !objLanMsgHdr.any fun obj => templateIs obj tmplLanMsgHdrRq && fiidObjPacketValid obj)
    && !(payloadType == ipmiPayloadTypeSol && !solTemplate objCmd)
    && payloadBufLen != 0)
  match payloadType == ipmiPayloadTypeIpmi, objLanMsgHdr with
  | true, some objLanMsgHdr => constructMsg ndebug objLanMsgHdr objCmd payloadBufLen
  | _, _ => constructSol objCmd payloadBufLen

/-- What both `_construct_payload_confidentiality_none` and `_aes_cbc_128` assert. -/
def payloadAsserts (objRmcpplusPayload : FiidObj) : Bool :=
  (payloadType == ipmiPayloadTypeIpmi || payloadType == ipmiPayloadTypeSol)
    && !(payloadType == ipmiPayloadTypeIpmi && objLanMsgHdr.isNone)
    && !(payloadType == ipmiPayloadTypeSol && !solTemplate objCmd)
    && templateIs objRmcpplusPayload tmplRmcpplusPayload

/-- `_construct_payload_confidentiality_none`: the object, and the length of the payload. -/
def constructPayloadConfidentialityNone (objRmcpplusPayload : FiidObj) :
    Except Stop (FiidObj × ℕ) := do
  assertThat (payloadAsserts payloadType objLanMsgHdr objCmd objRmcpplusPayload)
  let (payloadBuf, payloadLen) ← constructPayloadBuf ndebug payloadType objLanMsgHdr objCmd
    ipmiMaxPayloadLength
  let (obj, _) ← fiidObjSetData objRmcpplusPayload "payload_data" (payloadBuf.take payloadLen)
  return (obj, payloadLen)

/-- The bytes of padding that fill up the last block behind the payload and the pad length. -/
def confidentialityPadLen (payloadLen : ℕ) : ℕ :=
  let padTmp := (payloadLen + 1) % ipmiCryptAesCbc128BlockLength
  if padTmp ≠ 0 then ipmiCryptAesCbc128BlockLength - padTmp else 0

/-- The padding 1, 2, ..., and its length. -/
def confidentialityPad (padLen : ℕ) : List Byte :=
  (List.range padLen).map (fun i => BitVec.ofNat 8 (i + 1)) ++ [BitVec.ofNat 8 padLen]

/-- The three fields of an encrypted payload. -/
def setEncrypted (objRmcpplusPayload : FiidObj) (iv encrypted : List Byte) (payloadLen : ℕ) :
    Except Stop FiidObj := do
  let (obj, _) ← fiidObjSetData objRmcpplusPayload "confidentiality_header" iv
  let (obj, _) ← fiidObjSetData obj "payload_data" (encrypted.take payloadLen)
  let (obj, _) ← fiidObjSetData obj "confidentiality_trailer" (encrypted.drop payloadLen)
  return obj

/-- The payload is padded, encrypted and stored. -/
def encryptPayload (objRmcpplusPayload : FiidObj) (key iv payloadBuf : List Byte)
    (payloadLen : ℕ) : Except Stop (FiidObj × ℕ) := do
  let padLen := confidentialityPadLen payloadLen
  if payloadLen + padLen + 1 > ipmiMaxPayloadLength then .error (.errno .enospc)
  else
    let data := (splice payloadBuf payloadLen (confidentialityPad padLen)).take
      (payloadLen + padLen + 1)
    if data.length % ipmiCryptAesCbc128BlockLength ≠ 0 then .error (.errno .einval)
    else
      let encrypted := cipher.aesCbc128Encrypt (key.take ipmiCryptAesCbc128BlockLength) iv data
      if encrypted.length ≠ payloadLen + padLen + 1 then .error (.errno .einval)
      else
        let obj ← setEncrypted objRmcpplusPayload iv encrypted payloadLen
        return (obj, iv.length + payloadLen + padLen + 1)

/-- `_construct_payload_confidentiality_aes_cbc_128`. That the key and the block of the cipher are 16
    bytes long is asserted of `libgcrypt` only. -/
def constructPayloadConfidentialityAesCbc128 (objRmcpplusPayload : FiidObj) :
    Except Stop (FiidObj × ℕ) := do
  assertThat (payloadAsserts payloadType objLanMsgHdr objCmd objRmcpplusPayload && payloadEncrypted
    && fiidObjPacketValid objCmd && (confidentialityKey.getD []).length != 0)
  if (confidentialityKey.getD []).length < ipmiCryptAesCbc128BlockLength then
    .error (.errno .einval)
  else
    match cipher.random with
    | none => .error (.errno .einval)
    | some iv =>
      let (payloadBuf, payloadLen) ← constructPayloadBuf ndebug payloadType objLanMsgHdr objCmd
        ipmiMaxPayloadLength
      encryptPayload cipher objRmcpplusPayload (confidentialityKey.getD []) iv.toList payloadBuf
        payloadLen

/-- `_construct_payload_rakp`. A command of another template would pass these assertions. -/
def constructPayloadRakp (objRmcpplusPayload : FiidObj) : Except Stop (FiidObj × ℕ) := do
  assertThat ((payloadType == ipmiPayloadTypeRmcpplusOpenSessionRequest
      || payloadType == ipmiPayloadTypeRakpMessage1
      || payloadType == ipmiPayloadTypeRakpMessage3)
    && !(payloadType == ipmiPayloadTypeRmcpplusOpenSessionRequest
      && !templateComparable objCmd tmplRmcpplusOpenSessionRequest)
    && !(payloadType == ipmiPayloadTypeRakpMessage1
      && !templateComparable objCmd tmplRmcpplusRakpMessage1)
    && !(payloadType == ipmiPayloadTypeRakpMessage3
      && !templateComparable objCmd tmplRmcpplusRakpMessage3)
    && templateIs objRmcpplusPayload tmplRmcpplusPayload
    && fiidObjPacketValid objCmd)
  let (len, objCmdBuf) ← fiidObjGetAll objCmd ipmiMaxPayloadLength
  let (obj, _) ← fiidObjSetData objRmcpplusPayload "payload_data" (objCmdBuf.take len)
  return (obj, len)

/-- `_construct_payload`. The message header is asserted to be one for every payload type. -/
def constructPayload (objRmcpplusPayload : FiidObj) : Except Stop (FiidObj × ℕ) := do
  assertThat (payloadTypeRequest payloadType
    && ipmiAuthenticationAlgorithmSupported algorithms.authentication
    && ipmiConfidentialityAlgorithmSupported algorithms.confidentiality
    && !(payloadType == ipmiPayloadTypeIpmi && objLanMsgHdr.isNone)
    && (objLanMsgHdr.any fun obj => templateIs obj tmplLanMsgHdrRq)
    && templateIs objRmcpplusPayload tmplRmcpplusPayload)
  if payloadType = ipmiPayloadTypeIpmi ∨ payloadType = ipmiPayloadTypeSol then
    if algorithms.confidentiality = ipmiConfidentialityAlgorithmNone then
      constructPayloadConfidentialityNone ndebug payloadType objLanMsgHdr objCmd objRmcpplusPayload
    else
      constructPayloadConfidentialityAesCbc128 ndebug cipher confidentialityKey payloadType
        payloadEncrypted objLanMsgHdr objCmd objRmcpplusPayload
  else constructPayloadRakp payloadType objCmd objRmcpplusPayload

end Payload

/-! ### The trailer -/

/-- The padding up to a multiple of four bytes. -/
def integrityPadLen (ipmiMsgLen : ℕ) : ℕ :=
  if ipmiMsgLen % ipmiIntegrityPadMultiple ≠ 0 then
    ipmiIntegrityPadMultiple - ipmiMsgLen % ipmiIntegrityPadMultiple
  else 0

/-- Without padding the field keeps what the caller has put there. -/
def setIntegrityPad (obj : FiidObj) (padLength : ℕ) : Except Stop FiidObj :=
  if padLength ≠ 0 then do
    let (obj, _) ← fiidObjSetData obj "integrity_pad" (List.replicate padLength ipmiIntegrityPadData)
    return obj
  else .ok obj

/-- `_construct_session_trlr_pad`. -/
def constructSessionTrlrPad (integrityAlgorithm : Byte) (ipmiMsgLen : ℕ)
    (objRmcpplusSessionTrlr : FiidObj) : Except Stop FiidObj := do
  assertThat (ipmiIntegrityAlgorithmSupported integrityAlgorithm
    && templateIs objRmcpplusSessionTrlr tmplRmcpplusSessionTrlr)
  let padLengthFieldLen ← orTemplateInvalid
    (fiidTemplateFieldLenBytes tmplRmcpplusSessionTrlr "pad_length")
  let nextHeaderFieldLen ← orTemplateInvalid
    (fiidTemplateFieldLenBytes tmplRmcpplusSessionTrlr "next_header")
  let padLength := integrityPadLen (ipmiMsgLen + padLengthFieldLen + nextHeaderFieldLen)
  let obj ← setIntegrityPad objRmcpplusSessionTrlr padLength
  fiidObjSet obj "pad_length" (BitVec.ofNat 64 padLength)

/-- What is hashed: the packet behind its RMCP header, and for the plain digest the password in front
    of it and behind it. -/
def requestHashData (integrityAlgorithm : Byte) (authenticationCodeData pktData : List Byte) :
    List Byte :=
  if integrityAlgorithm = ipmiIntegrityAlgorithmMd5128 then
    let pwbuf := splice (List.replicate ipmi20MaxPasswordLength 0) 0 authenticationCodeData
    pwbuf ++ pktData ++ pwbuf
  else pktData

/-- The code is cut from a digest. The buffer for the data takes `IPMI_MAX_PAYLOAD_LENGTH` bytes. -/
def digestCode (crypto : Crypto) (integrityAlgorithm : Byte) (integrityKey hashData : List Byte)
    (authenticationCodeBufLen : ℕ) : Except Stop (List Byte) := do
  assertThat (ipmiIntegrityAlgorithmSupported integrityAlgorithm)
  if hashData.length > ipmiMaxPayloadLength then .error .undefined
  else
    let digest := integrityDigest crypto integrityAlgorithm integrityKey hashData
    if digest.length > authenticationCodeBufLen then .error (.errno .enospc)
    else return digest.take (authenticationCodeLen integrityAlgorithm)

/-- `_construct_session_trlr_authentication_code`: the code that the caller has put into the trailer,
    or else a computed one. That the digests have their lengths is asserted of `libgcrypt` only. -/
def constructSessionTrlrAuthenticationCode (crypto : Crypto) (integrityAlgorithm : Byte)
    (integrityKey authenticationCodeData : List Byte) (objRmcpplusSessionTrlr : FiidObj)
    (pktData : List Byte) (authenticationCodeBufLen : ℕ) : Except Stop (List Byte) := do
  assertThat (integrityAlgorithmKeyed integrityAlgorithm
    && !(integrityAlgorithm == ipmiIntegrityAlgorithmMd5128
      && decide (authenticationCodeData.length > ipmi20MaxPasswordLength))
    && pktData.length != 0 && authenticationCodeBufLen != 0)
  fiidObjTemplateCompareStrict objRmcpplusSessionTrlr tmplRmcpplusSessionTrlr
  let len ← fiidObjFieldLenBytes objRmcpplusSessionTrlr "authentication_code"
  if len ≠ 0 then
    fiidObjGetData objRmcpplusSessionTrlr "authentication_code" authenticationCodeBufLen
  else
    digestCode crypto integrityAlgorithm integrityKey
      (requestHashData integrityAlgorithm authenticationCodeData pktData) authenticationCodeBufLen

/-! ### The packet -/

/-- A whole object behind what is written, if the buffer has room for it. -/
def putAllIfRoom (pkt : List Byte) (indx : ℕ) (obj : FiidObj) : Except Stop (List Byte × ℕ) := do
  let len ← fiidObjLenBytes obj
  if len > pkt.length - indx then .error (.errno .enospc) else putAll pkt indx obj

/-- A block of an object, likewise. -/
def putBlockIfRoom (pkt : List Byte) (indx : ℕ) (obj : FiidObj) (fieldStart fieldEnd : String) :
    Except Stop (List Byte × ℕ) := do
  let len ← fiidObjBlockLenBytes obj fieldStart fieldEnd
  if len > pkt.length - indx then .error (.errno .enospc)
  else putBlock pkt indx obj fieldStart fieldEnd

/-- The length of the payload, in a session header that holds nothing else. -/
def putPayloadLen (ndebug : Bool) (pkt : List Byte) (indx payloadLen : ℕ) :
    Except Stop (List Byte × ℕ) :=
  match fiidObjCreate ndebug tmplRmcpplusSessionHdr with
  | none => .error (.errno .einval)
  | some objSessionHdrTemp => do
    let obj ← fiidObjSet (fiidObjClear objSessionHdrTemp) "ipmi_payload_len"
      (BitVec.ofNat 64 payloadLen)
    putAllIfRoom pkt indx obj

/-- The trailer of an authenticated packet; its code is over everything behind the RMCP header. -/
def putTrlr (crypto : Crypto) (algorithms : Algorithms) (keys : RequestKeys) (objRmcpHdrLen : ℕ)
    (objTrlr : FiidObj) (pkt : List Byte) (indx : ℕ) : Except Stop (List Byte × ℕ) := do
  let objTrlr ← constructSessionTrlrPad algorithms.integrity (indx - objRmcpHdrLen)
    (fiidObjDup objTrlr)
  let (pkt, indx) ← putBlockIfRoom pkt indx objTrlr "integrity_pad" "next_header"
  let code ← constructSessionTrlrAuthenticationCode crypto algorithms.integrity keys.integrity
    keys.authenticationCodeData objTrlr ((pkt.drop objRmcpHdrLen).take (indx - objRmcpHdrLen))
    ipmiMaxPayloadLength
  if code.length > pkt.length - indx then .error (.errno .enospc)
  else return (splice pkt indx code, indx + code.length)

/-- The trailer, if the packet gets one. -/
def RmcpplusRequest.putTrlr (objs : RmcpplusRequest) (crypto : Crypto) (algorithms : Algorithms)
    (keys : RequestKeys) (h : RequestHdr) (objRmcpHdrLen : ℕ) (pkt : List Byte) (indx : ℕ) :
    Except Stop (List Byte × ℕ) :=
  if h.hasTrlr then
    match objs.sessionTrlr with
    | none => .error (.errno .einval)
    | some objTrlr => Rmcpplus.putTrlr crypto algorithms keys objRmcpHdrLen objTrlr pkt indx
  else .ok (pkt, indx)

/-- The payload with its length in front of it. -/
def putPayload (ndebug : Bool) (cipher : Cipher) (algorithms : Algorithms) (keys : RequestKeys)
    (h : RequestHdr) (objs : RmcpplusRequest) (pkt : List Byte) (indx : ℕ) :
    Except Stop (List Byte × ℕ) :=
  match fiidObjCreate ndebug tmplRmcpplusPayload with
  | none => .error (.errno .einval)
  | some objRmcpplusPayload => do
    let (objRmcpplusPayload, payloadLen) ← constructPayload ndebug cipher algorithms
      keys.confidentiality h.payloadType h.payloadEncrypted objs.lanMsgHdr objs.cmd objRmcpplusPayload
    let (pkt, indx) ← putPayloadLen ndebug pkt indx payloadLen
    putAllIfRoom pkt indx objRmcpplusPayload

/-- `assemble_ipmi_rmcpplus_pkt` into a buffer of `pktLen` bytes: the length of the packet, and the
    buffer. -/
def assembleIpmiRmcpplusPkt (ndebug : Bool) (crypto : Crypto) (cipher : Cipher)
    (algorithms : Algorithms) (keys : RequestKeys) (objs : RmcpplusRequest) (pktLen : ℕ)
    (flags : BitVec 32) : Except Stop (ℕ × List Byte) := do
  let h ← checkRequest algorithms keys objs pktLen flags
  let (pkt, objRmcpHdrLen) ← putAllIfRoom (List.replicate pktLen 0) 0 objs.rmcpHdr
  let (pkt, indx) ← putBlockIfRoom pkt objRmcpHdrLen objs.sessionHdr "authentication_type"
    "session_sequence_number"
  let (pkt, indx) ← putPayload ndebug cipher algorithms keys h objs pkt indx
  let (pkt, indx) ← objs.putTrlr crypto algorithms keys h objRmcpHdrLen pkt indx
  if indx > intMax then .error (.errno .emsgsize) else return (indx, pkt)

end FreeIpmi.Rmcpplus
