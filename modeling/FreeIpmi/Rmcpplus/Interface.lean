import FreeIpmi.Lan.Interface

/-! RMCP+ packets (`interface/ipmi-rmcpplus-interface.c`): the templates of the headers and of the
    session setup messages, and the parsing of a response.

    `unassemble_ipmi_rmcpplus_pkt` fills the objects from the front of the packet, and the trailer of
    an authenticated packet from its end. A NULL key is `none`. The decryption of `libgcrypt` is a
    parameter, as are the digests. -/

namespace FreeIpmi.Rmcpplus
open Fiid Calls Stages Lan

/-! ### Templates -/

def optionalVariable : BitVec 32 := fiidFieldOptional ||| fiidFieldLengthVariable
def requiredVariable : BitVec 32 := fiidFieldRequired ||| fiidFieldLengthVariable
def sufficientFixed : BitVec 32 := requiredFixed ||| fiidFieldMakesPacketSufficient

/-- `tmpl_rmcpplus_session_hdr`. -/
def tmplRmcpplusSessionHdr : FiidTemplate where
  fields :=
    [⟨4, "authentication_type", requiredFixed, .refl true⟩,
     ⟨4, "reserved1", requiredFixed, .refl true⟩,
     ⟨6, "payload_type", requiredFixed, .refl true⟩,
     ⟨1, "payload_type.authenticated", requiredFixed, .refl true⟩,
     ⟨1, "payload_type.encrypted", requiredFixed, .refl true⟩,
     ⟨24, "oem_iana", optionalFixed, .refl true⟩,
     ⟨8, "reserved2", optionalFixed, .refl true⟩,
     ⟨16, "oem_payload_id", optionalFixed, .refl true⟩,
     ⟨32, "session_id", requiredFixed, .refl true⟩,
     ⟨32, "session_sequence_number", requiredFixed, .refl true⟩,
     ⟨16, "ipmi_payload_len", requiredFixed, .refl true⟩]

/-- `tmpl_rmcpplus_session_trlr`. -/
def tmplRmcpplusSessionTrlr : FiidTemplate where
  fields :=
    [⟨32, "integrity_pad", optionalVariable, .refl true⟩,
     ⟨8, "pad_length", requiredFixed, .refl true⟩,
     ⟨8, "next_header", requiredFixed, .refl true⟩,
     ⟨256, "authentication_code", optionalVariable, .refl true⟩]

/-- `tmpl_rmcpplus_payload`. -/
def tmplRmcpplusPayload : FiidTemplate where
  fields :=
    [⟨512, "confidentiality_header", optionalVariable, .refl true⟩,
     ⟨524288, "payload_data", requiredVariable, .refl true⟩,
     ⟨512, "confidentiality_trailer", optionalVariable, .refl true⟩]

/-- `tmpl_rmcpplus_open_session_response`. -/
def tmplRmcpplusOpenSessionResponse : FiidTemplate where
  fields :=
    [⟨8, "message_tag", sufficientFixed, .refl true⟩,
     ⟨8, "rmcpplus_status_code", sufficientFixed, .refl true⟩,
     ⟨4, "maximum_privilege_level", requiredFixed, .refl true⟩,
     ⟨4, "reserved1", requiredFixed, .refl true⟩,
     ⟨8, "reserved2", requiredFixed, .refl true⟩,
     ⟨32, "remote_console_session_id", requiredFixed, .refl true⟩,
     ⟨32, "managed_system_session_id", requiredFixed, .refl true⟩,
     ⟨8, "authentication_payload.payload_type", requiredFixed, .refl true⟩,
     ⟨16, "reserved3", requiredFixed, .refl true⟩,
     ⟨8, "authentication_payload.payload_length", requiredFixed, .refl true⟩,
     ⟨6, "authentication_payload.authentication_algorithm", requiredFixed, .refl true⟩,
     ⟨2, "reserved4", requiredFixed, .refl true⟩,
     ⟨24, "reserved5", requiredFixed, .refl true⟩,
     ⟨8, "integrity_payload.payload_type", requiredFixed, .refl true⟩,
     ⟨16, "reserved6", requiredFixed, .refl true⟩,
     ⟨8, "integrity_payload.payload_length", requiredFixed, .refl true⟩,
     ⟨6, "integrity_payload.integrity_algorithm", requiredFixed, .refl true⟩,
     ⟨2, "reserved7", requiredFixed, .refl true⟩,
     ⟨24, "reserved8", requiredFixed, .refl true⟩,
     ⟨8, "confidentiality_payload.payload_type", requiredFixed, .refl true⟩,
     ⟨16, "reserved9", requiredFixed, .refl true⟩,
     ⟨8, "confidentiality_payload.payload_length", requiredFixed, .refl true⟩,
     ⟨6, "confidentiality_payload.confidentiality_algorithm", requiredFixed, .refl true⟩,
     ⟨2, "reserved10", requiredFixed, .refl true⟩,
     ⟨24, "reserved11", requiredFixed, .refl true⟩]

/-- `tmpl_rmcpplus_rakp_message_2`. -/
def tmplRmcpplusRakpMessage2 : FiidTemplate where
  fields :=
    [⟨8, "message_tag", sufficientFixed, .refl true⟩,
     ⟨8, "rmcpplus_status_code", sufficientFixed, .refl true⟩,
     ⟨16, "reserved1", requiredFixed, .refl true⟩,
     ⟨32, "remote_console_session_id", requiredFixed, .refl true⟩,
     ⟨128, "managed_system_random_number", requiredFixed, .refl true⟩,
     ⟨128, "managed_system_guid", requiredFixed, .refl true⟩,
     ⟨512, "key_exchange_authentication_code", optionalVariable, .refl true⟩]

/-- `tmpl_rmcpplus_rakp_message_4`. -/
def tmplRmcpplusRakpMessage4 : FiidTemplate where
  fields :=
    [⟨8, "message_tag", sufficientFixed, .refl true⟩,
     ⟨8, "rmcpplus_status_code", sufficientFixed, .refl true⟩,
     ⟨16, "reserved1", requiredFixed, .refl true⟩,
     ⟨32, "remote_console_session_id", requiredFixed, .refl true⟩,
     ⟨512, "integrity_check_value", optionalVariable, .refl true⟩]

/-- `tmpl_sol_payload_data`. -/
def tmplSolPayloadData : FiidTemplate where
  fields :=
    [⟨4, "packet_sequence_number", requiredFixed, .refl true⟩,
     ⟨4, "reserved1", requiredFixed, .refl true⟩,
     ⟨4, "packet_ack_nack_sequence_number", requiredFixed, .refl true⟩,
     ⟨4, "reserved2", requiredFixed, .refl true⟩,
     ⟨8, "accepted_character_count", requiredFixed, .refl true⟩,
     ⟨8, "operation_status", requiredFixed, .refl true⟩,
     ⟨524288, "character_data", optionalVariable, .refl true⟩]

/-- `tmpl_sol_payload_data_bmc_to_remote_console`. -/
def tmplSolPayloadDataBmcToRemoteConsole : FiidTemplate where
  fields :=
    [⟨4, "packet_sequence_number", requiredFixed, .refl true⟩,
     ⟨4, "reserved1", requiredFixed, .refl true⟩,
     ⟨4, "packet_ack_nack_sequence_number", requiredFixed, .refl true⟩,
     ⟨4, "reserved2", requiredFixed, .refl true⟩,
     ⟨8, "accepted_character_count", requiredFixed, .refl true⟩,
     ⟨2, "reserved3", requiredFixed, .refl true⟩,
     ⟨1, "break_condition", requiredFixed, .refl true⟩,
     ⟨1, "transmit_overrun", requiredFixed, .refl true⟩,
     ⟨1, "sol_deactivating", requiredFixed, .refl true⟩,
     ⟨1, "character_transfer_unavailable", requiredFixed, .refl true⟩,
     ⟨1, "nack", requiredFixed, .refl true⟩,
     ⟨1, "reserved4", requiredFixed, .refl true⟩,
     ⟨524288, "character_data", optionalVariable, .refl true⟩]

/-! ### Constants -/

def ipmiAuthenticationTypeRmcpplus : Byte := 0x06

def ipmiPayloadTypeIpmi : Byte := 0x00
def ipmiPayloadTypeSol : Byte := 0x01
def ipmiPayloadTypeOemExplicit : Byte := 0x02
def ipmiPayloadTypeRmcpplusOpenSessionRequest : Byte := 0x10
def ipmiPayloadTypeRmcpplusOpenSessionResponse : Byte := 0x11
def ipmiPayloadTypeRakpMessage1 : Byte := 0x12
def ipmiPayloadTypeRakpMessage2 : Byte := 0x13
def ipmiPayloadTypeRakpMessage3 : Byte := 0x14
def ipmiPayloadTypeRakpMessage4 : Byte := 0x15

/-- `IPMI_PAYLOAD_TYPE_SESSION_SETUP`. -/
def ipmiPayloadTypeSessionSetup (payloadType : Byte) : Bool :=
  payloadType == ipmiPayloadTypeRmcpplusOpenSessionRequest
    || payloadType == ipmiPayloadTypeRmcpplusOpenSessionResponse
    || payloadType == ipmiPayloadTypeRakpMessage1
    || payloadType == ipmiPayloadTypeRakpMessage2
    || payloadType == ipmiPayloadTypeRakpMessage3
    || payloadType == ipmiPayloadTypeRakpMessage4

/-- `IPMI_PAYLOAD_TYPE_VALID`. -/
def ipmiPayloadTypeValid (payloadType : Byte) : Bool :=
  payloadType == ipmiPayloadTypeIpmi
    || payloadType == ipmiPayloadTypeSol
    || payloadType == ipmiPayloadTypeOemExplicit
    || ipmiPayloadTypeSessionSetup payloadType

def ipmiAuthenticationAlgorithmRakpNone : Byte := 0x00
def ipmiAuthenticationAlgorithmRakpHmacSha1 : Byte := 0x01
def ipmiAuthenticationAlgorithmRakpHmacMd5 : Byte := 0x02
def ipmiAuthenticationAlgorithmRakpHmacSha256 : Byte := 0x03

/-- `IPMI_AUTHENTICATION_ALGORITHM_SUPPORTED`. -/
def ipmiAuthenticationAlgorithmSupported (algorithm : Byte) : Bool :=
  algorithm == ipmiAuthenticationAlgorithmRakpNone
    || algorithm == ipmiAuthenticationAlgorithmRakpHmacSha1
    || algorithm == ipmiAuthenticationAlgorithmRakpHmacMd5
    || algorithm == ipmiAuthenticationAlgorithmRakpHmacSha256

def ipmiIntegrityAlgorithmNone : Byte := 0x00
def ipmiIntegrityAlgorithmHmacSha196 : Byte := 0x01
def ipmiIntegrityAlgorithmHmacMd5128 : Byte := 0x02
def ipmiIntegrityAlgorithmMd5128 : Byte := 0x03
def ipmiIntegrityAlgorithmHmacSha256128 : Byte := 0x04

/-- `IPMI_INTEGRITY_ALGORITHM_SUPPORTED`. -/
def ipmiIntegrityAlgorithmSupported (algorithm : Byte) : Bool :=
  algorithm == ipmiIntegrityAlgorithmNone
    || algorithm == ipmiIntegrityAlgorithmHmacSha196
    || algorithm == ipmiIntegrityAlgorithmHmacMd5128
    || algorithm == ipmiIntegrityAlgorithmMd5128
    || algorithm == ipmiIntegrityAlgorithmHmacSha256128

def ipmiConfidentialityAlgorithmNone : Byte := 0x00
def ipmiConfidentialityAlgorithmAesCbc128 : Byte := 0x01
def ipmiConfidentialityAlgorithmXrc4128 : Byte := 0x02
def ipmiConfidentialityAlgorithmXrc440 : Byte := 0x03

/-- `IPMI_CONFIDENTIALITY_ALGORITHM_SUPPORTED`. -/
def ipmiConfidentialityAlgorithmSupported (algorithm : Byte) : Bool :=
  algorithm == ipmiConfidentialityAlgorithmNone || algorithm == ipmiConfidentialityAlgorithmAesCbc128

/-- `IPMI_INTEGRITY_PAD_MULTIPLE`. -/
def ipmiIntegrityPadMultiple : ℕ := 4

/-- `IPMI_CRYPT_AES_CBC_128_BLOCK_LENGTH`, also the length of a key. -/
def ipmiCryptAesCbc128BlockLength : ℕ := 16

/-- The length of the authentication code in the trailer. -/
def authenticationCodeLen (integrityAlgorithm : Byte) : ℕ :=
  if integrityAlgorithm = ipmiIntegrityAlgorithmNone then 0
  else if integrityAlgorithm = ipmiIntegrityAlgorithmHmacSha196 then 12
  else 16

/-- The functions of `libgcrypt` that the library uses: the keyed digests, the plain one, and the
    decryption with a key and an initialization vector. -/
structure Crypto where
  hmacSha1 : List Byte → List Byte → List.Vector Byte 20
  hmacMd5 : List Byte → List Byte → List.Vector Byte 16
  hmacSha256 : List Byte → List Byte → List.Vector Byte 32
  md5 : List Byte → List.Vector Byte 16
  aesCbc128Decrypt : List Byte → List Byte → List Byte → List Byte

/-- The algorithms of a session. -/
structure Algorithms where
  authentication : Byte
  integrity : Byte
  confidentiality : Byte

/-! ### Parsing -/

/-- The objects of a response. -/
structure RmcpplusObjs where
  rmcpHdr : FiidObj
  sessionHdr : FiidObj
  payload : FiidObj
  lanMsgHdr : FiidObj
  cmd : FiidObj
  lanMsgTrlr : FiidObj
  sessionTrlr : FiidObj

/-- The walk through the packet: how far it has got, and the objects filled so far. -/
structure RmcpplusWalk where
  indx : ℕ
  objs : RmcpplusObjs

abbrev RmcpplusStage := Stage Stop RmcpplusWalk

/-- The session header as it is read back from its object. -/
structure SessionHdr where
  payloadType : Byte
  payloadAuthenticated : Bool
  payloadEncrypted : Bool
  sessionId : BitVec 32
  sessionSequenceNumber : BitVec 32
  ipmiPayloadLen : ℕ

def payloadTypeOf (objRmcpplusSessionHdr : FiidObj) : Except Stop Byte := do
  let val ← fiidObjGetStrict objRmcpplusSessionHdr "payload_type"
  return val.setWidth 8

def sessionHdrOf (objRmcpplusSessionHdr : FiidObj) : Except Stop SessionHdr := do
  let payloadType ← payloadTypeOf objRmcpplusSessionHdr
  let payloadAuthenticated ← fiidObjGetStrict objRmcpplusSessionHdr "payload_type.authenticated"
  let payloadEncrypted ← fiidObjGetStrict objRmcpplusSessionHdr "payload_type.encrypted"
  let sessionId ← fiidObjGetStrict objRmcpplusSessionHdr "session_id"
  let sessionSequenceNumber ← fiidObjGetStrict objRmcpplusSessionHdr "session_sequence_number"
  let ipmiPayloadLen ← fiidObjGetStrict objRmcpplusSessionHdr "ipmi_payload_len"
  return { payloadType := payloadType
           payloadAuthenticated := payloadAuthenticated ≠ 0
           payloadEncrypted := payloadEncrypted ≠ 0
           sessionId := sessionId.setWidth 32
           sessionSequenceNumber := sessionSequenceNumber.setWidth 32
           ipmiPayloadLen := (ipmiPayloadLen.setWidth 16).toNat }

/-- The headers for which the packet is malformed. -/
def SessionHdr.malformed (h : SessionHdr) (algorithms : Algorithms) : Bool :=
  (ipmiPayloadTypeSessionSetup h.payloadType
      && (h.payloadAuthenticated || h.payloadEncrypted || h.sessionId != 0
        || h.sessionSequenceNumber != 0))
    || (h.sessionId != 0 && !h.payloadAuthenticated
      && algorithms.integrity != ipmiIntegrityAlgorithmNone)
    || (h.sessionId != 0 && h.payloadAuthenticated
      && !(algorithms.integrity == ipmiIntegrityAlgorithmHmacSha196
        || algorithms.integrity == ipmiIntegrityAlgorithmHmacMd5128
        || algorithms.integrity == ipmiIntegrityAlgorithmMd5128
        || algorithms.integrity == ipmiIntegrityAlgorithmHmacSha256128))
    || (algorithms.confidentiality == ipmiConfidentialityAlgorithmNone && h.payloadEncrypted)
    || h.ipmiPayloadLen == 0

/-- The packet has a trailer with an authentication code. -/
def SessionHdr.hasTrlr (h : SessionHdr) : Bool := h.sessionId != 0 && h.payloadAuthenticated

section Stages
variable (crypto : Crypto) (algorithms : Algorithms) (confidentialityKey : Option (List Byte))
  (pkt : List Byte)

/-- `if (pkt_len <= indx)`: cannot parse packet. -/
def moreStage : RmcpplusStage := fun w =>
  if pkt.length ≤ w.indx then .error (.unparsed w) else .ok w

def rmcpHdrStage : RmcpplusStage := fun w => do
  let (obj, len) ← call (trySetAll w.objs.rmcpHdr (pkt.drop w.indx))
  return { indx := w.indx + len, objs := { w.objs with rmcpHdr := obj } }

def sessionHdrStage (fieldStart fieldEnd : String) : RmcpplusStage := fun w => do
  let (obj, len) ← call (trySetBlock w.objs.sessionHdr fieldStart fieldEnd (pkt.drop w.indx))
  return { indx := w.indx + len, objs := { w.objs with sessionHdr := obj } }

/-- Only responses can be parsed. -/
def payloadTypeStage : RmcpplusStage := fun w => do
  let payloadType ← call (payloadTypeOf w.objs.sessionHdr)
  if payloadType = ipmiPayloadTypeIpmi ∨ payloadType = ipmiPayloadTypeSol
      ∨ payloadType = ipmiPayloadTypeRmcpplusOpenSessionResponse
      ∨ payloadType = ipmiPayloadTypeRakpMessage2 ∨ payloadType = ipmiPayloadTypeRakpMessage4 then
    .ok w
  else .error (.unparsed w)

def malformedStage : RmcpplusStage := fun w => do
  let h ← call (sessionHdrOf w.objs.sessionHdr)
  if h.malformed algorithms then .error (.unparsed w) else .ok w

/-- One of two templates. -/
def compareEither (obj : FiidObj) (tmpl tmpl' : FiidTemplate) : Except Stop Unit :=
  match fiidObjTemplateCompareStrict obj tmpl with
  | .ok () => .ok ()
  | .error _ => fiidObjTemplateCompareStrict obj tmpl'

/-- The checks of the objects that only some payload types use. -/
def RmcpplusObjs.comparePayload (objs : RmcpplusObjs) (payloadType : Byte) : Except Stop Unit := do
  if payloadType = ipmiPayloadTypeIpmi then
    fiidObjTemplateCompareStrict objs.lanMsgHdr tmplLanMsgHdrRs
    fiidObjTemplateCompareStrict objs.lanMsgTrlr tmplLanMsgTrlr
  else if payloadType = ipmiPayloadTypeSol then
    compareEither objs.cmd tmplSolPayloadData tmplSolPayloadDataBmcToRemoteConsole
  else if payloadType = ipmiPayloadTypeRmcpplusOpenSessionResponse then
    fiidObjTemplateCompareStrict objs.cmd tmplRmcpplusOpenSessionResponse
  else if payloadType = ipmiPayloadTypeRakpMessage2 then
    fiidObjTemplateCompareStrict objs.cmd tmplRmcpplusRakpMessage2
  else if payloadType = ipmiPayloadTypeRakpMessage4 then
    fiidObjTemplateCompareStrict objs.cmd tmplRmcpplusRakpMessage4
  else return ()

/-- The objects that only some packets use, cleared. -/
def RmcpplusObjs.clearFor (objs : RmcpplusObjs) (h : SessionHdr) : RmcpplusObjs :=
  let objs := if h.payloadType = ipmiPayloadTypeIpmi then
      { objs with lanMsgHdr := fiidObjClear objs.lanMsgHdr, lanMsgTrlr := fiidObjClear objs.lanMsgTrlr }
    else objs
  if h.hasTrlr then { objs with sessionTrlr := fiidObjClear objs.sessionTrlr } else objs

def objsStage : RmcpplusStage := fun w => do
  let h ← call (sessionHdrOf w.objs.sessionHdr)
  call (w.objs.comparePayload h.payloadType)
  if h.hasTrlr then call (fiidObjTemplateCompareStrict w.objs.sessionTrlr tmplRmcpplusSessionTrlr)
  return { w with objs := w.objs.clearFor h }

/-- `_deconstruct_payload_buf` of an IPMI message. -/
def deconstructMsg (buf : List Byte) (objs : RmcpplusObjs) :
    Except (Exit Stop RmcpplusObjs) RmcpplusObjs := do
  let objLanMsgTrlrLen ← call (orTemplateInvalid (fiidTemplateLenBytes tmplLanMsgTrlr))
  let (obj, len) ← call (trySetAll objs.lanMsgHdr buf)
  let objs := { objs with lanMsgHdr := obj }
  if len ≥ buf.length then .error (.unparsed objs)
  else if buf.length - len ≤ objLanMsgTrlrLen then .error (.unparsed objs)
  else
    let objCmdLen := buf.length - len - objLanMsgTrlrLen
    let (obj, cmdLen) ← call (trySetAll objs.cmd ((buf.drop len).take objCmdLen))
    let objs := { objs with cmd := obj }
    let indx := len + cmdLen
    if indx ≥ buf.length then .error (.unparsed objs)
    else
      let (obj, _) ← call (trySetAll objs.lanMsgTrlr (buf.drop indx))
      return { objs with lanMsgTrlr := obj }

/-- `_deconstruct_payload_buf`. -/
def deconstructPayloadBuf (payloadType : Byte) (buf : List Byte) (objs : RmcpplusObjs) :
    Except (Exit Stop RmcpplusObjs) RmcpplusObjs := do
  if payloadType = ipmiPayloadTypeIpmi then deconstructMsg buf objs
  else
    let (obj, _) ← call (trySetAll objs.cmd buf)
    return { objs with cmd := obj }

/-- `fiid_obj_set_data` on a field of the payload. -/
def setPayload (field : String) (buf : List Byte) (objs : RmcpplusObjs) :
    Except (Exit Stop RmcpplusObjs) RmcpplusObjs := do
  let (obj, _) ← call (fiidObjSetData objs.payload field buf)
  return { objs with payload := obj }

/-- `_deconstruct_payload_confidentiality_none`. -/
def deconstructPayloadConfidentialityNone (payloadType : Byte) (buf : List Byte)
    (objs : RmcpplusObjs) : Except (Exit Stop RmcpplusObjs) RmcpplusObjs := do
  let objs ← deconstructPayloadBuf payloadType buf objs
  setPayload "payload_data" buf objs

/-- The error of this `fiid_obj_set_data` is lost behind a comma. -/
def setConfidentialityTrailer (buf : List Byte) (objs : RmcpplusObjs) : RmcpplusObjs :=
  match fiidObjSetData objs.payload "confidentiality_trailer" buf with
  | .ok (obj, _) => { objs with payload := obj }
  | .error _ => objs

/-- What follows the decryption: the last byte tells how many bytes of padding stand before it. -/
def deconstructDecrypted (payloadType : Byte) (payloadBuf : List Byte) (objs : RmcpplusObjs) :
    Except (Exit Stop RmcpplusObjs) RmcpplusObjs := do
  let padLength := (payloadBuf.getLastD 0).toNat
  if padLength > ipmiCryptAesCbc128BlockLength then .error (.unparsed objs)
  else if padLength + 1 > payloadBuf.length then .error (.unparsed objs)
  else
    let cmdDataLen := payloadBuf.length - padLength - 1
    if cmdDataLen = 0 then .error (.unparsed objs)
    else
      let objs ← setPayload "payload_data" (payloadBuf.take cmdDataLen) objs
      let objs := setConfidentialityTrailer (payloadBuf.drop cmdDataLen) objs
      deconstructPayloadBuf payloadType (payloadBuf.take cmdDataLen) objs

/-- `_deconstruct_payload_confidentiality_aes_cbc_128`. -/
def deconstructPayloadConfidentialityAesCbc128 (payloadType : Byte) (payloadEncrypted : Bool)
    (buf : List Byte) (objs : RmcpplusObjs) : Except (Exit Stop RmcpplusObjs) RmcpplusObjs := do
  match payloadEncrypted, confidentialityKey with
  | true, some key =>
    if key.length < ipmiCryptAesCbc128BlockLength then .error (.fail (.errno .einval))
    else if buf.length < ipmiCryptAesCbc128BlockLength then .error (.unparsed objs)
    else if buf.length = ipmiCryptAesCbc128BlockLength then .error (.unparsed objs)
    else
      let iv := buf.take ipmiCryptAesCbc128BlockLength
      let payloadData := buf.drop ipmiCryptAesCbc128BlockLength
      let objs ← setPayload "confidentiality_header" iv objs
      if payloadData.length % ipmiCryptAesCbc128BlockLength ≠ 0 then .error (.fail (.errno .einval))
      else
        let payloadBuf := crypto.aesCbc128Decrypt (key.take ipmiCryptAesCbc128BlockLength) iv payloadData
        if payloadBuf.length ≠ payloadData.length then .error (.fail (.errno .einval))
        else deconstructDecrypted payloadType payloadBuf objs
  | _, _ => .error (.fail .assertion)

/-- `_deconstruct_payload_rakp`. -/
def deconstructPayloadRakp (buf : List Byte) (objs : RmcpplusObjs) :
    Except (Exit Stop RmcpplusObjs) RmcpplusObjs := do
  let objs ← setPayload "payload_data" buf objs
  let (obj, _) ← call (trySetAll objs.cmd buf)
  return { objs with cmd := obj }

/-- `_deconstruct_payload`. -/
def deconstructPayload (h : SessionHdr) (buf : List Byte) (objs : RmcpplusObjs) :
    Except (Exit Stop RmcpplusObjs) RmcpplusObjs :=
  if h.payloadType = ipmiPayloadTypeIpmi ∨ h.payloadType = ipmiPayloadTypeSol then
    if algorithms.confidentiality = ipmiConfidentialityAlgorithmNone then
      deconstructPayloadConfidentialityNone h.payloadType buf objs
    else
      deconstructPayloadConfidentialityAesCbc128 crypto confidentialityKey h.payloadType
        h.payloadEncrypted buf objs
  else deconstructPayloadRakp buf objs

/-- The walk after a step that works on the objects only. -/
def onObjs (indx : ℕ) : Except (Exit Stop RmcpplusObjs) RmcpplusObjs →
    Except (Exit Stop RmcpplusWalk) RmcpplusWalk
  | .ok objs => .ok ⟨indx, objs⟩
  | .error (.fail e) => .error (.fail e)
  | .error (.unparsed objs) => .error (.unparsed ⟨indx, objs⟩)

/-- `ipmi_payload_len`, cut to what is left of the packet. -/
def payloadStage : RmcpplusStage := fun w => do
  let h ← call (sessionHdrOf w.objs.sessionHdr)
  let rest := pkt.drop w.indx
  let ipmiPayloadLen := if rest.length < h.ipmiPayloadLen then rest.length else h.ipmiPayloadLen
  onObjs (w.indx + ipmiPayloadLen)
    (deconstructPayload crypto algorithms confidentialityKey h (rest.take ipmiPayloadLen) w.objs)

/-- `fiid_obj_set_data` on a field of the trailer. -/
def trlrDataStage (field : String) (data : List Byte) : RmcpplusStage := fun w => do
  let (obj, _) ← call (fiidObjSetData w.objs.sessionTrlr field data)
  return { w with objs := { w.objs with sessionTrlr := obj } }

/-- The padding in front of the trailer: as many bytes as `pad_length` says, if there are so many. -/
def integrityPadStage (rest : List Byte) (padMax : ℕ) : RmcpplusStage := fun w => do
  let val ← call (fiidObjGetStrict w.objs.sessionTrlr "pad_length")
  let padLength := (val.setWidth 8).toNat
  if padLength > ipmiIntegrityPadMultiple then .error (.unparsed w)
  else
    let padLength := if padLength > padMax then padMax else padLength
    trlrDataStage "integrity_pad" (rest.take padLength) w

/-- The trailer, from the end of the packet: the code, the next header, the length of the padding. -/
def trlrStage : RmcpplusStage := fun w => do
  let h ← call (sessionHdrOf w.objs.sessionHdr)
  if !h.hasTrlr then return w
  else
    let codeLen := authenticationCodeLen algorithms.integrity
    let padLengthFieldLen ← call
      (orTemplateInvalid (fiidTemplateFieldLenBytes tmplRmcpplusSessionTrlr "pad_length"))
    let nextHeaderFieldLen ← call
      (orTemplateInvalid (fiidTemplateFieldLenBytes tmplRmcpplusSessionTrlr "next_header"))
    let rest := pkt.drop w.indx
    if rest.length < codeLen + padLengthFieldLen + nextHeaderFieldLen then .error (.unparsed w)
    else
      let code := rest.length - codeLen
      let nextHeader := code - nextHeaderFieldLen
      let padLength := nextHeader - padLengthFieldLen
      let w ← if codeLen ≠ 0 then trlrDataStage "authentication_code" (rest.drop code) w else .ok w
      runStages
        [trlrDataStage "next_header" ((rest.drop nextHeader).take nextHeaderFieldLen),
         trlrDataStage "pad_length" ((rest.drop padLength).take padLengthFieldLen),
         integrityPadStage rest padLength] w

def rmcpplusStages : List RmcpplusStage :=
  [rmcpHdrStage pkt, moreStage pkt,
   sessionHdrStage pkt "authentication_type" "payload_type.encrypted", moreStage pkt,
   payloadTypeStage,
   sessionHdrStage pkt "session_id" "ipmi_payload_len", moreStage pkt,
   malformedStage algorithms, objsStage,
   payloadStage crypto algorithms confidentialityKey pkt, trlrStage algorithms pkt]

end Stages

/-- `fiid_obj_clear` on the objects of every packet. -/
def RmcpplusObjs.clear (objs : RmcpplusObjs) : RmcpplusObjs :=
  { objs with
    rmcpHdr := fiidObjClear objs.rmcpHdr
    sessionHdr := fiidObjClear objs.sessionHdr
    payload := fiidObjClear objs.payload
    cmd := fiidObjClear objs.cmd }

/-- The objects make up a packet. -/
def RmcpplusObjs.accepted (flags : BitVec 32) (objs : RmcpplusObjs) : Bool :=
  match sessionHdrOf objs.sessionHdr with
  | .error _ => false
  | .ok h =>
    fiidObjPacketValid objs.rmcpHdr
      && fiidObjPacketValid objs.sessionHdr
      && fiidObjPacketValid objs.payload
      && (h.payloadType != ipmiPayloadTypeIpmi || fiidObjPacketValid objs.lanMsgHdr)
      && (flags &&& ipmiInterfaceFlagsNoLegalCheck ≠ 0 || fiidObjPacketSufficient objs.cmd)
      && (h.payloadType != ipmiPayloadTypeIpmi || fiidObjPacketValid objs.lanMsgTrlr)
      && (!h.hasTrlr || fiidObjPacketValid objs.sessionTrlr)

/-- The template checks at the head of `unassemble_ipmi_rmcpplus_pkt`. -/
def RmcpplusObjs.compareTemplates (objs : RmcpplusObjs) : Except Stop Unit := do
  fiidObjTemplateCompareStrict objs.rmcpHdr tmplRmcpHdr
  fiidObjTemplateCompareStrict objs.sessionHdr tmplRmcpplusSessionHdr
  fiidObjTemplateCompareStrict objs.payload tmplRmcpplusPayload

/-- `unassemble_ipmi_rmcpplus_pkt`: whether it returns 1 or 0, and the objects afterwards. The
    integrity key is not used. -/
def unassembleIpmiRmcpplusPkt (crypto : Crypto) (algorithms : Algorithms)
    (confidentialityKey : Option (List Byte)) (pkt : List Byte) (objs : RmcpplusObjs)
    (flags : BitVec 32) : Except Stop (Bool × RmcpplusObjs) := do
  if !ipmiAuthenticationAlgorithmSupported algorithms.authentication
      ∨ !ipmiIntegrityAlgorithmSupported algorithms.integrity
      ∨ !ipmiConfidentialityAlgorithmSupported algorithms.confidentiality
      ∨ (algorithms.confidentiality = ipmiConfidentialityAlgorithmAesCbc128
        ∧ (confidentialityKey.getD []).length = 0)
      ∨ flags &&& ~~~ ipmiInterfaceFlagsNoLegalCheck ≠ 0 then .error (.errno .einval)
  else
    objs.compareTemplates
    let (accepted, w) ← report (fun w => w.objs.accepted flags)
      (runStages (rmcpplusStages crypto algorithms confidentialityKey pkt) ⟨0, objs.clear⟩)
    return (accepted, w.objs)

end FreeIpmi.Rmcpplus
