import FreeIpmi.Lib.Stages
import FreeIpmi.Fiid.Block

/-! IPMI 1.5 packets (`interface/ipmi-lan-interface.c`): the templates of the headers, the assembly
    of a request and the parsing of a response.

    A packet is the RMCP header, the session header, the message header, the command and a one byte
    trailer. `unassemble_ipmi_lan_pkt` walks through the bytes with an index and fills the objects one
    after the other; here the walk is a list of stages on the index and the objects. A NULL password
    stands for one of no bytes, and allocations succeed. -/

namespace FreeIpmi.Lan
open Fiid Calls Stages

/-! ### Templates -/

def requiredFixed : BitVec 32 := fiidFieldRequired ||| fiidFieldLengthFixed
def optionalFixed : BitVec 32 := fiidFieldOptional ||| fiidFieldLengthFixed

/-- `tmpl_rmcp_hdr`. -/
def tmplRmcpHdr : FiidTemplate where
  fields :=
    [⟨8, "version", requiredFixed, .refl true⟩,
     ⟨8, "reserved", requiredFixed, .refl true⟩,
     ⟨8, "sequence_number", requiredFixed, .refl true⟩,
     ⟨5, "message_class.class", requiredFixed, .refl true⟩,
     ⟨2, "message_class.reserved", requiredFixed, .refl true⟩,
     ⟨1, "message_class.ack", requiredFixed, .refl true⟩]

/-- `tmpl_lan_session_hdr`. -/
def tmplLanSessionHdr : FiidTemplate where
  fields :=
    [⟨8, "authentication_type", requiredFixed, .refl true⟩,
     ⟨32, "session_sequence_number", requiredFixed, .refl true⟩,
     ⟨32, "session_id", requiredFixed, .refl true⟩,
     ⟨128, "authentication_code", optionalFixed, .refl true⟩,
     ⟨8, "ipmi_msg_len", requiredFixed, .refl true⟩]

/-- `tmpl_lan_msg_hdr_rq`. -/
def tmplLanMsgHdrRq : FiidTemplate where
  fields :=
    [⟨8, "rs_addr", requiredFixed, .refl true⟩,
     ⟨2, "rs_lun", requiredFixed, .refl true⟩,
     ⟨6, "net_fn", requiredFixed, .refl true⟩,
     ⟨8, "checksum1", requiredFixed, .refl true⟩,
     ⟨8, "rq_addr", requiredFixed, .refl true⟩,
     ⟨2, "rq_lun", requiredFixed, .refl true⟩,
     ⟨6, "rq_seq", requiredFixed, .refl true⟩]

/-- `tmpl_lan_msg_hdr_rs`. -/
def tmplLanMsgHdrRs : FiidTemplate where
  fields :=
    [⟨8, "rq_addr", requiredFixed, .refl true⟩,
     ⟨2, "rq_lun", requiredFixed, .refl true⟩,
     ⟨6, "net_fn", requiredFixed, .refl true⟩,
     ⟨8, "checksum1", requiredFixed, .refl true⟩,
     ⟨8, "rs_addr", requiredFixed, .refl true⟩,
     ⟨2, "rs_lun", requiredFixed, .refl true⟩,
     ⟨6, "rq_seq", requiredFixed, .refl true⟩]

/-- `tmpl_lan_msg_trlr`. -/
def tmplLanMsgTrlr : FiidTemplate where
  fields := [⟨8, "checksum2", requiredFixed, .refl true⟩]

/-! ### Constants -/

def ipmiAuthenticationTypeNone : Byte := 0x00
def ipmiAuthenticationTypeMd2 : Byte := 0x01
def ipmiAuthenticationTypeMd5 : Byte := 0x02
def ipmiAuthenticationTypeStraightPasswordKey : Byte := 0x04
def ipmiAuthenticationTypeOemProp : Byte := 0x05

/-- `IPMI_1_5_AUTHENTICATION_TYPE_VALID`. -/
def ipmi15AuthenticationTypeValid (authenticationType : Byte) : Bool :=
  authenticationType == ipmiAuthenticationTypeNone
    || authenticationType == ipmiAuthenticationTypeMd2
    || authenticationType == ipmiAuthenticationTypeMd5
    || authenticationType == ipmiAuthenticationTypeStraightPasswordKey
    || authenticationType == ipmiAuthenticationTypeOemProp

/-- The types for which this library can compute an authentication code. -/
def authenticationTypeSupported (authenticationType : Byte) : Bool :=
  authenticationType == ipmiAuthenticationTypeNone
    || authenticationType == ipmiAuthenticationTypeMd2
    || authenticationType == ipmiAuthenticationTypeMd5
    || authenticationType == ipmiAuthenticationTypeStraightPasswordKey

/-- `IPMI_1_5_MAX_PASSWORD_LENGTH`, also the length of an authentication code. -/
def ipmi15MaxPasswordLength : ℕ := 16

/-- `IPMI_INTERFACE_FLAGS_NO_LEGAL_CHECK`. -/
def ipmiInterfaceFlagsNoLegalCheck : BitVec 32 := 0x00000001

/-- `ipmi_checksum`. -/
def ipmiChecksum (buf : List Byte) : Byte := -(buf.foldl (· + ·) 0)

/-- The message digests, fixed functions of the hashed bytes. -/
structure Digests where
  md2 : List Byte → List.Vector Byte 16
  md5 : List Byte → List.Vector Byte 16

/-- The password in a buffer of 16 zeroed bytes. -/
def pwbuf (password : List Byte) : List Byte := splice (List.replicate ipmi15MaxPasswordLength 0) 0 password

/-- The bytes that are hashed: password, session id, message, sequence number, password. -/
def hashInput (pw sessionId msg sessionSequenceNumber : List Byte) : List Byte :=
  pw ++ sessionId ++ msg ++ sessionSequenceNumber ++ pw

/-- The length of a template, `-1` where it has none. -/
def orTemplateInvalid (len : Option ℕ) : Except Stop ℕ :=
  match len with
  | none => .error (.errno .einval)
  | some len => .ok len

/-- `FIID_OBJ_PACKET_VALID`: anything but 1 becomes `-1`. -/
def fiidObjPacketValidStrict (obj : FiidObj) : Except Stop Unit :=
  match packetValid obj false with
  | .ok () => .ok ()
  | .error e => .error (.fiid (e.getD .internalError))

/-! ### Assembly -/

/-- `_ipmi_lan_pkt_rq_min_size`. -/
def ipmiLanPktRqMinSize (authenticationType : Byte) (objCmd : FiidObj) : Except Stop ℕ := do
  if !ipmi15AuthenticationTypeValid authenticationType then .error .assertion
  else
    let rmcpHdrLen ← orTemplateInvalid (fiidTemplateLenBytes tmplRmcpHdr)
    let msgHdrLen ← orTemplateInvalid (fiidTemplateLenBytes tmplLanMsgHdrRq)
    let msgTrlrLen ← orTemplateInvalid (fiidTemplateLenBytes tmplLanMsgTrlr)
    let sessionHdrLen ← orTemplateInvalid
      (fiidTemplateBlockLenBytes tmplLanSessionHdr "authentication_type" "session_id")
    let authenticationCodeLen :=
      if authenticationType = ipmiAuthenticationTypeMd2
        ∨ authenticationType = ipmiAuthenticationTypeMd5
        ∨ authenticationType = ipmiAuthenticationTypeStraightPasswordKey
        ∨ authenticationType = ipmiAuthenticationTypeOemProp then ipmi15MaxPasswordLength else 0
    let ipmiMsgLenLen ← orTemplateInvalid (fiidTemplateFieldLenBytes tmplLanSessionHdr "ipmi_msg_len")
    let cmdLen ← fiidObjLenBytes objCmd
    return rmcpHdrLen + msgHdrLen + msgTrlrLen + sessionHdrLen + authenticationCodeLen
      + ipmiMsgLenLen + cmdLen

/-- `fiid_obj_get_all (obj, pkt + indx, pkt_len - indx)`: the packet afterwards and the new index. The
    call clears the rest of the buffer before it copies. -/
def putAll (pkt : List Byte) (indx : ℕ) (obj : FiidObj) : Except Stop (List Byte × ℕ) := do
  let (len, buf) ← fiidObjGetAll obj (pkt.length - indx)
  return (splice pkt indx buf, indx + len)

/-- `fiid_obj_get_block` at `pkt + indx`, likewise. -/
def putBlock (pkt : List Byte) (indx : ℕ) (obj : FiidObj) (fieldStart fieldEnd : String) :
    Except Stop (List Byte × ℕ) := do
  let (len, buf) ← fiidObjGetBlock obj fieldStart fieldEnd (pkt.length - indx)
  return (splice pkt indx buf, indx + len)

/-- The message: header, command, and a trailer with the checksum of all behind `checksum1`. `ndebug`
    is the build option of `fiid_obj_create`. -/
def putMessage (ndebug : Bool) (pkt : List Byte) (indx : ℕ) (objLanMsgHdr objCmd : FiidObj) :
    Except Stop (List Byte × ℕ) := do
  let (pkt, indx) ← putBlock pkt indx objLanMsgHdr "rs_addr" "checksum1"
  let checksumIndx := indx
  let (pkt, indx) ← putBlock pkt indx objLanMsgHdr "rq_addr" "rq_seq"
  let (pkt, indx) ← putAll pkt indx objCmd
  match fiidObjCreate ndebug tmplLanMsgTrlr with
  | none => .error (.errno .einval)
  | some objLanMsgTrlr =>
    let checksum := ipmiChecksum ((pkt.drop checksumIndx).take (indx - checksumIndx))
    match fiidObjSetAll objLanMsgTrlr [checksum] with
    | (.error e, _) => .error e
    | (.ok _, objLanMsgTrlr) => putAll pkt indx objLanMsgTrlr

/-- The authentication code of a packet, if it has one: the one that is set in the session header, or
    the one computed from the password and the message. -/
def authenticationCode (digests : Digests) (authenticationType : Byte) (objLanSessionHdr : FiidObj)
    (password msg : List Byte) : Except Stop (List Byte) := do
  if authenticationType = ipmiAuthenticationTypeNone then return []
  else
    let authenticationLen ← fiidObjFieldLenBytes objLanSessionHdr "authentication_code"
    if authenticationLen ≠ 0 then
      let code ← fiidObjGetData objLanSessionHdr "authentication_code" ipmi15MaxPasswordLength
      return pwbuf code
    else if authenticationType = ipmiAuthenticationTypeStraightPasswordKey then return pwbuf password
    else
      let sessionId ← fiidObjGetData objLanSessionHdr "session_id" 1024
      let sessionSequenceNumber ← fiidObjGetData objLanSessionHdr "session_sequence_number" 1024
      let input := hashInput (pwbuf password) sessionId msg sessionSequenceNumber
      if authenticationType = ipmiAuthenticationTypeMd2 then return (digests.md2 input).toList
      else return (digests.md5 input).toList

/-- `assemble_ipmi_lan_pkt` into a buffer of `pktLen` bytes: the length of the packet, and the
    buffer. -/
def assembleIpmiLanPkt (ndebug : Bool) (digests : Digests)
    (objRmcpHdr objLanSessionHdr objLanMsgHdr objCmd : FiidObj) (password : List Byte) (pktLen : ℕ)
    (flags : BitVec 32) : Except Stop (ℕ × List Byte) := do
  if password.length > ipmi15MaxPasswordLength ∨ flags &&& ~~~ 0 ≠ 0 then .error (.errno .einval)
  else
    fiidObjTemplateCompareStrict objRmcpHdr tmplRmcpHdr
    fiidObjTemplateCompareStrict objLanSessionHdr tmplLanSessionHdr
    fiidObjTemplateCompareStrict objLanMsgHdr tmplLanMsgHdrRq
    fiidObjPacketValidStrict objRmcpHdr
    fiidObjPacketValidStrict objLanMsgHdr
    fiidObjPacketValidStrict objCmd
    let val ← fiidObjGetStrict objLanSessionHdr "authentication_type"
    let authenticationType : Byte := val.setWidth 8
    if !authenticationTypeSupported authenticationType then .error (.errno .einval)
    else
      let requiredLen ← ipmiLanPktRqMinSize authenticationType objCmd
      if pktLen < requiredLen then .error (.errno .emsgsize)
      else
        let (pkt, indx) ← putAll (List.replicate pktLen 0) 0 objRmcpHdr
        let (pkt, indx) ← putBlock pkt indx objLanSessionHdr "authentication_type" "session_id"
        -- the authentication code and the message length are filled in at the end
        let authenticationCodeIndx := indx
        let indx :=
          if authenticationType ≠ ipmiAuthenticationTypeNone then indx + ipmi15MaxPasswordLength else indx
        let ipmiMsgLenIndx := indx
        let len ← orTemplateInvalid (fiidTemplateFieldLenBytes tmplLanSessionHdr "ipmi_msg_len")
        if len ≠ 1 then .error (.errno .einval)
        else
          let msgIndx := indx + len
          let (pkt, indx) ← putMessage ndebug pkt msgIndx objLanMsgHdr objCmd
          let msg := (pkt.drop msgIndx).take (indx - msgIndx)
          let pkt := splice pkt ipmiMsgLenIndx [BitVec.ofNat 8 msg.length]
          let code ← authenticationCode digests authenticationType objLanSessionHdr password msg
          let pkt := splice pkt authenticationCodeIndx code
          if indx > intMax then .error (.errno .emsgsize)
          else return (indx, pkt)

/-! ### Parsing -/

/-- The objects of a response. -/
structure LanObjs where
  rmcpHdr : FiidObj
  sessionHdr : FiidObj
  msgHdr : FiidObj
  cmd : FiidObj
  msgTrlr : FiidObj

/-- The walk through the packet: how far it has got, and the objects filled so far. -/
structure Walk where
  indx : ℕ
  objs : LanObjs

abbrev LanStage := Stage Stop Walk

section Stages
variable (pkt : List Byte)

/-- `if (pkt_len <= indx)`: cannot parse packet. -/
def moreStage : LanStage := fun w =>
  if pkt.length ≤ w.indx then .error (.unparsed w) else .ok w

def rmcpHdrStage : LanStage := fun w => do
  let (obj, len) ← call (trySetAll w.objs.rmcpHdr (pkt.drop w.indx))
  return { indx := w.indx + len, objs := { w.objs with rmcpHdr := obj } }

def sessionHdrStage : LanStage := fun w => do
  let (obj, len) ← call (trySetBlock w.objs.sessionHdr "authentication_type" "session_id"
    (pkt.drop w.indx))
  return { indx := w.indx + len, objs := { w.objs with sessionHdr := obj } }

/-- `authentication_type`, as read back from the session header. -/
def authenticationTypeOf (objLanSessionHdr : FiidObj) : Except Stop Byte := do
  let val ← fiidObjGetStrict objLanSessionHdr "authentication_type"
  return val.setWidth 8

def authenticationTypeStage : LanStage := fun w => do
  let authenticationType ← call (authenticationTypeOf w.objs.sessionHdr)
  if !ipmi15AuthenticationTypeValid authenticationType then .error (.unparsed w) else return w

/-- `fiid_obj_set_data` on a field of the session header. -/
def sessionDataStage (field : String) : LanStage := fun w => do
  let (obj, len) ← call (fiidObjSetData w.objs.sessionHdr field (pkt.drop w.indx))
  return { indx := w.indx + len, objs := { w.objs with sessionHdr := obj } }

def authenticationCodeStage : LanStage := fun w => do
  let authenticationType ← call (authenticationTypeOf w.objs.sessionHdr)
  if authenticationType ≠ ipmiAuthenticationTypeNone then
    runStages [sessionDataStage pkt "authentication_code", moreStage pkt] w
  else return w

def msgHdrStage : LanStage := fun w => do
  let (obj, len) ← call (trySetAll w.objs.msgHdr (pkt.drop w.indx))
  return { indx := w.indx + len, objs := { w.objs with msgHdr := obj } }

/-- The command takes what is left but for the trailer. -/
def cmdStage : LanStage := fun w => do
  let objLanMsgTrlrLen ← call (orTemplateInvalid (fiidTemplateLenBytes tmplLanMsgTrlr))
  if pkt.length - w.indx ≤ objLanMsgTrlrLen then .error (.unparsed w)
  else
    let objCmdLen := pkt.length - w.indx - objLanMsgTrlrLen
    let (obj, len) ← call (trySetAll w.objs.cmd ((pkt.drop w.indx).take objCmdLen))
    return { indx := w.indx + len, objs := { w.objs with cmd := obj } }

def msgTrlrStage : LanStage := fun w => do
  let (obj, len) ← call (trySetAll w.objs.msgTrlr (pkt.drop w.indx))
  return { indx := w.indx + len, objs := { w.objs with msgTrlr := obj } }

/-- The headers: everything before the command. -/
def headerStages : List LanStage :=
  [rmcpHdrStage pkt, moreStage pkt, sessionHdrStage pkt, authenticationTypeStage,
   authenticationCodeStage pkt, sessionDataStage pkt "ipmi_msg_len", moreStage pkt,
   msgHdrStage pkt, moreStage pkt]

def lanStages : List LanStage :=
  headerStages pkt ++ [cmdStage pkt, moreStage pkt, msgTrlrStage pkt]

end Stages

/-- `fiid_obj_clear` on all objects. -/
def LanObjs.clear (objs : LanObjs) : LanObjs where
  rmcpHdr := fiidObjClear objs.rmcpHdr
  sessionHdr := fiidObjClear objs.sessionHdr
  msgHdr := fiidObjClear objs.msgHdr
  cmd := fiidObjClear objs.cmd
  msgTrlr := fiidObjClear objs.msgTrlr

/-- The objects make up a packet. -/
def LanObjs.accepted (flags : BitVec 32) (objs : LanObjs) : Bool :=
  fiidObjPacketValid objs.rmcpHdr
    && fiidObjPacketValid objs.sessionHdr
    && fiidObjPacketValid objs.msgHdr
    && (flags &&& ipmiInterfaceFlagsNoLegalCheck ≠ 0 || fiidObjPacketSufficient objs.cmd)
    && fiidObjPacketValid objs.msgTrlr

/-- The template checks of `unassemble_ipmi_lan_pkt`. -/
def LanObjs.compareTemplates (objs : LanObjs) : Except Stop Unit := do
  fiidObjTemplateCompareStrict objs.rmcpHdr tmplRmcpHdr
  fiidObjTemplateCompareStrict objs.sessionHdr tmplLanSessionHdr
  fiidObjTemplateCompareStrict objs.msgHdr tmplLanMsgHdrRs
  fiidObjTemplateCompareStrict objs.msgTrlr tmplLanMsgTrlr

/-- `unassemble_ipmi_lan_pkt`: whether it returns 1 or 0, and the objects afterwards. -/
def unassembleIpmiLanPkt (pkt : List Byte) (objs : LanObjs) (flags : BitVec 32) :
    Except Stop (Bool × LanObjs) := do
  if flags &&& ~~~ ipmiInterfaceFlagsNoLegalCheck ≠ 0 then .error (.errno .einval)
  else
    objs.compareTemplates
    let (accepted, w) ← report (fun w => w.objs.accepted flags)
      (runStages (lanStages pkt) ⟨0, objs.clear⟩)
    return (accepted, w.objs)

end FreeIpmi.Lan
