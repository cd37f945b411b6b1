import FreeIpmi.Lan.Fields

/-! IPMB messages (`interface/ipmi-ipmb-interface.c`, `util/ipmi-ipmb-util.c`): the templates, the
    assembly of a request and the parsing of a response, and the two checks of a response.

    A message is a header with a checksum of its own, the command, and a trailer with the checksum of
    everything behind the first one. The header of a response leaves out the address of the requester,
    which its checksum covers all the same. Allocations succeed. -/

namespace FreeIpmi.Ipmb
open Fiid Calls Stages Lan

/-! ### Templates -/

/-- `tmpl_ipmb_msg_hdr_rq`. -/
def tmplIpmbMsgHdrRq : FiidTemplate where
  fields :=
    [⟨8, "rs_addr", requiredFixed, .refl true⟩,
     ⟨2, "rs_lun", requiredFixed, .refl true⟩,
     ⟨6, "net_fn", requiredFixed, .refl true⟩,
     ⟨8, "checksum1", requiredFixed, .refl true⟩,
     ⟨8, "rq_addr", requiredFixed, .refl true⟩,
     ⟨2, "rq_lun", requiredFixed, .refl true⟩,
     ⟨6, "rq_seq", requiredFixed, .refl true⟩]

/-- `tmpl_ipmb_msg_hdr_rs`. -/
def tmplIpmbMsgHdrRs : FiidTemplate where
  fields :=
    [⟨2, "rq_lun", requiredFixed, .refl true⟩,
     ⟨6, "net_fn", requiredFixed, .refl true⟩,
     ⟨8, "checksum1", requiredFixed, .refl true⟩,
     ⟨8, "rs_addr", requiredFixed, .refl true⟩,
     ⟨2, "rs_lun", requiredFixed, .refl true⟩,
     ⟨6, "rq_seq", requiredFixed, .refl true⟩]

/-- `tmpl_ipmb_msg_trlr`. -/
def tmplIpmbMsgTrlr : FiidTemplate where
  fields := [⟨8, "checksum2", requiredFixed, .refl true⟩]

/-- `tmpl_ipmb_msg`. -/
def tmplIpmbMsg : FiidTemplate where
  fields := [⟨2040, "data", fiidFieldRequired ||| fiidFieldLengthVariable, .refl true⟩]

/-! ### Constants -/

/-- `IPMB_MAX_LEN`. -/
def ipmbMaxLen : ℕ := 65536

/-- `IPMI_IPMB_REQUESTER_SEQUENCE_NUMBER_MAX`. -/
def ipmiIpmbRequesterSequenceNumberMax : Byte := 0x3F

/-- `IPMI_BMC_LUN_VALID`. -/
def ipmiBmcLunValid (lun : Byte) : Bool := lun == 0x00 || lun == 0x01 || lun == 0x02 || lun == 0x03

/-! ### Assembly -/

/-- `fill_ipmb_msg_hdr`. -/
def fillIpmbMsgHdr (rsAddr netFn rsLun rqAddr rqLun rqSeq : Byte) (objIpmbMsgHdr : FiidObj) :
    Except Stop FiidObj := do
  if !ipmiNetFnValid netFn || !ipmiBmcLunValid rsLun || !ipmiBmcLunValid rqLun
      || decide (rqSeq > ipmiIpmbRequesterSequenceNumberMax) then .error (.errno .einval)
  else
    fiidObjTemplateCompareStrict objIpmbMsgHdr tmplIpmbMsgHdrRq
    let obj := fiidObjClear objIpmbMsgHdr
    let obj ← fiidObjSet obj "rs_addr" (rsAddr.setWidth 64)
    let obj ← fiidObjSet obj "net_fn" (netFn.setWidth 64)
    let obj ← fiidObjSet obj "rs_lun" (rsLun.setWidth 64)
    let (checksumLen, checksumBuf) ← fiidObjGetBlock obj "rs_addr" "net_fn" 1024
    let checksum := ipmiChecksum (checksumBuf.take checksumLen)
    let obj ← fiidObjSet obj "checksum1" (checksum.setWidth 64)
    let obj ← fiidObjSet obj "rq_addr" (rqAddr.setWidth 64)
    let obj ← fiidObjSet obj "rq_lun" (rqLun.setWidth 64)
    fiidObjSet obj "rq_seq" (rqSeq.setWidth 64)

/-- The message in the buffer of `assemble_ipmi_ipmb_msg`, and its length. `ndebug` is the build option
    of `fiid_obj_create`. -/
def putIpmbMsg (ndebug : Bool) (buf : List Byte) (objIpmbMsgHdr objCmd : FiidObj) :
    Except Stop (List Byte × ℕ) := do
  let (buf, indx) ← putBlock buf 0 objIpmbMsgHdr "rs_addr" "checksum1"
  let checksumDataIndx := indx
  let (buf, indx) ← putBlock buf indx objIpmbMsgHdr "rq_addr" "rq_seq"
  let (buf, indx) ← putAll buf indx objCmd
  match fiidObjCreate ndebug tmplIpmbMsgTrlr with
  | none => .error (.errno .einval)
  | some objIpmbMsgTrlr =>
    let checksum := ipmiChecksum ((buf.drop checksumDataIndx).take (indx - checksumDataIndx))
    match fiidObjSetAll objIpmbMsgTrlr [checksum] with
    | (.error e, _) => .error e
    | (.ok _, objIpmbMsgTrlr) => putAll buf indx objIpmbMsgTrlr

/-- `assemble_ipmi_ipmb_msg`: what it returns, and the object of the message. The message object takes
    as many bytes as it has room for, and the rest is dropped. -/
def assembleIpmiIpmbMsg (ndebug : Bool) (objIpmbMsgHdr objCmd objIpmbMsg : FiidObj)
    (flags : BitVec 32) : Except Stop (FiidObj × ℕ) := do
  if flags &&& ~~~ 0 ≠ 0 then .error (.errno .einval)
  else
    fiidObjTemplateCompareStrict objIpmbMsgHdr tmplIpmbMsgHdrRq
    fiidObjTemplateCompareStrict objIpmbMsg tmplIpmbMsg
    fiidObjPacketValidStrict objIpmbMsgHdr
    fiidObjPacketValidStrict objCmd
    let hdrLen ← orTemplateInvalid (fiidTemplateLenBytes tmplIpmbMsgHdrRq)
    let cmdLen ← fiidObjLenBytes objCmd
    let trlrLen ← orTemplateInvalid (fiidTemplateLenBytes tmplIpmbMsgTrlr)
    if ipmbMaxLen < hdrLen + cmdLen + trlrLen then .error (.errno .emsgsize)
    else
      let (buf, indx) ← putIpmbMsg ndebug (List.replicate ipmbMaxLen 0) objIpmbMsgHdr objCmd
      trySetAll objIpmbMsg (buf.take indx)

/-! ### Parsing -/

/-- The objects of a response. -/
structure IpmbObjs where
  msgHdr : FiidObj
  cmd : FiidObj
  msgTrlr : FiidObj

/-- `fiid_obj_clear` on all objects. -/
def IpmbObjs.clear (objs : IpmbObjs) : IpmbObjs where
  msgHdr := fiidObjClear objs.msgHdr
  cmd := fiidObjClear objs.cmd
  msgTrlr := fiidObjClear objs.msgTrlr

/-- The template checks of `unassemble_ipmi_ipmb_msg`. -/
def IpmbObjs.compareTemplates (objs : IpmbObjs) : Except Stop Unit := do
  fiidObjTemplateCompareStrict objs.msgHdr tmplIpmbMsgHdrRs
  fiidObjTemplateCompareStrict objs.msgTrlr tmplIpmbMsgTrlr

/-- The objects make up a message. -/
def IpmbObjs.accepted (flags : BitVec 32) (objs : IpmbObjs) : Bool :=
  fiidObjPacketValid objs.msgHdr
    && (flags &&& ipmiInterfaceFlagsNoLegalCheck ≠ 0 || fiidObjPacketSufficient objs.cmd)
    && fiidObjPacketValid objs.msgTrlr

/-- The bytes of a message are cut into the objects: the header takes four, the command what is left
    but for the trailer, and the trailer what stands where the command stopped. -/
def parseIpmbMsg (buf : List Byte) (objs : IpmbObjs) : Except (Exit Stop IpmbObjs) IpmbObjs := do
  let (obj, indx) ← call (trySetAll objs.msgHdr buf)
  let objs := { objs with msgHdr := obj }
  if buf.length ≤ indx then .error (.unparsed objs)
  else
    let objIpmbMsgTrlrLen ← call (orTemplateInvalid (fiidTemplateLenBytes tmplIpmbMsgTrlr))
    if buf.length - indx ≤ objIpmbMsgTrlrLen then .error (.unparsed objs)
    else
      let ipmbMsgLen := buf.length - indx - objIpmbMsgTrlrLen
      let (obj, len) ← call (trySetAll objs.cmd ((buf.drop indx).take ipmbMsgLen))
      let objs := { objs with cmd := obj }
      let indx := indx + len
      if buf.length ≤ indx then .error (.unparsed objs)
      else
        let (obj, _) ← call (trySetAll objs.msgTrlr (buf.drop indx))
        return { objs with msgTrlr := obj }

/-- `unassemble_ipmi_ipmb_msg`: whether it returns 1 or 0, and the objects afterwards. -/
def unassembleIpmiIpmbMsg (objIpmbMsg : FiidObj) (objs : IpmbObjs) (flags : BitVec 32) :
    Except Stop (Bool × IpmbObjs) := do
  if flags &&& ~~~ ipmiInterfaceFlagsNoLegalCheck ≠ 0 then .error (.errno .einval)
  else
    objs.compareTemplates
    let (bufLen, buf) ← fiidObjGetAll objIpmbMsg ipmbMaxLen
    report (·.accepted flags) (parseIpmbMsg (buf.take bufLen) objs.clear)

/-! ### Checks -/

/-- `ipmi_ipmb_check_rq_seq`. -/
def ipmiIpmbCheckRqSeq (objIpmbMsgHdr : FiidObj) (rqSeq : Byte) : Except Stop Bool :=
  headerCheck (fiidObjValid (some objIpmbMsgHdr)) (some objIpmbMsgHdr) "rq_seq" rqSeq

/-- `ipmi_ipmb_check_checksum`. -/
def ipmiIpmbCheckChecksum (rqAddr : Byte) (objIpmbMsgHdr objCmd objIpmbMsgTrlr : FiidObj) :
    Except Stop Bool := do
  fiidObjTemplateCompareStrict objIpmbMsgHdr tmplIpmbMsgHdrRs
  fiidObjTemplateCompareStrict objIpmbMsgTrlr tmplIpmbMsgTrlr
  let objIpmbMsgHdrLen ← fiidObjLenBytes objIpmbMsgHdr
  let objCmdLen ← fiidObjLenBytes objCmd
  let checksum1Recv ← fiidObjGetStrict objIpmbMsgHdr "checksum1"
  -- the address of the requester is not in the response, but it is in the checksum
  let (objLen, buf1) ← fiidObjGetBlock objIpmbMsgHdr "rq_lun" "net_fn" objIpmbMsgHdrLen
  if checksum1Recv.setWidth 8 ≠ ipmiChecksum ((rqAddr :: buf1).take (objLen + 1)) then return false
  else
    let checksum2Recv ← fiidObjGetStrict objIpmbMsgTrlr "checksum2"
    let buflen := objIpmbMsgHdrLen + objCmdLen
    let (buf2, len) ← putBlock (List.replicate buflen 0) 0 objIpmbMsgHdr "rs_addr" "rq_seq"
    let (buf2, len) ← putAll buf2 len objCmd
    return checksum2Recv.setWidth 8 = ipmiChecksum (buf2.take len)

end FreeIpmi.Ipmb
