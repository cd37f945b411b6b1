import FreeIpmi.Lan.Interface

/-! The checks of a received IPMI 1.5 packet (`util/ipmi-lan-util.c`): its two checksums and its
    authentication code. Each check exists twice, on the parsed objects and on the raw bytes. -/

namespace FreeIpmi.Lan
open Fiid Calls

/-! ### Authentication code -/

/-- The authentication code that the password gives for a message. -/
def authenticationCodeCalc (digests : Digests) (authenticationType : Byte)
    (password sessionId msg sessionSequenceNumber : List Byte) : List Byte :=
  let input := hashInput (pwbuf password) sessionId msg sessionSequenceNumber
  if authenticationType = ipmiAuthenticationTypeMd2 then (digests.md2 input).toList
  else if authenticationType = ipmiAuthenticationTypeMd5 then (digests.md5 input).toList
  else pwbuf password

/-- The message as it is put together again from the objects. -/
def messageOf (objLanMsgHdrRs objCmd objLanMsgTrlrRs : FiidObj) : Except Stop (List Byte) := do
  let objLanMsgHdrLen ← fiidObjLenBytes objLanMsgHdrRs
  let objCmdLen ← fiidObjLenBytes objCmd
  let objLanMsgTrlrLen ← fiidObjLenBytes objLanMsgTrlrRs
  let buflen := objLanMsgHdrLen + objCmdLen + objLanMsgTrlrLen
  let (buf, len) ← putAll (List.replicate buflen 0) 0 objLanMsgHdrRs
  let (buf, len) ← putAll buf len objCmd
  let (buf, len) ← putAll buf len objLanMsgTrlrRs
  return buf.take len

/-- `ipmi_lan_check_session_authentication_code`. -/
def ipmiLanCheckSessionAuthenticationCode (digests : Digests)
    (objLanSessionHdrRs objLanMsgHdrRs objCmd objLanMsgTrlrRs : FiidObj) (authenticationType : Byte)
    (password : List Byte) : Except Stop Bool := do
  if !authenticationTypeSupported authenticationType ∨ password.length > ipmi15MaxPasswordLength then
    .error (.errno .einval)
  else
    fiidObjTemplateCompareStrict objLanSessionHdrRs tmplLanSessionHdr
    fiidObjTemplateCompareStrict objLanMsgHdrRs tmplLanMsgHdrRs
    fiidObjTemplateCompareStrict objLanMsgTrlrRs tmplLanMsgTrlr
    fiidObjPacketValidStrict objLanSessionHdrRs
    fiidObjPacketValidStrict objLanMsgHdrRs
    fiidObjPacketValidStrict objLanMsgTrlrRs
    let val ← fiidObjGetStrict objLanSessionHdrRs "authentication_type"
    if authenticationType ≠ val.setWidth 8 then return false
    else
      let authenticationCodeRecv ←
        fiidObjGetData objLanSessionHdrRs "authentication_code" ipmi15MaxPasswordLength
      if authenticationType = ipmiAuthenticationTypeNone then
        return authenticationCodeRecv.length = 0
      else if authenticationType = ipmiAuthenticationTypeStraightPasswordKey then
        return pwbuf authenticationCodeRecv = pwbuf password
      else
        let sessionId ← fiidObjGetData objLanSessionHdrRs "session_id" 1024
        let sessionSequenceNumber ← fiidObjGetData objLanSessionHdrRs "session_sequence_number" 1024
        let buf ← messageOf objLanMsgHdrRs objCmd objLanMsgTrlrRs
        return pwbuf authenticationCodeRecv
          = authenticationCodeCalc digests authenticationType password sessionId buf sessionSequenceNumber

/-- `ipmi_lan_check_packet_session_authentication_code`. -/
def ipmiLanCheckPacketSessionAuthenticationCode (digests : Digests) (pkt : List Byte)
    (authenticationType : Byte) (password : List Byte) : Except Stop Bool := do
  if !authenticationTypeSupported authenticationType ∨ password.length > ipmi15MaxPasswordLength then
    .error (.errno .einval)
  else
    let rmcpHdrLen ← orTemplateInvalid (fiidTemplateLenBytes tmplRmcpHdr)
    let authenticationTypeIndex ← orTemplateInvalid
      (fiidTemplateFieldStartBytes tmplLanSessionHdr "authentication_type")
    let authenticationTypeOffset := rmcpHdrLen + authenticationTypeIndex
    if pkt.length < authenticationTypeOffset then return false
    else
      let authenticationTypeRecv ← readByte pkt authenticationTypeOffset
      if authenticationType ≠ authenticationTypeRecv then return false
      else if authenticationTypeRecv = ipmiAuthenticationTypeNone then return true
      else
        let authenticationCodeIndex ← orTemplateInvalid
          (fiidTemplateFieldStartBytes tmplLanSessionHdr "authentication_code")
        let authenticationCodeOffset := rmcpHdrLen + authenticationCodeIndex
        if pkt.length < authenticationCodeOffset + ipmi15MaxPasswordLength then return false
        else
          let recv := (pkt.drop authenticationCodeOffset).take ipmi15MaxPasswordLength
          if authenticationType = ipmiAuthenticationTypeMd2
              ∨ authenticationType = ipmiAuthenticationTypeMd5 then
            let sessionIdIndex ← orTemplateInvalid
              (fiidTemplateFieldStartBytes tmplLanSessionHdr "session_id")
            let sessionSequenceNumberIndex ← orTemplateInvalid
              (fiidTemplateFieldStartBytes tmplLanSessionHdr "session_sequence_number")
            let sessionIdLen ← orTemplateInvalid
              (fiidTemplateFieldLenBytes tmplLanSessionHdr "session_id")
            let sessionSequenceNumberLen ← orTemplateInvalid
              (fiidTemplateFieldLenBytes tmplLanSessionHdr "session_sequence_number")
            let dataIndex ← orTemplateInvalid (fiidTemplateLenBytes tmplLanSessionHdr)
            let sessionIdOffset := rmcpHdrLen + sessionIdIndex
            let sessionSequenceNumberOffset := rmcpHdrLen + sessionSequenceNumberIndex
            let dataOffset := rmcpHdrLen + dataIndex
            if pkt.length < sessionIdOffset + sessionIdLen
                ∨ pkt.length < sessionSequenceNumberOffset + sessionSequenceNumberLen
                ∨ pkt.length < dataOffset then return false
            else
              return authenticationCodeCalc digests authenticationType password
                ((pkt.drop sessionIdOffset).take sessionIdLen) (pkt.drop dataOffset)
                ((pkt.drop sessionSequenceNumberOffset).take sessionSequenceNumberLen) = recv
          else return pwbuf password = recv

/-! ### Checksums -/

/-- `ipmi_lan_check_checksum`. -/
def ipmiLanCheckChecksum (objLanMsgHdr objCmd objLanMsgTrlr : FiidObj) : Except Stop Bool := do
  fiidObjTemplateCompareStrict objLanMsgHdr tmplLanMsgHdrRs
  fiidObjTemplateCompareStrict objLanMsgTrlr tmplLanMsgTrlr
  let objLanMsgHdrLen ← fiidObjLenBytes objLanMsgHdr
  let objCmdLen ← fiidObjLenBytes objCmd
  let checksum1Recv ← fiidObjGetStrict objLanMsgHdr "checksum1"
  let (objLen, buf1) ← fiidObjGetBlock objLanMsgHdr "rq_addr" "net_fn" objLanMsgHdrLen
  if checksum1Recv.setWidth 8 ≠ ipmiChecksum (buf1.take objLen) then return false
  else
    let checksum2Recv ← fiidObjGetStrict objLanMsgTrlr "checksum2"
    let buflen := objLanMsgHdrLen + objCmdLen
    let (buf2, len) ← putBlock (List.replicate buflen 0) 0 objLanMsgHdr "rs_addr" "rq_seq"
    let (buf2, len) ← putAll buf2 len objCmd
    return checksum2Recv.setWidth 8 = ipmiChecksum (buf2.take len)

/-- `ipmi_lan_check_packet_checksum`. -/
def ipmiLanCheckPacketChecksum (pkt : List Byte) : Except Stop Bool := do
  if pkt.length = 0 then .error (.errno .einval)
  else
    let rmcpHdrLen ← orTemplateInvalid (fiidTemplateLenBytes tmplRmcpHdr)
    let authenticationTypeStartBytes ← orTemplateInvalid
      (fiidTemplateFieldStartBytes tmplLanSessionHdr "authentication_type")
    let authenticationTypeOffset := rmcpHdrLen + authenticationTypeStartBytes
    let authenticationType ← readByte pkt authenticationTypeOffset
    let msgHdrLen1 ← orTemplateInvalid
      (fiidTemplateBlockLenBytes tmplLanSessionHdr "authentication_type" "session_id")
    let authenticationCodeLen :=
      if authenticationType ≠ ipmiAuthenticationTypeNone then ipmi15MaxPasswordLength else 0
    let msgHdrLen2 ← orTemplateInvalid (fiidTemplateFieldLenBytes tmplLanSessionHdr "ipmi_msg_len")
    let checksum1BlockIndex := rmcpHdrLen + msgHdrLen1 + authenticationCodeLen + msgHdrLen2
    let checksum1BlockLen ← orTemplateInvalid
      (fiidTemplateBlockLenBytes tmplLanMsgHdrRs "rq_addr" "net_fn")
    if pkt.length < checksum1BlockIndex + checksum1BlockLen + 1 then return false
    else
      let checksum1Calc := ipmiChecksum ((pkt.drop checksum1BlockIndex).take checksum1BlockLen)
      let checksum1Recv ← readByte pkt (checksum1BlockIndex + checksum1BlockLen)
      if checksum1Calc ≠ checksum1Recv then return false
      else
        let checksum2BlockIndex := checksum1BlockIndex + checksum1BlockLen + 1
        if pkt.length ≤ checksum2BlockIndex + 1 then return false
        else
          let checksum2BlockLen := pkt.length - checksum2BlockIndex - 1
          let checksum2Calc := ipmiChecksum ((pkt.drop checksum2BlockIndex).take checksum2BlockLen)
          let checksum2Recv ← readByte pkt (checksum2BlockIndex + checksum2BlockLen)
          return checksum2Calc = checksum2Recv

end FreeIpmi.Lan
