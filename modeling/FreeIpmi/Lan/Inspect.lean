import FreeIpmi.Lan.Verify
import FreeIpmi.Rmcpplus.Check

/-! The functions that look into a raw packet, with every read of it.

    In the versions here a read outside of the packet, and a length that is a negative difference, is
    `undefined`. They are the plain ones otherwise, and the packets on which they are defined can be
    told by their length and the byte behind the RMCP header. -/

namespace FreeIpmi.Lan
open Fiid Calls Rmcpplus

/-! ### Reads and lengths -/

/-- The bytes from `i` on that are copied, hashed or compared: all of them are in the packet. -/
def readBytes (pkt : List Byte) (i n : ℕ) : Except Stop (List Byte) :=
  if i + n ≤ pkt.length then .ok ((pkt.drop i).take n) else .error .undefined

/-- A length that is a difference. -/
def lenSub (a b : ℕ) : Except Stop ℕ := if b ≤ a then .ok (a - b) else .error .undefined

theorem readBytes_of_le {pkt : List Byte} {i n : ℕ} (h : i + n ≤ pkt.length) :
    readBytes pkt i n = .ok ((pkt.drop i).take n) := if_pos h

theorem lenSub_of_le {a b : ℕ} (h : b ≤ a) : lenSub a b = .ok (a - b) := if_pos h

theorem readByte_of_lt {pkt : List Byte} {i : ℕ} (h : i < pkt.length) :
    readByte pkt i = .ok (pkt.getD i 0) := by
  simp [readByte, h]

theorem readByte_of_le {pkt : List Byte} {i : ℕ} (h : pkt.length ≤ i) :
    readByte pkt i = .error .undefined := by
  simp [readByte, h]

/-! ### The inspectors -/

/-- The code that the packet should have; `none` where the packet is too short to compute it. -/
def authenticationCodeCalcChecked (digests : Digests) (pkt : List Byte) (authenticationType : Byte)
    (password : List Byte) (rmcpHdrLen : ℕ) : Except Stop (Option (List Byte)) := do
  if authenticationType = ipmiAuthenticationTypeMd2 ∨ authenticationType = ipmiAuthenticationTypeMd5 then
    let sessionIdIndex ← orTemplateInvalid (fiidTemplateFieldStartBytes tmplLanSessionHdr "session_id")
    let sessionSequenceNumberIndex ← orTemplateInvalid
      (fiidTemplateFieldStartBytes tmplLanSessionHdr "session_sequence_number")
    let sessionIdLen ← orTemplateInvalid (fiidTemplateFieldLenBytes tmplLanSessionHdr "session_id")
    let sessionSequenceNumberLen ← orTemplateInvalid
      (fiidTemplateFieldLenBytes tmplLanSessionHdr "session_sequence_number")
    let dataIndex ← orTemplateInvalid (fiidTemplateLenBytes tmplLanSessionHdr)
    let sessionIdOffset := rmcpHdrLen + sessionIdIndex
    let sessionSequenceNumberOffset := rmcpHdrLen + sessionSequenceNumberIndex
    let dataOffset := rmcpHdrLen + dataIndex
    if pkt.length < sessionIdOffset + sessionIdLen
        ∨ pkt.length < sessionSequenceNumberOffset + sessionSequenceNumberLen
        ∨ pkt.length < dataOffset then return none
    else
      let sessionId ← readBytes pkt sessionIdOffset sessionIdLen
      let dataLen ← lenSub pkt.length dataOffset
      let data ← readBytes pkt dataOffset dataLen
      let sessionSequenceNumber ← readBytes pkt sessionSequenceNumberOffset sessionSequenceNumberLen
      return some (authenticationCodeCalc digests authenticationType password sessionId data
        sessionSequenceNumber)
  else return some (pwbuf password)

/-- `ipmi_lan_check_packet_session_authentication_code`. -/
def ipmiLanCheckPacketSessionAuthenticationCodeChecked (digests : Digests) (pkt : List Byte)
    (authenticationType : Byte) (password : List Byte) : Except Stop Bool := do
  if !authenticationTypeSupported authenticationType ∨ password.length > ipmi15MaxPasswordLength then
    .error (.errno .einval)
  else
    let rmcpHdrLen ← orTemplateInvalid (fiidTemplateLenBytes tmplRmcpHdr)
    let authenticationTypeIndex ← orTemplateInvalid
      (fiidTemplateFieldStartBytes tmplLanSessionHdr "authentication_type")
    let authenticationTypeOffset := rmcpHdrLen + authenticationTypeIndex
    if pkt.length < authenticationTypeOffset then return false
    else
      let authenticationTypeRecv ← readByte pkt authenticationTypeOffset
      if authenticationType ≠ authenticationTypeRecv then return false
      else if authenticationTypeRecv = ipmiAuthenticationTypeNone then return true
      else
        let authenticationCodeIndex ← orTemplateInvalid
          (fiidTemplateFieldStartBytes tmplLanSessionHdr "authentication_code")
        let authenticationCodeOffset := rmcpHdrLen + authenticationCodeIndex
        if pkt.length < authenticationCodeOffset + ipmi15MaxPasswordLength then return false
        else
          match ← authenticationCodeCalcChecked digests pkt authenticationType password rmcpHdrLen with
          | none => return false
          | some code =>
            let recv ← readBytes pkt authenticationCodeOffset ipmi15MaxPasswordLength
            return code = recv

/-- `ipmi_lan_check_packet_checksum`. -/
def ipmiLanCheckPacketChecksumChecked (pkt : List Byte) : Except Stop Bool := do
  if pkt.length = 0 then .error (.errno .einval)
  else
    let rmcpHdrLen ← orTemplateInvalid (fiidTemplateLenBytes tmplRmcpHdr)
    let authenticationTypeStartBytes ← orTemplateInvalid
      (fiidTemplateFieldStartBytes tmplLanSessionHdr "authentication_type")
    let authenticationTypeOffset := rmcpHdrLen + authenticationTypeStartBytes
    let authenticationType ← readByte pkt authenticationTypeOffset
    let msgHdrLen1 ← orTemplateInvalid
      (fiidTemplateBlockLenBytes tmplLanSessionHdr "authentication_type" "session_id")
    let authenticationCodeLen :=
      if authenticationType ≠ ipmiAuthenticationTypeNone then ipmi15MaxPasswordLength else 0
    let msgHdrLen2 ← orTemplateInvalid (fiidTemplateFieldLenBytes tmplLanSessionHdr "ipmi_msg_len")
    let checksum1BlockIndex := rmcpHdrLen + msgHdrLen1 + authenticationCodeLen + msgHdrLen2
    let checksum1BlockLen ← orTemplateInvalid
      (fiidTemplateBlockLenBytes tmplLanMsgHdrRs "rq_addr" "net_fn")
    if pkt.length < checksum1BlockIndex + checksum1BlockLen + 1 then return false
    else
      let checksum1Block ← readBytes pkt checksum1BlockIndex checksum1BlockLen
      let checksum1Recv ← readByte pkt (checksum1BlockIndex + checksum1BlockLen)
      if ipmiChecksum checksum1Block ≠ checksum1Recv then return false
      else
        let checksum2BlockIndex := checksum1BlockIndex + checksum1BlockLen + 1
        if pkt.length ≤ checksum2BlockIndex + 1 then return false
        else
          let rest ← lenSub pkt.length checksum2BlockIndex
          let checksum2BlockLen ← lenSub rest 1
          let checksum2Block ← readBytes pkt checksum2BlockIndex checksum2BlockLen
          let checksum2Recv ← readByte pkt (checksum2BlockIndex + checksum2BlockLen)
          return ipmiChecksum checksum2Block = checksum2Recv

/-- `ipmi_rmcpplus_calculate_payload_type`. -/
def ipmiRmcpplusCalculatePayloadTypeChecked (pkt : List Byte) : Except Stop Byte := do
  if pkt.length = 0 then .error (.errno .einval)
  else
    let rmcpHdrLen ← orTemplateInvalid (fiidTemplateLenBytes tmplRmcpHdr)
    if pkt.length ≤ rmcpHdrLen then .error (.errno .einval)
    else
      let authType ← readByte pkt rmcpHdrLen
      if authType ≠ ipmiAuthenticationTypeRmcpplus then .error (.errno .einval)
      else
        let byte ← readByte pkt (rmcpHdrLen + 1)
        let payloadType := byte &&& 0x3F
        if !ipmiPayloadTypeValid payloadType then .error (.errno .einval) else return payloadType

/-- What both functions on the version of a packet read: the low half of the byte behind the RMCP
    header. -/
def authTypeChecked (pkt : List Byte) : Except Stop Byte := do
  let rmcpHdrLen ← orTemplateInvalid (fiidTemplateLenBytes tmplRmcpHdr)
  if pkt.length ≤ rmcpHdrLen then .error (.errno .einval)
  else
    let authType ← readByte pkt rmcpHdrLen
    return authType &&& 0x0F

/-- `ipmi_is_ipmi_1_5_packet`. -/
def ipmiIsIpmi15PacketChecked (pkt : List Byte) : Except Stop Bool := do
  let authType ← authTypeChecked pkt
  return authType ≠ ipmiAuthenticationTypeRmcpplus

/-- `ipmi_is_ipmi_2_0_packet`. -/
def ipmiIsIpmi20PacketChecked (pkt : List Byte) : Except Stop Bool := do
  let authType ← authTypeChecked pkt
  return authType = ipmiAuthenticationTypeRmcpplus

/-! ### They are the plain functions -/

section Plain
variable (digests : Digests) (pkt : List Byte) (authenticationType : Byte) (password : List Byte)

/-- The code is computed from bytes of the packet wherever the packet is long enough. -/
theorem authenticationCodeCalcChecked_eq : authenticationCodeCalcChecked digests pkt authenticationType password 4
    = if authenticationType = ipmiAuthenticationTypeMd2 ∨ authenticationType = ipmiAuthenticationTypeMd5 then
        if pkt.length < 30 then .ok none
        else .ok (some (authenticationCodeCalc digests authenticationType password
          ((pkt.drop 9).take 4) (pkt.drop 30) ((pkt.drop 5).take 4)))
      else .ok (some (pwbuf password)) := by
  simp only [authenticationCodeCalcChecked, fieldStartBytes_id, fieldStartBytes_sequenceNumber,
    fieldLenBytes_id, fieldLenBytes_sequenceNumber, lenBytes_sessionHdr, ok_bind]
  by_cases hdigest : authenticationType = ipmiAuthenticationTypeMd2 ∨
      authenticationType = ipmiAuthenticationTypeMd5
  · rw [if_pos hdigest, if_pos hdigest]
    by_cases hshort : pkt.length < 30
    · rw [if_pos (by omega), if_pos hshort]
      rfl
    · have hdata : (pkt.drop (4 + 26)).take (pkt.length - (4 + 26)) = pkt.drop 30 := by
        rw [List.take_of_length_le]
        rw [List.length_drop]
      rw [if_neg (by omega), if_neg hshort, readBytes_of_le (by omega), lenSub_of_le (by omega), ok_bind,
        ok_bind, readBytes_of_le (by omega), ok_bind, readBytes_of_le (by omega), ok_bind, hdata]
      rfl
  · rw [if_neg hdigest, if_neg hdigest]
    rfl

theorem ipmiLanCheckPacketSessionAuthenticationCodeChecked_eq :
    ipmiLanCheckPacketSessionAuthenticationCodeChecked digests pkt authenticationType password
      = ipmiLanCheckPacketSessionAuthenticationCode digests pkt authenticationType password := by
  simp only [ipmiLanCheckPacketSessionAuthenticationCodeChecked,
    ipmiLanCheckPacketSessionAuthenticationCode, lenBytes_rmcpHdr, fieldStartBytes_type,
    fieldStartBytes_code, fieldStartBytes_id, fieldStartBytes_sequenceNumber, fieldLenBytes_id,
    fieldLenBytes_sequenceNumber, lenBytes_sessionHdr, authenticationCodeCalcChecked_eq, ok_bind]
  split
  · rfl
  · split
    · rfl
    · rcases Nat.lt_or_ge 4 pkt.length with hlong | hshort
      · rw [readByte_of_lt hlong, ok_bind, ok_bind]
        split
        · rfl
        · split
          · rfl
          · split
            · rfl
            · rename_i hcode
              have hlen : 4 + 9 + ipmi15MaxPasswordLength ≤ pkt.length := Nat.not_lt.mp hcode
              split
              · by_cases hdata : pkt.length < 30
                · have hbytes : pkt.length < 4 + 26 := hdata
                  rw [if_pos hdata, if_pos (Or.inr (Or.inr hbytes))]
                  rfl
                · rw [if_neg hdata, if_neg (by omega)]
                  simp only [ok_bind, readBytes_of_le hlen]
              · simp only [ok_bind, readBytes_of_le hlen]
      · rw [readByte_of_le hshort]
        rfl

theorem ipmiLanCheckPacketChecksumChecked_eq :
    ipmiLanCheckPacketChecksumChecked pkt = ipmiLanCheckPacketChecksum pkt := by
  simp only [ipmiLanCheckPacketChecksumChecked, ipmiLanCheckPacketChecksum, lenBytes_rmcpHdr,
    fieldStartBytes_type, blockLenBytes_session, fieldLenBytes_msgLen, blockLenBytes_checksum1, ok_bind]
  split
  · rfl
  · congr 1
    funext authenticationType
    generalize (if authenticationType ≠ ipmiAuthenticationTypeNone then ipmi15MaxPasswordLength else 0) = c
    split
    · rfl
    · rename_i hlong
      rw [readBytes_of_le (by omega), ok_bind]
      congr 1
      funext checksum1Recv
      split
      · rfl
      · split
        · rfl
        · rename_i hmore
          rw [lenSub_of_le (by omega), ok_bind, lenSub_of_le (by omega), ok_bind, readBytes_of_le (by omega)]
          rfl

/-- The version of a packet is read where the plain function reads it. -/
theorem ipmiIsIpmi15PacketChecked_eq : ipmiIsIpmi15PacketChecked pkt = ipmiIsIpmi15Packet pkt := by
  simp only [ipmiIsIpmi15PacketChecked, authTypeChecked, ipmiIsIpmi15Packet, lenBytes_rmcpHdr, ok_bind]
  split
  · rfl
  · rename_i hlong
    rw [readByte_of_lt (by omega)]
    rfl

/-- Behind the last byte there is one that the plain function is given. -/
theorem ipmiRmcpplusCalculatePayloadTypeChecked_eq (beyond : Byte)
    (h : ipmiRmcpplusCalculatePayloadTypeChecked pkt ≠ .error .undefined) :
    ipmiRmcpplusCalculatePayloadTypeChecked pkt = ipmiRmcpplusCalculatePayloadType pkt beyond := by
  simp only [ipmiRmcpplusCalculatePayloadTypeChecked, ipmiRmcpplusCalculatePayloadType, lenBytes_rmcpHdr,
    ok_bind] at h ⊢
  by_cases hlen : pkt.length ≤ 4
  · rw [if_pos hlen]
    split <;> rfl
  · rw [if_neg hlen, if_neg (by omega), readByte_of_lt (by omega), ok_bind] at h
    rw [if_neg hlen, if_neg hlen, if_neg (by omega), readByte_of_lt (by omega), ok_bind]
    split
    · rfl
    · rename_i htype
      rw [if_neg htype] at h
      rcases Nat.lt_or_ge 5 pkt.length with hlong | hshort
      · rw [readByte_of_lt hlong, ok_bind, List.getD_eq_getElem _ _ hlong, List.getD_eq_getElem _ _ hlong]
      · rw [readByte_of_le hshort] at h
        exact absurd rfl h

end Plain

/-! ### Where they are defined -/

/-- Every read is inside the packet, and every length is a number. -/
def Defined {α : Type} (x : Except Stop α) : Prop := x ≠ .error .undefined

theorem Defined.ok {α : Type} (a : α) : Defined (.ok a : Except Stop α) := by
  intro h
  cases h

theorem Defined.errno {α : Type} (e : Errno) : Defined (.error (.errno e) : Except Stop α) := by
  intro h
  cases h

section Defined
variable {digests : Digests} {pkt : List Byte} {authenticationType : Byte} {password : List Byte}

/-- A packet that ends with its RMCP header passes the length check, which is off by one. -/
theorem authenticationCode_defined :
    Defined (ipmiLanCheckPacketSessionAuthenticationCodeChecked digests pkt authenticationType password) ↔
      ¬ (authenticationTypeSupported authenticationType = true ∧
        password.length ≤ ipmi15MaxPasswordLength ∧ pkt.length = 4) := by
  simp only [ipmiLanCheckPacketSessionAuthenticationCodeChecked, lenBytes_rmcpHdr, fieldStartBytes_type,
    fieldStartBytes_code, authenticationCodeCalcChecked_eq, ok_bind, Nat.add_zero]
  by_cases hparams : (!authenticationTypeSupported authenticationType) = true ∨
      password.length > ipmi15MaxPasswordLength
  · rw [if_pos hparams]
    refine iff_of_true (Defined.errno _) ?_
    rintro ⟨hsupported, hpassword, -⟩
    rcases hparams with hnot | hlong
    · rw [hsupported] at hnot
      cases hnot
    · omega
  · rw [if_neg hparams]
    obtain ⟨hsupported, hpassword⟩ := not_or.mp hparams
    rcases Nat.lt_trichotomy pkt.length 4 with hlt | heq | hgt
    · rw [if_pos hlt]
      exact iff_of_true (Defined.ok _) fun h => by omega
    · rw [if_neg (by omega), readByte_of_le (by omega)]
      refine iff_of_false (fun h => h rfl) (not_not.mpr ⟨?_, by omega, heq⟩)
      simpa using hsupported
    · refine iff_of_true ?_ fun h => by omega
      rw [if_neg (by omega), readByte_of_lt hgt, ok_bind]
      split
      · exact Defined.ok _
      · split
        · exact Defined.ok _
        · split
          · exact Defined.ok _
          · rename_i hcode
            have hlen : 4 + 9 + ipmi15MaxPasswordLength ≤ pkt.length := Nat.not_lt.mp hcode
            split
            · split
              · exact Defined.ok _
              · simp only [ok_bind, readBytes_of_le hlen]
                exact Defined.ok _
            · simp only [ok_bind, readBytes_of_le hlen]
              exact Defined.ok _

/-- The authentication type is read before any length check. -/
theorem checksum_defined :
    Defined (ipmiLanCheckPacketChecksumChecked pkt) ↔ pkt.length = 0 ∨ 4 < pkt.length := by
  simp only [ipmiLanCheckPacketChecksumChecked_eq, ipmiLanCheckPacketChecksum, lenBytes_rmcpHdr,
    fieldStartBytes_type, blockLenBytes_session, fieldLenBytes_msgLen, blockLenBytes_checksum1, ok_bind]
  by_cases hempty : pkt.length = 0
  · rw [if_pos hempty]
    exact iff_of_true (Defined.errno _) (Or.inl hempty)
  · rw [if_neg hempty]
    rcases Nat.lt_or_ge 4 pkt.length with hlong | hshort
    · refine iff_of_true ?_ (Or.inr hlong)
      rw [readByte_of_lt hlong, ok_bind]
      generalize (if pkt.getD 4 0 ≠ ipmiAuthenticationTypeNone then ipmi15MaxPasswordLength else 0) = c
      split
      · exact Defined.ok _
      · rename_i hblock
        rw [readByte_of_lt (by omega), ok_bind]
        split
        · exact Defined.ok _
        · split
          · exact Defined.ok _
          · rw [readByte_of_lt (by omega), ok_bind]
            exact Defined.ok _
    · rw [readByte_of_le hshort]
      exact iff_of_false (fun h => h rfl) (by omega)

/-- The payload type is read behind the byte that was checked to be there. -/
theorem payloadType_defined : Defined (ipmiRmcpplusCalculatePayloadTypeChecked pkt) ↔
    ¬ (pkt.length = 5 ∧ pkt.getD 4 0 = ipmiAuthenticationTypeRmcpplus) := by
  simp only [ipmiRmcpplusCalculatePayloadTypeChecked, lenBytes_rmcpHdr, ok_bind]
  by_cases hempty : pkt.length = 0
  · rw [if_pos hempty]
    exact iff_of_true (Defined.errno _) fun h => by omega
  · rw [if_neg hempty]
    by_cases hshort : pkt.length ≤ 4
    · rw [if_pos hshort]
      exact iff_of_true (Defined.errno _) fun h => by omega
    · rw [if_neg hshort, readByte_of_lt (by omega), ok_bind]
      by_cases htype : pkt.getD 4 0 = ipmiAuthenticationTypeRmcpplus
      · rw [if_neg (not_not.mpr htype)]
        rcases Nat.lt_or_ge 5 pkt.length with hlong | hle
        · refine iff_of_true ?_ fun h => by omega
          rw [readByte_of_lt hlong, ok_bind]
          split
          · exact Defined.errno _
          · exact Defined.ok _
        · rw [readByte_of_le hle]
          exact iff_of_false (fun h => h rfl) (not_not.mpr ⟨by omega, htype⟩)
      · rw [if_pos htype]
        exact iff_of_true (Defined.errno _) fun h => htype h.2

theorem authType_defined (pkt : List Byte) : authTypeChecked pkt = .error (.errno .einval) ∨
    ∃ authType, authTypeChecked pkt = .ok authType := by
  simp only [authTypeChecked, lenBytes_rmcpHdr, ok_bind]
  split
  · exact Or.inl rfl
  · rename_i hlong
    rw [readByte_of_lt (by omega)]
    exact Or.inr ⟨_, rfl⟩

theorem isIpmi15Packet_defined : Defined (ipmiIsIpmi15PacketChecked pkt) := by
  rcases authType_defined pkt with h | ⟨authType, h⟩
  · rw [ipmiIsIpmi15PacketChecked, h]
    exact Defined.errno _
  · rw [ipmiIsIpmi15PacketChecked, h]
    exact Defined.ok _

theorem isIpmi20Packet_defined : Defined (ipmiIsIpmi20PacketChecked pkt) := by
  rcases authType_defined pkt with h | ⟨authType, h⟩
  · rw [ipmiIsIpmi20PacketChecked, h]
    exact Defined.errno _
  · rw [ipmiIsIpmi20PacketChecked, h]
    exact Defined.ok _

/-- Which packets each of the five reads only inside: three of them read the byte behind the RMCP
    header, or the next one, without knowing that it is there. -/
theorem inspectors_defined (digests : Digests) (pkt : List Byte) (authenticationType : Byte)
    (password : List Byte) :
    (Defined (ipmiLanCheckPacketSessionAuthenticationCodeChecked digests pkt authenticationType
        password) ↔ ¬ (authenticationTypeSupported authenticationType = true ∧
          password.length ≤ ipmi15MaxPasswordLength ∧ pkt.length = 4)) ∧
      (Defined (ipmiLanCheckPacketChecksumChecked pkt) ↔ pkt.length = 0 ∨ 4 < pkt.length) ∧
      (Defined (ipmiRmcpplusCalculatePayloadTypeChecked pkt) ↔
        ¬ (pkt.length = 5 ∧ pkt.getD 4 0 = ipmiAuthenticationTypeRmcpplus)) ∧
      Defined (ipmiIsIpmi15PacketChecked pkt) ∧ Defined (ipmiIsIpmi20PacketChecked pkt) :=
  ⟨authenticationCode_defined, checksum_defined, payloadType_defined, isIpmi15Packet_defined,
    isIpmi20Packet_defined⟩

end Defined

/-- A packet that is nothing but an RMCP header: both checks of IPMI 1.5 read the byte behind it. With
    one more byte, the payload type is read behind that. -/
theorem inspectors_undefined : ¬ Defined (ipmiLanCheckPacketChecksumChecked [6, 0, 0xff, 7]) ∧
    ¬ Defined (ipmiLanCheckPacketSessionAuthenticationCodeChecked zeroDigests [6, 0, 0xff, 7]
      ipmiAuthenticationTypeNone []) ∧
    ¬ Defined (ipmiRmcpplusCalculatePayloadTypeChecked [6, 0, 0xff, 7, 6]) :=
  ⟨fun h => h rfl, fun h => h rfl, fun h => h rfl⟩

end FreeIpmi.Lan
