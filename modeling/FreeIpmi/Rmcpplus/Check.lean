import FreeIpmi.Lib.LittleEndian
import FreeIpmi.Rmcpplus.Interface

/-! The checks and the keys of an IPMI 2.0 session (`util/ipmi-rmcpplus-util.c`,
    `util/ipmi-outofband-util.c`): the codes of the RAKP messages, the session keys, the paddings and
    the authentication code of a packet.

    A NULL name or password is the empty list. A digest with an empty key is one for which no key is
    set. -/

namespace FreeIpmi.Rmcpplus
open Fiid Lan LittleEndian

/-! ### Lengths -/

/-- `IPMI_2_0_MAX_PASSWORD_LENGTH`. -/
def ipmi20MaxPasswordLength : ℕ := 20

/-- `IPMI_MAX_K_G_LENGTH`. -/
def ipmiMaxKGLength : ℕ := 20

/-- `IPMI_MAX_USER_NAME_LENGTH`. -/
def ipmiMaxUserNameLength : ℕ := 16

/-- `IPMI_REMOTE_CONSOLE_RANDOM_NUMBER_LENGTH`, also that of the managed system. -/
def ipmiRandomNumberLength : ℕ := 16

/-- `IPMI_MANAGED_SYSTEM_GUID_LENGTH`. -/
def ipmiManagedSystemGuidLength : ℕ := 16

/-- `IPMI_KEY_CONSTANT_LENGTH`. -/
def ipmiKeyConstantLength : ℕ := 20

/-- `IPMI_MAX_PAYLOAD_LENGTH`. -/
def ipmiMaxPayloadLength : ℕ := 65536

/-! ### Privilege levels -/

def ipmiPrivilegeLevelCallback : Byte := 0x01
def ipmiPrivilegeLevelUser : Byte := 0x02
def ipmiPrivilegeLevelOperator : Byte := 0x03
def ipmiPrivilegeLevelAdmin : Byte := 0x04
def ipmiPrivilegeLevelOem : Byte := 0x05

/-- `IPMI_PRIVILEGE_LEVEL_VALID`. -/
def ipmiPrivilegeLevelValid (privilegeLevel : Byte) : Bool :=
  privilegeLevel == ipmiPrivilegeLevelCallback
    || privilegeLevel == ipmiPrivilegeLevelUser
    || privilegeLevel == ipmiPrivilegeLevelOperator
    || privilegeLevel == ipmiPrivilegeLevelAdmin
    || privilegeLevel == ipmiPrivilegeLevelOem

/-- `ipmi_check_open_session_maximum_privilege`. -/
def ipmiCheckOpenSessionMaximumPrivilege (privilegeLevel : Byte) (objCmd : FiidObj) :
    Except Stop Bool := do
  if !ipmiPrivilegeLevelValid privilegeLevel then .error (.errno .einval)
  else
    fiidObjTemplateCompareStrict objCmd tmplRmcpplusOpenSessionResponse
    let val ← fiidObjGetStrict objCmd "maximum_privilege_level"
    let maximumPrivilegeLevel : Byte := val.setWidth 8
    if privilegeLevel = ipmiPrivilegeLevelUser then
      return maximumPrivilegeLevel == ipmiPrivilegeLevelUser
        || maximumPrivilegeLevel == ipmiPrivilegeLevelOperator
        || maximumPrivilegeLevel == ipmiPrivilegeLevelAdmin
        || maximumPrivilegeLevel == ipmiPrivilegeLevelOem
    else if privilegeLevel = ipmiPrivilegeLevelOperator then
      return maximumPrivilegeLevel == ipmiPrivilegeLevelOperator
        || maximumPrivilegeLevel == ipmiPrivilegeLevelAdmin
        || maximumPrivilegeLevel == ipmiPrivilegeLevelOem
    else if privilegeLevel = ipmiPrivilegeLevelAdmin then
      return maximumPrivilegeLevel == ipmiPrivilegeLevelAdmin
        || maximumPrivilegeLevel == ipmiPrivilegeLevelOem
    else if privilegeLevel = ipmiPrivilegeLevelOem then
      return maximumPrivilegeLevel == ipmiPrivilegeLevelOem
    else return false

/-! ### The kind of a packet -/

/-- `ipmi_is_ipmi_1_5_packet`. -/
def ipmiIsIpmi15Packet (pkt : List Byte) : Except Stop Bool := do
  let rmcpHdrLen ← orTemplateInvalid (fiidTemplateLenBytes tmplRmcpHdr)
  if pkt.length ≤ rmcpHdrLen then .error (.errno .einval)
  else return pkt.getD rmcpHdrLen 0 &&& 0x0F ≠ ipmiAuthenticationTypeRmcpplus

/-- `ipmi_rmcpplus_calculate_payload_type`. The byte after the type is read unchecked: it is the
    one `beyond` the packet where the packet ends before it. -/
def ipmiRmcpplusCalculatePayloadType (pkt : List Byte) (beyond : Byte) : Except Stop Byte := do
  let rmcpHdrLen ← orTemplateInvalid (fiidTemplateLenBytes tmplRmcpHdr)
  if pkt.length ≤ rmcpHdrLen then .error (.errno .einval)
  else if pkt.getD rmcpHdrLen 0 ≠ ipmiAuthenticationTypeRmcpplus then .error (.errno .einval)
  else
    let payloadType := pkt.getD (rmcpHdrLen + 1) beyond &&& 0x3F
    if !ipmiPayloadTypeValid payloadType then .error (.errno .einval) else return payloadType

/-! ### Keys -/

/-- `crypt_hash` with the keyed digest of an authentication algorithm. -/
def rakpHmac (crypto : Crypto) (authenticationAlgorithm : Byte) (key data : List Byte) : List Byte :=
  if authenticationAlgorithm = ipmiAuthenticationAlgorithmRakpHmacSha1 then
    (crypto.hmacSha1 key data).toList
  else if authenticationAlgorithm = ipmiAuthenticationAlgorithmRakpHmacMd5 then
    (crypto.hmacMd5 key data).toList
  else (crypto.hmacSha256 key data).toList

/-- `IPMI_HMAC_*_DIGEST_LENGTH`. -/
def rakpDigestLen (authenticationAlgorithm : Byte) : ℕ :=
  if authenticationAlgorithm = ipmiAuthenticationAlgorithmRakpHmacSha1 then 20
  else if authenticationAlgorithm = ipmiAuthenticationAlgorithmRakpHmacMd5 then 16
  else 32

/-- The password as a key: the zeros that stand for an empty one. -/
def kUidBuf (kUid : List Byte) : List Byte :=
  if kUid.length ≠ 0 then kUid else List.replicate ipmi20MaxPasswordLength 0

def privByte (nameOnlyLookup : Bool) (requestedPrivilegeLevel : Byte) : Byte :=
  (if nameOnlyLookup then 0x10 else 0) ||| (requestedPrivilegeLevel &&& 0x0F)

/-- How the privilege level and the user name stand in the data of a digest. -/
def userData (nameOnlyLookup : Bool) (requestedPrivilegeLevel : Byte) (userName : List Byte) :
    List Byte :=
  privByte nameOnlyLookup requestedPrivilegeLevel :: BitVec.ofNat 8 userName.length :: userName

/-- `ipmi_calculate_sik`. -/
def ipmiCalculateSik (crypto : Crypto) (authenticationAlgorithm : Byte) (kG : List Byte)
    (remoteConsoleRandomNumber managedSystemRandomNumber : List Byte) (nameOnlyLookup : Bool)
    (requestedPrivilegeLevel : Byte) (userName : List Byte) : List Byte :=
  rakpHmac crypto authenticationAlgorithm kG
    (remoteConsoleRandomNumber.take ipmiRandomNumberLength
      ++ managedSystemRandomNumber.take ipmiRandomNumberLength
      ++ userData nameOnlyLookup requestedPrivilegeLevel userName)

/-- `_ipmi_calculate_k`, which cuts the key to the length of the digest. -/
def ipmiCalculateK (crypto : Crypto) (authenticationAlgorithm : Byte) (sikKey : List Byte)
    (constant : Byte) : Except Stop (List Byte) :=
  if !(authenticationAlgorithm == ipmiAuthenticationAlgorithmRakpHmacSha1
      || authenticationAlgorithm == ipmiAuthenticationAlgorithmRakpHmacMd5
      || authenticationAlgorithm == ipmiAuthenticationAlgorithmRakpHmacSha256)
      ∨ sikKey.length < rakpDigestLen authenticationAlgorithm then .error (.errno .einval)
  else .ok (rakpHmac crypto authenticationAlgorithm
    (sikKey.take (rakpDigestLen authenticationAlgorithm))
    (List.replicate ipmiKeyConstantLength constant))

/-- `ipmi_calculate_k1`. -/
def ipmiCalculateK1 (crypto : Crypto) (authenticationAlgorithm : Byte) (sikKey : List Byte) :
    Except Stop (List Byte) := ipmiCalculateK crypto authenticationAlgorithm sikKey 0x01

/-- `ipmi_calculate_k2`. -/
def ipmiCalculateK2 (crypto : Crypto) (authenticationAlgorithm : Byte) (sikKey : List Byte) :
    Except Stop (List Byte) := ipmiCalculateK crypto authenticationAlgorithm sikKey 0x02

/-- The integrity algorithms that `IPMI_CIPHER_SUITE_COMBINATION_VALID` pairs with a keyed
    authentication algorithm and any confidentiality algorithm. -/
def cipherSuitePair (authentication integrity : Byte) : Bool :=
  (authentication == ipmiAuthenticationAlgorithmRakpHmacSha1
      && integrity == ipmiIntegrityAlgorithmHmacSha196)
    || (authentication == ipmiAuthenticationAlgorithmRakpHmacMd5
      && (integrity == ipmiIntegrityAlgorithmHmacMd5128
        || integrity == ipmiIntegrityAlgorithmMd5128))
    || (authentication == ipmiAuthenticationAlgorithmRakpHmacSha256
      && integrity == ipmiIntegrityAlgorithmHmacSha256128)

/-- `IPMI_CIPHER_SUITE_COMBINATION_VALID`. -/
def ipmiCipherSuiteCombinationValid (a : Algorithms) : Bool :=
  (ipmiAuthenticationAlgorithmSupported a.authentication
      && a.integrity == ipmiIntegrityAlgorithmNone
      && a.confidentiality == ipmiConfidentialityAlgorithmNone)
    || (cipherSuitePair a.authentication a.integrity
      && (a.confidentiality == ipmiConfidentialityAlgorithmNone
        || a.confidentiality == ipmiConfidentialityAlgorithmAesCbc128
        || a.confidentiality == ipmiConfidentialityAlgorithmXrc4128
        || a.confidentiality == ipmiConfidentialityAlgorithmXrc440))

/-- The keys of a session, as the bytes up to their lengths. -/
structure SessionKeys where
  sik : Option (List Byte)
  integrity : Option (List Byte)
  confidentiality : Option (List Byte)
  deriving DecidableEq

/-- A key that a buffer has room for. -/
def intoBuffer (bufLen : ℕ) (key : List Byte) : Except Stop (Option (List Byte)) :=
  if bufLen < key.length then .error (.errno .emsgsize) else .ok (some key)

/-- The integrity key. -/
def integrityKeyOf (crypto : Crypto) (algorithms : Algorithms) (authenticationCodeData : List Byte)
    (bufLen : ℕ) (sik : Option (List Byte)) : Except Stop (Option (List Byte)) := do
  if algorithms.integrity = ipmiIntegrityAlgorithmNone then return none
  else if algorithms.integrity = ipmiIntegrityAlgorithmMd5128 then
    intoBuffer bufLen authenticationCodeData
  else
    let k1 ← ipmiCalculateK1 crypto algorithms.authentication (sik.getD [])
    intoBuffer bufLen k1

/-- The confidentiality key. -/
def confidentialityKeyOf (crypto : Crypto) (algorithms : Algorithms) (bufLen : ℕ)
    (sik : Option (List Byte)) : Except Stop (Option (List Byte)) := do
  if algorithms.confidentiality = ipmiConfidentialityAlgorithmNone then return none
  else
    let k2 ← ipmiCalculateK2 crypto algorithms.authentication (sik.getD [])
    intoBuffer bufLen k2

/-- The session integrity key; the key is `k_g`, or else the password. -/
def sikKeyOf (crypto : Crypto) (algorithms : Algorithms) (authenticationCodeData kG : List Byte)
    (remoteConsoleRandomNumber managedSystemRandomNumber : List Byte) (nameOnlyLookup : Bool)
    (requestedPrivilegeLevel : Byte) (userName : List Byte) (bufLen : ℕ) :
    Except Stop (Option (List Byte)) := do
  if algorithms.authentication = ipmiAuthenticationAlgorithmRakpNone then return none
  else if authenticationCodeData.length > ipmi20MaxPasswordLength
      ∨ kG.length > ipmiMaxKGLength
      ∨ remoteConsoleRandomNumber.length < ipmiRandomNumberLength
      ∨ managedSystemRandomNumber.length < ipmiRandomNumberLength
      ∨ !ipmiPrivilegeLevelValid requestedPrivilegeLevel
      ∨ userName.length > ipmiMaxUserNameLength then .error (.errno .einval)
  else
    let kG := if kG.length ≠ 0 then kG else kUidBuf authenticationCodeData
    intoBuffer bufLen (ipmiCalculateSik crypto algorithms.authentication kG remoteConsoleRandomNumber
      managedSystemRandomNumber nameOnlyLookup requestedPrivilegeLevel userName)

/-- `ipmi_calculate_rmcpplus_session_keys`: the buffers are given by what the pointers point to. -/
def ipmiCalculateRmcpplusSessionKeys (crypto : Crypto) (algorithms : Algorithms)
    (authenticationCodeData kG remoteConsoleRandomNumber managedSystemRandomNumber : List Byte)
    (nameOnlyLookup : Bool) (requestedPrivilegeLevel : Byte) (userName : List Byte)
    (bufs : SessionKeys) : Except Stop SessionKeys := do
  if !ipmiCipherSuiteCombinationValid algorithms
      ∨ !ipmiAuthenticationAlgorithmSupported algorithms.authentication
      ∨ !ipmiIntegrityAlgorithmSupported algorithms.integrity
      ∨ !ipmiConfidentialityAlgorithmSupported algorithms.confidentiality
      ∨ (bufs.sik.getD []).length = 0 ∨ (bufs.integrity.getD []).length = 0
      ∨ (bufs.confidentiality.getD []).length = 0 then .error (.errno .einval)
  else
    let sik ← sikKeyOf crypto algorithms authenticationCodeData kG remoteConsoleRandomNumber
      managedSystemRandomNumber nameOnlyLookup requestedPrivilegeLevel userName
      (bufs.sik.getD []).length
    let integrity ← integrityKeyOf crypto algorithms authenticationCodeData
      (bufs.integrity.getD []).length sik
    let confidentiality ← confidentialityKeyOf crypto algorithms
      (bufs.confidentiality.getD []).length sik
    return ⟨sik, integrity, confidentiality⟩

/-! ### RAKP messages -/

/-- The key exchange authentication code that RAKP message 2 is to carry. -/
def rakp2Code (crypto : Crypto) (authenticationAlgorithm : Byte) (kUid : List Byte)
    (remoteConsoleSessionId managedSystemSessionId : BitVec 32)
    (remoteConsoleRandomNumber managedSystemRandomNumber managedSystemGuid : List Byte)
    (nameOnlyLookup : Bool) (requestedPrivilegeLevel : Byte) (userName : List Byte) : List Byte :=
  rakpHmac crypto authenticationAlgorithm (kUidBuf kUid)
    (leBytes 4 remoteConsoleSessionId.toNat ++ leBytes 4 managedSystemSessionId.toNat
      ++ remoteConsoleRandomNumber.take ipmiRandomNumberLength
      ++ managedSystemRandomNumber.take ipmiRandomNumberLength
      ++ managedSystemGuid.take ipmiManagedSystemGuidLength
      ++ userData nameOnlyLookup requestedPrivilegeLevel userName)

/-- `ipmi_rmcpplus_check_rakp_2_key_exchange_authentication_code`. -/
def ipmiRmcpplusCheckRakp2KeyExchangeAuthenticationCode (crypto : Crypto)
    (authenticationAlgorithm : Byte) (kUid : List Byte)
    (remoteConsoleSessionId managedSystemSessionId : BitVec 32)
    (remoteConsoleRandomNumber managedSystemRandomNumber managedSystemGuid : List Byte)
    (nameOnlyLookup : Bool) (requestedPrivilegeLevel : Byte) (userName : List Byte)
    (objCmd : FiidObj) : Except Stop Bool := do
  if !ipmiAuthenticationAlgorithmSupported authenticationAlgorithm
      ∨ kUid.length > ipmi20MaxPasswordLength
      ∨ remoteConsoleRandomNumber.length < ipmiRandomNumberLength
      ∨ managedSystemRandomNumber.length < ipmiRandomNumberLength
      ∨ managedSystemGuid.length < ipmiManagedSystemGuidLength
      ∨ !ipmiPrivilegeLevelValid requestedPrivilegeLevel
      ∨ userName.length > ipmiMaxUserNameLength then .error (.errno .einval)
  else
    fiidObjTemplateCompareStrict objCmd tmplRmcpplusRakpMessage2
    let code ← fiidObjGetData objCmd "key_exchange_authentication_code" 32
    if authenticationAlgorithm = ipmiAuthenticationAlgorithmRakpNone then return code.length = 0
    else if code.length < rakpDigestLen authenticationAlgorithm then return false
    else
      return code = rakp2Code crypto authenticationAlgorithm kUid remoteConsoleSessionId
        managedSystemSessionId remoteConsoleRandomNumber managedSystemRandomNumber managedSystemGuid
        nameOnlyLookup requestedPrivilegeLevel userName

/-- How much of the integrity check value is compared. -/
def rakp4CompareLen (authenticationAlgorithm : Byte) : ℕ :=
  if authenticationAlgorithm = ipmiAuthenticationAlgorithmRakpHmacSha1 then 12
  else 16

/-- The digest that the integrity check value of RAKP message 4 is cut from. -/
def rakp4Digest (crypto : Crypto) (authenticationAlgorithm : Byte) (sikKey : List Byte)
    (remoteConsoleRandomNumber : List Byte) (managedSystemSessionId : BitVec 32)
    (managedSystemGuid : List Byte) : List Byte :=
  rakpHmac crypto authenticationAlgorithm sikKey
    (remoteConsoleRandomNumber.take ipmiRandomNumberLength
      ++ leBytes 4 managedSystemSessionId.toNat
      ++ managedSystemGuid.take ipmiManagedSystemGuidLength)

/-- `ipmi_rmcpplus_check_rakp_4_integrity_check_value`. -/
def ipmiRmcpplusCheckRakp4IntegrityCheckValue (crypto : Crypto) (authenticationAlgorithm : Byte)
    (sikKey : Option (List Byte)) (remoteConsoleRandomNumber : List Byte)
    (managedSystemSessionId : BitVec 32) (managedSystemGuid : List Byte) (objCmd : FiidObj) :
    Except Stop Bool := do
  if !ipmiAuthenticationAlgorithmSupported authenticationAlgorithm
      ∨ remoteConsoleRandomNumber.length < ipmiRandomNumberLength
      ∨ managedSystemGuid.length < ipmiManagedSystemGuidLength then .error (.errno .einval)
  else
    fiidObjTemplateCompareStrict objCmd tmplRmcpplusRakpMessage4
    if authenticationAlgorithm ≠ ipmiAuthenticationAlgorithmRakpNone
        ∧ (sikKey.getD []).length < rakpDigestLen authenticationAlgorithm then
      .error (.errno .einval)
    else
      let icv ← fiidObjGetData objCmd "integrity_check_value" 64
      if authenticationAlgorithm = ipmiAuthenticationAlgorithmRakpNone then return icv.length = 0
      else
        let compareLen := rakp4CompareLen authenticationAlgorithm
        if icv.length < compareLen then return false
        else
          return (rakp4Digest crypto authenticationAlgorithm (sikKey.getD [])
              remoteConsoleRandomNumber managedSystemSessionId managedSystemGuid).take compareLen
            = icv.take compareLen

/-! ### Paddings -/

/-- `IPMI_INTEGRITY_PAD_DATA`. -/
def ipmiIntegrityPadData : Byte := 0xFF

/-- `ipmi_rmcpplus_check_payload_pad`. -/
def ipmiRmcpplusCheckPayloadPad (confidentialityAlgorithm : Byte) (objRmcpplusPayload : FiidObj) :
    Except Stop Bool := do
  if !ipmiConfidentialityAlgorithmSupported confidentialityAlgorithm then .error (.errno .einval)
  else
    fiidObjTemplateCompareStrict objRmcpplusPayload tmplRmcpplusPayload
    if confidentialityAlgorithm = ipmiConfidentialityAlgorithmNone then return true
    else
      let trlr ← fiidObjGetData objRmcpplusPayload "confidentiality_trailer" 64
      if trlr.length = 0 then return false
      else
        let padLen := trlr.getLastD 0
        if BitVec.ofNat 8 (trlr.length - 1) ≠ padLen then return false
        else
          return (List.range padLen.toNat).all fun i => trlr.getD i 0 == BitVec.ofNat 8 (i + 1)

/-- `ipmi_rmcpplus_check_integrity_pad`. -/
def ipmiRmcpplusCheckIntegrityPad (objRmcpplusSessionTrlr : FiidObj) : Except Stop Bool := do
  fiidObjTemplateCompareStrict objRmcpplusSessionTrlr tmplRmcpplusSessionTrlr
  let val ← fiidObjGetStrict objRmcpplusSessionTrlr "pad_length"
  let padLength := (val.setWidth 8).toNat
  if padLength = 0 then return true
  else if padLength > ipmiIntegrityPadMultiple then return false
  else
    let integrityPad ← fiidObjGetData objRmcpplusSessionTrlr "integrity_pad" 8
    return (List.range padLength).all fun i => integrityPad.getD i 0 == ipmiIntegrityPadData

/-! ### The authentication code of a packet -/

/-- What is hashed: the packet from behind its RMCP header up to the code, and for the plain digest
    the password in front of it and behind it. -/
def integrityInput (integrityAlgorithm : Byte) (pkt password : List Byte) (rmcpHeaderLen : ℕ) :
    List Byte :=
  let body := (pkt.drop rmcpHeaderLen).take
    (pkt.length - rmcpHeaderLen - authenticationCodeLen integrityAlgorithm)
  if integrityAlgorithm = ipmiIntegrityAlgorithmMd5128 then
    let pwbuf := splice (List.replicate ipmi20MaxPasswordLength 0) 0 password
    pwbuf ++ body ++ pwbuf
  else body

theorem length_integrityInput_le (integrityAlgorithm : Byte) (pkt : List Byte) {password : List Byte}
    (h : password.length ≤ ipmi20MaxPasswordLength) (rmcpHeaderLen : ℕ) :
    (integrityInput integrityAlgorithm pkt password rmcpHeaderLen).length
      ≤ pkt.length + 2 * ipmi20MaxPasswordLength := by
  have hpw : (splice (List.replicate ipmi20MaxPasswordLength 0) 0 password).length
      = ipmi20MaxPasswordLength := by
    rw [ByteBits.length_splice (by simpa using h), List.length_replicate]
  rw [integrityInput]
  split
  · rw [List.length_append, List.length_append, hpw, List.length_take, List.length_drop]
    omega
  · rw [List.length_take, List.length_drop]
    omega

/-- The digest of an integrity algorithm. -/
def integrityDigest (crypto : Crypto) (integrityAlgorithm : Byte) (integrityKey : List Byte)
    (input : List Byte) : List Byte :=
  if integrityAlgorithm = ipmiIntegrityAlgorithmHmacSha196 then
    (crypto.hmacSha1 integrityKey input).toList
  else if integrityAlgorithm = ipmiIntegrityAlgorithmHmacMd5128 then
    (crypto.hmacMd5 integrityKey input).toList
  else if integrityAlgorithm = ipmiIntegrityAlgorithmMd5128 then (crypto.md5 input).toList
  else (crypto.hmacSha256 integrityKey input).toList

/-- `ipmi_rmcpplus_check_packet_session_authentication_code`. -/
def ipmiRmcpplusCheckPacketSessionAuthenticationCode (crypto : Crypto) (integrityAlgorithm : Byte)
    (pkt : List Byte) (integrityKey : Option (List Byte)) (authenticationCodeData : List Byte)
    (objRmcpplusSessionTrlr : FiidObj) : Except Stop Bool := do
  if !ipmiIntegrityAlgorithmSupported integrityAlgorithm ∨ pkt.length = 0
      ∨ authenticationCodeData.length > ipmi20MaxPasswordLength then .error (.errno .einval)
  else
    fiidObjTemplateCompareStrict objRmcpplusSessionTrlr tmplRmcpplusSessionTrlr
    let rmcpHeaderLen ← orTemplateInvalid (fiidTemplateLenBytes tmplRmcpHdr)
    let authenticationCode ← fiidObjGetData objRmcpplusSessionTrlr "authentication_code" 32
    if integrityAlgorithm = ipmiIntegrityAlgorithmNone then return authenticationCode.length = 0
    else
      let compareDigestLen := authenticationCodeLen integrityAlgorithm
      if authenticationCode.length ≠ compareDigestLen then return false
      else if pkt.length ≤ rmcpHeaderLen + compareDigestLen then return false
      else
        let hashData := integrityInput integrityAlgorithm pkt authenticationCodeData rmcpHeaderLen
        if hashData.length > ipmiMaxPayloadLength then .error .undefined
        else
          return (integrityDigest crypto integrityAlgorithm (integrityKey.getD []) hashData).take
            compareDigestLen = authenticationCode

end FreeIpmi.Rmcpplus
