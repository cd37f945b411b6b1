import FreeIpmi.Console.Context
import FreeIpmi.Lan.Check

/-! The checks of a received packet (`libipmiconsole/ipmiconsole_checks.c`).

    A check tells whether the packet passes; it may change the context on the way: the one of the
    sequence number moves the window, and the workarounds cut the codes of the RAKP messages. -/

namespace FreeIpmi.Console
open Fiid Lan Rmcpplus Util

abbrev Check := Ctx → Except Stop (Bool × Ctx)

/-- A check that only reads. -/
def reading (check : Ctx → Except Stop Bool) : Check := fun c => do
  let passed ← check c
  return (passed, c)

/-- `FIID_OBJ_GET` of a field that is compared with an expected value. -/
def checkField {n : ℕ} (obj : FiidObj) (field : String) (expected : BitVec n) : Except Stop Bool := do
  let val ← fiidObjGetStrict obj field
  return val.setWidth n = expected

section Checks
variable (crypto : Crypto) (p : PacketType)

/-- `ipmiconsole_check_checksum`. -/
def checkChecksum (c : Ctx) : Except Stop Bool :=
  if c.config.workaround ipmiconsoleWorkaroundNoChecksumCheck then .ok true
  else ipmiLanCheckChecksum c.objs.lanMsgHdrRs (c.packetObject p) c.objs.lanMsgTrlrRs

/-- `ipmiconsole_check_authentication_code`. -/
def checkAuthenticationCode (pkt : List Byte) (c : Ctx) : Except Stop Bool :=
  ipmiRmcpplusCheckPacketSessionAuthenticationCode crypto c.config.algorithms.integrity pkt
    c.keys.integrity c.config.password c.objs.rmcpplusSessionTrlrRs

/-- `ipmiconsole_check_outbound_sequence_number`. -/
def checkOutboundSequenceNumber : Check := fun c => do
  let val ← fiidObjGetStrict c.objs.rmcpplusSessionHdrRs "session_sequence_number"
  let (passed, window) ← checkSessionSequenceNumber (val.setWidth 32) c.window 0 true
  return (passed, { c with window := window })

/-- `ipmiconsole_check_session_id`. -/
def checkSessionId (c : Ctx) : Except Stop Bool :=
  if p = .openSessionResponse ∨ p = .rakpMessage2 ∨ p = .rakpMessage4 then
    checkField (c.packetObject p) "remote_console_session_id" c.remoteConsoleSessionId
  else checkField c.objs.rmcpplusSessionHdrRs "session_id" c.remoteConsoleSessionId

/-- `ipmiconsole_check_network_function`. -/
def checkNetworkFunction (c : Ctx) : Except Stop Bool :=
  checkField c.objs.lanMsgHdrRs "net_fn" ipmiNetFnAppRs

/-- `ipmiconsole_check_command`. -/
def checkCommand (c : Ctx) : Except Stop Bool :=
  match expectedCmd p with
  | none => .error .assertion
  | some expected => checkField (c.packetObject p) "cmd" expected

/-- `ipmiconsole_check_requester_sequence_number`. -/
def checkRequesterSequenceNumber (c : Ctx) : Except Stop Bool :=
  checkField c.objs.lanMsgHdrRs "rq_seq" c.requesterSequenceNumber

/-- `ipmiconsole_check_completion_code`. -/
def checkCompletionCode (c : Ctx) : Except Stop Bool :=
  checkField (c.packetObject p) "comp_code" ipmiCompCodeCommandSuccess

/-- `ipmiconsole_check_payload_type`. -/
def checkPayloadType (c : Ctx) : Except Stop Bool :=
  checkField c.objs.rmcpplusSessionHdrRs "payload_type" (expectedPayloadType p)

/-- `ipmiconsole_check_message_tag`. -/
def checkMessageTag (c : Ctx) : Except Stop Bool :=
  checkField (c.packetObject p) "message_tag" c.messageTag

/-- `ipmiconsole_check_rmcpplus_status_code`. -/
def checkRmcpplusStatusCode (c : Ctx) : Except Stop Bool :=
  checkField (c.packetObject p) "rmcpplus_status_code" rmcpplusStatusNoErrors

/-- `ipmiconsole_check_packet`. -/
def checkPacket (c : Ctx) : Except Stop Bool := .ok (fiidObjPacketValid (c.packetObject p))

/-- `ipmiconsole_check_open_session_response_privilege`. -/
def checkOpenSessionResponsePrivilege (c : Ctx) : Except Stop Bool :=
  if c.config.workaround ipmiconsoleWorkaroundIntel20Session then
    checkField (c.packetObject .openSessionResponse) "maximum_privilege_level" c.config.privilegeLevel
  else
    ipmiCheckOpenSessionMaximumPrivilege c.config.privilegeLevel
      (c.packetObject .openSessionResponse)

/-- `ipmiconsole_check_payload_pad`. -/
def checkPayloadPad (c : Ctx) : Except Stop Bool :=
  ipmiRmcpplusCheckPayloadPad c.config.algorithms.confidentiality c.objs.rmcpplusPayloadRs

/-- `ipmiconsole_check_integrity_pad`. -/
def checkIntegrityPad (c : Ctx) : Except Stop Bool :=
  if c.config.algorithms.integrity = ipmiIntegrityAlgorithmNone then .ok true
  else ipmiRmcpplusCheckIntegrityPad c.objs.rmcpplusSessionTrlrRs

end Checks

/-! ### RAKP messages -/

/-- `ipmiconsole_packet_object (c, p)` after a change of the object. -/
def Ctx.setPacketObject (c : Ctx) (p : PacketType) (obj : FiidObj) : Ctx :=
  { c with objs := { c.objs with cmd := Function.update c.objs.cmd p obj } }

/-- The user name; some implementations pad it. -/
def Config.usernameData (config : Config) : List Byte :=
  if config.workaround ipmiconsoleWorkaroundIntel20Session then
    config.username ++ List.replicate (ipmiMaxUserNameLength - config.username.length) 0
  else config.username

/-- The password; some implementations cut it for an MD5 digest. -/
def Config.passwordData (config : Config) : List Byte :=
  if config.workaround ipmiconsoleWorkaroundIntel20Session
      ∧ config.algorithms.authentication = ipmiAuthenticationAlgorithmRakpHmacMd5 then
    config.password.take ipmi15MaxPasswordLength
  else config.password

/-- A field of 16 bytes. -/
def get16 (obj : FiidObj) (field : String) : Except Stop (List Byte) := do
  let data ← fiidObjGetData obj field 16
  if data.length ≠ 16 then .error (.fiid .internalError) else return data

/-- `managed_system_session_id` of the open session response. -/
def managedSystemSessionId (c : Ctx) : Except Stop (BitVec 32) := do
  let val ← fiidObjGetStrict (c.packetObject .openSessionResponse) "managed_system_session_id"
  return val.setWidth 32

/-- The workaround for a code with one byte too many. -/
def trimSupermicro (config : Config) (obj : FiidObj) : Except Stop FiidObj :=
  if !config.workaround ipmiconsoleWorkaroundSupermicro20Session then .ok obj
  else do
    let authentication := config.algorithms.authentication
    let keybuf ← fiidObjGetData obj "key_exchange_authentication_code" ipmiconsolePacketBuflen
    if authentication = ipmiAuthenticationAlgorithmRakpNone ∧ keybuf.length = 1 then
      fiidObjClearField obj "key_exchange_authentication_code"
    else if (authentication = ipmiAuthenticationAlgorithmRakpHmacSha1
        ∨ authentication = ipmiAuthenticationAlgorithmRakpHmacMd5)
        ∧ keybuf.length = rakpDigestLen authentication + 1 then do
      let (obj, _) ← fiidObjSetData obj "key_exchange_authentication_code"
        (keybuf.take (rakpDigestLen authentication))
      return obj
    else return obj

/-- `fiid_obj_clear_field` and `fiid_obj_set_data`, each of which may fail unnoticed. -/
def setCodeAgain (obj : FiidObj) (code : List Byte) : FiidObj :=
  let obj := (fiidObjClearField obj "key_exchange_authentication_code").toOption.getD obj
  match fiidObjSetData obj "key_exchange_authentication_code" code with
  | .ok (obj, _) => obj
  | .error _ => obj

/-- The other workaround for such a code, whose errors are not returned. -/
def trimSun (config : Config) (obj : FiidObj) : Except Stop FiidObj :=
  if !config.workaround ipmiconsoleWorkaroundSun20Session
      ∨ config.algorithms.authentication ≠ ipmiAuthenticationAlgorithmRakpHmacSha1 then .ok obj
  else
    match fiidObjGetData obj "key_exchange_authentication_code" 64 with
    | .error e => if e.isReturn then .ok obj else .error e
    | .ok buf =>
      if buf.length = rakpDigestLen ipmiAuthenticationAlgorithmRakpHmacSha1 + 1 then
        .ok (setCodeAgain obj (buf.take (rakpDigestLen ipmiAuthenticationAlgorithmRakpHmacSha1)))
      else .ok obj

/-- The workarounds on RAKP message 2. -/
def trimRakpMessage2 (config : Config) (obj : FiidObj) : Except Stop FiidObj := do
  let obj ← trimSupermicro config obj
  trimSun config obj

/-- The check of the code that is left. -/
def checkRakp2Code (crypto : Crypto) (c : Ctx) : Except Stop Bool := do
  let managedSystemSessionId ← managedSystemSessionId c
  let managedSystemRandomNumber ← get16 (c.packetObject .rakpMessage2) "managed_system_random_number"
  let managedSystemGuid ← get16 (c.packetObject .rakpMessage2) "managed_system_guid"
  ipmiRmcpplusCheckRakp2KeyExchangeAuthenticationCode crypto c.config.algorithms.authentication
    c.config.passwordData c.remoteConsoleSessionId managedSystemSessionId
    c.remoteConsoleRandomNumber.toList managedSystemRandomNumber managedSystemGuid
    c.nameOnlyLookup c.config.privilegeLevel c.config.usernameData (c.packetObject .rakpMessage2)

/-- `ipmiconsole_check_rakp_2_key_exchange_authentication_code`. -/
def checkRakp2KeyExchangeAuthenticationCode (crypto : Crypto) : Check := fun c => do
  let obj ← trimRakpMessage2 c.config (c.packetObject .rakpMessage2)
  let c := c.setPacketObject .rakpMessage2 obj
  let passed ← checkRakp2Code crypto c
  return (passed, c)

/-- The authentication algorithm that RAKP message 4 is checked with; none where it is refused
    unseen. -/
def Config.rakp4Algorithm (config : Config) : Option Byte :=
  if config.workaround ipmiconsoleWorkaroundIntel20Session then
    if config.algorithms.integrity = ipmiIntegrityAlgorithmHmacSha196 then
      some ipmiAuthenticationAlgorithmRakpHmacSha1
    else if config.algorithms.integrity = ipmiIntegrityAlgorithmHmacMd5128 then
      some ipmiAuthenticationAlgorithmRakpHmacMd5
    else if config.algorithms.integrity = ipmiIntegrityAlgorithmMd5128 then none
    else some ipmiAuthenticationAlgorithmRakpNone
  else some config.algorithms.authentication

/-- The workaround for a value that should be empty. -/
def trimRakpMessage4 (config : Config) (obj : FiidObj) : Except Stop FiidObj :=
  if config.workaround ipmiconsoleWorkaroundNonEmptyIntegrityCheckValue ∧ config.cipherSuiteId = 0 then
    fiidObjClearField obj "integrity_check_value"
  else .ok obj

/-- `ipmiconsole_check_rakp_4_integrity_check_value`. -/
def checkRakp4IntegrityCheckValue (crypto : Crypto) : Check := fun c =>
  match c.config.rakp4Algorithm with
  | none => .ok (false, c)
  | some authenticationAlgorithm => do
    let managedSystemSessionId ← managedSystemSessionId c
    let managedSystemGuid ← get16 (c.packetObject .rakpMessage2) "managed_system_guid"
    let obj ← trimRakpMessage4 c.config (c.packetObject .rakpMessage4)
    let c := c.setPacketObject .rakpMessage4 obj
    let passed ← ipmiRmcpplusCheckRakp4IntegrityCheckValue crypto authenticationAlgorithm c.keys.sik
      c.remoteConsoleRandomNumber.toList managedSystemSessionId managedSystemGuid obj
    return (passed, c)

end FreeIpmi.Console
