import FreeIpmi.Console.Authenticated

/-! The establishment of a session.

    Where the console authenticates itself and no workaround is configured, a session is established
    only by three messages, one after the other: each answers the last request that was sent, and the
    codes of the last two are computed from what exactly these messages carry. The objects that the
    messages are parsed into are overwritten by what arrives later; the log keeps them as they were
    accepted. -/

namespace FreeIpmi.Console
open Fiid Lan Rmcpplus Util Calls Stages LittleEndian

/-! ### Messages -/

/-- The message tag of a request. -/
def LogEntry.tag : LogEntry → Option Byte
  | .sent _ messageTag => some messageTag
  | _ => none

/-- The message tag of the last request. -/
def lastTag (log : List LogEntry) : Option Byte := (log.filterMap LogEntry.tag).getLast?

/-- The field is set, to this value. -/
def HoldsField {n : ℕ} (obj : FiidObj) (field : String) (v : BitVec n) : Prop :=
  ∃ val, fiidObjGet obj field = .ok (some val) ∧ val.setWidth n = v

/-- The message answers the last request of the log, without an error, to this console. -/
structure Reply (c : Ctx) (log : List LogEntry) (obj : FiidObj) : Prop where
  tag : ∃ messageTag, lastTag log = some messageTag ∧ HoldsField obj "message_tag" messageTag
  status : HoldsField obj "rmcpplus_status_code" rmcpplusStatusNoErrors
  sessionId : HoldsField obj "remote_console_session_id" c.remoteConsoleSessionId

/-- What the code of RAKP message 2 is a digest of: the session ids and the random numbers of both sides,
    the GUID, and the user. -/
def Ctx.rakp2Data (c : Ctx) (managedSystemSessionId : BitVec 32)
    (managedSystemRandomNumber managedSystemGuid : List Byte) : List Byte :=
  leBytes 4 c.remoteConsoleSessionId.toNat ++ leBytes 4 managedSystemSessionId.toNat
    ++ c.remoteConsoleRandomNumber.toList ++ managedSystemRandomNumber ++ managedSystemGuid
    ++ [privByte c.nameOnlyLookup c.config.privilegeLevel, BitVec.ofNat 8 c.config.username.length]
    ++ c.config.username

/-- The code of RAKP message 2 is the digest, under the password, of what it and the open session response
    carry. -/
def KeyExchange (crypto : Crypto) (c : Ctx) (openSession rakp2 : FiidObj) : Prop :=
  ∃ managedSystemSessionId managedSystemRandomNumber managedSystemGuid,
    HoldsField openSession "managed_system_session_id" managedSystemSessionId
    ∧ get16 rakp2 "managed_system_random_number" = .ok managedSystemRandomNumber
    ∧ get16 rakp2 "managed_system_guid" = .ok managedSystemGuid
    ∧ fiidObjGetData rakp2 "key_exchange_authentication_code" 32 = .ok
      (rakpHmac crypto c.config.algorithms.authentication (kUidBuf c.config.password)
        (c.rakp2Data managedSystemSessionId managedSystemRandomNumber managedSystemGuid))

/-- The keys are those of RAKP message 2. -/
def KeysFrom (crypto : Crypto) (c : Ctx) (rakp2 : FiidObj) (keys : SessionKeys) : Prop :=
  ∃ managedSystemRandomNumber,
    get16 rakp2 "managed_system_random_number" = .ok managedSystemRandomNumber
    ∧ ipmiCalculateRmcpplusSessionKeys crypto c.config.algorithms c.config.password c.config.kG
      c.remoteConsoleRandomNumber.toList managedSystemRandomNumber c.nameOnlyLookup
      c.config.privilegeLevel c.config.username initialKeys = .ok keys

/-- The value that RAKP message 4 is to carry: the digest, under the session key, of what the other two
    messages carry, cut to the length of the algorithm. -/
def IntegrityValue (crypto : Crypto) (c : Ctx) (openSession rakp2 : FiidObj) (value : List Byte) : Prop :=
  ∃ managedSystemSessionId : BitVec 32, ∃ managedSystemGuid,
    HoldsField openSession "managed_system_session_id" managedSystemSessionId
    ∧ get16 rakp2 "managed_system_guid" = .ok managedSystemGuid
    ∧ value = (rakpHmac crypto c.config.algorithms.authentication (c.keys.sik.getD [])
        (c.remoteConsoleRandomNumber.toList ++ leBytes 4 managedSystemSessionId.toNat
          ++ managedSystemGuid)).take (rakp4CompareLen c.config.algorithms.authentication)

/-- The integrity check value of RAKP message 4. -/
abbrev integrityCheckValueOf (rakp4 : FiidObj) : Except Stop (List Byte) :=
  fiidObjGetData rakp4 "integrity_check_value" 64

/-- The integrity check value of RAKP message 4 is the one computed from the other messages. -/
def IntegrityCheck (crypto : Crypto) (c : Ctx) (openSession rakp2 rakp4 : FiidObj) : Prop :=
  ∃ value, IntegrityValue crypto c openSession rakp2 value ∧ integrityCheckValueOf rakp4 = .ok value

/-- It begins with the one computed. -/
def IntegrityBegins (crypto : Crypto) (c : Ctx) (openSession rakp2 rakp4 : FiidObj) : Prop :=
  ∃ value icv, IntegrityValue crypto c openSession rakp2 value ∧ integrityCheckValueOf rakp4 = .ok icv
    ∧ value <+: icv

/-- The open session response has been accepted. -/
def Opened (c : Ctx) (log : List LogEntry) (openSession : FiidObj) : Prop :=
  ∃ before after, log = before ++ .accepted .openSessionResponse openSession :: after
    ∧ Reply c before openSession

/-- RAKP message 2 has been accepted after the open session response, and the keys are its own. -/
def Exchanged (crypto : Crypto) (c : Ctx) (log : List LogEntry) (openSession rakp2 : FiidObj) : Prop :=
  ∃ before after, log = before ++ .accepted .rakpMessage2 rakp2 :: after
    ∧ Opened c before openSession ∧ Reply c before rakp2 ∧ KeyExchange crypto c openSession rakp2
    ∧ KeysFrom crypto c rakp2 c.keys

/-- RAKP message 4 has been accepted after the other two messages. -/
def EstablishedBy (crypto : Crypto) (c : Ctx) (openSession rakp2 rakp4 : FiidObj) : Prop :=
  ∃ before after, c.log = before ++ .accepted .rakpMessage4 rakp4 :: after
    ∧ Exchanged crypto c before openSession rakp2 ∧ Reply c before rakp4
    ∧ IntegrityBegins crypto c openSession rakp2 rakp4

/-- Three such messages have been accepted. -/
def Established (crypto : Crypto) (c : Ctx) : Prop :=
  ∃ openSession rakp2 rakp4, EstablishedBy crypto c openSession rakp2 rakp4

/-! ### What the messages are checked for -/

/-- The console authenticates itself, without workarounds. -/
structure Authenticates (config : Config) : Prop where
  authentication : config.algorithms.authentication ≠ ipmiAuthenticationAlgorithmRakpNone
  workaroundFlags : config.workaroundFlags = 0

variable {crypto : Crypto} {now : ℕ} {beyond : Byte} {config : Config} {c c₁ c₂ c' : Ctx}
  {p : PacketType}

theorem Authenticates.workaround (h : Authenticates config) (flag : BitVec 32) :
    config.workaround flag = false := by
  simp [Config.workaround, h.workaroundFlags]

theorem Authenticates.passwordData (h : Authenticates config) :
    config.passwordData = config.password := by
  simp [Config.passwordData, h.workaround]

theorem Authenticates.usernameData (h : Authenticates config) :
    config.usernameData = config.username := by
  simp [Config.usernameData, h.workaround]

theorem Authenticates.trimRakpMessage2 (h : Authenticates config) (obj : FiidObj) :
    trimRakpMessage2 config obj = .ok obj := by
  simp [Console.trimRakpMessage2, trimSupermicro, trimSun, h.workaround]

theorem Authenticates.trimRakpMessage4 (h : Authenticates config) (obj : FiidObj) :
    trimRakpMessage4 config obj = .ok obj := by
  simp [Console.trimRakpMessage4, h.workaround]

theorem Authenticates.rakp4Algorithm (h : Authenticates config) :
    config.rakp4Algorithm = some config.algorithms.authentication := by
  simp [Config.rakp4Algorithm, h.workaround]

/-- A check that is enforced has passed. -/
theorem stageOf_eq_ok {check : Check} {refused : ReceiveStage}
    (hrefused : ∀ c, ∃ e, refused c = .error e) (h : stageOf check refused c = .ok c') :
    check c = .ok (true, c') := by
  unfold stageOf at h
  split at h
  · cases h
  · rename_i hcheck
    cases h
    exact hcheck
  · obtain ⟨e, he⟩ := hrefused _
    cases he.symm.trans h

theorem enforce_eq_ok {check : Ctx → Except Stop Bool} (h : enforce (reading check) c = .ok c') :
    check c = .ok true ∧ c' = c :=
  reading_eq_ok (stageOf_eq_ok (fun _ => ⟨_, rfl⟩) h)

theorem enforceOrReset_eq_ok {check : Check} (h : enforceOrReset now check c = .ok c') :
    check c = .ok (true, c') :=
  stageOf_eq_ok (fun _ => ⟨_, rfl⟩) h

theorem getStrict_eq_ok {obj : FiidObj} {field : String} {val : BitVec 64}
    (h : fiidObjGetStrict obj field = .ok val) : fiidObjGet obj field = .ok (some val) := by
  unfold fiidObjGetStrict at h
  obtain ⟨val?, hget, h⟩ := bind_eq_ok.mp h
  cases val? with
  | none => cases h
  | some val' =>
    cases h
    exact hget

/-- A field that passes its check holds the value expected. -/
theorem holdsField_of_check {n : ℕ} {obj : FiidObj} {field : String} {expected : BitVec n}
    (h : checkField obj field expected = .ok true) : HoldsField obj field expected := by
  unfold checkField at h
  obtain ⟨val, hget, h⟩ := bind_eq_ok.mp h
  exact ⟨val, getStrict_eq_ok hget, of_decide_eq_true (Except.ok.inj h)⟩

/-- What a session setup message has been checked for, up to the check of its own. -/
structure SetupChecked (p : PacketType) (c : Ctx) : Prop where
  tag : HoldsField (c.packetObject p) "message_tag" c.messageTag
  status : HoldsField (c.packetObject p) "rmcpplus_status_code" rmcpplusStatusNoErrors
  sessionId : HoldsField (c.packetObject p) "remote_console_session_id" c.remoteConsoleSessionId

theorem setupStages_eq_ok (hp : p = .openSessionResponse ∨ p = .rakpMessage2 ∨ p = .rakpMessage4)
    (h : runStages (setupStages crypto now p) c = .ok c') :
    SetupChecked p c ∧ setupStage crypto now p c = .ok c' := by
  obtain ⟨_, h₁, hrest₁⟩ := runStages_cons_eq_ok.mp h
  obtain ⟨-, rfl⟩ := enforce_eq_ok h₁
  obtain ⟨_, h₂, hrest₂⟩ := runStages_cons_eq_ok.mp hrest₁
  obtain ⟨htag, rfl⟩ := enforce_eq_ok h₂
  obtain ⟨_, h₃, hrest₃⟩ := runStages_cons_eq_ok.mp hrest₂
  obtain ⟨hstatus, rfl⟩ := reading_eq_ok (enforceOrReset_eq_ok h₃)
  obtain ⟨_, h₄, hrest₄⟩ := runStages_cons_eq_ok.mp hrest₃
  obtain ⟨-, rfl⟩ := enforce_eq_ok h₄
  obtain ⟨_, h₅, hrest₅⟩ := runStages_cons_eq_ok.mp hrest₄
  obtain ⟨hsession, rfl⟩ := enforce_eq_ok h₅
  obtain ⟨_, h₆, hrest₆⟩ := runStages_cons_eq_ok.mp hrest₅
  cases hrest₆
  unfold checkSessionId at hsession
  rw [if_pos hp] at hsession
  exact ⟨⟨holdsField_of_check htag, holdsField_of_check hstatus, holdsField_of_check hsession⟩, h₆⟩

/-! ### The codes -/

/-- A code that passes its check is the one that is computed. -/
theorem checkRakp2_spec {authentication privilege : Byte} {kUid random random' guid userName : List Byte}
    {id id' : BitVec 32} {lookup : Bool} {obj : FiidObj}
    (hne : authentication ≠ ipmiAuthenticationAlgorithmRakpNone)
    (h : ipmiRmcpplusCheckRakp2KeyExchangeAuthenticationCode crypto authentication kUid id id' random
      random' guid lookup privilege userName obj = .ok true) :
    fiidObjGetData obj "key_exchange_authentication_code" 32 = .ok
      (rakp2Code crypto authentication kUid id id' random random' guid lookup privilege userName) := by
  unfold ipmiRmcpplusCheckRakp2KeyExchangeAuthenticationCode at h
  split at h
  · cases h
  · obtain ⟨_, -, h⟩ := bind_eq_ok.mp h
    obtain ⟨code, hcode, h⟩ := bind_eq_ok.mp h
    split at h
    · cases h
    · have hcompare := of_decide_eq_true (Except.ok.inj h)
      rw [hcode, hcompare]

theorem checkRakp4_spec {authentication : Byte} {sikKey : Option (List Byte)} {random guid : List Byte}
    {id : BitVec 32} {obj : FiidObj} (hne : authentication ≠ ipmiAuthenticationAlgorithmRakpNone)
    (h : ipmiRmcpplusCheckRakp4IntegrityCheckValue crypto authentication sikKey random id guid obj
      = .ok true) :
    ∃ icv, integrityCheckValueOf obj = .ok icv
      ∧ icv.take (rakp4CompareLen authentication)
        = (rakp4Digest crypto authentication (sikKey.getD []) random id guid).take
          (rakp4CompareLen authentication) := by
  unfold ipmiRmcpplusCheckRakp4IntegrityCheckValue at h
  split at h
  · cases h
  · obtain ⟨_, -, h⟩ := bind_eq_ok.mp h
    split at h
    · cases h
    · obtain ⟨icv, hicv, h⟩ := bind_eq_ok.mp h
      dsimp only at h
      split at h
      · cases h
      · have hcompare := of_decide_eq_true (Except.ok.inj h)
        exact ⟨icv, hicv, hcompare.symm⟩

theorem setPacketObject_self (p : PacketType) (c : Ctx) :
    c.setPacketObject p (c.packetObject p) = c := by
  simp [Ctx.setPacketObject, Ctx.packetObject, Function.update_eq_self]

theorem managedSystemSessionId_spec {id : BitVec 32} (h : managedSystemSessionId c = .ok id) :
    HoldsField (c.packetObject .openSessionResponse) "managed_system_session_id" id := by
  unfold managedSystemSessionId at h
  obtain ⟨val, hget, h⟩ := bind_eq_ok.mp h
  cases h
  exact ⟨val, getStrict_eq_ok hget, rfl⟩

theorem get16_length {obj : FiidObj} {field : String} {data : List Byte} (h : get16 obj field = .ok data) :
    data.length = 16 := by
  unfold get16 at h
  obtain ⟨data', -, h⟩ := bind_eq_ok.mp h
  split at h
  · cases h
  · rename_i hlen
    cases h
    exact not_not.mp hlen

/-- The random numbers and the GUID have the lengths to which they are copied. -/
theorem take_sixteen {data : List Byte} (h : data.length = 16) : data.take 16 = data :=
  List.take_of_length_le h.le

theorem checkRakp2Code_spec (hauth : Authenticates c.config)
    (h : checkRakp2KeyExchangeAuthenticationCode crypto c = .ok (true, c')) :
    c' = c ∧ KeyExchange crypto c (c.packetObject .openSessionResponse) (c.packetObject .rakpMessage2) := by
  unfold checkRakp2KeyExchangeAuthenticationCode at h
  obtain ⟨obj, hobj, h⟩ := bind_eq_ok.mp h
  rw [hauth.trimRakpMessage2] at hobj
  cases hobj
  dsimp only at h
  rw [setPacketObject_self] at h
  obtain ⟨passed, hcheck, h⟩ := bind_eq_ok.mp h
  cases h
  refine ⟨rfl, ?_⟩
  unfold checkRakp2Code at hcheck
  obtain ⟨id, hid, hcheck⟩ := bind_eq_ok.mp hcheck
  obtain ⟨random, hrandom, hcheck⟩ := bind_eq_ok.mp hcheck
  obtain ⟨guid, hguid, hcheck⟩ := bind_eq_ok.mp hcheck
  rw [hauth.passwordData, hauth.usernameData] at hcheck
  refine ⟨id, random, guid, managedSystemSessionId_spec hid, hrandom, hguid, ?_⟩
  have hcode := checkRakp2_spec hauth.authentication hcheck
  simp only [rakp2Code, userData, ipmiRandomNumberLength, ipmiManagedSystemGuidLength,
    take_sixteen (get16_length hrandom), take_sixteen (get16_length hguid),
    take_sixteen c.remoteConsoleRandomNumber.toList_length] at hcode
  simpa [Ctx.rakp2Data] using hcode

theorem checkRakp4Value_spec (hauth : Authenticates c.config)
    (h : checkRakp4IntegrityCheckValue crypto c = .ok (true, c')) :
    c' = c ∧ IntegrityBegins crypto c (c.packetObject .openSessionResponse) (c.packetObject .rakpMessage2)
      (c.packetObject .rakpMessage4) := by
  unfold checkRakp4IntegrityCheckValue at h
  rw [hauth.rakp4Algorithm] at h
  dsimp only at h
  obtain ⟨id, hid, h⟩ := bind_eq_ok.mp h
  obtain ⟨guid, hguid, h⟩ := bind_eq_ok.mp h
  obtain ⟨obj, hobj, h⟩ := bind_eq_ok.mp h
  rw [hauth.trimRakpMessage4] at hobj
  cases hobj
  rw [setPacketObject_self] at h
  obtain ⟨passed, hcheck, h⟩ := bind_eq_ok.mp h
  cases h
  obtain ⟨icv, hicv, htake⟩ := checkRakp4_spec hauth.authentication hcheck
  refine ⟨rfl, _, icv, ⟨id, guid, managedSystemSessionId_spec hid, hguid, rfl⟩, hicv, ?_⟩
  simp only [rakp4Digest, ipmiRandomNumberLength, ipmiManagedSystemGuidLength,
    take_sixteen (get16_length hguid), take_sixteen c.remoteConsoleRandomNumber.toList_length] at htake
  exact htake ▸ List.take_prefix _ _

/-- What the check of its own says of a message. -/
def OwnCheck (crypto : Crypto) (c : Ctx) : PacketType → Prop
  | .rakpMessage2 =>
    KeyExchange crypto c (c.packetObject .openSessionResponse) (c.packetObject .rakpMessage2)
  | .rakpMessage4 =>
    IntegrityBegins crypto c (c.packetObject .openSessionResponse) (c.packetObject .rakpMessage2)
      (c.packetObject .rakpMessage4)
  | _ => True

theorem setupStage_spec (hauth : Authenticates c.config)
    (hp : p = .openSessionResponse ∨ p = .rakpMessage2 ∨ p = .rakpMessage4)
    (h : setupStage crypto now p c = .ok c') : c' = c ∧ OwnCheck crypto c p := by
  rcases hp with rfl | rfl | rfl
  · obtain ⟨-, rfl⟩ := reading_eq_ok (enforceOrReset_eq_ok h)
    exact ⟨rfl, trivial⟩
  · exact checkRakp2Code_spec hauth (enforceOrReset_eq_ok h)
  · exact checkRakp4Value_spec hauth (enforceOrReset_eq_ok h)

/-! ### The same session -/

/-- What the codes are computed from, but for the messages and the keys. -/
structure SameParty (c c' : Ctx) : Prop where
  config : c'.config = c.config
  nameOnlyLookup : c'.nameOnlyLookup = c.nameOnlyLookup
  remoteConsoleSessionId : c'.remoteConsoleSessionId = c.remoteConsoleSessionId
  remoteConsoleRandomNumber : c'.remoteConsoleRandomNumber = c.remoteConsoleRandomNumber

theorem Kept.sameParty (h : Kept c c') : SameParty c c' :=
  ⟨h.config, h.nameOnlyLookup, h.remoteConsoleSessionId, h.remoteConsoleRandomNumber⟩

variable {log log' : List LogEntry} {openSession rakp2 rakp4 obj : FiidObj} {keys : SessionKeys}

theorem Reply.congr (h : Reply c log obj) (hs : SameParty c c') : Reply c' log obj where
  tag := h.tag
  status := h.status
  sessionId := by
    rw [hs.remoteConsoleSessionId]
    exact h.sessionId

theorem KeyExchange.congr (h : KeyExchange crypto c openSession rakp2) (hs : SameParty c c') :
    KeyExchange crypto c' openSession rakp2 := by
  unfold KeyExchange Ctx.rakp2Data
  rw [hs.config, hs.remoteConsoleSessionId, hs.remoteConsoleRandomNumber, hs.nameOnlyLookup]
  exact h

theorem KeysFrom.congr (h : KeysFrom crypto c rakp2 keys) (hs : SameParty c c') :
    KeysFrom crypto c' rakp2 keys := by
  unfold KeysFrom
  rw [hs.config, hs.remoteConsoleRandomNumber, hs.nameOnlyLookup]
  exact h

theorem IntegrityBegins.congr (h : IntegrityBegins crypto c openSession rakp2 rakp4)
    (hs : SameParty c c') (hkeys : c'.keys = c.keys) :
    IntegrityBegins crypto c' openSession rakp2 rakp4 := by
  unfold IntegrityBegins IntegrityValue
  rw [hs.config, hs.remoteConsoleRandomNumber, hkeys]
  exact h

theorem Opened.congr (h : Opened c log openSession) (hs : SameParty c c') (hlog : log <+: log') :
    Opened c' log' openSession := by
  obtain ⟨before, after, rfl, hreply⟩ := h
  obtain ⟨more, rfl⟩ := hlog
  exact ⟨before, after ++ more, by simp, hreply.congr hs⟩

theorem Exchanged.congr (h : Exchanged crypto c log openSession rakp2) (hs : SameParty c c')
    (hkeys : c'.keys = c.keys) (hlog : log <+: log') : Exchanged crypto c' log' openSession rakp2 := by
  obtain ⟨before, after, rfl, hopened, hreply, hcode, hfrom⟩ := h
  obtain ⟨more, rfl⟩ := hlog
  refine ⟨before, after ++ more, by simp, hopened.congr hs (List.prefix_refl _), hreply.congr hs,
    hcode.congr hs, ?_⟩
  rw [hkeys]
  exact hfrom.congr hs

theorem Established.congr (h : Established crypto c) (hs : SameParty c c') (hkeys : c'.keys = c.keys)
    (hlog : c.log <+: c'.log) : Established crypto c' := by
  obtain ⟨openSession, rakp2, rakp4, before, after, heq, hexchanged, hreply, hcheck⟩ := h
  obtain ⟨more, hmore⟩ := hlog
  refine ⟨openSession, rakp2, rakp4, before, after ++ more, ?_,
    hexchanged.congr hs hkeys (List.prefix_refl _), hreply.congr hs, hcheck.congr hs hkeys⟩
  rw [← hmore, heq]
  simp

/-! ### Accepted messages -/

theorem OwnCheck.congr (h : OwnCheck crypto c p) (hs : SameParty c c') (hkeys : c'.keys = c.keys)
    (hobj : ∀ q, c'.packetObject q = c.packetObject q) : OwnCheck crypto c' p := by
  cases p with
  | rakpMessage2 =>
    unfold OwnCheck
    rw [hobj, hobj]
    exact KeyExchange.congr h hs
  | rakpMessage4 =>
    unfold OwnCheck
    rw [hobj, hobj, hobj]
    exact IntegrityBegins.congr h hs hkeys
  | _ => trivial

theorem acceptPacket_setup (now : ℕ) (c : Ctx)
    (hp : p = .openSessionResponse ∨ p = .rakpMessage2 ∨ p = .rakpMessage4) :
    (c.acceptPacket now p).cleanup.log = c.log ++ [.accepted p (c.packetObject p)]
      ∧ ∀ q, (c.acceptPacket now p).cleanup.packetObject q = c.packetObject q := by
  rcases hp with rfl | rfl | rfl <;> exact ⟨rfl, fun _ => rfl⟩

/-- What an accepted session setup message says. -/
structure AcceptedSetup (crypto : Crypto) (p : PacketType) (c c' : Ctx) : Prop where
  log : c'.log = c.log ++ [.accepted p (c'.packetObject p)]
  reply : Reply c c.log (c'.packetObject p)
  own : OwnCheck crypto c' p
  packetObject : ∀ q, q ≠ p → c'.packetObject q = c.packetObject q

theorem Accepts.setup (h : Accepts crypto p c c') (hauth : Authenticates c.config)
    (hp : p = .openSessionResponse ∨ p = .rakpMessage2 ∨ p = .rakpMessage4)
    (htag : lastTag c.log = some c.messageTag) : AcceptedSetup crypto p c c' := by
  obtain ⟨now, beyond, h⟩ := h
  cases h with
  | refused hrc => exact absurd rfl hrc
  | accepted hpkt h₁ h₂ hrun =>
    rename_i c₁ c₂
    have hrun : runStages (setupStages crypto now p) c₁ = .ok c₂ := by
      rcases hp with rfl | rfl | rfl <;> exact hrun
    obtain ⟨hchecked, hown⟩ := setupStages_eq_ok hp hrun
    obtain ⟨rfl, hown⟩ := setupStage_spec (by rw [h₁.config]; exact hauth) hp hown
    obtain ⟨hlog, hobj⟩ := acceptPacket_setup now c₂ hp
    have hk := (acceptPacket_kept now c₂ (p := p)).1
    refine ⟨?_, ⟨⟨c.messageTag, htag, ?_⟩, ?_, ?_⟩, hown.congr hk.sameParty hk.keys hobj, fun q hq => ?_⟩
    · rw [hlog, hobj, h₁.log]
    · rw [hobj, ← h₁.messageTag]
      exact hchecked.tag
    · rw [hobj]
      exact hchecked.status
    · rw [hobj, ← h₁.remoteConsoleSessionId]
      exact hchecked.sessionId
    · rw [hobj]
      exact h₁.packetObject q fun heq => hq (Option.some.inj heq).symm

/-! ### Invariant -/

/-- The session is established. -/
def ProtocolState.established (s : ProtocolState) : Bool := !s.beforeKeys && s != .rakpMessage3Sent

/-- How far the session has been established in a protocol state. While messages are waited for, the
    objects are those of the messages accepted before. -/
structure RakpAt (crypto : Crypto) (s : ProtocolState) (c : Ctx) : Prop where
  tag : setupPacketType s ≠ none → lastTag c.log = some c.messageTag
  opened : s = .rakpMessage1Sent → Opened c c.log (c.packetObject .openSessionResponse)
  exchanged : s = .rakpMessage3Sent →
    Exchanged crypto c c.log (c.packetObject .openSessionResponse) (c.packetObject .rakpMessage2)
  established : s.established = true → Established crypto c

abbrev RakpInv (crypto : Crypto) (c : Ctx) : Prop := RakpAt crypto c.protocolState c

variable {s s' : ProtocolState} {rq : RequestType}

theorem SentBy.lastTag_eq (h : SentBy rq c c') : lastTag c'.log = some c'.messageTag := by
  simp [lastTag, h.log, LogEntry.tag]

theorem SentBy.lastTag_moveTo (h : SentBy rq c c') (s : ProtocolState) :
    lastTag (c'.moveTo s).log = some (c'.moveTo s).messageTag := by
  have hentered : List.filterMap LogEntry.tag [LogEntry.entered s] = [] := rfl
  simp [lastTag, Ctx.moveTo, h.log, LogEntry.tag, hentered]

theorem not_established (h : setupPacketType s ≠ none) : s.established = false := by
  cases s <;> first | rfl | exact absurd rfl h

theorem Established.rakpAt (h : Established crypto c) (hs : s.established = true) : RakpAt crypto s c where
  tag hsetup := by
    rw [not_established hsetup] at hs
    cases hs
  opened h := by
    rw [h] at hs
    cases hs
  exchanged h := by
    rw [h] at hs
    cases hs
  established _ := h

/-- Before the first message nothing has been established. -/
theorem rakpAt_before (hsetup : setupPacketType s = none) (hs : s.established = false) :
    RakpAt crypto s c where
  tag h := absurd hsetup h
  opened h := by
    rw [h] at hsetup
    cases hsetup
  exchanged h := by
    rw [h] at hsetup
    cases hsetup
  established h := by
    rw [hs] at h
    cases h

/-- The session goes on in the same state. -/
theorem RakpAt.stay (h : RakpAt crypto s c) (hk : Kept c c')
    (htag : setupPacketType s ≠ none → lastTag c'.log = some c'.messageTag)
    (hobj : ∀ q, ¬ s.Awaits q → c'.packetObject q = c.packetObject q) : RakpAt crypto s c' where
  tag := htag
  opened hs := by
    have hopen : ¬ s.Awaits .openSessionResponse := by
      rw [hs]
      simp [ProtocolState.Awaits, setupPacketType, ipmiPacketType]
    rw [hobj _ hopen]
    exact (h.opened hs).congr hk.sameParty hk.log
  exchanged hs := by
    have hopen : ¬ s.Awaits .openSessionResponse := by
      rw [hs]
      simp [ProtocolState.Awaits, setupPacketType, ipmiPacketType]
    have hrakp2 : ¬ s.Awaits .rakpMessage2 := by
      rw [hs]
      simp [ProtocolState.Awaits, setupPacketType, ipmiPacketType]
    rw [hobj _ hopen, hobj _ hrakp2]
    exact (h.exchanged hs).congr hk.sameParty hk.keys hk.log
  established hs := (h.established hs).congr hk.sameParty hk.keys hk.log

/-- An established session stays established. -/
theorem RakpAt.keep (h : RakpAt crypto s c) (hk : Kept c c') (hs : s.established = true)
    (hs' : s'.established = true) : RakpAt crypto s' c' :=
  Established.rakpAt ((h.established hs).congr hk.sameParty hk.keys hk.log) hs'

theorem Turn.rakpInv (hturn : Turn s' c₁ c') (h : RakpAt crypto s c) (hk : Kept c c₁)
    (hs : s.established = true) (hs' : s'.established = true) : RakpInv crypto c' := by
  rw [RakpInv, hturn.protocolState]
  exact h.keep (hk.trans hturn.toKept) hs hs'

theorem inSession_established (h : s.inSession = true) : s.established = true := by
  cases s <;> first | rfl | cases h

/-! ### The moves keep the invariant -/

theorem Move.rakpInv_advance {c₁ : Ctx} (hs : c.protocolState.Precedes s) (h : SentBy rq c c₁)
    (hc : RakpInv crypto c) : RakpInv crypto (c₁.moveTo s) := by
  have hturn := h.turn s
  rw [RakpInv, hturn.protocolState]
  rcases hs with ⟨-, rfl⟩ | ⟨-, rfl⟩ | ⟨hs, rfl⟩ | ⟨hs, rfl⟩ | ⟨hs, rfl⟩
  · exact rakpAt_before rfl rfl
  · exact ⟨fun _ => h.lastTag_moveTo _, nofun, nofun, nofun⟩
  · exact hc.keep hturn.toKept (by rw [hs]; rfl) rfl
  · exact hc.keep hturn.toKept (by rw [hs]; rfl) rfl
  · exact hc.keep hturn.toKept (by rw [hs]; rfl) rfl

theorem Move.rakpInv_openSession (hauth : Authenticates c.config)
    (hs : c.protocolState = .openSessionRequestSent) (hacc : Accepts crypto .openSessionResponse c c₁)
    (h : SentBy rq c₁ c₂) (hc : RakpInv crypto c) : RakpInv crypto (c₂.moveTo .rakpMessage1Sent) := by
  have hsetup := hacc.setup hauth (Or.inl rfl) (hc.tag (by rw [hs]; nofun))
  have hk := hacc.kept.1
  refine ⟨fun _ => h.lastTag_moveTo _, fun _ => ?_, nofun, nofun⟩
  have hopened : Opened c₁ c₁.log (c₁.packetObject .openSessionResponse) :=
    ⟨c.log, [], hsetup.log, hsetup.reply.congr hk.sameParty⟩
  change Opened _ _ (c₂.packetObject .openSessionResponse)
  rw [h.packetObject]
  exact hopened.congr (h.turn _).sameParty (h.turn .rakpMessage1Sent).log

theorem keysFrom_cipherKeys (hauth : Authenticates c.config) (hinit : c.keys = initialKeys)
    (h : cipherKeys crypto c = .ok keys) :
    KeysFrom crypto c (c.packetObject .rakpMessage2) keys := by
  unfold cipherKeys at h
  obtain ⟨random, hrandom, h⟩ := bind_eq_ok.mp h
  rw [hauth.passwordData, hauth.usernameData, hinit] at h
  exact ⟨random, hrandom, h⟩

theorem Move.rakpInv_exchangeKeys (hauth : Authenticates c.config) (hinv : StatesInv c)
    (hs : c.protocolState = .rakpMessage1Sent) (hacc : Accepts crypto .rakpMessage2 c c₁)
    (hkeys : cipherKeys crypto c₁ = .ok keys) (h : SentBy rq { c₁ with keys := keys } c₂)
    (hc : RakpInv crypto c) : RakpInv crypto (c₂.moveTo .rakpMessage3Sent) := by
  have hsetup := hacc.setup hauth (Or.inr (Or.inl rfl)) (hc.tag (by rw [hs]; nofun))
  have hk := hacc.kept.1
  have hauth₁ : Authenticates c₁.config := by rw [hk.config]; exact hauth
  have hinit : c₁.keys = initialKeys := hk.keys.trans (hinv.keys (by rw [hs]; rfl))
  have hopened : Opened c c.log (c₁.packetObject .openSessionResponse) := by
    rw [hsetup.packetObject .openSessionResponse nofun]
    exact hc.opened hs
  have hsame : SameParty c { c₁ with keys := keys } := ⟨hk.config, hk.nameOnlyLookup,
    hk.remoteConsoleSessionId, hk.remoteConsoleRandomNumber⟩
  have hsame₁ : SameParty c₁ { c₁ with keys := keys } := ⟨rfl, rfl, rfl, rfl⟩
  have hexchanged : Exchanged crypto { c₁ with keys := keys } c₁.log
      (c₁.packetObject .openSessionResponse) (c₁.packetObject .rakpMessage2) :=
    ⟨c.log, [], hsetup.log, hopened.congr hsame (List.prefix_refl _), hsetup.reply.congr hsame,
      KeyExchange.congr hsetup.own hsame₁, (keysFrom_cipherKeys hauth₁ hinit hkeys).congr hsame₁⟩
  refine ⟨fun _ => h.lastTag_moveTo _, nofun, fun _ => ?_, nofun⟩
  change Exchanged crypto _ _ (c₂.packetObject .openSessionResponse) (c₂.packetObject .rakpMessage2)
  rw [h.packetObject, h.packetObject]
  have hturn := h.turn .rakpMessage3Sent
  exact hexchanged.congr hturn.sameParty hturn.keys hturn.log

theorem Move.rakpInv_authenticate (hauth : Authenticates c.config)
    (hs : c.protocolState = .rakpMessage3Sent) (hacc : Accepts crypto .rakpMessage4 c c₁)
    (hs' : s.established = true) (h : Turn s c₁ c') (hc : RakpInv crypto c) : RakpInv crypto c' := by
  have hsetup := hacc.setup hauth (Or.inr (Or.inr rfl)) (hc.tag (by rw [hs]; nofun))
  have hk := hacc.kept.1
  have hexchanged : Exchanged crypto c₁ c.log (c₁.packetObject .openSessionResponse)
      (c₁.packetObject .rakpMessage2) := by
    rw [hsetup.packetObject .openSessionResponse nofun, hsetup.packetObject .rakpMessage2 nofun]
    exact (hc.exchanged hs).congr hk.sameParty hk.keys (List.prefix_refl _)
  have hestablished : Established crypto c₁ :=
    ⟨_, _, _, c.log, [], hsetup.log, hexchanged, hsetup.reply.congr hk.sameParty, hsetup.own⟩
  rw [RakpInv, h.protocolState]
  exact Established.rakpAt (hestablished.congr h.sameParty h.keys h.log) hs'

/-- No move leaves the invariant. -/
theorem Move.rakpInv (h : Move crypto c c') (hauth : Authenticates c.config) (hinv : StatesInv c)
    (hc : RakpInv crypto c) : RakpInv crypto c' := by
  cases h with
  | quiet p hp h =>
    rw [RakpInv, h.protocolState]
    refine hc.stay h.kept (fun hs => ?_) fun q hq => h.packetObject q fun heq => hq (hp q heq)
    rw [h.log, h.messageTag]
    exact hc.tag hs
  | flag => exact hc.stay (kept_setCloseSessionFlag c) hc.tag fun _ _ => rfl
  | closeTimeout hs _ =>
    rw [RakpInv, hs] at hc
    exact Established.rakpAt ((hc.established rfl).congr ⟨rfl, rfl, rfl, rfl⟩ rfl (List.prefix_refl _))
      (by change c.protocolState.established = true; rw [hs]; rfl)
  | resend p _ h =>
    rw [RakpInv, h.protocolState]
    exact hc.stay h.kept (fun _ => h.lastTag_eq) fun q _ => h.packetObject q
  | notSent hs h =>
    rw [RakpInv, h.protocolState]
    exact hc.keep h.kept (inSession_established hs) (inSession_established hs)
  | accept p hsetup h =>
    rw [RakpInv, h.protocolState]
    cases hs : c.protocolState.established with
    | true => exact hc.keep h.kept.1 hs hs
    | false => exact rakpAt_before hsetup hs
  | advance p s hs _ h => exact Move.rakpInv_advance hs h hc
  | openSession hs _ hacc h => exact Move.rakpInv_openSession hauth hs hacc h hc
  | exchangeKeys hs _ hacc hkeys h => exact Move.rakpInv_exchangeKeys hauth hinv hs hacc hkeys h hc
  | authenticate hs _ hacc hs' h =>
    refine Move.rakpInv_authenticate hauth hs hacc ?_ h.1 hc
    rcases hs' with rfl | rfl <;> rfl
  | activate hs _ h => exact h.1.rakpInv hc (Kept.refl c) (by rw [hs]; rfl) rfl
  | activateIdle i hs _ honly h => exact h.1.rakpInv hc { Kept.refl c with } (by rw [hs]; rfl) rfl
  | activatedElsewhere hs _ hle h => exact h.1.rakpInv hc { Kept.refl c with } (by rw [hs]; rfl) rfl
  | establish hs _ =>
    exact hc.keep (kept_moveTo .solSession c) (by rw [hs]; rfl) rfl
  | newPort port hs _ hport =>
    rw [RakpInv, hs] at hc
    exact Established.rakpAt ((hc.established rfl).congr ⟨rfl, rfl, rfl, rfl⟩ rfl (List.prefix_refl _))
      (by change c.protocolState.established = true; rw [hs]; rfl)
  | leave hs h =>
    refine h.1.rakpInv hc (Kept.refl c) ?_ rfl
    rcases hs with hs | hs <;> rw [hs] <;> rfl
  | select i hs _ hi h => exact h.1.rakpInv hc { Kept.refl c with } (by rw [hs]; rfl) rfl
  | next hs _ hall h => exact h.1.rakpInv hc { Kept.refl c with } (by rw [hs]; rfl) rfl
  | again hs _ honly htry h => exact h.1.rakpInv hc { Kept.refl c with } (by rw [hs]; rfl) rfl
  | close hs h => exact h.rakpInv hc (Kept.refl c) (inSession_established hs) rfl
  | restart randoms now _ _ h => exact rakpAt_before rfl rfl

/-! ### Runs -/

/-- The configuration never changes. -/
theorem Move.config_eq (h : Move crypto c c') : c'.config = c.config := by
  cases h with
  | quiet p _ h => exact h.config
  | flag => rfl
  | closeTimeout _ _ => rfl
  | resend p _ h => exact h.config
  | notSent _ h => exact h.config
  | accept p _ h => exact h.kept.1.config
  | advance p s hs _ h => exact h.config
  | openSession hs _ hacc h => exact h.config.trans hacc.kept.1.config
  | exchangeKeys hs _ hacc _ h => exact h.config.trans hacc.kept.1.config
  | authenticate hs _ hacc hs' h => exact h.1.config.trans hacc.kept.1.config
  | activate hs _ h => exact h.1.config
  | activateIdle i hs _ honly h => exact h.1.config
  | activatedElsewhere hs _ hle h => exact h.1.config
  | establish hs _ => rfl
  | newPort port hs _ hport => rfl
  | leave hs h => exact h.1.config
  | select i hs _ hi h => exact h.1.config
  | next hs _ hall h => exact h.1.config
  | again hs _ honly htry h => exact h.1.config
  | close hs h => exact h.config
  | restart randoms now _ _ h => exact h.config

theorem reached_rakpInv {c₀ : Ctx} {randoms : Randoms} (hauth : Authenticates c₀.config)
    (h : Reached crypto (ipmiconsoleCtxSessionSetup c₀ randoms now) c) : RakpInv crypto c := by
  have hinv : Authenticates c.config ∧ RakpInv crypto c := by
    refine h.induction (P := fun c => Authenticates c.config ∧ RakpInv crypto c)
      (statesInv_setup c₀ randoms now) ⟨hauth, rakpAt_before rfl rfl⟩ ?_
    rintro c c' hstates hmove ⟨hauth, hc⟩
    exact ⟨hmove.config_eq.symm ▸ hauth, hmove.rakpInv hauth hstates hc⟩
  exact hinv.2

/-! ### The length of the value -/

/-- How much of a digest is compared is no more than there is. -/
theorem rakp4CompareLen_le (crypto : Crypto) (authentication : Byte) (key data : List Byte) :
    rakp4CompareLen authentication ≤ (rakpHmac crypto authentication key data).length := by
  unfold rakp4CompareLen rakpHmac
  split
  · rw [List.Vector.toList_length]
    decide
  · split
    · rw [List.Vector.toList_length]
    · rw [List.Vector.toList_length]
      decide

/-- The value expected has the length that is compared. -/
theorem IntegrityValue.length {value : List Byte} (h : IntegrityValue crypto c openSession rakp2 value) :
    value.length = rakp4CompareLen c.config.algorithms.authentication := by
  obtain ⟨_, _, -, -, rfl⟩ := h
  rw [List.length_take]
  exact min_eq_left (rakp4CompareLen_le _ _ _ _)

/-- There is one value expected. -/
theorem IntegrityValue.unique {value value' : List Byte}
    (h : IntegrityValue crypto c openSession rakp2 value)
    (h' : IntegrityValue crypto c openSession rakp2 value') : value = value' := by
  obtain ⟨_, _, ⟨_, hid, rfl⟩, hguid, rfl⟩ := h
  obtain ⟨_, _, ⟨_, hid', rfl⟩, hguid', rfl⟩ := h'
  cases hid.symm.trans hid'
  cases hguid.symm.trans hguid'
  rfl

/-- The integrity check value has the length that is compared. -/
def ExactLength (c : Ctx) (rakp4 : FiidObj) : Prop :=
  ∃ icv, integrityCheckValueOf rakp4 = .ok icv
    ∧ icv.length = rakp4CompareLen c.config.algorithms.authentication

/-- A value that begins with the one expected is it exactly when it is no longer. -/
theorem IntegrityBegins.check_iff (h : IntegrityBegins crypto c openSession rakp2 rakp4) :
    IntegrityCheck crypto c openSession rakp2 rakp4 ↔ ExactLength c rakp4 := by
  obtain ⟨value, icv, hvalue, hicv, hprefix⟩ := h
  constructor
  · rintro ⟨value', hvalue', heq⟩
    exact ⟨value', heq, hvalue'.length⟩
  · rintro ⟨icv', heq, hlen⟩
    cases hicv.symm.trans heq
    have hsame : value = icv := hprefix.eq_of_length (hvalue.length.trans hlen.symm)
    exact ⟨value, hvalue, hsame ▸ hicv⟩

/-- In every run of a console that authenticates itself without workarounds, whatever packets arrive,
    SET_SESSION_PRIVILEGE_LEVEL_SENT and the states that follow on it are reached only when an open
    session response, a RAKP message 2 and a RAKP message 4 have been accepted in this order, each in
    answer to the last request, with the code of RAKP message 2 and the keys computed from exactly these
    messages; and the integrity check value of RAKP message 4 is the one computed from them exactly when
    it is no longer than what is compared of it. -/
theorem reached_established (crypto : Crypto) (c₀ : Ctx) (randoms : Randoms) (now : ℕ) (c : Ctx)
    (hauth : Authenticates c₀.config)
    (h : Reached crypto (ipmiconsoleCtxSessionSetup c₀ randoms now) c)
    (hs : c.protocolState.established = true) :
    ∃ openSession rakp2 rakp4, EstablishedBy crypto c openSession rakp2 rakp4
      ∧ (IntegrityCheck crypto c openSession rakp2 rakp4 ↔ ExactLength c rakp4) := by
  obtain ⟨openSession, rakp2, rakp4, hby⟩ := (reached_rakpInv hauth h).established hs
  have hbegins : IntegrityBegins crypto c openSession rakp2 rakp4 := by
    obtain ⟨_, _, -, -, -, hbegins⟩ := hby
    exact hbegins
  exact ⟨openSession, rakp2, rakp4, hby, hbegins.check_iff⟩

/-! ### A RAKP message 4 that is too long -/

/-- The RAKP messages 4 that have been accepted. -/
def Ctx.rakp4s (c : Ctx) : List FiidObj :=
  c.log.filterMap fun
    | .accepted .rakpMessage4 obj => some obj
    | _ => none

theorem EstablishedBy.mem_rakp4s (h : EstablishedBy crypto c openSession rakp2 rakp4) :
    rakp4 ∈ c.rakp4s := by
  obtain ⟨before, after, hlog, -⟩ := h
  rw [Ctx.rakp4s, hlog]
  exact List.mem_filterMap.mpr ⟨_, List.mem_append_right _ List.mem_cons_self, rfl⟩

/-- Each integrity check value that was accepted has this length. -/
def Ctx.valuesHaveLength (c : Ctx) (n : ℕ) : Bool :=
  c.rakp4s.all fun rakp4 => (integrityCheckValueOf rakp4).toOption.any fun icv => icv.length = n

theorem valuesHaveLength_spec {n : ℕ} (h : c.valuesHaveLength n = true) {rakp4 : FiidObj}
    (hmem : rakp4 ∈ c.rakp4s) : ∃ icv, integrityCheckValueOf rakp4 = .ok icv ∧ icv.length = n := by
  have hany := List.all_eq_true.mp h rakp4 hmem
  cases hicv : integrityCheckValueOf rakp4 with
  | error e =>
    rw [hicv] at hany
    cases hany
  | ok icv =>
    rw [hicv] at hany
    exact ⟨icv, rfl, of_decide_eq_true hany⟩

/-- A RAKP message 4 whose integrity check value has a byte more. -/
def longRakp4Pkts : List (List Byte) :=
  establishingPkts.take 3 ++
    [[0x06, 0x00, 0xff, 0x07, 0x06, 0x15, 0x00, 0x00, 0x00, 0x00, 0x00, 0x00, 0x00, 0x00, 0x15, 0x00,
      0x03, 0x00, 0x00, 0x00, 0x44, 0x33, 0x22, 0x11] ++ sampleRakp4Digest.take 12 ++ [0x00]]

/-- The session is established, with values of this length. -/
def Ctx.establishedWith (c : Ctx) (n : ℕ) : Bool :=
  c.protocolState = .setSessionPrivilegeLevelSent && c.config.algorithms.authentication
      = ipmiAuthenticationAlgorithmRakpHmacSha1 && c.valuesHaveLength n

set_option maxRecDepth 20000 in
theorem establishingPkts_established :
    (consoleSteps tableCrypto (answeredBy establishingPkts) (sampleStart authenticatedConfig)).toOption.any
      (·.establishedWith 12) = true := by
  decide +kernel

set_option maxRecDepth 20000 in
theorem longRakp4Pkts_established :
    (consoleSteps tableCrypto (answeredBy longRakp4Pkts) (sampleStart authenticatedConfig)).toOption.any
      (fun c => c.establishedWith 13 && c.rakp4s ≠ []) = true := by
  decide +kernel

theorem establishedWith_spec {n : ℕ} (h : c.establishedWith n = true) :
    c.protocolState = .setSessionPrivilegeLevelSent
      ∧ c.config.algorithms.authentication = ipmiAuthenticationAlgorithmRakpHmacSha1
      ∧ ∀ rakp4 ∈ c.rakp4s, ∃ icv, integrityCheckValueOf rakp4 = .ok icv ∧ icv.length = n := by
  simp only [Ctx.establishedWith, Bool.and_eq_true, decide_eq_true_eq] at h
  exact ⟨h.1.1, h.1.2, fun _ hmem => valuesHaveLength_spec h.2 hmem⟩

theorem authenticates_sample : Authenticates authenticatedConfig := ⟨by decide, rfl⟩

/-- The session of a BMC that knows the password. -/
theorem reached_established_sample :
    ∃ c, Reached tableCrypto (sampleStart authenticatedConfig) c
      ∧ c.protocolState = .setSessionPrivilegeLevelSent
      ∧ ∃ openSession rakp2 rakp4, EstablishedBy tableCrypto c openSession rakp2 rakp4
        ∧ IntegrityCheck tableCrypto c openSession rakp2 rakp4 := by
  obtain ⟨c, hreached, hc⟩ := exists_reached establishingPkts_established
  obtain ⟨hs, halgorithm, hlengths⟩ := establishedWith_spec hc
  obtain ⟨openSession, rakp2, rakp4, hby, hiff⟩ := reached_established tableCrypto
    (sampleCtx authenticatedConfig) sampleRandoms 0 c authenticates_sample hreached (by rw [hs]; rfl)
  refine ⟨c, hreached, hs, openSession, rakp2, rakp4, hby, hiff.mpr ?_⟩
  rw [ExactLength, halgorithm]
  exact hlengths rakp4 hby.mem_rakp4s

/-- A RAKP message 4 is accepted with an integrity check value that is not the one computed, whatever
    this is computed from: it is longer. -/
theorem rakp4_longer :
    ∃ c, Reached tableCrypto (sampleStart authenticatedConfig) c
      ∧ c.protocolState = .setSessionPrivilegeLevelSent ∧ c.rakp4s ≠ []
      ∧ ∀ rakp4 ∈ c.rakp4s, ∀ openSession rakp2, ¬ IntegrityCheck tableCrypto c openSession rakp2 rakp4 := by
  obtain ⟨c, hreached, hc⟩ := exists_reached longRakp4Pkts_established
  simp only [Bool.and_eq_true, decide_eq_true_eq] at hc
  obtain ⟨hs, halgorithm, hlengths⟩ := establishedWith_spec hc.1
  refine ⟨c, hreached, hs, hc.2, fun rakp4 hmem openSession rakp2 hcheck => ?_⟩
  obtain ⟨value, hvalue, heq⟩ := hcheck
  obtain ⟨icv, hicv, hlen⟩ := hlengths rakp4 hmem
  cases heq.symm.trans hicv
  rw [hvalue.length, halgorithm] at hlen
  exact absurd hlen (by decide)

end FreeIpmi.Console
