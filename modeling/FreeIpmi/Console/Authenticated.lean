import FreeIpmi.Console.Handlers

/-! Packets that do not verify under the integrity key.

    For most packets of a session the check of the authentication code is enforced, and it comes
    before the check that moves the window. For the others the source says that it does not care. -/

namespace FreeIpmi.Console
open Fiid Lan Rmcpplus Util Calls Stages

variable {crypto : Crypto} {now : ℕ} {beyond : Byte} {pkt : List Byte} {c c' : Ctx} {p : PacketType}

/-! ### Enforcement -/

/-- The packets that are accepted only with the authentication code of the session. -/
def Ctx.EnforcesCode (c : Ctx) : PacketType → Prop
  | .setSessionPrivilegeLevelRs => True
  | .getChannelPayloadSupportRs => True
  | .getPayloadActivationStatusRs => True
  | .activatePayloadRs => True
  | .solPayloadDataRs => True
  | .deactivatePayloadRs => c.machine.closeSessionFlag = 0
  | _ => False

/-- The packet that `_receive_packet` reads. -/
def Ctx.packet (c : Ctx) : List Byte := c.ipmiFromBmc.take ipmiconsolePacketBuflen

/-- The packet at hand can be parsed, and its authentication code verifies (`verifies_iff`). -/
def Ctx.verifies (crypto : Crypto) (beyond : Byte) (c : Ctx) : Bool :=
  match ipmiconsolePacketUnassemble crypto beyond c.packet
      { c with ipmiFromBmc := c.ipmiFromBmc.drop ipmiconsolePacketBuflen } with
  | .ok (true, some _, c₁) => (checkAuthenticationCode crypto c.packet c₁).toOption = some true
  | _ => false

/-- The trailer of the packet at hand carries the code of the packet: the digest, under the integrity key, of
    what is behind the RMCP header, cut to the length of the algorithm (0 without an algorithm). -/
structure Ctx.CarriesCode (crypto : Crypto) (c : Ctx) (trailer : FiidObj) : Prop where
  supported : ipmiIntegrityAlgorithmSupported c.config.algorithms.integrity = true
  nonempty : c.packet ≠ []
  template : fiidObjTemplateCompareStrict trailer tmplRmcpplusSessionTrlr = .ok ()
  code : fiidObjGetData trailer "authentication_code" 32 = .ok
    ((integrityDigest crypto c.config.algorithms.integrity (c.keys.integrity.getD [])
      (integrityInput c.config.algorithms.integrity c.packet c.config.password 4)).take
        (authenticationCodeLen c.config.algorithms.integrity))
  behindHeader : c.config.algorithms.integrity ≠ ipmiIntegrityAlgorithmNone →
    4 + authenticationCodeLen c.config.algorithms.integrity < c.packet.length

/-- A digest is at least as long as the code that is cut from it. -/
theorem authenticationCodeLen_le (crypto : Crypto) (algorithm : Byte) (key data : List Byte) :
    authenticationCodeLen algorithm ≤ (integrityDigest crypto algorithm key data).length := by
  unfold authenticationCodeLen integrityDigest
  split_ifs <;> simp

/-- The check of a packet that was parsed: it passes iff the trailer carries the code of the packet. -/
theorem checkAuthenticationCode_eq_true (c₁ : Ctx) (hconfig : c₁.config = c.config) (hkeys : c₁.keys = c.keys) :
    checkAuthenticationCode crypto c.packet c₁ = .ok true
      ↔ c.CarriesCode crypto c₁.objs.rmcpplusSessionTrlrRs := by
  have hpassword := c.config.password_le
  have hpacket : c.packet.length ≤ ipmiconsolePacketBuflen := List.length_take_le _ _
  have hhash := length_integrityInput_le c.config.algorithms.integrity c.packet hpassword 4
  have hdigest := authenticationCodeLen_le crypto c.config.algorithms.integrity
    (c.keys.integrity.getD []) (integrityInput c.config.algorithms.integrity c.packet c.config.password 4)
  have hheader : orTemplateInvalid (fiidTemplateLenBytes tmplRmcpHdr) = .ok 4 := by decide
  have hlen : (((integrityDigest crypto c.config.algorithms.integrity (c.keys.integrity.getD [])
      (integrityInput c.config.algorithms.integrity c.packet c.config.password 4)).take
        (authenticationCodeLen c.config.algorithms.integrity))).length
      = authenticationCodeLen c.config.algorithms.integrity := List.length_take_of_le hdigest
  unfold checkAuthenticationCode ipmiRmcpplusCheckPacketSessionAuthenticationCode
  rw [hconfig, hkeys]
  constructor
  · intro h
    split at h
    · cases h
    · rename_i hargs
      simp only [Bool.not_eq_true', not_or, Bool.not_eq_false, List.length_eq_zero_iff] at hargs
      obtain ⟨_, htemplate, h⟩ := bind_eq_ok.mp h
      obtain ⟨_, hheader', h⟩ := bind_eq_ok.mp h
      cases hheader.symm.trans hheader'
      obtain ⟨code, hcode, h⟩ := bind_eq_ok.mp h
      dsimp only at h
      split_ifs at h with hnone hcodeLen hshort hlong
      · have hempty := List.length_eq_zero_iff.mp (of_decide_eq_true (Except.ok.inj h))
        refine ⟨hargs.1, hargs.2.1, htemplate, ?_, fun hsome => absurd hnone hsome⟩
        simp [hcode, hempty, hnone, authenticationCodeLen]
      · cases h
      · cases h
      · have heq := of_decide_eq_true (Except.ok.inj h)
        exact ⟨hargs.1, hargs.2.1, htemplate, by rw [hcode, heq], fun _ => by omega⟩
  · rintro ⟨hsupported, hnonempty, htemplate, hcode, hbehind⟩
    rw [if_neg (by simp [hsupported, hnonempty, hpassword]), htemplate, hheader, hcode]
    by_cases hnone : c.config.algorithms.integrity = ipmiIntegrityAlgorithmNone
    · simp [hnone, authenticationCodeLen]
    · have hshort := hbehind hnone
      have hlong : ¬ (integrityInput c.config.algorithms.integrity c.packet c.config.password 4).length
          > ipmiMaxPayloadLength := by
        simp only [ipmiconsolePacketBuflen, ipmi20MaxPasswordLength, ipmiMaxPayloadLength] at *
        omega
      simp [hnone, hlen, hlong, Nat.not_le.mpr hshort]

/-- The window, the timers and the SOL session with the console buffers are the same. -/
structure Untouched (c c' : Ctx) : Prop where
  window : c'.window = c.window
  timers : c'.timers = c.timers
  sol : c'.sol = c.sol

theorem Untouched.refl (c : Ctx) : Untouched c c := ⟨rfl, rfl, rfl⟩

/-- From here on the packet is refused, without effect. -/
abbrev Refuses (c : Ctx) (x : Except (Exit ReceiveFailure Ctx) Ctx) : Prop :=
  Meets x (fun _ => False) (Leaves (Untouched c))

/-! ### Stages -/

theorem stageOf_reading {check : Ctx → Except Stop Bool} {refused : ReceiveStage}
    (hrefused : Refuses c (refused c)) :
    Meets (stageOf (reading check) refused c) (fun c' => c' = c ∧ check c = .ok true)
      (Leaves (Untouched c)) := by
  unfold stageOf
  rcases h : reading check c with e | ⟨_ | _, c'⟩
  · exact failStage_meets e (Untouched.refl c)
  · obtain ⟨-, rfl⟩ := reading_eq_ok h
    exact hrefused.weaken fun _ h => h.elim
  · obtain ⟨hcheck, rfl⟩ := reading_eq_ok h
    exact Meets.ok ⟨rfl, hcheck⟩

theorem dropped_refuses (c : Ctx) : Refuses c (dropped c) := Meets.error ⟨rfl, rfl, rfl⟩

theorem refuses_cons {check : Ctx → Except Stop Bool} {refused : ReceiveStage}
    {stages : List ReceiveStage} (hrefused : Refuses c (refused c))
    (h : check c = .ok true → Refuses c (runStages stages c)) :
    Refuses c (runStages (stageOf (reading check) refused :: stages) c) := by
  refine (stageOf_reading hrefused).bind ?_
  rintro c' ⟨rfl, hcheck⟩
  exact h hcheck

theorem unlessClosing_refuses (hflag : c.machine.closeSessionFlag = 0) :
    Refuses c (if c.machine.closeSessionFlag = 0 then dropped c else .ok c) := by
  rw [if_pos hflag]
  exact dropped_refuses c

/-- The check of the code comes before the one that moves the window. -/
theorem checkStages_refuses (hp : c.EnforcesCode p)
    (hcode : checkAuthenticationCode crypto pkt c ≠ .ok true) :
    Refuses c (runStages (checkStages crypto now pkt p) c) := by
  have hsession : Refuses c (runStages (sessionStages crypto now pkt p) c) :=
    refuses_cons (dropped_refuses c) fun _ => refuses_cons (dropped_refuses c) fun _ =>
      refuses_cons (dropped_refuses c) fun _ => refuses_cons (dropped_refuses c) fun _ =>
        refuses_cons (dropped_refuses c) fun h => absurd h hcode
  cases p with
  | setSessionPrivilegeLevelRs => exact hsession
  | getChannelPayloadSupportRs => exact hsession
  | getPayloadActivationStatusRs => exact hsession
  | activatePayloadRs => exact hsession
  | solPayloadDataRs =>
    exact refuses_cons (dropped_refuses c) fun _ => refuses_cons (dropped_refuses c) fun _ =>
      refuses_cons (dropped_refuses c) fun _ => refuses_cons (dropped_refuses c) fun h => absurd h hcode
  | deactivatePayloadRs =>
    have hrefused := unlessClosing_refuses hp
    exact refuses_cons hrefused fun _ => refuses_cons hrefused fun _ => refuses_cons hrefused fun _ =>
      refuses_cons hrefused fun _ => refuses_cons hrefused fun h => absurd h hcode
  | getAuthenticationCapabilitiesRs => exact hp.elim
  | openSessionResponse => exact hp.elim
  | rakpMessage2 => exact hp.elim
  | rakpMessage4 => exact hp.elim
  | getChannelPayloadVersionRs => exact hp.elim
  | closeSessionRs => exact hp.elim

/-! ### Unassembling -/

/-- Parsing a packet changes the objects only. -/
theorem unassembleAs_objs {b : Bool} (h : unassembleAs crypto pkt p c = .ok (b, c')) :
    ∃ objs, c' = { c with objs := objs } := by
  have hlan {q : PacketType} (h : unassembleLan pkt q c = .ok (b, c')) :
      ∃ objs, c' = { c with objs := objs } := by
    unfold unassembleLan at h
    obtain ⟨⟨accepted, objs⟩, -, h⟩ := bind_eq_ok.mp h
    cases h
    exact ⟨_, rfl⟩
  have hrmcpplus {algorithms : Algorithms} {key : Option (List Byte)} {q : PacketType}
      (h : unassembleRmcpplus crypto algorithms key pkt q c = .ok (b, c')) :
      ∃ objs, c' = { c with objs := objs } := by
    unfold unassembleRmcpplus at h
    obtain ⟨⟨accepted, objs⟩, -, h⟩ := bind_eq_ok.mp h
    cases h
    exact ⟨_, rfl⟩
  unfold unassembleAs at h
  cases p with
  | getAuthenticationCapabilitiesRs => exact hlan h
  | _ => exact hrmcpplus h

theorem unassemble_objs {b : Bool} {q : Option PacketType}
    (h : ipmiconsolePacketUnassemble crypto beyond pkt c = .ok (b, q, c')) :
    ∃ objs, c' = { c with objs := objs } := by
  unfold ipmiconsolePacketUnassemble at h
  dsimp only at h
  split at h
  · cases h
    exact ⟨_, rfl⟩
  · obtain ⟨⟨accepted, c₁⟩, h₁, h⟩ := bind_eq_ok.mp h
    cases h
    obtain ⟨objs, rfl⟩ := unassembleAs_objs h₁
    exact ⟨objs, rfl⟩

/-- A packet verifies iff it can be parsed and its trailer carries its code. -/
theorem Ctx.verifies_iff : c.verifies crypto beyond = true ↔
    ∃ p c₁, ipmiconsolePacketUnassemble crypto beyond c.packet
        { c with ipmiFromBmc := c.ipmiFromBmc.drop ipmiconsolePacketBuflen } = .ok (true, some p, c₁)
      ∧ c.CarriesCode crypto c₁.objs.rmcpplusSessionTrlrRs := by
  have hcheck {q : Option PacketType} {c₁ : Ctx} (h : ipmiconsolePacketUnassemble crypto beyond c.packet
      { c with ipmiFromBmc := c.ipmiFromBmc.drop ipmiconsolePacketBuflen } = .ok (true, q, c₁)) :
      checkAuthenticationCode crypto c.packet c₁ = .ok true
        ↔ c.CarriesCode crypto c₁.objs.rmcpplusSessionTrlrRs := by
    obtain ⟨objs, rfl⟩ := unassemble_objs h
    exact checkAuthenticationCode_eq_true _ rfl rfl
  unfold Ctx.verifies
  constructor
  · intro h
    split at h
    · rename_i p c₁ hparsed
      refine ⟨p, c₁, hparsed, (hcheck hparsed).mp ?_⟩
      rcases hcode : checkAuthenticationCode crypto c.packet c₁ with _ | passed
      · simp [hcode, Except.toOption] at h
      · simpa [hcode, Except.toOption] using h
    · cases h
  · rintro ⟨p, c₁, hparsed, hcarries⟩
    rw [hparsed]
    simp [(hcheck hparsed).mpr hcarries, Except.toOption]

/-! ### Receiving -/

/-- A packet that is refused without effect. -/
structure Ignored (c : Ctx) (r : Received) : Prop extends Untouched c r.ctx where
  rc : r.rc ≠ .one

theorem received_ignored {c₁ : Ctx} {r : Received} {x : Except (Exit ReceiveFailure Ctx) Ctx}
    (hx : Refuses c₁ x) (h₁ : Untouched c c₁) (h : received now p x = .ok r) : Ignored c r := by
  have hleaves (c₂ : Ctx) (h₂ : Untouched c₁ c₂) : Untouched c c₂.cleanup :=
    ⟨h₂.window.trans h₁.window, h₂.timers.trans h₁.timers, h₂.sol.trans h₁.sol⟩
  unfold received at h
  split at h
  · exact (hx.value _ rfl).elim
  · cases h
    exact ⟨hleaves _ (hx.reason _ rfl), nofun⟩
  · cases h
    exact ⟨hleaves _ (hx.reason _ rfl), nofun⟩
  · cases h

theorem Ctx.EnforcesCode.congr (h : c.EnforcesCode p) (hm : c'.machine = c.machine) :
    c'.EnforcesCode p := by
  cases p with
  | deactivatePayloadRs => exact (congrArg StateMachine.closeSessionFlag hm).trans h
  | _ => exact h

theorem receiveUnassembled_ignored {b : Bool} {q : Option PacketType} {c₁ : Ctx} {r : Received}
    (h₁ : Untouched c c₁) (hp : ∀ p, b = true → q = some p → c₁.EnforcesCode p
      ∧ checkAuthenticationCode crypto pkt c₁ ≠ .ok true)
    (h : receiveUnassembled crypto now pkt (b, q, c₁) = .ok r) : Ignored c r := by
  have hzero : Ignored c ⟨.zero, q, c₁.countError.cleanup⟩ := ⟨⟨h₁.window, h₁.timers, h₁.sol⟩, nofun⟩
  unfold receiveUnassembled at h
  rcases b with _ | _
  · cases h
    exact hzero
  · rcases q with _ | p
    · cases h
      exact hzero
    · obtain ⟨henforces, hcode⟩ := hp p rfl rfl
      exact received_ignored (checkStages_refuses henforces hcode) h₁ h

theorem receivePacket_ignored {r : Received} (hcode : c.verifies crypto beyond = false)
    (henforces : ∀ p, c.packetType beyond = some p → c.EnforcesCode p)
    (hr : receivePacket crypto now beyond c = .ok r) : Ignored c r := by
  unfold receivePacket at hr
  dsimp only at hr
  split at hr
  · cases hr
    exact ⟨Untouched.refl c, nofun⟩
  · unfold onResult at hr
    split at hr
    · rename_i x hx
      obtain ⟨b, q, c₁⟩ := x
      obtain ⟨objs, hobjs⟩ := unassemble_objs hx
      obtain ⟨hq, -⟩ := unassemble_frame crypto _ hx
      refine receiveUnassembled_ignored (by rw [hobjs]; exact ⟨rfl, rfl, rfl⟩) (fun p hb hp => ?_) hr
      subst hb hp
      refine ⟨(henforces p hq.symm).congr (by rw [hobjs]), fun hcheck => ?_⟩
      have hverifies : c.verifies crypto beyond = true :=
        Ctx.verifies_iff.mpr ⟨_, c₁, hx,
          (checkAuthenticationCode_eq_true c₁ (by rw [hobjs]) (by rw [hobjs])).mp hcheck⟩
      rw [hcode] at hverifies
      cases hverifies
    · split at hr
      · cases hr
        exact ⟨⟨rfl, rfl, rfl⟩, nofun⟩
      · cases hr

/-- Only SOL data is counted as a SOL packet. -/
theorem acceptPacket_untouched (hp : p ≠ .solPayloadDataRs) :
    (c.acceptPacket now p).sol.consoleRemoteConsoleToBmc = c.sol.consoleRemoteConsoleToBmc
      ∧ (c.acceptPacket now p).sol.consoleBmcToRemoteConsole = c.sol.consoleBmcToRemoteConsole
      ∧ (c.acceptPacket now p).timers.lastSolPacketReceived = c.timers.lastSolPacketReceived := by
  unfold Ctx.acceptPacket
  rw [if_neg hp]
  split <;> exact ⟨rfl, rfl, rfl⟩

/-- A packet whose authentication code does not verify leaves the console buffers and the time of the
    last SOL packet as they are; and where the check is enforced for it, it is not accepted, and leaves
    the window, the timers and the SOL session as they are. -/
theorem receivePacket_unverified (crypto : Crypto) (now : ℕ) (beyond : Byte) (c : Ctx) (r : Received)
    (hcode : c.verifies crypto beyond = false) (hr : receivePacket crypto now beyond c = .ok r) :
    (r.ctx.sol.consoleRemoteConsoleToBmc = c.sol.consoleRemoteConsoleToBmc
      ∧ r.ctx.sol.consoleBmcToRemoteConsole = c.sol.consoleBmcToRemoteConsole
      ∧ r.ctx.timers.lastSolPacketReceived = c.timers.lastSolPacketReceived)
    ∧ ((∀ p, c.packetType beyond = some p → c.EnforcesCode p) → Ignored c r) := by
  refine ⟨?_, fun henforces => receivePacket_ignored hcode henforces hr⟩
  cases (receivePacket_spec crypto now beyond c).value r hr with
  | refused _ h => exact ⟨h.consoleRemoteConsoleToBmc, h.consoleBmcToRemoteConsole, h.lastSolPacketReceived⟩
  | accepted hp h₁ h₂ hrun =>
    rename_i p c₁ c₂
    by_cases hsol : p = .solPayloadDataRs
    · -- SOL data is accepted only with the authentication code
      subst hsol
      have henforces (q : PacketType) (hq : c.packetType beyond = some q) : c.EnforcesCode q := by
        cases hp.symm.trans hq
        trivial
      exact absurd rfl (receivePacket_ignored hcode henforces hr).rc
    · have hrefused : (c₂.acceptPacket now p).sol.consoleRemoteConsoleToBmc
            = c₂.sol.consoleRemoteConsoleToBmc
          ∧ (c₂.acceptPacket now p).sol.consoleBmcToRemoteConsole = c₂.sol.consoleBmcToRemoteConsole
          ∧ (c₂.acceptPacket now p).timers.lastSolPacketReceived = c₂.timers.lastSolPacketReceived :=
        acceptPacket_untouched hsol
      obtain ⟨hin, hout, htime⟩ := hrefused
      have h := h₁.trans h₂
      exact ⟨hin.trans h.consoleRemoteConsoleToBmc, hout.trans h.consoleBmcToRemoteConsole,
        htime.trans h.lastSolPacketReceived⟩

/-! ### A forged packet -/

/-- A user with a password, and a keyed digest for the packets. -/
def authenticatedConfig : Config :=
  { sampleConfig with
    password := [0x61]
    cipherSuiteId := 2
    algorithms :=
      { authentication := ipmiAuthenticationAlgorithmRakpHmacSha1
        integrity := ipmiIntegrityAlgorithmHmacSha196
        confidentiality := ipmiConfidentialityAlgorithmNone }
    password_le := by decide }

/-- The keyed digest of the password for the session key. -/
def sampleSik : List Byte :=
  [0xe8, 0xad, 0xc4, 0xbb, 0x11, 0xf7, 0x07, 0xda, 0xf1, 0x26, 0xdc, 0xfd, 0x56, 0xa2, 0x8e, 0xdb,
   0x46, 0x60, 0x5e, 0xd0]

/-- The key of the packets. -/
def sampleK1 : List Byte :=
  [0x96, 0xd5, 0x07, 0xc4, 0xfe, 0x65, 0xbc, 0x35, 0xaa, 0x94, 0xee, 0xd9, 0x84, 0xc7, 0x45, 0xfa,
   0xe2, 0xf2, 0x1f, 0x88]

/-- The digest with which RAKP message 4 begins. -/
def sampleRakp4Digest : List Byte :=
  [0x4f, 0x2a, 0xec, 0xf5, 0xfd, 0xfa, 0xe2, 0x1e, 0xdd, 0xe6, 0xcf, 0x7e, 0xd3, 0x20, 0x3d, 0xdc,
   0x31, 0x93, 0x79, 0x8f]

/-- The code of RAKP message 2. -/
def sampleRakp2Code : List Byte :=
  [0x6a, 0xcd, 0x4d, 0xf5, 0x9d, 0x2a, 0x9f, 0x22, 0x35, 0xd9, 0x04, 0x32, 0x65, 0xb6, 0x32, 0xc2,
   0x99, 0xe0, 0x98, 0x7f]

/-- The digest of the forged packet. -/
def sampleForgedDigest : List Byte :=
  [0xda, 0xc8, 0x99, 0x72, 0x17, 0x8a, 0xd5, 0xda, 0x1f, 0x3c, 0xce, 0x90, 0x18, 0x08, 0xbf, 0x39,
   0x04, 0xd6, 0x39, 0x65]

/-- A response to the request that closes the session, with a code of zeros. -/
def forgedPkt : List Byte :=
  [0x06, 0x00, 0xff, 0x07, 0x06, 0x40, 0x44, 0x33, 0x22, 0x11, 0x05, 0x00, 0x00, 0x00, 0x08, 0x00,
   0x81, 0x1c, 0x63, 0x20, 0x08, 0x3c, 0x00, 0x9c, 0xff, 0xff, 0x02, 0x07, 0x00, 0x00, 0x00, 0x00,
   0x00, 0x00, 0x00, 0x00, 0x00, 0x00, 0x00, 0x00]

/-- The digests of the session: of the session ids and the random numbers, which are zeros, as is the
    GUID; of the constant of the key of the packets; and of the forged packet. -/
def sampleHmacSha1 : List ((List Byte × List Byte) × List Byte) :=
  let zeros := List.replicate 16 0
  let consoleId := [0x44, 0x33, 0x22, 0x11]
  let managedSystemId := [0x88, 0x77, 0x66, 0x55]
  [(([0x61], consoleId ++ managedSystemId ++ zeros ++ zeros ++ zeros ++ [0x14, 0x00]), sampleRakp2Code),
   (([0x61], zeros ++ zeros ++ [0x14, 0x00]), sampleSik),
   ((sampleSik, List.replicate 20 1), sampleK1),
   ((sampleSik, zeros ++ managedSystemId ++ zeros), sampleRakp4Digest),
   ((sampleK1, (forgedPkt.drop 4).take 24), sampleForgedDigest)]

/-- A function that agrees with HMAC-SHA1 on what the session hashes. -/
def tableCrypto : Crypto :=
  { sampleCrypto with
    hmacSha1 := fun key data =>
      let digest := (sampleHmacSha1.lookup (key, data)).getD []
      ⟨List.takeD 20 digest 0, List.takeD_length 20 digest 0⟩ }

/-- The responses of a BMC up to the privilege level. -/
def establishingPkts : List (List Byte) :=
  [[0x06, 0x00, 0xff, 0x07, 0x00, 0x00, 0x00, 0x00, 0x00, 0x00, 0x00, 0x00, 0x00, 0x10, 0x81, 0x1c,
    0x63, 0x20, 0x04, 0x38, 0x00, 0x01, 0x80, 0x07, 0x02, 0x00, 0x00, 0x00, 0x00, 0x1a],
   [0x06, 0x00, 0xff, 0x07, 0x06, 0x11, 0x00, 0x00, 0x00, 0x00, 0x00, 0x00, 0x00, 0x00, 0x24, 0x00,
    0x01, 0x00, 0x04, 0x00, 0x44, 0x33, 0x22, 0x11, 0x88, 0x77, 0x66, 0x55, 0x00, 0x00, 0x00, 0x08,
    0x01, 0x00, 0x00, 0x00, 0x01, 0x00, 0x00, 0x08, 0x01, 0x00, 0x00, 0x00, 0x02, 0x00, 0x00, 0x08,
    0x00, 0x00, 0x00, 0x00],
   [0x06, 0x00, 0xff, 0x07, 0x06, 0x13, 0x00, 0x00, 0x00, 0x00, 0x00, 0x00, 0x00, 0x00, 0x3c, 0x00,
    0x02, 0x00, 0x00, 0x00, 0x44, 0x33, 0x22, 0x11, 0x00, 0x00, 0x00, 0x00, 0x00, 0x00, 0x00, 0x00,
    0x00, 0x00, 0x00, 0x00, 0x00, 0x00, 0x00, 0x00, 0x00, 0x00, 0x00, 0x00, 0x00, 0x00, 0x00, 0x00,
    0x00, 0x00, 0x00, 0x00, 0x00, 0x00, 0x00, 0x00]
    ++ sampleRakp2Code,
   [0x06, 0x00, 0xff, 0x07, 0x06, 0x15, 0x00, 0x00, 0x00, 0x00, 0x00, 0x00, 0x00, 0x00, 0x14, 0x00,
    0x03, 0x00, 0x00, 0x00, 0x44, 0x33, 0x22, 0x11]
    ++ sampleRakp4Digest.take 12]

/-- The forged packet arrives instead of the response to the privilege level. -/
def ignoredEvents : List ConsoleEvent := answeredBy establishingPkts ++ [.recvfrom forgedPkt]

/-- The session is closed before that response, and then the forged packet arrives. -/
def forgedEvents : List ConsoleEvent :=
  answeredBy establishingPkts ++ [.close, .process quietEnv [], .recvfrom forgedPkt]

/-- What receiving the packet at hand gives, where its code does not verify. -/
def Ctx.receivesUnverified (c : Ctx) (P : Received → Bool) : Bool :=
  !c.verifies tableCrypto 0 && (receivePacket tableCrypto 0 0 c).toOption.any P

theorem receivesUnverified_spec {c₀ : Ctx} {es : List ConsoleEvent} {P : Ctx → Received → Bool}
    (h : (consoleSteps tableCrypto es c₀).toOption.any (fun c => c.receivesUnverified (P c)) = true) :
    ∃ c r, Reached tableCrypto c₀ c ∧ c.verifies tableCrypto 0 = false
      ∧ receivePacket tableCrypto 0 0 c = .ok r ∧ P c r = true := by
  obtain ⟨c, hreached, hc⟩ := exists_reached h
  simp only [Ctx.receivesUnverified, Bool.and_eq_true, Bool.not_eq_true'] at hc
  obtain ⟨hcode, hr⟩ := hc
  cases hreceive : receivePacket tableCrypto 0 0 c with
  | error e =>
    rw [hreceive] at hr
    cases hr
  | ok r =>
    rw [hreceive] at hr
    exact ⟨c, r, hreached, hcode, hreceive, hr⟩

set_option maxRecDepth 20000 in
theorem ignoredEvents_receives :
    (consoleSteps tableCrypto ignoredEvents (sampleStart authenticatedConfig)).toOption.any
      (fun c => c.receivesUnverified fun _ =>
        c.packetType 0 = some .setSessionPrivilegeLevelRs) = true := by
  decide +kernel

set_option maxRecDepth 20000 in
theorem forgedEvents_receives :
    (consoleSteps tableCrypto forgedEvents (sampleStart authenticatedConfig)).toOption.any
      (fun c => c.receivesUnverified fun r =>
        c.config.algorithms.integrity ≠ ipmiIntegrityAlgorithmNone && r.rc = .one
          && r.ctx.window ≠ c.window) = true := by
  decide +kernel

/-- In SET_SESSION_PRIVILEGE_LEVEL_SENT the forged packet has no effect. -/
theorem receivePacket_unverified_sample :
    ∃ c r, Reached tableCrypto (sampleStart authenticatedConfig) c
      ∧ receivePacket tableCrypto 0 0 c = .ok r ∧ Ignored c r := by
  obtain ⟨c, r, hreached, hcode, hr, hp⟩ := receivesUnverified_spec ignoredEvents_receives
  refine ⟨c, r, hreached, hr, (receivePacket_unverified tableCrypto 0 0 c r hcode hr).2 fun p hp' => ?_⟩
  cases hp'.symm.trans (of_decide_eq_true hp)
  trivial

/-- In CLOSE_SESSION_SENT it is accepted, and moves the window. -/
theorem receivePacket_forged :
    ∃ c r, Reached tableCrypto (sampleStart authenticatedConfig) c
      ∧ c.config.algorithms.integrity ≠ ipmiIntegrityAlgorithmNone
      ∧ c.verifies tableCrypto 0 = false ∧ receivePacket tableCrypto 0 0 c = .ok r
      ∧ r.rc = .one ∧ r.ctx.window ≠ c.window := by
  obtain ⟨c, r, hreached, hcode, hr, hp⟩ := receivesUnverified_spec forgedEvents_receives
  simp only [Bool.and_eq_true, decide_eq_true_eq] at hp
  exact ⟨c, r, hreached, hp.1.1, hcode, hr, hp.1.2, hp.2⟩

end FreeIpmi.Console
