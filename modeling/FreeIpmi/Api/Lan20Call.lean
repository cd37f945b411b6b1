import FreeIpmi.Api.Verify20

/-! What `api_lan_2_0_cmd_wrapper` does with a datagram, and which datagrams make a call fail.

    A call over IPMI 2.0 fails for more datagrams than one over IPMI 1.5. The payload type of a packet
    chooses the template that the object of the response is compared with, before the verification
    would pass the packet over for its type. A packet that is not marked as encrypted fails an
    assertion where the session has a cipher, and an encrypted payload has to be made of blocks. A
    response of the session setup that ends in front of the session id of the console makes the
    verification fail. -/

namespace FreeIpmi.Api
open Fiid Lan Rmcpplus Util Calls Stages Ipmb

/-- What changes while the call waits. -/
structure Lan20Wait where
  call : VerifyCall20
  objs : RmcpplusObjs
  window : Window

/-- The counters before the request is sent again. -/
def VerifyCall20.advance (call : VerifyCall20) : VerifyCall20 :=
  { call with
    messageTag := call.messageTag.map (· + 1)
    sessionSequenceNumber := call.sessionSequenceNumber.map Version.v20.next
    rqSeq := call.rqSeq.map nextLanRqSeq }

/-- The objects that `_api_lan_2_0_cmd_recv` clears. -/
def clearReceived20 (objs : RmcpplusObjs) : RmcpplusObjs :=
  { objs with
    rmcpHdr := fiidObjClear objs.rmcpHdr
    sessionHdr := fiidObjClear objs.sessionHdr
    payload := fiidObjClear objs.payload
    lanMsgHdr := fiidObjClear objs.lanMsgHdr
    lanMsgTrlr := fiidObjClear objs.lanMsgTrlr
    sessionTrlr := fiidObjClear objs.sessionTrlr }

/-- How `api_lan_2_0_cmd_wrapper` takes what it receives. -/
def lan20Receiver (crypto : Crypto) (algorithms : Algorithms) (confidentialityKey : Option (List Byte))
    (ctx : OutOfBand20) : Receiver Lan20Wait where
  clear s := { s with objs := clearReceived20 s.objs }
  advance s := { s with call := s.call.advance }
  unassemble pkt s := do
    let (parsed, objs) ← unassembleIpmiRmcpplusPkt crypto algorithms confidentialityKey pkt s.objs
      ctx.intfFlags
    return (parsed, { s with objs })
  verify pkt s :=
    let (ret, window) := verifyPacket20 crypto ctx algorithms.integrity s.call s.objs pkt s.window
    (ret, { s with window })

/-! ### A datagram -/

/-- The caller has what a readable datagram asks for, and if it was taken apart it can be verified. -/
structure Lan20Takes (crypto : Crypto) (algorithms : Algorithms)
    (confidentialityKey : Option (List Byte)) (ctx : OutOfBand20) (cmdTmpl : FiidTemplate)
    (pkt : List Byte) (s : Lan20Wait) : Prop where
  answerable : Readable algorithms pkt →
    Answerable crypto algorithms confidentialityKey cmdTmpl.fields s.objs pkt
  verifiable : ∀ objs, unassembleIpmiRmcpplusPkt crypto algorithms confidentialityKey pkt s.objs
      ctx.intfFlags = .ok (true, objs) →
    Verifiable crypto ctx algorithms.integrity s.call objs pkt s.window

/-- What stays the same while the call waits: the objects have their templates, and the arguments are
    those of a request that was sent. -/
structure Lan20Wait.Ready (ndebug : Bool) (cmdTmpl : FiidTemplate) (algorithms : Algorithms)
    (confidentialityKey : Option (List Byte)) (ctx : OutOfBand20) (s : Lan20Wait) : Prop where
  objs : s.objs.Fit ndebug cmdTmpl
  valid : s.call.Valid ctx algorithms.integrity
  parameters : ParametersValid algorithms confidentialityKey ctx.intfFlags
  -- a message of the session setup is sent again with the next tag
  tagged : s.call.payloadType ≠ ipmiPayloadTypeIpmi → s.call.messageTag.isSome = true

section Receive
variable {crypto : Crypto} {algorithms : Algorithms} {confidentialityKey : Option (List Byte)}
  {ctx : OutOfBand20} {ndebug : Bool} {cmdTmpl : FiidTemplate}

theorem clearReceived20_becomes (objs : RmcpplusObjs) : objs.Becomes (clearReceived20 objs) :=
  ⟨becomes_clear _, becomes_clear _, becomes_clear _, becomes_clear _, .refl _, becomes_clear _,
    becomes_clear _⟩

theorem Lan20Wait.Ready.keeps {s : Lan20Wait}
    (h : s.Ready ndebug cmdTmpl algorithms confidentialityKey ctx) {objs : RmcpplusObjs}
    (hb : s.objs.Becomes objs) :
    Lan20Wait.Ready ndebug cmdTmpl algorithms confidentialityKey ctx { s with objs } :=
  ⟨h.objs.becomes hb, h.valid, h.parameters, h.tagged⟩

/-- While the call waits, exactly the datagrams with `Lan20Takes` make neither of the functions fail. -/
theorem lan20Receiver_sound (hcrypto : crypto.KeepsLength) (algorithms : Algorithms)
    (confidentialityKey : Option (List Byte)) (ctx : OutOfBand20) (ndebug : Bool)
    (cmdTmpl : FiidTemplate) :
    (lan20Receiver crypto algorithms confidentialityKey ctx).Sound
      (·.Ready ndebug cmdTmpl algorithms confidentialityKey ctx)
      (Lan20Takes crypto algorithms confidentialityKey ctx cmdTmpl) where
  clear s h := h.keeps (clearReceived20_becomes _)
  advance s h := by
    refine ⟨h.objs, ⟨h.valid.type, h.valid.payloadType, h.valid.integrity, h.valid.password⟩,
      h.parameters, fun hsetup => ?_⟩
    rw [← h.tagged hsetup]
    exact Option.isSome_map
  unassemble pkt s parsed s' h hret := by
    obtain ⟨⟨b, objs⟩, hcall, hret⟩ := bind_eq_ok.mp hret
    cases hret
    exact h.keeps (unassembleIpmiRmcpplusPkt_becomes hcall)
  verify pkt s h := ⟨h.objs, h.valid, h.parameters, h.tagged⟩
  answers_iff pkt s h _ hlen := by
    have hready := h.keeps (clearReceived20_becomes s.objs)
    have hbytes : (clearReceived20 s.objs).sessionTrlr.ByteLens := (unset_clear _).byteLens
    constructor
    · rintro ⟨parsed, s', hret, hverify⟩
      obtain ⟨⟨b, objs⟩, hcall, hret⟩ := bind_eq_ok.mp hret
      cases hret
      refine ⟨((unassembleIpmiRmcpplusPkt_returns_iff hready.objs.passed hcrypto).mp ⟨_, hcall⟩).2,
        fun objs' hcall' => ?_⟩
      cases hcall.symm.trans hcall'
      exact (verifyPacket20_returns_iff hready.objs hbytes hcall' h.valid hlen).mp (hverify rfl)
    · rintro ⟨hanswerable, hverifiable⟩
      obtain ⟨⟨parsed, objs⟩, hcall⟩ := (unassembleIpmiRmcpplusPkt_returns_iff hready.objs.passed
        hcrypto).mpr ⟨h.parameters, hanswerable⟩
      refine ⟨parsed, { s with objs }, bind_eq_ok.mpr ⟨_, hcall, rfl⟩, fun hparsed => ?_⟩
      rw [hparsed] at hcall
      exact (verifyPacket20_returns_iff hready.objs hbytes hcall h.valid hlen).mpr (hverifiable _ hcall)

/-- A call of either version fails only for the session timeout, or for an error in sending, in receiving
    or in reading the clock, exactly when the datagrams that its loop takes meet the condition of the
    version, each in the state in which it is taken. Whatever was taken apart is verified without -1
    exactly when its sequence number can be checked, and over IPMI 2.0 a response gets to the session id
    of the console. -/
theorem datagrams_skipped_iff (hcrypto : crypto.KeepsLength) (digests : Digests) (ctxLan : OutOfBand)
    {skipRetransmit early : Bool} {first : Send} (events : List Event) {cmdTmplLan : FiidTemplate}
    {lan : LanWait} (hlan : first = .sent → lan.Ready ndebug cmdTmplLan) {lan20 : Lan20Wait}
    (hlan20 : first = .sent → lan20.Ready ndebug cmdTmpl algorithms confidentialityKey ctx) :
    ((Call.FailsLocally .v15
        ⟨skipRetransmit, early, first, (lanReceiver digests ctxLan).roundsOf events lan⟩ ↔
      (early = false → first = .sent → (lanReceiver digests ctxLan).Along skipRetransmit
        (LanTakes digests ctxLan cmdTmplLan) events lan)) ∧
    (Call.FailsLocally .v20 ⟨skipRetransmit, early, first,
        (lan20Receiver crypto algorithms confidentialityKey ctx).roundsOf events lan20⟩ ↔
      (early = false → first = .sent →
        (lan20Receiver crypto algorithms confidentialityKey ctx).Along skipRetransmit
          (Lan20Takes crypto algorithms confidentialityKey ctx cmdTmpl) events lan20))) ∧
    (first = .sent → ∀ pkt objs,
      unassembleIpmiLanPkt pkt lan.objs ctxLan.intfFlags = .ok (true, objs) →
        ((∃ right, (verifyPacket digests ctxLan lan.call objs lan.window).1 = .ok right) ↔
          ¬ NumberUndefined digests ctxLan lan.call pkt objs lan.window)) ∧
    (first = .sent → ∀ pkt objs, pkt.length ≤ ipmiMaxPktLen →
      unassembleIpmiRmcpplusPkt crypto algorithms confidentialityKey pkt (clearReceived20 lan20.objs)
          ctx.intfFlags = .ok (true, objs) →
        ((∃ right, (verifyPacket20 crypto ctx algorithms.integrity lan20.call objs pkt lan20.window).1
            = .ok right) ↔
          Verifiable crypto ctx algorithms.integrity lan20.call objs pkt lan20.window)) := by
  refine ⟨⟨?_, ?_⟩, fun hsent pkt objs hret => ?_, fun hsent pkt objs hlen hret => ?_⟩
  · exact (lanReceiver_sound digests ctxLan ndebug cmdTmplLan).failsLocally_iff .v15 early first events hlan
  · exact (lan20Receiver_sound hcrypto algorithms confidentialityKey ctx ndebug cmdTmpl).failsLocally_iff
      .v20 early first events hlan20
  · obtain ⟨hobjs, hvalid, hsupported⟩ := hlan hsent
    exact verifyPacket_returns_iff hobjs hret hvalid hsupported
  · have hready := hlan20 hsent
    exact verifyPacket20_returns_iff (hready.keeps (clearReceived20_becomes _)).objs
      (unset_clear _).byteLens hret hready.valid hlen

end Receive

/-! ### Where a datagram ends a call -/

/-- A context that opens a session without algorithms. -/
def openingCtx : OutOfBand20 := ⟨⟨.lan20, 0, 0, false, 0⟩, 0, 0x01020304⟩

/-- An open session request with tag 0, which waits for the response. -/
def openingWait : Lan20Wait where
  call := ⟨ipmiPayloadTypeRmcpplusOpenSessionRequest, some 0, none, none, none, []⟩
  objs := { Rmcpplus.receivingObjs with cmd := createdObj tmplRmcpplusOpenSessionResponse 36 true }
  window := checkSessionSequenceNumberInit

theorem openingWait_ready :
    openingWait.Ready false tmplRmcpplusOpenSessionResponse ⟨0, 0, 0⟩ none openingCtx where
  objs := by
    refine ⟨.create (by decide), .create (by decide), .create (by rfl), .create (by decide),
      .create (by decide), .create (by decide), .create (by decide)⟩
  valid := ⟨rfl, by decide, by decide, by decide⟩
  parameters := ⟨by decide, by decide, by decide, by decide, by decide⟩
  tagged _ := rfl

/-- The rounds of the call for the request. -/
def openingRounds (data : List Byte) : List Round :=
  (lan20Receiver zeroCrypto ⟨0, 0, 0⟩ none openingCtx).roundsOf [.received data .sent true] openingWait

/-- A request over IPMI 1.5, which waits. -/
def plainWait : LanWait := ⟨plainCall, vlanIdObjs, checkSessionSequenceNumberInit⟩

theorem plainWait_ready : plainWait.Ready false tmplCmdGetLanConfigurationParametersVlanIdRs :=
  ⟨vlanIdObjs_passed, ⟨by decide, by decide⟩, by decide⟩

def plainRounds (data : List Byte) : List Round :=
  (lanReceiver zeroDigests plainCtx).roundsOf [.received data .sent true] plainWait

/-- A datagram of one byte is passed over by both calls, which then wait for the session timeout. -/
theorem datagrams_skipped_iff_opening :
    Call.FailsLocally .v15 ⟨false, false, .sent, plainRounds [6]⟩ ∧
      Call.FailsLocally .v20 ⟨false, false, .sent, openingRounds [6]⟩ := by
  have hcrypto : zeroCrypto.KeepsLength := fun _ _ _ => rfl
  obtain ⟨⟨hplain, hopening⟩, -⟩ := datagrams_skipped_iff hcrypto zeroDigests plainCtx
    [.received [6] .sent true] (fun _ => plainWait_ready) fun _ => openingWait_ready
  refine ⟨hplain.mpr fun _ _ => ⟨?_, fun _ => trivial⟩, hopening.mpr fun _ _ => ⟨?_, fun _ => trivial⟩⟩
  · rintro _ ⟨rfl, -⟩
    exact ⟨fun hreaches => absurd hreaches.2 (by decide), fun _ hret => by cases hret⟩
  · rintro _ ⟨rfl, -⟩
    exact ⟨fun hreadable => absurd hreadable.long (by decide), fun _ hret => by cases hret⟩

/-- RAKP message 2, of one byte, as a datagram that came too late would be. -/
def strayPkt : List Byte := [6, 0, 0xff, 7] ++ [6, 0x13, 0, 0, 0, 0, 0, 0, 0, 0, 1, 0] ++ [0]

/-- It is not what the open session request waits for, but the call fails for it. -/
theorem strayPkt_endsCall :
    (headerAt strayPkt).payloadType ≠ responsePayloadType openingWait.call.payloadType ∧
      (cmdWrapper .v20 ⟨false, false, .sent, openingRounds strayPkt⟩ (.start 0 0)).2 = false ∧
      ¬ Call.FailsLocally .v20 ⟨false, false, .sent, openingRounds strayPkt⟩ :=
  ⟨by decide, by rfl, fun h => (failsLocally_iff.mp h rfl rfl).1 rfl⟩

end FreeIpmi.Api
