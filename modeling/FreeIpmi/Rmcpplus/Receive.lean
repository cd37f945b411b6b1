import FreeIpmi.Lan.Receive
import FreeIpmi.Rmcpplus.Check
import FreeIpmi.Rmcpplus.Parse

/-! The objects of a response after `unassemble_ipmi_rmcpplus_pkt`.

    Whatever the packet was, they are objects of the same templates, and so can be used for the next
    one. When the packet was accepted, the object of the session header holds its header; the objects
    of the message, or of the session setup, were filled from its payload. -/

namespace FreeIpmi.Rmcpplus
open Fiid Calls Stages ByteBits Lan

/-! ### The same templates -/

/-- The objects were changed by calls only. -/
structure RmcpplusObjs.Becomes (objs objs' : RmcpplusObjs) : Prop where
  rmcpHdr : objs.rmcpHdr.Becomes objs'.rmcpHdr
  sessionHdr : objs.sessionHdr.Becomes objs'.sessionHdr
  payload : objs.payload.Becomes objs'.payload
  lanMsgHdr : objs.lanMsgHdr.Becomes objs'.lanMsgHdr
  cmd : objs.cmd.Becomes objs'.cmd
  lanMsgTrlr : objs.lanMsgTrlr.Becomes objs'.lanMsgTrlr
  sessionTrlr : objs.sessionTrlr.Becomes objs'.sessionTrlr

section Becomes
variable {objs objs₁ objs₂ : RmcpplusObjs} {pkt : List Byte} {w : RmcpplusWalk}

theorem RmcpplusObjs.Becomes.refl (objs : RmcpplusObjs) : objs.Becomes objs :=
  ⟨.refl _, .refl _, .refl _, .refl _, .refl _, .refl _, .refl _⟩

theorem RmcpplusObjs.Becomes.trans (h : objs.Becomes objs₁) (h' : objs₁.Becomes objs₂) :
    objs.Becomes objs₂ :=
  ⟨h.rmcpHdr.trans h'.rmcpHdr, h.sessionHdr.trans h'.sessionHdr, h.payload.trans h'.payload,
    h.lanMsgHdr.trans h'.lanMsgHdr, h.cmd.trans h'.cmd, h.lanMsgTrlr.trans h'.lanMsgTrlr,
    h.sessionTrlr.trans h'.sessionTrlr⟩

/-- The payload of a packet fills other objects than the headers. -/
theorem RmcpplusObjs.Becomes.setCmd (h : objs.Becomes objs₁) {obj : FiidObj}
    (hobj : objs₁.cmd.Becomes obj) : objs.Becomes { objs₁ with cmd := obj } :=
  ⟨h.rmcpHdr, h.sessionHdr, h.payload, h.lanMsgHdr, h.cmd.trans hobj, h.lanMsgTrlr, h.sessionTrlr⟩

theorem RmcpplusObjs.Becomes.setPayload (h : objs.Becomes objs₁) {obj : FiidObj}
    (hobj : objs₁.payload.Becomes obj) : objs.Becomes { objs₁ with payload := obj } :=
  ⟨h.rmcpHdr, h.sessionHdr, h.payload.trans hobj, h.lanMsgHdr, h.cmd, h.lanMsgTrlr, h.sessionTrlr⟩

theorem RmcpplusObjs.Becomes.setSessionTrlr (h : objs.Becomes objs₁) {obj : FiidObj}
    (hobj : objs₁.sessionTrlr.Becomes obj) : objs.Becomes { objs₁ with sessionTrlr := obj } :=
  ⟨h.rmcpHdr, h.sessionHdr, h.payload, h.lanMsgHdr, h.cmd, h.lanMsgTrlr, h.sessionTrlr.trans hobj⟩

theorem RmcpplusObjs.Becomes.clear (h : objs.Becomes objs₁) : objs.Becomes objs₁.clear :=
  ⟨h.rmcpHdr.trans (becomes_clear _), h.sessionHdr.trans (becomes_clear _),
    h.payload.trans (becomes_clear _), h.lanMsgHdr, h.cmd.trans (becomes_clear _), h.lanMsgTrlr,
    h.sessionTrlr⟩

theorem RmcpplusObjs.Becomes.clearFor (h : objs.Becomes objs₁) (hdr : SessionHdr) :
    objs.Becomes (objs₁.clearFor hdr) := by
  simp only [RmcpplusObjs.clearFor]
  split_ifs
  · exact ⟨h.rmcpHdr, h.sessionHdr, h.payload, h.lanMsgHdr.trans (becomes_clear _), h.cmd,
      h.lanMsgTrlr.trans (becomes_clear _), h.sessionTrlr.trans (becomes_clear _)⟩
  · exact h.setSessionTrlr (becomes_clear _)
  · exact ⟨h.rmcpHdr, h.sessionHdr, h.payload, h.lanMsgHdr.trans (becomes_clear _), h.cmd,
      h.lanMsgTrlr.trans (becomes_clear _), h.sessionTrlr⟩
  · exact h

/-- What the payload functions hand on, and what they give up with, was changed by calls only. -/
abbrev ObjsChange (objs : RmcpplusObjs) : Except (Exit Stop RmcpplusObjs) RmcpplusObjs → Prop :=
  Keeps fun objs' => objs.Becomes objs'

abbrev Changes (objs : RmcpplusObjs) : Except (Exit Stop RmcpplusWalk) RmcpplusWalk → Prop :=
  Keeps fun w => objs.Becomes w.objs

theorem setPayload_changes (h : objs.Becomes objs₁) (field : String) (buf : List Byte) :
    ObjsChange objs (setPayload field buf objs₁) :=
  keeps_call fun _ hset => keeps_ok (h.setPayload (becomes_setData hset))

theorem deconstructMsg_changes (h : objs.Becomes objs₁) (buf : List Byte) :
    ObjsChange objs (deconstructMsg buf objs₁) := by
  refine keeps_call fun _ _ => keeps_call fun r hhdr => ?_
  have h₁ : objs.Becomes { objs₁ with lanMsgHdr := r.1 } :=
    ⟨h.rmcpHdr, h.sessionHdr, h.payload, h.lanMsgHdr.trans (becomes_trySetAll hhdr), h.cmd,
      h.lanMsgTrlr, h.sessionTrlr⟩
  refine keeps_ite (keeps_unparsed h₁) (keeps_ite (keeps_unparsed h₁) (keeps_call fun r' hcmd => ?_))
  have h₂ := h₁.setCmd (becomes_trySetAll hcmd)
  refine keeps_ite (keeps_unparsed h₂) (keeps_call fun r'' htrlr => keeps_ok ?_)
  exact ⟨h₂.rmcpHdr, h₂.sessionHdr, h₂.payload, h₂.lanMsgHdr, h₂.cmd,
    h₂.lanMsgTrlr.trans (becomes_trySetAll htrlr), h₂.sessionTrlr⟩

theorem deconstructPayloadBuf_changes (h : objs.Becomes objs₁) (payloadType : Byte) (buf : List Byte) :
    ObjsChange objs (deconstructPayloadBuf payloadType buf objs₁) :=
  keeps_ite (deconstructMsg_changes h buf)
    (keeps_call fun _ hcmd => keeps_ok (h.setCmd (becomes_trySetAll hcmd)))

theorem setConfidentialityTrailer_becomes (h : objs.Becomes objs₁) (buf : List Byte) :
    objs.Becomes (setConfidentialityTrailer buf objs₁) := by
  rw [setConfidentialityTrailer]
  split
  · rename_i hset
    exact h.setPayload (becomes_setData hset)
  · exact h

theorem deconstructDecrypted_changes (h : objs.Becomes objs₁) (payloadType : Byte)
    (payloadBuf : List Byte) : ObjsChange objs (deconstructDecrypted payloadType payloadBuf objs₁) := by
  rw [deconstructDecrypted]
  refine keeps_ite (keeps_unparsed h) (keeps_ite (keeps_unparsed h) (keeps_ite (keeps_unparsed h) ?_))
  refine (setPayload_changes h _ _).bind fun objs₂ h₂ => ?_
  exact deconstructPayloadBuf_changes (setConfidentialityTrailer_becomes h₂ _) _ _

theorem deconstructPayload_changes (h : objs.Becomes objs₁) (crypto : Crypto) (algorithms : Algorithms)
    (confidentialityKey : Option (List Byte)) (hdr : SessionHdr) (buf : List Byte) :
    ObjsChange objs (deconstructPayload crypto algorithms confidentialityKey hdr buf objs₁) := by
  refine keeps_ite (keeps_ite ?_ ?_) ?_
  · exact (deconstructPayloadBuf_changes h _ _).bind fun _ h₂ => setPayload_changes h₂ _ _
  · rw [deconstructPayloadConfidentialityAesCbc128.eq_def]
    split
    · refine keeps_ite (keeps_fail _) (keeps_ite (keeps_unparsed h) (keeps_ite (keeps_unparsed h) ?_))
      refine (setPayload_changes h _ _).bind fun objs₂ h₂ => ?_
      exact keeps_ite (keeps_fail _) (keeps_ite (keeps_fail _) (deconstructDecrypted_changes h₂ _ _))
    · exact keeps_fail _
  · refine (setPayload_changes h _ _).bind fun objs₂ h₂ => ?_
    exact keeps_call fun _ hcmd => keeps_ok (h₂.setCmd (becomes_trySetAll hcmd))

theorem onObjs_keeps {P : RmcpplusObjs → Prop} {x : Except (Exit Stop RmcpplusObjs) RmcpplusObjs} {i : ℕ}
    (h : Keeps P x) : Keeps (fun w : RmcpplusWalk => P w.objs) (onObjs i x) := by
  match x with
  | .ok objs => exact keeps_ok (h.value _ rfl)
  | .error (.unparsed objs) => exact keeps_unparsed (h.reason _ rfl _ rfl)
  | .error (.fail e) => exact keeps_fail e

theorem trlrDataStage_changes (h : objs.Becomes w.objs) (field : String) (data : List Byte) :
    Changes objs (trlrDataStage field data w) :=
  keeps_call fun _ hset => keeps_ok (h.setSessionTrlr (becomes_setData hset))

theorem integrityPadStage_changes (h : objs.Becomes w.objs) (rest : List Byte) (padMax : ℕ) :
    Changes objs (integrityPadStage rest padMax w) :=
  keeps_call fun _ _ => keeps_ite (keeps_unparsed h) (trlrDataStage_changes h _ _)

theorem trlrStage_changes (h : objs.Becomes w.objs) (algorithms : Algorithms) :
    Changes objs (trlrStage algorithms pkt w) := by
  have hfields : ∀ (nextHeader padLength rest : List Byte) (padMax : ℕ) (w₁ : RmcpplusWalk),
      objs.Becomes w₁.objs → Changes objs (runStages [trlrDataStage "next_header" nextHeader,
        trlrDataStage "pad_length" padLength, integrityPadStage rest padMax] w₁) := by
    intro nextHeader padLength rest padMax w₁ h₁
    refine (trlrDataStage_changes h₁ _ _).bind fun w₂ h₂ => ?_
    refine (trlrDataStage_changes h₂ _ _).bind fun w₃ h₃ => ?_
    exact (integrityPadStage_changes h₃ _ _).bind fun _ h₄ => keeps_ok h₄
  refine keeps_call fun _ _ => keeps_ite (keeps_ok h) (keeps_call fun _ _ => keeps_call fun _ _ => ?_)
  refine keeps_ite (keeps_unparsed h) (keeps_ite ?_ ?_)
  · exact (trlrDataStage_changes h _ _).bind fun w₁ h₁ => hfields _ _ _ _ w₁ h₁
  · exact hfields _ _ _ _ w h

/-- Every stage of the walk changes the objects by calls only. -/
theorem rmcpplusStages_changes (crypto : Crypto) (algorithms : Algorithms)
    (confidentialityKey : Option (List Byte)) (pkt : List Byte) :
    ∀ stage ∈ rmcpplusStages crypto algorithms confidentialityKey pkt, ∀ w, objs.Becomes w.objs →
      Changes objs (stage w) := by
  intro stage hstage w h
  have hmore : Changes objs (moreStage pkt w) := keeps_ite (keeps_unparsed h) (keeps_ok h)
  have hsession : ∀ fieldStart fieldEnd, Changes objs (sessionHdrStage pkt fieldStart fieldEnd w) :=
    fun fieldStart fieldEnd => keeps_call fun _ hset => keeps_ok
      ⟨h.rmcpHdr, h.sessionHdr.trans (becomes_trySetBlock hset), h.payload, h.lanMsgHdr, h.cmd,
        h.lanMsgTrlr, h.sessionTrlr⟩
  simp only [rmcpplusStages, List.mem_cons, List.not_mem_nil, or_false] at hstage
  rcases hstage with rfl | rfl | rfl | rfl | rfl | rfl | rfl | rfl | rfl | rfl | rfl
  · exact keeps_call fun _ hset => keeps_ok
      ⟨h.rmcpHdr.trans (becomes_trySetAll hset), h.sessionHdr, h.payload, h.lanMsgHdr, h.cmd,
        h.lanMsgTrlr, h.sessionTrlr⟩
  · exact hmore
  · exact hsession _ _
  · exact hmore
  · exact keeps_call fun _ _ => keeps_ite (keeps_ok h) (keeps_unparsed h)
  · exact hsession _ _
  · exact hmore
  · exact keeps_call fun _ _ => keeps_ite (keeps_unparsed h) (keeps_ok h)
  · refine keeps_call fun hdr _ => keeps_call fun _ _ => ?_
    exact keeps_ite (keeps_call fun _ _ => keeps_ok (h.clearFor hdr)) (keeps_ok (h.clearFor hdr))
  · exact keeps_call fun hdr _ => onObjs_keeps (deconstructPayload_changes h crypto algorithms _ hdr _)
  · exact trlrStage_changes h algorithms

/-- Parsing changes the objects by calls only, whether the packet is accepted or not. -/
theorem unassembleIpmiRmcpplusPkt_becomes {crypto : Crypto} {algorithms : Algorithms}
    {confidentialityKey : Option (List Byte)} {accepted : Bool} {flags : BitVec 32}
    (hret : unassembleIpmiRmcpplusPkt crypto algorithms confidentialityKey pkt objs flags
      = .ok (accepted, objs₁)) : objs.Becomes objs₁ := by
  have hstages : Changes objs
      (runStages (rmcpplusStages crypto algorithms confidentialityKey pkt) ⟨0, objs.clear⟩) :=
    runStages_meets (rmcpplusStages_changes crypto algorithms confidentialityKey pkt)
      (RmcpplusObjs.Becomes.refl objs).clear
  rw [unassembleIpmiRmcpplusPkt] at hret
  split at hret
  · cases hret
  · obtain ⟨_, -, hret⟩ := bind_eq_ok.mp hret
    obtain ⟨⟨b, w⟩, hreport, hret⟩ := bind_eq_ok.mp hret
    cases hret
    exact hstages.report hreport

end Becomes

/-! ### The objects of a session -/

/-- The objects for responses, each made of its template. -/
structure RmcpplusObjs.Fit (ndebug : Bool) (cmdTmpl : FiidTemplate) (objs : RmcpplusObjs) : Prop where
  rmcpHdr : Reachable ndebug tmplRmcpHdr objs.rmcpHdr
  sessionHdr : Reachable ndebug tmplRmcpplusSessionHdr objs.sessionHdr
  payload : Reachable ndebug tmplRmcpplusPayload objs.payload
  lanMsgHdr : Reachable ndebug tmplLanMsgHdrRs objs.lanMsgHdr
  cmd : Reachable ndebug cmdTmpl objs.cmd
  lanMsgTrlr : Reachable ndebug tmplLanMsgTrlr objs.lanMsgTrlr
  sessionTrlr : Reachable ndebug tmplRmcpplusSessionTrlr objs.sessionTrlr

section Fit
variable {ndebug : Bool} {cmdTmpl : FiidTemplate} {objs objs₁ : RmcpplusObjs}

theorem RmcpplusObjs.Fit.becomes (h : objs.Fit ndebug cmdTmpl) (hb : objs.Becomes objs₁) :
    objs₁.Fit ndebug cmdTmpl :=
  ⟨hb.rmcpHdr _ _ h.rmcpHdr, hb.sessionHdr _ _ h.sessionHdr, hb.payload _ _ h.payload,
    hb.lanMsgHdr _ _ h.lanMsgHdr, hb.cmd _ _ h.cmd, hb.lanMsgTrlr _ _ h.lanMsgTrlr,
    hb.sessionTrlr _ _ h.sessionTrlr⟩

theorem RmcpplusObjs.Fit.passed (h : objs.Fit ndebug cmdTmpl) : objs.Passed ndebug cmdTmpl where
  rmcpHdr := ⟨_, h.rmcpHdr⟩
  sessionHdr := ⟨_, h.sessionHdr⟩
  payload := ⟨_, h.payload⟩
  lanMsgHdr := ⟨_, h.lanMsgHdr⟩
  cmd := h.cmd
  lanMsgTrlr := ⟨_, h.lanMsgTrlr⟩
  sessionTrlr := ⟨_, h.sessionTrlr⟩
  compared := by
    simp only [RmcpplusObjs.compareTemplates, h.rmcpHdr.wf.of.compare (show TemplateOk tmplRmcpHdr by decide),
      h.sessionHdr.wf.of.compare (show TemplateOk tmplRmcpplusSessionHdr by decide),
      h.payload.wf.of.compare (show TemplateOk tmplRmcpplusPayload by decide), ok_bind]

theorem RmcpplusObjs.Fit.comparePayload (h : objs.Fit ndebug cmdTmpl) (hb : objs.Becomes objs₁)
    (payloadType : Byte) : objs₁.comparePayload payloadType = objs.comparePayload payloadType := by
  simp only [RmcpplusObjs.comparePayload, compareEither, hb.lanMsgHdr.compare h.lanMsgHdr,
    hb.lanMsgTrlr.compare h.lanMsgTrlr, hb.cmd.compare h.cmd]

end Fit

/-! ### What the payload fills -/

/-- The command object, filled from some bytes. -/
def CmdFilled (cmdFields : List FiidField) (d : List Byte) (objs : RmcpplusObjs) : Prop :=
  ∃ obj n, obj.Of cmdFields ∧ obj.Unset ∧ Filled cmdFields obj objs.cmd d n

/-- The objects of a message, filled from it: the command takes what it has room for, and the trailer
    the byte behind that. -/
structure MsgRead (cmdFields : List FiidField) (message : List Byte) (objs : RmcpplusObjs) : Prop where
  long : aroundCmd < message.length
  hdrOf : objs.lanMsgHdr.Of tmplLanMsgHdrRs.fields
  hdr : objs.lanMsgHdr.Holds msgHdrLens (message.take 5)
  trlrOf : objs.lanMsgTrlr.Of tmplLanMsgTrlr.fields
  cmd : ∃ obj n, obj.Of cmdFields ∧ obj.Unset ∧
    Filled cmdFields obj objs.cmd ((message.drop 5).take (message.length - aroundCmd)) n ∧
    objs.lanMsgTrlr.Holds [8] ((message.drop (5 + n)).take 1)

/-- What the payload of a type fills. -/
structure PayloadRead (cmdFields : List FiidField) (payloadType : Byte) (message : List Byte)
    (objs : RmcpplusObjs) : Prop where
  msg : payloadType = ipmiPayloadTypeIpmi → MsgRead cmdFields message objs
  other : payloadType ≠ ipmiPayloadTypeIpmi → CmdFilled cmdFields message objs

section Payload
variable {objs objs' : RmcpplusObjs} {cmdFields : List FiidField} {payloadType : Byte}
  {buf message : List Byte}

theorem PayloadRead.withPayload (h : PayloadRead cmdFields payloadType message objs) (obj : FiidObj) :
    PayloadRead cmdFields payloadType message { objs with payload := obj } where
  msg htype :=
    have hmsg := h.msg htype
    ⟨hmsg.long, hmsg.hdrOf, hmsg.hdr, hmsg.trlrOf, hmsg.cmd⟩
  other htype := h.other htype

theorem deconstructMsg_reads (h : MsgObjs cmdFields objs) (hret : deconstructMsg buf objs = .ok objs') :
    MsgRead cmdFields buf objs' := by
  have hends : CmdEnds cmdFields buf := (deconstructMsg_answers h buf).mp (hret ▸ answers_ok objs')
  have htrlr : orTemplateInvalid (fiidTemplateLenBytes tmplLanMsgTrlr) = .ok 1 := by decide
  obtain ⟨hdr, n, hcall, hfill⟩ := trySetAll_filled h.lanMsgHdr h.lanMsgHdrUnset
    (endsByteAligned_msgHdr buf.length)
  have hn := hfill.len
  rw [show bitLen tmplLanMsgHdrRs.fields = 40 from rfl] at hn
  simp only [deconstructMsg, htrlr, hcall, call_ok, ok_bind] at hret
  split at hret
  · cases hret
  · rename_i hmore
    split at hret
    · cases hret
    · rename_i hroom
      obtain rfl : n = 5 := by omega
      have hlong : aroundCmd < buf.length := by
        rw [aroundCmd]
        omega
      have hsub : buf.length - 5 - 1 = buf.length - aroundCmd := by
        rw [aroundCmd]
        omega
      have hlen : ((buf.drop 5).take (buf.length - aroundCmd)).length = buf.length - aroundCmd := by
        rw [List.length_take, List.length_drop, aroundCmd]
        omega
      obtain ⟨cmd, m, hcmd, hcmdFill⟩ := trySetAll_filled
        (d := (buf.drop 5).take (buf.length - aroundCmd)) h.cmd h.cmdUnset (by rw [hlen]; exact hends hlong)
      obtain ⟨trlr, k, htrlrCall, htrlrFill⟩ := trySetAll_filled (d := buf.drop (5 + m)) h.lanMsgTrlr
        h.lanMsgTrlrUnset (endsByteAligned_msgTrlr _)
      simp only [hsub, hcmd, htrlrCall, call_ok, ok_bind] at hret
      split at hret
      · cases hret
      · rename_i hbehind
        cases hret
        have hk := htrlrFill.len
        rw [show bitLen tmplLanMsgTrlr.fields = 8 from rfl, List.length_drop] at hk
        obtain rfl : k = 1 := by omega
        exact ⟨hlong, hfill.of, hfill.holds h.lanMsgHdr h.lanMsgHdrUnset, htrlrFill.of, _, m, h.cmd,
          h.cmdUnset, hcmdFill, htrlrFill.holds h.lanMsgTrlr h.lanMsgTrlrUnset⟩

theorem deconstructPayloadBuf_reads (h : BufObjs payloadType cmdFields objs) (hbuf : buf ≠ [])
    (hret : deconstructPayloadBuf payloadType buf objs = .ok objs') :
    PayloadRead cmdFields payloadType buf objs' := by
  rw [deconstructPayloadBuf] at hret
  by_cases htype : payloadType = ipmiPayloadTypeIpmi
  · rw [if_pos htype] at hret
    exact ⟨fun _ => deconstructMsg_reads (h.msg htype) hret, fun hne => absurd htype hne⟩
  · obtain ⟨obj, n, hcall, hfill⟩ := trySetAll_filled h.cmd h.cmdUnset
      (h.others htype _ (List.length_pos_iff.mpr hbuf))
    simp only [if_neg htype, hcall, call_ok, ok_bind] at hret
    cases hret
    exact ⟨fun heq => absurd heq htype, fun _ => ⟨_, n, h.cmd, h.cmdUnset, hfill⟩⟩

theorem setPayload_eq_ok {field : String} (hret : setPayload field buf objs = .ok objs') :
    ∃ obj, objs' = { objs with payload := obj } := by
  obtain ⟨r, -, hret⟩ := bind_eq_ok.mp hret
  cases hret
  exact ⟨r.1, rfl⟩

theorem deconstructDecrypted_reads (h : BufObjs payloadType cmdFields objs)
    (hret : deconstructDecrypted payloadType buf objs = .ok objs') :
    PayloadRead cmdFields payloadType (withoutPad buf) objs' := by
  simp only [deconstructDecrypted] at hret
  split at hret
  · cases hret
  · rename_i hpad
    split at hret
    · cases hret
    · rename_i hshort
      split at hret
      · cases hret
      · rename_i hempty
        obtain ⟨objs₁, hset, hret⟩ := bind_eq_ok.mp hret
        obtain ⟨obj, rfl⟩ := setPayload_eq_ok hset
        obtain ⟨obj', htrlr⟩ := setConfidentialityTrailer_eq
          (buf.drop (buf.length - (buf.getLastD 0).toNat - 1)) { objs with payload := obj }
        rw [htrlr] at hret
        simp only [withoutPad, if_neg hpad]
        refine deconstructPayloadBuf_reads (h.withPayload obj') (fun hnil => ?_) hret
        have hlen := congrArg List.length hnil
        rw [List.length_take, List.length_nil] at hlen
        omega

/-- A decryption that goes on was given a key, and leads to what follows it. -/
theorem deconstructPayloadConfidentialityAesCbc128_eq_ok {crypto : Crypto}
    {confidentialityKey : Option (List Byte)} {payloadEncrypted : Bool}
    (hret : deconstructPayloadConfidentialityAesCbc128 crypto confidentialityKey payloadType
      payloadEncrypted buf objs = .ok objs') : ∃ obj,
    deconstructDecrypted payloadType (decrypted crypto (confidentialityKey.getD []) buf)
      { objs with payload := obj } = .ok objs' := by
  rw [deconstructPayloadConfidentialityAesCbc128.eq_def] at hret
  split at hret
  · split at hret
    · cases hret
    · split at hret
      · cases hret
      · split at hret
        · cases hret
        · obtain ⟨objs₁, hset, hret⟩ := bind_eq_ok.mp hret
          obtain ⟨obj, rfl⟩ := setPayload_eq_ok hset
          dsimp only at hret
          split at hret
          · cases hret
          · split at hret
            · cases hret
            · exact ⟨obj, hret⟩
  · cases hret

instance (payloadType : Byte) : Decidable (Ciphered payloadType) := inferInstanceAs (Decidable (_ ∨ _))

/-- The message in a payload: that of a session is decrypted, where there is a cipher. -/
def messageOf (crypto : Crypto) (algorithms : Algorithms) (confidentialityKey : Option (List Byte))
    (payloadType : Byte) (payload : List Byte) : List Byte :=
  if Ciphered payloadType ∧ algorithms.confidentiality ≠ ipmiConfidentialityAlgorithmNone then
    withoutPad (decrypted crypto (confidentialityKey.getD []) payload)
  else payload

theorem deconstructPayload_reads {crypto : Crypto} {algorithms : Algorithms}
    {confidentialityKey : Option (List Byte)} {hdr : SessionHdr}
    (h : BufObjs hdr.payloadType cmdFields objs) (hbuf : buf ≠ [])
    (hret : deconstructPayload crypto algorithms confidentialityKey hdr buf objs = .ok objs') :
    PayloadRead cmdFields hdr.payloadType
      (messageOf crypto algorithms confidentialityKey hdr.payloadType buf) objs' := by
  rw [deconstructPayload] at hret
  by_cases hmsg : Ciphered hdr.payloadType
  · rw [if_pos hmsg] at hret
    by_cases hnone : algorithms.confidentiality = ipmiConfidentialityAlgorithmNone
    · rw [if_pos hnone] at hret
      obtain ⟨objs₁, hread, hset⟩ := bind_eq_ok.mp hret
      obtain ⟨obj, rfl⟩ := setPayload_eq_ok hset
      rw [messageOf, if_neg fun hboth => hboth.2 hnone]
      exact (deconstructPayloadBuf_reads h hbuf hread).withPayload obj
    · rw [if_neg hnone] at hret
      obtain ⟨obj, hret⟩ := deconstructPayloadConfidentialityAesCbc128_eq_ok hret
      rw [messageOf, if_pos ⟨hmsg, hnone⟩]
      exact deconstructDecrypted_reads (h.withPayload obj) hret
  · rw [if_neg hmsg] at hret
    rw [messageOf, if_neg fun hboth => hmsg hboth.1]
    have htype : hdr.payloadType ≠ ipmiPayloadTypeIpmi := fun heq => hmsg (Or.inl heq)
    obtain ⟨objs₁, hset, hret⟩ := bind_eq_ok.mp hret
    obtain ⟨obj, rfl⟩ := setPayload_eq_ok hset
    obtain ⟨cmd, n, hcall, hfill⟩ := trySetAll_filled h.cmd h.cmdUnset
      (h.others htype _ (List.length_pos_iff.mpr hbuf))
    simp only [hcall, call_ok, ok_bind] at hret
    cases hret
    exact ⟨fun heq => absurd heq htype, fun _ => ⟨_, n, h.cmd, h.cmdUnset, hfill⟩⟩

end Payload

/-! ### An accepted packet -/

/-- The walk through the trailer: the other objects are those from before it. -/
structure TrlrRead (objs : RmcpplusObjs) (w : RmcpplusWalk) : Prop where
  frame : w.objs = { objs with sessionTrlr := w.objs.sessionTrlr }
  of : w.objs.sessionTrlr.Of tmplRmcpplusSessionTrlr.fields
  bytes : w.objs.sessionTrlr.ByteLens

section Trailer
variable {objs : RmcpplusObjs} {w : RmcpplusWalk}

theorem trlrDataStage_reads (h : TrlrRead objs w) {field : String} {o m : ℕ}
    (hplace : wholePlace tmplRmcpplusSessionTrlr.fields field = some (o, m)) (data : List Byte) :
    Keeps (TrlrRead objs) (trlrDataStage field data w) := by
  refine keeps_call fun r hset => keeps_ok ?_
  obtain ⟨hof, hbytes⟩ := h.bytes.setData h.of hplace hset
  exact ⟨by rw [h.frame], hof, hbytes⟩

theorem trlrStage_reads (h : TrlrRead objs w) (algorithms : Algorithms) (pkt : List Byte) :
    Keeps (TrlrRead objs) (trlrStage algorithms pkt w) := by
  have hfields : ∀ (nextHeader padLength rest : List Byte) (padMax : ℕ) (w₁ : RmcpplusWalk),
      TrlrRead objs w₁ → Keeps (TrlrRead objs) (runStages [trlrDataStage "next_header" nextHeader,
        trlrDataStage "pad_length" padLength, integrityPadStage rest padMax] w₁) := by
    intro nextHeader padLength rest padMax w₁ h₁
    refine (trlrDataStage_reads h₁ nextHeader_place _).bind fun w₂ h₂ => ?_
    refine (trlrDataStage_reads h₂ padLength_place _).bind fun w₃ h₃ => ?_
    refine Keeps.bind (P := TrlrRead objs) (keeps_call fun _ _ => ?_) fun _ h₄ => keeps_ok h₄
    exact keeps_ite (keeps_unparsed h₃) (trlrDataStage_reads h₃ integrityPad_place _)
  refine keeps_call fun _ _ => keeps_ite (keeps_ok h) (keeps_call fun _ _ => keeps_call fun _ _ => ?_)
  refine keeps_ite (keeps_unparsed h) (keeps_ite ?_ ?_)
  · exact (trlrDataStage_reads h authenticationCode_place _).bind fun w₁ h₁ => hfields _ _ _ _ w₁ h₁
  · exact hfields _ _ _ _ w h

end Trailer

/-- The objects of a packet that `unassemble_ipmi_rmcpplus_pkt` accepts. -/
structure Accepted (crypto : Crypto) (algorithms : Algorithms) (confidentialityKey : Option (List Byte))
    (cmdFields : List FiidField) (pkt : List Byte) (objs : RmcpplusObjs) : Prop where
  readable : Readable algorithms pkt
  compared : objs.comparePayload (headerAt pkt).payloadType = .ok ()
  sessionOf : objs.sessionHdr.Of tmplRmcpplusSessionHdr.fields
  session : objs.sessionHdr.Holds hdrLens (headerBytes pkt)
  payload : PayloadRead cmdFields (headerAt pkt).payloadType
    (messageOf crypto algorithms confidentialityKey (headerAt pkt).payloadType (payloadAt pkt)) objs
  trlrOf : objs.sessionTrlr.Of tmplRmcpplusSessionTrlr.fields
  trlrBytes : objs.sessionTrlr.ByteLens

section Accepted
variable {ndebug : Bool} {cmdTmpl : FiidTemplate} {objs objs' : RmcpplusObjs} {crypto : Crypto}
  {algorithms : Algorithms} {confidentialityKey : Option (List Byte)} {pkt : List Byte}
  {flags : BitVec 32}

theorem clearFor_sessionTrlr_cases (objs : RmcpplusObjs) (h : SessionHdr) :
    (objs.clearFor h).sessionTrlr = fiidObjClear objs.sessionTrlr ∨
      (objs.clearFor h).sessionTrlr = objs.sessionTrlr := by
  by_cases ht : h.hasTrlr = true
  · exact Or.inl (clearFor_sessionTrlr objs ht)
  · refine Or.inr ?_
    simp only [RmcpplusObjs.clearFor, if_neg ht]
    split_ifs <;> rfl

/-- The stages behind the headers, when they all go on. -/
theorem behindHeaders_eq_ok {w w' : RmcpplusWalk} {h : SessionHdr}
    (hhdr : sessionHdrOf w.objs.sessionHdr = .ok h)
    (hrun : runStages [objsStage, payloadStage crypto algorithms confidentialityKey pkt,
      trlrStage algorithms pkt] w = .ok w') :
    w.objs.comparePayload h.payloadType = .ok () ∧ ∃ w₁ : RmcpplusWalk,
      payloadStage crypto algorithms confidentialityKey pkt
        { w with objs := w.objs.clearFor h } = .ok w₁ ∧ trlrStage algorithms pkt w₁ = .ok w' := by
  obtain ⟨w₁, hobjs, hrun⟩ := runStages_cons_eq_ok.mp hrun
  obtain ⟨w₂, hpayload, hrun⟩ := runStages_cons_eq_ok.mp hrun
  obtain ⟨w₃, htrlr, hrun⟩ := runStages_cons_eq_ok.mp hrun
  cases hrun
  simp only [objsStage, hhdr, call_ok, ok_bind] at hobjs
  obtain ⟨_, hcompared, hobjs⟩ := bind_eq_ok.mp hobjs
  refine ⟨call_eq_ok.mp hcompared, w₂, ?_, htrlr⟩
  split at hobjs
  · obtain ⟨_, -, hobjs⟩ := bind_eq_ok.mp hobjs
    cases hobjs
    exact hpayload
  · cases hobjs
    exact hpayload

/-- What the objects hold when a packet was accepted. -/
theorem RmcpplusObjs.Fit.accepted (h : objs.Fit ndebug cmdTmpl) (hbytes : objs.sessionTrlr.ByteLens)
    (hret : unassembleIpmiRmcpplusPkt crypto algorithms confidentialityKey pkt objs flags
      = .ok (true, objs')) :
    Accepted crypto algorithms confidentialityKey cmdTmpl.fields pkt objs' := by
  have hbecomes := unassembleIpmiRmcpplusPkt_becomes hret
  rw [unassembleIpmiRmcpplusPkt] at hret
  split at hret
  · cases hret
  obtain ⟨_, -, hret⟩ := bind_eq_ok.mp hret
  obtain ⟨⟨b, w'⟩, hreport, hret⟩ := bind_eq_ok.mp hret
  cases hret
  obtain ⟨hrun, -⟩ := report_eq_true hreport
  have hsplit : rmcpplusStages crypto algorithms confidentialityKey pkt = headerStages algorithms pkt ++
      [objsStage, payloadStage crypto algorithms confidentialityKey pkt, trlrStage algorithms pkt] := rfl
  rw [hsplit, runStages_append] at hrun
  have hrmcp : objs.clear.rmcpHdr.Of tmplRmcpHdr.fields := (touched_clear _).of h.rmcpHdr.wf.of
  have hsession : objs.clear.sessionHdr.Of tmplRmcpplusSessionHdr.fields :=
    (touched_clear _).of h.sessionHdr.wf.of
  rcases headerStages_ensures algorithms pkt hrmcp (unset_clear _) hsession (unset_clear _)
    ⟨0, objs.clear⟩ rfl with ⟨w, hheaders, hw, hread⟩ | ⟨w, hheaders, -⟩
  · rw [hheaders, ok_bind] at hrun
    have hlong := hread.long
    have hhdr := hw.sessionHdr hlong.le
    obtain ⟨hcompared, w₁, hpayload, htrlr⟩ := behindHeaders_eq_ok hhdr hrun
    have hcompare : objs.comparePayload (headerAt pkt).payloadType = .ok () := by
      rw [← comparePayload_clear objs, ← hcompared, hw.frame]
      rfl
    have hindx : w.indx = 16 := by
      have := hw.indx
      omega
    obtain ⟨i, hstage⟩ := payloadStage_eq (w := { w with objs := w.objs.clearFor (headerAt pkt) })
      crypto algorithms confidentialityKey hindx (by rw [clearFor_sessionHdr]; exact hhdr)
    rw [hstage] at hpayload
    have hdeconstruct := onObjs_eq_ok hpayload
    have hpayloadRead := deconstructPayload_reads
      (h.passed.bufObjs hw.frame hread.response hcompare) hread.payload_ne_nil hdeconstruct
    have hkept := (deconstructPayload_kept crypto algorithms confidentialityKey (headerAt pkt)
      (payloadAt pkt) (w.objs.clearFor (headerAt pkt))).value _ hdeconstruct
    have htrlrStart : TrlrRead w₁.objs w₁ := by
      have hobj : w.objs.sessionTrlr = objs.sessionTrlr := by
        rw [hw.frame]
        rfl
      rcases clearFor_sessionTrlr_cases w.objs (headerAt pkt) with hclear | hsame
      · rw [hobj] at hclear
        refine ⟨rfl, ?_, ?_⟩
        · rw [hkept.sessionTrlr, hclear]
          exact (touched_clear _).of h.sessionTrlr.wf.of
        · rw [hkept.sessionTrlr, hclear]
          exact (unset_clear _).byteLens
      · rw [hobj] at hsame
        refine ⟨rfl, ?_, ?_⟩
        · rw [hkept.sessionTrlr, hsame]
          exact h.sessionTrlr.wf.of
        · rw [hkept.sessionTrlr, hsame]
          exact hbytes
    have hread' := (trlrStage_reads htrlrStart algorithms pkt).value _ htrlr
    have hsessionHdr : w'.objs.sessionHdr = w.objs.sessionHdr := by
      rw [hread'.frame]
      exact hkept.sessionHdr.trans (clearFor_sessionHdr _ _)
    refine ⟨hread, (h.comparePayload hbecomes _).trans hcompare, ?_, ?_, ?_, hread'.of, hread'.bytes⟩
    · rw [hsessionHdr]
      exact hw.of
    · rw [hsessionHdr]
      exact hw.holds hlong.le (by norm_num)
    · rw [hread'.frame]
      refine ⟨fun htype => ?_, hpayloadRead.other⟩
      have hmsg := hpayloadRead.msg htype
      exact ⟨hmsg.long, hmsg.hdrOf, hmsg.hdr, hmsg.trlrOf, hmsg.cmd⟩
  · rw [hheaders, error_bind] at hrun
    cases hrun

end Accepted

end FreeIpmi.Rmcpplus
