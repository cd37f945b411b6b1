import FreeIpmi.Fiid.Receive
import FreeIpmi.Lan.Fields

/-! The objects of a response after `unassemble_ipmi_lan_pkt`.

    Whatever the packet was, they are objects of the same templates, and so can be used for the next
    one. When the packet was accepted, the checks of its checksums and of its authentication code
    answer, also where the command did not fit into its object. -/

namespace FreeIpmi.Lan
open Fiid Calls Stages

/-! ### The same templates -/

/-- The objects were changed by calls only. -/
structure LanObjs.Becomes (objs objs' : LanObjs) : Prop where
  rmcpHdr : objs.rmcpHdr.Becomes objs'.rmcpHdr
  sessionHdr : objs.sessionHdr.Becomes objs'.sessionHdr
  msgHdr : objs.msgHdr.Becomes objs'.msgHdr
  cmd : objs.cmd.Becomes objs'.cmd
  msgTrlr : objs.msgTrlr.Becomes objs'.msgTrlr

section Becomes
variable {objs objs₁ : LanObjs} {pkt : List Byte} {w : Walk}

theorem LanObjs.Becomes.refl (objs : LanObjs) : objs.Becomes objs :=
  ⟨.refl _, .refl _, .refl _, .refl _, .refl _⟩

theorem LanObjs.Becomes.trans {objs₂ : LanObjs} (h : objs.Becomes objs₁) (h' : objs₁.Becomes objs₂) :
    objs.Becomes objs₂ :=
  ⟨h.rmcpHdr.trans h'.rmcpHdr, h.sessionHdr.trans h'.sessionHdr, h.msgHdr.trans h'.msgHdr,
    h.cmd.trans h'.cmd, h.msgTrlr.trans h'.msgTrlr⟩

/-- What a stage hands on, and what it gives up with, was changed by calls only. -/
abbrev Changes (objs : LanObjs) : Except (Exit Stop Walk) Walk → Prop :=
  Keeps fun w => objs.Becomes w.objs

theorem moreStage_changes (h : objs.Becomes w.objs) : Changes objs (moreStage pkt w) :=
  keeps_ite (keeps_unparsed h) (keeps_ok h)

theorem sessionDataStage_changes {field : String} (h : objs.Becomes w.objs) :
    Changes objs (sessionDataStage pkt field w) :=
  keeps_call fun _ hset => keeps_ok
    ⟨h.rmcpHdr, h.sessionHdr.trans (becomes_setData hset), h.msgHdr, h.cmd, h.msgTrlr⟩

/-- Every stage of the walk changes the objects by calls only. -/
theorem lanStages_changes (pkt : List Byte) :
    ∀ stage ∈ lanStages pkt, ∀ w, objs.Becomes w.objs → Changes objs (stage w) := by
  intro stage hstage w h
  simp only [lanStages, headerStages, List.cons_append, List.nil_append, List.mem_cons,
    List.not_mem_nil, or_false] at hstage
  rcases hstage with rfl | rfl | rfl | rfl | rfl | rfl | rfl | rfl | rfl | rfl | rfl | rfl
  · exact keeps_call fun _ hset => keeps_ok
      ⟨h.rmcpHdr.trans (becomes_trySetAll hset), h.sessionHdr, h.msgHdr, h.cmd, h.msgTrlr⟩
  · exact moreStage_changes h
  · exact keeps_call fun _ hset => keeps_ok
      ⟨h.rmcpHdr, h.sessionHdr.trans (becomes_trySetBlock hset), h.msgHdr, h.cmd, h.msgTrlr⟩
  · exact keeps_call fun _ _ => keeps_ite (keeps_unparsed h) (keeps_ok h)
  · refine keeps_call fun _ _ => keeps_ite ?_ (keeps_ok h)
    exact (sessionDataStage_changes h).bind fun w₁ h₁ =>
      (moreStage_changes h₁).bind fun w₂ h₂ => keeps_ok h₂
  · exact sessionDataStage_changes h
  · exact moreStage_changes h
  · exact keeps_call fun _ hset => keeps_ok
      ⟨h.rmcpHdr, h.sessionHdr, h.msgHdr.trans (becomes_trySetAll hset), h.cmd, h.msgTrlr⟩
  · exact moreStage_changes h
  · refine keeps_call fun _ _ => keeps_ite (keeps_unparsed h) ?_
    exact keeps_call fun _ hset => keeps_ok
      ⟨h.rmcpHdr, h.sessionHdr, h.msgHdr, h.cmd.trans (becomes_trySetAll hset), h.msgTrlr⟩
  · exact moreStage_changes h
  · exact keeps_call fun _ hset => keeps_ok
      ⟨h.rmcpHdr, h.sessionHdr, h.msgHdr, h.cmd, h.msgTrlr.trans (becomes_trySetAll hset)⟩

/-- Parsing changes the objects by calls only, whether the packet is accepted or not. -/
theorem unassembleIpmiLanPkt_becomes {accepted : Bool} {flags : BitVec 32}
    (hret : unassembleIpmiLanPkt pkt objs flags = .ok (accepted, objs₁)) : objs.Becomes objs₁ := by
  have hclear : objs.Becomes objs.clear :=
    ⟨becomes_clear _, becomes_clear _, becomes_clear _, becomes_clear _, becomes_clear _⟩
  have hstages : Changes objs (runStages (lanStages pkt) ⟨0, objs.clear⟩) :=
    runStages_meets (lanStages_changes pkt) hclear
  rw [unassembleIpmiLanPkt] at hret
  split at hret
  · cases hret
  · obtain ⟨_, -, hret⟩ := bind_eq_ok.mp hret
    obtain ⟨⟨b, w⟩, hreport, hret⟩ := bind_eq_ok.mp hret
    cases hret
    exact hstages.report hreport

/-- Objects that a call takes are taken by the next one. -/
theorem LanObjs.Passed.becomes {ndebug : Bool} {cmdTmpl : FiidTemplate} (h : objs.Passed ndebug cmdTmpl)
    (hb : objs.Becomes objs₁) : objs₁.Passed ndebug cmdTmpl := by
  obtain ⟨t₁, hrmcp⟩ := h.rmcpHdr
  obtain ⟨t₂, hsession⟩ := h.sessionHdr
  obtain ⟨t₃, hmsg⟩ := h.msgHdr
  obtain ⟨t₄, htrlr⟩ := h.msgTrlr
  refine ⟨⟨t₁, hb.rmcpHdr _ _ hrmcp⟩, ⟨t₂, hb.sessionHdr _ _ hsession⟩, ⟨t₃, hb.msgHdr _ _ hmsg⟩,
    hb.cmd _ _ h.cmd, ⟨t₄, hb.msgTrlr _ _ htrlr⟩, ?_⟩
  have hcompared := h.compared
  rwa [LanObjs.compareTemplates, ← hb.rmcpHdr.compare hrmcp, ← hb.sessionHdr.compare hsession,
    ← hb.msgHdr.compare hmsg, ← hb.msgTrlr.compare htrlr] at hcompared

end Becomes

/-! ### The checks of an accepted packet -/

/-- The checks of an accepted packet answer. -/
theorem LanObjs.Passed.checks_answer {ndebug : Bool} {cmdTmpl : FiidTemplate} {objs objs' : LanObjs}
    {pkt : List Byte} {flags : BitVec 32} (h : objs.Passed ndebug cmdTmpl)
    (hret : unassembleIpmiLanPkt pkt objs flags = .ok (true, objs')) :
    (∃ right, ipmiLanCheckChecksum objs'.msgHdr objs'.cmd objs'.msgTrlr = .ok right) ∧
      ∀ digests authenticationType password, authenticationTypeSupported authenticationType = true →
        password.length ≤ ipmi15MaxPasswordLength → ∃ right,
          ipmiLanCheckSessionAuthenticationCode digests objs'.sessionHdr objs'.msgHdr objs'.cmd
            objs'.msgTrlr authenticationType password = .ok right := by
  obtain ⟨hflags, hal⟩ := h.of_returns hret
  obtain ⟨accepted, w, hcall, hw⟩ := h.returns hflags hal
  rw [hret] at hcall
  cases hcall
  rcases hw with ⟨n, hw, hacc⟩ | ⟨-, hacc⟩
  · have hacc := hacc.symm
    simp only [LanObjs.accepted, Bool.and_eq_true] at hacc
    obtain ⟨⟨⟨⟨-, hsession⟩, hhdr⟩, -⟩, htrlr⟩ := hacc
    obtain ⟨rmcp, session, code, msgLen, hdr, cmd, checksum, hl⟩ := hw.reaches.layout
    obtain ⟨x, -, hp⟩ := hw.parsed_take hl hsession hhdr htrlr
    refine ⟨⟨_, ipmiLanCheckChecksum_eq hp.hdrOf hp.hdrHolds hp.hdrLen hp.cmd hp.trlrOf hp.trlrHolds⟩,
      fun digests authenticationType password hsupported hlen => ?_⟩
    rw [hp.checkAuthenticationCode, codeMatches, if_neg (by simp [hsupported, hlen])]
    split
    · exact ⟨_, rfl⟩
    · split
      · exact ⟨_, rfl⟩
      · exact ⟨_, rfl⟩
  · cases hacc

end FreeIpmi.Lan
