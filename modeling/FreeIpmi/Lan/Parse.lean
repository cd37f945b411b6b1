import FreeIpmi.Lan.Interface
import FreeIpmi.Fiid.Contents

/-! What `unassemble_ipmi_lan_pkt` does with a byte string.

    Every stage appends the bytes it takes to the set bits of one object, so the set bits of all
    objects are always a prefix of the packet (`Walked.bits`). The walk gets to the command exactly
    for the byte strings of `ReachesCmd`; there `fiid_obj_set_all` may refuse the truncated command,
    and this is the only way to fail. -/

namespace FreeIpmi.Lan
open Fiid Calls Stages ByteBits

/-! ### The walk -/

/-- The set bits of all objects, in the order of the packet. -/
def LanObjs.setBits (objs : LanObjs) : List Bool :=
  objs.rmcpHdr.setBits ++ objs.sessionHdr.setBits ++ objs.msgHdr.setBits ++ objs.cmd.setBits ++
    objs.msgTrlr.setBits

/-- The flags of the terminators. -/
def LanObjs.flags (objs : LanObjs) : List (BitVec 32) :=
  [objs.rmcpHdr.terminatorFlags, objs.sessionHdr.terminatorFlags, objs.msgHdr.terminatorFlags,
    objs.cmd.terminatorFlags, objs.msgTrlr.terminatorFlags]

/-- What holds all along: the objects keep their fields and flags, and their set bits are the bytes before the
    index. -/
structure Walked (pkt : List Byte) (cmdFields : List FiidField) (fl : List (BitVec 32)) (w : Walk) :
    Prop where
  rmcpHdr : w.objs.rmcpHdr.Of tmplRmcpHdr.fields
  sessionHdr : w.objs.sessionHdr.Of tmplLanSessionHdr.fields
  msgHdr : w.objs.msgHdr.Of tmplLanMsgHdrRs.fields
  cmd : w.objs.cmd.Of cmdFields
  msgTrlr : w.objs.msgTrlr.Of tmplLanMsgTrlr.fields
  flags : w.objs.flags = fl
  bits : w.objs.setBits = window pkt 0 (8 * w.indx)
  le : w.indx ≤ pkt.length

/-- The length of the authentication code of a type. -/
def codeLen (authenticationType : Byte) : ℕ :=
  if authenticationType = ipmiAuthenticationTypeNone then 0 else ipmi15MaxPasswordLength

/-- The first byte of the session header. -/
def authenticationTypeAt (pkt : List Byte) : Byte := pkt.getD 4 0

/-- The byte strings in which the walk gets to a command: the type is known, and there are bytes
    between the headers and the trailer. -/
def ReachesCmd (pkt : List Byte) : Prop :=
  ipmi15AuthenticationTypeValid (authenticationTypeAt pkt) = true ∧
    20 + codeLen (authenticationTypeAt pkt) < pkt.length

/-- The walk gives up on a packet that is too short or of an unknown type. -/
def GivenUp (pkt : List Byte) (cmdFields : List FiidField) (fl : List (BitVec 32)) (w : Walk) : Prop :=
  Walked pkt cmdFields fl w ∧ ¬ ReachesCmd pkt

/-- The lengths that are set in a complete session header. -/
def sessionLens (authenticationType : Byte) : List ℕ := [8, 32, 32, 8 * codeLen authenticationType, 8]

def rmcpHdrLens : List ℕ := [8, 8, 8, 5, 2, 1]

def msgHdrLens : List ℕ := [8, 2, 6, 8, 8, 2, 6]

/-- A byte that is read further extends the prefix. -/
theorem window_extend (pkt : List Byte) (i n : ℕ) :
    window pkt 0 (8 * i) ++ window (pkt.drop i) 0 (8 * n) = window pkt 0 (8 * (i + n)) := by
  rw [Nat.mul_add, window_add]
  congr 1
  exact window_congr fun k _ => by rw [bit_drop, Nat.zero_add, Nat.zero_add]

section Walk
variable {pkt : List Byte} {cmdFields : List FiidField} {fl : List (BitVec 32)}

/-- Before the RMCP header. -/
structure AtStart (pkt : List Byte) (cmdFields : List FiidField) (fl : List (BitVec 32)) (w : Walk) :
    Prop where
  walked : Walked pkt cmdFields fl w
  indx : w.indx = 0
  rmcpHdr : w.objs.rmcpHdr.Unset
  sessionHdr : w.objs.sessionHdr.Unset
  msgHdr : w.objs.msgHdr.Unset
  cmd : w.objs.cmd.Unset
  msgTrlr : w.objs.msgTrlr.Unset

/-- Behind the RMCP header. -/
structure AtSession (pkt : List Byte) (cmdFields : List FiidField) (fl : List (BitVec 32)) (w : Walk) :
    Prop where
  walked : Walked pkt cmdFields fl w
  indx : w.indx = min 4 pkt.length
  rmcpHdr : 4 ≤ pkt.length → w.objs.rmcpHdr.lens = rmcpHdrLens
  sessionHdr : w.objs.sessionHdr.Unset
  msgHdr : w.objs.msgHdr.Unset
  cmd : w.objs.cmd.Unset
  msgTrlr : w.objs.msgTrlr.Unset

/-- In the session header, of which the first `k` fields (up to byte `n` of the packet) are read. -/
structure InSession (pkt : List Byte) (cmdFields : List FiidField) (fl : List (BitVec 32)) (k n : ℕ) (lens : List ℕ)
    (w : Walk) : Prop where
  walked : Walked pkt cmdFields fl w
  more : 4 < pkt.length
  indx : w.indx = min n pkt.length
  rmcpHdr : w.objs.rmcpHdr.lens = rmcpHdrLens
  authenticationType : w.objs.sessionHdr.lens[0]? = some 8
  unset : w.objs.sessionHdr.UnsetFrom k
  sessionHdr : n ≤ pkt.length → w.objs.sessionHdr.lens = lens
  msgHdr : w.objs.msgHdr.Unset
  cmd : w.objs.cmd.Unset
  msgTrlr : w.objs.msgTrlr.Unset

/-- Behind the message header. -/
structure AtCmd (pkt : List Byte) (cmdFields : List FiidField) (fl : List (BitVec 32)) (t : Byte)
    (w : Walk) : Prop where
  walked : Walked pkt cmdFields fl w
  valid : ipmi15AuthenticationTypeValid t = true
  indx : w.indx = min (19 + codeLen t) pkt.length
  rmcpHdr : w.objs.rmcpHdr.lens = rmcpHdrLens
  sessionHdr : w.objs.sessionHdr.lens = sessionLens t
  msgHdr : 19 + codeLen t ≤ pkt.length → w.objs.msgHdr.lens = msgHdrLens
  cmd : w.objs.cmd.Unset
  msgTrlr : w.objs.msgTrlr.Unset

/-- The bytes between the headers and the trailer. -/
def cmdBytes (pkt : List Byte) (t : Byte) : List Byte :=
  (pkt.drop (19 + codeLen t)).take (pkt.length - (20 + codeLen t))

/-- Behind the command, which took `n` bytes. -/
structure AtTrlr (pkt : List Byte) (cmdFields : List FiidField) (fl : List (BitVec 32)) (t : Byte)
    (n : ℕ) (w : Walk) : Prop where
  walked : Walked pkt cmdFields fl w
  reaches : ReachesCmd pkt
  indx : w.indx = 19 + codeLen t + n
  rmcpHdr : w.objs.rmcpHdr.lens = rmcpHdrLens
  sessionHdr : w.objs.sessionHdr.lens = sessionLens t
  msgHdr : w.objs.msgHdr.lens = msgHdrLens
  cmd : ∃ obj, obj.Of cmdFields ∧ obj.Unset ∧ Filled cmdFields obj w.objs.cmd (cmdBytes pkt t) n
  msgTrlr : w.objs.msgTrlr.Unset

/-- Behind the trailer. -/
structure AtEnd (pkt : List Byte) (cmdFields : List FiidField) (fl : List (BitVec 32)) (t : Byte)
    (n : ℕ) (w : Walk) : Prop where
  walked : Walked pkt cmdFields fl w
  reaches : ReachesCmd pkt
  indx : w.indx = 20 + codeLen t + n
  rmcpHdr : w.objs.rmcpHdr.lens = rmcpHdrLens
  sessionHdr : w.objs.sessionHdr.lens = sessionLens t
  msgHdr : w.objs.msgHdr.lens = msgHdrLens
  cmd : ∃ obj, obj.Of cmdFields ∧ obj.Unset ∧ Filled cmdFields obj w.objs.cmd (cmdBytes pkt t) n
  msgTrlr : w.objs.msgTrlr.lens = [8]

theorem endsByteAligned_rmcpHdr (n : ℕ) : EndsByteAligned tmplRmcpHdr.fields n := by
  intro i hi
  simp only [tmplRmcpHdr, List.length_cons, List.length_nil] at hi
  interval_cases i <;> simp [tmplRmcpHdr, bitLen] <;> omega

theorem endsByteAligned_msgHdr (n : ℕ) : EndsByteAligned tmplLanMsgHdrRs.fields n := by
  intro i hi
  simp only [tmplLanMsgHdrRs, List.length_cons, List.length_nil] at hi
  interval_cases i <;> simp [tmplLanMsgHdrRs, bitLen] <;> omega

theorem endsByteAligned_msgTrlr (n : ℕ) : EndsByteAligned tmplLanMsgTrlr.fields n := by
  intro i hi
  simp only [tmplLanMsgTrlr, List.length_cons, List.length_nil] at hi
  interval_cases i
  simp [tmplLanMsgTrlr, bitLen]

theorem rmcpHdrStage_ensures :
    Ensures (AtStart pkt cmdFields fl) (rmcpHdrStage pkt) (AtSession pkt cmdFields fl)
      (GivenUp pkt cmdFields fl) := by
  intro w hw
  obtain ⟨obj', n, hcall, hfill⟩ := trySetAll_filled hw.walked.rmcpHdr hw.rmcpHdr
    (endsByteAligned_rmcpHdr (pkt.drop w.indx).length)
  have hlen := hfill.len
  have hbit : bitLen tmplRmcpHdr.fields = 32 := rfl
  simp only [hw.indx, List.drop_zero, hbit] at hlen hcall hfill
  refine Or.inl ⟨{ indx := w.indx + n, objs := { w.objs with rmcpHdr := obj' } }, ?_, ?_⟩
  · simp only [rmcpHdrStage, hw.indx, List.drop_zero, hcall, call_ok, ok_bind]
    rfl
  · refine ⟨⟨hfill.of, hw.walked.sessionHdr, hw.walked.msgHdr, hw.walked.cmd, hw.walked.msgTrlr,
      by rw [← hw.walked.flags, LanObjs.flags, LanObjs.flags, hfill.flags], ?_, ?_⟩,
      ?_, fun hlong => ?_, hw.sessionHdr, hw.msgHdr, hw.cmd, hw.msgTrlr⟩
    · simp [LanObjs.setBits, hw.sessionHdr.setBits, hw.msgHdr.setBits, hw.cmd.setBits,
        hw.msgTrlr.setBits, hfill.bits, hw.indx]
    · simp only [hw.indx]
      omega
    · simp only [hw.indx]
      omega
    · exact hfill.full (by omega)

/-- The length check between two stages. -/
theorem moreStage_ensures {P R : Walk → Prop} (h : ∀ w, P w → pkt.length ≤ w.indx → R w) :
    Ensures P (moreStage pkt) (fun w => P w ∧ w.indx < pkt.length) R := by
  intro w hw
  rcases Nat.lt_or_ge w.indx pkt.length with hlt | hge
  · exact Or.inl ⟨w, if_neg (by omega), hw, hlt⟩
  · exact Or.inr ⟨w, if_pos hge, h w hw hge⟩

theorem findIdx?_authenticationType :
    tmplLanSessionHdr.fields.findIdx? (fun f => f.key = "authentication_type") = some 0 := by decide

theorem sessionBlockAt {obj : FiidObj} (hof : obj.Of tmplLanSessionHdr.fields) :
    BlockAt obj "authentication_type" "session_id" 0 2 := by
  have hstop : tmplLanSessionHdr.fields.findIdx? (fun f => f.key = "session_id") = some 2 := by decide
  have hend : bitLen (tmplLanSessionHdr.fields.take 3) % 8 = 0 := by decide
  exact ⟨fieldAt_of_tmpl hof findIdx?_authenticationType, fieldAt_of_tmpl hof hstop, by norm_num,
    by rw [bitStart_eq hof]; rfl, by rw [bitStart_eq hof]; exact hend⟩

/-- The set bits of the session header follow those of the RMCP header. -/
theorem InSession.bits {k n : ℕ} {lens : List ℕ} {w : Walk} (hw : InSession pkt cmdFields fl k n lens w) :
    w.objs.sessionHdr.setBits = window (pkt.drop 4) 0 (8 * (w.indx - 4)) := by
  have hold := hw.walked.bits
  simp only [LanObjs.setBits, hw.msgHdr.setBits, hw.cmd.setBits, hw.msgTrlr.setBits, List.append_nil]
    at hold
  have hlen : w.objs.rmcpHdr.setBits.length = 8 * 4 := by
    rw [FiidObj.setBits, length_cellBits, setLen_eq_sum]
    exact congrArg List.sum hw.rmcpHdr
  have hdrop := congrArg (List.drop (8 * 4)) hold
  rw [List.drop_left' hlen, window_drop, Nat.zero_add, ← Nat.mul_sub] at hdrop
  rw [hdrop]
  exact window_congr fun k _ => by rw [bit_drop, Nat.zero_add]

/-- The type is read back from the first byte of the session header. -/
theorem InSession.authenticationTypeOf {k n : ℕ} {lens : List ℕ} {w : Walk}
    (hw : InSession pkt cmdFields fl k n lens w) (hn : 4 < n) :
    authenticationTypeOf w.objs.sessionHdr = .ok (authenticationTypeAt pkt) := by
  have hof := hw.walked.sessionHdr
  have hindx := hw.indx
  have hmore := hw.more
  have hplace : valuePlace tmplLanSessionHdr.fields w.objs.sessionHdr.lens "authentication_type"
      = some (0, 8) := by
    simp only [valuePlace, findIdx?_authenticationType, Option.bind_eq_bind, Option.bind_some,
      hw.authenticationType, List.take_zero, List.sum_nil]
    decide
  have hlen : ((pkt.drop 4).take (w.indx - 4)).length = w.indx - 4 := by
    rw [List.length_take, List.length_drop]
    omega
  have hholds : w.objs.sessionHdr.Holds w.objs.sessionHdr.lens ((pkt.drop 4).take (w.indx - 4)) := by
    refine ⟨rfl, ?_⟩
    rw [hw.bits, hlen]
    exact window_congr fun k hk => by rw [bit_take (by omega)]
  have hbyte : ((pkt.drop 4).take (w.indx - 4))[0]? = some (authenticationTypeAt pkt) := by
    rw [List.getElem?_take_of_lt (by omega), List.getElem?_drop, authenticationTypeAt,
      List.getElem?_eq_getElem hmore, List.getD_eq_getElem _ _ hmore]
  have hval := valueAt_byte hbyte
  rw [Nat.mul_zero] at hval
  simp only [Lan.authenticationTypeOf, hholds.getStrict hof hplace, ok_bind, hval]
  exact congrArg Except.ok (by simp)

theorem sessionHdrStage_ensures :
    Ensures (fun w => AtSession pkt cmdFields fl w ∧ w.indx < pkt.length) (sessionHdrStage pkt)
      (InSession pkt cmdFields fl 3 13 [8, 32, 32, 0, 0])
      (GivenUp pkt cmdFields fl) := by
  rintro w ⟨hw, hmore⟩
  have hlen4 : 4 < pkt.length := by
    have := hw.indx
    omega
  have hindx : w.indx = 4 := by
    have := hw.indx
    omega
  have hof := hw.walked.sessionHdr
  have hb := sessionBlockAt hof
  have hfields : blockFields w.objs.sessionHdr 0 2 = w.objs.sessionHdr.fields.take 3 := rfl
  have hlens : ∀ j, maxLen (w.objs.sessionHdr.fields.take j) = bitLen (tmplLanSessionHdr.fields.take j) :=
    fun j => hof.maxLen_take j
  have hal : ∀ j < (blockFields w.objs.sessionHdr 0 2).length,
      maxLen ((blockFields w.objs.sessionHdr 0 2).take (j + 1)) % 8 = 0 := by
    intro j hj
    rw [hfields, List.length_take] at hj
    rw [hfields, List.take_take, min_eq_left (by omega), hlens]
    have : j < 3 := by omega
    interval_cases j <;> decide
  obtain ⟨n, obj', hcall⟩ := setBlock_succeeds hb hal (pkt.drop w.indx)
  have htouch : Touched w.objs.sessionHdr obj' := by
    have := touched_setBlock hof "authentication_type" "session_id" (pkt.drop w.indx)
    rwa [hcall] at this
  have hof' := htouch.of hof
  have hflags := htouch.flags
  obtain ⟨hbits, hunset, hn⟩ := setBlock_appends hof hb (hw.sessionHdr.unsetFrom 0) hcall
  rw [hfields, hlens, List.length_drop, hindx, show bitLen (tmplLanSessionHdr.fields.take 3) = 72 from rfl]
    at hn
  rw [hw.sessionHdr.setBits, List.nil_append, hindx] at hbits
  have hempty : w.objs.sessionHdr.lens = [0, 0, 0, 0, 0] := by
    have hmap : w.objs.sessionHdr.lens = w.objs.sessionHdr.fields.map fun _ => 0 :=
      List.map_congr_left hw.sessionHdr
    rw [hmap, List.map_const', hof.length]
    rfl
  refine Or.inl ⟨{ indx := w.indx + n, objs := { w.objs with sessionHdr := obj' } }, ?_, ?_⟩
  · simp only [sessionHdrStage, trySetBlock, hcall, call_ok, ok_bind]
    rfl
  · refine ⟨⟨hw.walked.rmcpHdr, hof', hw.walked.msgHdr, hw.walked.cmd, hw.walked.msgTrlr,
      by rw [← hw.walked.flags, LanObjs.flags, LanObjs.flags, hflags], ?_, ?_⟩,
      hlen4, ?_, hw.rmcpHdr hlen4.le, ?_, hunset, fun hlong => ?_, hw.msgHdr, hw.cmd, hw.msgTrlr⟩
    · have hold := hw.walked.bits
      simp only [LanObjs.setBits, hw.sessionHdr.setBits, hw.msgHdr.setBits, hw.cmd.setBits,
        hw.msgTrlr.setBits, List.append_nil] at hold ⊢
      rw [hold, hbits, hindx, window_extend]
    · simp only [hindx]
      omega
    · simp only [hindx]
      omega
    · obtain ⟨f, hf⟩ := fieldAt_of_tmpl hof findIdx?_authenticationType
      have hmax : f.maxFieldLen = 8 := by
        have hentry := getElem?_toField hof hf.entry
        exact (congrArg FiidField.maxFieldLen (Option.some.inj hentry)).symm
      have hlen0 := setBlock_covered hb hcall hf.entry le_rfl (by
        rw [FiidObj.bitStart, hlens, FiidObj.bitStart, hlens]
        show 8 ≤ 0 + 8 * n
        omega)
      rw [hmax] at hlen0
      exact hlen0
    · have hfull := setBlock_full hof hb (by
        rw [hfields, hlens, List.length_drop, hindx]
        show 72 ≤ _
        omega) hcall
      rw [hfull, hempty]
      rfl

theorem authenticationTypeStage_ensures {k n : ℕ} {lens : List ℕ} (hn : 4 < n) :
    Ensures (InSession pkt cmdFields fl k n lens) authenticationTypeStage
      (fun w => InSession pkt cmdFields fl k n lens w ∧
        ipmi15AuthenticationTypeValid (authenticationTypeAt pkt) = true) (GivenUp pkt cmdFields fl) := by
  intro w hw
  simp only [authenticationTypeStage, hw.authenticationTypeOf hn, call_ok, ok_bind]
  cases hvalid : ipmi15AuthenticationTypeValid (authenticationTypeAt pkt) with
  | true => exact Or.inl ⟨w, rfl, hw, rfl⟩
  | false =>
    refine Or.inr ⟨w, rfl, hw.walked, fun hreach => ?_⟩
    rw [ReachesCmd, hvalid] at hreach
    exact Bool.false_ne_true hreach.1

/-- `fiid_obj_set_data` on the next field of the session header. -/
theorem sessionDataStage_ensures (field : String) (k : ℕ) (f : FiidField) {n : ℕ} {lens : List ℕ}
    {R : Walk → Prop}
    (hidx : tmplLanSessionHdr.fields.findIdx? (fun f => f.key = field) = some k) (hk : 0 < k)
    (hentry : tmplLanSessionHdr.fields[k]? = some f)
    (hs : bitLen (tmplLanSessionHdr.fields.take k) % 8 = 0) (hl : f.maxFieldLen % 8 = 0) :
    Ensures (InSession pkt cmdFields fl k n lens) (sessionDataStage pkt field)
      (InSession pkt cmdFields fl (k + 1) (n + f.maxFieldLen / 8) (lens.set k f.maxFieldLen)) R := by
  intro w hw
  have hof := hw.walked.sessionHdr
  have hindx := hw.indx
  obtain ⟨g, hg⟩ := fieldAt_of_tmpl hof hidx
  have hmax : g.maxFieldLen = f.maxFieldLen := by
    have := getElem?_toField hof hg.entry
    rw [hentry] at this
    exact (congrArg FiidField.maxFieldLen (Option.some.inj this)).symm
  have hstart : w.objs.sessionHdr.bitStart k % 8 = 0 := by
    rw [bitStart_eq hof]
    exact hs
  obtain ⟨obj', m, hcall, hbits, hunset, hm⟩ := setData_appends hof hg hstart (by rw [hmax]; exact hl)
    hw.unset (pkt.drop w.indx)
  have hlens := setData_lens hg hcall
  rw [hmax, List.length_drop] at hm
  have hof' := (touched_setData hof hcall).of hof
  have hflags := (touched_setData hof hcall).flags
  refine Or.inl ⟨{ indx := w.indx + m, objs := { w.objs with sessionHdr := obj' } }, ?_, ?_⟩
  · simp only [sessionDataStage, hcall, call_ok, ok_bind]
    rfl
  · refine ⟨⟨hw.walked.rmcpHdr, hof', hw.walked.msgHdr, hw.walked.cmd, hw.walked.msgTrlr,
      by rw [← hw.walked.flags, LanObjs.flags, LanObjs.flags, hflags], ?_, ?_⟩,
      hw.more, ?_, hw.rmcpHdr, ?_, hunset, fun hlong => ?_, hw.msgHdr, hw.cmd, hw.msgTrlr⟩
    · have hold := hw.walked.bits
      simp only [LanObjs.setBits, hw.msgHdr.setBits, hw.cmd.setBits, hw.msgTrlr.setBits,
        List.append_nil] at hold ⊢
      rw [hbits, ← List.append_assoc, hold, window_extend]
    · show w.indx + m ≤ pkt.length
      omega
    · show w.indx + m = _
      omega
    · show obj'.lens[0]? = some 8
      rw [hlens, List.getElem?_set_ne (Nat.ne_of_gt hk)]
      exact hw.authenticationType
    · show obj'.lens = _
      rw [hlens, hw.sessionHdr (by omega), show 8 * m = f.maxFieldLen by omega]

theorem codeLen_le (t : Byte) : codeLen t = 0 ∨ codeLen t = 16 := by
  unfold codeLen ipmi15MaxPasswordLength
  split <;> simp

theorem authenticationCodeStage_ensures :
    Ensures (InSession pkt cmdFields fl 3 13 [8, 32, 32, 0, 0]) (authenticationCodeStage pkt)
      (InSession pkt cmdFields fl 4 (13 + codeLen (authenticationTypeAt pkt))
        [8, 32, 32, 8 * codeLen (authenticationTypeAt pkt), 0]) (GivenUp pkt cmdFields fl) := by
  intro w hw
  have hread : authenticationCodeStage pkt w
      = if authenticationTypeAt pkt ≠ ipmiAuthenticationTypeNone then
          runStages [sessionDataStage pkt "authentication_code", moreStage pkt] w else .ok w := by
    simp only [authenticationCodeStage, hw.authenticationTypeOf (by norm_num), call_ok, ok_bind]
    rfl
  rw [hread]
  by_cases hnone : authenticationTypeAt pkt = ipmiAuthenticationTypeNone
  · have hc : codeLen (authenticationTypeAt pkt) = 0 := if_pos hnone
    rw [if_neg (not_not.mpr hnone), hc]
    exact Or.inl ⟨w, rfl, { hw with unset := hw.unset.mono (Nat.le_succ 3) }⟩
  · have hc : codeLen (authenticationTypeAt pkt) = 16 := if_neg hnone
    rw [if_pos hnone, hc]
    have hdata : Ensures (InSession pkt cmdFields fl 3 13 [8, 32, 32, 0, 0])
        (sessionDataStage pkt "authentication_code")
        (InSession pkt cmdFields fl 4 29 [8, 32, 32, 128, 0]) (GivenUp pkt cmdFields fl) :=
      sessionDataStage_ensures "authentication_code" 3 ⟨128, "authentication_code", optionalFixed, .refl true⟩
        (by decide) (by norm_num) rfl (by decide) (by decide)
    have hmore : Ensures (InSession pkt cmdFields fl 4 29 [8, 32, 32, 128, 0]) (moreStage pkt)
        (fun w => InSession pkt cmdFields fl 4 29 [8, 32, 32, 128, 0] w ∧ w.indx < pkt.length)
        (GivenUp pkt cmdFields fl) := by
      refine moreStage_ensures fun w hw hle => ⟨hw.walked, fun hreach => ?_⟩
      have hlong := hreach.2
      have hindx := hw.indx
      omega
    rcases (hdata.cons (hmore.cons Ensures.nil)) w hw with ⟨w', h', hq, -⟩ | hr
    · exact Or.inl ⟨w', h', hq⟩
    · exact Or.inr hr

theorem msgLenStage_ensures :
    Ensures (InSession pkt cmdFields fl 4 (13 + codeLen (authenticationTypeAt pkt))
        [8, 32, 32, 8 * codeLen (authenticationTypeAt pkt), 0]) (sessionDataStage pkt "ipmi_msg_len")
      (InSession pkt cmdFields fl 5 (13 + codeLen (authenticationTypeAt pkt) + 1)
        (sessionLens (authenticationTypeAt pkt))) (GivenUp pkt cmdFields fl) :=
  sessionDataStage_ensures "ipmi_msg_len" 4 ⟨8, "ipmi_msg_len", requiredFixed, .refl true⟩
    (by decide) (by norm_num) rfl (by decide) (by decide)

theorem msgHdrStage_ensures :
    Ensures (fun w => (InSession pkt cmdFields fl 5 (13 + codeLen (authenticationTypeAt pkt) + 1)
        (sessionLens (authenticationTypeAt pkt)) w ∧
          ipmi15AuthenticationTypeValid (authenticationTypeAt pkt) = true) ∧ w.indx < pkt.length)
      (msgHdrStage pkt)
      (AtCmd pkt cmdFields fl (authenticationTypeAt pkt)) (GivenUp pkt cmdFields fl) := by
  rintro w ⟨⟨hw, hvalid⟩, hmore⟩
  have hindx := hw.indx
  obtain ⟨obj', n, hcall, hfill⟩ := trySetAll_filled hw.walked.msgHdr hw.msgHdr
    (endsByteAligned_msgHdr (pkt.drop w.indx).length)
  have hlen := hfill.len
  rw [show bitLen tmplLanMsgHdrRs.fields = 40 from rfl, List.length_drop] at hlen
  refine Or.inl ⟨{ indx := w.indx + n, objs := { w.objs with msgHdr := obj' } }, ?_, ?_⟩
  · simp only [msgHdrStage, hcall, call_ok, ok_bind]
    rfl
  · refine ⟨⟨hw.walked.rmcpHdr, hw.walked.sessionHdr, hfill.of, hw.walked.cmd, hw.walked.msgTrlr,
      by rw [← hw.walked.flags, LanObjs.flags, LanObjs.flags, hfill.flags], ?_, ?_⟩,
      hvalid, ?_, hw.rmcpHdr, hw.sessionHdr (by omega), fun hlong => ?_, hw.cmd, hw.msgTrlr⟩
    · have hold := hw.walked.bits
      simp only [LanObjs.setBits, hw.msgHdr.setBits, hw.cmd.setBits, hw.msgTrlr.setBits,
        List.append_nil] at hold ⊢
      rw [hold, hfill.bits, window_extend]
    · show w.indx + n ≤ pkt.length
      omega
    · show w.indx + n = _
      omega
    · refine hfill.full ?_
      rw [show bitLen tmplLanMsgHdrRs.fields = 40 from rfl, List.length_drop]
      omega

/-- The walk through the headers ends at the command, or in front of it when the packet is short. -/
theorem headerStages_ensures :
    Ensures (AtStart pkt cmdFields fl) (runStages (headerStages pkt))
      (fun w => (AtCmd pkt cmdFields fl (authenticationTypeAt pkt) w ∧ w.indx < pkt.length))
      (GivenUp pkt cmdFields fl) := by
  refine rmcpHdrStage_ensures.cons ((moreStage_ensures ?_).cons (sessionHdrStage_ensures.cons
    ((authenticationTypeStage_ensures (by norm_num)).cons (authenticationCodeStage_ensures.frame.cons
    (msgLenStage_ensures.frame.cons ((moreStage_ensures ?_).cons (msgHdrStage_ensures.cons
    ((moreStage_ensures ?_).cons Ensures.nil))))))))
  · intro w hw hle
    refine ⟨hw.walked, fun hreach => ?_⟩
    have hlong := hreach.2
    have hindx := hw.indx
    omega
  · rintro w ⟨hw, -⟩ hle
    refine ⟨hw.walked, fun hreach => ?_⟩
    have hlong := hreach.2
    have hindx := hw.indx
    omega
  · intro w hw hle
    refine ⟨hw.walked, fun hreach => ?_⟩
    have hlong := hreach.2
    have hindx := hw.indx
    omega

theorem length_cmdBytes {t : Byte} (h : 20 + codeLen t < pkt.length) :
    (cmdBytes pkt t).length = pkt.length - (20 + codeLen t) := by
  rw [cmdBytes, List.length_take, List.length_drop]
  omega

/-- What the command stage does in front of a command. -/
theorem cmdStage_eq {w : Walk} (hw : AtCmd pkt cmdFields fl (authenticationTypeAt pkt) w)
    (hmore : w.indx < pkt.length) : cmdStage pkt w =
      if pkt.length ≤ 20 + codeLen (authenticationTypeAt pkt) then .error (.unparsed w)
      else (do
        let (obj, len) ← call (trySetAll w.objs.cmd (cmdBytes pkt (authenticationTypeAt pkt)))
        return { indx := w.indx + len, objs := { w.objs with cmd := obj } }) := by
  have hindx := hw.indx
  have hw19 : w.indx = 19 + codeLen (authenticationTypeAt pkt) := by omega
  have htrlr : orTemplateInvalid (fiidTemplateLenBytes tmplLanMsgTrlr) = .ok 1 := by decide
  simp only [cmdStage, htrlr, call_ok, ok_bind, hw19, cmdBytes]
  have hsub : pkt.length - (19 + codeLen (authenticationTypeAt pkt)) - 1
      = pkt.length - (20 + codeLen (authenticationTypeAt pkt)) := by omega
  rw [hsub]
  by_cases hle : pkt.length ≤ 20 + codeLen (authenticationTypeAt pkt)
  · rw [if_pos hle, if_pos (by omega)]
  · rw [if_neg hle, if_neg (by omega)]

theorem cmdStage_ensures
    (hal : ReachesCmd pkt → EndsByteAligned cmdFields (cmdBytes pkt (authenticationTypeAt pkt)).length) :
    Ensures (fun w => AtCmd pkt cmdFields fl (authenticationTypeAt pkt) w ∧ w.indx < pkt.length)
      (cmdStage pkt) (fun w => ∃ n, AtTrlr pkt cmdFields fl (authenticationTypeAt pkt) n w)
      (GivenUp pkt cmdFields fl) := by
  rintro w ⟨hw, hmore⟩
  have hindx := hw.indx
  rw [cmdStage_eq hw hmore]
  by_cases hle : pkt.length ≤ 20 + codeLen (authenticationTypeAt pkt)
  · rw [if_pos hle]
    refine Or.inr ⟨w, rfl, hw.walked, fun hreach => ?_⟩
    have hlong := hreach.2
    omega
  · rw [if_neg hle]
    have hreach : ReachesCmd pkt := ⟨hw.valid, by omega⟩
    obtain ⟨obj', n, hcall, hfill⟩ := trySetAll_filled hw.walked.cmd hw.cmd (hal hreach)
    have hlen := hfill.len
    rw [length_cmdBytes (by omega)] at hlen
    refine Or.inl ⟨{ indx := w.indx + n, objs := { w.objs with cmd := obj' } }, ?_, n, ?_⟩
    · rw [hcall]
      rfl
    · refine ⟨⟨hw.walked.rmcpHdr, hw.walked.sessionHdr, hw.walked.msgHdr, hfill.of, hw.walked.msgTrlr,
        by rw [← hw.walked.flags, LanObjs.flags, LanObjs.flags, hfill.flags], ?_, ?_⟩, hreach, ?_,
        hw.rmcpHdr, hw.sessionHdr, hw.msgHdr (by omega),
        ⟨w.objs.cmd, hw.walked.cmd, hw.cmd, hfill⟩, hw.msgTrlr⟩
      · have hold := hw.walked.bits
        simp only [LanObjs.setBits, hw.cmd.setBits, hw.msgTrlr.setBits, List.append_nil] at hold ⊢
        rw [hold, hfill.bits, ← window_extend, cmdBytes]
        congr 1
        refine window_congr fun k hk => ?_
        rw [bit_take (by omega), hindx, min_eq_left (by omega)]
      · show w.indx + n ≤ pkt.length
        omega
      · show w.indx + n = _
        omega

theorem AtTrlr.lt {t : Byte} {n : ℕ} {w : Walk} (hw : AtTrlr pkt cmdFields fl t n w)
    (ht : t = authenticationTypeAt pkt) : w.indx < pkt.length := by
  obtain ⟨obj, -, -, hfill⟩ := hw.cmd
  have hlong := hw.reaches.2
  have hlen := hfill.len
  have hindx := hw.indx
  rw [length_cmdBytes (by rw [ht]; exact hlong)] at hlen
  subst ht
  omega

theorem msgTrlrStage_ensures :
    Ensures (fun w => (∃ n, AtTrlr pkt cmdFields fl (authenticationTypeAt pkt) n w) ∧ w.indx < pkt.length)
      (msgTrlrStage pkt) (fun w => ∃ n, AtEnd pkt cmdFields fl (authenticationTypeAt pkt) n w)
      (GivenUp pkt cmdFields fl) := by
  rintro w ⟨⟨n, hw⟩, hlt⟩
  have hindx := hw.indx
  obtain ⟨obj', m, hcall, hfill⟩ := trySetAll_filled hw.walked.msgTrlr hw.msgTrlr
    (endsByteAligned_msgTrlr (pkt.drop w.indx).length)
  have hlen := hfill.len
  rw [show bitLen tmplLanMsgTrlr.fields = 8 from rfl, List.length_drop] at hlen
  refine Or.inl ⟨{ indx := w.indx + m, objs := { w.objs with msgTrlr := obj' } }, ?_, n, ?_⟩
  · simp only [msgTrlrStage, hcall, call_ok, ok_bind]
    rfl
  · refine ⟨⟨hw.walked.rmcpHdr, hw.walked.sessionHdr, hw.walked.msgHdr, hw.walked.cmd, hfill.of,
      by rw [← hw.walked.flags, LanObjs.flags, LanObjs.flags, hfill.flags], ?_, ?_⟩,
      hw.reaches, ?_, hw.rmcpHdr, hw.sessionHdr, hw.msgHdr, hw.cmd, ?_⟩
    · have hold := hw.walked.bits
      simp only [LanObjs.setBits, hw.msgTrlr.setBits, List.append_nil] at hold ⊢
      rw [hold, hfill.bits, window_extend]
    · show w.indx + m ≤ pkt.length
      omega
    · show w.indx + m = _
      omega
    · refine hfill.full ?_
      rw [show bitLen tmplLanMsgTrlr.fields = 8 from rfl, List.length_drop]
      omega

/-- The whole walk, when the end of the command can be represented. -/
theorem lanStages_ensures
    (hal : ReachesCmd pkt → EndsByteAligned cmdFields (cmdBytes pkt (authenticationTypeAt pkt)).length) :
    Ensures (AtStart pkt cmdFields fl) (runStages (lanStages pkt))
      (fun w => ∃ n, AtEnd pkt cmdFields fl (authenticationTypeAt pkt) n w) (GivenUp pkt cmdFields fl) := by
  refine headerStages_ensures.append ((cmdStage_ensures hal).cons ((moreStage_ensures ?_).cons
    (msgTrlrStage_ensures.cons Ensures.nil)))
  rintro w ⟨n, hw⟩ hle
  exact absurd (hw.lt rfl) (Nat.not_lt.mpr hle)

/-- When it cannot, the walk fails at the command. -/
theorem lanStages_fails {w : Walk} (hw : AtStart pkt cmdFields fl w) (hreach : ReachesCmd pkt)
    (hal : ¬ EndsByteAligned cmdFields (cmdBytes pkt (authenticationTypeAt pkt)).length) :
    runStages (lanStages pkt) w = .error (.fail (.fiid .dataNotByteAligned)) := by
  rcases headerStages_ensures w hw with ⟨w', h', hcmd, hlt⟩ | ⟨w', -, -, hnot⟩
  · have hlong := hreach.2
    rw [lanStages, runStages_append, h', ok_bind, runStages, cmdStage_eq hcmd hlt, if_neg (by omega),
      trySetAll_error hcmd.walked.cmd hal]
    rfl
  · exact absurd hreach hnot

end Walk

/-! ### The whole function -/

/-- The objects of a call of `unassemble_ipmi_lan_pkt`: they exist, and their templates pass its
    checks. -/
structure LanObjs.Passed (ndebug : Bool) (cmdTmpl : FiidTemplate) (objs : LanObjs) : Prop where
  rmcpHdr : ∃ tmpl, Reachable ndebug tmpl objs.rmcpHdr
  sessionHdr : ∃ tmpl, Reachable ndebug tmpl objs.sessionHdr
  msgHdr : ∃ tmpl, Reachable ndebug tmpl objs.msgHdr
  cmd : Reachable ndebug cmdTmpl objs.cmd
  msgTrlr : ∃ tmpl, Reachable ndebug tmpl objs.msgTrlr
  compared : objs.compareTemplates = .ok ()

section Unassemble
variable {ndebug : Bool} {cmdTmpl : FiidTemplate} {objs : LanObjs} {pkt : List Byte} {flags : BitVec 32}

theorem LanObjs.Passed.atStart (h : objs.Passed ndebug cmdTmpl) :
    AtStart pkt cmdTmpl.fields objs.flags ⟨0, objs.clear⟩ := by
  have hcmp := h.compared
  simp only [LanObjs.compareTemplates] at hcmp
  obtain ⟨_, hrmcp, hcmp⟩ := bind_eq_ok.mp hcmp
  obtain ⟨_, hsession, hcmp⟩ := bind_eq_ok.mp hcmp
  obtain ⟨_, hmsg, htrlr⟩ := bind_eq_ok.mp hcmp
  obtain ⟨_, hrmcpR⟩ := h.rmcpHdr
  obtain ⟨_, hsessionR⟩ := h.sessionHdr
  obtain ⟨_, hmsgR⟩ := h.msgHdr
  obtain ⟨_, htrlrR⟩ := h.msgTrlr
  have hof : ∀ {tmpl tmpl' : FiidTemplate} {obj : FiidObj}, Reachable ndebug tmpl obj →
      TemplateOk tmpl' → fiidObjTemplateCompareStrict obj tmpl' = .ok () →
      (fiidObjClear obj).Of tmpl'.fields := fun hr hok hc =>
    (touched_clear _).of (hr.wf.of_compare hok hc)
  have hbits : objs.clear.setBits = [] := by
    simp only [LanObjs.setBits, LanObjs.clear, (unset_clear _).setBits, List.append_nil]
  exact ⟨⟨hof hrmcpR (by decide) hrmcp, hof hsessionR (by decide) hsession, hof hmsgR (by decide) hmsg,
    (touched_clear _).of h.cmd.wf.of, hof htrlrR (by decide) htrlr, rfl, hbits, Nat.zero_le _⟩, rfl,
    unset_clear _, unset_clear _, unset_clear _, unset_clear _, unset_clear _⟩

/-- The call, with its parameter checks passed. -/
theorem LanObjs.Passed.unassemble (h : objs.Passed ndebug cmdTmpl)
    (hflags : flags &&& ~~~ ipmiInterfaceFlagsNoLegalCheck = 0) :
    unassembleIpmiLanPkt pkt objs flags = (do
      let (accepted, w) ← report (fun w => w.objs.accepted flags)
        (runStages (lanStages pkt) ⟨0, objs.clear⟩)
      return (accepted, w.objs)) := by
  rw [unassembleIpmiLanPkt, if_neg (not_not.mpr hflags), h.compared]
  rfl

/-- The call returns 1 or 0, and the set bits of the objects are a prefix of the packet. -/
def ReturnsPacketBytes (pkt : List Byte) (objs : LanObjs) (flags : BitVec 32) : Prop :=
  ∃ accepted objs', unassembleIpmiLanPkt pkt objs flags = .ok (accepted, objs') ∧
    objs'.setBits <+: window pkt 0 (8 * pkt.length)

theorem Walked.isPrefix {cmdFields : List FiidField} {fl : List (BitVec 32)} {w : Walk}
    (hw : Walked pkt cmdFields fl w) :
    w.objs.setBits <+: window pkt 0 (8 * pkt.length) := by
  have hle := hw.le
  rw [hw.bits, ← window_take pkt 0 (show 8 * w.indx ≤ 8 * pkt.length by omega)]
  exact List.take_prefix _ _

/-- A call that returns had known flags, and a command whose end can be represented. -/
theorem LanObjs.Passed.of_returns {accepted : Bool} {objs' : LanObjs} (h : objs.Passed ndebug cmdTmpl)
    (hcall : unassembleIpmiLanPkt pkt objs flags = .ok (accepted, objs')) :
    flags &&& ~~~ ipmiInterfaceFlagsNoLegalCheck = 0 ∧ (ReachesCmd pkt →
      EndsByteAligned cmdTmpl.fields (cmdBytes pkt (authenticationTypeAt pkt)).length) := by
  have hflags : flags &&& ~~~ ipmiInterfaceFlagsNoLegalCheck = 0 := by
    by_contra hne
    rw [unassembleIpmiLanPkt, if_pos hne] at hcall
    cases hcall
  refine ⟨hflags, fun hreach => ?_⟩
  by_contra hal
  rw [h.unassemble hflags, lanStages_fails h.atStart hreach hal] at hcall
  cases hcall

/-- What a call returns under these conditions. -/
theorem LanObjs.Passed.returns (h : objs.Passed ndebug cmdTmpl)
    (hflags : flags &&& ~~~ ipmiInterfaceFlagsNoLegalCheck = 0) (hal : ReachesCmd pkt →
      EndsByteAligned cmdTmpl.fields (cmdBytes pkt (authenticationTypeAt pkt)).length) :
    ∃ accepted w, unassembleIpmiLanPkt pkt objs flags = .ok (accepted, w.objs) ∧
      ((∃ n, AtEnd pkt cmdTmpl.fields objs.flags (authenticationTypeAt pkt) n w ∧
          accepted = w.objs.accepted flags) ∨
        (GivenUp pkt cmdTmpl.fields objs.flags w ∧ accepted = false)) := by
  obtain ⟨accepted, w, hrun, hw⟩ := (lanStages_ensures hal).report (fun w => w.objs.accepted flags)
    h.atStart
  refine ⟨accepted, w, by rw [h.unassemble hflags, hrun]; rfl, ?_⟩
  rcases hw with ⟨⟨n, hw⟩, hacc⟩ | hw
  · exact Or.inl ⟨n, hw, hacc⟩
  · exact Or.inr hw

/-- `unassemble_ipmi_lan_pkt` returns 1 or 0 with bytes of the packet in the objects, exactly when the
    flags are known and a command that the walk gets to does not end in the middle of a field that
    ends inside a byte. -/
theorem unassembleIpmiLanPkt_returns_iff (h : objs.Passed ndebug cmdTmpl) :
    ReturnsPacketBytes pkt objs flags ↔ flags &&& ~~~ ipmiInterfaceFlagsNoLegalCheck = 0 ∧
      (ReachesCmd pkt →
        EndsByteAligned cmdTmpl.fields (cmdBytes pkt (authenticationTypeAt pkt)).length) := by
  constructor
  · rintro ⟨accepted, objs', hcall, -⟩
    exact h.of_returns hcall
  · rintro ⟨hflags, hal⟩
    obtain ⟨accepted, w, hcall, hw⟩ := h.returns hflags hal
    refine ⟨accepted, w.objs, hcall, ?_⟩
    rcases hw with ⟨n, hw, -⟩ | ⟨⟨hw, -⟩, -⟩
    · exact hw.walked.isPrefix
    · exact hw.isPrefix

end Unassemble

/-! ### A truncated response -/

/-- `tmpl_cmd_get_lan_configuration_parameters_vlan_id_rs`. -/
def tmplCmdGetLanConfigurationParametersVlanIdRs : FiidTemplate where
  fields :=
    [⟨8, "cmd", requiredFixed ||| fiidFieldMakesPacketSufficient, .refl true⟩,
     ⟨8, "comp_code", requiredFixed ||| fiidFieldMakesPacketSufficient, .refl true⟩,
     ⟨4, "present_revision", requiredFixed, .refl true⟩,
     ⟨4, "oldest_revision_parameter", requiredFixed, .refl true⟩,
     ⟨12, "vlan_id", requiredFixed, .refl true⟩,
     ⟨3, "reserved", requiredFixed, .refl true⟩,
     ⟨1, "vlan_id_enable", requiredFixed, .refl true⟩]

/-- What `fiid_obj_create` returns for a template of `dataLen` bytes. -/
def createdObj (tmpl : FiidTemplate) (dataLen : ℕ) (makesPacketSufficient : Bool) : FiidObj where
  data := List.replicate dataLen 0
  fields := tmpl.fields.map FiidField.toData
  terminatorFlags := 0
  terminatorSetFieldLen := 0
  makesPacketSufficient := makesPacketSufficient

/-- The objects for a response with the VLAN id. -/
def vlanIdObjs : LanObjs where
  rmcpHdr := createdObj tmplRmcpHdr 4 false
  sessionHdr := createdObj tmplLanSessionHdr 26 false
  msgHdr := createdObj tmplLanMsgHdrRs 5 false
  cmd := createdObj tmplCmdGetLanConfigurationParametersVlanIdRs 5 true
  msgTrlr := createdObj tmplLanMsgTrlr 1 false

theorem vlanIdObjs_passed : vlanIdObjs.Passed false tmplCmdGetLanConfigurationParametersVlanIdRs where
  rmcpHdr := ⟨tmplRmcpHdr, .create (by decide)⟩
  sessionHdr := ⟨tmplLanSessionHdr, .create (by decide)⟩
  msgHdr := ⟨tmplLanMsgHdrRs, .create (by decide)⟩
  cmd := .create (by decide)
  msgTrlr := ⟨tmplLanMsgTrlr, .create (by decide)⟩
  compared := by decide

/-- The response, with VLAN id 0x123. -/
def vlanIdPkt : List Byte :=
  [6, 0, 0xff, 7] ++ [0, 0, 0, 0, 0, 0, 0, 0, 0] ++ [11] ++ [0x81, 0x34, 0x4b, 0x20, 0x04] ++
    [0x02, 0x00, 0x11, 0x23, 0x81] ++ [0x25]

theorem unassembleIpmiLanPkt_vlanId : ReturnsPacketBytes vlanIdPkt vlanIdObjs 0 :=
  (unassembleIpmiLanPkt_returns_iff vlanIdObjs_passed).mpr ⟨by decide, fun _ => by decide⟩

/-- The same response without the second byte of the VLAN id is not reported as unparseable: the call
    returns `-1`. -/
theorem unassembleIpmiLanPkt_vlanId_truncated :
    vlanIdObjs.Passed false tmplCmdGetLanConfigurationParametersVlanIdRs ∧
      unassembleIpmiLanPkt (vlanIdPkt.eraseIdx 23) vlanIdObjs 0
        = .error (.fiid .dataNotByteAligned) ∧
      ¬ ReturnsPacketBytes (vlanIdPkt.eraseIdx 23) vlanIdObjs 0 := by
  have hcall : unassembleIpmiLanPkt (vlanIdPkt.eraseIdx 23) vlanIdObjs 0
      = .error (.fiid .dataNotByteAligned) := by rfl
  refine ⟨vlanIdObjs_passed, hcall, ?_⟩
  rintro ⟨accepted, objs', hret, -⟩
  rw [hcall] at hret
  cases hret

end FreeIpmi.Lan
