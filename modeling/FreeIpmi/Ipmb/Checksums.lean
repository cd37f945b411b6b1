import FreeIpmi.Ipmb.Interface
import FreeIpmi.Lan.Lossless
import FreeIpmi.Rmcpplus.Lengths

/-! The checksums of IPMB messages.

    A message that is put together goes into an object of 255 bytes, whatever its length, so the
    checksum at the end of a longer one is cut off. A message that is taken apart is checked by the
    bytes that the objects took: all of them when the command object has room for the command, and
    else only those in front of the byte that was taken for the trailer. -/

namespace FreeIpmi.Ipmb
open Fiid Calls Stages ByteBits Lan Rmcpplus

/-! ### Sums of bytes -/

theorem ipmiChecksum_eq (b : List Byte) : ipmiChecksum b = -b.sum := by
  rw [ipmiChecksum, List.sum_eq_foldl]

/-- A checksum is right when it makes the sum 0. -/
theorem ipmiChecksum_eq_iff {b : List Byte} {x : Byte} : ipmiChecksum b = x ↔ b.sum + x = 0 := by
  rw [ipmiChecksum_eq, neg_eq_iff_add_eq_zero]

theorem sum_concat (b : List Byte) (x : Byte) : (b ++ [x]).sum = b.sum + x := by
  rw [List.sum_append, List.sum_singleton]

theorem sum_checksum (b : List Byte) : (b ++ [ipmiChecksum b]).sum = 0 := by
  rw [sum_concat]
  exact ipmiChecksum_eq_iff.mp rfl

/-! ### Fields inside a byte -/

/-- Field number `i`, which has `len` bits from bit `start` on, has been set to a value. -/
structure SetTo (fields : List FiidField) (obj obj' : FiidObj) (i start len : ℕ) (val : BitVec 64) :
    Prop where
  of : obj'.Of fields
  bits : ∀ j < len, bit obj'.data (start + j) = val.getLsbD j
  frame : ∀ q, q < start ∨ start + len ≤ q → bit obj'.data q = bit obj.data q
  lens : obj'.lens = obj.lens.set i len

section Set
variable {fields : List FiidField} {obj obj' : FiidObj} {i start len : ℕ} {val : BitVec 64}

theorem set_inByte {field : String} {g : FiidField} (hof : obj.Of fields)
    (hidx : fields.findIdx? (fun f => f.key = field) = some i) (hg : fields[i]? = some g)
    (hin : bitLen (fields.take i) % 8 + g.maxFieldLen ≤ 8) (h : fiidObjSet obj field val = .ok obj') :
    SetTo fields obj obj' i (bitLen (fields.take i)) g.maxFieldLen val := by
  obtain ⟨f, hf⟩ := fieldAt_of_tmpl hof hidx
  have hfg : f.maxFieldLen = g.maxFieldLen := by
    rw [getElem?_toField hof hf.entry] at hg
    exact congrArg FiidField.maxFieldLen (Option.some.inj hg)
  have hstart : obj.bitStart i = bitLen (fields.take i) := bitStart_eq hof i
  have hlen : f.maxFieldLen ≤ 64 := by omega
  have hlost : LostBitsZero obj i f val := by
    intro j hj hlt
    rw [hstart, spanLost] at hj
    omega
  obtain ⟨obj'', hset, -, hbits, -, hframe, hfields⟩ :=
    (setsAndGets_iff hof hf hlen val).mpr ⟨not_spanOver_of_set hf hlen h, hlost⟩
  rw [h] at hset
  cases hset
  rw [hstart, hfg] at hbits hframe
  refine ⟨(touched_set hof h).of hof, hbits, hframe, ?_⟩
  rw [FiidObj.lens, hfields, FiidObj.lens, ← hfg]
  refine List.ext_getElem? fun j => ?_
  simp only [List.getElem?_map, List.getElem?_modify, List.getElem?_set, List.length_map]
  by_cases hij : i = j
  · subst hij
    have hlt := (List.getElem?_eq_some_iff.mp hf.entry).1
    simp [hlt]
  · simp [hij]

theorem SetTo.length (h : SetTo fields obj obj' i start len val) (hof : obj.Of fields) :
    obj'.data.length = obj.data.length := by
  have h1 := h.of.dataLen
  have h2 := hof.dataLen
  omega

/-- The bytes in front of the field are kept. -/
theorem SetTo.take (h : SetTo fields obj obj' i start len val) (hof : obj.Of fields) {k : ℕ}
    (hk : 8 * k ≤ start) (hle : k ≤ obj.data.length) : obj'.data.take k = obj.data.take k := by
  have hlen := h.length hof
  have hslice : ∀ d : List Byte, k ≤ d.length → d.take k = pack (window d 0 (8 * k)) := by
    intro d hd
    rw [← Nat.mul_zero 8, pack_window_slice (by omega), List.drop_zero]
  rw [hslice _ (by omega), hslice _ hle]
  refine congrArg pack (window_congr fun j hj => h.frame _ (Or.inl ?_))
  omega

/-- A field that is a byte is that byte of the value. -/
theorem SetTo.byte {x : Byte} {k : ℕ} (h : SetTo fields obj obj' i (8 * k) 8 (x.setWidth 64))
    (hlt : k < obj'.data.length) : (obj'.data.drop k).take 1 = [x] := by
  rw [← pack_window_slice (show k + 1 ≤ obj'.data.length by omega), ← pack_window [x]]
  refine congrArg pack (window_congr fun j hj => ?_)
  have hbit := h.bits j (by omega)
  have hzero : (0 + j) / 8 = 0 := by omega
  rw [hbit, BitVec.getLsbD_setWidth, bit, hzero, List.getD_cons_zero, Nat.zero_add,
    Nat.mod_eq_of_lt (by omega : j < 8), decide_eq_true (by omega), Bool.true_and]

end Set

/-! ### The header of a request -/

/-- The first `k` fields are completely set, and no other. -/
theorem setBits_front {fields : List FiidField} {obj : FiidObj} (hof : obj.Of fields) {k n : ℕ}
    (hlens : obj.lens = (fields.take k).map (·.maxFieldLen) ++ List.replicate n 0)
    (hk : k ≤ fields.length) : obj.setBits = window obj.data 0 (bitLen (fields.take k)) := by
  have hlen : obj.fields.length = fields.length := hof.length
  have hfront : ((fields.take k).map (·.maxFieldLen)).length = k := by
    rw [List.length_map, List.length_take]
    omega
  have htake : (obj.fields.take k).map (·.setFieldLen) = (fields.take k).map (·.maxFieldLen) := by
    rw [List.map_take, show obj.fields.map (·.setFieldLen) = obj.lens from rfl, hlens]
    exact List.take_left' hfront
  have hdrop : (obj.fields.drop k).map (·.setFieldLen) = List.replicate n 0 := by
    rw [List.map_drop, show obj.fields.map (·.setFieldLen) = obj.lens from rfl, hlens]
    exact List.drop_left' hfront
  have hmax : maxLen (obj.fields.take k) = bitLen (fields.take k) := hof.maxLen_take k
  have hset : setLen (obj.fields.take k) = maxLen (obj.fields.take k) := by
    rw [hmax, setLen_eq_sum, htake]
    rfl
  have hunset : ∀ f ∈ obj.fields.drop k, f.setFieldLen = 0 := by
    intro f hf
    have hmem := List.mem_map_of_mem (f := (·.setFieldLen)) hf
    rw [hdrop] at hmem
    exact List.eq_of_mem_replicate hmem
  rw [FiidObj.setBits, ← List.take_append_drop k obj.fields, List.map_append, cellBits_append,
    cellBits_full _ _ (fun f hf => hof.le_of_mem (List.mem_of_mem_take hf)) hset, cellBits_unset _ hunset,
    List.append_nil, hmax]

section Fill
variable {tmpl : FiidTemplate} {obj obj' : FiidObj} {rsAddr netFn rsLun rqAddr rqLun rqSeq : Byte}

/-- `fill_ipmb_msg_hdr` sets all fields, and its first three bytes sum to 0. -/
theorem fillIpmbMsgHdr_sum (hwf : obj.Wf tmpl)
    (h : fillIpmbMsgHdr rsAddr netFn rsLun rqAddr rqLun rqSeq obj = .ok obj') :
    obj'.Of tmplIpmbMsgHdrRq.fields ∧ obj'.Holds msgHdrLens obj'.data ∧ (obj'.data.take 3).sum = 0 := by
  rw [fillIpmbMsgHdr] at h
  split at h
  · cases h
  obtain ⟨_, hcmp, h⟩ := bind_eq_ok.mp h
  have hof₀ := (touched_clear obj).of (hwf.of_compare (by decide) hcmp)
  obtain ⟨o₁, h₁, h⟩ := bind_eq_ok.mp h
  obtain ⟨o₂, h₂, h⟩ := bind_eq_ok.mp h
  obtain ⟨o₃, h₃, h⟩ := bind_eq_ok.mp h
  obtain ⟨⟨len, buf⟩, hblock, h⟩ := bind_eq_ok.mp h
  obtain ⟨o₄, h₄, h⟩ := bind_eq_ok.mp h
  obtain ⟨o₅, h₅, h⟩ := bind_eq_ok.mp h
  obtain ⟨o₆, h₆, h₇⟩ := bind_eq_ok.mp h
  have s₁ := set_inByte hof₀ (i := 0) rfl rfl (by decide) h₁
  have s₂ := set_inByte s₁.of (i := 2) rfl rfl (by decide) h₂
  have s₃ := set_inByte s₂.of (i := 1) rfl rfl (by decide) h₃
  have s₄ := set_inByte s₃.of (i := 3) rfl rfl (by decide) h₄
  have s₅ := set_inByte s₄.of (i := 4) rfl rfl (by decide) h₅
  have s₆ := set_inByte s₅.of (i := 5) rfl rfl (by decide) h₆
  have s₇ := set_inByte s₆.of (i := 6) rfl rfl (by decide) h₇
  have hlens₀ : (fiidObjClear obj).lens = List.replicate 7 0 := by
    refine List.eq_replicate_iff.mpr ⟨?_, fun l hl => ?_⟩
    · rw [FiidObj.lens, List.length_map]
      exact hof₀.length
    · obtain ⟨f, hf, rfl⟩ := List.mem_map.mp hl
      exact unset_clear obj f hf
  have hlens₃ : o₃.lens = [8, 2, 6, 0, 0, 0, 0] := by
    rw [s₃.lens, s₂.lens, s₁.lens, hlens₀]
    rfl
  have hlens₇ : obj'.lens = msgHdrLens := by
    rw [s₇.lens, s₆.lens, s₅.lens, s₄.lens, hlens₃]
    rfl
  have hdata : ∀ {o : FiidObj}, o.Of tmplIpmbMsgHdrRq.fields → o.data.length = 5 := by
    intro o ho
    have hlen := ho.dataLen
    rw [show bitLen tmplIpmbMsgHdrRq.fields = 40 from rfl] at hlen
    omega
  have hd₃ := hdata s₃.of
  have hd₄ := hdata s₄.of
  have hholds₃ := holds_of_window (o := 0) (m := 2) hlens₃ (by omega)
    (setBits_front s₃.of (k := 3) (n := 4) hlens₃ (by decide))
  have hholds₇ := holds_of_window (o := 0) (m := 5) hlens₇ (by rw [hdata s₇.of])
    (setBits_front s₇.of (k := 7) (n := 0) hlens₇ (by decide))
  rw [List.drop_zero, List.take_of_length_le (by rw [hdata s₇.of])] at hholds₇
  rw [List.drop_zero] at hholds₃
  refine ⟨s₇.of, hholds₇, ?_⟩
  -- the checksum is computed from the first two bytes, and nothing behind it changes them
  have hread := hholds₃.getBlock s₃.of (show blockPlace _ _ "rs_addr" "net_fn" = some (0, 2) by decide)
    (show 2 ≤ 1024 by norm_num)
  rw [hblock] at hread
  cases hread
  have hkeep : obj'.data.take 3 = o₄.data.take 3 := by
    rw [s₇.take s₆.of (by decide) (by rw [hdata s₆.of]; norm_num),
      s₆.take s₅.of (by decide) (by rw [hdata s₅.of]; norm_num),
      s₅.take s₄.of (by decide) (by rw [hd₄]; norm_num)]
  have hbyte := s₄.byte (k := 2) (by omega)
  rw [hkeep, show 3 = 2 + 1 from rfl, List.take_add, hbyte, s₄.take s₃.of (k := 2) (by decide) (by omega)]
  rw [List.drop_zero, List.take_take, min_self, List.take_left' (by rw [List.length_take]; omega)]
  exact sum_checksum _

end Fill

/-! ### The message object -/

section Message
variable {obj : FiidObj}

/-- One field of any length takes whole bytes. -/
theorem endsByteAligned_ipmbMsg (n : ℕ) : EndsByteAligned tmplIpmbMsg.fields n := by
  intro i hi
  simp only [tmplIpmbMsg, List.length_cons, List.length_nil] at hi
  interval_cases i
  simp [tmplIpmbMsg, bitLen]

/-- What the only field was set to before does not matter. -/
theorem trySetAll_unset {f : FiidFieldData} (hfields : obj.fields = [f]) (d : List Byte) :
    trySetAll obj d = trySetAll { obj with fields := [{ f with setFieldLen := 0 }] } d := by
  have hend : ∀ bits, keyIndexEnd bits [f] 0 0 = keyIndexEnd bits [{ f with setFieldLen := 0 }] 0 0 :=
    fun bits => rfl
  have hmark : ∀ bits n,
      markSet bits n 0 [f] = markSet bits n 0 [{ f with setFieldLen := 0 }] := by
    intro bits n
    cases n <;> rfl
  simp only [trySetAll, fiidObjSetAll, FiidObj.markFields, hfields, hend, Nat.sub_zero, List.drop_zero,
    hmark, List.take_zero, List.nil_append, List.length_singleton]
  split_ifs with hlong hshort
  · exact absurd ‹obj.data.length < obj.data.length› (Nat.lt_irrefl _)
  · rfl
  · cases keyIndexEnd (d.length * 8) [{ f with setFieldLen := 0 }] 0 0 <;> rfl
  · rfl

/-- The message object takes 255 bytes of any message. -/
theorem trySetAll_ipmbMsg (hof : obj.Of tmplIpmbMsg.fields) (d : List Byte) :
    ∃ obj', trySetAll obj d = .ok (obj', (d.take 255).length) ∧ obj'.Of tmplIpmbMsg.fields ∧
      obj'.Reads (d.take 255) := by
  obtain ⟨f, hf⟩ : ∃ f, obj.fields = [f] := List.length_eq_one_iff.mp hof.length
  have hof₀ : FiidObj.Of tmplIpmbMsg.fields { obj with fields := [{ f with setFieldLen := 0 }] } := by
    refine ⟨?_, rfl, ?_, ?_, hof.terminator⟩
    · rw [← show obj.fields.map FiidFieldData.toField = tmplIpmbMsg.fields from hof.fields, hf]
      rfl
    · have hdata := hof.data
      rw [hf] at hdata
      exact hdata
    · intro i g hg
      rw [List.getElem?_singleton] at hg
      split_ifs at hg
      cases hg
      exact Nat.zero_le _
  have hunset₀ : FiidObj.Unset { obj with fields := [{ f with setFieldLen := 0 }] } := by
    intro g hg
    rw [List.mem_singleton.mp hg]
  obtain ⟨obj', n, hcall, hfill⟩ := trySetAll_filled hof₀ hunset₀ (endsByteAligned_ipmbMsg d.length)
  have hlen := hfill.len
  rw [show bitLen tmplIpmbMsg.fields = 8 * 255 from rfl] at hlen
  have htake : (d.take 255).length = n := by
    rw [List.length_take]
    omega
  have hbytes : d.take n = d.take 255 := by
    rw [List.take_eq_take_iff]
    omega
  have hholds := holds_of_window (o := 0) (m := n) (show obj'.lens = obj'.lens from rfl) (by omega)
    hfill.bits
  rw [List.drop_zero, hbytes] at hholds
  refine ⟨obj', by rw [trySetAll_unset hf, hcall, htake], hfill.of, hholds.lenBytes, fun dataLen hroom => ?_⟩
  · have hget := getAll_of_setAll hof₀ hunset₀ hfill.call (show n ≤ dataLen by omega)
    rwa [htake, ← hbytes]

end Message

/-! ### A message that is sent -/

/-- The first three bytes sum to 0, and so do the others. -/
structure MessageSums (m : List Byte) : Prop where
  header : (m.take 3).sum = 0
  rest : (m.drop 3).sum = 0

/-- The command as it is put behind the header. -/
def cmdSent (objCmd : FiidObj) : Except Stop (List Byte) := do
  let (len, buf) ← fiidObjGetAll objCmd (ipmbMaxLen - 5)
  return buf.take len

theorem cmdSent_of_reads {obj : FiidObj} {b : List Byte} (h : obj.Reads b)
    (hroom : b.length ≤ ipmbMaxLen - 5) : cmdSent obj = .ok b := by
  rw [cmdSent, h.getAll _ hroom, ok_bind]
  exact congrArg Except.ok List.take_left

section Assemble
variable {ndebug : Bool} {hdr cmd : List Byte} {objIpmbMsgHdr objCmd objIpmbMsg objIpmbMsg' : FiidObj}
  {flags : BitVec 32} {n : ℕ}

/-- The part of a message that the message object takes. -/
theorem messageSums_iff (hlen : hdr.length = 5) (cmd : List Byte) :
    MessageSums ((requestMsg hdr cmd).take 255) ↔
      (hdr.take 3).sum = 0 ∧ (cmd.length ≤ 249 ∨ (hdr.drop 3 ++ cmd.take 250).sum = 0) := by
  have htake : ((requestMsg hdr cmd).take 255).take 3 = hdr.take 3 := by
    rw [List.take_take, requestMsg, List.take_append_of_le_length (by omega)]
    rfl
  have hdrop : (requestMsg hdr cmd).drop 3
      = hdr.drop 3 ++ cmd ++ [ipmiChecksum (hdr.drop 3 ++ cmd)] := by
    rw [requestMsg, List.drop_append_of_le_length (by omega), List.append_assoc]
  have hrest : (((requestMsg hdr cmd).take 255).drop 3).sum = 0 ↔
      cmd.length ≤ 249 ∨ (hdr.drop 3 ++ cmd.take 250).sum = 0 := by
    rw [List.drop_take, hdrop]
    rcases Nat.lt_or_ge 249 cmd.length with hlong | hshort
    · have hcut : (hdr.drop 3 ++ cmd ++ [ipmiChecksum (hdr.drop 3 ++ cmd)]).take (255 - 3)
          = hdr.drop 3 ++ cmd.take 250 := by
        have hdrop3 : (hdr.drop 3).length = 2 := by
          rw [List.length_drop]
          omega
        rw [List.take_append_of_le_length (by rw [List.length_append]; omega), List.take_append,
          List.take_of_length_le (by omega), hdrop3]
      rw [hcut, or_iff_right (by omega)]
    · rw [List.take_of_length_le (by
        simp only [List.length_append, List.length_drop, List.length_singleton]
        omega), sum_checksum]
      exact iff_of_true rfl (Or.inl hshort)
  constructor
  · rintro ⟨hheader, hsum⟩
    exact ⟨by rwa [htake] at hheader, hrest.mp hsum⟩
  · rintro ⟨hheader, hsum⟩
    exact ⟨by rwa [htake], hrest.mpr hsum⟩

/-- The message is put together as an IPMI 1.5 message is, in front of a zeroed buffer. -/
theorem putIpmbMsg_eq (k : ℕ) : putIpmbMsg ndebug (List.replicate k 0) objIpmbMsgHdr objCmd
    = putMessage ndebug ([] ++ List.replicate k 0) ([] : List Byte).length objIpmbMsgHdr objCmd := rfl

/-- What is put into the buffer: the header, the command as it can be read, and the trailer. -/
theorem putIpmbMsg_ok {k : ℕ} {r : List Byte × ℕ} (hof : objIpmbMsgHdr.Of tmplLanMsgHdrRq.fields)
    (hhdr : objIpmbMsgHdr.Holds msgHdrLens hdr) (hroom : 6 + bitsRoundBytes (fiidObjLen objCmd) ≤ k)
    (h : putIpmbMsg ndebug (List.replicate k 0) objIpmbMsgHdr objCmd = .ok r) :
    ∃ cmd zeros, fiidObjGetAll objCmd (k - 5) = .ok (cmd.length, cmd ++ zeros) ∧
      r.1.take r.2 = requestMsg hdr cmd := by
  rw [putIpmbMsg_eq] at h
  obtain ⟨⟨len, buf⟩, hget⟩ := putMessage_getAll hof hhdr (show 5 ≤ k by omega) h
  obtain ⟨hlen, -, cmd, hcmd, hbuf⟩ := (getAll_written objCmd (k - 5)).value _ hget
  simp only at hlen hcmd hbuf
  rw [hbuf, ← hcmd] at hget
  rw [← hlen, ← hcmd] at hroom
  have hput := putMessage_eq ndebug hof hhdr (a := []) hroom hget
  rw [h] at hput
  cases hput
  exact ⟨cmd, _, hget, List.take_left' rfl⟩

/-- Every command of up to 65530 bytes is put together. -/
theorem assembleIpmiIpmbMsg_returns (ndebug : Bool)
    (hof : objIpmbMsgHdr.Of tmplLanMsgHdrRq.fields) (hmsg : objIpmbMsg.Of tmplIpmbMsg.fields)
    (hhdr : fiidObjPacketValid objIpmbMsgHdr = true) (hcmd : fiidObjPacketValid objCmd = true)
    (hreads : objCmd.Reads cmd) (hroom : 6 + cmd.length ≤ ipmbMaxLen) :
    ∃ r, assembleIpmiIpmbMsg ndebug objIpmbMsgHdr objCmd objIpmbMsg 0 = .ok r ∧
      r.1.Reads ((requestMsg (pack objIpmbMsgHdr.setBits) cmd).take 255) := by
  have hcmp : fiidObjTemplateCompareStrict objIpmbMsgHdr tmplIpmbMsgHdrRq = .ok () :=
    hof.compare (show TemplateOk tmplIpmbMsgHdrRq by decide)
  have hhdrLen : orTemplateInvalid (fiidTemplateLenBytes tmplIpmbMsgHdrRq) = .ok 5 := by decide
  have htrlrLen : orTemplateInvalid (fiidTemplateLenBytes tmplIpmbMsgTrlr) = .ok 1 := by decide
  have hholds := holds_of_packetValid hof hhdr (show ∀ g ∈ tmplLanMsgHdrRq.fields, _ by decide)
  have hput := putMessage_eq ndebug hof hholds (a := []) hroom (hreads.getAll _ (by omega))
  rw [← putIpmbMsg_eq] at hput
  obtain ⟨obj', hset, -, hmsgReads⟩ := trySetAll_ipmbMsg hmsg
    (requestMsg (pack objIpmbMsgHdr.setBits) cmd)
  rw [assembleIpmiIpmbMsg, if_neg (by decide)]
  simp only [hcmp, hmsg.compare (show TemplateOk tmplIpmbMsg by decide), packetValidStrict_of_valid hhdr,
    packetValidStrict_of_valid hcmd, hhdrLen, htrlrLen, hreads.lenBytes, ok_bind, hput, List.nil_append]
  rw [if_neg (by omega), List.take_left' rfl]
  exact ⟨_, hset, hmsgReads⟩

/-- What `assemble_ipmi_ipmb_msg` leaves in the message object. -/
theorem assembleIpmiIpmbMsg_ok {tmpl tmpl' : FiidTemplate} (hwf : objIpmbMsgHdr.Wf tmpl)
    (hmsg : objIpmbMsg.Wf tmpl')
    (h : assembleIpmiIpmbMsg ndebug objIpmbMsgHdr objCmd objIpmbMsg flags = .ok (objIpmbMsg', n)) :
    ∃ hdr cmd, hdr.length = 5 ∧ bytesOf objIpmbMsgHdr = .ok hdr ∧ cmdSent objCmd = .ok cmd ∧
      bytesOf objIpmbMsg' = .ok ((requestMsg hdr cmd).take 255) := by
  rw [assembleIpmiIpmbMsg] at h
  split at h
  · cases h
  obtain ⟨_, hcmpHdr, h⟩ := bind_eq_ok.mp h
  obtain ⟨_, hcmpMsg, h⟩ := bind_eq_ok.mp h
  obtain ⟨_, hvalid, h⟩ := bind_eq_ok.mp h
  obtain ⟨_, -, h⟩ := bind_eq_ok.mp h
  obtain ⟨hdrLen, hhdrLen, h⟩ := bind_eq_ok.mp h
  obtain ⟨cmdLen, hcmdLen, h⟩ := bind_eq_ok.mp h
  obtain ⟨trlrLen, htrlrLen, h⟩ := bind_eq_ok.mp h
  obtain rfl : 5 = hdrLen := Except.ok.inj hhdrLen
  obtain rfl : 1 = trlrLen := Except.ok.inj htrlrLen
  split at h
  · cases h
  rename_i hroom
  obtain ⟨r, hput, h⟩ := bind_eq_ok.mp h
  have hof : objIpmbMsgHdr.Of tmplLanMsgHdrRq.fields := hwf.of_compare (by decide) hcmpHdr
  have hhdr := holds_of_packetValid hof (valid_of_packetValidStrict hvalid)
    (show ∀ g ∈ tmplLanMsgHdrRq.fields, _ by decide)
  have hcmdBytes := ((bytesOfSetBits_meets _).value _ hcmdLen).1
  obtain ⟨cmd, zeros, hget, hmessage⟩ := putIpmbMsg_ok hof hhdr
    (show 6 + bitsRoundBytes (fiidObjLen objCmd) ≤ ipmbMaxLen by omega) hput
  obtain ⟨obj', hset, hofMsg, hreads⟩ := trySetAll_ipmbMsg (hmsg.of_compare (by decide) hcmpMsg)
    (r.1.take r.2)
  cases h.symm.trans hset
  rw [hmessage] at hreads
  refine ⟨_, cmd, length_msgHdr hhdr, bytesOf_full hhdr hof rfl, ?_, bytesOf_eq (hreads.getAll _ ?_)⟩
  · rw [cmdSent, hget, ok_bind]
    exact congrArg Except.ok List.take_left
  · have hdata := hofMsg.dataLen
    rw [show bitLen tmplIpmbMsg.fields = 8 * 255 from rfl] at hdata
    rw [List.length_take]
    omega

end Assemble

/-! ### A message that is received -/

/-- The lengths that are set in a complete header of a response. -/
def ipmbMsgHdrLens : List ℕ := [2, 6, 8, 8, 2, 6]

/-- Both sums of a response, with the address of the requester in front. -/
structure ResponseSums (rqAddr : Byte) (m : List Byte) : Prop where
  header : rqAddr + m.getD 0 0 + m.getD 1 0 = 0
  rest : (m.drop 2).sum = 0

instance (rqAddr : Byte) (m : List Byte) : Decidable (ResponseSums rqAddr m) :=
  decidable_of_iff (rqAddr + m.getD 0 0 + m.getD 1 0 = 0 ∧ (m.drop 2).sum = 0)
    ⟨fun h => ⟨h.1, h.2⟩, fun h => ⟨h.header, h.rest⟩⟩

/-- The first bytes of a message have its header. -/
theorem responseSums_take_iff (rqAddr : Byte) (m : List Byte) {k : ℕ} (hk : 2 ≤ k) :
    ResponseSums rqAddr (m.take k) ↔
      rqAddr + m.getD 0 0 + m.getD 1 0 = 0 ∧ ((m.take k).drop 2).sum = 0 := by
  have hget : ∀ i < k, (m.take k).getD i 0 = m.getD i 0 := by
    intro i hi
    rw [List.getD_eq_getElem?_getD, List.getElem?_take_of_lt hi, ← List.getD_eq_getElem?_getD]
  constructor
  · rintro ⟨hheader, hrest⟩
    rw [hget 0 (by omega), hget 1 (by omega)] at hheader
    exact ⟨hheader, hrest⟩
  · rintro ⟨hheader, hrest⟩
    exact ⟨by rwa [hget 0 (by omega), hget 1 (by omega)], hrest⟩

/-- The message was cut behind its header and behind the `n` bytes that the command took. -/
structure IpmbParsed (cmdFields : List FiidField) (m : List Byte) (n : ℕ) (objs : IpmbObjs) : Prop where
  long : 5 < m.length
  len : 8 * n = min (8 * (m.length - 5)) (bitLen cmdFields)
  hdrOf : objs.msgHdr.Of tmplIpmbMsgHdrRs.fields
  hdr : objs.msgHdr.Holds ipmbMsgHdrLens (m.take 4)
  cmd : objs.cmd.Reads ((m.drop 4).take n)
  trlrOf : objs.msgTrlr.Of tmplIpmbMsgTrlr.fields
  trlr : objs.msgTrlr.Holds [8] [m.getD (4 + n) 0]

/-- Objects for a response, cleared. -/
structure IpmbObjs.Cleared (cmdFields : List FiidField) (objs : IpmbObjs) : Prop where
  hdrOf : objs.msgHdr.Of tmplIpmbMsgHdrRs.fields
  cmdOf : objs.cmd.Of cmdFields
  trlrOf : objs.msgTrlr.Of tmplIpmbMsgTrlr.fields
  hdrUnset : objs.msgHdr.Unset
  cmdUnset : objs.cmd.Unset
  trlrUnset : objs.msgTrlr.Unset

section Parse
variable {cmdFields : List FiidField} {m : List Byte} {n : ℕ} {objs objs' : IpmbObjs}

/-- A walk that ends has cut the message. -/
theorem parseIpmbMsg_ok (h : objs.Cleared cmdFields) (hret : parseIpmbMsg m objs = .ok objs') :
    ∃ n, IpmbParsed cmdFields m n objs' := by
  have htrlrLen : orTemplateInvalid (fiidTemplateLenBytes tmplIpmbMsgTrlr) = .ok 1 := by decide
  have hbits : bitLen tmplIpmbMsgHdrRs.fields = 32 := rfl
  have hone : bitLen tmplIpmbMsgTrlr.fields = 8 := rfl
  simp only [parseIpmbMsg, htrlrLen, call_ok, ok_bind] at hret
  obtain ⟨⟨hdr, k⟩, hcall, hret⟩ := bind_eq_ok.mp hret
  have hhdr := trySetAll_ok h.hdrOf h.hdrUnset (call_eq_ok.mp hcall)
  have hk := hhdr.len
  dsimp only at hret
  rw [hbits] at hk
  split at hret
  · cases hret
  rename_i hmore
  split at hret
  · cases hret
  rename_i hlong
  obtain rfl : k = 4 := by omega
  obtain ⟨⟨cmd, n⟩, hcall, hret⟩ := bind_eq_ok.mp hret
  have hcmd := trySetAll_ok h.cmdOf h.cmdUnset (call_eq_ok.mp hcall)
  dsimp only at hret
  split at hret
  · cases hret
  rename_i hrest
  obtain ⟨⟨trlr, k⟩, hcall, hret⟩ := bind_eq_ok.mp hret
  have htrlr := trySetAll_ok h.trlrOf h.trlrUnset (call_eq_ok.mp hcall)
  cases hret
  have hn := hcmd.len
  have hlen : ((m.drop 4).take (m.length - 4 - 1)).length = m.length - 5 := by
    rw [List.length_take, List.length_drop]
    omega
  rw [hlen] at hn
  have hk := htrlr.len
  rw [hone, List.length_drop] at hk
  obtain rfl : k = 1 := by omega
  have hbyte : (m.drop (4 + n)).take 1 = [m.getD (4 + n) 0] := by
    have hlt : 4 + n < m.length := by omega
    rw [List.getD_eq_getElem _ _ hlt, List.take_one_drop_eq_of_lt_length hlt]
    rfl
  have htrlrHolds := holds_of_filled htrlr (by rw [hone, List.length_drop]; omega)
  rw [hbyte] at htrlrHolds
  refine ⟨n, by omega, hn, hhdr.of, holds_of_filled hhdr (by rw [hbits]; omega), ?_, htrlr.of, htrlrHolds⟩
  have htake : ((m.drop 4).take (m.length - 4 - 1)).take n = (m.drop 4).take n := by
    rw [List.take_take, min_eq_left (by omega)]
  have hcut : ((m.drop 4).take n).length = n := by
    rw [List.length_take, List.length_drop]
    omega
  have hholds := holds_of_window (o := 0) (m := n) (show cmd.lens = cmd.lens from rfl) (by omega) hcmd.bits
  rw [List.drop_zero, htake] at hholds
  refine ⟨hholds.lenBytes, fun dataLen hroom => ?_⟩
  have hget := getAll_of_setAll h.cmdOf h.cmdUnset hcmd.call (show n ≤ dataLen by omega)
  rw [htake] at hget
  rw [hcut]
  exact hget

/-- What is checked: the header with the address of the requester, and the bytes up to the one that was
    taken for the second checksum. -/
theorem IpmbParsed.checkChecksum (h : IpmbParsed cmdFields m n objs) (rqAddr : Byte) :
    ipmiIpmbCheckChecksum rqAddr objs.msgHdr objs.cmd objs.msgTrlr
      = .ok (decide (ResponseSums rqAddr (m.take (5 + n)))) := by
  have hlong := h.long
  have hn := h.len
  have hhdrLen : (m.take 4).length = 4 := by
    rw [List.length_take]
    omega
  have hcmdLen : ((m.drop 4).take n).length = n := by
    rw [List.length_take, List.length_drop]
    omega
  have h1 : fiidObjGetStrict objs.msgHdr "checksum1" = .ok ((m.getD 1 0).setWidth 64) := by
    have hx : (m.take 4)[1]? = some (m.getD 1 0) := by
      rw [List.getElem?_take_of_lt (by norm_num), List.getElem?_eq_getElem (by omega),
        List.getD_eq_getElem _ _ (by omega)]
    rw [h.hdr.getStrict h.hdrOf (show valuePlace _ _ _ = some (8 * 1, 8) by decide), valueAt_byte hx]
  have h2 : fiidObjGetStrict objs.msgTrlr "checksum2" = .ok ((m.getD (4 + n) 0).setWidth 64) := by
    rw [h.trlr.getStrict h.trlrOf (show valuePlace _ _ _ = some (8 * 0, 8) by decide),
      valueAt_byte (show [m.getD (4 + n) 0][0]? = some (m.getD (4 + n) 0) from rfl)]
  have hb1 := h.hdr.getBlock h.hdrOf (show blockPlace _ _ "rq_lun" "net_fn" = some (0, 1) by decide)
    (show 1 ≤ 4 by norm_num)
  have hb2 := h.hdr.getBlock h.hdrOf (show blockPlace _ _ "rs_addr" "rq_seq" = some (2, 2) by decide)
    (show 2 ≤ 4 + n by omega)
  have hget := h.cmd.getAll (4 + n - 2) (by omega)
  have hlenHdr := h.hdr.lenBytes
  have hlenCmd := h.cmd.lenBytes
  rw [hhdrLen] at hlenHdr
  rw [hcmdLen] at hlenCmd hget
  have hfirst : ((m.take 4).drop 0).take 1 = [m.getD 0 0] := by
    rw [List.take_one_drop_eq_of_lt_length (by omega), List.getD_eq_getElem _ _ (by omega)]
    simp
  have hrest : ((m.take 4).drop 2).take 2 = (m.drop 2).take 2 := by
    rw [List.drop_take, List.take_take]
    rfl
  have hrestLen : ((m.drop 2).take 2).length = 2 := by
    rw [List.length_take, List.length_drop]
    omega
  rw [hfirst] at hb1
  rw [hrest] at hb2
  have hput1 := putBlock_eq (a := []) (show ((m.drop 2).take 2).length ≤ 4 + n by omega)
    (by rw [hrestLen]; exact hb2)
  have hput2 := putAll_eq (a := (m.drop 2).take 2) (show ((m.drop 4).take n).length ≤ 4 + n - 2 by omega)
    (by rw [hcmdLen]; exact hget)
  rw [hrestLen] at hput1
  simp only [List.nil_append, List.length_nil] at hput1
  -- the bytes that are summed up, cut as the objects cut them
  have hcut : (m.take (5 + n)).drop 2 = (m.drop 2).take 2 ++ (m.drop 4).take n ++ [m.getD (4 + n) 0] := by
    have hlast : (m.drop (4 + n)).take 1 = [m.getD (4 + n) 0] := by
      have hlt : 4 + n < m.length := by omega
      rw [List.getD_eq_getElem _ _ hlt, List.take_one_drop_eq_of_lt_length hlt]
      rfl
    have hsum : 5 + n - 2 = 2 + n + 1 := by omega
    rw [List.drop_take, hsum, List.take_add, List.take_add, List.drop_drop, List.drop_drop, ← hlast,
      ← Nat.add_assoc]
  have hsum1 : ipmiChecksum [rqAddr, m.getD 0 0] = m.getD 1 0 ↔ rqAddr + m.getD 0 0 + m.getD 1 0 = 0 := by
    rw [ipmiChecksum_eq_iff, List.sum_cons, List.sum_singleton]
  have hsum2 : ipmiChecksum ((m.drop 2).take 2 ++ (m.drop 4).take n) = m.getD (4 + n) 0 ↔
      ((m.take (5 + n)).drop 2).sum = 0 := by
    rw [ipmiChecksum_eq_iff, hcut, sum_concat]
  have hsums := responseSums_take_iff rqAddr m (show 2 ≤ 5 + n by omega)
  simp only [ipmiIpmbCheckChecksum, h.hdrOf.compare (show TemplateOk tmplIpmbMsgHdrRs by decide),
    h.trlrOf.compare (show TemplateOk tmplIpmbMsgTrlr by decide), hlenHdr, hlenCmd, h1, hb1, h2, hput1,
    hput2, ok_bind]
  have hbuf : ([rqAddr, m.getD 0 0] ++ List.replicate (4 - 1) 0).take (1 + 1) = [rqAddr, m.getD 0 0] := rfl
  rw [← List.cons_append, hbuf, List.take_left' rfl, byte_setWidth, byte_setWidth]
  by_cases hok : ipmiChecksum [rqAddr, m.getD 0 0] = m.getD 1 0
  · rw [if_neg (not_not.mpr hok.symm)]
    refine congrArg Except.ok (decide_eq_decide.mpr ?_)
    rw [eq_comm, hsum2, hsums]
    exact ⟨fun hsum => ⟨hsum1.mp hok, hsum⟩, And.right⟩
  · rw [if_pos (Ne.symm hok)]
    refine congrArg Except.ok (decide_eq_false ?_).symm
    exact fun hright => hok (hsum1.mpr (hsums.mp hright).1)

/-- A walk that gives up has not got to the trailer. -/
theorem parseIpmbMsg_unparsed (hret : parseIpmbMsg m objs = .error (.unparsed objs')) :
    objs'.msgTrlr = objs.msgTrlr := by
  have htrlrLen : orTemplateInvalid (fiidTemplateLenBytes tmplIpmbMsgTrlr) = .ok 1 := by decide
  simp only [parseIpmbMsg, htrlrLen, call_ok, ok_bind] at hret
  rcases call_bind_unparsed hret with ⟨⟨hdr, k⟩, -, hret⟩
  split at hret
  · cases hret
    rfl
  split at hret
  · cases hret
    rfl
  rcases call_bind_unparsed hret with ⟨⟨cmd, n⟩, -, hret⟩
  split at hret
  · cases hret
    rfl
  rcases call_bind_unparsed hret with ⟨⟨trlr, k⟩, -, hret⟩
  cases hret

end Parse

/-! ### A message between objects -/

/-- The bytes that `unassemble_ipmi_ipmb_msg` reads from the message object. -/
def messageIn (objIpmbMsg : FiidObj) : Except Stop (List Byte) := do
  let (bufLen, buf) ← fiidObjGetAll objIpmbMsg ipmbMaxLen
  return buf.take bufLen

theorem messageIn_of_reads {obj : FiidObj} {m : List Byte} (h : obj.Reads m)
    (hroom : m.length ≤ ipmbMaxLen) : messageIn obj = .ok m := by
  rw [messageIn, h.getAll _ hroom, ok_bind]
  exact congrArg Except.ok List.take_left

/-- The objects with which `unassemble_ipmi_ipmb_msg` can be called for a command of a template. -/
structure IpmbObjs.Passed (ndebug : Bool) (cmdTmpl : FiidTemplate) (objs : IpmbObjs) : Prop where
  msgHdr : ∃ tmpl, Reachable ndebug tmpl objs.msgHdr
  cmd : Reachable ndebug cmdTmpl objs.cmd
  msgTrlr : ∃ tmpl, Reachable ndebug tmpl objs.msgTrlr

section Unassemble
variable {ndebug : Bool} {cmdTmpl : FiidTemplate} {m : List Byte} {objIpmbMsg : FiidObj}
  {objs objs' : IpmbObjs} {flags : BitVec 32} {accepted : Bool}

theorem unassembleIpmiIpmbMsg_eq (hm : messageIn objIpmbMsg = .ok m)
    (hflags : flags &&& ~~~ ipmiInterfaceFlagsNoLegalCheck = 0) (hcmp : objs.compareTemplates = .ok ()) :
    unassembleIpmiIpmbMsg objIpmbMsg objs flags
      = report (·.accepted flags) (parseIpmbMsg m objs.clear) := by
  obtain ⟨⟨bufLen, buf⟩, hget, hbuf⟩ := bind_eq_ok.mp hm
  cases hbuf
  rw [unassembleIpmiIpmbMsg, if_neg (not_not.mpr hflags), hcmp, ok_bind, hget, ok_bind]

theorem IpmbObjs.Passed.cleared (h : objs.Passed ndebug cmdTmpl) (hcmp : objs.compareTemplates = .ok ()) :
    objs.clear.Cleared cmdTmpl.fields := by
  obtain ⟨_, hhdr, htrlr⟩ := bind_eq_ok.mp hcmp
  obtain ⟨_, hhdrR⟩ := h.msgHdr
  obtain ⟨_, htrlrR⟩ := h.msgTrlr
  exact ⟨(touched_clear _).of (hhdrR.wf.of_compare (by decide) hhdr), (touched_clear _).of h.cmd.wf.of,
    (touched_clear _).of (htrlrR.wf.of_compare (by decide) htrlr), unset_clear _, unset_clear _,
    unset_clear _⟩

/-- What `unassemble_ipmi_ipmb_msg` returns is what the walk over the cleared objects comes to. -/
theorem IpmbObjs.Passed.walks (h : objs.Passed ndebug cmdTmpl) (hm : messageIn objIpmbMsg = .ok m)
    (hret : unassembleIpmiIpmbMsg objIpmbMsg objs flags = .ok (accepted, objs')) :
    objs.clear.Cleared cmdTmpl.fields ∧
      ((accepted = objs'.accepted flags ∧ parseIpmbMsg m objs.clear = .ok objs') ∨
        (accepted = false ∧ parseIpmbMsg m objs.clear = .error (.unparsed objs'))) := by
  have hflags : flags &&& ~~~ ipmiInterfaceFlagsNoLegalCheck = 0 := by
    by_contra hne
    rw [unassembleIpmiIpmbMsg, if_pos hne] at hret
    cases hret
  have hcmp : objs.compareTemplates = .ok () := by
    rw [unassembleIpmiIpmbMsg, if_neg (not_not.mpr hflags)] at hret
    obtain ⟨_, hcmp, -⟩ := bind_eq_ok.mp hret
    exact hcmp
  rw [unassembleIpmiIpmbMsg_eq hm hflags hcmp] at hret
  refine ⟨h.cleared hcmp, ?_⟩
  cases hparse : parseIpmbMsg m objs.clear with
  | ok objs₁ =>
    rw [hparse] at hret
    cases hret
    exact Or.inl ⟨rfl, rfl⟩
  | error exit =>
    rw [hparse] at hret
    cases exit with
    | fail e => cases hret
    | unparsed objs₁ =>
      cases hret
      exact Or.inr ⟨rfl, rfl⟩

/-- The message is cut and judged, or the trailer is empty. -/
theorem IpmbObjs.Passed.returns (h : objs.Passed ndebug cmdTmpl) (hm : messageIn objIpmbMsg = .ok m)
    (hret : unassembleIpmiIpmbMsg objIpmbMsg objs flags = .ok (accepted, objs')) :
    (accepted = objs'.accepted flags ∧ ∃ n, IpmbParsed cmdTmpl.fields m n objs') ∨
      (accepted = false ∧ objs'.msgTrlr = fiidObjClear objs.msgTrlr) := by
  obtain ⟨hcleared, ⟨haccepted, hparse⟩ | ⟨haccepted, hparse⟩⟩ := h.walks hm hret
  · exact Or.inl ⟨haccepted, parseIpmbMsg_ok hcleared hparse⟩
  · exact Or.inr ⟨haccepted, parseIpmbMsg_unparsed hparse⟩

/-- The checks of a parsed message are those of its bytes, as far as the command has room for them. -/
theorem IpmbParsed.checked_iff {cmdFields : List FiidField} {n : ℕ} (h : IpmbParsed cmdFields m n objs)
    (rqAddr : Byte) :
    (ipmiIpmbCheckChecksum rqAddr objs.msgHdr objs.cmd objs.msgTrlr = .ok true ↔ ResponseSums rqAddr m) ↔
      8 * (m.length - 5) ≤ bitLen cmdFields ∨ rqAddr + m.getD 0 0 + m.getD 1 0 ≠ 0 ∨
        (((m.take (5 + bitLen cmdFields / 8)).drop 2).sum = 0 ↔ (m.drop 2).sum = 0) := by
  have hlong := h.long
  have hlen := h.len
  have hcheck : ipmiIpmbCheckChecksum rqAddr objs.msgHdr objs.cmd objs.msgTrlr = .ok true ↔
      ResponseSums rqAddr (m.take (5 + n)) := by
    rw [h.checkChecksum rqAddr, Except.ok.injEq, decide_eq_true_eq]
  rcases Nat.lt_or_ge (bitLen cmdFields) (8 * (m.length - 5)) with hover | hfits
  · obtain rfl : n = bitLen cmdFields / 8 := by omega
    have hwhole := responseSums_take_iff rqAddr m (show 2 ≤ m.length by omega)
    rw [List.take_length] at hwhole
    rw [hcheck, responseSums_take_iff rqAddr m (by omega), hwhole, or_iff_right (by omega)]
    by_cases hheader : rqAddr + m.getD 0 0 + m.getD 1 0 = 0
    · rw [and_iff_right hheader, and_iff_right hheader, or_iff_right (not_not.mpr hheader)]
    · exact iff_of_true (iff_of_false (fun h => hheader h.1) fun h => hheader h.1) (Or.inl hheader)
  · have hwhole : m.take (5 + n) = m := List.take_of_length_le (by omega)
    rw [hcheck, hwhole]
    exact iff_of_true Iff.rfl (Or.inl hfits)

end Unassemble

/-- Checksums of IPMB messages. A header that is filled for a request is right. A message that is put
    together has both sums exactly when its header is right and its command has at most 249 bytes, or
    when the sum happens to be 0 without the bytes that are cut off. A response that is parsed is
    checked by its bytes exactly when its command fits into the command object, or when the bytes too
    many make no difference. -/
theorem checksums_iff (ndebug : Bool) (cmdTmpl : FiidTemplate) :
    (∀ rsAddr netFn rsLun rqAddr rqLun rqSeq obj obj', (∃ tmpl, Reachable ndebug tmpl obj) →
      fillIpmbMsgHdr rsAddr netFn rsLun rqAddr rqLun rqSeq obj = .ok obj' →
      ∃ hdr, bytesOf obj' = .ok hdr ∧ (hdr.take 3).sum = 0) ∧
    (∀ objIpmbMsgHdr objCmd objIpmbMsg objIpmbMsg' flags n,
      (∃ tmpl, Reachable ndebug tmpl objIpmbMsgHdr) →
      (∃ tmpl, Reachable ndebug tmpl objIpmbMsg) →
      assembleIpmiIpmbMsg ndebug objIpmbMsgHdr objCmd objIpmbMsg flags = .ok (objIpmbMsg', n) →
      ∃ hdr cmd m, bytesOf objIpmbMsgHdr = .ok hdr ∧ cmdSent objCmd = .ok cmd ∧
        bytesOf objIpmbMsg' = .ok m ∧
        (MessageSums m ↔
          (hdr.take 3).sum = 0 ∧ (cmd.length ≤ 249 ∨ (hdr.drop 3 ++ cmd.take 250).sum = 0))) ∧
    (∀ objIpmbMsg m objs objs' flags rqAddr, objs.Passed ndebug cmdTmpl → messageIn objIpmbMsg = .ok m →
      unassembleIpmiIpmbMsg objIpmbMsg objs flags = .ok (true, objs') →
      ((ipmiIpmbCheckChecksum rqAddr objs'.msgHdr objs'.cmd objs'.msgTrlr = .ok true ↔
          ResponseSums rqAddr m) ↔
        8 * (m.length - 5) ≤ bitLen cmdTmpl.fields ∨ rqAddr + m.getD 0 0 + m.getD 1 0 ≠ 0 ∨
          (((m.take (5 + bitLen cmdTmpl.fields / 8)).drop 2).sum = 0 ↔ (m.drop 2).sum = 0))) := by
  refine ⟨?_, ?_, ?_⟩
  · rintro rsAddr netFn rsLun rqAddr rqLun rqSeq obj obj' ⟨tmpl, hr⟩ hfill
    obtain ⟨hof, hholds, hsum⟩ := fillIpmbMsgHdr_sum hr.wf hfill
    exact ⟨_, bytesOf_full hholds hof rfl, hsum⟩
  · rintro objIpmbMsgHdr objCmd objIpmbMsg objIpmbMsg' flags n ⟨tmpl, hhdr⟩ ⟨tmpl', hmsg⟩ hret
    obtain ⟨hdr, cmd, hlen, hhdrBytes, hcmd, hm⟩ := assembleIpmiIpmbMsg_ok hhdr.wf hmsg.wf hret
    exact ⟨hdr, cmd, _, hhdrBytes, hcmd, hm, messageSums_iff hlen cmd⟩
  · intro objIpmbMsg m objs objs' flags rqAddr h hm hret
    rcases h.returns hm hret with ⟨-, n, hparsed⟩ | ⟨hfalse, -⟩
    · exact hparsed.checked_iff rqAddr
    · cases hfalse

/-! ### Two messages with wrong sums -/

/-- `tmpl_cmd_cold_reset_rs`. -/
def tmplCmdColdResetRs : FiidTemplate where
  fields :=
    [⟨8, "cmd", requiredFixed ||| fiidFieldMakesPacketSufficient, .refl true⟩,
     ⟨8, "comp_code", requiredFixed ||| fiidFieldMakesPacketSufficient, .refl true⟩]

/-- The objects for the response to a cold reset. -/
def coldResetObjs : IpmbObjs where
  msgHdr := createdObj tmplIpmbMsgHdrRs 4 false
  cmd := createdObj tmplCmdColdResetRs 2 true
  msgTrlr := createdObj tmplIpmbMsgTrlr 1 false

theorem coldResetObjs_passed : coldResetObjs.Passed false tmplCmdColdResetRs where
  msgHdr := ⟨tmplIpmbMsgHdrRs, .create (by decide)⟩
  cmd := .create (by decide)
  msgTrlr := ⟨tmplIpmbMsgTrlr, .create (by decide)⟩

/-- The response of the controller at 0x82, with some bytes behind the completion code. -/
def coldResetMsg (data : List Byte) (checksum2 : Byte) : List Byte :=
  [0x1e, 0xc2, 0x82, 0x04, 0x02, 0x00] ++ data ++ [checksum2]

/-- Any message of up to 255 bytes can be in the message object. -/
theorem exists_messageIn {m : List Byte} (hlen : m.length ≤ 255) :
    ∃ objIpmbMsg, messageIn objIpmbMsg = .ok m := by
  have hcreate : fiidObjCreate false tmplIpmbMsg = some (createdObj tmplIpmbMsg 255 false) := by
    decide +kernel
  obtain ⟨objIpmbMsg, -, -, hreads⟩ := trySetAll_ipmbMsg (create_wf hcreate).of m
  rw [List.take_of_length_le hlen] at hreads
  exact ⟨objIpmbMsg, messageIn_of_reads hreads (hlen.trans (by decide))⟩

/-- A response that fits is checked by its bytes. -/
theorem checksums_iff_coldReset : ∃ objIpmbMsg objs',
    unassembleIpmiIpmbMsg objIpmbMsg coldResetObjs 0 = .ok (true, objs') ∧
      ipmiIpmbCheckChecksum 0x20 objs'.msgHdr objs'.cmd objs'.msgTrlr = .ok true := by
  obtain ⟨objIpmbMsg, hm⟩ := exists_messageIn (m := coldResetMsg [] 0x78) (by decide)
  have hret := unassembleIpmiIpmbMsg_eq hm (show (0 : BitVec 32) &&& _ = 0 by decide)
    (show coldResetObjs.compareTemplates = .ok () by decide)
  have hparse : ∃ objs', report (·.accepted 0) (parseIpmbMsg (coldResetMsg [] 0x78) coldResetObjs.clear)
      = .ok (true, objs') := ⟨_, rfl⟩
  obtain ⟨objs', hparse⟩ := hparse
  rw [hparse] at hret
  have hchecked := (checksums_iff false tmplCmdColdResetRs).2.2 objIpmbMsg _ coldResetObjs objs' 0 0x20
    coldResetObjs_passed hm hret
  exact ⟨objIpmbMsg, objs', hret, (hchecked.mpr (Or.inl (by decide))).mpr (by decide)⟩

/-- A header for a request to the FRU device of that controller. -/
def sentIpmbMsgHdr : FiidObj :=
  builtObj tmplIpmbMsgHdrRq 5 [.setAll [0x82, 0x28, 0x56, 0x20, 0x06]]

/-- The 250 bytes of the request for the FRU device. -/
theorem sentWriteFruData_reads : sentWriteFruData.Reads (0x12 :: List.replicate 249 0) := by
  have hr : Reachable false tmplCmdWriteFruDataRq sentWriteFruData := builtObj_reachable _ (by decide +kernel)
  have hvalid : fiidObjPacketValid sentWriteFruData = true := by decide +kernel
  obtain ⟨b, hreads, -⟩ := reads_of_packetValid hr.wf (hr.partAligned (by decide)) hvalid
  have hlen : fiidObjLenBytes sentWriteFruData = .ok 250 := by decide +kernel
  have hb : b.length = 250 := Except.ok.inj (hreads.lenBytes.symm.trans hlen)
  have hget : fiidObjGetAll sentWriteFruData 250 = .ok (250, 0x12 :: List.replicate 249 0) := by
    decide +kernel
  have hbytes := hreads.getAll 250 hb.le
  rw [hget, hb, Nat.sub_self, List.replicate_zero, List.append_nil] at hbytes
  cases hbytes
  exact hreads

/-- The checksum of a request of 256 bytes is cut off. A response with one byte too many has right
    checksums, and is refused. -/
theorem checksums_slips :
    (∃ objIpmbMsg' n m,
      fillIpmbMsgHdr 0x82 0x0a 0 0x20 2 1 (createdObj tmplIpmbMsgHdrRq 5 false) = .ok sentIpmbMsgHdr ∧
        assembleIpmiIpmbMsg false sentIpmbMsgHdr sentWriteFruData (createdObj tmplIpmbMsg 255 false) 0
          = .ok (objIpmbMsg', n) ∧
        bytesOf objIpmbMsg' = .ok m ∧ ¬ MessageSums m) ∧
    ∃ objIpmbMsg objs', messageIn objIpmbMsg = .ok (coldResetMsg [0xaa] 0xce) ∧
      unassembleIpmiIpmbMsg objIpmbMsg coldResetObjs 0 = .ok (true, objs') ∧
      ipmiIpmbCheckChecksum 0x20 objs'.msgHdr objs'.cmd objs'.msgTrlr = .ok false ∧
      ResponseSums 0x20 (coldResetMsg [0xaa] 0xce) := by
  constructor
  · have hcreate : fiidObjCreate false tmplIpmbMsg = some (createdObj tmplIpmbMsg 255 false) := by
      decide +kernel
    have hr : Reachable false tmplIpmbMsgHdrRq sentIpmbMsgHdr := builtObj_reachable _ (by decide)
    have hmsg := create_wf hcreate
    have hreads := sentWriteFruData_reads
    obtain ⟨⟨objIpmbMsg', n⟩, hret, -⟩ := assembleIpmiIpmbMsg_returns false hr.wf.of hmsg.of
      (show fiidObjPacketValid sentIpmbMsgHdr = true by decide)
      (show fiidObjPacketValid sentWriteFruData = true by decide +kernel) hreads (by decide +kernel)
    obtain ⟨hdr, cmd, hlen, hhdr, hcmd, hbytes⟩ := assembleIpmiIpmbMsg_ok hr.wf hmsg hret
    rw [cmdSent_of_reads hreads (by decide +kernel)] at hcmd
    cases hcmd
    cases (show bytesOf sentIpmbMsgHdr = .ok [0x82, 0x28, 0x56, 0x20, 0x06] from rfl).symm.trans hhdr
    refine ⟨objIpmbMsg', n, _, by decide +kernel, hret, hbytes, fun hsums => ?_⟩
    have hcut := ((messageSums_iff hlen _).mp hsums).2
    revert hcut
    decide +kernel
  · obtain ⟨objIpmbMsg, hm⟩ := exists_messageIn (m := coldResetMsg [0xaa] 0xce) (by decide)
    have hret := unassembleIpmiIpmbMsg_eq hm (show (0 : BitVec 32) &&& _ = 0 by decide)
      (show coldResetObjs.compareTemplates = .ok () by decide)
    have hparse : ∃ objs', report (·.accepted 0)
        (parseIpmbMsg (coldResetMsg [0xaa] 0xce) coldResetObjs.clear) = .ok (true, objs') ∧
        ipmiIpmbCheckChecksum 0x20 objs'.msgHdr objs'.cmd objs'.msgTrlr = .ok false := ⟨_, rfl, rfl⟩
    obtain ⟨objs', hparse, hcheck⟩ := hparse
    rw [hparse] at hret
    exact ⟨objIpmbMsg, objs', hm, hret, hcheck, by decide⟩

end FreeIpmi.Ipmb
