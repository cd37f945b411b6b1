import FreeIpmi.Lib.LittleEndian
import FreeIpmi.Lan.Verify

/-! The checks of single header fields of a received IPMI 1.5 packet (`util/ipmi-lan-util.c`):
    sequence number, session id, network function and sequence number of the request.

    The four are one pattern with its own test of the parameters in each. On the headers of a packet
    that `unassemble_ipmi_lan_pkt` accepts every field is there, so the answer is the comparison with
    the bytes of the packet (`Accepted.check`). -/

namespace FreeIpmi.Lan
open Fiid Calls ByteBits LittleEndian

/-! ### The checks -/

/-- `fiid_obj_valid`; `none` is any pointer that is not an object. -/
def fiidObjValid (obj : Option FiidObj) : Bool := obj.isSome

/-- `FIID_OBJ_FIELD_LOOKUP`. -/
def fiidObjFieldLookupStrict (obj : FiidObj) (field : String) : Except Stop Unit :=
  match fiidObjFieldStartEnd obj field with
  | .error _ => .error (.fiid .fieldNotFound)
  | .ok _ => .ok ()

/-- The received value: `FIID_OBJ_FIELD_LOOKUP`, then `FIID_OBJ_GET`. Both return -1 for what is not
    an object. -/
def fieldRecv (obj : Option FiidObj) (field : String) : Except Stop (BitVec 64) :=
  match obj with
  | none => .error (.errno .einval)
  | some obj => do
    fiidObjFieldLookupStrict obj field
    fiidObjGetStrict obj field

/-- The pattern of the checks, behind the test of their parameters. -/
def headerCheck {n : ℕ} (parameters : Bool) (obj : Option FiidObj) (field : String)
    (expected : BitVec n) : Except Stop Bool := do
  if !parameters then .error (.errno .einval)
  else
    let val ← fieldRecv obj field
    return val.setWidth n == expected

/-- `IPMI_NET_FN_VALID`. -/
def ipmiNetFnValid (netFn : Byte) : Bool :=
  (netFn.toNat + 1 ≥ 0x01 && netFn ≤ 0x0D) || (netFn ≥ 0x2C && netFn ≤ 0x3F)

/-- `ipmi_lan_check_session_sequence_number`. -/
def ipmiLanCheckSessionSequenceNumber (objLanSessionHdr : Option FiidObj)
    (sessionSequenceNumber : BitVec 32) : Except Stop Bool :=
  headerCheck (fiidObjValid objLanSessionHdr) objLanSessionHdr "session_sequence_number"
    sessionSequenceNumber

/-- `ipmi_lan_check_session_id`, whose test of the object is not negated. -/
def ipmiLanCheckSessionId (objLanSessionHdr : Option FiidObj) (sessionId : BitVec 32) :
    Except Stop Bool :=
  headerCheck (!fiidObjValid objLanSessionHdr) objLanSessionHdr "session_id" sessionId

/-- `ipmi_lan_check_net_fn`. -/
def ipmiLanCheckNetFn (objLanMsgHdr : Option FiidObj) (netFn : Byte) : Except Stop Bool :=
  headerCheck (fiidObjValid objLanMsgHdr && ipmiNetFnValid netFn) objLanMsgHdr "net_fn" netFn

/-- `ipmi_lan_check_rq_seq`. -/
def ipmiLanCheckRqSeq (objLanMsgHdr : Option FiidObj) (rqSeq : Byte) : Except Stop Bool :=
  headerCheck (fiidObjValid objLanMsgHdr) objLanMsgHdr "rq_seq" rqSeq

/-- The check of the session id refuses every object, and what is none it cannot read. -/
theorem ipmiLanCheckSessionId_fails (obj : Option FiidObj) (sessionId : BitVec 32) :
    ipmiLanCheckSessionId obj sessionId = .error (.errno .einval) := by
  cases obj with
  | none => rfl
  | some obj => rfl

/-! ### The fields as numbers -/

/-- A field of whole bytes is the little-endian number in them. -/
theorem toNat_valueAt {b : List Byte} {o n : ℕ} (hn : n ≤ 8) (hle : o + n ≤ b.length) :
    (valueAt b (8 * o) (8 * n)).toNat = leValue ((b.drop o).take n) := by
  have hlen : ((b.drop o).take n).length = n := by
    rw [List.length_take, List.length_drop]
    omega
  have hwin := toNat_window ((b.drop o).take n)
  rw [hlen, window_drop_take] at hwin
  have hlt := leValue_lt ((b.drop o).take n)
  have hpow : 256 ^ n ≤ 2 ^ 64 := by
    rw [show (256 : ℕ) = 2 ^ 8 from rfl, ← pow_mul]
    exact Nat.pow_le_pow_right (by norm_num) (by omega)
  rw [hlen] at hlt
  rw [valueAt, BitVec.toNat_setWidth, hwin, Nat.mod_eq_of_lt (by omega)]

/-- The six high bits of a byte. -/
theorem valueAt_high {b : List Byte} (o : ℕ) :
    valueAt b (8 * o + 2) 6 = (b.getD o 0 >>> 2).setWidth 64 := by
  refine BitVec.eq_of_getLsbD_eq fun j hj => ?_
  rw [getLsbD_valueAt _ _ _ (by norm_num), BitVec.getLsbD_setWidth, BitVec.getLsbD_ushiftRight, bit]
  by_cases hlt : j < 6
  · have hdiv : (8 * o + 2 + j) / 8 = o := by omega
    have hmod : (8 * o + 2 + j) % 8 = 2 + j := by omega
    simp [hlt, hj, hdiv, hmod]
  · have hbeyond : (b.getD o 0).getLsbD (2 + j) = false := BitVec.getLsbD_of_ge _ _ (by omega)
    rw [hbeyond, decide_eq_false hlt, Bool.false_and, Bool.and_false]

theorem valueAt_slice {b : List Byte} {o m offset len : ℕ} (h : offset + len ≤ 8 * m) :
    valueAt ((b.drop o).take m) offset len = valueAt b (8 * o + offset) len := by
  have hwin : window ((b.drop o).take m) offset len = window b (8 * o + offset) len := by
    refine window_congr fun k hk => ?_
    rw [bit_take (by omega), bit_drop]
    congr 1
    omega
  rw [valueAt, valueAt, hwin]

/-! ### The headers of an accepted packet -/

/-- The sequence number of the session in a packet. -/
def sessionSequenceNumberAt (pkt : List Byte) : BitVec 32 := BitVec.ofNat 32 (leValue ((pkt.drop 5).take 4))

def sessionIdAt (pkt : List Byte) : BitVec 32 := BitVec.ofNat 32 (leValue ((pkt.drop 9).take 4))

/-- The bytes of the message header lie behind the authentication code, if there is one. -/
def netFnAt (pkt : List Byte) : Byte := pkt.getD (15 + codeLen (authenticationTypeAt pkt)) 0 >>> 2

def rqSeqAt (pkt : List Byte) : Byte := pkt.getD (18 + codeLen (authenticationTypeAt pkt)) 0 >>> 2

/-- The check answers for every expected value, and with the comparison. -/
def Exact {n : ℕ} (check : BitVec n → Except Stop Bool) (value : BitVec n) : Prop :=
  ∀ expected, check expected = .ok (value == expected)

/-- A field that can be looked up and read is compared. -/
theorem headerCheck_eq {n : ℕ} {obj : FiidObj} {fields : List FiidField} {lens : List ℕ} {b : List Byte}
    {field : String} {offset len : ℕ} (h : obj.Holds lens b) (hof : obj.Of fields)
    (hplace : valuePlace fields lens field = some (offset, len)) (expected : BitVec n) :
    headerCheck true (some obj) field expected
      = .ok ((valueAt b offset len).setWidth n == expected) := by
  obtain ⟨i, hi, -⟩ : ∃ i, fields.findIdx? (fun f => f.key = field) = some i ∧ True := by
    simp only [valuePlace, Option.bind_eq_bind, Option.bind_eq_some_iff] at hplace
    obtain ⟨i, hi, -⟩ := hplace
    exact ⟨i, hi, trivial⟩
  obtain ⟨f, hf⟩ := fieldAt_of_tmpl hof hi
  simp only [headerCheck, fieldRecv, fiidObjFieldLookupStrict, hf.startEnd, ok_bind,
    h.getStrict hof hplace, Bool.not_true, Bool.false_eq_true, if_false]
  rfl

/-- The headers of a packet that `unassemble_ipmi_lan_pkt` accepts hold its bytes. -/
structure Accepted (pkt : List Byte) (objs : LanObjs) : Prop where
  long : 20 + codeLen (authenticationTypeAt pkt) < pkt.length
  sessionOf : objs.sessionHdr.Of tmplLanSessionHdr.fields
  session : objs.sessionHdr.Holds (sessionLens (authenticationTypeAt pkt))
    ((pkt.drop 4).take (10 + codeLen (authenticationTypeAt pkt)))
  msgOf : objs.msgHdr.Of tmplLanMsgHdrRs.fields
  msg : objs.msgHdr.Holds msgHdrLens ((pkt.drop (14 + codeLen (authenticationTypeAt pkt))).take 5)

section Accepted
variable {ndebug : Bool} {cmdTmpl : FiidTemplate} {objs objs' : LanObjs} {pkt : List Byte}
  {flags : BitVec 32}

theorem LanObjs.Passed.accepted (h : objs.Passed ndebug cmdTmpl)
    (hret : unassembleIpmiLanPkt pkt objs flags = .ok (true, objs')) : Accepted pkt objs' := by
  obtain ⟨hflags, hal⟩ := h.of_returns hret
  obtain ⟨accepted, w, hcall, hw⟩ := h.returns hflags hal
  rw [hret] at hcall
  cases hcall
  rcases hw with ⟨n, hw, -⟩ | ⟨-, hacc⟩
  · have hc := hw.contents
    exact ⟨hw.reaches.2, hw.walked.sessionHdr, hc.sessionHdr, hw.walked.msgHdr, hc.msgHdr⟩
  · cases hacc

theorem Accepted.sessionSequenceNumber (h : Accepted pkt objs) :
    Exact (ipmiLanCheckSessionSequenceNumber (some objs.sessionHdr)) (sessionSequenceNumberAt pkt) := by
  intro expected
  have hlong := h.long
  have hplace : valuePlace tmplLanSessionHdr.fields (sessionLens (authenticationTypeAt pkt))
      "session_sequence_number" = some (8, 32) := rfl
  have hval := toNat_valueAt (n := 4) (o := 5) (b := pkt) (by norm_num) (by omega)
  have hcheck := headerCheck_eq h.session h.sessionOf hplace expected
  rw [valueAt_slice (by omega)] at hcheck
  rw [ipmiLanCheckSessionSequenceNumber, fiidObjValid, Option.isSome_some, hcheck,
    sessionSequenceNumberAt, ← hval, BitVec.ofNat_toNat]

theorem Accepted.netFn (h : Accepted pkt objs) (expected : Byte) :
    ipmiLanCheckNetFn (some objs.msgHdr) expected
      = if ipmiNetFnValid expected then .ok (netFnAt pkt == expected) else .error (.errno .einval) := by
  have hplace : valuePlace tmplLanMsgHdrRs.fields msgHdrLens "net_fn" = some (10, 6) := rfl
  have hcheck := headerCheck_eq h.msg h.msgOf hplace expected
  rw [valueAt_slice (by omega), show 8 * (14 + codeLen (authenticationTypeAt pkt)) + 10
    = 8 * (15 + codeLen (authenticationTypeAt pkt)) + 2 by omega, valueAt_high,
    byte_setWidth] at hcheck
  rw [ipmiLanCheckNetFn, fiidObjValid, Option.isSome_some, Bool.true_and]
  by_cases hvalid : ipmiNetFnValid expected = true
  · rw [if_pos hvalid, hvalid, hcheck, netFnAt]
  · rw [if_neg hvalid]
    simp [headerCheck, hvalid]

theorem Accepted.rqSeq (h : Accepted pkt objs) :
    Exact (ipmiLanCheckRqSeq (some objs.msgHdr)) (rqSeqAt pkt) := by
  intro expected
  have hplace : valuePlace tmplLanMsgHdrRs.fields msgHdrLens "rq_seq" = some (34, 6) := rfl
  have hcheck := headerCheck_eq h.msg h.msgOf hplace expected
  rw [valueAt_slice (by omega), show 8 * (14 + codeLen (authenticationTypeAt pkt)) + 34
    = 8 * (18 + codeLen (authenticationTypeAt pkt)) + 2 by omega, valueAt_high,
    byte_setWidth] at hcheck
  rw [ipmiLanCheckRqSeq, fiidObjValid, Option.isSome_some, hcheck, rqSeqAt]

/-- After a parse that returns 1 the sequence numbers are compared exactly, and the network function is
    for every expected value that is one. -/
theorem checks_exact (h : objs.Passed ndebug cmdTmpl)
    (hret : unassembleIpmiLanPkt pkt objs flags = .ok (true, objs')) :
    Exact (ipmiLanCheckSessionSequenceNumber (some objs'.sessionHdr)) (sessionSequenceNumberAt pkt) ∧
      (∀ netFn, ipmiLanCheckNetFn (some objs'.msgHdr) netFn
        = if ipmiNetFnValid netFn then .ok (netFnAt pkt == netFn) else .error (.errno .einval)) ∧
      Exact (ipmiLanCheckRqSeq (some objs'.msgHdr)) (rqSeqAt pkt) := by
  have hacc := h.accepted hret
  exact ⟨hacc.sessionSequenceNumber, hacc.netFn, hacc.rqSeq⟩

end Accepted

theorem checks_exact_vlanId : ∃ objs', unassembleIpmiLanPkt vlanIdPkt vlanIdObjs 0 = .ok (true, objs') ∧
    ipmiLanCheckNetFn (some objs'.msgHdr) 0x0D = .ok true := by
  have hexact := checks_exact vlanIdObjs_passed
    (show unassembleIpmiLanPkt vlanIdPkt vlanIdObjs 0 = .ok (true, _) from rfl)
  refine ⟨_, rfl, ?_⟩
  rw [hexact.2.1]
  decide

/-- The response with a network function that is not in use, 0x10. -/
def reservedNetFnPkt : List Byte := vlanIdPkt.set 15 0x40

/-- The expected value that is in the packet is refused. -/
theorem reservedNetFn_refused : ∃ objs',
    unassembleIpmiLanPkt reservedNetFnPkt vlanIdObjs 0 = .ok (true, objs') ∧
      netFnAt reservedNetFnPkt = 0x10 ∧
      ipmiLanCheckNetFn (some objs'.msgHdr) 0x10 = .error (.errno .einval) ∧
      ¬ (Exact (ipmiLanCheckSessionSequenceNumber (some objs'.sessionHdr))
            (sessionSequenceNumberAt reservedNetFnPkt) ∧
          Exact (ipmiLanCheckSessionId (some objs'.sessionHdr)) (sessionIdAt reservedNetFnPkt) ∧
          Exact (ipmiLanCheckNetFn (some objs'.msgHdr)) (netFnAt reservedNetFnPkt) ∧
          Exact (ipmiLanCheckRqSeq (some objs'.msgHdr)) (rqSeqAt reservedNetFnPkt)) := by
  refine ⟨_, rfl, by decide, rfl, ?_⟩
  rintro ⟨-, -, hnetFn, -⟩
  have hans := hnetFn 0x10
  cases hans

end FreeIpmi.Lan
