import FreeIpmi.Fiid.Run

/-! `fiid_obj_set` followed by `fiid_obj_get`.

    On every object of every template, storing a value in a field of at most 64 bits and reading it
    back works exactly when the number of bytes that both functions compute for the field is right,
    or when it is one too small and the bits beyond it are 0 anyway. -/

namespace FreeIpmi.Fiid
open ByteBits Calls

/-- The low `n` bits of a value. -/
def lowBits (val : BitVec 64) (n : ℕ) : BitVec 64 := BitVec.ofNat 64 (val.toNat % 2 ^ n)

theorem getLsbD_lowBits (val : BitVec 64) (n j : ℕ) :
    (lowBits val n).getLsbD j = (decide (j < n) && val.getLsbD j) := by
  rw [lowBits, BitVec.getLsbD_ofNat, Nat.testBit_mod_two_pow]
  by_cases hj : j < 64
  · simp [hj, BitVec.getLsbD]
  · simp [hj, BitVec.getLsbD_of_ge val j (by omega)]

/-- Setting field number `i` to `val` succeeds, a following get returns `val` cut to the length of the
    field, the bits of the field are those of `val`, and nothing else changes. -/
def SetsAndGets (obj : FiidObj) (field : String) (i : ℕ) (f : FiidFieldData) (val : BitVec 64) : Prop :=
  ∃ obj', fiidObjSet obj field val = .ok obj' ∧
    fiidObjGet obj' field = .ok (some (lowBits val f.maxFieldLen)) ∧
    (∀ j < f.maxFieldLen, bit obj'.data (obj.bitStart i + j) = val.getLsbD j) ∧
    obj'.data.length = obj.data.length ∧
    (∀ q, q < obj.bitStart i ∨ obj.bitStart i + f.maxFieldLen ≤ q → bit obj'.data q = bit obj.data q) ∧
    obj'.fields = obj.fields.modify i (fun g => { g with setFieldLen := f.maxFieldLen })

/-- The bits of field number `i` that lie behind the bytes counted for it (if any) are 0 in `val` and
    in the object. -/
def LostBitsZero (obj : FiidObj) (i : ℕ) (f : FiidFieldData) (val : BitVec 64) : Prop :=
  ∀ j, f.maxFieldLen - spanLost (obj.bitStart i % 8) f.maxFieldLen ≤ j → j < f.maxFieldLen →
    val.getLsbD j = false ∧ bit obj.data (obj.bitStart i + j) = false

section SetGet
variable {tmpl : FiidTemplate} {obj : FiidObj} {field : String} {i : ℕ} {f : FiidFieldData}

/-- `fiid_obj_get` on a field that is set. -/
theorem get_eq (hf : FieldAt obj field i f) (hset : f.setFieldLen ≠ 0) :
    fiidObjGet obj field = (do
      let val ← loadBits obj.data (obj.bitStart i) (min (min f.maxFieldLen 64) f.setFieldLen)
      return some val) := by
  simp only [fiidObjGet, hf.lookup, hf.setFieldLen, hf.startEnd, ok_bind, if_neg hset, dataLen_eq_min]

/-- After a set the name still stands for the same field, now set completely. -/
theorem FieldAt.setFieldLenAt (hf : FieldAt obj field i f) (data : List Byte) (len : ℕ) :
    FieldAt ({ obj with data := data }.setFieldLenAt i len) field i { f with setFieldLen := len } := by
  refine ⟨?_, ?_⟩
  · rw [← hf.index]
    exact findIdx?_congr field (map_toField_modify _ _ _)
  · simp only [FiidObj.setFieldLenAt, List.getElem?_modify, hf.entry, if_true]
    rfl

theorem bitStart_setFieldLenAt (obj : FiidObj) (data : List Byte) (i len k : ℕ) :
    ({ obj with data := data }.setFieldLenAt i len).bitStart k = obj.bitStart k :=
  maxLen_take_congr (map_toField_modify _ _ _) k

/-- Where the bytes are not counted too many, a set stores and a get reads all but the lost bits. -/
theorem set_get_of_not_over (hwf : obj.Wf tmpl) (hf : FieldAt obj field i f)
    (hlen : f.maxFieldLen ≤ 64) (hover : ¬ SpanOver (obj.bitStart i % 8) f.maxFieldLen)
    (val : BitVec 64) : ∃ data v,
      fiidObjSet obj field val = .ok ({ obj with data := data }.setFieldLenAt i f.maxFieldLen) ∧
      fiidObjGet ({ obj with data := data }.setFieldLenAt i f.maxFieldLen) field = .ok (some v) ∧
      Stored val (obj.bitStart i) 0 (f.maxFieldLen - spanLost (obj.bitStart i % 8) f.maxFieldLen)
        obj.data data ∧
      ∀ j, v.getLsbD j = (decide (j < f.maxFieldLen - spanLost (obj.bitStart i % 8) f.maxFieldLen) &&
        bit data (obj.bitStart i + j)) := by
  have hpos := f.maxFieldLen_pos
  have hmin : min f.maxFieldLen 64 = f.maxFieldLen := min_eq_left hlen
  have hfit := bitStart_le hwf hf
  obtain ⟨data, hdata, hstored⟩ := storeBits_spec val hpos hlen hfit hover
  have hfit' : obj.bitStart i + f.maxFieldLen ≤ 8 * data.length := by rw [hstored.1]; exact hfit
  obtain ⟨v, hv, hvbits⟩ := loadBits_spec hpos hlen hfit' hover
  refine ⟨data, v, (set_ok_iff hf).mpr ⟨data, by rw [hmin, hdata], by rw [hmin]⟩, ?_, hstored, hvbits⟩
  rw [get_eq (hf.setFieldLenAt data f.maxFieldLen) hpos.ne', bitStart_setFieldLenAt]
  show (loadBits data (obj.bitStart i) (min (min f.maxFieldLen 64) f.maxFieldLen) >>= _) = _
  rw [hmin, min_self, hv]
  rfl

theorem not_spanOver_of_set (hf : FieldAt obj field i f) (hlen : f.maxFieldLen ≤ 64)
    {val : BitVec 64} {obj' : FiidObj} (h : fiidObjSet obj field val = .ok obj') :
    ¬ SpanOver (obj.bitStart i % 8) f.maxFieldLen := by
  intro hover
  obtain ⟨data, hdata, -⟩ := (set_ok_iff hf).mp h
  obtain ⟨e, he⟩ : ∃ e, storeBits obj.data (obj.bitStart i) f.maxFieldLen val = .error e :=
    storeBits_over val hlen hover
  rw [min_eq_left hlen, he] at hdata
  cases hdata

theorem setsAndGets_iff (hwf : obj.Wf tmpl) (hf : FieldAt obj field i f) (hlen : f.maxFieldLen ≤ 64)
    (val : BitVec 64) : SetsAndGets obj field i f val ↔
      ¬ SpanOver (obj.bitStart i % 8) f.maxFieldLen ∧ LostBitsZero obj i f val := by
  constructor
  · rintro ⟨obj', hset', hget', hbits, -, -, -⟩
    have hover := not_spanOver_of_set hf hlen hset'
    obtain ⟨data, v, hset, hget, hstored, hv⟩ := set_get_of_not_over hwf hf hlen hover val
    obtain rfl := Except.ok.inj (hset.symm.trans hset')
    obtain rfl : v = lowBits val f.maxFieldLen :=
      Option.some.inj (Except.ok.inj (hget.symm.trans hget'))
    refine ⟨hover, fun j hj hjlt => ?_⟩
    have hval : val.getLsbD j = false := by
      have hvj := hv j
      rw [getLsbD_lowBits, decide_eq_true hjlt, decide_eq_false (by omega)] at hvj
      simpa using hvj
    -- the set has not touched the lost bits, and they are those of the value
    have hkeep : bit data (obj.bitStart i + j) = bit obj.data (obj.bitStart i + j) := by
      rw [hstored.2, if_neg (by omega)]
    exact ⟨hval, by rw [← hkeep, ← hval]; exact hbits j hjlt⟩
  · rintro ⟨hover, hzero⟩
    obtain ⟨data, v, hset, hget, hstored, hv⟩ := set_get_of_not_over hwf hf hlen hover val
    have hbits : ∀ j < f.maxFieldLen, bit data (obj.bitStart i + j) = val.getLsbD j := by
      intro j hj
      rw [hstored.2]
      split_ifs with hin
      · rw [Nat.add_sub_cancel_left]
      · obtain ⟨h1, h2⟩ := hzero j (by omega) hj
        rw [h1, h2]
    have heq : v = lowBits val f.maxFieldLen := by
      refine BitVec.eq_of_getLsbD_eq fun j _ => ?_
      rw [hv, getLsbD_lowBits]
      by_cases hj : j < f.maxFieldLen
      · rw [hbits j hj]
        by_cases hreach : j < f.maxFieldLen - spanLost (obj.bitStart i % 8) f.maxFieldLen
        · simp [hj, hreach]
        · simp [hreach, (hzero j (by omega) hj).1]
      · have hreach : ¬ j < f.maxFieldLen - spanLost (obj.bitStart i % 8) f.maxFieldLen := by omega
        simp [hj, hreach]
    refine ⟨_, hset, by rw [hget, heq], hbits, hstored.1, fun q hq => ?_, rfl⟩
    show bit data q = bit obj.data q
    rw [hstored.2, if_neg (by omega)]

end SetGet

/-- On every reachable object, a field of at most 64 bits can be set and read back exactly when its
    start bit and length do not make the computed number of bytes too large, and no bit that is 1
    lies behind the bytes counted. -/
theorem fiidObjSet_get_iff {ndebug : Bool} {tmpl : FiidTemplate} {obj : FiidObj}
    (hr : Reachable ndebug tmpl obj) {field : String} {i : ℕ} {f : FiidFieldData}
    (hf : FieldAt obj field i f) (hlen : f.maxFieldLen ≤ 64) (val : BitVec 64) :
    SetsAndGets obj field i f val ↔
      ¬ SpanOver (obj.bitStart i % 8) f.maxFieldLen ∧ LostBitsZero obj i f val :=
  setsAndGets_iff hr.wf hf hlen val

/-- Whatever the value: the field must not be counted one byte too long or too short. -/
theorem setsAndGets_all_iff {tmpl : FiidTemplate} {obj : FiidObj} (hwf : obj.Wf tmpl)
    {field : String} {i : ℕ} {f : FiidFieldData} (hf : FieldAt obj field i f)
    (hlen : f.maxFieldLen ≤ 64) : (∀ val, SetsAndGets obj field i f val) ↔
      ¬ SpanOver (obj.bitStart i % 8) f.maxFieldLen ∧ spanLost (obj.bitStart i % 8) f.maxFieldLen = 0 := by
  have hmod : obj.bitStart i % 8 < 8 := Nat.mod_lt _ (by norm_num)
  have hlost := spanLost_lt hmod f.maxFieldLen_pos
  constructor
  · intro h
    obtain ⟨hover, hzero⟩ := (setsAndGets_iff hwf hf hlen (BitVec.allOnes 64)).mp (h _)
    refine ⟨hover, ?_⟩
    by_contra hne
    obtain ⟨htop, -⟩ := hzero (f.maxFieldLen - 1) (by omega) (by omega)
    rw [BitVec.getLsbD_allOnes, decide_eq_true (by omega)] at htop
    cases htop
  · rintro ⟨hover, h0⟩ val
    refine (setsAndGets_iff hwf hf hlen val).mpr ⟨hover, fun j hj hjlt => ?_⟩
    omega

/-! ### A field that crosses two byte boundaries -/

/-- Three fields of 5, 12 and 7 bits. -/
def crossingTmpl : FiidTemplate where
  fields := [⟨5, "head", fiidFieldRequired ||| fiidFieldLengthFixed, .refl true⟩,
    ⟨12, "middle", fiidFieldRequired ||| fiidFieldLengthFixed, .refl true⟩,
    ⟨7, "tail", fiidFieldRequired ||| fiidFieldLengthFixed, .refl true⟩]

/-- A fresh object of these fields. -/
def crossingObj : FiidObj where
  data := [0, 0, 0]
  fields := crossingTmpl.fields.map FiidField.toData
  terminatorFlags := 0
  terminatorSetFieldLen := 0
  makesPacketSufficient := false

theorem crossingObj_reachable : Reachable false crossingTmpl crossingObj :=
  .create (by decide)

/-- The middle field. -/
def crossingField : FiidFieldData := FiidField.toData
  ⟨12, "middle", fiidFieldRequired ||| fiidFieldLengthFixed, .refl true⟩

theorem crossingField_at : FieldAt crossingObj "middle" 1 crossingField :=
  ⟨by decide, by decide⟩

/-- The condition is met by a value without its top bit. -/
theorem fiidObjSet_get_crossing : SetsAndGets crossingObj "middle" 1 crossingField 0x7ff :=
  (fiidObjSet_get_iff crossingObj_reachable crossingField_at (by decide) 0x7ff).mpr
    ⟨by decide, by
      intro j hj hjlt
      obtain rfl : j = 11 := by
        have h1 : crossingField.maxFieldLen = 12 := rfl
        have h2 : spanLost (crossingObj.bitStart 1 % 8) crossingField.maxFieldLen = 1 := rfl
        omega
      decide⟩

/-- The top bit of the middle field is lost: the last of its three bytes is never visited. -/
theorem fiidObjSet_get_crossing_top_bit : ¬ ∀ (obj : FiidObj) (field : String) (i : ℕ)
    (f : FiidFieldData) (val : BitVec 64), Reachable false crossingTmpl obj → FieldAt obj field i f →
      f.maxFieldLen ≤ 64 → SetsAndGets obj field i f val := by
  intro h
  have hbad := h crossingObj "middle" 1 crossingField 0x800 crossingObj_reachable crossingField_at
    (by decide)
  obtain ⟨-, hzero⟩ := (setsAndGets_iff crossingObj_reachable.wf crossingField_at (by decide) _).mp hbad
  exact absurd (hzero 11 (by decide) (by decide)).1 (by decide)

end FreeIpmi.Fiid
