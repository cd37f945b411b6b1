import FreeIpmi.Fiid.SetGet

/-! The accesses of `fiid_obj_set` and `fiid_obj_get`.

    Both functions walk the bytes of a field and call `bits_extract` and `bits_merge` with positions
    they have computed. `setAccesses` and `getAccesses` list, in their order, the bytes a call indexes
    and the bit operations it performs; the call goes through them up to the first that does not return.
    For a field whose number of bytes is counted right, all of them are in range. -/

namespace FreeIpmi.Fiid
open ByteBits Calls

/-- What a call does with the data of an object. -/
inductive Access where
  | byte (i : ℕ)
  | extract (start stop : ℕ)
  | merge (start stop : ℕ)

/-- An access after which the call goes on. -/
def Access.Returns (dataLen : ℕ) : Access → Prop
  | .byte i => i < dataLen
  | .extract start stop => ∃ r, bitsExtract 0 start stop = .ok r
  | .merge start stop => ∃ r, bitsMerge 0 start stop 0 = .ok r

/-- A byte of the data, or a non-empty range of the word. -/
def Access.InRange (dataLen : ℕ) : Access → Prop
  | .byte i => i < dataLen
  | .extract start stop => start < stop ∧ stop ≤ 64
  | .merge start stop => start < stop ∧ stop ≤ 64

/-- The accesses up to the first that does not return. -/
inductive Made (dataLen : ℕ) : List Access → Access → Prop where
  | head (a : Access) (rest : List Access) : Made dataLen (a :: rest) a
  | tail {a b : Access} {rest : List Access} (h : a.Returns dataLen) (hrest : Made dataLen rest b) :
      Made dataLen (a :: rest) b

/-- A round of the byte loops: the byte, and the two ranges as `uint8_t` arguments. -/
structure SpanRound where
  byte : ℕ
  startBit : ℕ
  endBit : ℕ
  startVal : ℕ
  endVal : ℕ

/-- The rounds of both byte loops, `n` of them from round `i` on. -/
def spanRounds (bytePos used : ℕ) : ℕ → ℕ → SpanPos → List SpanRound
  | 0, _, _ => []
  | n + 1, i, p =>
    let p := p.step i used
    ⟨bytePos + i, toUInt8 p.startBitInBytePos, toUInt8 p.endBitInBytePos, toUInt8 p.startValPos,
      toUInt8 p.endValPos⟩ :: spanRounds bytePos used n (i + 1) p.next

/-- A round of `fiid_obj_set`. -/
def SpanRound.setAccesses (r : SpanRound) : List Access :=
  [.extract r.startVal r.endVal, .byte r.byte, .merge r.startBit r.endBit]

/-- A round of `fiid_obj_get`. -/
def SpanRound.getAccesses (r : SpanRound) : List Access :=
  [.byte r.byte, .extract r.startBit r.endBit, .merge r.startVal r.endVal]

/-- The rounds for a field of `fieldLen` bits at bit `start`, over more than one byte. -/
def fieldRounds (start fieldLen : ℕ) : List SpanRound :=
  let bytePos := start / 8
  let startBitInBytePos := start - bytePos * 8
  let used := bytesUsed startBitInBytePos fieldLen
  spanRounds bytePos used.toNat used.toNat 0 ⟨startBitInBytePos, 0, 0, 0, fieldLen⟩

/-- What `fiid_obj_set` does for a field of `fieldLen` bits at bit `start`. -/
def setAccesses (start fieldLen : ℕ) : List Access :=
  let bytePos := start / 8
  let startBitInBytePos := start - bytePos * 8
  if bytesUsed startBitInBytePos fieldLen > 1 then
    (fieldRounds start fieldLen).flatMap SpanRound.setAccesses
  else [.byte bytePos, .merge startBitInBytePos (endBitInByte startBitInBytePos fieldLen)]

/-- What `fiid_obj_get` does for a field of `fieldLen` bits at bit `start`. -/
def getAccesses (start fieldLen : ℕ) : List Access :=
  let bytePos := start / 8
  let startBitInBytePos := start - bytePos * 8
  if bytesUsed startBitInBytePos fieldLen > 1 then
    (fieldRounds start fieldLen).flatMap SpanRound.getAccesses
  else [.byte bytePos, .extract startBitInBytePos (endBitInByte startBitInBytePos fieldLen)]

/-! ### The accesses decide whether a call returns -/

section Returns
variable {data : List Byte} {bytePos used start l : ℕ}

theorem bitsExtract_returns_iff (bits : BitVec 64) (start stop : ℕ) :
    (∃ r, bitsExtract bits start stop = .ok r) ↔ start < stop ∧ stop ≤ 64 := by
  constructor
  · rintro ⟨r, hr⟩
    by_cases hlt : start < stop
    · refine ⟨hlt, ?_⟩
      by_contra hbig
      have hguard : start > stop ∨ start > 64 ∨ stop > 64 := by omega
      rw [bitsExtract, if_pos hguard] at hr
      cases hr
    · obtain ⟨e, he⟩ := bitsExtract_error bits start stop (by omega)
      rw [he] at hr
      cases hr
  · rintro ⟨hlt, hle⟩
    obtain ⟨r, hr, -⟩ := bitsExtract_spec bits start stop hlt hle
    exact ⟨r, hr⟩

theorem bitsMerge_returns_iff (bits val : BitVec 64) (start stop : ℕ) :
    (∃ r, bitsMerge bits start stop val = .ok r) ↔
      start ≤ stop ∧ stop ≤ 64 ∧ start < 64 ∧ stop - start < 64 := by
  constructor
  · rintro ⟨r, hr⟩
    by_cases hguard : start > stop ∨ start > 64 ∨ stop > 64
    · rw [bitsMerge, if_pos hguard] at hr
      cases hr
    · by_cases hshift : 64 ≤ stop - start ∨ 64 ≤ start
      · rw [bitsMerge, if_neg hguard, if_pos hshift] at hr
        cases hr
      · omega
  · rintro ⟨hle, hstop, hstart, hlen⟩
    obtain ⟨r, hr, -⟩ := bitsMerge_spec bits val start stop hle hstart hstop hlen
    exact ⟨r, hr⟩

theorem Access.extract_returns (dataLen : ℕ) (bits : BitVec 64) (start stop : ℕ) :
    (Access.extract start stop).Returns dataLen ↔
      ∃ r, orInternalError (bitsExtract bits start stop) = .ok r := by
  rw [Access.Returns, bitsExtract_returns_iff, ← bitsExtract_returns_iff bits]
  cases bitsExtract bits start stop with
  | error e => cases e <;> simp [orInternalError]
  | ok x => simp [orInternalError]

theorem Access.merge_returns (dataLen : ℕ) (bits val : BitVec 64) (start stop : ℕ) :
    (Access.merge start stop).Returns dataLen ↔
      ∃ r, orInternalError (bitsMerge bits start stop val) = .ok r := by
  rw [Access.Returns, bitsMerge_returns_iff, ← bitsMerge_returns_iff bits val]
  cases bitsMerge bits start stop val with
  | error e => cases e <;> simp [orInternalError]
  | ok x => simp [orInternalError]

theorem Access.byte_returns (data : List Byte) (i : ℕ) :
    (Access.byte i).Returns data.length ↔ ∃ b, readByte data i = .ok b := by
  rw [Access.Returns, readByte]
  by_cases h : i < data.length
  · simp [h]
  · simp [h]

/-- A sequence of two calls returns when both do. -/
theorem bind_returns_iff {α β : Type} {x : Except Stop α} {f : α → Except Stop β} {p q : Prop}
    (hx : p ↔ ∃ a, x = .ok a) (hf : ∀ a, x = .ok a → (q ↔ ∃ b, f a = .ok b)) :
    (∃ b, (x >>= f) = .ok b) ↔ p ∧ q := by
  constructor
  · rintro ⟨b, hb⟩
    obtain ⟨a, ha, hfa⟩ := bind_eq_ok.mp hb
    exact ⟨hx.mpr ⟨a, ha⟩, (hf a ha).mpr ⟨b, hfa⟩⟩
  · rintro ⟨hp, hq⟩
    obtain ⟨a, ha⟩ := hx.mp hp
    obtain ⟨b, hb⟩ := (hf a ha).mp hq
    exact ⟨b, bind_eq_ok.mpr ⟨a, ha, hb⟩⟩

theorem setLoop_returns_iff (val : BitVec 64) : ∀ (n i : ℕ) (p : SpanPos) (data : List Byte),
    (∃ d, setLoop val bytePos used n i p data = .ok d) ↔
      ∀ a ∈ (spanRounds bytePos used n i p).flatMap SpanRound.setAccesses, a.Returns data.length
  | 0, i, p, data => by simp [setLoop, spanRounds]
  | n + 1, i, p, data => by
    simp only [spanRounds, List.flatMap_cons, SpanRound.setAccesses, List.cons_append,
      List.nil_append, List.forall_mem_cons]
    rw [setLoop]
    refine bind_returns_iff (Access.extract_returns _ val _ _) fun x _ => Iff.symm ?_
    refine bind_returns_iff (Access.byte_returns data _) fun old _ => Iff.symm ?_
    refine bind_returns_iff (Access.merge_returns _ _ x _ _) fun m _ => Iff.symm ?_
    rw [setLoop_returns_iff val n, List.length_set]

theorem getLoop_returns_iff : ∀ (n i : ℕ) (p : SpanPos) (v : BitVec 64),
    (∃ v', getLoop data bytePos used n i p v = .ok v') ↔
      ∀ a ∈ (spanRounds bytePos used n i p).flatMap SpanRound.getAccesses, a.Returns data.length
  | 0, i, p, v => by simp [getLoop, spanRounds]
  | n + 1, i, p, v => by
    simp only [spanRounds, List.flatMap_cons, SpanRound.getAccesses, List.cons_append,
      List.nil_append, List.forall_mem_cons]
    rw [getLoop]
    refine bind_returns_iff (Access.byte_returns data _) fun old _ => Iff.symm ?_
    refine bind_returns_iff (Access.extract_returns _ _ _ _) fun x _ => Iff.symm ?_
    refine bind_returns_iff (Access.merge_returns _ v x _ _) fun m _ => Iff.symm ?_
    exact getLoop_returns_iff n (i + 1) _ m

/-- `fiid_obj_set` gets to its end exactly when every access returns. -/
theorem storeBits_returns_iff (data : List Byte) (start l : ℕ) (val : BitVec 64) :
    (∃ d, storeBits data start l val = .ok d) ↔
      ∀ a ∈ setAccesses start l, a.Returns data.length := by
  simp only [storeBits, setAccesses, fieldRounds]
  split_ifs with hmany
  · exact setLoop_returns_iff val _ _ _ data
  · rw [List.forall_mem_cons, List.forall_mem_singleton]
    refine bind_returns_iff (Access.byte_returns data _) fun old _ => ?_
    refine (Access.merge_returns _ (old.setWidth 64) val _ _).trans ?_
    cases orInternalError (bitsMerge (old.setWidth 64) (start - start / 8 * 8)
      (endBitInByte (start - start / 8 * 8) l) val) <;> simp

/-- `fiid_obj_get` gets to its end exactly when every access returns. -/
theorem loadBits_returns_iff (data : List Byte) (start l : ℕ) :
    (∃ v, loadBits data start l = .ok v) ↔
      ∀ a ∈ getAccesses start l, a.Returns data.length := by
  simp only [loadBits, getAccesses, fieldRounds]
  split_ifs with hmany
  · exact getLoop_returns_iff _ _ _ 0
  · rw [List.forall_mem_cons, List.forall_mem_singleton]
    refine bind_returns_iff (Access.byte_returns data _) fun old _ => ?_
    exact Access.extract_returns _ (old.setWidth 64) _ _

end Returns

/-! ### The span of a field -/

/-- The bytes counted for a field of `l` bits at bit `start`. -/
def InSpan (start l i : ℕ) : Prop :=
  (start / 8 : ℕ) ≤ (i : ℤ) ∧ (i : ℤ) < (start / 8 : ℕ) + bytesUsed (start - start / 8 * 8 : ℕ) l

/-- Byte `i` holds a bit of the field. -/
def Overlaps (start l i : ℕ) : Prop := 8 * i < start + l ∧ start < 8 * (i + 1)

/-- The bytes counted are those of the field, and every access that is made is in range. -/
structure SpanSound (dataLen start l : ℕ) (accesses : List Access) : Prop where
  covers : ∀ i, InSpan start l i ↔ Overlaps start l i
  made : ∀ a, Made dataLen accesses a → a.InRange dataLen

/-- The bytes of a field that starts at bit `s` of its first byte and has length `l` are counted
    right. -/
def SpanExact (s l : ℕ) : Prop := ¬ SpanOver s l ∧ spanLost s l = 0

instance (s l : ℕ) : Decidable (SpanExact s l) := by unfold SpanExact; infer_instance

section Sound
variable {start l dataLen bytePos used s : ℕ}

/-- Where the span covers the bytes of the field, they are counted right. -/
theorem spanExact_of_covers (hl : 0 < l) (h : ∀ i, InSpan start l i ↔ Overlaps start l i) :
    SpanExact (start % 8) l := by
  have hmod : start % 8 < 8 := Nat.mod_lt _ (by norm_num)
  have hover : ¬ SpanOver (start % 8) l := by
    intro hover
    obtain ⟨u, hu, hu2, hlong, -⟩ := bytesUsed_over hmod hover
    -- the last byte counted lies behind the field
    have hin : InSpan start l (start / 8 + (u - 1)) := by
      rw [InSpan, start_sub, hu]
      omega
    have hlast := ((h _).mp hin).1
    omega
  refine ⟨hover, ?_⟩
  by_contra hne
  obtain ⟨u, hu, -, hcut⟩ := bytesUsed_reach hmod hl hover
  obtain ⟨hend, -⟩ := hcut (Nat.pos_of_ne_zero hne)
  have hlost := spanLost_lt hmod hl
  -- the byte behind those counted holds the top bits of the field
  have hin := (h (start / 8 + u)).mpr ⟨by omega, by omega⟩
  rw [InSpan, start_sub, hu] at hin
  omega

/-- A field whose bytes are counted right. -/
theorem SpanExact.bytesUsed (h : SpanExact (start % 8) l) (hl : 0 < l) :
    ∃ u : ℕ, bytesUsed (start - start / 8 * 8 : ℕ) l = u ∧ u = (start % 8 + l + 7) / 8 := by
  obtain ⟨hover, hlost⟩ := h
  obtain ⟨u, hu, hbytes, -⟩ := bytesUsed_reach (Nat.mod_lt _ (by norm_num)) hl hover
  rw [hlost, Nat.sub_zero] at hbytes
  exact ⟨u, by rw [start_sub, hu], hbytes⟩

theorem SpanExact.covers (h : SpanExact (start % 8) l) (hl : 0 < l) (i : ℕ) :
    InSpan start l i ↔ Overlaps start l i := by
  obtain ⟨u, hu, hbytes⟩ := h.bytesUsed hl
  rw [InSpan, hu, Overlaps]
  omega

/-- Every round from the second byte on moves a non-empty range of the value to or from its byte. -/
theorem spanRounds_from {r : ℕ} (h : Reach s l used r) (hstart : start = 8 * bytePos + s) :
    ∀ (n i : ℕ) (e : ℤ), 1 ≤ i → i + n = used → ∀ q ∈ spanRounds bytePos used n i (posAt s l i e),
      q.byte < bytePos + used ∧
        ∃ hi, RoundAt start q.byte q.startBit q.endBit q.startVal q.endVal hi
  | 0, _, _, _, _, _, hq => by cases hq
  | n + 1, i, e, hi, hin, q, hq => by
    obtain ⟨hs, hle, hl, hused, hcut⟩ := id h
    by_cases hlast : i = used - 1
    · obtain rfl : n = 0 := by omega
      obtain ⟨h1, h2, h3, h4⟩ := lastPos_at (i := i) (s := s) (l := l) (by omega) hs hl
      simp only [spanRounds, step_last hi hlast hs, h1, h2, h3, h4, List.mem_singleton] at hq
      subst hq
      exact ⟨by dsimp only; omega, r, h.last hstart hi hlast⟩
    · obtain ⟨h1, h2, h3, h4⟩ := midPos_at (i := i) (s := s) (l := l) (by omega)
      simp only [spanRounds, step_mid hi hlast hs, h1, h2, h3, h4, midPos_next,
        List.mem_cons] at hq
      obtain rfl | hq := hq
      · exact ⟨by dsimp only; omega, _, h.mid hstart hi (by omega)⟩
      · exact spanRounds_from h hstart n (i + 1) 8 (by omega) (by omega) q hq

/-- All rounds of a walk over at least two bytes. -/
theorem fieldRounds_roundAt {r : ℕ} (h : Reach (start % 8) l used r)
    (hused : bytesUsed (start - start / 8 * 8 : ℕ) l = used) (htwo : 2 ≤ used) {q : SpanRound}
    (hq : q ∈ fieldRounds start l) :
    q.byte < start / 8 + used ∧
      ∃ hi, RoundAt start q.byte q.startBit q.endBit q.startVal q.endVal hi := by
  have hmod : start % 8 < 8 := Nat.mod_lt _ (by norm_num)
  have hstart : start = 8 * (start / 8) + start % 8 := (Nat.div_add_mod start 8).symm
  obtain ⟨n, rfl⟩ : ∃ n, used = n + 1 := ⟨used - 1, by omega⟩
  obtain ⟨h1, h2, h3, h4⟩ := firstPos_at (s := start % 8) (l := l) hmod
  rw [start_sub] at hused
  simp only [fieldRounds, start_sub, hused, Int.toNat_natCast, spanRounds] at hq
  rw [step_zero htwo hmod] at hq
  simp only [h1, h2, h3, h4, firstPos_next, List.mem_cons] at hq
  obtain rfl | hq := hq
  · exact ⟨by dsimp only; omega, _, h.first hstart⟩
  · exact spanRounds_from h hstart n 1 8 le_rfl (by omega) q hq

theorem RoundAt.inRange {q : SpanRound} {hi : ℕ} (hbyte : q.byte < dataLen)
    (h : RoundAt start q.byte q.startBit q.endBit q.startVal q.endVal hi) :
    (∀ a ∈ q.setAccesses, a.InRange dataLen) ∧ ∀ a ∈ q.getAccesses, a.InRange dataLen := by
  obtain ⟨-, -, hne, hword, hlen, hval, -⟩ := h
  have hbits : q.startBit < q.endBit ∧ q.endBit ≤ 64 := ⟨hne, by omega⟩
  have hvals : q.startVal < q.endVal ∧ q.endVal ≤ 64 := ⟨by omega, hval⟩
  simp only [SpanRound.setAccesses, SpanRound.getAccesses, List.forall_mem_cons, Access.InRange]
  simp [hbyte, hbits, hvals]

/-- Every access to a field whose bytes are counted right. -/
theorem SpanExact.inRange (h : SpanExact (start % 8) l) (hl : 0 < l) (hl64 : l ≤ 64)
    (hfit : start + l ≤ 8 * dataLen) :
    (∀ a ∈ setAccesses start l, a.InRange dataLen) ∧
      ∀ a ∈ getAccesses start l, a.InRange dataLen := by
  have hmod : start % 8 < 8 := Nat.mod_lt _ (by norm_num)
  obtain ⟨u, hu, hbytes⟩ := h.bytesUsed hl
  simp only [setAccesses, getAccesses]
  by_cases hone : u ≤ 1
  · have hend : endBitInByte (start - start / 8 * 8) l = start % 8 + l := by
      rw [start_sub, endBitInByte, if_neg (by omega)]
    have hbyte : start / 8 < dataLen := by omega
    have hbits : start - start / 8 * 8 < start % 8 + l ∧ start % 8 + l ≤ 64 := by omega
    rw [if_neg (by omega), if_neg (by omega), hend]
    simp [Access.InRange, hbyte, hbits]
  · have hreach : Reach (start % 8) l u l := ⟨hmod, le_rfl, hl64, hbytes, fun hlt => by omega⟩
    rw [if_pos (by omega), if_pos (by omega)]
    constructor <;> intro a ha <;> obtain ⟨q, hq, ha⟩ := List.mem_flatMap.mp ha <;>
      obtain ⟨hbyte, hi, hround⟩ := fieldRounds_roundAt hreach hu (by omega) hq
    · exact (hround.inRange (by omega)).1 a ha
    · exact (hround.inRange (by omega)).2 a ha

theorem Made.mem {accesses : List Access} {a : Access} (h : Made dataLen accesses a) :
    a ∈ accesses := by
  induction h with
  | head a rest => exact List.mem_cons_self
  | tail _ _ ih => exact List.mem_cons_of_mem _ ih

/-- The span of a field is sound exactly when its bytes are counted right. -/
theorem spanSound_set_iff (hl : 0 < l) (hl64 : l ≤ 64) (hfit : start + l ≤ 8 * dataLen) :
    SpanSound dataLen start l (setAccesses start l) ↔ SpanExact (start % 8) l :=
  ⟨fun h => spanExact_of_covers hl h.covers,
    fun h => ⟨h.covers hl, fun a ha => (h.inRange hl hl64 hfit).1 a ha.mem⟩⟩

theorem spanSound_get_iff (hl : 0 < l) (hl64 : l ≤ 64) (hfit : start + l ≤ 8 * dataLen) :
    SpanSound dataLen start l (getAccesses start l) ↔ SpanExact (start % 8) l :=
  ⟨fun h => spanExact_of_covers hl h.covers,
    fun h => ⟨h.covers hl, fun a ha => (h.inRange hl hl64 hfit).2 a ha.mem⟩⟩

end Sound

/-! ### The fields of an object -/

/-- Setting and getting field number `i`: the bytes of both calls, and no internal error. A get works
    on the bits that are set, and does nothing for a field that is not set. -/
structure FieldSound (obj : FiidObj) (field : String) (i : ℕ) (f : FiidFieldData) : Prop where
  set : SpanSound obj.data.length (obj.bitStart i) f.maxFieldLen
    (setAccesses (obj.bitStart i) f.maxFieldLen)
  setError : ∀ val, fiidObjSet obj field val ≠ .error (.fiid .internalError)
  get : f.setFieldLen ≠ 0 →
    SpanSound obj.data.length (obj.bitStart i) (min f.maxFieldLen f.setFieldLen)
      (getAccesses (obj.bitStart i) (min f.maxFieldLen f.setFieldLen))
  getError : fiidObjGet obj field ≠ .error (.fiid .internalError)

/-- On every reachable object, both calls are sound for a field of at most 64 bits exactly when the
    bytes of the field, and those of its bits that are set, are counted right. -/
theorem fieldSound_iff {ndebug : Bool} {tmpl : FiidTemplate} {obj : FiidObj}
    (hr : Reachable ndebug tmpl obj) {field : String} {i : ℕ} {f : FiidFieldData}
    (hf : FieldAt obj field i f) (hlen : f.maxFieldLen ≤ 64) :
    FieldSound obj field i f ↔ SpanExact (obj.bitStart i % 8) f.maxFieldLen ∧
      (f.setFieldLen ≠ 0 →
        SpanExact (obj.bitStart i % 8) (min f.maxFieldLen f.setFieldLen)) := by
  have hpos := f.maxFieldLen_pos
  have hfit := bitStart_le hr.wf hf
  have hmin : min f.maxFieldLen 64 = f.maxFieldLen := min_eq_left hlen
  constructor
  · intro h
    exact ⟨spanExact_of_covers hpos h.set.covers,
      fun hset => spanExact_of_covers (by omega) (h.get hset).covers⟩
  · rintro ⟨hexact, hget⟩
    refine ⟨(spanSound_set_iff hpos hlen hfit).mpr hexact, fun val herr => ?_, fun hset =>
      (spanSound_get_iff (by omega) (by omega) (by omega)).mpr (hget hset), fun herr => ?_⟩
    · obtain ⟨data, v, hok, -⟩ := set_get_of_not_over hr.wf hf hlen hexact.1 val
      rw [hok] at herr
      cases herr
    · by_cases hset : f.setFieldLen = 0
      · simp only [fiidObjGet, hf.lookup, hf.setFieldLen, ok_bind, if_pos hset] at herr
        cases herr
      · have hle : obj.bitStart i + min f.maxFieldLen f.setFieldLen ≤ 8 * obj.data.length := by omega
        obtain ⟨v, hv, -⟩ := loadBits_spec (by omega) (by omega) hle (hget hset).1
        rw [get_eq hf hset, hmin, hv] at herr
        cases herr

/-- A field of 16 bits that lies in three bytes. -/
def straddlingTmpl : FiidTemplate where
  fields := [⟨4, "head", fiidFieldRequired ||| fiidFieldLengthFixed, .refl true⟩,
    ⟨16, "middle", fiidFieldRequired ||| fiidFieldLengthFixed, .refl true⟩,
    ⟨4, "tail", fiidFieldRequired ||| fiidFieldLengthFixed, .refl true⟩]

/-- The field, with all of its bits set. -/
def straddlingField : FiidFieldData := ⟨16, "middle", 16, fiidFieldRequired ||| fiidFieldLengthFixed, Nat.succ_pos 15⟩

/-- A fresh object of these fields, and what setting the field to ABCDh leaves. -/
def freshStraddling : FiidObj where
  data := [0, 0, 0]
  fields := straddlingTmpl.fields.map FiidField.toData
  terminatorFlags := 0
  terminatorSetFieldLen := 0
  makesPacketSufficient := false

def straddlingObj : FiidObj :=
  { freshStraddling with
    data := [0xD0, 0xBC, 0x0A]
    fields := freshStraddling.fields.set 1 straddlingField }

theorem straddlingObj_reachable : Reachable false straddlingTmpl straddlingObj := by
  have hfresh : Reachable false straddlingTmpl freshStraddling := .create (by decide)
  exact .step (.set "middle" 0xABCD) hfresh (by decide)

/-- It is counted right, for setting it and for the bits that are read. -/
theorem fieldSound_straddling : FieldSound straddlingObj "middle" 1 straddlingField :=
  (fieldSound_iff straddlingObj_reachable ⟨by decide, by decide⟩ (by decide)).mpr
    ⟨by decide, fun _ => by decide⟩

/-- The middle field of the crossing template is not: two bytes are counted where three hold bits of it. -/
theorem crossing_span : ¬ ∀ (obj : FiidObj) (field : String) (i : ℕ) (f : FiidFieldData),
    Reachable false crossingTmpl obj → FieldAt obj field i f → f.maxFieldLen ≤ 64 →
      FieldSound obj field i f := by
  intro h
  have hbad := h crossingObj "middle" 1 crossingField crossingObj_reachable crossingField_at (by decide)
  have hspan := spanExact_of_covers (by decide) hbad.set.covers
  exact absurd hspan.2 (by decide)

end FreeIpmi.Fiid
