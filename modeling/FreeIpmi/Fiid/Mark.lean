import FreeIpmi.Fiid.Block
import FreeIpmi.Fiid.Lookup

/-! What `fiid_obj_set_all` and `fiid_obj_set_block` mark as set.

    Both search the field in which the data ends (`keyIndexEnd`), and both accept it only when the
    field itself ends on a byte boundary. `getElem?_markSet` then reads the marked fields one by
    one: complete before that field, up to the end of the data in it, as before behind it. -/

namespace FreeIpmi.Fiid
open Calls

/-! ### The search -/

/-- The search ends at a field that ends on a byte boundary, the first that the data does not run
    past. -/
theorem keyIndexEnd_ok {d : ℕ} : ∀ {fields : List FiidFieldData} {i bits k : ℕ},
    keyIndexEnd d fields i bits = .ok k → fields ≠ [] → d ≤ bits + maxLen fields →
    ∃ j, k = i + j ∧ j < fields.length ∧ d ≤ bits + maxLen (fields.take (j + 1)) ∧
      (bits + maxLen (fields.take (j + 1))) % 8 = 0 ∧ (j = 0 ∨ bits + maxLen (fields.take j) < d)
  | [], _, _, _, _, hne, _ => absurd rfl hne
  | f :: fs, i, bits, k, h, _, hd => by
    simp only [keyIndexEnd] at h
    split at h
    · rename_i hge
      split at h
      · cases h
      · rename_i hmod
        cases h
        refine ⟨0, rfl, by simp, ?_, ?_, Or.inl rfl⟩ <;>
          simp only [List.take_succ_cons, List.take_zero, maxLen_cons, maxLen_nil] <;> omega
    · rename_i hlt
      simp only [maxLen_cons] at hd
      have hne : fs ≠ [] := by
        rintro rfl
        simp only [maxLen_nil] at hd
        omega
      obtain ⟨j, rfl, hj, h1, h2, h3⟩ := keyIndexEnd_ok h hne (by omega)
      refine ⟨j + 1, by omega, by simpa using hj, ?_, ?_, Or.inr ?_⟩
      · simp only [List.take_succ_cons, maxLen_cons] at h1 ⊢
        omega
      · simp only [List.take_succ_cons, maxLen_cons] at h2 ⊢
        rw [← h2]
        congr 1
        omega
      · rcases h3 with rfl | h3
        · simp only [List.take_succ_cons, List.take_zero, maxLen_cons, maxLen_nil]
          omega
        · simp only [List.take_succ_cons, maxLen_cons]
          omega

/-- A failed search is a return of `-1`. -/
theorem keyIndexEnd_error {d : ℕ} : ∀ {fields : List FiidFieldData} {i bits : ℕ} {e : Stop},
    keyIndexEnd d fields i bits = .error e → e = .fiid .dataNotByteAligned
  | [], _, _, _, h => by cases h
  | f :: fs, i, bits, e, h => by
    simp only [keyIndexEnd] at h
    split at h
    · split at h
      · cases h; rfl
      · cases h
    · exact keyIndexEnd_error h

/-! ### The marked fields -/

/-- The length that marking gives to field number `j`. -/
def markedLen (d n bits : ℕ) (fields : List FiidFieldData) (j : ℕ) (f : FiidFieldData) : ℕ :=
  if j < n then f.maxFieldLen
  else if j = n then lastSetFieldLen d (bits + maxLen (fields.take j)) f.maxFieldLen
  else f.setFieldLen

theorem getElem?_markSet (d : ℕ) : ∀ (n bits : ℕ) (fields : List FiidFieldData) (j : ℕ),
    (markSet d n bits fields)[j]?
      = fields[j]?.map fun f => { f with setFieldLen := markedLen d n bits fields j f }
  | _, _, [], j => by simp [markSet]
  | 0, bits, f :: fs, 0 => by simp [markSet, markedLen]
  | 0, bits, f :: fs, j + 1 => by
    simp [markSet, markedLen]
  | n + 1, bits, f :: fs, 0 => by simp [markSet, markedLen]
  | n + 1, bits, f :: fs, j + 1 => by
    simp only [markSet, List.getElem?_cons_succ, getElem?_markSet d n (bits + f.maxFieldLen) fs j]
    congr 1
    funext g
    simp only [markedLen, List.take_succ_cons, maxLen_cons, Nat.add_lt_add_iff_right,
      Nat.add_right_cancel_iff, Nat.add_assoc]

theorem map_toField_markSet (d : ℕ) : ∀ (n bits : ℕ) (fields : List FiidFieldData),
    (markSet d n bits fields).map FiidFieldData.toField = fields.map FiidFieldData.toField
  | _, _, [] => by simp [markSet]
  | 0, _, _ :: _ => rfl
  | n + 1, bits, f :: fs => by
    rw [markSet, List.map_cons, map_toField_markSet d n _ fs, List.map_cons]
    rfl

theorem map_toField_markFields (obj : FiidObj) (d first last : ℕ) :
    (obj.markFields d first last).fields.map FiidFieldData.toField
      = obj.fields.map FiidFieldData.toField := by
  simp only [FiidObj.markFields, List.map_append, map_toField_markSet]
  rw [← List.map_append, List.take_append_drop]

/-- The fields before the first marked one keep their lengths, the others get `markedLen`. -/
theorem getElem?_markFields (obj : FiidObj) (d first last j : ℕ) (hfirst : first ≤ obj.fields.length) :
    (obj.markFields d first last).fields[j]? = if j < first then obj.fields[j]? else
      obj.fields[j]?.map fun f => { f with
        setFieldLen := markedLen d (last - first) 0 (obj.fields.drop first) (j - first) f } := by
  have hlen : (obj.fields.take first).length = first := by
    rw [List.length_take]; omega
  simp only [FiidObj.markFields]
  rcases Nat.lt_or_ge j first with hj | hj
  · rw [if_pos hj, List.getElem?_append_left (by omega), List.getElem?_take_of_lt hj]
  · rw [if_neg (by omega), List.getElem?_append_right (by omega), hlen, getElem?_markSet,
      List.getElem?_drop, Nat.add_sub_cancel' hj]

/-! ### Where the data ends -/

/-- The last field that `d` bits of data reach is number `n`, and it ends on a byte boundary. -/
structure EndsIn (fields : List FiidFieldData) (d n : ℕ) : Prop where
  lt : n < fields.length
  le : d ≤ maxLen (fields.take (n + 1))
  aligned : maxLen (fields.take (n + 1)) % 8 = 0
  before : n = 0 ∨ maxLen (fields.take n) < d

theorem endsIn_of_keyIndexEnd {fields : List FiidFieldData} {d i k : ℕ}
    (h : keyIndexEnd d fields i 0 = .ok k) (hne : fields ≠ []) (hd : d ≤ maxLen fields) :
    ∃ n, k = i + n ∧ EndsIn fields d n := by
  obtain ⟨n, rfl, h1, h2, h3, h4⟩ := keyIndexEnd_ok h hne (by omega)
  simp only [Nat.zero_add] at h2 h3 h4
  exact ⟨n, rfl, h1, h2, h3, h4⟩

theorem EndsIn.maxLen_take_le {fields : List FiidFieldData} {d n : ℕ} (h : EndsIn fields d n) :
    maxLen (fields.take n) ≤ d := by
  rcases h.before with rfl | hlt
  · simp
  · omega

/-- The data ends in field number `n`, or fills all the fields. -/
def EndsAt (fields : List FiidFieldData) (d n : ℕ) : Prop :=
  EndsIn fields d n ∨ (n = fields.length ∧ d = maxLen fields)

theorem dataLen_eq_min (a b : ℕ) : (if a > b then b else a) = min a b := by
  split_ifs <;> omega

/-- A successful `fiid_obj_set_all`. -/
theorem setAll_ok {obj obj' : FiidObj} {data : List Byte} {n : ℕ}
    (hdata : 8 * obj.data.length = maxLen obj.fields)
    (h : fiidObjSetAll obj data = (.ok n, obj')) :
    n = min data.length obj.data.length ∧ ∃ last, EndsAt obj.fields (n * 8) last ∧
      obj' = { obj with data := splice obj.data 0 (data.take n) }.markFields (n * 8) 0 last := by
  simp only [fiidObjSetAll, dataLen_eq_min] at h
  split at h
  · cases h
  · rename_i last hlast
    cases h
    refine ⟨rfl, last, ?_, rfl⟩
    split at hlast
    · rename_i hshort
      have hne : obj.fields ≠ [] := by
        intro hnil
        rw [hnil, maxLen_nil] at hdata
        omega
      obtain ⟨k, rfl, hk⟩ := endsIn_of_keyIndexEnd hlast hne (by omega)
      rw [Nat.zero_add]
      exact Or.inl hk
    · cases hlast
      exact Or.inr ⟨rfl, by omega⟩

/-- A failed `fiid_obj_set_all`. -/
theorem setAll_error {obj obj' : FiidObj} {data : List Byte} {e : Stop}
    (h : fiidObjSetAll obj data = (.error e, obj')) :
    obj' = obj ∧ e = .fiid .dataNotByteAligned := by
  simp only [fiidObjSetAll, dataLen_eq_min] at h
  split at h
  · rename_i hlast
    cases h
    refine ⟨rfl, ?_⟩
    split at hlast
    · exact keyIndexEnd_error hlast
    · cases hlast
  · cases h

/-! ### Blocks -/

/-- The two names bound a block of whole bytes. -/
structure BlockAt (obj : FiidObj) (fieldStart fieldEnd : String) (first last : ℕ) : Prop where
  start : ∃ f, FieldAt obj fieldStart first f
  stop : ∃ g, FieldAt obj fieldEnd last g
  le : first ≤ last
  startAligned : obj.bitStart first % 8 = 0
  endAligned : obj.bitStart (last + 1) % 8 = 0

theorem maxLen_take_add (fields : List FiidFieldData) (i k : ℕ) :
    maxLen (fields.take (i + k)) = maxLen (fields.take i) + maxLen ((fields.drop i).take k) := by
  rw [List.take_add, maxLen_append]

theorem bitStart_mono {obj : FiidObj} {i j : ℕ} (h : i ≤ j) : obj.bitStart i ≤ obj.bitStart j := by
  obtain ⟨k, rfl⟩ := Nat.exists_eq_add_of_le h
  rw [FiidObj.bitStart, FiidObj.bitStart, maxLen_take_add]
  exact Nat.le_add_right _ _

section BlockAt
variable {obj : FiidObj} {fieldStart fieldEnd : String} {first last : ℕ}

theorem BlockAt.bits (h : BlockAt obj fieldStart fieldEnd first last) :
    obj.bitStart first + maxLen (blockFields obj first last) = obj.bitStart (last + 1) := by
  have hidx : first + (last + 1 - first) = last + 1 := by have := h.le; omega
  rw [FiidObj.bitStart, FiidObj.bitStart, blockFields, ← maxLen_take_add, hidx]

theorem BlockAt.lt (h : BlockAt obj fieldStart fieldEnd first last) : last < obj.fields.length := by
  obtain ⟨g, hg⟩ := h.stop
  exact hg.lt

theorem BlockAt.blockFields_ne_nil (h : BlockAt obj fieldStart fieldEnd first last) :
    blockFields obj first last ≠ [] := by
  have hle := h.le
  have hlt := h.lt
  apply List.ne_nil_of_length_pos
  rw [blockFields, List.length_take, List.length_drop]
  omega

theorem BlockAt.bounds (h : BlockAt obj fieldStart fieldEnd first last) :
    blockBounds obj fieldStart fieldEnd
      = .ok (first, last, obj.bitStart first, maxLen (blockFields obj first last)) := by
  obtain ⟨f, hf⟩ := h.start
  obtain ⟨g, hg⟩ := h.stop
  have hlen := h.bits
  have hs := h.startAligned
  have he := h.endAligned
  have hle : ¬ first > last := by have := h.le; omega
  have hord : ¬ obj.bitStart first > obj.bitStart (last + 1) := by omega
  have hsub : obj.bitStart (last + 1) - obj.bitStart first
      = maxLen (blockFields obj first last) := by omega
  have hmod : maxLen (blockFields obj first last) % 8 = 0 := by omega
  simp only [blockBounds, fiidObjMaxBlockLen, hf.lookup, hg.lookup, hf.start, hg.stop, ok_bind,
    if_neg hle, hs, ← hg.bitStart_succ, if_neg hord, hsub]
  simp [hmod]
  rfl

/-- The checks of the block functions accept exactly the blocks of whole bytes. -/
theorem BlockAt.of_bounds {s len : ℕ}
    (h : blockBounds obj fieldStart fieldEnd = .ok (first, last, s, len)) :
    BlockAt obj fieldStart fieldEnd first last := by
  simp only [blockBounds] at h
  obtain ⟨i, hi, h⟩ := bind_eq_ok.mp h
  obtain ⟨j, hj, h⟩ := bind_eq_ok.mp h
  obtain ⟨f, hf⟩ := FieldAt.of_lookup hi
  obtain ⟨g, hg⟩ := FieldAt.of_lookup hj
  split at h
  · cases h
  · rename_i hle
    simp only [fiidObjMaxBlockLen, hf.start, hg.stop, ok_bind, ← hg.bitStart_succ] at h
    split at h
    · cases h
    · rename_i hs
      have hmono : obj.bitStart i ≤ obj.bitStart (j + 1) := bitStart_mono (by omega)
      rw [if_neg (by omega)] at h
      simp only [pure, Except.pure, ok_bind] at h
      split at h
      · cases h
      · rename_i he
        cases h
        exact ⟨⟨f, hf⟩, ⟨g, hg⟩, by omega, by omega, by omega⟩

theorem BlockAt.unique {first' last' : ℕ} (h : BlockAt obj fieldStart fieldEnd first last)
    (h' : BlockAt obj fieldStart fieldEnd first' last') : first = first' ∧ last = last' := by
  have heq := h.bounds.symm.trans h'.bounds
  simp only [Except.ok.injEq, Prod.mk.injEq] at heq
  exact ⟨heq.1, heq.2.1⟩

/-- A successful `fiid_obj_set_block`. -/
theorem setBlock_ok {obj' : FiidObj} {data : List Byte} {n : ℕ}
    (h : fiidObjSetBlock obj fieldStart fieldEnd data = (.ok n, obj')) :
    ∃ first last k, BlockAt obj fieldStart fieldEnd first last ∧
      n = min data.length (maxLen (blockFields obj first last) / 8) ∧
      EndsIn (blockFields obj first last) (n * 8) k ∧
      obj' = { obj with data := splice obj.data (obj.bitStart first / 8) (data.take n) }.markFields
        (n * 8) first (first + k) := by
  simp only [fiidObjSetBlock] at h
  split at h
  · cases h
  · rename_i first last s len hb
    have hblock := BlockAt.of_bounds hb
    rw [hblock.bounds] at hb
    cases hb
    have hs := hblock.startAligned
    have he := hblock.endAligned
    have hlen := hblock.bits
    have hpos := maxLen_pos hblock.blockFields_ne_nil
    have hround : bitsRoundBytes (maxLen (blockFields obj first last))
        = maxLen (blockFields obj first last) / 8 := bitsRoundBytes_of_aligned (by omega)
    simp only [hround, dataLen_eq_min, bitsRoundBytes_of_aligned hs] at h
    rw [if_pos (by omega)] at h
    split at h
    · cases h
    · rename_i last' hlast'
      cases h
      obtain ⟨k, rfl, hk⟩ := endsIn_of_keyIndexEnd hlast' hblock.blockFields_ne_nil (by omega)
      exact ⟨first, last, k, hblock, rfl, hk, rfl⟩

/-- A failed `fiid_obj_set_block`. -/
theorem setBlock_error {obj' : FiidObj} {data : List Byte} {e : Stop}
    (h : fiidObjSetBlock obj fieldStart fieldEnd data = (.error e, obj')) : obj' = obj := by
  simp only [fiidObjSetBlock] at h
  split at h
  · cases h; rfl
  · split at h
    · cases h; rfl
    · cases h

/-- Inside a block, the fields are counted from its first one. -/
theorem EndsIn.of_block (h : BlockAt obj fieldStart fieldEnd first last) {d k : ℕ}
    (hk : EndsIn (blockFields obj first last) d k) : EndsIn (obj.fields.drop first) d k := by
  have hlen : (blockFields obj first last).length = last + 1 - first := by
    have := h.lt
    rw [blockFields, List.length_take, List.length_drop]
    omega
  have hk1 : k + 1 ≤ last + 1 - first := by have := hk.lt; omega
  have htake : ∀ m ≤ last + 1 - first,
      (blockFields obj first last).take m = (obj.fields.drop first).take m := by
    intro m hm
    rw [blockFields, List.take_take, min_eq_left hm]
  refine ⟨?_, ?_, ?_, ?_⟩
  · have := h.lt
    rw [List.length_drop]
    omega
  · rw [← htake _ hk1]
    exact hk.le
  · rw [← htake _ hk1]
    exact hk.aligned
  · rw [← htake _ (by omega)]
    exact hk.before

end BlockAt

end FreeIpmi.Fiid
