import FreeIpmi.Fiid.Field

/-! Fields by name and by position.

    The functions of `fiid/fiid.c` look a name up several times, each time with another loop.
    `FieldAt` says once which field a name stands for, and the lemmas below give what every loop
    makes of it. -/

namespace FreeIpmi.Fiid
open Calls

/-! ### Lengths -/

@[simp] theorem maxLen_nil : maxLen [] = 0 := rfl

@[simp] theorem maxLen_cons (f : FiidFieldData) (fs : List FiidFieldData) :
    maxLen (f :: fs) = f.maxFieldLen + maxLen fs := rfl

@[simp] theorem setLen_nil : setLen [] = 0 := rfl

@[simp] theorem setLen_cons (f : FiidFieldData) (fs : List FiidFieldData) :
    setLen (f :: fs) = f.setFieldLen + setLen fs := rfl

theorem maxLen_append (a b : List FiidFieldData) : maxLen (a ++ b) = maxLen a + maxLen b := by
  simp [maxLen]

theorem setLen_append (a b : List FiidFieldData) : setLen (a ++ b) = setLen a + setLen b := by
  simp [setLen]

theorem maxLen_take_add_drop (fields : List FiidFieldData) (i : ℕ) :
    maxLen (fields.take i) + maxLen (fields.drop i) = maxLen fields := by
  rw [← maxLen_append, List.take_append_drop]

theorem maxLen_take_le (fields : List FiidFieldData) (i : ℕ) :
    maxLen (fields.take i) ≤ maxLen fields := by
  have := maxLen_take_add_drop fields i
  omega

theorem maxLen_take_succ {fields : List FiidFieldData} {i : ℕ} {f : FiidFieldData}
    (h : fields[i]? = some f) : maxLen (fields.take (i + 1)) = maxLen (fields.take i) + f.maxFieldLen := by
  rw [List.take_add_one, h, maxLen_append]
  rfl

/-- The lengths depend on the template only. -/
theorem maxLen_congr {a b : List FiidFieldData}
    (h : a.map FiidFieldData.toField = b.map FiidFieldData.toField) : maxLen a = maxLen b := by
  have hfun : (fun f : FiidFieldData => f.maxFieldLen)
      = (fun f : FiidField => f.maxFieldLen) ∘ FiidFieldData.toField := rfl
  simp only [maxLen, hfun, ← List.map_map, h]

theorem maxLen_eq_bitLen (fields : List FiidFieldData) :
    maxLen fields = bitLen (fields.map FiidFieldData.toField) := by
  simp only [maxLen, bitLen, List.map_map]
  rfl

theorem maxLen_pos {fields : List FiidFieldData} (h : fields ≠ []) : 0 < maxLen fields := by
  obtain ⟨f, fs, rfl⟩ := List.exists_cons_of_ne_nil h
  have := f.maxFieldLen_pos
  simp only [maxLen_cons]
  omega

theorem maxLen_take_lt {fields : List FiidFieldData} {i : ℕ} (h : i < fields.length) :
    maxLen (fields.take i) < maxLen fields := by
  have hpos : 0 < maxLen (fields.drop i) := maxLen_pos (by simpa using h)
  have := maxLen_take_add_drop fields i
  omega

/-! ### Names -/

/-- The name `field` stands for field number `i`, which is `f`. -/
structure FieldAt (obj : FiidObj) (field : String) (i : ℕ) (f : FiidFieldData) : Prop where
  index : obj.fields.findIdx? (fun f => f.key = field) = some i
  entry : obj.fields[i]? = some f

/-- The first bit of field number `i`. -/
def FiidObj.bitStart (obj : FiidObj) (i : ℕ) : ℕ := maxLen (obj.fields.take i)

theorem fieldStartEnd_of_findIdx? {field : String} : ∀ {fields : List FiidFieldData} {i : ℕ}
    {f : FiidFieldData} (start : ℕ), fields.findIdx? (fun f => f.key = field) = some i →
    fields[i]? = some f → fieldStartEnd field fields start
      = .ok (f.maxFieldLen, start + maxLen (fields.take i), start + maxLen (fields.take i) + f.maxFieldLen)
  | [], i, f, start, h, _ => by cases h
  | g :: fs, i, f, start, h, hf => by
    rw [List.findIdx?_cons] at h
    by_cases hkey : g.key = field
    · simp only [hkey, decide_true, if_true, Option.some.injEq] at h
      subst h
      cases hf
      simp [fieldStartEnd, hkey]
    · simp only [hkey, decide_false, Bool.false_eq_true, if_false] at h
      obtain ⟨j, hj, rfl⟩ := Option.map_eq_some_iff.mp h
      simp only [fieldStartEnd, if_neg hkey, List.take_succ_cons, maxLen_cons]
      rw [fieldStartEnd_of_findIdx? _ hj hf]
      simp only [Nat.add_assoc]

theorem find?_of_findIdx? {field : String} : ∀ {fields : List FiidFieldData} {i : ℕ}
    {f : FiidFieldData}, fields.findIdx? (fun f => f.key = field) = some i →
    fields[i]? = some f → fields.find? (fun f => f.key = field) = some f
  | [], i, f, h, _ => by cases h
  | g :: fs, i, f, h, hf => by
    rw [List.findIdx?_cons] at h
    by_cases hkey : g.key = field
    · simp only [hkey, decide_true, if_true, Option.some.injEq] at h
      subst h
      cases hf
      simp [hkey]
    · simp only [hkey, decide_false, Bool.false_eq_true, if_false] at h
      obtain ⟨j, hj, rfl⟩ := Option.map_eq_some_iff.mp h
      rw [List.find?_cons_of_neg (by simpa using hkey)]
      exact find?_of_findIdx? hj hf

section FieldAt
variable {obj : FiidObj} {field : String} {i : ℕ} {f : FiidFieldData}

/-- Every name either stands for a field or for none. -/
theorem fieldAt_or_none (obj : FiidObj) (field : String) :
    (∃ i f, FieldAt obj field i f) ∨ obj.fields.findIdx? (fun f => f.key = field) = none := by
  cases h : obj.fields.findIdx? (fun f => f.key = field) with
  | none => exact Or.inr rfl
  | some i =>
    obtain ⟨hlt, -⟩ := List.findIdx?_eq_some_iff_findIdx_eq.mp h
    exact Or.inl ⟨i, _, h, List.getElem?_eq_getElem hlt⟩

theorem FieldAt.lookup (h : FieldAt obj field i f) : fiidObjLookupFieldIndex obj field = .ok i := by
  simp only [fiidObjLookupFieldIndex, h.index]

theorem FieldAt.of_lookup (h : fiidObjLookupFieldIndex obj field = .ok i) :
    ∃ f, FieldAt obj field i f := by
  obtain ⟨j, f, hf⟩ | hnone := fieldAt_or_none obj field
  · rw [hf.lookup] at h
    cases h
    exact ⟨f, hf⟩
  · simp [fiidObjLookupFieldIndex, hnone] at h

theorem FieldAt.startEnd (h : FieldAt obj field i f) : fiidObjFieldStartEnd obj field
    = .ok (f.maxFieldLen, obj.bitStart i, obj.bitStart i + f.maxFieldLen) := by
  rw [fiidObjFieldStartEnd, fieldStartEnd_of_findIdx? 0 h.index h.entry, FiidObj.bitStart]
  simp only [Nat.zero_add]

theorem FieldAt.start (h : FieldAt obj field i f) : fiidObjFieldStart obj field = .ok (obj.bitStart i) := by
  simp only [fiidObjFieldStart, h.startEnd, ok_bind]
  rfl

theorem FieldAt.stop (h : FieldAt obj field i f) :
    fiidObjFieldEnd obj field = .ok (obj.bitStart i + f.maxFieldLen) := by
  simp only [fiidObjFieldEnd, h.startEnd, ok_bind]
  rfl

theorem FieldAt.maxFieldLen (h : FieldAt obj field i f) :
    fiidObjMaxFieldLen obj field = .ok f.maxFieldLen := by
  simp only [fiidObjMaxFieldLen, find?_of_findIdx? h.index h.entry]

theorem FieldAt.fieldLen (h : FieldAt obj field i f) : fiidObjFieldLen obj field = .ok f.setFieldLen := by
  simp only [fiidObjFieldLen, find?_of_findIdx? h.index h.entry]

theorem FieldAt.setFieldLen (h : FieldAt obj field i f) : fiidObjSetFieldLen obj i = .ok f.setFieldLen := by
  simp only [fiidObjSetFieldLen, h.entry]

theorem FieldAt.lt (h : FieldAt obj field i f) : i < obj.fields.length :=
  (List.getElem?_eq_some_iff.mp h.entry).1

theorem FieldAt.bitStart_succ (h : FieldAt obj field i f) :
    obj.bitStart (i + 1) = obj.bitStart i + f.maxFieldLen :=
  maxLen_take_succ h.entry

end FieldAt

/-! ### Setting a length -/

theorem map_toField_modify (fields : List FiidFieldData) (i len : ℕ) :
    (fields.modify i fun f => { f with setFieldLen := len }).map FiidFieldData.toField
      = fields.map FiidFieldData.toField := by
  refine List.ext_getElem? fun j => ?_
  simp only [List.getElem?_map, List.getElem?_modify]
  split
  · cases fields[j]? <;> rfl
  · cases fields[j]? <;> rfl

/-- Which field a name stands for depends on the template only. -/
theorem findIdx?_congr {a b : List FiidFieldData} (field : String)
    (h : a.map FiidFieldData.toField = b.map FiidFieldData.toField) :
    a.findIdx? (fun f => f.key = field) = b.findIdx? (fun f => f.key = field) := by
  have hmap : ∀ l : List FiidFieldData, l.findIdx? (fun f => f.key = field)
      = (l.map FiidFieldData.toField).findIdx? (fun f => f.key = field) := by
    intro l
    rw [List.findIdx?_map]
    rfl
  rw [hmap a, hmap b, h]

end FreeIpmi.Fiid
