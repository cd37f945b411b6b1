import FreeIpmi.Fiid.Bytes

/-! Objects that are filled from a packet.

    A parser clears its objects and fills them with calls, so they stay objects of their templates,
    whatever the packet was, and a comparison with a template gives the same answer. A field of an
    object filled from the front can be read if the data had a part of it. -/

namespace FreeIpmi.Fiid
open ByteBits Calls

/-! ### Calls that change an object -/

/-- A program that could hold the first object can hold the second one, of the same template. -/
def FiidObj.Becomes (obj obj' : FiidObj) : Prop :=
  ∀ ndebug tmpl, Reachable ndebug tmpl obj → Reachable ndebug tmpl obj'

section Becomes
variable {obj obj₁ obj₂ : FiidObj} {d : List Byte} {n : ℕ}

theorem FiidObj.Becomes.refl (obj : FiidObj) : obj.Becomes obj := fun _ _ h => h

theorem FiidObj.Becomes.trans (h : obj.Becomes obj₁) (h' : obj₁.Becomes obj₂) : obj.Becomes obj₂ :=
  fun ndebug tmpl hr => h' ndebug tmpl (h ndebug tmpl hr)

theorem becomes_clear (obj : FiidObj) : obj.Becomes (fiidObjClear obj) :=
  fun _ _ hr => hr.step .clear rfl

theorem becomes_trySetAll (h : trySetAll obj d = .ok (obj₁, n)) : obj.Becomes obj₁ := by
  intro ndebug tmpl hr
  refine hr.step (.setAll d) (congrArg some ?_)
  rw [trySetAll] at h
  split at h
  · cases h
  · rename_i hcall
    cases h
    rw [hcall]

theorem becomes_trySetBlock {fieldStart fieldEnd : String}
    (h : trySetBlock obj fieldStart fieldEnd d = .ok (obj₁, n)) : obj.Becomes obj₁ := by
  intro ndebug tmpl hr
  refine hr.step (.setBlock fieldStart fieldEnd d) (congrArg some ?_)
  rw [trySetBlock] at h
  split at h
  · cases h
  · rename_i hcall
    cases h
    rw [hcall]

theorem becomes_setData {field : String} (h : fiidObjSetData obj field d = .ok (obj₁, n)) :
    obj.Becomes obj₁ := by
  intro ndebug tmpl hr
  refine hr.step (.setData field d) ?_
  rw [FiidOp.run, h]
  rfl

/-- The template of an object stays the same. -/
theorem FiidObj.Becomes.compare {ndebug : Bool} {tmpl tmpl' : FiidTemplate} (h : obj.Becomes obj₁)
    (hr : Reachable ndebug tmpl obj) :
    fiidObjTemplateCompareStrict obj₁ tmpl' = fiidObjTemplateCompareStrict obj tmpl' := by
  have hfields : obj₁.fields.map FiidFieldData.toField = obj.fields.map FiidFieldData.toField :=
    (h ndebug tmpl hr).wf.fields.trans hr.wf.fields.symm
  simp only [fiidObjTemplateCompareStrict, fiidObjTemplateCompare, templateCompareLoop_congr _ hfields]

end Becomes

/-! ### Fields that can be read -/

section Read
variable {fields : List FiidField} {obj obj' : FiidObj} {d : List Byte} {n : ℕ} {field : String}

/-- A field from a byte boundary on can be read exactly if some of it is set. -/
theorem getStrict_ok_iff (hof : obj.Of fields) {i : ℕ} {f : FiidFieldData} (hf : FieldAt obj field i f)
    (hstart : bitLen (fields.take i) % 8 = 0) :
    (∃ val, fiidObjGetStrict obj field = .ok val) ↔ f.setFieldLen ≠ 0 := by
  constructor
  · rintro ⟨val, hval⟩ hzero
    simp only [fiidObjGetStrict, fiidObjGet, hf.lookup, hf.setFieldLen, ok_bind, hzero, if_true] at hval
    cases hval
  · intro hset
    have hmax := hof.le i f hf.entry
    have hfit := bitStart_le hof hf
    have hover : ¬ SpanOver (obj.bitStart i % 8) (min (min f.maxFieldLen 64) f.setFieldLen) := by
      rw [bitStart_eq hof, hstart]
      rintro ⟨h1, h2⟩
      omega
    have hpos : 0 < min (min f.maxFieldLen 64) f.setFieldLen := by
      have := f.maxFieldLen_pos
      omega
    obtain ⟨v, hv, -⟩ := loadBits_spec hpos (by omega) (show _ ≤ 8 * obj.data.length by omega) hover
    refine ⟨v, ?_⟩
    simp only [fiidObjGetStrict, get_eq hf hset, hv, ok_bind]
    rfl

/-- After `fiid_obj_set_all` a field from a byte boundary on can be read if the data gets to it. -/
theorem Filled.getStrict_ok_iff (h : Filled fields obj obj' d n) (hof : obj.Of fields)
    (hunset : obj.Unset) {o m : ℕ} (hplace : wholePlace fields field = some (o, m)) :
    (∃ val, fiidObjGetStrict obj' field = .ok val) ↔ o < d.length := by
  simp only [wholePlace, Option.bind_eq_bind, Option.bind_eq_some_iff] at hplace
  obtain ⟨i, hi, f, hf, hplace⟩ := hplace
  split at hplace
  · rename_i hal
    obtain ⟨hstart, hmax⟩ := hal
    cases hplace
    have hholds := h.holds hof hunset
    have hlen := h.len
    have hpos := f.maxFieldLen_pos
    have hfits : bitLen (fields.take i) + f.maxFieldLen ≤ bitLen fields := by
      rw [← bitLen_take_succ hf]
      exact bitLen_take_le fields (i + 1)
    have htake : ((fields.map (·.maxFieldLen)).take i).sum = bitLen (fields.take i) := by
      rw [bitLen, List.map_take]
    have hlens : (frontLens (8 * n) (fields.map (·.maxFieldLen)))[i]?
        = some (min f.maxFieldLen (8 * n - bitLen (fields.take i))) := by
      rw [getElem?_frontLens, List.getElem?_map, hf, htake]
      rfl
    obtain ⟨g, hg, hset⟩ := fieldAt_of_lens h.of hholds.lens hi hlens
    rw [Fiid.getStrict_ok_iff h.of hg hstart, hset]
    omega
  · cases hplace

/-- Every field is set to whole bytes. -/
def FiidObj.ByteLens (obj : FiidObj) : Prop := ∀ len ∈ obj.lens, len % 8 = 0

theorem FiidObj.Unset.byteLens (h : obj.Unset) : obj.ByteLens := by
  intro len hlen
  obtain ⟨f, hf, rfl⟩ := List.mem_map.mp hlen
  rw [h f hf]

/-- Fields of whole bytes stay so when `fiid_obj_set_data` sets one of them. -/
theorem FiidObj.ByteLens.setData {o m : ℕ} (h : obj.ByteLens) (hof : obj.Of fields)
    (hplace : wholePlace fields field = some (o, m)) (hset : fiidObjSetData obj field d = .ok (obj', n)) :
    obj'.Of fields ∧ obj'.ByteLens := by
  obtain ⟨obj'', i, hcall, hof', -, hlens⟩ := setData_whole hof hplace d
  rw [hset] at hcall
  cases hcall
  refine ⟨hof', fun len hlen => ?_⟩
  rw [hlens] at hlen
  rcases List.mem_or_eq_of_mem_set hlen with hold | rfl
  · exact h len hold
  · omega

theorem sum_mod_eight {lens : List ℕ} (h : ∀ len ∈ lens, len % 8 = 0) : lens.sum % 8 = 0 := by
  induction lens with
  | nil => rfl
  | cons len lens ih =>
    have hlen := h len List.mem_cons_self
    have hrest := ih fun l hl => h l (List.mem_cons_of_mem _ hl)
    rw [List.sum_cons]
    omega

/-- `fiid_obj_get_data` reads a field of whole bytes. -/
theorem FiidObj.ByteLens.getData {o m dataLen : ℕ} (h : obj.ByteLens) (hof : obj.Of fields)
    (hplace : wholePlace fields field = some (o, m)) (hroom : m ≤ dataLen) :
    ∃ b, fiidObjGetData obj field dataLen = .ok b := by
  simp only [wholePlace, Option.bind_eq_bind, Option.bind_eq_some_iff] at hplace
  obtain ⟨i, hi, f, hf, hplace⟩ := hplace
  split at hplace
  · rename_i hal
    obtain ⟨hstart, hmax⟩ := hal
    cases hplace
    obtain ⟨g, hg⟩ := fieldAt_of_tmpl hof hi
    have hgf : g.maxFieldLen = f.maxFieldLen := by
      have hentry := (getElem?_toField hof hg.entry).symm.trans hf
      exact congrArg FiidField.maxFieldLen (Option.some.inj hentry)
    have hle := hof.le i g hg.entry
    have hlens : obj.lens[i]? = some g.setFieldLen := by
      rw [FiidObj.lens, List.getElem?_map, hg.entry]
      rfl
    have hholds : obj.Holds obj.lens (pack obj.setBits) :=
      holds_pack (by rw [setLen_eq_sum]; exact sum_mod_eight h)
    have hplace : dataPlace fields obj.lens field
        = some ((obj.lens.take i).sum / 8, g.setFieldLen / 8) := by
      have hmod := h g.setFieldLen (List.mem_of_getElem? hlens)
      have htake := sum_mod_eight fun l hl => h l (List.mem_of_mem_take (l := obj.lens) (i := i) hl)
      simp only [dataPlace, hi, hlens, Option.bind_eq_bind, Option.bind_some]
      rw [if_pos ⟨hstart, hmod, htake⟩]
    exact ⟨_, hholds.getData hof hplace (by omega)⟩
  · cases hplace

end Read

end FreeIpmi.Fiid
