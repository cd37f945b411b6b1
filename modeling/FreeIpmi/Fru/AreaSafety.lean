import FreeIpmi.Fru.Areas

/-! Where the parsers of FRU areas read (`ipmi-fru-data.c`).

    Only the loop over the custom fields looks at the length of the buffer before it reads a byte. So a
    parser reads outside where a predefined field has to begin and the buffer has ended. In a buffer of
    almost 4 GiB an offset may also wrap around. -/

namespace FreeIpmi.Fru
open Calls

/-- Where the list goes on behind the field at an offset, if there is one that the length allows. -/
def nextField (areabuf : List Byte) (areaOffset : ℕ) : Option ℕ :=
  match areabuf[areaOffset]? with
  | none => none
  | some typeLength =>
    if typeLength = sentinelValue then none
    else if areabuf.length < offsetBehind areaOffset (numberOfDataBytes typeLength) then none
    else some (offsetBehind areaOffset (numberOfDataBytes typeLength))

/-- The fields of the list, without storing any. -/
def walkFields (areabuf : List Byte) (areaOffset : ℕ) : ℕ ⊕ Unit :=
  match nextField areabuf areaOffset with
  | some areaOffset => .inl areaOffset
  | none => .inr ()

/-- None of the next fields wraps around. -/
def CopiesInside (areabuf : List Byte) : ℕ → ℕ → Prop
  | 0, _ => True
  | n + 1, areaOffset => ∀ behind, nextField areabuf areaOffset = some behind →
    areaOffset < behind ∧ CopiesInside areabuf n behind

/-- The custom fields come to an end; those that are stored do not wrap around. -/
def CustomInside (areabuf : List Byte) (room areaOffset : ℕ) : Prop :=
  if room = 0 then Loops.Ends (walkFields areabuf) areaOffset else CopiesInside areabuf room areaOffset

/-- Every predefined field begins inside of the buffer, unless a sentinel or a field that is too long
    comes before it. -/
def FieldsInside (areabuf : List Byte) (room : ℕ) : List Bool → ℕ → Prop
  | [], areaOffset => CustomInside areabuf room areaOffset
  | passed :: wanted, areaOffset => areaOffset < areabuf.length ∧
    ∀ behind, nextField areabuf areaOffset = some behind →
      (passed = true → areaOffset < behind) ∧ FieldsInside areabuf room wanted behind

/-- What a call needs of a buffer that is not empty. -/
def AreaCall.Inside (mktime : Option (BitVec 32)) (areabuf : List Byte) (room : ℕ) : AreaCall → Prop
  | .chassis _ partNumber serialNumber => FieldsInside areabuf room [partNumber, serialNumber] 1
  | .board _ mfgDateTime manufacturer productName serialNumber partNumber fruFileId =>
    (mfgDateTime = true → 4 ≤ areabuf.length) ∧ (mfgDateTime = true ∧ mktime = none
      ∨ FieldsInside areabuf room [manufacturer, productName, serialNumber, partNumber, fruFileId] 4)
  | .product _ manufacturerName productName partModelNumber version serialNumber assetTag fruFileId =>
    FieldsInside areabuf room [manufacturerName, productName, partModelNumber, version, serialNumber,
      assetTag, fruFileId] 1

/-- A return of 0, or of -1 with an error code. -/
def Harmless (rv : Except AreaStop Unit) : Prop := rv = .ok () ∨ ∃ e, rv = .error (.errnum e)

/-- The call ends, and reads nothing outside of the buffer, and no assertion fails. -/
def AreaCall.Safe (mktime : Option (BitVec 32)) (areabuf : List Byte) (room : ℕ) (call : AreaCall) :
    Prop :=
  ∃ rounds result, call.run mktime rounds areabuf room = some result ∧ Harmless result.rv

/-! ### One field -/

theorem readAt_eq {areabuf : List Byte} {i : ℕ} {x : Byte} (h : areabuf[i]? = some x) :
    readAt areabuf i = .ok x := by
  rw [readAt, h]

theorem readAt_outside {areabuf : List Byte} {i : ℕ} (h : areabuf.length ≤ i) :
    readAt areabuf i = .error .outside := by
  rw [readAt, List.getElem?_eq_none h]

/-- The length that a language code must not have is the sentinel itself. -/
theorem languageCode_sentinel : ∀ typeLength : Byte, typeCode typeLength = typeCodeLanguageCode
    ∧ numberOfDataBytes typeLength = 0x01 → typeLength = sentinelValue := by
  decide +kernel

theorem numberOfDataBytes_lt (typeLength : Byte) : numberOfDataBytes typeLength < 64 := by
  rw [numberOfDataBytes, BitVec.toNat_and]
  exact lt_of_le_of_lt Nat.and_le_right (by decide)

section Field
variable {areabuf : List Byte} {o : ℕ} {typeLength : Byte}

/-- A field that is not a sentinel is too long, or is stored, or wraps around. -/
theorem parseTypeLength_eq (h : areabuf[o]? = some typeLength) (hfield : typeLength ≠ sentinelValue)
    (field : Bool) : parseTypeLength areabuf o field
      = if areabuf.length < offsetBehind o (numberOfDataBytes typeLength) then
          .error (.errnum .fruInformationInconsistent)
        else if field = true then
          if o + 1 + numberOfDataBytes typeLength ≤ areabuf.length then
            .ok (numberOfDataBytes typeLength, (areabuf.drop o).take (1 + numberOfDataBytes typeLength))
          else .error .outside
        else .ok (numberOfDataBytes typeLength, []) := by
  rw [parseTypeLength, readAt_eq h, ok_bind, if_neg hfield]
  dsimp only
  rw [if_neg fun hcode => hfield (languageCode_sentinel typeLength hcode)]
  rfl

/-- The offset behind a field is in the buffer or does not wrap around. -/
theorem fits_iff (hlen : areabuf.length < 2 ^ 32) {n : ℕ} (hn : n < 64) (ho : o < areabuf.length)
    (hbehind : offsetBehind o n ≤ areabuf.length) :
    o + 1 + n ≤ areabuf.length ↔ o < offsetBehind o n := by
  simp only [offsetBehind] at hbehind ⊢
  omega

theorem nextField_eq (h : areabuf[o]? = some typeLength) (hfield : typeLength ≠ sentinelValue) :
    nextField areabuf o = if areabuf.length < offsetBehind o (numberOfDataBytes typeLength) then none
      else some (offsetBehind o (numberOfDataBytes typeLength)) := by
  rw [nextField, h]
  exact if_neg hfield

/-- What the field at an offset leads to. -/
inductive FieldCase (areabuf : List Byte) (o : ℕ) : Prop where
  | outside (h : areabuf.length ≤ o)
  | sentinel (h : areabuf[o]? = some sentinelValue)
  | tooLong (typeLength : Byte) (h : areabuf[o]? = some typeLength) (hfield : typeLength ≠ sentinelValue)
      (hlong : areabuf.length < offsetBehind o (numberOfDataBytes typeLength))
  | fits (typeLength : Byte) (h : areabuf[o]? = some typeLength) (hfield : typeLength ≠ sentinelValue)
      (hbehind : offsetBehind o (numberOfDataBytes typeLength) ≤ areabuf.length)

theorem fieldCase (areabuf : List Byte) (o : ℕ) : FieldCase areabuf o := by
  cases h : areabuf[o]? with
  | none => exact .outside (List.getElem?_eq_none_iff.mp h)
  | some typeLength =>
    by_cases hfield : typeLength = sentinelValue
    · exact .sentinel (hfield ▸ h)
    · by_cases hlong : areabuf.length < offsetBehind o (numberOfDataBytes typeLength)
      · exact .tooLong typeLength h hfield hlong
      · exact .fits typeLength h hfield (Nat.le_of_not_lt hlong)

theorem lt_of_getElem? (h : areabuf[o]? = some typeLength) : o < areabuf.length :=
  (List.getElem?_eq_some_iff.mp h).1

end Field

/-! ### The predefined fields -/

/-- What comes after the predefined fields is safe. -/
def SafeFrom (areabuf : List Byte) (room : ℕ) : Except AreaStop (Option ℕ) → Prop
  | .error e => ∃ code, e = .errnum code
  | .ok none => True
  | .ok (some areaOffset) => CustomInside areabuf room areaOffset

theorem predefinedFields_safe_iff {areabuf : List Byte} (hlen : areabuf.length < 2 ^ 32) (room : ℕ)
    (wanted : List Bool) (o : ℕ) :
    SafeFrom areabuf room (predefinedFields areabuf wanted o).2 ↔ FieldsInside areabuf room wanted o := by
  induction wanted generalizing o with
  | nil => exact Iff.rfl
  | cons passed wanted ih =>
    rw [predefinedFields, FieldsInside]
    rcases fieldCase areabuf o with hout | hsentinel | ⟨typeLength, h, hfield, hlong⟩ |
      ⟨typeLength, h, hfield, hbehind⟩
    · simp only [readAt_outside hout, SafeFrom]
      simp [Nat.not_lt.mpr hout]
    · have hnone : nextField areabuf o = none := by
        rw [nextField, hsentinel]
        rfl
      simp only [readAt_eq hsentinel, if_pos, SafeFrom, hnone]
      simp [lt_of_getElem? hsentinel]
    · have hnone := (nextField_eq h hfield).trans (if_pos hlong)
      simp only [readAt_eq h, if_neg hfield, parseTypeLength_eq h hfield, if_pos hlong, SafeFrom, hnone]
      simp [lt_of_getElem? h]
    · have ho := lt_of_getElem? h
      have hsome := (nextField_eq h hfield).trans (if_neg (Nat.not_lt.mpr hbehind))
      have hfits := fits_iff hlen (numberOfDataBytes_lt typeLength) ho hbehind
      simp only [readAt_eq h, if_neg hfield, parseTypeLength_eq h hfield, if_neg (Nat.not_lt.mpr hbehind),
        hfits, hsome, Option.some.injEq, forall_eq', ho, true_and]
      cases passed with
      | false => simpa using ih _
      | true =>
        by_cases hcopy : o < offsetBehind o (numberOfDataBytes typeLength)
        · simpa [hcopy] using ih _
        · simp [hcopy, SafeFrom]

/-! ### The custom fields -/

section Custom
variable {areabuf : List Byte} {room : ℕ} {s : CustomLoop}

/-- A round where no field begins, and one where a field is too long. -/
theorem round_none (room : ℕ) (hnone : nextField areabuf s.areaOffset = none) :
    ∃ rv, s.round areabuf room = .inr (rv, s.stored) ∧ Harmless rv := by
  rw [CustomLoop.round]
  rcases fieldCase areabuf s.areaOffset with hout | hsentinel | ⟨typeLength, h, hfield, hlong⟩ |
    ⟨typeLength, h, hfield, hbehind⟩
  · rw [if_neg (by simp [Nat.not_lt.mpr hout])]
    exact ⟨_, rfl, Or.inl rfl⟩
  · rw [if_neg (by simp [readAt_eq hsentinel])]
    exact ⟨_, rfl, Or.inl rfl⟩
  · rw [if_pos ⟨lt_of_getElem? h, by simpa [readAt_eq h] using hfield⟩]
    split
    · exact ⟨_, rfl, Or.inr ⟨_, rfl⟩⟩
    · rw [parseTypeLength_eq h hfield, if_pos hlong]
      exact ⟨_, rfl, Or.inr ⟨_, rfl⟩⟩
  · rw [nextField_eq h hfield, if_neg (Nat.not_lt.mpr hbehind)] at hnone
    cases hnone

/-- A round with a field that the length allows. -/
theorem round_some (room : ℕ) (hlen : areabuf.length < 2 ^ 32) {behind : ℕ}
    (hsome : nextField areabuf s.areaOffset = some behind) : s.round areabuf room
      = if room ≠ 0 ∧ room ≤ s.customFieldsIndex then .inr (.error (.errnum .overflow), s.stored)
        else if room ≠ 0 then
          if s.areaOffset < behind then .inl ⟨behind, s.customFieldsIndex + 1, s.stored
            ++ [(areabuf.drop s.areaOffset).take (behind - s.areaOffset)]⟩
          else .inr (.error .outside, s.stored)
        else .inl ⟨behind, s.customFieldsIndex + 1, s.stored⟩ := by
  rw [CustomLoop.round]
  rcases fieldCase areabuf s.areaOffset with hout | hsentinel | ⟨typeLength, h, hfield, hlong⟩ |
    ⟨typeLength, h, hfield, hbehind⟩
  · rw [nextField, List.getElem?_eq_none hout] at hsome
    cases hsome
  · rw [nextField, hsentinel] at hsome
    cases hsome
  · rw [nextField_eq h hfield, if_pos hlong] at hsome
    cases hsome
  · rw [nextField_eq h hfield, if_neg (Nat.not_lt.mpr hbehind)] at hsome
    obtain rfl := Option.some.inj hsome
    have ho := lt_of_getElem? h
    have hfits := fits_iff hlen (numberOfDataBytes_lt typeLength) ho hbehind
    rw [if_pos ⟨ho, by simpa [readAt_eq h] using hfield⟩, parseTypeLength_eq h hfield,
      if_neg (Nat.not_lt.mpr hbehind)]
    by_cases hroom : room ≠ 0
    · by_cases hcopy : s.areaOffset < offsetBehind s.areaOffset (numberOfDataBytes typeLength)
      · have hinside := hfits.mpr hcopy
        have hbytes : offsetBehind s.areaOffset (numberOfDataBytes typeLength) - s.areaOffset
            = 1 + numberOfDataBytes typeLength := by
          rw [offsetBehind, Nat.mod_eq_of_lt (by omega)]
          omega
        simp [hroom, hinside, hcopy, hbytes]
      · have houtside : ¬ s.areaOffset + 1 + numberOfDataBytes typeLength ≤ areabuf.length :=
          fun hinside => hcopy (hfits.mp hinside)
        simp [hroom, houtside, hcopy]
    · simp [hroom]

/-- A loop that ends harmlessly. -/
def LoopSafe (areabuf : List Byte) (room : ℕ) (s : CustomLoop) : Prop :=
  ∃ n r, Loops.run (CustomLoop.round areabuf room) n s = some r ∧ Harmless r.1

theorem LoopSafe.of_inr {r : Except AreaStop Unit × List FruField}
    (hround : s.round areabuf room = .inr r) : LoopSafe areabuf room s ↔ Harmless r.1 := by
  constructor
  · rintro ⟨n, r', hrun, hharmless⟩
    cases n with
    | zero => cases hrun
    | succ n =>
      rw [Loops.run_inr hround] at hrun
      cases hrun
      exact hharmless
  · exact fun hharmless => ⟨1, r, Loops.run_inr hround, hharmless⟩

theorem LoopSafe.of_inl {s' : CustomLoop} (hround : s.round areabuf room = .inl s') :
    LoopSafe areabuf room s ↔ LoopSafe areabuf room s' := by
  constructor
  · rintro ⟨n, r, hrun, hharmless⟩
    cases n with
    | zero => cases hrun
    | succ n =>
      rw [Loops.run_inl hround] at hrun
      exact ⟨n, r, hrun, hharmless⟩
  · rintro ⟨n, r, hrun, hharmless⟩
    exact ⟨n + 1, r, (Loops.run_inl hround).trans hrun, hharmless⟩

/-- With room for some more fields, the loop looks at no more. -/
theorem loopSafe_copies_iff (hlen : areabuf.length < 2 ^ 32) (hroom : room ≠ 0) (left : ℕ)
    (hleft : s.customFieldsIndex + left = room) :
    LoopSafe areabuf room s ↔ CopiesInside areabuf left s.areaOffset := by
  induction left generalizing s with
  | zero =>
    refine iff_of_true ?_ trivial
    cases hnext : nextField areabuf s.areaOffset with
    | none =>
      obtain ⟨rv, hround, hharmless⟩ := round_none room hnext
      exact (LoopSafe.of_inr hround).mpr hharmless
    | some behind =>
      have hround := round_some room hlen hnext
      rw [if_pos ⟨hroom, by omega⟩] at hround
      exact (LoopSafe.of_inr hround).mpr (Or.inr ⟨_, rfl⟩)
  | succ left ih =>
    rw [CopiesInside]
    cases hnext : nextField areabuf s.areaOffset with
    | none =>
      obtain ⟨rv, hround, hharmless⟩ := round_none room hnext
      refine iff_of_true ((LoopSafe.of_inr hround).mpr hharmless) ?_
      rintro behind ⟨⟩
    | some behind =>
      have hround := round_some room hlen hnext
      rw [if_neg (by omega), if_pos hroom] at hround
      by_cases hcopy : s.areaOffset < behind
      · rw [if_pos hcopy] at hround
        rw [LoopSafe.of_inl hround, ih (by dsimp only; omega)]
        simp [hcopy]
      · rw [if_neg hcopy] at hround
        rw [LoopSafe.of_inr hround]
        simp [hcopy, Harmless]

/-- Without an array the loop only passes over the fields. -/
theorem loopSafe_walk_iff (hlen : areabuf.length < 2 ^ 32) :
    LoopSafe areabuf 0 s ↔ Loops.Ends (walkFields areabuf) s.areaOffset := by
  constructor
  · rintro ⟨n, r, hrun, -⟩
    refine ⟨n, (), ?_⟩
    induction n generalizing s with
    | zero => cases hrun
    | succ n ih =>
      cases hnext : nextField areabuf s.areaOffset with
      | none => exact Loops.run_inr (by rw [walkFields, hnext])
      | some behind =>
        have hround := round_some 0 hlen hnext
        rw [if_neg (by simp), if_neg (by simp)] at hround
        rw [Loops.run_inl hround] at hrun
        exact (Loops.run_inl (by rw [walkFields, hnext])).trans (ih hrun)
  · rintro ⟨n, r, hrun⟩
    induction n generalizing s with
    | zero => cases hrun
    | succ n ih =>
      cases hnext : nextField areabuf s.areaOffset with
      | none =>
        obtain ⟨rv, hround, hharmless⟩ := round_none 0 hnext
        exact (LoopSafe.of_inr hround).mpr hharmless
      | some behind =>
        have hround := round_some 0 hlen hnext
        rw [if_neg (by simp), if_neg (by simp)] at hround
        have hwalk : walkFields areabuf s.areaOffset = .inl behind := by rw [walkFields, hnext]
        rw [Loops.run_inl hwalk] at hrun
        exact (LoopSafe.of_inl hround).mpr (ih hrun)

theorem customLoop_safe_iff (hlen : areabuf.length < 2 ^ 32) (room o : ℕ) :
    LoopSafe areabuf room ⟨o, 0, []⟩ ↔ CustomInside areabuf room o := by
  rw [CustomInside]
  by_cases hroom : room = 0
  · subst hroom
    rw [if_pos rfl]
    exact loopSafe_walk_iff hlen
  · rw [if_neg hroom]
    exact loopSafe_copies_iff hlen hroom room (Nat.zero_add room)

end Custom

/-! ### The whole call -/

section Whole
variable {areabuf : List Byte}

theorem areaFields_safe_iff (hlen : areabuf.length < 2 ^ 32) (typeByte : Option Byte)
    (mfgDateTime : Option (BitVec 32)) (wanted : List Bool) (room o : ℕ) :
    (∃ rounds result, areaFields rounds areabuf typeByte mfgDateTime wanted room o = some result
      ∧ Harmless result.rv) ↔ FieldsInside areabuf room wanted o := by
  rw [← predefinedFields_safe_iff hlen]
  simp only [areaFields]
  rcases predefinedFields areabuf wanted o with ⟨fields, e | - | behind⟩
  · simp [SafeFrom, Harmless]
  · simp [SafeFrom, Harmless]
  · dsimp only [SafeFrom]
    rw [← customLoop_safe_iff hlen, LoopSafe]
    constructor
    · rintro ⟨rounds, result, hrun, hharmless⟩
      obtain ⟨r, hloop, rfl⟩ := Option.map_eq_some_iff.mp hrun
      exact ⟨rounds, r, hloop, hharmless⟩
    · rintro ⟨rounds, r, hrun, hharmless⟩
      exact ⟨rounds, _, by rw [hrun]; rfl, hharmless⟩

/-- The three bytes of the date are read before `mktime` is called. -/
theorem boardMfgDateTime_eq (mktime : Option (BitVec 32)) (x : Byte) (rest : List Byte) :
    (3 ≤ rest.length ∧ ∃ minutes, boardMfgDateTime mktime (x :: rest) 1 = match mktime with
      | none => .error (.errnum .systemError)
      | some t => .ok (minutes * 60 + t))
    ∨ (rest.length < 3 ∧ boardMfgDateTime mktime (x :: rest) 1 = .error .outside) := by
  rcases rest with - | ⟨low, - | ⟨mid, - | ⟨high, rest⟩⟩⟩
  · exact Or.inr ⟨by simp, rfl⟩
  · exact Or.inr ⟨by simp, rfl⟩
  · exact Or.inr ⟨by simp, rfl⟩
  · refine Or.inl ⟨by simp, low.setWidth 32 ||| mid.setWidth 32 <<< 8 ||| high.setWidth 32 <<< 16, ?_⟩
    cases mktime <;> rfl

theorem noArea_harmless : Harmless noArea.rv := Or.inr ⟨_, rfl⟩

/-- A parser of an area is safe exactly when the buffer is empty, or when each of its predefined fields
    begins inside of the buffer, as far as it looks for them. -/
theorem areaCall_safe_iff (mktime : Option (BitVec 32)) (room : ℕ) (call : AreaCall)
    (hlen : areabuf.length < 2 ^ 32) :
    call.Safe mktime areabuf room ↔ areabuf = [] ∨ call.Inside mktime areabuf room := by
  rcases areabuf with - | ⟨x, rest⟩
  · refine iff_of_true ⟨0, noArea, ?_, noArea_harmless⟩ (Or.inl rfl)
    cases call <;> rfl
  · rw [or_iff_right (List.cons_ne_nil x rest), AreaCall.Safe]
    cases call with
    | chassis chassisType partNumber serialNumber => exact areaFields_safe_iff hlen _ _ _ _ _
    | product languageCode manufacturerName productName partModelNumber version serialNumber assetTag
        fruFileId => exact areaFields_safe_iff hlen _ _ _ _ _
    | board languageCode mfgDateTime manufacturer productName serialNumber partNumber fruFileId =>
      rw [AreaCall.Inside]
      cases mfgDateTime with
      | false =>
        refine (areaFields_safe_iff hlen _ _ _ _ _).trans ?_
        simp
      | true =>
        simp only [AreaCall.run, ipmiFruBoardInfoArea, if_true, true_and, forall_const]
        rcases boardMfgDateTime_eq mktime x rest with ⟨hlong, minutes, htime⟩ | ⟨hshort, htime⟩
        · rw [htime]
          cases mktime with
          | none => simp [Harmless, hlong]
          | some t =>
            refine (areaFields_safe_iff hlen _ _ _ _ _).trans ?_
            simp [hlong]
        · rw [htime]
          simp [Harmless, Nat.not_le.mpr hshort]

/-- Below the last 63 lengths no offset wraps around, and the custom fields need nothing. -/
theorem customInside_of_small (hsmall : areabuf.length + 63 < 2 ^ 32) (room o : ℕ) :
    CustomInside areabuf room o := by
  have hup : ∀ o behind, nextField areabuf o = some behind → o < behind ∧ o < areabuf.length := by
    intro o behind hnext
    rcases fieldCase areabuf o with hout | hsentinel | ⟨typeLength, h, hfield, hlong⟩ |
      ⟨typeLength, h, hfield, hbehind⟩
    · rw [nextField, List.getElem?_eq_none hout] at hnext
      cases hnext
    · rw [nextField, hsentinel] at hnext
      cases hnext
    · rw [nextField_eq h hfield, if_pos hlong] at hnext
      cases hnext
    · rw [nextField_eq h hfield, if_neg (Nat.not_lt.mpr hbehind)] at hnext
      obtain rfl := Option.some.inj hnext
      have ho := lt_of_getElem? h
      have hn := numberOfDataBytes_lt typeLength
      rw [offsetBehind, Nat.mod_eq_of_lt (by omega)]
      omega
  rw [CustomInside]
  split
  · have hstep : ∀ o behind, True → walkFields areabuf o = .inl behind →
        True ∧ areabuf.length - behind < areabuf.length - o := by
      intro o behind _ hround
      rw [walkFields] at hround
      split at hround
      · rename_i behind hnext
        cases hround
        obtain ⟨hlt, ho⟩ := hup _ _ hnext
        exact ⟨trivial, by omega⟩
      · cases hround
    obtain ⟨r, hrun, -⟩ := Loops.run_of_measure (fun _ => True) (fun o => areabuf.length - o) hstep
      (fun _ _ _ _ => trivial) trivial (Nat.lt_succ_self (areabuf.length - o))
    exact ⟨_, r, hrun⟩
  · induction room generalizing o with
    | zero => trivial
    | succ room ih =>
      intro behind hnext
      refine ⟨(hup _ _ hnext).1, ?_⟩
      by_cases hroom : room = 0
      · subst hroom
        trivial
      · exact ih behind hroom

end Whole

theorem areaCall_safe_iff_short : (AreaCall.chassis true true true).Safe none [0x17, 0xC1] 0
    ↔ ([0x17, 0xC1] : List Byte) = [] ∨ (AreaCall.chassis true true true).Inside none [0x17, 0xC1] 0 :=
  areaCall_safe_iff none 0 _ (by decide)

/-- An area that ends behind its first byte is read at index 1. -/
theorem chassis_reads_outside :
    ipmiFruChassisInfoArea 1 [0x17] true true true 0
        = some ⟨.error .outside, some 0x17, none, [some [], some []], []⟩
      ∧ ¬ ∀ (mktime : Option (BitVec 32)) (areabuf : List Byte) (room : ℕ) (call : AreaCall),
        areabuf.length < 2 ^ 32 → call.Safe mktime areabuf room := by
  refine ⟨rfl, fun h => ?_⟩
  obtain ⟨rounds, result, hrun, hharmless⟩ := h none [0x17] 0 (.chassis true true true) (by decide)
  have hresult : result.rv = .error .outside := by
    cases hrun
    rfl
  rw [hresult] at hharmless
  rcases hharmless with hok | ⟨e, herror⟩
  · cases hok
  · cases herror

end FreeIpmi.Fru
