import FreeIpmi.Fru.AreaSafety

/-! What the parsers of FRU areas find (`ipmi-fru-data.c`).

    In a well-formed area the predefined fields are the first of the list and the custom fields the
    rest. Whether a field is stored depends on its own pointer alone, since the offset advances in the
    same way for every field, and fields behind the end of the list stay empty. -/

namespace FreeIpmi.Fru
open Calls

/-- A type/length byte, which is not the sentinel, and as many bytes as it announces. -/
def IsField (field : FruField) : Prop :=
  ∃ typeLength data, field = typeLength :: data ∧ typeLength ≠ sentinelValue
    ∧ data.length = numberOfDataBytes typeLength

/-- An area: a header, the list of the fields and its end, and padding. -/
def areaOf (header : List Byte) (fields : List FruField) (padding : List Byte) : List Byte :=
  header ++ (fields.flatten ++ sentinelValue :: padding)

/-- The length of the fixed header. -/
def AreaCall.headerLength : AreaCall → ℕ
  | .chassis .. => 1
  | .board .. => 4
  | .product .. => 1

/-- The pointers to predefined fields. -/
def AreaCall.wanted : AreaCall → List Bool
  | .chassis _ partNumber serialNumber => [partNumber, serialNumber]
  | .board _ _ manufacturer productName serialNumber partNumber fruFileId =>
    [manufacturer, productName, serialNumber, partNumber, fruFileId]
  | .product _ manufacturerName productName partModelNumber version serialNumber assetTag fruFileId =>
    [manufacturerName, productName, partModelNumber, version, serialNumber, assetTag, fruFileId]

/-- The first byte of the header, for a call that wants it. -/
def AreaCall.typeByte (header : List Byte) : AreaCall → Option Byte
  | .chassis chassisType _ _ => if chassisType then header.head? else none
  | .board languageCode .. => if languageCode then header.head? else none
  | .product languageCode .. => if languageCode then header.head? else none

/-- The minutes in the header of a board area, as seconds after the first day of 1996. -/
def AreaCall.mfgDateTime (start : BitVec 32) (header : List Byte) : AreaCall → Option (BitVec 32)
  | .board _ true .. => some (((header.getD 1 0).setWidth 32 ||| (header.getD 2 0).setWidth 32 <<< 8
      ||| (header.getD 3 0).setWidth 32 <<< 16) * 60 + start)
  | _ => none

/-- What is stored in the predefined fields: each is the field at its place in the list, or empty. -/
def storedFields (wanted : List Bool) (fields : List FruField) : List (Option FruField) :=
  wanted.mapIdx fun i passed => if passed then some (fields.getD i []) else none

/-- An array without room for all custom fields is an overflow. -/
def customReturn (room : ℕ) (custom : List FruField) : Except AreaStop Unit :=
  if room ≠ 0 ∧ room < custom.length then .error (.errnum .overflow) else .ok ()

/-! ### The fields -/

section Fields
variable {areabuf before after padding : List Byte} {field : FruField}

theorem IsField.ne_nil (h : IsField field) : 0 < field.length := by
  obtain ⟨typeLength, data, rfl, -, -⟩ := h
  exact Nat.succ_pos _

/-- A field of the list, where it stands in the buffer. -/
theorem IsField.fits (h : IsField field) (hbuf : areabuf = before ++ (field ++ after))
    (hlen : areabuf.length < 2 ^ 32) :
    ∃ typeLength, areabuf[before.length]? = some typeLength ∧ typeLength ≠ sentinelValue
      ∧ 1 + numberOfDataBytes typeLength = field.length
      ∧ offsetBehind before.length (numberOfDataBytes typeLength) = (before ++ field).length
      ∧ (before ++ field).length ≤ areabuf.length := by
  obtain ⟨typeLength, data, rfl, hsentinel, hdata⟩ := h
  have hlength := congrArg List.length hbuf
  simp only [List.length_append, List.length_cons] at hlength
  refine ⟨typeLength, ?_, hsentinel, ?_, ?_, ?_⟩
  · rw [hbuf, List.getElem?_append_right (le_refl _), Nat.sub_self]
    rfl
  · rw [List.length_cons, hdata, Nat.add_comm]
  · rw [offsetBehind, ← hdata, List.length_append, List.length_cons, Nat.mod_eq_of_lt (by omega)]
    omega
  · rw [List.length_append, List.length_cons]
    omega

theorem bytes_at (hbuf : areabuf = before ++ (field ++ after)) :
    (areabuf.drop before.length).take field.length = field := by
  rw [hbuf, List.drop_left, List.take_left]

theorem sentinel_at (hbuf : areabuf = before ++ sentinelValue :: padding) :
    areabuf[before.length]? = some sentinelValue := by
  rw [hbuf, List.getElem?_append_right (le_refl _), Nat.sub_self]
  rfl

/-- The offset advances in the same way whether a field is stored or not. -/
theorem IsField.parse (h : IsField field) (hbuf : areabuf = before ++ (field ++ after))
    (hlen : areabuf.length < 2 ^ 32) (passed : Bool) :
    ∃ n, parseTypeLength areabuf before.length passed = .ok (n, if passed then field else [])
      ∧ offsetBehind before.length n = (before ++ field).length := by
  obtain ⟨typeLength, hat, hsentinel, hfield, hbehind, hinside⟩ := h.fits hbuf hlen
  refine ⟨numberOfDataBytes typeLength, ?_, hbehind⟩
  have hcopy : before.length + 1 + numberOfDataBytes typeLength ≤ areabuf.length := by
    rw [List.length_append] at hinside
    omega
  rw [parseTypeLength_eq hat hsentinel, if_neg (by rw [hbehind]; omega), if_pos hcopy, hfield,
    bytes_at hbuf]
  cases passed <;> rfl

theorem storedFields_cons (passed : Bool) (wanted : List Bool) (field : FruField)
    (fields : List FruField) : storedFields (passed :: wanted) (field :: fields)
      = (if passed then some field else none) :: storedFields wanted fields := by
  simp [storedFields, List.mapIdx_cons]

/-- Behind the end of the list all fields are empty. -/
theorem cleared_eq (wanted : List Bool) : cleared wanted = storedFields wanted [] := by
  induction wanted with
  | nil => rfl
  | cons passed wanted ih =>
    rw [cleared, List.map_cons, ← cleared, ih]
    simp [storedFields, List.mapIdx_cons]

/-- The predefined fields are the first ones of the list. -/
theorem predefinedFields_list (hlen : areabuf.length < 2 ^ 32) (wanted : List Bool)
    (fields : List FruField) (hfields : ∀ field ∈ fields, IsField field)
    (hbuf : areabuf = areaOf before fields padding) :
    predefinedFields areabuf wanted before.length = (storedFields wanted fields,
      .ok (if fields.length < wanted.length then none
        else some (before ++ (fields.take wanted.length).flatten).length)) := by
  induction wanted generalizing before fields with
  | nil => simp [predefinedFields, storedFields]
  | cons passed wanted ih =>
    cases fields with
    | nil =>
      rw [predefinedFields, readAt_eq (sentinel_at hbuf)]
      simp [cleared_eq]
    | cons field fields =>
      have hfield := hfields field (List.mem_cons_self ..)
      have hhere : areabuf = before ++ (field ++ (fields.flatten ++ sentinelValue :: padding)) := by
        rw [hbuf, areaOf, List.flatten_cons, List.append_assoc]
      obtain ⟨typeLength, hat, hsentinel, -⟩ := hfield.fits hhere hlen
      obtain ⟨n, hparse, hbehind⟩ := hfield.parse hhere hlen passed
      have hrest := ih fields (fun f hf => hfields f (List.mem_cons_of_mem _ hf))
        (show areabuf = areaOf (before ++ field) fields padding by
          rw [hbuf, areaOf, areaOf, List.flatten_cons]
          simp)
      rw [predefinedFields, readAt_eq hat]
      simp only [if_neg hsentinel, hparse, hbehind, hrest, storedFields_cons]
      cases passed <;> simp

/-- The custom fields are the rest, as far as there is room for them. -/
theorem customLoop_list (hlen : areabuf.length < 2 ^ 32) (room : ℕ) (fields : List FruField)
    (hfields : ∀ field ∈ fields, IsField field) (s : CustomLoop)
    (hbuf : areabuf = areaOf before fields padding) (hoffset : s.areaOffset = before.length)
    (hindex : room ≠ 0 → s.customFieldsIndex ≤ room) :
    Loops.run (CustomLoop.round areabuf room) (fields.length + 1) s
      = some (if room ≠ 0 ∧ room < s.customFieldsIndex + fields.length then .error (.errnum .overflow)
          else .ok (), s.stored ++ fields.take (room - s.customFieldsIndex)) := by
  induction fields generalizing before s with
  | nil =>
    have hround : s.round areabuf room = .inr (.ok (), s.stored) := by
      rw [CustomLoop.round, hoffset, if_neg (by simp [readAt_eq (sentinel_at hbuf)])]
    rw [Loops.run_inr hround, if_neg (by simp only [List.length_nil]; omega)]
    simp
  | cons field fields ih =>
    have hfield := hfields field (List.mem_cons_self ..)
    have hhere : areabuf = before ++ (field ++ (fields.flatten ++ sentinelValue :: padding)) := by
      rw [hbuf, areaOf, List.flatten_cons, List.append_assoc]
    obtain ⟨typeLength, hat, hsentinel, -, hbehind, hinside⟩ := hfield.fits hhere hlen
    have hnext : nextField areabuf s.areaOffset = some (before ++ field).length := by
      rw [hoffset, nextField_eq hat hsentinel, hbehind, if_neg (Nat.not_lt.mpr hinside)]
    have hround := round_some room hlen hnext
    have hpos := hfield.ne_nil
    have hbytes : (areabuf.drop s.areaOffset).take ((before ++ field).length - s.areaOffset) = field := by
      rw [hoffset, List.length_append, Nat.add_sub_cancel_left]
      exact bytes_at hhere
    have hcopy : s.areaOffset < (before ++ field).length := by
      rw [hoffset, List.length_append]
      omega
    have hrest : areabuf = areaOf (before ++ field) fields padding := by
      rw [hbuf, areaOf, areaOf, List.flatten_cons]
      simp
    rw [if_pos hcopy, hbytes] at hround
    by_cases hroom : room = 0
    · rw [if_neg (by omega), if_neg (by omega)] at hround
      rw [List.length_cons, Loops.run_inl hround, ih (fun f hf => hfields f (List.mem_cons_of_mem _ hf)) _
        hrest rfl (fun h => absurd hroom h)]
      simp [hroom]
    · by_cases hfull : room ≤ s.customFieldsIndex
      · have hidx := hindex hroom
        rw [if_pos ⟨hroom, hfull⟩] at hround
        rw [Loops.run_inr hround, if_pos ⟨hroom, by rw [List.length_cons]; omega⟩,
          show room - s.customFieldsIndex = 0 by omega]
        simp
      · rw [if_neg (by omega), if_pos hroom] at hround
        rw [List.length_cons, Loops.run_inl hround, ih (fun f hf => hfields f (List.mem_cons_of_mem _ hf)) _
          hrest rfl (fun _ => by dsimp only; omega)]
        rw [show room - s.customFieldsIndex = room - (s.customFieldsIndex + 1) + 1 by omega]
        simp [Nat.add_assoc, Nat.add_comm 1, List.append_assoc]

/-- All fields of a well-formed area. -/
theorem areaFields_list (hlen : areabuf.length < 2 ^ 32) (typeByte : Option Byte)
    (mfgDateTime : Option (BitVec 32)) (wanted : List Bool) (room : ℕ) (fields : List FruField)
    (hfields : ∀ field ∈ fields, IsField field) (hbuf : areabuf = areaOf before fields padding) :
    ∃ rounds, areaFields rounds areabuf typeByte mfgDateTime wanted room before.length
      = some ⟨customReturn room (fields.drop wanted.length), typeByte, mfgDateTime,
        storedFields wanted fields, customArray room ((fields.drop wanted.length).take room)⟩ := by
  have hpredefined := predefinedFields_list hlen wanted fields hfields hbuf
  by_cases hearly : fields.length < wanted.length
  · rw [if_pos hearly] at hpredefined
    have hnone : fields.drop wanted.length = [] := List.drop_eq_nil_of_le hearly.le
    refine ⟨0, ?_⟩
    rw [areaFields, hpredefined, hnone]
    simp [customReturn]
  · rw [if_neg hearly] at hpredefined
    have hcustom : ∀ field ∈ fields.drop wanted.length, IsField field :=
      fun field hfield => hfields field (List.mem_of_mem_drop hfield)
    have hrest : areabuf = areaOf (before ++ (fields.take wanted.length).flatten)
        (fields.drop wanted.length) padding := by
      rw [hbuf, areaOf, areaOf, List.append_assoc, ← List.append_assoc (fields.take _).flatten,
        ← List.flatten_append, List.take_append_drop]
    have hloop := customLoop_list hlen room _ hcustom
      ⟨(before ++ (fields.take wanted.length).flatten).length, 0, []⟩ hrest rfl fun _ => Nat.zero_le room
    refine ⟨(fields.drop wanted.length).length + 1, ?_⟩
    rw [areaFields, hpredefined]
    simp only [hloop, Option.map_some, Nat.zero_add, Nat.sub_zero, List.nil_append, customReturn]

end Fields

/-! ### The three functions -/

/-- What a call finds in an area. -/
def AreaCall.decoded (start : BitVec 32) (header : List Byte) (fields : List FruField) (room : ℕ)
    (call : AreaCall) : AreaResult where
  rv := customReturn room (fields.drop call.wanted.length)
  typeByte := call.typeByte header
  mfgDateTime := call.mfgDateTime start header
  fields := storedFields call.wanted fields
  customFields := customArray room ((fields.drop call.wanted.length).take room)

/-- A parser of a well-formed area finds its fields, whatever pointers are passed, where `mktime` knows
    the first day of 1996. -/
theorem areaCall_decodes (start : BitVec 32) (call : AreaCall) (room : ℕ) {header padding : List Byte}
    {fields : List FruField} (hheader : header.length = call.headerLength)
    (hfields : ∀ field ∈ fields, IsField field)
    (hlen : (areaOf header fields padding).length < 2 ^ 32) :
    ∃ rounds, call.run (some start) rounds (areaOf header fields padding) room
      = some (call.decoded start header fields room) := by
  have hall := fun typeByte mfgDateTime =>
    areaFields_list hlen typeByte mfgDateTime call.wanted room fields hfields rfl
  rw [hheader] at hall
  cases call with
  | chassis chassisType partNumber serialNumber =>
    obtain ⟨x, rfl⟩ := List.length_eq_one_iff.mp hheader
    exact hall _ _
  | product languageCode manufacturerName productName partModelNumber version serialNumber assetTag
      fruFileId =>
    obtain ⟨x, rfl⟩ := List.length_eq_one_iff.mp hheader
    exact hall _ _
  | board languageCode mfgDateTime manufacturer productName serialNumber partNumber fruFileId =>
    rcases header with - | ⟨x, - | ⟨low, - | ⟨mid, - | ⟨high, - | ⟨y, rest⟩⟩⟩⟩⟩
    · cases hheader
    · cases hheader
    · cases hheader
    · cases hheader
    · cases mfgDateTime with
      | false => exact hall _ _
      | true => exact hall _ _
    · cases hheader

/-- The first day of 1996, where `mktime` counts from the first day of 1970 without a time zone. -/
def startOf1996 : BitVec 32 := 820454400

/-- A board area that was made 123456 minutes later, with a custom field. -/
def boardHeader : List Byte := [0x19, 0x40, 0xE2, 0x01]
def boardFields : List FruField :=
  [[0xC2, 0x48, 0x50], [0xC4, 0x42, 0x4D, 0x43, 0x31], [0xC3, 0x31, 0x32, 0x33], [0x01, 0x07], [0xC0],
    [0xC2, 0x58, 0x59]]

theorem isField_of_length {typeLength : Byte} {data : List Byte} (h : typeLength ≠ sentinelValue)
    (hdata : data.length = numberOfDataBytes typeLength) : IsField (typeLength :: data) :=
  ⟨typeLength, data, rfl, h, hdata⟩

/-- All that is asked for is found: no product name. -/
theorem areaCall_decodes_board :
    ∃ rounds, (AreaCall.board true true true false true true true).run (some startOf1996) rounds
      (areaOf boardHeader boardFields [0, 0]) 2 = some
        { rv := .ok ()
          typeByte := some 0x19
          mfgDateTime := some 827861760
          fields := [some [0xC2, 0x48, 0x50], none, some [0xC3, 0x31, 0x32, 0x33], some [0x01, 0x07],
            some [0xC0]]
          customFields := [[0xC2, 0x58, 0x59], []] } := by
  have hfields : ∀ field ∈ boardFields, IsField field := by
    simp only [boardFields, List.forall_mem_cons, List.not_mem_nil]
    refine ⟨?_, ?_, ?_, ?_, ?_, ?_, by simp⟩ <;> exact isField_of_length (by decide) (by decide)
  exact areaCall_decodes startOf1996 (.board true true true false true true true) 2 rfl hfields (by decide)

end FreeIpmi.Fru
