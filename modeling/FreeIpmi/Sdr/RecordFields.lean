import FreeIpmi.Sdr.Records

/-! What the getters of `sdr/ipmi-sdr-parse.c` return.

    The type of a record decides which template its object has, and in every template the modelled
    fields lie within one byte. So a getter returns some bits of one byte of the record, or fails
    because the record ends before it (`recordField`). -/

namespace FreeIpmi.Sdr
open Calls

/-- What a getter returns of the field of `len` bits from bit `start` on. -/
def recordField (sdrRecord : List Byte) (start len : ℕ) : Except SdrStop Byte :=
  match sdrRecord[start / 8]? with
  | none => .error (.errnum .ipmiError)
  | some x => .ok (Fiid.bitField x (start % 8) len)

/-- The type that `_sdr_record_get_common` finds, or its error. -/
def acceptedFormat (sdrRecord : List Byte) (acceptableRecordTypes : List SdrFormat) :
    Except SdrStop SdrFormat :=
  if sdrRecord = [] then .error (.errnum .parameters)
  else if sdrRecord.length < 5 then .error (.errnum .parseIncompleteSdrRecord)
  else match SdrFormat.find acceptableRecordTypes (sdrRecord.getD sdrRecordTypeIndex 0) with
    | none => .error (.errnum .parseInvalidSdrRecord)
    | some format => .ok format

theorem SdrFormat.find_some {types : List SdrFormat} {recordType : Byte} {format : SdrFormat}
    (h : SdrFormat.find types recordType = some format) :
    format ∈ types ∧ format.recordType = recordType := by
  have htype := List.find?_some h
  exact ⟨List.mem_of_find?_eq_some h, of_decide_eq_true htype⟩

/-- The type that is found is acceptable, and is the type of the record. -/
theorem acceptedFormat_ok {r : List Byte} {types : List SdrFormat} {format : SdrFormat}
    (h : acceptedFormat r types = .ok format) :
    5 ≤ r.length ∧ format ∈ types ∧ r.getD sdrRecordTypeIndex 0 = format.recordType := by
  rw [acceptedFormat] at h
  split at h
  · cases h
  · split at h
    · cases h
    · rename_i hlen
      split at h
      · cases h
      · rename_i found hfind
        cases h
        obtain ⟨hmem, htype⟩ := SdrFormat.find_some hfind
        exact ⟨Nat.le_of_not_lt hlen, hmem, htype.symm⟩

theorem acceptedFormat_of_mem {r : List Byte} {types : List SdrFormat} {format : SdrFormat}
    (hlen : 5 ≤ r.length) (hmem : format ∈ types)
    (htype : r.getD sdrRecordTypeIndex 0 = format.recordType) :
    ∃ format', acceptedFormat r types = .ok format' := by
  have hne : r ≠ [] := by
    rintro rfl
    exact absurd hlen (by decide)
  have hsome : (SdrFormat.find types (r.getD sdrRecordTypeIndex 0)).isSome = true :=
    List.find?_isSome.mpr ⟨format, hmem, decide_eq_true htype.symm⟩
  obtain ⟨format', hformat'⟩ := Option.isSome_iff_exists.mp hsome
  exact ⟨format', by rw [acceptedFormat, if_neg hne, if_neg (by omega), hformat']⟩

theorem acceptedFormat_mono {r : List Byte} {a b : List SdrFormat} {format : SdrFormat} (hab : a ⊆ b)
    (h : acceptedFormat r a = .ok format) : ∃ format', acceptedFormat r b = .ok format' := by
  obtain ⟨hlen, hmem, htype⟩ := acceptedFormat_ok h
  exact acceptedFormat_of_mem hlen (hab hmem) htype

theorem acceptedFormat_of_find {r : List Byte} {types : List SdrFormat} {format : SdrFormat}
    (hlen : 5 ≤ r.length) (hfind : SdrFormat.find types (r.getD sdrRecordTypeIndex 0) = some format) :
    acceptedFormat r types = .ok format := by
  have hne : r ≠ [] := by
    rintro rfl
    exact absurd hlen (by decide)
  rw [acceptedFormat, if_neg hne, if_neg (by omega), hfind]

theorem recordField_byte {r : List Byte} {k lo len : ℕ} (hlo : lo < 8) (hk : k < r.length) :
    recordField r (8 * k + lo) len = .ok (Fiid.bitField (r.getD k 0) lo len) := by
  have hdiv : (8 * k + lo) / 8 = k := by omega
  have hmod : (8 * k + lo) % 8 = lo := by omega
  rw [recordField, hdiv, hmod, List.getElem?_eq_getElem hk, List.getD_eq_getElem _ _ hk]

theorem recordField_missing {r : List Byte} {k lo : ℕ} (len : ℕ) (hlo : lo < 8) (hk : r.length ≤ k) :
    recordField r (8 * k + lo) len = .error (.errnum .ipmiError) := by
  have hdiv : (8 * k + lo) / 8 = k := by omega
  rw [recordField, hdiv, List.getElem?_eq_none hk]

/-! ### The templates -/

theorem createRecordHeader_isSome (ndebug : Bool) :
    (Fiid.fiidObjCreate ndebug tmplSdrRecordHeader).isSome = true := by
  cases ndebug <;> decide

theorem tmpl_isSome (ndebug : Bool) (format : SdrFormat) :
    (Fiid.fiidObjCreate ndebug format.tmpl).isSome = true := by
  cases ndebug <;> cases format <;> decide +kernel

theorem tmpl_byteFields (format : SdrFormat) : Fiid.ByteFields format.tmpl.fields := by
  cases format <;> decide +kernel

/-! ### Type and object -/

section Record
variable {ndebug : Bool} {r : List Byte} {types : List SdrFormat} {format : SdrFormat}
  {obj : Fiid.FiidObj}

/-- The header of a record is read completely. -/
theorem sdrRecordIdAndType_eq (ndebug : Bool) (hlen : 5 ≤ r.length) :
    ∃ recordId, sdrRecordIdAndType ndebug r = .ok (recordId, r.getD sdrRecordTypeIndex 0) := by
  obtain ⟨obj, hcreate⟩ := Option.isSome_iff_exists.mp (createRecordHeader_isSome ndebug)
  have hof := (Fiid.create_wf hcreate).of
  have hunset := (show Fiid.Fresh ndebug tmplSdrRecordHeader obj from Or.inl hcreate).unset
  have htake : (r.take 5).length = 5 := by
    rw [List.length_take]
    omega
  have hal : Fiid.EndsByteAligned tmplSdrRecordHeader.fields (r.take 5).length := by
    rw [htake]
    decide
  obtain ⟨obj', n, hset, hfill⟩ := Fiid.trySetAll_filled hof hunset hal
  have hlens := hfill.full (by rw [htake]; decide)
  have hholds : obj'.Holds (tmplSdrRecordHeader.fields.map (·.maxFieldLen)) (r.take 5) := by
    have hn := hfill.len
    rw [htake, show Fiid.bitLen tmplSdrRecordHeader.fields = 40 from rfl] at hn
    refine ⟨hlens, ?_⟩
    rw [hfill.bits, htake]
    congr 1
  have hid := hholds.getStrict hfill.of (show Fiid.valuePlace _ _ "record_id" = some (0, 16) by decide)
  have htype := hfill.getStrict hof hunset
    (show Fiid.bytePlace _ "record_type" = some (24, 8) by decide)
  have hbyte : (r.take 5)[24 / 8]? = some (r.getD sdrRecordTypeIndex 0) := by
    rw [List.getElem?_take_of_lt (by norm_num),
      List.getD_eq_getElem _ _ (show sdrRecordTypeIndex < r.length from Nat.lt_of_lt_of_le (by decide) hlen)]
    exact List.getElem?_eq_getElem _
  have hne : r ≠ [] := by
    rintro rfl
    exact absurd hlen (by decide)
  rw [hbyte] at htype
  refine ⟨(Fiid.valueAt (r.take 5) 0 16).setWidth 16, ?_⟩
  rw [sdrRecordIdAndType, if_neg hne, if_neg (by omega), createRecordHeader, hcreate, ok_bind, hset,
    orFiidErrnum, ok_bind]
  simp only [hid, htype, orFiidErrnum, ok_bind]
  rw [BitVec.setWidth_setWidth_of_le _ (by norm_num), BitVec.setWidth_eq, Fiid.bitField_full]
  rfl

/-- The object of a record: a getter reads from the bytes of the record. -/
structure RecordObj (format : SdrFormat) (r : List Byte) (obj : Fiid.FiidObj) : Prop where
  getUInt8 : ∀ {field : String} {start len : ℕ},
    Fiid.bytePlace format.tmpl.fields field = some (start, len) →
      Sdr.getUInt8 obj field = recordField r start len
  getData : ∀ {field : String} {o m dataLen : ℕ},
    Fiid.wholePlace format.tmpl.fields field = some (o, m) → m ≤ dataLen →
      Fiid.fiidObjGetData obj field dataLen = .ok ((r.drop o).take m)

theorem Fiid.Filled.recordObj {obj₀ : Fiid.FiidObj} {n : ℕ}
    (h : Fiid.Filled format.tmpl.fields obj₀ obj r n) (hof : obj₀.Of format.tmpl.fields)
    (hunset : obj₀.Unset) : RecordObj format r obj where
  getUInt8 := by
    intro field start len hplace
    rw [Sdr.getUInt8, h.getStrict hof hunset hplace, recordField]
    cases r[start / 8]? with
    | none => rfl
    | some x =>
      simp only [orFiidErrnum, ok_bind]
      rw [BitVec.setWidth_setWidth_of_le _ (by norm_num), BitVec.setWidth_eq]
      rfl
  getData := fun hplace hdst => h.getData hof hunset hplace hdst

/-- `_sdr_record_get_common`: the object of the record, unless the type is not accepted. -/
theorem sdrRecordGetCommon_cases (ndebug : Bool) (r : List Byte) (types : List SdrFormat) :
    (∃ e, acceptedFormat r types = .error e ∧ sdrRecordGetCommon ndebug r types = .error e) ∨
      ∃ format obj, acceptedFormat r types = .ok format ∧
        sdrRecordGetCommon ndebug r types = .ok obj ∧ RecordObj format r obj := by
  rw [acceptedFormat]
  by_cases hne : r = []
  · exact Or.inl ⟨_, if_pos hne, by rw [sdrRecordGetCommon, sdrRecordIdAndType, if_pos hne]; rfl⟩
  · rw [if_neg hne]
    by_cases hshort : r.length < 5
    · refine Or.inl ⟨_, if_pos hshort, ?_⟩
      rw [sdrRecordGetCommon, sdrRecordIdAndType, if_neg hne, if_pos hshort]
      rfl
    · rw [if_neg hshort]
      obtain ⟨recordId, hheader⟩ := sdrRecordIdAndType_eq ndebug (Nat.le_of_not_lt hshort)
      rw [sdrRecordGetCommon, hheader, ok_bind]
      cases hfind : SdrFormat.find types (r.getD sdrRecordTypeIndex 0) with
      | none => exact Or.inl ⟨_, rfl, by simp only [hfind]⟩
      | some format =>
        obtain ⟨obj₀, hcreate⟩ := Option.isSome_iff_exists.mp (tmpl_isSome ndebug format)
        have hof := (Fiid.create_wf hcreate).of
        have hunset := (show Fiid.Fresh ndebug format.tmpl obj₀ from Or.inl hcreate).unset
        obtain ⟨obj, n, hset, hfill⟩ :=
          Fiid.trySetAll_filled hof hunset ((tmpl_byteFields format).endsByteAligned r.length)
        refine Or.inr ⟨format, obj, rfl, ?_, Fiid.Filled.recordObj hfill hof hunset⟩
        simp only [hfind, createRecord, hcreate, ok_bind, hset, orFiidErrnum]
        rfl

/-- A getter is a function of the bytes when it is one on the objects of all accepted types. -/
theorem bind_getCommon {α : Type} {get : Fiid.FiidObj → Except SdrStop α}
    {read : SdrFormat → Except SdrStop α}
    (h : ∀ format obj, format ∈ types → RecordObj format r obj → get obj = read format) :
    (sdrRecordGetCommon ndebug r types >>= get) = acceptedFormat r types >>= read := by
  obtain ⟨e, haccept, hget⟩ | ⟨format, obj, haccept, hget, hobj⟩ :=
    sdrRecordGetCommon_cases ndebug r types
  · rw [haccept, hget, error_bind, error_bind]
  · rw [haccept, hget, ok_bind, ok_bind]
    exact h format obj (acceptedFormat_ok haccept).2.1 hobj

/-! ### The getters -/

/-- The byte with the share count; the one behind it has the offset of the first name. -/
def sharingIndex : SdrFormat → ℕ
  | .compactSensorRecord => sdrRecordCompactShareCount
  | _ => sdrRecordEventShareCount

theorem sensorKey_places {format : SdrFormat} (h : format ∈ sensorRecordTypes) :
    Fiid.bytePlace format.tmpl.fields "sensor_owner_id.type" = some (40, 1) ∧
      Fiid.bytePlace format.tmpl.fields "sensor_owner_id" = some (41, 7) ∧
      Fiid.bytePlace format.tmpl.fields "sensor_owner_lun" = some (48, 2) ∧
      Fiid.bytePlace format.tmpl.fields "channel_number" = some (52, 4) ∧
      Fiid.bytePlace format.tmpl.fields "sensor_number" = some (56, 8) := by
  fin_cases h <;> decide +kernel

/-- Where the entity id of a record type stands. -/
def entityIndex : SdrFormat → ℕ
  | .genericDeviceLocatorRecord => 12
  | .managementControllerDeviceLocatorRecord => 12
  | _ => 8

theorem entity_places {format : SdrFormat} (h : format ∈ sensorRecordTypes
    ++ [.genericDeviceLocatorRecord, .managementControllerDeviceLocatorRecord]) :
    Fiid.bytePlace format.tmpl.fields "entity_id" = some (8 * entityIndex format, 8) ∧
      Fiid.bytePlace format.tmpl.fields "entity_instance" = some (8 * entityIndex format + 8, 7) ∧
      Fiid.bytePlace format.tmpl.fields "entity_instance.type"
        = some (8 * entityIndex format + 15, 1) := by
  fin_cases h <;> decide +kernel

theorem sharing_places {format : SdrFormat} (h : format ∈ [.compactSensorRecord, .eventOnlyRecord]) :
    Fiid.bytePlace format.tmpl.fields "share_count" = some (8 * sharingIndex format, 4) ∧
      Fiid.bytePlace format.tmpl.fields "id_string_instance_modifier_type"
        = some (8 * sharingIndex format + 4, 2) ∧
      Fiid.bytePlace format.tmpl.fields "id_string_instance_modifier_offset"
        = some (8 * sharingIndex format + 8, 7) ∧
      Fiid.bytePlace format.tmpl.fields "entity_instance_sharing"
        = some (8 * sharingIndex format + 15, 1) := by
  fin_cases h <;> decide +kernel

theorem ipmiSdrParseSensorNumber_eq (ndebug : Bool) (r : List Byte) :
    ipmiSdrParseSensorNumber ndebug r
      = acceptedFormat r sensorRecordTypes >>= fun _ => recordField r 56 8 :=
  bind_getCommon fun _ _ hformat hobj => hobj.getUInt8 (sensorKey_places hformat).2.2.2.2

theorem ipmiSdrParseSensorOwnerId_eq (ndebug : Bool) (r : List Byte) :
    ipmiSdrParseSensorOwnerId ndebug r = acceptedFormat r sensorRecordTypes >>= fun _ => do
      let sensorOwnerIdType ← recordField r 40 1
      let sensorOwnerId ← recordField r 41 7
      return (sensorOwnerIdType, sensorOwnerId) := by
  refine bind_getCommon fun format obj hformat hobj => ?_
  obtain ⟨htype, hid, -⟩ := sensorKey_places hformat
  rw [hobj.getUInt8 htype, hobj.getUInt8 hid]

theorem ipmiSdrParseSensorOwnerLun_eq (ndebug : Bool) (r : List Byte) :
    ipmiSdrParseSensorOwnerLun ndebug r = acceptedFormat r sensorRecordTypes >>= fun _ => do
      let sensorOwnerLun ← recordField r 48 2
      let channelNumber ← recordField r 52 4
      return (sensorOwnerLun, channelNumber) := by
  refine bind_getCommon fun format obj hformat hobj => ?_
  obtain ⟨-, -, hlun, hchannel, -⟩ := sensorKey_places hformat
  rw [hobj.getUInt8 hlun, hobj.getUInt8 hchannel]

/-- The byte with the event/reading type code. -/
def eventReadingTypeCodeIndex : SdrFormat → ℕ
  | .eventOnlyRecord => 11
  | _ => 13

theorem eventReadingTypeCode_place {format : SdrFormat} (h : format ∈ sensorRecordTypes) :
    Fiid.bytePlace format.tmpl.fields "event_reading_type_code"
      = some (8 * eventReadingTypeCodeIndex format, 8) := by
  fin_cases h <;> decide +kernel

theorem ipmiSdrParseEventReadingTypeCode_eq (ndebug : Bool) (r : List Byte) :
    ipmiSdrParseEventReadingTypeCode ndebug r = acceptedFormat r sensorRecordTypes
      >>= fun format => recordField r (8 * eventReadingTypeCodeIndex format) 8 :=
  bind_getCommon fun _ _ hformat hobj => hobj.getUInt8 (eventReadingTypeCode_place hformat)

theorem ipmiSdrParseEntityIdInstanceType_eq (ndebug : Bool) (r : List Byte) :
    ipmiSdrParseEntityIdInstanceType ndebug r = acceptedFormat r (sensorRecordTypes
        ++ [.genericDeviceLocatorRecord, .managementControllerDeviceLocatorRecord])
      >>= fun format => do
        let entityId ← recordField r (8 * entityIndex format) 8
        let entityInstance ← recordField r (8 * entityIndex format + 8) 7
        let entityInstanceType ← recordField r (8 * entityIndex format + 15) 1
        return (entityId, entityInstance, entityInstanceType) := by
  refine bind_getCommon fun format obj hformat hobj => ?_
  obtain ⟨hid, hinstance, htype⟩ := entity_places hformat
  rw [hobj.getUInt8 hid, hobj.getUInt8 hinstance, hobj.getUInt8 htype]

/-- A field that is read only when it is wanted. -/
def wantedField (wanted : Bool) (sdrRecord : List Byte) (start len : ℕ) : Except SdrStop Byte :=
  if wanted then recordField sdrRecord start len else .ok 0

theorem RecordObj.getWanted {field : String} {start len : ℕ} (h : RecordObj format r obj)
    (hplace : Fiid.bytePlace format.tmpl.fields field = some (start, len)) (wanted : Bool) :
    Sdr.getWanted wanted obj field = wantedField wanted r start len := by
  rw [Sdr.getWanted, h.getUInt8 hplace]
  rfl

theorem ipmiSdrParseSensorRecordSharing_eq (ndebug : Bool) (r : List Byte) (wanted : SharingWanted) :
    ipmiSdrParseSensorRecordSharing ndebug r wanted
      = acceptedFormat r [.compactSensorRecord, .eventOnlyRecord] >>= fun format => do
        let shareCount ← wantedField wanted.shareCount r (8 * sharingIndex format) 4
        let modifierType ←
          wantedField wanted.idStringInstanceModifierType r (8 * sharingIndex format + 4) 2
        let modifierOffset ←
          wantedField wanted.idStringInstanceModifierOffset r (8 * sharingIndex format + 8) 7
        let entityInstanceSharing ←
          wantedField wanted.entityInstanceSharing r (8 * sharingIndex format + 15) 1
        return ⟨shareCount, modifierType, modifierOffset, entityInstanceSharing⟩ := by
  refine bind_getCommon fun format obj hformat hobj => ?_
  obtain ⟨hshare, htype, hoffset, hsharing⟩ := sharing_places hformat
  rw [hobj.getWanted hshare, hobj.getWanted htype, hobj.getWanted hoffset, hobj.getWanted hsharing]

/-- Where the id string of a record type starts. -/
def idStringIndex : SdrFormat → ℕ
  | .fullSensorRecord => 48
  | .compactSensorRecord => 32
  | _ => 17

theorem idString_place {format : SdrFormat} (h : format ∈ sensorRecordTypes) :
    Fiid.wholePlace format.tmpl.fields "id_string" = some (idStringIndex format, 16) := by
  fin_cases h <;> decide +kernel

theorem ipmiSdrParseIdString_eq (ndebug : Bool) (r : List Byte) {idStringLen : ℕ}
    (hlen : 16 ≤ idStringLen) :
    ipmiSdrParseIdString ndebug r idStringLen = acceptedFormat r sensorRecordTypes
      >>= fun format => .ok ((r.drop (idStringIndex format)).take 16) := by
  refine bind_getCommon fun format obj hformat hobj => ?_
  rw [hobj.getData (idString_place hformat) hlen]
  rfl

end Record

end FreeIpmi.Sdr
