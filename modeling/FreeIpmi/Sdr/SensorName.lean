import FreeIpmi.Lib.Text
import FreeIpmi.Sdr.RecordFields

/-! The name of a sensor (`sdr/ipmi-sdr-parse-util.c`).

    The sensors that share a record are told apart by a suffix of the record's id string: a number,
    or letters. The numbers are as the record says. The letters are computed from the modifier type
    (which is 1 for all of them) in place of the modifier offset, so they depend on the offset not at
    all, and on the sensor number only in what no share count reaches. -/

namespace FreeIpmi.Sdr
open Calls

/-- `IPMI_SDR_MAX_ID_STRING_LENGTH`, and the same for devices. -/
def sdrMaxIdStringLength : ℕ := 16

/-- `IPMI_SDR_SENSOR_NAME_FLAGS_IGNORE_SHARED_SENSORS`. -/
def sdrSensorNameFlagsIgnoreSharedSensors : BitVec 32 := 0x00000001

/-- `IPMI_SDR_ID_STRING_INSTANCE_MODIFIER_TYPE_ALPHA`. -/
def idStringInstanceModifierTypeAlpha : Byte := 0x1

/-- `IPMI_SDR_CHARS_IN_ALPHABET`. -/
def sdrCharsInAlphabet : ℕ := 26

/-- `%c` of `'A' + n`. -/
def letterFromA (n : ℕ) : Byte := BitVec.ofNat 8 (65 + n)

/-- The suffix that `_get_shared_sensor_name` prints behind the blank. -/
def sharedSuffix (modifierType modifierOffset sensorNumberOffset : Byte) : List Byte :=
  if modifierType = idStringInstanceModifierTypeAlpha then
    -- the type stands where the offset is meant
    if modifierType.toNat + sensorNumberOffset.toNat < sdrCharsInAlphabet then
      [letterFromA ((modifierType.toNat + sensorNumberOffset.toNat) / sdrCharsInAlphabet)]
    else [letterFromA ((modifierType.toNat + sensorNumberOffset.toNat) / sdrCharsInAlphabet),
      letterFromA (modifierType.toNat % sdrCharsInAlphabet)]
  else Text.decimal (modifierOffset.toNat + sensorNumberOffset.toNat)

/-- `_get_shared_sensor_name`: the text in `buf`. -/
def getSharedSensorName (ndebug : Bool) (sdrRecord : List Byte) (sensorNumber : Byte)
    (idString : List Byte) (buflen : ℕ) : Except SdrStop (List Byte) := do
  let sharing ← ipmiSdrParseSensorRecordSharing ndebug sdrRecord ⟨true, true, true, false⟩
  if sharing.shareCount.toNat > 1 then
    let sensorNumberBase ← ipmiSdrParseSensorNumber ndebug sdrRecord
    if sensorNumber.toNat ≥ sensorNumberBase.toNat then
      let suffix := sharedSuffix sharing.idStringInstanceModifierType
        sharing.idStringInstanceModifierOffset (sensorNumber - sensorNumberBase)
      return Text.snprintf buflen (idString ++ 0x20 :: suffix)
    else return Text.snprintf buflen idString
  else return Text.snprintf buflen idString

/-- The id string of a sensor or of a device, whichever the record type has. -/
def sensorNameIdString (ndebug : Bool) (sdrRecord : List Byte) (recordType : Byte) :
    Except SdrStop (List Byte) :=
  match SdrFormat.find sensorRecordTypes recordType,
    SdrFormat.find [.genericDeviceLocatorRecord, .fruDeviceLocatorRecord,
      .managementControllerDeviceLocatorRecord] recordType with
  | some _, _ => ipmiSdrParseIdString ndebug sdrRecord sdrMaxIdStringLength
  | none, some _ => ipmiSdrParseDeviceIdString ndebug sdrRecord sdrMaxIdStringLength
  | none, none => .error (.errnum .parseInvalidSdrRecord)

/-- `ipmi_sdr_parse_sensor_name`: the text in `buf`. -/
def ipmiSdrParseSensorName (ndebug : Bool) (sdrRecord : List Byte) (sensorNumber : Byte)
    (flags : BitVec 32) (buflen : ℕ) : Except SdrStop (List Byte) :=
  if flags &&& ~~~sdrSensorNameFlagsIgnoreSharedSensors ≠ 0 ∨ buflen = 0 then
    .error (.errnum .parameters)
  else do
    let (_, recordType) ← sdrRecordIdAndType ndebug sdrRecord
    let idString ← sensorNameIdString ndebug sdrRecord recordType
    -- the array behind the pointer is zeroed and one byte longer
    let idString := Text.cString idString
    if (recordType = sdrFormatCompactSensorRecord ∨ recordType = sdrFormatEventOnlyRecord)
        ∧ flags &&& sdrSensorNameFlagsIgnoreSharedSensors = 0 then
      getSharedSensorName ndebug sdrRecord sensorNumber idString buflen
    else return Text.snprintf buflen idString

/-! ### The names of a shared record -/

/-- A compact or event-only record whose fields on sharing are these. -/
structure Shares (r : List Byte) (sharing : Sharing) (sensorNumberBase : Byte) : Prop where
  fields : ∃ format, acceptedFormat r [.compactSensorRecord, .eventOnlyRecord] = .ok format ∧
    recordField r (8 * sharingIndex format) 4 = .ok sharing.shareCount ∧
    recordField r (8 * sharingIndex format + 4) 2 = .ok sharing.idStringInstanceModifierType ∧
    recordField r (8 * sharingIndex format + 8) 7 = .ok sharing.idStringInstanceModifierOffset ∧
    recordField r (8 * sharingIndex format + 15) 1 = .ok sharing.entityInstanceSharing
  base : recordField r 56 8 = .ok sensorNumberBase

/-- The sensor number is one of those that share the record. -/
def Sharing.Covers (sharing : Sharing) (sensorNumberBase sensorNumber : Byte) : Prop :=
  sensorNumberBase.toNat ≤ sensorNumber.toNat ∧
    sensorNumber.toNat < sensorNumberBase.toNat + sharing.shareCount.toNat

/-- The suffix of instance `n` by what the specification says of the modifier type. -/
def instanceSuffix (modifierType : Byte) (n : ℕ) : List Byte :=
  if modifierType = idStringInstanceModifierTypeAlpha then Text.letters n else Text.decimal n

/-- Every sensor of the record has its name, and no two have the same. -/
structure SharedNames (ndebug : Bool) (r : List Byte) (sharing : Sharing) (sensorNumberBase : Byte)
    (idString : List Byte) (buflen : ℕ) : Prop where
  named : ∀ sensorNumber, sharing.Covers sensorNumberBase sensorNumber →
    getSharedSensorName ndebug r sensorNumber idString buflen
      = .ok (idString ++ 0x20 :: instanceSuffix sharing.idStringInstanceModifierType
        (sharing.idStringInstanceModifierOffset.toNat
          + (sensorNumber.toNat - sensorNumberBase.toNat)))
  distinct : ∀ a b, sharing.Covers sensorNumberBase a → sharing.Covers sensorNumberBase b → a ≠ b →
    getSharedSensorName ndebug r a idString buflen ≠ getSharedSensorName ndebug r b idString buflen

section Shared
variable {r : List Byte} {sharing : Sharing} {sensorNumberBase sensorNumber : Byte}

theorem recordField_lt {start len : ℕ} {x : Byte} (hlen : len ≤ 8) (h : recordField r start len = .ok x) :
    x.toNat < 2 ^ len := by
  rw [recordField] at h
  split at h
  · cases h
  · cases h
    exact Fiid.bitField_lt _ hlen

theorem Shares.bounds (h : Shares r sharing sensorNumberBase) :
    sharing.shareCount.toNat < 16 ∧ sharing.idStringInstanceModifierOffset.toNat < 128 := by
  obtain ⟨format, -, hshare, -, hoffset, -⟩ := h.fields
  exact ⟨recordField_lt (by norm_num) hshare, recordField_lt (by norm_num) hoffset⟩

/-- The two getters on a record that shares. -/
theorem Shares.getters (h : Shares r sharing sensorNumberBase) (ndebug : Bool) :
    ipmiSdrParseSensorRecordSharing ndebug r ⟨true, true, true, false⟩
        = .ok { sharing with entityInstanceSharing := 0 } ∧
      ipmiSdrParseSensorNumber ndebug r = .ok sensorNumberBase := by
  obtain ⟨format, haccept, hshare, htype, hoffset, -⟩ := h.fields
  refine ⟨?_, ?_⟩
  · rw [ipmiSdrParseSensorRecordSharing_eq, haccept, ok_bind]
    simp only [wantedField, if_true, hshare, htype, hoffset, ok_bind, Bool.false_eq_true, if_false]
    rfl
  · obtain ⟨format', haccept'⟩ := acceptedFormat_mono (b := sensorRecordTypes) (by decide) haccept
    rw [ipmiSdrParseSensorNumber_eq, haccept', ok_bind, h.base]

/-- `ipmi_sdr_parse_sensor_name` of such a record names the sensor after the record's id string. -/
theorem ipmiSdrParseSensorName_shared {format : SdrFormat} (ndebug : Bool) {buflen : ℕ}
    (haccept : acceptedFormat r [.compactSensorRecord, .eventOnlyRecord] = .ok format)
    (hbuf : buflen ≠ 0) (sensorNumber : Byte) :
    ipmiSdrParseSensorName ndebug r sensorNumber 0 buflen
      = getSharedSensorName ndebug r sensorNumber
        (Text.cString ((r.drop (idStringIndex format)).take 16)) buflen := by
  obtain ⟨hlen, hmem, htype⟩ := acceptedFormat_ok haccept
  obtain ⟨recordId, hheader⟩ := sdrRecordIdAndType_eq ndebug hlen
  have hfind : SdrFormat.find sensorRecordTypes format.recordType = some format := by
    fin_cases hmem <;> decide
  have hsensor : acceptedFormat r sensorRecordTypes = .ok format := by
    have hne : r ≠ [] := by
      rintro rfl
      exact absurd hlen (by decide)
    rw [acceptedFormat, if_neg hne, if_neg (by omega), htype, hfind]
  have hid : sensorNameIdString ndebug r format.recordType
      = .ok ((r.drop (idStringIndex format)).take 16) := by
    simp only [sensorNameIdString, hfind]
    rw [ipmiSdrParseIdString_eq ndebug r (show 16 ≤ sdrMaxIdStringLength by decide), hsensor, ok_bind]
  have hshared : format.recordType = sdrFormatCompactSensorRecord
      ∨ format.recordType = sdrFormatEventOnlyRecord := by
    fin_cases hmem
    · exact Or.inl rfl
    · exact Or.inr rfl
  rw [ipmiSdrParseSensorName, if_neg (by simp [hbuf]), hheader, ok_bind]
  simp only [htype, hid, ok_bind]
  rw [if_pos ⟨hshared, by decide⟩]

/-- The offset of a covered sensor number does not wrap. -/
theorem Sharing.Covers.sub (h : sharing.Covers sensorNumberBase sensorNumber) :
    (sensorNumber - sensorNumberBase).toNat = sensorNumber.toNat - sensorNumberBase.toNat := by
  rw [BitVec.toNat_sub]
  have hlt := sensorNumber.isLt
  have hle := h.1
  omega

/-- What the suffix comes to: no share count reaches the second round of letters. -/
theorem sharedSuffix_eq {modifierType modifierOffset sensorNumberOffset : Byte}
    (h : sensorNumberOffset.toNat < 16) :
    sharedSuffix modifierType modifierOffset sensorNumberOffset
      = if modifierType = idStringInstanceModifierTypeAlpha then [65]
        else Text.decimal (modifierOffset.toNat + sensorNumberOffset.toNat) := by
  rw [sharedSuffix]
  split
  · rename_i halpha
    have hone : modifierType.toNat = 1 := by rw [halpha]; rfl
    have hzero : (1 + sensorNumberOffset.toNat) / sdrCharsInAlphabet = 0 := by
      rw [sdrCharsInAlphabet]
      omega
    rw [hone, if_pos (by rw [sdrCharsInAlphabet]; omega), hzero]
    rfl
  · rfl

theorem getSharedSensorName_eq (h : Shares r sharing sensorNumberBase)
    (hshare : 1 < sharing.shareCount.toNat) (hcover : sharing.Covers sensorNumberBase sensorNumber)
    (ndebug : Bool) {idString : List Byte} {buflen : ℕ} (hbuf : idString.length + 4 < buflen) :
    getSharedSensorName ndebug r sensorNumber idString buflen
      = .ok (idString ++ 0x20 ::
        if sharing.idStringInstanceModifierType = idStringInstanceModifierTypeAlpha then [65]
        else Text.decimal (sharing.idStringInstanceModifierOffset.toNat
          + (sensorNumber.toNat - sensorNumberBase.toNat))) := by
  obtain ⟨hlt, hoffset⟩ := h.bounds
  obtain ⟨hsharing, hbase⟩ := h.getters ndebug
  have hsub := hcover.sub
  obtain ⟨hle, hend⟩ := hcover
  rw [getSharedSensorName, hsharing, ok_bind]
  simp only [hshare, if_true, hbase, ok_bind, ge_iff_le, hle]
  rw [sharedSuffix_eq (by omega), hsub, Text.snprintf_fits ?_]
  · rfl
  · have hdigits := Text.length_decimal_le (k := 3) (by norm_num)
      (show sharing.idStringInstanceModifierOffset.toNat
        + (sensorNumber.toNat - sensorNumberBase.toNat) < 10 ^ 3 by omega)
    rw [List.length_append, List.length_cons]
    split
    · rw [List.length_singleton]
      omega
    · omega

/-- A sensor has its name exactly if the suffix is a number, or the letter A that all of them get. -/
theorem getSharedSensorName_right_iff (h : Shares r sharing sensorNumberBase)
    (hshare : 1 < sharing.shareCount.toNat) (hcover : sharing.Covers sensorNumberBase sensorNumber)
    (ndebug : Bool) {idString : List Byte} {buflen : ℕ} (hbuf : idString.length + 4 < buflen) :
    getSharedSensorName ndebug r sensorNumber idString buflen
        = .ok (idString ++ 0x20 :: instanceSuffix sharing.idStringInstanceModifierType
          (sharing.idStringInstanceModifierOffset.toNat
            + (sensorNumber.toNat - sensorNumberBase.toNat))) ↔
      (sharing.idStringInstanceModifierType = idStringInstanceModifierTypeAlpha →
        sharing.idStringInstanceModifierOffset.toNat = 0 ∧ sensorNumber = sensorNumberBase) := by
  have hle := hcover.1
  rw [getSharedSensorName_eq h hshare hcover ndebug hbuf, instanceSuffix]
  by_cases halpha : sharing.idStringInstanceModifierType = idStringInstanceModifierTypeAlpha
  · rw [if_pos halpha, if_pos halpha]
    simp only [Except.ok.injEq, List.append_cancel_left_eq, List.cons.injEq, true_and, halpha,
      forall_const]
    rw [eq_comm, Text.letters_eq_A_iff, ← BitVec.toNat_inj]
    omega
  · rw [if_neg halpha, if_neg halpha]
    exact ⟨fun _ halpha' => absurd halpha' halpha, fun _ => rfl⟩

/-- Two sensors get different names exactly if the suffix is a number. -/
theorem getSharedSensorName_ne_iff (h : Shares r sharing sensorNumberBase)
    (hshare : 1 < sharing.shareCount.toNat) {a b : Byte} (ha : sharing.Covers sensorNumberBase a)
    (hb : sharing.Covers sensorNumberBase b) (hne : a ≠ b)
    (ndebug : Bool) {idString : List Byte} {buflen : ℕ} (hbuf : idString.length + 4 < buflen) :
    getSharedSensorName ndebug r a idString buflen ≠ getSharedSensorName ndebug r b idString buflen ↔
      sharing.idStringInstanceModifierType ≠ idStringInstanceModifierTypeAlpha := by
  rw [getSharedSensorName_eq h hshare ha ndebug hbuf, getSharedSensorName_eq h hshare hb ndebug hbuf]
  by_cases halpha : sharing.idStringInstanceModifierType = idStringInstanceModifierTypeAlpha
  · simp only [halpha, if_true, ne_eq, not_true]
  · simp only [halpha, if_false, ne_eq, not_false_eq_true, iff_true]
    intro hsame
    rw [Except.ok.injEq, List.append_cancel_left_eq, List.cons.injEq] at hsame
    have hvalue := Text.decimal_injective hsame.2
    have hlea := ha.1
    have hleb := hb.1
    exact hne (BitVec.eq_of_toNat_eq (by omega))

/-- The names of a record that shares are right and different exactly if they are numbered, or if
    there is a single sensor number, which is called A. -/
theorem sharedNames_iff (h : Shares r sharing sensorNumberBase)
    (hshare : 1 < sharing.shareCount.toNat) (ndebug : Bool) {idString : List Byte} {buflen : ℕ}
    (hbuf : idString.length + 4 < buflen) :
    SharedNames ndebug r sharing sensorNumberBase idString buflen ↔
      (sharing.idStringInstanceModifierType = idStringInstanceModifierTypeAlpha →
        sharing.idStringInstanceModifierOffset.toNat = 0 ∧ sensorNumberBase.toNat = 255) := by
  have hself : sharing.Covers sensorNumberBase sensorNumberBase := ⟨Nat.le_refl _, by omega⟩
  have hlt := sensorNumberBase.isLt
  constructor
  · intro hnames halpha
    have hright := (getSharedSensorName_right_iff h hshare hself ndebug hbuf).mp
      (hnames.named _ hself) halpha
    refine ⟨hright.1, ?_⟩
    by_contra hnot
    -- there is a second sensor number, with the same name
    have hnext : (sensorNumberBase + 1).toNat = sensorNumberBase.toNat + 1 := by
      rw [BitVec.toNat_add]
      exact Nat.mod_eq_of_lt (by show sensorNumberBase.toNat + 1 < 256; omega)
    have hcover : sharing.Covers sensorNumberBase (sensorNumberBase + 1) := by
      rw [Sharing.Covers, hnext]
      omega
    have hne : sensorNumberBase ≠ sensorNumberBase + 1 := by
      intro heq
      rw [← BitVec.toNat_inj, hnext] at heq
      omega
    exact (getSharedSensorName_ne_iff h hshare hself hcover hne ndebug hbuf).mp
      (hnames.distinct _ _ hself hcover hne) halpha
  · intro hcond
    have honly : sharing.idStringInstanceModifierType = idStringInstanceModifierTypeAlpha →
        ∀ number, sharing.Covers sensorNumberBase number → number = sensorNumberBase := by
      intro halpha number hcover
      have hle := hcover.1
      have hnumber := number.isLt
      have hbase := (hcond halpha).2
      exact BitVec.eq_of_toNat_eq (by omega)
    refine ⟨fun number hcover => ?_, fun a b ha hb hne => ?_⟩
    · exact (getSharedSensorName_right_iff h hshare hcover ndebug hbuf).mpr fun halpha =>
        ⟨(hcond halpha).1, honly halpha number hcover⟩
    · refine (getSharedSensorName_ne_iff h hshare ha hb hne ndebug hbuf).mpr fun halpha => hne ?_
      rw [honly halpha a ha, honly halpha b hb]

end Shared

/-! ### Two sensors of one name -/

/-- A compact record of two sensors, 0x30 and 0x31, with the id string "Temp" and letters from A. -/
def alphaRecord : List Byte :=
  [1, 0, 0x51, 0x02, 31, 0x20, 0x00, 0x30, 0x07, 0x01, 0x7F, 0xC0, 0x01, 0x01, 0, 0, 0, 0, 0, 0, 0, 1,
    0, 0x12, 0x00, 0, 0, 0, 0, 0, 0, 0xC4, 0x54, 0x65, 0x6D, 0x70]

/-- Its fields on sharing. -/
def alphaSharing : Sharing := ⟨2, 1, 0, 0⟩

theorem alphaRecord_shares : Shares alphaRecord alphaSharing 0x30 :=
  ⟨⟨.compactSensorRecord, rfl, rfl, rfl, rfl, rfl⟩, rfl⟩

/-- "Temp". -/
def tempIdString : List Byte := [0x54, 0x65, 0x6D, 0x70]

/-- Its two sensors are both called "Temp A". -/
theorem alphaRecord_sameName : getSharedSensorName false alphaRecord 0x30 tempIdString 128
    = getSharedSensorName false alphaRecord 0x31 tempIdString 128 := by
  have hname : ∀ number ∈ [0x30, 0x31], getSharedSensorName false alphaRecord number tempIdString 128
      = .ok [0x54, 0x65, 0x6D, 0x70, 0x20, 0x41] := by
    intro number hnumber
    have hcover : alphaSharing.Covers 0x30 number := by
      fin_cases hnumber <;> exact ⟨by decide, by decide⟩
    exact getSharedSensorName_eq alphaRecord_shares (by decide) hcover false (by decide)
  rw [hname 0x30 (by decide), hname 0x31 (by decide)]

theorem sharedNames_iff_alpha :
    ¬ SharedNames false alphaRecord alphaSharing 0x30 tempIdString 128 := by
  intro h
  have hcond := (sharedNames_iff alphaRecord_shares (by decide) false (by decide)).mp h rfl
  exact absurd hcond.2 (by decide)

theorem not_all_sharedNames : ¬ ∀ (ndebug : Bool) (r : List Byte) (sharing : Sharing) (base : Byte),
    Shares r sharing base → 1 < sharing.shareCount.toNat → ∀ (idString : List Byte) (buflen : ℕ),
      idString.length + 4 < buflen → SharedNames ndebug r sharing base idString buflen := by
  intro h
  have hnames := h false alphaRecord alphaSharing 0x30 alphaRecord_shares (by decide) tempIdString 128
    (by decide)
  exact hnames.distinct 0x30 0x31 ⟨by decide, by decide⟩ ⟨by decide, by decide⟩ (by decide)
    alphaRecord_sameName

end FreeIpmi.Sdr
