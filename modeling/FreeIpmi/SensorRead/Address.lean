import FreeIpmi.Sdr.RecordFields
import FreeIpmi.Sdr.Search
import FreeIpmi.SensorRead.Read

/-! Which sensor `ipmi_sensor_read` asks for.

    The first stage looks at a few bytes of the record: it fails, or the address of the sensor is made
    of these bytes (`Addressable`, `addressOf`). The offset into a compact record that several sensors
    share may be as large as the share count, which is one more than a search in the cache allows, and
    the sensor number is computed in eight bits. -/

namespace FreeIpmi.SensorRead
open Calls Sdr

/-- The sensor number in a record. -/
def baseNumber (r : List Byte) : Byte := r.getD sdrRecordSensorNumberIndex 0

/-- The byte with the sensor owner id; bit 0 is the type of the id. -/
def ownerByte (r : List Byte) : Byte := r.getD sdrRecordSensorOwnerIdIndex 0

/-- The byte with the LUN and the channel. -/
def lunByte (r : List Byte) : Byte := r.getD 6 0

/-- The byte with the event/reading type code. -/
def typeCodeByte (r : List Byte) : Byte := r.getD 13 0

/-- The offset is within the record. -/
def OffsetAllowed (r : List Byte) (sharedSensorNumberOffset : Byte) : Prop :=
  sharedSensorNumberOffset = 0 ∨ r.getD sdrRecordTypeIndex 0 = sdrFormatCompactSensorRecord
    ∧ sdrRecordCompactShareCount < r.length ∧ 1 < shareCountOf r
    ∧ sharedSensorNumberOffset.toNat ≤ shareCountOf r

/-- The record of a sensor that can be asked, at this offset. -/
structure Addressable (r : List Byte) (sharedSensorNumberOffset : Byte) : Prop where
  long : 14 ≤ r.length
  sensor : r.getD sdrRecordTypeIndex 0 = sdrFormatFullSensorRecord
    ∨ r.getD sdrRecordTypeIndex 0 = sdrFormatCompactSensorRecord
  hardware : (ownerByte r).toNat % 2 = 0
  allowed : OffsetAllowed r sharedSensorNumberOffset

/-- The address in the bytes of a record. -/
def addressOf (r : List Byte) (sharedSensorNumberOffset : Byte) : SensorAddress where
  recordType := r.getD sdrRecordTypeIndex 0
  sensorNumber := baseNumber r + sharedSensorNumberOffset
  eventReadingTypeCode := typeCodeByte r
  slaveAddress := ownerByte r
  sensorOwnerLun := Fiid.bitField (lunByte r) 0 2
  channelNumber := Fiid.bitField (lunByte r) 4 4

/-! ### The getters of a sensor record -/

theorem orSdrEntryError_ok {α : Type} {x : Except SdrStop α} {a : α}
    (h : orSdrEntryError x = .ok a) : x = .ok a := by
  cases x with
  | error e => cases h
  | ok b =>
    cases h
    rfl

/-- A field that is read lies in the record. -/
theorem recordField_ok {r : List Byte} {start len : ℕ} {x : Byte}
    (h : recordField r start len = .ok x) : start / 8 < r.length := by
  rw [recordField] at h
  split at h
  · cases h
  · rename_i y hy
    exact (List.getElem?_eq_some_iff.mp hy).1

section Stage
variable {ndebug : Bool} {r : List Byte} {o : Byte}

/-- The type that the getters accept. -/
theorem acceptedFormat_sensor (hlen : 5 ≤ r.length)
    (hsensor : r.getD sdrRecordTypeIndex 0 = sdrFormatFullSensorRecord
      ∨ r.getD sdrRecordTypeIndex 0 = sdrFormatCompactSensorRecord) :
    ∃ format, acceptedFormat r sensorRecordTypes = .ok format
      ∧ eventReadingTypeCodeIndex format = 13 := by
  rcases hsensor with htype | htype
  · refine ⟨.fullSensorRecord, acceptedFormat_of_find hlen ?_, rfl⟩
    rw [htype]
    rfl
  · refine ⟨.compactSensorRecord, acceptedFormat_of_find hlen ?_, rfl⟩
    rw [htype]
    rfl

/-- The share count of a compact record. -/
theorem parseSharing_compact (hlen : 5 ≤ r.length)
    (htype : r.getD sdrRecordTypeIndex 0 = sdrFormatCompactSensorRecord) :
    ipmiSdrParseSensorRecordSharing ndebug r ⟨true, false, false, false⟩
      = recordField r (8 * sdrRecordCompactShareCount) 4 >>= fun shareCount =>
        .ok ⟨shareCount, 0, 0, 0⟩ := by
  have haccept : acceptedFormat r [.compactSensorRecord, .eventOnlyRecord] = .ok .compactSensorRecord :=
    acceptedFormat_of_find hlen (by rw [htype]; rfl)
  rw [ipmiSdrParseSensorRecordSharing_eq, haccept]
  rfl

theorem shareCountOf_compact (htype : r.getD sdrRecordTypeIndex 0 = sdrFormatCompactSensorRecord) :
    shareCountOf r = (Fiid.bitField (r.getD sdrRecordCompactShareCount 0) 0 4).toNat := by
  rw [shareCountOf, if_pos htype, Fiid.toNat_bitField _ (by norm_num), BitVec.toNat_and, pow_zero,
    Nat.div_one]
  exact Nat.and_two_pow_sub_one_eq_mod _ 4

/-- The number for an offset, or the error of a compact record that does not allow it. -/
theorem sharedSensorNumber_compact (n : Byte)
    (htype : r.getD sdrRecordTypeIndex 0 = sdrFormatCompactSensorRecord)
    (hlen : sdrRecordCompactShareCount < r.length) :
    sharedSensorNumber ndebug r sdrFormatCompactSensorRecord n o
      = if o = 0 then .ok n
        else if shareCountOf r ≤ 1 then .error .invalidSdrRecordType
        else if shareCountOf r < o.toNat then .error .parameters
        else .ok (n + o) := by
  have hheader : 5 ≤ r.length := le_of_lt (lt_of_le_of_lt (by decide) hlen)
  have hfield : recordField r (8 * sdrRecordCompactShareCount + 0) 4 = _ :=
    recordField_byte (by norm_num) hlen
  rw [Nat.add_zero] at hfield
  rw [sharedSensorNumber, if_neg (not_not.mpr rfl), parseSharing_compact hheader htype, hfield,
    shareCountOf_compact htype, ok_bind, orSdrEntryError, ok_bind]
  simp only [Nat.add_lt_add_iff_left]
  rfl

theorem sharedSensorNumber_ok {n m : Byte} (hlen : 5 ≤ r.length)
    (h : sharedSensorNumber ndebug r (r.getD sdrRecordTypeIndex 0) n o = .ok m) :
    OffsetAllowed r o := by
  by_cases hzero : o = 0
  · exact Or.inl hzero
  · by_cases htype : r.getD sdrRecordTypeIndex 0 = sdrFormatCompactSensorRecord
    · rw [htype] at h
      by_cases hshare : sdrRecordCompactShareCount < r.length
      · rw [sharedSensorNumber_compact n htype hshare, if_neg hzero] at h
        split at h
        · cases h
        · split at h
          · cases h
          · exact Or.inr ⟨htype, hshare, by omega, by omega⟩
      · have hfield : recordField r (8 * sdrRecordCompactShareCount + 0) 4 = _ :=
          recordField_missing 4 (by norm_num) (Nat.le_of_not_lt hshare)
        rw [Nat.add_zero] at hfield
        rw [sharedSensorNumber, if_neg hzero, if_neg (not_not.mpr rfl),
          parseSharing_compact hlen htype, hfield] at h
        cases h
    · rw [sharedSensorNumber, if_neg hzero, if_pos htype] at h
      cases h

theorem sharedSensorNumber_allowed (n : Byte) (h : OffsetAllowed r o) :
    sharedSensorNumber ndebug r (r.getD sdrRecordTypeIndex 0) n o = .ok (n + o) := by
  by_cases hzero : o = 0
  · rw [sharedSensorNumber, if_pos hzero, hzero]
    simp
  · obtain ⟨htype, hlen, hmany, hle⟩ := h.resolve_left hzero
    rw [htype, sharedSensorNumber_compact n htype hlen, if_neg hzero, if_neg (by omega),
      if_neg (by omega)]

/-- The slave address is the owner byte again. -/
theorem slaveAddress_hardware {x : Byte} (h : x.toNat % 2 = 0) :
    Fiid.bitField x 1 7 <<< 1 ||| Fiid.bitField x 0 1 = x := by
  have hkind : Fiid.bitField x 0 1 = 0 := by
    apply BitVec.eq_of_toNat_eq
    rw [Fiid.toNat_bitField _ (by norm_num)]
    simpa using h
  have hx := x.isLt
  rw [hkind, show (0 : Byte) = 0#8 from rfl, BitVec.or_zero]
  apply BitVec.eq_of_toNat_eq
  rw [BitVec.toNat_shiftLeft, Fiid.toNat_bitField _ (by norm_num), Nat.shiftLeft_eq]
  omega

/-! ### The first stage -/

/-- The whole stage on a full or compact record that has its type code. -/
theorem sensorAddress_eq (hlen : 14 ≤ r.length)
    (hsensor : r.getD sdrRecordTypeIndex 0 = sdrFormatFullSensorRecord
      ∨ r.getD sdrRecordTypeIndex 0 = sdrFormatCompactSensorRecord) :
    sensorAddress ndebug r o
      = sharedSensorNumber ndebug r (r.getD sdrRecordTypeIndex 0) (baseNumber r) o >>= fun number =>
        if (ownerByte r).toNat % 2 = 1 then .error .sensorIsSystemSoftware
        else .ok { addressOf r o with sensorNumber := number } := by
  have hne : r ≠ [] := by
    rintro rfl
    exact absurd hlen (by decide)
  obtain ⟨recordId, hheader⟩ := sdrRecordIdAndType_eq (r := r) ndebug (by omega)
  obtain ⟨format, haccept, hcode⟩ := acceptedFormat_sensor (by omega) hsensor
  have hbyte : ∀ k lo len : ℕ, lo < 8 → k < 14 →
      recordField r (8 * k + lo) len = .ok (Fiid.bitField (r.getD k 0) lo len) :=
    fun k lo len hlo hk => recordField_byte hlo (by omega)
  have howner : ipmiSdrParseSensorOwnerId ndebug r
      = .ok (Fiid.bitField (ownerByte r) 0 1, Fiid.bitField (ownerByte r) 1 7) := by
    rw [ipmiSdrParseSensorOwnerId_eq, haccept, ok_bind, hbyte 5 0 1 (by norm_num) (by norm_num), ok_bind,
      hbyte 5 1 7 (by norm_num) (by norm_num)]
    rfl
  have hlun : ipmiSdrParseSensorOwnerLun ndebug r
      = .ok (Fiid.bitField (lunByte r) 0 2, Fiid.bitField (lunByte r) 4 4) := by
    rw [ipmiSdrParseSensorOwnerLun_eq, haccept, ok_bind, hbyte 6 0 2 (by norm_num) (by norm_num), ok_bind,
      hbyte 6 4 4 (by norm_num) (by norm_num)]
    rfl
  have hnumber : ipmiSdrParseSensorNumber ndebug r = .ok (baseNumber r) := by
    rw [ipmiSdrParseSensorNumber_eq, haccept, ok_bind, hbyte 7 0 8 (by norm_num) (by norm_num),
      Fiid.bitField_full]
    rfl
  have htypeCode : ipmiSdrParseEventReadingTypeCode ndebug r = .ok (typeCodeByte r) := by
    rw [ipmiSdrParseEventReadingTypeCode_eq, haccept, ok_bind, hcode,
      hbyte 13 0 8 (by norm_num) (by norm_num), Fiid.bitField_full]
    rfl
  have hkind : Fiid.bitField (ownerByte r) 0 1 = 0x1 ↔ (ownerByte r).toNat % 2 = 1 := by
    rw [← BitVec.toNat_inj, Fiid.toNat_bitField _ (by norm_num)]
    simp
  rw [sensorAddress, if_neg hne, hheader, orSdrEntryError, ok_bind]
  simp only [howner, hlun, hnumber, htypeCode, orSdrEntryError, ok_bind, hkind]
  rw [if_neg (by tauto)]
  cases sharedSensorNumber ndebug r (r.getD sdrRecordTypeIndex 0) (baseNumber r) o with
  | error e => rfl
  | ok number =>
    rw [ok_bind, ok_bind]
    by_cases hsoftware : (ownerByte r).toNat % 2 = 1
    · rw [if_pos hsoftware, if_pos hsoftware]
    · rw [if_neg hsoftware, if_neg hsoftware, slaveAddress_hardware (by omega)]
      rfl

theorem sensorAddress_addressable (h : Addressable r o) :
    sensorAddress ndebug r o = .ok (addressOf r o) := by
  have hhardware := h.hardware
  rw [sensorAddress_eq h.long h.sensor, sharedSensorNumber_allowed _ h.allowed, ok_bind,
    if_neg (by omega)]
  rfl

/-- A record that is too short for its type code is not read. -/
theorem parseEventReadingTypeCode_long {typeCode : Byte}
    (hsensor : r.getD sdrRecordTypeIndex 0 = sdrFormatFullSensorRecord
      ∨ r.getD sdrRecordTypeIndex 0 = sdrFormatCompactSensorRecord)
    (h : ipmiSdrParseEventReadingTypeCode ndebug r = .ok typeCode) : 14 ≤ r.length := by
  rw [ipmiSdrParseEventReadingTypeCode_eq] at h
  obtain ⟨format, haccept, h⟩ := bind_eq_ok.mp h
  obtain ⟨format', haccept', hcode⟩ := acceptedFormat_sensor (acceptedFormat_ok haccept).1 hsensor
  rw [haccept] at haccept'
  cases haccept'
  rw [hcode] at h
  have hfield := recordField_ok h
  omega

theorem sensorAddress_long {address : SensorAddress} (h : sensorAddress ndebug r o = .ok address) :
    14 ≤ r.length ∧ (r.getD sdrRecordTypeIndex 0 = sdrFormatFullSensorRecord
      ∨ r.getD sdrRecordTypeIndex 0 = sdrFormatCompactSensorRecord) := by
  rw [sensorAddress] at h
  split at h
  · cases h
  · rename_i hne
    obtain ⟨⟨recordId, recordType⟩, hheader, h⟩ := bind_eq_ok.mp h
    have hlen : 5 ≤ r.length := by
      by_contra hshort
      rw [sdrRecordIdAndType, if_neg hne, if_pos (by omega)] at hheader
      cases hheader
    obtain ⟨recordId', hheader'⟩ := sdrRecordIdAndType_eq (r := r) ndebug hlen
    rw [hheader'] at hheader
    cases hheader
    dsimp only at h
    split at h
    · cases h
    · rename_i hnot
      have hsensor : r.getD sdrRecordTypeIndex 0 = sdrFormatFullSensorRecord
          ∨ r.getD sdrRecordTypeIndex 0 = sdrFormatCompactSensorRecord := by tauto
      obtain ⟨⟨_, _⟩, -, h⟩ := bind_eq_ok.mp h
      obtain ⟨⟨_, _⟩, -, h⟩ := bind_eq_ok.mp h
      obtain ⟨_, -, h⟩ := bind_eq_ok.mp h
      obtain ⟨_, -, h⟩ := bind_eq_ok.mp h
      obtain ⟨typeCode, hcode, -⟩ := bind_eq_ok.mp h
      exact ⟨parseEventReadingTypeCode_long hsensor (orSdrEntryError_ok hcode), hsensor⟩

theorem sensorAddress_ok {address : SensorAddress} (h : sensorAddress ndebug r o = .ok address) :
    Addressable r o := by
  obtain ⟨hlen, hsensor⟩ := sensorAddress_long h
  rw [sensorAddress_eq hlen hsensor] at h
  obtain ⟨number, hnumber, h⟩ := bind_eq_ok.mp h
  split at h
  · cases h
  · exact ⟨hlen, hsensor, by omega, sharedSensorNumber_ok (by omega) hnumber⟩

end Stage

/-! ### The command -/

/-- The sensor number in a request. -/
def SensorRequest.sensorNumber : SensorRequest → Byte
  | .bmc sensorNumber => sensorNumber
  | .ipmb _ _ _ sensorNumber => sensorNumber

/-- The command that the second stage sends, if it may send one. -/
def issuedRequest (ctx : SensorReadCtx) (address : SensorAddress) : Option SensorRequest :=
  if ctx.has sensorReadFlagsAssumeBmcOwner ∨ address.slaveAddress = 0x20 then
    some (.bmc address.sensorNumber)
  else if ctx.has sensorReadFlagsBridgeSensors then
    some (.ipmb address.channelNumber address.slaveAddress address.sensorOwnerLun address.sensorNumber)
  else none

theorem issuedRequest_sensorNumber {ctx : SensorReadCtx} {address : SensorAddress}
    {request : SensorRequest} (h : request ∈ issuedRequest ctx address) :
    request.sensorNumber = address.sensorNumber := by
  rw [issuedRequest] at h
  split at h
  · cases h
    rfl
  · split at h
    · cases h
      rfl
    · cases h

/-! ### Offsets and the cache -/

/-- The first stage gives up because of the offset. -/
def RejectsOffset (ndebug : Bool) (r : List Byte) (o : Byte) : Prop :=
  sensorAddress ndebug r o = .error .invalidSdrRecordType ∨ sensorAddress ndebug r o = .error .parameters

/-- A search for this sensor stops at record number `i` of the cache. -/
def SearchFinds (ndebug : Bool) (cache : SdrCtx) (records : List (List Byte)) (i : ℕ)
    (sensorNumber sensorOwnerId : Byte) : Prop :=
  SdrCall.run ndebug cache (.searchSensor sensorNumber sensorOwnerId)
    = .ok (.done, cache.moveTo (cache.place records i))

/-- An offset into record number `i` of the cache is accepted for the sensors that a search finds
    there, and a command asks for the sensor it counts to. -/
structure OffsetAgrees (ndebug : Bool) (cache : SdrCtx) (records : List (List Byte)) (i : ℕ)
    (r : List Byte) (o : Byte) : Prop where
  accepted : ¬ RejectsOffset ndebug r o ↔ (baseNumber r).toNat + o.toNat < 256
    ∧ SearchFinds ndebug cache records i (baseNumber r + o) (ownerByte r)
  asked : ∀ ctx address, sensorAddress ndebug r o = .ok address →
    ∀ request ∈ issuedRequest ctx address,
      request.sensorNumber.toNat = (baseNumber r).toNat + o.toNat

section Offset
variable {ndebug : Bool} {cache : SdrCtx} {records : List (List Byte)} {r : List Byte} {o : Byte}
  {i : ℕ}

/-- Different records are at different places. -/
theorem place_lt_place (h : cache.Holds records) {j : ℕ} (hij : i < j) (hi : i < records.length) :
    cache.place records i < cache.place records j := by
  have hwhole := (h.whole _ (List.getElem_mem hi)).length
  have hsplit : records.take j
      = records.take i ++ records[i] :: (records.drop (i + 1)).take (j - (i + 1)) := by
    rw [← List.take_append_drop i (records.take j), List.take_take, min_eq_left hij.le, List.drop_take,
      List.drop_eq_getElem_cons hi, show j - i = j - (i + 1) + 1 by omega, List.take_succ_cons]
  rw [SdrCtx.place, SdrCtx.place, hsplit, List.flatten_append, List.length_append, List.flatten_cons,
    List.length_append, hwhole, sdrRecordHeaderLength]
  omega

/-- A record that no earlier one hides is found when it covers the sensor. -/
theorem searchFinds_iff {n owner : Byte} (h : cache.Holds records) (hi : records[i]? = some r)
    (hbytes : ∀ x ∈ records, HasSensorBytes n owner x)
    (hfirst : ∀ x ∈ records.take i, ¬ CoversSensor n owner x) :
    SearchFinds ndebug cache records i n owner ↔ CoversSensor n owner r := by
  obtain ⟨hlt, hri⟩ := List.getElem?_eq_some_iff.mp hi
  rw [SearchFinds, (sdrCache_searchesFirst ndebug h).sensor n owner (UpToMatch.of_forall hbytes),
    firstMatch]
  constructor
  · intro hfound
    split at hfound
    · rename_i j hj
      obtain ⟨hjlt, hcovers, -⟩ := List.findIdx?_eq_some_iff_getElem.mp hj
      have hplace : cache.place records j = cache.place records i :=
        congrArg (fun x => match x with
          | Except.ok (_, c) => SdrCtx.currentOffset c
          | Except.error _ => 0) hfound
      have hji : j = i := by
        rcases Nat.lt_trichotomy i j with hij | hij | hij
        · exact absurd hplace (place_lt_place h hij hlt).ne'
        · exact hij.symm
        · exact absurd hplace (place_lt_place h hij hjlt).ne
      subst hji
      rw [hri] at hcovers
      exact of_decide_eq_true hcovers
    · cases hfound
  · intro hcovers
    have hfind : records.findIdx? (fun x => decide (CoversSensor n owner x)) = some i := by
      refine List.findIdx?_eq_some_iff_getElem.mpr ⟨hlt, by simpa [hri] using hcovers, fun j hj => ?_⟩
      have hmem : records[j] ∈ records.take i := List.mem_take_iff_getElem.mpr ⟨j, by omega, rfl⟩
      simpa using hfirst _ hmem
    rw [hfind]

/-- The offset is the only reason for these two errors. -/
theorem rejectsOffset_iff (htype : r.getD sdrRecordTypeIndex 0 = sdrFormatCompactSensorRecord)
    (hlen : sdrRecordCompactShareCount < r.length) :
    RejectsOffset ndebug r o ↔ ¬ OffsetAllowed r o := by
  have hlong : 14 ≤ r.length := le_of_lt (lt_of_le_of_lt (by decide) hlen)
  rw [RejectsOffset, sensorAddress_eq hlong (Or.inr htype), OffsetAllowed, htype,
    sharedSensorNumber_compact _ htype hlen]
  by_cases hzero : o = 0
  · rw [if_pos hzero, ok_bind]
    split <;> simp [hzero]
  · rw [if_neg hzero]
    by_cases hmany : shareCountOf r ≤ 1
    · simpa [hmany] using hzero
    · rw [if_neg hmany]
      by_cases hle : shareCountOf r < o.toNat
      · simpa [hle] using hzero
      · rw [if_neg hle, ok_bind]
        have hallowed : 1 < shareCountOf r ∧ o.toNat ≤ shareCountOf r := by omega
        split <;> simp [hlen, hallowed]

/-- The sensors of a shared record follow each other. -/
theorem coversSensor_offset (htype : r.getD sdrRecordTypeIndex 0 = sdrFormatCompactSensorRecord)
    (hlen : sdrRecordCompactShareCount < r.length) (hfits : (baseNumber r).toNat + o.toNat < 256) :
    CoversSensor (baseNumber r + o) (ownerByte r) r ↔ o.toNat ≤ max 1 (shareCountOf r) - 1 := by
  have howner : r[sdrRecordSensorOwnerIdIndex]? = some (ownerByte r) := by
    rw [ownerByte, List.getD_eq_getElem _ _ (lt_trans (by decide) hlen)]
    exact List.getElem?_eq_getElem _
  have hnumber : r[sdrRecordSensorNumberIndex]? = some (baseNumber r) := by
    rw [baseNumber, List.getD_eq_getElem _ _ (lt_trans (by decide) hlen)]
    exact List.getElem?_eq_getElem _
  have hsum : (baseNumber r + o).toNat = (baseNumber r).toNat + o.toNat := by
    rw [BitVec.toNat_add]
    omega
  have hsensor : isSensorType (r.getD sdrRecordTypeIndex 0) = true := by
    rw [htype]
    rfl
  simp only [CoversSensor, hsensor, howner, hnumber, true_and, Option.mem_some_iff, exists_eq_left', hsum]
  omega

/-- The reader and the search agree on an offset, unless the record is shared and the offset is the
    share count itself or counts past the last sensor number. -/
theorem offsetAgrees_iff (htype : r.getD sdrRecordTypeIndex 0 = sdrFormatCompactSensorRecord)
    (hlen : sdrRecordCompactShareCount < r.length) (h : cache.Holds records) (hi : records[i]? = some r)
    (hbytes : ∀ x ∈ records, HasSensorBytes (baseNumber r + o) (ownerByte r) x)
    (hfirst : ∀ x ∈ records.take i, ¬ CoversSensor (baseNumber r + o) (ownerByte r) x) :
    OffsetAgrees ndebug cache records i r o ↔ shareCountOf r ≤ 1 ∨ o.toNat ≠ shareCountOf r
      ∧ (o.toNat < shareCountOf r → (baseNumber r).toNat + o.toNat < 256) := by
  have hzero : o = 0 ↔ o.toNat = 0 := BitVec.toNat_inj.symm
  have hbase := (baseNumber r).isLt
  have haccepted : (¬ RejectsOffset ndebug r o ↔ (baseNumber r).toNat + o.toNat < 256
      ∧ SearchFinds ndebug cache records i (baseNumber r + o) (ownerByte r))
      ↔ (OffsetAllowed r o ↔ (baseNumber r).toNat + o.toNat < 256
        ∧ o.toNat ≤ max 1 (shareCountOf r) - 1) := by
    rw [rejectsOffset_iff htype hlen, not_not, searchFinds_iff h hi hbytes hfirst]
    refine iff_congr Iff.rfl (and_congr_right fun hfits => coversSensor_offset htype hlen hfits)
  have hallowed : OffsetAllowed r o ↔ o.toNat = 0 ∨ 1 < shareCountOf r ∧ o.toNat ≤ shareCountOf r := by
    rw [OffsetAllowed, hzero]
    simp only [htype, hlen, true_and]
  rw [hallowed] at haccepted
  constructor
  · intro hagrees
    have hiff := haccepted.mp hagrees.accepted
    omega
  · intro hcond
    refine ⟨haccepted.mpr (by omega), fun ctx address haddress request hrequest => ?_⟩
    have haddressable := sensorAddress_ok haddress
    rw [sensorAddress_addressable haddressable] at haddress
    cases haddress
    rw [issuedRequest_sensorNumber hrequest, addressOf, BitVec.toNat_add]
    have hoffset := hallowed.mp haddressable.allowed
    omega

end Offset

/-- A compact record that three sensors share, from number 10 on. -/
def sharedRecord : List Byte :=
  [1, 0, 0x51, 0x02, 19, 0x20, 0, 10, 0, 0, 0, 0, 0, 0x6F, 0, 0, 0, 0, 0, 0, 0, 0, 0, 3]

/-- Its cache, opened. -/
def sharedCtx : SdrCtx where
  sdrVersion := 0x51
  recordCount := 1
  mostRecentAdditionTimestamp := 0
  mostRecentEraseTimestamp := 0
  sdrCache := cacheFile ⟨0x51, 1, 0, 0⟩ [sharedRecord]
  recordsStartOffset := 20
  recordsEndOffset := 44
  currentOffset := 20
  savedOffsets := []

theorem sharedCtx_holds : sharedCtx.Holds [sharedRecord] where
  file := ⟨fileHeader ⟨0x51, 1, 0, 0⟩, fileTrailer [sharedRecord], rfl, rfl⟩
  stop := rfl
  whole := by
    intro r hr
    cases List.mem_singleton.mp hr
    exact ⟨by decide, by decide⟩
  count := rfl

theorem offsetAgrees_iff_shared :
    OffsetAgrees false sharedCtx [sharedRecord] 0 sharedRecord 2 ↔ shareCountOf sharedRecord ≤ 1
      ∨ (2 : Byte).toNat ≠ shareCountOf sharedRecord ∧ ((2 : Byte).toNat < shareCountOf sharedRecord →
        (baseNumber sharedRecord).toNat + (2 : Byte).toNat < 256) :=
  offsetAgrees_iff (by decide) (by decide) sharedCtx_holds rfl (by decide) (by decide)

/-- The three sensors have the numbers 10, 11 and 12, and the reader also takes the offset 3: it asks
    for sensor 13, which no record of the cache has. -/
theorem offset_beyond_share :
    sensorAddress false sharedRecord 3 = .ok (addressOf sharedRecord 3)
      ∧ (addressOf sharedRecord 3).sensorNumber = 13
      ∧ ¬ SearchFinds false sharedCtx [sharedRecord] 0 13 (ownerByte sharedRecord)
      ∧ ¬ OffsetAgrees false sharedCtx [sharedRecord] 0 sharedRecord 3 := by
  have haddress : sensorAddress false sharedRecord 3 = .ok (addressOf sharedRecord 3) :=
    sensorAddress_addressable ⟨by decide, by decide, by decide, Or.inr (by decide)⟩
  have hlost : ¬ SearchFinds false sharedCtx [sharedRecord] 0 13 (ownerByte sharedRecord) := by
    rw [searchFinds_iff sharedCtx_holds rfl (by decide) (by decide)]
    decide
  refine ⟨haddress, rfl, hlost, fun hagrees => hlost (hagrees.accepted.mp ?_).2⟩
  rw [RejectsOffset, haddress]
  simp

end FreeIpmi.SensorRead
