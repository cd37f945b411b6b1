import FreeIpmi.Sdr.RecordFields
import FreeIpmi.Sdr.Search

/-! How many instances an entity has (`sdr/ipmi-sdr-stats.c`).

    A callback over all records of a cache collects the entity instances it has not seen, in an array
    for every entity. The arrays are never cleared between two compilations. Every record adds the
    instances it stands for, or the first of them when it is too short; a compilation that succeeds
    has seen them all, and no array holds one twice. -/

namespace FreeIpmi.Sdr
open Calls

/-- `IPMI_MAX_ENTITY_ID_INSTANCES`. -/
def maxEntityIdInstances : ℕ := 256

/-- `IPMI_SDR_LOGICAL_CONTAINER_ENTITY`. -/
def sdrLogicalContainerEntity : Byte := 0x1

/-- `IPMI_SDR_ENTITY_INSTANCE_INCREMENTS_FOR_EACH_SHARED_RECORD`. -/
def entityInstanceIncrementsForEachSharedRecord : Byte := 0x1

/-- `ctx->entity_counts`: of every array what `entity_instances_count` says is in use. -/
abbrev EntityCounts := Byte → List Byte

/-- The statistics in a context. -/
structure SdrStats where
  statsCompiled : Bool
  entityCounts : EntityCounts

/-- What `sdr_init_ctx` leaves. -/
def SdrStats.init : SdrStats := ⟨false, fun _ => []⟩

/-! ### The callback -/

/-- `_entity_id_add_instance`; there is no room behind the end of the array. -/
def entityIdAddInstance (counts : EntityCounts) (entityId entityInstance : Byte) :
    Except SdrStop EntityCounts :=
  if entityInstance ∈ counts entityId then .ok counts
  else if (counts entityId).length < maxEntityIdInstances then
    .ok (Function.update counts entityId (counts entityId ++ [entityInstance]))
  else .error .undefined

/-- The loop over the sensors that share a record: `n` rounds from `i` on. -/
def addShared (entityId entityInstance : Byte) :
    ℕ → ℕ → EntityCounts → Except SdrStop EntityCounts
  | 0, _, counts => .ok counts
  | n + 1, i, counts => do
    let counts ← entityIdAddInstance counts entityId (entityInstance + BitVec.ofNat 8 i)
    addShared entityId entityInstance n (i + 1) counts

/-- A call whose return of -1 is handled: then it is `none`. -/
def orNone {α : Type} : Except SdrStop α → Except SdrStop (Option α)
  | .ok a => .ok (some a)
  | .error (.errnum _) => .ok none
  | .error e => .error e

/-- The record types that belong to an entity. -/
def entityRecordTypes : List SdrFormat :=
  sensorRecordTypes ++ [.genericDeviceLocatorRecord, .managementControllerDeviceLocatorRecord]

/-- The part of `_entity_id_instances_count` for shared sensors. -/
def sharedInstancesCount (ndebug : Bool) (sdrRecord : List Byte) (entityId entityInstance : Byte)
    (counts : EntityCounts) : Except SdrStop (ℤ × EntityCounts) := do
  match ← orNone (ipmiSdrParseSensorRecordSharing ndebug sdrRecord ⟨true, false, false, true⟩) with
  | none => return (-1, counts)
  | some sharing =>
    if sharing.shareCount.toNat > 1
        ∧ sharing.entityInstanceSharing = entityInstanceIncrementsForEachSharedRecord then
      let counts ← addShared entityId entityInstance (sharing.shareCount.toNat - 1) 1 counts
      return (0, counts)
    else return (0, counts)

/-- `_entity_id_instances_count`. -/
def entityIdInstancesCount (ndebug : Bool) (recordType : Byte) (sdrRecord : List Byte)
    (counts : EntityCounts) : Except SdrStop (ℤ × EntityCounts) :=
  if (SdrFormat.find entityRecordTypes recordType).isNone then .ok (0, counts)
  else do
    match ← orNone (ipmiSdrParseEntityIdInstanceType ndebug sdrRecord) with
    | none => return (-1, counts)
    | some (entityId, entityInstance, entityInstanceType) =>
      if entityInstanceType = sdrLogicalContainerEntity then return (0, counts)
      else
        let counts ← entityIdAddInstance counts entityId entityInstance
        if recordType = sdrFormatCompactSensorRecord ∨ recordType = sdrFormatEventOnlyRecord then
          sharedInstancesCount ndebug sdrRecord entityId entityInstance counts
        else return (0, counts)

/-- `ipmi_sdr_cache_iterate` with `_sdr_stat_callback`: `n` rounds. -/
def statsLoop (ndebug : Bool) : ℕ → SdrCtx → EntityCounts →
    Except SdrStop (ℤ × SdrCtx × EntityCounts)
  | 0, ctx, counts => .ok (0, ctx, counts)
  | n + 1, ctx, counts =>
    match ipmiSdrCacheRecordRead ctx sdrMaxRecordLength with
    | .error (.errnum _) => .ok (-1, ctx, counts)
    | .error e => .error e
    | .ok sdrRecord => do
      let (ret, counts) ← entityIdInstancesCount ndebug (sdrRecord.getD sdrRecordTypeIndex 0)
        sdrRecord counts
      if ret ≠ 0 then return (ret, ctx, counts)
      else
        let (_, ctx) ← ipmiSdrCacheNext ctx
        statsLoop ndebug n ctx counts

/-- `ipmi_sdr_stats_compile`. -/
def ipmiSdrStatsCompile (ndebug : Bool) (ctx : SdrCtx) (stats : SdrStats) :
    Except SdrStop (ℤ × SdrCtx × SdrStats) :=
  if stats.statsCompiled then .ok (0, ctx, stats)
  else do
    let ctx := sdrSaveCurrentOffset ctx
    let (rv, ctx, counts) ←
      statsLoop ndebug ctx.recordCount.toNat (ipmiSdrCacheFirst ctx) stats.entityCounts
    let ctx ← sdrResetCurrentOffset ctx
    if rv < 0 then return (-1, ctx, ⟨false, counts⟩)
    else return (0, ctx, ⟨true, counts⟩)

/-- `ipmi_sdr_stats_entity_instance_unique`. -/
def ipmiSdrStatsEntityInstanceUnique (stats : SdrStats) (entityId : Byte) : Except SdrStop ℕ :=
  if !stats.statsCompiled then .error (.errnum .statsNotCompiled)
  else .ok (stats.entityCounts entityId).length

/-! ### What a record stands for -/

/-- How many instances a record stands for. -/
def instanceCount (format : SdrFormat) (r : List Byte) : ℕ :=
  if (format = .compactSensorRecord ∨ format = .eventOnlyRecord)
      ∧ Fiid.bitField (r.getD (sharingIndex format + 1) 0) 7 1
        = entityInstanceIncrementsForEachSharedRecord then
    max 1 (Fiid.bitField (r.getD (sharingIndex format) 0) 0 4).toNat
  else 1

/-- The instances that a record stands for, each with its entity. -/
def countedInstances (r : List Byte) : List (Byte × Byte) :=
  match SdrFormat.find entityRecordTypes (r.getD sdrRecordTypeIndex 0) with
  | none => []
  | some format =>
    let entityInstance := r.getD (entityIndex format + 1) 0
    if Fiid.bitField entityInstance 7 1 = sdrLogicalContainerEntity then []
    else (List.range (instanceCount format r)).map fun i =>
      (r.getD (entityIndex format) 0, Fiid.bitField entityInstance 0 7 + BitVec.ofNat 8 i)

/-- The record has all the bytes that are looked at. -/
def statsComplete (r : List Byte) : Bool :=
  match SdrFormat.find entityRecordTypes (r.getD sdrRecordTypeIndex 0) with
  | none => true
  | some format =>
    entityIndex format + 1 < r.length
      && (Fiid.bitField (r.getD (entityIndex format + 1) 0) 7 1 = sdrLogicalContainerEntity
        || !(format = .compactSensorRecord ∨ format = .eventOnlyRecord)
        || sharingIndex format + 1 < r.length)

/-- The instances of one entity that some records stand for. -/
def instancesOf (entityId : Byte) (records : List (List Byte)) : List Byte :=
  ((records.flatMap countedInstances).filter (·.1 = entityId)).map Prod.snd

/-- The records that a loop of `n` rounds over a cache reads. -/
def readRecords : ℕ → SdrCtx → Except SdrStop (List (List Byte))
  | 0, _ => .ok []
  | n + 1, ctx => do
    let record ← ipmiSdrCacheRecordRead ctx sdrMaxRecordLength
    let (_, ctx) ← ipmiSdrCacheNext ctx
    let records ← readRecords n ctx
    return record :: records

/-! ### Adding instances -/

/-- The pairs, and nothing else, were added; no array holds an instance twice. -/
structure Adds (counts : EntityCounts) (pairs : List (Byte × Byte)) (counts' : EntityCounts) :
    Prop where
  nodup : ∀ e, (counts' e).Nodup
  mem : ∀ e x, x ∈ counts' e ↔ x ∈ counts e ∨ (e, x) ∈ pairs

section Adding
variable {counts counts' counts'' : EntityCounts} {pairs pairs' : List (Byte × Byte)}

theorem Adds.nil (h : ∀ e, (counts e).Nodup) : Adds counts [] counts := ⟨h, fun _ _ => by simp⟩

theorem Adds.trans (h : Adds counts pairs counts') (h' : Adds counts' pairs' counts'') :
    Adds counts (pairs ++ pairs') counts'' where
  nodup := h'.nodup
  mem e x := by rw [h'.mem, h.mem, List.mem_append, or_assoc]

/-- Bytes that are all different fit into the array. -/
theorem length_le_of_nodup {l : List Byte} (h : l.Nodup) : l.length ≤ maxEntityIdInstances := by
  have hcard := h.length_le_card
  rw [← FinEnum.card_eq_fintypeCard, FinEnum.card_bitVec] at hcard
  exact hcard

theorem entityIdAddInstance_adds (h : ∀ e, (counts e).Nodup) (entityId entityInstance : Byte) :
    ∃ counts', entityIdAddInstance counts entityId entityInstance = .ok counts' ∧
      Adds counts [(entityId, entityInstance)] counts' := by
  rw [entityIdAddInstance]
  by_cases hmem : entityInstance ∈ counts entityId
  · refine ⟨counts, if_pos hmem, h, fun e x => ⟨Or.inl, ?_⟩⟩
    rintro (hx | hx)
    · exact hx
    · obtain ⟨rfl, rfl⟩ := Prod.mk.inj (List.mem_singleton.mp hx)
      exact hmem
  · have hnew : (counts entityId ++ [entityInstance]).Nodup :=
      List.Nodup.append (h entityId) (List.nodup_singleton _)
        (List.disjoint_singleton.mpr hmem)
    have hroom : (counts entityId).length < maxEntityIdInstances := by
      have hle := length_le_of_nodup hnew
      rw [List.length_append, List.length_singleton] at hle
      omega
    refine ⟨_, by rw [if_neg hmem, if_pos hroom], fun e => ?_, fun e x => ?_⟩
    · by_cases he : e = entityId
      · rw [he, Function.update_self]
        exact hnew
      · rw [Function.update_of_ne he]
        exact h e
    · by_cases he : e = entityId
      · rw [he, Function.update_self]
        simp
      · rw [Function.update_of_ne he]
        simp [he]

theorem addShared_adds (entityId entityInstance : Byte) : ∀ (n i : ℕ) {counts : EntityCounts},
    (∀ e, (counts e).Nodup) → ∃ counts', addShared entityId entityInstance n i counts = .ok counts' ∧
      Adds counts ((List.range' i n).map fun j => (entityId, entityInstance + BitVec.ofNat 8 j)) counts'
  | 0, _, counts, h => ⟨counts, rfl, Adds.nil h⟩
  | n + 1, i, counts, h => by
    obtain ⟨counts₁, hadd, hadds⟩ :=
      entityIdAddInstance_adds h entityId (entityInstance + BitVec.ofNat 8 i)
    obtain ⟨counts₂, hrest, hadds'⟩ := addShared_adds entityId entityInstance n (i + 1) hadds.nodup
    refine ⟨counts₂, by rw [addShared, hadd, ok_bind, hrest], ?_⟩
    rw [List.range'_succ, List.map_cons]
    exact hadds.trans hadds'

end Adding

/-! ### One record -/

section Record
variable {ndebug : Bool} {r : List Byte} {format : SdrFormat} {counts : EntityCounts}

theorem parseEntity_eq (hlen : 5 ≤ r.length)
    (hfind : SdrFormat.find entityRecordTypes (r.getD sdrRecordTypeIndex 0) = some format) :
    orNone (ipmiSdrParseEntityIdInstanceType ndebug r)
      = .ok (if entityIndex format + 1 < r.length then
        some (r.getD (entityIndex format) 0, Fiid.bitField (r.getD (entityIndex format + 1) 0) 0 7,
          Fiid.bitField (r.getD (entityIndex format + 1) 0) 7 1) else none) := by
  have haccept : acceptedFormat r (sensorRecordTypes
      ++ [.genericDeviceLocatorRecord, .managementControllerDeviceLocatorRecord]) = .ok format :=
    acceptedFormat_of_find hlen hfind
  have hinstance : 8 * entityIndex format + 8 = 8 * (entityIndex format + 1) + 0 := by ring
  have htype : 8 * entityIndex format + 15 = 8 * (entityIndex format + 1) + 7 := by ring
  rw [ipmiSdrParseEntityIdInstanceType_eq, haccept, ok_bind, hinstance, htype,
    ← Nat.add_zero (8 * entityIndex format)]
  by_cases hin : entityIndex format + 1 < r.length
  · rw [if_pos hin, recordField_byte (by norm_num) (by omega), recordField_byte (by norm_num) hin,
      recordField_byte (by norm_num) hin, Fiid.bitField_full]
    rfl
  · rw [if_neg hin, recordField_missing 7 (show 0 < 8 by norm_num) (Nat.le_of_not_lt hin)]
    rcases Nat.lt_or_ge (entityIndex format) r.length with hid | hid
    · rw [recordField_byte (by norm_num) hid]
      rfl
    · rw [recordField_missing _ (by norm_num) hid]
      rfl

theorem parseSharing_eq (hlen : 5 ≤ r.length)
    (hfind : SdrFormat.find [.compactSensorRecord, .eventOnlyRecord] (r.getD sdrRecordTypeIndex 0)
      = some format) :
    orNone (ipmiSdrParseSensorRecordSharing ndebug r ⟨true, false, false, true⟩)
      = .ok (if sharingIndex format + 1 < r.length then
        some ⟨Fiid.bitField (r.getD (sharingIndex format) 0) 0 4, 0, 0,
          Fiid.bitField (r.getD (sharingIndex format + 1) 0) 7 1⟩ else none) := by
  have hsharing : 8 * sharingIndex format + 15 = 8 * (sharingIndex format + 1) + 7 := by ring
  rw [ipmiSdrParseSensorRecordSharing_eq, acceptedFormat_of_find hlen hfind, ok_bind]
  simp only [wantedField, if_true, Bool.false_eq_true, if_false, ok_bind, hsharing]
  rw [← Nat.add_zero (8 * sharingIndex format)]
  by_cases hin : sharingIndex format + 1 < r.length
  · rw [if_pos hin, recordField_byte (by norm_num) (by omega), recordField_byte (by norm_num) hin]
    rfl
  · rw [if_neg hin, recordField_missing 1 (by norm_num) (Nat.le_of_not_lt hin)]
    rcases Nat.lt_or_ge (sharingIndex format) r.length with hid | hid
    · rw [recordField_byte (by norm_num) hid]
      rfl
    · rw [recordField_missing _ (by norm_num) hid]
      rfl

/-- The instances besides the first of a record that is shared. -/
theorem sharedInstancesCount_adds (ndebug : Bool) (hlen : 5 ≤ r.length)
    (hfind : SdrFormat.find [.compactSensorRecord, .eventOnlyRecord] (r.getD sdrRecordTypeIndex 0)
      = some format) (h : ∀ e, (counts e).Nodup) (entityId entityInstance : Byte) :
    ∃ counts' pairs, sharedInstancesCount ndebug r entityId entityInstance counts
        = .ok (if sharingIndex format + 1 < r.length then 0 else -1, counts') ∧
      Adds counts pairs counts' ∧ pairs = if sharingIndex format + 1 < r.length then
        (List.range' 1 (instanceCount format r - 1)).map fun i =>
          (entityId, entityInstance + BitVec.ofNat 8 i) else [] := by
  have hformat : format = .compactSensorRecord ∨ format = .eventOnlyRecord := by
    simpa using List.mem_of_find?_eq_some hfind
  rw [sharedInstancesCount, parseSharing_eq hlen hfind, ok_bind]
  by_cases hin : sharingIndex format + 1 < r.length
  · simp only [hin, if_true]
    by_cases hmany : 1 < (Fiid.bitField (r.getD (sharingIndex format) 0) 0 4).toNat
        ∧ Fiid.bitField (r.getD (sharingIndex format + 1) 0) 7 1
          = entityInstanceIncrementsForEachSharedRecord
    · obtain ⟨counts', hadd, hadds⟩ := addShared_adds entityId entityInstance
        ((Fiid.bitField (r.getD (sharingIndex format) 0) 0 4).toNat - 1) 1 h
      have hcount : instanceCount format r
          = (Fiid.bitField (r.getD (sharingIndex format) 0) 0 4).toNat := by
        rw [instanceCount, if_pos ⟨hformat, hmany.2⟩]
        omega
      refine ⟨counts', _, ?_, hadds, by rw [hcount]⟩
      rw [if_pos hmany, hadd]
      rfl
    · have hcount : instanceCount format r = 1 := by
        rw [instanceCount]
        split
        · rename_i hshared
          have hone : ¬ 1 < (Fiid.bitField (r.getD (sharingIndex format) 0) 0 4).toNat :=
            fun hlt => hmany ⟨hlt, hshared.2⟩
          omega
        · rfl
      refine ⟨counts, [], by rw [if_neg hmany]; rfl, Adds.nil h, by rw [hcount]; rfl⟩
  · simp only [hin, if_false]
    exact ⟨counts, [], rfl, Adds.nil h, rfl⟩

theorem instanceCount_pos (format : SdrFormat) (r : List Byte) : 0 < instanceCount format r := by
  rw [instanceCount]
  split
  · exact Nat.lt_of_lt_of_le Nat.one_pos (Nat.le_max_left _ _)
  · exact Nat.one_pos

/-- The first instance, and the others. -/
theorem map_instances (format : SdrFormat) (r : List Byte) (entityId entityInstance : Byte) :
    ((List.range (instanceCount format r)).map fun i => (entityId, entityInstance + BitVec.ofNat 8 i))
      = (entityId, entityInstance) :: (List.range' 1 (instanceCount format r - 1)).map fun i =>
        (entityId, entityInstance + BitVec.ofNat 8 i) := by
  obtain ⟨n, hn⟩ := Nat.exists_eq_succ_of_ne_zero (instanceCount_pos format r).ne'
  rw [hn, List.range_eq_range', List.range'_succ, List.map_cons]
  simp

/-- The types of records that share a number of instances, by their code. -/
theorem shared_recordType_iff {format : SdrFormat} (hmem : format ∈ entityRecordTypes) :
    (format.recordType = sdrFormatCompactSensorRecord ∨ format.recordType = sdrFormatEventOnlyRecord)
      ↔ (format = .compactSensorRecord ∨ format = .eventOnlyRecord) := by
  fin_cases hmem <;> decide

/-- The callback adds the instances of a record, or, if the record is too short, some of them. -/
theorem entityIdInstancesCount_adds (ndebug : Bool) (hlen : 5 ≤ r.length)
    (h : ∀ e, (counts e).Nodup) :
    ∃ counts' pairs, entityIdInstancesCount ndebug (r.getD sdrRecordTypeIndex 0) r counts
        = .ok (if statsComplete r then 0 else -1, counts') ∧ Adds counts pairs counts' ∧
      pairs ⊆ countedInstances r ∧ (statsComplete r = true → countedInstances r ⊆ pairs) := by
  rw [entityIdInstancesCount, countedInstances, statsComplete]
  cases hfind : SdrFormat.find entityRecordTypes (r.getD sdrRecordTypeIndex 0) with
  | none => exact ⟨counts, [], rfl, Adds.nil h, List.Subset.refl _, fun _ => List.Subset.refl _⟩
  | some format =>
    simp only [Option.isNone_some, Bool.false_eq_true, if_false, parseEntity_eq hlen hfind, ok_bind]
    by_cases hin : entityIndex format + 1 < r.length
    · simp only [hin, if_true, decide_true, Bool.true_and]
      by_cases hcontainer : Fiid.bitField (r.getD (entityIndex format + 1) 0) 7 1
          = sdrLogicalContainerEntity
      · simp only [hcontainer, if_true, decide_true, Bool.true_or]
        exact ⟨counts, [], rfl, Adds.nil h, List.Subset.refl _, fun _ => List.Subset.refl _⟩
      · simp only [hcontainer, if_false, decide_false, Bool.false_or]
        obtain ⟨counts₁, hadd, hadds⟩ := entityIdAddInstance_adds h (r.getD (entityIndex format) 0)
          (Fiid.bitField (r.getD (entityIndex format + 1) 0) 0 7)
        obtain ⟨hmem, htype⟩ := SdrFormat.find_some hfind
        rw [hadd, ok_bind, ← htype, map_instances]
        by_cases hshared : format = .compactSensorRecord ∨ format = .eventOnlyRecord
        · have hfind' : SdrFormat.find [.compactSensorRecord, .eventOnlyRecord]
              (r.getD sdrRecordTypeIndex 0) = some format := by
            rw [← htype]
            rcases hshared with rfl | rfl <;> decide
          obtain ⟨counts₂, pairs, hcount, hadds', hpairs⟩ := sharedInstancesCount_adds ndebug
            hlen hfind' hadds.nodup (r.getD (entityIndex format) 0)
            (Fiid.bitField (r.getD (entityIndex format + 1) 0) 0 7)
          refine ⟨counts₂, _, ?_, hadds.trans hadds', ?_, fun hcomplete => ?_⟩
          · rw [if_pos ((shared_recordType_iff hmem).mpr hshared), hcount]
            simp only [hshared, decide_true, Bool.not_true, Bool.false_or, decide_eq_true_eq]
          · refine List.cons_subset_cons _ ?_
            rw [hpairs]
            split
            · exact List.Subset.refl _
            · exact List.nil_subset _
          · simp only [hshared, decide_true, Bool.not_true, Bool.false_or, decide_eq_true_eq]
              at hcomplete
            rw [hpairs, if_pos hcomplete]
            exact List.Subset.refl _
        · have hone : instanceCount format r = 1 := by
            rw [instanceCount, if_neg fun hboth => hshared hboth.1]
          refine ⟨counts₁, _, ?_, hadds, ?_, ?_⟩
          · rw [if_neg fun hcode => hshared ((shared_recordType_iff hmem).mp hcode)]
            simp only [hshared, decide_false, Bool.not_false, Bool.true_or, if_true]
            rfl
          · rw [hone]
            exact List.Subset.refl _
          · rw [hone]
            exact fun _ => List.Subset.refl _
    · simp only [hin, if_false, decide_false, Bool.false_and, Bool.false_eq_true]
      refine ⟨counts, [], rfl, Adds.nil h, List.nil_subset _, ?_⟩
      rintro ⟨⟩

end Record

/-! ### All records -/

/-- The callback as far as the iteration is concerned: it fails at a record that is too short. -/
def statsCallback : IterateCallback := fun _ sdrRecord ctx =>
  .ok (if statsComplete sdrRecord then 0 else -1, ctx)

/-- What `n` rounds from `ctx` on make of the arrays. -/
structure Collected (n : ℕ) (ctx : SdrCtx) (counts : EntityCounts) (rv : ℤ) (counts' : EntityCounts) :
    Prop where
  result : rv = 0 ∨ rv = -1
  nodup : ∀ e, (counts' e).Nodup
  kept : ∀ e x, x ∈ counts e → x ∈ counts' e
  sound : ∀ records, readRecords n ctx = .ok records → ∀ e x, x ∈ counts' e →
    x ∈ counts e ∨ ∃ r ∈ records, (e, x) ∈ countedInstances r
  complete : rv = 0 → ∃ records, readRecords n ctx = .ok records ∧
    ∀ r ∈ records, ∀ e x, (e, x) ∈ countedInstances r → x ∈ counts' e

section Loop
variable {ndebug : Bool} {ctx ctx' : SdrCtx} {counts : EntityCounts}

theorem length_recordRead {r : List Byte} (h : ipmiSdrCacheRecordRead ctx sdrMaxRecordLength = .ok r) :
    5 ≤ r.length := by
  rw [ipmiSdrCacheRecordRead, if_neg (by decide)] at h
  obtain ⟨recordLength, -, h⟩ := bind_eq_ok.mp h
  split at h
  · cases h
  · rw [readBytes] at h
    split at h
    · cases h
      rw [List.length_take, List.length_drop, sdrRecordHeaderLength]
      rename_i hle
      rw [sdrRecordHeaderLength] at hle
      omega
    · cases h

/-- `ipmi_sdr_cache_next` moves nothing but the cursor. -/
theorem next_cursor {more : Bool} (h : ipmiSdrCacheNext ctx = .ok (more, ctx')) :
    ∃ q, ctx' = ctx.moveTo q := by
  obtain ⟨recordLength, -, h⟩ := bind_eq_ok.mp h
  split at h
  · cases h
    exact ⟨_, rfl⟩
  · cases h
    exact ⟨_, rfl⟩

/-- No round at all. -/
theorem Collected.zero (h : ∀ e, (counts e).Nodup) : Collected 0 ctx counts 0 counts where
  result := Or.inl rfl
  nodup := h
  kept := fun _ _ hx => hx
  sound := fun _ _ _ _ hx => Or.inl hx
  complete := by
    intro _
    refine ⟨[], rfl, ?_⟩
    intro r hr
    cases hr

/-- A record that cannot be read ends the loop. -/
theorem Collected.unread {n : ℕ} {e : SdrStop} (h : ∀ e, (counts e).Nodup)
    (hread : ipmiSdrCacheRecordRead ctx sdrMaxRecordLength = .error e) :
    Collected (n + 1) ctx counts (-1) counts where
  result := Or.inr rfl
  nodup := h
  kept := fun _ _ hx => hx
  sound := by
    intro records hrecords
    rw [readRecords, hread] at hrecords
    cases hrecords
  complete := by
    rintro ⟨⟩

/-- A record at which the callback fails ends it too. -/
theorem Collected.stop {n : ℕ} {r : List Byte} {counts₁ : EntityCounts} {pairs : List (Byte × Byte)}
    (hread : ipmiSdrCacheRecordRead ctx sdrMaxRecordLength = .ok r) (hadds : Adds counts pairs counts₁)
    (hsub : pairs ⊆ countedInstances r) : Collected (n + 1) ctx counts (-1) counts₁ where
  result := Or.inr rfl
  nodup := hadds.nodup
  kept := fun e x hx => (hadds.mem e x).mpr (Or.inl hx)
  sound := by
    intro records hrecords e x hx
    rw [readRecords, hread, ok_bind] at hrecords
    obtain ⟨next, -, hrecords⟩ := bind_eq_ok.mp hrecords
    obtain ⟨rest, -, hcons⟩ := bind_eq_ok.mp hrecords
    cases hcons
    rcases (hadds.mem e x).mp hx with hold | hnew
    · exact Or.inl hold
    · exact Or.inr ⟨r, List.mem_cons_self .., hsub hnew⟩
  complete := by
    rintro ⟨⟩

/-- A record, and the rounds behind it. -/
theorem Collected.cons {n p : ℕ} {rv : ℤ} {r : List Byte} {counts₁ counts' : EntityCounts}
    {pairs : List (Byte × Byte)}
    (hrecords : readRecords (n + 1) ctx
      = readRecords n (ctx.moveTo p) >>= fun records => .ok (r :: records))
    (hadds : Adds counts pairs counts₁) (hsub : pairs ⊆ countedInstances r)
    (hall : countedInstances r ⊆ pairs) (hrest : Collected n (ctx.moveTo p) counts₁ rv counts') :
    Collected (n + 1) ctx counts rv counts' where
  result := hrest.result
  nodup := hrest.nodup
  kept := fun e x hx => hrest.kept e x ((hadds.mem e x).mpr (Or.inl hx))
  sound := by
    intro records hread e x hx
    rw [hrecords] at hread
    obtain ⟨rest, hrest', hcons⟩ := bind_eq_ok.mp hread
    cases hcons
    rcases hrest.sound rest hrest' e x hx with hold | ⟨r', hr', hx'⟩
    · rcases (hadds.mem e x).mp hold with hold | hnew
      · exact Or.inl hold
      · exact Or.inr ⟨r, List.mem_cons_self .., hsub hnew⟩
    · exact Or.inr ⟨r', List.mem_cons_of_mem _ hr', hx'⟩
  complete := by
    intro hzero
    obtain ⟨rest, hrest', hin⟩ := hrest.complete hzero
    refine ⟨r :: rest, by rw [hrecords, hrest', ok_bind], ?_⟩
    intro r' hr' e x hx
    rcases List.mem_cons.mp hr' with rfl | hr'
    · exact hrest.kept e x ((hadds.mem e x).mpr (Or.inr (hall hx)))
    · exact hin r' hr' e x hx

/-- The loop is that of `ipmi_sdr_cache_iterate`, and it collects what the records stand for. -/
theorem statsLoop_collects (ndebug : Bool) : ∀ (n i : ℕ) (ctx : SdrCtx) {counts : EntityCounts},
    (∀ e, (counts e).Nodup) →
    (∃ e, statsLoop ndebug n ctx counts = .error e ∧ iterateLoop statsCallback n i ctx = .error e) ∨
      ∃ rv q counts', statsLoop ndebug n ctx counts = .ok (rv, ctx.moveTo q, counts') ∧
        iterateLoop statsCallback n i ctx = .ok (rv, ctx.moveTo q) ∧ Collected n ctx counts rv counts'
  | 0, i, ctx, counts, h => Or.inr ⟨0, ctx.currentOffset, counts, rfl, rfl, Collected.zero h⟩
  | n + 1, i, ctx, counts, h => by
    cases hread : ipmiSdrCacheRecordRead ctx sdrMaxRecordLength with
    | error e =>
      cases e with
      | errnum e =>
        exact Or.inr ⟨-1, ctx.currentOffset, counts, by rw [statsLoop, hread]; rfl,
          by rw [iterateLoop, hread]; rfl, Collected.unread h hread⟩
      | undefined => exact Or.inl ⟨_, by rw [statsLoop, hread], by rw [iterateLoop, hread]⟩
      | assertion => exact Or.inl ⟨_, by rw [statsLoop, hread], by rw [iterateLoop, hread]⟩
      | unfinished => exact Or.inl ⟨_, by rw [statsLoop, hread], by rw [iterateLoop, hread]⟩
    | ok r =>
      obtain ⟨counts₁, pairs, hcount, hadds, hsub, hall⟩ :=
        entityIdInstancesCount_adds ndebug (length_recordRead hread) h
      by_cases hcomplete : statsComplete r = true
      · rw [if_pos hcomplete] at hcount
        cases hnext : ipmiSdrCacheNext ctx with
        | error e =>
          refine Or.inl ⟨e, ?_, ?_⟩
          · simp only [statsLoop, hread, hcount, ok_bind, ne_eq, not_true, if_false, hnext, error_bind]
          · simp only [iterateLoop, hread, statsCallback, hcomplete, if_true, ok_bind, ne_eq, not_true,
              if_false, hnext, error_bind]
        | ok more =>
          obtain ⟨more, ctx₁⟩ := more
          obtain ⟨p, rfl⟩ := next_cursor hnext
          have hstep : statsLoop ndebug (n + 1) ctx counts
              = statsLoop ndebug n (ctx.moveTo p) counts₁ := by
            simp only [statsLoop, hread, hcount, ok_bind, ne_eq, not_true, if_false, hnext]
          have hstep' : iterateLoop statsCallback (n + 1) i ctx
              = iterateLoop statsCallback n (i + 1) (ctx.moveTo p) := by
            simp only [iterateLoop, hread, statsCallback, hcomplete, if_true, ok_bind, ne_eq, not_true,
              if_false, hnext]
          have hrecords : readRecords (n + 1) ctx
              = readRecords n (ctx.moveTo p) >>= fun records => .ok (r :: records) := by
            simp only [readRecords, hread, ok_bind, hnext]
            rfl
          rw [hstep, hstep']
          obtain ⟨e, hloop, hiterate⟩ | ⟨rv, q, counts', hloop, hiterate, hrest⟩ :=
            statsLoop_collects ndebug n (i + 1) (ctx.moveTo p) hadds.nodup
          · exact Or.inl ⟨e, hloop, hiterate⟩
          · exact Or.inr ⟨rv, q, counts', hloop, hiterate, .cons hrecords hadds hsub (hall hcomplete) hrest⟩
      · -- the callback fails, and the loop ends
        rw [if_neg hcomplete] at hcount
        refine Or.inr ⟨-1, ctx.currentOffset, counts₁, ?_, ?_, .stop hread hadds hsub⟩
        · simp only [statsLoop, hread, hcount, ok_bind]
          rfl
        · simp only [iterateLoop, hread, statsCallback, hcomplete, ok_bind]
          rfl

/-- What the records of a cache are does not depend on the saved offsets. -/
theorem readRecords_saved (offsets : List ℕ) : ∀ (n : ℕ) (ctx : SdrCtx),
    readRecords n { ctx with savedOffsets := offsets } = readRecords n ctx
  | 0, _ => rfl
  | n + 1, ctx => by
    rw [readRecords, readRecords]
    have hread : ipmiSdrCacheRecordRead { ctx with savedOffsets := offsets } sdrMaxRecordLength
        = ipmiSdrCacheRecordRead ctx sdrMaxRecordLength := rfl
    have hlength : recordLengthAt { ctx with savedOffsets := offsets } ctx.currentOffset
        = recordLengthAt ctx ctx.currentOffset := rfl
    rw [hread, ipmiSdrCacheNext, ipmiSdrCacheNext, hlength]
    cases ipmiSdrCacheRecordRead ctx sdrMaxRecordLength with
    | error e => rfl
    | ok r =>
      cases recordLengthAt ctx ctx.currentOffset with
      | error e => rfl
      | ok recordLength =>
        simp only [ok_bind]
        split
        · exact congrArg (fun x => x >>= fun records => .ok (r :: records))
            (readRecords_saved offsets n ctx)
        · exact congrArg (fun x => x >>= fun records => .ok (r :: records)) (readRecords_saved offsets n
            (ctx.moveTo (ctx.currentOffset + sdrRecordHeaderLength + recordLength)))

end Loop

/-! ### Compilations -/

/-- The records of a cache, as many as its header counts. -/
def cacheRecords (ctx : SdrCtx) : Except SdrStop (List (List Byte)) :=
  readRecords ctx.recordCount.toNat (ipmiSdrCacheFirst ctx)

/-- Calls of `ipmi_sdr_stats_compile`, whatever they return; before each of them the cursor is moved
    to some place. -/
def compileRun (ndebug : Bool) : List ℕ → SdrCtx → SdrStats → Except SdrStop (SdrCtx × SdrStats)
  | [], ctx, stats => .ok (ctx, stats)
  | p :: ps, ctx, stats => do
    let (_, ctx, stats) ← ipmiSdrStatsCompile ndebug (ctx.moveTo p) stats
    compileRun ndebug ps ctx stats

/-- The arrays hold instances of the cache's records, none twice, and all once they are compiled. -/
structure StatsInv (ctx : SdrCtx) (stats : SdrStats) : Prop where
  nodup : ∀ e, (stats.entityCounts e).Nodup
  sound : ∀ records, cacheRecords ctx = .ok records → ∀ e x, x ∈ stats.entityCounts e →
    ∃ r ∈ records, (e, x) ∈ countedInstances r
  complete : stats.statsCompiled = true → ∃ records, cacheRecords ctx = .ok records ∧
    ∀ r ∈ records, ∀ e x, (e, x) ∈ countedInstances r → x ∈ stats.entityCounts e

section Compile
variable {ndebug : Bool} {ctx : SdrCtx} {stats : SdrStats}

theorem StatsInv.init (ctx : SdrCtx) : StatsInv ctx .init where
  nodup _ := List.nodup_nil
  sound := by
    rintro _ _ _ _ ⟨⟩
  complete := by
    rintro ⟨⟩

/-- One compilation keeps the invariant and leaves the cursor where it was. -/
theorem StatsInv.compile (h : StatsInv ctx stats) (ndebug : Bool) (p : ℕ) :
    (∃ e, ipmiSdrStatsCompile ndebug (ctx.moveTo p) stats = .error e ∧
      ipmiSdrCacheIterate (ctx.moveTo p) statsCallback = .error e) ∨
    ∃ rv stats', ipmiSdrStatsCompile ndebug (ctx.moveTo p) stats = .ok (rv, ctx.moveTo p, stats') ∧
      StatsInv ctx stats' ∧ (rv = 0 → stats'.statsCompiled = true) := by
  by_cases hcompiled : stats.statsCompiled = true
  · exact Or.inr ⟨0, stats, by rw [ipmiSdrStatsCompile, if_pos hcompiled], h, fun _ => hcompiled⟩
  · have hrecords : readRecords ctx.recordCount.toNat
        (ipmiSdrCacheFirst (sdrSaveCurrentOffset (ctx.moveTo p))) = cacheRecords ctx :=
      readRecords_saved (p :: ctx.savedOffsets) ctx.recordCount.toNat (ipmiSdrCacheFirst ctx)
    obtain ⟨e, hloop, hiterate⟩ | ⟨rv, q, counts', hloop, hiterate, hrest⟩ :=
      statsLoop_collects ndebug ctx.recordCount.toNat 0
        (ipmiSdrCacheFirst (sdrSaveCurrentOffset (ctx.moveTo p))) h.nodup
    · refine Or.inl ⟨e, ?_, ?_⟩
      · rw [ipmiSdrStatsCompile, if_neg hcompiled]
        exact congrArg (fun x => x >>= _) hloop
      · exact congrArg (fun x => x >>= _) hiterate
    · have hcompile : ipmiSdrStatsCompile ndebug (ctx.moveTo p) stats
          = .ok (if rv < 0 then -1 else 0, ctx.moveTo p, ⟨decide (¬ rv < 0), counts'⟩) := by
        rw [ipmiSdrStatsCompile, if_neg hcompiled]
        refine (congrArg (fun x => x >>= _) hloop).trans ?_
        by_cases hneg : rv < 0
        · simp only [hneg, ok_bind, if_true, not_true, decide_false]
          rfl
        · simp only [hneg, ok_bind, if_false, not_false_eq_true, decide_true]
          rfl
      refine Or.inr ⟨_, _, hcompile, ⟨hrest.nodup, ?_, ?_⟩, ?_⟩
      · intro records hread e x hx
        rcases hrest.sound records (hrecords.trans hread) e x hx with hold | hnew
        · exact h.sound records hread e x hold
        · exact hnew
      · intro hdone
        have hzero : rv = 0 := by
          rcases hrest.result with hzero | hminus
          · exact hzero
          · rw [hminus] at hdone
            cases hdone
        obtain ⟨records, hread, hall⟩ := hrest.complete hzero
        exact ⟨records, hrecords.symm.trans hread, hall⟩
      · intro hzero
        by_cases hneg : rv < 0
        · rw [if_pos hneg] at hzero
          cases hzero
        · exact decide_eq_true hneg

/-- Any number of compilations does. -/
theorem compileRun_inv (ctx : SdrCtx) :
    ∀ {cursors : List ℕ} {ctx₀ ctx₁ : SdrCtx} {stats stats₁ : SdrStats} {p : ℕ},
    ctx₀ = ctx.moveTo p → StatsInv ctx stats →
    compileRun ndebug cursors ctx₀ stats = .ok (ctx₁, stats₁) →
    (∃ q, ctx₁ = ctx.moveTo q) ∧ StatsInv ctx stats₁
  | [], _, _, _, _, p, hctx, h, hrun => by
    cases hrun
    exact ⟨⟨p, hctx⟩, h⟩
  | q :: qs, ctx₀, ctx₁, stats, stats₁, p, hctx, h, hrun => by
    subst hctx
    obtain ⟨e, hcompile, -⟩ | ⟨rv, stats', hcompile, h', -⟩ := h.compile ndebug q
    · have hcompile' : ipmiSdrStatsCompile ndebug ((ctx.moveTo p).moveTo q) stats = .error e := hcompile
      rw [compileRun, hcompile'] at hrun
      cases hrun
    · have hcompile' : ipmiSdrStatsCompile ndebug ((ctx.moveTo p).moveTo q) stats
          = .ok (rv, ctx.moveTo q, stats') := hcompile
      rw [compileRun, hcompile'] at hrun
      exact compileRun_inv ctx rfl h' hrun

/-- The instances of an entity are counted once each. -/
theorem StatsInv.length_eq (h : StatsInv ctx stats) (hcompiled : stats.statsCompiled = true) :
    ∃ records, cacheRecords ctx = .ok records ∧
      ∀ e, (stats.entityCounts e).length = (instancesOf e records).toFinset.card := by
  obtain ⟨records, hrecords, hall⟩ := h.complete hcompiled
  refine ⟨records, hrecords, fun e => ?_⟩
  rw [← List.toFinset_card_of_nodup (h.nodup e)]
  congr 1
  ext x
  have hmem : x ∈ instancesOf e records ↔ ∃ r ∈ records, (e, x) ∈ countedInstances r := by
    simp only [instancesOf, List.mem_map, List.mem_filter, List.mem_flatMap, decide_eq_true_eq]
    constructor
    · rintro ⟨⟨e', x'⟩, ⟨hr, rfl⟩, rfl⟩
      exact hr
    · exact fun hr => ⟨(e, x), ⟨hr, rfl⟩, rfl⟩
  rw [List.mem_toFinset, List.mem_toFinset, hmem]
  constructor
  · exact h.sound records hrecords e x
  · rintro ⟨r, hr, hx⟩
    exact hall r hr e x hx

/-- In a cache that holds some records, these are what is read. -/
theorem readRecords_eq : ∀ {rs : List (List Byte)} {ctx : SdrCtx}, AtRecords ctx rs →
    readRecords rs.length ctx = .ok rs
  | [], _, _ => rfl
  | [r], ctx, h => by
    simp only [List.length_singleton, readRecords, h.recordRead, h.next_last, ok_bind]
    rfl
  | r :: r' :: rs, ctx, h => by
    obtain ⟨ctx', hnext, h'⟩ := h.next_cons
    rw [List.length_cons, readRecords, h.recordRead, ok_bind, hnext, ok_bind]
    simp only [readRecords_eq h', ok_bind]
    rfl

theorem SdrCtx.Holds.cacheRecords {records : List (List Byte)} (h : ctx.Holds records) :
    Sdr.cacheRecords ctx = .ok records := by
  rw [Sdr.cacheRecords, h.count]
  exact readRecords_eq h.atRecords

/-- An iteration over these records ends early at one that is too short. -/
theorem iterateLoop_statsCallback : ∀ {rs : List (List Byte)} {ctx : SdrCtx} (i : ℕ), AtRecords ctx rs →
    ∃ q, iterateLoop statsCallback rs.length i ctx
      = .ok (if rs.all statsComplete then 0 else -1, ctx.moveTo q)
  | [], ctx, _, _ => ⟨ctx.currentOffset, rfl⟩
  | r :: rs, ctx, i, h => by
    have hread := h.recordRead
    by_cases hcomplete : statsComplete r = true
    · cases rs with
      | nil =>
        refine ⟨ctx.currentOffset, ?_⟩
        simp only [List.length_singleton, iterateLoop, hread, statsCallback, hcomplete, if_true, ok_bind,
          ne_eq, not_true, if_false, h.next_last, List.all_cons, List.all_nil, Bool.and_self]
        rfl
      | cons r' rs =>
        obtain ⟨ctx', hnext, h'⟩ := h.next_cons
        obtain ⟨p, rfl⟩ := next_cursor hnext
        obtain ⟨q, hrest⟩ := iterateLoop_statsCallback (i + 1) h'
        refine ⟨q, ?_⟩
        rw [List.length_cons, List.all_cons, hcomplete, Bool.true_and]
        simp only [iterateLoop, hread, statsCallback, hcomplete, if_true, ok_bind, ne_eq, not_true,
          if_false, hnext]
        exact hrest
    · refine ⟨ctx.currentOffset, ?_⟩
      simp only [List.length_cons, iterateLoop, hread, statsCallback, hcomplete, ok_bind, List.all_cons,
        Bool.false_and, Bool.false_eq_true, if_false]
      rfl

/-- A compilation of a cache that holds some records returns, and succeeds if all of them are long
    enough. -/
theorem statsCompile_holds {records : List (List Byte)} (h : ctx.Holds records) (ndebug : Bool)
    (hnodup : ∀ e, (stats.entityCounts e).Nodup) (hnew : stats.statsCompiled = false) (p : ℕ) :
    ∃ stats', ipmiSdrStatsCompile ndebug (ctx.moveTo p) stats
      = .ok (if records.all statsComplete then 0 else -1, ctx.moveTo p, stats') := by
  have hat : AtRecords (ipmiSdrCacheFirst (sdrSaveCurrentOffset (ctx.moveTo p))) records :=
    ⟨h.file, h.stop, h.whole⟩
  obtain ⟨q, hiterate⟩ := iterateLoop_statsCallback 0 hat
  have hloop := statsLoop_collects ndebug records.length 0
    (ipmiSdrCacheFirst (sdrSaveCurrentOffset (ctx.moveTo p))) hnodup
  rw [hiterate, ← h.count] at hloop
  obtain ⟨e, -, herror⟩ | ⟨rv, q', counts', hstats, hsame, -⟩ := hloop
  · cases herror
  · obtain ⟨rfl, -⟩ := Prod.mk.inj (Except.ok.inj hsame)
    refine ⟨⟨decide (¬ (if records.all statsComplete then 0 else -1 : ℤ) < 0), counts'⟩, ?_⟩
    rw [ipmiSdrStatsCompile, hnew]
    refine (congrArg (fun x => x >>= _) hstats).trans ?_
    by_cases hall : records.all statsComplete = true
    · simp only [hall, ok_bind, if_true]
      rfl
    · simp only [hall, ok_bind]
      rfl

/-- After any compilations of a cache, successful or not: the arrays hold no instance twice and no
    more than they have room for, and adding another one stays within them; a compilation without a
    result is one whose iteration reads outside the file; and after a compilation that succeeds, the
    number of an entity is that of its different instances in all records of the cache. -/
theorem statsCompile_unique (ndebug : Bool) (ctx : SdrCtx) (cursors : List ℕ) {ctx₁ : SdrCtx}
    {stats₁ : SdrStats} (hrun : compileRun ndebug cursors ctx .init = .ok (ctx₁, stats₁)) :
    (∀ e, (stats₁.entityCounts e).Nodup ∧ (stats₁.entityCounts e).length ≤ maxEntityIdInstances ∧
      ∀ x, ∃ counts, entityIdAddInstance stats₁.entityCounts e x = .ok counts) ∧
    (∀ p e, ipmiSdrStatsCompile ndebug (ctx.moveTo p) stats₁ = .error e →
      ipmiSdrCacheIterate (ctx.moveTo p) statsCallback = .error e) ∧
    ∀ p ctx₂ stats₂, ipmiSdrStatsCompile ndebug (ctx.moveTo p) stats₁ = .ok (0, ctx₂, stats₂) →
      ∃ records, cacheRecords ctx = .ok records ∧ (∀ held, ctx.Holds held → records = held) ∧
        ∀ e, ipmiSdrStatsEntityInstanceUnique stats₂ e = .ok (instancesOf e records).toFinset.card := by
  obtain ⟨-, hinv⟩ := compileRun_inv ctx (show ctx = ctx.moveTo ctx.currentOffset from rfl)
    (StatsInv.init ctx) hrun
  refine ⟨fun e => ⟨hinv.nodup e, length_le_of_nodup (hinv.nodup e), fun x => ?_⟩, ?_, ?_⟩
  · obtain ⟨counts, hadd, -⟩ := entityIdAddInstance_adds hinv.nodup e x
    exact ⟨counts, hadd⟩
  · intro p e herror
    obtain ⟨e', hcompile, hiterate⟩ | ⟨rv, stats', hcompile, -, -⟩ := hinv.compile ndebug p
    · rw [hcompile] at herror
      cases herror
      exact hiterate
    · rw [hcompile] at herror
      cases herror
  · intro p ctx₂ stats₂ hok
    obtain ⟨e', hcompile, -⟩ | ⟨rv, stats', hcompile, hinv', hdone⟩ := hinv.compile ndebug p
    · rw [hcompile] at hok
      cases hok
    · rw [hcompile] at hok
      cases hok
      obtain ⟨records, hrecords, hcount⟩ := hinv'.length_eq (hdone rfl)
      refine ⟨records, hrecords, fun held hheld => ?_, fun e => ?_⟩
      · rw [hheld.cacheRecords] at hrecords
        cases hrecords
        rfl
      · rw [ipmiSdrStatsEntityInstanceUnique, hdone rfl, ← hcount e]
        rfl

end Compile

/-! ### A cache of two records -/

/-- Three sensors of entity 7, instances 1 to 3, in one record, and a device of instance 2. -/
def entityRecords : List (List Byte) :=
  [[1, 0, 0x51, 0x02, 20, 0x20, 0x00, 0x30, 0x07, 0x01, 0x7F, 0xC0, 0x01, 0x01, 0, 0, 0, 0, 0, 0, 0, 1,
      0, 0x03, 0x80],
    [2, 0, 0x51, 0x10, 10, 0, 0, 0, 0, 0, 0, 0, 0x07, 0x02, 0]]

/-- Their cache, opened. -/
def entityCtx : SdrCtx where
  sdrVersion := 0x51
  recordCount := 2
  mostRecentAdditionTimestamp := 0
  mostRecentEraseTimestamp := 0
  sdrCache := cacheFile ⟨0x51, 2, 0, 0⟩ entityRecords
  recordsStartOffset := 20
  recordsEndOffset := 60
  currentOffset := 20
  savedOffsets := []

theorem entityCtx_holds : entityCtx.Holds entityRecords where
  file := ⟨fileHeader ⟨0x51, 2, 0, 0⟩, fileTrailer entityRecords, rfl, rfl⟩
  stop := rfl
  whole := by
    intro r hr
    simp only [entityRecords, List.mem_cons, List.not_mem_nil, or_false] at hr
    rcases hr with rfl | rfl <;> exact ⟨by decide, by decide⟩
  count := rfl

theorem statsCompile_unique_three : ∃ stats, ipmiSdrStatsCompile false (entityCtx.moveTo 20) .init
    = .ok (0, entityCtx.moveTo 20, stats) ∧ ipmiSdrStatsEntityInstanceUnique stats 7 = .ok 3 := by
  obtain ⟨stats, hcompile⟩ := statsCompile_holds entityCtx_holds false
    (show ∀ e, (SdrStats.init.entityCounts e).Nodup from fun _ => List.nodup_nil) rfl 20
  have hall : entityRecords.all statsComplete = true := by decide
  rw [if_pos hall] at hcompile
  obtain ⟨records, -, hheld, hunique⟩ :=
    (statsCompile_unique false entityCtx [] rfl).2.2 20 _ stats hcompile
  refine ⟨stats, hcompile, ?_⟩
  rw [hunique 7, hheld entityRecords entityCtx_holds]
  rfl

end FreeIpmi.Sdr
