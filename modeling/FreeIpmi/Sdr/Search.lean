import FreeIpmi.Sdr.Safety

/-! Seeking and searching in an SDR cache (`sdr/ipmi-sdr-cache-read.c`).

    Over a cache that holds a list of records, whatever their types and lengths, the loops of the
    four functions are functions of that list: seeking is repeated stepping, and a search is the
    first match. Only the search for a sensor needs more than the header of a record: it does not
    look at the length byte, so a record that is too short for the fields of its type is judged by
    the bytes behind it. -/

namespace FreeIpmi.Sdr
open Calls

/-- An open cache holds these records: they fill the region between the two offsets, and the header
    counts them. The cursor may be anywhere. -/
structure SdrCtx.Holds (ctx : SdrCtx) (records : List (List Byte)) : Prop where
  file : ∃ a c, ctx.sdrCache = a ++ (records.flatten ++ c) ∧ a.length = ctx.recordsStartOffset
  stop : ctx.recordsEndOffset = ctx.recordsStartOffset + records.flatten.length
  whole : ∀ r ∈ records, Whole r
  count : ctx.recordCount.toNat = records.length

/-- Where record number `i` starts. -/
def SdrCtx.place (ctx : SdrCtx) (records : List (List Byte)) (i : ℕ) : ℕ :=
  ctx.recordsStartOffset + (records.take i).flatten.length

/-- Any number of calls of `ipmi_sdr_cache_next`. -/
def nexts : ℕ → SdrCtx → Except SdrStop SdrCtx
  | 0, ctx => .ok ctx
  | n + 1, ctx => do
    let (_, ctx) ← ipmiSdrCacheNext ctx
    nexts n ctx

/-! ### Stepping -/

section Steps
variable {ctx : SdrCtx} {p : ℕ} {r : List Byte} {rs : List (List Byte)}

theorem SdrCtx.Holds.atRecords {records : List (List Byte)} (h : ctx.Holds records) :
    AtRecords (ctx.moveTo ctx.recordsStartOffset) records :=
  ⟨h.file, h.stop, h.whole⟩

/-- The record under the cursor, and the file behind it. -/
theorem AtRecords.length_eq (h : AtRecords (ctx.moveTo p) (r :: rs)) :
    Sdr.recordLengthAt ctx p = .ok (r.getD sdrRecordLengthIndex 0).toNat ∧
      r.length = (r.getD sdrRecordLengthIndex 0).toNat + sdrRecordHeaderLength :=
  ⟨h.recordLengthAt, (h.whole r (List.mem_cons_self ..)).length⟩

/-- At the last record the test for the end holds. -/
theorem AtRecords.end_last (h : AtRecords (ctx.moveTo p) [r]) :
    ctx.recordsEndOffset ≤ p + (r.getD sdrRecordLengthIndex 0).toNat + sdrRecordHeaderLength := by
  have hlen := h.length_eq.2
  have hstop : ctx.recordsEndOffset = p + [r].flatten.length := h.stop
  simp only [List.flatten_cons, List.flatten_nil, List.append_nil] at hstop
  omega

/-- At any other record it does not, and the next record follows. -/
theorem AtRecords.end_cons {r' : List Byte} (h : AtRecords (ctx.moveTo p) (r :: r' :: rs)) :
    p + (r.getD sdrRecordLengthIndex 0).toNat + sdrRecordHeaderLength < ctx.recordsEndOffset ∧
      AtRecords (ctx.moveTo (p + sdrRecordHeaderLength + (r.getD sdrRecordLengthIndex 0).toNat))
        (r' :: rs) := by
  have hlen := h.length_eq.2
  have hheader := (h.whole r' (List.mem_cons_of_mem _ (List.mem_cons_self ..))).header
  have hstop : ctx.recordsEndOffset = p + (r :: r' :: rs).flatten.length := h.stop
  simp only [List.flatten_cons, List.length_append, sdrRecordHeaderLength] at hstop hheader hlen
  obtain ⟨a, c, hfile, ha⟩ := h.file
  have hp : (ctx.moveTo p).currentOffset = p := rfl
  refine ⟨by simp only [sdrRecordHeaderLength]; omega, ⟨a ++ r, c, ?_, ?_⟩, ?_,
    fun x hx => h.whole x (List.mem_cons_of_mem _ hx)⟩
  · have hcache : (ctx.moveTo p).sdrCache = ctx.sdrCache := rfl
    rw [hcache] at hfile
    show ctx.sdrCache = _
    simp only [hfile, List.flatten_cons, List.append_assoc]
  · show (a ++ r).length = p + sdrRecordHeaderLength + (r.getD sdrRecordLengthIndex 0).toNat
    rw [List.length_append, ha, hp, hlen, sdrRecordHeaderLength]
    omega
  · show ctx.recordsEndOffset = p + sdrRecordHeaderLength + (r.getD sdrRecordLengthIndex 0).toNat
      + (r' :: rs).flatten.length
    simp only [List.flatten_cons, List.length_append, sdrRecordHeaderLength]
    omega

theorem seekLoop_eq {i : ℕ} (h : AtRecords (ctx.moveTo p) rs) (hi : i < rs.length) :
    seekLoop ctx i p = .ok (p + (rs.take i).flatten.length) := by
  induction i generalizing p rs with
  | zero => simp [seekLoop]
  | succ i ih =>
    rcases rs with - | ⟨r, - | ⟨r', rs⟩⟩
    · simp at hi
    · simp at hi
    · obtain ⟨hlt, hnext⟩ := h.end_cons
      obtain ⟨hlength, hlen⟩ := h.length_eq
      rw [seekLoop, hlength, ok_bind, if_neg (not_le.mpr hlt), ih hnext (Nat.lt_of_succ_lt_succ hi)]
      congr 1
      rw [List.take_succ_cons, List.flatten_cons, List.length_append, hlen]
      omega

theorem nexts_eq {i : ℕ} (h : AtRecords (ctx.moveTo p) rs) (hi : i < rs.length) :
    nexts i (ctx.moveTo p) = .ok (ctx.moveTo (p + (rs.take i).flatten.length)) := by
  induction i generalizing p rs with
  | zero => simp [nexts]
  | succ i ih =>
    rcases rs with - | ⟨r, - | ⟨r', rs⟩⟩
    · simp at hi
    · simp at hi
    · obtain ⟨hlt, hnext⟩ := h.end_cons
      obtain ⟨hlength, hlen⟩ := h.length_eq
      have hstep : ipmiSdrCacheNext (ctx.moveTo p) = .ok (true,
          ctx.moveTo (p + sdrRecordHeaderLength + (r.getD sdrRecordLengthIndex 0).toNat)) := by
        have hlength' : Sdr.recordLengthAt (ctx.moveTo p) (ctx.moveTo p).currentOffset
            = .ok (r.getD sdrRecordLengthIndex 0).toNat := hlength
        rw [ipmiSdrCacheNext, hlength', ok_bind]
        exact if_neg (not_le.mpr hlt)
      rw [nexts, hstep, ok_bind]
      refine (ih hnext (Nat.lt_of_succ_lt_succ hi)).trans ?_
      congr 2
      rw [List.take_succ_cons, List.flatten_cons, List.length_append, hlen]
      omega

end Steps

/-! ### First matches -/

/-- Up to the first record with `f`, every record has `P`. -/
def UpToMatch (P : List Byte → Prop) (f : List Byte → Bool) : List (List Byte) → Prop
  | [] => True
  | r :: rs => P r ∧ (f r = false → UpToMatch P f rs)

theorem UpToMatch.of_forall {P : List Byte → Prop} {f : List Byte → Bool}
    {records : List (List Byte)} (h : ∀ r ∈ records, P r) : UpToMatch P f records := by
  induction records with
  | nil => trivial
  | cons r rs ih =>
    exact ⟨h r (List.mem_cons_self ..), fun _ => ih fun x hx => h x (List.mem_cons_of_mem _ hx)⟩

/-- A search whose test tells `f` on records with `P` stops at the first record with `f`. -/
theorem searchLoop_eq {ctx : SdrCtx} {p : ℕ} {records : List (List Byte)}
    {found : ℕ → Except SdrStop Bool} {P : List Byte → Prop} {f : List Byte → Bool}
    (hfound : ∀ p r rs, AtRecords (ctx.moveTo p) (r :: rs) → P r → found p = .ok (f r))
    (h : AtRecords (ctx.moveTo p) records) (hupto : UpToMatch P f records) :
    searchLoop ctx found p =
      match records.findIdx? f with
      | some i => .ok (p + (records.take i).flatten.length)
      | none => .error (.errnum .notFound) := by
  induction records generalizing p with
  | nil =>
    have hstop : ctx.recordsEndOffset = p := h.stop
    rw [searchLoop, if_neg (by omega)]
    rfl
  | cons r rs ih =>
    obtain ⟨hlength, hlen⟩ := h.length_eq
    have hstop : ctx.recordsEndOffset = p + (r :: rs).flatten.length := h.stop
    rw [List.flatten_cons, List.length_append, hlen, sdrRecordHeaderLength] at hstop
    rw [searchLoop, if_pos (by omega), hfound p r rs h hupto.1, ok_bind, List.findIdx?_cons]
    by_cases hr : f r = true
    · rw [if_pos hr, if_pos hr]
      simp
      rfl
    · rw [if_neg hr, if_neg hr, hlength, ok_bind]
      cases rs with
      | nil =>
        rw [if_pos h.end_last]
        rfl
      | cons r' rs =>
        obtain ⟨hlt, hnext⟩ := h.end_cons
        rw [if_neg (not_le.mpr hlt), ih hnext (hupto.2 (by simpa using hr))]
        cases (r' :: rs).findIdx? f with
        | none => rfl
        | some i =>
          simp only [Option.map_some, List.take_succ_cons, List.flatten_cons, List.length_append, hlen]
          congr 1
          omega

/-- The call that searches: it fails without moving the cursor, or moves it to the first match. -/
theorem orFailed_search {ctx : SdrCtx} {records : List (List Byte)} (h : ctx.Holds records)
    {found : ℕ → Except SdrStop Bool} {P : List Byte → Prop} {f : List Byte → Bool}
    (hfound : ∀ p r rs, AtRecords (ctx.moveTo p) (r :: rs) → P r → found p = .ok (f r))
    (hupto : UpToMatch P f records) :
    orFailed ctx ((searchLoop ctx found ctx.recordsStartOffset >>= fun offset =>
        (.ok (ctx.moveTo offset) : Except SdrStop SdrCtx)) >>= fun c => .ok (.done, c))
      = match records.findIdx? f with
        | some i => .ok (.done, ctx.moveTo (ctx.place records i))
        | none => .ok (.failed .notFound, ctx) := by
  rw [searchLoop_eq hfound h.atRecords hupto]
  cases records.findIdx? f with
  | none => rfl
  | some i => rfl

/-! ### What a record answers to -/

/-- How many sensors share a record: the low half of a byte that only compact and event-only records
    have. -/
def shareCountOf (r : List Byte) : ℕ :=
  if r.getD sdrRecordTypeIndex 0 = sdrFormatCompactSensorRecord then
    (r.getD sdrRecordCompactShareCount 0 &&& 0x0F).toNat
  else if r.getD sdrRecordTypeIndex 0 = sdrFormatEventOnlyRecord then
    (r.getD sdrRecordEventShareCount 0 &&& 0x0F).toNat
  else 0

/-- A full, compact or event-only record with this owner, whose numbers (`number` to
    `number + share_count - 1`, or the single number) contain the sensor number. -/
def CoversSensor (sensorNumber sensorOwnerId : Byte) (r : List Byte) : Prop :=
  isSensorType (r.getD sdrRecordTypeIndex 0) = true ∧
    r[sdrRecordSensorOwnerIdIndex]? = some sensorOwnerId ∧
    ∃ number ∈ r[sdrRecordSensorNumberIndex]?, number.toNat ≤ sensorNumber.toNat ∧
      sensorNumber.toNat ≤ number.toNat + (max 1 (shareCountOf r) - 1)

instance (sensorNumber sensorOwnerId : Byte) (r : List Byte) :
    Decidable (CoversSensor sensorNumber sensorOwnerId r) :=
  inferInstanceAs (Decidable (_ ∧ _ ∧ _))

/-- The record has the bytes that a search for this sensor looks at. -/
def HasSensorBytes (sensorNumber sensorOwnerId : Byte) (r : List Byte) : Prop :=
  sensorBytes r sensorNumber sensorOwnerId 0 ≤ r.length

instance (sensorNumber sensorOwnerId : Byte) (r : List Byte) :
    Decidable (HasSensorBytes sensorNumber sensorOwnerId r) :=
  inferInstanceAs (Decidable (_ ≤ _))

theorem coveredByShare_iff (sensorNumber number share : Byte) :
    coveredByShare sensorNumber number share = true ↔ number.toNat < sensorNumber.toNat ∧
      sensorNumber.toNat ≤ number.toNat + (max 1 share.toNat - 1) := by
  simp only [coveredByShare, decide_eq_true_eq]
  omega

/-- In a record that has the bytes, the test of the search says whether it covers the sensor. -/
theorem sensorFound_iff {sensorNumber sensorOwnerId : Byte} {r : List Byte}
    (h : HasSensorBytes sensorNumber sensorOwnerId r) :
    sensorFound r sensorNumber sensorOwnerId 0 = true ↔
      CoversSensor sensorNumber sensorOwnerId r := by
  have hne : sdrFormatCompactSensorRecord ≠ sdrFormatEventOnlyRecord := by decide
  rw [CoversSensor, sensorFound]
  simp only [Nat.zero_add]
  by_cases hsensor : isSensorType (r.getD sdrRecordTypeIndex 0) = true
  · have hlt : sdrRecordSensorNumberIndex < r.length :=
      (sensorNumberIndex_lt (p := 0) sensorNumber sensorOwnerId
        (by simpa using hsensor)).trans_le h
    have howner : r[sdrRecordSensorOwnerIdIndex]? = some (r.getD sdrRecordSensorOwnerIdIndex 0) := by
      rw [List.getD_eq_getElem _ _ (lt_of_le_of_lt (by decide) hlt)]
      exact List.getElem?_eq_getElem _
    have hnumber : r[sdrRecordSensorNumberIndex]? = some (r.getD sdrRecordSensorNumberIndex 0) := by
      rw [List.getD_eq_getElem _ _ hlt]
      exact List.getElem?_eq_getElem _
    rw [howner, hnumber, shareCountOf]
    generalize r.getD sdrRecordTypeIndex 0 = recordType at hsensor ⊢
    generalize r.getD sdrRecordSensorOwnerIdIndex 0 = owner
    generalize r.getD sdrRecordSensorNumberIndex 0 = number
    have heq : number = sensorNumber ↔ number.toNat = sensorNumber.toNat := BitVec.toNat_inj.symm
    simp only [hsensor, true_and, Bool.and_eq_true, decide_eq_true_eq, Option.some.injEq,
      Bool.or_eq_true, Option.mem_some_iff, exists_eq_left', coveredByShare_iff, heq]
    refine and_congr_right fun _ => ?_
    by_cases hc : recordType = sdrFormatCompactSensorRecord
    · simp only [hc, hne, if_true, true_and, false_and, or_false]
      omega
    · by_cases he : recordType = sdrFormatEventOnlyRecord
      · simp only [he, hne.symm, if_true, if_false, true_and, false_and, or_false]
        omega
      · simp only [hc, he, if_false, false_and, or_false]
        omega
  · rw [Bool.not_eq_true] at hsensor
    simp only [hsensor, Bool.false_and, Bool.false_eq_true, false_and]

/-- A search for a sensor depends on the bytes that it looks at, wherever they are. -/
theorem sensorFound_congr {a b : List Byte} {p q n : ℕ} {sensorNumber sensorOwnerId : Byte}
    (hn : sensorBytes b sensorNumber sensorOwnerId q ≤ n)
    (h : ∀ i < n, a.getD (p + i) 0 = b.getD (q + i) 0) :
    sensorBytes a sensorNumber sensorOwnerId p = sensorBytes b sensorNumber sensorOwnerId q ∧
      sensorFound a sensorNumber sensorOwnerId p = sensorFound b sensorNumber sensorOwnerId q := by
  have hne : sdrFormatCompactSensorRecord ≠ sdrFormatEventOnlyRecord := by decide
  have htype := h _ ((sensorTypeIndex_lt b sensorNumber sensorOwnerId q).trans_le hn)
  by_cases hsensor : isSensorType (b.getD (q + sdrRecordTypeIndex) 0) = true
  · have hlt := (sensorNumberIndex_lt sensorNumber sensorOwnerId hsensor).trans_le hn
    have howner := h _ (lt_of_le_of_lt (by decide : sdrRecordSensorOwnerIdIndex ≤ _) hlt)
    have hnumber := h _ hlt
    have hbytes : sensorBytes a sensorNumber sensorOwnerId p
        = sensorBytes b sensorNumber sensorOwnerId q := by
      simp only [sensorBytes, htype, howner, hnumber]
    refine ⟨hbytes, ?_⟩
    simp only [sensorBytes, hsensor, if_true] at hn
    simp only [sensorFound, htype, howner, hnumber, hsensor, Bool.true_and]
    by_cases ho : b.getD (q + sdrRecordSensorOwnerIdIndex) 0 = sensorOwnerId
    · by_cases hnum : b.getD (q + sdrRecordSensorNumberIndex) 0 = sensorNumber
      · simp only [hnum, decide_true, Bool.true_or]
      · simp only [ho, hnum, and_false, if_false, true_and] at hn
        by_cases hc : b.getD (q + sdrRecordTypeIndex) 0 = sdrFormatCompactSensorRecord
        · rw [if_pos hc] at hn
          rw [hc, h sdrRecordCompactShareCount (by omega)]
          simp only [hne, decide_false, Bool.false_and]
        · rw [if_neg hc] at hn
          by_cases he : b.getD (q + sdrRecordTypeIndex) 0 = sdrFormatEventOnlyRecord
          · rw [if_pos he] at hn
            rw [he, h sdrRecordEventShareCount (by omega)]
            simp only [hne.symm, decide_false, Bool.false_and]
          · simp only [hc, he, decide_false, Bool.false_and]
    · simp only [ho, decide_false, Bool.false_and]
  · rw [Bool.not_eq_true] at hsensor
    simp only [sensorBytes, sensorFound, htype, hsensor, Bool.false_and, Bool.false_eq_true, if_false,
      and_self]

section Test
variable {ctx : SdrCtx} {p : ℕ} {r : List Byte} {rs : List (List Byte)}

theorem AtRecords.byte (h : AtRecords (ctx.moveTo p) (r :: rs)) {i : ℕ} (hi : i < r.length) :
    p + i < ctx.sdrCache.length ∧ ctx.sdrCache.getD (p + i) 0 = r.getD i 0 := by
  obtain ⟨a, c, hfile, ha⟩ := h.file
  have hcache : ctx.sdrCache = a ++ (r ++ (rs.flatten ++ c)) := by
    rw [← List.append_assoc r, ← List.flatten_cons]
    exact hfile
  have hp : a.length = p := ha
  rw [hcache]
  refine ⟨by simp only [List.length_append]; omega, ?_⟩
  rw [List.getD_append_right _ _ _ _ (by omega), ← hp, Nat.add_sub_cancel_left,
    List.getD_append _ _ _ _ hi]

theorem hasRecordId_eq (recordId : BitVec 16) (h : AtRecords (ctx.moveTo p) (r :: rs)) :
    hasRecordId ctx recordId p = .ok (decide (recordId = recordIdOfRecord r)) := by
  have hheader := (h.whole r (List.mem_cons_self ..)).header
  have hls : sdrRecordIdIndexLs < r.length := Nat.lt_of_lt_of_le (by decide) hheader
  have hms : sdrRecordIdIndexMs < r.length := Nat.lt_of_lt_of_le (by decide) hheader
  rw [hasRecordId, readByte_of_lt (h.byte hls).1, readByte_of_lt (h.byte hms).1, (h.byte hls).2,
    (h.byte hms).2]
  rfl

theorem hasSensor_record (sensorNumber sensorOwnerId : Byte)
    (h : AtRecords (ctx.moveTo p) (r :: rs)) (hbytes : HasSensorBytes sensorNumber sensorOwnerId r) :
    hasSensor ctx sensorNumber sensorOwnerId p
      = .ok (decide (CoversSensor sensorNumber sensorOwnerId r)) := by
  have hsame : ∀ i < r.length, ctx.sdrCache.getD (p + i) 0 = r.getD (0 + i) 0 := by
    intro i hi
    rw [Nat.zero_add]
    exact (h.byte hi).2
  obtain ⟨hcount, hfound⟩ := sensorFound_congr hbytes hsame
  have hpos := sensorTypeIndex_lt r sensorNumber sensorOwnerId 0
  have hinside : p + sensorBytes r sensorNumber sensorOwnerId 0 ≤ ctx.sdrCache.length := by
    have hlast := (h.byte (i := sensorBytes r sensorNumber sensorOwnerId 0 - 1)
      (Nat.lt_of_lt_of_le (by omega) hbytes)).1
    omega
  rw [hasSensor_eq, hcount, if_pos hinside, hfound]
  congr 1
  rw [Bool.eq_iff_iff, decide_eq_true_iff]
  exact sensorFound_iff hbytes

end Test

/-! ### The four operations -/

/-- The cursor on the first record with `f`, or a failure that leaves it alone. -/
def firstMatch (ctx : SdrCtx) (records : List (List Byte)) (f : List Byte → Bool) :
    Except SdrStop (Reply × SdrCtx) :=
  match records.findIdx? f with
  | some i => .ok (.done, ctx.moveTo (ctx.place records i))
  | none => .ok (.failed .notFound, ctx)

/-- What seeking and searching do in a cache that holds these records. -/
structure SearchesFirst (ndebug : Bool) (ctx : SdrCtx) (records : List (List Byte)) : Prop where
  seek : ∀ i < records.length, ∃ ctx',
    SdrCall.run ndebug ctx (.seek i) = .ok (.done, ctx') ∧
      nexts i (ipmiSdrCacheFirst ctx) = .ok ctx' ∧ ctx' = ctx.moveTo (ctx.place records i)
  seekBeyond : ∀ i, records.length ≤ i →
    SdrCall.run ndebug ctx (.seek i) = .ok (.failed .parameters, ctx)
  recordId : ∀ recordId, SdrCall.run ndebug ctx (.searchRecordId recordId)
    = firstMatch ctx records fun r => decide (recordId = recordIdOfRecord r)
  sensor : ∀ sensorNumber sensorOwnerId,
    UpToMatch (HasSensorBytes sensorNumber sensorOwnerId)
      (fun r => decide (CoversSensor sensorNumber sensorOwnerId r)) records →
    SdrCall.run ndebug ctx (.searchSensor sensorNumber sensorOwnerId)
      = firstMatch ctx records fun r => decide (CoversSensor sensorNumber sensorOwnerId r)

/-- Wherever the cursor of a cache stands, `ipmi_sdr_cache_seek` does what stepping from the first
    record does, and the searches find the first match. -/
theorem sdrCache_searchesFirst (ndebug : Bool) {ctx : SdrCtx} {records : List (List Byte)}
    (h : ctx.Holds records) : SearchesFirst ndebug ctx records where
  seek i hi := by
    have hseek : ipmiSdrCacheSeek ctx i = .ok (ctx.moveTo (ctx.place records i)) := by
      rw [ipmiSdrCacheSeek, h.count, if_neg (by omega), seekLoop_eq h.atRecords hi]
      rfl
    refine ⟨_, ?_, nexts_eq h.atRecords hi, rfl⟩
    rw [SdrCall.run, hseek]
    rfl
  seekBeyond i hi := by
    rw [SdrCall.run, ipmiSdrCacheSeek, h.count, if_pos hi]
    rfl
  recordId recordId :=
    orFailed_search (P := fun _ => True) h (fun p r rs hat _ => hasRecordId_eq recordId hat)
      (UpToMatch.of_forall fun _ _ => trivial)
  sensor sensorNumber sensorOwnerId hupto :=
    orFailed_search h (fun p r rs hat hbytes => hasSensor_record _ _ hat hbytes) hupto

/-- A cache that was created and opened holds the records that were written. -/
theorem holds_of_open {info : SdrInfo} {records : List (List Byte)}
    (hwhole : ∀ r ∈ records, Whole r) (hcount : info.recordCount.toNat = records.length)
    {ipmiCtx : Option (Option SdrInfo)} (hcurrent : checkUpToDate info ipmiCtx = .ok ()) :
    ∃ ctx, ipmiSdrCacheOpen (cacheFile info records) ipmiCtx = .ok ctx ∧ ctx.Holds records := by
  have hsmall : 20 + records.flatten.length + 5 < 2 ^ 32 := by
    have hlen := length_flatten_le hwhole
    have hlt := info.recordCount.isLt
    omega
  refine ⟨_, ipmiSdrCacheOpen_cacheFile hsmall hcurrent, ?_⟩
  exact ⟨⟨fileHeader info, fileTrailer records, rfl, length_fileHeader info⟩, rfl, hwhole, hcount⟩

/-! ### A record without an owner -/

/-- A full sensor record that ends with its header, and an OEM record. -/
def shortRecords : List (List Byte) := [[1, 0, 0x51, 0x01, 0], [0x20, 0, 0x51, 0xC0, 0]]

/-- Their cache, opened. -/
def shortCtx : SdrCtx where
  sdrVersion := 0x51
  recordCount := 2
  mostRecentAdditionTimestamp := 0
  mostRecentEraseTimestamp := 0
  sdrCache := cacheFile ⟨0x51, 2, 0, 0⟩ shortRecords
  recordsStartOffset := 20
  recordsEndOffset := 30
  currentOffset := 20
  savedOffsets := []

theorem shortCtx_holds : shortCtx.Holds shortRecords where
  file := ⟨fileHeader ⟨0x51, 2, 0, 0⟩, fileTrailer shortRecords, rfl, rfl⟩
  stop := rfl
  whole := by
    intro r hr
    simp only [shortRecords, List.mem_cons, List.not_mem_nil, or_false] at hr
    rcases hr with rfl | rfl <;> exact ⟨by decide, by decide⟩
  count := rfl

theorem sdrCache_searchesFirst_short :
    shortCtx.Holds shortRecords ∧ SearchesFirst false shortCtx shortRecords :=
  ⟨shortCtx_holds, sdrCache_searchesFirst false shortCtx_holds⟩

/-- Seeking beyond the last record fails where stepping stops at the last one, and a search for a
    sensor finds a record that has no owner: the owner is the first byte of the next record. -/
theorem sdrCache_seek_beyond_and_short_record :
    ipmiSdrCacheOpen (cacheFile ⟨0x51, 2, 0, 0⟩ shortRecords) none = .ok shortCtx
      ∧ shortCtx.Holds shortRecords
      ∧ SdrCall.run false shortCtx (.seek 2) = .ok (.failed .parameters, shortCtx)
      ∧ nexts 2 (ipmiSdrCacheFirst shortCtx) = .ok (shortCtx.moveTo 25)
      ∧ shortCtx.currentOffset = 20
      ∧ SdrCall.run false shortCtx (.searchSensor 0x51 0x20) = .ok (.done, shortCtx.moveTo 20)
      ∧ ∀ r ∈ shortRecords, ¬ CoversSensor 0x51 0x20 r := by
  have hfound : hasSensor shortCtx 0x51 0x20 20 = .ok true := by decide
  have hsearch : searchLoop shortCtx (hasSensor shortCtx 0x51 0x20) 20 = .ok 20 := by
    rw [searchLoop, if_pos (by decide), hfound]
    rfl
  refine ⟨rfl, shortCtx_holds, rfl, rfl, rfl, ?_, by decide⟩
  rw [SdrCall.run, ipmiSdrCacheSearchSensor, show shortCtx.recordsStartOffset = 20 from rfl, hsearch]
  rfl

end FreeIpmi.Sdr
