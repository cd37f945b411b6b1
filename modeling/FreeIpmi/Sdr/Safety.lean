import FreeIpmi.Fiid.Front
import FreeIpmi.Sdr.RoundTrip

/-! Which SDR caches are safe to read.

    `ipmi_sdr_cache_open` checks the frame of a file and not its records, and the cursor advances by
    length bytes from the file. A program is a tree of calls whose next call may depend on what the
    last one returned, with callbacks that are such programs again. Every program stays inside the
    file exactly when the records that its walks can reach do (`Fits`). -/

namespace FreeIpmi.Sdr
open Calls

/-! ### Programs -/

/-- The calls on an open cache, except `ipmi_sdr_cache_iterate`. -/
inductive SdrCall where
  | first
  | next
  | seek (index : ℕ)
  | searchRecordId (recordId : BitVec 16)
  | searchSensor (sensorNumber sensorOwnerId : Byte)
  | recordIdAndType
  | recordRead (buflen : ℕ)

/-- What a call returns. -/
inductive Reply where
  | failed (e : SdrErr)
  | done
  | more (next : Bool)
  | idAndType (recordId : BitVec 16) (recordType : Byte)
  | record (buf : List Byte)

/-- A failing call leaves the context alone. -/
def orFailed (ctx : SdrCtx) : Except SdrStop (Reply × SdrCtx) → Except SdrStop (Reply × SdrCtx)
  | .error (.errnum e) => .ok (.failed e, ctx)
  | r => r

/-- One call. -/
def SdrCall.run (ndebug : Bool) (ctx : SdrCtx) : SdrCall → Except SdrStop (Reply × SdrCtx)
  | .first => .ok (.done, ipmiSdrCacheFirst ctx)
  | .next => orFailed ctx (ipmiSdrCacheNext ctx >>= fun r => .ok (.more r.1, r.2))
  | .seek index => orFailed ctx (ipmiSdrCacheSeek ctx index >>= fun c => .ok (.done, c))
  | .searchRecordId recordId =>
    orFailed ctx (ipmiSdrCacheSearchRecordId ctx recordId >>= fun c => .ok (.done, c))
  | .searchSensor sensorNumber sensorOwnerId =>
    orFailed ctx (ipmiSdrCacheSearchSensor ctx sensorNumber sensorOwnerId >>= fun c => .ok (.done, c))
  | .recordIdAndType =>
    orFailed ctx (ipmiSdrParseRecordIdAndType ndebug ctx >>= fun r => .ok (.idAndType r.1 r.2, ctx))
  | .recordRead buflen =>
    orFailed ctx (ipmiSdrCacheRecordRead ctx buflen >>= fun buf => .ok (.record buf, ctx))

/-- A program that uses an open cache, or the body of a callback. -/
inductive Client where
  | done (ret : ℤ)
  | call (c : SdrCall) (k : Reply → Client)
  | iterate (callback : ℕ → List Byte → Client) (k : ℤ → Client)

/-- The cursor is inside the records, or at their end. -/
def SdrCtx.InRecords (ctx : SdrCtx) : Prop :=
  ctx.recordsStartOffset ≤ ctx.currentOffset ∧ ctx.currentOffset ≤ ctx.recordsEndOffset

instance (ctx : SdrCtx) : Decidable ctx.InRecords := inferInstanceAs (Decidable (_ ∧ _))

/-- The cursor is looked at whenever the program is about to act. -/
def watch (ctx : SdrCtx) : Except SdrStop Unit :=
  if ctx.InRecords then .ok () else .error .assertion

/-- A run of a program. It stops as soon as a call reads outside the file, or the cursor is outside
    the records. -/
def Client.run (ndebug : Bool) : Client → SdrCtx → Except SdrStop (ℤ × SdrCtx)
  | .done ret, ctx => do
    watch ctx
    return (ret, ctx)
  | .call c k, ctx => do
    watch ctx
    let (reply, ctx) ← c.run ndebug ctx
    (k reply).run ndebug ctx
  | .iterate callback k, ctx => do
    watch ctx
    let (ret, ctx) ← ipmiSdrCacheIterate ctx fun i record ctx => (callback i record).run ndebug ctx
    (k ret).run ndebug ctx

/-- No program reads outside the file or moves the cursor out of the records. -/
def Safe (ndebug : Bool) (ctx : SdrCtx) : Prop :=
  ∀ client : Client, ∃ r, client.run ndebug ctx = .ok r

/-! ### What walks and searches reach -/

section Reach
variable (file : List Byte) (start stop : ℕ)

/-- The length byte of a record, 0 outside the file. -/
def lengthAt (p : ℕ) : ℕ := (file.getD (p + sdrRecordLengthIndex) 0).toNat

/-- The places that the cursor can get to. -/
inductive RecordAt : ℕ → Prop where
  | first : RecordAt start
  | next {p : ℕ} : RecordAt p → p + lengthAt file p + sdrRecordHeaderLength < stop →
      RecordAt (p + sdrRecordHeaderLength + lengthAt file p)

/-- The places that a search looks at. -/
inductive SearchedAt (found : ℕ → Bool) : ℕ → Prop where
  | first : start < stop → SearchedAt found start
  | next {p : ℕ} : SearchedAt found p → found p = false →
      p + lengthAt file p + sdrRecordHeaderLength < stop →
      SearchedAt found (p + sdrRecordHeaderLength + lengthAt file p)

/-- The sensor types of records. -/
def isSensorType (recordType : Byte) : Bool :=
  recordType = sdrFormatFullSensorRecord ∨ recordType = sdrFormatCompactSensorRecord
    ∨ recordType = sdrFormatEventOnlyRecord

/-- How much of a record a search for a sensor looks at: the type, the owner and the number, and the
    share count of a compact or event-only record of that owner. -/
def sensorBytes (sensorNumber sensorOwnerId : Byte) (p : ℕ) : ℕ :=
  let recordType := file.getD (p + sdrRecordTypeIndex) 0
  let owner := file.getD (p + sdrRecordSensorOwnerIdIndex) 0
  let number := file.getD (p + sdrRecordSensorNumberIndex) 0
  if isSensorType recordType then
    if owner = sensorOwnerId ∧ number = sensorNumber then sdrRecordSensorNumberIndex + 1
    else if owner = sensorOwnerId ∧ recordType = sdrFormatCompactSensorRecord then
      sdrRecordCompactShareCount + 1
    else if owner = sensorOwnerId ∧ recordType = sdrFormatEventOnlyRecord then
      sdrRecordEventShareCount + 1
    else sdrRecordSensorNumberIndex + 1
  else sdrRecordTypeIndex + 1

/-- Whether a record is the one that a search for a sensor looks for. -/
def sensorFound (sensorNumber sensorOwnerId : Byte) (p : ℕ) : Bool :=
  let recordType := file.getD (p + sdrRecordTypeIndex) 0
  let owner := file.getD (p + sdrRecordSensorOwnerIdIndex) 0
  let number := file.getD (p + sdrRecordSensorNumberIndex) 0
  isSensorType recordType && owner = sensorOwnerId && (number = sensorNumber
    || recordType = sdrFormatCompactSensorRecord
      && coveredByShare sensorNumber number (file.getD (p + sdrRecordCompactShareCount) 0 &&& 0x0F)
    || recordType = sdrFormatEventOnlyRecord
      && coveredByShare sensorNumber number (file.getD (p + sdrRecordEventShareCount) 0 &&& 0x0F))

/-- The records of a file fit: every record that the cursor can get to ends inside the file, and so
    do the bytes that a search for any sensor looks at. -/
structure Fits : Prop where
  whole : ∀ p, RecordAt file start stop p →
    p + lengthAt file p + sdrRecordHeaderLength ≤ file.length
  sensors : ∀ sensorNumber sensorOwnerId p,
    SearchedAt file start stop (sensorFound file sensorNumber sensorOwnerId) p →
    p + sensorBytes file sensorNumber sensorOwnerId p ≤ file.length

end Reach

/-! ### Reads -/

theorem readByte_of_lt {file : List Byte} {i : ℕ} (h : i < file.length) :
    readByte file i = .ok (file.getD i 0) := by
  rw [readByte, List.getElem?_eq_getElem h, List.getD_eq_getElem _ _ h]

theorem readByte_of_le {file : List Byte} {i : ℕ} (h : file.length ≤ i) :
    readByte file i = .error .undefined := by
  rw [readByte, List.getElem?_eq_none h]

theorem readByte_cases (file : List Byte) (i : ℕ) :
    (i < file.length ∧ readByte file i = .ok (file.getD i 0)) ∨
      (file.length ≤ i ∧ readByte file i = .error .undefined) := by
  rcases Nat.lt_or_ge i file.length with h | h
  · exact Or.inl ⟨h, readByte_of_lt h⟩
  · exact Or.inr ⟨h, readByte_of_le h⟩

section Reads
variable {ctx : SdrCtx} {p : ℕ}

theorem recordLengthAt_of_lt (h : p + sdrRecordLengthIndex < ctx.sdrCache.length) :
    recordLengthAt ctx p = .ok (lengthAt ctx.sdrCache p) := by
  rw [recordLengthAt, readByte_of_lt h]
  rfl

theorem recordLengthAt_of_le (h : ctx.sdrCache.length ≤ p + sdrRecordLengthIndex) :
    recordLengthAt ctx p = .error .undefined := by
  rw [recordLengthAt, readByte_of_le h]
  rfl

theorem isSensorType_iff (recordType : Byte) : isSensorType recordType = true ↔
    recordType = sdrFormatFullSensorRecord ∨ recordType = sdrFormatCompactSensorRecord
      ∨ recordType = sdrFormatEventOnlyRecord := by
  simp [isSensorType]

/-- A share count byte is read, or lies outside the file. -/
theorem shareCount_eq (file : List Byte) (sensorNumber number : Byte) (i : ℕ) :
    (readByte file i >>= fun shareCount =>
        (pure (coveredByShare sensorNumber number (shareCount &&& 0x0F)) : Except SdrStop Bool))
      = if i + 1 ≤ file.length then
          .ok (coveredByShare sensorNumber number (file.getD i 0 &&& 0x0F))
        else .error .undefined := by
  obtain ⟨h, hread⟩ | ⟨h, hread⟩ := readByte_cases file i
  · rw [hread, if_pos (by omega)]
    rfl
  · rw [hread, if_neg (by omega)]
    rfl

theorem sensorNumberIndex_lt {file : List Byte} {p : ℕ} (sensorNumber sensorOwnerId : Byte)
    (h : isSensorType (file.getD (p + sdrRecordTypeIndex) 0) = true) :
    sdrRecordSensorNumberIndex < sensorBytes file sensorNumber sensorOwnerId p := by
  simp only [sensorBytes, h, if_true]
  split_ifs <;> decide

theorem sensorTypeIndex_lt (file : List Byte) (sensorNumber sensorOwnerId : Byte) (p : ℕ) :
    sdrRecordTypeIndex < sensorBytes file sensorNumber sensorOwnerId p := by
  by_cases h : isSensorType (file.getD (p + sdrRecordTypeIndex) 0) = true
  · have := sensorNumberIndex_lt sensorNumber sensorOwnerId h
    simp only [sdrRecordSensorNumberIndex, sdrRecordTypeIndex] at this ⊢
    omega
  · simp only [sensorBytes, h, Bool.false_eq_true, if_false]
    omega

/-- A search for a sensor either has all the bytes that it looks at, or reads outside the file. -/
theorem hasSensor_eq (ctx : SdrCtx) (sensorNumber sensorOwnerId : Byte) (p : ℕ) :
    hasSensor ctx sensorNumber sensorOwnerId p =
      if p + sensorBytes ctx.sdrCache sensorNumber sensorOwnerId p ≤ ctx.sdrCache.length then
        .ok (sensorFound ctx.sdrCache sensorNumber sensorOwnerId p)
      else .error .undefined := by
  have hne : sdrFormatCompactSensorRecord ≠ sdrFormatEventOnlyRecord := by decide
  obtain ⟨htype, hreadType⟩ | ⟨htype, hreadType⟩ := readByte_cases ctx.sdrCache (p + sdrRecordTypeIndex)
  · by_cases hsensor : isSensorType (ctx.sdrCache.getD (p + sdrRecordTypeIndex) 0) = true
    · have hor := (isSensorType_iff _).mp hsensor
      obtain ⟨hnumber, hreadNumber⟩ | ⟨hnumber, hreadNumber⟩ :=
        readByte_cases ctx.sdrCache (p + sdrRecordSensorNumberIndex)
      · have howner : p + sdrRecordSensorOwnerIdIndex < ctx.sdrCache.length := by
          simp only [sdrRecordSensorNumberIndex, sdrRecordSensorOwnerIdIndex] at hnumber ⊢
          omega
        have hfits : p + (sdrRecordSensorNumberIndex + 1) ≤ ctx.sdrCache.length := by omega
        simp only [hasSensor, hreadType, ok_bind, if_pos hor, readByte_of_lt howner, hreadNumber,
          sensorBytes, sensorFound, hsensor, if_true, Bool.true_and]
        generalize ctx.sdrCache.getD (p + sdrRecordTypeIndex) 0 = recordType at hor ⊢
        generalize ctx.sdrCache.getD (p + sdrRecordSensorOwnerIdIndex) 0 = owner
        generalize ctx.sdrCache.getD (p + sdrRecordSensorNumberIndex) 0 = number
        by_cases ho : owner = sensorOwnerId
        · by_cases hn : number = sensorNumber
          · simp [ho, hn, if_pos hfits]
            rfl
          · by_cases hc : recordType = sdrFormatCompactSensorRecord
            · simp only [ho, hn, hc, and_false, if_false, and_true, if_true, shareCount_eq,
                Nat.add_assoc]
              simp [hne]
            · by_cases he : recordType = sdrFormatEventOnlyRecord
              · simp only [ho, hn, he, hne.symm, and_false, if_false, and_true, if_true,
                  shareCount_eq, Nat.add_assoc]
                simp
              · simp [ho, hn, hc, he, if_pos hfits]
                rfl
        · simp [ho, if_pos hfits]
          rfl
      · -- the number lies outside the file, whether the owner does or not
        have hbytes := sensorNumberIndex_lt sensorNumber sensorOwnerId hsensor
        rw [if_neg (by omega)]
        obtain ⟨-, howner⟩ | ⟨-, howner⟩ :=
          readByte_cases ctx.sdrCache (p + sdrRecordSensorOwnerIdIndex)
        · simp only [hasSensor, hreadType, ok_bind, if_pos hor, howner, hreadNumber, error_bind]
        · simp only [hasSensor, hreadType, ok_bind, if_pos hor, howner, error_bind]
    · have hor : ¬ _ := fun h => hsensor ((isSensorType_iff _).mpr h)
      have hbytes : sensorBytes ctx.sdrCache sensorNumber sensorOwnerId p = sdrRecordTypeIndex + 1 := by
        simp only [sensorBytes, hsensor, Bool.false_eq_true, if_false]
      rw [if_pos (by omega)]
      simp only [hasSensor, hreadType, ok_bind, if_neg hor, sensorFound, hsensor, Bool.false_and]
      rfl
  · have hbytes := sensorTypeIndex_lt ctx.sdrCache sensorNumber sensorOwnerId p
    rw [if_neg (by omega)]
    simp only [hasSensor, hreadType, error_bind]
end Reads

/-! ### Places -/

section Places
variable {file : List Byte} {start stop : ℕ}

theorem RecordAt.bounds (h : start ≤ stop) {p : ℕ} (hp : RecordAt file start stop p) :
    start ≤ p ∧ p ≤ stop := by
  induction hp with
  | first => exact ⟨le_rfl, h⟩
  | next _ hlt ih =>
    obtain ⟨hstart, -⟩ := ih
    omega

theorem SearchedAt.recordAt {found : ℕ → Bool} {p : ℕ} (hp : SearchedAt file start stop found p) :
    RecordAt file start stop p := by
  induction hp with
  | first => exact RecordAt.first
  | next _ _ hlt ih => exact ih.next hlt

theorem SearchedAt.lt {found : ℕ → Bool} {p : ℕ} (hp : SearchedAt file start stop found p) :
    p < stop := by
  cases hp with
  | first h => exact h
  | next _ _ hlt => omega

end Places

/-! ### One call in a file that fits -/

/-- The context with the cursor elsewhere. -/
def SdrCtx.moveTo (ctx : SdrCtx) (p : ℕ) : SdrCtx := { ctx with currentOffset := p }

/-- A place in the file of a context. -/
def SdrCtx.RecordAt (ctx : SdrCtx) (p : ℕ) : Prop :=
  Sdr.RecordAt ctx.sdrCache ctx.recordsStartOffset ctx.recordsEndOffset p

/-- The records of the file of a context fit. -/
def SdrCtx.Fits (ctx : SdrCtx) : Prop :=
  Sdr.Fits ctx.sdrCache ctx.recordsStartOffset ctx.recordsEndOffset

/-- Every record that the cursor can get to ends inside the file. -/
def SdrCtx.EndsInside (ctx : SdrCtx) : Prop :=
  ∀ p, ctx.RecordAt p → p + lengthAt ctx.sdrCache p + sdrRecordHeaderLength ≤ ctx.sdrCache.length

theorem SdrCtx.Fits.endsInside {ctx : SdrCtx} (h : ctx.Fits) : ctx.EndsInside := h.whole

/-- The bytes that a call looks at, besides those of whole records, are inside the file. -/
def SdrCall.LooksInside (ctx : SdrCtx) : SdrCall → Prop
  | .searchSensor sensorNumber sensorOwnerId => ∀ p,
    SearchedAt ctx.sdrCache ctx.recordsStartOffset ctx.recordsEndOffset
      (sensorFound ctx.sdrCache sensorNumber sensorOwnerId) p →
    p + sensorBytes ctx.sdrCache sensorNumber sensorOwnerId p ≤ ctx.sdrCache.length
  | _ => True

theorem SdrCtx.Fits.looksInside {ctx : SdrCtx} (h : ctx.Fits) (c : SdrCall) : c.LooksInside ctx := by
  cases c with
  | searchSensor sensorNumber sensorOwnerId => exact h.sensors sensorNumber sensorOwnerId
  | _ => trivial

section Calls
variable {ctx : SdrCtx} {p : ℕ}

theorem SdrCtx.EndsInside.recordLengthAt (h : ctx.EndsInside) (hp : ctx.RecordAt p) :
    recordLengthAt ctx p = .ok (lengthAt ctx.sdrCache p) := by
  have hwhole := h p hp
  apply recordLengthAt_of_lt
  simp only [sdrRecordHeaderLength, sdrRecordLengthIndex] at hwhole ⊢
  omega

/-- The number of bytes from the start of a record that are inside the file at least. -/
theorem SdrCtx.EndsInside.readByte (h : ctx.EndsInside) (hp : ctx.RecordAt p) {i : ℕ}
    (hi : i < sdrRecordHeaderLength) :
    readByte ctx.sdrCache (p + i) = .ok (ctx.sdrCache.getD (p + i) 0) := by
  have hwhole := h p hp
  exact readByte_of_lt (by omega)

theorem next_moveTo (h : ctx.EndsInside) (hp : ctx.RecordAt p) :
    ∃ more q, ipmiSdrCacheNext (ctx.moveTo p) = .ok (more, ctx.moveTo q) ∧ ctx.RecordAt q := by
  have hlength : recordLengthAt (ctx.moveTo p) p = .ok (lengthAt ctx.sdrCache p) :=
    h.recordLengthAt hp
  rw [ipmiSdrCacheNext, show (ctx.moveTo p).currentOffset = p from rfl, hlength, ok_bind]
  split
  · exact ⟨false, p, rfl, hp⟩
  · rename_i hlt
    exact ⟨true, _, rfl, hp.next (not_le.mp hlt)⟩

theorem seekLoop_recordAt (h : ctx.EndsInside) : ∀ {n p : ℕ}, ctx.RecordAt p →
    ∃ q, seekLoop ctx n p = .ok q ∧ ctx.RecordAt q
  | 0, p, hp => ⟨p, rfl, hp⟩
  | n + 1, p, hp => by
    rw [seekLoop, h.recordLengthAt hp, ok_bind]
    split
    · exact ⟨p, rfl, hp⟩
    · rename_i hlt
      exact seekLoop_recordAt h (hp.next (not_le.mp hlt))

/-- A search whose test reads inside the file ends at a record or finds nothing. -/
theorem searchLoop_recordAt (h : ctx.EndsInside) {found : ℕ → Except SdrStop Bool} {f : ℕ → Bool}
    (hfound : ∀ p, SearchedAt ctx.sdrCache ctx.recordsStartOffset ctx.recordsEndOffset f p →
      found p = .ok (f p)) {p : ℕ}
    (hp : SearchedAt ctx.sdrCache ctx.recordsStartOffset ctx.recordsEndOffset f p) :
    searchLoop ctx found p = .error (.errnum .notFound) ∨
      ∃ q, searchLoop ctx found p = .ok q ∧ ctx.RecordAt q := by
  rw [searchLoop, if_pos hp.lt, hfound p hp, ok_bind]
  split
  · exact Or.inr ⟨p, rfl, hp.recordAt⟩
  · rename_i hno
    rw [h.recordLengthAt hp.recordAt, ok_bind]
    split
    · exact Or.inl rfl
    · rename_i hlt
      exact searchLoop_recordAt h hfound (hp.next (by simpa using hno) (not_le.mp hlt))
termination_by ctx.recordsEndOffset - p
decreasing_by
  have := hp.lt
  simp only [sdrRecordHeaderLength]
  omega

/-- The same from the start of the records, of which there may be none. -/
theorem searchLoop_start (h : ctx.EndsInside) {found : ℕ → Except SdrStop Bool} {f : ℕ → Bool}
    (hfound : ∀ p, SearchedAt ctx.sdrCache ctx.recordsStartOffset ctx.recordsEndOffset f p →
      found p = .ok (f p)) :
    searchLoop ctx found ctx.recordsStartOffset = .error (.errnum .notFound) ∨
      ∃ q, searchLoop ctx found ctx.recordsStartOffset = .ok q ∧ ctx.RecordAt q := by
  by_cases hlt : ctx.recordsStartOffset < ctx.recordsEndOffset
  · exact searchLoop_recordAt h hfound (SearchedAt.first hlt)
  · rw [searchLoop, if_neg hlt]
    exact Or.inl rfl

theorem recordRead_moveTo (h : ctx.EndsInside) (hp : ctx.RecordAt p) (buflen : ℕ) :
    (∃ e, ipmiSdrCacheRecordRead (ctx.moveTo p) buflen = .error (.errnum e)) ∨
      ∃ buf, ipmiSdrCacheRecordRead (ctx.moveTo p) buflen = .ok buf := by
  have hlength : recordLengthAt (ctx.moveTo p) p = .ok (lengthAt ctx.sdrCache p) :=
    h.recordLengthAt hp
  have hwhole := h p hp
  rw [ipmiSdrCacheRecordRead, show (ctx.moveTo p).currentOffset = p from rfl, hlength, ok_bind]
  split
  · exact Or.inl ⟨_, rfl⟩
  · split
    · exact Or.inl ⟨_, rfl⟩
    · refine Or.inr ⟨_, if_pos ?_⟩
      show p + (lengthAt ctx.sdrCache p + sdrRecordHeaderLength) ≤ ctx.sdrCache.length
      omega

/-- The header object takes any five bytes and gives the two fields back. -/
theorem recordHeader_fields (ndebug : Bool) (b : List Byte) (hlen : b.length = 5) :
    ∃ obj obj' n recordId recordType, createRecordHeader ndebug = .ok obj ∧
      Fiid.trySetAll obj b = .ok (obj', n) ∧
      Fiid.fiidObjGetStrict obj' "record_id" = .ok recordId ∧
      Fiid.fiidObjGetStrict obj' "record_type" = .ok recordType := by
  have hsome : (Fiid.fiidObjCreate ndebug tmplSdrRecordHeader).isSome = true := by
    cases ndebug <;> decide
  obtain ⟨obj, hcreate⟩ := Option.isSome_iff_exists.mp hsome
  have hof := (Fiid.create_wf hcreate).of
  have hunset := (show Fiid.Fresh ndebug tmplSdrRecordHeader obj from Or.inl hcreate).unset
  have hal : Fiid.EndsByteAligned tmplSdrRecordHeader.fields b.length := by
    rw [hlen]
    decide
  obtain ⟨obj', n, hset, hfill⟩ := Fiid.trySetAll_filled hof hunset hal
  have hn := hfill.len
  rw [hlen, show Fiid.bitLen tmplSdrRecordHeader.fields = 40 from rfl] at hn
  have hlens := hfill.full (by rw [hlen]; decide)
  have hholds : obj'.Holds (tmplSdrRecordHeader.fields.map (·.maxFieldLen)) b := by
    refine ⟨hlens, ?_⟩
    rw [hfill.bits, hlen]
    congr 1
  exact ⟨obj, obj', n, _, _, by rw [createRecordHeader, hcreate], hset,
    hholds.getStrict hfill.of (show Fiid.valuePlace _ _ _ = some (0, 16) by decide),
    hholds.getStrict hfill.of (show Fiid.valuePlace _ _ _ = some (24, 8) by decide)⟩

theorem parse_moveTo (ndebug : Bool) (h : ctx.EndsInside) (hp : ctx.RecordAt p) :
    (∃ e, ipmiSdrParseRecordIdAndType ndebug (ctx.moveTo p) = .error (.errnum e)) ∨
      ∃ r, ipmiSdrParseRecordIdAndType ndebug (ctx.moveTo p) = .ok r := by
  obtain ⟨e, hread⟩ | ⟨buf, hread⟩ := recordRead_moveTo h hp sdrMaxRecordLength
  · exact Or.inl ⟨e, by rw [ipmiSdrParseRecordIdAndType, hread, error_bind]⟩
  · rw [ipmiSdrParseRecordIdAndType, hread, ok_bind]
    split
    · exact Or.inl ⟨_, rfl⟩
    · have hlen : (buf.take 5).length = 5 := by rw [List.length_take]; omega
      obtain ⟨obj, obj', n, recordId, recordType, hcreate, hset, hid, htype⟩ :=
        recordHeader_fields ndebug (buf.take 5) hlen
      refine Or.inr ⟨(recordId.setWidth 16, recordType.setWidth 8), ?_⟩
      simp only [hcreate, hset, hid, htype, ok_bind, orSdrErrnum]
      rfl

theorem hasRecordId_recordAt (h : ctx.EndsInside) (hp : ctx.RecordAt p) (recordId : BitVec 16) :
    hasRecordId ctx recordId p = .ok (recordId
      = recordIdOf (ctx.sdrCache.getD (p + sdrRecordIdIndexLs) 0)
        (ctx.sdrCache.getD (p + sdrRecordIdIndexMs) 0)) := by
  rw [hasRecordId, h.readByte hp (by decide), h.readByte hp (by decide)]
  rfl

theorem orFailed_moveTo {r : Except SdrStop (Reply × SdrCtx)} (hp : ctx.RecordAt p)
    (h : (∃ e, r = .error (.errnum e)) ∨ ∃ reply q, r = .ok (reply, ctx.moveTo q) ∧ ctx.RecordAt q) :
    ∃ reply q, orFailed (ctx.moveTo p) r = .ok (reply, ctx.moveTo q) ∧ ctx.RecordAt q := by
  rcases h with ⟨e, rfl⟩ | ⟨reply, q, rfl, hq⟩
  · exact ⟨.failed e, p, rfl, hp⟩
  · exact ⟨reply, q, rfl, hq⟩

/-- The step lemma: a call at a record returns, and leaves the cursor at a record. -/
theorem SdrCall.run_moveTo (ndebug : Bool) (h : ctx.EndsInside) (hp : ctx.RecordAt p) {c : SdrCall}
    (hc : c.LooksInside ctx) :
    ∃ reply q, c.run ndebug (ctx.moveTo p) = .ok (reply, ctx.moveTo q) ∧ ctx.RecordAt q := by
  cases c with
  | first => exact ⟨.done, ctx.recordsStartOffset, rfl, RecordAt.first⟩
  | next =>
    obtain ⟨more, q, hnext, hq⟩ := next_moveTo h hp
    refine orFailed_moveTo hp (Or.inr ⟨.more more, q, ?_, hq⟩)
    rw [hnext]
    rfl
  | seek index =>
    refine orFailed_moveTo hp ?_
    rw [ipmiSdrCacheSeek]
    split
    · exact Or.inl ⟨_, rfl⟩
    · have hinside : (ctx.moveTo p).EndsInside := h
      obtain ⟨q, hseek, hq⟩ := seekLoop_recordAt (n := index) hinside RecordAt.first
      refine Or.inr ⟨.done, q, ?_, hq⟩
      rw [hseek]
      rfl
  | searchRecordId recordId =>
    refine orFailed_moveTo hp ?_
    rw [ipmiSdrCacheSearchRecordId]
    have hinside : (ctx.moveTo p).EndsInside := h
    obtain hnone | ⟨q, hsome, hq⟩ := searchLoop_start hinside
      fun p' hp' => hasRecordId_recordAt hinside hp'.recordAt recordId
    · exact Or.inl ⟨_, by rw [hnone]; rfl⟩
    · exact Or.inr ⟨.done, q, by rw [hsome]; rfl, hq⟩
  | searchSensor sensorNumber sensorOwnerId =>
    refine orFailed_moveTo hp ?_
    rw [ipmiSdrCacheSearchSensor]
    have hinside : (ctx.moveTo p).EndsInside := h
    obtain hnone | ⟨q, hsome, hq⟩ := searchLoop_start hinside
      fun p' hp' => (hasSensor_eq (ctx.moveTo p) sensorNumber sensorOwnerId p').trans
        (if_pos (hc p' hp'))
    · exact Or.inl ⟨_, by rw [hnone]; rfl⟩
    · exact Or.inr ⟨.done, q, by rw [hsome]; rfl, hq⟩
  | recordIdAndType =>
    refine orFailed_moveTo hp ?_
    obtain ⟨e, hparse⟩ | ⟨r, hparse⟩ := parse_moveTo ndebug h hp
    · exact Or.inl ⟨e, by rw [hparse, error_bind]⟩
    · exact Or.inr ⟨.idAndType r.1 r.2, p, by rw [hparse, ok_bind], hp⟩
  | recordRead buflen =>
    refine orFailed_moveTo hp ?_
    obtain ⟨e, hread⟩ | ⟨buf, hread⟩ := recordRead_moveTo h hp buflen
    · exact Or.inl ⟨e, by rw [hread, error_bind]⟩
    · exact Or.inr ⟨.record buf, p, by rw [hread, ok_bind], hp⟩

/-! ### Whole programs -/

/-- The loop of `ipmi_sdr_cache_iterate` only moves the cursor, when the callback does. -/
theorem iterateLoop_moveTo (h : ctx.EndsInside) {callback : IterateCallback}
    (hcallback : ∀ i record p, ctx.RecordAt p →
      ∃ ret q, callback i record (ctx.moveTo p) = .ok (ret, ctx.moveTo q) ∧ ctx.RecordAt q) :
    ∀ {n i p : ℕ}, ctx.RecordAt p →
      ∃ ret q, iterateLoop callback n i (ctx.moveTo p) = .ok (ret, ctx.moveTo q) ∧ ctx.RecordAt q
  | 0, i, p, hp => ⟨0, p, rfl, hp⟩
  | n + 1, i, p, hp => by
    obtain ⟨e, hread⟩ | ⟨buf, hread⟩ := recordRead_moveTo h hp sdrMaxRecordLength
    · exact ⟨-1, p, by rw [iterateLoop, hread], hp⟩
    · obtain ⟨ret, q, hcall, hq⟩ := hcallback i buf p hp
      simp only [iterateLoop, hread, hcall, ok_bind]
      split
      · exact ⟨ret, q, rfl, hq⟩
      · obtain ⟨more, q', hnext, hq'⟩ := next_moveTo h hq
        rw [hnext, ok_bind]
        exact iterateLoop_moveTo h hcallback hq'

theorem watch_moveTo (hle : ctx.recordsStartOffset ≤ ctx.recordsEndOffset) (hp : ctx.RecordAt p) :
    watch (ctx.moveTo p) = .ok () :=
  if_pos (RecordAt.bounds hle hp)

/-- The run lemma: a program started at a record ends, with the cursor at a record. -/
theorem Client.run_moveTo (ndebug : Bool) (client : Client) : ∀ {ctx : SdrCtx} {p : ℕ}, ctx.Fits →
    ctx.recordsStartOffset ≤ ctx.recordsEndOffset → ctx.RecordAt p →
    ∃ ret q, client.run ndebug (ctx.moveTo p) = .ok (ret, ctx.moveTo q) ∧ ctx.RecordAt q := by
  induction client with
  | done ret =>
    intro ctx p h hle hp
    exact ⟨ret, p, by rw [Client.run, watch_moveTo hle hp, ok_bind]; rfl, hp⟩
  | call c k ih =>
    intro ctx p h hle hp
    obtain ⟨reply, q, hrun, hq⟩ := SdrCall.run_moveTo ndebug h.endsInside hp (h.looksInside c)
    obtain ⟨ret, q', hrest, hq'⟩ := ih reply h hle hq
    refine ⟨ret, q', ?_, hq'⟩
    rw [Client.run, watch_moveTo hle hp, ok_bind, hrun, ok_bind]
    exact hrest
  | iterate callback k ihcallback ihk =>
    intro ctx p h hle hp
    -- the callback runs with one more saved offset
    let ctx' : SdrCtx := { ctx with savedOffsets := p :: ctx.savedOffsets }
    have h' : ctx'.Fits := h
    have hcallback : ∀ i record p', ctx'.RecordAt p' → ∃ ret q,
        (callback i record).run ndebug (ctx'.moveTo p') = .ok (ret, ctx'.moveTo q) ∧
          ctx'.RecordAt q :=
      fun i record p' hp' => ihcallback i record h' hle hp'
    obtain ⟨ret, q, hloop, -⟩ := iterateLoop_moveTo h'.endsInside hcallback (n := ctx.recordCount.toNat)
      (i := 0) (p := ctx.recordsStartOffset) RecordAt.first
    obtain ⟨ret', q', hrest, hq'⟩ := ihk ret h hle hp
    refine ⟨ret', q', ?_, hq'⟩
    have hiterate : ipmiSdrCacheIterate (ctx.moveTo p)
        (fun i record ctx => (callback i record).run ndebug ctx) = .ok (ret, ctx.moveTo p) := by
      have hstart : ipmiSdrCacheFirst (sdrSaveCurrentOffset (ctx.moveTo p))
          = ctx'.moveTo ctx.recordsStartOffset := rfl
      simp only [ipmiSdrCacheIterate, hstart]
      rw [show (sdrSaveCurrentOffset (ctx.moveTo p)).recordCount = ctx.recordCount from rfl, hloop]
      rfl
    rw [Client.run, watch_moveTo hle hp, ok_bind, hiterate, ok_bind]
    exact hrest

end Calls

/-! ### A file that does not fit -/

section Converse
variable {ndebug : Bool} {ctx : SdrCtx}

/-- A safe call does not read outside the file. -/
theorem Safe.call {wrap : Client → Client} {p : ℕ} {c : SdrCall} (h : Safe ndebug ctx)
    (hwrap : ∀ client, (wrap client).run ndebug ctx = client.run ndebug (ctx.moveTo p)) :
    ∃ r, c.run ndebug (ctx.moveTo p) = .ok r := by
  obtain ⟨r, hr⟩ := h (wrap (.call c fun _ => .done 0))
  rw [hwrap, Client.run] at hr
  obtain ⟨-, -, hr⟩ := bind_eq_ok.mp hr
  obtain ⟨r', hr', -⟩ := bind_eq_ok.mp hr
  exact ⟨r', hr'⟩

/-- A program can get to every record: it goes to the first one and from there on to the next. -/
theorem Safe.reaches (h : Safe ndebug ctx) (hle : ctx.recordsStartOffset ≤ ctx.recordsEndOffset)
    (hcurrent : ctx.InRecords) {p : ℕ} (hp : ctx.RecordAt p) :
    ∃ wrap : Client → Client,
      ∀ client, (wrap client).run ndebug ctx = client.run ndebug (ctx.moveTo p) := by
  induction hp with
  | first =>
    refine ⟨fun client => .call .first fun _ => client, fun client => ?_⟩
    rw [Client.run, watch, if_pos hcurrent]
    rfl
  | @next p hp hlt ih =>
    obtain ⟨wrap, hwrap⟩ := ih
    refine ⟨fun client => wrap (.call .next fun _ => client), fun client => ?_⟩
    have hnext : ipmiSdrCacheNext (ctx.moveTo p)
        = .ok (true, ctx.moveTo (p + sdrRecordHeaderLength + lengthAt ctx.sdrCache p)) := by
      obtain ⟨r, hr⟩ := h.call (c := .next) hwrap
      obtain hin | hout := Nat.lt_or_ge (p + sdrRecordLengthIndex) ctx.sdrCache.length
      · have hlength : recordLengthAt (ctx.moveTo p) p = .ok (lengthAt ctx.sdrCache p) :=
          recordLengthAt_of_lt hin
        rw [ipmiSdrCacheNext, show (ctx.moveTo p).currentOffset = p from rfl, hlength, ok_bind]
        exact if_neg (not_le.mpr hlt)
      · have hlength : recordLengthAt (ctx.moveTo p) p = .error .undefined :=
          recordLengthAt_of_le hout
        rw [SdrCall.run, ipmiSdrCacheNext, show (ctx.moveTo p).currentOffset = p from rfl,
          hlength] at hr
        cases hr
    rw [hwrap, Client.run, watch_moveTo hle hp, ok_bind, SdrCall.run, hnext]
    rfl

/-- In a safe file every record ends inside the file: it could be read otherwise. -/
theorem Safe.whole (h : Safe ndebug ctx) (hle : ctx.recordsStartOffset ≤ ctx.recordsEndOffset)
    (hcurrent : ctx.InRecords) {p : ℕ} (hp : ctx.RecordAt p) :
    p + lengthAt ctx.sdrCache p + sdrRecordHeaderLength ≤ ctx.sdrCache.length := by
  obtain ⟨wrap, hwrap⟩ := h.reaches hle hcurrent hp
  obtain ⟨r, hr⟩ := h.call (c := .recordRead sdrMaxRecordLength) hwrap
  have hbyte := (ctx.sdrCache.getD (p + sdrRecordLengthIndex) 0).isLt
  have hroom : ¬ sdrMaxRecordLength < lengthAt ctx.sdrCache p + sdrRecordHeaderLength := by
    simp only [lengthAt, sdrMaxRecordLength, sdrRecordHeaderLength]
    omega
  rw [SdrCall.run, ipmiSdrCacheRecordRead, if_neg (by decide),
    show (ctx.moveTo p).currentOffset = p from rfl] at hr
  obtain hin | hout := Nat.lt_or_ge (p + sdrRecordLengthIndex) ctx.sdrCache.length
  · have hlength : recordLengthAt (ctx.moveTo p) p = .ok (lengthAt ctx.sdrCache p) :=
      recordLengthAt_of_lt hin
    rw [hlength, ok_bind, if_neg hroom, readBytes] at hr
    split at hr
    · rename_i hfits
      change p + (lengthAt ctx.sdrCache p + sdrRecordHeaderLength) ≤ ctx.sdrCache.length at hfits
      omega
    · cases hr
  · have hlength : recordLengthAt (ctx.moveTo p) p = .error .undefined := recordLengthAt_of_le hout
    rw [hlength] at hr
    cases hr

/-- In a safe file a search for a sensor comes to every place that it looks at, and stays inside the
    file there. -/
theorem Safe.sensors (h : Safe ndebug ctx) (hle : ctx.recordsStartOffset ≤ ctx.recordsEndOffset)
    (hcurrent : ctx.InRecords) (sensorNumber sensorOwnerId : Byte) {p : ℕ}
    (hp : SearchedAt ctx.sdrCache ctx.recordsStartOffset ctx.recordsEndOffset
      (sensorFound ctx.sdrCache sensorNumber sensorOwnerId) p) :
    p + sensorBytes ctx.sdrCache sensorNumber sensorOwnerId p ≤ ctx.sdrCache.length := by
  have hdefined : searchLoop ctx (hasSensor ctx sensorNumber sensorOwnerId) ctx.recordsStartOffset
      ≠ .error .undefined := by
    intro hloop
    obtain ⟨r, hr⟩ := h (.call (.searchSensor sensorNumber sensorOwnerId) fun _ => .done 0)
    rw [Client.run, watch, if_pos hcurrent, ok_bind, SdrCall.run, ipmiSdrCacheSearchSensor, hloop] at hr
    cases hr
  -- the bytes at a place that the search gets to are inside the file
  have hinside : ∀ q, q < ctx.recordsEndOffset →
      searchLoop ctx (hasSensor ctx sensorNumber sensorOwnerId) ctx.recordsStartOffset
        = searchLoop ctx (hasSensor ctx sensorNumber sensorOwnerId) q →
      q + sensorBytes ctx.sdrCache sensorNumber sensorOwnerId q ≤ ctx.sdrCache.length := by
    intro q hq heq
    by_contra hout
    apply hdefined
    rw [heq, searchLoop, if_pos hq, hasSensor_eq, if_neg hout]
    rfl
  refine hinside p hp.lt ?_
  induction hp with
  | first => rfl
  | @next q hq hno hlt ih =>
    have hwhole := h.whole hle hcurrent hq.recordAt
    have hlength : recordLengthAt ctx q = .ok (lengthAt ctx.sdrCache q) := by
      apply recordLengthAt_of_lt
      simp only [sdrRecordHeaderLength, sdrRecordLengthIndex] at hwhole ⊢
      omega
    rw [ih]
    conv_lhs => rw [searchLoop, if_pos hq.lt, hasSensor_eq, if_pos (hinside q hq.lt ih), ok_bind,
      hno, hlength]
    simp only [Bool.false_eq_true, if_false, ok_bind, if_neg (not_le.mpr hlt)]

end Converse

/-! ### Files that are accepted -/

theorem recordsRegion_ok {file versionBuf headerChecksumBuf : List Byte} {start stop : ℕ}
    (hlen : 19 ≤ file.length) (h : recordsRegion file versionBuf headerChecksumBuf = .ok (start, stop)) :
    start ≤ stop := by
  simp only [recordsRegion] at h
  split at h
  · split at h
    · cases h
    · obtain ⟨_, -, h⟩ := bind_eq_ok.mp h
      split at h
      · cases h
      · obtain ⟨_, -, h⟩ := bind_eq_ok.mp h
        obtain ⟨_, -, h⟩ := bind_eq_ok.mp h
        split at h
        · cases h
        · obtain ⟨_, -, h⟩ := bind_eq_ok.mp h
          split at h
          · cases h
          · cases h
            omega
  · cases h
    omega

theorem ipmiSdrCacheOpen_ok {file : List Byte} {ipmiCtx : Option (Option SdrInfo)} {ctx : SdrCtx}
    (h : ipmiSdrCacheOpen file ipmiCtx = .ok ctx) :
    ctx.sdrCache = file ∧ ctx.currentOffset = ctx.recordsStartOffset ∧
      ctx.recordsStartOffset ≤ ctx.recordsEndOffset := by
  rw [ipmiSdrCacheOpen] at h
  split at h
  · cases h
  · rename_i hlen
    obtain ⟨_, -, h⟩ := bind_eq_ok.mp h
    obtain ⟨_, -, h⟩ := bind_eq_ok.mp h
    obtain ⟨_, -, h⟩ := bind_eq_ok.mp h
    obtain ⟨_, -, h⟩ := bind_eq_ok.mp h
    obtain ⟨_, -, h⟩ := bind_eq_ok.mp h
    obtain ⟨_, -, h⟩ := bind_eq_ok.mp h
    split at h
    · cases h
    · split at h
      · cases h
      · obtain ⟨_, -, h⟩ := bind_eq_ok.mp h
        obtain ⟨⟨start, stop⟩, hregion, h⟩ := bind_eq_ok.mp h
        cases h
        exact ⟨rfl, rfl, recordsRegion_ok (by omega) hregion⟩

/-- The programs that use an accepted file all stay inside it, with the cursor in the records,
    exactly when its records fit. -/
theorem safe_iff_fits {ndebug : Bool} {file : List Byte} {ipmiCtx : Option (Option SdrInfo)}
    {ctx : SdrCtx} (h : ipmiSdrCacheOpen file ipmiCtx = .ok ctx) :
    Safe ndebug ctx ↔ Fits file ctx.recordsStartOffset ctx.recordsEndOffset := by
  obtain ⟨rfl, hcurrent, hle⟩ := ipmiSdrCacheOpen_ok h
  have hin : ctx.InRecords := ⟨hcurrent.ge, hcurrent.le.trans hle⟩
  refine ⟨fun hsafe => ⟨fun p hp => hsafe.whole hle hin hp,
    fun number owner p hp => hsafe.sensors hle hin number owner hp⟩, fun hfits client => ?_⟩
  have hrecord : ctx.RecordAt ctx.currentOffset := hcurrent ▸ RecordAt.first
  obtain ⟨ret, q, hrun, -⟩ := client.run_moveTo ndebug hfits hle hrecord
  exact ⟨_, hrun⟩

/-- A file with one record, whose length byte points far behind the end of the file. -/
def overlongFile : List Byte := cacheFile ⟨0x51, 1, 0, 0⟩ [[1, 0, 0x51, 0xC0, 0xFF]]

/-- The context that has opened it. -/
def overlongCtx : SdrCtx where
  sdrVersion := 0x51
  recordCount := 1
  mostRecentAdditionTimestamp := 0
  mostRecentEraseTimestamp := 0
  sdrCache := overlongFile
  recordsStartOffset := 20
  recordsEndOffset := 25
  currentOffset := 20
  savedOffsets := []

theorem safe_iff_fits_overlong : Safe false overlongCtx ↔ Fits overlongFile 20 25 :=
  safe_iff_fits (show ipmiSdrCacheOpen overlongFile none = .ok overlongCtx from rfl)

/-- Reading the only record of that file reads outside it. -/
theorem not_safe_overlong : ¬ ∀ (ndebug : Bool) (file : List Byte) (ipmiCtx : Option (Option SdrInfo))
    (ctx : SdrCtx), ipmiSdrCacheOpen file ipmiCtx = .ok ctx → Safe ndebug ctx := by
  intro h
  have hopen : ipmiSdrCacheOpen overlongFile none = .ok overlongCtx := rfl
  obtain ⟨r, hr⟩ := h false overlongFile none overlongCtx hopen
    (.call (.recordRead sdrMaxRecordLength) fun _ => .done 0)
  have hrun : (Client.call (.recordRead sdrMaxRecordLength) fun _ => .done 0).run false overlongCtx
      = .error .undefined := rfl
  rw [hrun] at hr
  cases hr

end FreeIpmi.Sdr
