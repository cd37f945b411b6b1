import FreeIpmi.Sdr.GetRecord

/-! Do whole and partial reads give the same record?

    The BMC answers from a fixed record, with as many of the bytes asked for as it likes, and refuses,
    fails or cancels reservations whenever it likes. Every successful read then returns the stored
    record, provided that the requests which start at offset 256 or later, and so ask for bytes that
    stand 256 earlier, happen to be answered with the right bytes. A record of 256 bytes never has
    such a request. -/

namespace FreeIpmi.Sdr
open Calls Loops

/-- A BMC that answers for a record from a fixed repository. -/
def AnswersFrom {σ : Type} (bmc : Bmc σ) (recordId : BitVec 16) (record : List Byte)
    (next : BitVec 16) : Prop :=
  ∀ s reservationId offset bytesToRead nextRecordId data s',
    bmc.getSdr s reservationId recordId offset bytesToRead = (.ok nextRecordId data, s') →
      nextRecordId = some next ∧ data <+: (record.drop offset).take bytesToRead

/-- The stored record has the length that its header tells. -/
def RecordComplete (record : List Byte) : Prop :=
  record.length = (record.getD sdrRecordLengthIndex 0).toNat + sdrRecordHeaderLength

instance (record : List Byte) : Decidable (RecordComplete record) :=
  inferInstanceAs (Decidable (_ = _))

/-- A request that starts at offset 256 or later is answered with the bytes that stand there, if it
    is answered at all. -/
def WrapHarmless {σ : Type} (bmc : Bmc σ) (recordId : BitVec 16) (record : List Byte)
    (st : ReadState σ) : Prop :=
  256 ≤ st.buf.length → st.buf.length < record.length → ∀ next data s,
    st.answer bmc recordId record.length = (.ok next data, s) → data <+: record.drop st.buf.length

section Lists
variable {α : Type} {a b l : List α}

theorem append_prefix_iff : a ++ b <+: l ↔ a <+: l ∧ b <+: l.drop a.length := by
  constructor
  · rintro ⟨rest, rfl⟩
    refine ⟨⟨b ++ rest, by simp⟩, ⟨rest, ?_⟩⟩
    rw [List.append_assoc, List.drop_left]
  · rintro ⟨⟨rest, rfl⟩, hb⟩
    rw [List.drop_left] at hb
    exact (List.prefix_append_right_inj a).mpr hb

theorem getD_front (h : a <+: l) {i : ℕ} (hi : i < a.length) (d : α) :
    a.getD i d = l.getD i d := by
  obtain ⟨rest, rfl⟩ := h
  exact (List.getD_append _ _ _ _ hi).symm

end Lists

section Reads
variable {σ : Type} {bmc : Bmc σ} {recordId next : BitVec 16} {record : List Byte}
  {st st' : ReadState σ}

/-- What has been read after a round begins the record exactly when it did so before the round and
    the round itself did no harm. -/
theorem RoundGoesOn.prefix_iff (hfrom : AnswersFrom bmc recordId record next)
    (hlt : st.buf.length < record.length) (h : RoundGoesOn bmc recordId record.length st st') :
    st'.buf <+: record ↔ st.buf <+: record ∧ WrapHarmless bmc recordId record st := by
  cases h with
  | reserved hanswer hretries =>
    refine ⟨fun hbuf => ⟨hbuf, ?_⟩, And.left⟩
    intro _ _ next data s hok
    rw [hanswer] at hok
    cases hok
  | lowered hanswer hasked =>
    refine ⟨fun hbuf => ⟨hbuf, ?_⟩, And.left⟩
    intro _ _ next data s hok
    rw [hanswer] at hok
    cases hok
  | @read next' data s hanswer =>
    rw [append_prefix_iff]
    refine and_congr_right fun _ => ⟨?_, ?_⟩
    · intro hdata _ _ next data' s' hok
      rw [hanswer] at hok
      cases hok
      exact hdata
    · intro hharmless
      by_cases hwrap : 256 ≤ st.buf.length
      · exact hharmless hwrap hlt next' data s hanswer
      · have hdata := (hfrom _ _ _ _ _ _ _ hanswer).2
        rw [Nat.mod_eq_of_lt (by omega)] at hdata
        exact hdata.trans (List.take_prefix _ _)

/-- The loop returns the record exactly when what it starts from begins it and no round did harm. -/
theorem run_readRound_iff (hfrom : AnswersFrom bmc recordId record next) {fuel : ℕ}
    {x : List Byte × BitVec 16 × σ}
    (hrun : run (readRound bmc recordId record.length) fuel st = some (.ok x)) :
    x.1 = record ↔ st.buf <+: record ∧
      ∀ st', Reached (readRound bmc recordId record.length) st st' →
        WrapHarmless bmc recordId record st' := by
  induction fuel generalizing st with
  | zero => cases hrun
  | succ fuel ih =>
    cases hround : readRound bmc recordId record.length st with
    | inr r =>
      rw [run_inr hround] at hrun
      cases hrun
      obtain ⟨hend, hbuf⟩ := (readRound_inr hround).2 x rfl
      rw [hbuf]
      constructor
      · intro hrecord
        refine ⟨hrecord ▸ List.prefix_rfl, ?_⟩
        intro st' hreached _ hlt
        rcases reached_iff.mp hreached with rfl | ⟨st₁, hfirst, -⟩
        · exact absurd hlt hend
        · rw [hround] at hfirst
          cases hfirst
      · rintro ⟨hfront, -⟩
        exact hfront.eq_of_length_le (by omega)
    | inl st₁ =>
      rw [run_inl hround] at hrun
      obtain ⟨hlt, hgoes⟩ := readRound_inl hround
      rw [ih hrun, hgoes.prefix_iff hfrom hlt, and_assoc]
      refine and_congr_right fun _ => ⟨?_, ?_⟩
      · rintro ⟨hhere, hlater⟩ st' hreached
        rcases reached_iff.mp hreached with rfl | ⟨st₂, hfirst, hreached⟩
        · exact hhere
        · rw [hround] at hfirst
          cases hfirst
          exact hlater st' hreached
      · intro hall
        exact ⟨hall st .start, fun st' hreached =>
          hall st' (reached_iff.mpr (Or.inr ⟨st₁, hround, hreached⟩))⟩

/-! ### The two reads at the front -/

/-- The answer that ends the read of an entire record. -/
theorem entireAnswer_some {nextRecordId : Option (BitVec 16)} {data buf : List Byte}
    {reservationId reservationId' nextRecordId' : BitVec 16} {s s' : σ}
    (h : (recordData data sdrMaxRecordLength >>= fun buf =>
        if buf.length < sdrRecordHeaderLength then .ok (none, reservationId, s)
        else if (buf.getD sdrRecordLengthIndex 0).toNat + sdrRecordHeaderLength > buf.length then
          .ok (none, reservationId, s)
        else
          match nextRecordId with
          | none => .error (.errnum .internalError)
          | some nextRecordId => .ok (some (buf, nextRecordId), reservationId, s))
      = Except.ok (some (buf, nextRecordId'), reservationId', s')) :
    buf = data ∧ nextRecordId = some nextRecordId' ∧ sdrRecordHeaderLength ≤ data.length ∧
      (data.getD sdrRecordLengthIndex 0).toNat + sdrRecordHeaderLength ≤ data.length := by
  obtain ⟨buf', hdata, hrest⟩ := bind_eq_ok.mp h
  obtain ⟨rfl, -⟩ := recordData_ok hdata
  clear h
  by_cases hshort : buf'.length < sdrRecordHeaderLength
  · rw [if_pos hshort] at hrest
    cases hrest
  · rw [if_neg hshort] at hrest
    by_cases hcut : (buf'.getD sdrRecordLengthIndex 0).toNat + sdrRecordHeaderLength > buf'.length
    · rw [if_pos hcut] at hrest
      cases hrest
    · rw [if_neg hcut] at hrest
      cases nextRecordId with
      | none => cases hrest
      | some nextRecordId =>
        cases hrest
        exact ⟨rfl, rfl, by omega, by omega⟩

/-- A part of the record that has the length byte and all that it announces is the record. -/
theorem eq_of_announced (hlen : RecordComplete record) {buf : List Byte} (hbuf : buf <+: record)
    (hheader : sdrRecordHeaderLength ≤ buf.length)
    (hannounced : (buf.getD sdrRecordLengthIndex 0).toNat + sdrRecordHeaderLength ≤ buf.length) :
    buf = record := by
  refine hbuf.eq_of_length_le ?_
  rw [getD_front hbuf (by simp only [sdrRecordHeaderLength, sdrRecordLengthIndex] at *; omega)]
    at hannounced
  exact hlen.trans_le hannounced

theorem AnswersFrom.front (hfrom : AnswersFrom bmc recordId record next) {s s' : σ}
    {reservationId : BitVec 16} {bytesToRead : ℕ} {nextRecordId : Option (BitVec 16)}
    {data : List Byte}
    (h : bmc.getSdr s reservationId recordId 0 bytesToRead = (.ok nextRecordId data, s')) :
    nextRecordId = some next ∧ data <+: record ∧ data.length ≤ bytesToRead := by
  obtain ⟨hnext, hdata⟩ := hfrom _ _ _ _ _ _ _ h
  refine ⟨hnext, hdata.trans (List.take_prefix _ _), ?_⟩
  exact hdata.length_le.trans (List.length_take_le _ _)

/-- A read of the entire record that is accepted is the record. -/
theorem readEntireRecord_record (hfrom : AnswersFrom bmc recordId record next)
    (hlen : RecordComplete record) {retries : ℕ} {reservationId reservationId' nextRecordId : BitVec 16}
    {s s' : σ} {buf : List Byte}
    (h : readEntireRecord bmc recordId retries reservationId s
      = .ok (some (buf, nextRecordId), reservationId', s')) :
    buf = record ∧ nextRecordId = next := by
  induction retries generalizing reservationId s with
  | zero =>
    rw [readEntireRecord] at h
    split at h
    · cases h
    · split at h <;> cases h
    · rename_i next' data s₁ hanswer
      obtain ⟨rfl, rfl, hheader, hannounced⟩ := entireAnswer_some h
      obtain ⟨hnext, hfront, -⟩ := hfrom.front hanswer
      exact ⟨eq_of_announced hlen hfront hheader hannounced, Option.some.inj hnext⟩
  | succ retries ih =>
    rw [readEntireRecord] at h
    split at h
    · cases h
    · split at h
      · obtain ⟨r, -, h⟩ := bind_eq_ok.mp h
        exact ih h
      · cases h
    · rename_i next' data s₁ hanswer
      obtain ⟨rfl, rfl, hheader, hannounced⟩ := entireAnswer_some h
      obtain ⟨hnext, hfront, -⟩ := hfrom.front hanswer
      exact ⟨eq_of_announced hlen hfront hheader hannounced, Option.some.inj hnext⟩

/-- The answer that ends the read of a header. -/
theorem headerAnswer_ok {nextRecordId nextRecordId' : Option (BitVec 16)} {data buf : List Byte}
    {reservationId reservationId' : BitVec 16} {recordLength : ℕ} {s s' : σ}
    (h : (recordData data sdrMaxRecordLength >>= fun buf =>
        if buf.length < sdrRecordHeaderLength then .error (.errnum .ipmiError)
        else .ok (buf, (buf.getD sdrRecordLengthIndex 0).toNat + sdrRecordHeaderLength, nextRecordId,
          reservationId, s))
      = Except.ok (buf, recordLength, nextRecordId', reservationId', s')) :
    buf = data ∧ nextRecordId' = nextRecordId ∧ sdrRecordHeaderLength ≤ data.length ∧
      recordLength = (data.getD sdrRecordLengthIndex 0).toNat + sdrRecordHeaderLength := by
  obtain ⟨buf', hdata, hrest⟩ := bind_eq_ok.mp h
  obtain ⟨rfl, -⟩ := recordData_ok hdata
  clear h
  by_cases hshort : buf'.length < sdrRecordHeaderLength
  · rw [if_pos hshort] at hrest
    cases hrest
  · rw [if_neg hshort] at hrest
    cases hrest
    exact ⟨rfl, rfl, by omega, rfl⟩

theorem recordLength_eq (hlen : RecordComplete record) {buf : List Byte} (hbuf : buf <+: record)
    (hheader : sdrRecordHeaderLength ≤ buf.length) :
    (buf.getD sdrRecordLengthIndex 0).toNat + sdrRecordHeaderLength = record.length := by
  rw [getD_front hbuf (by simp only [sdrRecordHeaderLength, sdrRecordLengthIndex] at *; omega)]
  exact hlen.symm

/-- The header that is read begins the record and tells its length. -/
theorem readRecordHeader_record (hfrom : AnswersFrom bmc recordId record next)
    (hlen : RecordComplete record) {retries recordLength : ℕ}
    {reservationId reservationId' : BitVec 16} {nextRecordId : Option (BitVec 16)}
    {s s' : σ} {buf : List Byte}
    (h : readRecordHeader bmc recordId retries reservationId s
      = .ok (buf, recordLength, nextRecordId, reservationId', s')) :
    buf <+: record ∧ recordLength = record.length ∧ nextRecordId = some next := by
  induction retries generalizing reservationId s with
  | zero =>
    rw [readRecordHeader] at h
    split at h
    · cases h
    · split at h <;> cases h
    · rename_i next' data s₁ hanswer
      obtain ⟨rfl, rfl, hheader, rfl⟩ := headerAnswer_ok h
      obtain ⟨hnext, hfront, -⟩ := hfrom.front hanswer
      exact ⟨hfront, recordLength_eq hlen hfront hheader, hnext⟩
  | succ retries ih =>
    rw [readRecordHeader] at h
    split at h
    · cases h
    · split at h
      · obtain ⟨r, -, h⟩ := bind_eq_ok.mp h
        exact ih h
      · cases h
    · rename_i next' data s₁ hanswer
      obtain ⟨rfl, rfl, hheader, rfl⟩ := headerAnswer_ok h
      obtain ⟨hnext, hfront, -⟩ := hfrom.front hanswer
      exact ⟨hfront, recordLength_eq hlen hfront hheader, hnext⟩

end Reads

/-! ### The record -/

section Record
variable {σ : Type} {bmc : Bmc σ} {recordId next : BitVec 16} {record : List Byte}

/-- The front reads lead to one first state of the loop only. -/
theorem LoopStart.unique {reservationId nextRecordId nextRecordId' : BitVec 16} {s : σ}
    {recordLength recordLength' : ℕ} {start start' : ReadState σ}
    (h : LoopStart bmc recordId reservationId s recordLength nextRecordId start)
    (h' : LoopStart bmc recordId reservationId s recordLength' nextRecordId' start') :
    start = start' := by
  obtain ⟨reservationId₁, s₁, hnone, hheader⟩ := h.front
  obtain ⟨reservationId₂, s₂, hnone', hheader'⟩ := h'.front
  rw [hnone] at hnone'
  cases hnone'
  rw [hheader] at hheader'
  obtain ⟨hretries, hbytes⟩ := h.fresh
  obtain ⟨hretries', hbytes'⟩ := h'.fresh
  cases start
  cases start'
  simp_all

/-- A successful read takes the whole record at once, or its loop ends with what it returns. -/
theorem sdrCacheGetRecord_ok (hfrom : AnswersFrom bmc recordId record next)
    (hlen : RecordComplete record) {fuel : ℕ} {reservationId reservationId' nextRecordId : BitVec 16}
    {s s' : σ} {buf : List Byte}
    (h : sdrCacheGetRecord bmc recordId fuel reservationId s
      = .ok (buf, reservationId', nextRecordId, s')) :
    readEntireRecord bmc recordId sdrCacheMaxReservationIdRetry reservationId s
        = .ok (some (buf, nextRecordId), reservationId', s') ∨
      nextRecordId = next ∧ ∃ start,
        LoopStart bmc recordId reservationId s record.length nextRecordId start ∧
        start.buf <+: record ∧
        run (readRound bmc recordId record.length) fuel start
          = some (.ok (buf, reservationId', s')) := by
  rcases sdrCacheGetRecord_eq bmc recordId reservationId s with
    ⟨r, -, hall, hentire⟩ | ⟨recordLength, nextRecordId', start, hstart, hall⟩
  · rw [hall] at h
    exact Or.inl (hentire _ _ _ _ h)
  · obtain ⟨reservationId₁, s₁, hnone, hheader⟩ := hstart.front
    obtain ⟨hfront, rfl, hnext⟩ := readRecordHeader_record hfrom hlen hheader
    rw [hall] at h
    obtain ⟨x, hx, hret⟩ := bind_eq_ok.mp h
    cases hret
    refine Or.inr ⟨Option.some.inj hnext, start, hstart, hfront, ?_⟩
    cases hloop : run (readRound bmc recordId record.length) fuel start with
    | none => simp [hloop] at hx
    | some r =>
      rw [hloop] at hx
      exact congrArg some hx

/-- A successful read returns the stored record and the stored next record id exactly when every
    answer to a request at offset 256 or later was right by chance. -/
theorem sdrCacheGetRecord_record_iff (hfrom : AnswersFrom bmc recordId record next)
    (hlen : RecordComplete record) {fuel : ℕ} {reservationId reservationId' nextRecordId : BitVec 16}
    {s s' : σ} {buf : List Byte}
    (h : sdrCacheGetRecord bmc recordId fuel reservationId s
      = .ok (buf, reservationId', nextRecordId, s')) :
    (buf = record ∧ nextRecordId = next) ↔
      ∀ nextRecordId start st,
        LoopStart bmc recordId reservationId s record.length nextRecordId start →
        Reached (readRound bmc recordId record.length) start st →
        WrapHarmless bmc recordId record st := by
  rcases sdrCacheGetRecord_ok hfrom hlen h with hread | ⟨hnext, start, hstart, hfront, hrun⟩
  · refine iff_of_true (readEntireRecord_record hfrom hlen hread) ?_
    rintro _ start st ⟨-, ⟨reservationId₁, s₁, hnone, -⟩, -⟩
    rw [hread] at hnone
    cases hnone
  · have hiff := run_readRound_iff hfrom hrun
    constructor
    · rintro ⟨hrecord, -⟩ _ start' st hstart' hreached
      obtain rfl : start' = start := hstart'.unique hstart
      exact (hiff.mp hrecord).2 st hreached
    · intro hharmless
      exact ⟨hiff.mpr ⟨hfront, fun st hreached => hharmless _ start st hstart hreached⟩, hnext⟩

/-- A record of at most 256 bytes is read as it is stored. -/
theorem sdrCacheGetRecord_short (hfrom : AnswersFrom bmc recordId record next)
    (hlen : RecordComplete record) {fuel : ℕ} {reservationId reservationId' nextRecordId : BitVec 16}
    {s s' : σ} {buf : List Byte} (hshort : record.length ≤ 256)
    (h : sdrCacheGetRecord bmc recordId fuel reservationId s
      = .ok (buf, reservationId', nextRecordId, s')) :
    buf = record ∧ nextRecordId = next := by
  rcases sdrCacheGetRecord_ok hfrom hlen h with hread | ⟨hnext, start, -, hfront, hrun⟩
  · exact readEntireRecord_record hfrom hlen hread
  · refine ⟨(run_readRound_iff hfrom hrun).mpr ⟨hfront, ?_⟩, hnext⟩
    intro st _ hwrap hlt
    omega

end Record

/-! ### Records above 256 bytes -/

/-- A record of 260 bytes, with different bytes everywhere but 256 apart. -/
def longRecord : List Byte :=
  [1, 0, 0x51, 0xC0, 255] ++ (List.range 255).map fun i => BitVec.ofNat 8 (i + 77)

/-- A BMC that stores a record and returns at most so many bytes of it at once. -/
def limitedBmc (record : List Byte) (limit : ℕ) : Bmc Unit where
  getSdrRepositoryInfo _ := (none, ())
  reserveSdrRepository _ := (some 0, ())
  getSdr _ _ _ offset bytesToRead :=
    if bytesToRead > limit then (.badCompletionCode compCodeCannotReturnRequestedNumberOfBytes, ())
    else (.ok (some sdrRecordIdLast) ((record.drop offset).take bytesToRead), ())

theorem limitedBmc_answersFrom (record : List Byte) (limit : ℕ) (recordId : BitVec 16) :
    AnswersFrom (limitedBmc record limit) recordId record sdrRecordIdLast := by
  intro s reservationId offset bytesToRead nextRecordId data s' h
  dsimp only [limitedBmc] at h
  split at h
  · cases h
  · cases h
    exact ⟨rfl, List.prefix_rfl⟩

/-- What is read from a BMC with a limit of 12 bytes: the last three bytes are those at offset 1. -/
def wrappedRecord : List Byte := longRecord.take 257 ++ (longRecord.drop 1).take 3

theorem sdrCacheGetRecord_limited :
    sdrCacheGetRecord (limitedBmc longRecord 12) 1 30 0 ()
      = .ok (wrappedRecord, 0, sdrRecordIdLast, ()) := by
  decide +kernel

theorem sdrCacheGetRecord_record_iff_long :
    AnswersFrom (limitedBmc longRecord 12) 1 longRecord sdrRecordIdLast ∧ RecordComplete longRecord ∧
      ((wrappedRecord = longRecord ∧ sdrRecordIdLast = sdrRecordIdLast) ↔
        ∀ nextRecordId start st,
          LoopStart (limitedBmc longRecord 12) 1 0 () longRecord.length nextRecordId start →
          Reached (readRound (limitedBmc longRecord 12) 1 longRecord.length) start st →
          WrapHarmless (limitedBmc longRecord 12) 1 longRecord st) := by
  have hcomplete : RecordComplete longRecord := by decide +kernel
  have hfrom := limitedBmc_answersFrom longRecord 12 1
  exact ⟨hfrom, hcomplete, sdrCacheGetRecord_record_iff hfrom hcomplete sdrCacheGetRecord_limited⟩

/-- A successful read in chunks of 12 bytes that returns another record than the stored one. -/
theorem sdrCacheGetRecord_wraps :
    AnswersFrom (limitedBmc longRecord 12) 1 longRecord sdrRecordIdLast
      ∧ RecordComplete longRecord
      ∧ sdrCacheGetRecord (limitedBmc longRecord 12) 1 30 0 ()
          = .ok (wrappedRecord, 0, sdrRecordIdLast, ())
      ∧ wrappedRecord ≠ longRecord := by
  refine ⟨limitedBmc_answersFrom longRecord 12 1, by decide +kernel, sdrCacheGetRecord_limited, ?_⟩
  decide +kernel

end FreeIpmi.Sdr
