import FreeIpmi.Fiid.Bytes
import FreeIpmi.Lib.Loops
import FreeIpmi.Sdr.CacheCreate

/-! Reading one record of the repository (`_sdr_cache_get_record`).

    The two loops at the front spend a retry in every round. The loop over the rest of the record
    ends as long as each answer brings something: an answer without record data changes nothing, and
    a BMC that keeps giving it keeps the loop going. `_api_ipmi_cmd_post` does not let such an answer
    pass, unless a flag of the context takes its check away. What the loop puts together is the stored
    record, except that `ipmi_cmd_get_sdr` takes the offset as `uint8_t`: from offset 256 on it asks
    for the bytes that stand 256 earlier. -/

namespace FreeIpmi.Sdr
open Calls Loops

/-! ### The loop over the rest of the record -/

/-- The variables of the loop, and the BMC. -/
structure ReadState (σ : Type) where
  retries : ℕ
  bytesToRead : ℕ
  reservationId : BitVec 16
  buf : List Byte
  bmc : σ

section Rounds
variable {σ : Type} (bmc : Bmc σ) (recordId : BitVec 16) (recordLength : ℕ)

/-- `bytes_to_read` after the test at the head of a round. -/
def ReadState.asked (st : ReadState σ) : ℕ :=
  if recordLength - st.buf.length < st.bytesToRead then recordLength - st.buf.length
  else st.bytesToRead

/-- The answer to the request of a round. -/
def ReadState.answer (st : ReadState σ) : GetSdrRs × σ :=
  bmc.getSdr st.bmc st.reservationId recordId (st.buf.length % 256) (st.asked recordLength)

/-- One round of the loop. -/
def readRound (st : ReadState σ) :
    ReadState σ ⊕ Except SdrStop (List Byte × BitVec 16 × σ) :=
  if st.buf.length < recordLength then
    let bytesToRead := st.asked recordLength
    match st.answer bmc recordId recordLength with
    | (.error, _) => .inr (.error (.errnum .ipmiError))
    | (.badCompletionCode compCode, s) =>
      if compCode = compCodeReservationCancelled ∧ 0 < st.retries then
        match sdrCacheReservationId bmc s with
        | .error e => .inr (.error e)
        | .ok (reservationId, s) =>
          .inl ⟨st.retries - 1, bytesToRead, reservationId, st.buf, s⟩
      else if (compCode = compCodeCannotReturnRequestedNumberOfBytes
          ∨ compCode = compCodeUnspecifiedError) ∧ bytesToRead > sdrRecordHeaderLength then
        .inl ⟨st.retries, max (bytesToRead - 4) sdrRecordHeaderLength, st.reservationId, st.buf, s⟩
      else .inr (.error (.errnum .ipmiError))
    | (.ok _ data, s) =>
      match recordData data (sdrMaxRecordLength - st.buf.length) with
      | .error e => .inr (.error e)
      | .ok data => .inl ⟨st.retries, bytesToRead, st.reservationId, st.buf ++ data, s⟩
  else .inr (.ok (st.buf, st.reservationId, st.bmc))

theorem readRecordData_eq_run (fuel : ℕ) (st : ReadState σ) :
    readRecordData bmc recordId recordLength fuel st.retries st.bytesToRead st.reservationId st.buf
        st.bmc
      = (run (readRound bmc recordId recordLength) fuel st).getD (.error .unfinished) := by
  induction fuel generalizing st with
  | zero => rfl
  | succ fuel ih =>
    have hasked : (if recordLength - st.buf.length < st.bytesToRead
        then recordLength - st.buf.length else st.bytesToRead) = st.asked recordLength := rfl
    have hanswer : bmc.getSdr st.bmc st.reservationId recordId (st.buf.length % 256)
        (st.asked recordLength) = st.answer bmc recordId recordLength := rfl
    rw [readRecordData, run, readRound]
    by_cases hlt : st.buf.length < recordLength
    · rw [if_pos hlt, if_pos hlt]
      simp only [hasked, hanswer]
      obtain ⟨rs, s⟩ := st.answer bmc recordId recordLength
      cases rs with
      | error => rfl
      | badCompletionCode compCode =>
        dsimp only
        split
        · cases sdrCacheReservationId bmc s with
          | error e => rfl
          | ok r => exact ih ⟨st.retries - 1, _, r.1, st.buf, r.2⟩
        · split
          · exact ih ⟨st.retries, _, st.reservationId, st.buf, s⟩
          · rfl
      | ok next data =>
        dsimp only
        cases recordData data (sdrMaxRecordLength - st.buf.length) with
        | error e => rfl
        | ok data => exact ih ⟨st.retries, _, st.reservationId, st.buf ++ data, s⟩
    · rw [if_neg hlt, if_neg hlt]
      rfl

variable {bmc recordId recordLength} {st st' : ReadState σ}

theorem asked_le (recordLength : ℕ) (st : ReadState σ) :
    st.asked recordLength ≤ st.bytesToRead ∧
      st.asked recordLength ≤ recordLength - st.buf.length := by
  rw [ReadState.asked]
  split <;> omega

/-- What a round that leads to another one does. -/
inductive RoundGoesOn (bmc : Bmc σ) (recordId : BitVec 16) (recordLength : ℕ)
    (st : ReadState σ) : ReadState σ → Prop where
  | reserved {compCode : Byte} {s s' : σ} {reservationId : BitVec 16}
      (hanswer : st.answer bmc recordId recordLength = (.badCompletionCode compCode, s))
      (hretries : 0 < st.retries) :
      RoundGoesOn bmc recordId recordLength st
        ⟨st.retries - 1, st.asked recordLength, reservationId, st.buf, s'⟩
  | lowered {compCode : Byte} {s : σ}
      (hanswer : st.answer bmc recordId recordLength = (.badCompletionCode compCode, s))
      (hasked : sdrRecordHeaderLength < st.asked recordLength) :
      RoundGoesOn bmc recordId recordLength st
        ⟨st.retries, max (st.asked recordLength - 4) sdrRecordHeaderLength, st.reservationId,
          st.buf, s⟩
  | read {next : Option (BitVec 16)} {data : List Byte} {s : σ}
      (hanswer : st.answer bmc recordId recordLength = (.ok next data, s)) :
      RoundGoesOn bmc recordId recordLength st
        ⟨st.retries, st.asked recordLength, st.reservationId, st.buf ++ data, s⟩

theorem recordData_ok {data buf : List Byte} {bufLen : ℕ} (h : recordData data bufLen = .ok buf) :
    buf = data ∧ data.length ≤ bufLen := by
  rw [recordData] at h
  split at h
  · cases h
  · cases h
    exact ⟨rfl, by omega⟩

theorem readRound_inl (h : readRound bmc recordId recordLength st = .inl st') :
    st.buf.length < recordLength ∧ RoundGoesOn bmc recordId recordLength st st' := by
  rw [readRound] at h
  by_cases hlt : st.buf.length < recordLength
  · rw [if_pos hlt] at h
    refine ⟨hlt, ?_⟩
    cases hanswer : st.answer bmc recordId recordLength with
    | mk rs s =>
      rw [hanswer] at h
      cases rs with
      | error => cases h
      | badCompletionCode compCode =>
        dsimp only at h
        split at h
        · rename_i hcancelled
          cases hres : sdrCacheReservationId bmc s with
          | error e => simp [hres] at h
          | ok r =>
            rw [hres] at h
            cases h
            exact .reserved hanswer hcancelled.2
        · split at h
          · rename_i hrefused
            cases h
            exact .lowered hanswer hrefused.2
          · cases h
      | ok next data =>
        dsimp only at h
        cases hdata : recordData data (sdrMaxRecordLength - st.buf.length) with
        | error e => simp [hdata] at h
        | ok buf =>
          rw [hdata] at h
          cases h
          rw [(recordData_ok hdata).1]
          exact .read hanswer
  · rw [if_neg hlt] at h
    cases h

theorem readRound_of_empty {next : Option (BitVec 16)} {s : σ} (hlt : st.buf.length < recordLength)
    (hanswer : st.answer bmc recordId recordLength = (.ok next [], s)) :
    readRound bmc recordId recordLength st
      = .inl ⟨st.retries, st.asked recordLength, st.reservationId, st.buf, s⟩ := by
  rw [readRound, if_pos hlt, hanswer]
  simp [recordData]

/-- A call that does not run out of rounds. -/
abbrev Finishes {α : Type} (x : Except SdrStop α) : Prop := Meets x (fun _ => True) (· ≠ .unfinished)

theorem recordData_finishes (data : List Byte) (bufLen : ℕ) : Finishes (recordData data bufLen) :=
  Meets.ite (fun _ => Meets.error (by simp)) fun _ => Meets.ok trivial

theorem sdrCacheReservationId_finishes (s : σ) : Finishes (sdrCacheReservationId bmc s) := by
  rw [sdrCacheReservationId]
  split
  · exact Meets.error (by simp)
  · exact Meets.ok trivial

theorem readRound_inr {r : Except SdrStop (List Byte × BitVec 16 × σ)}
    (h : readRound bmc recordId recordLength st = .inr r) :
    r ≠ .error .unfinished ∧
      ∀ x, r = .ok x → ¬ st.buf.length < recordLength ∧ x.1 = st.buf := by
  rw [readRound] at h
  by_cases hlt : st.buf.length < recordLength
  · rw [if_pos hlt] at h
    generalize st.answer bmc recordId recordLength = answer at h
    obtain ⟨rs, s⟩ := answer
    cases rs with
    | error =>
      cases h
      simp
    | badCompletionCode compCode =>
      dsimp only at h
      split at h
      · cases hres : sdrCacheReservationId bmc s with
        | error e =>
          rw [hres] at h
          cases h
          refine ⟨?_, by simp⟩
          rintro ⟨⟩
          exact (sdrCacheReservationId_finishes s).reason _ hres rfl
        | ok r => simp [hres] at h
      · split at h
        · cases h
        · cases h
          simp
    | ok next data =>
      dsimp only at h
      cases hdata : recordData data (sdrMaxRecordLength - st.buf.length) with
      | error e =>
        rw [hdata] at h
        cases h
        refine ⟨?_, by simp⟩
        rintro ⟨⟩
        exact (recordData_finishes _ _).reason _ hdata rfl
      | ok buf => simp [hdata] at h
  · rw [if_neg hlt] at h
    cases h
    refine ⟨by simp, ?_⟩
    rintro x ⟨⟩
    exact ⟨hlt, rfl⟩

end Rounds

/-! ### The two loops at the front -/

section Front
variable {σ : Type} {bmc : Bmc σ} {recordId : BitVec 16}

theorem readEntireRecord_finishes (retries : ℕ) (reservationId : BitVec 16) (s : σ) :
    Finishes (readEntireRecord bmc recordId retries reservationId s) := by
  induction retries generalizing reservationId s with
  | zero =>
    rw [readEntireRecord]
    split
    · exact Meets.ok trivial
    · exact Meets.ite (fun _ => Meets.ok trivial) fun _ => Meets.ok trivial
    · refine (recordData_finishes _ _).bind fun buf _ => ?_
      refine Meets.ite (fun _ => Meets.ok trivial) fun _ => ?_
      refine Meets.ite (fun _ => Meets.ok trivial) fun _ => ?_
      split
      · exact Meets.error (by simp)
      · exact Meets.ok trivial
  | succ retries ih =>
    rw [readEntireRecord]
    split
    · exact Meets.ok trivial
    · refine Meets.ite (fun _ => ?_) fun _ => Meets.ok trivial
      exact (sdrCacheReservationId_finishes _).bind fun r _ => ih r.1 r.2
    · refine (recordData_finishes _ _).bind fun buf _ => ?_
      refine Meets.ite (fun _ => Meets.ok trivial) fun _ => ?_
      refine Meets.ite (fun _ => Meets.ok trivial) fun _ => ?_
      split
      · exact Meets.error (by simp)
      · exact Meets.ok trivial

theorem readRecordHeader_finishes (retries : ℕ) (reservationId : BitVec 16) (s : σ) :
    Finishes (readRecordHeader bmc recordId retries reservationId s) := by
  induction retries generalizing reservationId s with
  | zero =>
    rw [readRecordHeader]
    split
    · exact Meets.error (by simp)
    · exact Meets.ite (fun _ => Meets.error (by simp)) fun _ => Meets.error (by simp)
    · refine (recordData_finishes _ _).bind fun buf _ => ?_
      exact Meets.ite (fun _ => Meets.error (by simp)) fun _ => Meets.ok trivial
  | succ retries ih =>
    rw [readRecordHeader]
    split
    · exact Meets.error (by simp)
    · refine Meets.ite (fun _ => ?_) fun _ => Meets.error (by simp)
      exact (sdrCacheReservationId_finishes _).bind fun r _ => ih r.1 r.2
    · refine (recordData_finishes _ _).bind fun buf _ => ?_
      exact Meets.ite (fun _ => Meets.error (by simp)) fun _ => Meets.ok trivial

/-- The first state of the loop over the rest of the record, and the next record id. -/
structure LoopStart (bmc : Bmc σ) (recordId : BitVec 16) (reservationId : BitVec 16) (s : σ)
    (recordLength : ℕ) (nextRecordId : BitVec 16) (start : ReadState σ) : Prop where
  fits : recordLength ≤ sdrMaxRecordLength
  front : ∃ reservationId' s',
    readEntireRecord bmc recordId sdrCacheMaxReservationIdRetry reservationId s
        = .ok (none, reservationId', s') ∧
      readRecordHeader bmc recordId sdrCacheMaxReservationIdRetry reservationId' s'
        = .ok (start.buf, recordLength, some nextRecordId, start.reservationId, start.bmc)
  fresh : start.retries = sdrCacheMaxReservationIdRetry ∧ start.bytesToRead = 16

/-- The call ends before the loop, with the entire record or an error, or it ends like the loop. -/
theorem sdrCacheGetRecord_eq (bmc : Bmc σ) (recordId reservationId : BitVec 16) (s : σ) :
    (∃ r, r ≠ .error .unfinished ∧
      (∀ fuel, sdrCacheGetRecord bmc recordId fuel reservationId s = r) ∧
      ∀ buf reservationId' nextRecordId s', r = .ok (buf, reservationId', nextRecordId, s') →
        readEntireRecord bmc recordId sdrCacheMaxReservationIdRetry reservationId s
          = .ok (some (buf, nextRecordId), reservationId', s')) ∨
    ∃ recordLength nextRecordId start,
      LoopStart bmc recordId reservationId s recordLength nextRecordId start ∧
      ∀ fuel, sdrCacheGetRecord bmc recordId fuel reservationId s
        = (run (readRound bmc recordId recordLength) fuel start).getD (.error .unfinished) >>=
          fun r => .ok (r.1, r.2.1, nextRecordId, r.2.2) := by
  cases hentire : readEntireRecord bmc recordId sdrCacheMaxReservationIdRetry reservationId s with
  | error e =>
    refine Or.inl ⟨.error e, ?_, fun fuel => by rw [sdrCacheGetRecord, hentire]; rfl, by simp⟩
    rintro ⟨⟩
    exact (readEntireRecord_finishes _ _ _).reason _ hentire rfl
  | ok r =>
    obtain ⟨entire, reservationId', s'⟩ := r
    cases entire with
    | some x =>
      refine Or.inl ⟨.ok (x.1, reservationId', x.2, s'), by simp,
        fun fuel => by rw [sdrCacheGetRecord, hentire]; rfl, ?_⟩
      rintro _ _ _ _ ⟨⟩
      rfl
    | none =>
      cases hheader : readRecordHeader bmc recordId sdrCacheMaxReservationIdRetry reservationId' s' with
      | error e =>
        refine Or.inl ⟨.error e, ?_, fun fuel => ?_, by simp⟩
        · rintro ⟨⟩
          exact (readRecordHeader_finishes _ _ _).reason _ hheader rfl
        · rw [sdrCacheGetRecord, hentire, ok_bind]
          simp only [hheader]
          rfl
      | ok r =>
        obtain ⟨buf, recordLength, next, reservationId'', s''⟩ := r
        by_cases hfits : recordLength > sdrMaxRecordLength
        · refine Or.inl ⟨.error (.errnum .internalError), by simp, fun fuel => ?_, by simp⟩
          rw [sdrCacheGetRecord, hentire, ok_bind]
          simp only [hheader, ok_bind, if_pos hfits]
        · cases next with
          | none =>
            refine Or.inl ⟨.error (.errnum .internalError), by simp, fun fuel => ?_, by simp⟩
            rw [sdrCacheGetRecord, hentire, ok_bind]
            simp only [hheader, ok_bind, if_neg hfits]
          | some nextRecordId =>
            refine Or.inr ⟨recordLength, nextRecordId,
              ⟨sdrCacheMaxReservationIdRetry, 16, reservationId'', buf, s''⟩,
              ⟨by omega, ⟨reservationId', s', hentire, hheader⟩, rfl, rfl⟩, fun fuel => ?_⟩
            rw [sdrCacheGetRecord, hentire, ok_bind, ← readRecordData_eq_run]
            simp only [hheader, ok_bind, if_neg hfits]
            rfl

end Front

/-! ### The responses -/

section Responses
open Fiid

/-- `tmpl_cmd_get_sdr_rs`. -/
def tmplCmdGetSdrRs : FiidTemplate where
  fields :=
    [⟨8, "cmd", fiidFieldRequired ||| fiidFieldLengthFixed ||| fiidFieldMakesPacketSufficient, .refl true⟩,
     ⟨8, "comp_code", fiidFieldRequired ||| fiidFieldLengthFixed ||| fiidFieldMakesPacketSufficient,
        .refl true⟩,
     ⟨16, "next_record_id", fiidFieldRequired ||| fiidFieldLengthFixed, .refl true⟩,
     ⟨2040, "record_data", fiidFieldRequired ||| fiidFieldLengthVariable, .refl true⟩]

/-- The response object, as created. -/
def getSdrRs : FiidObj where
  data := List.replicate 259 0
  fields := tmplCmdGetSdrRs.fields.map FiidField.toData
  terminatorFlags := 0
  terminatorSetFieldLen := 0
  makesPacketSufficient := true

/-- The flags of the context that `_api_ipmi_cmd_post` looks at: `IPMI_FLAGS_NO_VALID_CHECK` and
    `IPMI_FLAGS_NO_LEGAL_CHECK`. -/
structure ApiFlags where
  noValidCheck : Bool
  noLegalCheck : Bool

/-- Whether responses are checked with `fiid_obj_packet_valid`. -/
def ApiFlags.checksValid (flags : ApiFlags) : Bool := !flags.noValidCheck && !flags.noLegalCheck

/-- The completion codes for which `api_set_api_errnum_by_bad_response` has an error of their own, in
    its order. -/
def badResponseCompCodes : List Byte :=
  [0xC3, 0xC0, 0xC4, 0xD0, 0xD1, 0xD2, 0xD4, 0xC1, 0xC2, 0xC7, 0xC8, 0xC9, 0xCC]

/-- `_api_ipmi_cmd_post`: an error is `IPMI_ERR_BAD_COMPLETION_CODE` with its code, or another one. -/
def apiIpmiCmdPost (flags : ApiFlags) (objCmdRs : FiidObj) : Except (Option Byte) Unit :=
  let checkValid : Except (Option Byte) Unit :=
    if flags.checksValid ∧ fiidObjPacketValid objCmdRs = false then .error none else .ok ()
  match fiidObjGetStrict objCmdRs "comp_code" with
  | .error (.fiid .dataNotAvailable) => if flags.noLegalCheck then checkValid else .error none
  | .error _ => .error none
  | .ok compCode =>
    let compCode := compCode.setWidth 8
    if compCode = 0 then checkValid
    else if badResponseCompCodes.contains compCode then .error none
    else .error (some compCode)

/-- How `ipmi_cmd_get_sdr` ends with this response, with the fields that its callers read. -/
def getSdrEnds (flags : ApiFlags) (objCmdRs : FiidObj) : GetSdrRs :=
  match apiIpmiCmdPost flags objCmdRs with
  | .error none => .error
  | .error (some compCode) => .badCompletionCode compCode
  | .ok () =>
    match fiidObjGetData objCmdRs "record_data" 255 with
    | .error _ => .error
    | .ok recordData =>
      .ok ((fiidObjGetStrict objCmdRs "next_record_id").toOption.map (·.setWidth 16)) recordData

/-- `ipmi_cmd_get_sdr`, with the bytes that `ipmi_cmd` received, if it did receive any. -/
def ipmiCmdGetSdr (flags : ApiFlags) : Option (List Byte) → GetSdrRs
  | none => .error
  | some response => getSdrEnds flags (fiidObjSetAll getSdrRs response).2

/-- A device with states `σ`, by the bytes of its responses to Get SDR. -/
structure Device (σ : Type) where
  getSdrRepositoryInfo : σ → Option SdrInfo × σ
  reserveSdrRepository : σ → Option (BitVec 16) × σ
  getSdr : σ → (reservationId recordId : BitVec 16) → (offsetIntoRecord bytesToRead : ℕ) →
    Option (List Byte) × σ

/-- How the device looks through a context with these flags. -/
def Device.bmc {σ : Type} (d : Device σ) (flags : ApiFlags) : Bmc σ where
  getSdrRepositoryInfo := d.getSdrRepositoryInfo
  reserveSdrRepository := d.reserveSdrRepository
  getSdr s reservationId recordId offsetIntoRecord bytesToRead :=
    let (response, s) := d.getSdr s reservationId recordId offsetIntoRecord bytesToRead
    (ipmiCmdGetSdr flags response, s)

theorem getSdrRs_of : getSdrRs.Of tmplCmdGetSdrRs.fields :=
  (create_wf (show fiidObjCreate false tmplCmdGetSdrRs = some getSdrRs by decide +kernel)).of

theorem getSdrRs_unset : getSdrRs.Unset := by
  intro f hf
  obtain ⟨g, -, rfl⟩ := List.mem_map.mp hf
  rfl

/-- The fields of a response, filled from the front. -/
theorem getSdrRs_filled (response : List Byte) :
    ∃ obj n, fiidObjSetAll getSdrRs response = (.ok n, obj) ∧
      Filled tmplCmdGetSdrRs.fields getSdrRs obj response n := by
  have hbytes : ByteFields tmplCmdGetSdrRs.fields := by decide
  obtain ⟨obj, n, -, hfilled⟩ :=
    trySetAll_filled getSdrRs_of getSdrRs_unset (hbytes.endsByteAligned response.length)
  exact ⟨obj, n, hfilled.call, hfilled⟩

/-- In a valid packet every field passes the check of its flags. -/
theorem packetValidFlags_of_loop : ∀ {cells : List Cell} {n n' : Counters},
    packetValidLoop false cells n = .ok n' → ∀ c ∈ cells, packetValidFlags false c = .ok ()
  | [], _, _, _ => by simp
  | c :: cs, n, n', h => by
    simp only [packetValidLoop] at h
    obtain ⟨_, hflags, h⟩ := bind_eq_ok.mp h
    obtain ⟨m, -, h⟩ := bind_eq_ok.mp h
    exact List.forall_mem_cons.mpr ⟨hflags, packetValidFlags_of_loop h⟩

theorem setFieldLen_of_required {c : Cell} (h : packetValidFlags false c = .ok ())
    (hrequired : fiidFieldRequiredFlag c.flags = fiidFieldRequired) : c.setFieldLen ≠ 0 := by
  intro hunset
  simp [packetValidFlags, hrequired, hunset] at h

/-- A valid packet has each of its required fields. -/
theorem setFieldLen_of_packetValid {obj : FiidObj} (h : fiidObjPacketValid obj = true)
    {f : FiidFieldData} (hf : f ∈ obj.fields)
    (hrequired : fiidFieldRequiredFlag f.flags = fiidFieldRequired) : f.setFieldLen ≠ 0 := by
  rw [fiidObjPacketValid] at h
  cases hvalid : packetValid obj false with
  | error e =>
    rw [hvalid] at h
    cases h
  | ok u =>
    obtain ⟨n, hloop, -⟩ := bind_eq_ok.mp hvalid
    have hcell : f.toCell ∈ obj.cells := List.mem_append_left _ (List.mem_map_of_mem hf)
    exact setFieldLen_of_required (packetValidFlags_of_loop hloop _ hcell) hrequired

/-- The record data of a response, and what makes it a valid packet. -/
theorem getSdrRs_recordData (response : List Byte) :
    fiidObjGetData (fiidObjSetAll getSdrRs response).2 "record_data" 255
        = .ok ((response.drop 4).take 255) ∧
      (fiidObjPacketValid (fiidObjSetAll getSdrRs response).2 = true → 4 < response.length) := by
  obtain ⟨obj, n, hcall, hfilled⟩ := getSdrRs_filled response
  rw [hcall]
  refine ⟨hfilled.getData getSdrRs_of getSdrRs_unset (by decide) le_rfl, fun hvalid => ?_⟩
  have hlens := (hfilled.holds getSdrRs_of getSdrRs_unset).lens
  have hlen : (frontLens (8 * n) (tmplCmdGetSdrRs.fields.map (·.maxFieldLen)))[3]?
      = some (min 2040 (8 * n - 32)) := by
    rw [getElem?_frontLens]
    rfl
  have hindex : tmplCmdGetSdrRs.fields.findIdx? (fun f => f.key = "record_data") = some 3 := by decide
  obtain ⟨f, hf, hset⟩ := fieldAt_of_lens hfilled.of hlens hindex hlen
  have hflags : f.flags = fiidFieldRequired ||| fiidFieldLengthVariable := by
    have hfield := congrArg (·[3]?) hfilled.of.fields
    rw [List.getElem?_map, hf.entry] at hfield
    exact congrArg FiidField.flags (Option.some.inj hfield)
  have hne := setFieldLen_of_packetValid hvalid (List.mem_of_getElem? hf.entry)
    (by rw [hflags]; decide)
  have hn := hfilled.len
  omega

/-- `_api_ipmi_cmd_post` with its checks lets only a valid packet pass. -/
theorem packetValid_of_post {flags : ApiFlags} {objCmdRs : FiidObj} (hchecks : flags.checksValid = true)
    (h : apiIpmiCmdPost flags objCmdRs = .ok ()) : fiidObjPacketValid objCmdRs = true := by
  cases hvalid : fiidObjPacketValid objCmdRs with
  | true => rfl
  | false =>
    simp only [apiIpmiCmdPost, hchecks, hvalid, and_self, if_true, ite_self] at h
    split at h
    · cases h
    · cases h
    · split at h
      · cases h
      · split at h <;> cases h

/-- A response that is checked does not pass without record data. -/
theorem recordData_ne_nil {flags : ApiFlags} {response : Option (List Byte)}
    {next : Option (BitVec 16)} {data : List Byte} (hchecks : flags.checksValid = true)
    (h : ipmiCmdGetSdr flags response = .ok next data) : data ≠ [] := by
  cases response with
  | none => cases h
  | some response =>
    obtain ⟨hdata, hvalid⟩ := getSdrRs_recordData response
    rw [ipmiCmdGetSdr] at h
    generalize (fiidObjSetAll getSdrRs response).2 = objCmdRs at hdata hvalid h
    rw [getSdrEnds, hdata] at h
    cases hpost : apiIpmiCmdPost flags objCmdRs with
    | error compCode =>
      rw [hpost] at h
      cases compCode with
      | none => cases h
      | some compCode => cases h
    | ok u =>
      rw [hpost] at h
      cases h
      have hlong := hvalid (packetValid_of_post hchecks hpost)
      rw [← List.length_pos_iff, List.length_take, List.length_drop]
      omega

end Responses

/-! ### Termination -/

section Termination
variable {σ : Type} {bmc : Bmc σ} {recordId : BitVec 16} {recordLength : ℕ} {st st' : ReadState σ}

/-- A round got on: by at least one byte, with a lower `bytes_to_read`, or at the cost of a retry. -/
def Progress (st st' : ReadState σ) : Prop :=
  st.buf.length < st'.buf.length ∨ st'.bytesToRead < st.bytesToRead ∨ st'.retries < st.retries

/-- A request for no more than what is missing is answered without record data. -/
def EmptyAnswer (bmc : Bmc σ) (recordId : BitVec 16) (recordLength : ℕ) (st : ReadState σ) : Prop :=
  st.buf.length < recordLength ∧ st.bytesToRead ≤ recordLength - st.buf.length ∧
    ∃ next s, st.answer bmc recordId recordLength = (.ok next [], s)

theorem RoundGoesOn.progress (h : RoundGoesOn bmc recordId recordLength st st')
    (hlt : st.buf.length < recordLength) (hempty : ¬ EmptyAnswer bmc recordId recordLength st) :
    Progress st st' := by
  have hle := asked_le recordLength st
  cases h with
  | reserved hanswer hretries => exact Or.inr (Or.inr (Nat.sub_lt hretries Nat.one_pos))
  | lowered hanswer hasked =>
    refine Or.inr (Or.inl ?_)
    show max (st.asked recordLength - 4) sdrRecordHeaderLength < st.bytesToRead
    have := hle.1
    simp only [sdrRecordHeaderLength] at *
    omega
  | @read next data s hanswer =>
    cases data with
    | cons b data =>
      refine Or.inl ?_
      simp
    | nil =>
      refine Or.inr (Or.inl ?_)
      by_contra hnot
      have hkept : st.bytesToRead ≤ st.asked recordLength := Nat.le_of_not_lt hnot
      exact hempty ⟨hlt, hkept.trans hle.2, next, s, hanswer⟩

/-- No round takes back what another one did. -/
theorem RoundGoesOn.mono (h : RoundGoesOn bmc recordId recordLength st st') :
    st.buf.length ≤ st'.buf.length ∧ st'.bytesToRead ≤ st.bytesToRead ∧
      st'.retries ≤ st.retries := by
  have hle := (asked_le recordLength st).1
  cases h with
  | reserved hanswer hretries => exact ⟨le_rfl, hle, Nat.sub_le _ _⟩
  | lowered hanswer hasked => exact ⟨le_rfl, (max_le (Nat.sub_le _ _) hasked.le).trans hle, le_rfl⟩
  | read hanswer => exact ⟨by simp, hle, le_rfl⟩

/-- What is left of the loop, in bytes, lower sizes and retries. -/
def ReadState.left (recordLength : ℕ) (st : ReadState σ) : ℕ :=
  st.retries + st.bytesToRead + (recordLength - st.buf.length)

theorem RoundGoesOn.left_lt (h : RoundGoesOn bmc recordId recordLength st st')
    (hlt : st.buf.length < recordLength) (hprogress : Progress st st') :
    st'.left recordLength < st.left recordLength := by
  obtain ⟨hbuf, hbytes, hretries⟩ := h.mono
  rw [ReadState.left, ReadState.left]
  rcases hprogress with hlonger | hlower | hfewer <;> omega

/-- `_sdr_cache_get_record` returns, and no round of its loop is in vain. -/
structure GetRecordTerminates (bmc : Bmc σ) (recordId reservationId : BitVec 16) (s : σ) :
    Prop where
  ends : ∃ fuel, sdrCacheGetRecord bmc recordId fuel reservationId s ≠ .error .unfinished
  progress : ∀ recordLength nextRecordId start st st',
    LoopStart bmc recordId reservationId s recordLength nextRecordId start →
    Reached (readRound bmc recordId recordLength) start st →
    readRound bmc recordId recordLength st = .inl st' → Progress st st'

/-- The loop whose rounds all get on comes to an end. -/
theorem run_of_progress {start : ReadState σ}
    (h : ∀ st st', Reached (readRound bmc recordId recordLength) start st →
      readRound bmc recordId recordLength st = .inl st' → Progress st st') :
    ∃ r, run (readRound bmc recordId recordLength) (start.left recordLength + 1) start = some r ∧
      r ≠ .error .unfinished := by
  refine run_of_measure (Reached (readRound bmc recordId recordLength) start)
    (ReadState.left recordLength) ?_ ?_ .start (Nat.lt_succ_self _)
  · intro st st' hreached hround
    obtain ⟨hlt, hgoes⟩ := readRound_inl hround
    exact ⟨hreached.next hround, hgoes.left_lt hlt (h st st' hreached hround)⟩
  · intro st r _ hround
    exact (readRound_inr hround).1

/-- Reading a record terminates, each round getting on, exactly when no request for bytes that are
    missing is answered without any. -/
theorem getRecordTerminates_iff (bmc : Bmc σ) (recordId reservationId : BitVec 16) (s : σ) :
    GetRecordTerminates bmc recordId reservationId s ↔
      ∀ recordLength nextRecordId start st,
        LoopStart bmc recordId reservationId s recordLength nextRecordId start →
        Reached (readRound bmc recordId recordLength) start st →
        ¬ EmptyAnswer bmc recordId recordLength st := by
  constructor
  · rintro ⟨-, hprogress⟩ recordLength nextRecordId start st hstart hreached ⟨hlt, hasked, next, s', hanswer⟩
    have hround := readRound_of_empty hlt hanswer
    have hsame : st.asked recordLength = st.bytesToRead := if_neg (by omega)
    rcases hprogress recordLength nextRecordId start st _ hstart hreached hround with hlonger | hlower | hfewer
    · exact lt_irrefl _ hlonger
    · exact absurd hsame hlower.ne
    · exact lt_irrefl _ hfewer
  · intro hempty
    have hprogress : ∀ recordLength nextRecordId start st st',
        LoopStart bmc recordId reservationId s recordLength nextRecordId start →
        Reached (readRound bmc recordId recordLength) start st →
        readRound bmc recordId recordLength st = .inl st' → Progress st st' := by
      intro recordLength nextRecordId start st st' hstart hreached hround
      obtain ⟨hlt, hgoes⟩ := readRound_inl hround
      exact hgoes.progress hlt (hempty recordLength nextRecordId start st hstart hreached)
    refine ⟨?_, hprogress⟩
    rcases sdrCacheGetRecord_eq bmc recordId reservationId s with
      ⟨r, hr, hall, -⟩ | ⟨recordLength, nextRecordId, start, hstart, hall⟩
    · exact ⟨0, by rw [hall]; exact hr⟩
    · obtain ⟨r, hrun, hr⟩ := run_of_progress fun st st' =>
        hprogress recordLength nextRecordId start st st' hstart
      refine ⟨start.left recordLength + 1, ?_⟩
      rw [hall, hrun, Option.getD_some]
      cases r with
      | error e => simpa using hr
      | ok x => simp

/-- Reading a record terminates, each round getting on, for every device and every context that
    checks responses, and for the others exactly when no request for bytes that are missing is
    answered without any. -/
theorem sdrCacheGetRecord_terminates_iff (d : Device σ) (flags : ApiFlags)
    (recordId reservationId : BitVec 16) (s : σ) :
    GetRecordTerminates (d.bmc flags) recordId reservationId s ↔
      (flags.checksValid = false → ∀ recordLength nextRecordId start st,
        LoopStart (d.bmc flags) recordId reservationId s recordLength nextRecordId start →
        Reached (readRound (d.bmc flags) recordId recordLength) start st →
        ¬ EmptyAnswer (d.bmc flags) recordId recordLength st) := by
  rw [getRecordTerminates_iff]
  constructor
  · intro hempty _
    exact hempty
  · intro hempty recordLength nextRecordId start st hstart hreached hanswer
    cases hflags : flags.checksValid with
    | false => exact hempty hflags recordLength nextRecordId start st hstart hreached hanswer
    | true =>
      obtain ⟨-, -, next, s', hanswer⟩ := hanswer
      exact recordData_ne_nil hflags (congrArg Prod.fst hanswer) rfl

end Termination

/-! ### A BMC that gives no data -/

/-- A device that refuses to return the entire record, gives the header of a record of one byte and
    answers every other request without record data. -/
def emptyDevice : Device Unit where
  getSdrRepositoryInfo _ := (none, ())
  reserveSdrRepository _ := (some 0, ())
  getSdr _ _ _ offsetIntoRecord bytesToRead :=
    if bytesToRead = 0xFF then (some [0x23, 0xCA], ())
    else if offsetIntoRecord = 0 then (some [0x23, 0, 0xFF, 0xFF, 1, 0, 0x51, 0xC0, 1], ())
    else (some [0x23, 0, 0xFF, 0xFF], ())

/-- The device through a context with `IPMI_FLAGS_NO_VALID_CHECK`. -/
def emptyBmc : Bmc Unit := emptyDevice.bmc ⟨true, false⟩

theorem emptyDevice_answers :
    ipmiCmdGetSdr ⟨true, false⟩ (some [0x23, 0xCA])
        = .badCompletionCode compCodeCannotReturnRequestedNumberOfBytes ∧
      ipmiCmdGetSdr ⟨true, false⟩ (some [0x23, 0, 0xFF, 0xFF, 1, 0, 0x51, 0xC0, 1])
        = .ok (some sdrRecordIdLast) [1, 0, 0x51, 0xC0, 1] ∧
      ipmiCmdGetSdr ⟨true, false⟩ (some [0x23, 0, 0xFF, 0xFF]) = .ok (some sdrRecordIdLast) [] := by
  decide +kernel

theorem emptyBmc_getSdr (reservationId recordId : BitVec 16) (offsetIntoRecord bytesToRead : ℕ) :
    emptyBmc.getSdr () reservationId recordId offsetIntoRecord bytesToRead
      = (if bytesToRead = 0xFF then .badCompletionCode compCodeCannotReturnRequestedNumberOfBytes
          else if offsetIntoRecord = 0 then .ok (some sdrRecordIdLast) [1, 0, 0x51, 0xC0, 1]
          else .ok (some sdrRecordIdLast) [], ()) := by
  obtain ⟨hrefused, hheader, hempty⟩ := emptyDevice_answers
  simp only [emptyBmc, Device.bmc, emptyDevice]
  split_ifs
  · rw [hrefused]
  · rw [hheader]
  · rw [hempty]

/-- The header that this BMC gives. -/
def emptyStart : ReadState Unit := ⟨sdrCacheMaxReservationIdRetry, 16, 0, [1, 0, 0x51, 0xC0, 1], ()⟩

theorem emptyBmc_entire :
    readEntireRecord emptyBmc 0 sdrCacheMaxReservationIdRetry 0 () = .ok (none, 0, ()) := by
  rw [sdrCacheMaxReservationIdRetry, readEntireRecord, emptyBmc_getSdr]
  rfl

theorem emptyBmc_header :
    readRecordHeader emptyBmc 0 sdrCacheMaxReservationIdRetry 0 ()
      = .ok (emptyStart.buf, 6, some sdrRecordIdLast, 0, ()) := by
  rw [sdrCacheMaxReservationIdRetry, readRecordHeader, emptyBmc_getSdr]
  rfl

theorem emptyBmc_round {st : ReadState Unit} (h : st.buf = emptyStart.buf) :
    readRound emptyBmc 0 6 st
      = .inl ⟨st.retries, st.asked 6, st.reservationId, st.buf, ()⟩ := by
  have hlen : st.buf.length = 5 := by rw [h]; rfl
  have hasked := (asked_le 6 st).2
  have hsize : st.asked 6 ≠ 0xFF := by omega
  have hanswer : st.answer emptyBmc 0 6 = (.ok (some sdrRecordIdLast) [], ()) := by
    rw [ReadState.answer, hlen, emptyBmc_getSdr]
    simp [hsize]
  exact readRound_of_empty (by omega) hanswer

theorem emptyBmc_not_ends : ¬ Ends (readRound emptyBmc 0 6) emptyStart := by
  refine not_ends (fun st => st.buf = emptyStart.buf) ?_ rfl
  intro st h
  exact ⟨_, emptyBmc_round h, h⟩

/-- Through a context with `IPMI_FLAGS_NO_VALID_CHECK` the loop never ends: the response without
    record data is sufficient, but it is not valid. -/
theorem sdrCacheGetRecord_endless :
    Fiid.fiidObjCreate false tmplCmdGetSdrRs = some getSdrRs
      ∧ Fiid.fiidObjPacketSufficient (Fiid.fiidObjSetAll getSdrRs [0x23, 0, 0xFF, 0xFF]).2 = true
      ∧ Fiid.fiidObjPacketValid (Fiid.fiidObjSetAll getSdrRs [0x23, 0, 0xFF, 0xFF]).2 = false
      ∧ (∀ fuel, sdrCacheGetRecord (emptyDevice.bmc ⟨true, false⟩) 0 fuel 0 () = .error .unfinished)
      ∧ ¬ GetRecordTerminates (emptyDevice.bmc ⟨true, false⟩) 0 0 () := by
  have hendless : ∀ fuel, sdrCacheGetRecord emptyBmc 0 fuel 0 () = .error .unfinished := by
    intro fuel
    have hloop : sdrCacheGetRecord emptyBmc 0 fuel 0 ()
        = readRecordData emptyBmc 0 6 fuel emptyStart.retries emptyStart.bytesToRead
            emptyStart.reservationId emptyStart.buf emptyStart.bmc >>=
          fun r => .ok (r.1, r.2.1, sdrRecordIdLast, r.2.2) := by
      rw [sdrCacheGetRecord, emptyBmc_entire, ok_bind]
      simp only [emptyBmc_header, ok_bind]
      rfl
    rw [hloop, readRecordData_eq_run]
    cases hrun : run (readRound emptyBmc 0 6) fuel emptyStart with
    | none => rfl
    | some r => exact absurd ⟨fuel, r, hrun⟩ emptyBmc_not_ends
  refine ⟨by decide +kernel, by decide +kernel, by decide +kernel, hendless, ?_⟩
  rintro ⟨⟨fuel, hends⟩, -⟩
  exact hends (hendless fuel)

end FreeIpmi.Sdr
