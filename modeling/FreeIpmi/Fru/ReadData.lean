import FreeIpmi.Fru.Iterator
import FreeIpmi.Lib.ByteBits
import FreeIpmi.Lib.Loops

/-! The reads of `_read_fru_data` (`ipmi-fru.c`).

    The area is read in blocks of up to 16 bytes, and the device says with every block how many bytes
    it has sent. That number is compared with the bytes of the response, and not with the bytes that
    are still missing: a device that sends more than it was asked for writes behind the bytes that the
    caller wants, and the read succeeds. -/

namespace FreeIpmi.Fru
open ByteBits Loops

/-! ### The loop -/

/-- The `IPMI_FRU_ERR_*` codes of a read. -/
inductive ReadErr where
  | fruInformationInconsistent | noFruInformation | deviceBusy | ipmiError | systemError
  deriving DecidableEq

/-- The `IPMI_ERR_*` codes that are looked at after a command has failed. -/
inductive CmdErr where
  | commandInvalidOrUnsupported | messageTimeout | badCompletionCode | other
  deriving DecidableEq

/-- How `ipmi_cmd_read_fru_data` ends: with an error and the completion code, if there is one, or with the
    fields of the response. -/
inductive ReadFruDataRs where
  | failed (errnum : CmdErr) (compCode : Option Byte)
  | ok (countReturned : Option Byte) (requestedData : List Byte)
  deriving DecidableEq

def compCodeInvalidDataFieldInRequest : Byte := 0xCC
def compCodeCommandTimeout : Byte := 0xC3
def compCodeReadFruDataFruDeviceBusy : Byte := 0x81

/-- `IPMI_FRU_COUNT_TO_READ_BLOCK_SIZE`. -/
def fruCountToReadBlockSize : ℕ := 16

/-- The data of a response, or the error that the loop ends with. -/
def ReadFruDataRs.data (numBytesRead : ℕ) : ReadFruDataRs → Except ReadErr (List Byte)
  | .failed errnum compCode =>
    if numBytesRead = 0 ∧
        (errnum = .commandInvalidOrUnsupported ∧ compCode = some compCodeInvalidDataFieldInRequest
          ∨ errnum = .messageTimeout ∧ compCode = some compCodeCommandTimeout) then
      .error .noFruInformation
    else if errnum = .badCompletionCode ∧ compCode = some compCodeReadFruDataFruDeviceBusy then
      .error .deviceBusy
    else .error .ipmiError
  | .ok none _ => .error .systemError
  | .ok (some countReturned) requestedData =>
    if countReturned = 0 then .error .ipmiError
    else if countReturned.toNat ≠ requestedData.length then .error .ipmiError
    else .ok requestedData

/-- The arguments of `_read_fru_data`, with what its caller asserts. The size of the inventory area is a
    16-bit field of a response. -/
structure ReadCall where
  fruInventoryAreaSize : BitVec 16
  frubuf : List Byte
  offsetInBytes : BitVec 32
  fruReadBytes : BitVec 32
  fits : fruReadBytes.toNat ≤ frubuf.length

/-- The arguments of `ipmi_cmd_read_fru_data`. -/
structure ReadRequest where
  offsetToRead : ℕ
  countToRead : ℕ
  deriving DecidableEq

/-- The variables of the loop, with the requests so far and the end of the bytes written so far. -/
structure ReadLoop where
  numBytesRead : ℕ
  frubuf : List Byte
  written : ℕ
  requests : List ReadRequest
  deriving DecidableEq

/-- How a read ends; a `memcpy` over the end of the buffer is undefined. -/
inductive ReadEnd where
  | success
  | error (e : ReadErr)
  | undefined
  deriving DecidableEq

section Loop
variable (c : ReadCall) (responses : ℕ → ReadFruDataRs)

def ReadLoop.countToRead (st : ReadLoop) : ℕ :=
  if c.fruReadBytes.toNat - st.numBytesRead < fruCountToReadBlockSize then
    c.fruReadBytes.toNat - st.numBytesRead
  else fruCountToReadBlockSize

/-- The request of a round; the offset becomes a `uint16_t`. -/
def ReadLoop.request (st : ReadLoop) : ReadRequest :=
  ⟨(c.offsetInBytes.toNat + st.numBytesRead) % 2 ^ 16, st.countToRead c⟩

/-- `memcpy (frubuf + num_bytes_read, buf, count_returned)`, inside of the buffer. -/
def ReadLoop.copy (st : ReadLoop) (buf : List Byte) : ReadLoop where
  numBytesRead := (st.numBytesRead + buf.length) % 2 ^ 32
  frubuf := splice st.frubuf st.numBytesRead buf
  written := max st.written (st.numBytesRead + buf.length)
  requests := st.requests

/-- One round. -/
def readRound (st : ReadLoop) : ReadLoop ⊕ ReadEnd × ReadLoop :=
  if st.numBytesRead < c.fruReadBytes.toNat then
    let rs := responses st.requests.length
    let st := { st with requests := st.requests ++ [st.request c] }
    match rs.data st.numBytesRead with
    | .error e => .inr (.error e, st)
    | .ok buf =>
      if st.numBytesRead + buf.length ≤ st.frubuf.length then .inl (st.copy buf)
      else .inr (.undefined, st)
  else .inr (.success, st)

/-- The state before the first round. -/
def ReadCall.start : ReadLoop := ⟨0, c.frubuf, 0, []⟩

/-- `offset_in_bytes + fru_read_bytes`, in 32 bits. -/
def ReadCall.sum : ℕ := (c.offsetInBytes.toNat + c.fruReadBytes.toNat) % 2 ^ 32

/-- `_read_fru_data`, with the responses in their order. -/
def readFruBytes (fuel : ℕ) : Option (ReadEnd × ReadLoop) :=
  if c.sum > c.fruInventoryAreaSize.toNat then
    some (.error .fruInformationInconsistent, c.start)
  else run (readRound c responses) fuel c.start

end Loop

/-! ### What is delivered -/

/-- The bytes of a response that the loop takes. -/
def ReadFruDataRs.carried (rs : ReadFruDataRs) : List Byte := (rs.data 0).toOption.getD []

/-- A response whose bytes the loop takes. -/
def ReadFruDataRs.Accepted (rs : ReadFruDataRs) : Prop := rs.data 0 = .ok rs.carried

instance (rs : ReadFruDataRs) : Decidable rs.Accepted := by
  unfold ReadFruDataRs.Accepted; infer_instance

/-- The bytes of the first `k` responses. -/
def delivered (responses : ℕ → ReadFruDataRs) : ℕ → List Byte
  | 0 => []
  | k + 1 => delivered responses k ++ (responses k).carried

/-- No response that is taken while bytes are missing brings more bytes than are missing. -/
def NoneTooLong (c : ReadCall) (responses : ℕ → ReadFruDataRs) : Prop :=
  ∀ k, (∀ j ≤ k, (responses j).Accepted) →
    (delivered responses k).length < c.fruReadBytes.toNat →
    (delivered responses (k + 1)).length ≤ c.fruReadBytes.toNat

/-- The responses bring the bytes asked for. -/
def Delivers (c : ReadCall) (responses : ℕ → ReadFruDataRs) : Prop :=
  ∃ k, (∀ j < k, (responses j).Accepted) ∧ (delivered responses k).length = c.fruReadBytes.toNat

/-- On success the bytes exist on the device, and the buffer holds those of the responses, each of which
    has been asked for at the place where it stands. -/
structure ReadSuccess (c : ReadCall) (responses : ℕ → ReadFruDataRs) (st : ReadLoop) : Prop where
  inside : c.offsetInBytes.toNat + c.fruReadBytes.toNat ≤ c.fruInventoryAreaSize.toNat
  length : (delivered responses st.requests.length).length = c.fruReadBytes.toNat
  frubuf : st.frubuf
    = delivered responses st.requests.length ++ c.frubuf.drop c.fruReadBytes.toNat
  offsets : st.requests.map ReadRequest.offsetToRead = (List.range st.requests.length).map fun j =>
    c.offsetInBytes.toNat + (delivered responses j).length

/-- A read ends, and writes only the bytes asked for. -/
structure ReadSound (c : ReadCall) (responses : ℕ → ReadFruDataRs) : Prop where
  ends : ∃ fuel r, readFruBytes c responses fuel = some r
  result : ∀ fuel e st, readFruBytes c responses fuel = some (e, st) →
    e ≠ .undefined ∧ st.written ≤ c.fruReadBytes.toNat ∧
      st.frubuf.drop c.fruReadBytes.toNat = c.frubuf.drop c.fruReadBytes.toNat ∧
      (e = .success → ReadSuccess c responses st)

section Proofs
variable {c : ReadCall} {responses : ℕ → ReadFruDataRs} {rs : ReadFruDataRs} {k : ℕ}

/-- Whether the bytes of a response are taken does not depend on the bytes read before. -/
theorem data_eq_ok (rs : ReadFruDataRs) (numBytesRead : ℕ) (buf : List Byte) :
    rs.data numBytesRead = .ok buf ↔ rs.data 0 = .ok buf := by
  cases rs with
  | failed errnum compCode =>
    simp only [ReadFruDataRs.data]
    constructor <;> intro h <;> split_ifs at h
  | ok countReturned requestedData => cases countReturned <;> rfl

theorem ReadFruDataRs.Accepted.data (h : rs.Accepted) (numBytesRead : ℕ) :
    rs.data numBytesRead = .ok rs.carried := (data_eq_ok _ _ _).mpr h

theorem data_error (h : ¬ rs.Accepted) (numBytesRead : ℕ) :
    ∃ e, rs.data numBytesRead = .error e := by
  cases hdata : rs.data numBytesRead with
  | error e => exact ⟨e, rfl⟩
  | ok buf =>
    have hzero := (data_eq_ok _ _ _).mp hdata
    refine absurd ?_ h
    rw [ReadFruDataRs.Accepted, ReadFruDataRs.carried, hzero]
    rfl

/-- A response that is taken brings at least one byte. -/
theorem ReadFruDataRs.Accepted.pos (h : rs.Accepted) : 0 < rs.carried.length := by
  cases rs with
  | failed errnum compCode =>
    simp only [ReadFruDataRs.Accepted, ReadFruDataRs.data] at h
    split_ifs at h
  | ok countReturned requestedData =>
    cases countReturned with
    | none => cases h
    | some countReturned =>
      rw [ReadFruDataRs.Accepted, ReadFruDataRs.data] at h
      split_ifs at h with hzero hlen
      have hcarried := Except.ok.inj h
      have hne : countReturned.toNat ≠ 0 := fun h0 => hzero (BitVec.eq_of_toNat_eq h0)
      rw [← hcarried]
      omega

@[simp] theorem length_delivered_succ (responses : ℕ → ReadFruDataRs) (k : ℕ) :
    (delivered responses (k + 1)).length
      = (delivered responses k).length + (responses k).carried.length := by
  rw [delivered, List.length_append]

theorem delivered_mono (responses : ℕ → ReadFruDataRs) :
    Monotone fun k => (delivered responses k).length :=
  monotone_nat_of_le_succ fun k => by simp

/-- The state after `k` responses none of which was too long. -/
def stateAt (c : ReadCall) (responses : ℕ → ReadFruDataRs) (k : ℕ) : ReadLoop where
  numBytesRead := (delivered responses k).length
  frubuf := delivered responses k ++ c.frubuf.drop (delivered responses k).length
  written := (delivered responses k).length
  requests := (List.range k).map fun j =>
    ReadLoop.request c ⟨(delivered responses j).length, [], 0, []⟩

theorem length_stateAt_frubuf (h : (delivered responses k).length ≤ c.fruReadBytes.toNat) :
    (stateAt c responses k).frubuf.length = c.frubuf.length := by
  have hfits := c.fits
  simp only [stateAt, List.length_append, List.length_drop]
  omega

/-- A round in a state where bytes are missing. -/
theorem readRound_stateAt (hlt : (delivered responses k).length < c.fruReadBytes.toNat) :
    readRound c responses (stateAt c responses k) =
      let st := { stateAt c responses k with requests := (stateAt c responses (k + 1)).requests }
      match (responses k).data (delivered responses k).length with
      | .error e => .inr (.error e, st)
      | .ok buf =>
        if (delivered responses k).length + buf.length ≤ c.frubuf.length then .inl (st.copy buf)
        else .inr (.undefined, st) := by
  have hreq : (stateAt c responses k).requests ++ [(stateAt c responses k).request c]
      = (stateAt c responses (k + 1)).requests := by
    simp only [stateAt, List.range_succ, List.map_append, List.map_cons, List.map_nil]
    rfl
  have hlen : (stateAt c responses k).requests.length = k := by simp [stateAt]
  rw [readRound, if_pos (show (stateAt c responses k).numBytesRead < _ from hlt)]
  simp only [hreq, hlen, length_stateAt_frubuf hlt.le]
  rfl

theorem readRound_end (hge : c.fruReadBytes.toNat ≤ (delivered responses k).length) :
    readRound c responses (stateAt c responses k) = .inr (.success, stateAt c responses k) :=
  if_neg (Nat.not_lt.mpr hge)

/-- A response that is not too long leads to the next state. -/
theorem readRound_next (hlt : (delivered responses k).length < c.fruReadBytes.toNat)
    (haccepted : (responses k).Accepted)
    (hle : (delivered responses (k + 1)).length ≤ c.fruReadBytes.toNat) :
    readRound c responses (stateAt c responses k) = .inl (stateAt c responses (k + 1)) := by
  have hfits := c.fits
  have hbound := c.fruReadBytes.isLt
  rw [length_delivered_succ] at hle
  rw [readRound_stateAt hlt, haccepted.data]
  dsimp only
  rw [if_pos (by omega)]
  refine congrArg Sum.inl ?_
  simp only [ReadLoop.copy, stateAt, ReadLoop.mk.injEq, length_delivered_succ, and_true]
  refine ⟨Nat.mod_eq_of_lt (by omega), ?_, by omega⟩
  simp only [splice, delivered, List.take_left, List.append_assoc, List.drop_append, List.drop_drop,
    List.append_cancel_left_eq]
  rw [List.drop_eq_nil_of_le (by omega), List.nil_append]
  congr 1
  omega

/-- The rounds go through the states of responses that are taken and not too long. -/
theorem reached_stateAt : ∀ {k : ℕ}, (∀ j < k, (responses j).Accepted) →
    (∀ j < k, (delivered responses j).length < c.fruReadBytes.toNat) →
    (delivered responses k).length ≤ c.fruReadBytes.toNat →
    Reached (readRound c responses) c.start (stateAt c responses k)
  | 0, _, _, _ => .start
  | k + 1, haccepted, hlt, hle => by
    have hmono : (delivered responses k).length ≤ (delivered responses (k + 1)).length :=
      delivered_mono responses (Nat.le_succ k)
    have hreached := reached_stateAt (fun j hj => haccepted j (by omega))
      (fun j hj => hlt j (by omega)) (hmono.trans hle)
    exact hreached.next (readRound_next (hlt k (Nat.lt_succ_self k)) (haccepted k (by omega)) hle)

/-! ### Rounds without a response that is too long -/

/-- A state in which all responses so far were taken and none was too long. -/
def OnTrack (c : ReadCall) (responses : ℕ → ReadFruDataRs) (st : ReadLoop) : Prop :=
  ∃ k, st = stateAt c responses k ∧ (∀ j < k, (responses j).Accepted) ∧
    (delivered responses k).length ≤ c.fruReadBytes.toNat

theorem onTrack_start (c : ReadCall) (responses : ℕ → ReadFruDataRs) :
    OnTrack c responses c.start :=
  ⟨0, rfl, fun _ hj => absurd hj (Nat.not_lt_zero _), Nat.zero_le _⟩

/-- What a round on track does. -/
inductive TrackRound (c : ReadCall) (responses : ℕ → ReadFruDataRs) (k : ℕ) :
    ReadLoop ⊕ ReadEnd × ReadLoop → Prop where
  | next (haccepted : (responses k).Accepted)
      (hle : (delivered responses (k + 1)).length ≤ c.fruReadBytes.toNat) :
      TrackRound c responses k (.inl (stateAt c responses (k + 1)))
  | failed (e : ReadErr) (requests : List ReadRequest) :
      TrackRound c responses k
        (.inr (.error e, { stateAt c responses k with requests := requests }))
  | done (hlen : (delivered responses k).length = c.fruReadBytes.toNat) :
      TrackRound c responses k (.inr (.success, stateAt c responses k))

theorem trackRound (hnone : NoneTooLong c responses) (haccepted : ∀ j < k, (responses j).Accepted)
    (hle : (delivered responses k).length ≤ c.fruReadBytes.toNat) :
    TrackRound c responses k (readRound c responses (stateAt c responses k)) := by
  by_cases hlt : (delivered responses k).length < c.fruReadBytes.toNat
  · by_cases hk : (responses k).Accepted
    · have hall : ∀ j ≤ k, (responses j).Accepted := fun j hj =>
        (Nat.lt_or_eq_of_le hj).elim (haccepted j) fun h => h ▸ hk
      rw [readRound_next hlt hk (hnone k hall hlt)]
      exact .next hk (hnone k hall hlt)
    · obtain ⟨e, he⟩ := data_error hk (delivered responses k).length
      rw [readRound_stateAt hlt, he]
      exact .failed e _
  · rw [readRound_end (by omega)]
    exact .done (by omega)

/-- A round on track that is not the last brings something. -/
theorem onTrack_step (hnone : NoneTooLong c responses) (st st' : ReadLoop)
    (hst : OnTrack c responses st) (hround : readRound c responses st = .inl st') :
    OnTrack c responses st' ∧
      c.fruReadBytes.toNat - st'.numBytesRead < c.fruReadBytes.toNat - st.numBytesRead := by
  obtain ⟨k, rfl, haccepted, hle⟩ := hst
  have htrack := trackRound hnone haccepted hle
  rw [hround] at htrack
  cases htrack with
  | next hk hnext =>
    have hpos := hk.pos
    rw [length_delivered_succ] at hnext
    refine ⟨⟨k + 1, rfl, fun j hj => ?_, by rwa [length_delivered_succ]⟩, ?_⟩
    · rcases Nat.lt_or_eq_of_le (Nat.le_of_lt_succ hj) with h | rfl
      · exact haccepted j h
      · exact hk
    · simp only [stateAt, length_delivered_succ]
      omega

/-- How a read on track ends. -/
theorem onTrack_last (hnone : NoneTooLong c responses)
    (hsum : c.sum ≤ c.fruInventoryAreaSize.toNat)
    (hwrap : c.offsetInBytes.toNat + c.fruReadBytes.toNat < 2 ^ 32 ∨ ¬ Delivers c responses)
    {st st' : ReadLoop} {e : ReadEnd} (hst : OnTrack c responses st)
    (hround : readRound c responses st = .inr (e, st')) :
    e ≠ .undefined ∧ st'.written ≤ c.fruReadBytes.toNat ∧
      st'.frubuf.drop c.fruReadBytes.toNat = c.frubuf.drop c.fruReadBytes.toNat ∧
      (e = .success → ReadSuccess c responses st') := by
  obtain ⟨k, rfl, haccepted, hle⟩ := hst
  have hkept : (stateAt c responses k).frubuf.drop c.fruReadBytes.toNat
      = c.frubuf.drop c.fruReadBytes.toNat := by
    simp only [stateAt, List.drop_append, List.drop_drop]
    rw [List.drop_eq_nil_of_le hle, List.nil_append, Nat.add_sub_cancel' hle]
  have htrack := trackRound hnone haccepted hle
  rw [hround] at htrack
  cases htrack with
  | failed e requests => exact ⟨nofun, hle, hkept, nofun⟩
  | done hlen =>
    refine ⟨nofun, hle, hkept, fun _ => ?_⟩
    have hreq : (stateAt c responses k).requests.length = k := by simp [stateAt]
    have hinside : c.offsetInBytes.toNat + c.fruReadBytes.toNat
        ≤ c.fruInventoryAreaSize.toNat := by
      rcases hwrap with hlt | hnot
      · rwa [ReadCall.sum, Nat.mod_eq_of_lt hlt] at hsum
      · exact absurd ⟨k, haccepted, hlen⟩ hnot
    refine ⟨hinside, by rw [hreq, hlen], ?_, ?_⟩
    · rw [hreq]
      simp only [stateAt, hlen]
    · rw [hreq]
      simp only [stateAt, List.map_map]
      refine List.map_congr_left fun j hj => ?_
      have hmono : (delivered responses j).length ≤ (delivered responses k).length :=
        delivered_mono responses (List.mem_range.mp hj).le
      have hsize := c.fruInventoryAreaSize.isLt
      exact Nat.mod_eq_of_lt (by dsimp only; omega)

/-- The bytes written are never taken back. -/
theorem written_mono {st st' : ReadLoop} {e : ReadEnd} {fuel : ℕ}
    (h : run (readRound c responses) fuel st = some (e, st')) : st.written ≤ st'.written := by
  obtain ⟨s, hreached, hlast⟩ := exists_last h
  have hs : st.written ≤ s.written := by
    refine hreached.invariant (fun s => st.written ≤ s.written) le_rfl fun s₁ s₂ _ hle hround => ?_
    rw [readRound] at hround
    split at hround
    · dsimp only at hround
      split at hround
      · cases hround
      · split at hround
        · cases hround
          exact hle.trans (le_max_left _ _)
        · cases hround
    · cases hround
  rw [readRound] at hlast
  split at hlast
  · dsimp only at hlast
    split at hlast
    · cases hlast
      exact hs
    · split at hlast
      · cases hlast
      · cases hlast
        exact hs
  · cases hlast
    exact hs

/-! ### Sound reads -/

theorem readFruBytes_eq_run (hsum : ¬ c.fruInventoryAreaSize.toNat < c.sum) (fuel : ℕ) :
    readFruBytes c responses fuel = run (readRound c responses) fuel c.start := if_neg hsum

/-- A read that is refused at once writes nothing. -/
theorem readSound_of_refused (hsum : c.fruInventoryAreaSize.toNat < c.sum) :
    ReadSound c responses := by
  refine ⟨⟨0, _, if_pos hsum⟩, ?_⟩
  intro fuel e st h
  rw [readFruBytes, if_pos hsum] at h
  cases h
  exact ⟨nofun, Nat.zero_le _, rfl, nofun⟩

theorem readSound_of_noneTooLong (hsum : ¬ c.fruInventoryAreaSize.toNat < c.sum)
    (hnone : NoneTooLong c responses)
    (hwrap : c.offsetInBytes.toNat + c.fruReadBytes.toNat < 2 ^ 32 ∨ ¬ Delivers c responses) :
    ReadSound c responses where
  ends := by
    obtain ⟨r, hrun, -⟩ := run_of_measure (OnTrack c responses)
      (fun st => c.fruReadBytes.toNat - st.numBytesRead) (onTrack_step hnone)
      (fun _ _ _ _ => trivial) (onTrack_start c responses) (Nat.lt_succ_self _)
    exact ⟨_, r, (readFruBytes_eq_run hsum _).trans hrun⟩
  result := by
    intro fuel e st hrun
    rw [readFruBytes_eq_run hsum] at hrun
    obtain ⟨s, hreached, hround⟩ := exists_last hrun
    have htrack : OnTrack c responses s :=
      hreached.invariant _ (onTrack_start c responses)
        fun s₁ s₂ _ hs hstep => (onTrack_step hnone s₁ s₂ hs hstep).1
    exact onTrack_last hnone (Nat.le_of_not_lt hsum) hwrap htrack hround

/-- A sound read is sound in every round. -/
theorem ReadSound.last (h : ReadSound c responses) (hsum : ¬ c.fruInventoryAreaSize.toNat < c.sum)
    {st st' : ReadLoop} {e : ReadEnd} (hreached : Reached (readRound c responses) c.start st)
    (hround : readRound c responses st = .inr (e, st')) :
    e ≠ .undefined ∧ (e = .success → ReadSuccess c responses st') := by
  obtain ⟨fuel, hrun⟩ := run_of_last hreached hround
  have hres := h.result fuel e st' ((readFruBytes_eq_run hsum fuel).trans hrun)
  exact ⟨hres.1, hres.2.2.2⟩

theorem ReadSound.noneTooLong (h : ReadSound c responses)
    (hsum : ¬ c.fruInventoryAreaSize.toNat < c.sum) : NoneTooLong c responses := by
  intro k haccepted hlt
  by_contra hgt
  have hmono : ∀ j < k, (delivered responses j).length < c.fruReadBytes.toNat := fun j hj =>
    lt_of_le_of_lt (delivered_mono responses hj.le) hlt
  have hreached := reached_stateAt (fun j hj => haccepted j hj.le) hmono hlt.le
  have hround := readRound_stateAt hlt
  rw [(haccepted k le_rfl).data] at hround
  dsimp only at hround
  rw [length_delivered_succ] at hgt
  split at hround
  · -- the bytes are written, and behind those asked for
    obtain ⟨fuel, ⟨e, st⟩, hrun⟩ := h.ends
    have hwritten := (h.result fuel e st hrun).2.1
    rw [readFruBytes_eq_run hsum] at hrun
    have hle := written_mono (run_from_reached (hreached.next hround) hrun)
    have hcopy := le_max_right (delivered responses k).length
      ((delivered responses k).length + (responses k).carried.length)
    exact hgt (hcopy.trans (hle.trans hwritten))
  · exact (h.last hsum hreached hround).1 rfl

/-- The rounds up to the last byte. -/
theorem reached_last (haccepted : ∀ j < k, (responses j).Accepted)
    (hlen : (delivered responses k).length = c.fruReadBytes.toNat) :
    Reached (readRound c responses) c.start (stateAt c responses k) := by
  refine reached_stateAt haccepted (fun j hj => ?_) hlen.le
  have hpos := (haccepted j hj).pos
  have hmono : (delivered responses (j + 1)).length ≤ (delivered responses k).length :=
    delivered_mono responses hj
  rw [length_delivered_succ] at hmono
  omega

theorem ReadSound.range_fits (h : ReadSound c responses)
    (hsum : ¬ c.fruInventoryAreaSize.toNat < c.sum) :
    c.offsetInBytes.toNat + c.fruReadBytes.toNat < 2 ^ 32 ∨ ¬ Delivers c responses := by
  by_contra hno
  obtain ⟨hwrap, hdelivers⟩ := not_or.mp hno
  obtain ⟨k, haccepted, hlen⟩ := not_not.mp hdelivers
  have hsuccess := (h.last hsum (reached_last haccepted hlen) (readRound_end hlen.ge)).2 rfl
  have hinside := hsuccess.inside
  have hsize := c.fruInventoryAreaSize.isLt
  omega

end Proofs

/-- A read is sound exactly when it is refused at once, or no response that is taken brings more bytes
    than are missing and, where the end of the range does not fit into 32 bits, the responses do not
    bring all bytes. -/
theorem readSound_iff (c : ReadCall) (responses : ℕ → ReadFruDataRs) :
    ReadSound c responses ↔ c.fruInventoryAreaSize.toNat < c.sum ∨
      NoneTooLong c responses ∧
        (c.offsetInBytes.toNat + c.fruReadBytes.toNat < 2 ^ 32 ∨ ¬ Delivers c responses) := by
  by_cases hsum : c.fruInventoryAreaSize.toNat < c.sum
  · exact iff_of_true (readSound_of_refused hsum) (Or.inl hsum)
  · rw [or_iff_right hsum]
    exact ⟨fun h => ⟨h.noneTooLong hsum, h.range_fits hsum⟩,
      fun h => readSound_of_noneTooLong hsum h.1 h.2⟩

/-- The read of a common header. -/
def headerCall : ReadCall where
  fruInventoryAreaSize := 64
  frubuf := List.replicate 2049 0
  offsetInBytes := 0
  fruReadBytes := 8
  fits := by rw [List.length_replicate]; decide

/-- A block of 16 bytes. -/
def blockResponse : ReadFruDataRs := .ok (some 16) (List.replicate 16 0xFF)

/-- From a device that answers every request with a block, 16 bytes are written where 8 were asked
    for. -/
theorem headerCall_overrun :
    ¬ ∀ (c : ReadCall) (responses : ℕ → ReadFruDataRs), ReadSound c responses := by
  intro h
  have haccepted : blockResponse.Accepted := by decide
  have hnone := (h headerCall fun _ => blockResponse).noneTooLong (by decide) 0
    (fun _ _ => haccepted) (by decide)
  exact absurd hnone (by decide)

/-! ### A device that sends what it is asked for -/

/-- The responses of such a device. -/
def deviceResponses (dev : FruDevice) (c : ReadCall) (k : ℕ) : ReadFruDataRs :=
  let data := (dev.content.drop (c.offsetInBytes.toNat + fruCountToReadBlockSize * k)).take
    (min fruCountToReadBlockSize (c.fruReadBytes.toNat - fruCountToReadBlockSize * k))
  .ok (some (BitVec.ofNat 8 data.length)) data

section Device
variable {dev : FruDevice} {c : ReadCall} {k : ℕ}

theorem deviceResponses_accepted
    (hin : c.offsetInBytes.toNat + c.fruReadBytes.toNat ≤ dev.content.length)
    (hk : fruCountToReadBlockSize * k < c.fruReadBytes.toNat) :
    (deviceResponses dev c k).data 0 = .ok ((dev.content.drop
      (c.offsetInBytes.toNat + fruCountToReadBlockSize * k)).take
        (min fruCountToReadBlockSize (c.fruReadBytes.toNat - fruCountToReadBlockSize * k))) := by
  rw [fruCountToReadBlockSize] at hk
  simp only [deviceResponses, ReadFruDataRs.data, fruCountToReadBlockSize, List.length_take,
    List.length_drop]
  have hlen : min (min 16 (c.fruReadBytes.toNat - 16 * k))
      (dev.content.length - (c.offsetInBytes.toNat + 16 * k))
      = min 16 (c.fruReadBytes.toNat - 16 * k) := by omega
  rw [hlen, if_neg, if_neg]
  · rw [BitVec.toNat_ofNat, Nat.mod_eq_of_lt (by omega)]
    exact fun h => h rfl
  · intro h
    have hzero := congrArg BitVec.toNat h
    rw [BitVec.toNat_ofNat, Nat.mod_eq_of_lt (by omega)] at hzero
    change _ = 0 at hzero
    omega

theorem delivered_device
    (hin : c.offsetInBytes.toNat + c.fruReadBytes.toNat ≤ dev.content.length) :
    ∀ {k : ℕ}, fruCountToReadBlockSize * k < c.fruReadBytes.toNat + fruCountToReadBlockSize →
      delivered (deviceResponses dev c) k = (dev.content.drop c.offsetInBytes.toNat).take
        (min (fruCountToReadBlockSize * k) c.fruReadBytes.toNat)
  | 0, _ => by rw [delivered, Nat.mul_zero, Nat.zero_min, List.take_zero]
  | k + 1, hk => by
    have hlt : fruCountToReadBlockSize * k < c.fruReadBytes.toNat := by
      rw [Nat.mul_add, Nat.mul_one] at hk
      omega
    have hcarried := deviceResponses_accepted hin hlt
    rw [delivered, delivered_device hin (by omega), ReadFruDataRs.carried, hcarried]
    have hsum : min (fruCountToReadBlockSize * (k + 1)) c.fruReadBytes.toNat
        = fruCountToReadBlockSize * k
          + min fruCountToReadBlockSize (c.fruReadBytes.toNat - fruCountToReadBlockSize * k) := by
      rw [fruCountToReadBlockSize] at hlt ⊢
      omega
    rw [hsum, List.take_add, List.drop_drop, Nat.min_eq_left hlt.le]
    rfl

end Device

/-- From such a device the loop reads what the walk over the areas takes for granted. -/
theorem readFruBytes_device (dev : FruDevice) (c : ReadCall)
    (hsize : c.fruInventoryAreaSize.toNat ≤ dev.content.length)
    (hwrap : c.offsetInBytes.toNat + c.fruReadBytes.toNat < 2 ^ 32) :
    ∃ fuel e st, readFruBytes c (deviceResponses dev c) fuel = some (e, st) ∧
      match readFruData dev c.fruInventoryAreaSize.toNat c.offsetInBytes.toNat
        c.fruReadBytes.toNat with
      | .error _ => e = .error .fruInformationInconsistent
      | .ok bytes => e = .success ∧ st.frubuf.take c.fruReadBytes.toNat = bytes := by
  have hsum : c.sum = c.offsetInBytes.toNat + c.fruReadBytes.toNat := Nat.mod_eq_of_lt hwrap
  by_cases hrefused : c.offsetInBytes.toNat + c.fruReadBytes.toNat > c.fruInventoryAreaSize.toNat
  · refine ⟨0, _, _, if_pos (hsum ▸ hrefused), ?_⟩
    rw [readFruData, if_pos hrefused]
  · have hin : c.offsetInBytes.toNat + c.fruReadBytes.toNat ≤ dev.content.length := by omega
    obtain ⟨k, hk⟩ : ∃ k, k = (c.fruReadBytes.toNat + 15) / 16 := ⟨_, rfl⟩
    have hall := delivered_device hin (k := k) (by rw [fruCountToReadBlockSize]; omega)
    rw [fruCountToReadBlockSize, Nat.min_eq_right (by omega)] at hall
    have hlen : (delivered (deviceResponses dev c) k).length = c.fruReadBytes.toNat := by
      rw [hall, List.length_take, List.length_drop]
      omega
    have haccepted : ∀ j < k, (deviceResponses dev c j).Accepted := by
      intro j hj
      have hdata := deviceResponses_accepted hin (k := j) (by rw [fruCountToReadBlockSize]; omega)
      rw [ReadFruDataRs.Accepted, ReadFruDataRs.carried, hdata]
      rfl
    obtain ⟨fuel, hrun⟩ := run_of_last (reached_last haccepted hlen) (readRound_end hlen.ge)
    refine ⟨fuel, _, _, (readFruBytes_eq_run (by omega) fuel).trans hrun, ?_⟩
    rw [readFruData, if_neg hrefused]
    refine ⟨rfl, ?_⟩
    simp only [stateAt]
    rw [List.take_left' hlen, hall]

end FreeIpmi.Fru
