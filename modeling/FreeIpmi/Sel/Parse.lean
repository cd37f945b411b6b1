import FreeIpmi.Basic
import FreeIpmi.Lib.Loops

/-! The walk through the system event log (`ipmi-sel.c`).

    Every entry names the record after it, and `ipmi_sel_parse` goes from record to record until
    it has named the last one. A cancelled reservation is renewed, but only a few times
    (`requests_le`). Nothing is said of a record that is named twice: a BMC whose entries name each
    other in a circle is read forever (`endless`). -/

namespace FreeIpmi.Sel

abbrev RecordId := BitVec 16

/-- `IPMI_SEL_GET_RECORD_ID_FIRST_ENTRY`, `IPMI_SEL_GET_RECORD_ID_LAST_ENTRY`. -/
def getRecordIdFirstEntry : RecordId := 0x0000
def getRecordIdLastEntry : RecordId := 0xFFFF

/-- `IPMI_SEL_RESERVATION_ID_RETRY`, `IPMI_SEL_RECORD_HEADER_LENGTH`. -/
def reservationIdRetry : ℕ := 4
def recordHeaderLength : ℕ := 3

/-- What comes of a Get SEL Entry request. -/
inductive Answer where
  -- `IPMI_COMP_CODE_RESERVATION_CANCELLED`
  | cancelled
  -- `IPMI_COMP_CODE_REQUESTED_SENSOR_DATA_OR_RECORD_NOT_PRESENT`
  | notPresent
  -- any other failure of `ipmi_cmd_get_sel_entry`
  | failed
  -- `next_record_id`, and `fiid_obj_get_data` of `record_data`
  | entry (next : Option RecordId) (recordData : Option (List Byte))

/-- What comes of a Reserve SEL request. -/
inductive Reserved where
  | granted (id : ℕ)
  | insufficientPrivilegeLevel
  | failed

/-- The BMC: the answers to the requests, in their order. -/
structure Bmc where
  -- to Get SEL Entry, for a reservation and a record
  getSelEntry : ℕ → ℕ → RecordId → Answer
  reserveSel : ℕ → Reserved

/-- `ctx` and the arguments of `ipmi_sel_parse`. -/
structure Env where
  bmc : Bmc
  -- `ipmi_sel_ctx_register_reservation_id` has registered this
  registered : Option ℕ
  recordIdStart : RecordId
  recordIdLast : RecordId
  -- whether the callback accepts an entry, after the entries before it
  callback : List (List Byte) → List Byte → Bool

/-- `reservation_id` and `reservation_id_initialized`, and how many requests were sent. -/
structure Reservation where
  id : ℕ
  initialized : Bool
  reserves : ℕ
  requests : ℕ
  deriving DecidableEq

/-- Before the first request. -/
def Reservation.none : Reservation := ⟨0, false, 0, 0⟩

/-- The reservation for a request, where there is none yet or it has been cancelled. -/
def Reservation.reserve (env : Env) (v : Reservation) (canceled : Bool) : Reservation × Bool :=
  if v.initialized ∧ !canceled then (v, true)
  else
    match env.registered with
    | some id => ({ v with id, initialized := true }, true)
    | .none =>
      let asked := { v with reserves := v.reserves + 1 }
      match env.bmc.reserveSel v.reserves with
      | .granted id => ({ asked with id, initialized := true }, true)
      -- the reservation should not matter, and some BMCs do not allow it
      | .insufficientPrivilegeLevel => ({ asked with id := 0, initialized := true }, true)
      | .failed => (asked, false)

/-- What `_get_sel_entry` leaves: a response, or -1. -/
inductive Got where
  | notPresent | failed
  | entry (next : Option RecordId) (recordData : Option (List Byte))

/-- The loop of `_get_sel_entry`, while it may retry a number of times. -/
def getSelEntryTries (env : Env) (recordId : RecordId) : ℕ → Bool → Reservation → Reservation × Got
  | retries, canceled, v =>
    match v.reserve env canceled with
    | (v, false) => (v, .failed)
    | (v, true) =>
      let answer := env.bmc.getSelEntry v.requests v.id recordId
      let v := { v with requests := v.requests + 1 }
      match answer with
      | .cancelled =>
        if env.registered.isSome then (v, .failed)
        else
          match retries with
          | 0 => ({ v with initialized := false }, .failed)
          | n + 1 => getSelEntryTries env recordId n true { v with initialized := false }
      | .notPresent => (v, .notPresent)
      | .failed => (v, .failed)
      | .entry next recordData => (v, .entry next recordData)

/-- `_get_sel_entry`. -/
def getSelEntry (env : Env) (recordId : RecordId) (v : Reservation) : Reservation × Got :=
  getSelEntryTries env recordId reservationIdRetry false v

/-- What `ipmi_sel_parse` returns. -/
inductive Parsed where
  | failed
  | entries (es : List (List Byte))
  deriving DecidableEq

/-- The loop of `ipmi_sel_parse`, at its condition. -/
structure Walk where
  reservation : Reservation
  recordId : RecordId
  parsedAtleastOneEntry : Bool
  -- `ctx->sel_entries`
  entries : List (List Byte)
  -- the records asked for so far
  visited : List RecordId
  deriving DecidableEq

/-- The condition of the loop. -/
def Walk.within (last : RecordId) (w : Walk) : Bool :=
  w.recordId ≤ last ∧ w.recordId ≠ getRecordIdLastEntry

/-- How the loop ends. -/
structure Ended where
  walk : Walk
  parsed : Parsed
  deriving DecidableEq

/-- An entry goes through the callback to the list. -/
def appendEntry (env : Env) (entries : List (List Byte)) (recordData : List Byte) :
    Option (List (List Byte)) :=
  if env.callback entries recordData then some (entries ++ [recordData]) else none

/-- The body of the loop, for the response to its request. -/
def Walk.take (env : Env) (w : Walk) : Got → Walk ⊕ Ended
  | .failed => .inr ⟨w, .failed⟩
  | .notPresent =>
    -- an empty log is not really an error
    if w.recordId = getRecordIdFirstEntry then .inr ⟨w, .entries w.entries⟩
    else if env.recordIdStart ≠ getRecordIdFirstEntry ∧ !w.parsedAtleastOneEntry then
      .inl { w with recordId := w.recordId + 1 }
    else .inr ⟨w, .failed⟩
  | .entry next recordData =>
    match next, recordData with
    | some next, some recordData =>
      match appendEntry env w.entries recordData with
      | some entries => .inl { w with recordId := next, parsedAtleastOneEntry := true, entries }
      | none => .inr ⟨w, .failed⟩
    | _, _ => .inr ⟨w, .failed⟩

/-- One round of the loop, up to the last record to be asked for. -/
def Walk.round (env : Env) (last : RecordId) (w : Walk) : Walk ⊕ Ended :=
  if w.within last then
    let (reservation, got) := getSelEntry env w.recordId w.reservation
    { w with reservation, visited := w.recordId :: w.visited }.take env got
  else .inr ⟨w, .entries w.entries⟩

/-- `record_id` in `sel_get_record_header_info`. -/
def recordHeaderId (recordData : List Byte) : Option RecordId :=
  if recordData.length < recordHeaderLength then none
  else some ((recordData.getD 1 0) ++ (recordData.getD 0 0))

/-- The last record of the log, where the caller has given a last record. -/
def lastRecord (env : Env) (v : Reservation) : Reservation × (RecordId ⊕ Parsed) :=
  if env.recordIdLast = getRecordIdLastEntry then (v, .inl env.recordIdLast)
  else
    match getSelEntry env getRecordIdLastEntry v with
    | (v, .failed) => (v, .inr .failed)
    | (v, .notPresent) => (v, .inr (.entries []))
    | (v, .entry _ recordData) =>
      match recordData.bind recordHeaderId with
      | some last => (v, .inl (if env.recordIdLast > last then last else env.recordIdLast))
      | .none => (v, .inr .failed)

/-- The special case of the last record alone. -/
def onlyLast (env : Env) (v : Reservation) : Parsed :=
  match (getSelEntry env getRecordIdLastEntry v).2 with
  | .failed => .failed
  | .notPresent => .entries []
  | .entry _ none => .failed
  | .entry _ (some recordData) =>
    match appendEntry env [] recordData with
    | some entries => .entries entries
    | none => .failed

/-- `ipmi_sel_parse` up to its loop: where the loop begins and the last record, or the result. -/
def enter (env : Env) : (Walk × RecordId) ⊕ Parsed :=
  if env.recordIdStart > env.recordIdLast then .inr .failed
  else
    match lastRecord env .none with
    | (_, .inr parsed) => .inr parsed
    | (v, .inl last) =>
      if env.recordIdStart = getRecordIdLastEntry then .inr (onlyLast env v)
      else .inl (⟨v, env.recordIdStart, false, [], []⟩, last)

/-- `ipmi_sel_parse`, for a number of rounds. -/
def ipmiSelParse (env : Env) (rounds : ℕ) : Option Parsed :=
  match enter env with
  | .inr parsed => some parsed
  | .inl (w, last) => (Loops.run (Walk.round env last) rounds w).map Ended.parsed

/-! ### Requests -/

section requests
variable {env : Env} {recordId : RecordId}

theorem reserve_requests (env : Env) (v : Reservation) (canceled : Bool) :
    (v.reserve env canceled).1.requests = v.requests := by
  unfold Reservation.reserve
  split
  · rfl
  · cases env.registered with
    | some id => rfl
    | none =>
      dsimp only
      split <;> rfl

theorem tries_requests_le (retries : ℕ) (canceled : Bool) (v : Reservation) :
    (getSelEntryTries env recordId retries canceled v).1.requests ≤ v.requests + (retries + 1) := by
  induction retries generalizing canceled v with
  | zero =>
    have hreserve := reserve_requests env v canceled
    unfold getSelEntryTries
    generalize v.reserve env canceled = a at hreserve ⊢
    rcases a with ⟨v', - | -⟩
    · dsimp only at hreserve ⊢
      omega
    · dsimp only at hreserve ⊢
      split <;> try split
      all_goals dsimp only; omega
  | succ n ih =>
    have hreserve := reserve_requests env v canceled
    unfold getSelEntryTries
    generalize v.reserve env canceled = a at hreserve ⊢
    rcases a with ⟨v', - | -⟩
    · dsimp only at hreserve ⊢
      omega
    · dsimp only at hreserve ⊢
      split
      · split
        · dsimp only
          omega
        · refine (ih true _).trans ?_
          dsimp only
          omega
      all_goals dsimp only; omega

/-- A cancelled reservation costs only a few requests. -/
theorem requests_le (env : Env) (recordId : RecordId) (v : Reservation) :
    (getSelEntry env recordId v).1.requests ≤ v.requests + (reservationIdRetry + 1) :=
  tries_requests_le _ _ _

end requests

/-! ### Rounds -/

variable {env : Env} {last : RecordId} {w w' : Walk}

/-- The response to the request of the round, if there is one, does not name a record that the loop
    has asked for. -/
def NamesNew (env : Env) (last : RecordId) (w : Walk) : Prop :=
  w.within last = true → ∀ next recordData,
    (getSelEntry env w.recordId w.reservation).2 = .entry (some next) recordData →
    next ∉ w.recordId :: w.visited

/-- No record has been asked for twice. -/
structure Fresh (first : ℕ) (last : RecordId) (w : Walk) : Prop where
  new : w.recordId ∉ w.visited
  nodup : w.visited.Nodup
  -- the search for the first record goes upward
  rising : w.parsedAtleastOneEntry = false → ∀ id ∈ w.visited, id < w.recordId
  few : w.reservation.requests ≤ first + (reservationIdRetry + 1) * w.visited.length

/-- Where a response lets the loop go on: to the next number while there is no entry yet, and to the
    record that an entry names. -/
theorem take_inl {got : Got} (h : w.take env got = .inl w') :
    (got = .notPresent ∧ w.parsedAtleastOneEntry = false ∧ w' = { w with recordId := w.recordId + 1 })
      ∨ ∃ next recordData entries, got = .entry (some next) (some recordData)
        ∧ w' = { w with recordId := next, parsedAtleastOneEntry := true, entries } := by
  cases got with
  | failed => cases h
  | notPresent =>
    simp only [Walk.take] at h
    split at h
    · cases h
    · split at h
      next hsearch =>
        obtain rfl := Sum.inl.inj h
        exact .inl ⟨rfl, by simpa using hsearch.2, rfl⟩
      next => cases h
  | entry next recordData =>
    simp only [Walk.take] at h
    split at h
    next next recordData =>
      split at h
      next entries _ =>
        obtain rfl := Sum.inl.inj h
        exact .inr ⟨next, recordData, entries, rfl, rfl⟩
      next => cases h
    next => cases h

/-- The number after a record that is not the last number. -/
theorem lt_add_one {id : RecordId} (h : id ≠ getRecordIdLastEntry) : id < id + 1 := by
  rw [BitVec.lt_def, BitVec.toNat_add]
  have hne : id.toNat ≠ 0xFFFF := fun heq => h (BitVec.eq_of_toNat_eq heq)
  have hlt := id.isLt
  simp
  omega

/-- A round that goes on asks for one more record. -/
theorem round_visited (hround : w.round env last = .inl w') :
    w'.visited = w.recordId :: w.visited ∧ w.recordId ≠ getRecordIdLastEntry := by
  unfold Walk.round at hround
  split at hround
  next hwithin =>
    refine ⟨?_, by simp only [Walk.within, decide_eq_true_eq] at hwithin; exact hwithin.2⟩
    rcases take_inl hround with ⟨-, -, rfl⟩ | ⟨next, recordData, entries, -, rfl⟩
    · rfl
    · rfl
  next => cases hround

/-- The number that stands for the last record is not asked for. -/
theorem visited_inside {w₀ : Walk} (h : Loops.Reached (Walk.round env last) w₀ w)
    (h₀ : w₀.visited = []) : ∀ id ∈ w.visited, id ≠ getRecordIdLastEntry := by
  refine h.invariant (fun w => ∀ id ∈ w.visited, id ≠ getRecordIdLastEntry) (by simp [h₀]) ?_
  intro w w' _ hinside hround
  obtain ⟨hvisited, hlast⟩ := round_visited hround
  rw [hvisited]
  exact List.forall_mem_cons.mpr ⟨hlast, hinside⟩

/-- A round that goes on keeps the walk fresh. -/
theorem Fresh.round {first : ℕ} (h : Fresh first last w) (hnew : NamesNew env last w)
    (hround : w.round env last = .inl w') :
    Fresh first last w' := by
  have hlast := (round_visited hround).2
  unfold Walk.round at hround
  split at hround
  next hwithin =>
    have hnames := hnew hwithin
    have hcost := requests_le env w.recordId w.reservation
    generalize getSelEntry env w.recordId w.reservation = a at hnames hcost hround
    obtain ⟨v, got⟩ := a
    have hnodup : (w.recordId :: w.visited).Nodup := List.nodup_cons.mpr ⟨h.new, h.nodup⟩
    have hfew : v.requests ≤ first + (reservationIdRetry + 1) * (w.recordId :: w.visited).length := by
      have hold := h.few
      dsimp only at hcost
      rw [List.length_cons, Nat.mul_succ]
      omega
    rcases take_inl hround with ⟨-, hparsed, rfl⟩ | ⟨next, recordData, entries, rfl, rfl⟩
    · have hrising : ∀ id ∈ w.recordId :: w.visited, id < w.recordId + 1 :=
        List.forall_mem_cons.mpr
          ⟨lt_add_one hlast, fun id hid => BitVec.lt_trans (h.rising hparsed id hid) (lt_add_one hlast)⟩
      exact ⟨fun hmem => BitVec.lt_irrefl _ (hrising _ hmem), hnodup, fun _ => hrising, hfew⟩
    · exact ⟨hnames next _ rfl, hnodup, by simp, hfew⟩
  next => cases hround

/-- There are only so many record ids. -/
theorem Fresh.length_visited {first : ℕ} (h : Fresh first last w)
    (hinside : ∀ id ∈ w.visited, id ≠ getRecordIdLastEntry) : w.visited.length ≤ 65535 := by
  have hnodup : (w.visited.map BitVec.toNat).Nodup := h.nodup.map fun a b => BitVec.eq_of_toNat_eq
  have hrange : (w.visited.map BitVec.toNat) ⊆ List.range 65535 := by
    intro n hn
    obtain ⟨id, hid, rfl⟩ := List.mem_map.mp hn
    have hne : id.toNat ≠ 0xFFFF := fun heq => hinside id hid (BitVec.eq_of_toNat_eq heq)
    have hlt := id.isLt
    rw [List.mem_range]
    omega
  simpa using (List.subperm_of_subset hnodup hrange).length_le

theorem take_inr {got : Got} {e : Ended} (h : w.take env got = .inr e) : e.walk = w := by
  unfold Walk.take at h
  repeat' split at h
  all_goals
    cases h
    try rfl

/-- What the last round leaves. -/
theorem Fresh.ended {first : ℕ} {e : Ended} (h : Fresh first last w) (hround : w.round env last = .inr e) :
    e.walk.visited.Nodup
      ∧ e.walk.reservation.requests ≤ first + (reservationIdRetry + 1) * e.walk.visited.length := by
  unfold Walk.round at hround
  split at hround
  · have hcost := requests_le env w.recordId w.reservation
    generalize getSelEntry env w.recordId w.reservation = a at hcost hround
    rw [take_inr hround]
    refine ⟨List.nodup_cons.mpr ⟨h.new, h.nodup⟩, ?_⟩
    have hold := h.few
    dsimp only
    rw [List.length_cons, Nat.mul_succ]
    omega
  · obtain rfl := Sum.inr.inj hround
    exact ⟨h.nodup, h.few⟩

/-- The states of the loop of a call. -/
def Walking (env : Env) (last : RecordId) (w : Walk) : Prop :=
  ∃ w₀, enter env = .inl (w₀, last) ∧ Loops.Reached (Walk.round env last) w₀ w

theorem enter_visited {w : Walk} (h : enter env = .inl (w, last)) : w.visited = [] := by
  unfold enter at h
  repeat' split at h
  all_goals
    cases h
    try rfl

/-- The loop ends, and asks for no record twice, where no entry names a record asked for. -/
theorem loop_ends {w : Walk} (henter : enter env = .inl (w, last))
    (h : ∀ w, Walking env last w → NamesNew env last w) :
    ∃ e, Loops.run (Walk.round env last) 65536 w = some e
      ∧ e.walk.visited.Nodup ∧ e.walk.reservation.requests
        ≤ w.reservation.requests + (reservationIdRetry + 1) * e.walk.visited.length := by
  have hvisited := enter_visited henter
  have hfresh : Fresh w.reservation.requests last w := by
    constructor <;> simp [hvisited]
  refine Loops.run_of_measure
    (fun w' => Fresh w.reservation.requests last w' ∧ Loops.Reached (Walk.round env last) w w')
    (fun w' => 65535 - w'.visited.length) ?_ ?_ ⟨hfresh, .start⟩ (by omega)
  · rintro w₁ w₂ ⟨hfresh₁, hreached⟩ hround
    have hfresh₂ := hfresh₁.round (h w₁ ⟨w, henter, hreached⟩) hround
    have hmax := hfresh₂.length_visited (visited_inside (hreached.next hround) hvisited)
    refine ⟨⟨hfresh₂, hreached.next hround⟩, ?_⟩
    rw [(round_visited hround).1, List.length_cons] at hmax ⊢
    omega
  · rintro w₁ e ⟨hfresh₁, -⟩ hround
    exact hfresh₁.ended hround

/-- Where no entry names a record that has been asked for, `ipmi_sel_parse` ends: its loop asks for
    no record twice, and sends at most five requests for each. -/
theorem parse_ends (env : Env) (h : ∀ last w, Walking env last w → NamesNew env last w) :
    (∃ parsed, ipmiSelParse env 65536 = some parsed)
      ∧ ∀ w last, enter env = .inl (w, last) → ∃ e, Loops.run (Walk.round env last) 65536 w = some e
        ∧ e.walk.visited.Nodup ∧ e.walk.reservation.requests
          ≤ w.reservation.requests + (reservationIdRetry + 1) * e.walk.visited.length := by
  refine ⟨?_, fun w last henter => loop_ends henter (h last)⟩
  unfold ipmiSelParse
  cases henter : enter env with
  | inr parsed => exact ⟨parsed, rfl⟩
  | inl a =>
    obtain ⟨w, last⟩ := a
    obtain ⟨e, he, -⟩ := loop_ends henter (h last)
    exact ⟨e.parsed, by simp [he]⟩

/-! ### Rising logs -/

/-- Every entry names a later record. -/
def Bmc.Rising (bmc : Bmc) : Prop :=
  ∀ n id recordId next recordData, bmc.getSelEntry n id recordId = .entry (some next) recordData →
    recordId < next

/-- An entry that the loop gets is one that the BMC has given. -/
theorem entry_of_tries {recordId : RecordId} {next : Option RecordId} {recordData : Option (List Byte)}
    {retries : ℕ} {canceled : Bool} {v : Reservation}
    (h : (getSelEntryTries env recordId retries canceled v).2 = .entry next recordData) :
    ∃ n id, env.bmc.getSelEntry n id recordId = .entry next recordData := by
  induction retries generalizing canceled v with
  | zero =>
    unfold getSelEntryTries at h
    split at h
    · cases h
    · dsimp only at h
      split at h
      · split at h <;> cases h
      · cases h
      · cases h
      · rename_i hanswer
        cases h
        exact ⟨_, _, hanswer⟩
  | succ n ih =>
    unfold getSelEntryTries at h
    split at h
    · cases h
    · dsimp only at h
      split at h
      · split at h
        · cases h
        · exact ih h
      · cases h
      · cases h
      · rename_i hanswer
        cases h
        exact ⟨_, _, hanswer⟩

/-- The walk through such a log only goes upward. -/
theorem Bmc.Rising.visited_lt {w₀ : Walk} (hrising : env.bmc.Rising)
    (h : Loops.Reached (Walk.round env last) w₀ w) (h₀ : w₀.visited = []) :
    ∀ id ∈ w.visited, id < w.recordId := by
  refine h.invariant (fun w => ∀ id ∈ w.visited, id < w.recordId) (by simp [h₀]) ?_
  intro w w' _ hbelow hround
  obtain ⟨hvisited, hlast⟩ := round_visited hround
  have hup : w.recordId < w'.recordId := by
    unfold Walk.round at hround
    split at hround
    next hwithin =>
      rcases take_inl hround with ⟨-, -, rfl⟩ | ⟨next, recordData, entries, hgot, rfl⟩
      · exact lt_add_one hlast
      · obtain ⟨n, id, hanswer⟩ := entry_of_tries hgot
        exact hrising n id _ next _ hanswer
    next => cases hround
  rw [hvisited]
  exact List.forall_mem_cons.mpr ⟨hup, fun id hid => BitVec.lt_trans (hbelow id hid) hup⟩

theorem Bmc.Rising.namesNew (hrising : env.bmc.Rising) (hw : Walking env last w) : NamesNew env last w := by
  obtain ⟨w₀, henter, hreached⟩ := hw
  have hbelow := hrising.visited_lt hreached (enter_visited henter)
  intro _ next recordData hgot hmem
  obtain ⟨n, id, hanswer⟩ := entry_of_tries hgot
  have hnext := hrising n id _ next _ hanswer
  rcases List.mem_cons.mp hmem with rfl | hmem
  · exact BitVec.lt_irrefl _ hnext
  · exact BitVec.lt_irrefl _ (BitVec.lt_trans hnext (hbelow next hmem))

/-- A BMC whose entries are looked up in a function of the record. -/
def Bmc.ofEntries (entry : RecordId → Answer) : Bmc where
  getSelEntry := fun _ _ id => entry id
  reserveSel := fun _ => .granted 1

/-- The whole log of a BMC. -/
def wholeLog (bmc : Bmc) : Env where
  bmc := bmc
  registered := none
  recordIdStart := getRecordIdFirstEntry
  recordIdLast := getRecordIdLastEntry
  callback := fun _ _ => true

theorem getSelEntry_ofEntries {entry : RecordId → Answer} {id : RecordId} {next : Option RecordId}
    {recordData : Option (List Byte)} (h : entry id = .entry next recordData) (v : Reservation) :
    (getSelEntry (wholeLog (.ofEntries entry)) id v).2 = .entry next recordData := by
  rcases v with ⟨reservation, initialized, reserves, requests⟩
  cases initialized with
  | false => simp [getSelEntry, getSelEntryTries, Reservation.reserve, wholeLog, Bmc.ofEntries, h]
  | true => simp [getSelEntry, getSelEntryTries, Reservation.reserve, wholeLog, Bmc.ofEntries, h]

/-- A BMC of three entries, with the record ids 1, 2 and 5, whose first reservation is cancelled behind the
    first request. -/
def cancelling : Bmc where
  getSelEntry := fun n id recordId =>
    if id = 1 ∧ 1 ≤ n then .cancelled
    else if recordId = 0 then .entry (some 2) (some [1, 0, 2])
    else if recordId = 2 then .entry (some 5) (some [2, 0, 2])
    else if recordId = 5 then .entry (some getRecordIdLastEntry) (some [5, 0, 2])
    else .notPresent
  reserveSel := fun n => .granted (n + 1)

theorem cancelling_rising : cancelling.Rising := by
  intro n id recordId next recordData h
  simp only [cancelling] at h
  split_ifs at h with hcancelled h0 h2 h5
  · subst h0
    cases h
    decide
  · subst h2
    cases h
    decide
  · subst h5
    cases h
    decide

/-- All three are read, with one request more. -/
theorem parse_ends_sample : ∃ w e, enter (wholeLog cancelling) = .inl (w, getRecordIdLastEntry)
    ∧ Loops.run (Walk.round (wholeLog cancelling) getRecordIdLastEntry) 65536 w = some e
    ∧ e.parsed = .entries [[1, 0, 2], [2, 0, 2], [5, 0, 2]]
    ∧ e.walk.visited = [5, 2, 0] ∧ e.walk.visited.Nodup
    ∧ e.walk.reservation.requests = 4 ∧ 4 ≤ (reservationIdRetry + 1) * 3 := by
  have hnew (last : RecordId) (w : Walk) : Walking (wholeLog cancelling) last w → NamesNew _ last w :=
    Bmc.Rising.namesNew cancelling_rising
  obtain ⟨e, he, hnodup, hrequests⟩ := (parse_ends (wholeLog cancelling) hnew).2 _ _ rfl
  have hrun : Loops.run (Walk.round (wholeLog cancelling) getRecordIdLastEntry) 65536
      ⟨.none, 0, false, [], []⟩ = some ⟨⟨⟨2, true, 2, 4⟩, getRecordIdLastEntry, true,
        [[1, 0, 2], [2, 0, 2], [5, 0, 2]], [5, 2, 0]⟩, .entries [[1, 0, 2], [2, 0, 2], [5, 0, 2]]⟩ := by
    decide +kernel
  obtain rfl := Option.some.inj (he.symm.trans hrun)
  exact ⟨_, _, rfl, he, rfl, rfl, hnodup, rfl, by simpa [Reservation.none] using hrequests⟩

/-- A log whose entry names itself. -/
def selfLoop : Env := wholeLog (.ofEntries fun _ => .entry (some 1) (some [1, 0, 2]))

theorem selfLoop_round {w : Walk} (h : w.recordId = 0 ∨ w.recordId = 1) :
    ∃ w', w.round selfLoop getRecordIdLastEntry = .inl w' ∧ (w'.recordId = 0 ∨ w'.recordId = 1) := by
  have hwithin : w.within getRecordIdLastEntry = true := by
    rcases h with h | h <;> simp [Walk.within, h] <;> decide
  have hgot : (getSelEntry selfLoop w.recordId w.reservation).2 = .entry (some 1) (some [1, 0, 2]) :=
    getSelEntry_ofEntries rfl w.reservation
  unfold Walk.round
  rw [if_pos hwithin]
  generalize getSelEntry selfLoop w.recordId w.reservation = a at hgot
  obtain ⟨v, got⟩ := a
  obtain rfl : got = .entry (some 1) (some [1, 0, 2]) := hgot
  exact ⟨_, rfl, .inr rfl⟩

/-- It is read forever. -/
theorem endless : ¬ ∀ env, ∃ n parsed, ipmiSelParse env n = some parsed := by
  intro h
  obtain ⟨n, parsed, hparsed⟩ := h selfLoop
  have henter : enter selfLoop = .inl (⟨.none, 0, false, [], []⟩, getRecordIdLastEntry) := rfl
  rw [ipmiSelParse, henter] at hparsed
  obtain ⟨e, he, -⟩ := Option.map_eq_some_iff.mp hparsed
  exact Loops.not_ends (fun w => w.recordId = 0 ∨ w.recordId = 1) (fun w => selfLoop_round) (.inl rfl)
    ⟨n, e, he⟩

end FreeIpmi.Sel
