import FreeIpmi.Sel.Parse

/-! The range of records that `ipmi_sel_parse` keeps (`ipmi-sel.c`).

    A BMC presents a log as a chain of records with rising ids. Whatever reservations are cancelled on
    the way, the loop of `ipmi_sel_parse` goes up the ids to the first record of the range, and then
    along the chain to the last. It takes the keyword for the first record for a number, so the first
    record is kept even where it lies behind the last one that was asked for. -/

namespace FreeIpmi.Sel

/-- The record id of a record. -/
def idOf (record : List Byte) : RecordId := (recordHeaderId record).getD 0

/-- A log: records with rising ids, which are not the keywords. -/
structure Chain (chain : List (List Byte)) : Prop where
  long : ∀ record ∈ chain, recordHeaderLength ≤ record.length
  rising : chain.Pairwise fun a b => idOf a < idOf b
  notFirst : ∀ record ∈ chain, idOf record ≠ getRecordIdFirstEntry
  notLast : ∀ record ∈ chain, idOf record ≠ getRecordIdLastEntry

/-- The `next_record_id` that leads to the rest of a chain. -/
def headId : List (List Byte) → RecordId
  | [] => getRecordIdLastEntry
  | record :: _ => idOf record

/-- The chain from the record on that an id or a keyword stands for. -/
def chainFrom (chain : List (List Byte)) (recordId : RecordId) : List (List Byte) :=
  if recordId = getRecordIdFirstEntry then chain
  else if recordId = getRecordIdLastEntry then chain.drop (chain.length - 1)
  else chain.dropWhile fun record => decide (idOf record ≠ recordId)

/-- The answer with the first record of a chain. -/
def headAnswer : List (List Byte) → Answer
  | [] => .notPresent
  | record :: rest => .entry (some (headId rest)) (some record)

/-- A BMC with this log: a request gets the record it asks for, or the reservation has been cancelled,
    or there is another failure. -/
def Presents (bmc : Bmc) (chain : List (List Byte)) : Prop :=
  ∀ n reservation recordId, bmc.getSelEntry n reservation recordId = .cancelled
    ∨ bmc.getSelEntry n reservation recordId = .failed
    ∨ bmc.getSelEntry n reservation recordId = headAnswer (chainFrom chain recordId)

/-- A call in which nothing fails: the reservations are those of the call, at most
    `IPMI_SEL_RESERVATION_ID_RETRY` of them are cancelled in a row, and the callback takes all
    records. -/
structure Served (env : Env) : Prop where
  unregistered : env.registered = none
  reserves : ∀ n, env.bmc.reserveSel n ≠ .failed
  answers : ∀ n reservation recordId, env.bmc.getSelEntry n reservation recordId ≠ .failed
  retried : ∀ n, ∃ j ≤ reservationIdRetry, ∀ reservation recordId,
    env.bmc.getSelEntry (n + j) reservation recordId ≠ .cancelled
  accepts : ∀ entries record, env.callback entries record = true

/-! ### One request -/

/-- What `_get_sel_entry` leaves of the first record of a chain. -/
def headGot : List (List Byte) → Got
  | [] => .notPresent
  | record :: rest => .entry (some (headId rest)) (some record)

section Request
variable {env : Env} {chain : List (List Byte)} {recordId : RecordId}

/-- The answer, but for a cancelled reservation. -/
def Answer.got : Answer → Got
  | .cancelled => .failed
  | .notPresent => .notPresent
  | .failed => .failed
  | .entry next recordData => .entry next recordData

theorem got_headAnswer (chain : List (List Byte)) : (headAnswer chain).got = headGot chain := by
  cases chain with
  | nil => rfl
  | cons record rest => rfl

/-- One request of the loop, whose reservation is there. -/
theorem tries_granted {retries : ℕ} {canceled : Bool} {v v' : Reservation}
    (h : v.reserve env canceled = (v', true))
    (hanswer : env.bmc.getSelEntry v'.requests v'.id recordId ≠ .cancelled) :
    (getSelEntryTries env recordId retries canceled v).2
      = (env.bmc.getSelEntry v'.requests v'.id recordId).got := by
  rw [getSelEntryTries, h]
  cases hgot : env.bmc.getSelEntry v'.requests v'.id recordId with
  | cancelled => exact absurd hgot hanswer
  | notPresent => simp only [hgot, Answer.got]
  | failed => simp only [hgot, Answer.got]
  | entry next recordData => simp only [hgot, Answer.got]

/-- A lost reservation makes a request fail or changes nothing. -/
theorem tries_got (h : Presents env.bmc chain) (retries : ℕ) (canceled : Bool) (v : Reservation) :
    (getSelEntryTries env recordId retries canceled v).2 = .failed
      ∨ (getSelEntryTries env recordId retries canceled v).2 = headGot (chainFrom chain recordId) := by
  induction retries generalizing canceled v with
  | zero =>
    rcases hreserve : v.reserve env canceled with ⟨v', - | -⟩
    · rw [getSelEntryTries, hreserve]
      exact Or.inl rfl
    · by_cases hcancelled : env.bmc.getSelEntry v'.requests v'.id recordId = .cancelled
      · rw [getSelEntryTries, hreserve]
        simp only [hcancelled]
        split <;> simp
      · rw [tries_granted hreserve hcancelled, ← got_headAnswer]
        rcases (h v'.requests v'.id recordId).resolve_left hcancelled with hanswer | hanswer
        · exact Or.inl (by rw [hanswer]; rfl)
        · exact Or.inr (by rw [hanswer])
  | succ n ih =>
    rcases hreserve : v.reserve env canceled with ⟨v', - | -⟩
    · rw [getSelEntryTries, hreserve]
      exact Or.inl rfl
    · by_cases hcancelled : env.bmc.getSelEntry v'.requests v'.id recordId = .cancelled
      · rw [getSelEntryTries, hreserve]
        simp only [hcancelled]
        split
        · simp
        · exact ih true _
      · rw [tries_granted hreserve hcancelled, ← got_headAnswer]
        rcases (h v'.requests v'.id recordId).resolve_left hcancelled with hanswer | hanswer
        · exact Or.inl (by rw [hanswer]; rfl)
        · exact Or.inr (by rw [hanswer])

theorem reserve_granted (h : Served env) (v : Reservation) (canceled : Bool) :
    ∃ v', v.reserve env canceled = (v', true) ∧ v'.requests = v.requests := by
  have hrequests := reserve_requests env v canceled
  have hgranted : (v.reserve env canceled).2 = true := by
    rw [Reservation.reserve]
    split
    · rfl
    · rw [h.unregistered]
      have hreserve := h.reserves v.reserves
      dsimp only
      split
      · rfl
      · rfl
      · rename_i hasked
        exact absurd hasked hreserve
  exact ⟨_, Prod.ext rfl hgranted, hrequests⟩

theorem got_ne_failed {answer : Answer} (hcancelled : answer ≠ .cancelled) (hfailed : answer ≠ .failed) :
    answer.got ≠ .failed := by
  cases answer <;> simp_all [Answer.got]

/-- A request succeeds that may be retried often enough. -/
theorem tries_served (h : Served env) (retries : ℕ) (canceled : Bool) (v : Reservation)
    (hcalm : ∃ j ≤ retries, ∀ reservation recordId,
      env.bmc.getSelEntry (v.requests + j) reservation recordId ≠ .cancelled) :
    (getSelEntryTries env recordId retries canceled v).2 ≠ .failed := by
  obtain ⟨j, hj, hcalm⟩ := hcalm
  induction j generalizing retries canceled v with
  | zero =>
    obtain ⟨v', hreserve, hrequests⟩ := reserve_granted h v canceled
    have hcancelled := hcalm v'.id recordId
    rw [Nat.add_zero, ← hrequests] at hcancelled
    rw [tries_granted hreserve hcancelled]
    exact got_ne_failed hcancelled (h.answers _ _ _)
  | succ j ih =>
    obtain ⟨v', hreserve, hrequests⟩ := reserve_granted h v canceled
    obtain ⟨n, rfl⟩ : ∃ n, retries = n + 1 := ⟨retries - 1, by omega⟩
    by_cases hcancelled : env.bmc.getSelEntry v'.requests v'.id recordId = .cancelled
    · rw [getSelEntryTries, hreserve]
      simp only [hcancelled, h.unregistered, Option.isSome_none, Bool.false_eq_true, if_false]
      refine ih n true _ (Nat.le_of_succ_le_succ hj) fun reservation recordId => ?_
      rw [hrequests, show v.requests + 1 + j = v.requests + (j + 1) by omega]
      exact hcalm reservation recordId
    · rw [tries_granted hreserve hcancelled]
      exact got_ne_failed hcancelled (h.answers _ _ _)

theorem getSelEntry_got (h : Presents env.bmc chain) (recordId : RecordId) (v : Reservation) :
    (getSelEntry env recordId v).2 = .failed
      ∨ (getSelEntry env recordId v).2 = headGot (chainFrom chain recordId) :=
  tries_got h _ _ _

theorem getSelEntry_served (h : Served env) (recordId : RecordId) (v : Reservation) :
    (getSelEntry env recordId v).2 ≠ .failed :=
  tries_served h _ _ _ (h.retried v.requests)

end Request

/-! ### Places in the chain -/

section Places
variable {chain rest : List (List Byte)} {record : List Byte} {recordId last : RecordId}

theorem chainFrom_id (hfirst : recordId ≠ getRecordIdFirstEntry) (hlast : recordId ≠ getRecordIdLastEntry) :
    chainFrom chain recordId = chain.dropWhile fun record => decide (idOf record ≠ recordId) := by
  rw [chainFrom, if_neg hfirst, if_neg hlast]

/-- What lies before a record of the chain, and behind it. -/
theorem Chain.split {before : List (List Byte)} (h : Chain (before ++ record :: rest)) :
    (∀ a ∈ before, idOf a < idOf record) ∧ ∀ b ∈ rest, idOf record < idOf b := by
  obtain ⟨-, hrest, hbefore⟩ := List.pairwise_append.mp h.rising
  exact ⟨fun a ha => hbefore a ha record (List.mem_cons_self ..), (List.pairwise_cons.mp hrest).1⟩

/-- The id of a record leads to it. -/
theorem Chain.chainFrom_suffix (h : Chain chain) (hrest : record :: rest <:+ chain) :
    chainFrom chain (idOf record) = record :: rest := by
  have hmem := hrest.subset (List.mem_cons_self ..)
  rw [chainFrom_id (h.notFirst _ hmem) (h.notLast _ hmem)]
  obtain ⟨before, rfl⟩ := hrest
  have hbefore : ∀ a ∈ before, decide (idOf a ≠ idOf record) = true := by
    intro a ha
    exact decide_eq_true (BitVec.ne_of_lt (h.split.1 a ha))
  rw [List.dropWhile_append_of_pos hbefore, List.dropWhile_cons_of_neg (by simp)]

/-- An id leads to its record, or to none. -/
theorem chainFrom_cases (chain : List (List Byte)) (hfirst : recordId ≠ getRecordIdFirstEntry)
    (hlast : recordId ≠ getRecordIdLastEntry) :
    (chainFrom chain recordId = [] ∧ ∀ record ∈ chain, idOf record ≠ recordId)
      ∨ ∃ record rest, chainFrom chain recordId = record :: rest ∧ record :: rest <:+ chain
        ∧ idOf record = recordId := by
  rw [chainFrom_id hfirst hlast]
  have hsuffix := List.dropWhile_suffix (l := chain) fun record => decide (idOf record ≠ recordId)
  cases hdrop : chain.dropWhile fun record => decide (idOf record ≠ recordId) with
  | nil =>
    refine Or.inl ⟨rfl, fun record hrecord => ?_⟩
    exact of_decide_eq_true (List.dropWhile_eq_nil_iff.mp hdrop record hrecord)
  | cons record rest =>
    have hhead := List.head?_dropWhile_not (fun record => decide (idOf record ≠ recordId)) chain
    rw [hdrop] at hsuffix hhead
    exact Or.inr ⟨record, rest, rfl, hsuffix, by simpa using hhead⟩

/-- Along the chain the ids rise. -/
theorem Chain.headId_lt (h : Chain chain) (hrest : record :: rest <:+ chain) :
    idOf record < headId rest := by
  have hlast := h.notLast record (hrest.subset (List.mem_cons_self ..))
  obtain ⟨before, rfl⟩ := hrest
  cases rest with
  | nil =>
    rw [headId]
    simp only [getRecordIdLastEntry] at hlast ⊢
    bv_omega
  | cons next rest => exact h.split.2 next (List.mem_cons_self ..)

/-- The records up to an id. -/
def upTo (last : RecordId) (records : List (List Byte)) : List (List Byte) :=
  records.filter fun record => decide (idOf record ≤ last)

theorem Chain.upTo_nil (h : Chain chain) (hrest : rest <:+ chain)
    (hend : ¬ (headId rest ≤ last ∧ headId rest ≠ getRecordIdLastEntry)) : upTo last rest = [] := by
  cases rest with
  | nil => rfl
  | cons record rest =>
    have hlast := h.notLast record (hrest.subset (List.mem_cons_self ..))
    have hbeyond : ¬ idOf record ≤ last := fun hle => hend ⟨hle, hlast⟩
    obtain ⟨before, rfl⟩ := hrest
    rw [upTo, List.filter_eq_nil_iff]
    intro a ha hle
    have hale := of_decide_eq_true hle
    rcases List.mem_cons.mp ha with rfl | ha
    · exact hbeyond hale
    · exact hbeyond (BitVec.le_trans (BitVec.le_of_lt (h.split.2 a ha)) hale)

end Places

/-! ### The loop -/

/-- What the loop keeps, which takes the keyword for the first record for a number. -/
def walked (chain : List (List Byte)) (start last : RecordId) : List (List Byte) :=
  if start = getRecordIdFirstEntry then chain.take 1 ++ upTo last (chain.drop 1)
  else chain.filter fun record => decide (start ≤ idOf record ∧ idOf record ≤ last)

/-- The records that a response hands to the callback. -/
def Got.handed : Got → List (List Byte)
  | .entry (some _) (some recordData) => [recordData]
  | _ => []

/-- The records that a round of the loop hands to it. -/
def Walk.handed (env : Env) (last : RecordId) (w : Walk) : List (List Byte) :=
  if w.within last then (getSelEntry env w.recordId w.reservation).2.handed else []

/-- Where the loop is: at the first record by its keyword, on the search for the first record of the
    range, or along the chain. -/
inductive OnTheWay (chain : List (List Byte)) (start last : RecordId) (w : Walk) : Prop where
  | begin (hstart : start = getRecordIdFirstEntry) (hid : w.recordId = getRecordIdFirstEntry)
      (hentries : w.entries = [])
  | search (hstart : start ≠ getRecordIdFirstEntry) (hparsed : w.parsedAtleastOneEntry = false)
      (hentries : w.entries = []) (hlow : start ≤ w.recordId)
      (hid : ∀ record ∈ chain, start ≤ idOf record → w.recordId ≤ idOf record)
  | along (rest : List (List Byte)) (hrest : rest <:+ chain) (hid : w.recordId = headId rest)
      (hkept : walked chain start last = w.entries ++ upTo last rest)

/-- How a round from here goes on, or ends the loop. -/
structure GoesOn (env : Env) (chain : List (List Byte)) (last : RecordId) (w w' : Walk) : Prop where
  way : OnTheWay chain env.recordIdStart last w'
  up : w.recordId < w'.recordId
  handed : w'.entries = w.entries ++ w.handed env last

/-- What a round leads to: the loop goes on, or it ends because something failed, or with all that it
    keeps. -/
def RoundWay (env : Env) (chain : List (List Byte)) (last : RecordId) (w : Walk) : Walk ⊕ Ended → Prop
  | .inl w' => GoesOn env chain last w w'
  | .inr e => e.parsed = .failed ∧ ¬ Served env
    ∨ e.parsed = .entries w.entries ∧ w.entries = walked chain env.recordIdStart last
      ∧ w.handed env last = []

section Rounds
variable {env : Env} {chain rest : List (List Byte)} {record : List Byte} {last : RecordId} {w : Walk}

/-- A record is handed to the callback, and the loop goes on behind it. -/
theorem take_entry (env : Env) (w : Walk) (record : List Byte) (next : RecordId) :
    w.take env (.entry (some next) (some record)) = .inl { w with
        recordId := next, parsedAtleastOneEntry := true, entries := w.entries ++ [record] }
      ∨ w.take env (.entry (some next) (some record)) = .inr ⟨w, .failed⟩ ∧ ¬ Served env := by
  by_cases hcallback : env.callback w.entries record = true
  · left
    simp only [Walk.take, appendEntry, hcallback, if_true]
  · right
    simp only [Walk.take, appendEntry, hcallback, Bool.false_eq_true, if_false, true_and]
    exact fun hserved => hcallback (hserved.accepts _ _)

/-- A round inside the range, for the response to its request. -/
theorem round_within {got : Got} (hwithin : w.within last = true)
    (hgot : (getSelEntry env w.recordId w.reservation).2 = got) :
    ∃ reservation visited,
      w.round env last = { w with reservation := reservation, visited := visited }.take env got := by
  rw [Walk.round, if_pos hwithin]
  exact ⟨_, _, by rw [← hgot]⟩

theorem handed_within {got : Got} (hwithin : w.within last = true)
    (hgot : (getSelEntry env w.recordId w.reservation).2 = got) : w.handed env last = got.handed := by
  rw [Walk.handed, if_pos hwithin, hgot]

/-- A round that gets the next record of the range. -/
theorem round_record (hc : Chain chain) (hwithin : w.within last = true)
    (hgot : (getSelEntry env w.recordId w.reservation).2 = headGot (record :: rest))
    (hrest : record :: rest <:+ chain) (hle : w.recordId ≤ idOf record)
    (hkept : walked chain env.recordIdStart last = w.entries ++ record :: upTo last rest) :
    RoundWay env chain last w (w.round env last) := by
  obtain ⟨reservation, visited, hround⟩ := round_within hwithin hgot
  have hhanded := handed_within hwithin hgot
  rw [hround, headGot]
  rcases take_entry env { w with reservation := reservation, visited := visited } record (headId rest)
    with htake | ⟨htake, hserved⟩
  · rw [htake]
    refine ⟨?_, ?_, ?_⟩
    · refine .along rest ((List.suffix_cons _ _).trans hrest) rfl ?_
      rw [hkept, List.append_assoc]
      rfl
    · have hlt := hc.headId_lt hrest
      dsimp only
      bv_omega
    · rw [hhanded]
      rfl
  · rw [htake]
    exact Or.inl ⟨rfl, hserved⟩

/-- From the first record of the range on, the loop keeps the rest of it. -/
theorem walked_from (hc : Chain chain) {start : RecordId} (hstart : start ≠ getRecordIdFirstEntry)
    (hrest : record :: rest <:+ chain) (hlow : start ≤ idOf record) (hlast : idOf record ≤ last)
    (hbefore : ∀ a ∈ chain, start ≤ idOf a → idOf record ≤ idOf a) :
    walked chain start last = record :: upTo last rest := by
  obtain ⟨before, rfl⟩ := hrest
  have hnone : ∀ a ∈ before, ¬ decide (start ≤ idOf a ∧ idOf a ≤ last) = true := by
    intro a ha hkept
    have hle := hbefore a (List.mem_append_left _ ha) (of_decide_eq_true hkept).1
    exact absurd (hc.split.1 a ha) (BitVec.not_lt.mpr hle)
  have htail : rest.filter (fun b => decide (start ≤ idOf b ∧ idOf b ≤ last)) = upTo last rest := by
    refine List.filter_congr fun b hb => ?_
    have hle : start ≤ idOf b := BitVec.le_trans hlow (BitVec.le_of_lt (hc.split.2 b hb))
    simp [hle]
  rw [walked, if_neg hstart, List.filter_append, List.filter_eq_nil_iff.mpr hnone, List.nil_append,
    List.filter_cons_of_pos (by simp [hlow, hlast]), htail]

/-- A request that has failed. -/
theorem round_failed (hwithin : w.within last = true)
    (hgot : (getSelEntry env w.recordId w.reservation).2 = .failed) :
    RoundWay env chain last w (w.round env last) := by
  obtain ⟨reservation, visited, hround⟩ := round_within hwithin hgot
  rw [hround]
  exact Or.inl ⟨rfl, fun hserved => getSelEntry_served hserved _ _ hgot⟩

/-- The end of the range. -/
theorem round_beyond (hwithin : w.within last ≠ true)
    (hkept : w.entries = walked chain env.recordIdStart last) :
    RoundWay env chain last w (w.round env last) := by
  rw [Walk.round, if_neg hwithin]
  exact Or.inr ⟨rfl, hkept, if_neg hwithin⟩

theorem round_begin (hc : Chain chain) (hp : Presents env.bmc chain)
    (hstart : env.recordIdStart = getRecordIdFirstEntry) (hid : w.recordId = getRecordIdFirstEntry)
    (hentries : w.entries = []) : RoundWay env chain last w (w.round env last) := by
  have hwithin : w.within last = true := by
    rw [Walk.within, hid]
    exact decide_eq_true ⟨Nat.zero_le last.toNat, by decide⟩
  rcases getSelEntry_got hp w.recordId w.reservation with hgot | hgot
  · exact round_failed hwithin hgot
  · rw [chainFrom, if_pos hid] at hgot
    cases chain with
    | nil =>
      obtain ⟨reservation, visited, hround⟩ := round_within hwithin hgot
      rw [hround, headGot, Walk.take, if_pos hid]
      refine Or.inr ⟨rfl, ?_, handed_within hwithin hgot⟩
      rw [hentries, walked, if_pos hstart]
      rfl
    | cons record rest =>
      have hle : w.recordId ≤ idOf record := by
        rw [hid]
        exact Nat.zero_le _
      refine round_record hc hwithin hgot List.suffix_rfl hle ?_
      rw [hentries, walked, if_pos hstart]
      rfl

theorem round_search (hc : Chain chain) (hp : Presents env.bmc chain)
    (hstart : env.recordIdStart ≠ getRecordIdFirstEntry) (hparsed : w.parsedAtleastOneEntry = false)
    (hentries : w.entries = []) (hlow : env.recordIdStart ≤ w.recordId)
    (hid : ∀ record ∈ chain, env.recordIdStart ≤ idOf record → w.recordId ≤ idOf record) :
    RoundWay env chain last w (w.round env last) := by
  by_cases hwithin : w.within last = true
  · have hbounds : w.recordId ≤ last ∧ w.recordId ≠ getRecordIdLastEntry := of_decide_eq_true hwithin
    have hfirst : w.recordId ≠ getRecordIdFirstEntry := by
      simp only [getRecordIdFirstEntry] at hstart ⊢
      bv_omega
    rcases getSelEntry_got hp w.recordId w.reservation with hgot | hgot
    · exact round_failed hwithin hgot
    · rcases chainFrom_cases chain hfirst hbounds.2 with
        ⟨hnone, hother⟩ | ⟨record, rest, hsome, hrest, hrecord⟩
      · rw [hnone] at hgot
        obtain ⟨reservation, visited, hround⟩ := round_within hwithin hgot
        have hgo : env.recordIdStart ≠ getRecordIdFirstEntry ∧ (!w.parsedAtleastOneEntry) = true :=
          ⟨hstart, by rw [hparsed]; rfl⟩
        have hup := lt_add_one hbounds.2
        rw [hround, headGot, Walk.take, if_neg hfirst, if_pos hgo]
        refine ⟨.search hstart hparsed hentries (BitVec.le_trans hlow (BitVec.le_of_lt hup)) ?_, hup, ?_⟩
        · intro record hrecord hle
          have hge := hid record hrecord hle
          have hne := hother record hrecord
          simp only [getRecordIdLastEntry] at hbounds
          bv_omega
        · rw [handed_within hwithin hgot]
          exact (List.append_nil _).symm
      · rw [hsome] at hgot
        rw [← hrecord] at hlow hbounds hid
        refine round_record hc hwithin hgot hrest (hrecord ▸ BitVec.le_refl _) ?_
        rw [hentries, walked_from hc hstart hrest hlow hbounds.1 hid]
        rfl
  · refine round_beyond hwithin ?_
    rw [hentries, walked, if_neg hstart, eq_comm, List.filter_eq_nil_iff]
    intro record hrecord hkept
    obtain ⟨hle, hlast⟩ := of_decide_eq_true hkept
    have hge := hid record hrecord hle
    have hne := hc.notLast record hrecord
    refine hwithin (decide_eq_true ⟨BitVec.le_trans hge hlast, ?_⟩)
    simp only [getRecordIdLastEntry] at hne ⊢
    bv_omega

theorem round_along (hc : Chain chain) (hp : Presents env.bmc chain) (hrest : rest <:+ chain)
    (hid : w.recordId = headId rest)
    (hkept : walked chain env.recordIdStart last = w.entries ++ upTo last rest) :
    RoundWay env chain last w (w.round env last) := by
  by_cases hwithin : w.within last = true
  · have hbounds : w.recordId ≤ last ∧ w.recordId ≠ getRecordIdLastEntry := of_decide_eq_true hwithin
    cases rest with
    | nil => exact absurd hid hbounds.2
    | cons record rest =>
      rcases getSelEntry_got hp w.recordId w.reservation with hgot | hgot
      · exact round_failed hwithin hgot
      · rw [hid, headId] at hbounds
        rw [show chainFrom chain w.recordId = record :: rest from
          hid ▸ hc.chainFrom_suffix hrest] at hgot
        refine round_record hc hwithin hgot hrest (hid ▸ BitVec.le_refl _) ?_
        rw [hkept, upTo, List.filter_cons_of_pos (by simpa using hbounds.1)]
        rfl
  · refine round_beyond hwithin ?_
    rw [hkept, hc.upTo_nil hrest, List.append_nil]
    rw [← hid]
    exact fun hbounds => hwithin (decide_eq_true hbounds)

/-- One round of the loop, wherever it is. -/
theorem round_way (hc : Chain chain) (hp : Presents env.bmc chain)
    (h : OnTheWay chain env.recordIdStart last w) : RoundWay env chain last w (w.round env last) := by
  cases h with
  | begin hstart hid hentries => exact round_begin hc hp hstart hid hentries
  | search hstart hparsed hentries hlow hid => exact round_search hc hp hstart hparsed hentries hlow hid
  | along rest hrest hid hkept => exact round_along hc hp hrest hid hkept

end Rounds

/-! ### The call -/

/-- The records that the loop hands to the callback. -/
def loopCalls (env : Env) (last : RecordId) : ℕ → Walk → List (List Byte)
  | 0, _ => []
  | n + 1, w => w.handed env last ++
    match w.round env last with
    | .inl w' => loopCalls env last n w'
    | .inr _ => []

/-- The records that a call hands to the callback, in their order. -/
def callbackCalls (env : Env) (rounds : ℕ) : List (List Byte) :=
  if env.recordIdStart > env.recordIdLast then []
  else
    match lastRecord env .none with
    | (_, .inr _) => []
    | (v, .inl last) =>
      if env.recordIdStart = getRecordIdLastEntry then
        match (getSelEntry env getRecordIdLastEntry v).2 with
        | .entry _ (some recordData) => [recordData]
        | _ => []
      else loopCalls env last rounds ⟨v, env.recordIdStart, false, [], []⟩

/-- What a call keeps of the log. -/
def keptRecords (chain : List (List Byte)) (start last : RecordId) : List (List Byte) :=
  if start = getRecordIdLastEntry then chain.drop (chain.length - 1) else walked chain start last

section Call
variable {env : Env} {chain : List (List Byte)} {last : RecordId} {w : Walk}

/-- A run of the loop that succeeds has kept the range, each record after a call of the callback. -/
theorem loop_kept (hc : Chain chain) (hp : Presents env.bmc chain) {n : ℕ} {e : Ended}
    {es : List (List Byte)} (h : OnTheWay chain env.recordIdStart last w)
    (hrun : Loops.run (Walk.round env last) n w = some e) (hes : e.parsed = .entries es) :
    es = walked chain env.recordIdStart last ∧ w.entries ++ loopCalls env last n w = es := by
  induction n generalizing w with
  | zero => cases hrun
  | succ n ih =>
    have hway := round_way hc hp h
    cases hround : w.round env last with
    | inl w' =>
      rw [hround] at hway
      rw [Loops.run_inl hround] at hrun
      obtain ⟨hwalked, hcalls⟩ := ih hway.way hrun
      refine ⟨hwalked, ?_⟩
      rw [loopCalls, hround, ← List.append_assoc, ← hway.handed]
      exact hcalls
    | inr e' =>
      rw [hround] at hway
      rw [Loops.run_inr hround] at hrun
      cases hrun
      rcases hway with ⟨hfailed, -⟩ | ⟨hparsed, hwalked, hhanded⟩
      · rw [hfailed] at hes
        cases hes
      · rw [hparsed] at hes
        cases hes
        refine ⟨hwalked, ?_⟩
        rw [loopCalls, hround, hhanded]
        simp

/-- The loop ends, since the ids it asks for rise. -/
theorem loop_stops (hc : Chain chain) (hp : Presents env.bmc chain)
    (h : OnTheWay chain env.recordIdStart last w) :
    ∃ e, Loops.run (Walk.round env last) 65537 w = some e
      ∧ (Served env → ∃ es, e.parsed = .entries es) := by
  refine Loops.run_of_measure (OnTheWay chain env.recordIdStart last)
    (fun w => 65536 - w.recordId.toNat) ?_ ?_ h (by omega)
  · intro w w' hon hround
    have hway := round_way hc hp hon
    rw [hround] at hway
    have hup : w.recordId.toNat < w'.recordId.toNat := hway.up
    have hmax := w'.recordId.isLt
    exact ⟨hway.way, by omega⟩
  · intro w e hon hround hserved
    have hway := round_way hc hp hon
    rw [hround] at hway
    rcases hway with ⟨-, hnot⟩ | ⟨hparsed, -⟩
    · exact absurd hserved hnot
    · exact ⟨_, hparsed⟩

/-- The last record of a chain, which the keyword leads to. -/
theorem chainFrom_last (chain : List (List Byte)) :
    chainFrom chain getRecordIdLastEntry = chain.drop (chain.length - 1) := by
  rw [chainFrom, if_neg (by decide), if_pos rfl]

theorem Chain.drop_last (h : Chain chain) : (chain = [] ∧ chain.drop (chain.length - 1) = [])
    ∨ ∃ record ∈ chain, chain.drop (chain.length - 1) = [record]
      ∧ ∀ a ∈ chain, idOf a ≤ idOf record := by
  rcases List.eq_nil_or_concat chain with rfl | ⟨before, record, rfl⟩
  · exact Or.inl ⟨rfl, rfl⟩
  · rw [List.concat_eq_append] at h ⊢
    refine Or.inr ⟨record, by simp, by simp, fun a ha => ?_⟩
    rcases List.mem_append.mp ha with ha | ha
    · exact BitVec.le_of_lt (h.split.1 a ha)
    · rw [List.mem_singleton.mp ha]
      exact BitVec.le_refl _

theorem Chain.recordHeaderId (h : Chain chain) {record : List Byte} (hrecord : record ∈ chain) :
    Sel.recordHeaderId record = some (idOf record) := by
  have hlong := h.long record hrecord
  rw [idOf, Sel.recordHeaderId, if_neg (by omega)]
  rfl

/-- The last record of the range is not beyond the last one of the log. -/
theorem lastRecord_way (hc : Chain chain) (hp : Presents env.bmc chain) (v : Reservation) :
    ((lastRecord env v).2 = .inr .failed ∧ ¬ Served env)
      ∨ ((lastRecord env v).2 = .inr (.entries []) ∧ chain = []
        ∧ env.recordIdLast ≠ getRecordIdLastEntry)
      ∨ ∃ last, (lastRecord env v).2 = .inl last
        ∧ ∀ a ∈ chain, idOf a ≤ last ↔ idOf a ≤ env.recordIdLast := by
  rw [lastRecord]
  split
  · exact Or.inr (Or.inr ⟨_, rfl, fun _ _ => Iff.rfl⟩)
  · rename_i hlast
    have hgot := getSelEntry_got hp getRecordIdLastEntry v
    have hserved : Served env → (getSelEntry env getRecordIdLastEntry v).2 ≠ .failed :=
      fun h => getSelEntry_served h _ _
    generalize getSelEntry env getRecordIdLastEntry v = a at hgot hserved
    obtain ⟨v', got⟩ := a
    dsimp only at hgot hserved
    rw [chainFrom_last] at hgot
    rcases hgot with rfl | rfl
    · exact Or.inl ⟨rfl, fun h => hserved h rfl⟩
    · rcases hc.drop_last with ⟨hempty, hdrop⟩ | ⟨record, hrecord, hdrop, hmax⟩
      · rw [hdrop]
        exact Or.inr (Or.inl ⟨rfl, hempty, hlast⟩)
      · rw [hdrop]
        simp only [headGot, Option.bind_some, hc.recordHeaderId hrecord]
        refine Or.inr (Or.inr ⟨_, rfl, fun a ha => ?_⟩)
        have hle := hmax a ha
        split
        · rename_i hbeyond
          exact ⟨fun h => BitVec.le_trans h (BitVec.le_of_lt hbeyond), fun _ => hle⟩
        · exact Iff.rfl

theorem walked_congr (start : RecordId) {last last' : RecordId}
    (h : ∀ a ∈ chain, idOf a ≤ last ↔ idOf a ≤ last') :
    walked chain start last = walked chain start last' := by
  rw [walked, walked]
  split
  · congr 1
    refine List.filter_congr fun a ha => ?_
    rw [decide_eq_decide]
    exact h a (List.mem_of_mem_drop ha)
  · refine List.filter_congr fun a ha => ?_
    rw [decide_eq_decide, h a ha]

/-- The loop begins at the first record, or with the search for it. -/
theorem OnTheWay.start (env : Env) (chain : List (List Byte)) (last : RecordId) (v : Reservation) :
    OnTheWay chain env.recordIdStart last ⟨v, env.recordIdStart, false, [], []⟩ := by
  by_cases hstart : env.recordIdStart = getRecordIdFirstEntry
  · exact .begin hstart hstart rfl
  · exact .search hstart rfl rfl (BitVec.le_refl _) fun _ _ h => h

/-- The last record alone. -/
theorem onlyLast_way (hp : Presents env.bmc chain) (v : Reservation) :
    (onlyLast env v = .failed ∧ ¬ Served env) ∨ (onlyLast env v = .entries (chain.drop (chain.length - 1))
      ∧ (match (getSelEntry env getRecordIdLastEntry v).2 with
        | .entry _ (some recordData) => [recordData]
        | _ => []) = chain.drop (chain.length - 1)) := by
  rw [onlyLast]
  rcases getSelEntry_got hp getRecordIdLastEntry v with hgot | hgot
  · have hserved : ¬ Served env := fun h => getSelEntry_served h _ _ hgot
    rw [hgot]
    exact Or.inl ⟨rfl, hserved⟩
  · rw [chainFrom_last] at hgot
    rcases hdrop : chain.drop (chain.length - 1) with - | ⟨record, rest⟩
    · rw [hdrop] at hgot
      rw [hgot]
      exact Or.inr ⟨rfl, rfl⟩
    · have hrest : rest = [] := by
        have hlength := congrArg List.length hdrop
        rw [List.length_drop, List.length_cons] at hlength
        exact List.eq_nil_of_length_eq_zero (by omega)
      rw [hdrop, hrest] at hgot
      rw [hgot, hrest]
      by_cases hcallback : env.callback [] record = true
      · right
        simp [headGot, appendEntry, hcallback]
      · left
        refine ⟨by simp [headGot, appendEntry, hcallback], fun hserved => hcallback (hserved.accepts _ _)⟩

/-- How a call begins: it has the result, or the loop is on the way to it. -/
def EnterWay (env : Env) (chain : List (List Byte)) : (Walk × RecordId) ⊕ Parsed → Prop
  | .inl (w, last) => OnTheWay chain env.recordIdStart last w ∧ w.entries = []
    ∧ walked chain env.recordIdStart last = keptRecords chain env.recordIdStart env.recordIdLast
    ∧ ∀ rounds, callbackCalls env rounds = loopCalls env last rounds w
  | .inr parsed => parsed = .failed ∧ ¬ Served env
    ∨ parsed = .entries (keptRecords chain env.recordIdStart env.recordIdLast)
      ∧ ∀ rounds, callbackCalls env rounds = keptRecords chain env.recordIdStart env.recordIdLast

theorem enter_way (hc : Chain chain) (hp : Presents env.bmc chain)
    (hle : env.recordIdStart ≤ env.recordIdLast) : EnterWay env chain (enter env) := by
  have hle' : ¬ env.recordIdStart > env.recordIdLast := BitVec.not_lt.mpr hle
  have hlast := lastRecord_way hc hp .none
  have hcalls : ∀ rounds, callbackCalls env rounds = _ := fun rounds => if_neg hle'
  rw [enter, if_neg hle']
  generalize lastRecord env .none = a at hlast hcalls ⊢
  obtain ⟨v, (last | parsed)⟩ := a
  · obtain ⟨last', hlast', hsame⟩ : ∃ last', (Sum.inl last : RecordId ⊕ Parsed) = .inl last' ∧
        ∀ a ∈ chain, idOf a ≤ last' ↔ idOf a ≤ env.recordIdLast := by simpa using hlast
    cases hlast'
    dsimp only at hcalls ⊢
    by_cases hstart : env.recordIdStart = getRecordIdLastEntry
    · simp only [if_pos hstart] at hcalls ⊢
      rw [EnterWay, keptRecords, if_pos hstart]
      rcases onlyLast_way hp v with hfailed | ⟨hentries, hhanded⟩
      · exact Or.inl hfailed
      · exact Or.inr ⟨hentries, fun rounds => (hcalls rounds).trans hhanded⟩
    · simp only [if_neg hstart] at hcalls ⊢
      refine ⟨OnTheWay.start env chain last v, rfl, ?_, hcalls⟩
      rw [keptRecords, if_neg hstart, walked_congr _ hsame]
  · dsimp only at hcalls ⊢
    rcases hlast with ⟨hfailed, hserved⟩ | ⟨hempty, hchain, hlast⟩ | ⟨last', hlast', -⟩
    · cases hfailed
      exact Or.inl ⟨rfl, hserved⟩
    · cases hempty
      have hkept : keptRecords chain env.recordIdStart env.recordIdLast = [] := by
        rw [hchain, keptRecords, walked]
        simp [upTo]
      rw [EnterWay, hkept]
      exact Or.inr ⟨rfl, hcalls⟩
    · cases hlast'

/-- A call that succeeds keeps these records, and the callback has got each of them once. -/
theorem parse_kept (hc : Chain chain) (hp : Presents env.bmc chain) {rounds : ℕ} {es : List (List Byte)}
    (hle : env.recordIdStart ≤ env.recordIdLast)
    (h : ipmiSelParse env rounds = some (.entries es)) :
    es = keptRecords chain env.recordIdStart env.recordIdLast ∧ callbackCalls env rounds = es := by
  have hway := enter_way hc hp hle
  rw [ipmiSelParse] at h
  cases henter : enter env with
  | inr parsed =>
    rw [henter] at h hway
    cases h
    rcases hway with ⟨hfailed, -⟩ | ⟨hentries, hcalls⟩
    · cases hfailed
    · cases hentries
      exact ⟨rfl, hcalls rounds⟩
  | inl a =>
    obtain ⟨w, last⟩ := a
    rw [henter] at h hway
    obtain ⟨hon, hempty, hkept, hcalls⟩ := hway
    obtain ⟨e, hrun, hparsed⟩ := Option.map_eq_some_iff.mp h
    obtain ⟨hwalked, hloop⟩ := loop_kept hc hp hon hrun hparsed
    rw [hempty, List.nil_append, ← hcalls] at hloop
    exact ⟨hwalked.trans hkept, hloop⟩

/-- Every call ends, and succeeds when nothing fails. -/
theorem parse_stops (hc : Chain chain) (hp : Presents env.bmc chain)
    (hle : env.recordIdStart ≤ env.recordIdLast) :
    ∃ parsed, ipmiSelParse env 65537 = some parsed ∧ (Served env → ∃ es, parsed = .entries es) := by
  have hway := enter_way hc hp hle
  rw [ipmiSelParse]
  cases henter : enter env with
  | inr parsed =>
    rw [henter] at hway
    refine ⟨parsed, rfl, fun hserved => ?_⟩
    rcases hway with ⟨-, hnot⟩ | ⟨hentries, -⟩
    · exact absurd hserved hnot
    · exact ⟨_, hentries⟩
  | inl a =>
    obtain ⟨w, last⟩ := a
    rw [henter] at hway
    obtain ⟨e, hrun, hserved⟩ := loop_stops hc hp hway.1
    exact ⟨e.parsed, by simp only [hrun, Option.map_some], hserved⟩

end Call

/-! ### The range -/

/-- The record id that a keyword stands for. -/
def keyword (chain : List (List Byte)) (recordId : RecordId) : RecordId :=
  if recordId = getRecordIdFirstEntry ∨ recordId = getRecordIdLastEntry then
    headId (chainFrom chain recordId)
  else recordId

/-- The records of the range. -/
def inRange (chain : List (List Byte)) (start last : RecordId) : List (List Byte) :=
  chain.filter fun record =>
    decide (keyword chain start ≤ idOf record ∧ idOf record ≤ keyword chain last)

/-- Whatever a BMC with this log answers, a call that succeeds keeps the range and hands each record of
    it to the callback, and a call in which nothing fails succeeds. -/
structure ParsesRange (chain : List (List Byte)) (start last : RecordId) : Prop where
  kept : ∀ env rounds es, Presents env.bmc chain → env.recordIdStart = start → env.recordIdLast = last →
    ipmiSelParse env rounds = some (.entries es) →
    es = inRange chain start last ∧ callbackCalls env rounds = es
  ends : ∀ env, Presents env.bmc chain → env.recordIdStart = start → env.recordIdLast = last →
    ∃ parsed, ipmiSelParse env 65537 = some parsed ∧ (Served env → ∃ es, parsed = .entries es)

section Range
variable {chain : List (List Byte)} {start last : RecordId}

theorem keyword_other (hfirst : start ≠ getRecordIdFirstEntry) (hlast : start ≠ getRecordIdLastEntry) :
    keyword chain start = start :=
  if_neg (by tauto)

theorem keyword_first : keyword chain getRecordIdFirstEntry = headId chain := by
  rw [keyword, if_pos (Or.inl rfl), chainFrom, if_pos rfl]

theorem keyword_last : keyword chain getRecordIdLastEntry = headId (chain.drop (chain.length - 1)) := by
  rw [keyword, if_pos (Or.inr rfl), chainFrom_last]

/-- No record is beyond the keyword for the last one. -/
theorem le_keyword_last (h : Chain chain) (hlast : last ≠ getRecordIdFirstEntry) {record : List Byte}
    (hrecord : record ∈ chain) : idOf record ≤ keyword chain last ↔ idOf record ≤ last := by
  by_cases hend : last = getRecordIdLastEntry
  · rw [hend, keyword_last]
    have hmax : idOf record ≤ getRecordIdLastEntry := by
      simp only [getRecordIdLastEntry]
      bv_omega
    rcases h.drop_last with ⟨hempty, -⟩ | ⟨final, -, hdrop, hle⟩
    · rw [hempty] at hrecord
      cases hrecord
    · rw [hdrop]
      exact ⟨fun _ => hmax, fun _ => hle record hrecord⟩
  · rw [keyword_other hlast hend]

/-- The last record is a range of its own. -/
theorem inRange_last (h : Chain chain) :
    inRange chain getRecordIdLastEntry getRecordIdLastEntry = chain.drop (chain.length - 1) := by
  rw [inRange, keyword_last]
  rcases List.eq_nil_or_concat chain with rfl | ⟨before, record, rfl⟩
  · rfl
  · rw [List.concat_eq_append] at h ⊢
    have hdrop : (before ++ [record]).drop ((before ++ [record]).length - 1) = [record] := by simp
    have hnone : ∀ a ∈ before, ¬ decide (idOf record ≤ idOf a ∧ idOf a ≤ idOf record) = true := by
      intro a ha hkept
      exact absurd (h.split.1 a ha) (BitVec.not_lt.mpr (of_decide_eq_true hkept).1)
    rw [hdrop, headId, List.filter_append, List.filter_eq_nil_iff.mpr hnone]
    simp

/-- A search for the first record keeps the range. -/
theorem inRange_search (h : Chain chain) (hfirst : start ≠ getRecordIdFirstEntry)
    (hend : start ≠ getRecordIdLastEntry) (hle : start ≤ last) :
    inRange chain start last = walked chain start last := by
  have hlast : last ≠ getRecordIdFirstEntry := by
    simp only [getRecordIdFirstEntry] at hfirst ⊢
    bv_omega
  rw [inRange, walked, if_neg hfirst, keyword_other hfirst hend]
  refine List.filter_congr fun record hrecord => ?_
  rw [decide_eq_decide, le_keyword_last h hlast hrecord]

/-- From the keyword for the first record on, the loop keeps the range, unless that ends before it. -/
theorem inRange_first_iff (h : Chain chain) :
    walked chain getRecordIdFirstEntry last = inRange chain getRecordIdFirstEntry last
      ↔ last = getRecordIdFirstEntry ∨ chain = [] ∨ headId chain ≤ last := by
  rw [walked, if_pos rfl, inRange, keyword_first]
  cases chain with
  | nil => simp [upTo]
  | cons record rest =>
    have hbehind : ∀ b ∈ rest, idOf record < idOf b := (List.pairwise_cons.mp h.rising).1
    have hnotFirst := h.notFirst
    rw [headId]
    by_cases hlast : last = getRecordIdFirstEntry
    · have hrest : rest.filter (fun b => decide (idOf record ≤ idOf b ∧ idOf b ≤ idOf record)) = [] := by
        rw [List.filter_eq_nil_iff]
        intro b hb hkept
        exact absurd (hbehind b hb) (BitVec.not_lt.mpr (of_decide_eq_true hkept).2)
      have hnone : upTo getRecordIdFirstEntry rest = [] := by
        rw [upTo, List.filter_eq_nil_iff]
        intro b hb hkept
        have hzero := of_decide_eq_true hkept
        have hne := hnotFirst b (List.mem_cons_of_mem _ hb)
        simp only [getRecordIdFirstEntry] at hzero hne
        bv_omega
      rw [hlast, keyword_first, headId, List.filter_cons_of_pos (by simp), hrest]
      simp [hnone]
    · have hsame : (record :: rest).filter (fun b => decide (idOf record ≤ idOf b
            ∧ idOf b ≤ keyword (record :: rest) last)) = upTo last (record :: rest) := by
        refine List.filter_congr fun b hb => ?_
        have hle : idOf record ≤ idOf b := by
          rcases List.mem_cons.mp hb with rfl | hb
          · exact BitVec.le_refl _
          · exact BitVec.le_of_lt (hbehind b hb)
        rw [decide_eq_decide, le_keyword_last h hlast hb, and_iff_right hle]
      rw [hsame]
      by_cases hle : idOf record ≤ last
      · simp [upTo, hle]
      · have hne : record :: upTo last rest ≠ upTo last (record :: rest) := by
          intro heq
          have hmem : record ∈ upTo last (record :: rest) := heq ▸ List.mem_cons_self ..
          exact hle (of_decide_eq_true (List.mem_filter.mp hmem).2)
        simp [hlast, hle, hne]

theorem keptRecords_iff (h : Chain chain) (hle : start ≤ last) :
    keptRecords chain start last = inRange chain start last
      ↔ start ≠ getRecordIdFirstEntry ∨ last = getRecordIdFirstEntry ∨ chain = []
        ∨ headId chain ≤ last := by
  by_cases hfirst : start = getRecordIdFirstEntry
  · subst hfirst
    rw [keptRecords, if_neg (by decide), inRange_first_iff h]
    simp
  · refine iff_of_true ?_ (Or.inl hfirst)
    by_cases hend : start = getRecordIdLastEntry
    · have hlast : last = getRecordIdLastEntry := by
        simp only [getRecordIdLastEntry] at hend ⊢
        bv_omega
      rw [keptRecords, if_pos hend, hend, hlast, inRange_last h]
    · rw [keptRecords, if_neg hend, inRange_search h hfirst hend hle]

end Range

/-- A call for a range of a log, of a BMC that never fails. -/
def rangeOf (chain : List (List Byte)) (start last : RecordId) : Env where
  bmc := .ofEntries fun recordId => headAnswer (chainFrom chain recordId)
  registered := none
  recordIdStart := start
  recordIdLast := last
  callback := fun _ _ => true

theorem rangeOf_served (chain : List (List Byte)) (start last : RecordId) :
    Presents (rangeOf chain start last).bmc chain ∧ Served (rangeOf chain start last) := by
  have hanswer : ∀ records, headAnswer records ≠ .failed ∧ headAnswer records ≠ .cancelled := by
    intro records
    cases records <;> simp [headAnswer]
  refine ⟨fun n reservation recordId => Or.inr (Or.inr rfl), rfl, ?_, ?_, ?_, fun _ _ => rfl⟩
  · intro n
    simp [rangeOf, Bmc.ofEntries]
  · exact fun n reservation recordId => (hanswer _).1
  · exact fun n => ⟨0, Nat.zero_le _, fun reservation recordId => (hanswer _).2⟩

/-- The range is kept, unless it begins with the keyword for the first record and ends, with a number,
    before that record. -/
theorem parsesRange_iff {chain : List (List Byte)} (h : Chain chain) {start last : RecordId}
    (hle : start ≤ last) : ParsesRange chain start last
      ↔ start ≠ getRecordIdFirstEntry ∨ last = getRecordIdFirstEntry ∨ chain = []
        ∨ headId chain ≤ last := by
  rw [← keptRecords_iff h hle]
  constructor
  · intro hparses
    obtain ⟨hp, hserved⟩ := rangeOf_served chain start last
    obtain ⟨parsed, hparsed, hsucceeds⟩ := parse_stops h hp
      (show (rangeOf chain start last).recordIdStart ≤ _ from hle)
    obtain ⟨es, rfl⟩ := hsucceeds hserved
    rw [← (hparses.kept _ _ _ hp rfl rfl hparsed).1]
    exact (parse_kept h hp hle hparsed).1.symm
  · intro hkept
    constructor
    · rintro env rounds es hp rfl rfl hparsed
      rw [← hkept]
      exact parse_kept h hp hle hparsed
    · rintro env hp rfl rfl
      exact parse_stops h hp hle

/-- A log whose first record has the id 5. -/
def lateChain : List (List Byte) := [[5, 0, 2], [7, 0, 2]]

theorem lateChain_chain : Chain lateChain where
  long := by decide
  rising := by decide
  notFirst := by decide
  notLast := by decide

theorem parsesRange_iff_late : ParsesRange lateChain 6 getRecordIdLastEntry
    ↔ (6 : RecordId) ≠ getRecordIdFirstEntry ∨ getRecordIdLastEntry = getRecordIdFirstEntry
      ∨ lateChain = [] ∨ headId lateChain ≤ getRecordIdLastEntry :=
  parsesRange_iff lateChain_chain (by decide)

/-- From the first record to record 3 there is nothing, but record 5 is kept. -/
theorem parse_keeps_first :
    ipmiSelParse (rangeOf lateChain getRecordIdFirstEntry 3) 65537 = some (.entries [[5, 0, 2]])
      ∧ inRange lateChain getRecordIdFirstEntry 3 = []
      ∧ ¬ ParsesRange lateChain getRecordIdFirstEntry 3 := by
  obtain ⟨hp, hserved⟩ := rangeOf_served lateChain getRecordIdFirstEntry 3
  obtain ⟨parsed, hparsed, hsucceeds⟩ := parse_stops lateChain_chain hp (by decide)
  obtain ⟨es, rfl⟩ := hsucceeds hserved
  have hes : es = [[5, 0, 2]] :=
    (parse_kept lateChain_chain hp (by decide) hparsed).1.trans (by decide)
  have hrange : inRange lateChain getRecordIdFirstEntry 3 = [] := by decide
  rw [hes] at hparsed
  refine ⟨hparsed, hrange, fun hparses => ?_⟩
  have hkept := (hparses.kept _ _ _ hp rfl rfl hparsed).1
  rw [hrange] at hkept
  cases hkept

end FreeIpmi.Sel
