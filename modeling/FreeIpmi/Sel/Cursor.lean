import FreeIpmi.Lib.Calls
import FreeIpmi.Sel.Parse

/-! The position in a parsed system event log (`ipmi-sel.c`).

    A context keeps the position twice: an iterator over the list, which is already on the entry
    behind, and the current entry. To the caller the position is one index (`Cursor`). Going to the
    first or the next entry and a search that succeeds move both copies; a search that fails puts the
    iterator back to the head of the list and keeps the current entry, so that the next entry is the
    first one. -/

namespace FreeIpmi.Sel

/-- The `IPMI_SEL_ERR_*` codes of the functions on a parsed log. -/
inductive SelErr where
  | selEntriesNotLoaded | noSelEntries | selEntriesListEnd | notFound | invalidSelEntry | overflow
  | parameters
  deriving DecidableEq, Repr

/-- `struct ipmi_sel_ctx`, outside of a callback. Entries and list nodes are known by their place in
    the list. -/
structure SelCtx where
  selEntries : List (List Byte)
  -- `i->pos`: the node that `list_next` returns, or the end
  selEntriesItr : Option ℕ
  selEntriesLoaded : Bool
  currentSelEntry : Option ℕ

/-- `list_next` of an iterator over `count` nodes. -/
def listNext (count pos : ℕ) : Option ℕ × ℕ :=
  if pos < count then (some pos, pos + 1) else (none, pos)

/-- What `ipmi_sel_parse` and `ipmi_sel_parse_record_ids` leave when they succeed. -/
def SelCtx.parsed (entries : List (List Byte)) : SelCtx :=
  if 0 < entries.length then
    let (current, pos) := listNext entries.length 0
    ⟨entries, some pos, true, current⟩
  else ⟨entries, none, true, none⟩

/-- The checks that all functions on a parsed log begin with. -/
def SelCtx.iterator (ctx : SelCtx) : Except SelErr ℕ :=
  if !ctx.selEntriesLoaded then .error .selEntriesNotLoaded
  else match ctx.selEntriesItr with
    | none => .error .noSelEntries
    | some pos => .ok pos

/-- `ipmi_sel_parse_first`. -/
def ipmiSelParseFirst (ctx : SelCtx) : Except SelErr ℕ × SelCtx :=
  match ctx.iterator with
  | .error e => (.error e, ctx)
  | .ok _ =>
    -- after `list_iterator_reset`
    let (current, pos) := listNext ctx.selEntries.length 0
    (.ok 0, { ctx with selEntriesItr := some pos, currentSelEntry := current })

/-- `ipmi_sel_parse_next`. -/
def ipmiSelParseNext (ctx : SelCtx) : Except SelErr ℕ × SelCtx :=
  match ctx.iterator with
  | .error e => (.error e, ctx)
  | .ok pos =>
    let (current, pos) := listNext ctx.selEntries.length pos
    (.ok (if current.isSome then 1 else 0),
      { ctx with selEntriesItr := some pos, currentSelEntry := current })

/-- The test in the loop of `_ipmi_sel_parse_find_record_id`. -/
def matchesRecordId (exactMatchFlag : Bool) (recordId currentRecordId : RecordId) : Bool :=
  (exactMatchFlag && decide (currentRecordId = recordId))
    || (!exactMatchFlag && decide (recordId ≤ currentRecordId))

/-- The loop, on the nodes from `pos` on: the entry that it stops at, and the iterator. An entry
    without a header is passed over. -/
def findLoop (exactMatchFlag : Bool) (recordId : RecordId) :
    List (List Byte) → ℕ → Option ℕ × ℕ
  | [], pos => (none, pos)
  | selEntry :: rest, pos =>
    match recordHeaderId selEntry with
    | none => findLoop exactMatchFlag recordId rest (pos + 1)
    | some currentRecordId =>
      if matchesRecordId exactMatchFlag recordId currentRecordId then (some pos, pos + 1)
      else findLoop exactMatchFlag recordId rest (pos + 1)

/-- `_ipmi_sel_parse_find_record_id`. -/
def ipmiSelParseFindRecordId (ctx : SelCtx) (recordId : RecordId) (exactMatchFlag : Bool) :
    Except SelErr ℕ × SelCtx :=
  match ctx.iterator with
  | .error e => (.error e, ctx)
  | .ok _ =>
    match findLoop exactMatchFlag recordId ctx.selEntries 0 with
    | (some selEntry, pos) =>
      (.ok 0, { ctx with selEntriesItr := some pos, currentSelEntry := some selEntry })
    -- `list_iterator_reset`
    | (none, _) => (.error .notFound, { ctx with selEntriesItr := some 0 })

/-- `ipmi_sel_parse_seek_record_id`. -/
def ipmiSelParseSeekRecordId (ctx : SelCtx) (recordId : RecordId) : Except SelErr ℕ × SelCtx :=
  ipmiSelParseFindRecordId ctx recordId false

/-- `ipmi_sel_parse_search_record_id`. -/
def ipmiSelParseSearchRecordId (ctx : SelCtx) (recordId : RecordId) : Except SelErr ℕ × SelCtx :=
  ipmiSelParseFindRecordId ctx recordId true

/-- `_get_parse_sel_entry_common`: the entry that all functions read that are given no record. -/
def getParseSelEntryCommon (ctx : SelCtx) : Except SelErr ℕ :=
  match ctx.iterator with
  | .error e => .error e
  | .ok _ =>
    match ctx.currentSelEntry with
    | none => .error .selEntriesListEnd
    | some selEntry => .ok selEntry

/-- `ipmi_sel_parse_read_record` into a buffer of `buflen` bytes. -/
def ipmiSelParseReadRecord (ctx : SelCtx) (buflen : ℕ) : Except SelErr (List Byte) :=
  if buflen = 0 then .error .parameters
  else do
    let selEntry ← getParseSelEntryCommon ctx
    let selEventRecord := ctx.selEntries.getD selEntry []
    if buflen < selEventRecord.length then .error .overflow else return selEventRecord

/-- `ipmi_sel_parse_read_record_id` of the current entry. -/
def ipmiSelParseReadRecordId (ctx : SelCtx) : Except SelErr RecordId := do
  let selEntry ← getParseSelEntryCommon ctx
  match recordHeaderId (ctx.selEntries.getD selEntry []) with
  | none => .error .invalidSelEntry
  | some recordId => return recordId

/-- The calls that move the position. -/
inductive CursorCall where
  | first
  | next
  | seekRecordId (recordId : RecordId)
  | searchRecordId (recordId : RecordId)

/-- One call: what it returns, and the context. -/
def SelCtx.call (ctx : SelCtx) : CursorCall → Except SelErr ℕ × SelCtx
  | .first => ipmiSelParseFirst ctx
  | .next => ipmiSelParseNext ctx
  | .seekRecordId recordId => ipmiSelParseSeekRecordId ctx recordId
  | .searchRecordId recordId => ipmiSelParseSearchRecordId ctx recordId

/-- The calls after each other: what each returns, and the entry that is read after it. -/
def SelCtx.trace (ctx : SelCtx) : List CursorCall → List (Except SelErr ℕ × Except SelErr ℕ)
  | [] => []
  | call :: calls =>
    let (returned, ctx) := ctx.call call
    (returned, getParseSelEntryCommon ctx) :: ctx.trace calls

/-! ### The index -/

/-- Where the first entry with such a record id is. -/
def findEntry (entries : List (List Byte)) (exactMatchFlag : Bool) (recordId : RecordId) : Option ℕ :=
  entries.findIdx? fun selEntry => (recordHeaderId selEntry).any (matchesRecordId exactMatchFlag recordId)

/-- A search either moves the index or leaves it alone. -/
def findIndex (entries : List (List Byte)) (exactMatchFlag : Bool) (recordId : RecordId) (index : ℕ) :
    Except SelErr ℕ × ℕ :=
  match findEntry entries exactMatchFlag recordId with
  | some found => (.ok 0, found)
  | none => (.error .notFound, index)

/-- What a call means for the index; at the length of the list it is at the end. A log without entries
    has no position. -/
def moveIndex (entries : List (List Byte)) (index : ℕ) (call : CursorCall) : Except SelErr ℕ × ℕ :=
  if entries = [] then (.error .noSelEntries, index)
  else match call with
    | .first => (.ok 0, 0)
    | .next =>
      if index + 1 < entries.length then (.ok 1, index + 1) else (.ok 0, entries.length)
    | .seekRecordId recordId => findIndex entries false recordId index
    | .searchRecordId recordId => findIndex entries true recordId index

/-- The entry at the index. -/
def entryAt (entries : List (List Byte)) (index : ℕ) : Except SelErr ℕ :=
  if entries = [] then .error .noSelEntries
  else if index < entries.length then .ok index
  else .error .selEntriesListEnd

/-- What the calls return, and the entry that is read after each, for an index. -/
def indexTrace (entries : List (List Byte)) :
    ℕ → List CursorCall → List (Except SelErr ℕ × Except SelErr ℕ)
  | _, [] => []
  | index, call :: calls =>
    let (returned, index) := moveIndex entries index call
    (returned, entryAt entries index) :: indexTrace entries index calls

/-- After a parse and these calls, the context has behaved like an index all the time. -/
structure CursorFollows (entries : List (List Byte)) (calls : List CursorCall) : Prop where
  start : getParseSelEntryCommon (.parsed entries) = entryAt entries 0
  trace : (SelCtx.parsed entries).trace calls = indexTrace entries 0 calls

/-- Whether the iterator has lost the position after a call. -/
def lostAfter (entries : List (List Byte)) (lost : Bool) : CursorCall → Bool
  | .first => false
  | .next => lost
  | .seekRecordId recordId => (findEntry entries false recordId).isNone
  | .searchRecordId recordId => (findEntry entries true recordId).isNone

/-- No next entry is asked for while the last search has failed: after a failure comes a search that
    succeeds, or the first entry, before the next one. -/
def NextInPlace (entries : List (List Byte)) : Bool → List CursorCall → Prop
  | _, [] => True
  | lost, call :: calls =>
    (call = .next → lost = false) ∧ NextInPlace entries (lostAfter entries lost call) calls

/-! ### One call -/

theorem findLoop_eq (exactMatchFlag : Bool) (recordId : RecordId) (entries : List (List Byte)) (pos : ℕ) :
    findLoop exactMatchFlag recordId entries pos
      = match findEntry entries exactMatchFlag recordId with
        | some found => (some (pos + found), pos + found + 1)
        | none => (none, pos + entries.length) := by
  induction entries generalizing pos with
  | nil => rfl
  | cons selEntry rest ih =>
    have hrest : findLoop exactMatchFlag recordId rest (pos + 1)
        = match (findEntry rest exactMatchFlag recordId).map (· + 1) with
          | some found => (some (pos + found), pos + found + 1)
          | none => (none, pos + (rest.length + 1)) := by
      rw [ih]
      cases findEntry rest exactMatchFlag recordId with
      | none => simp only [Option.map_none, Nat.add_assoc, Nat.add_comm 1]
      | some found => simp only [Option.map_some, Nat.add_assoc, Nat.add_comm 1]
    rw [findLoop, findEntry, List.findIdx?_cons]
    cases hheader : recordHeaderId selEntry with
    | none => simpa [findEntry] using hrest
    | some currentRecordId =>
      by_cases hmatch : matchesRecordId exactMatchFlag recordId currentRecordId = true
      · simp [hmatch]
      · simpa [findEntry, hmatch] using hrest

theorem findEntry_lt {entries : List (List Byte)} {exactMatchFlag : Bool} {recordId : RecordId} {found : ℕ}
    (h : findEntry entries exactMatchFlag recordId = some found) : found < entries.length :=
  (List.findIdx?_eq_some_iff_getElem.mp h).1

/-- The two copies of the position, while the iterator is in place or has lost it. -/
structure Follows (entries : List (List Byte)) (ctx : SelCtx) (index : ℕ) (lost : Bool) : Prop where
  entries_eq : ctx.selEntries = entries
  loaded : ctx.selEntriesLoaded = true
  inside : index ≤ entries.length
  current : ctx.currentSelEntry = if index < entries.length then some index else none
  iterator : ctx.selEntriesItr = some (if lost then 0 else min (index + 1) entries.length)

section Step
variable {entries : List (List Byte)} {ctx : SelCtx} {index : ℕ} {lost : Bool}

theorem Follows.parsed (h : entries ≠ []) : Follows entries (.parsed entries) 0 false := by
  have hpos : 0 < entries.length := List.length_pos_iff.mpr h
  have hmin : min 1 entries.length = 1 := by omega
  rw [SelCtx.parsed, if_pos hpos, listNext, if_pos hpos]
  constructor <;> simp [hpos, hmin]

theorem Follows.iterator_ok (h : Follows entries ctx index lost) :
    ctx.iterator = .ok (if lost then 0 else min (index + 1) entries.length) := by
  rw [SelCtx.iterator, h.loaded, h.iterator]
  rfl

/-- The entry that is read is the one at the index. -/
theorem Follows.read (h : Follows entries ctx index lost) (hne : entries ≠ []) :
    getParseSelEntryCommon ctx = entryAt entries index := by
  rw [getParseSelEntryCommon, h.iterator_ok, h.current, entryAt, if_neg hne]
  by_cases hlt : index < entries.length
  · simp [hlt]
  · simp [hlt]

/-- The functions that read it return its bytes and its record id. -/
theorem Follows.readRecord {record : List Byte} {buflen : ℕ} (h : Follows entries ctx index lost)
    (hrecord : entries[index]? = some record) (hpos : 0 < buflen) (hfits : record.length ≤ buflen) :
    ipmiSelParseReadRecord ctx buflen = .ok record ∧ ipmiSelParseReadRecordId ctx
      = match recordHeaderId record with
        | none => .error .invalidSelEntry
        | some recordId => .ok recordId := by
  have hlt := (List.getElem?_eq_some_iff.mp hrecord).1
  have hne : entries ≠ [] := List.ne_nil_of_length_pos (by omega)
  have hread : getParseSelEntryCommon ctx = .ok index := by
    rw [h.read hne, entryAt, if_neg hne, if_pos hlt]
  have hentry : ctx.selEntries.getD index [] = record := by
    rw [h.entries_eq, List.getD_eq_getElem?_getD, hrecord]
    rfl
  rw [ipmiSelParseReadRecord, ipmiSelParseReadRecordId, hread, if_neg (by omega), Calls.ok_bind,
    Calls.ok_bind, hentry, if_neg (by omega)]
  exact ⟨rfl, rfl⟩

theorem Follows.find (h : Follows entries ctx index lost) (exactMatchFlag : Bool) (recordId : RecordId) :
    (ipmiSelParseFindRecordId ctx recordId exactMatchFlag).1
        = (findIndex entries exactMatchFlag recordId index).1
      ∧ Follows entries (ipmiSelParseFindRecordId ctx recordId exactMatchFlag).2
        (findIndex entries exactMatchFlag recordId index).2
        (findEntry entries exactMatchFlag recordId).isNone := by
  simp only [ipmiSelParseFindRecordId, h.iterator_ok, h.entries_eq, findLoop_eq, findIndex]
  cases hfind : findEntry entries exactMatchFlag recordId with
  | none => exact ⟨rfl, rfl, h.loaded, h.inside, h.current, rfl⟩
  | some found =>
    have hlt := findEntry_lt hfind
    have hmin : min (found + 1) entries.length = found + 1 := by omega
    refine ⟨rfl, rfl, h.loaded, hlt.le, ?_, ?_⟩
    · simp [hlt]
    · simp [hmin]

theorem Follows.first (h : Follows entries ctx index lost) (hne : entries ≠ []) :
    (ipmiSelParseFirst ctx).1 = .ok 0 ∧ Follows entries (ipmiSelParseFirst ctx).2 0 false := by
  have hpos : 0 < entries.length := List.length_pos_iff.mpr hne
  have hmin : min 1 entries.length = 1 := by omega
  simp only [ipmiSelParseFirst, h.iterator_ok, h.entries_eq, listNext, if_pos hpos]
  refine ⟨trivial, rfl, h.loaded, Nat.zero_le _, ?_, ?_⟩
  · simp [hpos]
  · simp [hmin]

/-- An iterator that is in place goes to the next entry, or stays at the end. -/
theorem Follows.next (h : Follows entries ctx index false) (hne : entries ≠ []) :
    (ipmiSelParseNext ctx).1 = (moveIndex entries index .next).1
      ∧ Follows entries (ipmiSelParseNext ctx).2 (moveIndex entries index .next).2 false := by
  have hinside := h.inside
  simp only [ipmiSelParseNext, h.iterator_ok, h.entries_eq, listNext, moveIndex, if_neg hne]
  by_cases hlt : index + 1 < entries.length
  · have hmin : min (index + 1) entries.length = index + 1 := by omega
    have hmin' : min (index + 1 + 1) entries.length = index + 1 + 1 := by omega
    simp only [Bool.false_eq_true, if_false, hmin, if_pos hlt]
    refine ⟨rfl, rfl, h.loaded, hlt.le, ?_, ?_⟩
    · simp [hlt]
    · simp [hmin']
  · have hmin : min (index + 1) entries.length = entries.length := by omega
    simp only [Bool.false_eq_true, if_false, hmin, lt_irrefl, if_neg hlt]
    refine ⟨rfl, rfl, h.loaded, le_rfl, ?_, ?_⟩
    · simp
    · simp

/-- An iterator that has lost the position goes to the first entry. -/
theorem Follows.next_lost (h : Follows entries ctx index true) (hne : entries ≠ []) :
    Follows entries (ipmiSelParseNext ctx).2 0 false := by
  have hpos : 0 < entries.length := List.length_pos_iff.mpr hne
  have hmin : min 1 entries.length = 1 := by omega
  simp only [ipmiSelParseNext, h.iterator_ok, h.entries_eq, listNext, if_pos, if_pos hpos]
  refine ⟨rfl, h.loaded, Nat.zero_le _, ?_, ?_⟩
  · simp [hpos]
  · simp [hmin]

/-- Every other call moves both copies, or loses the position in the iterator alone. -/
theorem Follows.call (h : Follows entries ctx index lost) (hne : entries ≠ []) {call : CursorCall}
    (hcall : call = .next → lost = false) :
    (ctx.call call).1 = (moveIndex entries index call).1
      ∧ Follows entries (ctx.call call).2 (moveIndex entries index call).2
        (lostAfter entries lost call) := by
  cases call with
  | first =>
    rw [moveIndex, if_neg hne]
    exact h.first hne
  | next =>
    cases hcall rfl
    exact h.next hne
  | seekRecordId recordId =>
    rw [moveIndex, if_neg hne]
    exact h.find false recordId
  | searchRecordId recordId =>
    rw [moveIndex, if_neg hne]
    exact h.find true recordId

/-! ### All calls -/

theorem moveIndex_next_ne (hne : entries ≠ []) :
    entryAt entries (moveIndex entries index .next).2 ≠ .ok 0 := by
  have hpos : 0 < entries.length := List.length_pos_iff.mpr hne
  rw [moveIndex, if_neg hne]
  by_cases hlt : index + 1 < entries.length
  · simp [entryAt, hne, hlt]
  · simp [entryAt, hne, hlt]

/-- From a state that follows the index, the calls do exactly when none of them loses it. -/
theorem Follows.trace_iff (h : Follows entries ctx index lost) (hne : entries ≠ [])
    (calls : List CursorCall) :
    ctx.trace calls = indexTrace entries index calls ↔ NextInPlace entries lost calls := by
  induction calls generalizing ctx index lost with
  | nil => simp [SelCtx.trace, indexTrace, NextInPlace]
  | cons call calls ih =>
    rw [SelCtx.trace, indexTrace, NextInPlace, List.cons.injEq, Prod.mk.injEq]
    by_cases hcall : call = .next → lost = false
    · obtain ⟨hreturned, hfollows⟩ := h.call hne hcall
      rw [ih hfollows, hreturned, hfollows.read hne, and_iff_right hcall]
      simp only [true_and, and_self]
    · obtain ⟨rfl, hlost⟩ := Classical.not_imp.mp hcall
      rw [Bool.not_eq_false] at hlost
      subst hlost
      have hread : getParseSelEntryCommon (ctx.call .next).2 = .ok 0 := by
        have hpos : 0 < entries.length := List.length_pos_iff.mpr hne
        exact ((h.next_lost hne).read hne).trans (by simp [entryAt, hne, hpos])
      rw [hread]
      constructor
      · rintro ⟨⟨-, hsame⟩, -⟩
        exact absurd hsame.symm (moveIndex_next_ne hne)
      · rintro ⟨hlost, -⟩
        cases hlost rfl

end Step

/-- Without entries every call fails, and nothing is read. -/
theorem trace_empty (calls : List CursorCall) : (SelCtx.parsed []).trace calls = indexTrace [] 0 calls := by
  induction calls with
  | nil => rfl
  | cons call calls ih =>
    have hcall : (SelCtx.parsed []).call call = (.error .noSelEntries, .parsed []) := by
      cases call <;> rfl
    have hmove : moveIndex [] 0 call = (.error .noSelEntries, 0) := if_pos rfl
    rw [SelCtx.trace, indexTrace, hcall, hmove]
    exact congrArg (List.cons _) ih

/-- The context behaves like an index exactly when no next entry is asked for after a search that has
    failed. -/
theorem cursorFollows_iff (entries : List (List Byte)) (calls : List CursorCall) :
    CursorFollows entries calls ↔ entries = [] ∨ NextInPlace entries false calls := by
  by_cases hne : entries = []
  · subst hne
    exact ⟨fun _ => Or.inl rfl, fun _ => ⟨rfl, trace_empty calls⟩⟩
  · have hfollows := Follows.parsed hne
    rw [or_iff_right hne, ← hfollows.trace_iff hne calls]
    exact ⟨fun h => h.trace, fun h => ⟨hfollows.read hne, h⟩⟩

/-- In a log of two entries, a search for a third one fails, and the next entry is the first one
    again. -/
theorem cursor_not_follows :
    ¬ ∀ entries calls, CursorFollows entries calls := by
  intro h
  have htrace := (h [[1, 0, 2], [2, 0, 2]] [.searchRecordId 3, .next]).trace
  revert htrace
  decide

end FreeIpmi.Sel
