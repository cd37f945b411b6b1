import FreeIpmi.Sdr.Safety

/-! Callbacks that use the context of their iteration (`ipmi-sdr-cache-read.c`, `ipmi-sdr.c`).

    An iteration keeps the cursor on a stack, so that a callback may iterate again (`iterate_cursor`).
    While a callback runs, `callback_lock` keeps the cache from being closed; but it is one flag, and
    an iteration inside the callback clears it (`released`). And the loop goes on from where the
    callback has left the cursor. -/

namespace FreeIpmi.Sdr
open Calls

/-- A context with `operation` and `callback_lock`, and whether its memory has been freed. -/
structure Handle where
  sdr : SdrCtx
  opened : Bool
  callbackLock : Bool
  freed : Bool
  deriving DecidableEq

/-- What a program does with a context, or a callback with the context of its iteration. -/
inductive Program where
  | done (ret : ℤ)
  -- the call fails with `none` where no cache is open
  | call (c : SdrCall) (k : Option Reply → Program)
  | close (k : Bool → Program)
  | destroy (k : Program)
  | iterate (callback : ℕ → List Byte → Program) (k : ℤ → Program)

/-- A call of `ipmi_sdr_cache_iterate` that is over. -/
structure Finished where
  -- the cursor
  before : ℕ
  after : ℕ
  ret : ℤ
  -- the records that the callback was called with
  visited : List (List Byte)
  -- every callback has returned 0
  zero : Bool
  -- every callback has returned with the cursor where it was
  kept : Bool
  deriving DecidableEq

/-- What a program leaves, with the iterations during it. -/
structure Outcome where
  ret : ℤ
  handle : Handle
  finished : List Finished
  deriving DecidableEq

/-! ### Calls -/

/-- Any use of a context whose memory has been freed is undefined. -/
def Handle.live (h : Handle) : Except SdrStop Unit := if h.freed then .error .undefined else .ok ()

/-- A call other than those below. -/
def Handle.call (ndebug : Bool) (c : SdrCall) (h : Handle) : Except SdrStop (Option Reply × Handle) := do
  h.live
  if h.opened then
    let (reply, sdr) ← c.run ndebug h.sdr
    return (some reply, { h with sdr })
  else return (none, h)

/-- `sdr_init_ctx`; the saved offsets stay. -/
def SdrCtx.init (ctx : SdrCtx) : SdrCtx where
  sdrVersion := 0
  recordCount := 0
  mostRecentAdditionTimestamp := 0
  mostRecentEraseTimestamp := 0
  sdrCache := []
  recordsStartOffset := 0
  recordsEndOffset := 0
  currentOffset := 0
  savedOffsets := ctx.savedOffsets

/-- `ipmi_sdr_cache_close`. -/
def Handle.close (h : Handle) : Except SdrStop (Bool × Handle) := do
  h.live
  if !h.opened then return (false, h)
  else if h.callbackLock then return (false, h)
  else return (true, { h with sdr := h.sdr.init, opened := false, callbackLock := false })

/-- `ipmi_sdr_ctx_destroy`. -/
def Handle.destroy (h : Handle) : Except SdrStop Handle := do
  h.live
  if h.callbackLock then return h else return { h with opened := false, freed := true }

/-! ### Iterating -/

/-- `ipmi_sdr_cache_record_read` in the loop of `ipmi_sdr_cache_iterate`; it may fail. -/
def Handle.recordRead (h : Handle) : Except SdrStop (Option (List Byte)) :=
  if h.opened then
    match ipmiSdrCacheRecordRead h.sdr sdrMaxRecordLength with
    | .ok record => .ok (some record)
    | .error (.errnum _) => .ok none
    | .error e => .error e
  else .ok none

/-- `ipmi_sdr_cache_next` there; what it returns is not looked at. -/
def Handle.next (h : Handle) : Except SdrStop Handle :=
  if h.opened then do
    let (_, sdr) ← ipmiSdrCacheNext h.sdr
    return { h with sdr }
  else .ok h

/-- The loop of `ipmi_sdr_cache_iterate`, for the calls that are left. -/
structure Rounds where
  ret : ℤ
  handle : Handle
  visited : List (List Byte)
  zero : Bool
  kept : Bool
  finished : List Finished

def rounds (callback : ℕ → List Byte → Handle → Except SdrStop Outcome) :
    ℕ → ℕ → Handle → Except SdrStop Rounds
  | 0, _, h => .ok ⟨0, h, [], true, true, []⟩
  | n + 1, i, h => do
    match ← h.recordRead with
    | none => return ⟨-1, h, [], true, true, []⟩
    | some record =>
      let out ← callback i record { h with callbackLock := true }
      out.handle.live
      let unlocked := { out.handle with callbackLock := false }
      let kept := unlocked.sdr.currentOffset == h.sdr.currentOffset
      if out.ret ≠ 0 then return ⟨out.ret, unlocked, [record], false, kept, out.finished⟩
      else
        let more ← rounds callback n (i + 1) (← unlocked.next)
        return { more with
          visited := record :: more.visited
          kept := kept && more.kept
          finished := out.finished ++ more.finished }

/-- `ipmi_sdr_cache_iterate`. -/
def Handle.iterate (callback : ℕ → List Byte → Handle → Except SdrStop Outcome) (h : Handle) :
    Except SdrStop Outcome := do
  h.live
  if !h.opened then return ⟨-1, h, []⟩
  else
    let saved := { h with sdr := ipmiSdrCacheFirst (sdrSaveCurrentOffset h.sdr) }
    let r ← rounds callback h.sdr.recordCount.toNat 0 saved
    let sdr ← sdrResetCurrentOffset r.handle.sdr
    return ⟨r.ret, { r.handle with sdr },
      r.finished ++ [⟨h.sdr.currentOffset, sdr.currentOffset, r.ret, r.visited, r.zero, r.kept⟩]⟩

/-- A run of a program. -/
def Program.run (ndebug : Bool) : Program → Handle → Except SdrStop Outcome
  | .done ret, h => .ok ⟨ret, h, []⟩
  | .call c k, h => do
    let (reply, h) ← h.call ndebug c
    (k reply).run ndebug h
  | .close k, h => do
    let (closed, h) ← h.close
    (k closed).run ndebug h
  | .destroy k, h => do
    let h ← h.destroy
    k.run ndebug h
  | .iterate callback k, h => do
    let out ← h.iterate fun i record h => (callback i record).run ndebug h
    let rest ← (k out.ret).run ndebug out.handle
    return { rest with finished := out.finished ++ rest.finished }

/-! ### Runs that leave the cache open -/

/-- In the loop of `ipmi_sdr_cache_iterate`, each call of the callback meets a condition. -/
def roundsGuarded (callback : ℕ → List Byte → Handle → Except SdrStop Outcome)
    (guarded : ℕ → List Byte → Handle → Prop) : ℕ → ℕ → Handle → Prop
  | 0, _, _ => True
  | n + 1, i, h => ∀ record, h.recordRead = .ok (some record) →
    guarded i record { h with callbackLock := true }
      ∧ ∀ out, callback i record { h with callbackLock := true } = .ok out → out.ret = 0 →
        ∀ h', ({ out.handle with callbackLock := false } : Handle).next = .ok h' →
          roundsGuarded callback guarded n (i + 1) h'

/-- The same for a call of `ipmi_sdr_cache_iterate`. -/
def Handle.IterateGuarded (callback : ℕ → List Byte → Handle → Except SdrStop Outcome)
    (guarded : ℕ → List Byte → Handle → Prop) (h : Handle) : Prop :=
  h.opened = true → roundsGuarded callback guarded h.sdr.recordCount.toNat 0
    { h with sdr := ipmiSdrCacheFirst (sdrSaveCurrentOffset h.sdr) }

/-- Of the calls that a run makes, no `ipmi_sdr_cache_close` and no `ipmi_sdr_ctx_destroy` comes behind an
    iteration of the same callback, which clears `callback_lock`, and no search looks behind the end of the
    file. -/
def Program.Guarded (ndebug : Bool) : Program → Bool → Handle → Prop
  | .done _, _, _ => True
  | .call c k, locked, h => c.LooksInside h.sdr ∧ ∀ reply h', h.call ndebug c = .ok (reply, h') →
    (k reply).Guarded ndebug locked h'
  | .close k, locked, h => locked = true ∧ ∀ closed h', h.close = .ok (closed, h') →
    (k closed).Guarded ndebug locked h'
  | .destroy k, locked, h => locked = true ∧ ∀ h', h.destroy = .ok h' → k.Guarded ndebug locked h'
  | .iterate callback k, _, h =>
    h.IterateGuarded (fun i record h => (callback i record).run ndebug h)
        (fun i record h => (callback i record).Guarded ndebug true h)
      ∧ ∀ out, h.iterate (fun i record h => (callback i record).run ndebug h) = .ok out →
        (k out.ret).Guarded ndebug false out.handle

/-- The context has opened a cache with these records, as many as its header says. -/
structure Handle.Caches (h : Handle) (records : List (List Byte)) : Prop where
  opened : h.opened = true
  alive : h.freed = false
  walk : AtRecords (ipmiSdrCacheFirst h.sdr) records
  count : h.sdr.recordCount.toNat = records.length

/-- The context with the cursor elsewhere and another lock. -/
def Handle.place (h : Handle) (p : ℕ) (lock : Bool) : Handle :=
  { h with sdr := h.sdr.moveTo p, callbackLock := lock }

/-- The cursor is back where it was; and if every callback has returned 0 and left it where it was,
    the callback was called once for every record, in their order. -/
structure Finished.Good (records : List (List Byte)) (f : Finished) : Prop where
  cursor : f.after = f.before
  visits : f.zero = true → f.kept = true → f.ret = 0 ∧ f.visited = records

section places
variable {ctx : SdrCtx} {p : ℕ} {r : List Byte} {records rest : List (List Byte)}

theorem AtRecords.lengthAt_eq (h : AtRecords (ctx.moveTo p) (r :: rest)) :
    lengthAt ctx.sdrCache p = (r.getD sdrRecordLengthIndex 0).toNat := by
  have hread : Sdr.recordLengthAt (ctx.moveTo p) p = .ok (r.getD sdrRecordLengthIndex 0).toNat :=
    h.recordLengthAt
  rcases Nat.lt_or_ge (p + sdrRecordLengthIndex) ctx.sdrCache.length with hlt | hge
  · have hin : Sdr.recordLengthAt (ctx.moveTo p) p = .ok (lengthAt ctx.sdrCache p) := recordLengthAt_of_lt hlt
    exact Except.ok.inj (hin.symm.trans hread)
  · have hout : Sdr.recordLengthAt (ctx.moveTo p) p = .error .undefined := recordLengthAt_of_le hge
    cases hout.symm.trans hread

/-- The cursor only gets to the records. -/
theorem AtRecords.moveTo (h : AtRecords (ipmiSdrCacheFirst ctx) records) (hne : records ≠ [])
    (hp : ctx.RecordAt p) : ∃ r rest, AtRecords (ctx.moveTo p) (r :: rest) := by
  induction hp with
  | first =>
    obtain ⟨r, rest, rfl⟩ := List.exists_cons_of_ne_nil hne
    exact ⟨r, rest, h⟩
  | @next p hp hlt ih =>
    obtain ⟨r, rest, hat⟩ := ih
    have hlength := hat.lengthAt_eq
    have hr := (hat.whole r (List.mem_cons_self ..)).length
    have hstop : ctx.recordsEndOffset = p + (r :: rest).flatten.length := hat.stop
    have hrest : rest ≠ [] := by
      rintro rfl
      simp only [List.flatten_cons, List.flatten_nil, List.append_nil, sdrRecordHeaderLength] at *
      omega
    obtain ⟨r', rest', rfl⟩ := List.exists_cons_of_ne_nil hrest
    obtain ⟨ctx', hnext, hat'⟩ := hat.next_cons
    have hmoved : ipmiSdrCacheNext (ctx.moveTo p)
        = .ok (true, ctx.moveTo (p + sdrRecordHeaderLength + lengthAt ctx.sdrCache p)) := by
      rw [ipmiSdrCacheNext, hat.recordLengthAt, ok_bind, ← hlength]
      exact if_neg (not_le.mpr hlt)
    obtain rfl := (Prod.mk.inj (Except.ok.inj (hmoved.symm.trans hnext))).2
    exact ⟨r', rest', hat'⟩

theorem AtRecords.endsInside (h : AtRecords (ipmiSdrCacheFirst ctx) records) (hne : records ≠ []) :
    ctx.EndsInside := by
  intro p hp
  obtain ⟨r, rest, hat⟩ := h.moveTo hne hp
  have hr := (hat.whole r (List.mem_cons_self ..)).length
  obtain ⟨a, c, hfile, ha⟩ := hat.file
  have hfile : ctx.sdrCache.length = a.length + ((r :: rest).flatten ++ c).length := by
    rw [← List.length_append]
    exact congrArg List.length hfile
  have ha : a.length = p := ha
  rw [hat.lengthAt_eq, hfile, ha]
  simp only [List.flatten_cons, List.length_append, sdrRecordHeaderLength] at *
  omega

end places

section calls
variable {ndebug : Bool} {h : Handle} {records : List (List Byte)} {p : ℕ} {lock : Bool}

theorem live_place (hh : h.Caches records) : (h.place p lock).live = .ok () := by
  simp [Handle.live, Handle.place, hh.alive]

theorem call_place (hh : h.Caches records) (hinside : h.sdr.EndsInside) (hp : h.sdr.RecordAt p)
    {c : SdrCall} (hc : c.LooksInside h.sdr) :
    ∃ reply q, (h.place p lock).call ndebug c = .ok (reply, h.place q lock) ∧ h.sdr.RecordAt q := by
  obtain ⟨reply, q, hrun, hq⟩ := SdrCall.run_moveTo ndebug hinside hp hc
  refine ⟨some reply, q, ?_, hq⟩
  rw [Handle.call, live_place hh, ok_bind, if_pos (show (h.place p lock).opened = true from hh.opened),
    show (h.place p lock).sdr = h.sdr.moveTo p from rfl, hrun]
  rfl

theorem close_place (hh : h.Caches records) :
    (h.place p true).close = .ok (false, h.place p true) := by
  rw [Handle.close, live_place hh, ok_bind]
  simp [Handle.place, hh.opened]
  rfl

theorem destroy_place (hh : h.Caches records) : (h.place p true).destroy = .ok (h.place p true) := by
  rw [Handle.destroy, live_place hh, ok_bind]
  rfl

theorem recordRead_place (lock : Bool) (hh : h.Caches records) (hinside : h.sdr.EndsInside)
    (hp : h.sdr.RecordAt p) :
    ∃ record, ipmiSdrCacheRecordRead (h.sdr.moveTo p) sdrMaxRecordLength = .ok record
      ∧ (h.place p lock).recordRead = .ok (some record) := by
  have hbyte := (h.sdr.sdrCache.getD (p + sdrRecordLengthIndex) 0).isLt
  have hroom : ¬ sdrMaxRecordLength < lengthAt h.sdr.sdrCache p + sdrRecordHeaderLength := by
    simp only [lengthAt, sdrMaxRecordLength, sdrRecordHeaderLength]
    omega
  have hread : ∃ record, ipmiSdrCacheRecordRead (h.sdr.moveTo p) sdrMaxRecordLength = .ok record := by
    have hwhole := hinside p hp
    rw [ipmiSdrCacheRecordRead, show (h.sdr.moveTo p).currentOffset = p from rfl,
      show recordLengthAt (h.sdr.moveTo p) p = _ from hinside.recordLengthAt hp, ok_bind,
      if_neg (by decide), if_neg hroom]
    refine ⟨_, if_pos ?_⟩
    show p + (lengthAt h.sdr.sdrCache p + sdrRecordHeaderLength) ≤ h.sdr.sdrCache.length
    omega
  obtain ⟨record, hrecord⟩ := hread
  refine ⟨record, hrecord, ?_⟩
  rw [Handle.recordRead, if_pos (show (h.place p lock).opened = true from hh.opened),
    show (h.place p lock).sdr = h.sdr.moveTo p from rfl, hrecord]

theorem next_place (lock : Bool) (hh : h.Caches records) (hinside : h.sdr.EndsInside)
    (hp : h.sdr.RecordAt p) :
    ∃ more q, ipmiSdrCacheNext (h.sdr.moveTo p) = .ok (more, h.sdr.moveTo q)
      ∧ (h.place p lock).next = .ok (h.place q lock) ∧ h.sdr.RecordAt q := by
  obtain ⟨more, q, hnext, hq⟩ := next_moveTo hinside hp
  refine ⟨more, q, hnext, ?_, hq⟩
  rw [Handle.next, if_pos (show (h.place p lock).opened = true from hh.opened),
    show (h.place p lock).sdr = h.sdr.moveTo p from rfl, hnext]
  rfl

end calls

/-! ### Runs -/

section runs
variable {ndebug : Bool} {h : Handle} {records : List (List Byte)} {p : ℕ} {lock : Bool}

/-- What a callback does in an iteration that keeps the cache open, where it meets its condition. -/
structure Keeps (h : Handle) (records : List (List Byte))
    (callback : ℕ → List Byte → Handle → Except SdrStop Outcome) (guarded : ℕ → List Byte → Handle → Prop) :
    Prop where
  inside : h.sdr.EndsInside
  run : ∀ i record p, h.sdr.RecordAt p → guarded i record (h.place p true) → ∃ ret q lock fs,
    callback i record (h.place p true) = .ok ⟨ret, h.place q lock, fs⟩ ∧ h.sdr.RecordAt q
      ∧ ∀ f ∈ fs, Finished.Good records f

/-- The loop: where the cursor stands at the first of the records that are left, it visits them. -/
theorem rounds_place {callback : ℕ → List Byte → Handle → Except SdrStop Outcome}
    {guarded : ℕ → List Byte → Handle → Prop} (hh : h.Caches records) (n i : ℕ) (lock : Bool)
    (hkeeps : 0 < n → Keeps h records callback guarded) (hp : h.sdr.RecordAt p)
    (hguarded : roundsGuarded callback guarded n i (h.place p lock)) :
    ∃ r q lock', rounds callback n i (h.place p lock) = .ok r ∧ r.handle = h.place q lock'
      ∧ (∀ f ∈ r.finished, Finished.Good records f)
      ∧ ∀ rest, (rest ≠ [] → AtRecords (h.sdr.moveTo p) rest) → rest.length = n → r.zero = true → r.kept = true →
        r.ret = 0 ∧ r.visited = rest := by
  induction n generalizing i p lock with
  | zero =>
    refine ⟨_, p, lock, rfl, rfl, by simp, fun rest _ hlength _ _ => ⟨rfl, ?_⟩⟩
    rw [List.length_eq_zero_iff.mp hlength]
  | succ n ih =>
    have hkeeps := hkeeps n.succ_pos
    obtain ⟨record, hread, hrecord⟩ := recordRead_place lock hh hkeeps.inside hp
    obtain ⟨hcallback, hlater⟩ := hguarded record hrecord
    obtain ⟨ret, q, lock', fs, hrun, hq, hgood⟩ := hkeeps.run i record p hp hcallback
    obtain ⟨more, q', hmore, hnext, hq'⟩ := next_place false hh hkeeps.inside hq
    rw [rounds, hrecord, ok_bind]
    dsimp only
    rw [show { h.place p lock with callbackLock := true } = h.place p true from rfl, hrun, ok_bind]
    dsimp only
    rw [live_place hh, ok_bind,
      show { h.place q lock' with callbackLock := false } = h.place q false from rfl]
    by_cases hret : ret ≠ 0
    · rw [if_pos hret]
      exact ⟨_, q, false, rfl, rfl, hgood, fun rest _ _ hzero => by cases hzero⟩
    · rw [if_neg hret, hnext, ok_bind]
      obtain ⟨r, q'', lock'', hrest, hhandle, hfinished, hvisits⟩ :=
        ih (i + 1) false (fun _ => hkeeps) hq' (hlater _ hrun (not_not.mp hret) _ hnext)
      rw [hrest, ok_bind]
      refine ⟨_, q'', lock'', rfl, hhandle, fun f hf => ?_, fun rest hat hlength hzero hkept => ?_⟩
      · rcases List.mem_append.mp hf with hf | hf
        · exact hgood f hf
        · exact hfinished f hf
      · obtain ⟨first, others, rfl⟩ := List.exists_cons_of_length_eq_add_one hlength
        have hat' := hat (by simp)
        obtain rfl : record = first := Except.ok.inj (hread.symm.trans hat'.recordRead)
        simp only [Bool.and_eq_true, beq_iff_eq] at hkept
        obtain rfl : q = p := hkept.1
        have hothers : others ≠ [] → AtRecords (h.sdr.moveTo q') others := by
          intro hne
          obtain ⟨second, others, rfl⟩ := List.exists_cons_of_ne_nil hne
          obtain ⟨ctx', hctx', hnow⟩ := hat'.next_cons
          rw [hmore] at hctx'
          exact (Prod.mk.inj (Except.ok.inj hctx')).2 ▸ hnow
        obtain ⟨hzeroRet, hvisited⟩ := hvisits others hothers (by simpa using hlength) hzero hkept.2
        exact ⟨hzeroRet, congrArg (record :: ·) hvisited⟩

/-- An iteration leaves the cursor where it was. -/
theorem iterate_place (p : ℕ) (lock : Bool) {callback : ℕ → List Byte → Handle → Except SdrStop Outcome}
    {guarded : ℕ → List Byte → Handle → Prop} (hh : h.Caches records)
    (hkeeps : ∀ h, h.Caches records → records ≠ [] → Keeps h records callback guarded)
    (hguarded : (h.place p lock).IterateGuarded callback guarded) :
    ∃ ret lock' fs, (h.place p lock).iterate callback = .ok ⟨ret, h.place p lock', fs⟩
      ∧ ∀ f ∈ fs, Finished.Good records f := by
  -- the callbacks run with one more saved offset
  let saved : Handle := { h with sdr := { h.sdr with savedOffsets := p :: h.sdr.savedOffsets } }
  have hsaved : saved.Caches records :=
    ⟨hh.opened, hh.alive, ⟨hh.walk.file, hh.walk.stop, hh.walk.whole⟩, hh.count⟩
  have hcount : (h.place p lock).sdr.recordCount.toNat = records.length := hh.count
  have hrounds : roundsGuarded callback guarded records.length 0
      (saved.place saved.sdr.recordsStartOffset lock) := hcount ▸ hguarded hh.opened
  obtain ⟨r, q, lock', hrounds, hhandle, hfinished, hvisits⟩ := rounds_place hsaved records.length 0 lock
    (fun hn => hkeeps saved hsaved (List.ne_nil_of_length_pos hn)) RecordAt.first hrounds
  have hlive : (h.place p lock).live = .ok () := live_place hh
  have hopened : (!(h.place p lock).opened) = false := by simp [Handle.place, hh.opened]
  refine ⟨r.ret, lock', r.finished ++ [⟨p, p, r.ret, r.visited, r.zero, r.kept⟩], ?_, fun f hf => ?_⟩
  · rw [Handle.iterate, hlive, ok_bind, hopened, if_neg (by simp), hcount]
    change (rounds callback records.length 0 (saved.place saved.sdr.recordsStartOffset lock) >>= _) = _
    rw [hrounds, ok_bind, hhandle]
    rfl
  · rcases List.mem_append.mp hf with hf | hf
    · exact hfinished f hf
    · obtain rfl := List.mem_singleton.mp hf
      exact ⟨rfl, hvisits records (fun _ => hsaved.walk) rfl⟩

/-- The run lemma: a guarded run leaves the cache open, and its iterations are good. -/
theorem Program.run_place (ndebug : Bool) (prog : Program) (hne : records ≠ []) :
    ∀ {h : Handle} {p : ℕ} {locked lock : Bool}, h.Caches records → h.sdr.RecordAt p →
      prog.Guarded ndebug locked (h.place p lock) → (locked = true → lock = true) →
      ∃ ret q lock' fs, prog.run ndebug (h.place p lock) = .ok ⟨ret, h.place q lock', fs⟩
        ∧ h.sdr.RecordAt q ∧ ∀ f ∈ fs, Finished.Good records f := by
  induction prog with
  | done ret =>
    intro h p locked lock hh hp _ _
    exact ⟨ret, p, lock, [], rfl, hp, by simp⟩
  | call c k ih =>
    intro h p locked lock hh hp hguarded hlock
    obtain ⟨hlooks, hguarded⟩ := hguarded
    obtain ⟨reply, q, hcall, hq⟩ := call_place hh (hh.walk.endsInside hne) hp hlooks
    obtain ⟨ret, q', lock', fs, hrun, hrest⟩ := ih reply hh hq (hguarded reply _ hcall) hlock
    exact ⟨ret, q', lock', fs, by rw [Program.run, hcall, ok_bind]; exact hrun, hrest⟩
  | close k ih =>
    intro h p locked lock hh hp hguarded hlock
    obtain ⟨hlocked, hguarded⟩ := hguarded
    obtain rfl := hlock hlocked
    obtain ⟨ret, q, lock', fs, hrun, hrest⟩ := ih false hh hp (hguarded _ _ (close_place hh)) hlock
    exact ⟨ret, q, lock', fs, by rw [Program.run, close_place hh, ok_bind]; exact hrun, hrest⟩
  | destroy k ih =>
    intro h p locked lock hh hp hguarded hlock
    obtain ⟨hlocked, hguarded⟩ := hguarded
    obtain rfl := hlock hlocked
    obtain ⟨ret, q, lock', fs, hrun, hrest⟩ := ih hh hp (hguarded _ (destroy_place hh)) hlock
    exact ⟨ret, q, lock', fs, by rw [Program.run, destroy_place hh, ok_bind]; exact hrun, hrest⟩
  | iterate callback k ihcallback ihk =>
    intro h p locked lock hh hp hguarded _
    obtain ⟨hiterating, hlater⟩ := hguarded
    obtain ⟨ret, lock', fs, hiterate, hgood⟩ := iterate_place p lock hh
      (fun h hh _ => ⟨hh.walk.endsInside hne, fun i record p hp hcallback =>
        ihcallback i record hh hp hcallback fun _ => rfl⟩) hiterating
    obtain ⟨ret', q, lock'', fs', hrun, hq, hgood'⟩ := ihk ret hh hp (hlater _ hiterate) (by simp)
    refine ⟨ret', q, lock'', fs ++ fs', ?_, hq, fun f hf => ?_⟩
    · rw [Program.run, hiterate, ok_bind, hrun, ok_bind]
      rfl
    · rcases List.mem_append.mp hf with hf | hf
      · exact hgood f hf
      · exact hgood' f hf

end runs

/-- Where no callback that is called closes or destroys the context behind an iteration of its own, an iteration
    and all the iterations in its callbacks put the cursor back, each of them visits every record
    once and in order if its callbacks return 0 with the cursor where it was, and the cache stays open. -/
theorem iterate_reentrant {ndebug : Bool} {h : Handle} {records : List (List Byte)}
    {callback : ℕ → List Byte → Program} (hh : h.Caches records)
    (hguarded : (Program.iterate callback .done).Guarded ndebug false h) :
    ∃ out, (Program.iterate callback .done).run ndebug h = .ok out
      ∧ out.handle.opened = true ∧ out.handle.freed = false ∧ out.handle.sdr = h.sdr
      ∧ ∀ f ∈ out.finished, f.Good records := by
  have hplace : h.place h.sdr.currentOffset h.callbackLock = h := rfl
  obtain ⟨ret, lock', fs, hiterate, hgood⟩ := iterate_place h.sdr.currentOffset h.callbackLock hh
    (fun h hh hne => ⟨hh.walk.endsInside hne, fun i record p hp hcallback =>
      (callback i record).run_place ndebug hne hh hp hcallback fun _ => rfl⟩) hguarded.1
  rw [hplace] at hiterate
  refine ⟨⟨ret, h.place h.sdr.currentOffset lock', fs⟩, ?_, hh.opened, hh.alive, rfl, hgood⟩
  rw [Program.run, hiterate, ok_bind, Program.run, ok_bind]
  simp
  rfl

/-- A context with the cache of two records. -/
def sampleHandle : Handle where
  sdr :=
    { sdrVersion := 0x51
      recordCount := 2
      mostRecentAdditionTimestamp := 7
      mostRecentEraseTimestamp := 9
      sdrCache := cacheFile ⟨0x51, 2, 7, 9⟩ sampleRecords
      recordsStartOffset := 20
      recordsEndOffset := 33
      currentOffset := 20
      savedOffsets := [] }
  opened := true
  callbackLock := false
  freed := false

theorem sampleHandle_caches : sampleHandle.Caches sampleRecords where
  opened := rfl
  alive := rfl
  walk := ⟨⟨fileHeader ⟨0x51, 2, 7, 9⟩, fileTrailer sampleRecords, rfl, rfl⟩, rfl, by
    intro r hr
    rcases List.mem_cons.mp hr with rfl | hr
    · exact ⟨by decide, by decide⟩
    · obtain rfl := List.mem_singleton.mp hr
      exact ⟨by decide, by decide⟩⟩
  count := rfl

/-- A callback that tries to close the context, and iterates again; it would close the context behind that
    if the iteration failed. -/
def closeAndIterate : ℕ → List Byte → Program :=
  fun _ _ => .close fun _ => .iterate (fun _ _ => .done 0) fun ret =>
    if ret = 0 then .done 0 else .close fun _ => .done ret

theorem roundsGuarded_of_forall {callback : ℕ → List Byte → Handle → Except SdrStop Outcome}
    {guarded : ℕ → List Byte → Handle → Prop} (hguarded : ∀ i record h, guarded i record h) (n i : ℕ)
    (h : Handle) : roundsGuarded callback guarded n i h := by
  induction n generalizing i h with
  | zero => trivial
  | succ n ih => exact fun record _ => ⟨hguarded i record _, fun out _ _ h' _ => ih (i + 1) h'⟩

/-- The context in a callback for a record. -/
def sampleNested (p : ℕ) : Handle :=
  { sampleHandle with
    sdr := { sampleHandle.sdr with currentOffset := p, savedOffsets := [20] }, callbackLock := true }

theorem closeAndIterate_callback {p : ℕ} (hp : p = 20 ∨ p = 26) (i : ℕ) (record : List Byte) :
    (closeAndIterate i record).Guarded false true (sampleNested p) := by
  refine ⟨rfl, fun closed h' hclose => ⟨fun _ => roundsGuarded_of_forall (fun _ _ _ => trivial) _ _ _,
    fun out hout => ?_⟩⟩
  have hret : out.ret = 0 := by
    cases hclose
    rcases hp with rfl | rfl <;> cases hout <;> rfl
  rw [hret]
  trivial

theorem closeAndIterate_run (i : ℕ) (record : List Byte) :
    (closeAndIterate i record).run false (sampleNested 20) = .ok ⟨0,
      { sampleNested 20 with callbackLock := false }, [⟨20, 20, 0, sampleRecords, true, true⟩]⟩ := by
  unfold closeAndIterate
  decide +kernel

theorem closeAndIterate_guarded :
    (Program.iterate closeAndIterate .done).Guarded false false sampleHandle := by
  refine ⟨fun _ record _ => ⟨closeAndIterate_callback (.inl rfl) _ _, fun out hout _ h' hnext => ?_⟩,
    fun _ _ => trivial⟩
  obtain rfl := Except.ok.inj ((closeAndIterate_run 0 record).symm.trans hout)
  cases hnext
  exact fun record' _ => ⟨closeAndIterate_callback (.inr rfl) _ _, fun _ _ _ _ _ => trivial⟩

/-- Both iterations in the callbacks, and the one around them, visit both records. -/
theorem iterate_reentrant_sample :
    ∃ out, (Program.iterate closeAndIterate .done).run false sampleHandle = .ok out
      ∧ out.handle.opened = true
      ∧ out.finished.map (·.visited) = [sampleRecords, sampleRecords, sampleRecords] := by
  obtain ⟨out, hrun, hopened, -⟩ := iterate_reentrant sampleHandle_caches closeAndIterate_guarded
  have hvisited : ((Program.iterate closeAndIterate .done).run false sampleHandle).toOption.map
      (·.finished.map (·.visited)) = some [sampleRecords, sampleRecords, sampleRecords] := by
    decide +kernel
  rw [hrun] at hvisited
  exact ⟨out, hrun, hopened, Option.some.inj hvisited⟩

/-- A callback that closes the context behind an iteration of its own. -/
def iterateAndClose : ℕ → List Byte → Program :=
  fun _ _ => .iterate (fun _ _ => .done 0) fun _ => .close fun _ => .done 0

/-- The lock is clear behind that iteration, and the cache is released under the outer one. -/
theorem released : ¬ ∀ (h : Handle) (records : List (List Byte)) (callback : ℕ → List Byte → Program),
    h.Caches records → ∃ out, (Program.iterate callback .done).run false h = .ok out
      ∧ out.handle.opened = true
      ∧ ∀ f ∈ out.finished, f.after = f.before ∧ (f.zero = true → f.visited = records) := by
  intro h
  obtain ⟨out, hrun, hopened, -⟩ := h sampleHandle sampleRecords iterateAndClose sampleHandle_caches
  have hclosed : ((Program.iterate iterateAndClose .done).run false sampleHandle).toOption.map
      (·.handle.opened) = some false := by decide +kernel
  rw [hrun] at hclosed
  simp [Except.toOption, hopened] at hclosed

end FreeIpmi.Sdr
