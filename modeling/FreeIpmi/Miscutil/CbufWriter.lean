import FreeIpmi.Miscutil.CbufMoves

/-! `cbuf_writer` of `common/miscutil/cbuf.c`: the buffer grows if it must and may, and what is written
    then comes behind what is stored; what does not fit is lost at the front of the tape. -/

namespace FreeIpmi.Miscutil
open Ring Calls

/-! ### The loop -/

section Write
variable {σ : Type} {getf : σ → ℕ → Except Stop (Except CbufErr (List Byte) × σ)}
  {stream : σ → List Byte} {room : σ → ℕ → Prop}

/-- What is got from an object is taken off its stream. -/
structure Gets (getf : σ → ℕ → Except Stop (Except CbufErr (List Byte) × σ)) (stream : σ → List Byte)
    (room : σ → ℕ → Prop) : Prop where
  get : ∀ src nleft n, 0 < n → n ≤ nleft → room src nleft → ∃ m src', getf src n = .ok (m, src') ∧
    ((∃ b, m = .ok b ∧ b.length ≤ n ∧ stream src = b ++ stream src' ∧ room src' (nleft - b.length)) ∨
      ∃ e, m = .error e ∧ stream src' = stream src)
  fewer : ∀ src n n', n' ≤ n → room src n → room src n'

/-- Everything that is asked for is got. -/
def GetsAll (getf : σ → ℕ → Except Stop (Except CbufErr (List Byte) × σ)) : Prop :=
  ∀ src n m src', getf src n = .ok (m, src') → ∃ b, m = .ok b ∧ b.length = n

/-- What a loop has written that should write `len` bytes: the ring is shifted by `b`. -/
structure LoopWrote (getf : σ → ℕ → Except Stop (Except CbufErr (List Byte) × σ))
    (stream : σ → List Byte) (data : List Byte) (iDst len : ℕ) (m : Ret) (src : σ) (b data' : List Byte)
    (iDst' nleft : ℕ) (m' : Ret) (src' : σ) : Prop where
  length : b.length + nleft = len
  stream : stream src = b ++ stream src'
  dataLen : data'.length = data.length
  ring : data'.rotate iDst' = shift (data.rotate iDst) b
  index : iDst' = (iDst + b.length) % data.length
  last : b = [] → m' = m ∨ Counts m' 0
  all : GetsAll getf → nleft = 0

theorem LoopWrote.nothing {data : List Byte} {iDst len : ℕ} {m m' : Ret} {src src' : σ}
    (hi : iDst < data.length) (hstream : stream src' = stream src) (hlast : m' = m ∨ Counts m' 0)
    (hall : GetsAll getf → len = 0) :
    LoopWrote getf stream data iDst len m src [] data iDst len m' src' := by
  refine ⟨Nat.zero_add _, hstream.symm, rfl, (shift_nil _).symm, ?_, fun _ => hlast, hall⟩
  rw [List.length_nil, Nat.add_zero, Nat.mod_eq_of_lt hi]

theorem writeLoop_spec (hget : Gets getf stream room) : ∀ (fuel : ℕ) {data : List Byte}
    {iDst len ring : ℕ} {m : Ret} {src : σ}, data.length = ring → len ≤ fuel → iDst < ring → room src len →
    ∃ b data' iDst' nleft m' src',
      writeLoop getf ring fuel data iDst len m src = .ok (data', iDst', nleft, m', src') ∧
      LoopWrote getf stream data iDst len m src b data' iDst' nleft m' src'
  | 0, data, iDst, len, _, m, src, rfl, hfuel, hi, _ =>
    ⟨[], data, iDst, len, m, src, rfl, LoopWrote.nothing hi rfl (Or.inl rfl) fun _ => by omega⟩
  | fuel + 1, data, iDst, len, ring, m, src, hdata, hfuel, hi, hroom => by
    subst hdata
    by_cases hzero : len = 0
    · refine ⟨[], data, iDst, len, m, src, ?_, LoopWrote.nothing hi rfl (Or.inl rfl) fun _ => hzero⟩
      rw [writeLoop, if_pos hzero]
    obtain ⟨n, hn⟩ : ∃ n, n = min len (data.length - iDst) := ⟨_, rfl⟩
    obtain ⟨r, src₁, hcall, hr⟩ := hget.get src len n (by omega) (by omega) hroom
    rw [writeLoop, if_neg hzero, ← hn]
    simp only [hcall, ok_bind]
    rcases hr with ⟨b, rfl, hb, hstream, hroom₁⟩ | ⟨e, rfl, hstream⟩
    · have hfits : iDst + b.length ≤ data.length := by omega
      have hputLen := length_put hfits
      have hring : (put data iDst b).rotate ((iDst + b.length) % data.length)
          = shift (data.rotate iDst) b := by
        rw [rotate_mod_length _ hputLen, rotate_put hfits]
      by_cases hshort : n = b.length
      · simp only [ne_eq, hshort, not_true_eq_false, if_false]
        have hmod : (iDst + b.length) % data.length < data.length := Nat.mod_lt _ (by omega)
        obtain ⟨b', data', iDst', nleft, m', src', hloop, hspec⟩ :=
          writeLoop_spec hget fuel (m := .ok b.length) hputLen (show len - b.length ≤ fuel by omega) hmod
            hroom₁
        refine ⟨b ++ b', data', iDst', nleft, m', src', hloop, ⟨?_, ?_, ?_, ?_, ?_, ?_, hspec.all⟩⟩
        · have hlen := hspec.length
          rw [List.length_append]
          omega
        · rw [hstream, hspec.stream, List.append_assoc]
        · rw [hspec.dataLen, hputLen]
        · rw [hspec.ring, hring, shift_shift]
        · rw [hspec.index, hputLen, Nat.mod_add_mod, List.length_append, Nat.add_assoc]
        · intro hnil
          rw [(List.append_eq_nil_iff.mp hnil).1, List.length_nil] at hshort
          omega
      · simp only [ne_eq, hshort, not_false_eq_true, if_true]
        refine ⟨b, _, _, _, _, src₁, rfl, ⟨by omega, hstream, hputLen, hring, rfl, ?_, ?_⟩⟩
        · intro hnil
          exact Or.inr (Or.inl (by rw [hnil]; rfl))
        · intro hall
          obtain ⟨b', hb', hlen⟩ := hall _ _ _ _ hcall
          rw [← Except.ok.inj hb'] at hlen
          exact absurd hlen.symm hshort
    · refine ⟨[], data, iDst, len, .error e, src₁, rfl,
        LoopWrote.nothing hi hstream (Or.inr (Or.inr ⟨rfl, e, rfl⟩)) fun hall => ?_⟩
      obtain ⟨b, hb, -⟩ := hall _ _ _ _ hcall
      cases hb

end Write

/-! ### Growing -/

section Grow
variable {overhead : ℕ} {cb : Cbuf} {q : Fifo} {n len : ℕ} {mem : Mem}

/-- There is more room on the tape. -/
def Fifo.grow (q : Fifo) (n : ℕ) : Fifo := { q with tape := q.tape.grow n }

/-- The bytes of the tape are where they were, or moved to the new end. -/
theorem Cbuf.Holds.enlarge (h : cb.Holds overhead q) (hpos : 0 < n) (hn : cb.size + n ≤ cb.maxsize)
    (junk : ℕ → Byte) :
    (cb.enlarge (cb.alloc + n) (cb.size + n) junk).Holds overhead (q.grow n) := by
  obtain ⟨hstored, hunread⟩ := h.storedLe
  have hiIn := h.iIn
  have halloc := h.alloc
  have hminLe := h.minLe
  have hdataLen := h.dataLen
  have hsize := h.size
  have hjunk : (junkBytes junk (cb.size + n - cb.size)).length = n := by
    simp [junkBytes]
  have hlong : (cb.data ++ junkBytes junk (cb.size + n - cb.size)).length = cb.size + n + 1 := by
    rw [List.length_append, hjunk, hdataLen]
    omega
  have hrep := h.iRep
  have hout := h.iOut
  have hiInLong : cb.iIn ≤ (cb.data ++ junkBytes junk (cb.size + n - cb.size)).length := by
    rw [hlong]
    omega
  have htake : (cb.data ++ junkBytes junk (cb.size + n - cb.size)).take cb.iIn = cb.data.take cb.iIn :=
    List.take_append_of_le_length (by omega)
  have hframe : cb.size + n = q.tape.size + n ∧ cb.alloc + n = cb.size + n + overhead ∧
      cb.minsize ≤ cb.size + n ∧ cb.iIn < cb.size + n + 1 := by
    rw [hsize]
    omega
  rw [Cbuf.enlarge]
  by_cases hwrap : cb.iRep > cb.iIn
  · have hlongStored : cb.iIn < q.tape.stored.length ∧ cb.iRep = cb.iIn + (cb.size + 1) - q.tape.stored.length := by
      rw [hrep, back] at hwrap ⊢
      split_ifs at hwrap ⊢ <;> omega
    obtain ⟨hlongStored, hrepEq⟩ := hlongStored
    have hm : cb.size + n + 1 - (cb.size + 1 - cb.iRep) = cb.iRep + n := by omega
    have hmoved : (cb.data.drop cb.iRep).length = cb.size + 1 - cb.iRep := by
      rw [List.length_drop, hdataLen]
    have hroom : cb.iRep + n + (cb.data.drop cb.iRep).length
        = (cb.data ++ junkBytes junk (cb.size + n - cb.size)).length := by
      omega
    have hput := length_put hroom.le
    have hring : q.tape.stored <:+ (put (cb.data ++ junkBytes junk (cb.size + n - cb.size)) (cb.iRep + n)
        (cb.data.drop cb.iRep)).rotate cb.iIn := by
      have hfront := congrArg (List.take cb.iIn) (take_put hroom.le)
      rw [List.take_take, List.take_take, Nat.min_eq_left (by omega), htake] at hfront
      refine suffix_enlarge h.stored (by omega) (by rw [hput]; exact hiInLong) hfront fun _ => ?_
      have hsplit : cb.data.length + cb.iIn - q.tape.stored.length = cb.iRep := by omega
      have hend := drop_put hroom
      have hbehind : cb.iRep + n = cb.iIn + (cb.iRep + n - cb.iIn) := by omega
      rw [hsplit]
      nth_rewrite 1 [← hend]
      nth_rewrite 1 [hbehind]
      rw [← List.drop_drop]
      exact List.drop_suffix _ _
    rw [if_pos hwrap, hm]
    refine ⟨hframe.1, h.maxsize, h.overwrite, hframe.2.1, h.overheadPos, h.minPos, hframe.2.2.1, hn,
      hput.trans hlong, hframe.2.2.2, hring, h.used, ?_, ?_, ?_⟩
    · show (if cb.iOut ≥ cb.iRep then _ else _) = back (cb.size + n + 1) cb.iIn q.tape.unread.length
      rw [hout, back, back]
      split_ifs <;> omega
    · show cb.iRep + n = back (cb.size + n + 1) cb.iIn q.tape.stored.length
      rw [back]
      split_ifs <;> omega
    · rcases h.wrapped with hgot | hzero
      · exact Or.inl hgot
      · omega
  · rw [if_neg hwrap]
    have hshort : q.tape.stored.length ≤ cb.iIn := by
      rw [hrep, back] at hwrap
      split at hwrap <;> omega
    have hring := suffix_enlarge h.stored (by omega) hiInLong htake fun hlt =>
      absurd hlt (Nat.not_lt.mpr hshort)
    refine ⟨hframe.1, h.maxsize, h.overwrite, hframe.2.1, h.overheadPos, h.minPos, hframe.2.2.1, hn, hlong,
      hframe.2.2.2, hring, h.used, ?_, ?_, h.wrapped⟩
    · show cb.iOut = back (cb.size + n + 1) cb.iIn q.tape.unread.length
      rw [hout, back, back, if_pos (by omega), if_pos (by omega)]
    · show cb.iRep = back (cb.size + n + 1) cb.iIn q.tape.stored.length
      rw [hrep, back, back, if_pos hshort, if_pos hshort]

/-- How far a buffer grows that needs `n` more bytes: at least that far, if there is memory and the
    maximum lets it. -/
structure Grown (size maxsize n : ℕ) (mem : Mem) (k : ℕ) : Prop where
  le : size + k ≤ maxsize
  without : mem = none → k = 0
  enough : mem ≠ none → min n (maxsize - size) ≤ k

/-- `cbuf_grow`. -/
theorem cbufGrow_spec (h : cb.Holds overhead q) (hpos : 0 < n) (hsmall : cb.size < cb.maxsize)
    (hint : cb.alloc + n + cbufChunk ≤ intMax) (mem : Mem) :
    ∃ k cb', cbufGrow cb n mem = .ok (k, cb') ∧ cb'.Holds overhead (q.grow k) ∧
      Grown cb.size cb.maxsize n mem k := by
  have halloc := h.alloc
  have hround := Nat.mod_lt (cb.alloc + n) (show 0 < cbufChunk by decide)
  obtain ⟨m, hm⟩ : ∃ m, m = min (cb.alloc + n + (cbufChunk - (cb.alloc + n) % cbufChunk))
    (cb.maxsize + (cb.alloc - cb.size)) := ⟨_, rfl⟩
  have hmLarge : m > cb.alloc := by omega
  have hsum : intSum (cb.alloc + n + (cbufChunk - (cb.alloc + n) % cbufChunk))
      = .ok (cb.alloc + n + (cbufChunk - (cb.alloc + n) % cbufChunk)) := intSum_le (by omega)
  rw [cbufGrow, demand_true hpos, ok_bind, if_neg (by omega)]
  simp only [hsum, ok_bind, ← hm, demand_true hmLarge]
  cases mem with
  | none =>
    exact ⟨0, cb, rfl, h, ⟨hsmall.le, fun _ => rfl, fun hne => absurd rfl hne⟩⟩
  | some junk =>
    have hsizes : m = cb.alloc + (m - cb.alloc) ∧ m - (cb.alloc - cb.size) = cb.size + (m - cb.alloc) := by
      omega
    have hholds := h.enlarge (show 0 < m - cb.alloc by omega) (by omega) junk
    rw [← hsizes.1, ← hsizes.2] at hholds
    have hgrown : (cb.enlarge m (m - (cb.alloc - cb.size)) junk).size - cb.size = m - cb.alloc := by
      have hsize := hholds.size
      have hsize' := h.size
      rw [hsize]
      show q.tape.size + (m - cb.alloc) - cb.size = _
      omega
    simp only [demand_true hholds.isValid, ok_bind, hgrown]
    exact ⟨_, _, rfl, hholds, ⟨by omega, fun hnone => absurd hnone (Option.some_ne_none _), fun _ => by omega⟩⟩

end Grow

/-! ### The writer -/

/-- How much of `len` bytes is written. -/
def Fifo.writeLen (q : Fifo) (len : ℕ) : ℕ :=
  match q.overwrite with
  | .noDrop => min len (q.tape.size - q.tape.unread.length)
  | .wrapOnce => min len q.tape.size
  | .wrapMany => len

/-- New bytes come behind. -/
def Fifo.push (q : Fifo) (b : List Byte) : Fifo := { q with tape := q.tape.push b }

/-- How far the tape grows for `len` bytes. -/
def Fifo.Room (q : Fifo) (len : ℕ) (mem : Mem) (k : ℕ) : Prop :=
  if len > q.tape.size - q.tape.unread.length ∧ q.tape.size < q.maxsize then
    Grown q.tape.size q.maxsize (len - (q.tape.size - q.tape.unread.length)) mem k
  else k = 0

section Writer
variable {overhead : ℕ} {cb : Cbuf} {q : Fifo} {len : ℕ}

theorem Cbuf.Holds.writeLen (h : cb.Holds overhead q) (len : ℕ) : cb.writeLen len = q.writeLen len := by
  have hoverwrite := h.overwrite
  cases hq : q.overwrite <;>
    simp only [Cbuf.writeLen, Fifo.writeLen, hoverwrite, hq, h.size, h.used]

/-- What can be asked for without an overflow. -/
def FitsInt (overhead : ℕ) (q : Fifo) (len : ℕ) : Prop :=
  2 * q.maxsize + overhead + len + cbufChunk ≤ intMax

theorem cbufRoom_spec (h : cb.Holds overhead q) (hint : FitsInt overhead q len) (mem : Mem) :
    ∃ k cb', cbufRoom cb len mem = .ok (cb'.size - cb'.used, cb') ∧ cb'.Holds overhead (q.grow k) ∧
      q.Room len mem k := by
  have hsize := h.size
  have hmaxsize := h.maxsize
  have hused := h.used
  have halloc := h.alloc
  have hle := h.le
  rw [FitsInt] at hint
  simp only [cbufRoom, Fifo.Room, ← hsize, ← hmaxsize, ← hused]
  by_cases hgrow : len > cb.size - cb.used ∧ cb.size < cb.maxsize
  · obtain ⟨k, cb', hcall, hholds, hgrown⟩ := cbufGrow_spec h (n := len - (cb.size - cb.used))
      (by omega) hgrow.2 (by omega) mem
    refine ⟨k, cb', ?_, hholds, by rwa [if_pos hgrow]⟩
    rw [if_pos hgrow]
    have hsize' : cb'.size = q.tape.size + k := hholds.size
    have hused' : cb'.used = q.tape.unread.length := hholds.used
    have hunread := h.storedLe
    simp only [hcall, ok_bind]
    rw [hsize', hused', hused, hsize, show q.tape.size - q.tape.unread.length + k
      = q.tape.size + k - q.tape.unread.length by omega]
    rfl
  · exact ⟨0, cb, by rw [if_neg hgrow], h, by rw [if_neg hgrow]⟩

/-- The new indices are those of the new tape. -/
theorem Cbuf.Holds.written (h : cb.Holds overhead q) {b data : List Byte} {iDst : ℕ}
    (hpos : 0 < b.length) (hdataLen : data.length = cb.data.length)
    (hring : data.rotate iDst = shift (cb.data.rotate cb.iIn) b)
    (hindex : iDst = (cb.iIn + b.length) % cb.data.length) :
    (cb.written (cb.size - cb.used) b.length iDst data).Holds overhead (q.push b) := by
  obtain ⟨hstored, hunread⟩ := h.storedLe
  have hlen := q.tape.length_stored
  have hiIn := h.iIn
  have hused := h.used
  have hsize := h.size
  rw [h.dataLen] at hindex
  have hiDst : iDst < cb.size + 1 := by
    rw [hindex]
    exact Nat.mod_lt _ (Nat.succ_pos _)
  have hstoredPush : (q.push b).tape.stored = (q.tape.stored ++ b).rtake cb.size := by
    rw [hsize]
    exact q.tape.stored_push b
  have hstoredLen : (q.push b).tape.stored.length = min cb.size (q.tape.stored.length + b.length) := by
    rw [hstoredPush, length_rtake, List.length_append]
  have hunreadLen : (q.push b).tape.unread.length = min cb.size (q.tape.unread.length + b.length) := by
    show ((q.tape.unread ++ b).rtake q.tape.size).length = _
    rw [length_rtake, List.length_append, hsize]
  have hwraps : b.length + cb.reused > cb.size - cb.used ↔
      cb.size < q.tape.stored.length + b.length := by
    rw [h.reused, hused]
    omega
  have hlong : b.length > cb.size - cb.used ↔ cb.size < q.tape.unread.length + b.length := by
    rw [hused]
    omega
  -- a full tape ends right behind the next index
  have hfull : (iDst + 1) % (cb.size + 1) = back (cb.size + 1) iDst cb.size := by
    rw [mod_wrap (by omega), back]
    split_ifs <;> omega
  have hback : ∀ k, k + b.length ≤ cb.size →
      back (cb.size + 1) cb.iIn k = back (cb.size + 1) iDst (k + b.length) := by
    intro k hk
    rw [hindex, mod_wrap (by omega), back, back]
    split_ifs <;> omega
  have hrep : (if b.length + cb.reused > cb.size - cb.used then (iDst + 1) % (cb.size + 1) else cb.iRep)
      = back (cb.size + 1) iDst (q.push b).tape.stored.length := by
    rw [hstoredLen]
    by_cases hwrap : cb.size < q.tape.stored.length + b.length
    · rw [if_pos (hwraps.mpr hwrap), Nat.min_eq_left hwrap.le, hfull]
    · rw [if_neg (mt hwraps.mp hwrap), Nat.min_eq_right (by omega), h.iRep, hback _ (by omega)]
  refine ⟨hsize, h.maxsize, h.overwrite, h.alloc, h.overheadPos, h.minPos, h.minLe, h.le,
    hdataLen.trans h.dataLen, hiDst, ?_, ?_, ?_, hrep, ?_⟩
  · show (q.push b).tape.stored <:+ data.rotate iDst
    rw [hring]
    refine suffix_shift h.stored (hstoredPush ▸ rtake_suffix _ _) ?_
    rw [List.length_rotate, h.dataLen]
    omega
  · show min (cb.used + b.length) cb.size = _
    rw [hunreadLen, hused, Nat.min_comm]
  · show (if b.length > cb.size - cb.used then _ else cb.iOut) = back (cb.size + 1) iDst _
    by_cases hlost : cb.size < q.tape.unread.length + b.length
    · rw [if_pos (hlong.mpr hlost), hrep, hunreadLen, hstoredLen, Nat.min_eq_left hlost.le,
        Nat.min_eq_left (by omega)]
    · rw [if_neg (mt hlong.mp hlost), h.iOut, hunreadLen, Nat.min_eq_right (by omega),
        hback _ (by omega)]
  · show (cb.gotWrap || decide (b.length + cb.reused > cb.size - cb.used)) = true ∨ _
    by_cases hwrap : b.length + cb.reused > cb.size - cb.used
    · exact Or.inl (by simp [hwrap])
    · rcases h.wrapped with hgot | hzero
      · exact Or.inl (by simp [hgot])
      · refine Or.inr ?_
        show (if b.length + cb.reused > cb.size - cb.used then _ else cb.iRep) = 0
        rw [if_neg hwrap, hzero]

theorem push_nil (q : Fifo) : q.push [] = q := by
  obtain ⟨t, overwrite, maxsize⟩ := q
  have hle := t.le
  have hpush : t.push [] = t := by
    refine Tape.ext_stored rfl ?_ ?_
    · rw [t.stored_push, List.append_nil, List.rtake, t.length_stored, Nat.sub_eq_zero_of_le hle,
        List.drop_zero]
    · show ((t.unread ++ []).rtake t.size).length = _
      rw [List.append_nil, length_rtake]
      omega
  rw [Fifo.push, hpush]

variable {σ : Type} {getf : σ → ℕ → Except Stop (Except CbufErr (List Byte) × σ)}
  {stream : σ → List Byte} {room : σ → ℕ → Prop}

/-- What a writer has taken off the stream, where the tape has grown already: `b` comes behind what is
    stored. -/
structure Wrote (getf : σ → ℕ → Except Stop (Except CbufErr (List Byte) × σ)) (stream : σ → List Byte)
    (q : Fifo) (len : ℕ) (src : σ) (ret : Ret) (ndropped : ℕ) (b : List Byte) (src' : σ) : Prop where
  stream : stream src = b ++ stream src'
  le : b.length ≤ q.writeLen len
  dropped : ndropped = q.tape.unread.length + b.length - q.tape.size
  full : q.writeLen len = 0 → ret = .error .enospc
  ret : Counts ret b.length
  all : GetsAll getf → b.length = q.writeLen len

/-- `cbuf_writer`. -/
theorem cbufWriter_spec (hget : Gets getf stream room) (h : cb.Holds overhead q) (hlen : 0 < len)
    (hint : FitsInt overhead q len) {src : σ} (hroom : room src len) (mem : Mem) :
    ∃ ret ndropped cb' src' k b, cbufWriter cb len getf src mem = .ok (ret, ndropped, cb', src') ∧
      cb'.Holds overhead ((q.grow k).push b) ∧ q.Room len mem k ∧
      Wrote getf stream (q.grow k) len src ret ndropped b src' := by
  obtain ⟨k, cb₁, hcall, hholds, hgrown⟩ := cbufRoom_spec h hint mem
  obtain ⟨hstored, hunread⟩ := hholds.storedLe
  have hsize := hholds.size
  have hused := hholds.used
  have hle := hholds.le
  have hmaxsize : cb₁.maxsize = q.maxsize := hholds.maxsize
  have hwriteLe : (q.grow k).writeLen len ≤ len := by
    rw [Fifo.writeLen]
    split <;> omega
  rw [cbufWriter, demand_true hlen, ok_bind, hcall, ok_bind]
  simp only [hholds.writeLen]
  by_cases hfull : (q.grow k).writeLen len = 0
  · refine ⟨_, _, _, src, k, [], by rw [if_pos hfull]; rfl, ?_, hgrown,
      ⟨rfl, Nat.zero_le _, ?_, fun _ => rfl, Or.inr ⟨rfl, _, rfl⟩, fun _ => hfull.symm⟩⟩
    · rw [push_nil]
      exact hholds
    · rw [List.length_nil]
      omega
  · have hiIn : cb₁.iIn < cb₁.data.length := by
      rw [hholds.dataLen]
      exact hholds.iIn
    obtain ⟨b, data', iDst', nleft, m', src', hloop, hspec⟩ := writeLoop_spec hget
      ((q.grow k).writeLen len) (m := .ok 0) hholds.dataLen le_rfl hholds.iIn (hget.fewer _ _ _ hwriteLe hroom)
    have hsum := hspec.length
    have hlenB : (q.grow k).writeLen len - nleft = b.length := by omega
    rw [if_neg hfull, hloop, ok_bind]
    simp only [demand_true (show nleft ≤ (q.grow k).writeLen len by omega), ok_bind, hlenB]
    by_cases hzero : b.length = 0
    · obtain rfl := List.length_eq_zero_iff.mp hzero
      have hring := hspec.ring
      have hindex := hspec.index
      rw [List.length_nil, Nat.add_zero, Nat.mod_eq_of_lt hiIn] at hindex
      rw [shift_nil, hindex] at hring
      refine ⟨_, _, _, src', k, [], by rw [if_pos hzero]; rfl, ?_, hgrown,
        ⟨hspec.stream, Nat.zero_le _, ?_, fun hnone => absurd hnone hfull, ?_, fun hall => ?_⟩⟩
      · rw [push_nil]
        exact ⟨hholds.size, hholds.maxsize, hholds.overwrite, hholds.alloc, hholds.overheadPos,
          hholds.minPos, hholds.minLe, hholds.le, hspec.dataLen.trans hholds.dataLen, hholds.iIn,
          hring ▸ hholds.stored, hholds.used, hholds.iOut, hholds.iRep, hholds.wrapped⟩
      · rw [List.length_nil]
        omega
      · rcases hspec.last rfl with rfl | hcounts
        · exact Or.inl rfl
        · exact hcounts
      · have hall := hspec.all hall
        omega
    · have hfits : cb₁.used + b.length ≤ intMax := by
        rw [FitsInt] at hint
        omega
      have hindex := hspec.index
      have hwritten := hholds.written (by omega) hspec.dataLen hspec.ring hindex
      rw [hholds.dataLen] at hindex
      refine ⟨.ok b.length, b.length - (cb₁.size - cb₁.used), _, src', k, b, ?_, hwritten, hgrown,
        ⟨hspec.stream, by omega, ?_, fun hnone => absurd hnone hfull, Or.inl rfl, fun hall => ?_⟩⟩
      · rw [if_neg hzero, intSum_le hfits, ok_bind, demand_true hindex]
        rfl
      · have htape := (q.grow k).tape.le
        rw [hused, hsize]
        omega
      · have hall := hspec.all hall
        omega

end Writer

end FreeIpmi.Miscutil
