import FreeIpmi.Miscutil.CbufWriter

/-! Runs of calls on a circular buffer of `common/miscutil/cbuf.c`, beside the tape that it stands for.

    `Fifo.Step` says what each call does to the tape and what its caller sees of it, in whatever way
    `malloc`, `read` and `write` answer. No assertion fails in any run, and what the callers see is what
    the tape says; so bytes come out in the order in which they went in, and those that are missing are
    counted in `ndropped`. -/

namespace FreeIpmi.Miscutil
open Ring Calls

/-! ### Memory and descriptors -/

theorem cbufPutMem_puts : Puts cbufPutMem id where
  put dst b hne := by
    refine ⟨.ok b.length, dst ++ b, ?_, Or.inl ⟨b.length, rfl, le_rfl, ?_⟩⟩
    · rw [cbufPutMem, demand_true (List.length_pos_of_ne_nil hne)]
      rfl
    · rw [List.take_length]
      rfl

theorem cbufPutMem_putsAll : PutsAll cbufPutMem := by
  intro dst b hne
  refine ⟨dst ++ b, ?_⟩
  rw [cbufPutMem, demand_true (List.length_pos_of_ne_nil hne)]
  rfl

theorem writeFd_spec (b : List Byte) : ∀ (answers : List Ret) (written : List Byte),
    (∃ k, (writeFd b answers written).1 = .ok k ∧ k ≤ b.length ∧
      (writeFd b answers written).2.written = written ++ b.take k) ∨
    ∃ e, (writeFd b answers written).1 = .error e ∧ (writeFd b answers written).2.written = written
  | [], written => Or.inl ⟨b.length, rfl, le_rfl, by rw [List.take_length]; rfl⟩
  | .ok k :: answers, written => by
    have hlen : (b.take k).length ≤ b.length := by
      rw [List.length_take]
      omega
    have htake : b.take (b.take k).length = b.take k := by
      rw [List.length_take, Nat.min_comm, ← List.take_take, List.take_of_length_le hlen]
    exact Or.inl ⟨_, rfl, hlen, by rw [htake]; rfl⟩
  | .error .eintr :: answers, written => writeFd_spec b answers written
  | .error .einval :: answers, written => Or.inr ⟨_, rfl, rfl⟩
  | .error .enospc :: answers, written => Or.inr ⟨_, rfl, rfl⟩
  | .error (.io errno) :: answers, written => Or.inr ⟨_, rfl, rfl⟩

theorem cbufPutFd_puts : Puts cbufPutFd Sink.written where
  put dst b hne := by
    refine ⟨_, _, ?_, writeFd_spec b dst.answers dst.written⟩
    rw [cbufPutFd, demand_true (List.length_pos_of_ne_nil hne)]
    rfl

theorem cbufGetMem_eq {src : List Byte} {n : ℕ} (hpos : 0 < n) (hn : n ≤ src.length) :
    cbufGetMem src n = .ok (.ok (src.take n), src.drop n) := by
  rw [cbufGetMem, demand_true hpos, ok_bind, if_neg (by omega)]
  rfl

theorem cbufGetMem_gets : Gets cbufGetMem id fun src n => n ≤ src.length where
  get src nleft n hpos hn hroom := by
    have hlen : (src.take n).length = n := by
      rw [List.length_take]
      omega
    refine ⟨_, _, cbufGetMem_eq hpos (hn.trans hroom), Or.inl ⟨_, rfl, hlen.le, ?_, ?_⟩⟩
    · exact (List.take_append_drop n src).symm
    · rw [hlen, List.length_drop]
      omega
  fewer _ _ _ hle hroom := hle.trans hroom

theorem cbufGetMem_getsAll : GetsAll cbufGetMem := by
  intro src n m src' hcall
  rw [cbufGetMem] at hcall
  obtain ⟨-, -, hcall⟩ := bind_eq_ok.mp hcall
  split at hcall
  · cases hcall
  · cases hcall
    refine ⟨_, rfl, ?_⟩
    rw [List.length_take]
    omega

theorem readFd_spec (n : ℕ) : ∀ (answers : List Ret) (stream : List Byte),
    (∃ b, (readFd n answers stream).1 = .ok b ∧ b.length ≤ n ∧
      stream = b ++ (readFd n answers stream).2.stream) ∨
    ∃ e, (readFd n answers stream).1 = .error e ∧ (readFd n answers stream).2.stream = stream
  | [], stream => Or.inl ⟨_, rfl, List.length_take_le _ _, (List.take_append_drop n stream).symm⟩
  | .ok k :: answers, stream => by
    refine Or.inl ⟨_, rfl, ?_, (List.take_append_drop (min k n) stream).symm⟩
    rw [List.length_take]
    omega
  | .error .eintr :: answers, stream => readFd_spec n answers stream
  | .error .einval :: answers, stream => Or.inr ⟨_, rfl, rfl⟩
  | .error .enospc :: answers, stream => Or.inr ⟨_, rfl, rfl⟩
  | .error (.io errno) :: answers, stream => Or.inr ⟨_, rfl, rfl⟩

theorem cbufGetFd_gets : Gets cbufGetFd Source.stream fun _ _ => True where
  get src nleft n hpos _ _ := by
    refine ⟨_, _, by rw [cbufGetFd, demand_true hpos]; rfl, ?_⟩
    rcases readFd_spec n src.answers src.stream with ⟨b, hb, hlen, hstream⟩ | herror
    · exact Or.inl ⟨b, hb, hlen, hstream, trivial⟩
    · exact Or.inr herror
  fewer _ _ _ _ _ := trivial

/-! ### Calls on a tape -/

/-- The calls. Those on a descriptor come with the descriptor. -/
inductive CbufOp where
  | size | free | used | reused | isEmpty | flush
  | optSet (value : ℤ)
  | drop (len : ℤ)
  | rewind (len : ℤ)
  | peek (len : ℤ)
  | read (len : ℤ)
  | replay (len : ℤ)
  | write (srcbuf : List Byte) (len : ℤ) (mem : Mem)
  | peekToFd (len : ℤ) (answers : List Ret)
  | readToFd (len : ℤ) (answers : List Ret)
  | replayToFd (len : ℤ) (answers : List Ret)
  | writeFromFd (src : Source) (len : ℤ) (mem : Mem)

/-- What the caller sees: the return, what was stored for it or written to its descriptor, how many
    bytes were overwritten, and what its descriptor still has. -/
structure Outcome where
  ret : Ret
  got : List Byte
  ndropped : ℕ
  rest : List Byte

/-- A call that only returns something. -/
def Outcome.plain (ret : Ret) : Outcome := ⟨ret, [], 0, []⟩

/-- One call. -/
def CbufOp.run (cb : Cbuf) : CbufOp → Except Stop (Outcome × Cbuf)
  | .size => do
    let n ← cbufSize cb
    return (.plain (.ok n), cb)
  | .free => do
    let n ← cbufFree cb
    return (.plain (.ok n), cb)
  | .used => do
    let n ← cbufUsed cb
    return (.plain (.ok n), cb)
  | .reused => do
    let n ← cbufReused cb
    return (.plain (.ok n), cb)
  | .isEmpty => do
    let e ← cbufIsEmpty cb
    return (.plain (.ok e.toNat), cb)
  | .flush => do
    let cb ← cbufFlush cb
    return (.plain (.ok 0), cb)
  | .optSet value => do
    let (ret, cb) ← cbufOptSet cb value
    return (.plain ret, cb)
  | .drop len => do
    let (ret, cb) ← cbufDrop cb len
    return (.plain ret, cb)
  | .rewind len => do
    let (ret, cb) ← cbufRewind cb len
    return (.plain ret, cb)
  | .peek len => do
    let (ret, dstbuf) ← cbufPeek cb len
    return (⟨ret, dstbuf, 0, []⟩, cb)
  | .read len => do
    let (ret, dstbuf, cb) ← cbufRead cb len
    return (⟨ret, dstbuf, 0, []⟩, cb)
  | .replay len => do
    let (ret, dstbuf) ← cbufReplay cb len
    return (⟨ret, dstbuf, 0, []⟩, cb)
  | .write srcbuf len mem => do
    let (ret, ndropped, cb) ← cbufWrite cb srcbuf len mem
    return (⟨ret, [], ndropped, []⟩, cb)
  | .peekToFd len answers => do
    let (ret, dst) ← cbufPeekToFd cb len ⟨answers, []⟩
    return (⟨ret, dst.written, 0, []⟩, cb)
  | .readToFd len answers => do
    let (ret, dst, cb) ← cbufReadToFd cb len ⟨answers, []⟩
    return (⟨ret, dst.written, 0, []⟩, cb)
  | .replayToFd len answers => do
    let (ret, dst) ← cbufReplayToFd cb len ⟨answers, []⟩
    return (⟨ret, dst.written, 0, []⟩, cb)
  | .writeFromFd src len mem => do
    let (ret, ndropped, cb, src) ← cbufWriteFromFd cb src len mem
    return (⟨ret, [], ndropped, src.stream⟩, cb)

/-- A length of `-1` asks for everything. -/
def asked (len : ℤ) (all : ℕ) : ℕ := if len = -1 then all else len.toNat

/-- What `cbuf_write_from_fd` asks for. -/
def Fifo.askedFd (q : Fifo) (len : ℤ) : ℕ :=
  asked len (if q.tape.size - q.tape.unread.length = 0 then cbufChunk
    else q.tape.size - q.tape.unread.length)

/-- The value of an overwrite option. -/
def Overwrite.value : Overwrite → ℤ
  | .noDrop => 0
  | .wrapOnce => 1
  | .wrapMany => 2

/-- Arguments that are refused. -/
def CbufOp.Refused : CbufOp → Prop
  | .optSet value => ∀ o : Overwrite, value ≠ o.value
  | .drop len | .rewind len | .peekToFd len _ | .readToFd len _ | .replayToFd len _ => len < -1
  | .writeFromFd _ len _ => len < -1
  | .peek len | .read len | .replay len | .write _ len _ => len < 0
  | _ => False

/-- What a refused call leaves on its descriptor. -/
def CbufOp.stream : CbufOp → List Byte
  | .writeFromFd src _ _ => src.stream
  | _ => []

/-- What a call does to the tape, and what its caller sees. -/
inductive Fifo.Step : Fifo → CbufOp → Outcome → Fifo → Prop
  | refused {q op} : op.Refused → Step q op ⟨.error .einval, [], 0, op.stream⟩ q
  | size {q} : Step q .size (.plain (.ok q.maxsize)) q
  | free {q} : Step q .free (.plain (.ok (q.maxsize - q.tape.unread.length))) q
  | used {q} : Step q .used (.plain (.ok q.tape.unread.length)) q
  | reused {q} : Step q .reused (.plain (.ok q.tape.replay.length)) q
  | isEmpty {q} : Step q .isEmpty (.plain (.ok (if q.tape.unread = [] then 1 else 0))) q
  | flush {q} : Step q .flush (.plain (.ok 0)) { q with tape := q.tape.flush }
  | optSet {q} (o : Overwrite) : Step q (.optSet o.value) (.plain (.ok 0)) { q with overwrite := o }
  | drop {q len n} : -1 ≤ len → n = min (asked len q.tape.unread.length) q.tape.unread.length →
      Step q (.drop len) (.plain (.ok n)) (q.drop n)
  | rewind {q len n} : -1 ≤ len → n = min (asked len q.tape.replay.length) q.tape.replay.length →
      Step q (.rewind len) (.plain (.ok n)) { q with tape := q.tape.rewind n }
  | peek {q len b} : 0 ≤ len → b = q.tape.unread.take len.toNat →
      Step q (.peek len) ⟨.ok b.length, b, 0, []⟩ q
  | read {q len b} : 0 ≤ len → b = q.tape.unread.take len.toNat →
      Step q (.read len) ⟨.ok b.length, b, 0, []⟩ (q.drop b.length)
  | replay {q len b} : 0 ≤ len → b = q.tape.replay.rtake len.toNat →
      Step q (.replay len) ⟨.ok b.length, b, 0, []⟩ q
  | writeNothing {q srcbuf mem} : Step q (.write srcbuf 0 mem) (.plain (.ok 0)) q
  | write {q srcbuf len mem k b} : 0 < len → q.Room len.toNat mem k →
      b = srcbuf.take ((q.grow k).writeLen len.toNat) →
      Step q (.write srcbuf len mem)
        ⟨if b.length = 0 then .error .enospc else .ok b.length, [],
          q.tape.unread.length + b.length - (q.grow k).tape.size, []⟩
        ((q.grow k).push b)
  -- a short count of `write` stops a transfer anywhere
  | peekToFd {q len answers ret k} : -1 ≤ len →
      k ≤ min (asked len q.tape.unread.length) q.tape.unread.length → Counts ret k →
      Step q (.peekToFd len answers) ⟨ret, q.tape.unread.take k, 0, []⟩ q
  | readToFd {q len answers ret k} : -1 ≤ len →
      k ≤ min (asked len q.tape.unread.length) q.tape.unread.length → Counts ret k →
      Step q (.readToFd len answers) ⟨ret, q.tape.unread.take k, 0, []⟩ (q.drop k)
  | replayToFd {q len answers ret b k} : -1 ≤ len →
      b = q.tape.replay.rtake (asked len (q.tape.size - q.tape.unread.length)) → k ≤ b.length →
      Counts ret k → Step q (.replayToFd len answers) ⟨ret, b.take k, 0, []⟩ q
  | writeNothingFromFd {q src mem} : Step q (.writeFromFd src 0 mem) ⟨.ok 0, [], 0, src.stream⟩ q
  | writeFromFd {q src len mem k b ret rest} : -1 ≤ len → len ≠ 0 → q.Room (q.askedFd len) mem k →
      src.stream = b ++ rest → b.length ≤ (q.grow k).writeLen (q.askedFd len) →
      ((q.grow k).writeLen (q.askedFd len) = 0 → ret = .error .enospc) → Counts ret b.length →
      Step q (.writeFromFd src len mem)
        ⟨ret, [], q.tape.unread.length + b.length - (q.grow k).tape.size, rest⟩
        ((q.grow k).push b)

/-- What a call can be asked without an overflow. A caller's buffer is as long as it says. -/
def CbufOp.Fits (overhead maxsize : ℕ) : CbufOp → Prop
  | .write srcbuf len _ =>
    len.toNat ≤ srcbuf.length ∧ 2 * maxsize + overhead + len.toNat + cbufChunk ≤ intMax
  | .writeFromFd _ len _ =>
    2 * maxsize + overhead + asked len (max maxsize cbufChunk) + cbufChunk ≤ intMax
  | _ => True

section Keeps
variable {overhead : ℕ} {cb : Cbuf} {q : Fifo} {len : ℤ}

/-- No assertion fails in a call, and it keeps to the tape. -/
def CbufOp.Keeps (overhead : ℕ) (cb : Cbuf) (q : Fifo) (op : CbufOp) : Prop :=
  ∃ out cb' q', op.run cb = .ok (out, cb') ∧ q.Step op out q' ∧ cb'.Holds overhead q'

theorem Cbuf.Holds.ask {α : Type} (h : cb.Holds overhead q) (what : Cbuf → α) :
    cbufAsk cb what = .ok (what cb) := by
  rw [cbufAsk, demand_true h.isValid]
  rfl

theorem keeps_size (h : cb.Holds overhead q) : CbufOp.size.Keeps overhead cb q := by
  refine ⟨_, cb, q, ?_, .size, h⟩
  rw [CbufOp.run, cbufSize, h.ask, h.maxsize]
  rfl

theorem keeps_free (h : cb.Holds overhead q) : CbufOp.free.Keeps overhead cb q := by
  refine ⟨_, cb, q, ?_, .free, h⟩
  rw [CbufOp.run, cbufFree, h.ask, h.maxsize, h.used]
  rfl

theorem keeps_used (h : cb.Holds overhead q) : CbufOp.used.Keeps overhead cb q := by
  refine ⟨_, cb, q, ?_, .used, h⟩
  rw [CbufOp.run, cbufUsed, h.ask, h.used]
  rfl

theorem keeps_reused (h : cb.Holds overhead q) : CbufOp.reused.Keeps overhead cb q := by
  refine ⟨_, cb, q, ?_, .reused, h⟩
  rw [CbufOp.run, cbufReused, h.ask, h.reused]
  rfl

theorem keeps_isEmpty (h : cb.Holds overhead q) : CbufOp.isEmpty.Keeps overhead cb q := by
  refine ⟨_, cb, q, ?_, .isEmpty, h⟩
  rw [CbufOp.run, cbufIsEmpty, h.ask, h.used]
  cases q.tape.unread <;> rfl

theorem Cbuf.Holds.flush (h : cb.Holds overhead q) :
    ({ cb with used := 0, gotWrap := false, iIn := 0, iOut := 0, iRep := 0 } : Cbuf).Holds overhead
      { q with tape := q.tape.flush } :=
  ⟨h.size, h.maxsize, h.overwrite, h.alloc, h.overheadPos, h.minPos, h.minLe, h.le, h.dataLen,
    Nat.succ_pos _, List.nil_suffix, rfl, (back_zero _ _).symm, (back_zero _ _).symm, Or.inr rfl⟩

theorem keeps_flush (h : cb.Holds overhead q) : CbufOp.flush.Keeps overhead cb q := by
  refine ⟨_, _, _, ?_, .flush, h.flush⟩
  rw [CbufOp.run, cbufFlush, demand_true h.isValid, ok_bind]
  simp only [demand_true h.flush.isValid]
  rfl

theorem Cbuf.Holds.optSet (h : cb.Holds overhead q) (o : Overwrite) :
    ({ cb with overwrite := o } : Cbuf).Holds overhead { q with overwrite := o } :=
  ⟨h.size, h.maxsize, rfl, h.alloc, h.overheadPos, h.minPos, h.minLe, h.le, h.dataLen, h.iIn, h.stored,
    h.used, h.iOut, h.iRep, h.wrapped⟩

theorem keeps_optSet (h : cb.Holds overhead q) (value : ℤ) :
    (CbufOp.optSet value).Keeps overhead cb q := by
  by_cases hvalue : ∃ o : Overwrite, value = o.value
  · obtain ⟨o, rfl⟩ := hvalue
    have hopt := h.optSet o
    refine ⟨_, _, _, ?_, .optSet o, hopt⟩
    rw [CbufOp.run, cbufOptSet, demand_true h.isValid, ok_bind]
    cases o <;> (simp only [Overwrite.value]; norm_num [demand_true hopt.isValid])
  · have hrefused : (CbufOp.optSet value).Refused := fun o heq => hvalue ⟨o, heq⟩
    have h0 : value ≠ 0 := hrefused .noDrop
    have h1 : value ≠ 1 := hrefused .wrapOnce
    have h2 : value ≠ 2 := hrefused .wrapMany
    refine ⟨_, cb, q, ?_, .refused hrefused, h⟩
    rw [CbufOp.run, cbufOptSet, demand_true h.isValid, ok_bind, if_neg h0, if_neg h1, if_neg h2]
    simp only [demand_true h.isValid]
    rfl

/-! ### Dropping and rewinding -/

theorem drop_zero (q : Fifo) : q.drop 0 = q := by
  obtain ⟨t, overwrite, maxsize⟩ := q
  have hdrop : t.drop 0 = t := Tape.ext_stored rfl (stored_drop t 0) rfl
  rw [Fifo.drop, hdrop]

theorem Cbuf.Holds.dropper (h : cb.Holds overhead q) {n : ℕ} (hn : n ≤ q.tape.unread.length) :
    ∃ cb' : Cbuf, cb'.Holds overhead (q.drop n) ∧ (n > 0 → cbufDropper cb n = .ok cb') ∧
      (n = 0 → cb' = cb) := by
  by_cases hpos : n > 0
  · obtain ⟨cb', hcall, hholds⟩ := cbufDropper_spec h hpos hn
    exact ⟨cb', hholds, fun _ => hcall, fun hzero => by omega⟩
  · obtain rfl : n = 0 := by omega
    exact ⟨cb, by rwa [drop_zero], fun hpos => by omega, fun _ => rfl⟩

/-- What was moved is dropped, unless the return is an error. -/
theorem Cbuf.Holds.dropRead (h : cb.Holds overhead q) {n : ℕ} (hn : n ≤ q.tape.unread.length) :
    ∃ cb', dropRead cb (.ok n) = .ok cb' ∧ cb'.Holds overhead (q.drop n) := by
  obtain ⟨cb', hholds, hcall, hsame⟩ := h.dropper hn
  cases n with
  | zero => exact ⟨cb, rfl, hsame rfl ▸ hholds⟩
  | succ n => exact ⟨cb', hcall (Nat.succ_pos n), hholds⟩

theorem keeps_drop (h : cb.Holds overhead q) (len : ℤ) : (CbufOp.drop len).Keeps overhead cb q := by
  by_cases hneg : len < -1
  · exact ⟨_, cb, q, by rw [CbufOp.run, cbufDrop, if_pos hneg]; rfl, .refused hneg, h⟩
  obtain ⟨n, hn⟩ : ∃ n, n = min (asked len q.tape.unread.length) q.tape.unread.length := ⟨_, rfl⟩
  obtain ⟨cb', hholds, hcall, hsame⟩ := h.dropper (n := n) (by omega)
  by_cases hzero : len = 0
  · subst hzero
    have hn0 : n = 0 := by
      rw [hn, asked, if_neg (by decide)]
      exact Nat.zero_min _
    refine ⟨_, cb, q.drop n, ?_, .drop (by decide) hn, ?_⟩
    · rw [CbufOp.run, cbufDrop, if_neg (by decide), if_pos rfl, hn0]
      rfl
    · rwa [hn0, drop_zero]
  · have hlen : (if len = -1 then cb.used else min len.toNat cb.used) = n := by
      rw [hn, asked, h.used]
      split <;> omega
    refine ⟨_, cb', _, ?_, .drop (by omega) hn, hholds⟩
    rw [CbufOp.run, cbufDrop, if_neg hneg, if_neg hzero, demand_true h.isValid, ok_bind]
    by_cases hpos : n > 0
    · simp only [hlen, if_pos hpos, hcall hpos, ok_bind, demand_true hholds.isValid]
      rfl
    · simp only [hlen, if_neg hpos, ok_bind, demand_true h.isValid, hsame (show n = 0 by omega)]
      rfl

theorem Cbuf.Holds.rewind (h : cb.Holds overhead q) {n : ℕ} (hn : n ≤ q.tape.replay.length) :
    ({ cb with used := cb.used + n, iOut := (cb.iOut + (cb.size + 1) - n) % (cb.size + 1) } : Cbuf).Holds
      overhead { q with tape := q.tape.rewind n } := by
  obtain ⟨hstored, hunread⟩ := h.storedLe
  have hlen := q.tape.length_stored
  have hsame : (q.tape.rewind n).stored = q.tape.stored := by
    show q.tape.replay.rdrop n ++ (q.tape.replay.rtake n ++ q.tape.unread) = _
    rw [← List.append_assoc, List.rdrop, List.rtake, List.take_append_drop]
    rfl
  have hunreadLen : (q.tape.rewind n).unread.length = q.tape.unread.length + n := by
    show (q.tape.replay.rtake n ++ q.tape.unread).length = _
    rw [List.length_append, length_rtake, Nat.min_eq_left hn, Nat.add_comm]
  refine ⟨h.size, h.maxsize, h.overwrite, h.alloc, h.overheadPos, h.minPos, h.minLe, h.le, h.dataLen,
    h.iIn, ?_, ?_, ?_, ?_, h.wrapped⟩
  · rw [hsame]
    exact h.stored
  · rw [hunreadLen, ← h.used]
  · rw [hunreadLen]
    show (cb.iOut + (cb.size + 1) - n) % (cb.size + 1) = _
    rw [h.iOut, back_sub_mod h.iIn (by omega)]
  · rw [hsame]
    exact h.iRep

theorem keeps_rewind (h : cb.Holds overhead q) (len : ℤ) :
    (CbufOp.rewind len).Keeps overhead cb q := by
  by_cases hneg : len < -1
  · exact ⟨_, cb, q, by rw [CbufOp.run, cbufRewind, if_pos hneg]; rfl, .refused hneg, h⟩
  obtain ⟨n, hn⟩ : ∃ n, n = min (asked len q.tape.replay.length) q.tape.replay.length := ⟨_, rfl⟩
  have hholds := h.rewind (n := n) (by omega)
  -- nothing is moved for nothing
  have hnone : n = 0 → (cb.used + n = cb.used ∧
      (cb.iOut + (cb.size + 1) - n) % (cb.size + 1) = cb.iOut) := by
    intro hn0
    have hiOut := h.iOut_lt
    rw [hn0, Nat.sub_zero, Nat.add_mod_right, Nat.mod_eq_of_lt hiOut]
    exact ⟨rfl, rfl⟩
  by_cases hzero : len = 0
  · subst hzero
    have hn0 : n = 0 := by
      rw [hn, asked, if_neg (by decide)]
      exact Nat.zero_min _
    refine ⟨_, cb, _, ?_, .rewind (by decide) hn, ?_⟩
    · rw [CbufOp.run, cbufRewind, if_neg (by decide), if_pos rfl, hn0]
      rfl
    · rwa [(hnone hn0).1, (hnone hn0).2] at hholds
  · have hlen : (if len = -1 then cb.reused else min len.toNat cb.reused) = n := by
      rw [hn, asked, h.reused]
      split <;> omega
    refine ⟨_, _, _, ?_, .rewind (by omega) hn, hholds⟩
    rw [CbufOp.run, cbufRewind, if_neg hneg, if_neg hzero, demand_true h.isValid, ok_bind]
    simp only [hlen]
    by_cases hpos : n > 0
    · simp only [if_pos hpos, demand_true hholds.isValid]
      rfl
    · obtain ⟨hused, hiOut⟩ := hnone (show n = 0 by omega)
      simp only [if_neg hpos, demand_true h.isValid, hused, hiOut]
      rfl

/-! ### Reading -/

theorem Read.mem {U dst : List Byte} {ret : Ret} {k : ℕ} (h : Read cbufPutMem id U [] ret k dst) :
    ret = .ok U.length ∧ dst = U := by
  have hk := h.all cbufPutMem_putsAll
  have hout : dst = [] ++ U.take k := h.out
  refine ⟨?_, by rw [hout, hk, List.take_length, List.nil_append]⟩
  rcases h.ret with hret | ⟨hzero, -⟩
  · rw [hret, hk]
  · rw [h.empty (by omega)]
    congr 1
    omega

/-- `cbuf_peek` and `cbuf_read` find the first unread bytes. -/
theorem cbufReader_mem (h : cb.Holds overhead q) {n : ℕ} (hn : 0 < n) :
    cbufReader cb n cbufPutMem [] = .ok (.ok (q.tape.unread.take n).length, q.tape.unread.take n) := by
  obtain ⟨ret, k, dst, hcall, hread⟩ := cbufReader_spec cbufPutMem_puts h hn []
  obtain ⟨rfl, rfl⟩ := hread.mem
  exact hcall

theorem cbufReplayer_mem (h : cb.Holds overhead q) {n : ℕ} (hn : 0 < n) :
    cbufReplayer cb n cbufPutMem [] =
      .ok (.ok (q.tape.replay.rtake n).length, q.tape.replay.rtake n) := by
  obtain ⟨ret, k, dst, hcall, hread⟩ := cbufReplayer_spec cbufPutMem_puts h hn []
  obtain ⟨rfl, rfl⟩ := hread.mem
  exact hcall

theorem keeps_peek (h : cb.Holds overhead q) (len : ℤ) : (CbufOp.peek len).Keeps overhead cb q := by
  by_cases hneg : len < 0
  · exact ⟨_, cb, q, by rw [CbufOp.run, cbufPeek, if_pos hneg]; rfl, .refused hneg, h⟩
  refine ⟨_, cb, q, ?_, .peek (by omega) rfl, h⟩
  by_cases hzero : len = 0
  · rw [CbufOp.run, cbufPeek, if_neg hneg, if_pos hzero, hzero]
    rfl
  · rw [CbufOp.run, cbufPeek, if_neg hneg, if_neg hzero, demand_true h.isValid, ok_bind,
      cbufReader_mem h (by omega)]
    rfl

theorem keeps_read (h : cb.Holds overhead q) (len : ℤ) : (CbufOp.read len).Keeps overhead cb q := by
  by_cases hneg : len < 0
  · exact ⟨_, cb, q, by rw [CbufOp.run, cbufRead, if_pos hneg]; rfl, .refused hneg, h⟩
  by_cases hzero : len = 0
  · refine ⟨_, cb, _, ?_, .read (by omega) rfl, ?_⟩
    · rw [CbufOp.run, cbufRead, if_neg hneg, if_pos hzero, hzero]
      rfl
    · rw [hzero]
      exact (drop_zero q).symm ▸ h
  · obtain ⟨b, hb⟩ : ∃ b, b = q.tape.unread.take len.toNat := ⟨_, rfl⟩
    have hlen : b.length ≤ q.tape.unread.length := by
      rw [hb, List.length_take]
      omega
    obtain ⟨cb', hdrop, hholds⟩ := h.dropRead hlen
    refine ⟨_, cb', _, ?_, .read (by omega) hb, hholds⟩
    rw [CbufOp.run, cbufRead, if_neg hneg, if_neg hzero, demand_true h.isValid, ok_bind,
      cbufReader_mem h (by omega), ← hb, ok_bind]
    simp only [hdrop, ok_bind, demand_true hholds.isValid]
    rfl

theorem keeps_replay (h : cb.Holds overhead q) (len : ℤ) :
    (CbufOp.replay len).Keeps overhead cb q := by
  by_cases hneg : len < 0
  · exact ⟨_, cb, q, by rw [CbufOp.run, cbufReplay, if_pos hneg]; rfl, .refused hneg, h⟩
  refine ⟨_, cb, q, ?_, .replay (by omega) rfl, h⟩
  by_cases hzero : len = 0
  · rw [CbufOp.run, cbufReplay, if_neg hneg, if_pos hzero, hzero]
    simp [List.rtake]
  · rw [CbufOp.run, cbufReplay, if_neg hneg, if_neg hzero, demand_true h.isValid, ok_bind,
      cbufReplayer_mem h (by omega)]
    rfl

theorem Read.toFd {n k : ℕ} {ret : Ret} {answers : List Ret} {dst : Sink}
    (h : Read cbufPutFd Sink.written (q.tape.unread.take n) ⟨answers, []⟩ ret k dst) :
    k ≤ min n q.tape.unread.length ∧ dst.written = q.tape.unread.take k := by
  have hle := h.le
  have hout : dst.written = [] ++ (q.tape.unread.take n).take k := h.out
  rw [List.length_take] at hle
  refine ⟨hle, ?_⟩
  rw [hout, List.nil_append, List.take_take, Nat.min_eq_left (by omega)]

/-- The same, for any return of a call that has moved as many bytes. -/
theorem Cbuf.Holds.dropCounted (h : cb.Holds overhead q) {n : ℕ} {ret : Ret}
    (hn : n ≤ q.tape.unread.length) (hret : Counts ret n) :
    ∃ cb', Miscutil.dropRead cb ret = .ok cb' ∧ cb'.Holds overhead (q.drop n) := by
  rcases hret with rfl | ⟨rfl, e, rfl⟩
  · exact h.dropRead hn
  · exact ⟨cb, rfl, (drop_zero q).symm ▸ h⟩

theorem keeps_peekToFd (h : cb.Holds overhead q) (len : ℤ) (answers : List Ret) :
    (CbufOp.peekToFd len answers).Keeps overhead cb q := by
  by_cases hneg : len < -1
  · exact ⟨_, cb, q, by rw [CbufOp.run, cbufPeekToFd, if_pos hneg]; rfl, .refused hneg, h⟩
  have hasked : (if len = -1 then cb.used else len.toNat) = asked len q.tape.unread.length := by
    rw [asked, h.used]
  by_cases hpos : asked len q.tape.unread.length > 0
  · obtain ⟨ret, k, dst, hcall, hread⟩ := cbufReader_spec cbufPutFd_puts h hpos ⟨answers, []⟩
    obtain ⟨hk, hout⟩ := hread.toFd
    refine ⟨_, cb, q, ?_, .peekToFd (by omega) hk hread.ret, h⟩
    rw [CbufOp.run, cbufPeekToFd, if_neg hneg, demand_true h.isValid, ok_bind]
    simp only [hasked, if_pos hpos, hcall, ok_bind, ← hout]
    rfl
  · refine ⟨_, cb, q, ?_, .peekToFd (by omega) (Nat.zero_le _) (Or.inl rfl), h⟩
    rw [CbufOp.run, cbufPeekToFd, if_neg hneg, demand_true h.isValid, ok_bind]
    simp only [hasked, if_neg hpos, ok_bind]
    rfl

theorem keeps_readToFd (h : cb.Holds overhead q) (len : ℤ) (answers : List Ret) :
    (CbufOp.readToFd len answers).Keeps overhead cb q := by
  by_cases hneg : len < -1
  · exact ⟨_, cb, q, by rw [CbufOp.run, cbufReadToFd, if_pos hneg]; rfl, .refused hneg, h⟩
  have hasked : (if len = -1 then cb.used else len.toNat) = asked len q.tape.unread.length := by
    rw [asked, h.used]
  by_cases hpos : asked len q.tape.unread.length > 0
  · obtain ⟨ret, k, dst, hcall, hread⟩ := cbufReader_spec cbufPutFd_puts h hpos ⟨answers, []⟩
    obtain ⟨hk, hout⟩ := hread.toFd
    obtain ⟨cb', hdrop, hholds⟩ := h.dropCounted (by omega) hread.ret
    refine ⟨_, cb', _, ?_, .readToFd (by omega) hk hread.ret, hholds⟩
    rw [CbufOp.run, cbufReadToFd, if_neg hneg, demand_true h.isValid, ok_bind]
    simp only [hasked, if_pos hpos, hcall, hdrop, ok_bind, demand_true hholds.isValid, ← hout]
    rfl
  · refine ⟨_, cb, _, ?_, .readToFd (by omega) (Nat.zero_le _) (Or.inl rfl), (drop_zero q).symm ▸ h⟩
    rw [CbufOp.run, cbufReadToFd, if_neg hneg, demand_true h.isValid, ok_bind]
    simp only [hasked, if_neg hpos, Miscutil.dropRead, ok_bind, demand_true h.isValid]
    rfl

theorem keeps_replayToFd (h : cb.Holds overhead q) (len : ℤ) (answers : List Ret) :
    (CbufOp.replayToFd len answers).Keeps overhead cb q := by
  by_cases hneg : len < -1
  · exact ⟨_, cb, q, by rw [CbufOp.run, cbufReplayToFd, if_pos hneg]; rfl, .refused hneg, h⟩
  have hasked : (if len = -1 then cb.size - cb.used else len.toNat)
      = asked len (q.tape.size - q.tape.unread.length) := by
    rw [asked, h.used, h.size]
  by_cases hpos : asked len (q.tape.size - q.tape.unread.length) > 0
  · obtain ⟨ret, k, dst, hcall, hread⟩ := cbufReplayer_spec cbufPutFd_puts h hpos ⟨answers, []⟩
    have hout : dst.written = [] ++ _ := hread.out
    rw [List.nil_append] at hout
    refine ⟨_, cb, q, ?_, .replayToFd (by omega) rfl hread.le hread.ret, h⟩
    rw [CbufOp.run, cbufReplayToFd, if_neg hneg, demand_true h.isValid, ok_bind]
    simp only [hasked, if_pos hpos, hcall, ok_bind, ← hout]
    rfl
  · refine ⟨_, cb, q, ?_, .replayToFd (by omega) rfl (Nat.zero_le _) (Or.inl rfl), h⟩
    rw [CbufOp.run, cbufReplayToFd, if_neg hneg, demand_true h.isValid, ok_bind]
    simp only [hasked, if_neg hpos, ok_bind]
    rfl

/-! ### Writing -/

theorem keeps_write (h : cb.Holds overhead q) {srcbuf : List Byte} {mem : Mem}
    (hfits : (CbufOp.write srcbuf len mem).Fits overhead q.maxsize) :
    (CbufOp.write srcbuf len mem).Keeps overhead cb q := by
  obtain ⟨hbuf, hint⟩ := hfits
  by_cases hneg : len < 0
  · exact ⟨_, cb, q, by rw [CbufOp.run, cbufWrite, if_pos hneg]; rfl, .refused hneg, h⟩
  by_cases hzero : len = 0
  · subst hzero
    exact ⟨_, cb, q, by rw [CbufOp.run, cbufWrite, if_neg hneg, if_pos rfl]; rfl, .writeNothing, h⟩
  obtain ⟨ret, ndropped, cb', src', k, b, hcall, hholds, hroom, hwrote⟩ :=
    cbufWriter_spec cbufGetMem_gets h (show 0 < len.toNat by omega) hint hbuf mem
  have hlen := hwrote.all cbufGetMem_getsAll
  have hb : b = srcbuf.take ((q.grow k).writeLen len.toNat) := by
    have hstream : srcbuf = b ++ src' := hwrote.stream
    rw [← hlen, hstream, List.take_left]
  have hret : ret = if b.length = 0 then .error .enospc else .ok b.length := by
    split
    · exact hwrote.full (by omega)
    · rcases hwrote.ret with hok | ⟨hnone, -⟩
      · exact hok
      · omega
  refine ⟨_, cb', _, ?_, .write (by omega) hroom hb, hholds⟩
  rw [CbufOp.run, cbufWrite, if_neg hneg, if_neg hzero, demand_true h.isValid, ok_bind, hcall, ok_bind]
  simp only [demand_true hholds.isValid, hret, hwrote.dropped]
  rfl

theorem keeps_writeFromFd (h : cb.Holds overhead q) {src : Source} {mem : Mem}
    (hfits : (CbufOp.writeFromFd src len mem).Fits overhead q.maxsize) :
    (CbufOp.writeFromFd src len mem).Keeps overhead cb q := by
  by_cases hneg : len < -1
  · exact ⟨_, cb, q, by rw [CbufOp.run, cbufWriteFromFd, if_pos hneg]; rfl, .refused hneg, h⟩
  have hle := h.le
  rw [h.size, h.maxsize] at hle
  have hasked : (if len = -1 then (if cb.size - cb.used = 0 then cbufChunk else cb.size - cb.used)
      else len.toNat) = q.askedFd len := by
    rw [Fifo.askedFd, asked, h.size, h.used]
  have hint : FitsInt overhead q (q.askedFd len) := by
    have haskedLe : q.askedFd len ≤ asked len (max q.maxsize cbufChunk) := by
      rw [Fifo.askedFd, asked, asked]
      split_ifs <;> omega
    have hbound : 2 * q.maxsize + overhead + asked len (max q.maxsize cbufChunk) + cbufChunk ≤ intMax :=
      hfits
    rw [FitsInt]
    omega
  by_cases hzero : len = 0
  · subst hzero
    refine ⟨_, cb, q, ?_, .writeNothingFromFd, h⟩
    rw [CbufOp.run, cbufWriteFromFd, if_neg hneg, demand_true h.isValid, ok_bind]
    simp only [hasked, Fifo.askedFd, asked]
    norm_num [demand_true h.isValid]
  have hpos : q.askedFd len > 0 := by
    have hchunk : 0 < cbufChunk := by decide
    rw [Fifo.askedFd, asked]
    split_ifs <;> omega
  obtain ⟨ret, ndropped, cb', src', k, b, hcall, hholds, hroom, hwrote⟩ :=
    cbufWriter_spec cbufGetFd_gets h hpos hint trivial mem
  refine ⟨_, cb', _, ?_, .writeFromFd (by omega) hzero hroom hwrote.stream hwrote.le hwrote.full
    hwrote.ret, hholds⟩
  rw [CbufOp.run, cbufWriteFromFd, if_neg hneg, demand_true h.isValid, ok_bind]
  simp only [hasked, if_pos hpos, hcall, ok_bind, demand_true hholds.isValid, hwrote.dropped]
  rfl

end Keeps

end FreeIpmi.Miscutil
