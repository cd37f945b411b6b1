import FreeIpmi.Basic
import FreeIpmi.Lib.Ring

/-! The circular buffer of `common/miscutil/cbuf.c`, which `libipmiconsole/scbuf.c` copies with secure
    memory.

    The data array has one byte more than the buffer holds, so that an empty buffer is told from a full
    one. New data is written from `i_in` on, unread data stands from `i_out` up to there, and data that
    was read stays in front of it, from `i_rep` on, until it is overwritten. The array grows by chunks
    up to a maximum; every call checks `cbuf_is_valid` when it begins and when it ends.

    Sums of two indices are taken as exact, which they are for sizes up to half of `INT_MAX`; a sum
    with a length that a caller asks for is checked. -/

namespace FreeIpmi.Miscutil
open Ring

/-- The `errno` of a call that returns `-1`. -/
inductive CbufErr where
  | einval | enospc | eintr
  -- another error of `read` or `write`
  | io (errno : ℕ)
  deriving DecidableEq, Repr

/-- What a call returns: a count, or `-1`. -/
abbrev Ret := Except CbufErr ℕ

/-- `cbuf_overwrite_t`. -/
inductive Overwrite where | noDrop | wrapOnce | wrapMany
  deriving DecidableEq, Repr

/-- `CBUF_CHUNK`. -/
def cbufChunk : ℕ := 1000

/-- `struct cbuf`, without its lock and its magic cookies. -/
structure Cbuf where
  alloc : ℕ
  minsize : ℕ
  maxsize : ℕ
  size : ℕ
  used : ℕ
  overwrite : Overwrite
  gotWrap : Bool
  iIn : ℕ
  iOut : ℕ
  iRep : ℕ
  data : List Byte

/-- `malloc` and `realloc`: whether there is memory, and what is in it. -/
abbrev Mem := Option (ℕ → Byte)

/-- Bytes that nobody has written. -/
def junkBytes (junk : ℕ → Byte) (n : ℕ) : List Byte := (List.range n).map junk

/-- `assert`. -/
def demand (p : Prop) [Decidable p] : Except Stop Unit := if p then .ok () else .error .assertion

/-- A sum of type `int`. -/
def intSum (n : ℕ) : Except Stop ℕ := if n ≤ intMax then .ok n else .error .undefined

/-- `cbuf_is_valid`. -/
def Cbuf.IsValid (cb : Cbuf) : Prop :=
  0 < cb.alloc ∧ cb.size < cb.alloc ∧ 0 < cb.size ∧ cb.minsize ≤ cb.size ∧ cb.size ≤ cb.maxsize ∧
    0 < cb.minsize ∧ 0 < cb.maxsize ∧ cb.used ≤ cb.size ∧ (cb.gotWrap = true ∨ cb.iRep = 0) ∧
    cb.iIn ≤ cb.size ∧ cb.iOut ≤ cb.size ∧ cb.iRep ≤ cb.size ∧
    (if cb.iOut ≤ cb.iIn then cb.iIn < cb.iRep ∨ cb.iRep ≤ cb.iOut
      else cb.iIn < cb.iRep ∧ cb.iRep ≤ cb.iOut) ∧
    cb.size - cb.used = (cb.iOut + (cb.size + 1) - cb.iIn - 1) % (cb.size + 1)

instance (cb : Cbuf) : Decidable cb.IsValid := by
  unfold Cbuf.IsValid
  infer_instance

/-- The bytes that can be replayed. -/
def Cbuf.reused (cb : Cbuf) : ℕ := (cb.iOut + (cb.size + 1) - cb.iRep) % (cb.size + 1)

/-- `cbuf_create`, where the structure itself could be allocated. The cookies on both sides of the data
    have `magicLen` bytes, or none without debugging. -/
def cbufCreate (magicLen : ℕ) (minsize maxsize : ℤ) (mem : Mem) : Except Stop (Option Cbuf) :=
  if minsize ≤ 0 then .ok none
  else do
    let alloc ← intSum (minsize.toNat + 1 + 2 * magicLen)
    match mem with
    | none => return none
    | some junk =>
      let cb : Cbuf :=
        { alloc := alloc
          minsize := minsize.toNat
          maxsize := if maxsize > minsize then maxsize.toNat else minsize.toNat
          size := minsize.toNat
          used := 0
          overwrite := .wrapMany
          gotWrap := false
          iIn := 0
          iOut := 0
          iRep := 0
          data := junkBytes junk (minsize.toNat + 1) }
      demand cb.IsValid
      return some cb

/-! ### The helpers -/

/-- `cbuf_shrink`, which is not implemented. -/
def cbufShrink (cb : Cbuf) : Except Stop Unit := demand cb.IsValid

/-- `cbuf_dropper`. -/
def cbufDropper (cb : Cbuf) (len : ℕ) : Except Stop Cbuf := do
  demand (0 < len)
  demand (len ≤ cb.used)
  let cb := { cb with used := cb.used - len, iOut := (cb.iOut + len) % (cb.size + 1) }
  if cb.size - cb.used > cbufChunk ∧ cb.size > cb.minsize then
    cbufShrink cb
    return cb
  else return cb

/-- The array of the grown buffer. Replayable data that wraps around the old end is moved to the new
    one. -/
def Cbuf.enlarge (cb : Cbuf) (alloc size : ℕ) (junk : ℕ → Byte) : Cbuf :=
  let data := cb.data ++ junkBytes junk (size - cb.size)
  if cb.iRep > cb.iIn then
    let m := size + 1 - (cb.size + 1 - cb.iRep)
    { cb with
      alloc := alloc
      size := size
      data := put data m (cb.data.drop cb.iRep)
      iOut := if cb.iOut ≥ cb.iRep then cb.iOut + (m - cb.iRep) else cb.iOut
      iRep := m }
  else { cb with alloc := alloc, size := size, data := data }

/-- `cbuf_grow`: by how much the buffer has grown. -/
def cbufGrow (cb : Cbuf) (n : ℕ) (mem : Mem) : Except Stop (ℕ × Cbuf) := do
  demand (0 < n)
  if cb.size = cb.maxsize then return (0, cb)
  else
    let sizeMeta := cb.alloc - cb.size
    let m := cb.alloc + n
    let m ← intSum (m + (cbufChunk - m % cbufChunk))
    let m := min m (cb.maxsize + sizeMeta)
    demand (m > cb.alloc)
    match mem with
    | none => return (0, cb)
    | some junk =>
      let cb' := cb.enlarge m (m - sizeMeta) junk
      demand cb'.IsValid
      return (cb'.size - cb.size, cb')

section Helpers
variable {σ : Type}

/-- The loop of `cbuf_reader` and `cbuf_replayer`, around an array of `ring` bytes: what is left, and the
    last return of `putf`. -/
def readLoop (putf : σ → List Byte → Except Stop (Ret × σ)) (data : List Byte) (ring : ℕ) :
    ℕ → ℕ → ℕ → Ret → σ → Except Stop (ℕ × Ret × σ)
  | 0, _, nleft, m, dst => .ok (nleft, m, dst)
  | fuel + 1, iSrc, nleft, m, dst =>
    if nleft = 0 then .ok (nleft, m, dst)
    else do
      let n := min nleft (ring - iSrc)
      let (m, dst) ← putf dst ((data.drop iSrc).take n)
      match m with
      | .error e => return (nleft, .error e, dst)
      | .ok k =>
        -- a short count ends the loop
        if n ≠ k then return (nleft - k, .ok k, dst)
        else readLoop putf data ring fuel ((iSrc + k) % ring) (nleft - k) (.ok k) dst

/-- The end of `cbuf_reader`, `cbuf_replayer` and `cbuf_writer`: an error counts only if nothing was
    moved. -/
def moved (len nleft : ℕ) (m : Ret) : Ret := if len - nleft = 0 then m else .ok (len - nleft)

/-- `cbuf_reader`. -/
def cbufReader (src : Cbuf) (len : ℕ) (putf : σ → List Byte → Except Stop (Ret × σ)) (dst : σ) :
    Except Stop (Ret × σ) := do
  demand (0 < len)
  let len := min len src.used
  if len = 0 then return (.ok 0, dst)
  else
    let (nleft, m, dst) ← readLoop putf src.data (src.size + 1) len src.iOut len (.ok 0) dst
    demand (nleft ≤ len)
    return (moved len nleft m, dst)

/-- `cbuf_replayer`. -/
def cbufReplayer (src : Cbuf) (len : ℕ) (putf : σ → List Byte → Except Stop (Ret × σ)) (dst : σ) :
    Except Stop (Ret × σ) := do
  demand (0 < len)
  let len := min len src.reused
  if len = 0 then return (.ok 0, dst)
  else
    let iSrc := (src.iOut + (src.size + 1) - len) % (src.size + 1)
    let (nleft, m, dst) ← readLoop putf src.data (src.size + 1) len iSrc len (.ok 0) dst
    demand (nleft ≤ len)
    return (moved len nleft m, dst)

/-- The loop of `cbuf_writer`: the array, the index behind what is written, what is left, and the last
    return of `getf`. -/
def writeLoop (getf : σ → ℕ → Except Stop (Except CbufErr (List Byte) × σ)) (ring : ℕ) :
    ℕ → List Byte → ℕ → ℕ → Ret → σ → Except Stop (List Byte × ℕ × ℕ × Ret × σ)
  | 0, data, iDst, nleft, m, src => .ok (data, iDst, nleft, m, src)
  | fuel + 1, data, iDst, nleft, m, src =>
    if nleft = 0 then .ok (data, iDst, nleft, m, src)
    else do
      let n := min nleft (ring - iDst)
      let (m, src) ← getf src n
      match m with
      | .error e => return (data, iDst, nleft, .error e, src)
      | .ok b =>
        let data' := put data iDst b
        let iDst' := (iDst + b.length) % ring
        -- so does the end of the file
        if n ≠ b.length then return (data', iDst', nleft - b.length, .ok b.length, src)
        else writeLoop getf ring fuel data' iDst' (nleft - b.length) (.ok b.length) src

/-- The growth at the head of `cbuf_writer`: the free room afterwards. -/
def cbufRoom (dst : Cbuf) (len : ℕ) (mem : Mem) : Except Stop (ℕ × Cbuf) :=
  let nfree := dst.size - dst.used
  if len > nfree ∧ dst.size < dst.maxsize then do
    let (grown, dst) ← cbufGrow dst (len - nfree) mem
    return (nfree + grown, dst)
  else .ok (nfree, dst)

/-- How much is written, depending on the overwrite option. -/
def Cbuf.writeLen (dst : Cbuf) (len : ℕ) : ℕ :=
  match dst.overwrite with
  | .noDrop => min len (dst.size - dst.used)
  | .wrapOnce => min len dst.size
  | .wrapMany => len

/-- The new indices after `n` bytes. -/
def Cbuf.written (dst : Cbuf) (nfree n iDst : ℕ) (data : List Byte) : Cbuf :=
  let nrepl := dst.reused
  let iRep := if n + nrepl > nfree then (iDst + 1) % (dst.size + 1) else dst.iRep
  { dst with
    data := data
    used := min (dst.used + n) dst.size
    iIn := iDst
    gotWrap := dst.gotWrap || decide (n + nrepl > nfree)
    iRep := iRep
    iOut := if n > nfree then iRep else dst.iOut }

/-- `cbuf_writer`: the return, the number of overwritten bytes, and the buffer. -/
def cbufWriter (dst : Cbuf) (len : ℕ) (getf : σ → ℕ → Except Stop (Except CbufErr (List Byte) × σ))
    (src : σ) (mem : Mem) : Except Stop (Ret × ℕ × Cbuf × σ) := do
  demand (0 < len)
  let (nfree, dst) ← cbufRoom dst len mem
  let len := dst.writeLen len
  -- `CBUF_NO_DROP` in a full buffer
  if len = 0 then return (.error .enospc, 0, dst, src)
  else
    let (data, iDst, nleft, m, src) ← writeLoop getf (dst.size + 1) len dst.data dst.iIn len (.ok 0) src
    demand (nleft ≤ len)
    let n := len - nleft
    if n = 0 then return (m, 0, { dst with data := data }, src)
    else
      let _ ← intSum (dst.used + n)
      demand (iDst = (dst.iIn + n) % (dst.size + 1))
      return (.ok n, n - nfree, dst.written nfree n iDst data, src)

end Helpers

/-! ### Memory and descriptors -/

/-- `cbuf_put_mem`. -/
def cbufPutMem (dst : List Byte) (b : List Byte) : Except Stop (Ret × List Byte) := do
  demand (0 < b.length)
  return (.ok b.length, dst ++ b)

/-- `cbuf_get_mem`. -/
def cbufGetMem (src : List Byte) (n : ℕ) : Except Stop (Except CbufErr (List Byte) × List Byte) := do
  demand (0 < n)
  if src.length < n then .error .undefined else return (.ok (src.take n), src.drop n)

/-- A descriptor that is written to: how the next calls of `write` end, and what has been written. -/
structure Sink where
  answers : List Ret
  written : List Byte

/-- A descriptor that is read from: how the next calls of `read` end, and what is still to be read. -/
structure Source where
  answers : List Ret
  stream : List Byte

/-- `write`, again and again as long as it is interrupted. Without an answer everything is written. -/
def writeFd (b : List Byte) : List Ret → List Byte → Ret × Sink
  | [], written => (.ok b.length, ⟨[], written ++ b⟩)
  | .ok k :: answers, written => (.ok (b.take k).length, ⟨answers, written ++ b.take k⟩)
  | .error .eintr :: answers, written => writeFd b answers written
  | .error e :: answers, written => (.error e, ⟨answers, written⟩)

/-- `read`, likewise. -/
def readFd (n : ℕ) : List Ret → List Byte → Except CbufErr (List Byte) × Source
  | [], stream => (.ok (stream.take n), ⟨[], stream.drop n⟩)
  | .ok k :: answers, stream => (.ok (stream.take (min k n)), ⟨answers, stream.drop (min k n)⟩)
  | .error .eintr :: answers, stream => readFd n answers stream
  | .error e :: answers, stream => (.error e, ⟨answers, stream⟩)

/-- `cbuf_put_fd`. -/
def cbufPutFd (dst : Sink) (b : List Byte) : Except Stop (Ret × Sink) := do
  demand (0 < b.length)
  return writeFd b dst.answers dst.written

/-- `cbuf_get_fd`. -/
def cbufGetFd (src : Source) (n : ℕ) : Except Stop (Except CbufErr (List Byte) × Source) := do
  demand (0 < n)
  return readFd n src.answers src.stream

/-! ### The calls -/

/-- The queries check the buffer, and read something off it. -/
def cbufAsk {α : Type} (cb : Cbuf) (what : Cbuf → α) : Except Stop α := do
  demand cb.IsValid
  return what cb

/-- `cbuf_size`. -/
def cbufSize (cb : Cbuf) : Except Stop ℕ := cbufAsk cb Cbuf.maxsize

/-- `cbuf_free`. -/
def cbufFree (cb : Cbuf) : Except Stop ℕ := cbufAsk cb fun cb => cb.maxsize - cb.used

/-- `cbuf_used`. -/
def cbufUsed (cb : Cbuf) : Except Stop ℕ := cbufAsk cb Cbuf.used

/-- `cbuf_reused`. -/
def cbufReused (cb : Cbuf) : Except Stop ℕ := cbufAsk cb Cbuf.reused

/-- `cbuf_is_empty`. -/
def cbufIsEmpty (cb : Cbuf) : Except Stop Bool := cbufAsk cb fun cb => cb.used == 0

/-- `cbuf_flush`. -/
def cbufFlush (cb : Cbuf) : Except Stop Cbuf := do
  demand cb.IsValid
  let cb := { cb with used := 0, gotWrap := false, iIn := 0, iOut := 0, iRep := 0 }
  demand cb.IsValid
  return cb

/-- `cbuf_opt_set` of `CBUF_OPT_OVERWRITE`. -/
def cbufOptSet (cb : Cbuf) (value : ℤ) : Except Stop (Ret × Cbuf) := do
  demand cb.IsValid
  let (rc, cb) : Ret × Cbuf :=
    if value = 0 then (.ok 0, { cb with overwrite := .noDrop })
    else if value = 1 then (.ok 0, { cb with overwrite := .wrapOnce })
    else if value = 2 then (.ok 0, { cb with overwrite := .wrapMany })
    else (.error .einval, cb)
  demand cb.IsValid
  return (rc, cb)

/-- `cbuf_drop`. -/
def cbufDrop (src : Cbuf) (len : ℤ) : Except Stop (Ret × Cbuf) :=
  if len < -1 then .ok (.error .einval, src)
  else if len = 0 then .ok (.ok 0, src)
  else do
    demand src.IsValid
    let len := if len = -1 then src.used else min len.toNat src.used
    let src ← if len > 0 then cbufDropper src len else .ok src
    demand src.IsValid
    return (.ok len, src)

/-- `cbuf_rewind`. -/
def cbufRewind (src : Cbuf) (len : ℤ) : Except Stop (Ret × Cbuf) :=
  if len < -1 then .ok (.error .einval, src)
  else if len = 0 then .ok (.ok 0, src)
  else do
    demand src.IsValid
    let len := if len = -1 then src.reused else min len.toNat src.reused
    let src := if len > 0 then { src with
        used := src.used + len
        iOut := (src.iOut + (src.size + 1) - len) % (src.size + 1) }
      else src
    demand src.IsValid
    return (.ok len, src)

/-- `cbuf_peek`: the return, and what is stored into the caller's buffer. -/
def cbufPeek (src : Cbuf) (len : ℤ) : Except Stop (Ret × List Byte) :=
  if len < 0 then .ok (.error .einval, [])
  else if len = 0 then .ok (.ok 0, [])
  else do
    demand src.IsValid
    let (n, dstbuf) ← cbufReader src len.toNat cbufPutMem []
    demand src.IsValid
    return (n, dstbuf)

/-- What `cbuf_read` and `cbuf_read_to_fd` drop. -/
def dropRead (src : Cbuf) : Ret → Except Stop Cbuf
  | .ok (n + 1) => cbufDropper src (n + 1)
  | _ => .ok src

/-- `cbuf_read`. -/
def cbufRead (src : Cbuf) (len : ℤ) : Except Stop (Ret × List Byte × Cbuf) :=
  if len < 0 then .ok (.error .einval, [], src)
  else if len = 0 then .ok (.ok 0, [], src)
  else do
    demand src.IsValid
    let (n, dstbuf) ← cbufReader src len.toNat cbufPutMem []
    let src ← dropRead src n
    demand src.IsValid
    return (n, dstbuf, src)

/-- `cbuf_replay`. -/
def cbufReplay (src : Cbuf) (len : ℤ) : Except Stop (Ret × List Byte) :=
  if len < 0 then .ok (.error .einval, [])
  else if len = 0 then .ok (.ok 0, [])
  else do
    demand src.IsValid
    let (n, dstbuf) ← cbufReplayer src len.toNat cbufPutMem []
    demand src.IsValid
    return (n, dstbuf)

/-- `cbuf_write`: the return, the number of overwritten bytes, and the buffer. -/
def cbufWrite (dst : Cbuf) (srcbuf : List Byte) (len : ℤ) (mem : Mem) : Except Stop (Ret × ℕ × Cbuf) :=
  if len < 0 then .ok (.error .einval, 0, dst)
  else if len = 0 then .ok (.ok 0, 0, dst)
  else do
    demand dst.IsValid
    let (n, ndropped, dst, _) ← cbufWriter dst len.toNat cbufGetMem srcbuf mem
    demand dst.IsValid
    return (n, ndropped, dst)

/-- `cbuf_peek_to_fd`. -/
def cbufPeekToFd (src : Cbuf) (len : ℤ) (dst : Sink) : Except Stop (Ret × Sink) :=
  if len < -1 then .ok (.error .einval, dst)
  else do
    demand src.IsValid
    let len := if len = -1 then src.used else len.toNat
    let (n, dst) ← if len > 0 then cbufReader src len cbufPutFd dst else .ok (.ok 0, dst)
    demand src.IsValid
    return (n, dst)

/-- `cbuf_read_to_fd`. -/
def cbufReadToFd (src : Cbuf) (len : ℤ) (dst : Sink) : Except Stop (Ret × Sink × Cbuf) :=
  if len < -1 then .ok (.error .einval, dst, src)
  else do
    demand src.IsValid
    let len := if len = -1 then src.used else len.toNat
    let (n, dst) ← if len > 0 then cbufReader src len cbufPutFd dst else .ok (.ok 0, dst)
    let src ← dropRead src n
    demand src.IsValid
    return (n, dst, src)

/-- `cbuf_replay_to_fd`. -/
def cbufReplayToFd (src : Cbuf) (len : ℤ) (dst : Sink) : Except Stop (Ret × Sink) :=
  if len < -1 then .ok (.error .einval, dst)
  else do
    demand src.IsValid
    let len := if len = -1 then src.size - src.used else len.toNat
    let (n, dst) ← if len > 0 then cbufReplayer src len cbufPutFd dst else .ok (.ok 0, dst)
    demand src.IsValid
    return (n, dst)

/-- `cbuf_write_from_fd`. With a length of `-1` it takes what there is room for, or else a chunk. -/
def cbufWriteFromFd (dst : Cbuf) (src : Source) (len : ℤ) (mem : Mem) :
    Except Stop (Ret × ℕ × Cbuf × Source) :=
  if len < -1 then .ok (.error .einval, 0, dst, src)
  else do
    demand dst.IsValid
    let len := if len = -1 then
        (if dst.size - dst.used = 0 then cbufChunk else dst.size - dst.used)
      else len.toNat
    let (n, ndropped, dst, src) ←
      if len > 0 then cbufWriter dst len cbufGetFd src mem else .ok (.ok 0, 0, dst, src)
    demand dst.IsValid
    return (n, ndropped, dst, src)

end FreeIpmi.Miscutil
