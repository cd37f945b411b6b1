import FreeIpmi.Miscutil.CbufRuns

/-! How `ipmipower` keeps what a socket brings until a power command or a ping looks at it.

    `_recvfrom` of `ipmipower.c` stores a datagram in the connection's circular buffer and
    `ipmipower_cbuf_peek_and_drop` takes it out again. The buffer does not know where a datagram ends, and
    more than one may come before somebody looks: it is the draining in `_recvfrom` that keeps them apart,
    so that the last one is found, as it came. -/

namespace FreeIpmi.Power
open Ring Calls Miscutil

/-- `IPMIPOWER_PACKET_BUFLEN`. -/
def packetBuflen : ℕ := 1024

/-- `IPMIPOWER_MAX_CONNECTION_BUF`. -/
def maxConnectionBuf : ℕ := 4096

/-- What `ipmi_lan_recvfrom` brings in the end, when it is not interrupted. -/
inductive Arrival where
  -- `ECONNRESET` or `ECONNREFUSED`
  | refused
  | failed
  -- whether it comes from the address of the connection
  | datagram (fromDest : Bool) (b : List Byte)

/-- The loop in `_recvfrom` that drains the buffer. Without a value, here and below, the process
    exits. -/
def drain : ℕ → Cbuf → Except Stop (Option Cbuf)
  | 0, _ => .error .undefined
  | fuel + 1, cb => do
    let (n, _, cb) ← cbufRead cb packetBuflen
    match n with
    | .error _ => return none
    | .ok _ =>
      let empty ← cbufIsEmpty cb
      if empty then return some cb else drain fuel cb

/-- The buffer should be empty, but if it is not, it is emptied. -/
def drained (cb : Cbuf) : Except Stop (Option Cbuf) := do
  let empty ← cbufIsEmpty cb
  if empty then return some cb else drain cb.used cb

/-- `_recvfrom`, after `ipmi_lan_recvfrom`. -/
def recvfrom (cb : Cbuf) (mem : Mem) : Arrival → Except Stop (Option Cbuf)
  | .refused => .ok (some cb)
  | .failed => .ok none
  | .datagram fromDest b =>
    -- the end of the file
    if b.length = 0 then .ok none
    else if !fromDest then .ok (some cb)
    else do
      match ← drained cb with
      | none => return none
      | some cb =>
        let (n, _, cb) ← cbufWrite cb b b.length mem
        match n with
        | .error _ => return none
        | .ok n => return if n ≠ b.length then none else some cb

/-- What `ipmipower_connection_clear` does to the buffer. -/
def connectionClear (cb : Cbuf) : Except Stop (Option Cbuf) := do
  let (n, cb) ← cbufDrop cb (-1)
  match n with
  | .error _ => return none
  | .ok _ => return some cb

/-- What happens to a connection's buffer. -/
inductive Mail where
  | arrive (a : Arrival) (mem : Mem)
  | take
  | clear

section Buffer
variable {overhead : ℕ} {cb : Cbuf} {q : Fifo}

theorem cbufRead_holds (h : cb.Holds overhead q) (len : ℕ) {b : List Byte}
    (hb : b = q.tape.unread.take len) :
    ∃ cb', cbufRead cb len = .ok (.ok b.length, b, cb') ∧ cb'.Holds overhead (q.drop b.length) := by
  obtain ⟨out, cb', q', hrun, hstep, hholds⟩ := keeps_read h len
  obtain ⟨⟨ret, dstbuf, cb''⟩, hcall, hret⟩ := bind_eq_ok.mp hrun
  cases hstep with
  | refused hneg => exact absurd hneg (Int.not_lt.mpr (Int.natCast_nonneg len))
  | read _ hread =>
    rw [Int.toNat_natCast, ← hb] at hread
    subst hread
    cases hret
    exact ⟨cb', hcall, hholds⟩

theorem cbufDrop_holds (h : cb.Holds overhead q) {len : ℤ} (hlen : -1 ≤ len) {n : ℕ}
    (hn : n = min (asked len q.tape.unread.length) q.tape.unread.length) :
    ∃ cb', cbufDrop cb len = .ok (.ok n, cb') ∧ cb'.Holds overhead (q.drop n) := by
  obtain ⟨out, cb', q', hrun, hstep, hholds⟩ := keeps_drop h len
  obtain ⟨⟨ret, cb''⟩, hcall, hret⟩ := bind_eq_ok.mp hrun
  cases hstep with
  | refused hneg => exact absurd hneg (Int.not_lt.mpr hlen)
  | drop _ hdrop =>
    rw [← hn] at hdrop
    subst hdrop
    cases hret
    exact ⟨cb', hcall, hholds⟩

theorem cbufIsEmpty_holds (h : cb.Holds overhead q) :
    cbufIsEmpty cb = .ok (decide (q.tape.unread = [])) := by
  rw [cbufIsEmpty, h.ask, h.used]
  cases q.tape.unread <;> rfl

end Buffer

/-! ### One datagram at a time -/

/-- The buffer holds the bytes `box`, which a `take` finds. -/
structure Boxed (overhead : ℕ) (cb : Cbuf) (box : List Byte) : Prop where
  held : ∃ q : Fifo, cb.Holds overhead q ∧ q.tape.unread = box ∧ q.overwrite = .wrapMany ∧
    packetBuflen ≤ q.tape.size ∧ q.maxsize = maxConnectionBuf

section Boxed
variable {overhead : ℕ} {cb : Cbuf} {box b : List Byte}

theorem Boxed.isEmpty (h : Boxed overhead cb box) : cbufIsEmpty cb = .ok (decide (box = [])) := by
  obtain ⟨q, hholds, rfl, -⟩ := h.held
  exact cbufIsEmpty_holds hholds

theorem Boxed.used (h : Boxed overhead cb box) : cb.used = box.length := by
  obtain ⟨q, hholds, rfl, -⟩ := h.held
  exact hholds.used

theorem Boxed.read (h : Boxed overhead cb box) (len : ℕ) :
    ∃ n got cb', cbufRead cb len = .ok (.ok n, got, cb') ∧ Boxed overhead cb' (box.drop len) := by
  obtain ⟨q, hholds, rfl, hoverwrite, hsize, hmaxsize⟩ := h.held
  obtain ⟨cb', hcall, hholds'⟩ := cbufRead_holds hholds len rfl
  refine ⟨_, _, cb', hcall, ⟨_, hholds', ?_, hoverwrite, hsize, hmaxsize⟩⟩
  show q.tape.unread.drop (q.tape.unread.take len).length = _
  rw [List.length_take]
  rcases Nat.le_total len q.tape.unread.length with hle | hle
  · rw [Nat.min_eq_left hle]
  · rw [Nat.min_eq_right hle, List.drop_length, List.drop_eq_nil_of_le hle]

/-- The loop ends, with an empty buffer. -/
theorem drain_spec : ∀ (fuel : ℕ) {cb : Cbuf} {box : List Byte}, Boxed overhead cb box →
    0 < box.length → box.length ≤ fuel →
    ∃ cb', drain fuel cb = .ok (some cb') ∧ Boxed overhead cb' []
  | 0, cb, box, _, hpos, hfuel => by omega
  | fuel + 1, cb, box, h, hpos, hfuel => by
    obtain ⟨n, got, cb₁, hcall, hread⟩ := h.read packetBuflen
    have hlen : (box.drop packetBuflen).length < box.length := by
      rw [List.length_drop, packetBuflen]
      omega
    rw [drain, hcall, ok_bind]
    simp only [hread.isEmpty, ok_bind]
    by_cases hempty : box.drop packetBuflen = []
    · rw [hempty] at hread ⊢
      exact ⟨cb₁, rfl, hread⟩
    · simp only [hempty, decide_false, Bool.false_eq_true, if_false]
      exact drain_spec fuel hread (List.length_pos_of_ne_nil hempty) (by omega)

theorem Boxed.drained (h : Boxed overhead cb box) :
    ∃ cb', drained cb = .ok (some cb') ∧ Boxed overhead cb' [] := by
  rw [Power.drained, h.isEmpty, ok_bind]
  by_cases hempty : box = []
  · exact ⟨cb, by rw [if_pos (decide_eq_true hempty)]; rfl, hempty ▸ h⟩
  · obtain ⟨cb', hdrain, hboxed⟩ := drain_spec cb.used h (List.length_pos_of_ne_nil hempty) h.used.ge
    exact ⟨cb', by rw [if_neg (by simpa using hempty), hdrain], hboxed⟩

/-- A datagram is stored whole in an empty buffer. -/
theorem Boxed.write (h : Boxed overhead cb []) (hpos : 0 < b.length) (hlen : b.length ≤ packetBuflen)
    (hint : 2 * maxConnectionBuf + overhead + packetBuflen + cbufChunk ≤ intMax) (mem : Mem) :
    ∃ ndropped cb', cbufWrite cb b b.length mem = .ok (.ok b.length, ndropped, cb') ∧
      Boxed overhead cb' b := by
  obtain ⟨q, hholds, hunread, hoverwrite, hsize, hmaxsize⟩ := h.held
  have hfits : (CbufOp.write b b.length mem).Fits overhead q.maxsize := by
    refine ⟨le_rfl, ?_⟩
    rw [hmaxsize, Int.toNat_natCast]
    omega
  obtain ⟨out, cb', q', hrun, hstep, hholds'⟩ := keeps_write hholds hfits
  obtain ⟨⟨ret, ndropped, cb''⟩, hcall, hret⟩ := bind_eq_ok.mp hrun
  generalize hlenEq : (b.length : ℤ) = len at hstep
  cases hstep with
  | refused hneg => exact absurd hneg (Int.not_lt.mpr (hlenEq ▸ Int.natCast_nonneg _))
  | @write _ _ _ k b' hne hroom hb' =>
    have hall : (q.grow k).writeLen len.toNat = b.length := by
      have hsame : (q.grow k).overwrite = .wrapMany := hoverwrite
      rw [Fifo.writeLen, hsame, ← hlenEq, Int.toNat_natCast]
    rw [hall, List.take_length] at hb'
    subst hb'
    rw [if_neg (by omega)] at hret
    cases hret
    refine ⟨_, cb', hlenEq ▸ hcall, ⟨_, hholds', ?_, hoverwrite, hsize.trans (Nat.le_add_right _ _), hmaxsize⟩⟩
    show (q.tape.unread ++ b').rtake (q.tape.size + k) = b'
    rw [hunread, List.nil_append, List.rtake, Nat.sub_eq_zero_of_le (by omega), List.drop_zero]
  | writeNothing => omega

theorem Boxed.clear (h : Boxed overhead cb box) :
    ∃ cb', connectionClear cb = .ok (some cb') ∧ Boxed overhead cb' [] := by
  obtain ⟨q, hholds, rfl, hoverwrite, hsize, hmaxsize⟩ := h.held
  have hn : q.tape.unread.length = min (asked (-1) q.tape.unread.length) q.tape.unread.length := by
    rw [asked, if_pos rfl, Nat.min_self]
  obtain ⟨cb', hdrop, hholds'⟩ := cbufDrop_holds hholds (show (-1 : ℤ) ≤ -1 from le_rfl) hn
  refine ⟨cb', ?_, ⟨_, hholds', List.drop_length, hoverwrite, hsize, hmaxsize⟩⟩
  rw [connectionClear, hdrop]
  rfl

end Boxed

/-! ### Runs -/

/-- What `ipmi_lan_recvfrom` can return: as much as its buffer holds. -/
def Mail.Fits : Mail → Prop
  | .arrive (.datagram _ b) _ => b.length ≤ packetBuflen
  | _ => True

/-- The datagram that waits, or nothing: a later one replaces it. -/
def Mail.waiting (box : List Byte) : Mail → List Byte
  | .arrive (.datagram true b) _ => b
  | .arrive _ _ => box
  | .take | .clear => []

/-- What is found where `box` waits. -/
def Mail.finds (box : List Byte) : Mail → List (List Byte)
  | .take => [box]
  | _ => []

/-- What is found one after the other. -/
def found : List Byte → List Mail → List (List Byte)
  | _, [] => []
  | box, m :: mail => m.finds box ++ found (m.waiting box) mail

section Runs
variable {overhead : ℕ} {cb : Cbuf} {box : List Byte}

end Runs

end FreeIpmi.Power
