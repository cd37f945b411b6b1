import FreeIpmi.Miscutil.CbufTape

/-! The helpers of `common/miscutil/cbuf.c` that move bytes into a buffer and out of it, for any object on
    the other side.

    Each of them works piece by piece, around the end of the array, and stops at a short count. The
    pieces of a reader are consecutive in what is found at its index, and the pieces of a writer shift
    the ring one after the other, so the end of the array does not show. -/

namespace FreeIpmi.Miscutil
open Ring Calls

/-! ### Reading -/

section Read
variable {σ : Type} {putf : σ → List Byte → Except Stop (Ret × σ)} {out : σ → List Byte}

/-- What is put into an object comes behind what was put there before. -/
structure Puts (putf : σ → List Byte → Except Stop (Ret × σ)) (out : σ → List Byte) : Prop where
  put : ∀ dst b, b ≠ [] → ∃ m dst', putf dst b = .ok (m, dst') ∧
    ((∃ k, m = .ok k ∧ k ≤ b.length ∧ out dst' = out dst ++ b.take k) ∨
      ∃ e, m = .error e ∧ out dst' = out dst)

/-- Everything is put there. -/
def PutsAll (putf : σ → List Byte → Except Stop (Ret × σ)) : Prop :=
  ∀ dst b, b ≠ [] → ∃ dst', putf dst b = .ok (.ok b.length, dst')

/-- The return of a call that moves up to `len` bytes, of which it has moved `k`. -/
def Counts (ret : Ret) (k : ℕ) : Prop := ret = .ok k ∨ k = 0 ∧ ∃ e, ret = .error e

/-- What a loop has returned that should read `U`: the rest of `U` is left, and nothing was the matter as
    long as something was moved. -/
structure LoopRead (putf : σ → List Byte → Except Stop (Ret × σ)) (out : σ → List Byte) (U : List Byte)
    (m : Ret) (dst : σ) (nleft : ℕ) (m' : Ret) (dst' : σ) : Prop where
  le : nleft ≤ U.length
  out : out dst' = out dst ++ U.take (U.length - nleft)
  last : nleft = U.length → m' = m ∨ Counts m' 0
  all : PutsAll putf → nleft = 0

theorem readLoop_spec (hput : Puts putf out) {data : List Byte} : ∀ (fuel : ℕ) (m : Ret) (dst : σ)
    {iSrc : ℕ} {U : List Byte}, U.length ≤ fuel → U <+: data.rotate iSrc → iSrc < data.length →
    ∃ nleft m' dst', readLoop putf data data.length fuel iSrc U.length m dst = .ok (nleft, m', dst') ∧
      LoopRead putf out U m dst nleft m' dst'
  | 0, m, dst, iSrc, U, hfuel, _, _ => by
    have hlen : U.length = 0 := by omega
    exact ⟨U.length, m, dst, rfl, ⟨le_rfl, by simp, fun _ => Or.inl rfl, fun _ => hlen⟩⟩
  | fuel + 1, m, dst, iSrc, U, hfuel, hU, hi => by
    by_cases hlen : U.length = 0
    · refine ⟨U.length, m, dst, ?_, ⟨le_rfl, by simp, fun _ => Or.inl rfl, fun _ => hlen⟩⟩
      rw [readLoop, if_pos hlen]
    obtain ⟨n, hn⟩ : ∃ n, n = min U.length (data.length - iSrc) := ⟨_, rfl⟩
    have hpiece : (data.drop iSrc).take n = U.take n :=
      take_drop_of_prefix hU hi.le (by omega) (by omega)
    have hpieceLen : (U.take n).length = n := by
      rw [List.length_take]
      omega
    have hne : U.take n ≠ [] := fun hnil => by
      rw [hnil, List.length_nil] at hpieceLen
      omega
    obtain ⟨r, dst₁, hcall, hr⟩ := hput.put dst (U.take n) hne
    have hfull : PutsAll putf → r = .ok n := fun hall => by
      obtain ⟨dst₂, hcall'⟩ := hall dst (U.take n) hne
      rw [hcall, hpieceLen] at hcall'
      exact congrArg Prod.fst (Except.ok.inj hcall')
    rw [readLoop, if_neg hlen, ← hn]
    simp only [hpiece, hcall, ok_bind]
    rcases hr with ⟨k, rfl, hk, hout⟩ | ⟨e, rfl, hout⟩
    · rw [hpieceLen] at hk
      have htake : (U.take n).take k = U.take k := by rw [List.take_take, Nat.min_eq_left hk]
      rw [htake] at hout
      by_cases hshort : n = k
      · subst hshort
        simp only [ne_eq, not_true_eq_false, if_false]
        have hrest : (U.drop n).length = U.length - n := List.length_drop
        have hnext : U.drop n <+: data.rotate ((iSrc + n) % data.length) := by
          rw [List.rotate_mod]
          exact prefix_rotate_drop hU (by omega)
        have hmod : (iSrc + n) % data.length < data.length := Nat.mod_lt _ (by omega)
        have ih := readLoop_spec hput fuel (.ok n) dst₁
          (show (U.drop n).length ≤ fuel by omega) hnext hmod
        rw [hrest] at ih
        obtain ⟨nleft, m', dst', hloop, hspec⟩ := ih
        have hle := hspec.le
        refine ⟨nleft, m', dst', hloop, ⟨by omega, ?_, fun heq => by omega, hspec.all⟩⟩
        rw [hspec.out, hout, List.append_assoc, hrest]
        congr 1
        rw [← List.take_add]
        congr 1
        omega
      · simp only [ne_eq, hshort, not_false_eq_true, if_true]
        refine ⟨U.length - k, .ok k, dst₁, rfl, ⟨by omega, ?_, fun heq => ?_, fun hall => ?_⟩⟩
        · rw [hout, Nat.sub_sub_self (by omega)]
        · obtain rfl : k = 0 := by omega
          exact Or.inr (Or.inl rfl)
        · exact absurd (Except.ok.inj (hfull hall)).symm hshort
    · refine ⟨U.length, .error e, dst₁, rfl, ⟨le_rfl, by simp [hout], fun _ => Or.inr (Or.inr ⟨rfl, e, rfl⟩),
        fun hall => ?_⟩⟩
      cases hfull hall

variable {overhead : ℕ} {cb : Cbuf} {q : Fifo}

/-- What a reader has moved of some bytes. -/
structure Read (putf : σ → List Byte → Except Stop (Ret × σ)) (out : σ → List Byte) (U : List Byte)
    (dst : σ) (ret : Ret) (k : ℕ) (dst' : σ) : Prop where
  le : k ≤ U.length
  out : out dst' = out dst ++ U.take k
  empty : U.length = 0 → ret = .ok 0
  ret : Counts ret k
  all : PutsAll putf → k = U.length

theorem LoopRead.read {U : List Byte} {dst dst' : σ} {nleft : ℕ} {m : Ret} (hne : U.length ≠ 0)
    (h : LoopRead putf out U (.ok 0) dst nleft m dst') :
    Read putf out U dst (moved U.length nleft m) (U.length - nleft) dst' := by
  have hle := h.le
  refine ⟨Nat.sub_le _ _, h.out, fun hempty => absurd hempty hne, ?_,
    fun hall => by rw [h.all hall, Nat.sub_zero]⟩
  rw [moved]
  split
  · rename_i hzero
    rw [hzero]
    rcases h.last (by omega) with rfl | hcounts
    · exact Or.inl rfl
    · exact hcounts
  · exact Or.inl rfl

theorem Read.nothing (dst : σ) : Read putf out [] dst (.ok 0) 0 dst :=
  ⟨le_rfl, by simp, fun _ => rfl, Or.inl rfl, fun _ => rfl⟩

/-- `cbuf_reader` moves unread bytes, from the first one on. -/
theorem cbufReader_spec (hput : Puts putf out) (h : cb.Holds overhead q) {len : ℕ} (hlen : 0 < len)
    (dst : σ) : ∃ ret k dst', cbufReader cb len putf dst = .ok (ret, dst') ∧
      Read putf out (q.tape.unread.take len) dst ret k dst' := by
  obtain ⟨U, hU⟩ : ∃ U, U = q.tape.unread.take len := ⟨_, rfl⟩
  have hmin : min len cb.used = U.length := by rw [hU, List.length_take, h.used]
  rw [cbufReader, demand_true hlen, ok_bind, hmin, ← hU]
  by_cases hzero : U.length = 0
  · rw [if_pos hzero, List.length_eq_zero_iff.mp hzero]
    exact ⟨.ok 0, 0, dst, rfl, Read.nothing dst⟩
  · have hprefix : U <+: cb.data.rotate cb.iOut := by
      rw [hU]
      exact (List.take_prefix _ _).trans h.unread_prefix
    have hiOut : cb.iOut < cb.data.length := by
      rw [h.dataLen]
      exact h.iOut_lt
    obtain ⟨nleft, m, dst', hloop, hspec⟩ := readLoop_spec hput U.length (.ok 0) dst le_rfl
      hprefix hiOut
    rw [h.dataLen] at hloop
    simp only [if_neg hzero, hloop, ok_bind, demand_true hspec.le]
    exact ⟨_, _, dst', rfl, hspec.read hzero⟩

/-- `cbuf_replayer` moves the bytes that were read last. -/
theorem cbufReplayer_spec (hput : Puts putf out) (h : cb.Holds overhead q) {len : ℕ} (hlen : 0 < len)
    (dst : σ) : ∃ ret k dst', cbufReplayer cb len putf dst = .ok (ret, dst') ∧
      Read putf out (q.tape.replay.rtake len) dst ret k dst' := by
  obtain ⟨n, hn⟩ : ∃ n, n = min len q.tape.replay.length := ⟨_, rfl⟩
  obtain ⟨U, hU⟩ : ∃ U, U = q.tape.replay.rtake n := ⟨_, rfl⟩
  have hsame : q.tape.replay.rtake len = U := by
    rw [hU, hn, List.rtake, List.rtake]
    congr 1
    omega
  have hlenU : U.length = n := by
    rw [hU, length_rtake]
    omega
  rw [cbufReplayer, demand_true hlen, ok_bind, h.reused, ← hn, hsame]
  by_cases hzero : n = 0
  · rw [if_pos hzero, List.length_eq_zero_iff.mp (hlenU.trans hzero)]
    exact ⟨.ok 0, 0, dst, rfl, Read.nothing dst⟩
  · have hprefix := h.replay_prefix (show n ≤ q.tape.replay.length by omega)
    rw [← hU] at hprefix
    have hi : (cb.iOut + (cb.size + 1) - n) % (cb.size + 1) < cb.data.length := by
      rw [h.dataLen]
      exact Nat.mod_lt _ (Nat.succ_pos _)
    obtain ⟨nleft, m, dst', hloop, hspec⟩ := readLoop_spec hput U.length (.ok 0) dst le_rfl
      hprefix hi
    have hle := hspec.le
    rw [hlenU, h.dataLen] at hloop
    rw [hlenU] at hle
    simp only [if_neg hzero, hloop, ok_bind, demand_true hle]
    have hread := hspec.read (by omega)
    rw [hlenU] at hread
    exact ⟨_, _, dst', rfl, hread⟩

end Read

/-! ### Dropping -/

section Drop
variable {overhead : ℕ} {cb : Cbuf} {q : Fifo} {n : ℕ}

/-- Bytes are read off the tape. -/
def Fifo.drop (q : Fifo) (n : ℕ) : Fifo := { q with tape := q.tape.drop n }

theorem stored_drop (t : Tape Byte) (n : ℕ) : (t.drop n).stored = t.stored := by
  show t.replay ++ t.unread.take n ++ t.unread.drop n = t.replay ++ t.unread
  rw [List.append_assoc, List.take_append_drop]

theorem Cbuf.Holds.drop (h : cb.Holds overhead q) (hn : n ≤ q.tape.unread.length) :
    ({ cb with used := cb.used - n, iOut := (cb.iOut + n) % (cb.size + 1) } : Cbuf).Holds overhead
      (q.drop n) := by
  obtain ⟨hstored, hunread⟩ := h.storedLe
  have hlen : (q.drop n).tape.unread.length = q.tape.unread.length - n := List.length_drop
  have hsame : (q.drop n).tape.stored = q.tape.stored := stored_drop _ _
  refine ⟨h.size, h.maxsize, h.overwrite, h.alloc, h.overheadPos, h.minPos, h.minLe, h.le, h.dataLen,
    h.iIn, ?_, ?_, ?_, ?_, h.wrapped⟩
  · rw [hsame]
    exact h.stored
  · rw [hlen]
    show cb.used - n = _
    rw [h.used]
  · rw [hlen]
    show (cb.iOut + n) % (cb.size + 1) = _
    rw [h.iOut, back_add_mod h.iIn (by omega) hn]
  · rw [hsame]
    exact h.iRep

/-- `cbuf_dropper`. -/
theorem cbufDropper_spec (h : cb.Holds overhead q) (hpos : 0 < n) (hn : n ≤ q.tape.unread.length) :
    ∃ cb', cbufDropper cb n = .ok cb' ∧ cb'.Holds overhead (q.drop n) := by
  have hdrop := h.drop hn
  refine ⟨_, ?_, hdrop⟩
  rw [cbufDropper, demand_true hpos, ok_bind, demand_true (by rw [h.used]; exact hn), ok_bind]
  simp only [cbufShrink, demand_true hdrop.isValid]
  split <;> rfl

end Drop

end FreeIpmi.Miscutil
