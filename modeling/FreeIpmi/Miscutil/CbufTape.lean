import FreeIpmi.Miscutil.Cbuf
import FreeIpmi.Lib.Calls

/-! What a circular buffer holds: a tape of replayable and of unread bytes.

    The indices of the buffer are steps back from `i_in` on a ring of `size + 1` bytes: as many as there
    are unread bytes to `i_out`, and as many as there are stored bytes to `i_rep`. From that follows
    everything that `cbuf_is_valid` asserts. -/

namespace FreeIpmi.Miscutil
open Ring Calls

/-! ### Indices on a ring -/

/-- The index `k` steps before `i` on a ring of `n` elements. -/
def back (n i k : ℕ) : ℕ := if k ≤ i then i - k else i + n - k

theorem mod_wrap {x n : ℕ} (h : x < 2 * n) : x % n = if x < n then x else x - n := by
  split
  · exact Nat.mod_eq_of_lt ‹_›
  · rw [Nat.mod_eq_sub_mod (by omega), Nat.mod_eq_of_lt (by omega)]

section Back
variable {n i k m : ℕ}

theorem back_lt (hi : i < n) (hk : k < n) : back n i k < n := by
  rw [back]
  split <;> omega

@[simp] theorem back_zero (n i : ℕ) : back n i 0 = i := by
  simp [back]

/-- Some steps forward again. -/
theorem back_add_mod (hi : i < n) (hk : k < n) (hm : m ≤ k) : (back n i k + m) % n = back n i (k - m) := by
  have hlt := back_lt hi hk
  rw [mod_wrap (by omega)]
  simp only [back]
  split_ifs <;> omega

/-- Some more steps back. -/
theorem back_sub_mod (hi : i < n) (hk : k + m < n) : (back n i k + n - m) % n = back n i (k + m) := by
  have hlt := back_lt hi (show k < n by omega)
  rw [mod_wrap (by omega)]
  simp only [back]
  split_ifs <;> omega

/-- The steps between two indices. -/
theorem back_diff_mod (hi : i < n) (hk : k < n) (hm : m ≤ k) :
    (back n i m + n - back n i k) % n = k - m := by
  have hlt := back_lt hi (show m < n by omega)
  have hlt' := back_lt hi hk
  rw [mod_wrap (by omega)]
  simp only [back]
  split_ifs <;> omega

theorem rotate_back {data : List Byte} (hlen : data.length = n) (hi : i < n) (hk : k < n) :
    data.rotate (back n i k) = data.rotate (i + (n - k)) := by
  rw [← rotate_mod_length (i := i + (n - k)) data hlen, mod_wrap (by omega), back]
  split_ifs <;> congr 1 <;> omega

end Back

/-! ### The bytes of a buffer -/

/-- What a buffer is for: a tape, how it is overwritten, and how far it may grow. -/
structure Fifo where
  tape : Tape Byte
  overwrite : Overwrite
  maxsize : ℕ

/-- The buffer holds the bytes of the tape. Its array has `overhead` bytes beyond them. -/
structure Cbuf.Holds (overhead : ℕ) (cb : Cbuf) (q : Fifo) : Prop where
  size : cb.size = q.tape.size
  maxsize : cb.maxsize = q.maxsize
  overwrite : cb.overwrite = q.overwrite
  alloc : cb.alloc = cb.size + overhead
  overheadPos : 0 < overhead
  minPos : 0 < cb.minsize
  minLe : cb.minsize ≤ cb.size
  le : cb.size ≤ cb.maxsize
  dataLen : cb.data.length = cb.size + 1
  iIn : cb.iIn < cb.size + 1
  stored : q.tape.stored <:+ cb.data.rotate cb.iIn
  used : cb.used = q.tape.unread.length
  iOut : cb.iOut = back (cb.size + 1) cb.iIn q.tape.unread.length
  iRep : cb.iRep = back (cb.size + 1) cb.iIn q.tape.stored.length
  wrapped : cb.gotWrap = true ∨ cb.iRep = 0

section Holds
variable {overhead : ℕ} {cb : Cbuf} {q : Fifo}

theorem demand_true {p : Prop} [Decidable p] (h : p) : demand p = .ok () := if_pos h

theorem intSum_le {n : ℕ} (h : n ≤ intMax) : intSum n = .ok n := if_pos h

theorem Cbuf.Holds.storedLe (h : cb.Holds overhead q) :
    q.tape.stored.length < cb.size + 1 ∧ q.tape.unread.length ≤ q.tape.stored.length := by
  have hle := q.tape.le
  rw [q.tape.length_stored, h.size]
  omega

theorem Cbuf.Holds.iOut_lt (h : cb.Holds overhead q) : cb.iOut < cb.size + 1 := by
  obtain ⟨hstored, hunread⟩ := h.storedLe
  rw [h.iOut]
  exact back_lt h.iIn (by omega)

/-- No assertion of `cbuf_is_valid` fails. -/
theorem Cbuf.Holds.isValid (h : cb.Holds overhead q) : cb.IsValid := by
  obtain ⟨hstored, hunread⟩ := h.storedLe
  have hiIn := h.iIn
  have hiOut := h.iOut_lt
  have hiOutBack := back_lt hiIn (show q.tape.unread.length < cb.size + 1 by omega)
  have hiRep := back_lt hiIn hstored
  have hused := h.used
  have halloc := h.alloc
  have hpos := h.overheadPos
  have hminPos := h.minPos
  have hminLe := h.minLe
  have hle := h.le
  have hfree : cb.size - cb.used = (cb.iOut + (cb.size + 1) - cb.iIn - 1) % (cb.size + 1) := by
    rw [h.iOut, mod_wrap (by omega), hused]
    simp only [back]
    split_ifs <;> omega
  have horder : if cb.iOut ≤ cb.iIn then cb.iIn < cb.iRep ∨ cb.iRep ≤ cb.iOut
      else cb.iIn < cb.iRep ∧ cb.iRep ≤ cb.iOut := by
    rw [h.iOut, h.iRep]
    simp only [back]
    split_ifs <;> omega
  rw [← h.iRep] at hiRep
  exact ⟨by omega, by omega, by omega, hminLe, hle, hminPos, by omega, by omega, h.wrapped, by omega,
    by omega, by omega, horder, hfree⟩

theorem Cbuf.Holds.reused (h : cb.Holds overhead q) : cb.reused = q.tape.replay.length := by
  obtain ⟨hstored, hunread⟩ := h.storedLe
  have hlen := q.tape.length_stored
  rw [Cbuf.reused, h.iOut, h.iRep, back_diff_mod h.iIn hstored hunread]
  omega

/-- The unread bytes stand from `i_out` on. -/
theorem Cbuf.Holds.unread_prefix (h : cb.Holds overhead q) :
    q.tape.unread <+: cb.data.rotate cb.iOut := by
  obtain ⟨hstored, hunread⟩ := h.storedLe
  have hsuffix : q.tape.unread <:+ cb.data.rotate cb.iIn :=
    (List.suffix_append q.tape.replay q.tape.unread).trans h.stored
  have hprefix := prefix_rotate hsuffix
  rw [h.iOut, rotate_back h.dataLen h.iIn (by omega)]
  rwa [h.dataLen] at hprefix

/-- Any bytes at the end of what can be replayed stand that far before `i_out`. -/
theorem Cbuf.Holds.replay_prefix (h : cb.Holds overhead q) {n : ℕ} (hn : n ≤ q.tape.replay.length) :
    q.tape.replay.rtake n <+:
      cb.data.rotate ((cb.iOut + (cb.size + 1) - n) % (cb.size + 1)) := by
  obtain ⟨hstored, hunread⟩ := h.storedLe
  have hlen := q.tape.length_stored
  have hsuffix : q.tape.replay.rtake n ++ q.tape.unread <:+ cb.data.rotate cb.iIn :=
    (List.suffix_append_self_iff.mpr (rtake_suffix q.tape.replay n)).trans h.stored
  have hprefix := prefix_rotate hsuffix
  rw [List.length_append, length_rtake, h.dataLen, Nat.min_eq_left hn] at hprefix
  rw [h.iOut, back_sub_mod h.iIn (by omega), rotate_back h.dataLen h.iIn (by omega),
    Nat.add_comm q.tape.unread.length]
  exact (List.prefix_append _ _).trans hprefix

/-- A new buffer is empty. -/
theorem cbufCreate_holds {magicLen : ℕ} {minsize maxsize : ℤ} {mem : Mem}
    (hret : cbufCreate magicLen minsize maxsize mem = .ok (some cb)) :
    cb.Holds (1 + 2 * magicLen)
      ⟨⟨minsize.toNat, [], [], Nat.zero_le _⟩, .wrapMany, max minsize.toNat maxsize.toNat⟩ := by
  rw [cbufCreate] at hret
  split at hret
  · cases hret
  rename_i hmin
  obtain ⟨alloc, halloc, hret⟩ := bind_eq_ok.mp hret
  cases mem with
  | none => cases hret
  | some junk =>
    obtain ⟨-, -, hret⟩ := bind_eq_ok.mp hret
    cases hret
    have hsum : alloc = minsize.toNat + 1 + 2 * magicLen := by
      rw [intSum] at halloc
      split at halloc
      · exact (Except.ok.inj halloc).symm
      · cases halloc
    refine ⟨rfl, ?_, rfl, ?_, by omega, ?_, le_rfl, ?_, ?_, Nat.succ_pos _, List.nil_suffix, rfl, ?_, ?_,
      Or.inr rfl⟩
    · show (if maxsize > minsize then maxsize.toNat else minsize.toNat) = max minsize.toNat maxsize.toNat
      split <;> omega
    · show alloc = _
      rw [hsum]
      exact Nat.add_assoc _ _ _
    · show 0 < minsize.toNat
      omega
    · show minsize.toNat ≤ if maxsize > minsize then _ else _
      split <;> omega
    · simp [junkBytes]
    · simp
    · simp [Tape.stored]

end Holds

end FreeIpmi.Miscutil
