import Mathlib

/-! Lists as rings, and the bounded tape that a ring holds.

    A ring is a list that is read from some index on, around its end: `data.rotate i`. What has been
    written in front of an index is a suffix of that rotation, so that writing shifts the ring
    (`rotate_put`), and what can be read from an index is a prefix of it. A `Tape` is what such a ring is
    for: the elements that were read already and can be replayed, and those that are still unread. -/

namespace Ring
universe u
variable {α : Type u} {data data' R L L' U b c : List α} {i n : ℕ}

/-! ### Writing -/

/-- The elements from `i` on are overwritten. -/
def put (data : List α) (i : ℕ) (b : List α) : List α := data.take i ++ b ++ data.drop (i + b.length)

/-- As many elements leave in front as come behind. -/
def shift (R b : List α) : List α := (R ++ b).drop b.length

theorem length_put (h : i + b.length ≤ data.length) : (put data i b).length = data.length := by
  simp only [put, List.length_append, List.length_take, List.length_drop]
  omega

theorem take_put (h : i + b.length ≤ data.length) : (put data i b).take i = data.take i := by
  rw [put, List.append_assoc]
  exact List.take_left' (by rw [List.length_take]; omega)

theorem drop_put (h : i + b.length = data.length) : (put data i b).drop i = b := by
  rw [put, h, List.drop_length, List.append_nil]
  exact List.drop_left' (by rw [List.length_take]; omega)

@[simp] theorem shift_nil (R : List α) : shift R [] = R := by
  simp [shift]

theorem length_shift (R b : List α) : (shift R b).length = R.length := by
  rw [shift, List.length_drop, List.length_append, Nat.add_sub_cancel]

theorem shift_shift (R b c : List α) : shift (shift R b) c = shift R (b ++ c) := by
  have hle : b.length ≤ (R ++ b).length := by
    rw [List.length_append]
    omega
  rw [shift, shift, shift, ← List.drop_append_of_le_length hle, List.drop_drop, List.append_assoc,
    List.length_append]

/-- Writing shifts the ring by what is written. -/
theorem rotate_put (h : i + b.length ≤ data.length) :
    (put data i b).rotate (i + b.length) = shift (data.rotate i) b := by
  have hlen := length_put h
  have hfront : (data.take i ++ b).length = i + b.length := by
    rw [List.length_append, List.length_take]
    omega
  have hroom : b.length ≤ (data.drop i).length := by
    rw [List.length_drop]
    omega
  rw [List.rotate_eq_drop_append_take (by omega), List.rotate_eq_drop_append_take (by omega), put, shift,
    List.drop_left' hfront, List.take_left' hfront, List.append_assoc,
    List.drop_append_of_le_length hroom, List.drop_drop]

/-- What was written last stands at the end of the shifted ring. -/
theorem suffix_shift (h : L <:+ R) (hsuffix : L' <:+ L ++ b) (hlen : L'.length ≤ R.length) :
    L' <:+ shift R b := by
  have hall : L' <:+ R ++ b := hsuffix.trans (List.suffix_append_self_iff.mpr h)
  refine List.suffix_of_suffix_length_le hall (List.drop_suffix _ _) ?_
  rwa [length_shift]

theorem rotate_mod_length (data : List α) (hlen : data.length = n) :
    data.rotate (i % n) = data.rotate i := by
  rw [← hlen, List.rotate_mod]

/-! ### Reading -/

/-- What stands in front of an index is found as far before it as it is long. -/
theorem prefix_rotate (h : U <:+ data.rotate i) :
    U <+: data.rotate (i + (data.length - U.length)) := by
  obtain ⟨g, hg⟩ := h
  have hlen := congrArg List.length hg
  rw [List.length_append, List.length_rotate] at hlen
  have hgLen : data.length - U.length = g.length := by omega
  rw [hgLen, ← List.rotate_rotate, ← hg, List.rotate_append_length_eq]
  exact List.prefix_append U g

/-- A piece that does not go around the end. -/
theorem take_drop_of_prefix (h : U <+: data.rotate i) (hi : i ≤ data.length) (hn : n ≤ U.length)
    (hroom : i + n ≤ data.length) : (data.drop i).take n = U.take n := by
  have hdrop : n ≤ (data.drop i).length := by
    rw [List.length_drop]
    omega
  obtain ⟨g, hg⟩ := h
  have htake := congrArg (List.take n) hg
  rwa [List.take_append_of_le_length hn, List.rotate_eq_drop_append_take hi,
    List.take_append_of_le_length hdrop, eq_comm] at htake

/-- Behind a piece the rest is found. -/
theorem prefix_rotate_drop (h : U <+: data.rotate i) (hn : n ≤ U.length) :
    U.drop n <+: data.rotate (i + n) := by
  obtain ⟨g, hg⟩ := h
  have hsplit : data.rotate i = U.take n ++ (U.drop n ++ g) := by
    rw [← List.append_assoc, List.take_append_drop, hg]
  have hlen : (U.take n).length = n := by
    rw [List.length_take]
    omega
  have hrotate : (data.rotate i).rotate n = U.drop n ++ g ++ U.take n := by
    have hends := List.rotate_append_length_eq (U.take n) (U.drop n ++ g)
    rwa [hlen, ← hsplit] at hends
  rw [← List.rotate_rotate, hrotate, List.append_assoc]
  exact List.prefix_append _ _

/-! ### More room -/

/-- A ring is put into a longer list: what was written stands where it was in front of the index, and,
    if it goes around the end, at the new end. -/
theorem suffix_enlarge (h : L <:+ data.rotate i) (hi : i ≤ data.length) (hi' : i ≤ data'.length)
    (htake : data'.take i = data.take i)
    (hdrop : i < L.length → data.drop (data.length + i - L.length) <:+ data'.drop i) :
    L <:+ data'.rotate i := by
  have htakeLen : (data.take i).length = i := by
    rw [List.length_take]
    omega
  rw [List.rotate_eq_drop_append_take hi] at h
  rw [List.rotate_eq_drop_append_take hi', htake]
  by_cases hle : L.length ≤ i
  · have hin : L <:+ data.take i :=
      List.suffix_of_suffix_length_le h (List.suffix_append _ _) (by omega)
    exact hin.trans (List.suffix_append _ _)
  · have hlt : i < L.length := by omega
    have hsplit : data.drop (data.length + i - L.length) ++ data.take i <:+ data.drop i ++ data.take i := by
      refine List.suffix_append_self_iff.mpr ?_
      have hle' : i ≤ data.length + i - L.length := by
        have hLen := h.length_le
        rw [List.length_append, List.length_drop] at hLen
        omega
      have heq : data.drop (data.length + i - L.length)
          = (data.drop i).drop (data.length + i - L.length - i) := by
        rw [List.drop_drop]
        congr 1
        omega
      rw [heq]
      exact List.drop_suffix _ _
    have hL : L = data.drop (data.length + i - L.length) ++ data.take i := by
      have hLen := h.length_le
      rw [List.length_append, List.length_drop] at hLen
      have hsame : L.length = (data.drop (data.length + i - L.length) ++ data.take i).length := by
        rw [List.length_append, List.length_drop]
        omega
      exact (List.suffix_of_suffix_length_le h hsplit hsame.le).eq_of_length hsame
    rw [hL]
    exact List.suffix_append_self_iff.mpr (hdrop hlt)

/-! ### Tapes -/

/-- A tape of at most `size` elements: those that can be replayed, and behind them the unread ones. -/
structure Tape (α : Type u) where
  size : ℕ
  replay : List α
  unread : List α
  le : replay.length + unread.length ≤ size

variable {t : Tape α}

/-- Everything on the tape. -/
def Tape.stored (t : Tape α) : List α := t.replay ++ t.unread

theorem Tape.length_stored (t : Tape α) : t.stored.length = t.replay.length + t.unread.length :=
  List.length_append

/-- A tape is given by what is on it and how much of it is unread. -/
theorem Tape.ext_stored {t t' : Tape α} (hsize : t'.size = t.size) (hstored : t'.stored = t.stored)
    (hunread : t'.unread.length = t.unread.length) : t' = t := by
  obtain ⟨hreplay, hunread⟩ := List.append_inj' hstored hunread
  cases t
  cases t'
  simp_all

/-- Everything on the tape is gone. -/
def Tape.flush (t : Tape α) : Tape α where
  size := t.size
  replay := []
  unread := []
  le := Nat.zero_le _

/-- Unread elements are read, and can be replayed then. -/
def Tape.drop (t : Tape α) (n : ℕ) : Tape α where
  size := t.size
  replay := t.replay ++ t.unread.take n
  unread := t.unread.drop n
  le := by
    have hle := t.le
    rw [List.length_append, List.length_take, List.length_drop]
    omega

/-- The elements that were read last become unread again. -/
def Tape.rewind (t : Tape α) (n : ℕ) : Tape α where
  size := t.size
  replay := t.replay.rdrop n
  unread := t.replay.rtake n ++ t.unread
  le := by
    have hle := t.le
    rw [List.rdrop, List.rtake, List.length_append, List.length_take, List.length_drop]
    omega

/-- There is more room. -/
def Tape.grow (t : Tape α) (n : ℕ) : Tape α where
  size := t.size + n
  replay := t.replay
  unread := t.unread
  le := t.le.trans (Nat.le_add_right _ _)

theorem length_rtake (l : List α) (n : ℕ) : (l.rtake n).length = min n l.length := by
  rw [List.rtake, List.length_drop]
  omega

theorem rtake_suffix (l : List α) (n : ℕ) : l.rtake n <:+ l := List.drop_suffix _ _

/-- New elements come behind; what does not fit on the tape then is lost in front. -/
def Tape.push (t : Tape α) (b : List α) : Tape α where
  size := t.size
  replay := ((t.stored ++ b).rtake t.size).rdrop (min t.size (t.unread ++ b).length)
  unread := (t.unread ++ b).rtake t.size
  le := by
    rw [List.rdrop, List.length_take, length_rtake, length_rtake, Tape.stored]
    simp only [List.length_append]
    omega

/-- After that the tape holds the last elements. -/
theorem Tape.stored_push (t : Tape α) (b : List α) : (t.push b).stored = (t.stored ++ b).rtake t.size := by
  obtain ⟨l, hl⟩ : ∃ l, l = (t.stored ++ b).rtake t.size := ⟨_, rfl⟩
  have hunread : (t.unread ++ b).rtake t.size = l.rtake (min t.size (t.unread ++ b).length) := by
    have hlen : l.length = min t.size (t.replay.length + (t.unread ++ b).length) := by
      rw [hl, length_rtake, Tape.stored, List.append_assoc, List.length_append]
    have hall : t.unread ++ b <:+ t.stored ++ b := by
      rw [Tape.stored, List.append_assoc]
      exact List.suffix_append _ _
    have hsame : ((t.unread ++ b).rtake t.size).length
        = (l.rtake (min t.size (t.unread ++ b).length)).length := by
      rw [length_rtake, length_rtake, hlen]
      omega
    have hleft := (rtake_suffix (t.unread ++ b) t.size).trans hall
    have hright : l.rtake (min t.size (t.unread ++ b).length) <:+ t.stored ++ b :=
      (rtake_suffix l _).trans (hl ▸ rtake_suffix _ _)
    exact (List.suffix_of_suffix_length_le hleft hright hsame.le).eq_of_length hsame
  show ((t.stored ++ b).rtake t.size).rdrop _ ++ (t.unread ++ b).rtake t.size = _
  rw [hunread, ← hl, List.rdrop, List.rtake]
  exact List.take_append_drop _ _

/-! ### What goes in and what comes out -/

/-- From `before` and what is put in, some elements come out and some are kept, in their order; `lost`
    of them are missing. -/
structure Conserves (before put got : List α) (lost : ℕ) (after : List α) : Prop where
  sublist : (got ++ after).Sublist (before ++ put)
  length : got.length + after.length + lost = before.length + put.length

theorem Conserves.refl (l : List α) : Conserves l [] [] 0 l := by
  refine ⟨?_, ?_⟩
  · rw [List.append_nil, List.nil_append]
  · simp

theorem Conserves.trans {l₀ l₁ l₂ p₁ p₂ g₁ g₂ : List α} {n₁ n₂ : ℕ} (h₁ : Conserves l₀ p₁ g₁ n₁ l₁)
    (h₂ : Conserves l₁ p₂ g₂ n₂ l₂) : Conserves l₀ (p₁ ++ p₂) (g₁ ++ g₂) (n₁ + n₂) l₂ := by
  refine ⟨?_, ?_⟩
  · have hlast := (List.Sublist.refl g₁).append h₂.sublist
    have hfirst := h₁.sublist.append (List.Sublist.refl p₂)
    rw [← List.append_assoc, ← List.append_assoc] at hlast
    rw [List.append_assoc l₀] at hfirst
    exact hlast.trans hfirst
  · have hlen₁ := h₁.length
    have hlen₂ := h₂.length
    rw [List.length_append, List.length_append]
    omega

/-- Where nothing is lost, everything is there. -/
theorem Conserves.eq {l p g l' : List α} (h : Conserves l p g 0 l') : g ++ l' = l ++ p := by
  have hlen := h.length
  exact h.sublist.eq_of_length (by rw [List.length_append, List.length_append]; omega)

theorem Tape.conserves_push (t : Tape α) (b : List α) :
    Conserves t.unread b [] (t.unread.length + b.length - t.size) (t.push b).unread := by
  refine ⟨(rtake_suffix _ _).sublist, ?_⟩
  show _ + ((t.unread ++ b).rtake t.size).length + _ = _
  rw [length_rtake, List.length_append, List.length_nil]
  omega

theorem Tape.conserves_drop (t : Tape α) (n : ℕ) :
    Conserves t.unread [] (t.unread.take n) 0 (t.drop n).unread := by
  refine ⟨?_, ?_⟩
  · show (t.unread.take n ++ t.unread.drop n).Sublist _
    rw [List.take_append_drop, List.append_nil]
  · show _ + (t.unread.drop n).length + _ = _
    rw [List.length_take, List.length_drop, List.length_nil]
    omega

end Ring
