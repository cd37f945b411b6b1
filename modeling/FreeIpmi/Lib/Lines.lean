import FreeIpmi.Lib.Text

/-! Reading a text line by line and word by word.

    `fgets` fills a buffer of a fixed length, so a line that is longer than the buffer comes in
    pieces. `strtok` cuts the next word out of a buffer. -/

namespace Lines

/-- A text without its final null. -/
abbrev Str := List (BitVec 8)

/-- A text constant. -/
def str (s : String) : Str := s.toList.map fun c => BitVec.ofNat 8 c.toNat

/-- A line feed. -/
def newline : BitVec 8 := 0x0A

/-- A blank. -/
def blank : BitVec 8 := 0x20

/-! ### Lines -/

/-- What the calls of `fgets` with a buffer of `buflen` bytes return one after the other; `buf` is what
    the next call has already put into the buffer. -/
def fgetsAll (buflen : ℕ) : Str → Str → List Str
  | [], [] => []
  | x :: buf, [] => [x :: buf]
  | buf, c :: rest =>
    if c = newline ∨ buf.length + 1 = buflen - 1 then (buf ++ [c]) :: fgetsAll buflen [] rest
    else fgetsAll buflen (buf ++ [c]) rest

section Fgets
variable {buflen : ℕ} {buf line rest : Str}

/-- A line feed ends a piece, and the rest is read into an empty buffer. -/
theorem fgetsAll_newline :
    fgetsAll buflen buf (line ++ newline :: rest)
      = fgetsAll buflen buf (line ++ [newline]) ++ fgetsAll buflen [] rest := by
  induction line generalizing buf with
  | nil => simp [fgetsAll.eq_3, fgetsAll.eq_1]
  | cons c line ih =>
    rw [List.cons_append, List.cons_append, fgetsAll.eq_3, fgetsAll.eq_3]
    split
    · rw [ih, List.cons_append]
    · exact ih

/-- Characters of a line that leave room in the buffer. -/
theorem fgetsAll_append (hline : newline ∉ line) (hlen : buf.length + line.length < buflen - 1) :
    fgetsAll buflen buf (line ++ rest) = fgetsAll buflen (buf ++ line) rest := by
  induction line generalizing buf with
  | nil => simp
  | cons c line ih =>
    rw [List.length_cons] at hlen
    have hc : c ≠ newline := fun h => hline (h ▸ List.mem_cons_self ..)
    have hrest : newline ∉ line := fun h => hline (List.mem_cons_of_mem _ h)
    rw [List.cons_append, fgetsAll.eq_3 _ _ _ _, if_neg (by simp [hc]; omega),
      ih hrest (by rw [List.length_append, List.length_singleton]; omega), List.append_assoc]
    rfl

/-- A line that fits into the buffer with its end. -/
theorem fgetsAll_line (hline : newline ∉ line) (hlen : line.length < buflen - 1) :
    fgetsAll buflen [] (line ++ newline :: rest)
      = (line ++ [newline]) :: fgetsAll buflen [] rest := by
  rw [fgetsAll_append hline (by simpa using hlen), List.nil_append, fgetsAll.eq_3, if_pos (Or.inl rfl)]

/-- A line that is as long as the buffer, or longer, comes in pieces. -/
theorem fgetsAll_piece (hline : newline ∉ line) (hpos : 1 < buflen) (hlen : line.length = buflen - 1) :
    fgetsAll buflen [] (line ++ rest) = line :: fgetsAll buflen [] rest := by
  obtain ⟨start, c, rfl⟩ : ∃ start c, line = start ++ [c] := by
    rcases List.eq_nil_or_concat line with rfl | ⟨start, c, rfl⟩
    · rw [List.length_nil] at hlen
      omega
    · exact ⟨start, c, by rw [List.concat_eq_append]⟩
  rw [List.length_append, List.length_singleton] at hlen
  have hstart : newline ∉ start := fun h => hline (List.mem_append_left _ h)
  rw [List.append_assoc, fgetsAll_append hstart (by simp only [List.length_nil]; omega), List.nil_append,
    List.singleton_append, fgetsAll.eq_3, if_pos (Or.inr (by omega))]

/-- The pieces a line comes in. -/
def pieces (buflen : ℕ) (line : Str) : List Str := fgetsAll buflen [] (line ++ [newline])

/-- The first piece of a line. If the line fits, then there may be another with its end. -/
theorem pieces_eq_cons (hline : newline ∉ line) (hpos : 1 < buflen) :
    ∃ more, pieces buflen line = (line ++ [newline]).take (buflen - 1) :: more
      ∧ (line.length ≤ buflen - 1 → ∀ piece ∈ more, piece = [newline]) := by
  rcases Nat.lt_trichotomy line.length (buflen - 1) with hfit | hfull | hlong
  · refine ⟨[], ?_, fun _ _ h => absurd h List.not_mem_nil⟩
    rw [pieces, fgetsAll_line hline hfit, fgetsAll,
      List.take_of_length_le (by rw [List.length_append, List.length_singleton]; omega)]
  · refine ⟨[[newline]], ?_, fun _ _ h => List.mem_singleton.mp h⟩
    rw [pieces, fgetsAll_piece hline hpos hfull, fgetsAll.eq_3, if_pos (Or.inl rfl), fgetsAll,
      List.take_append_of_le_length (Nat.le_of_eq hfull.symm),
      List.take_of_length_le (Nat.le_of_eq hfull)]
    rfl
  · refine ⟨fgetsAll buflen [] (line.drop (buflen - 1) ++ [newline]), ?_, fun h => by omega⟩
    have hstart : newline ∉ line.take (buflen - 1) := fun h => hline (List.mem_of_mem_take h)
    rw [pieces, ← List.take_append_drop (buflen - 1) line, List.append_assoc,
      fgetsAll_piece hstart hpos (by rw [List.length_take]; omega), List.take_append_drop,
      ← List.append_assoc, List.take_append_drop, List.take_append_of_le_length hlong.le]

end Fgets

/-! ### Words -/

/-- `strtok` on what is left of a buffer: the next word, and what is left behind it. -/
def strtok (isDelim : BitVec 8 → Bool) (s : Str) : Option (Str × Str) :=
  match s.dropWhile isDelim with
  | [] => none
  | c :: rest =>
    some ((c :: rest).takeWhile fun c => !isDelim c,
      ((c :: rest).dropWhile fun c => !isDelim c).drop 1)

/-- The words that a loop of `strtok_r` finds. -/
def words (isDelim : BitVec 8 → Bool) (s : Str) : List Str :=
  (s.splitOnP isDelim).filter fun word => !word.isEmpty

section Strtok
variable {isDelim : BitVec 8 → Bool} {blanks word rest : Str}

theorem strtok_none (h : ∀ c ∈ blanks, isDelim c = true) : strtok isDelim blanks = none := by
  rw [strtok, List.dropWhile_eq_nil_iff.mpr h]

/-- The next word is cut out behind the delimiters in front of it. -/
theorem strtok_word {tail : Str} (h : ∀ c ∈ blanks, isDelim c = true) (hne : word ≠ [])
    (hword : ∀ c ∈ word, isDelim c = false) (htail : ∀ d ∈ tail.head?, isDelim d = true) :
    strtok isDelim (blanks ++ (word ++ tail)) = some (word, tail.drop 1) := by
  have hstop : ∀ c ∈ word, (!isDelim c) = true := fun c hc => by simp [hword c hc]
  obtain ⟨c, word', rfl⟩ := List.exists_cons_of_ne_nil hne
  have hdrop : (blanks ++ (c :: word' ++ tail)).dropWhile isDelim = c :: word' ++ tail := by
    rw [List.dropWhile_append_of_pos h, List.cons_append, List.dropWhile_cons_of_neg]
    simp [hword c (List.mem_cons_self ..)]
  rw [strtok, hdrop]
  simp only [List.cons_append]
  rw [← List.cons_append, List.takeWhile_append_of_pos hstop, List.dropWhile_append_of_pos hstop]
  cases tail with
  | nil => simp
  | cons d tail => simp [htail d rfl]

/-- The first character of the next word. -/
theorem strtok_head (h : ∀ c ∈ blanks, isDelim c = true) {c : BitVec 8} (hc : isDelim c = false) :
    ∃ word tail, strtok isDelim (blanks ++ c :: rest) = some (c :: word, tail) := by
  rw [strtok, List.dropWhile_append_of_pos h, List.dropWhile_cons_of_neg (by simp [hc])]
  simp only [List.takeWhile_cons_of_pos (p := fun c => !isDelim c) (a := c) (by simp [hc])]
  exact ⟨_, _, rfl⟩

/-- A word has no delimiters. -/
theorem strtok_some {s : Str} (h : strtok isDelim s = some (word, rest)) :
    ∀ c ∈ word, isDelim c = false := by
  rw [strtok] at h
  split at h
  · cases h
  · cases h
    intro c hc
    simpa using List.mem_takeWhile_imp hc

/-- The words of a text are made of its characters, without the delimiters. -/
theorem mem_of_mem_words {s : Str} (h : word ∈ words isDelim s) :
    ∀ c ∈ word, c ∈ s ∧ isDelim c = false := by
  suffices hsplit : ∀ word ∈ s.splitOnP isDelim, ∀ c ∈ word, c ∈ s ∧ isDelim c = false from
    hsplit word (List.mem_of_mem_filter h)
  clear h
  induction s with
  | nil => simp
  | cons x s ih =>
    obtain ⟨head, tail, hs⟩ := List.exists_cons_of_ne_nil (List.splitOnP_ne_nil isDelim s)
    rw [hs] at ih
    rw [List.splitOnP_cons_eq_if_modifyHead, hs]
    have ih' : ∀ word ∈ head :: tail, ∀ c ∈ word, c ∈ x :: s ∧ isDelim c = false :=
      fun word hword c hc => ⟨List.mem_cons_of_mem _ (ih word hword c hc).1, (ih word hword c hc).2⟩
    intro word hword c hc
    split at hword
    · rcases List.mem_cons.mp hword with rfl | hmem
      · cases hc
      · exact ih' _ hmem c hc
    · rename_i hx
      rcases List.mem_cons.mp hword with rfl | hmem
      · rcases List.mem_cons.mp hc with rfl | hc
        · exact ⟨List.mem_cons_self .., Bool.eq_false_iff.mpr hx⟩
        · exact ih' _ (List.mem_cons_self ..) c hc
      · exact ih' _ (List.mem_cons_of_mem _ hmem) c hc

end Strtok

/-! ### Letters -/

/-- `tolower` in the C locale. -/
def toLower (c : BitVec 8) : BitVec 8 := if 0x41 ≤ c.toNat ∧ c.toNat ≤ 0x5A then c + 0x20 else c

/-- `strcasecmp (a, b) == 0`. -/
def same (a b : Str) : Bool := a.map toLower = b.map toLower

theorem same_refl (a : Str) : same a a = true := decide_eq_true rfl

theorem same_comm (a b : Str) : same a b = same b a := decide_eq_decide.mpr eq_comm

theorem length_eq_of_same {a b : Str} (h : same a b = true) : a.length = b.length := by
  have hlength := congrArg List.length (of_decide_eq_true h)
  rwa [List.length_map, List.length_map] at hlength

end Lines
