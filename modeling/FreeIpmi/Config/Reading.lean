import FreeIpmi.Config.Checkout
import FreeIpmi.Config.Parse

/-! What the parser makes of the lines that the writer writes.

    A text leads from one state to another, whatever stands behind it. The line of a key is read back
    if it fits into the buffer and its value has no blanks; otherwise it spoils the key values of its
    section for good. -/

namespace FreeIpmi.Config
open Lines

/-! ### Texts that lead from state to state -/

/-- The parser on a text, with `lineNum` pieces read before. -/
def parseText (lineNum : ℕ) (st : ParseState) (fp : Str) : Except ParseError ParseState :=
  parseLines lineNum st (fgetsAll PARSE_BUFLEN [] fp)

/-- The parser gets through a text and is then in the other state. -/
def Leads (st : ParseState) (text : Str) (st' : ParseState) : Prop :=
  ∀ n rest, ∃ m, parseText n st (text ++ rest) = parseText m st' rest

/-- Whatever stands behind the text, a section ends up with key values that do not start the
    expected ones. -/
def Spoils (st : ParseState) (text : Str) (i : ℕ) (expected : List ConfigKeyvalue) : Prop :=
  ∀ n rest st', parseText n st (text ++ rest) = .ok st' →
    ∃ s : ConfigSection, st'.sections[i]? = some s ∧ ¬ s.keyvalues <+: expected

section Composition
variable {st st' st'' : ParseState} {text more : Str}

theorem Leads.nil (st : ParseState) : Leads st [] st := fun n _ => ⟨n, rfl⟩

theorem Leads.append (h : Leads st text st') (hmore : Leads st' more st'') :
    Leads st (text ++ more) st'' := by
  intro n rest
  obtain ⟨m, hm⟩ := h n (more ++ rest)
  obtain ⟨m', hm'⟩ := hmore m rest
  exact ⟨m', by rw [List.append_assoc, hm, hm']⟩

/-- A text that leads somewhere is parsed. -/
theorem Leads.parse (h : Leads st text st') (n : ℕ) : parseText n st text = .ok st' := by
  obtain ⟨m, hm⟩ := h n []
  rw [List.append_nil] at hm
  rw [hm, parseText, fgetsAll, parseLines]

theorem Leads.spoils {i : ℕ} {expected : List ConfigKeyvalue} (h : Leads st text st')
    (hmore : Spoils st' more i expected) : Spoils st (text ++ more) i expected := by
  intro n rest final hfinal
  obtain ⟨m, hm⟩ := h n (more ++ rest)
  rw [List.append_assoc, hm] at hfinal
  exact hmore m rest final hfinal

theorem Spoils.append {i : ℕ} {expected : List ConfigKeyvalue} (h : Spoils st text i expected)
    (more : Str) : Spoils st (text ++ more) i expected := by
  intro n rest final hfinal
  rw [List.append_assoc] at hfinal
  exact h n (more ++ rest) final hfinal

end Composition

/-! ### Lines -/

section Line
variable {st st' : ParseState} {line : Str}

/-- The first piece that `fgets` returns of a line. -/
def firstPiece (line : Str) : Str := (line ++ [newline]).take (PARSE_BUFLEN - 1)

theorem parseText_line (n : ℕ) (rest : Str) :
    parseText n st (line ++ [newline] ++ rest)
      = (parseLines n st (pieces PARSE_BUFLEN line)).bind fun st =>
          parseText (n + (pieces PARSE_BUFLEN line).length) st rest := by
  rw [parseText, List.append_assoc, List.singleton_append, fgetsAll_newline, parseLines_append]
  rfl

/-- Pieces with nothing but the end of a line. -/
theorem parseLines_newlines (n : ℕ) {bufs : List Str} (h : ∀ buf ∈ bufs, buf = [newline]) :
    parseLines n st bufs = .ok st := by
  induction bufs generalizing n with
  | nil => rfl
  | cons buf bufs ih =>
    obtain rfl := h buf (List.mem_cons_self ..)
    have hnone : parseLine (n + 1) st [newline] = .ok st := by
      rw [parseLine, strtok_none (by simp)]
    rw [parseLines, hnone]
    exact ih (n + 1) fun buf hbuf => h buf (List.mem_cons_of_mem _ hbuf)

/-- A line that fits into the buffer does what its first piece does. -/
theorem leads_line (hline : newline ∉ line) (hlen : line.length ≤ PARSE_BUFLEN - 1)
    (h : ∀ n, parseLine n st (firstPiece line) = .ok st') : Leads st (line ++ [newline]) st' := by
  intro n rest
  obtain ⟨more, hpieces, hmore⟩ := pieces_eq_cons hline (show 1 < PARSE_BUFLEN by decide)
  refine ⟨n + (pieces PARSE_BUFLEN line).length, ?_⟩
  have hread : parseLines n st (pieces PARSE_BUFLEN line) = .ok st' := by
    rw [hpieces, parseLines, ← firstPiece, h]
    exact parseLines_newlines _ (hmore hlen)
  rw [parseText_line, hread]
  rfl

/-- What the first piece of a line adds to a section stays there. -/
theorem spoils_line {i : ℕ} {expected : List ConfigKeyvalue} (hline : newline ∉ line)
    (h : ∀ n st', parseLine n st (firstPiece line) = .ok st' →
      ∃ s : ConfigSection, st'.sections[i]? = some s ∧ ¬ s.keyvalues <+: expected) :
    Spoils st (line ++ [newline]) i expected := by
  intro n rest final hfinal
  obtain ⟨more, hpieces, -⟩ := pieces_eq_cons hline (show 1 < PARSE_BUFLEN by decide)
  rw [parseText_line, hpieces, parseLines, ← firstPiece] at hfinal
  cases hfirst : parseLine (n + 1) st (firstPiece line) with
  | error e =>
    rw [hfirst] at hfinal
    cases hfinal
  | ok st₁ =>
    obtain ⟨s, hs, hoff⟩ := h _ _ hfirst
    rw [hfirst] at hfinal
    simp only at hfinal
    cases hmore : parseLines (n + 1) st₁ more with
    | error e =>
      rw [hmore] at hfinal
      cases hfinal
    | ok st₂ =>
      rw [hmore] at hfinal
      obtain ⟨t, ht, hgrows⟩ := ((parseLines_grows hmore).trans (parseLines_grows hfinal)) i s hs
      exact ⟨t, ht, fun hexp => hoff (hgrows.trans hexp)⟩

end Line

/-! ### Comments -/

/-- A line that starts a comment behind some blanks. -/
structure IsComment (line : Str) : Prop where
  noNewline : newline ∉ line
  hash : ∃ blanks rest, line = blanks ++ 0x23 :: rest ∧ ∀ c ∈ blanks, isDelim c = true

theorem IsComment.append {line more : Str} (h : IsComment line) (hmore : newline ∉ more) :
    IsComment (line ++ more) := by
  obtain ⟨blanks, rest, rfl, hblanks⟩ := h.hash
  refine ⟨?_, blanks, rest ++ more, by simp, hblanks⟩
  rw [List.mem_append, not_or]
  exact ⟨h.noNewline, hmore⟩

/-- The parser skips a comment that fits into the buffer. -/
theorem IsComment.leads {line : Str} (h : IsComment line) (hlen : line.length ≤ PARSE_BUFLEN - 1)
    (st : ParseState) : Leads st (line ++ [newline]) st := by
  refine leads_line h.noNewline hlen fun n => ?_
  obtain ⟨blanks, rest, rfl, hblanks⟩ := h.hash
  have hpiece : ∃ rest', firstPiece (blanks ++ 0x23 :: rest) = blanks ++ 0x23 :: rest' := by
    rw [List.length_append, List.length_cons] at hlen
    obtain ⟨m, hm⟩ : ∃ m, PARSE_BUFLEN - 1 - blanks.length = m + 1 :=
      ⟨PARSE_BUFLEN - 1 - blanks.length - 1, by omega⟩
    rw [firstPiece, List.append_assoc, List.take_append, List.take_of_length_le (by omega), hm,
      List.cons_append, List.take_succ_cons]
    exact ⟨_, rfl⟩
  obtain ⟨rest', hrest'⟩ := hpiece
  obtain ⟨word, tail, hword⟩ : ∃ word tail, strtok isDelim (blanks ++ 0x23 :: rest')
      = some (0x23 :: word, tail) := strtok_head hblanks (by decide)
  rw [parseLine, hrest', hword]
  simp

/-! ### The lines of a section -/

/-- Words without delimiters. -/
structure IsWord (name : Str) : Prop where
  ne_nil : name ≠ []
  no_delim : ∀ c ∈ name, isDelim c = false

theorem IsWord.noNewline {name : Str} (h : IsWord name) : newline ∉ name :=
  fun hmem => absurd (h.no_delim _ hmem) (by simp)

/-- The name of a key: not a comment, and not one of the two words. -/
structure IsKeyName (name : Str) : Prop extends IsWord name where
  not_hash : name.head? ≠ some 0x23
  not_section : same name (str "Section") = false
  not_endSection : same name (str "EndSection") = false

section SectionLines
variable {st : ParseState} {name : Str} {i : ℕ}

/-- The end of a line, or what is left of it, is a delimiter. -/
theorem isDelim_take_newline (m : ℕ) : ∀ d ∈ ([newline].take m).head?, isDelim d = true := by
  cases m <;> simp

/-- The line before the keys of a section. -/
theorem leads_header (hname : IsWord name) (hfind : ipmiConfigFindSection st.sections name = some i)
    (hlen : (str "Section " ++ name).length ≤ PARSE_BUFLEN - 1) :
    Leads st (str "Section " ++ name ++ [newline]) { st with inside := some i } := by
  have hline : newline ∉ str "Section " ++ name := by
    rw [List.mem_append, not_or]
    exact ⟨by decide, hname.noNewline⟩
  refine leads_line hline hlen fun n => ?_
  obtain ⟨m, hpiece⟩ : ∃ m, firstPiece (str "Section " ++ name)
      = [] ++ (str "Section" ++ blank :: (name ++ [newline].take m)) := by
    rw [firstPiece, List.take_append, List.take_of_length_le hlen]
    exact ⟨_, List.append_assoc ..⟩
  have hword : strtok isDelim (firstPiece (str "Section " ++ name))
      = some (str "Section", name ++ [newline].take m) := by
    rw [hpiece]
    exact strtok_word (by simp) (by decide) (by decide) (by simp)
  have htok : strtok isDelim (name ++ [newline].take m) = some (name, ([newline].take m).drop 1) :=
    strtok_word (List.forall_mem_nil _) hname.ne_nil hname.no_delim (isDelim_take_newline m)
  rw [parseLine, hword]
  simp only
  rw [if_neg (by decide), if_pos (same_refl _), htok]
  simp only [hfind]

/-- The line behind them. -/
theorem leads_endSection (hinside : st.inside = some i) :
    Leads st (str "EndSection" ++ [newline]) { st with inside := none } := by
  refine leads_line (by decide) (by decide) fun n => ?_
  have hword : strtok isDelim (firstPiece (str "EndSection")) = some (str "EndSection", []) := by
    decide
  rw [parseLine, hword]
  simp only [hinside]
  rw [if_neg (by decide), if_neg (by decide), if_pos (same_refl _)]

/-- A line with any other word in front. -/
theorem parseLine_key {n : ℕ} {buf word rest : Str} {s : ConfigSection}
    (hword : strtok isDelim buf = some (word, rest)) (hkey : IsKeyName word)
    (hinside : st.inside = some i) (hs : st.sections[i]? = some s) :
    parseLine n st buf
      = (parseKey s word rest).map fun s => { st with sections := st.sections.set i s } := by
  rw [parseLine, hword]
  simp only [hinside, hs]
  rw [if_neg hkey.not_hash, if_neg (Bool.eq_false_iff.mp hkey.not_section),
    if_neg (Bool.eq_false_iff.mp hkey.not_endSection)]

end SectionLines

/-! ### The line of a key -/

/-- The second word is the value if and only if the buffer holds all of it and it is one word. -/
theorem valueTok_take {gap value : Str} (r : ℕ) (hgap : ∀ c ∈ gap, isDelim c = true)
    (hne : value ≠ []) :
    valueTok ((gap ++ (value ++ [newline])).take r) = value
      ↔ gap.length + value.length ≤ r ∧ ∀ c ∈ value, isDelim c = false := by
  constructor
  · intro h
    have hword : ∀ c ∈ value, isDelim c = false := by
      rw [valueTok] at h
      split at h
      · exact absurd h.symm hne
      · rename_i htok
        exact h ▸ strtok_some htok
    refine ⟨Nat.le_of_not_lt fun hlt => ?_, hword⟩
    -- the buffer ends before the value does
    have hcut : (gap ++ (value ++ [newline])).take r = gap.take r ++ value.take (r - gap.length) := by
      rw [List.take_append, List.take_append_of_le_length (by omega)]
    have hlen : (value.take (r - gap.length)).length < value.length := by
      have := List.length_pos_of_ne_nil hne
      rw [List.length_take]
      omega
    have hgap' : ∀ c ∈ gap.take r, isDelim c = true := fun c hc => hgap c (List.mem_of_mem_take hc)
    rw [hcut, valueTok] at h
    rcases eq_or_ne (value.take (r - gap.length)) [] with hnil | hcons
    · rw [hnil, List.append_nil, strtok_none hgap'] at h
      exact hne h.symm
    · rw [← List.append_nil (value.take _), strtok_word hgap' hcons
        (fun c hc => hword c (List.mem_of_mem_take hc)) (by simp)] at h
      exact hlen.ne (congrArg List.length h)
  · rintro ⟨hlen, hword⟩
    rw [List.take_append, List.take_of_length_le (by omega), List.take_append,
      List.take_of_length_le (by omega), valueTok,
      strtok_word hgap hne hword (isDelim_take_newline _)]

/-- `isprint` in the C locale. -/
def isPrint (c : BitVec 8) : Bool := 0x20 ≤ c.toNat ∧ c.toNat ≤ 0x7E

theorem eq_blank_of_isDelim {c : BitVec 8} (hc : isPrint c = true) (h : isDelim c = true) :
    c = blank := by
  simp only [isPrint, isDelim, decide_eq_true_eq] at hc h
  rcases h with h | h | h
  · exact h
  · rw [h] at hc
    exact absurd hc (by decide)
  · rw [h] at hc
    exact absurd hc (by decide)

/-- What the line of a key needs to be read back. -/
structure ReadsBack (width : ℕ) (k : ConfigKey) (value : Str) : Prop where
  fits : (keyLine width k value).length ≤ PARSE_BUFLEN - 1
  noBlank : blank ∉ value

/-- A name that the end of the buffer cuts off is a word of its own. -/
theorem IsKeyName.take {name : Str} (h : IsKeyName name) (hlen : PARSE_BUFLEN - 2 ≤ name.length) :
    IsKeyName (name.take (PARSE_BUFLEN - 2)) := by
  have htake : (name.take (PARSE_BUFLEN - 2)).length = PARSE_BUFLEN - 2 := by
    rw [List.length_take, Nat.min_eq_left hlen]
  have hother : ∀ word : Str, word.length < PARSE_BUFLEN - 2 →
      same (name.take (PARSE_BUFLEN - 2)) word = false := by
    intro word hword
    rw [Bool.eq_false_iff]
    intro hsame
    have := length_eq_of_same hsame
    omega
  refine ⟨⟨?_, fun c hc => h.no_delim c (List.mem_of_mem_take hc)⟩, ?_, ?_, ?_⟩
  · rw [← List.length_pos_iff_ne_nil, htake]
    decide
  · rw [List.head?_take, if_neg (by decide)]
    exact h.not_hash
  · exact hother _ (by decide)
  · exact hother _ (by decide)

section KeyLine
variable {width : ℕ} {k : ConfigKey} {value : Str}

theorem keyStart_of_not_commentedOut (hout : k.commentedOut value = false) :
    keyStart k value = 0x09 :: k.keyName := by
  rw [keyStart, hout]
  rfl

/-- Behind a name that is not cut off there are blanks and the value. -/
theorem keyLine_eq (width : ℕ) (hout : k.commentedOut value = false)
    (hshort : k.keyName.length < PARSE_BUFLEN - 2) :
    ∃ gap, (∀ c ∈ gap, isDelim c = true)
      ∧ keyLine width k value = 0x09 :: (k.keyName ++ blank :: (gap ++ value)) := by
  have hkeep : (0x09 :: k.keyName).take (OUTPUT_BUFLEN - 1) = 0x09 :: k.keyName := by
    refine List.take_of_length_le ?_
    simp only [PARSE_BUFLEN, OUTPUT_BUFLEN, List.length_cons] at hshort ⊢
    omega
  have hblank : str " " = [blank] := by decide
  refine ⟨List.replicate (width + 1 - (k.keyName.length + 1)) blank, ?_, ?_⟩
  · intro c hc
    rw [List.eq_of_mem_replicate hc]
    rfl
  · rw [keyLine, keyStart_of_not_commentedOut hout, hkeep, hblank, List.append_assoc _ _ [blank],
      ← List.replicate_succ', List.replicate_succ, List.append_assoc]
    rfl

/-- The words of the first piece of a key's line. -/
theorem firstPiece_keyLine (width : ℕ) (hname : IsKeyName k.keyName) (hout : k.commentedOut value = false)
    (hne : value ≠ []) (hdelim : ∀ c ∈ value, isDelim c = true → c = blank) :
    ∃ word rest, strtok isDelim (firstPiece (keyLine width k value)) = some (word, rest)
      ∧ IsKeyName word
      ∧ (valueTok rest = value ↔ ReadsBack width k value)
      ∧ (ReadsBack width k value → word = k.keyName) := by
  have hvalue := List.length_pos_of_ne_nil hne
  have htab : ∀ c ∈ [(0x09 : BitVec 8)], isDelim c = true := by decide
  rcases Nat.lt_or_ge k.keyName.length (PARSE_BUFLEN - 2) with hshort | hlong
  · -- the piece has the name, and behind it there are blanks and the value as far as they fit
    obtain ⟨gap, hgap, hline⟩ := keyLine_eq width hout hshort
    obtain ⟨r, hr⟩ : ∃ r, PARSE_BUFLEN - 2 = k.keyName.length + (r + 1) :=
      ⟨PARSE_BUFLEN - 2 - k.keyName.length - 1, by omega⟩
    have hpiece : firstPiece (keyLine width k value)
        = [0x09] ++ (k.keyName ++ blank :: (gap ++ (value ++ [newline])).take r) := by
      have hlen : PARSE_BUFLEN - 1 = PARSE_BUFLEN - 2 + 1 := rfl
      rw [firstPiece, hline, hlen, hr]
      simp [List.take_append, List.take_of_length_le]
    refine ⟨k.keyName, (gap ++ (value ++ [newline])).take r, ?_, hname, ?_, fun _ => rfl⟩
    · rw [hpiece]
      exact strtok_word htab hname.ne_nil hname.no_delim (by simp)
    · have hfits : (keyLine width k value).length ≤ PARSE_BUFLEN - 1
          ↔ gap.length + value.length ≤ r := by
        rw [hline]
        simp only [List.length_cons, List.length_append]
        omega
      rw [valueTok_take r hgap hne, ← hfits]
      constructor
      · rintro ⟨hlen, hword⟩
        exact ⟨hlen, fun hmem => absurd (hword _ hmem) (by simp)⟩
      · rintro ⟨hlen, hblank⟩
        refine ⟨hlen, fun c hc => Bool.eq_false_iff.mpr fun h => hblank ?_⟩
        exact hdelim c hc h ▸ hc
  · -- the piece ends in the name
    have hpiece : firstPiece (keyLine width k value)
        = [0x09] ++ (k.keyName.take (PARSE_BUFLEN - 2) ++ []) := by
      have hlen : PARSE_BUFLEN - 1 ≤ ((0x09 :: k.keyName).take (OUTPUT_BUFLEN - 1)).length := by
        simp only [PARSE_BUFLEN, OUTPUT_BUFLEN, List.length_take, List.length_cons] at hlong ⊢
        omega
      rw [firstPiece, keyLine, keyStart_of_not_commentedOut hout]
      simp only [List.append_assoc]
      rw [List.take_append_of_le_length hlen, List.take_take, List.append_nil]
      rfl
    have hnot : ¬ ReadsBack width k value := by
      rintro ⟨hfits, -⟩
      rw [keyLine, keyStart_of_not_commentedOut hout] at hfits
      simp [PARSE_BUFLEN, OUTPUT_BUFLEN] at hfits hlong
      omega
    refine ⟨k.keyName.take (PARSE_BUFLEN - 2), [], ?_, hname.take hlong, ?_, fun h => absurd h hnot⟩
    · rw [hpiece]
      exact strtok_word htab (hname.take hlong).ne_nil (hname.take hlong).no_delim (by simp)
    · exact iff_of_false (fun h => hne h.symm) hnot

theorem newline_notMem_keyLine (hname : IsKeyName k.keyName)
    (hprint : ∀ c ∈ value, isPrint c = true) : newline ∉ keyLine width k value := by
  have hstart : newline ∉ keyStart k value := by
    rw [keyStart, List.mem_append, not_or]
    refine ⟨?_, hname.noNewline⟩
    split <;> decide
  rw [keyLine]
  simp only [List.mem_append, not_or]
  refine ⟨⟨⟨fun h => hstart (List.mem_of_mem_take h), fun h => ?_⟩, by decide⟩, fun h => ?_⟩
  · exact absurd (List.eq_of_mem_replicate h) (by decide)
  · exact absurd (hprint _ h) (by decide)

variable {st : ParseState} {s : ConfigSection} {i : ℕ}

/-- The line is read back. -/
theorem leads_keyLine (hname : IsKeyName k.keyName) (hout : k.commentedOut value = false)
    (hne : value ≠ []) (hprint : ∀ c ∈ value, isPrint c = true) (hreads : ReadsBack width k value)
    (hinside : st.inside = some i) (hs : st.sections[i]? = some s)
    (hkey : ipmiConfigFindKey s k.keyName = some k)
    (hnew : ipmiConfigFindKeyvalue s k.keyName = none) :
    Leads st (keyLine width k value ++ [newline])
      { st with sections := st.sections.set i (ipmiConfigSectionAddKeyvalue s k (some value) none) } := by
  refine leads_line (newline_notMem_keyLine hname hprint) hreads.fits fun n => ?_
  obtain ⟨word, rest, hword, hwordname, htok, hwhole⟩ := firstPiece_keyLine width hname hout hne
    fun c hc => eq_blank_of_isDelim (hprint c hc)
  obtain rfl := hwhole hreads
  rw [parseLine_key hword hwordname hinside hs, parseKey, hkey]
  simp [hnew, htok.mpr hreads, Except.map]

/-- The line gives the section another value, or it is an error. -/
theorem spoils_keyLine (hname : IsKeyName k.keyName) (hout : k.commentedOut value = false)
    (hne : value ≠ []) (hprint : ∀ c ∈ value, isPrint c = true) (hreads : ¬ ReadsBack width k value)
    (hinside : st.inside = some i) (hs : st.sections[i]? = some s) (more : List ConfigKeyvalue) :
    Spoils st (keyLine width k value ++ [newline]) i
      (s.keyvalues ++ ⟨k, some value, none⟩ :: more) := by
  refine spoils_line (newline_notMem_keyLine hname hprint) fun n st' hst' => ?_
  obtain ⟨word, rest, hword, hwordname, htok, -⟩ := firstPiece_keyLine width hname hout hne
    fun c hc => eq_blank_of_isDelim (hprint c hc)
  rw [parseLine_key hword hwordname hinside hs, parseKey] at hst'
  split at hst'
  · cases hst'
  · rename_i key _
    split at hst'
    · cases hst'
    · cases hst'
      have hlt : i < st.sections.length := (List.getElem?_eq_some_iff.mp hs).1
      refine ⟨_, List.getElem?_set_self hlt, fun hgrows => hreads (htok.mp ?_)⟩
      have hcons := (List.prefix_append_right_inj _).mp hgrows
      have hhead := (List.cons_prefix_cons.mp hcons).1
      exact Option.some.inj (congrArg ConfigKeyvalue.valueInput hhead)

end KeyLine

end FreeIpmi.Config
