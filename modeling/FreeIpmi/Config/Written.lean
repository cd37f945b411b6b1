import FreeIpmi.Config.Reading

/-! The comments in the text of a section: the parser skips them. -/

namespace FreeIpmi.Config
open Lines

/-- A text that the parser skips in any state. -/
def Skips (text : Str) : Prop := ∀ st, Leads st text st

theorem Skips.nil : Skips [] := Leads.nil

theorem Skips.append {text more : Str} (h : Skips text) (hmore : Skips more) : Skips (text ++ more) :=
  fun st => (h st).append (hmore st)

theorem IsComment.skips {line : Str} (h : IsComment line) (hlen : line.length ≤ PARSE_BUFLEN - 1) :
    Skips (line ++ [newline]) := h.leads hlen

/-- What starts with one of the writer's comment marks is a comment. -/
theorem isComment_hash : IsComment (str "#") := ⟨by decide, [], [], by decide, by simp⟩

theorem isComment_hash_blank : IsComment (str "# ") := ⟨by decide, [], str " ", by decide, by simp⟩

theorem isComment_indented : IsComment (str "\t## ") :=
  ⟨by decide, [0x09], str "# ", by decide, by decide⟩

/-! ### The comments of a section -/

/-- A text whose last line is an unfinished comment. -/
def OpenComment (out : Str) : Prop := ∃ done last, out = done ++ last ∧ Skips done ∧ IsComment last

theorem OpenComment.append {out more : Str} (h : OpenComment out) (hmore : newline ∉ more) :
    OpenComment (out ++ more) := by
  obtain ⟨done, last, rfl, hdone, hlast⟩ := h
  exact ⟨done, last ++ more, by rw [List.append_assoc], hdone, hlast.append hmore⟩

theorem OpenComment.close {out : Str} (h : OpenComment out) (hlen : out.length ≤ PARSE_BUFLEN - 1) :
    Skips (out ++ [newline]) := by
  obtain ⟨done, last, rfl, hdone, hlast⟩ := h
  rw [List.length_append] at hlen
  rw [List.append_assoc]
  exact hdone.append (hlast.skips (by omega))

/-- `_format_comment` has written its `totalwritten` bytes, and is in a comment. -/
theorem formatCommentLoop_open {outsize : ℕ} (hsize : outsize ≤ PARSE_BUFLEN) {toks : List Str}
    (htoks : ∀ tok ∈ toks, newline ∉ tok) {out out' : Str} {totalwritten linelen totalwritten' : ℕ}
    (htotal : totalwritten = out.length) (hopen : OpenComment out)
    (h : formatCommentLoop outsize toks out totalwritten linelen = some (out', totalwritten')) :
    totalwritten' = out'.length ∧ OpenComment out' := by
  induction toks generalizing out totalwritten linelen with
  | nil =>
    cases h
    exact ⟨htotal, hopen⟩
  | cons tok toks ih =>
    have htok : newline ∉ tok := htoks tok (List.mem_cons_self ..)
    have hmore : newline ∉ tok ++ str " " := by
      rw [List.mem_append, not_or]
      exact ⟨htok, by decide⟩
    have hrest : ∀ tok ∈ toks, newline ∉ tok := fun t ht => htoks t (List.mem_cons_of_mem _ ht)
    -- with or without a new line, what is written before the word is an open comment
    have hword : ∀ {out : Str} {totalwritten linelen : ℕ}, totalwritten = out.length →
        OpenComment out →
        (if outsize - 1 ≤ totalwritten + tok.length + 1 then none
          else formatCommentLoop outsize toks (out ++ (tok ++ str " "))
            (totalwritten + (tok.length + 1)) (linelen + (tok.length + 1)))
          = some (out', totalwritten') → totalwritten' = out'.length ∧ OpenComment out' := by
      intro out totalwritten linelen htotal hopen h
      split at h
      · cases h
      · refine ih hrest ?_ (hopen.append hmore) h
        rw [htotal, List.length_append, List.length_append]
        rfl
    rw [formatCommentLoop] at h
    by_cases hwrap : linelen + tok.length > FORMAT_COMMENT_COLUMN_WIDTH
    · by_cases hfull : outsize - 1 ≤ totalwritten + 3
      · simp only [if_pos hwrap, if_pos hfull] at h
        cases h
      · simp only [if_pos hwrap, if_neg hfull] at h
        refine hword ?_ ?_ h
        · rw [htotal, List.length_append]
          rfl
        · have hline : Skips (out ++ [newline]) := hopen.close (by omega)
          exact ⟨out ++ [newline], str "# ", by rw [List.append_assoc]; rfl, hline,
            isComment_hash_blank⟩
    · simp only [if_neg hwrap] at h
      exact hword htotal hopen h

/-- `_format_comment` writes comments. -/
theorem formatComment_skips {input buf : Str} (hinput : newline ∉ input)
    (h : formatComment input FORMAT_COMMENT_BUFLEN = some buf) : Skips buf := by
  have htoks : ∀ tok ∈ words (· = blank) input, newline ∉ tok :=
    fun tok htok hmem => hinput (mem_of_mem_words htok _ hmem).1
  have hstart : OpenComment (str "# ") :=
    ⟨[], str "# ", rfl, Skips.nil, isComment_hash_blank⟩
  rw [formatComment, if_neg (by decide)] at h
  split at h
  · cases h
  · rename_i out totalwritten hloop
    obtain ⟨htotal, hopen⟩ := formatCommentLoop_open (by decide) htoks rfl hstart hloop
    split at h
    · cases h
    · rename_i hroom
      cases h
      rw [htotal] at hroom
      simp only [FORMAT_COMMENT_BUFLEN] at hroom
      exact hopen.close (by simp only [PARSE_BUFLEN]; omega)

theorem skips_hash : Skips (str "#\n") := isComment_hash.skips (by decide)

theorem sectionCommentsLoop_skips {toks : List Str} (htoks : ∀ tok ∈ toks, newline ∉ tok) :
    Skips (sectionCommentsLoop toks).2 := by
  induction toks with
  | nil => exact Skips.nil
  | cons tok toks ih =>
    rw [sectionCommentsLoop]
    split
    · exact Skips.nil
    · rename_i buf hbuf
      have hbuf := formatComment_skips (htoks tok (List.mem_cons_self ..)) hbuf
      exact (hbuf.append skips_hash).append (ih fun t ht => htoks t (List.mem_cons_of_mem _ ht))

/-- `ipmi_config_section_comments` writes comments, also where it fails. -/
theorem ipmiConfigSectionComments_skips {sectionName : Str} (hname : newline ∉ sectionName)
    (input : Str) : Skips (ipmiConfigSectionComments sectionName input).2 := by
  rw [ipmiConfigSectionComments]
  have htitle : newline ∉ (str "Section " ++ sectionName ++ str " Comments").take
      (FORMAT_COMMENT_BUFLEN - 1) := by
    intro hmem
    have hmem := List.mem_of_mem_take hmem
    rw [List.mem_append, List.mem_append] at hmem
    rcases hmem with (h | h) | h
    · exact absurd h (by decide)
    · exact hname h
    · exact absurd h (by decide)
  have hlines : ∀ tok ∈ words (· = newline) input, newline ∉ tok :=
    fun tok htok hmem => absurd (mem_of_mem_words htok _ hmem).2 (by decide)
  simp only
  split
  · exact skips_hash
  · rename_i buf hbuf
    exact ((skips_hash.append (formatComment_skips htitle hbuf)).append skips_hash).append
      (sectionCommentsLoop_skips hlines)

theorem commentsText_skips {allKeys : Bool} {s : ConfigSection}
    (hname : ∀ name ∈ s.sectionCommentSectionName, newline ∉ name) :
    Skips (commentsText allKeys s).2 := by
  rw [commentsText]
  split
  · rename_i name comment hsome _
    split
    · exact ipmiConfigSectionComments_skips (hname name hsome) comment
    · exact Skips.nil
  · exact Skips.nil

/-! ### The comments of a key -/

theorem IsComment.skips_text {line text : Str} (h : IsComment line) (htext : text = line ++ [newline])
    (hlen : text.length ≤ PARSE_BUFLEN) : Skips text := by
  rw [htext, List.length_append, List.length_singleton] at hlen
  rw [htext]
  exact h.skips (Nat.le_sub_of_add_le hlen)

/-- A key that could not be checked out leaves a comment at most. -/
theorem failedText_skips {k : ConfigKey} {sectionName : Str} {verboseCount : ℕ} {err : NonFatal}
    (hkey : IsKeyName k.keyName) (hsection : newline ∉ sectionName)
    (hlen : (failedText verboseCount sectionName k err).length ≤ PARSE_BUFLEN) :
    Skips (failedText verboseCount sectionName k err) := by
  have hstart : IsComment (str "\t## Unable to checkout ") :=
    ⟨by decide, [0x09], str "# Unable to checkout ", by decide, by decide⟩
  have hboth : IsComment (str "\t## Unable to checkout " ++ sectionName ++ str ":" ++ k.keyName) :=
    ((hstart.append hsection).append (by decide)).append hkey.noNewline
  rw [failedText] at hlen ⊢
  by_cases hverbose : 1 < verboseCount
  · rw [if_pos hverbose] at hlen ⊢
    by_cases herr : err = .notSupported
    · rw [if_pos herr] at hlen ⊢
      have hline := hboth.append (show newline ∉ str " : Not Supported" by decide)
      exact hline.skips_text (by rw [List.append_assoc _ (str " : Not Supported")]; rfl) hlen
    · rw [if_neg herr] at hlen ⊢
      exact hboth.skips_text rfl hlen
  · rw [if_neg hverbose]
    exact Skips.nil

/-- A description that the parser skips: its lines fit behind the mark. -/
def DescriptionFits (description : Str) : Prop :=
  ∀ line ∈ description.splitOnP (· = newline), (str "\t## " ++ line).length ≤ PARSE_BUFLEN - 1

/-- What the loop over the description writes for one character. -/
theorem descriptionLoop_skips {description current line : Str} {lines : List Str}
    (hcurrent : IsComment current) (hsplit : description.splitOnP (· = newline) = line :: lines)
    (hline : (current ++ line).length ≤ PARSE_BUFLEN - 1)
    (hlines : ∀ line ∈ lines, (str "\t## " ++ line).length ≤ PARSE_BUFLEN - 1) :
    Skips (current ++ (description.flatMap fun c => if c = newline then str "\n\t## " else [c])
      ++ [newline]) := by
  induction description generalizing current line lines with
  | nil =>
    rw [List.splitOnP_nil] at hsplit
    cases hsplit
    rw [List.append_nil] at hline
    rw [List.flatMap_nil, List.append_nil]
    exact hcurrent.skips hline
  | cons c description ih =>
    obtain ⟨line', lines', hs⟩ :=
      List.exists_cons_of_ne_nil (List.splitOnP_ne_nil (· = newline) description)
    rw [List.splitOnP_cons_eq_if_modifyHead, hs] at hsplit
    by_cases hc : c = newline
    · rw [if_pos (decide_eq_true hc)] at hsplit
      cases hsplit
      rw [List.append_nil] at hline
      have hrest := ih isComment_indented hs (hlines _ (List.mem_cons_self ..))
        fun line hmem => hlines _ (List.mem_cons_of_mem _ hmem)
      have := (hcurrent.skips hline).append hrest
      rw [List.flatMap_cons, if_pos hc]
      simpa [str, newline] using this
    · rw [if_neg (by simpa using hc)] at hsplit
      cases hsplit
      have hnext : newline ∉ [c] := by simpa using Ne.symm hc
      have hrest := ih (hcurrent.append hnext) hs (by simpa using hline) hlines
      rw [List.flatMap_cons, if_neg hc]
      simpa using hrest

/-- The parser skips a description. -/
theorem descriptionText_skips {description : Str} (h : DescriptionFits description) :
    Skips (descriptionText description) := by
  obtain ⟨line, lines, hs⟩ :=
    List.exists_cons_of_ne_nil (List.splitOnP_ne_nil (· = newline) description)
  have hloop := descriptionLoop_skips isComment_indented hs
    (h _ (hs ▸ List.mem_cons_self ..)) fun line hmem => h _ (hs ▸ List.mem_cons_of_mem _ hmem)
  rw [descriptionText]
  split
  · exact hloop
  · rename_i hnone
    have hsame : (description.flatMap fun c => if c = newline then str "\n\t## " else [c])
        = description := by
      have heach : ∀ c ∈ description, (if c = newline then str "\n\t## " else [c]) = [c] :=
        fun c hc => if_neg fun h : c = newline => hnone (h ▸ hc)
      rw [List.flatMap_congr heach, List.flatMap_singleton']
    rw [hsame] at hloop
    exact hloop

/-- The line of a key that is commented out. -/
theorem keyLine_skips {k : ConfigKey} {value : Str} {width : ℕ} (hkey : IsKeyName k.keyName)
    (hout : k.commentedOut value = true) (hprint : ∀ c ∈ value, isPrint c = true)
    (hlen : (keyLine width k value).length ≤ PARSE_BUFLEN - 1) :
    Skips (keyLine width k value ++ [newline]) := by
  refine IsComment.skips ⟨newline_notMem_keyLine hkey hprint, [0x09], ?_⟩ hlen
  rw [keyLine, keyStart, hout]
  exact ⟨_, rfl, by decide⟩

end FreeIpmi.Config
