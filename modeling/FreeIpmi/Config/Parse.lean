import FreeIpmi.Config.Section
import Mathlib.Data.List.Basic

/-! The reader of `ipmi-config`: `ipmi_config_parse`, and `ipmi_config_diff`.

    The reader takes a piece of a line at a time, and it only ever adds key values to a section. -/

namespace FreeIpmi.Config
open Lines

/-! ### The parser -/

/-- The messages of the parser, in its order. -/
inductive ParseError
  | errorParsingLine (lineNum : ℕ)
  | unknownSection (tok : Str)
  | withoutMatchingSection (str : Str)
  | notInsideValidSection (str : Str)
  | unknownKey (str sectionName : Str)
  | specifiedTwice (keyName sectionName : Str)
  deriving DecidableEq, Repr

/-- The sections, and which of them the parser is in. -/
structure ParseState where
  sections : List ConfigSection
  inside : Option ℕ

/-- The delimiters of the parser. -/
def isDelim (c : BitVec 8) : Bool := c = blank ∨ c = 0x09 ∨ c = newline

/-- The second word of a line, or nothing. -/
def valueTok (rest : Str) : Str :=
  match strtok isDelim rest with
  | none => []
  | some (tok, _) => tok

/-- A line with a key and its value. -/
def parseKey (s : ConfigSection) (str rest : Str) : Except ParseError ConfigSection :=
  match ipmiConfigFindKey s str with
  | none => .error (.unknownKey str s.sectionName)
  | some key =>
    if (ipmiConfigFindKeyvalue s key.keyName).isSome then
      .error (.specifiedTwice key.keyName s.sectionName)
    else .ok (ipmiConfigSectionAddKeyvalue s key (some (valueTok rest)) none)

/-- The body of the loop, with what `fgets` has read. -/
def parseLine (lineNum : ℕ) (st : ParseState) (buf : Str) : Except ParseError ParseState :=
  match strtok isDelim buf with
  | none => .ok st
  | some (str, rest) =>
    if str.head? = some 0x23 then .ok st
    else if same str (Lines.str "Section") then
      match strtok isDelim rest with
      | none => .error (.errorParsingLine lineNum)
      | some (tok, _) =>
        match ipmiConfigFindSection st.sections tok with
        | none => .error (.unknownSection tok)
        | some i => .ok { st with inside := some i }
    else if same str (Lines.str "EndSection") then
      match st.inside with
      | none => .error (.withoutMatchingSection str)
      | some _ => .ok { st with inside := none }
    else
      match st.inside with
      | none => .error (.notInsideValidSection str)
      | some i =>
        match st.sections[i]? with
        -- the position came from the list
        | none => .ok st
        | some s => (parseKey s str rest).map fun s => { st with sections := st.sections.set i s }

/-- The loop: `lineNum` counts what has been read before. -/
def parseLines (lineNum : ℕ) (st : ParseState) : List Str → Except ParseError ParseState
  | [] => .ok st
  | buf :: bufs =>
    match parseLine (lineNum + 1) st buf with
    | .error e => .error e
    | .ok st => parseLines (lineNum + 1) st bufs

/-- `ipmi_config_parse` -/
def ipmiConfigParse (sections : List ConfigSection) (fp : Str) : Except ParseError ParseState :=
  parseLines 0 ⟨sections, none⟩ (fgetsAll PARSE_BUFLEN [] fp)

/-! ### The comparison with the hardware -/

/-- What `ipmi_config_diff` prints. -/
inductive DiffLine
  | differs (sectionName keyName valueInput valueOutput : Str)
  | unableToCheckout (sectionName keyName : Str)
  deriving DecidableEq, Repr

/-- The loop over the key values of a section. -/
def diffKeyvalues (sectionName : Str) (ret : ConfigErr Unit) :
    List ConfigKeyvalue → List DiffLine × ConfigErr Unit
  | [] => ([], ret)
  | kv :: kvs =>
    match kv.key.checkout sectionName with
    | .fatalError => ([], .fatalError)
    | .nonFatal err =>
      let rest := diffKeyvalues sectionName (.nonFatal err) kvs
      (.unableToCheckout sectionName kv.key.keyName :: rest.1, rest.2)
    | .success valueOutput =>
      let rest := diffKeyvalues sectionName ret kvs
      -- the parser has set `value_input`
      let valueInput := kv.valueInput.getD []
      if same valueInput valueOutput then rest
      else (.differs sectionName kv.key.keyName valueInput valueOutput :: rest.1, rest.2)

/-- `ipmi_config_diff` -/
def ipmiConfigDiff (ret : ConfigErr Unit) : List ConfigSection → List DiffLine × ConfigErr Unit
  | [] => ([], ret)
  | s :: sections =>
    match diffKeyvalues s.sectionName ret s.keyvalues with
    | (printed, .fatalError) => (printed, .fatalError)
    | (printed, ret) =>
      let rest := ipmiConfigDiff ret sections
      (printed ++ rest.1, rest.2)

/-! ### What the parser keeps -/

@[simp] theorem isDelim_blank : isDelim blank = true := rfl
@[simp] theorem isDelim_newline : isDelim newline = true := rfl

@[simp] theorem parseLines_nil (n : ℕ) (st : ParseState) : parseLines n st [] = .ok st := rfl

theorem parseLines_append (n : ℕ) (st : ParseState) (xs ys : List Str) :
    parseLines n st (xs ++ ys)
      = (parseLines n st xs).bind fun st => parseLines (n + xs.length) st ys := by
  induction xs generalizing n st with
  | nil => rfl
  | cons x xs ih =>
    rw [List.cons_append, parseLines, parseLines]
    split
    · rfl
    · rw [ih, List.length_cons, Nat.add_assoc, Nat.add_comm 1]

/-- Each section has its key values at the start of those it has later. -/
def Grows (secs secs' : List ConfigSection) : Prop :=
  ∀ (i : ℕ) (s : ConfigSection), secs[i]? = some s →
    ∃ s' : ConfigSection, secs'[i]? = some s' ∧ s.keyvalues <+: s'.keyvalues

theorem Grows.refl (secs : List ConfigSection) : Grows secs secs :=
  fun _ s h => ⟨s, h, List.prefix_refl _⟩

theorem Grows.trans {a b c : List ConfigSection} (hab : Grows a b) (hbc : Grows b c) : Grows a c := by
  intro i s hs
  obtain ⟨s', hs', hgrows⟩ := hab i s hs
  obtain ⟨s'', hs'', hgrows'⟩ := hbc i s' hs'
  exact ⟨s'', hs'', hgrows.trans hgrows'⟩

theorem Grows.set {secs : List ConfigSection} {i : ℕ} {s s' : ConfigSection} (hi : secs[i]? = some s)
    (h : s.keyvalues <+: s'.keyvalues) : Grows secs (secs.set i s') := by
  intro j t ht
  rcases eq_or_ne i j with rfl | hne
  · obtain rfl : s = t := Option.some.inj (hi.symm.trans ht)
    have hlt : i < secs.length := (List.getElem?_eq_some_iff.mp hi).1
    exact ⟨s', by rw [List.getElem?_set_self hlt], h⟩
  · exact ⟨t, by rw [List.getElem?_set_ne hne, ht], List.prefix_refl _⟩

theorem parseKey_grows {s s' : ConfigSection} {str rest : Str} (h : parseKey s str rest = .ok s') :
    s.keyvalues <+: s'.keyvalues := by
  rw [parseKey] at h
  split at h
  · cases h
  · split at h
    · cases h
    · cases h
      exact List.prefix_append _ _

/-- One piece leaves the key values there are. -/
theorem parseLine_grows {n : ℕ} {st st' : ParseState} {buf : Str} (h : parseLine n st buf = .ok st') :
    Grows st.sections st'.sections := by
  rw [parseLine] at h
  split at h
  · cases h; exact .refl _
  · split at h
    · cases h; exact .refl _
    · split at h
      · split at h
        · cases h
        · split at h
          · cases h
          · cases h; exact .refl _
      · split at h
        · split at h
          · cases h
          · cases h; exact .refl _
        · split at h
          · cases h
          · split at h
            · cases h; exact .refl _
            · rename_i i _ s hs
              cases hkey : parseKey s _ _ with
              | error e => rw [hkey] at h; cases h
              | ok s' =>
                rw [hkey] at h
                cases h
                exact .set hs (parseKey_grows hkey)

/-- So does a whole file. -/
theorem parseLines_grows {n : ℕ} {st st' : ParseState} {bufs : List Str}
    (h : parseLines n st bufs = .ok st') : Grows st.sections st'.sections := by
  induction bufs generalizing n st with
  | nil => cases h; exact .refl _
  | cons buf bufs ih =>
    rw [parseLines] at h
    split at h
    · cases h
    · rename_i st₁ hline
      exact (parseLine_grows hline).trans (ih h)

end FreeIpmi.Config
