import FreeIpmi.Lib.Lines
import Mathlib.Algebra.Group.Even
import Mathlib.Data.List.Basic
import Mathlib.Data.Nat.Notation

/-! The format strings of SEL records: `sel_format_record_string` and `sel_string_snprintf`.

    What the functions behind the conversions print for a record is a parameter: each prints texts with
    `sel_string_snprintf`, and may fail after them. Around them the loop keeps a percent flag, which
    the branch of one conversion forgets to clear. -/

namespace FreeIpmi.Sel
open Lines

/-! ### The buffer -/

/-- What is in `buf`, and `wlen`. -/
structure SelBuf where
  text : Str
  wlen : ℕ
  deriving DecidableEq, Repr

/-- `sel_string_snprintf`: the flag says that the text was truncated. -/
def selStringSnprintf (buflen : ℕ) (s : Str) (b : SelBuf) : SelBuf × Bool :=
  if s.length ≥ buflen - b.wlen then (⟨b.text ++ s.take (buflen - b.wlen - 1), buflen⟩, true)
  else (⟨b.text ++ s, b.wlen + s.length⟩, false)

/-- Calls of `sel_string_snprintf` one after the other, up to a truncation. -/
def printAll (buflen : ℕ) : List Str → SelBuf → SelBuf × Bool
  | [], b => (b, false)
  | s :: prints, b =>
    let printed := selStringSnprintf buflen s b
    if printed.2 then printed else printAll buflen prints printed.1

/-! ### The loop -/

/-- A character of a format. -/
def chr (c : Char) : BitVec 8 := BitVec.ofNat 8 c.toNat

/-- The functions behind the conversions, `_output_event_interpretation` and so on. -/
inductive Conversion
  | eventInterpretation
  | time
  | date
  | sensorType
  | sensorName
  | eventData1
  | eventData2
  | eventData3
  | eventData2EventData3
  | eventData2PreviousState
  | eventData2Severity
  | eventData1EventData2EventData3
  | eventDirection
  | manufacturerId
  | oemRecordData
  | oemString
  deriving DecidableEq, Repr

/-- The character of each. -/
def conversions : List (Char × Conversion) :=
  [('I', .eventInterpretation), ('t', .time), ('d', .date), ('T', .sensorType), ('s', .sensorName),
    ('e', .eventData1), ('f', .eventData2), ('h', .eventData3), ('c', .eventData2EventData3),
    ('p', .eventData2PreviousState), ('S', .eventData2Severity),
    ('E', .eventData1EventData2EventData3), ('k', .eventDirection), ('m', .manufacturerId),
    ('o', .oemRecordData), ('O', .oemString)]

/-- The conversion of a character behind a percent sign. -/
def conversionOf (c : BitVec 8) : Option Conversion :=
  (conversions.find? fun entry => chr entry.1 = c).map (·.2)

/-- What a branch prints, and whether it ends in an error. -/
structure Output where
  prints : List Str
  fails : Bool
  deriving DecidableEq, Repr

/-- A branch that prints one text. -/
def Output.text (s : Str) : Output := ⟨[s], false⟩

/-- The record, and what the conversions print for it. -/
structure SelRecord where
  selEventRecord : Vector (BitVec 8) 16
  output : Conversion → Output

/-- `record_id` -/
def SelRecord.recordId (r : SelRecord) : BitVec 16 :=
  r.selEventRecord.get 1 ++ r.selEventRecord.get 0

/-- The branch for a character: what it prints, and the percent flag behind it. -/
def formatChar (r : SelRecord) (percentFlag : Bool) (c : BitVec 8) : Output × Bool :=
  if c = chr '%' then
    if percentFlag then (.text (str "%"), false) else (⟨[], false⟩, true)
  else if percentFlag ∧ c = chr 'i' then (.text (str (toString r.recordId.toNat)), false)
  else
    match if percentFlag then conversionOf c else none with
    -- this branch leaves the flag as it is
    | some .eventData2EventData3 => (r.output .eventData2EventData3, percentFlag)
    | some conversion => (r.output conversion, false)
    | none => (.text (if percentFlag then [chr '%', c] else [c]), false)

/-- The loop over the format: nothing after an error, else the buffer. -/
def formatLoop (r : SelRecord) (buflen : ℕ) : Bool → Str → SelBuf → Option SelBuf
  | _, [], b => some b
  | percentFlag, c :: fmt, b =>
    let step := formatChar r percentFlag c
    let printed := printAll buflen step.1.prints b
    if printed.2 then some printed.1
    else if step.1.fails then none
    else formatLoop r buflen step.2 fmt printed.1

/-- `sel_format_record_string`: the returned length and the text in the buffer. -/
def selFormatRecordString (r : SelRecord) (fmt : Str) (buflen : ℕ) : Option (ℕ × Str) :=
  (formatLoop r buflen false fmt ⟨[], 0⟩).map fun b => (b.wlen, b.text)

/-! ### A buffer that is large enough -/

section Large
variable {r : SelRecord} {buflen : ℕ}

theorem printAll_fits {prints : List Str} {b : SelBuf} (h : b.wlen + prints.flatten.length < buflen) :
    printAll buflen prints b
      = (⟨b.text ++ prints.flatten, b.wlen + prints.flatten.length⟩, false) := by
  induction prints generalizing b with
  | nil => simp [printAll]
  | cons s prints ih =>
    rw [List.flatten_cons, List.length_append] at h
    have hs : ¬ s.length ≥ buflen - b.wlen := by omega
    rw [printAll, selStringSnprintf, if_neg hs]
    simp only [Bool.false_eq_true, if_false]
    rw [ih (by simp only; omega)]
    simp [Nat.add_assoc]

/-- What a format prints, and nothing after an error. -/
def printed (r : SelRecord) : Bool → Str → Option Str
  | _, [] => some []
  | percentFlag, c :: fmt =>
    let step := formatChar r percentFlag c
    if step.1.fails then none else (printed r step.2 fmt).map (step.1.prints.flatten ++ ·)

/-- How much a format prints at most. -/
def needed (r : SelRecord) : Bool → Str → ℕ
  | _, [] => 0
  | percentFlag, c :: fmt =>
    let step := formatChar r percentFlag c
    step.1.prints.flatten.length + needed r step.2 fmt

theorem formatLoop_fits {percentFlag : Bool} {fmt : Str} {b : SelBuf}
    (h : b.wlen + needed r percentFlag fmt < buflen) :
    formatLoop r buflen percentFlag fmt b
      = (printed r percentFlag fmt).map fun s => ⟨b.text ++ s, b.wlen + s.length⟩ := by
  induction fmt generalizing percentFlag b with
  | nil => simp [formatLoop, printed]
  | cons c fmt ih =>
    rw [needed] at h
    rw [formatLoop, printed, printAll_fits (by omega)]
    simp only [Bool.false_eq_true, if_false]
    split
    · rfl
    · rw [ih (by simp only; omega), Option.map_map]
      congr 1
      funext s
      simp [Nat.add_assoc]

/-- The function with a buffer that is large enough. -/
theorem selFormatRecordString_fits {fmt : Str} (h : needed r false fmt < buflen) :
    selFormatRecordString r fmt buflen = (printed r false fmt).map fun s => (s.length, s) := by
  rw [selFormatRecordString, formatLoop_fits (by simpa using h), Option.map_map]
  congr 1
  funext s
  simp

end Large

/-! ### The percent flag -/

/-- The percent flag behind a character: the branch of `c` leaves it set. -/
def flagStep (percentFlag : Bool) (c : BitVec 8) : Bool :=
  if c = chr '%' then !percentFlag else percentFlag && c = chr 'c'

/-- The percent flag behind a format. -/
def flagAfter : Bool → Str → Bool := List.foldl flagStep

/-- `%c` is the only conversion of its function. -/
theorem conversionOf_eq_iff (c : BitVec 8) :
    conversionOf c = some .eventData2EventData3 ↔ c = chr 'c' := by
  revert c
  decide

section Flag
variable {r : SelRecord}

theorem formatChar_flag (r : SelRecord) (percentFlag : Bool) (c : BitVec 8) :
    (formatChar r percentFlag c).2 = flagStep percentFlag c := by
  rw [formatChar, flagStep]
  by_cases hpercent : c = chr '%'
  · rw [if_pos hpercent, if_pos hpercent]
    cases percentFlag <;> rfl
  · rw [if_neg hpercent, if_neg hpercent]
    cases percentFlag with
    | false => simp
    | true =>
      by_cases hi : c = chr 'i'
      · have hnot : decide (c = chr 'c') = false := by rw [hi]; decide
        rw [if_pos ⟨rfl, hi⟩, hnot]
        rfl
      · rw [if_neg fun h => hi h.2]
        have hc := conversionOf_eq_iff c
        simp only [if_true]
        split
        · rename_i h
          simp [hc.mp h]
        · rename_i conversion hother h
          have : c ≠ chr 'c' := fun heq => hother (Option.some.inj (h.symm.trans (hc.mpr heq)))
          simp [this]
        · rename_i h
          have : c ≠ chr 'c' := fun heq => by
            rw [hc.mpr heq] at h
            cases h
          simp [this]

/-- What is printed for two formats, with the flag that the first leaves. -/
theorem printed_append (percentFlag : Bool) (a b : Str) :
    printed r percentFlag (a ++ b)
      = (printed r percentFlag a).bind fun s => (printed r (flagAfter percentFlag a) b).map (s ++ ·) := by
  induction a generalizing percentFlag with
  | nil => simp [printed, flagAfter]
  | cons c a ih =>
    rw [List.cons_append, printed, printed, flagAfter, List.foldl_cons, ← flagAfter, formatChar_flag]
    split
    · rfl
    · rw [ih]
      cases printed r (flagStep percentFlag c) a with
      | none => rfl
      | some s => simp [Option.map_map, Function.comp_def]

/-- A conversion that a format reaches fails. -/
def Fails (r : SelRecord) (percentFlag : Bool) (fmt : Str) : Prop :=
  ∃ pre c post, fmt = pre ++ c :: post ∧ (formatChar r (flagAfter percentFlag pre) c).1.fails = true

theorem printed_eq_none_iff {percentFlag : Bool} {fmt : Str} :
    printed r percentFlag fmt = none ↔ Fails r percentFlag fmt := by
  induction fmt generalizing percentFlag with
  | nil =>
    refine iff_of_false (by simp [printed]) ?_
    rintro ⟨pre, c, post, h, -⟩
    cases pre <;> cases h
  | cons c fmt ih =>
    rw [printed]
    by_cases hfails : (formatChar r percentFlag c).1.fails = true
    · simp only [if_pos hfails, true_iff]
      exact ⟨[], c, fmt, rfl, hfails⟩
    · simp only [if_neg hfails, Option.map_eq_none_iff]
      rw [ih, formatChar_flag]
      constructor
      · rintro ⟨pre, d, post, rfl, h⟩
        exact ⟨c :: pre, d, post, rfl, h⟩
      · rintro ⟨pre, d, post, h, hd⟩
        cases pre with
        | nil =>
          cases h
          exact absurd hd hfails
        | cons e pre =>
          cases h
          exact ⟨pre, d, post, rfl, hd⟩

end Flag

/-! ### Formats that do not end in a conversion -/

/-- A character that stands for itself, or a percent sign and a character. -/
inductive Item
  | plain (c : BitVec 8) (h : c ≠ chr '%')
  | conversion (c : BitVec 8)

def Item.text : Item → Str
  | plain c _ => [c]
  | conversion c => [chr '%', c]

/-- The format of items. -/
def formatText (items : List Item) : Str := items.flatMap Item.text

/-- A format that does not end in the middle of a conversion. -/
def complete : Str → Bool
  | [] => true
  | [c] => c ≠ chr '%'
  | c :: d :: fmt => if c = chr '%' then complete fmt else complete (d :: fmt)

/-- Such a format is made of items. -/
theorem complete_iff (fmt : Str) : complete fmt = true ↔ ∃ items, fmt = formatText items := by
  constructor
  · intro h
    fun_induction complete fmt with
    | case1 => exact ⟨[], rfl⟩
    | case2 c => exact ⟨[.plain c (of_decide_eq_true h)], rfl⟩
    | case3 d fmt ih =>
      obtain ⟨items, hitems⟩ := ih h
      exact ⟨.conversion d :: items, by rw [hitems]; rfl⟩
    | case4 c d fmt hc ih =>
      obtain ⟨items, hitems⟩ := ih h
      exact ⟨.plain c hc :: items, by rw [hitems]; rfl⟩
  · rintro ⟨items, rfl⟩
    induction items with
    | nil => rfl
    | cons item items ih =>
      rw [formatText, List.flatMap_cons, ← formatText]
      cases item with
      | plain c hc =>
        cases hrest : formatText items with
        | nil => simp [Item.text, complete, hc]
        | cons d fmt =>
          rw [hrest] at ih
          simp [Item.text, complete, hc, ih]
      | conversion c => simp [Item.text, complete, ih]

/-- `%c`, which turns the flag that it finds. -/
def Item.turns : Item → Bool
  | plain _ _ => false
  | conversion c => c = chr 'c'

/-- An item behind which the flag is what it was in front of it: the character `c`, or `%%`. -/
def Item.keeps : Item → Bool
  | plain c _ => c = chr 'c'
  | conversion c => c = chr '%'

/-- How many `%c` stand behind the last other item, the characters `c` and `%%` not counted. -/
def openTurns (items : List Item) : ℕ :=
  (items.reverse.takeWhile fun item => item.turns || item.keeps).countP Item.turns

theorem flagAfter_text (percentFlag : Bool) (item : Item) :
    flagAfter percentFlag item.text
      = if item.turns then !percentFlag else percentFlag && item.keeps := by
  cases item with
  | plain c hc => simp [flagAfter, flagStep, Item.text, Item.turns, Item.keeps, hc]
  | conversion c =>
    have htwo : flagAfter percentFlag (Item.conversion c).text = flagStep (!percentFlag) c := rfl
    rw [htwo, flagStep, Item.turns, Item.keeps]
    by_cases hpercent : c = chr '%'
    · subst hpercent
      cases percentFlag <;> decide
    · by_cases hc : c = chr 'c'
      · subst hc
        cases percentFlag <;> decide
      · simp [hpercent, hc]

theorem openTurns_append (items : List Item) (item : Item) :
    openTurns (items ++ [item])
      = if item.turns then openTurns items + 1 else if item.keeps then openTurns items else 0 := by
  rw [openTurns, List.reverse_append, List.reverse_singleton, List.singleton_append,
    List.takeWhile_cons]
  cases hturns : item.turns with
  | true => simp [hturns, openTurns]
  | false =>
    cases hkeeps : item.keeps with
    | true => simp [hturns, openTurns]
    | false => simp

/-- The flag is set behind an odd number of them. -/
theorem flagAfter_formatText (items : List Item) :
    flagAfter false (formatText items) = true ↔ ¬ Even (openTurns items) := by
  induction items using List.reverseRecOn with
  | nil => simp [flagAfter, formatText, openTurns]
  | append_singleton items item ih =>
    have hsplit : formatText (items ++ [item]) = formatText items ++ item.text := by
      rw [formatText, List.flatMap_append, List.flatMap_singleton, formatText]
    have hflag : flagAfter false (formatText (items ++ [item]))
        = flagAfter (flagAfter false (formatText items)) item.text := by
      rw [hsplit, flagAfter, List.foldl_append]
    rw [hflag, flagAfter_text, openTurns_append]
    cases item.turns with
    | true =>
      simp only [if_true]
      rw [Nat.even_add_one, not_not, Bool.not_eq_true', ← Bool.not_eq_true, ih, not_not]
    | false =>
      cases item.keeps with
      | true => simpa using ih
      | false => simp

/-! ### Composition -/

/-- One result behind another. -/
def join (x y : Option (ℕ × Str)) : Option (ℕ × Str) :=
  x.bind fun x => y.map fun y => (x.1 + y.1, x.2 ++ y.2)

/-- Whatever stands behind a format, both are printed one after the other: a character that is no
    conversion as itself, and `%%` as a percent sign. The buffer is large enough, and the returned length is
    that of the text. -/
structure Composes (r : SelRecord) (a : Str) : Prop where
  append : ∀ b, ∃ size, ∀ buflen, size < buflen →
    selFormatRecordString r (a ++ b) buflen
      = join (selFormatRecordString r a buflen) (selFormatRecordString r b buflen)
  plain : ∀ c, c ≠ chr '%' → ∀ b, ∃ size, ∀ buflen, size < buflen →
    selFormatRecordString r (a ++ c :: b) buflen
      = join (join (selFormatRecordString r a buflen) (some (1, [c]))) (selFormatRecordString r b buflen)
  percent : ∀ b, ∃ size, ∀ buflen, size < buflen →
    selFormatRecordString r (a ++ chr '%' :: chr '%' :: b) buflen
      = join (join (selFormatRecordString r a buflen) (some (1, [chr '%'])))
        (selFormatRecordString r b buflen)
  length : ∃ size, ∀ buflen, size < buflen → ∀ returned text,
    selFormatRecordString r a buflen = some (returned, text) → returned = text.length

section Compose
variable {r : SelRecord} {a : Str}

/-- A text with its length. -/
def measured (s : Str) : ℕ × Str := (s.length, s)

theorem join_measured (x y : Option Str) (s : Str) :
    join (join (x.map measured) (some (measured s))) (y.map measured)
      = (x.bind fun x => y.map fun y => x ++ (s ++ y)).map measured := by
  cases x with
  | none => rfl
  | some x =>
    cases y with
    | none => rfl
    | some y => simp [join, measured, Nat.add_assoc]

/-- With buffers that are large enough, only the printed texts matter. -/
theorem large_iff (fmt s b : Str) :
    (∃ size, ∀ buflen, size < buflen →
      selFormatRecordString r (a ++ (fmt ++ b)) buflen
        = join (join (selFormatRecordString r a buflen) (some (measured s)))
          (selFormatRecordString r b buflen))
    ↔ printed r false (a ++ (fmt ++ b))
      = (printed r false a).bind fun x => (printed r false b).map fun y => x ++ (s ++ y) := by
  let size := needed r false (a ++ (fmt ++ b)) + needed r false a + needed r false b
  have hlarge : ∀ buflen, size < buflen →
      (selFormatRecordString r (a ++ (fmt ++ b)) buflen
          = join (join (selFormatRecordString r a buflen) (some (measured s)))
            (selFormatRecordString r b buflen)
        ↔ printed r false (a ++ (fmt ++ b))
          = (printed r false a).bind fun x => (printed r false b).map fun y => x ++ (s ++ y)) := by
    intro buflen hbuflen
    have hinj : Function.Injective measured := fun s t h => congrArg Prod.snd h
    rw [selFormatRecordString_fits (by omega), selFormatRecordString_fits (by omega),
      selFormatRecordString_fits (by omega)]
    exact (join_measured _ _ s) ▸ (Option.map_injective hinj).eq_iff
  constructor
  · rintro ⟨size', h⟩
    exact (hlarge (size + size' + 1) (by omega)).mp (h _ (by omega))
  · exact fun h => ⟨size, fun buflen hbuflen => (hlarge buflen hbuflen).mpr h⟩

/-- Behind a clear flag a character that is no conversion prints itself. -/
theorem printed_plain {c : BitVec 8} (hc : c ≠ chr '%') (b : Str) :
    printed r false (c :: b) = (printed r false b).map ([c] ++ ·) := by
  simp [printed, formatChar, hc, Output.text]

/-- And two percent signs print one. -/
theorem printed_percent (b : Str) :
    printed r false (chr '%' :: chr '%' :: b) = (printed r false b).map ([chr '%'] ++ ·) := by
  have hstr : str "%" = [chr '%'] := by decide
  simp [printed, formatChar, Output.text, hstr, Function.comp_def]

/-- Behind a flag that is set, a character that is no conversion prints a percent sign too. -/
theorem printed_z : printed r true [chr 'z'] = some [chr '%', chr 'z'] := by
  have hi : chr 'z' ≠ chr 'i' := by decide
  have hpercent : chr 'z' ≠ chr '%' := by decide
  have hnone : conversionOf (chr 'z') = none := by decide
  simp [printed, formatChar, Output.text, hi, hpercent, hnone]

/-- A format composes if and only if it fails or leaves the flag clear. -/
theorem composes_iff_flag : Composes r a ↔ Fails r false a ∨ flagAfter false a = false := by
  constructor
  · intro h
    by_contra hnot
    rw [not_or, ← printed_eq_none_iff, Bool.not_eq_false] at hnot
    obtain ⟨x, hx⟩ := Option.ne_none_iff_exists'.mp hnot.1
    have hplain := (large_iff [chr 'z'] [chr 'z'] []).mp (h.plain (chr 'z') (by decide) [])
    rw [printed_append, hx, hnot.2, List.append_nil, printed_z] at hplain
    simp [printed] at hplain
  · intro h
    have hprinted : ∀ fmt s b, printed r false (fmt ++ b) = (printed r false b).map (s ++ ·) →
        printed r false (a ++ (fmt ++ b))
          = (printed r false a).bind fun x => (printed r false b).map fun y => x ++ (s ++ y) := by
      intro fmt s b hs
      rw [printed_append]
      rcases h with h | h
      · rw [printed_eq_none_iff.mpr h]
        rfl
      · rw [h, hs]
        simp [Option.map_map, Function.comp_def]
    refine ⟨fun b => ?_, fun c hc b => ?_, fun b => ?_, ?_⟩
    · have hjoin : ∀ x, join x (some (measured [])) = x := fun x => by
        cases x <;> simp [join, measured]
      have happend := (large_iff [] [] b).mpr (hprinted [] [] b (by simp))
      simpa only [hjoin, List.nil_append] using happend
    · exact (large_iff [c] [c] b).mpr (hprinted [c] [c] b (printed_plain hc b))
    · exact (large_iff [chr '%', chr '%'] [chr '%'] b).mpr (hprinted _ _ b (printed_percent b))
    · refine ⟨needed r false a, fun buflen hbuflen returned text h => ?_⟩
      rw [selFormatRecordString_fits hbuflen] at h
      obtain ⟨s, -, hs⟩ := Option.map_eq_some_iff.mp h
      cases hs
      rfl

end Compose

/-- A format of items composes if and only if a conversion that it reaches fails, or an even number of
    `%c` stands behind its last item other than `%c`, `c` and `%%`. -/
theorem composes_iff (r : SelRecord) (items : List Item) :
    Composes r (formatText items) ↔ Fails r false (formatText items) ∨ Even (openTurns items) := by
  rw [composes_iff_flag, ← Bool.not_eq_true, flagAfter_formatText, not_not]

/-- A record for which all conversions print that nothing is available. -/
def notAvailable : SelRecord := ⟨Vector.replicate 16 0, fun _ => .text (str "N/A")⟩

/-- Behind `%c`, a letter prints a conversion. -/
theorem percent_c_spills : complete (str "%c") = true ∧ ¬ Composes notAvailable (str "%c") := by
  refine ⟨by decide, fun h => ?_⟩
  obtain ⟨size, hsize⟩ := h.plain (chr 's') (by decide) []
  have hlarge : ∀ fmt, needed notAvailable false fmt < 20 →
      selFormatRecordString notAvailable fmt (size + 20)
        = (printed notAvailable false fmt).map fun s => (s.length, s) :=
    fun fmt hfmt => selFormatRecordString_fits (by omega)
  have hboth := hsize (size + 20) (by omega)
  rw [hlarge _ (by decide), hlarge _ (by decide), hlarge _ (by decide)] at hboth
  exact absurd hboth (by decide)

end FreeIpmi.Sel
