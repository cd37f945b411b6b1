import FreeIpmi.Config.Written

/-! A configuration that is checked out and parsed again.

    The text of the sections leads the parser to the key values that were written, one key after the
    other, up to the first line that is not read back. -/

namespace FreeIpmi.Config
open Lines

/-! ### What is expected -/

/-- What the parser should make of a key value after the checkout: nothing of a key that failed or
    that is commented out. -/
def keptKeyvalue (kv : ConfigKeyvalue) : Option ConfigKeyvalue :=
  match kv.valueOutput with
  | none => none
  | some value => if kv.key.commentedOut value then none else some ⟨kv.key, some value, none⟩

/-- The key values that are checked out: a fatal error ends the loop. -/
def attempted (sectionName : Str) (kvs : List ConfigKeyvalue) : List ConfigKeyvalue :=
  kvs.takeWhile fun kv => checkoutKey sectionName kv.key ≠ .fatalError

/-- The comments for a key fit into the buffer of the parser. -/
structure KeyCommentsFit (verboseCount width : ℕ) (sectionName : Str) (k : ConfigKey) : Prop where
  failed : ∀ err, checkoutKey sectionName k = .nonFatal err →
    (failedText verboseCount sectionName k err).length ≤ PARSE_BUFLEN
  description : ∀ value, checkoutKey sectionName k = .success value → DescriptionFits k.description
  commentedOut : ∀ value, checkoutKey sectionName k = .success value →
    k.commentedOut value = true → (keyLine width k value).length ≤ PARSE_BUFLEN - 1

/-- The line of a key is read back, if it is not commented out. -/
def KeyReadsBack (width : ℕ) (sectionName : Str) (k : ConfigKey) : Prop :=
  ∀ value, checkoutKey sectionName k = .success value → k.commentedOut value = false →
    ReadsBack width k value

/-! ### The keys of a section -/

/-- Key values that point to keys of a section, which has none of them yet. -/
structure Pending (sectionName : Str) (s : ConfigSection) (kvs : List ConfigKeyvalue) : Prop where
  names : ∀ kv ∈ kvs, IsKeyName kv.key.keyName
  noOutput : ∀ kv ∈ kvs, kv.valueOutput = none
  found : ∀ kv ∈ kvs, ipmiConfigFindKey s kv.key.keyName = some kv.key
  unset : ∀ kv ∈ kvs, ipmiConfigFindKeyvalue s kv.key.keyName = none
  distinct : kvs.Pairwise fun kv kv' => same kv.key.keyName kv'.key.keyName = false
  values : ∀ kv ∈ kvs, ∀ value, checkoutKey sectionName kv.key = .success value →
    (∀ c ∈ value, isPrint c = true) ∧ (kv.key.commentedOut value = false → value ≠ [])

section Keys
variable {sectionName : Str} {s : ConfigSection} {kv : ConfigKeyvalue} {kvs : List ConfigKeyvalue}

theorem Pending.tail (h : Pending sectionName s (kv :: kvs)) : Pending sectionName s kvs where
  names := fun kv' hmem => h.names kv' (List.mem_cons_of_mem _ hmem)
  noOutput := fun kv' hmem => h.noOutput kv' (List.mem_cons_of_mem _ hmem)
  found := fun kv' hmem => h.found kv' (List.mem_cons_of_mem _ hmem)
  unset := fun kv' hmem => h.unset kv' (List.mem_cons_of_mem _ hmem)
  distinct := h.distinct.of_cons
  values := fun kv' hmem => h.values kv' (List.mem_cons_of_mem _ hmem)

/-- A section with more key values behind those it has. -/
def ConfigSection.plus (s : ConfigSection) (kvs : List ConfigKeyvalue) : ConfigSection :=
  { s with keyvalues := s.keyvalues ++ kvs }

@[simp] theorem plus_nil (s : ConfigSection) : s.plus [] = s := by
  rw [ConfigSection.plus, List.append_nil]

@[simp] theorem plus_plus (s : ConfigSection) (kvs kvs' : List ConfigKeyvalue) :
    (s.plus kvs).plus kvs' = s.plus (kvs ++ kvs') := by
  simp only [ConfigSection.plus, List.append_assoc]

/-- A key value that is added is not one of the others. -/
theorem Pending.add (h : Pending sectionName s (kv :: kvs)) (input output : Option Str) :
    Pending sectionName (s.plus [⟨kv.key, input, output⟩]) kvs where
  names := h.tail.names
  noOutput := h.tail.noOutput
  found := h.tail.found
  unset := by
    intro kv' hmem
    have hother : same kv'.key.keyName kv.key.keyName = false := by
      rw [same_comm]
      exact List.rel_of_pairwise_cons h.distinct hmem
    have hunset := h.tail.unset kv' hmem
    rw [ipmiConfigFindKeyvalue] at hunset ⊢
    rw [ConfigSection.plus, List.find?_append, hunset]
    simp [hother]
  distinct := h.tail.distinct
  values := h.tail.values

theorem filterMap_keptKeyvalue_of_noOutput (h : ∀ kv ∈ kvs, kv.valueOutput = none) :
    kvs.filterMap keptKeyvalue = [] := by
  rw [List.filterMap_eq_nil_iff]
  intro kv hkv
  rw [keptKeyvalue, h kv hkv]

variable {verboseCount width i : ℕ} {ret : ConfigErr Unit} {st : ParseState}

/-- The state with more key values in a section. -/
def ParseState.plus (st : ParseState) (i : ℕ) (s : ConfigSection) (kvs : List ConfigKeyvalue) :
    ParseState :=
  { st with sections := st.sections.set i (s.plus kvs) }

theorem ParseState.plus_nil (hs : st.sections[i]? = some s) : st.plus i s [] = st := by
  obtain ⟨hlt, rfl⟩ := List.getElem?_eq_some_iff.mp hs
  rw [ParseState.plus, Config.plus_nil, List.set_getElem_self]

theorem ParseState.plus_plus (kvs' : List ConfigKeyvalue) :
    (st.plus i s kvs).plus i (s.plus kvs) kvs' = st.plus i s (kvs ++ kvs') := by
  simp [ParseState.plus]

/-- What the writer does for one key that is no fatal error, and what the parser makes of it. -/
structure KeyStep (verboseCount width : ℕ) (sectionName : Str) (ret : ConfigErr Unit)
    (kv : ConfigKeyvalue) (kvs : List ConfigKeyvalue) (head : Str) (ret' : ConfigErr Unit)
    (kept : List ConfigKeyvalue) : Prop where
  text : (checkoutKeyvalues verboseCount width sectionName ret (kv :: kvs)).text
    = head ++ (checkoutKeyvalues verboseCount width sectionName ret' kvs).text
  keyvalues : (checkoutKeyvalues verboseCount width sectionName ret (kv :: kvs)).keyvalues.filterMap
      keptKeyvalue
    = kept ++ (checkoutKeyvalues verboseCount width sectionName ret' kvs).keyvalues.filterMap
      keptKeyvalue
  pending : ∀ s, Pending sectionName s (kv :: kvs) → Pending sectionName (s.plus kept) kvs
  leads : KeyReadsBack width sectionName kv.key → ∀ st i s, st.inside = some i →
    st.sections[i]? = some s → Pending sectionName s (kv :: kvs) →
    Leads st head (st.plus i s kept)
  spoils : ¬ KeyReadsBack width sectionName kv.key → ∀ st i s more, st.inside = some i →
    st.sections[i]? = some s → Pending sectionName s (kv :: kvs) →
    Spoils st head i (s.keyvalues ++ (kept ++ more))

/-- After a fatal error there is nothing more. -/
theorem checkoutKeyvalues_fatal (hkey : checkoutKey sectionName kv.key = .fatalError) :
    checkoutKeyvalues verboseCount width sectionName ret (kv :: kvs) = ⟨[], .fatalError, kv :: kvs⟩ := by
  simp only [checkoutKeyvalues, hkey]

theorem checkoutKeyvalues_nonFatal {err : NonFatal}
    (hkey : checkoutKey sectionName kv.key = .nonFatal err) :
    checkoutKeyvalues verboseCount width sectionName ret (kv :: kvs)
      = let rest := checkoutKeyvalues verboseCount width sectionName (.nonFatal .nonFatalError) kvs
        ⟨failedText verboseCount sectionName kv.key err ++ rest.text, rest.ret, kv :: rest.keyvalues⟩ := by
  simp only [checkoutKeyvalues, hkey]

theorem checkoutKeyvalues_success {value : Str}
    (hkey : checkoutKey sectionName kv.key = .success value) :
    checkoutKeyvalues verboseCount width sectionName ret (kv :: kvs)
      = let rest := checkoutKeyvalues verboseCount width sectionName ret kvs
        ⟨descriptionText kv.key.description ++ (keyLine width kv.key value ++ [newline]) ++ rest.text,
          rest.ret, { kv with valueOutput := some value } :: rest.keyvalues⟩ := by
  simp only [checkoutKeyvalues, hkey]
  rfl

/-- A key with a value is read back if its line is, unless it is commented out. -/
theorem keyReadsBack_iff {k : ConfigKey} {value : Str} (hkey : checkoutKey sectionName k = .success value) :
    KeyReadsBack width sectionName k ↔ (k.commentedOut value = false → ReadsBack width k value) := by
  constructor
  · exact fun h => h value hkey
  · intro h value' hvalue'
    rw [hkey] at hvalue'
    cases hvalue'
    exact h

/-- A key that leaves only comments. -/
theorem KeyStep.of_skips {head : Str} {ret' : ConfigErr Unit} {kv' : ConfigKeyvalue}
    (htext : (checkoutKeyvalues verboseCount width sectionName ret (kv :: kvs)).text
      = head ++ (checkoutKeyvalues verboseCount width sectionName ret' kvs).text)
    (hkeyvalues : (checkoutKeyvalues verboseCount width sectionName ret (kv :: kvs)).keyvalues
      = kv' :: (checkoutKeyvalues verboseCount width sectionName ret' kvs).keyvalues)
    (hkept : keptKeyvalue kv' = none) (hskips : Skips head)
    (hreads : KeyReadsBack width sectionName kv.key) :
    KeyStep verboseCount width sectionName ret kv kvs head ret' [] where
  text := htext
  keyvalues := by
    rw [hkeyvalues, List.filterMap_cons, hkept]
    rfl
  pending := by
    intro s hpending
    rw [plus_nil]
    exact hpending.tail
  leads := by
    intro _ st i s _ hs _
    rw [ParseState.plus_nil hs]
    exact hskips st
  spoils := fun hnot => absurd hreads hnot

/-- A key whose line is not commented out. -/
theorem KeyStep.of_line {value : Str} (hkey : checkoutKey sectionName kv.key = .success value)
    (hname : IsKeyName kv.key.keyName) (hdesc : Skips (descriptionText kv.key.description))
    (hout : kv.key.commentedOut value = false) (hne : value ≠ [])
    (hprint : ∀ c ∈ value, isPrint c = true) :
    KeyStep verboseCount width sectionName ret kv kvs
      (descriptionText kv.key.description ++ (keyLine width kv.key value ++ [newline])) ret
      [⟨kv.key, some value, none⟩] where
  text := by rw [checkoutKeyvalues_success hkey]
  keyvalues := by
    have hkept : keptKeyvalue { kv with valueOutput := some value }
        = some ⟨kv.key, some value, none⟩ := by
      simp [keptKeyvalue, hout]
    rw [checkoutKeyvalues_success hkey, List.filterMap_cons, hkept]
    rfl
  pending := fun s hpending => hpending.add _ _
  leads := by
    intro hreads st i s hinside hs hpending
    exact (hdesc st).append (leads_keyLine hname hout hne hprint ((keyReadsBack_iff hkey).mp hreads hout)
      hinside hs (hpending.found kv (List.mem_cons_self ..)) (hpending.unset kv (List.mem_cons_self ..)))
  spoils := by
    intro hreads st i s more hinside hs hpending
    have hline : ¬ ReadsBack width kv.key value :=
      fun h => hreads ((keyReadsBack_iff hkey).mpr fun _ => h)
    exact (hdesc st).spoils (spoils_keyLine hname hout hne hprint hline hinside hs more)

/-- One key. -/
theorem keyStep (ret : ConfigErr Unit) (kvs : List ConfigKeyvalue)
    (hfatal : checkoutKey sectionName kv.key ≠ .fatalError)
    (hsection : IsWord sectionName) (hname : IsKeyName kv.key.keyName)
    (hnone : kv.valueOutput = none)
    (hvalue : ∀ value, checkoutKey sectionName kv.key = .success value →
      (∀ c ∈ value, isPrint c = true) ∧ (kv.key.commentedOut value = false → value ≠ []))
    (hfit : KeyCommentsFit verboseCount width sectionName kv.key) :
    ∃ head ret' kept, KeyStep verboseCount width sectionName ret kv kvs head ret' kept := by
  cases hkey : checkoutKey sectionName kv.key with
  | fatalError => exact absurd hkey hfatal
  | nonFatal err =>
    have hskips := failedText_skips hname hsection.noNewline (hfit.failed err hkey)
    have hreads : KeyReadsBack width sectionName kv.key := by
      intro value hvalue
      rw [hkey] at hvalue
      cases hvalue
    have hkept : keptKeyvalue kv = none := by rw [keptKeyvalue, hnone]
    exact ⟨_, .nonFatal .nonFatalError, [], .of_skips (by rw [checkoutKeyvalues_nonFatal hkey])
      (by rw [checkoutKeyvalues_nonFatal hkey]) hkept hskips hreads⟩
  | success value =>
    obtain ⟨hprint, hne⟩ := hvalue value hkey
    have hdesc := descriptionText_skips (hfit.description value hkey)
    cases hout : kv.key.commentedOut value with
    | true =>
      have hskips := hdesc.append (keyLine_skips hname hout hprint (hfit.commentedOut value hkey hout))
      have hkept : keptKeyvalue { kv with valueOutput := some value } = none := by
        simp only [keptKeyvalue, hout, if_true]
      have hreads : KeyReadsBack width sectionName kv.key := by
        rw [keyReadsBack_iff hkey, hout]
        rintro ⟨⟩
      exact ⟨_, ret, [], .of_skips (by rw [checkoutKeyvalues_success hkey])
        (by rw [checkoutKeyvalues_success hkey]) hkept hskips hreads⟩
    | false => exact ⟨_, ret, _, .of_line hkey hname hdesc hout (hne hout) hprint⟩

theorem attempted_cons (hfatal : checkoutKey sectionName kv.key ≠ .fatalError) :
    attempted sectionName (kv :: kvs) = kv :: attempted sectionName kvs :=
  List.takeWhile_cons_of_pos (decide_eq_true hfatal)

/-- The text of the keys leads to their values, or it spoils those of the section. -/
theorem keyvalues_text (ret : ConfigErr Unit) (st : ParseState) (s : ConfigSection)
    (hpending : Pending sectionName s kvs) (hsection : IsWord sectionName)
    (hfit : ∀ kv ∈ attempted sectionName kvs, KeyCommentsFit verboseCount width sectionName kv.key)
    (hinside : st.inside = some i) (hs : st.sections[i]? = some s) :
    ((∀ kv ∈ attempted sectionName kvs, KeyReadsBack width sectionName kv.key) →
      Leads st (checkoutKeyvalues verboseCount width sectionName ret kvs).text
        (st.plus i s ((checkoutKeyvalues verboseCount width sectionName ret kvs).keyvalues.filterMap
          keptKeyvalue)))
    ∧ ((¬ ∀ kv ∈ attempted sectionName kvs, KeyReadsBack width sectionName kv.key) →
      Spoils st (checkoutKeyvalues verboseCount width sectionName ret kvs).text i
        (s.keyvalues ++ (checkoutKeyvalues verboseCount width sectionName ret kvs).keyvalues.filterMap
          keptKeyvalue)) := by
  induction kvs generalizing ret st s with
  | nil =>
    refine ⟨fun _ => ?_, fun h => absurd (List.forall_mem_nil _) h⟩
    rw [checkoutKeyvalues, List.filterMap_nil, ParseState.plus_nil hs]
    exact Leads.nil st
  | cons kv kvs ih =>
    by_cases hfatal : checkoutKey sectionName kv.key = .fatalError
    · have hnone : attempted sectionName (kv :: kvs) = [] :=
        List.takeWhile_cons_of_neg (by simp [hfatal])
      refine ⟨fun _ => ?_, fun h => absurd (hnone ▸ List.forall_mem_nil _) h⟩
      rw [checkoutKeyvalues_fatal hfatal, filterMap_keptKeyvalue_of_noOutput hpending.noOutput,
        ParseState.plus_nil hs]
      exact Leads.nil st
    · rw [attempted_cons hfatal] at hfit ⊢
      obtain ⟨head, ret', kept, hstep⟩ := keyStep ret kvs hfatal hsection
        (hpending.names kv (List.mem_cons_self ..)) (hpending.noOutput kv (List.mem_cons_self ..))
        (hpending.values kv (List.mem_cons_self ..)) (hfit kv (List.mem_cons_self ..))
      have hlt : i < st.sections.length := (List.getElem?_eq_some_iff.mp hs).1
      obtain ⟨ihleads, ihspoils⟩ := ih ret' (st.plus i s kept) (s.plus kept) (hstep.pending s hpending)
        (fun kv hmem => hfit kv (List.mem_cons_of_mem _ hmem)) hinside (List.getElem?_set_self hlt)
      rw [hstep.text, hstep.keyvalues, List.forall_mem_cons]
      constructor
      · rintro ⟨hhead, htail⟩
        rw [← ParseState.plus_plus]
        exact (hstep.leads hhead st i s hinside hs hpending).append (ihleads htail)
      · intro hnot
        by_cases hhead : KeyReadsBack width sectionName kv.key
        · have htail := ihspoils fun h => hnot ⟨hhead, h⟩
          rw [ConfigSection.plus, List.append_assoc] at htail
          exact (hstep.leads hhead st i s hinside hs hpending).spoils htail
        · exact (hstep.spoils hhead st i s _ hinside hs hpending).append _

end Keys

/-! ### One section -/

/-- A section that can be read back: names that are words, distinct up to case, and
    values of printable characters. -/
structure ConfigSection.Valid (s : ConfigSection) : Prop where
  name : IsWord s.sectionName
  commentName : ∀ name ∈ s.sectionCommentSectionName, newline ∉ name
  keyNames : ∀ k ∈ s.keys, IsKeyName k.keyName
  keysDistinct : s.keys.Pairwise fun k k' => same k.keyName k'.keyName = false
  values : ∀ k ∈ s.keys, ∀ value, k.checkout s.sectionName = .success value →
    (∀ c ∈ value, isPrint c = true) ∧ (k.commentedOut value = false → value ≠ [])
  asked : ∀ kv ∈ s.keyvalues, kv.key ∈ s.keys ∧ kv.valueOutput = none
  askedDistinct : s.keyvalues.Pairwise fun kv kv' => same kv.key.keyName kv'.key.keyName = false

/-- The section as the parser gets it. -/
def ConfigSection.cleared (s : ConfigSection) : ConfigSection := { s with keyvalues := [] }

/-- The key values that the parser should find for a section. -/
def keptKeyvalues (verboseCount : ℕ) (allKeys : Bool) (s : ConfigSection) : List ConfigKeyvalue :=
  (ipmiConfigCheckoutSection verboseCount allKeys s).keyvalues.filterMap keptKeyvalue

/-- The section as the parser should leave it. -/
def ConfigSection.readBack (verboseCount : ℕ) (allKeys : Bool) (s : ConfigSection) : ConfigSection :=
  { s with keyvalues := keptKeyvalues verboseCount allKeys s }

/-- The keys of a section that are checked out. -/
def attemptedKeys (allKeys : Bool) (s : ConfigSection) : List ConfigKeyvalue :=
  attempted s.sectionName (buildKeyvalues allKeys s).keyvalues

/-- All lines of a section that are not a key's fit into the buffer of the parser. -/
structure SectionCommentsFit (verboseCount : ℕ) (allKeys : Bool) (s : ConfigSection) : Prop where
  header : (buildKeyvalues allKeys s).keyvalues ≠ [] →
    (str "Section " ++ s.sectionName).length ≤ PARSE_BUFLEN - 1
  keys : ∀ kv ∈ attemptedKeys allKeys s, KeyCommentsFit verboseCount s.width s.sectionName kv.key

/-- The lines of all keys that are not commented out are read back. -/
def SectionReadsBack (allKeys : Bool) (s : ConfigSection) : Prop :=
  ∀ kv ∈ attemptedKeys allKeys s, KeyReadsBack s.width s.sectionName kv.key

section OneSection
variable {s : ConfigSection} {allKeys : Bool} {verboseCount : ℕ}

/-- The loop that builds the key values adds one for each key that is not left out. -/
theorem foldl_addKeyvalue (ks : List ConfigKey) :
    (ks.foldl (fun s k => if k.has DO_NOT_CHECKOUT then s
        else ipmiConfigSectionAddKeyvalue s k none none) s).keyvalues
      = s.keyvalues ++ (ks.filter fun k => !k.has DO_NOT_CHECKOUT).map (⟨·, none, none⟩) := by
  induction ks generalizing s with
  | nil => simp
  | cons k ks ih =>
    rw [List.foldl_cons, ih]
    cases hk : k.has DO_NOT_CHECKOUT <;> simp [hk, ipmiConfigSectionAddKeyvalue]

theorem find?_same {α : Type} {name : α → Str} {xs : List α} {x : α} (hmem : x ∈ xs)
    (hdistinct : xs.Pairwise fun x y => same (name x) (name y) = false) :
    xs.find? (fun y => same (name x) (name y)) = some x := by
  induction xs with
  | nil => cases hmem
  | cons y ys ih =>
    rcases List.mem_cons.mp hmem with rfl | hmem
    · exact List.find?_cons_of_pos (same_refl _)
    · have hother : same (name x) (name y) = false := by
        rw [same_comm]
        exact List.rel_of_pairwise_cons hdistinct hmem
      rw [List.find?_cons_of_neg (by simp [hother])]
      exact ih hmem hdistinct.of_cons

/-- The key values to check out, whoever built them. -/
theorem ConfigSection.Valid.built (h : s.Valid) :
    (∀ kv ∈ (buildKeyvalues allKeys s).keyvalues, kv.key ∈ s.keys ∧ kv.valueOutput = none)
    ∧ (buildKeyvalues allKeys s).keyvalues.Pairwise
        fun kv kv' => same kv.key.keyName kv'.key.keyName = false := by
  rw [buildKeyvalues]
  split
  · rename_i hall
    rw [foldl_addKeyvalue, List.isEmpty_iff.mp hall.2, List.nil_append]
    constructor
    · intro kv hkv
      obtain ⟨k, hk, rfl⟩ := List.mem_map.mp hkv
      exact ⟨List.mem_of_mem_filter hk, rfl⟩
    · exact List.pairwise_map.mpr (h.keysDistinct.filter _)
  · exact ⟨h.asked, h.askedDistinct⟩

/-- A key that is undefined is always commented out. -/
theorem commentedOut_of_undefined {k : ConfigKey} (h : k.has UNDEFINED = true) (value : Str) :
    k.commentedOut value = true := by
  simp [ConfigKey.commentedOut, h]

theorem ConfigSection.Valid.pending (h : s.Valid) :
    Pending s.sectionName s.cleared (buildKeyvalues allKeys s).keyvalues where
  names := fun kv hkv => h.keyNames _ (h.built.1 kv hkv).1
  noOutput := fun kv hkv => (h.built.1 kv hkv).2
  found := fun kv hkv => find?_same (h.built.1 kv hkv).1 h.keysDistinct
  unset := fun _ _ => rfl
  distinct := h.built.2
  values := by
    intro kv hkv value hvalue
    rw [checkoutKey] at hvalue
    split at hvalue
    · rename_i hundefined
      cases hvalue
      refine ⟨by decide, fun hout => ?_⟩
      rw [commentedOut_of_undefined hundefined] at hout
      cases hout
    · exact h.values _ (h.built.1 kv hkv).1 value hvalue

variable {st : ParseState} {pre post : List ConfigSection}

theorem ipmiConfigFindSection_eq (hpre : ∀ p ∈ pre, same s.sectionName p.sectionName = false) :
    ipmiConfigFindSection (pre ++ s.cleared :: post) s.sectionName = some pre.length := by
  have hnone : pre.findIdx? (fun p => same s.sectionName p.sectionName) = none :=
    List.findIdx?_eq_none_iff.mpr hpre
  rw [ipmiConfigFindSection, List.findIdx?_append, hnone, List.findIdx?_cons]
  simp [ConfigSection.cleared, same_refl]

/-- A section without key values is left out of the text. -/
theorem ipmiConfigCheckoutSection_empty (h : (buildKeyvalues allKeys s).keyvalues = []) :
    ipmiConfigCheckoutSection verboseCount allKeys s = ⟨[], .success (), []⟩ := by
  simp only [ipmiConfigCheckoutSection, h, List.isEmpty_nil, if_true]

/-- The text of a section: comments, its first line, the keys and, without a fatal error, its last. -/
theorem ipmiConfigCheckoutSection_eq (verboseCount : ℕ)
    (h : (buildKeyvalues allKeys s).keyvalues ≠ []) :
    ∃ ret tail, tail ∈ [[], str "EndSection" ++ [newline]]
      ∧ (ipmiConfigCheckoutSection verboseCount allKeys s).text
        = (commentsText allKeys s).2 ++ (str "Section " ++ s.sectionName ++ [newline])
          ++ (checkoutKeyvalues verboseCount s.width s.sectionName ret
            (buildKeyvalues allKeys s).keyvalues).text ++ tail
      ∧ (ipmiConfigCheckoutSection verboseCount allKeys s).keyvalues
        = (checkoutKeyvalues verboseCount s.width s.sectionName ret
            (buildKeyvalues allKeys s).keyvalues).keyvalues := by
  have hempty : (buildKeyvalues allKeys s).keyvalues.isEmpty = false :=
    Bool.eq_false_iff.mpr fun hnil => h (List.isEmpty_iff.mp hnil)
  simp only [ipmiConfigCheckoutSection, hempty, Bool.false_eq_true, if_false]
  refine ⟨if (commentsText allKeys s).1 then .success () else .nonFatal .nonFatalError, ?_⟩
  split
  · exact ⟨[], List.mem_cons_self .., (List.append_nil _).symm, rfl⟩
  · exact ⟨_, List.mem_cons_of_mem _ (List.mem_cons_self ..), rfl, rfl⟩

theorem sections_plus (hst : st.sections = pre ++ s.cleared :: post) (kvs : List ConfigKeyvalue) :
    (st.plus pre.length s.cleared kvs).sections = pre ++ { s with keyvalues := kvs } :: post := by
  rw [ParseState.plus, hst]
  simp [ConfigSection.plus, ConfigSection.cleared]

/-- The text of a section leads to its values, or it spoils them. -/
theorem section_text (hvalid : s.Valid) (hfit : SectionCommentsFit verboseCount allKeys s)
    (hst : st.sections = pre ++ s.cleared :: post)
    (hpre : ∀ p ∈ pre, same s.sectionName p.sectionName = false) :
    (SectionReadsBack allKeys s →
      ∃ st', Leads st (ipmiConfigCheckoutSection verboseCount allKeys s).text st'
        ∧ st'.sections = pre ++ s.readBack verboseCount allKeys :: post)
    ∧ (¬ SectionReadsBack allKeys s →
      Spoils st (ipmiConfigCheckoutSection verboseCount allKeys s).text pre.length
        (keptKeyvalues verboseCount allKeys s)) := by
  by_cases hempty : (buildKeyvalues allKeys s).keyvalues = []
  · have hnone : SectionReadsBack allKeys s := by
      rw [SectionReadsBack, attemptedKeys, hempty]
      exact List.forall_mem_nil _
    refine ⟨fun _ => ⟨st, ?_, ?_⟩, fun h => absurd hnone h⟩
    · rw [ipmiConfigCheckoutSection_empty hempty]
      exact Leads.nil st
    · rw [hst, ConfigSection.readBack, keptKeyvalues, ipmiConfigCheckoutSection_empty hempty]
      rfl
  · obtain ⟨ret, tail, htail, htext, hkeyvalues⟩ := ipmiConfigCheckoutSection_eq verboseCount hempty
    have hstart : Leads st ((commentsText allKeys s).2 ++ (str "Section " ++ s.sectionName ++ [newline]))
        { st with inside := some pre.length } :=
      (commentsText_skips hvalid.commentName st).append
        (leads_header hvalid.name (hst ▸ ipmiConfigFindSection_eq hpre) (hfit.header hempty))
    obtain ⟨hleads, hspoils⟩ := keyvalues_text ret { st with inside := some pre.length } s.cleared
      hvalid.pending hvalid.name hfit.keys rfl (by simp [hst])
    rw [htext, keptKeyvalues, hkeyvalues]
    constructor
    · intro hreads
      have hkeys := hstart.append (hleads hreads)
      rcases List.mem_pair.mp htail with rfl | rfl
      · refine ⟨_, by rwa [List.append_nil], ?_⟩
        rw [ConfigSection.readBack, keptKeyvalues, hkeyvalues]
        exact sections_plus hst _
      · refine ⟨_, hkeys.append (leads_endSection rfl), ?_⟩
        rw [ConfigSection.readBack, keptKeyvalues, hkeyvalues]
        exact sections_plus hst _
    · intro hreads
      exact (hstart.spoils (hspoils hreads)).append tail

end OneSection

/-! ### All sections -/

/-- The text that `ipmi_config_checkout_section` writes for the sections one after the other. -/
def checkoutText (verboseCount : ℕ) (allKeys : Bool) (sections : List ConfigSection) : Str :=
  sections.flatMap fun s => (ipmiConfigCheckoutSection verboseCount allKeys s).text

/-- The text is parsed, each section has the key values that were written for it, and a comparison with
    the hardware prints nothing. -/
def RoundTrips (verboseCount : ℕ) (allKeys : Bool) (sections : List ConfigSection) : Prop :=
  ∃ st, ipmiConfigParse (sections.map (·.cleared)) (checkoutText verboseCount allKeys sections) = .ok st
    ∧ st.sections = sections.map (·.readBack verboseCount allKeys)
    ∧ ipmiConfigDiff (.success ()) st.sections = ([], .success ())

section Sections
variable {verboseCount : ℕ} {allKeys : Bool}

/-- The text of sections leads to the values of all of them, or it spoils those of one. -/
theorem checkoutText_reads (verboseCount : ℕ) (allKeys : Bool) {sections : List ConfigSection}
    (st : ParseState) (pre : List ConfigSection) (hvalid : ∀ s ∈ sections, s.Valid)
    (hdistinct : sections.Pairwise fun s s' => same s.sectionName s'.sectionName = false)
    (hfit : ∀ s ∈ sections, SectionCommentsFit verboseCount allKeys s)
    (hst : st.sections = pre ++ sections.map (·.cleared))
    (hpre : ∀ s ∈ sections, ∀ p ∈ pre, same s.sectionName p.sectionName = false) :
    ((∀ s ∈ sections, SectionReadsBack allKeys s) →
      ∃ st', Leads st (checkoutText verboseCount allKeys sections) st'
        ∧ st'.sections = pre ++ sections.map (·.readBack verboseCount allKeys))
    ∧ ((¬ ∀ s ∈ sections, SectionReadsBack allKeys s) →
      ∃ i s, sections[i]? = some s
        ∧ Spoils st (checkoutText verboseCount allKeys sections) (pre.length + i)
          (keptKeyvalues verboseCount allKeys s)) := by
  induction sections generalizing st pre with
  | nil => exact ⟨fun _ => ⟨st, Leads.nil st, hst⟩, fun h => absurd (List.forall_mem_nil _) h⟩
  | cons s sections ih =>
    rw [List.forall_mem_cons] at hvalid hfit hpre ⊢
    obtain ⟨hleads, hspoils⟩ := section_text hvalid.1 hfit.1 hst hpre.1
    rw [checkoutText, List.flatMap_cons, ← checkoutText]
    by_cases hhead : SectionReadsBack allKeys s
    · obtain ⟨st₁, hst₁, hsections⟩ := hleads hhead
      have hpre' : ∀ s' ∈ sections, ∀ p ∈ pre ++ [s.readBack verboseCount allKeys],
          same s'.sectionName p.sectionName = false := by
        intro s' hs' p hp
        rcases List.mem_append.mp hp with hp | hp
        · exact hpre.2 s' hs' p hp
        · rw [List.mem_singleton.mp hp, same_comm]
          exact List.rel_of_pairwise_cons hdistinct hs'
      obtain ⟨ihleads, ihspoils⟩ := ih st₁ (pre ++ [s.readBack verboseCount allKeys]) hvalid.2
        hdistinct.of_cons hfit.2 (by rw [hsections, List.append_assoc]; rfl) hpre'
      constructor
      · rintro ⟨-, htail⟩
        obtain ⟨st₂, hst₂, hsections₂⟩ := ihleads htail
        exact ⟨st₂, hst₁.append hst₂, by rw [hsections₂, List.append_assoc]; rfl⟩
      · intro hnot
        obtain ⟨i, s', hs', hbad⟩ := ihspoils fun htail => hnot ⟨hhead, htail⟩
        refine ⟨i + 1, s', hs', ?_⟩
        rw [List.length_append, List.length_singleton, Nat.add_assoc, Nat.add_comm 1] at hbad
        exact hst₁.spoils hbad
    · exact ⟨fun h => absurd h.1 hhead, fun _ => ⟨0, s, rfl, (hspoils hhead).append _⟩⟩

/-- A key value that is kept has the value that its key has in the hardware. -/
theorem checkout_of_kept {sectionName : Str} {width : ℕ} {ret : ConfigErr Unit}
    {kvs : List ConfigKeyvalue} (hnone : ∀ kv ∈ kvs, kv.valueOutput = none) {kv : ConfigKeyvalue}
    (h : kv ∈ (checkoutKeyvalues verboseCount width sectionName ret kvs).keyvalues.filterMap
      keptKeyvalue) :
    ∃ value, kv.key.checkout sectionName = .success value ∧ kv.valueInput = some value := by
  induction kvs generalizing ret with
  | nil => cases h
  | cons kv' kvs ih =>
    have hhead : keptKeyvalue kv' = none := by rw [keptKeyvalue, hnone kv' (List.mem_cons_self ..)]
    have hrest : ∀ kv ∈ kvs, kv.valueOutput = none := fun kv hkv => hnone kv (List.mem_cons_of_mem _ hkv)
    cases hkey : checkoutKey sectionName kv'.key with
    | fatalError =>
      rw [checkoutKeyvalues_fatal hkey, filterMap_keptKeyvalue_of_noOutput hnone] at h
      cases h
    | nonFatal err =>
      rw [checkoutKeyvalues_nonFatal hkey, List.filterMap_cons, hhead] at h
      exact ih hrest h
    | success value =>
      rw [checkoutKeyvalues_success hkey] at h
      cases hout : kv'.key.commentedOut value with
      | true =>
        rw [List.filterMap_cons_none (by simp only [keptKeyvalue, hout, if_true])] at h
        exact ih hrest h
      | false =>
        rw [List.filterMap_cons_some (b := ⟨kv'.key, some value, none⟩)
          (by simp [keptKeyvalue, hout])] at h
        rcases List.mem_cons.mp h with rfl | h
        · have hdefined : ¬ kv'.key.has UNDEFINED = true := by
            intro hundefined
            rw [commentedOut_of_undefined hundefined] at hout
            cases hout
          rw [checkoutKey, if_neg hdefined] at hkey
          exact ⟨value, hkey, rfl⟩
        · exact ih hrest h

/-- Nothing differs from what has just been checked out. -/
theorem diffKeyvalues_nil {sectionName : Str} {ret : ConfigErr Unit} {kvs : List ConfigKeyvalue}
    (h : ∀ kv ∈ kvs, ∃ value, kv.key.checkout sectionName = .success value
      ∧ kv.valueInput = some value) :
    diffKeyvalues sectionName ret kvs = ([], ret) := by
  induction kvs with
  | nil => rfl
  | cons kv kvs ih =>
    obtain ⟨value, hcheckout, hinput⟩ := h kv (List.mem_cons_self ..)
    rw [diffKeyvalues, hcheckout]
    simp only [hinput, Option.getD_some]
    rw [if_pos (same_refl _)]
    exact ih fun kv hkv => h kv (List.mem_cons_of_mem _ hkv)

theorem ipmiConfigDiff_readBack {sections : List ConfigSection} (hvalid : ∀ s ∈ sections, s.Valid) :
    ipmiConfigDiff (.success ()) (sections.map (·.readBack verboseCount allKeys))
      = ([], .success ()) := by
  induction sections with
  | nil => rfl
  | cons s sections ih =>
    rw [List.forall_mem_cons] at hvalid
    have hkept : ∀ kv ∈ keptKeyvalues verboseCount allKeys s,
        ∃ value, kv.key.checkout s.sectionName = .success value ∧ kv.valueInput = some value := by
      intro kv hkv
      rw [keptKeyvalues] at hkv
      by_cases hempty : (buildKeyvalues allKeys s).keyvalues = []
      · rw [ipmiConfigCheckoutSection_empty hempty] at hkv
        cases hkv
      · obtain ⟨ret, tail, -, -, hkeyvalues⟩ := ipmiConfigCheckoutSection_eq verboseCount hempty
        rw [hkeyvalues] at hkv
        exact checkout_of_kept (fun kv hkv => (hvalid.1.built.1 kv hkv).2) hkv
    rw [List.map_cons, ipmiConfigDiff]
    simp only [ConfigSection.readBack, diffKeyvalues_nil hkept]
    have hrest := ih hvalid.2
    simp only [ConfigSection.readBack] at hrest
    rw [hrest]
    rfl

/-- A configuration that is checked out comes back from the parser if each line of a key that is not
    commented out fits into the parser's buffer and has a value without blanks, and all other lines fit.
    Where the other lines fit, nothing less is enough. -/
theorem roundTrips_iff (verboseCount : ℕ) (allKeys : Bool) (sections : List ConfigSection)
    (hvalid : ∀ s ∈ sections, s.Valid)
    (hdistinct : sections.Pairwise fun s s' => same s.sectionName s'.sectionName = false) :
    ((∀ s ∈ sections, SectionCommentsFit verboseCount allKeys s ∧ SectionReadsBack allKeys s) →
      RoundTrips verboseCount allKeys sections)
    ∧ ((∀ s ∈ sections, SectionCommentsFit verboseCount allKeys s) →
      (RoundTrips verboseCount allKeys sections ↔ ∀ s ∈ sections, SectionReadsBack allKeys s)) := by
  have hboth := fun hfit => checkoutText_reads verboseCount allKeys
    ⟨sections.map (·.cleared), none⟩ [] hvalid hdistinct hfit rfl
    fun _ _ _ h => absurd h List.not_mem_nil
  have hsufficient : (∀ s ∈ sections, SectionCommentsFit verboseCount allKeys s) →
      (∀ s ∈ sections, SectionReadsBack allKeys s) → RoundTrips verboseCount allKeys sections := by
    intro hfit hreads
    obtain ⟨st, hst, hsections⟩ := (hboth hfit).1 hreads
    refine ⟨st, hst.parse 0, hsections, ?_⟩
    rw [hsections]
    exact ipmiConfigDiff_readBack hvalid
  refine ⟨fun h => hsufficient (fun s hs => (h s hs).1) fun s hs => (h s hs).2,
    fun hfit => ⟨?_, hsufficient hfit⟩⟩
  rintro ⟨st, hparse, hsections, -⟩
  by_contra hnot
  obtain ⟨i, s, hs, hbad⟩ := (hboth hfit).2 hnot
  obtain ⟨t, ht, hoff⟩ := hbad 0 [] st (by rw [List.append_nil]; exact hparse)
  rw [List.length_nil, Nat.zero_add, hsections, List.getElem?_map, hs] at ht
  cases ht
  exact hoff (List.prefix_refl _)

end Sections

/-! ### A community string -/

/-- A section with one key, whose value is a text. -/
def communityString (value : String) : ConfigSection where
  sectionName := str "Community_String"
  sectionCommentSectionName := none
  sectionComment := none
  lineLength := 0
  keys := [⟨str "Community_String", str "Give valid string", 0, fun _ => .success (str value)⟩]
  keyvalues := []

theorem communityString_isKeyName : IsKeyName (str "Community_String") :=
  ⟨⟨by decide, by decide⟩, by decide, by decide, by decide⟩

theorem communityString_valid {value : String} (hprint : ∀ c ∈ str value, isPrint c = true)
    (hne : str value ≠ []) : (communityString value).Valid where
  name := communityString_isKeyName.toIsWord
  commentName := by
    intro name hname
    cases hname
  keyNames := by
    intro k hk
    rw [List.mem_singleton.mp hk]
    exact communityString_isKeyName
  keysDistinct := List.pairwise_singleton _ _
  values := by
    intro k hk v hv
    rw [List.mem_singleton.mp hk] at hv
    cases hv
    exact ⟨hprint, fun _ => hne⟩
  asked := List.forall_mem_nil _
  askedDistinct := List.Pairwise.nil

/-- The condition holds for a community string that is one short word. -/
theorem roundTrips_iff_public : RoundTrips 0 true [communityString "public"] := by
  have hvalid : ∀ s ∈ [communityString "public"], s.Valid :=
    List.forall_mem_singleton.mpr (communityString_valid (by decide) (by decide))
  refine (roundTrips_iff 0 true _ hvalid (List.pairwise_singleton _ _)).1 ?_
  have hkey : attemptedKeys true (communityString "public")
      = [⟨⟨str "Community_String", str "Give valid string", 0, fun _ => .success (str "public")⟩,
        none, none⟩] := rfl
  refine List.forall_mem_singleton.mpr ⟨⟨fun _ => by decide, ?_⟩, ?_⟩
  · rw [hkey]
    refine List.forall_mem_singleton.mpr ⟨fun err h => ?_, fun value h => ?_, fun value h => ?_⟩
    · cases h
    · cases h
      rw [DescriptionFits]
      decide
    · cases h
      decide
  · rw [SectionReadsBack, hkey]
    refine List.forall_mem_singleton.mpr fun value h _ => ?_
    cases h
    exact ⟨by decide, by decide⟩

/-- A community string of two words comes back without the second. -/
theorem communityString_cut :
    (communityString "my site").Valid ∧ ¬ RoundTrips 0 true [communityString "my site"] := by
  refine ⟨communityString_valid (by decide) (by decide), ?_⟩
  rintro ⟨st, hparse, hsections, -⟩
  have hcut : (ipmiConfigParse ([communityString "my site"].map (·.cleared))
      (checkoutText 0 true [communityString "my site"])).map
        (fun st => st.sections.map fun s => s.keyvalues.map (·.valueInput))
      = .ok [[some (str "my")]] := by
    rfl
  rw [hparse] at hcut
  have hinputs := Except.ok.inj hcut
  simp only [hsections] at hinputs
  exact absurd hinputs (by decide)

end FreeIpmi.Config
