import FreeIpmi.Config.Section

/-! The writer of `ipmi-config`: `ipmi_config_checkout_section` and the comments of
    `ipmi-config-comment.c`.

    A function returns the text that it has written. -/

namespace FreeIpmi.Config
open Lines

/-! ### Comments -/

/-- `FORMAT_COMMENT_BUFLEN` -/
def FORMAT_COMMENT_BUFLEN : ℕ := 4096
/-- `FORMAT_COMMENT_COLUMN_WIDTH` -/
def FORMAT_COMMENT_COLUMN_WIDTH : ℕ := 80

/-- The loop over the words in `_format_comment`; it returns `out` and `totalwritten`. -/
def formatCommentLoop (outsize : ℕ) : List Str → Str → ℕ → ℕ → Option (Str × ℕ)
  | [], out, totalwritten, _ => some (out, totalwritten)
  | tok :: toks, out, totalwritten, linelen =>
    let wrapped : Option (Str × ℕ × ℕ) :=
      if linelen + tok.length > FORMAT_COMMENT_COLUMN_WIDTH then
        if outsize - 1 ≤ totalwritten + 3 then none
        else some (out ++ str "\n# ", totalwritten + 3, 2)
      else some (out, totalwritten, linelen)
    match wrapped with
    | none => none
    | some (out, totalwritten, linelen) =>
      if outsize - 1 ≤ totalwritten + tok.length + 1 then none
      else formatCommentLoop outsize toks (out ++ (tok ++ str " ")) (totalwritten + (tok.length + 1))
        (linelen + (tok.length + 1))

/-- `_format_comment` -/
def formatComment (input : Str) (outsize : ℕ) : Option Str :=
  if outsize - 1 ≤ 0 + 2 then none
  else
    match formatCommentLoop outsize (words (· = blank) input) (str "# ") 2 2 with
    | none => none
    | some (out, totalwritten) =>
      if outsize - 1 ≤ totalwritten + 1 then none else some (out ++ str "\n")

/-- The loop over the lines of the comment; the flag is false where it stops with an error. -/
def sectionCommentsLoop : List Str → Bool × Str
  | [] => (true, [])
  | tok :: toks =>
    match formatComment tok FORMAT_COMMENT_BUFLEN with
    | none => (false, [])
    | some buf => ((sectionCommentsLoop toks).1, buf ++ str "#\n" ++ (sectionCommentsLoop toks).2)

/-- `ipmi_config_section_comments` -/
def ipmiConfigSectionComments (sectionName input : Str) : Bool × Str :=
  let sectionNameBuf :=
    (str "Section " ++ sectionName ++ str " Comments").take (FORMAT_COMMENT_BUFLEN - 1)
  match formatComment sectionNameBuf FORMAT_COMMENT_BUFLEN with
  | none => (false, str "#\n")
  | some buf =>
    let rest := sectionCommentsLoop (words (· = newline) input)
    (rest.1, str "#\n" ++ buf ++ str "#\n" ++ rest.2)

/-! ### One key -/

/-- The reasons to comment a key out. -/
def ConfigKey.commentedOut (k : ConfigKey) (valueOutput : Str) : Bool :=
  k.has CHECKOUT_KEY_COMMENTED_OUT
    || k.has UNDEFINED
    || (k.has CHECKOUT_KEY_COMMENTED_OUT_IF_VALUE_EMPTY && valueOutput.isEmpty)
    || (k.has USERNAME_NOT_SET_YET && same valueOutput USERNAME_NOT_SET_YET_STR)

/-- The value of a key, or why there is none. -/
def checkoutKey (sectionName : Str) (k : ConfigKey) : ConfigErr Str :=
  if k.has UNDEFINED then .success (str "Undefined") else k.checkout sectionName

/-- The comment for a key that could not be checked out. -/
def failedText (verboseCount : ℕ) (sectionName : Str) (k : ConfigKey) (err : NonFatal) : Str :=
  if 1 < verboseCount then
    if err = .notSupported then
      str "\t## Unable to checkout " ++ sectionName ++ str ":" ++ k.keyName ++ str " : Not Supported\n"
    else str "\t## Unable to checkout " ++ sectionName ++ str ":" ++ k.keyName ++ str "\n"
  else []

/-- The description of a key as a comment. -/
def descriptionText (description : Str) : Str :=
  if newline ∈ description then
    str "\t## " ++ (description.flatMap fun c => if c = newline then str "\n\t## " else [c]) ++ str "\n"
  else str "\t## " ++ description ++ str "\n"

/-- What stands before the padding of a key's line: `key_len` is its length. -/
def keyStart (k : ConfigKey) (valueOutput : Str) : Str :=
  (if k.commentedOut valueOutput then str "\t## " else str "\t") ++ k.keyName

/-- The line of a key, without its end. `snprintf` cuts the start off at the buffer's length, but it
    returns the length before that. -/
def keyLine (lineLength : ℕ) (k : ConfigKey) (valueOutput : Str) : Str :=
  (keyStart k valueOutput).take (OUTPUT_BUFLEN - 1)
    ++ List.replicate (lineLength + 1 - (keyStart k valueOutput).length) blank
    ++ str " " ++ valueOutput

/-! ### The section -/

/-- What the loop over the key values returns. -/
structure Checkout where
  text : Str
  ret : ConfigErr Unit
  keyvalues : List ConfigKeyvalue

/-- The loop over the key values; a fatal error leaves it. -/
def checkoutKeyvalues (verboseCount lineLength : ℕ) (sectionName : Str) (ret : ConfigErr Unit) :
    List ConfigKeyvalue → Checkout
  | [] => ⟨[], ret, []⟩
  | kv :: kvs =>
    match checkoutKey sectionName kv.key with
    | .fatalError => ⟨[], .fatalError, kv :: kvs⟩
    | .nonFatal err =>
      let rest := checkoutKeyvalues verboseCount lineLength sectionName (.nonFatal .nonFatalError) kvs
      ⟨failedText verboseCount sectionName kv.key err ++ rest.text, rest.ret, kv :: rest.keyvalues⟩
    | .success value =>
      let rest := checkoutKeyvalues verboseCount lineLength sectionName ret kvs
      ⟨descriptionText kv.key.description ++ (keyLine lineLength kv.key value ++ str "\n") ++ rest.text,
        rest.ret, { kv with valueOutput := some value } :: rest.keyvalues⟩

/-- The key values that a section without any gets, if all keys are to be checked out. -/
def buildKeyvalues (allKeys : Bool) (s : ConfigSection) : ConfigSection :=
  if allKeys ∧ s.keyvalues.isEmpty then
    s.keys.foldl (fun s k =>
      if k.has DO_NOT_CHECKOUT then s else ipmiConfigSectionAddKeyvalue s k none none) s
  else s

/-- The width of the column of key names. -/
def ConfigSection.width (s : ConfigSection) : ℕ :=
  if s.lineLength = 0 then CHECKOUT_LINE_LEN else s.lineLength

/-- The comments before a section, if it has any. -/
def commentsText (allKeys : Bool) (s : ConfigSection) : Bool × Str :=
  match s.sectionCommentSectionName, s.sectionComment with
  | some name, some comment =>
    if allKeys then ipmiConfigSectionComments name comment else (true, [])
  | _, _ => (true, [])

/-- `ipmi_config_checkout_section`: the text, the return value and the key values with their outputs. -/
def ipmiConfigCheckoutSection (verboseCount : ℕ) (allKeys : Bool) (s : ConfigSection) : Checkout :=
  let kvs := (buildKeyvalues allKeys s).keyvalues
  if kvs.isEmpty then ⟨[], .success (), kvs⟩
  else
    let comments := commentsText allKeys s
    let ret := if comments.1 then .success () else .nonFatal .nonFatalError
    let keys := checkoutKeyvalues verboseCount s.width s.sectionName ret kvs
    let header := comments.2 ++ (str "Section " ++ s.sectionName ++ str "\n")
    match keys.ret with
    | .fatalError => ⟨header ++ keys.text, .fatalError, keys.keyvalues⟩
    | ret => ⟨header ++ keys.text ++ str "EndSection\n", ret, keys.keyvalues⟩

end FreeIpmi.Config
