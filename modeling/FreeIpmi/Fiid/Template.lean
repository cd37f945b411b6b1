import FreeIpmi.Basic

/-! Fiid templates (`fiid/fiid.h`, first part of `fiid/fiid.c`).

    A template is a C array of fields that ends at the first field of length 0. Here the proper
    fields and the terminator are kept apart: a field carries the proof that its length is not 0,
    so a list of fields is exactly what the loops `for (i = 0; tmpl[i].max_field_len; i++)` visit.
    Of the terminator only the flags are ever read. -/

namespace FreeIpmi.Fiid

/-- `FIID_FIELD_MAX_KEY_LEN`. -/
def fiidFieldMaxKeyLen : ℕ := 256

def fiidFieldRequired : BitVec 32 := 0x00000001
def fiidFieldOptional : BitVec 32 := 0x00000002
def fiidFieldLengthFixed : BitVec 32 := 0x00000010
def fiidFieldLengthVariable : BitVec 32 := 0x00000020
def fiidFieldMakesPacketSufficient : BitVec 32 := 0x00010000

/-- `FIID_FIELD_REQUIRED_FLAG`. -/
def fiidFieldRequiredFlag (flags : BitVec 32) : BitVec 32 := flags &&& 0x0000000F

/-- `FIID_FIELD_LENGTH_FLAG`. -/
def fiidFieldLengthFlag (flags : BitVec 32) : BitVec 32 := flags &&& 0x000000F0

/-- `fiid_field_t`, for the fields before the terminator. -/
structure FiidField where
  maxFieldLen : ℕ
  key : String
  flags : BitVec 32
  -- an equation of Booleans: in a template it holds by evaluation
  hasLen : decide (0 < maxFieldLen) = true
  deriving DecidableEq

theorem FiidField.maxFieldLen_pos (f : FiidField) : 0 < f.maxFieldLen := of_decide_eq_true f.hasLen

/-- `fiid_template_t`: the fields, and the flags of the terminator. -/
structure FiidTemplate where
  fields : List FiidField
  terminatorFlags : BitVec 32 := 0
  deriving DecidableEq

/-- `_fiid_template_check_valid_keys`. -/
def fiidTemplateCheckValidKeys (tmpl : FiidTemplate) : Bool :=
  tmpl.fields.all fun f => f.key.utf8ByteSize ≠ 0 && f.key.utf8ByteSize ≤ fiidFieldMaxKeyLen

/-- `_fiid_template_check_valid_flags`. -/
def fiidTemplateCheckValidFlags (tmpl : FiidTemplate) : Bool :=
  tmpl.fields.all fun f =>
    (fiidFieldRequiredFlag f.flags = fiidFieldRequired
      || fiidFieldRequiredFlag f.flags = fiidFieldOptional)
    && (fiidFieldLengthFlag f.flags = fiidFieldLengthFixed
      || fiidFieldLengthFlag f.flags = fiidFieldLengthVariable)

/-- The summation loop of `_fiid_template_len`, in `unsigned int`. -/
def fiidTemplateLenLoop : List FiidField → ℕ → Option ℕ
  | [], len => some len
  | f :: fs, len =>
    if f.maxFieldLen > intMax then none
    else
      let len := (len + f.maxFieldLen) % 2 ^ 32
      if len < f.maxFieldLen then none else fiidTemplateLenLoop fs len

/-- `fiid_template_len`: the length in bits, or `none` for `-1`. -/
def fiidTemplateLen (tmpl : FiidTemplate) : Option ℕ :=
  match fiidTemplateLenLoop tmpl.fields 0 with
  | none => none
  | some len => if len > intMax then none else if len % 8 ≠ 0 then none else some len

/-- `fiid_template_len_bytes`. -/
def fiidTemplateLenBytes (tmpl : FiidTemplate) : Option ℕ :=
  (fiidTemplateLen tmpl).map bitsRoundBytes

/-- `_fiid_template_field_start_end`: the bit offsets of a field, in `unsigned int`. -/
def fiidTemplateFieldStartEnd (field : String) : List FiidField → ℕ → Option (ℕ × ℕ)
  | [], _ => none
  | f :: fs, start =>
    if f.key = field then
      if f.maxFieldLen > intMax then none
      else
        let stop := (start + f.maxFieldLen) % 2 ^ 32
        if stop < f.maxFieldLen then none else some (start, stop)
    else
      let start := (start + f.maxFieldLen) % 2 ^ 32
      if start < f.maxFieldLen then none else fiidTemplateFieldStartEnd field fs start

/-- `fiid_template_field_start`. -/
def fiidTemplateFieldStart (tmpl : FiidTemplate) (field : String) : Option ℕ :=
  if !fiidTemplateCheckValidKeys tmpl then none
  else match fiidTemplateFieldStartEnd field tmpl.fields 0 with
    | none => none
    | some (start, _) => if start > intMax then none else some start

/-- `fiid_template_field_end`. -/
def fiidTemplateFieldEnd (tmpl : FiidTemplate) (field : String) : Option ℕ :=
  if !fiidTemplateCheckValidKeys tmpl then none
  else match fiidTemplateFieldStartEnd field tmpl.fields 0 with
    | none => none
    | some (_, stop) => if stop > intMax then none else some stop

/-- `fiid_template_field_len`. -/
def fiidTemplateFieldLen (tmpl : FiidTemplate) (field : String) : Option ℕ :=
  if !fiidTemplateCheckValidKeys tmpl then none
  else match tmpl.fields.find? (fun f => f.key = field) with
    | none => none
    | some f => if f.maxFieldLen > intMax then none else some f.maxFieldLen

/-- `fiid_template_block_len`. -/
def fiidTemplateBlockLen (tmpl : FiidTemplate) (fieldStart fieldEnd : String) : Option ℕ :=
  match fiidTemplateFieldEnd tmpl fieldEnd, fiidTemplateFieldStart tmpl fieldStart with
  | some stop, some start => if start > stop then none else some (stop - start)
  | _, _ => none

/-- The common end of the `_bytes` functions: only whole bytes are reported. -/
def bytesOfBits (len : Option ℕ) : Option ℕ :=
  match len with
  | none => none
  | some len => if len % 8 ≠ 0 then none else some (bitsRoundBytes len)

/-- `fiid_template_field_start_bytes`. -/
def fiidTemplateFieldStartBytes (tmpl : FiidTemplate) (field : String) : Option ℕ :=
  bytesOfBits (fiidTemplateFieldStart tmpl field)

/-- `fiid_template_field_end_bytes`. -/
def fiidTemplateFieldEndBytes (tmpl : FiidTemplate) (field : String) : Option ℕ :=
  bytesOfBits (fiidTemplateFieldEnd tmpl field)

/-- `fiid_template_field_len_bytes`. -/
def fiidTemplateFieldLenBytes (tmpl : FiidTemplate) (field : String) : Option ℕ :=
  bytesOfBits (fiidTemplateFieldLen tmpl field)

/-- `fiid_template_block_len_bytes`. -/
def fiidTemplateBlockLenBytes (tmpl : FiidTemplate) (fieldStart fieldEnd : String) : Option ℕ :=
  bytesOfBits (fiidTemplateBlockLen tmpl fieldStart fieldEnd)

/-- The true length in bits of a list of fields. -/
def bitLen (fields : List FiidField) : ℕ := (fields.map (·.maxFieldLen)).sum

/-- The wrapping sum of `_fiid_template_len` is the true sum whenever it is accepted: each summand is
    at most `INT_MAX`, so a wrap is always noticed. -/
theorem fiidTemplateLenLoop_eq : ∀ {fields : List FiidField} {len n : ℕ}, len < 2 ^ 32 →
    fiidTemplateLenLoop fields len = some n → n = len + bitLen fields
  | [], len, n, _, h => by simpa [fiidTemplateLenLoop, bitLen, eq_comm] using h
  | f :: fs, len, n, hlen, h => by
    simp only [fiidTemplateLenLoop] at h
    split at h
    · cases h
    · rename_i hmax
      split at h
      · cases h
      · rename_i hwrap
        have hsum := fiidTemplateLenLoop_eq (Nat.mod_lt _ (by norm_num)) h
        have hno : (len + f.maxFieldLen) % 2 ^ 32 = len + f.maxFieldLen := by
          simp only [intMax] at hmax; omega
        rw [hsum, hno, bitLen, bitLen, List.map_cons, List.sum_cons]; ring

theorem fiidTemplateLen_eq {tmpl : FiidTemplate} {n : ℕ} (h : fiidTemplateLen tmpl = some n) :
    n = bitLen tmpl.fields ∧ n ≤ intMax ∧ n % 8 = 0 := by
  unfold fiidTemplateLen at h
  split at h
  · cases h
  · rename_i len hloop
    have hlen := fiidTemplateLenLoop_eq (by norm_num) hloop
    split at h
    · cases h
    · split at h
      · cases h
      · cases h; omega

end FreeIpmi.Fiid
