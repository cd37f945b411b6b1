import FreeIpmi.Lib.Lines
import Mathlib.Data.Nat.Notation

/-! Sections, keys and key values of `ipmi-config`: `ipmi-config.h`, `ipmi-config-section.c` and the
    lookups of `ipmi-config-utils.c`.

    A section has the keys that exist, and the key values that were asked for or were read from a
    file. A key value points to its key. -/

namespace FreeIpmi.Config
open Lines

/-! ### Constants -/

/-- `IPMI_CONFIG_CHECKOUT_KEY_COMMENTED_OUT` -/
def CHECKOUT_KEY_COMMENTED_OUT : BitVec 32 := 0x01
/-- `IPMI_CONFIG_CHECKOUT_KEY_COMMENTED_OUT_IF_VALUE_EMPTY` -/
def CHECKOUT_KEY_COMMENTED_OUT_IF_VALUE_EMPTY : BitVec 32 := 0x02
/-- `IPMI_CONFIG_DO_NOT_CHECKOUT` -/
def DO_NOT_CHECKOUT : BitVec 32 := 0x04
/-- `IPMI_CONFIG_UNDEFINED` -/
def UNDEFINED : BitVec 32 := 0x10
/-- `IPMI_CONFIG_USERNAME_NOT_SET_YET` -/
def USERNAME_NOT_SET_YET : BitVec 32 := 0x20
/-- `IPMI_CONFIG_USERNAME_NOT_SET_YET_STR` -/
def USERNAME_NOT_SET_YET_STR : Str := str "<username-not-set-yet>"
/-- `IPMI_CONFIG_CHECKOUT_LINE_LEN` -/
def CHECKOUT_LINE_LEN : ℕ := 45
/-- `IPMI_CONFIG_PARSE_BUFLEN` -/
def PARSE_BUFLEN : ℕ := 4096
/-- `IPMI_CONFIG_OUTPUT_BUFLEN` -/
def OUTPUT_BUFLEN : ℕ := 8192

/-! ### Data -/

/-- The codes with `IPMI_CONFIG_IS_NON_FATAL_ERROR`. -/
inductive NonFatal
  | nonFatalError
  | readOnly
  | notSupported
  | invalidUnsupportedConfig
  deriving DecidableEq, Repr

/-- `ipmi_config_err_t`, with what a success returns. -/
inductive ConfigErr (α : Type)
  | fatalError
  | nonFatal (err : NonFatal)
  | success (value : α)
  deriving DecidableEq, Repr

/-- `struct ipmi_config_key`: the functions that write a value to the hardware are left out. -/
structure ConfigKey where
  keyName : Str
  description : Str
  flags : BitVec 32
  /-- What the key's checkout function puts into `value_output` for a section name. -/
  checkout : Str → ConfigErr Str

/-- `struct ipmi_config_keyvalue` -/
structure ConfigKeyvalue where
  key : ConfigKey
  valueInput : Option Str
  valueOutput : Option Str

/-- `struct ipmi_config_section` -/
structure ConfigSection where
  sectionName : Str
  sectionCommentSectionName : Option Str
  sectionComment : Option Str
  lineLength : ℕ
  keys : List ConfigKey
  keyvalues : List ConfigKeyvalue

/-- Whether a flag is set. -/
def ConfigKey.has (k : ConfigKey) (flag : BitVec 32) : Bool := k.flags &&& flag ≠ 0

/-! ### Operations -/

/-- `ipmi_config_find_section`: the position of the section in the list. -/
def ipmiConfigFindSection (sections : List ConfigSection) (sectionName : Str) : Option ℕ :=
  sections.findIdx? fun s => same sectionName s.sectionName

/-- `ipmi_config_find_key` -/
def ipmiConfigFindKey (s : ConfigSection) (keyName : Str) : Option ConfigKey :=
  s.keys.find? fun k => same keyName k.keyName

/-- `ipmi_config_find_keyvalue` -/
def ipmiConfigFindKeyvalue (s : ConfigSection) (keyName : Str) : Option ConfigKeyvalue :=
  s.keyvalues.find? fun kv => same keyName kv.key.keyName

/-- `ipmi_config_section_add_keyvalue` -/
def ipmiConfigSectionAddKeyvalue (s : ConfigSection) (key : ConfigKey)
    (valueInput valueOutput : Option Str) : ConfigSection :=
  { s with keyvalues := s.keyvalues ++ [⟨key, valueInput, valueOutput⟩] }

end FreeIpmi.Config
