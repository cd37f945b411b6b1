import FreeIpmi.Basic
import FreeIpmi.Lib.Calls
import FreeIpmi.Lib.LittleEndian

/-! The search for an IPMI device in the SMBIOS tables (`locate/ipmi-locate-smbios.c`).

    The BIOS area is searched for an entry point, which tells where the structure table is. A structure is
    a formatted part, of a length that its second byte tells, and strings up to two null bytes; the first
    one of type 38 with the wanted interface is copied, and its fields are taken from the copy.

        area       ... _SM_ .. length .. _DMI_ .. table length, table address ...
        table      | type length ..... strings 0 0 | type length ..... strings 0 0 | ...

    A pointer into a buffer is the bytes from it to the end of the buffer, and a byte that is read behind
    the end ends a call. Memory is allocated. -/

namespace FreeIpmi.Locate
open Calls LittleEndian

/-- The `IPMI_LOCATE_ERR_*` codes; that of a failed mapping comes from `errno`. -/
inductive LocateErr where
  | systemError | mapping
  deriving DecidableEq

/-- What ends a call that does not return 0. -/
inductive LocateStop where
  | errnum (e : LocateErr)
  -- a byte outside of the buffer is read
  | outside
  deriving DecidableEq

/-- `ipmi_interface_type_t`, the valid ones. -/
inductive InterfaceType where
  | kcs | smic | bt | ssif
  deriving DecidableEq

def InterfaceType.code : InterfaceType → Byte
  | .kcs => 1
  | .smic => 2
  | .bt => 3
  | .ssif => 4

/-- What `_map_physmem` maps, by address and length. -/
structure PhysMem where
  map : ℕ → ℕ → Option (List Byte)
  length : ∀ {physaddress len : ℕ} {mem : List Byte}, map physaddress len = some mem → mem.length = len

/-- `p[i]`. -/
def byteAt (p : List Byte) (i : ℕ) : Except LocateStop Byte :=
  match p[i]? with
  | none => .error .outside
  | some b => .ok b

/-- `n` bytes from `p + i` on. -/
def bytesAt (p : List Byte) (i n : ℕ) : Except LocateStop (List Byte) :=
  if i + n ≤ p.length then .ok ((p.drop i).take n) else .error .outside

/-! ### The entry point -/

/-- `IPMI_SMBIOS_AREA_START`, `IPMI_SMBIOS_AREA_LEN` and `IPMI_SMBIOS_AREA_ALIGN`. -/
def smbiosAreaStart : ℕ := 0x000f0000
def smbiosAreaLen : ℕ := 0x10000
def smbiosAreaAlign : ℕ := 16

def smbiosEntrySig : List Byte := [0x5F, 0x53, 0x4D, 0x5F]
def smbiosEntryAnchor : List Byte := [0x5F, 0x44, 0x4D, 0x49, 0x5F]

/-- `IPMI_SMBIOS_ENTRY_*_OFFSET`. -/
def entryLenOffset : ℕ := 0x5
def entryAnchorOffset : ℕ := 0x10
def entryAnchorCsumOffset : ℕ := 0x15
def entryTlenOffset : ℕ := 0x16
def entryPtrOffset : ℕ := 0x18

/-- The sum of bytes modulo 256. -/
def csum (bytes : List Byte) : ℕ := bytes.foldl (fun csum b => (csum + b.toNat) % 2 ^ 8) 0

/-- `_is_ipmi_entry`. Both checksums are computed, and compared with nothing. -/
def isIpmiEntry (area : List Byte) (sigp : ℕ) : Except LocateStop Bool := do
  let sig ← bytesAt area sigp smbiosEntrySig.length
  if sig ≠ smbiosEntrySig then return false
  else
    let entryLen ← byteAt area (sigp + entryLenOffset)
    let entry ← bytesAt area sigp entryLen.toNat
    let _csumComputed := csum entry
    let anchor ← bytesAt area (sigp + entryAnchorOffset) smbiosEntryAnchor.length
    if anchor ≠ smbiosEntryAnchor then return false
    else
      let rest ← bytesAt area (sigp + entryAnchorCsumOffset) (entryLen.toNat - entryAnchorCsumOffset)
      let _csumComputed := csum rest
      return true

/-! ### The structure table -/

/-- `IPMI_SMBIOS_IPMI_DEV_INFO_SIG`. -/
def devInfoSig : Byte := 38

/-- `IPMI_SMBIOS_DEV_INFO_LEN_OFFSET` and `IPMI_SMBIOS_IPMI_DEV_INFO_*_OFFSET`. -/
def devInfoLenOffset : ℕ := 0x1
def devInfoTypeOffset : ℕ := 0x4
def devInfoVerOffset : ℕ := 0x5
def devInfoI2cOffset : ℕ := 0x6
def devInfoAddressOffset : ℕ := 0x8
def devInfoModifierOffset : ℕ := 0x10

/-- `_is_ipmi_dev_info`. -/
def isIpmiDevInfo (type : InterfaceType) (devInfo : List Byte) : Except LocateStop Bool := do
  let sig ← byteAt devInfo 0
  if sig ≠ devInfoSig then return false
  else
    let interfaceType ← byteAt devInfo devInfoTypeOffset
    return interfaceType = type.code

/-- What stands behind the first two null bytes. A last byte is either followed or tested with one that is
    not there. -/
def skipStrings : List Byte → Except LocateStop (List Byte)
  | [] => .error .outside
  | [_] => .error .outside
  | a :: b :: rest => if a ≠ 0 ∨ b ≠ 0 then skipStrings (b :: rest) else .ok rest

theorem length_skipStrings : ∀ {varInfo rest : List Byte},
    skipStrings varInfo = .ok rest → rest.length + 2 ≤ varInfo.length
  | [], _, h => by cases h
  | [_], _, h => by cases h
  | a :: b :: varInfo, rest, h => by
    rw [skipStrings] at h
    split at h
    · have hle := length_skipStrings h
      simp only [List.length_cons] at hle ⊢
      omega
    · cases h
      simp

/-- The loop over the structures: a copy of the one that is found. -/
def walkTable (type : InterfaceType) (devInfo : List Byte) (size : ℕ) :
    Except LocateStop (Option (List Byte)) :=
  if devInfo = [] then .ok none
  else
    match isIpmiDevInfo type devInfo with
    | .error e => .error e
    | .ok true => (bytesAt devInfo 0 size).map some
    | .ok false =>
      match _hskip : skipStrings (devInfo.drop size) with
      | .error e => .error e
      | .ok next =>
        match byteAt next devInfoLenOffset with
        | .error e => .error e
        | .ok size => walkTable type next size.toNat
termination_by devInfo.length
decreasing_by
  have hle := length_skipStrings _hskip
  rw [List.length_drop] at hle
  omega

/-- The table of an entry point. -/
def readEntry (mem : PhysMem) (type : InterfaceType) (area : List Byte) (sigp : ℕ) :
    Except LocateStop (Option (List Byte)) := do
  let sTableLen ← bytesAt area (sigp + entryTlenOffset) 2
  let ptr ← bytesAt area (sigp + entryPtrOffset) 4
  match mem.map (leValue ptr) (leValue sTableLen) with
  | none => .error (.errnum .mapping)
  | some pmemTable =>
    let size ← byteAt pmemTable devInfoLenOffset
    walkTable type pmemTable size.toNat

/-- The loop over the area, with the rounds that are left. -/
def scanArea (mem : PhysMem) (type : InterfaceType) (area : List Byte) :
    ℕ → ℕ → Except LocateStop (List Byte)
  | 0, _ => .error (.errnum .systemError)
  | rounds + 1, sigp =>
    match isIpmiEntry area sigp with
    | .error e => .error e
    | .ok false => scanArea mem type area rounds (sigp + smbiosAreaAlign)
    | .ok true =>
      match readEntry mem type area sigp with
      | .error e => .error e
      | .ok (some result) => .ok result
      | .ok none => scanArea mem type area rounds (sigp + smbiosAreaAlign)

/-- `_copy_ipmi_dev_info`. -/
def copyIpmiDevInfo (mem : PhysMem) (type : InterfaceType) : Except LocateStop (List Byte) :=
  match mem.map smbiosAreaStart smbiosAreaLen with
  | none => .error (.errnum .mapping)
  | some area => scanArea mem type area (smbiosAreaLen / smbiosAreaAlign) 0

/-! ### The device -/

/-- `IPMI_ADDRESS_SPACE_ID_*`. -/
def addressSpaceIdSystemMemory : Byte := 0x00
def addressSpaceIdSystemIo : Byte := 0x01
def addressSpaceIdSmbus : Byte := 0x04

/-- `IPMI_LOCATE_DRIVER_SMBIOS`. -/
def locateDriverSmbios : ℕ := 2

/-- `struct ipmi_locate_info`. -/
structure LocateInfo where
  ipmiVersionMajor : Byte
  ipmiVersionMinor : Byte
  locateDriverType : ℕ
  interfaceType : InterfaceType
  driverDevice : String
  addressSpaceId : Byte
  driverAddress : BitVec 64
  registerSpacing : Byte
  deriving DecidableEq

/-- `_ipmi_smbios_register_spacing`. -/
def smbiosRegisterSpacing (boundary : Byte) : Except LocateStop Byte :=
  if boundary = 0x00 then .ok 0x01
  else if boundary = 0x01 then .ok 0x04
  else if boundary = 0x02 then .ok 0x10
  else .error (.errnum .systemError)

/-- The address with the low bit of the modifier, and the register spacing, if there is a modifier. -/
def readModifier (bufp : List Byte) (address : BitVec 64) : Except LocateStop (BitVec 64 × Byte) := do
  let len ← byteAt bufp devInfoLenOffset
  if len.toNat ≥ devInfoModifierOffset then
    let modifier ← byteAt bufp devInfoModifierOffset
    let lsb := (modifier >>> 4) &&& 1
    let registerSpacing ← smbiosRegisterSpacing ((modifier >>> 6) &&& 0x3)
    return ((address &&& ~~~1#64) ||| lsb.setWidth 64, registerSpacing)
  else return (address, 0)

/-- The fields of a copied structure. -/
def readDevInfo (type : InterfaceType) (bufp : List Byte) : Except LocateStop LocateInfo := do
  let version ← byteAt bufp devInfoVerOffset
  let interfaceType ← byteAt bufp devInfoTypeOffset
  if interfaceType ≠ type.code then .error (.errnum .systemError)
  else
    let bytes ← bytesAt bufp devInfoAddressOffset 8
    let address := BitVec.ofNat 64 (leValue bytes)
    let (strobed, registerSpacing) ← readModifier bufp address
    let driverAddress ←
      if type = .ssif then do
        let slave ← byteAt bufp devInfoI2cOffset
        pure (slave.setWidth 64)
      else pure strobed
    return {
      ipmiVersionMajor := (version >>> 4) &&& 0xf
      ipmiVersionMinor := version &&& 0xf
      locateDriverType := locateDriverSmbios
      interfaceType := type
      driverDevice := if type = .ssif then "/dev/i2c-0" else ""
      addressSpaceId :=
        if type = .ssif then addressSpaceIdSmbus
        else if address &&& 1 ≠ 0 then addressSpaceIdSystemIo
        else addressSpaceIdSystemMemory
      driverAddress := driverAddress
      registerSpacing := registerSpacing }

/-- `ipmi_locate_smbios_get_device_info`. -/
def smbiosGetDeviceInfo (mem : PhysMem) (type : InterfaceType) : Except LocateStop LocateInfo := do
  let bufp ← copyIpmiDevInfo mem type
  readDevInfo type bufp

/-! ### What is to be found -/

/-- The signature of an entry point. -/
def Signature (area : List Byte) (sigp : ℕ) : Prop :=
  (area.drop sigp).take smbiosEntrySig.length = smbiosEntrySig

/-- An entry point. -/
def Anchored (area : List Byte) (sigp : ℕ) : Prop :=
  Signature area sigp ∧
    (area.drop (sigp + entryAnchorOffset)).take smbiosEntryAnchor.length = smbiosEntryAnchor

/-- The length that an entry point declares. -/
def entryLen (area : List Byte) (sigp : ℕ) : ℕ := (area.getD (sigp + entryLenOffset) 0).toNat

/-- The bytes of an entry point over its declared length sum to 0. -/
def ChecksumOk (area : List Byte) (sigp : ℕ) : Prop :=
  (((area.drop sigp).take (entryLen area sigp)).map BitVec.toNat).sum % 256 = 0

instance (area : List Byte) (sigp : ℕ) : Decidable (ChecksumOk area sigp) :=
  inferInstanceAs (Decidable (_ = _))

/-- A paragraph of the area. -/
def Paragraph (sigp : ℕ) : Prop := sigp % smbiosAreaAlign = 0 ∧ sigp < smbiosAreaLen

/-- The first entry point of the area. -/
structure FirstEntry (area : List Byte) (sigp : ℕ) : Prop where
  paragraph : Paragraph sigp
  anchored : Anchored area sigp
  first : ∀ q, Paragraph q → Anchored area q → sigp ≤ q

/-- The table of an entry point, if it can be mapped. -/
def tableOf (mem : PhysMem) (area : List Byte) (sigp : ℕ) : Option (List Byte) :=
  mem.map (leValue ((area.drop (sigp + entryPtrOffset)).take 4))
    (leValue ((area.drop (sigp + entryTlenOffset)).take 2))

/-- What stands behind the first two null bytes. -/
def BehindNulls (p rest : List Byte) : Prop :=
  ∃ i, (p[i]? = some 0 ∧ p[i + 1]? = some 0 ∧ rest = p.drop (i + 2)) ∧
    ∀ j < i, ¬ (p[j]? = some 0 ∧ p[j + 1]? = some 0)

/-- The structure at the front is one of the wanted kind. -/
def Wanted (type : InterfaceType) (p : List Byte) : Prop :=
  p[0]? = some devInfoSig ∧ p[devInfoTypeOffset]? = some type.code

/-- It is none, and that can be told from the bytes that are there. -/
def Unwanted (type : InterfaceType) (p : List Byte) : Prop :=
  ¬ Wanted type p ∧ (p[0]? = some devInfoSig → devInfoTypeOffset < p.length)

/-- The first structure of the wanted kind in a table: all structures in front of it are complete, and so
    is its formatted part. -/
inductive FirstMatch (type : InterfaceType) : List Byte → List Byte → Prop where
  | here {p : List Byte} {size : Byte} (hwanted : Wanted type p)
      (hsize : p[devInfoLenOffset]? = some size) (hfits : size.toNat ≤ p.length) :
      FirstMatch type p (p.take size.toNat)
  | next {p rest s : List Byte} {size : Byte} (hunwanted : Unwanted type p)
      (hsize : p[devInfoLenOffset]? = some size) (hnulls : BehindNulls (p.drop size.toNat) rest)
      (hrest : FirstMatch type rest s) : FirstMatch type p s

/-! ### Single reads -/

section Reads
variable {p area : List Byte} {i n sigp : ℕ} {b : Byte} {mem : PhysMem} {type : InterfaceType}

theorem byteAt_eq_ok : byteAt p i = .ok b ↔ p[i]? = some b := by
  rw [byteAt]
  cases p[i]? <;> simp

theorem byteAt_of_le (h : p.length ≤ i) : byteAt p i = .error .outside := by
  rw [byteAt, List.getElem?_eq_none h]

theorem byteAt_of_lt (h : i < p.length) : byteAt p i = .ok (p.getD i 0) := by
  simp [byteAt, h]

theorem bytesAt_fits (h : i + n ≤ p.length) : bytesAt p i n = .ok ((p.drop i).take n) := if_pos h

theorem bytesAt_outside (h : ¬ i + n ≤ p.length) : bytesAt p i n = .error .outside := if_neg h

/-! ### The walk -/

/-- A test of a structure ends with an answer, or needs a byte that is not there. -/
theorem isIpmiDevInfo_cases (type : InterfaceType) (hp : p ≠ []) :
    (Wanted type p ∧ isIpmiDevInfo type p = .ok true) ∨
      (Unwanted type p ∧ isIpmiDevInfo type p = .ok false) ∨
      (¬ Wanted type p ∧ ¬ Unwanted type p ∧ isIpmiDevInfo type p = .error .outside) := by
  obtain ⟨sig, hsig0⟩ : ∃ sig, p[0]? = some sig := ⟨_, List.getElem?_eq_getElem (List.length_pos_iff.mpr hp)⟩
  simp only [isIpmiDevInfo, Wanted, Unwanted, byteAt, hsig0, ok_bind]
  by_cases hsig : sig = devInfoSig
  · rw [if_neg (not_not.mpr hsig), hsig]
    cases h4 : p[devInfoTypeOffset]? with
    | none =>
      have hlen := List.getElem?_eq_none_iff.mp h4
      refine Or.inr (Or.inr ⟨(nomatch ·.2), fun h => ?_, rfl⟩)
      have hlt := h.2 rfl
      omega
    | some code =>
      have hlen := (List.getElem?_eq_some_iff.mp h4).1
      by_cases hcode : code = type.code
      · exact Or.inl ⟨⟨rfl, congrArg some hcode⟩, congrArg Except.ok (decide_eq_true hcode)⟩
      · exact Or.inr (Or.inl ⟨⟨fun h => hcode (Option.some.inj h.2), fun _ => hlen⟩,
          congrArg Except.ok (decide_eq_false hcode)⟩)
  · rw [if_pos hsig]
    exact Or.inr (Or.inl ⟨⟨fun h => hsig (Option.some.inj h.1), fun h =>
      absurd (Option.some.inj h) hsig⟩, rfl⟩)

theorem behindNulls_unique {rest rest' : List Byte} (h : BehindNulls p rest)
    (h' : BehindNulls p rest') : rest = rest' := by
  obtain ⟨i, ⟨h0, h1, rfl⟩, hfirst⟩ := h
  obtain ⟨j, ⟨h0', h1', rfl⟩, hfirst'⟩ := h'
  rcases lt_trichotomy i j with hlt | rfl | hgt
  · exact absurd ⟨h0, h1⟩ (hfirst' i hlt)
  · rfl
  · exact absurd ⟨h0', h1'⟩ (hfirst j hgt)

/-- The nulls of a buffer that does not begin with two. -/
theorem behindNulls_cons {a b : Byte} {tail rest : List Byte} (hne : a ≠ 0 ∨ b ≠ 0) :
    BehindNulls (a :: b :: tail) rest ↔ BehindNulls (b :: tail) rest := by
  constructor
  · rintro ⟨i, ⟨h0, h1, hrest⟩, hfirst⟩
    cases i with
    | zero =>
      have ha : a = 0 := Option.some.inj h0
      have hb : b = 0 := Option.some.inj h1
      exact (hne.elim (· ha) (· hb)).elim
    | succ i =>
      exact ⟨i, ⟨h0, h1, hrest⟩, fun j hj => hfirst (j + 1) (Nat.succ_lt_succ hj)⟩
  · rintro ⟨i, ⟨h0, h1, hrest⟩, hfirst⟩
    refine ⟨i + 1, ⟨h0, h1, hrest⟩, fun j hj => ?_⟩
    cases j with
    | zero =>
      rintro ⟨h0', h1'⟩
      have ha : a = 0 := Option.some.inj h0'
      have hb : b = 0 := Option.some.inj h1'
      exact hne.elim (· ha) (· hb)
    | succ j => exact hfirst j (Nat.lt_of_succ_lt_succ hj)

/-- The inner loop finds the two null bytes, or runs over the end. -/
theorem skipStrings_cases : ∀ p : List Byte,
    (∃ rest, BehindNulls p rest ∧ skipStrings p = .ok rest) ∨
      ((∀ rest, ¬ BehindNulls p rest) ∧ skipStrings p = .error .outside)
  | [] => Or.inr ⟨fun rest ⟨_, ⟨h, _⟩, _⟩ => by simp at h, rfl⟩
  | [_] => Or.inr ⟨fun rest ⟨_, ⟨_, h, _⟩, _⟩ => by simp at h, rfl⟩
  | a :: b :: tail => by
    rw [skipStrings]
    by_cases hne : a ≠ 0 ∨ b ≠ 0
    · rw [if_pos hne]
      rcases skipStrings_cases (b :: tail) with ⟨rest, hbehind, hskip⟩ | ⟨hnone, hskip⟩
      · exact Or.inl ⟨rest, (behindNulls_cons hne).mpr hbehind, hskip⟩
      · exact Or.inr ⟨fun rest h => hnone rest ((behindNulls_cons hne).mp h), hskip⟩
    · rw [if_neg hne]
      obtain ⟨ha, hb⟩ := not_or.mp hne
      rw [not_not.mp ha, not_not.mp hb]
      exact Or.inl ⟨tail, ⟨0, ⟨rfl, rfl, rfl⟩, fun j hj => absurd hj (Nat.not_lt_zero j)⟩, rfl⟩

theorem FirstMatch.size {s : List Byte} (h : FirstMatch type p s) :
    ∃ size, p[devInfoLenOffset]? = some size := by
  cases h with
  | here hwanted hsize hfits => exact ⟨_, hsize⟩
  | next hunwanted hsize hnulls hrest => exact ⟨_, hsize⟩

/-- A structure of the wanted kind is the first one. -/
theorem firstMatch_wanted {s : List Byte} {size : Byte} (hwanted : Wanted type p)
    (hsize : p[devInfoLenOffset]? = some size) :
    FirstMatch type p s ↔ size.toNat ≤ p.length ∧ s = p.take size.toNat := by
  constructor
  · intro h
    cases h with
    | here _ hsize' hfits =>
      obtain rfl := Option.some.inj (hsize.symm.trans hsize')
      exact ⟨hfits, rfl⟩
    | next hunwanted _ _ _ => exact absurd hwanted hunwanted.1
  · rintro ⟨hfits, rfl⟩
    exact .here hwanted hsize hfits

/-- Behind another one it stands behind its strings. -/
theorem firstMatch_unwanted {s : List Byte} {size : Byte} (hunwanted : Unwanted type p)
    (hsize : p[devInfoLenOffset]? = some size) :
    FirstMatch type p s ↔ ∃ rest, BehindNulls (p.drop size.toNat) rest ∧ FirstMatch type rest s := by
  constructor
  · intro h
    cases h with
    | here hwanted _ _ => exact absurd hwanted hunwanted.1
    | next _ hsize' hnulls hrest =>
      obtain rfl := Option.some.inj (hsize.symm.trans hsize')
      exact ⟨_, hnulls, hrest⟩
  · rintro ⟨rest, hnulls, hrest⟩
    exact .next hunwanted hsize hnulls hrest

theorem walkTable_wanted (hp : p ≠ []) (htest : isIpmiDevInfo type p = .ok true) :
    walkTable type p n = (bytesAt p 0 n).map some := by
  rw [walkTable, if_neg hp, htest]

theorem walkTable_untold {e : LocateStop} (hp : p ≠ []) (htest : isIpmiDevInfo type p = .error e) :
    walkTable type p n = .error e := by
  rw [walkTable, if_neg hp, htest]

theorem walkTable_next {rest : List Byte} (hp : p ≠ []) (htest : isIpmiDevInfo type p = .ok false)
    (hskip : skipStrings (p.drop n) = .ok rest) : walkTable type p n =
      match byteAt rest devInfoLenOffset with
      | .error e => .error e
      | .ok size => walkTable type rest size.toNat := by
  rw [walkTable, if_neg hp, htest]
  dsimp only
  split
  · rename_i e herr
    rw [hskip] at herr
    cases herr
  · rename_i next hnext
    rw [hskip] at hnext
    cases hnext
    rfl

theorem walkTable_stuck {e : LocateStop} (hp : p ≠ []) (htest : isIpmiDevInfo type p = .ok false)
    (hskip : skipStrings (p.drop n) = .error e) : walkTable type p n = .error e := by
  rw [walkTable, if_neg hp, htest]
  dsimp only
  split
  · rename_i e' herr
    rw [hskip] at herr
    cases herr
    rfl
  · rename_i next hnext
    rw [hskip] at hnext
    cases hnext

/-- The walk copies the first structure of the wanted kind, and else runs over the end of the table. -/
theorem walkTable_cases (type : InterfaceType) (p : List Byte) (size : Byte)
    (hsize : p[devInfoLenOffset]? = some size) :
    (∃ s, FirstMatch type p s ∧ walkTable type p size.toNat = .ok (some s)) ∨
      ((∀ s, ¬ FirstMatch type p s) ∧ walkTable type p size.toNat = .error .outside) := by
  have hp : p ≠ [] := by
    rintro rfl
    simp at hsize
  rcases isIpmiDevInfo_cases type hp with ⟨hwanted, htest⟩ | ⟨hunwanted, htest⟩ |
    ⟨hnot, hnot', htest⟩
  · rw [walkTable_wanted hp htest]
    by_cases hfits : size.toNat ≤ p.length
    · rw [bytesAt_fits (by omega)]
      exact Or.inl ⟨_, (firstMatch_wanted hwanted hsize).mpr ⟨hfits, rfl⟩, rfl⟩
    · rw [bytesAt_outside (by omega)]
      exact Or.inr ⟨fun s h => hfits ((firstMatch_wanted hwanted hsize).mp h).1, rfl⟩
  · rcases skipStrings_cases (p.drop size.toNat) with ⟨rest, hnulls, hskip⟩ | ⟨hnone, hskip⟩
    · have hlt : rest.length < p.length := by
        have hle := length_skipStrings hskip
        rw [List.length_drop] at hle
        omega
      have hiff : ∀ s, FirstMatch type p s ↔ FirstMatch type rest s := fun s =>
        (firstMatch_unwanted hunwanted hsize).trans ⟨fun ⟨rest', hnulls', h⟩ =>
          behindNulls_unique hnulls' hnulls ▸ h, fun h => ⟨rest, hnulls, h⟩⟩
      simp only [hiff]
      rw [walkTable_next hp htest hskip]
      cases hsize' : rest[devInfoLenOffset]? with
      | none =>
        rw [byteAt, hsize']
        refine Or.inr ⟨fun s h => ?_, rfl⟩
        obtain ⟨size', hsome⟩ := h.size
        rw [hsize'] at hsome
        cases hsome
      | some size' =>
        rw [byteAt, hsize']
        exact walkTable_cases type rest size' hsize'
    · rw [walkTable_stuck hp htest hskip]
      refine Or.inr ⟨fun s h => ?_, rfl⟩
      obtain ⟨rest, hnulls, -⟩ := (firstMatch_unwanted hunwanted hsize).mp h
      exact hnone rest hnulls
  · rw [walkTable_untold hp htest]
    refine Or.inr ⟨fun s h => ?_, rfl⟩
    cases h with
    | here hwanted _ _ => exact hnot hwanted
    | next hunwanted _ _ _ => exact hnot' hunwanted
termination_by p.length

end Reads

end FreeIpmi.Locate
