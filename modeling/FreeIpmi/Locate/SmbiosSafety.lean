import FreeIpmi.Locate.Smbios

/-! Which bytes the SMBIOS search reads, and what it succeeds from.

    The length of an entry point is believed, and its checksums are not looked at. The walk over the table
    reads the length of a structure before it compares the pointer with the end of the table, so that it
    leaves every table without a structure of the wanted kind. And the modifier is read from a copy that
    may end in front of it. -/

namespace FreeIpmi.Locate
open Calls LittleEndian

/-- The bytes that the test of an entry point reads are those of the area. -/
def EntryFits (area : List Byte) (sigp : ℕ) : Prop :=
  sigp + max (entryLen area sigp) entryAnchorCsumOffset ≤ smbiosAreaLen

/-- The register spacing of a structure is the reserved one. -/
def SpacingReserved (bufp : List Byte) : Prop :=
  (bufp.getD devInfoModifierOffset 0 >>> 6) &&& 0x3 = 0x03

instance (bufp : List Byte) : Decidable (SpacingReserved bufp) := inferInstanceAs (Decidable (_ = _))

/-- No byte outside of a buffer is read; and on success the checksum of the entry point is right, and the
    device is that of the first structure of the wanted kind. -/
structure LocateSound (mem : PhysMem) (type : InterfaceType) : Prop where
  inside : smbiosGetDeviceInfo mem type ≠ .error .outside
  success : ∀ info, smbiosGetDeviceInfo mem type = .ok info → ∃ area sigp table bufp,
    mem.map smbiosAreaStart smbiosAreaLen = some area ∧ FirstEntry area sigp ∧
      ChecksumOk area sigp ∧ tableOf mem area sigp = some table ∧ FirstMatch type table bufp ∧
        readDevInfo type bufp = .ok info

/-- Every signature up to the first entry point stands in front of as many bytes as it declares; and the
    table of the first entry point has a structure of the wanted kind with at least 17 bytes, whose
    register spacing is reserved if the checksum is wrong. -/
def WellFormed (mem : PhysMem) (type : InterfaceType) : Prop :=
  ∀ area, mem.map smbiosAreaStart smbiosAreaLen = some area →
    (∀ q, Paragraph q → Signature area q → (∀ sigp, FirstEntry area sigp → q ≤ sigp) →
      EntryFits area q) ∧
    ∀ sigp table, FirstEntry area sigp → tableOf mem area sigp = some table →
      ∃ bufp, FirstMatch type table bufp ∧ devInfoModifierOffset < bufp.length ∧
        (SpacingReserved bufp ∨ ChecksumOk area sigp)

section Entry
variable {mem : PhysMem} {type : InterfaceType} {area : List Byte} {sigp i : ℕ}

theorem paragraph_iff : Paragraph sigp ↔ ∃ j < 4096, sigp = 16 * j := by
  rw [Paragraph, smbiosAreaAlign, smbiosAreaLen]
  constructor
  · rintro ⟨hmod, hlt⟩
    exact ⟨sigp / 16, by omega, by omega⟩
  · rintro ⟨j, hj, rfl⟩
    omega

/-- A paragraph without the signature. -/
theorem isIpmiEntry_unsigned (harea : area.length = smbiosAreaLen) (hpara : Paragraph sigp)
    (hsig : ¬ Signature area sigp) : isIpmiEntry area sigp = .ok false := by
  obtain ⟨hmod, hlt⟩ := hpara
  have hfits : sigp + smbiosEntrySig.length ≤ area.length := by
    rw [harea]
    simp only [smbiosAreaAlign, smbiosAreaLen, smbiosEntrySig, List.length_cons,
      List.length_nil] at hmod hlt ⊢
    omega
  have hsig' : ¬ (area.drop sigp).take smbiosEntrySig.length = smbiosEntrySig := hsig
  rw [isIpmiEntry, bytesAt_fits hfits, ok_bind, if_pos hsig']
  rfl

/-- One with the signature. -/
theorem isIpmiEntry_signed (harea : area.length = smbiosAreaLen) (hpara : Paragraph sigp)
    (hsig : Signature area sigp) :
    (¬ EntryFits area sigp ∧ isIpmiEntry area sigp = .error .outside) ∨
      (EntryFits area sigp ∧ Anchored area sigp ∧ isIpmiEntry area sigp = .ok true) ∨
      (EntryFits area sigp ∧ ¬ Anchored area sigp ∧ isIpmiEntry area sigp = .ok false) := by
  obtain ⟨hmod, hlt⟩ := hpara
  rw [smbiosAreaAlign] at hmod
  rw [smbiosAreaLen] at hlt harea
  have hsig' : (area.drop sigp).take smbiosEntrySig.length = smbiosEntrySig := hsig
  have hlen : smbiosEntrySig.length = 4 := rfl
  have halen : smbiosEntryAnchor.length = 5 := rfl
  have hstart : isIpmiEntry area sigp = (do
      let entry ← bytesAt area sigp (entryLen area sigp)
      let _csumComputed := csum entry
      let anchor ← bytesAt area (sigp + entryAnchorOffset) smbiosEntryAnchor.length
      if anchor ≠ smbiosEntryAnchor then return false
      else
        let rest ← bytesAt area (sigp + entryAnchorCsumOffset)
          (entryLen area sigp - entryAnchorCsumOffset)
        let _csumComputed := csum rest
        return true) := by
    rw [isIpmiEntry, bytesAt_fits (by omega), ok_bind, if_neg (not_not.mpr hsig'),
      byteAt_of_lt (by rw [entryLenOffset]; omega), ok_bind]
    rfl
  rw [hstart]
  simp only [EntryFits, entryAnchorCsumOffset, smbiosAreaLen, Anchored, entryAnchorOffset, halen]
  by_cases hentry : sigp + entryLen area sigp ≤ area.length
  · rw [bytesAt_fits hentry, ok_bind]
    by_cases hanchor : sigp + 0x10 + 5 ≤ area.length
    · rw [bytesAt_fits hanchor, ok_bind]
      refine Or.inr ?_
      by_cases heq : (area.drop (sigp + 0x10)).take 5 = smbiosEntryAnchor
      · rw [if_neg (not_not.mpr heq), bytesAt_fits (by omega)]
        exact Or.inl ⟨by omega, ⟨hsig, heq⟩, rfl⟩
      · rw [if_pos heq]
        exact Or.inr ⟨by omega, fun h => heq h.2, rfl⟩
    · rw [bytesAt_outside hanchor]
      exact Or.inl ⟨by omega, rfl⟩
  · rw [bytesAt_outside hentry]
    exact Or.inl ⟨by omega, rfl⟩

/-- The table of an entry point: it is not mapped, or its first structure is copied, or the walk runs over
    its end. -/
theorem readEntry_cases (mem : PhysMem) (type : InterfaceType) (harea : area.length = smbiosAreaLen)
    (hpara : Paragraph sigp) (hfits : EntryFits area sigp) :
    (tableOf mem area sigp = none ∧ readEntry mem type area sigp = .error (.errnum .mapping)) ∨
      ∃ table, tableOf mem area sigp = some table ∧
        ((∃ s, FirstMatch type table s ∧ readEntry mem type area sigp = .ok (some s)) ∨
          ((∀ s, ¬ FirstMatch type table s) ∧ readEntry mem type area sigp = .error .outside)) := by
  obtain ⟨hmod, hlt⟩ := hpara
  simp only [EntryFits, entryAnchorCsumOffset, smbiosAreaAlign, smbiosAreaLen] at hmod hlt hfits harea
  have hread : readEntry mem type area sigp =
      (tableOf mem area sigp).elim (.error (.errnum .mapping)) fun pmemTable =>
        byteAt pmemTable devInfoLenOffset >>= fun size => walkTable type pmemTable size.toNat := by
    simp only [entryTlenOffset, entryPtrOffset, readEntry]
    rw [bytesAt_fits (by omega), ok_bind, bytesAt_fits (by omega), ok_bind]
    simp only [tableOf, entryTlenOffset, entryPtrOffset]
    split
    · rename_i hnone
      rw [hnone]
      rfl
    · rename_i table htable
      rw [htable]
      rfl
  rw [hread]
  cases tableOf mem area sigp with
  | none => exact Or.inl ⟨rfl, rfl⟩
  | some table =>
    refine Or.inr ⟨table, rfl, ?_⟩
    rw [Option.elim_some]
    cases hsize : table[devInfoLenOffset]? with
    | none =>
      rw [byteAt, hsize]
      refine Or.inr ⟨fun s h => ?_, rfl⟩
      obtain ⟨size, hsome⟩ := h.size
      rw [hsize] at hsome
      cases hsome
    | some size =>
      rw [byteAt, hsize]
      exact walkTable_cases type table size hsize

/-- The search from a paragraph on: it fails at a signature that stands too near to the end, or takes the
    first entry point, or there is none. -/
inductive ScanResult (mem : PhysMem) (type : InterfaceType) (area : List Byte) (i : ℕ) :
    Except LocateStop (List Byte) → Prop where
  | tooNear {j : ℕ} (hij : i ≤ j) (hj : j < 4096) (hsig : Signature area (16 * j))
      (hfits : ¬ EntryFits area (16 * j))
      (hbefore : ∀ k, i ≤ k → k < j → ¬ Anchored area (16 * k)) :
      ScanResult mem type area i (.error .outside)
  | entry {j : ℕ} {r : Except LocateStop (List Byte)} (hij : i ≤ j) (hj : j < 4096)
      (hanchored : Anchored area (16 * j))
      (hbefore : ∀ k, i ≤ k → k < j → ¬ Anchored area (16 * k))
      (hfits : ∀ k, i ≤ k → k ≤ j → Signature area (16 * k) → EntryFits area (16 * k))
      (hread : readEntry mem type area (16 * j) = r.map some) : ScanResult mem type area i r
  | none (hnone : ∀ k, i ≤ k → k < 4096 → ¬ Anchored area (16 * k))
      (hfits : ∀ k, i ≤ k → k < 4096 → Signature area (16 * k) → EntryFits area (16 * k)) :
      ScanResult mem type area i (.error (.errnum .systemError))

/-- A paragraph that is passed. -/
theorem ScanResult.pass {r : Except LocateStop (List Byte)} (hno : ¬ Anchored area (16 * i))
    (hfit : Signature area (16 * i) → EntryFits area (16 * i))
    (h : ScanResult mem type area (i + 1) r) : ScanResult mem type area i r := by
  have hhere : ∀ {P : ℕ → Prop} {k : ℕ}, P i → (i + 1 ≤ k → P k) → i ≤ k → P k := by
    intro P k hi hk hle
    rcases Nat.eq_or_lt_of_le hle with rfl | hlt
    · exact hi
    · exact hk hlt
  cases h with
  | tooNear hij hj hsig hfits hbefore =>
    exact .tooNear (by omega) hj hsig hfits fun k hk hkj =>
      hhere (P := fun k => ¬ Anchored area (16 * k)) hno (fun h => hbefore k h hkj) hk
  | entry hij hj hanchored hbefore hfits hread =>
    refine .entry (by omega) hj hanchored (fun k hk hkj => ?_) (fun k hk hkj => ?_) hread
    · exact hhere (P := fun k => ¬ Anchored area (16 * k)) hno (fun h => hbefore k h hkj) hk
    · exact hhere (P := fun k => Signature area (16 * k) → EntryFits area (16 * k)) hfit
        (fun h => hfits k h hkj) hk
  | none hnone hfits =>
    refine .none (fun k hk hlt => ?_) (fun k hk hlt => ?_)
    · exact hhere (P := fun k => ¬ Anchored area (16 * k)) hno (fun h => hnone k h hlt) hk
    · exact hhere (P := fun k => Signature area (16 * k) → EntryFits area (16 * k)) hfit
        (fun h => hfits k h hlt) hk

theorem scanArea_result (mem : PhysMem) (type : InterfaceType)
    (harea : area.length = smbiosAreaLen) : ∀ (rounds i : ℕ), i + rounds = 4096 →
      ScanResult mem type area i (scanArea mem type area rounds (16 * i))
  | 0, i, hi => .none (fun k hk hlt => by omega) (fun k hk hlt => by omega)
  | rounds + 1, i, hi => by
    have hpara : Paragraph (16 * i) := paragraph_iff.mpr ⟨i, by omega, rfl⟩
    have hnext := scanArea_result mem type harea rounds (i + 1) (by omega)
    have hstep : 16 * i + smbiosAreaAlign = 16 * (i + 1) := rfl
    rw [scanArea, hstep]
    by_cases hsig : Signature area (16 * i)
    · rcases isIpmiEntry_signed harea hpara hsig with ⟨hfits, htest⟩ | ⟨hfits, hanchored, htest⟩ |
        ⟨hfits, hno, htest⟩
      · rw [htest]
        exact .tooNear le_rfl (by omega) hsig hfits fun k hk hlt => absurd hlt (by omega)
      · rw [htest]
        have hbefore : ∀ k, i ≤ k → k < i → ¬ Anchored area (16 * k) :=
          fun k hk hlt => absurd hlt (by omega)
        have hall : ∀ k, i ≤ k → k ≤ i → Signature area (16 * k) → EntryFits area (16 * k) := by
          intro k hk hle _
          obtain rfl := le_antisymm hk hle
          exact hfits
        refine .entry le_rfl (by omega) hanchored hbefore hall ?_
        rcases readEntry_cases mem type harea hpara hfits with ⟨-, hread⟩ |
          ⟨table, -, ⟨s, -, hread⟩ | ⟨-, hread⟩⟩ <;> rw [hread] <;> rfl
      · rw [htest]
        exact hnext.pass hno fun _ => hfits
    · rw [isIpmiEntry_unsigned harea hpara hsig]
      exact hnext.pass (fun h => hsig h.1) fun h => absurd h hsig

end Entry

/-! ### The copy -/

section Copy
variable {type : InterfaceType} {p s : List Byte}

/-- What a copied structure begins with. -/
theorem FirstMatch.copied (h : FirstMatch type p s) :
    (devInfoTypeOffset < s.length → s[devInfoTypeOffset]? = some type.code) ∧
      (devInfoLenOffset < s.length → ∃ size : Byte, s[devInfoLenOffset]? = some size ∧
        size.toNat = s.length) := by
  induction h with
  | @here p size hwanted hsize hfits =>
    have hlen : (p.take size.toNat).length = size.toNat := List.length_take_of_le hfits
    rw [hlen]
    constructor
    · intro hlt
      rw [List.getElem?_take_of_lt hlt]
      exact hwanted.2
    · intro hlt
      refine ⟨size, ?_, rfl⟩
      rw [List.getElem?_take_of_lt hlt]
      exact hsize
  | next _ _ _ _ ih => exact ih

/-- The address that a structure has. -/
def addressOf (bufp : List Byte) : BitVec 64 :=
  BitVec.ofNat 64 (leValue ((bufp.drop devInfoAddressOffset).take 8))

/-- The device of a structure, with its address and its register spacing. -/
def deviceOf (type : InterfaceType) (bufp : List Byte) (strobed : BitVec 64 × Byte) : LocateInfo where
  ipmiVersionMajor := (bufp.getD devInfoVerOffset 0 >>> 4) &&& 0xf
  ipmiVersionMinor := bufp.getD devInfoVerOffset 0 &&& 0xf
  locateDriverType := locateDriverSmbios
  interfaceType := type
  driverDevice := if type = .ssif then "/dev/i2c-0" else ""
  addressSpaceId :=
    if type = .ssif then addressSpaceIdSmbus
    else if addressOf bufp &&& 1 ≠ 0 then addressSpaceIdSystemIo
    else addressSpaceIdSystemMemory
  driverAddress :=
    if type = .ssif then (bufp.getD devInfoI2cOffset 0).setWidth 64 else strobed.1
  registerSpacing := strobed.2

/-- The fields in front of the modifier. -/
theorem readDevInfo_front (h : FirstMatch type p s) (hlen : devInfoModifierOffset ≤ s.length) :
    (∃ size, byteAt s devInfoLenOffset = .ok size ∧ devInfoModifierOffset ≤ size.toNat) ∧
      readDevInfo type s = (do
        let strobed ← readModifier s (addressOf s)
        return deviceOf type s strobed) := by
  obtain ⟨htype, hsize⟩ := h.copied
  have hoffsets : devInfoLenOffset = 1 ∧ devInfoTypeOffset = 4 ∧ devInfoVerOffset = 5 ∧
      devInfoI2cOffset = 6 ∧ devInfoAddressOffset = 8 ∧ devInfoModifierOffset = 16 :=
    ⟨rfl, rfl, rfl, rfl, rfl, rfl⟩
  obtain ⟨size, hsize, hsizeLen⟩ := hsize (by omega)
  refine ⟨⟨size, byteAt_eq_ok.mpr hsize, by omega⟩, ?_⟩
  rw [readDevInfo, byteAt_of_lt (by omega), ok_bind, byteAt_eq_ok.mpr (htype (by omega)), ok_bind,
    if_neg (not_not.mpr rfl), bytesAt_fits (by omega), ok_bind]
  refine congrArg _ (funext fun strobed => ?_)
  rw [byteAt_of_lt (show devInfoI2cOffset < s.length by omega)]
  by_cases hssif : type = .ssif
  · simp only [if_pos hssif, deviceOf]
    rfl
  · simp only [if_neg hssif, deviceOf]
    rfl

/-- A copy of at most 16 bytes is read behind its end. -/
theorem readDevInfo_short (h : FirstMatch type p s) (hlen : s.length ≤ devInfoModifierOffset) :
    readDevInfo type s = .error .outside := by
  by_cases h16 : devInfoModifierOffset ≤ s.length
  · obtain ⟨⟨size, hsize, hge⟩, hread⟩ := readDevInfo_front h h16
    rw [hread, readModifier, hsize, ok_bind, if_pos hge, byteAt_of_le hlen, error_bind, error_bind]
  · have hoffsets : devInfoTypeOffset = 4 ∧ devInfoVerOffset = 5 ∧ devInfoAddressOffset = 8 ∧
        devInfoModifierOffset = 16 := ⟨rfl, rfl, rfl, rfl⟩
    rw [readDevInfo]
    by_cases h5 : s.length ≤ devInfoVerOffset
    · rw [byteAt_of_le h5, error_bind]
    · rw [byteAt_of_lt (by omega), ok_bind, byteAt_eq_ok.mpr (h.copied.1 (by omega)), ok_bind,
        if_neg (not_not.mpr rfl), bytesAt_outside (by omega), error_bind]

/-- Two bits say how the registers are spaced. -/
theorem smbiosRegisterSpacing_cases (modifier : Byte) :
    ((modifier >>> 6) &&& 0x3 = 0x03 ∧
        smbiosRegisterSpacing ((modifier >>> 6) &&& 0x3) = .error (.errnum .systemError)) ∨
      ((modifier >>> 6) &&& 0x3 ≠ 0x03 ∧
        ∃ spacing, smbiosRegisterSpacing ((modifier >>> 6) &&& 0x3) = .ok spacing) := by
  have hle : ((modifier >>> 6) &&& 0x3).toNat ≤ 3 := by
    rw [BitVec.toNat_and]
    exact Nat.and_le_right
  generalize (modifier >>> 6) &&& 0x3 = boundary at hle ⊢
  have hcases : boundary = 0 ∨ boundary = 1 ∨ boundary = 2 ∨ boundary = 3 := by
    simp only [BitVec.toNat_eq]
    show boundary.toNat = 0 ∨ boundary.toNat = 1 ∨ boundary.toNat = 2 ∨ boundary.toNat = 3
    omega
  rcases hcases with rfl | rfl | rfl | rfl
  · exact Or.inr ⟨by decide, _, rfl⟩
  · exact Or.inr ⟨by decide, _, rfl⟩
  · exact Or.inr ⟨by decide, _, rfl⟩
  · exact Or.inl ⟨rfl, rfl⟩

/-- A longer one is not, and makes a device unless the register spacing is the reserved one. -/
theorem readDevInfo_long (h : FirstMatch type p s) (hlen : devInfoModifierOffset < s.length) :
    (SpacingReserved s ∧ readDevInfo type s = .error (.errnum .systemError)) ∨
      (¬ SpacingReserved s ∧ ∃ info, readDevInfo type s = .ok info) := by
  obtain ⟨⟨size, hsize, hge⟩, hread⟩ := readDevInfo_front h hlen.le
  rw [hread, readModifier, hsize, ok_bind, if_pos hge, byteAt_of_lt hlen, ok_bind, SpacingReserved]
  rcases smbiosRegisterSpacing_cases (s.getD devInfoModifierOffset 0) with ⟨hres, hcall⟩ |
    ⟨hres, spacing, hcall⟩
  · rw [hcall]
    exact Or.inl ⟨hres, rfl⟩
  · rw [hcall]
    exact Or.inr ⟨hres, _, rfl⟩

end Copy

/-! ### The whole search -/

section Search
variable {mem : PhysMem} {type : InterfaceType} {area : List Byte} {j : ℕ}

theorem map_some_inj {r r' : Except LocateStop (List Byte)} (h : r.map some = r'.map some) :
    r = r' := by
  cases r <;> cases r' <;> cases h <;> rfl

theorem firstEntry_unique {p q : ℕ} (hp : FirstEntry area p) (hq : FirstEntry area q) : p = q :=
  le_antisymm (hp.first q hq.paragraph hq.anchored) (hq.first p hp.paragraph hp.anchored)

theorem firstEntry_of_before (hj : j < 4096) (hanchored : Anchored area (16 * j))
    (hbefore : ∀ k, 0 ≤ k → k < j → ¬ Anchored area (16 * k)) : FirstEntry area (16 * j) := by
  refine ⟨paragraph_iff.mpr ⟨j, hj, rfl⟩, hanchored, ?_⟩
  intro q hq hanchored'
  obtain ⟨k, -, rfl⟩ := paragraph_iff.mp hq
  by_contra hlt
  exact hbefore k (Nat.zero_le _) (by omega) hanchored'

theorem firstMatch_unique {p s s' : List Byte} (h : FirstMatch type p s)
    (h' : FirstMatch type p s') : s' = s := by
  induction h with
  | here hwanted hsize _ => exact ((firstMatch_wanted hwanted hsize).mp h').2
  | next hunwanted hsize hnulls _ ih =>
    obtain ⟨rest', hnulls', hrest'⟩ := (firstMatch_unwanted hunwanted hsize).mp h'
    obtain rfl := behindNulls_unique hnulls hnulls'
    exact ih hrest'

/-- A call that fails by a code of its own. -/
theorem LocateSound.of_errnum {e : LocateErr} (h : smbiosGetDeviceInfo mem type = .error (.errnum e)) :
    LocateSound mem type := by
  refine ⟨fun hout => ?_, fun info hok => ?_⟩
  · rw [h] at hout
    cases hout
  · rw [h] at hok
    cases hok

theorem smbiosGetDeviceInfo_mapped (type : InterfaceType)
    (hmap : mem.map smbiosAreaStart smbiosAreaLen = some area) :
    smbiosGetDeviceInfo mem type = scanArea mem type area 4096 (16 * 0) >>= readDevInfo type := by
  rw [smbiosGetDeviceInfo, copyIpmiDevInfo, hmap]
  rfl

/-- An area without an entry point that can be told. -/
theorem not_wellFormed_tooNear (hmap : mem.map smbiosAreaStart smbiosAreaLen = some area)
    (hj : j < 4096) (hsig : Signature area (16 * j)) (hfits : ¬ EntryFits area (16 * j))
    (hbefore : ∀ k, 0 ≤ k → k < j → ¬ Anchored area (16 * k)) : ¬ WellFormed mem type := by
  intro h
  refine hfits ((h area hmap).1 _ (paragraph_iff.mpr ⟨j, hj, rfl⟩) hsig fun sigp hfirst => ?_)
  obtain ⟨k, -, rfl⟩ := paragraph_iff.mp hfirst.paragraph
  by_contra hlt
  exact hbefore k (Nat.zero_le _) (by omega) hfirst.anchored

/-- With the first entry point at hand the condition is one on its table. -/
theorem wellFormed_entry {sigp : ℕ} (hmap : mem.map smbiosAreaStart smbiosAreaLen = some area)
    (hfirst : FirstEntry area sigp)
    (hfits : ∀ q, Paragraph q → Signature area q → q ≤ sigp → EntryFits area q) :
    WellFormed mem type ↔ ∀ table, tableOf mem area sigp = some table →
      ∃ bufp, FirstMatch type table bufp ∧ devInfoModifierOffset < bufp.length ∧
        (SpacingReserved bufp ∨ ChecksumOk area sigp) := by
  constructor
  · intro h table htable
    exact (h area hmap).2 sigp table hfirst htable
  · intro h area' hmap'
    obtain rfl := Option.some.inj (hmap.symm.trans hmap')
    refine ⟨fun q hq hsig hle => hfits q hq hsig (hle sigp hfirst), fun sigp' table hfirst' => ?_⟩
    obtain rfl := firstEntry_unique hfirst hfirst'
    exact h table

/-- The call that has copied the first structure of the wanted kind. -/
theorem locateSound_copied {sigp : ℕ} {table bufp : List Byte}
    (hmap : mem.map smbiosAreaStart smbiosAreaLen = some area) (hfirst : FirstEntry area sigp)
    (htable : tableOf mem area sigp = some table) (hmatch : FirstMatch type table bufp)
    (hcall : smbiosGetDeviceInfo mem type = readDevInfo type bufp) :
    LocateSound mem type ↔ devInfoModifierOffset < bufp.length ∧
      (SpacingReserved bufp ∨ ChecksumOk area sigp) := by
  by_cases hlen : devInfoModifierOffset < bufp.length
  · rcases readDevInfo_long hmatch hlen with ⟨hreserved, hread⟩ | ⟨hreserved, info, hread⟩
    · exact ⟨fun _ => ⟨hlen, Or.inl hreserved⟩, fun _ => .of_errnum (hcall.trans hread)⟩
    · constructor
      · intro h
        obtain ⟨area', sigp', -, -, hmap', hfirst', hsum, -⟩ := h.success info (hcall.trans hread)
        obtain rfl := Option.some.inj (hmap.symm.trans hmap')
        obtain rfl := firstEntry_unique hfirst hfirst'
        exact ⟨hlen, Or.inr hsum⟩
      · rintro ⟨-, hor⟩
        have hsum := hor.resolve_left hreserved
        refine ⟨fun hout => ?_, fun info' hok => ?_⟩
        · rw [hcall, hread] at hout
          cases hout
        · exact ⟨area, sigp, table, bufp, hmap, hfirst, hsum, htable, hmatch, hcall.symm.trans hok⟩
  · refine ⟨fun h => absurd ?_ h.inside, fun h => absurd h.1 hlen⟩
    exact hcall.trans (readDevInfo_short hmatch (not_lt.mp hlen))

/-- The call that takes the first entry point. -/
theorem locateSound_entry {sigp : ℕ} {r : Except LocateStop (List Byte)}
    (hmap : mem.map smbiosAreaStart smbiosAreaLen = some area) (hfirst : FirstEntry area sigp)
    (hfits : ∀ q, Paragraph q → Signature area q → q ≤ sigp → EntryFits area q)
    (hread : readEntry mem type area sigp = r.map some)
    (hcall : smbiosGetDeviceInfo mem type = r >>= readDevInfo type) :
    LocateSound mem type ↔ WellFormed mem type := by
  rw [wellFormed_entry hmap hfirst hfits]
  have hfit := hfits sigp hfirst.paragraph hfirst.anchored.1 le_rfl
  rcases readEntry_cases mem type (mem.length hmap) hfirst.paragraph hfit with
    ⟨hnone, hentry⟩ | ⟨table, htable, ⟨s, hmatch, hentry⟩ | ⟨hnomatch, hentry⟩⟩
  · have hr : r = .error (.errnum .mapping) := map_some_inj (hread.symm.trans hentry)
    rw [hr] at hcall
    refine ⟨fun _ table h => ?_, fun _ => .of_errnum hcall⟩
    rw [hnone] at h
    cases h
  · have hr : r = .ok s := map_some_inj (hread.symm.trans hentry)
    rw [hr] at hcall
    rw [locateSound_copied hmap hfirst htable hmatch hcall]
    constructor
    · intro h table' htable'
      obtain rfl := Option.some.inj (htable.symm.trans htable')
      exact ⟨s, hmatch, h⟩
    · intro h
      obtain ⟨bufp, hmatch', hbufp⟩ := h table htable
      rwa [firstMatch_unique hmatch hmatch'] at hbufp
  · have hr : r = .error .outside := map_some_inj (hread.symm.trans hentry)
    rw [hr] at hcall
    refine ⟨fun h => absurd hcall h.inside, fun h => ?_⟩
    obtain ⟨bufp, hmatch, -⟩ := h table htable
    exact absurd hmatch (hnomatch bufp)

/-- The call that could map the area. -/
theorem locateSound_mapped (hmap : mem.map smbiosAreaStart smbiosAreaLen = some area) :
    LocateSound mem type ↔ WellFormed mem type := by
  have hcall := smbiosGetDeviceInfo_mapped type hmap
  have hscan := scanArea_result mem type (mem.length hmap) 4096 0 (by omega)
  generalize scanArea mem type area 4096 (16 * 0) = r at hcall hscan
  cases hscan with
  | tooNear _ hj hsig hfits hbefore =>
    exact ⟨fun h => absurd hcall h.inside, fun h =>
      absurd h (not_wellFormed_tooNear hmap hj hsig hfits hbefore)⟩
  | entry _ hj hanchored hbefore hfits hread =>
    refine locateSound_entry hmap (firstEntry_of_before hj hanchored hbefore) ?_ hread hcall
    intro q hq hsig hle
    obtain ⟨k, -, rfl⟩ := paragraph_iff.mp hq
    exact hfits k (Nat.zero_le _) (by omega) hsig
  | none hnone hfits =>
    refine ⟨fun _ area' hmap' => ?_, fun _ => .of_errnum hcall⟩
    obtain rfl := Option.some.inj (hmap.symm.trans hmap')
    refine ⟨fun q hq hsig _ => ?_, fun sigp table hfirst => ?_⟩
    · obtain ⟨k, hk, rfl⟩ := paragraph_iff.mp hq
      exact hfits k (Nat.zero_le _) hk hsig
    · obtain ⟨k, hk, rfl⟩ := paragraph_iff.mp hfirst.paragraph
      exact absurd hfirst.anchored (hnone k (Nat.zero_le _) hk)

/-- The search keeps to its buffers, and succeeds from a checked entry point and the first structure of the
    wanted kind, exactly when memory is well formed. -/
theorem locateSound_iff (mem : PhysMem) (type : InterfaceType) :
    LocateSound mem type ↔ WellFormed mem type := by
  cases hmap : mem.map smbiosAreaStart smbiosAreaLen with
  | none =>
    have hcall : smbiosGetDeviceInfo mem type = .error (.errnum .mapping) := by
      rw [smbiosGetDeviceInfo, copyIpmiDevInfo, hmap]
      rfl
    refine ⟨fun _ area h => ?_, fun _ => .of_errnum hcall⟩
    rw [hmap] at h
    cases h
  | some area => exact locateSound_mapped hmap

/-! ### Two tables -/

/-- An entry point for a table at `0xE0000`. Its checksum is the one for 24 bytes. -/
def entryPoint (table : List Byte) : List Byte :=
  [0x5F, 0x53, 0x4D, 0x5F, 0x65, 0x1F, 2, 4, 0x18, 0, 0, 0, 0, 0, 0, 0,
    0x5F, 0x44, 0x4D, 0x49, 0x5F, 0x1C, BitVec.ofNat 8 table.length, 0, 0, 0, 0x0E, 0, 2, 0, 0x24]

def biosArea (table : List Byte) : List Byte :=
  entryPoint table ++ List.replicate (smbiosAreaLen - 31) 0

/-- A memory with the entry point at the start of the area. -/
def biosMem (table : List Byte) : PhysMem where
  map physaddress len :=
    if physaddress = smbiosAreaStart ∧ len = smbiosAreaLen then some (biosArea table)
    else if physaddress = 0xE0000 ∧ len = table.length then some table
    else none
  length := by
    intro physaddress len mem h
    split at h
    · rename_i hlen
      cases h
      have hentry : (entryPoint table).length = 31 := rfl
      rw [hlen.2, biosArea, List.length_append, List.length_replicate, hentry, smbiosAreaLen]
    · split at h
      · rename_i hlen
        cases h
        exact hlen.2.symm
      · cases h

/-- A KCS interface of `len` bytes at I/O port `0xCA2`, and the end of the table. -/
def kcsTable (len : Byte) (tail : List Byte) : List Byte :=
  [38, len, 0x10, 0, 1, 0x20, 0x20, 0xFF, 0xA3, 0x0C, 0, 0, 0, 0, 0, 0] ++ tail ++
    [0, 0, 127, 4, 0x11, 0, 0, 0]

theorem biosArea_first (table : List Byte) : FirstEntry (biosArea table) 0 :=
  ⟨⟨rfl, by decide⟩, ⟨rfl, rfl⟩, fun q _ _ => Nat.zero_le q⟩

theorem LocateSound.first {table bufp : List Byte} (h : LocateSound (biosMem table) type)
    (htable : tableOf (biosMem table) (biosArea table) 0 = some table)
    (hmatch : FirstMatch type table bufp) : devInfoModifierOffset < bufp.length ∧
      (SpacingReserved bufp ∨ ChecksumOk (biosArea table) 0) := by
  have hmap : (biosMem table).map smbiosAreaStart smbiosAreaLen = some (biosArea table) := rfl
  have hwell := (locateSound_mapped hmap).mp h
  obtain ⟨bufp', hmatch', hbufp⟩ := (hwell _ hmap).2 0 table (biosArea_first table) htable
  rwa [firstMatch_unique hmatch hmatch'] at hbufp

/-- A structure of the least length is copied and read behind its end; and one whose entry point has a
    wrong checksum makes a device. -/
theorem kcsTable_unsound :
    ¬ LocateSound (biosMem (kcsTable 16 [])) .kcs ∧ ¬ LocateSound (biosMem (kcsTable 18 [0, 0])) .kcs := by
  constructor
  · intro h
    have hshort := (h.first (by decide) (.here ⟨rfl, rfl⟩ rfl (by decide))).1
    exact absurd hshort (by decide)
  · intro h
    have hor := (h.first (by decide) (.here ⟨rfl, rfl⟩ rfl (by decide))).2
    exact absurd hor (by decide)

end Search

end FreeIpmi.Locate
