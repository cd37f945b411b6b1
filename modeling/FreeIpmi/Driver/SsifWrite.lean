import FreeIpmi.Driver.Ssif

/-! Writes over SSIF (`ipmi-ssif-driver.c`).

    A request of at most 32 bytes goes out in one SMBus block, and a longer one in a start block, full
    middle blocks and an end block. One whose length is a larger multiple of 32 is refused. The
    device may fail any of the accesses, and then has the blocks up to there. -/

namespace FreeIpmi.Ssif
open Calls

/-- `IPMI_SSIF_SINGLE_PART_WRITE_SMBUS_CMD`, and `_MULTI_PART_WRITE_START_`, `_MIDDLE_` and `_END_`. -/
def singlePartWriteSmbusCmd : Byte := 0x02
def multiPartWriteStartSmbusCmd : Byte := 0x06
def multiPartWriteMiddleSmbusCmd : Byte := 0x07
def multiPartWriteEndSmbusCmd : Byte := 0x08

/-- A write access: the SMBus command and `data`. -/
structure Access where
  smbusCmd : Byte
  data : Block

/-- Why a write does not return a count. -/
inductive WriteFailure where
  | parameters | ioNotInitialized
  -- `driver_mutex_lock` returns -1
  | lock
  -- the `EINVAL` of `_ipmi_ssif_multi_part_write`
  | einval
  -- `_ipmi_i2c_smbus_access` returns -1
  | access
  -- an access outside an array
  | undefined
  deriving DecidableEq

/-- A write that stops, and the accesses it has issued. -/
structure Stopped where
  failure : WriteFailure
  issued : List Access

/-- `data`, which the parts share, and the accesses issued so far. -/
structure Writing where
  data : Block
  issued : List Access

/-- The loop `data.block[i + 1] = buf[index + i]` for `i` below a bound. -/
def fillLoop (buf : List Byte) (index : ℕ) (data : Block) : ℕ → Option Block
  | 0 => some data
  | i + 1 => do
    let data ← fillLoop buf index data i
    let b ← buf[index + i]?
    if h : i + 1 < 35 then some (data.set (i + 1) b) else none

/-- A block has a length byte. -/
theorem block_pos : 0 < 35 := by decide

/-- `data.block[0] = len`, and the loop. -/
def fillBlock (buf : List Byte) (index len : ℕ) (data : Block) : Option Block :=
  fillLoop buf index (data.set 0 (BitVec.ofNat 8 len) block_pos) len

/-- `_ipmi_i2c_smbus_access`; the device says what each access returns. -/
def smbusAccess (device : ℕ → Option ℕ) (smbusCmd : Byte) (w : Writing) :
    Except Stopped (ℕ × Writing) :=
  let issued := w.issued ++ [⟨smbusCmd, w.data⟩]
  match device w.issued.length with
  | none => .error ⟨.access, issued⟩
  | some count => .ok (count, ⟨w.data, issued⟩)

/-- One part of a request: `len` bytes from `index` on. -/
def writePart (device : ℕ → Option ℕ) (buf : List Byte) (smbusCmd : Byte) (index len : ℕ)
    (w : Writing) : Except Stopped (ℕ × Writing) :=
  match fillBlock buf index len w.data with
  | none => .error ⟨.undefined, w.issued⟩
  | some data => smbusAccess device smbusCmd ⟨data, w.issued⟩

/-- `_ipmi_ssif_single_part_write`. -/
def ipmiSsifSinglePartWrite (device : ℕ → Option ℕ) (buf : List Byte) (w : Writing) :
    Except Stopped (ℕ × Writing) :=
  writePart device buf singlePartWriteSmbusCmd 0 buf.length w

/-- The loop over the middle parts. -/
def writeMiddleParts (device : ℕ → Option ℕ) (buf : List Byte) (w : Writing) :
    ℕ → Except Stopped Writing
  | 0 => .ok w
  | n + 1 => do
    let w ← writeMiddleParts device buf w n
    let (_, w) ← writePart device buf multiPartWriteMiddleSmbusCmd ((n + 1) * smbusBlockMax)
      smbusBlockMax w
    return w

/-- `_ipmi_ssif_multi_part_write`. -/
def ipmiSsifMultiPartWrite (device : ℕ → Option ℕ) (buf : List Byte) (w : Writing) :
    Except Stopped (ℕ × Writing) :=
  if buf.length % smbusBlockMax = 0 then .error ⟨.einval, w.issued⟩
  else do
    let middleParts := buf.length / smbusBlockMax - 1
    let (_, w) ← writePart device buf multiPartWriteStartSmbusCmd 0 smbusBlockMax w
    let w ← writeMiddleParts device buf w middleParts
    writePart device buf multiPartWriteEndSmbusCmd ((middleParts + 1) * smbusBlockMax)
      (buf.length % smbusBlockMax) w

/-- `ipmi_ssif_write`, where `data` holds anything at first: the count, and the accesses. -/
def ipmiSsifWrite (ioInit locked : Bool) (device : ℕ → Option ℕ) (data : Block) (buf : List Byte) :
    Except Stopped (ℕ × Writing) :=
  if buf.length = 0 then .error ⟨.parameters, []⟩
  else if !ioInit then .error ⟨.ioNotInitialized, []⟩
  else if !locked then .error ⟨.lock, []⟩
  else if buf.length ≤ smbusBlockMax then ipmiSsifSinglePartWrite device buf ⟨data, []⟩
  else ipmiSsifMultiPartWrite device buf ⟨data, []⟩

/-! ### What the device gets -/

/-- The data bytes of a block. -/
def Access.bytes (a : Access) : List Byte :=
  (a.data.toList.drop 1).take (getElem a.data 0 block_pos).toNat

/-- The command and the length byte of a block. -/
def Access.frame (a : Access) : Byte × ℕ :=
  (a.smbusCmd, (getElem a.data 0 block_pos).toNat)

/-- The blocks for a request of `n` bytes. -/
def frames (n : ℕ) : List (Byte × ℕ) :=
  if n ≤ smbusBlockMax then [(singlePartWriteSmbusCmd, n)]
  else (multiPartWriteStartSmbusCmd, smbusBlockMax)
    :: List.replicate (n / smbusBlockMax - 1) (multiPartWriteMiddleSmbusCmd, smbusBlockMax)
    ++ [(multiPartWriteEndSmbusCmd, n % smbusBlockMax)]

/-- The data bytes of some blocks. -/
def framesLen (fs : List (Byte × ℕ)) : ℕ := (fs.map (·.2)).sum

/-- The front of a request, in these blocks. -/
structure Issued (buf : List Byte) (fs : List (Byte × ℕ)) (issued : List Access) : Prop where
  frames : issued.map Access.frame = fs
  sizes : ∀ a ∈ issued, 1 ≤ a.frame.2 ∧ a.bytes.length = a.frame.2
  bytes : issued.flatMap Access.bytes = buf.take (framesLen fs)

section parts
variable {buf : List Byte} {index len : ℕ} {fs : List (Byte × ℕ)} {w : Writing}

/-- The loop copies its bytes behind the length byte. -/
theorem fillLoop_eq (data : Block) (hlen : len ≤ 34) (hbuf : index + len ≤ buf.length) :
    ∃ data', fillLoop buf index data len = some data' ∧ data'[0] = data[0] ∧
      ∀ i < len, data'[i + 1]? = buf[index + i]? := by
  induction len with
  | zero => exact ⟨data, rfl, rfl, by simp⟩
  | succ n ih =>
    obtain ⟨data', hfill, hhead, hcopied⟩ := ih (by omega) (by omega)
    have hi : n + 1 < 35 := by omega
    have hb : buf[index + n]? = some buf[index + n] := List.getElem?_eq_getElem (by omega)
    refine ⟨data'.set (n + 1) buf[index + n], ?_, ?_, ?_⟩
    · simp only [fillLoop, hfill, hb, Option.bind_eq_bind, Option.bind_some, dif_pos hi]
    · rw [Vector.getElem_set_ne _ _ (Nat.succ_ne_zero n), hhead]
    · intro i hin
      rcases Nat.lt_succ_iff_lt_or_eq.mp hin with hlt | rfl
      · rw [Vector.getElem?_set_ne hi (by omega), hcopied i hlt]
      · rw [Vector.getElem?_set_self hi, hb]

/-- A filled block holds its part of the request. -/
theorem fillBlock_eq (data : Block) (hlen : len ≤ smbusBlockMax) (hbuf : index + len ≤ buf.length) :
    ∃ data', fillBlock buf index len data = some data' ∧ data'[0].toNat = len ∧
      (data'.toList.drop 1).take len = (buf.drop index).take len := by
  unfold smbusBlockMax at hlen
  obtain ⟨data', hfill, hhead, hcopied⟩ :=
    fillLoop_eq (data.set 0 (BitVec.ofNat 8 len)) (by omega : len ≤ 34) hbuf
  refine ⟨data', hfill, ?_, ?_⟩
  · rw [hhead, Vector.getElem_set_self, BitVec.toNat_ofNat]
    omega
  · refine List.ext_getElem? fun i => ?_
    rw [List.getElem?_take, List.getElem?_take]
    split
    · rename_i hi
      rw [List.getElem?_drop, List.getElem?_drop, ← hcopied i hi, Nat.add_comm 1 i,
        Vector.getElem?_toList]
    · rfl

theorem framesLen_append (fs : List (Byte × ℕ)) (f : Byte × ℕ) :
    framesLen (fs ++ [f]) = framesLen fs + f.2 := by
  simp [framesLen]

/-- A part that continues the request: the device has its block, even where the access fails. -/
theorem writePart_issued (device : ℕ → Option ℕ) (smbusCmd : Byte) (h : Issued buf fs w.issued)
    (hindex : framesLen fs = index)
    (hpos : 1 ≤ len) (hlen : len ≤ smbusBlockMax) (hbuf : index + len ≤ buf.length) :
    Meets (writePart device buf smbusCmd index len w)
      (fun r => Issued buf (fs ++ [(smbusCmd, len)]) r.2.issued)
      (fun e => (∃ i, device i = none) ∧ Issued buf (fs ++ [(smbusCmd, len)]) e.issued) := by
  obtain ⟨data, hfill, hhead, hbytes⟩ := fillBlock_eq w.data hlen hbuf
  have hcut : (Access.mk smbusCmd data).bytes = (buf.drop index).take len := by
    rw [Access.bytes, hhead, hbytes]
  have hnext : Issued buf (fs ++ [(smbusCmd, len)]) (w.issued ++ [⟨smbusCmd, data⟩]) := by
    refine ⟨?_, ?_, ?_⟩
    · rw [List.map_append, h.frames, List.map_singleton, Access.frame, hhead]
    · intro a ha
      rcases List.mem_append.mp ha with hold | hnew
      · exact h.sizes a hold
      · rw [List.mem_singleton.mp hnew, hcut, Access.frame, hhead, List.length_take, List.length_drop]
        omega
    · rw [List.flatMap_append, h.bytes, List.flatMap_singleton, hcut, framesLen_append, hindex,
        List.take_add]
  rw [writePart, hfill]
  simp only [smbusAccess]
  cases hdevice : device w.issued.length with
  | none => exact .error ⟨⟨_, hdevice⟩, hnext⟩
  | some count => exact .ok hnext

/-- The middle parts, behind the start. -/
theorem writeMiddleParts_issued (device : ℕ → Option ℕ) (n : ℕ)
    (h : Issued buf [(multiPartWriteStartSmbusCmd, smbusBlockMax)] w.issued)
    (hn : (n + 1) * smbusBlockMax ≤ buf.length) :
    Meets (writeMiddleParts device buf w n)
      (fun w' => Issued buf ((multiPartWriteStartSmbusCmd, smbusBlockMax)
        :: List.replicate n (multiPartWriteMiddleSmbusCmd, smbusBlockMax)) w'.issued)
      (fun e => (∃ i, device i = none) ∧ ∃ fs, Issued buf fs e.issued) := by
  induction n with
  | zero => exact .ok h
  | succ n ih =>
    rw [writeMiddleParts]
    rw [Nat.add_one_mul] at hn
    refine (ih (Nat.le_of_add_right_le hn)).bind fun w' hw' => ?_
    have hlen : framesLen ((multiPartWriteStartSmbusCmd, smbusBlockMax)
        :: List.replicate n (multiPartWriteMiddleSmbusCmd, smbusBlockMax))
        = (n + 1) * smbusBlockMax := by
      simp [framesLen, Nat.add_comm, Nat.succ_mul]
    have hpart : Meets (writePart device buf multiPartWriteMiddleSmbusCmd ((n + 1) * smbusBlockMax)
        smbusBlockMax w') _ _ :=
      writePart_issued device _ hw' hlen (by decide) le_rfl hn
    refine (hpart.mono (fun r hr => ?_) fun e he => ⟨he.1, _, he.2⟩).bind fun r hr => .ok hr
    rw [List.replicate_succ', ← List.cons_append]
    exact hr

end parts

/-! ### The whole request -/

/-- The request is refused before any access. -/
def Refused (ioInit locked : Bool) (buf : List Byte) : Prop :=
  buf.length = 0 ∨ ioInit = false ∨ locked = false ∨
    smbusBlockMax < buf.length ∧ buf.length % smbusBlockMax = 0

/-- The blocks of a request are those of its length, and hold its bytes. -/
structure Written (buf : List Byte) (issued : List Access) : Prop where
  frames : issued.map Access.frame = frames buf.length
  sizes : ∀ a ∈ issued, 1 ≤ a.frame.2 ∧ a.frame.2 ≤ smbusBlockMax ∧ a.bytes.length = a.frame.2
  bytes : issued.flatMap Access.bytes = buf

section request
variable {device : ℕ → Option ℕ} {buf : List Byte} {w : Writing} {issued : List Access} {n : ℕ}

theorem framesLen_frames (n : ℕ) : framesLen (frames n) = n := by
  unfold frames
  split
  · simp [framesLen]
  · rename_i hlong
    unfold smbusBlockMax at hlong ⊢
    simp only [framesLen, List.map_append, List.map_cons, List.map_replicate, List.sum_append,
      List.sum_cons, List.sum_replicate, List.map_nil, List.sum_nil, smul_eq_mul]
    omega

theorem le_of_mem_frames {f : Byte × ℕ} (hf : f ∈ frames n) : f.2 ≤ smbusBlockMax := by
  unfold frames at hf
  split at hf
  · rename_i hshort
    rw [List.mem_singleton.mp hf]
    exact hshort
  · simp only [List.mem_append, List.mem_cons, List.mem_replicate, List.not_mem_nil, or_false] at hf
    rcases hf with (rfl | ⟨-, rfl⟩) | rfl
    · exact le_rfl
    · exact le_rfl
    · exact (Nat.mod_lt _ (by decide)).le

theorem Issued.written (h : Issued buf (Ssif.frames buf.length) issued) : Written buf issued where
  frames := h.frames
  sizes := by
    intro a ha
    have hframe : a.frame ∈ Ssif.frames buf.length := h.frames ▸ List.mem_map_of_mem ha
    exact ⟨(h.sizes a ha).1, le_of_mem_frames hframe, (h.sizes a ha).2⟩
  bytes := by rw [h.bytes, framesLen_frames, List.take_length]

theorem Issued.isPrefix {fs : List (Byte × ℕ)} (h : Issued buf fs issued) :
    issued.flatMap Access.bytes <+: buf := by
  rw [h.bytes]
  exact List.take_prefix _ _

theorem issued_nil (buf : List Byte) : Issued buf [] [] :=
  ⟨rfl, by simp, by simp [framesLen]⟩

theorem singlePartWrite_written (hw : w.issued = []) (hpos : buf.length ≠ 0)
    (hshort : buf.length ≤ smbusBlockMax) :
    Meets (ipmiSsifSinglePartWrite device buf w) (fun r => Written buf r.2.issued)
      (fun e => (∃ i, device i = none) ∧ ∃ fs, Issued buf fs e.issued) := by
  have hnil : Issued buf [] w.issued := hw ▸ issued_nil buf
  have hpart := writePart_issued device singlePartWriteSmbusCmd hnil rfl (Nat.pos_of_ne_zero hpos) hshort
    (Nat.zero_add _).le
  refine hpart.mono (fun r hr => Issued.written ?_) fun e he => ⟨he.1, _, he.2⟩
  rw [frames, if_pos hshort]
  exact hr

theorem multiPartWrite_written (hw : w.issued = []) (hlong : ¬ buf.length ≤ smbusBlockMax)
    (hmod : buf.length % smbusBlockMax ≠ 0) :
    Meets (ipmiSsifMultiPartWrite device buf w) (fun r => Written buf r.2.issued)
      (fun e => (∃ i, device i = none) ∧ ∃ fs, Issued buf fs e.issued) := by
  rw [ipmiSsifMultiPartWrite, if_neg hmod]
  have hnil : Issued buf [] w.issued := hw ▸ issued_nil buf
  have hdiv := Nat.div_add_mod buf.length smbusBlockMax
  have hlt := Nat.mod_lt buf.length (show 0 < smbusBlockMax by decide)
  have hparts : 1 ≤ buf.length / smbusBlockMax :=
    (Nat.le_div_iff_mul_le (by decide)).mpr (by omega)
  obtain ⟨n, hn⟩ : ∃ n, buf.length / smbusBlockMax = n + 1 :=
    ⟨_, (Nat.succ_pred_eq_of_pos hparts).symm⟩
  have hlength : (n + 1) * smbusBlockMax + buf.length % smbusBlockMax = buf.length := by
    rw [← hn, Nat.mul_comm]
    exact hdiv
  rw [hn, Nat.add_sub_cancel]
  have hstart := writePart_issued device multiPartWriteStartSmbusCmd hnil rfl
    (show 1 ≤ smbusBlockMax by decide) le_rfl (show 0 + smbusBlockMax ≤ buf.length by omega)
  refine (hstart.mono (fun r hr => hr) fun e he => ⟨he.1, _, he.2⟩).bind fun r₁ h₁ => ?_
  have hmiddle := writeMiddleParts_issued device n h₁ (by omega)
  refine hmiddle.bind fun w₂ h₂ => ?_
  have hlen : framesLen ((multiPartWriteStartSmbusCmd, smbusBlockMax)
      :: List.replicate n (multiPartWriteMiddleSmbusCmd, smbusBlockMax)) = (n + 1) * smbusBlockMax := by
    simp [framesLen, Nat.add_comm, Nat.succ_mul]
  have hlast := writePart_issued device multiPartWriteEndSmbusCmd h₂ hlen (Nat.pos_of_ne_zero hmod)
    hlt.le hlength.le
  refine hlast.mono (fun r hr => Issued.written ?_) fun e he => ⟨he.1, _, he.2⟩
  rw [frames, if_neg hlong, hn, Nat.add_sub_cancel]
  exact hr

end request

/-- A request that is not refused goes out in the blocks of its length, which hold its bytes, unless
    the device fails an access, which then has the front of it. One that is refused issues no block. -/
theorem ssifWrite_written (ioInit locked : Bool) (device : ℕ → Option ℕ) (data : Block)
    (buf : List Byte) :
    Meets (ipmiSsifWrite ioInit locked device data buf)
      (fun r => ¬ Refused ioInit locked buf ∧ Written buf r.2.issued)
      (fun e => Refused ioInit locked buf ∧ e.issued = [] ∨ ¬ Refused ioInit locked buf ∧
        (∃ i, device i = none) ∧ e.issued.flatMap Access.bytes <+: buf) := by
  rw [ipmiSsifWrite]
  refine Meets.ite (fun h => .error (Or.inl ⟨Or.inl h, rfl⟩)) fun hpos => ?_
  refine Meets.ite (fun h => .error (Or.inl ⟨Or.inr (Or.inl (by simpa using h)), rfl⟩)) fun hio => ?_
  refine Meets.ite (fun h => .error (Or.inl ⟨Or.inr (Or.inr (Or.inl (by simpa using h))), rfl⟩))
    fun hlock => ?_
  refine Meets.ite (fun hshort => ?_) fun hlong => ?_
  · have haccepted : ¬ Refused ioInit locked buf := by
      rintro (hzero | hio' | hlock' | ⟨hlong, -⟩)
      · exact hpos hzero
      · exact hio (by simp [hio'])
      · exact hlock (by simp [hlock'])
      · exact absurd hlong hshort.not_gt
    refine (singlePartWrite_written rfl hpos hshort).mono (fun r hr => ⟨haccepted, hr⟩) ?_
    rintro e ⟨hdevice, fs, hissued⟩
    exact Or.inr ⟨haccepted, hdevice, hissued.isPrefix⟩
  · by_cases hmod : buf.length % smbusBlockMax = 0
    · rw [ipmiSsifMultiPartWrite, if_pos hmod]
      exact .error (Or.inl ⟨Or.inr (Or.inr (Or.inr ⟨not_le.mp hlong, hmod⟩)), rfl⟩)
    · have haccepted : ¬ Refused ioInit locked buf := by
        rintro (hzero | hio' | hlock' | ⟨-, hzero⟩)
        · exact hpos hzero
        · exact hio (by simp [hio'])
        · exact hlock (by simp [hlock'])
        · exact hmod hzero
      refine (multiPartWrite_written rfl hlong hmod).mono (fun r hr => ⟨haccepted, hr⟩) ?_
      rintro e ⟨hdevice, fs, hissued⟩
      exact Or.inr ⟨haccepted, hdevice, hissued.isPrefix⟩

end FreeIpmi.Ssif
