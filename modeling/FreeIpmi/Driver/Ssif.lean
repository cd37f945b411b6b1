import FreeIpmi.Basic
import FreeIpmi.Lib.Calls

/-! Reads over SSIF (`ipmi-ssif-driver.c`).

    A response comes in one SMBus block, or in a start block, middle blocks and an end block. The first
    byte of a block is the length of the rest, and the rest begins with a pattern or a block number
    where there are several blocks. `_ipmi_ssif_read` skips these bytes, but still counts them: it
    copies as many bytes too many from each block (`delivered_iff`). No access is outside an
    array all the same (`read_defined`). -/

namespace FreeIpmi.Ssif
open Calls

/-- `IPMI_I2C_SMBUS_BLOCK_MAX`. -/
def smbusBlockMax : ℕ := 32

/-- `IPMI_SSIF_MULTI_PART_READ_START_SIZE`, `_START_PATTERN1`, `_START_PATTERN2`, and `_END_PATTERN`. -/
def multiPartReadStartSize : Byte := 30
def multiPartReadStartPattern1 : Byte := 0x00
def multiPartReadStartPattern2 : Byte := 0x01
def multiPartReadEndPattern : Byte := 0xFF

/-- `block` of `union ipmi_i2c_smbus_data`. -/
abbrev Block := Vector Byte 35

/-- Why a read does not return a length. -/
inductive Failure where
  | parameters | ioNotInitialized | overflow
  -- `_ipmi_i2c_smbus_access` returns -1
  | access
  -- an access outside an array
  | undefined
  deriving DecidableEq

/-- `data.block[i]`. -/
def Block.read (data : Block) (i : ℕ) : Except Failure Byte :=
  if h : i < 35 then .ok data[i] else .error .undefined

/-- `buf[i] = b`. -/
def store (buf : List Byte) (i : ℕ) (b : Byte) : Except Failure (List Byte) :=
  if i < buf.length then .ok (buf.set i b) else .error .undefined

/-- The loop that copies `n` bytes from `sindex` of a block to `start` of the buffer. -/
def copyBlock (data : Block) (sindex : ℕ) (buf : List Byte) (start : ℕ) : ℕ → Except Failure (List Byte)
  | 0 => .ok buf
  | n + 1 => do
    let buf ← copyBlock data sindex buf start n
    let b ← data.read (sindex + n)
    store buf (start + n) b

/-- `buf`, `bytes_read` and `bytes_copied`. -/
structure Reading where
  buf : List Byte
  bytesRead : ℕ
  bytesCopied : ℕ

/-- The block starts a response of several blocks. -/
def Block.startsMulti (data : Block) : Bool :=
  data[0] = multiPartReadStartSize ∧ data[1] = multiPartReadStartPattern1
    ∧ data[2] = multiPartReadStartPattern2

/-- The first block of `_ipmi_ssif_read`. -/
def readFirst (buf : List Byte) (bufLen : ℕ) (data : Block) : Except Failure Reading := do
  let sindex := if data.startsMulti then 3 else 1
  let bytesRead := data[0].toNat
  let length := if bytesRead > bufLen then bufLen else bytesRead
  let buf ← copyBlock data sindex buf 0 length
  return ⟨buf, bytesRead, length⟩

/-- One round of the loop of `_ipmi_ssif_read`. -/
def readPart (bufLen : ℕ) (r : Reading) (data : Block) : Except Failure Reading := do
  let length := if r.bytesCopied + data[0].toNat > bufLen then bufLen - r.bytesCopied
    else data[0].toNat
  let buf ← copyBlock data 2 r.buf r.bytesCopied length
  return ⟨buf, r.bytesRead + data[0].toNat, r.bytesCopied + length⟩

/-- The loop, over the blocks that the device has; then the access fails. -/
def readParts (bufLen : ℕ) (r : Reading) : List Block → Except Failure Reading
  | [] => .error .access
  | data :: rest => do
    let r ← readPart bufLen r data
    if data[1] = multiPartReadEndPattern then return r else readParts bufLen r rest

/-- The accesses of `_ipmi_ssif_read`. -/
def readBlocks (buf : List Byte) (bufLen : ℕ) : List Block → Except Failure Reading
  | [] => .error .access
  | data :: rest => do
    let r ← readFirst buf bufLen data
    if data.startsMulti then readParts bufLen r rest else return r

/-- `_ipmi_ssif_read`: the length, and the buffer afterwards. -/
def ssifRead (buf : List Byte) (bufLen : ℕ) (blocks : List Block) :
    Except Failure (ℕ × List Byte) := do
  let r ← readBlocks buf bufLen blocks
  if r.bytesRead > intMax then .error .overflow else return (r.bytesRead, r.buf)

/-- The length that `ipmi_ssif_read` passes on. -/
def clip (bufLen : ℕ) : ℕ := if bufLen > smbusBlockMax then smbusBlockMax else bufLen

/-- `ipmi_ssif_read` into a buffer of `buf_len` bytes. -/
def ipmiSsifRead (ioInit : Bool) (buf : List Byte) (blocks : List Block) :
    Except Failure (ℕ × List Byte) :=
  if buf.length = 0 then .error .parameters
  else if !ioInit then .error .ioNotInitialized
  else ssifRead buf (clip buf.length) blocks

/-! ### Accesses -/

section accesses
variable {data : Block} {buf : List Byte} {sindex start n bufLen : ℕ} {r : Reading}

theorem copyBlock_eq (hblock : sindex + n ≤ 35) (hbuf : start + n ≤ buf.length) :
    copyBlock data sindex buf start n
      = .ok (buf.take start ++ (data.toList.drop sindex).take n ++ buf.drop (start + n)) := by
  induction n with
  | zero => simp [copyBlock]
  | succ n ih =>
    have hi : sindex + n < 35 := by omega
    have hlength : (buf.take start ++ (data.toList.drop sindex).take n).length = start + n := by
      simp
      omega
    have hnext : (data.toList.drop sindex).take (n + 1)
        = (data.toList.drop sindex).take n ++ [data[sindex + n]] := by
      rw [List.take_succ_eq_append_getElem (by simp; omega)]
      simp
    rw [copyBlock, ih (by omega) (by omega), ok_bind, Block.read, dif_pos hi, ok_bind, store,
      if_pos (by simp; omega), List.set_append_right _ _ hlength.le, hlength, Nat.sub_self,
      List.drop_eq_getElem_cons (show start + n < buf.length by omega), List.set_cons_zero, hnext]
    simp [Nat.add_assoc]

theorem readFirst_eq (hlen : bufLen ≤ smbusBlockMax) (hbuf : bufLen ≤ buf.length) :
    readFirst buf bufLen data = .ok
      ⟨(data.toList.drop (if data.startsMulti then 3 else 1)).take (min data[0].toNat bufLen)
        ++ buf.drop (min data[0].toNat bufLen), data[0].toNat, min data[0].toNat bufLen⟩ := by
  have hmin : (if data[0].toNat > bufLen then bufLen else data[0].toNat) = min data[0].toNat bufLen := by
    split <;> omega
  have hsindex : (if data.startsMulti then 3 else 1) + min data[0].toNat bufLen ≤ 35 := by
    unfold smbusBlockMax at hlen
    split <;> omega
  rw [readFirst, hmin, copyBlock_eq hsindex (by omega)]
  simp

/-- The loop has copied at most as much as there is room for. -/
structure Fits (bufLen : ℕ) (buf : List Byte) (r : Reading) : Prop where
  copied : r.bytesCopied ≤ bufLen
  length : r.buf.length = buf.length

/-- A round of the loop is defined, and counts the whole length byte. -/
theorem readPart_ok (data : Block) (hlen : bufLen ≤ smbusBlockMax) (hbuf : bufLen ≤ buf.length)
    (h : Fits bufLen buf r) :
    ∃ r', readPart bufLen r data = .ok r' ∧ Fits bufLen buf r'
      ∧ r'.bytesRead = r.bytesRead + data[0].toNat := by
  rw [readPart]
  generalize hn : (if r.bytesCopied + data[0].toNat > bufLen then bufLen - r.bytesCopied
    else data[0].toNat) = n
  have hcopied := h.copied
  have hlength := h.length
  have hroom : n ≤ bufLen - r.bytesCopied := by
    subst hn
    split <;> omega
  have hblock : 2 + n ≤ 35 := by
    unfold smbusBlockMax at hlen
    omega
  rw [copyBlock_eq hblock (by omega)]
  refine ⟨_, rfl, ⟨by dsimp only; omega, ?_⟩, rfl⟩
  simp
  omega

theorem readParts_ok {bs : List Block} (hlen : bufLen ≤ smbusBlockMax) (hbuf : bufLen ≤ buf.length)
    (h : Fits bufLen buf r) :
    Meets (readParts bufLen r bs) (Fits bufLen buf) (· = .access) := by
  induction bs generalizing r with
  | nil => exact .error rfl
  | cons data rest ih =>
    obtain ⟨r', hr', hfits, -⟩ := readPart_ok data hlen hbuf h
    rw [readParts, hr', ok_bind]
    exact .ite (fun _ => .ok hfits) fun _ => ih hfits

theorem readFirst_fits (hlen : bufLen ≤ smbusBlockMax) (hbuf : bufLen ≤ buf.length)
    (h : readFirst buf bufLen data = .ok r) : Fits bufLen buf r := by
  rw [readFirst_eq hlen hbuf] at h
  obtain rfl := Except.ok.inj h
  refine ⟨min_le_right _ _, ?_⟩
  unfold smbusBlockMax at hlen
  simp
  split <;> omega

theorem readBlocks_ok (bs : List Block) (hlen : bufLen ≤ smbusBlockMax)
    (hbuf : bufLen ≤ buf.length) : Meets (readBlocks buf bufLen bs) (Fits bufLen buf) (· = .access) := by
  cases bs with
  | nil => exact .error rfl
  | cons data rest =>
    have hfirst : Meets (readFirst buf bufLen data) (Fits bufLen buf) (· = .access) :=
      ⟨fun r hr => readFirst_fits hlen hbuf hr, fun e he => by simp [readFirst_eq hlen hbuf] at he⟩
    exact hfirst.bind fun r hr => .ite (fun _ => readParts_ok hlen hbuf hr) fun _ => .ok hr

end accesses

theorem clip_le (bufLen : ℕ) : clip bufLen ≤ smbusBlockMax := by
  unfold clip
  split <;> omega

theorem clip_le_self (bufLen : ℕ) : clip bufLen ≤ bufLen := by
  unfold clip
  split <;> omega

/-- For any blocks, nothing outside the block or the buffer is accessed. -/
theorem read_defined (ioInit : Bool) (buf : List Byte) (blocks : List Block) :
    Meets (ipmiSsifRead ioInit buf blocks) (fun a => a.2.length = buf.length) (· ≠ .undefined) := by
  refine .ite (fun _ => .error (by decide)) fun _ => .ite (fun _ => .error (by decide)) fun _ => ?_
  have hblocks := readBlocks_ok blocks (clip_le buf.length) (clip_le_self buf.length)
  refine (hblocks.mono (fun _ h => h) ?_).bind fun r hr => ?_
  · rintro e rfl
    decide
  · exact .ite (fun _ => .error (by decide)) fun _ => .ok hr.length

/-! ### Responses -/

/-- The block has these bytes behind its length byte; the bytes after them are left open. -/
def Block.Holds (data : Block) (bytes : List Byte) : Prop :=
  bytes.length ≤ smbusBlockMax
    ∧ data.toList.take (bytes.length + 1) = BitVec.ofNat 8 bytes.length :: bytes

instance (data : Block) (bytes : List Byte) : Decidable (data.Holds bytes) :=
  inferInstanceAs (Decidable (_ ∧ _))

/-- Middle blocks and an end block, and the data in them. -/
inductive Parts : List Block → List Byte → Prop where
  | last {data : Block} {bytes : List Byte} (h : data.Holds (multiPartReadEndPattern :: bytes)) :
      Parts [data] bytes
  | middle {data : Block} {number : Byte} {bytes more : List Byte} {rest : List Block}
      (h : data.Holds (number :: bytes)) (hnumber : number ≠ multiPartReadEndPattern)
      (hrest : Parts rest more) : Parts (data :: rest) (bytes ++ more)

/-- The blocks of a response. -/
inductive Carries : List Block → List Byte → Prop where
  | single {data : Block} {bytes : List Byte} (h : data.Holds bytes) (hstart : data.startsMulti = false) :
      Carries [data] bytes
  | multi {data : Block} {bytes more : List Byte} {rest : List Block}
      (h : data.Holds (multiPartReadStartPattern1 :: multiPartReadStartPattern2 :: bytes))
      (hstart : data[0] = multiPartReadStartSize) (hrest : Parts rest more) :
      Carries (data :: rest) (bytes ++ more)

/-- The first `buf_len` bytes of the response are stored, and their number is returned. -/
def Delivered (buf : List Byte) (blocks : List Block) (response : List Byte) : Prop :=
  ipmiSsifRead true buf blocks = .ok (min response.length buf.length,
    response.take buf.length ++ buf.drop response.length)

section responses
variable {data : Block} {buf bytes response : List Byte} {blocks : List Block} {bufLen : ℕ} {r : Reading}

theorem Block.Holds.length_byte (h : data.Holds bytes) : data[0].toNat = bytes.length := by
  have hlen := h.1
  have hzero : data.toList[0]? = some (BitVec.ofNat 8 bytes.length) := by
    rw [← List.getElem?_take_of_lt (Nat.succ_pos bytes.length), h.2]
    rfl
  have hbyte : data[0] = BitVec.ofNat 8 bytes.length := by simpa using hzero
  unfold smbusBlockMax at hlen
  rw [hbyte, BitVec.toNat_ofNat, Nat.mod_eq_of_lt (by omega)]

theorem Block.Holds.byte (h : data.Holds bytes) (i : ℕ) (hi : i < bytes.length) :
    data.toList[i + 1]? = bytes[i]? := by
  rw [← List.getElem?_take_of_lt (Nat.succ_lt_succ hi), h.2, List.getElem?_cons_succ]

theorem Block.Holds.second_byte {b : Byte} (h : data.Holds (b :: bytes)) : data[1] = b := by
  simpa using h.byte 0 (by simp)

theorem Block.Holds.startsMulti
    (h : data.Holds (multiPartReadStartPattern1 :: multiPartReadStartPattern2 :: bytes))
    (hstart : data[0] = multiPartReadStartSize) : data.startsMulti = true := by
  have hthird : data[2] = multiPartReadStartPattern2 := by simpa using h.byte 1 (by simp)
  simp [Block.startsMulti, hstart, h.second_byte, hthird]

/-- The bytes behind the length byte. -/
theorem Block.Holds.drop_one (h : data.Holds bytes) : (data.toList.drop 1).take bytes.length = bytes := by
  have htake := congrArg (List.drop 1) h.2
  rwa [List.drop_take, Nat.add_sub_cancel, List.drop_succ_cons, List.drop_zero] at htake

theorem clip_of_le {n : ℕ} (hn : n ≤ smbusBlockMax) : min n (clip bufLen) = min n bufLen := by
  unfold clip
  split <;> omega

/-- A response that comes in one block is stored, and its whole length is returned. -/
theorem read_single (h : data.Holds response) (hstart : data.startsMulti = false) (hbuf : buf.length ≠ 0) :
    ipmiSsifRead true buf [data]
      = .ok (response.length, response.take buf.length ++ buf.drop response.length) := by
  have hlength := h.length_byte
  have hsmall : ¬ response.length > intMax := by
    have hmax := h.1
    unfold smbusBlockMax at hmax
    unfold intMax
    omega
  have hstored : (data.toList.drop 1).take (min response.length buf.length) = response.take buf.length := by
    rw [min_comm, ← List.take_take, h.drop_one]
  have hrest : buf.drop (min response.length buf.length) = buf.drop response.length := by
    rcases le_total response.length buf.length with hle | hle
    · rw [min_eq_left hle]
    · rw [min_eq_right hle, List.drop_of_length_le hle, List.drop_length]
  rw [ipmiSsifRead, if_neg hbuf, if_neg (by simp), ssifRead, readBlocks,
    readFirst_eq (clip_le _) (clip_le_self _), ok_bind, hstart, if_neg (by simp), if_neg (by simp), hlength,
    clip_of_le h.1, hstored, hrest]
  simp [pure, Except.pure, hsmall]

/-- Each block of a response of several counts its block number, too. -/
theorem readParts_bytesRead {r' : Reading} (h : Parts blocks response) (hlen : bufLen ≤ smbusBlockMax)
    (hbuf : bufLen ≤ buf.length) (hfits : Fits bufLen buf r) (hr : readParts bufLen r blocks = .ok r') :
    r'.bytesRead = r.bytesRead + response.length + blocks.length := by
  induction h generalizing r with
  | @last data bytes h =>
    obtain ⟨r₁, hr₁, -, hread⟩ := readPart_ok data hlen hbuf hfits
    rw [readParts, hr₁, ok_bind, if_pos h.second_byte] at hr
    obtain rfl := Except.ok.inj hr
    rw [hread, h.length_byte]
    simp [Nat.add_assoc]
  | @middle data number bytes more rest h hnumber hrest ih =>
    obtain ⟨r₁, hr₁, hfits₁, hread⟩ := readPart_ok data hlen hbuf hfits
    rw [readParts, hr₁, ok_bind, if_neg (by rw [h.second_byte]; exact hnumber)] at hr
    rw [ih hfits₁ hr, hread, h.length_byte]
    simp
    omega

/-- What is returned for a response of several blocks is more than its length. -/
theorem read_multi {n : ℕ} {buf' more : List Byte} {rest : List Block}
    (h : data.Holds (multiPartReadStartPattern1 :: multiPartReadStartPattern2 :: bytes))
    (hstart : data.startsMulti = true) (hrest : Parts rest more)
    (hr : ipmiSsifRead true buf (data :: rest) = .ok (n, buf')) : (bytes ++ more).length < n := by
  unfold ipmiSsifRead at hr
  split at hr
  · cases hr
  rw [if_neg (by simp), ssifRead] at hr
  obtain ⟨r, hblocks, hr⟩ := bind_eq_ok.mp hr
  obtain ⟨first, hfirst, hparts⟩ := bind_eq_ok.mp hblocks
  rw [hstart, if_pos rfl] at hparts
  have hfits := readFirst_fits (clip_le _) (clip_le_self _) hfirst
  have hread := readParts_bytesRead hrest (clip_le _) (clip_le_self _) hfits hparts
  rw [readFirst_eq (clip_le _) (clip_le_self _)] at hfirst
  obtain rfl := Except.ok.inj hfirst
  split at hr
  · cases hr
  · obtain ⟨rfl, -⟩ := Prod.mk.inj (Except.ok.inj hr)
    rw [hread, h.length_byte]
    simp
    omega

end responses

/-- Nothing outside an array is accessed, whatever the blocks. A response is delivered exactly if it
    comes in one block and the buffer holds it. -/
theorem delivered_iff (buf : List Byte) (hbuf : buf ≠ []) :
    (∀ blocks, ipmiSsifRead true buf blocks ≠ .error .undefined)
      ∧ ∀ blocks response, Carries blocks response →
        (Delivered buf blocks response ↔ blocks.length = 1 ∧ response.length ≤ buf.length) := by
  refine ⟨fun blocks h => (read_defined true buf blocks).reason _ h rfl, fun blocks response h => ?_⟩
  have hlength : buf.length ≠ 0 := fun h => hbuf (List.length_eq_zero_iff.mp h)
  unfold Delivered
  cases h with
  | single h hstart =>
    rw [read_single h hstart hlength]
    constructor
    · intro heq
      have hmin := (Prod.mk.inj (Except.ok.inj heq)).1
      exact ⟨rfl, by omega⟩
    · rintro ⟨-, hle⟩
      rw [min_eq_left hle]
  | @multi data bytes more rest h hstart hrest =>
    constructor
    · intro heq
      have hlt := read_multi h (h.startsMulti hstart) hrest heq
      omega
    · rintro ⟨hone, -⟩
      cases hrest <;> simp at hone

/-- A response of 31 bytes in two blocks. -/
def twoBlocks : List Block :=
  [#v[30, 0x00, 0x01, 0x1C, 0x01, 0x00, 0x03, 0x04, 0x05, 0x06, 0x07, 0x08, 0x09, 0x0A, 0x0B, 0x0C,
      0x0D, 0x0E, 0x0F, 0x10, 0x11, 0x12, 0x13, 0x14, 0x15, 0x16, 0x17, 0x18, 0x19, 0x1A, 0x1B, 0, 0, 0, 0],
    #v[4, 0xFF, 0x1C, 0x1D, 0x1E, 0, 0, 0, 0, 0, 0, 0, 0, 0, 0, 0, 0, 0, 0, 0, 0, 0, 0, 0, 0, 0, 0, 0, 0,
      0, 0, 0, 0, 0, 0]]

/-- The answer to Get Device ID, in one block. -/
def oneBlock : Block :=
  #v[4, 0x1C, 0x01, 0x00, 0x20, 0, 0, 0, 0, 0, 0, 0, 0, 0, 0, 0, 0, 0, 0, 0, 0, 0, 0, 0, 0, 0, 0, 0, 0,
    0, 0, 0, 0, 0, 0]

theorem delivered_iff_sample : Delivered [0, 0, 0, 0, 0, 0] [oneBlock] [0x1C, 0x01, 0x00, 0x20] := by
  refine ((delivered_iff [0, 0, 0, 0, 0, 0] (by simp)).2 [oneBlock] _ (.single ?_ ?_)).mpr ?_
  · decide
  · decide
  · decide

/-- The two bytes that follow the data in the start block are stored as data. -/
theorem undelivered : ¬ ∀ (buf : List Byte) (blocks : List Block) (response : List Byte), buf ≠ [] →
    Carries blocks response → Delivered buf blocks response := by
  intro h
  have hparts : Parts [twoBlocks[1]] [0x1C, 0x1D, 0x1E] := .last (by decide)
  have hcarries : Carries twoBlocks ((twoBlocks[0].toList.drop 3).take 28 ++ [0x1C, 0x1D, 0x1E]) :=
    .multi (by decide) (by decide) hparts
  have hdelivered := h (List.replicate 64 0) _ _ (by decide) hcarries
  revert hdelivered
  unfold Delivered
  decide

end FreeIpmi.Ssif
