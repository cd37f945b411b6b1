import FreeIpmi.Fru.AreaSafety
import FreeIpmi.Lib.ByteBits
import FreeIpmi.Lib.Text

/-! The text of a field (`ipmi_fru_type_length_field_to_string` of `ipmi-fru.c`).

    The type code of the first byte says how the others are to be read. Six bit ASCII packs four
    characters into three bytes, low bits first, and the loop over it takes three bytes at a time, fewer
    in the last round.

        byte      |  i + 2  |  i + 1  |    i    |
        character | c+3  | c+2  | c+1  |   c    | -/

namespace FreeIpmi.Fru
open ByteBits Calls

/-- The `IPMI_FRU_ERR_*` codes of `ipmi_fru_type_length_field_to_string`. -/
inductive StringErr where
  | parameters | fruInformationInconsistent | fruLanguageCodeNotSupported | fruInvalidBcdEncoding
  | overflow | internalError
  deriving DecidableEq

/-- What ends a call that does not return 0. -/
inductive StringStop where
  | errnum (e : StringErr)
  -- a byte that is not in the buffer is read
  | outside
  deriving DecidableEq

/-- `databuf[i]`. -/
def dataAt (databuf : List Byte) (i : ℕ) : Except StringStop Byte :=
  match databuf[i]? with
  | none => .error .outside
  | some b => .ok b

/-- `IPMI_FRU_TYPE_LENGTH_TYPE_CODE_*`; that of a language code is `typeCodeLanguageCode`. -/
def typeCodeBinary : Byte := 0x00
def typeCodeBcd : Byte := 0x01
def typeCodeSixbitAscii : Byte := 0x02

/-- `IPMI_FRU_BUF_LEN`. -/
def fruBufLen : ℕ := 2048

/-- `IPMI_FRU_AREA_STRING_MAX`. -/
def fruAreaStringMax : ℕ := 512

/-- `IPMI_FRU_LANGUAGE_CODE_ENGLISH_LEGACY` and `IPMI_FRU_LANGUAGE_CODE_ENGLISH`. -/
def languageCodeEnglishLegacy : Byte := 0
def languageCodeEnglish : Byte := 25

def space : Byte := 0x20

/-- `_get_type_length_bytes`, into a buffer of `databuflen` bytes. -/
def getTypeLengthBytes (typeLengthBuf : List Byte) (code : Byte) (numberOfDataBytes : ℕ)
    (databuf : List Byte) (databuflen : ℕ) : Except StringStop (List Byte) :=
  if numberOfDataBytes = 0 then .ok databuf
  else if code = typeCodeLanguageCode ∧ numberOfDataBytes = 0x01 then
    .error (.errnum .fruInformationInconsistent)
  else if typeLengthBuf.length < 1 + numberOfDataBytes then
    .error (.errnum .fruInformationInconsistent)
  else if databuflen < numberOfDataBytes then .error (.errnum .internalError)
  else .ok (splice databuf 0 ((typeLengthBuf.drop 1).take numberOfDataBytes))

/-- The four characters of three bytes. -/
def sixbit₀ (b₀ : Byte) : Byte := (b₀ &&& 0x3F) + space
def sixbit₁ (b₀ b₁ : Byte) : Byte := (((b₁ &&& 0x0F) <<< 2) ||| ((b₀ &&& 0xC0) >>> 6)) + space
def sixbit₂ (b₁ b₂ : Byte) : Byte := (((b₁ &&& 0xF0) >>> 4) ||| ((b₂ &&& 0x03) <<< 4)) + space
def sixbit₃ (b₂ : Byte) : Byte := ((b₂ &&& 0xFC) >>> 2) + space

/-- The characters that a round writes. -/
def sixbitRound (databuf : List Byte) (databufBytes i : ℕ) : Except StringStop (List Byte) := do
  let b₀ ← dataAt databuf i
  let second ←
    if databufBytes > i + 1 then do
      let b₁ ← dataAt databuf (i + 1)
      pure [sixbit₁ b₀ b₁]
    else pure []
  let others ←
    if databufBytes > i + 2 then do
      let b₁ ← dataAt databuf (i + 1)
      let b₂ ← dataAt databuf (i + 2)
      pure [sixbit₂ b₁ b₂, sixbit₃ b₂]
    else pure []
  return sixbit₀ b₀ :: (second ++ others)

/-- The loop of `_sixbitascii_to_ascii` from `i` on, behind the characters written so far. -/
def sixbitLoop (databuf : List Byte) (databufBytes i : ℕ) (typestr : List Byte) :
    Except StringStop (List Byte) :=
  if i < databufBytes then do
    let chars ← sixbitRound databuf databufBytes i
    sixbitLoop databuf databufBytes (i + 3) (typestr ++ chars)
  else .ok typestr
termination_by databufBytes - i

/-- `_sixbitascii_to_ascii`. -/
def sixbitasciiToAscii (databuf : List Byte) (databufBytes typestrlen : ℕ) :
    Except StringStop (List Byte) :=
  if typestrlen < (databufBytes / 3 + 1) * 4 then .error (.errnum .internalError)
  else sixbitLoop databuf databufBytes 0 []

/-- A character of `_bcd_to_ascii`. -/
def bcdChar (b : Byte) : Except StringStop Byte :=
  if b.toNat + 1 > 0x0 ∧ (b.toNat : ℤ) - 1 < 0x9 then .ok (0x30 + b)
  else if b = 0x0A then .ok space
  else if b = 0x0B then .ok 0x2D
  else if b = 0x0C then .ok 0x2E
  else .error (.errnum .fruInvalidBcdEncoding)

/-- `_bcd_to_ascii`. -/
def bcdToAscii (databuf : List Byte) (databufBytes typestrlen : ℕ) : Except StringStop (List Byte) :=
  if typestrlen < databufBytes then .error (.errnum .internalError)
  else (List.range databufBytes).mapM fun i => do bcdChar (← dataAt databuf i)

/-- A digit of `%X`. -/
def hexDigit (n : ℕ) : Byte := if n < 10 then 0x30 + BitVec.ofNat 8 n else 0x37 + BitVec.ofNat 8 n

/-- `%02Xh`. -/
def hexText (b : Byte) : List Byte := [hexDigit (b.toNat / 16), hexDigit (b.toNat % 16), 0x68]

/-- The bytes as numbers, with a space between two of them. -/
def binaryToHex (databuf : List Byte) (databufBytes : ℕ) : Except StringStop (List Byte) := do
  let bytes ← (List.range databufBytes).mapM (dataAt databuf)
  return Text.snprintf fruAreaStringMax (List.intercalate [space] (bytes.map hexText))

/-- The text of the data bytes. -/
def typeString (code languageCode : Byte) (databuf : List Byte) (numberOfDataBytes : ℕ) :
    Except StringStop (List Byte) :=
  if code = typeCodeBinary then binaryToHex databuf numberOfDataBytes
  else if code = typeCodeBcd then bcdToAscii databuf numberOfDataBytes fruAreaStringMax
  else if code = typeCodeSixbitAscii then
    sixbitasciiToAscii databuf numberOfDataBytes fruAreaStringMax
  else if languageCode ≠ languageCodeEnglishLegacy ∧ languageCode ≠ languageCodeEnglish then
    .error (.errnum .fruLanguageCodeNotSupported)
  else if fruAreaStringMax < numberOfDataBytes + 1 then .error (.errnum .internalError)
  else (List.range numberOfDataBytes).mapM (dataAt databuf)

/-- What a call returns, and what it leaves in `strbuf` and `*strbuflen`. -/
structure StringResult where
  rv : Except StringStop Unit
  strbuf : List Byte
  strbuflen : ℕ

/-- `ipmi_fru_type_length_field_to_string`, with a `strbuf` of `*strbuflen` bytes. -/
def typeLengthFieldToString (typeLengthBuf : List Byte) (languageCode : Byte) (strbuf : List Byte) :
    StringResult :=
  match typeLengthBuf with
  | [] => ⟨.error (.errnum .parameters), strbuf, strbuf.length⟩
  | typeLength :: _ =>
    if strbuf.length = 0 then ⟨.error (.errnum .parameters), strbuf, strbuf.length⟩
    else
      let cleared := List.replicate strbuf.length 0
      let code := typeCode typeLength
      let n := numberOfDataBytes typeLength
      if n = 0 then ⟨.ok (), cleared, 0⟩
      else
        let text := do
          let databuf ← getTypeLengthBytes typeLengthBuf code n (List.replicate (fruBufLen + 1) 0)
            fruBufLen
          typeString code languageCode databuf n
        match text with
        | .error e => ⟨.error e, cleared, strbuf.length⟩
        | .ok text =>
          if strbuf.length < text.length + 1 then
            ⟨.error (.errnum .overflow), cleared, strbuf.length⟩
          else ⟨.ok (), splice cleared 0 text, text.length⟩

/-! ### Six bit ASCII -/

/-- Bits `6 k` to `6 k + 5` of a buffer, bit 0 being the lowest of byte 0. -/
def sixBits (databuf : List Byte) (k : ℕ) : Byte :=
  (BitVec.ofBoolListLE (window databuf (6 * k) 6)).setWidth 8

/-- Character `k` of a packed field. -/
def sixbitChar (databuf : List Byte) (k : ℕ) : Byte := 0x20 + sixBits databuf k

/-- How many characters `n` bytes hold. -/
def sixbitCount (n : ℕ) : ℕ := 8 * n / 6

section SixBit
variable {databuf : List Byte} {n r i : ℕ}

theorem getLsbD_sixBits (databuf : List Byte) (k j : ℕ) :
    (sixBits databuf k).getLsbD j = (decide (j < 6) && bit databuf (6 * k + j)) := by
  rw [sixBits, BitVec.getLsbD_setWidth, BitVec.getLsbD_ofBoolListLE]
  by_cases hj : j < 6
  · have h8 : j < 8 := by omega
    simp [window, hj, h8]
  · simp [window, hj]

/-- A bit by its place in a byte. -/
theorem bit_at (databuf : List Byte) (i : ℕ) {q j : ℕ} (hq : q = 8 * i + j) (hj : j < 8) :
    bit databuf q = (databuf.getD i 0).getLsbD j := by
  have hdiv : q / 8 = i := by omega
  have hmod : q % 8 = j := by omega
  rw [bit, hdiv, hmod]

/-- Six bits given one by one. -/
theorem eq_sixBits {b : Byte} {databuf : List Byte} {k : ℕ}
    (hlow : ∀ j < 6, b.getLsbD j = bit databuf (6 * k + j))
    (hhigh : b.getLsbD 6 = false ∧ b.getLsbD 7 = false) : b = sixBits databuf k := by
  refine BitVec.eq_of_getLsbD_eq fun j hj => ?_
  rw [getLsbD_sixBits]
  by_cases h6 : j < 6
  · rw [hlow j h6, decide_eq_true h6, Bool.true_and]
  · rw [decide_eq_false h6, Bool.false_and]
    obtain rfl | rfl : j = 6 ∨ j = 7 := by omega
    · exact hhigh.1
    · exact hhigh.2

/-- The first character lies in one byte. -/
theorem sixbit₀_eq (databuf : List Byte) (r : ℕ) :
    sixbit₀ (databuf.getD (3 * r) 0) = sixbitChar databuf (4 * r) := by
  rw [sixbit₀, sixbitChar, BitVec.add_comm]
  refine congrArg (space + ·) (eq_sixBits (fun j hj => ?_) (by simp))
  rw [bit_at databuf (3 * r) (j := j) (by omega) (by omega)]
  interval_cases j <;> simp

/-- The second one has two bits of a byte and four of the next. -/
theorem sixbit₁_eq (databuf : List Byte) (r : ℕ) :
    sixbit₁ (databuf.getD (3 * r) 0) (databuf.getD (3 * r + 1) 0)
      = sixbitChar databuf (4 * r + 1) := by
  rw [sixbit₁, sixbitChar, BitVec.add_comm]
  refine congrArg (space + ·) (eq_sixBits (fun j hj => ?_) (by simp))
  by_cases h2 : j < 2
  · rw [bit_at databuf (3 * r) (j := j + 6) (by omega) (by omega)]
    interval_cases j <;> simp
  · rw [bit_at databuf (3 * r + 1) (j := j - 2) (by omega) (by omega)]
    interval_cases j <;> simp at h2 ⊢

/-- The third one has four bits of a byte and two of the next. -/
theorem sixbit₂_eq (databuf : List Byte) (r : ℕ) :
    sixbit₂ (databuf.getD (3 * r + 1) 0) (databuf.getD (3 * r + 2) 0)
      = sixbitChar databuf (4 * r + 2) := by
  rw [sixbit₂, sixbitChar, BitVec.add_comm]
  refine congrArg (space + ·) (eq_sixBits (fun j hj => ?_) (by simp))
  by_cases h4 : j < 4
  · rw [bit_at databuf (3 * r + 1) (j := j + 4) (by omega) (by omega)]
    interval_cases j <;> simp
  · rw [bit_at databuf (3 * r + 2) (j := j - 4) (by omega) (by omega)]
    interval_cases j <;> simp at h4 ⊢

/-- The fourth one lies in one byte again. -/
theorem sixbit₃_eq (databuf : List Byte) (r : ℕ) :
    sixbit₃ (databuf.getD (3 * r + 2) 0) = sixbitChar databuf (4 * r + 3) := by
  rw [sixbit₃, sixbitChar, BitVec.add_comm]
  refine congrArg (space + ·) (eq_sixBits (fun j hj => ?_) (by simp))
  rw [bit_at databuf (3 * r + 2) (j := j + 2) (by omega) (by omega)]
  interval_cases j <;> simp

theorem dataAt_of_lt (h : i < databuf.length) : dataAt databuf i = .ok (databuf.getD i 0) := by
  simp [dataAt, List.getElem?_eq_getElem h]

/-- The characters up to a round. -/
def charsUpTo (databuf : List Byte) (n r : ℕ) : List Byte :=
  (List.range (min (4 * r) (sixbitCount n))).map (sixbitChar databuf)

/-- A round appends four characters, or those that the bytes left have room for. -/
theorem sixbitRound_eq (hn : n ≤ databuf.length) (hr : 3 * r < n) :
    ∃ chars, sixbitRound databuf n (3 * r) = .ok chars ∧
      charsUpTo databuf n r ++ chars = charsUpTo databuf n (r + 1) := by
  have hmin : min (4 * r) (sixbitCount n) = 4 * r := by rw [sixbitCount]; omega
  simp only [sixbitRound, dataAt_of_lt (show 3 * r < databuf.length by omega), ok_bind,
    charsUpTo, hmin]
  by_cases h1 : n > 3 * r + 1
  · simp only [if_pos h1, dataAt_of_lt (show 3 * r + 1 < databuf.length by omega), ok_bind]
    by_cases h2 : n > 3 * r + 2
    · have hnext : min (4 * (r + 1)) (sixbitCount n) = 4 * r + 1 + 1 + 1 + 1 := by
        rw [sixbitCount]; omega
      simp only [if_pos h2, dataAt_of_lt (show 3 * r + 2 < databuf.length by omega), ok_bind]
      refine ⟨_, rfl, ?_⟩
      simp only [hnext, List.range_succ, List.map_append, List.map_cons, List.map_nil, sixbit₀_eq,
        sixbit₁_eq, sixbit₂_eq, sixbit₃_eq, List.append_assoc, List.cons_append, List.nil_append]
    · have hnext : min (4 * (r + 1)) (sixbitCount n) = 4 * r + 1 + 1 := by
        rw [sixbitCount]; omega
      simp only [if_neg h2]
      refine ⟨_, rfl, ?_⟩
      simp only [hnext, List.range_succ, List.map_append, List.map_cons, List.map_nil, sixbit₀_eq,
        sixbit₁_eq, List.append_assoc, List.cons_append, List.nil_append]
  · have hnext : min (4 * (r + 1)) (sixbitCount n) = 4 * r + 1 := by
      rw [sixbitCount]; omega
    have h2 : ¬ n > 3 * r + 2 := by omega
    simp only [if_neg h1, if_neg h2]
    refine ⟨_, rfl, ?_⟩
    simp only [hnext, List.range_succ, List.map_append, List.map_cons, List.map_nil, sixbit₀_eq,
      List.nil_append]

/-- The loop from a round on. -/
theorem sixbitLoop_eq (hn : n ≤ databuf.length) : ∀ (m r : ℕ), n ≤ 3 * r + m →
    sixbitLoop databuf n (3 * r) (charsUpTo databuf n r)
      = .ok ((List.range (sixbitCount n)).map (sixbitChar databuf))
  | 0, r, hm => by
    rw [sixbitLoop, if_neg (by omega), charsUpTo, Nat.min_eq_right (by rw [sixbitCount]; omega)]
  | m + 1, r, hm => by
    rw [sixbitLoop]
    split
    · rename_i hlt
      obtain ⟨chars, hround, hchars⟩ := sixbitRound_eq hn hlt
      rw [hround, ok_bind, hchars]
      exact sixbitLoop_eq hn m (r + 1) (by omega)
    · rw [charsUpTo, Nat.min_eq_right (by rw [sixbitCount]; omega)]

/-- `_sixbitascii_to_ascii` on the first `n` bytes of a buffer. -/
theorem sixbitasciiToAscii_eq {typestrlen : ℕ} (hn : n ≤ databuf.length)
    (hroom : (n / 3 + 1) * 4 ≤ typestrlen) : sixbitasciiToAscii databuf n typestrlen
      = .ok ((List.range (sixbitCount n)).map (sixbitChar databuf)) := by
  rw [sixbitasciiToAscii, if_neg (by omega)]
  exact sixbitLoop_eq hn n 0 (by omega)

end SixBit

/-! ### Whole fields -/

/-- The characters only depend on the bytes that hold them. -/
theorem chars_append (data more : List Byte) :
    (List.range (sixbitCount data.length)).map (sixbitChar (data ++ more))
      = (List.range (sixbitCount data.length)).map (sixbitChar data) := by
  refine List.map_congr_left fun k hk => ?_
  have hlt : k < sixbitCount data.length := List.mem_range.mp hk
  rw [sixbitChar, sixbitChar]
  refine congrArg _ (eq_sixBits (fun j hj => ?_) ?_)
  · have hin : 6 * k + j < 8 * data.length := by rw [sixbitCount] at hlt; omega
    rw [getLsbD_sixBits, decide_eq_true hj, Bool.true_and, bit_append_left hin]
  · exact ⟨by rw [getLsbD_sixBits]; rfl, by rw [getLsbD_sixBits]; rfl⟩

theorem sixbitasciiToAscii_append (data more : List Byte) {typestrlen : ℕ}
    (hroom : (data.length / 3 + 1) * 4 ≤ typestrlen) :
    sixbitasciiToAscii (data ++ more) data.length typestrlen
      = .ok ((List.range (sixbitCount data.length)).map (sixbitChar data)) := by
  rw [sixbitasciiToAscii_eq (by simp) hroom, chars_append]

section Field
variable {typeLength languageCode : Byte} {rest strbuf : List Byte}

/-- The text of a packed field whose bytes are all there. -/
theorem typeString_sixbit (hcode : typeCode typeLength = typeCodeSixbitAscii)
    (hne : numberOfDataBytes typeLength ≠ 0) (hlen : numberOfDataBytes typeLength ≤ rest.length) :
    (do
      let databuf ← getTypeLengthBytes (typeLength :: rest) (typeCode typeLength)
        (numberOfDataBytes typeLength) (List.replicate (fruBufLen + 1) 0) fruBufLen
      typeString (typeCode typeLength) languageCode databuf (numberOfDataBytes typeLength))
      = .ok ((List.range (sixbitCount (numberOfDataBytes typeLength))).map
          (sixbitChar (rest.take (numberOfDataBytes typeLength)))) := by
  have hlt := numberOfDataBytes_lt typeLength
  have hspecial : ¬ (typeCode typeLength = typeCodeLanguageCode
      ∧ numberOfDataBytes typeLength = 0x01) := by
    rw [hcode]
    exact fun h => absurd h.1 (by decide)
  have htake : (rest.take (numberOfDataBytes typeLength)).length = numberOfDataBytes typeLength :=
    List.length_take_of_le hlen
  have hdata : getTypeLengthBytes (typeLength :: rest) (typeCode typeLength)
      (numberOfDataBytes typeLength) (List.replicate (fruBufLen + 1) 0) fruBufLen
      = .ok (rest.take (numberOfDataBytes typeLength)
        ++ (List.replicate (fruBufLen + 1) 0).drop (numberOfDataBytes typeLength)) := by
    rw [getTypeLengthBytes, if_neg hne, if_neg hspecial, if_neg (by rw [List.length_cons]; omega),
      if_neg (by rw [fruBufLen]; omega)]
    simp only [splice, List.drop_one, List.tail_cons, List.take_zero, List.nil_append, htake,
      Nat.zero_add]
  have hroom : ((rest.take (numberOfDataBytes typeLength)).length / 3 + 1) * 4 ≤ fruAreaStringMax := by
    rw [htake, fruAreaStringMax]
    omega
  have hchars := sixbitasciiToAscii_append (rest.take (numberOfDataBytes typeLength))
    ((List.replicate (fruBufLen + 1) 0).drop (numberOfDataBytes typeLength)) hroom
  rw [htake] at hchars
  rw [hdata, ok_bind, hcode, typeString, if_neg (by decide), if_neg (by decide), if_pos rfl, hchars]

/-- A packed field without all of its bytes. -/
theorem typeString_short (hcode : typeCode typeLength = typeCodeSixbitAscii)
    (hne : numberOfDataBytes typeLength ≠ 0) (hlen : ¬ numberOfDataBytes typeLength ≤ rest.length) :
    (do
      let databuf ← getTypeLengthBytes (typeLength :: rest) (typeCode typeLength)
        (numberOfDataBytes typeLength) (List.replicate (fruBufLen + 1) 0) fruBufLen
      typeString (typeCode typeLength) languageCode databuf (numberOfDataBytes typeLength))
      = .error (.errnum .fruInformationInconsistent) := by
  have hspecial : ¬ (typeCode typeLength = typeCodeLanguageCode
      ∧ numberOfDataBytes typeLength = 0x01) := by
    rw [hcode]
    exact fun h => absurd h.1 (by decide)
  rw [getTypeLengthBytes, if_neg hne, if_neg hspecial,
    if_pos (by rw [List.length_cons]; omega), error_bind]

/-- A call for a packed field. -/
theorem toString_sixbit (hcode : typeCode typeLength = typeCodeSixbitAscii) :
    typeLengthFieldToString (typeLength :: rest) languageCode strbuf =
      if numberOfDataBytes typeLength ≤ rest.length ∧
          sixbitCount (numberOfDataBytes typeLength) < strbuf.length then
        ⟨.ok (), (List.range (sixbitCount (numberOfDataBytes typeLength))).map
            (sixbitChar (rest.take (numberOfDataBytes typeLength)))
          ++ List.replicate (strbuf.length - sixbitCount (numberOfDataBytes typeLength)) 0,
          sixbitCount (numberOfDataBytes typeLength)⟩
      else
        ⟨.error (.errnum (if strbuf.length = 0 then .parameters
            else if numberOfDataBytes typeLength ≤ rest.length then .overflow
            else .fruInformationInconsistent)), List.replicate strbuf.length 0, strbuf.length⟩ := by
  simp only [typeLengthFieldToString]
  by_cases hbuf : strbuf.length = 0
  · rw [if_pos hbuf, if_neg (by omega), if_pos hbuf, hbuf, List.eq_nil_of_length_eq_zero hbuf]
    rfl
  · rw [if_neg hbuf]
    by_cases hne : numberOfDataBytes typeLength = 0
    · have hin : 0 ≤ rest.length ∧ sixbitCount 0 < strbuf.length :=
        ⟨Nat.zero_le _, Nat.pos_of_ne_zero hbuf⟩
      rw [if_pos hne, hne, if_pos hin]
      rfl
    · rw [if_neg hne]
      by_cases hlen : numberOfDataBytes typeLength ≤ rest.length
      · rw [typeString_sixbit hcode hne hlen]
        simp only [List.length_map, List.length_range]
        by_cases hroom : sixbitCount (numberOfDataBytes typeLength) < strbuf.length
        · rw [if_neg (by omega), if_pos ⟨hlen, hroom⟩]
          simp [splice]
        · rw [if_pos (by omega), if_neg (fun h => hroom h.2), if_neg hbuf, if_pos hlen]
      · rw [typeString_short hcode hne hlen, if_neg (fun h => hlen h.1), if_neg hbuf, if_neg hlen]

end Field

/-- Character `k` of a packed field is 0x20 plus bits `6 k` to `6 k + 5` of its bytes, there are as many
    characters as there are six bits, and nothing behind the bytes is read: a buffer that has just
    the bytes of the field is enough, and what stands behind them makes no difference. -/
theorem sixbit_decoded :
    (∀ (data more : List Byte) (typestrlen : ℕ), (data.length / 3 + 1) * 4 ≤ typestrlen →
      sixbitasciiToAscii (data ++ more) data.length typestrlen
        = .ok ((List.range (8 * data.length / 6)).map fun k => 0x20 + sixBits data k)) ∧
    ∀ (typeLength languageCode : Byte) (rest strbuf : List Byte),
      typeCode typeLength = typeCodeSixbitAscii →
      let data := rest.take (numberOfDataBytes typeLength)
      let result := typeLengthFieldToString (typeLength :: rest) languageCode strbuf
      result.rv ≠ .error .outside ∧
        (result.rv = .ok () ↔ data.length = numberOfDataBytes typeLength ∧
          8 * data.length / 6 < strbuf.length) ∧
        (result.rv = .ok () → result.strbuflen = 8 * data.length / 6 ∧
          result.strbuf = ((List.range (8 * data.length / 6)).map fun k => 0x20 + sixBits data k)
            ++ List.replicate (strbuf.length - 8 * data.length / 6) 0) := by
  refine ⟨fun data more typestrlen hroom => sixbitasciiToAscii_append data more hroom, ?_⟩
  intro typeLength languageCode rest strbuf hcode data result
  have hresult : result = _ := toString_sixbit hcode
  have hdata : data.length = numberOfDataBytes typeLength ↔
      numberOfDataBytes typeLength ≤ rest.length := by
    rw [List.length_take]
    exact min_eq_left_iff
  rw [hresult]
  split
  · rename_i hok
    have hlen := hdata.mpr hok.1
    refine ⟨nofun, iff_of_true rfl ?_, fun _ => ?_⟩
    · exact ⟨hlen, hlen ▸ hok.2⟩
    · rw [hlen]
      exact ⟨rfl, rfl⟩
  · rename_i hbad
    refine ⟨nofun, iff_of_false nofun ?_, nofun⟩
    rintro ⟨hlen, hroom⟩
    exact hbad ⟨hdata.mp hlen, by rw [hlen] at hroom; exact hroom⟩

/-- Five bytes are six characters: the last two of the second round are not there. -/
theorem sixbit_decoded_five : sixbitasciiToAscii [0x29, 0xDC, 0xA6, 0x21, 0x04] 5 512
    = .ok ((List.range 6).map fun k => 0x20 + sixBits [0x29, 0xDC, 0xA6, 0x21, 0x04] k) :=
  sixbit_decoded.1 [0x29, 0xDC, 0xA6, 0x21, 0x04] [] 512 (by decide)

end FreeIpmi.Fru
