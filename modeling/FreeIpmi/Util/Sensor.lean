import FreeIpmi.Basic
import FreeIpmi.Lib.Calls

/-! Raw sensor bytes and sensor values (`util/ipmi-sensor-util.c`).

    `double` is taken as exact: a value is a rational number, and the functions of the mathematical
    library that do not lead to rational numbers are parameters. Decoding and encoding are inverse to
    each other. A value between two decodable ones is rounded by hand, and for a negative quotient
    the fraction that is compared with one half is negative: it is always rounded down. -/

namespace FreeIpmi.Sensor
open Calls

/-! ### The functions -/

/-- `IPMI_SDR_ANALOG_DATA_FORMAT_UNSIGNED`. -/
def analogDataFormatUnsigned : Byte := 0x0

/-- `IPMI_SDR_ANALOG_DATA_FORMAT_1S_COMPLEMENT`. -/
def analogDataFormat1sComplement : Byte := 0x1

/-- `IPMI_SDR_ANALOG_DATA_FORMAT_2S_COMPLEMENT`. -/
def analogDataFormat2sComplement : Byte := 0x2

/-- `IPMI_SDR_ANALOG_DATA_FORMAT_VALID`. -/
def analogDataFormatValid (analogDataFormat : Byte) : Bool :=
  analogDataFormat = analogDataFormatUnsigned ∨ analogDataFormat = analogDataFormat1sComplement
    ∨ analogDataFormat = analogDataFormat2sComplement

/-- `IPMI_SDR_LINEARIZATION_LINEAR`. -/
def linearizationLinear : Byte := 0

/-- `IPMI_SDR_LINEARIZATION_IS_LINEAR`. -/
def linearizationIsLinear (linearization : Byte) : Bool :=
  linearization.toNat + 1 ≥ 1 ∧ linearization.toNat ≤ 11

/-- What is used of the mathematical library. -/
structure Libm where
  log : ℚ → ℚ
  log10 : ℚ → ℚ
  log2 : ℚ → ℚ
  exp : ℚ → ℚ
  exp10 : ℚ → ℚ
  exp2 : ℚ → ℚ
  sqrt : ℚ → ℚ
  cbrt : ℚ → ℚ

/-- The factors of a sensor. -/
structure Factors where
  rExponent : ℤ
  bExponent : ℤ
  m : ℤ
  b : ℤ
  linearization : Byte
  analogDataFormat : Byte

/-- The reading of a raw byte as a number. -/
def rawNumber (analogDataFormat rawData : Byte) : ℤ :=
  if analogDataFormat = analogDataFormatUnsigned then rawData.toNat
  else if analogDataFormat = analogDataFormat1sComplement then
    let rawData := if rawData &&& 0x80 ≠ 0 then rawData + 1 else rawData
    rawData.toInt
  else rawData.toInt

/-- The curve of a sensor. -/
def linearize (libm : Libm) (linearization : Byte) (dval : ℚ) : ℚ :=
  match linearization.toNat with
  | 1 => libm.log dval
  | 2 => libm.log10 dval
  | 3 => libm.log2 dval
  | 4 => libm.exp dval
  | 5 => libm.exp10 dval
  | 6 => libm.exp2 dval
  | 7 => if dval ≠ 0 then 1 / dval else dval
  | 8 => dval ^ 2
  | 9 => dval ^ 3
  | 10 => libm.sqrt dval
  | 11 => libm.cbrt dval
  | _ => dval

/-- The curve taken back. -/
def delinearize (libm : Libm) (linearization : Byte) (dval : ℚ) : ℚ :=
  match linearization.toNat with
  | 1 => libm.exp dval
  | 2 => libm.exp10 dval
  | 3 => libm.exp2 dval
  | 4 => libm.log dval / libm.log (libm.exp 1)
  | 5 => libm.log dval / libm.log 10
  | 6 => libm.log dval / libm.log 2
  | 7 => if dval ≠ 0 then 1 / dval else dval
  | 8 => libm.sqrt dval
  | 9 => libm.cbrt dval
  | 10 => dval ^ 2
  | 11 => dval ^ 3
  | _ => dval

/-- `ipmi_sensor_decode_value`. -/
def ipmiSensorDecodeValue (libm : Libm) (f : Factors) (rawData : Byte) : Except Stop ℚ :=
  if !analogDataFormatValid f.analogDataFormat || !linearizationIsLinear f.linearization then
    .error (.errno .einval)
  else
    let dval : ℚ := rawNumber f.analogDataFormat rawData
    let dval := dval * f.m
    let dval := dval + f.b * 10 ^ f.bExponent
    let dval := dval * 10 ^ f.rExponent
    .ok (linearize libm f.linearization dval)

/-- `(int) dval`, undefined outside the range of `int`. -/
def toIntCast (dval : ℚ) : Except Stop ℤ :=
  let n := if 0 ≤ dval then ⌊dval⌋ else ⌈dval⌉
  if -2 ^ 31 ≤ n ∧ n < 2 ^ 31 then .ok n else .error .undefined

/-- The rounding by hand. -/
def roundByHand (dval : ℚ) : Except Stop ℤ := do
  let n ← toIntCast dval
  if dval - n ≥ 1 / 2 then return ⌈dval⌉ else return ⌊dval⌋

/-- `(uint8_t) dval` of a whole number, undefined outside the range of `uint8_t`. -/
def toUInt8Cast (n : ℤ) : Except Stop Byte :=
  if 0 ≤ n ∧ n ≤ 255 then .ok (BitVec.ofInt 8 n) else .error .undefined

/-- `(char) dval` of a whole number, undefined outside the range of a signed `char`. -/
def toCharCast (n : ℤ) : Except Stop Byte :=
  if -128 ≤ n ∧ n ≤ 127 then .ok (BitVec.ofInt 8 n) else .error .undefined

/-- The encoding of a whole number. -/
def rawByte (analogDataFormat : Byte) (n : ℤ) : Except Stop Byte :=
  if analogDataFormat = analogDataFormatUnsigned then toUInt8Cast n
  else if analogDataFormat = analogDataFormat1sComplement then do
    let rval ← toCharCast n
    if rval &&& 0x80 ≠ 0 then return rval - 1 else return rval
  else toCharCast n

/-- `ipmi_sensor_decode_raw_value`. -/
def ipmiSensorDecodeRawValue (libm : Libm) (f : Factors) (value : ℚ) : Except Stop Byte :=
  if !analogDataFormatValid f.analogDataFormat || !linearizationIsLinear f.linearization then
    .error (.errno .einval)
  else do
    let dval := delinearize libm f.linearization value
    let dval := dval / 10 ^ f.rExponent
    let dval := dval - f.b * 10 ^ f.bExponent
    let dval := if f.m ≠ 0 then dval / f.m else dval
    let n ← roundByHand dval
    rawByte f.analogDataFormat n

/-! ### Bytes and numbers -/

/-- The smallest number that a format has. -/
def lowest (analogDataFormat : Byte) : ℤ :=
  if analogDataFormat = analogDataFormatUnsigned then 0
  else if analogDataFormat = analogDataFormat1sComplement then -127 else -128

/-- The largest number that a format has. -/
def highest (analogDataFormat : Byte) : ℤ :=
  if analogDataFormat = analogDataFormatUnsigned then 255 else 127

theorem rawNumber_bounds (analogDataFormat rawData : Byte) :
    lowest analogDataFormat ≤ rawNumber analogDataFormat rawData ∧
      rawNumber analogDataFormat rawData ≤ highest analogDataFormat := by
  rw [lowest, highest, rawNumber]
  by_cases hu : analogDataFormat = analogDataFormatUnsigned
  · simp only [hu, if_true]
    have := rawData.isLt
    omega
  · by_cases h1 : analogDataFormat = analogDataFormat1sComplement
    · rw [if_neg hu, if_pos h1, if_neg hu, if_neg hu, if_pos h1]
      revert rawData
      decide
    · rw [if_neg hu, if_neg h1, if_neg hu, if_neg hu, if_neg h1]
      revert rawData
      decide

theorem toInt_ofInt_byte {n : ℤ} (hlow : -128 ≤ n) (hhigh : n ≤ 127) :
    (BitVec.ofInt 8 n).toInt = n := by
  rw [BitVec.toInt_ofInt, Int.bmod_def]
  omega

theorem toNat_ofInt_byte {n : ℤ} (hlow : 0 ≤ n) (hhigh : n ≤ 255) :
    ((BitVec.ofInt 8 n).toNat : ℤ) = n := by
  rw [BitVec.toNat_ofInt]
  omega

/-- Taking one off a negative byte, but for -128, is what reading in 1's complement undoes. -/
theorem rawNumber_1sComplement : ∀ rval : Byte, rval ≠ 0x80 →
    rawNumber analogDataFormat1sComplement (if rval &&& 0x80 ≠ 0 then rval - 1 else rval)
      = rval.toInt := by
  decide

/-- Every number of a format has a byte. -/
theorem rawByte_ok {analogDataFormat : Byte} {n : ℤ} (hlow : lowest analogDataFormat ≤ n)
    (hhigh : n ≤ highest analogDataFormat) :
    ∃ y, rawByte analogDataFormat n = .ok y ∧ rawNumber analogDataFormat y = n := by
  rw [lowest] at hlow
  rw [highest] at hhigh
  by_cases hu : analogDataFormat = analogDataFormatUnsigned
  · rw [if_pos hu] at hlow hhigh
    refine ⟨BitVec.ofInt 8 n, ?_, ?_⟩
    · rw [rawByte, if_pos hu, toUInt8Cast, if_pos ⟨hlow, hhigh⟩]
    · rw [rawNumber, if_pos hu, toNat_ofInt_byte hlow hhigh]
  · rw [if_neg hu] at hlow hhigh
    by_cases h1 : analogDataFormat = analogDataFormat1sComplement
    · rw [if_pos h1] at hlow
      have hint := toInt_ofInt_byte (n := n) (by omega) hhigh
      have hne : BitVec.ofInt 8 n ≠ 0x80 := by
        intro h
        rw [h] at hint
        have : n = -128 := hint.symm
        omega
      have hnumber := rawNumber_1sComplement _ hne
      rw [hint] at hnumber
      refine ⟨_, ?_, h1 ▸ hnumber⟩
      rw [rawByte, if_neg hu, if_pos h1, toCharCast, if_pos ⟨by omega, hhigh⟩, ok_bind]
      split <;> rfl
    · rw [if_neg h1] at hlow
      refine ⟨BitVec.ofInt 8 n, ?_, ?_⟩
      · rw [rawByte, if_neg hu, if_neg h1, toCharCast, if_pos ⟨hlow, hhigh⟩]
      · rw [rawNumber, if_neg hu, if_neg h1, toInt_ofInt_byte hlow hhigh]

theorem toUInt8Cast_toNat : ∀ x : Byte, toUInt8Cast x.toNat = .ok x := by decide

theorem toCharCast_toInt : ∀ x : Byte, toCharCast x.toInt = .ok x := by decide

theorem rawByte_1sComplement : ∀ x : Byte,
    rawByte analogDataFormat1sComplement (rawNumber analogDataFormat1sComplement x)
      = .ok (if x = 0xFF then 0 else x) := by
  decide

/-- The number of a byte is encoded as this byte, but for the second zero in 1's complement. -/
theorem rawByte_rawNumber (analogDataFormat x : Byte) :
    rawByte analogDataFormat (rawNumber analogDataFormat x)
      = .ok (if analogDataFormat = analogDataFormat1sComplement ∧ x = 0xFF then 0 else x) := by
  by_cases h1 : analogDataFormat = analogDataFormat1sComplement
  · rw [h1, rawByte_1sComplement]
    simp
  · rw [if_neg (by simp [h1])]
    by_cases hu : analogDataFormat = analogDataFormatUnsigned
    · rw [rawByte, rawNumber, if_pos hu, if_pos hu, toUInt8Cast_toNat]
    · rw [rawByte, rawNumber, if_neg hu, if_neg hu, if_neg h1, if_neg h1, toCharCast_toInt]

/-! ### Rounding -/

/-- The number that the rounding by hand yields. -/
def handRounded (q : ℚ) : ℤ := if 0 ≤ q ∧ 1 / 2 ≤ q - ⌊q⌋ then ⌈q⌉ else ⌊q⌋

/-- A quotient that is not negative is rounded to the nearest whole number, any other one down. -/
theorem roundByHand_eq {q : ℚ} (hlow : -128 ≤ q) (hhigh : q ≤ 255) :
    roundByHand q = .ok (handRounded q) := by
  rw [handRounded]
  by_cases hq : 0 ≤ q
  · have hfloor : ⌊q⌋ < 256 := Int.floor_lt.mpr (by push_cast; linarith)
    have hcast : toIntCast q = .ok ⌊q⌋ := by
      have hpos := Int.floor_nonneg.mpr hq
      rw [toIntCast, if_pos hq, if_pos (by omega)]
    rw [roundByHand, hcast, ok_bind]
    by_cases hhalf : q - ⌊q⌋ ≥ 1 / 2
    · rw [if_pos hhalf, if_pos ⟨hq, hhalf⟩]
      rfl
    · rw [if_neg hhalf, if_neg fun h => hhalf h.2]
      rfl
  · have hneg : q < 0 := not_le.mp hq
    have hlowest : -128 ≤ ⌈q⌉ := by
      have hle : ((-128 : ℤ) : ℚ) ≤ (⌈q⌉ : ℚ) := le_trans (by push_cast; exact hlow) (Int.le_ceil q)
      exact_mod_cast hle
    have hceil : ⌈q⌉ ≤ 0 := Int.ceil_le.mpr (by push_cast; exact hneg.le)
    have hcast : toIntCast q = .ok ⌈q⌉ := by rw [toIntCast, if_neg hq, if_pos (by omega)]
    have hle := Int.le_ceil q
    rw [roundByHand, hcast, ok_bind, if_neg (by linarith), if_neg fun h => hq h.1]
    rfl

/-- The whole number below is a nearest one among those of a range exactly when it is at most one
    half away. -/
theorem floor_nearest_iff {q : ℚ} {low high : ℤ} (hlow : low ≤ q) (hhigh : q ≤ high) :
    (∀ n : ℤ, low ≤ n → n ≤ high → |(⌊q⌋ : ℚ) - q| ≤ |(n : ℚ) - q|) ↔ q - ⌊q⌋ ≤ 1 / 2 := by
  have hfloor := Int.floor_le q
  have hnext := Int.lt_floor_add_one q
  have habs : |(⌊q⌋ : ℚ) - q| = q - ⌊q⌋ := by rw [abs_sub_comm, abs_of_nonneg (by linarith)]
  rw [habs]
  constructor
  · intro h
    by_contra hfar
    have hhalf : 1 / 2 < q - ⌊q⌋ := not_le.mp hfar
    -- the whole number above is then nearer, and in the range
    have hin : ⌊q⌋ + 1 ≤ high := by
      by_contra hout
      have hle : high ≤ ⌊q⌋ := by omega
      have hcast : (high : ℚ) ≤ ⌊q⌋ := by exact_mod_cast hle
      linarith
    have hlowfloor : low ≤ ⌊q⌋ := Int.le_floor.mpr hlow
    have hnear := h (⌊q⌋ + 1) (by omega) hin
    rw [Int.cast_add, Int.cast_one, abs_of_nonneg (by linarith)] at hnear
    linarith
  · intro hhalf n _ _
    rcases le_or_gt n ⌊q⌋ with hn | hn
    · have hcast : (n : ℚ) ≤ ⌊q⌋ := by exact_mod_cast hn
      rw [abs_sub_comm, abs_of_nonneg (by linarith)]
      linarith
    · have hcast : (⌊q⌋ : ℚ) + 1 ≤ n := by exact_mod_cast hn
      rw [abs_of_nonneg (by linarith)]
      linarith

/-- The whole number above is a nearest one when it is at most one half away. -/
theorem ceil_nearest {q : ℚ} (hhalf : 1 / 2 ≤ q - ⌊q⌋) (n : ℤ) :
    |(⌈q⌉ : ℚ) - q| ≤ |(n : ℚ) - q| := by
  have hfloor := Int.floor_le q
  have hceil := Int.le_ceil q
  have hnext : (⌈q⌉ : ℚ) ≤ ⌊q⌋ + 1 := by exact_mod_cast Int.ceil_le_floor_add_one q
  rw [abs_of_nonneg (by linarith)]
  rcases le_or_gt n ⌊q⌋ with hn | hn
  · have hcast : (n : ℚ) ≤ ⌊q⌋ := by exact_mod_cast hn
    rw [abs_sub_comm, abs_of_nonneg (by linarith)]
    linarith
  · have hcast : (⌊q⌋ : ℚ) + 1 ≤ n := by exact_mod_cast hn
    rw [abs_of_nonneg (by linarith)]
    linarith

/-- Rounding by hand gives a nearest number exactly when the quotient is not negative or at most one
    half above the next whole number. -/
theorem handRounded_nearest_iff {q : ℚ} {low high : ℤ} (hlow : low ≤ q) (hhigh : q ≤ high) :
    (∀ n : ℤ, low ≤ n → n ≤ high → |(handRounded q : ℚ) - q| ≤ |(n : ℚ) - q|) ↔
      0 ≤ q ∨ q - ⌊q⌋ ≤ 1 / 2 := by
  rw [handRounded]
  by_cases hup : 0 ≤ q ∧ 1 / 2 ≤ q - ⌊q⌋
  · rw [if_pos hup]
    exact iff_of_true (fun n _ _ => ceil_nearest hup.2 n) (Or.inl hup.1)
  · rw [if_neg hup, floor_nearest_iff hlow hhigh]
    refine ⟨Or.inr, ?_⟩
    rintro (hq | hhalf)
    · by_contra hfar
      exact hup ⟨hq, (not_le.mp hfar).le⟩
    · exact hhalf

theorem handRounded_bounds {q : ℚ} {low high : ℤ} (hlow : low ≤ q) (hhigh : q ≤ high) :
    low ≤ handRounded q ∧ handRounded q ≤ high := by
  have hfloor : low ≤ ⌊q⌋ := Int.le_floor.mpr hlow
  have hceil : ⌈q⌉ ≤ high := Int.ceil_le.mpr hhigh
  have hle : ⌊q⌋ ≤ ⌈q⌉ := Int.floor_le_ceil q
  rw [handRounded]
  split <;> omega

/-! ### Linear sensors -/

/-- A linear sensor: its format is a valid one and its factor is not 0. -/
structure Factors.Linear (f : Factors) : Prop where
  linearization : f.linearization = linearizationLinear
  format : analogDataFormatValid f.analogDataFormat = true
  m_ne : f.m ≠ 0

/-- The value that belongs to a number, whole or not. -/
def Factors.valueOf (f : Factors) (q : ℚ) : ℚ :=
  (q * f.m + f.b * 10 ^ f.bExponent) * 10 ^ f.rExponent

/-- The number that belongs to a value. -/
def Factors.quotient (f : Factors) (value : ℚ) : ℚ :=
  (value / 10 ^ f.rExponent - f.b * 10 ^ f.bExponent) / f.m

section Linear
variable {libm : Libm} {f : Factors}

theorem quotient_valueOf (h : f.Linear) (q : ℚ) : f.quotient (f.valueOf q) = q := by
  have hm : (f.m : ℚ) ≠ 0 := Int.cast_ne_zero.mpr h.m_ne
  rw [Factors.quotient, Factors.valueOf, mul_div_cancel_right₀ _ (by positivity),
    add_sub_cancel_right, mul_div_cancel_right₀ _ hm]

theorem valueOf_quotient (h : f.Linear) (v : ℚ) : f.valueOf (f.quotient v) = v := by
  have hm : (f.m : ℚ) ≠ 0 := Int.cast_ne_zero.mpr h.m_ne
  rw [Factors.valueOf, Factors.quotient, div_mul_cancel₀ _ hm, sub_add_cancel,
    div_mul_cancel₀ _ (by positivity)]

theorem valueOf_sub (p q : ℚ) : f.valueOf p - f.valueOf q = (p - q) * (f.m * 10 ^ f.rExponent) := by
  rw [Factors.valueOf, Factors.valueOf]
  ring

/-- Distances of values are distances of numbers, by a constant factor. -/
theorem valueOf_nearer_iff (h : f.Linear) (a b q : ℚ) :
    |f.valueOf a - f.valueOf q| ≤ |f.valueOf b - f.valueOf q| ↔ |a - q| ≤ |b - q| := by
  have hm : (f.m : ℚ) ≠ 0 := Int.cast_ne_zero.mpr h.m_ne
  have hpos : 0 < |(f.m : ℚ) * 10 ^ f.rExponent| := abs_pos.mpr (mul_ne_zero hm (by positivity))
  rw [valueOf_sub, valueOf_sub, abs_mul (a - q), abs_mul (b - q), mul_le_mul_iff_left₀ hpos]

theorem decodeValue_eq (libm : Libm) (h : f.Linear) (rawData : Byte) :
    ipmiSensorDecodeValue libm f rawData
      = .ok (f.valueOf (rawNumber f.analogDataFormat rawData)) := by
  have hcurve : linearizationIsLinear linearizationLinear = true := by decide
  rw [ipmiSensorDecodeValue, h.linearization, h.format, hcurve]
  rfl

theorem decodeRawValue_eq (libm : Libm) (h : f.Linear) {v : ℚ} (hlow : -128 ≤ f.quotient v)
    (hhigh : f.quotient v ≤ 255) :
    ipmiSensorDecodeRawValue libm f v = rawByte f.analogDataFormat (handRounded (f.quotient v)) := by
  have hcurve : linearizationIsLinear linearizationLinear = true := by decide
  have hround := roundByHand_eq hlow hhigh
  rw [ipmiSensorDecodeRawValue, h.linearization, h.format, hcurve]
  simp only [Bool.not_true, Bool.or_self, Bool.false_eq_true, if_false, ne_eq, h.m_ne,
    not_false_eq_true, if_true]
  exact (congrArg (· >>= rawByte f.analogDataFormat) hround).trans (ok_bind _ _)

theorem lowest_ge (analogDataFormat : Byte) : -128 ≤ lowest analogDataFormat := by
  rw [lowest]
  split_ifs <;> decide

theorem highest_le (analogDataFormat : Byte) : highest analogDataFormat ≤ 255 := by
  rw [highest]
  split_ifs <;> decide

/-- A value between two decodable ones. -/
def Between (libm : Libm) (f : Factors) (v : ℚ) : Prop :=
  ∃ x₁ x₂ v₁ v₂, ipmiSensorDecodeValue libm f x₁ = .ok v₁ ∧ ipmiSensorDecodeValue libm f x₂ = .ok v₂ ∧
    v₁ ≤ v ∧ v ≤ v₂

/-- The number of such a value is in the range of the format. -/
theorem Between.quotient_bounds (h : f.Linear) {v : ℚ} (hv : Between libm f v) :
    lowest f.analogDataFormat ≤ f.quotient v ∧ f.quotient v ≤ highest f.analogDataFormat := by
  obtain ⟨x₁, x₂, v₁, v₂, h₁, h₂, hle₁, hle₂⟩ := hv
  rw [decodeValue_eq libm h] at h₁ h₂
  cases h₁
  cases h₂
  obtain ⟨hlow₁, hhigh₁⟩ := rawNumber_bounds f.analogDataFormat x₁
  obtain ⟨hlow₂, hhigh₂⟩ := rawNumber_bounds f.analogDataFormat x₂
  generalize rawNumber f.analogDataFormat x₁ = n₁ at *
  generalize rawNumber f.analogDataFormat x₂ = n₂ at *
  have hlow₁' : (lowest f.analogDataFormat : ℚ) ≤ n₁ := by exact_mod_cast hlow₁
  have hhigh₁' : (n₁ : ℚ) ≤ highest f.analogDataFormat := by exact_mod_cast hhigh₁
  have hlow₂' : (lowest f.analogDataFormat : ℚ) ≤ n₂ := by exact_mod_cast hlow₂
  have hhigh₂' : (n₂ : ℚ) ≤ highest f.analogDataFormat := by exact_mod_cast hhigh₂
  have hpow : (0 : ℚ) < 10 ^ f.rExponent := by positivity
  have hv := valueOf_quotient h v
  have hsub₁ := valueOf_sub (f := f) (f.quotient v) n₁
  have hsub₂ := valueOf_sub (f := f) n₂ (f.quotient v)
  rw [hv] at hsub₁ hsub₂
  have hpos₁ : 0 ≤ (f.quotient v - n₁) * (f.m * 10 ^ f.rExponent) := by linarith
  have hpos₂ : 0 ≤ (n₂ - f.quotient v) * (f.m * 10 ^ f.rExponent) := by linarith
  rcases lt_or_gt_of_ne h.m_ne with hm | hm
  · have hfactor : (f.m : ℚ) * 10 ^ f.rExponent < 0 :=
      mul_neg_of_neg_of_pos (Int.cast_lt_zero.mpr hm) hpow
    have hq₁ := nonpos_of_mul_nonneg_left hpos₁ hfactor
    have hq₂ := nonpos_of_mul_nonneg_left hpos₂ hfactor
    constructor <;> linarith
  · have hfactor : (0 : ℚ) < f.m * 10 ^ f.rExponent := mul_pos (Int.cast_pos.mpr hm) hpow
    have hq₁ := nonneg_of_mul_nonneg_left hpos₁ hfactor
    have hq₂ := nonneg_of_mul_nonneg_left hpos₂ hfactor
    constructor <;> linarith

/-! ### There and back -/

/-- Decoding a byte and encoding the value leads to a byte with the same value, and to the byte
    itself but for the second zero in 1's complement. -/
def RoundTrips (libm : Libm) (f : Factors) : Prop :=
  ∀ x, ∃ v y, ipmiSensorDecodeValue libm f x = .ok v ∧ ipmiSensorDecodeRawValue libm f v = .ok y ∧
    ipmiSensorDecodeValue libm f y = .ok v ∧
    (y = x ∨ (f.analogDataFormat = analogDataFormat1sComplement ∧ x = 0xFF ∧ y = 0))

/-- The byte for a value is one whose own value is nearest to it. -/
def NearestAt (libm : Libm) (f : Factors) (v : ℚ) : Prop :=
  ∃ y w, ipmiSensorDecodeRawValue libm f v = .ok y ∧ ipmiSensorDecodeValue libm f y = .ok w ∧
    ∀ x u, ipmiSensorDecodeValue libm f x = .ok u → |w - v| ≤ |u - v|

theorem handRounded_intCast (n : ℤ) : handRounded (n : ℚ) = n := by
  rw [handRounded, Int.ceil_intCast, Int.floor_intCast, ite_self]

theorem roundTrips (h : f.Linear) : RoundTrips libm f := by
  intro x
  obtain ⟨hlow, hhigh⟩ := rawNumber_bounds f.analogDataFormat x
  have hlow' := (lowest_ge f.analogDataFormat).trans hlow
  have hhigh' := hhigh.trans (highest_le f.analogDataFormat)
  have hquotient := quotient_valueOf h (rawNumber f.analogDataFormat x : ℚ)
  have hraw : ipmiSensorDecodeRawValue libm f (f.valueOf (rawNumber f.analogDataFormat x))
      = .ok (if f.analogDataFormat = analogDataFormat1sComplement ∧ x = 0xFF then 0 else x) := by
    rw [decodeRawValue_eq libm h (by rw [hquotient]; exact_mod_cast hlow')
      (by rw [hquotient]; exact_mod_cast hhigh'), hquotient, handRounded_intCast, rawByte_rawNumber]
  refine ⟨_, _, decodeValue_eq libm h x, hraw, ?_, ?_⟩
  · rw [decodeValue_eq libm h]
    split
    · rename_i hzero
      rw [hzero.1, hzero.2]
      rfl
    · rfl
  · split
    · rename_i hzero
      exact Or.inr ⟨hzero.1, hzero.2, rfl⟩
    · exact Or.inl rfl

theorem nearestAt_iff (h : f.Linear) {v : ℚ} (hv : Between libm f v) :
    NearestAt libm f v ↔ 0 ≤ f.quotient v ∨ f.quotient v - ⌊f.quotient v⌋ ≤ 1 / 2 := by
  obtain ⟨hlow, hhigh⟩ := hv.quotient_bounds h
  have hlow' : (-128 : ℚ) ≤ lowest f.analogDataFormat := by
    exact_mod_cast lowest_ge f.analogDataFormat
  have hhigh' : (highest f.analogDataFormat : ℚ) ≤ 255 := by
    exact_mod_cast highest_le f.analogDataFormat
  obtain ⟨hnlow, hnhigh⟩ := handRounded_bounds hlow hhigh
  obtain ⟨y, hy, hnumber⟩ := rawByte_ok hnlow hnhigh
  have hraw := decodeRawValue_eq libm h (hlow'.trans hlow) (hhigh.trans hhigh')
  rw [hy] at hraw
  have hdecode := decodeValue_eq libm h y
  rw [hnumber] at hdecode
  have hvalue := valueOf_quotient h v
  rw [← handRounded_nearest_iff hlow hhigh]
  constructor
  · rintro ⟨y', w, hraw', hdecode', hnear⟩ n hn hn'
    rw [hraw] at hraw'
    cases hraw'
    rw [hdecode] at hdecode'
    cases hdecode'
    obtain ⟨x, -, hx⟩ := rawByte_ok hn hn'
    have hle := hnear x _ (decodeValue_eq libm h x)
    rw [hx, ← hvalue] at hle
    rw [quotient_valueOf h] at hle
    exact (valueOf_nearer_iff h _ _ _).mp hle
  · intro hnear
    refine ⟨y, _, hraw, hdecode, ?_⟩
    intro x u hu
    rw [decodeValue_eq libm h] at hu
    cases hu
    obtain ⟨hn, hn'⟩ := rawNumber_bounds f.analogDataFormat x
    have hle := (valueOf_nearer_iff h _ _ _).mpr (hnear _ hn hn')
    rwa [hvalue] at hle

/-- The conversions of a linear sensor are inverse to each other, and the byte for a value between
    two decodable ones is a nearest one exactly when the quotient is not negative or at most one half
    above the whole number below it. -/
theorem sensorConversion_iff (h : f.Linear) {v : ℚ} (hv : Between libm f v) :
    (RoundTrips libm f ∧ NearestAt libm f v) ↔
      0 ≤ f.quotient v ∨ f.quotient v - ⌊f.quotient v⌋ ≤ 1 / 2 := by
  rw [← nearestAt_iff h hv]
  exact and_iff_right (roundTrips h)

end Linear

/-! ### A threshold below zero -/

/-- A mathematical library; a linear sensor uses none of it. -/
def noLibm : Libm := ⟨id, id, id, id, id, id, id, id⟩

/-- A temperature in degrees, in 2's complement. -/
def celsius : Factors := ⟨0, 0, 1, 0, linearizationLinear, analogDataFormat2sComplement⟩

theorem celsius_linear : celsius.Linear := ⟨rfl, by decide, by decide⟩

theorem celsius_valueOf (q : ℚ) : celsius.valueOf q = q := by
  simp [Factors.valueOf, celsius]

theorem celsius_quotient (v : ℚ) : celsius.quotient v = v := by
  have h := quotient_valueOf celsius_linear v
  rwa [celsius_valueOf] at h

theorem celsius_decode (rawData : Byte) :
    ipmiSensorDecodeValue noLibm celsius rawData = .ok (rawData.toInt : ℚ) := by
  rw [decodeValue_eq _ celsius_linear, celsius_valueOf]
  rfl

theorem celsius_between : Between noLibm celsius (-16 / 5) :=
  ⟨0xFC, 0xFD, -4, -3, celsius_decode _, celsius_decode _, by norm_num, by norm_num⟩

theorem sensorConversion_iff_celsius : celsius.Linear ∧ Between noLibm celsius (-16 / 5) ∧
    ((RoundTrips noLibm celsius ∧ NearestAt noLibm celsius (-16 / 5)) ↔
      0 ≤ celsius.quotient (-16 / 5)
        ∨ celsius.quotient (-16 / 5) - ⌊celsius.quotient (-16 / 5)⌋ ≤ 1 / 2) :=
  ⟨celsius_linear, celsius_between, sensorConversion_iff celsius_linear celsius_between⟩

/-- The threshold -3.2 is stored as -4, and -3 is nearer. -/
theorem sensorConversion_rounds_down :
    celsius.Linear ∧ Between noLibm celsius (-16 / 5)
      ∧ ipmiSensorDecodeRawValue noLibm celsius (-16 / 5) = .ok 0xFC
      ∧ ipmiSensorDecodeValue noLibm celsius 0xFC = .ok (-4)
      ∧ ipmiSensorDecodeValue noLibm celsius 0xFD = .ok (-3)
      ∧ ¬ NearestAt noLibm celsius (-16 / 5) := by
  have hfloor : ⌊(-16 / 5 : ℚ)⌋ = -4 := by norm_num
  have hrounded : handRounded (-16 / 5) = -4 := by
    rw [handRounded, hfloor, if_neg (by norm_num)]
  have hraw : ipmiSensorDecodeRawValue noLibm celsius (-16 / 5) = .ok 0xFC := by
    rw [decodeRawValue_eq _ celsius_linear (by rw [celsius_quotient]; norm_num)
      (by rw [celsius_quotient]; norm_num), celsius_quotient, hrounded]
    decide
  refine ⟨celsius_linear, celsius_between, hraw, celsius_decode _, celsius_decode _, ?_⟩
  rw [nearestAt_iff celsius_linear celsius_between, celsius_quotient, hfloor]
  norm_num

end FreeIpmi.Sensor
