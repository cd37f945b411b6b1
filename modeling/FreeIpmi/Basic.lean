import FreeIpmi.Lib.ByteBits

/-! How calls into the library end.

    A C call either returns a value, or returns `-1` with a reason (the `errnum` of a fiid object or
    `errno`), or has no defined result at all: C leaves its behaviour undefined, or an `assert`
    fails. `Stop` collects everything but the plain return, so `Except Stop α` is one call. -/

namespace FreeIpmi
export ByteBits (Byte bit window pack splice)

/-- The `FIID_ERR_*` codes that the modelled functions store in `obj->errnum`. -/
inductive FiidErr where
  | parameters | templateInvalid | fieldNotFound | overflow | maxFieldLenMismatch
  | keyFieldMismatch | flagsFieldMismatch | templateLengthMismatch | dataNotByteAligned
  | requiredFieldMissing | fixedLengthFieldInvalid | dataNotAvailable | notIdentical
  | internalError
  deriving DecidableEq, Repr

/-- The `errno` values that the modelled functions store themselves. -/
inductive Errno where | einval | emsgsize | enospc
  deriving DecidableEq, Repr

/-- Why a call does not return a value. -/
inductive Stop where
  | fiid (e : FiidErr)
  | errno (e : Errno)
  -- a shift by at least the operand's width, or an access outside an array
  | undefined
  | assertion
  deriving DecidableEq, Repr

/-- The call returns `-1` (rather than having no defined result). -/
def Stop.isReturn : Stop → Bool
  | .fiid _ => true
  | .errno _ => true
  | .undefined => false
  | .assertion => false

/-- `INT_MAX`. -/
def intMax : ℕ := 2147483647

/-- `BITS_ROUND_BYTES`: the bytes that hold a number of bits. -/
def bitsRoundBytes (bitsCount : ℕ) : ℕ := bitsCount / 8 + if bitsCount % 8 ≠ 0 then 1 else 0

theorem bitsRoundBytes_of_aligned {n : ℕ} (h : n % 8 = 0) : bitsRoundBytes n = n / 8 := by
  simp [bitsRoundBytes, h]

theorem bitsRoundBytes_mul (n : ℕ) : bitsRoundBytes (8 * n) = n := by
  rw [bitsRoundBytes_of_aligned (by omega)]; omega

end FreeIpmi
