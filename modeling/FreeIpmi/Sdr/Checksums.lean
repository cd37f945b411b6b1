import FreeIpmi.Sdr.RoundTrip

/-! The laws of the checksum (`util/ipmi-util.c`), and the checksum at the end of a cache.

    `_checksum` counts in an `int8_t`, and the remainder of a negative number is negative in C; what is
    stored is the sum modulo 256 all the same. The sum of a list does not depend on how it is cut into
    pieces, so the writer of a cache, which takes up one record after the other, and the reader, which
    takes the file as a whole, agree. -/

namespace FreeIpmi.Sdr
open Calls LittleEndian

/-! ### Sums in an `int8_t` -/

/-- `checksum = (checksum + buf[i]) % 256`: the sum is an `int`, the result an `int8_t`. -/
def checksumRound (checksum b : Byte) : Byte := BitVec.ofInt 8 ((checksum.toInt + b.toNat).tmod 256)

theorem checksumRound_eq (checksum b : Byte) : checksumRound checksum b = checksum + b := by
  have hsigned : checksum.toInt % 256 = checksum.toNat := by
    rw [BitVec.toInt_eq_toNat_cond]
    have hlt := checksum.isLt
    split <;> omega
  apply BitVec.eq_of_toNat_eq
  rw [checksumRound, BitVec.toNat_ofInt, BitVec.toNat_add, Int.tmod_eq_emod]
  split <;> omega

/-- The rounds of `_checksum` add up the bytes. -/
theorem checksum_rounds (buf : List Byte) (checksumInitial : Byte) :
    buf.foldl checksumRound checksumInitial = checksum buf checksumInitial := by
  rw [checksum, show checksumRound = (· + ·) from funext₂ checksumRound_eq]

/-! ### Pieces -/

theorem checksum_eq_add (buf : List Byte) (checksumInitial : Byte) :
    checksum buf checksumInitial = checksumInitial + checksum buf 0 := by
  induction buf generalizing checksumInitial with
  | nil => simp [checksum]
  | cons b buf ih =>
    have hhead : ∀ c, checksum (b :: buf) c = checksum buf (c + b) := fun _ => rfl
    rw [hhead, hhead, ih (checksumInitial + b), ih (0 + b), zero_add, add_assoc]

/-- The checksum as a number. -/
theorem toNat_checksum (buf : List Byte) :
    (checksum buf 0).toNat = (buf.map BitVec.toNat).sum % 256 := by
  induction buf with
  | nil => rfl
  | cons b buf ih =>
    have hhead : checksum (b :: buf) 0 = b + checksum buf 0 := by
      rw [← checksum_eq_add]
      exact congrArg (checksum buf) (zero_add b)
    rw [hhead, BitVec.toNat_add, ih, List.map_cons, List.sum_cons, Nat.add_mod_mod]

/-- The sum of a list that is taken up piece by piece. -/
theorem checksum_flatten (pieces : List (List Byte)) (checksumInitial : Byte) :
    checksum pieces.flatten checksumInitial
      = pieces.foldl (fun c piece => ipmiChecksumIncremental piece c) checksumInitial := by
  induction pieces generalizing checksumInitial with
  | nil => rfl
  | cons piece pieces ih =>
    rw [List.flatten_cons, checksum_append, ih]
    rfl

theorem sum_add_ipmiChecksum (a : List Byte) :
    ((a.map BitVec.toNat).sum + (ipmiChecksum a).toNat) % 256 = 0 := by
  have hneg : checksum a 0 + ipmiChecksum a = 0 := add_neg_cancel _
  have hnat := congrArg BitVec.toNat hneg
  rwa [BitVec.toNat_add, toNat_checksum, Nat.mod_add_mod] at hnat

theorem ipmiChecksum_flatten (pieces : List (List Byte)) (last : List Byte) :
    ipmiChecksum (pieces.flatten ++ last) = ipmiChecksumFinal last
      (pieces.foldl (fun c piece => ipmiChecksumIncremental piece c) 0) := by
  rw [ipmiChecksum, ipmiChecksumFinal, checksum_append, checksum_flatten]

/-! ### The end of a cache -/

/-- The checksum that the writer puts at the end of a file: it has taken up the records one by one, and
    last the length of the file. -/
def writerChecksum (file : List Byte) (written : List (List Byte)) : Byte :=
  ipmiChecksumFinal (fileLength file.length)
    (written.foldl (fun c record => ipmiChecksumIncremental record c) 0)

section Cache
variable {info : SdrInfo} {records : List (List Byte)}

theorem writerChecksum_eq (file : List Byte) (written : List (List Byte)) :
    writerChecksum file written = ipmiChecksum (written.flatten ++ fileLength file.length) :=
  (ipmiChecksum_flatten written _).symm

/-- A file in front of its last byte. -/
theorem cacheFile_eq (info : SdrInfo) (records : List (List Byte)) :
    cacheFile info records = fileHeader info
      ++ (records.flatten ++ fileLength (cacheFile info records).length
        ++ [writerChecksum (cacheFile info records) records]) := by
  rw [writerChecksum_eq, length_cacheFile, cacheFile, fileTrailer, List.append_assoc]

/-- The reader finds the checksum of the writer behind the bytes that it sums up. -/
theorem cacheFile_checksum (info : SdrInfo) (records : List (List Byte)) :
    ∃ summed, readBytes (cacheFile info records) 20 ((cacheFile info records).length - 20 - 1)
        = .ok summed ∧
      readByte (cacheFile info records) ((cacheFile info records).length - 1)
        = .ok (writerChecksum (cacheFile info records) records) ∧
      ipmiChecksum summed = writerChecksum (cacheFile info records) records := by
  have hfile := cacheFile_eq info records
  have hlen := length_cacheFile info records
  have hsummed : (records.flatten ++ fileLength (cacheFile info records).length).length
      = (cacheFile info records).length - 20 - 1 := by
    rw [List.length_append, length_fileLength, hlen]
    omega
  refine ⟨_, readBytes_at hfile (length_fileHeader info).symm hsummed, ?_, (writerChecksum_eq _ _).symm⟩
  refine readByte_at (a := fileHeader info ++ (records.flatten ++ fileLength
    (cacheFile info records).length)) (c := []) ?_ ?_
  · rw [List.append_assoc, ← hfile]
  · rw [List.length_append, hsummed, length_fileHeader]
    omega

end Cache

/-- The laws of the checksum: with it the sum is 0, the pieces of a list may be taken up one by one, and
    in every cache that is created, whatever the BMC answers, the reader computes the checksum that the
    writer has taken up from the records. -/
theorem checksum_laws :
    (∀ a : List Byte, ((a.map BitVec.toNat).sum + (ipmiChecksum a).toNat) % 256 = 0) ∧
      (∀ a b : List Byte, ipmiChecksum (a ++ b) = ipmiChecksumFinal b (ipmiChecksumIncremental a 0)) ∧
      (∀ (pieces : List (List Byte)) (last : List Byte), ipmiChecksum (pieces.flatten ++ last)
        = ipmiChecksumFinal last (pieces.foldl (fun c piece => ipmiChecksumIncremental piece c) 0)) ∧
      ∀ (σ : Type) (bmc : Bmc σ) (fuel : ℕ) (fileExists : Bool) (flags : BitVec 32) (s : σ)
        (created : Created), ipmiSdrCacheCreate bmc fuel fileExists flags s = .ok created →
        ∃ summed, readBytes created.file 20 (created.file.length - 20 - 1) = .ok summed ∧
          readByte created.file (created.file.length - 1)
            = .ok (writerChecksum created.file created.written) ∧
          ipmiChecksum summed = writerChecksum created.file created.written := by
  refine ⟨sum_add_ipmiChecksum, ?_, ipmiChecksum_flatten, ?_⟩
  · intro a b
    have hpieces := ipmiChecksum_flatten [a] b
    rwa [List.flatten_cons, List.flatten_nil, List.append_nil] at hpieces
  · intro σ bmc fuel fileExists flags s created h
    have hcache := cacheFile_checksum created.info created.written
    rwa [← (ipmiSdrCacheCreate_ok h).1] at hcache

theorem checksum_laws_sample : ipmiChecksum ([0xFF, 0x80] ++ [0x7F])
      = ipmiChecksumFinal [0x7F] (ipmiChecksumIncremental [0xFF, 0x80] 0) ∧
    ∃ summed, readBytes sampleCreated.file 20 (sampleCreated.file.length - 20 - 1) = .ok summed ∧
      readByte sampleCreated.file (sampleCreated.file.length - 1)
        = .ok (writerChecksum sampleCreated.file sampleCreated.written) ∧
      ipmiChecksum summed = writerChecksum sampleCreated.file sampleCreated.written :=
  ⟨checksum_laws.2.1 _ _, checksum_laws.2.2.2 ℕ sampleBmc 5 true
    (sdrCacheCreateFlagsOverwrite ||| sdrCacheCreateFlagsDuplicateRecordId) 0 sampleCreated rfl⟩

end FreeIpmi.Sdr
