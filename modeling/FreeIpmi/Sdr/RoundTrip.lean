import FreeIpmi.Sdr.CacheCreate
import FreeIpmi.Sdr.CacheRead

/-! An SDR cache gives back what was written into it.

    Writer and reader meet at `cacheFile`, the layout of a finished file. The writer keeps the
    invariant `Creation.Inv` over every answer of the BMC, so that a successful creation leaves a
    file of this layout; the reader finds its offsets there and walks from record to record. -/

namespace FreeIpmi.Sdr
open Calls LittleEndian

/-! ### The layout -/

/-- A record with all the bytes that its length byte announces. -/
structure Whole (r : List Byte) : Prop where
  header : sdrRecordHeaderLength ≤ r.length
  length : r.length = (r.getD sdrRecordLengthIndex 0).toNat + sdrRecordHeaderLength

/-- The id of a record. -/
def recordIdOfRecord (r : List Byte) : BitVec 16 :=
  recordIdOf (r.getD sdrRecordIdIndexLs 0) (r.getD sdrRecordIdIndexMs 0)

/-- The header of a file, with its checksum. -/
def fileHeader (info : SdrInfo) : List Byte := headerBuf info ++ [ipmiChecksum (headerBuf info)]

/-- The length bytes at the end of a file of `n` bytes. -/
def fileLength (n : ℕ) : List Byte := leBytes 4 (n % 2 ^ 32)

/-- The trailer behind some records: the length of the file, and the checksum of what follows the
    header. -/
def fileTrailer (records : List (List Byte)) : List Byte :=
  fileLength (20 + records.flatten.length + 5)
    ++ [ipmiChecksum (records.flatten ++ fileLength (20 + records.flatten.length + 5))]

/-- A finished file. -/
def cacheFile (info : SdrInfo) (records : List (List Byte)) : List Byte :=
  fileHeader info ++ (records.flatten ++ fileTrailer records)

@[simp] theorem length_headerBuf (info : SdrInfo) : (headerBuf info).length = 19 := by
  simp [headerBuf, sdrCacheFileMagic, sdrCacheFileVersion12]

@[simp] theorem length_fileHeader (info : SdrInfo) : (fileHeader info).length = 20 := by
  simp [fileHeader]

@[simp] theorem length_fileLength (n : ℕ) : (fileLength n).length = 4 := length_leBytes _ _

@[simp] theorem length_cacheFile (info : SdrInfo) (records : List (List Byte)) :
    (cacheFile info records).length = 20 + records.flatten.length + 5 := by
  simp only [cacheFile, fileTrailer, List.length_append, length_fileHeader, length_fileLength,
    List.length_singleton]
  omega

theorem length_flatten_le : ∀ {records : List (List Byte)}, (∀ r ∈ records, Whole r) →
    records.flatten.length ≤ 260 * records.length
  | [], _ => Nat.le_refl _
  | r :: rs, h => by
    have hrs := length_flatten_le fun r' hr' => h r' (List.mem_cons_of_mem _ hr')
    have hr := (h r (List.mem_cons_self ..)).length
    have hbyte := (r.getD sdrRecordLengthIndex 0).isLt
    simp only [sdrRecordHeaderLength] at hr
    rw [List.flatten_cons, List.length_append, List.length_cons]
    omega

/-! ### Writing -/

theorem Fd.write_end {fd : Fd} (h : fd.offset = fd.content.length) (buf : List Byte) :
    fd.write buf = ⟨fd.content ++ buf, (fd.content ++ buf).length⟩ := by
  have hdrop : fd.content.drop (fd.content.length + buf.length) = [] :=
    List.drop_eq_nil_of_le (Nat.le_add_right ..)
  rw [Fd.write, h, List.take_length, hdrop, List.append_nil, List.length_append]

/-- Two writes over the front of a file. -/
theorem Fd.write_front (fd : Fd) (a b : List Byte) :
    ((fd.seekSet.write a).write b).content = a ++ b ++ fd.content.drop (a.length + b.length) := by
  simp only [Fd.seekSet, Fd.write, List.take_zero, List.nil_append, Nat.zero_add]
  rw [List.take_append_of_le_length (Nat.le_refl _), List.take_length, List.drop_append,
    List.drop_eq_nil_of_le (Nat.le_add_right ..), List.nil_append, List.drop_drop,
    Nat.add_sub_cancel_left]

/-- What has been written after any number of records. -/
structure Creation.Inv (info : SdrInfo) (c : Creation) : Prop where
  content : c.fd.content = fileHeader info ++ c.written.flatten
  offset : c.fd.offset = c.fd.content.length
  total : c.totalBytesWritten = c.fd.content.length
  checksum : c.trailerChecksum = checksum c.written.flatten 0
  whole : ∀ r ∈ c.written, Whole r
  count : c.recordCountWritten = c.written.length
  ids : ∀ ids, c.recordIds = some ids → ids = c.written.map recordIdOfRecord ∧ ids.Nodup

section Create
variable {info : SdrInfo} {recordCount : ℕ} {c c' : Creation} {buf : List Byte}

theorem checkRecordId_ok {ids ids' : Option (List (BitVec 16))}
    (h : checkRecordId recordCount buf ids = .ok ids') :
    (ids = none ∧ ids' = none) ∨ ∃ l, ids = some l ∧ recordIdOfRecord buf ∉ l ∧
      ids' = some (l ++ [recordIdOfRecord buf]) := by
  rcases ids with _ | l
  · cases h
    exact Or.inl ⟨rfl, rfl⟩
  · simp only [checkRecordId] at h
    split at h
    · cases h
    · rename_i hnew
      split at h
      · cases h
      · cases h
        exact Or.inr ⟨l, rfl, hnew, rfl⟩

/-- The bytes that `_sdr_cache_record_write` keeps are one whole record. -/
theorem whole_take
    (hfits : (buf.getD sdrRecordLengthIndex 0).toNat + sdrRecordHeaderLength ≤ buf.length) :
    Whole (buf.take ((buf.getD sdrRecordLengthIndex 0).toNat + sdrRecordHeaderLength)) := by
  have hlen : (buf.take ((buf.getD sdrRecordLengthIndex 0).toNat + sdrRecordHeaderLength)).length
      = (buf.getD sdrRecordLengthIndex 0).toNat + sdrRecordHeaderLength := by
    rw [List.length_take, min_eq_left hfits]
  have hbyte : (buf.take ((buf.getD sdrRecordLengthIndex 0).toNat
      + sdrRecordHeaderLength)).getD sdrRecordLengthIndex 0 = buf.getD sdrRecordLengthIndex 0 := by
    simp only [List.getD_eq_getElem?_getD]
    rw [List.getElem?_take_of_lt (by simp only [sdrRecordLengthIndex, sdrRecordHeaderLength]; omega)]
  refine ⟨?_, ?_⟩
  · rw [hlen]
    exact Nat.le_add_left ..
  · rw [hlen, hbyte]

theorem sdrCacheRecordWrite_ok (h : sdrCacheRecordWrite recordCount c buf = .ok c') :
    ∃ r ids, Whole r ∧ checkRecordId recordCount r c.recordIds = .ok ids ∧
      c' = ⟨c.fd.write r, c.totalBytesWritten + r.length, ids, c.recordCountWritten,
        ipmiChecksumIncremental r c.trailerChecksum, c.written ++ [r]⟩ := by
  simp only [sdrCacheRecordWrite] at h
  split at h
  · cases h
  · split at h
    · cases h
    · obtain ⟨ids, hids, h⟩ := bind_eq_ok.mp h
      cases h
      exact ⟨_, ids, whole_take (by omega), hids, rfl⟩

/-- One more record. -/
theorem Creation.Inv.recordWrite (hinv : c.Inv info)
    (h : sdrCacheRecordWrite recordCount c buf = .ok c') :
    ({ c' with recordCountWritten := c'.recordCountWritten + 1 } : Creation).Inv info := by
  obtain ⟨r, ids, hr, hids, rfl⟩ := sdrCacheRecordWrite_ok h
  have hwrite := Fd.write_end hinv.offset r
  have hflat : (c.written ++ [r]).flatten = c.written.flatten ++ r := by simp
  constructor
  · rw [hwrite, hflat, hinv.content, List.append_assoc]
  · rw [hwrite]
  · rw [hwrite, List.length_append, hinv.total]
  · rw [hflat, checksum_append, ← hinv.checksum]
    rfl
  · intro r' hr'
    rcases List.mem_append.mp hr' with hold | hnew
    · exact hinv.whole r' hold
    · obtain rfl := List.mem_singleton.mp hnew
      exact hr
  · rw [List.length_append, List.length_singleton, hinv.count]
  · intro l hl
    rcases checkRecordId_ok hids with ⟨-, rfl⟩ | ⟨l', hl', hnotin, rfl⟩
    · cases hl
    · cases hl
      obtain ⟨rfl, hnodup⟩ := hinv.ids l' hl'
      refine ⟨by simp, ?_⟩
      rw [List.nodup_append]
      refine ⟨hnodup, List.nodup_singleton _, ?_⟩
      rintro a ha b hb rfl
      obtain rfl := List.mem_singleton.mp hb
      exact hnotin ha

/-- The ids are collected from the start or never. -/
theorem recordIds_isSome (h : sdrCacheRecordWrite recordCount c buf = .ok c') :
    c'.recordIds.isSome = c.recordIds.isSome := by
  obtain ⟨r, ids, -, hids, rfl⟩ := sdrCacheRecordWrite_ok h
  rcases checkRecordId_ok hids with ⟨hnone, rfl⟩ | ⟨l, hl, -, rfl⟩
  · rw [hnone]
  · rw [hl]
    rfl

variable {σ : Type} {bmc : Bmc σ}

/-- The loop keeps the invariant, whatever the BMC answers. -/
theorem createLoop_inv {assumeMax : Bool} : ∀ {fuel : ℕ} {next reservationId next' : BitVec 16}
    {c : Creation} {s : σ}, c.Inv info → c.recordCountWritten ≤ recordCount →
    createLoop bmc assumeMax recordCount fuel next reservationId c s = .ok (next', c') →
    c'.Inv info ∧ c'.recordCountWritten ≤ recordCount ∧ c'.recordIds.isSome = c.recordIds.isSome
  | 0, _, _, _, _, _, _, _, h => by cases h
  | fuel + 1, next, reservationId, next', c, s, hinv, hle, h => by
    rw [createLoop] at h
    split at h
    · cases h
      exact ⟨hinv, hle, rfl⟩
    · split at h
      · split at h
        · cases h
          exact ⟨hinv, hle, rfl⟩
        · cases h
      · rename_i hlt
        obtain ⟨⟨buf, reservationId', next'', s'⟩, -, h⟩ := bind_eq_ok.mp h
        simp only at h
        split at h
        · obtain ⟨c₁, hwrite, h⟩ := bind_eq_ok.mp h
          have hcount : c₁.recordCountWritten = c.recordCountWritten := by
            obtain ⟨r, ids, -, -, rfl⟩ := sdrCacheRecordWrite_ok hwrite
            rfl
          have hroom : c₁.recordCountWritten + 1 ≤ recordCount := by omega
          obtain ⟨hinv', hle', hids⟩ := createLoop_inv (hinv.recordWrite hwrite) hroom h
          have hsome := recordIds_isSome hwrite
          exact ⟨hinv', hle', hids.trans hsome⟩
        · exact createLoop_inv hinv hle h

/-- The header values of the finished file count the records that were written. -/
theorem rewriteHeader_ok {next : BitVec 16} {fd : Fd} {count : BitVec 16} (hinv : c.Inv info)
    (hle : c.recordCountWritten ≤ info.recordCount.toNat) (hpos : info.recordCount.toNat ≠ 0)
    (h : rewriteHeader info next c = .ok (fd, count)) :
    count.toNat = c.written.length ∧ c.written.length ≠ 0 ∧ fd.offset = fd.content.length ∧
      fd.content = fileHeader { info with recordCount := count } ++ c.written.flatten := by
  have hcount := hinv.count
  simp only [rewriteHeader] at h
  split at h
  · split at h
    · rename_i hlast
      cases h
      refine ⟨?_, by omega, rfl, ?_⟩
      · have hlt := info.recordCount.isLt
        rw [BitVec.toNat_ofNat, Nat.mod_eq_of_lt (by omega), hinv.count]
      · show (sdrCacheHeaderWrite c.fd.seekSet 0 _).1.content = _
        simp only [sdrCacheHeaderWrite, Fd.write_front]
        rw [hinv.content, length_headerBuf, List.length_singleton,
          List.drop_append_of_le_length (by simp), List.drop_eq_nil_of_le (by simp), List.nil_append]
        rfl
    · cases h
  · cases h
    exact ⟨by omega, by omega, hinv.offset, hinv.content⟩

/-- The file that the trailer finishes. -/
theorem sdrCacheTrailerWrite_content {fd : Fd} {records : List (List Byte)} {total : ℕ} {sum : Byte}
    (hoffset : fd.offset = fd.content.length) (hcontent : fd.content = fileHeader info ++ records.flatten)
    (htotal : total = fd.content.length) (hsum : sum = checksum records.flatten 0) :
    (sdrCacheTrailerWrite fd total sum).content = cacheFile info records := by
  have hlen : fd.content.length = 20 + records.flatten.length := by
    rw [hcontent, List.length_append, length_fileHeader]
  simp only [sdrCacheTrailerWrite]
  rw [Fd.write_end (by rw [Fd.write_end hoffset]), Fd.write_end hoffset, hcontent, htotal, hlen, hsum]
  simp only [cacheFile, fileTrailer, fileLength, ipmiChecksum, ipmiChecksumFinal, checksum_append,
    List.append_assoc]

/-- After the first header no record has been written. -/
theorem Creation.inv_header {ids : Option (List (BitVec 16))} (hids : ∀ l, ids = some l → l = []) :
    (⟨(sdrCacheHeaderWrite ⟨[], 0⟩ 0 info).1, (sdrCacheHeaderWrite ⟨[], 0⟩ 0 info).2,
      ids, 0, 0, []⟩ : Creation).Inv info where
  content := by
    have htake : (headerBuf info).take 19 = headerBuf info := List.take_of_length_le (by simp)
    have hdrop : (headerBuf info).drop 20 = [] := List.drop_eq_nil_of_le (by simp)
    simp [sdrCacheHeaderWrite, Fd.write, fileHeader, htake, hdrop]
  offset := by simp [sdrCacheHeaderWrite, Fd.write]
  total := by simp [sdrCacheHeaderWrite, Fd.write]
  checksum := rfl
  whole := by simp
  count := rfl
  ids l hl := by simp [hids l hl]

/-- A successful creation leaves a file of the layout. -/
theorem ipmiSdrCacheCreate_ok {fuel : ℕ} {fileExists : Bool} {flags : BitVec 32} {s : σ}
    {created : Created} (h : ipmiSdrCacheCreate bmc fuel fileExists flags s = .ok created) :
    created.file = cacheFile created.info created.written ∧
      created.info.recordCount.toNat = created.written.length ∧ created.written.length ≠ 0 ∧
      (∀ r ∈ created.written, Whole r) ∧
      (flags &&& sdrCacheCreateFlagsDuplicateRecordId ≠ 0 →
        (created.written.map recordIdOfRecord).Nodup) := by
  simp only [ipmiSdrCacheCreate] at h
  split at h
  · cases h
  · split at h
    · cases h
    · split at h
      · cases h
      · rename_i info s' hinfo
        split at h
        · cases h
        · rename_i hpos
          obtain ⟨⟨reservationId, s''⟩, -, h⟩ := bind_eq_ok.mp h
          obtain ⟨⟨next, c⟩, hloop, h⟩ := bind_eq_ok.mp h
          obtain ⟨⟨fd, count⟩, hrewrite, h⟩ := bind_eq_ok.mp h
          cases h
          have hids₀ : ∀ l, (if flags &&& sdrCacheCreateFlagsDuplicateRecordId ≠ 0 then some []
              else none : Option (List (BitVec 16))) = some l → l = [] := by
            intro l hl
            split at hl
            · cases hl
              rfl
            · cases hl
          obtain ⟨hinv, hle, hids⟩ := createLoop_inv (Creation.inv_header hids₀) (Nat.zero_le _) hloop
          have hpos' : info.recordCount.toNat ≠ 0 := fun h0 => hpos (BitVec.eq_of_toNat_eq h0)
          obtain ⟨hcount, hne, hoffset, hcontent⟩ := rewriteHeader_ok hinv hle hpos' hrewrite
          have hsame : c.fd.content.length = fd.content.length := by
            rw [hinv.content, hcontent]
            simp
          refine ⟨sdrCacheTrailerWrite_content hoffset hcontent (hinv.total.trans hsame)
            hinv.checksum, hcount, hne, hinv.whole, ?_⟩
          intro hflag
          rw [if_pos hflag] at hids
          obtain ⟨l, hl⟩ := Option.isSome_iff_exists.mp hids
          obtain ⟨rfl, hnodup⟩ := hinv.ids l hl
          exact hnodup

end Create

/-! ### Reading -/

theorem readBytes_at {file a b c : List Byte} (hfile : file = a ++ (b ++ c)) {i n : ℕ}
    (hi : a.length = i) (hn : b.length = n) : readBytes file i n = .ok b := by
  subst hi hn hfile
  have hle : a.length + b.length ≤ (a ++ (b ++ c)).length := by simp
  rw [readBytes, if_pos hle, List.drop_append_of_le_length (Nat.le_refl _), List.drop_length,
    List.nil_append, List.take_append_of_le_length (Nat.le_refl _), List.take_length]

theorem readByte_at {file a c : List Byte} {b : Byte} (hfile : file = a ++ (b :: c)) {i : ℕ}
    (hi : a.length = i) : readByte file i = .ok b := by
  subst hi hfile
  rw [readByte, List.getElem?_append_right (Nat.le_refl _), Nat.sub_self]
  rfl

section Open
variable {info : SdrInfo} {records : List (List Byte)}

/-- The records and the trailer of a finished file pass the checks of the second format. -/
theorem recordsRegion_cacheFile (hsmall : 20 + records.flatten.length + 5 < 2 ^ 32) :
    recordsRegion (cacheFile info records) sdrCacheFileVersion12 (headerBuf info)
      = .ok (20, 20 + records.flatten.length) := by
  have hlen := length_cacheFile info records
  have hheader : readByte (cacheFile info records) 19 = .ok (ipmiChecksum (headerBuf info)) :=
    readByte_at (a := headerBuf info) (c := records.flatten ++ fileTrailer records)
      (by simp [cacheFile, fileHeader]) (length_headerBuf info)
  have htotal : readBytes (cacheFile info records) ((cacheFile info records).length - 5) 4
      = .ok (fileLength (20 + records.flatten.length + 5)) :=
    readBytes_at (a := fileHeader info ++ records.flatten)
      (c := [ipmiChecksum (records.flatten ++ fileLength (20 + records.flatten.length + 5))])
      (by simp only [cacheFile, fileTrailer, List.append_assoc])
      (by rw [hlen, List.length_append, length_fileHeader]; omega) (length_fileLength _)
  have htrailer : readByte (cacheFile info records) ((cacheFile info records).length - 1)
      = .ok (ipmiChecksum (records.flatten ++ fileLength (20 + records.flatten.length + 5))) :=
    readByte_at (a := fileHeader info ++ (records.flatten
        ++ fileLength (20 + records.flatten.length + 5))) (c := [])
      (by simp only [cacheFile, fileTrailer, List.append_assoc])
      (by rw [hlen, List.length_append, List.length_append, length_fileHeader, length_fileLength]; omega)
  have hrecords : readBytes (cacheFile info records) 20 ((cacheFile info records).length - 20 - 1)
      = .ok (records.flatten ++ fileLength (20 + records.flatten.length + 5)) :=
    readBytes_at (a := fileHeader info)
      (c := [ipmiChecksum (records.flatten ++ fileLength (20 + records.flatten.length + 5))])
      (by simp only [cacheFile, fileTrailer, List.append_assoc]) (length_fileHeader info)
      (by rw [hlen, List.length_append, length_fileLength]; omega)
  have hvalue : leValue (fileLength (20 + records.flatten.length + 5))
      = (cacheFile info records).length := by
    rw [hlen, fileLength, Nat.mod_eq_of_lt hsmall, leValue_leBytes hsmall]
  simp only [recordsRegion, if_true, hheader, htotal, htrailer, hrecords, ok_bind, ne_eq,
    not_true_eq_false, if_false, hvalue]
  rw [if_neg (by omega), hlen]
  rfl

/-- A finished file is accepted, with the header values it was written with. -/
theorem ipmiSdrCacheOpen_cacheFile (hsmall : 20 + records.flatten.length + 5 < 2 ^ 32)
    {ipmiCtx : Option (Option SdrInfo)} (hcurrent : checkUpToDate info ipmiCtx = .ok ()) :
    ipmiSdrCacheOpen (cacheFile info records) ipmiCtx = .ok
      { sdrVersion := info.sdrVersion
        recordCount := info.recordCount
        mostRecentAdditionTimestamp := info.mostRecentAdditionTimestamp
        mostRecentEraseTimestamp := info.mostRecentEraseTimestamp
        sdrCache := cacheFile info records
        recordsStartOffset := 20
        recordsEndOffset := 20 + records.flatten.length
        currentOffset := 20
        savedOffsets := [] } := by
  have hlen := length_cacheFile info records
  -- the header, field by field
  let additionBuf := leBytes 4 info.mostRecentAdditionTimestamp.toNat
  let eraseBuf := leBytes 4 info.mostRecentEraseTimestamp.toNat
  let rest := ipmiChecksum (headerBuf info) :: (records.flatten ++ fileTrailer records)
  have hfile : cacheFile info records = sdrCacheFileMagic ++ (sdrCacheFileVersion12
      ++ (info.sdrVersion :: (leBytes 2 info.recordCount.toNat
        ++ (additionBuf ++ (eraseBuf ++ rest))))) := by
    simp [cacheFile, fileHeader, headerBuf, rest, additionBuf, eraseBuf]
  have hmagic : readBytes (cacheFile info records) 0 4 = .ok sdrCacheFileMagic :=
    readBytes_at (a := []) hfile rfl rfl
  have hversion : readBytes (cacheFile info records) 4 4 = .ok sdrCacheFileVersion12 :=
    readBytes_at hfile rfl rfl
  have hsdr : readByte (cacheFile info records) 8 = .ok info.sdrVersion :=
    readByte_at (a := sdrCacheFileMagic ++ sdrCacheFileVersion12) hfile rfl
  have hcount : readBytes (cacheFile info records) 9 2 = .ok (leBytes 2 info.recordCount.toNat) :=
    readBytes_at (a := sdrCacheFileMagic ++ (sdrCacheFileVersion12 ++ [info.sdrVersion])) hfile rfl rfl
  have haddition : readBytes (cacheFile info records) 11 4 = .ok additionBuf :=
    readBytes_at (a := sdrCacheFileMagic ++ (sdrCacheFileVersion12 ++ (info.sdrVersion
      :: leBytes 2 info.recordCount.toNat))) hfile rfl rfl
  have herase : readBytes (cacheFile info records) 15 4 = .ok eraseBuf :=
    readBytes_at (a := sdrCacheFileMagic ++ (sdrCacheFileVersion12 ++ (info.sdrVersion
      :: (leBytes 2 info.recordCount.toNat ++ additionBuf)))) hfile rfl rfl
  have hbuf : sdrCacheFileMagic ++ sdrCacheFileVersion12 ++ [info.sdrVersion]
      ++ leBytes 2 info.recordCount.toNat ++ additionBuf ++ eraseBuf = headerBuf info := rfl
  have hvalue : ∀ {w n : ℕ} (v : BitVec w), 2 ^ w = 256 ^ n →
      BitVec.ofNat w (leValue (leBytes n v.toNat)) = v := by
    intro w n v hw
    rw [leValue_leBytes (hw ▸ v.isLt), BitVec.ofNat_toNat, BitVec.setWidth_eq]
  rw [ipmiSdrCacheOpen, if_neg (by omega)]
  simp only [hmagic, hversion, hsdr, hcount, haddition, herase, ok_bind, ne_eq, not_true_eq_false,
    and_false, if_false, hbuf, recordsRegion_cacheFile hsmall]
  rw [hvalue info.recordCount (n := 2) (by norm_num),
    hvalue info.mostRecentAdditionTimestamp (n := 4) (by norm_num),
    hvalue info.mostRecentEraseTimestamp (n := 4) (by norm_num)]
  simp only [hcurrent, ok_bind]
  rfl

end Open

/-! ### Walking -/

/-- A reader that takes one record after the other until there is no next one. -/
def visitAll : ℕ → SdrCtx → Except SdrStop (List (List Byte))
  | 0, _ => .error .unfinished
  | n + 1, ctx => do
    let record ← ipmiSdrCacheRecordRead ctx sdrMaxRecordLength
    let (more, ctx) ← ipmiSdrCacheNext ctx
    if more then
      let records ← visitAll n ctx
      return record :: records
    else return [record]

/-- The cursor stands at the first of some whole records, behind which the region ends. -/
structure AtRecords (ctx : SdrCtx) (records : List (List Byte)) : Prop where
  file : ∃ a c, ctx.sdrCache = a ++ (records.flatten ++ c) ∧ a.length = ctx.currentOffset
  stop : ctx.recordsEndOffset = ctx.currentOffset + records.flatten.length
  whole : ∀ r ∈ records, Whole r

section Walk
variable {ctx : SdrCtx} {r : List Byte} {rs : List (List Byte)}

theorem AtRecords.recordLengthAt (h : AtRecords ctx (r :: rs)) :
    recordLengthAt ctx ctx.currentOffset = .ok (r.getD sdrRecordLengthIndex 0).toNat := by
  obtain ⟨a, c, hfile, ha⟩ := h.file
  have hr := h.whole r (List.mem_cons_self ..)
  have hlt : sdrRecordLengthIndex < r.length := hr.header
  have hbyte : ctx.sdrCache[ctx.currentOffset + sdrRecordLengthIndex]?
      = some (r.getD sdrRecordLengthIndex 0) := by
    rw [hfile, ← ha, List.getElem?_append_right (Nat.le_add_right ..), Nat.add_sub_cancel_left,
      List.flatten_cons, List.append_assoc, List.getElem?_append_left hlt,
      List.getD_eq_getElem?_getD, List.getElem?_eq_getElem hlt]
    rfl
  simp only [Sdr.recordLengthAt, readByte, hbyte, ok_bind]
  rfl

theorem AtRecords.recordRead (h : AtRecords ctx (r :: rs)) :
    ipmiSdrCacheRecordRead ctx sdrMaxRecordLength = .ok r := by
  obtain ⟨a, c, hfile, ha⟩ := h.file
  have hr := h.whole r (List.mem_cons_self ..)
  have hbyte := (r.getD sdrRecordLengthIndex 0).isLt
  have hfits : ¬ sdrMaxRecordLength
      < (r.getD sdrRecordLengthIndex 0).toNat + sdrRecordHeaderLength := by
    simp only [sdrMaxRecordLength, sdrRecordHeaderLength]
    omega
  rw [ipmiSdrCacheRecordRead, if_neg (by decide), h.recordLengthAt, ok_bind, if_neg hfits]
  refine readBytes_at (c := rs.flatten ++ c) ?_ ha hr.length
  rw [hfile, List.flatten_cons, List.append_assoc]

/-- At the last record there is no next one. -/
theorem AtRecords.next_last (h : AtRecords ctx [r]) : ipmiSdrCacheNext ctx = .ok (false, ctx) := by
  have hr := (h.whole r (List.mem_cons_self ..)).length
  have hstop := h.stop
  rw [List.flatten_cons, List.flatten_nil, List.append_nil] at hstop
  rw [ipmiSdrCacheNext, h.recordLengthAt, ok_bind, if_pos (by omega)]
  rfl

/-- At any other record the cursor moves to the one behind it. -/
theorem AtRecords.next_cons {r' : List Byte} (h : AtRecords ctx (r :: r' :: rs)) :
    ∃ ctx', ipmiSdrCacheNext ctx = .ok (true, ctx') ∧ AtRecords ctx' (r' :: rs) := by
  have hr := (h.whole r (List.mem_cons_self ..)).length
  have hr' := (h.whole r' (List.mem_cons_of_mem _ (List.mem_cons_self ..))).header
  have hstop := h.stop
  simp only [List.flatten_cons, List.length_append, sdrRecordHeaderLength] at hstop hr' hr
  refine ⟨{ ctx with currentOffset := ctx.currentOffset + sdrRecordHeaderLength
    + (r.getD sdrRecordLengthIndex 0).toNat }, ?_, ?_⟩
  · rw [ipmiSdrCacheNext, h.recordLengthAt, ok_bind,
      if_neg (by simp only [sdrRecordHeaderLength]; omega)]
    rfl
  · obtain ⟨a, c, hfile, ha⟩ := h.file
    refine ⟨⟨a ++ r, c, ?_, ?_⟩, ?_, fun x hx => h.whole x (List.mem_cons_of_mem _ hx)⟩
    · simp only [hfile, List.flatten_cons, List.append_assoc]
    · simp only [List.length_append, ha, sdrRecordHeaderLength]
      omega
    · simp only [hstop, List.flatten_cons, List.length_append, sdrRecordHeaderLength]
      omega

/-- The reader visits exactly these records, in their order. -/
theorem visitAll_eq : ∀ {r : List Byte} {rs : List (List Byte)} {ctx : SdrCtx},
    AtRecords ctx (r :: rs) → visitAll (r :: rs).length ctx = .ok (r :: rs)
  | r, [], ctx, h => by
    simp only [List.length_singleton, visitAll, h.recordRead, h.next_last, ok_bind]
    rfl
  | r, r' :: rs, ctx, h => by
    obtain ⟨ctx', hnext, h'⟩ := h.next_cons
    rw [List.length_cons, visitAll, h.recordRead, ok_bind, hnext, ok_bind]
    simp only [if_true, visitAll_eq h', ok_bind]
    rfl

end Walk

/-- A cache that was created is accepted, by a BMC that has not changed or without one, and gives
    back the records that were written, each of them whole, in their order. -/
theorem ipmiSdrCacheCreate_roundTrip {σ : Type} {bmc : Bmc σ} {fuel : ℕ} {fileExists : Bool}
    {flags : BitVec 32} {s : σ} {created : Created}
    (h : ipmiSdrCacheCreate bmc fuel fileExists flags s = .ok created) :
    (∀ ipmiCtx, checkUpToDate created.info ipmiCtx = .ok () →
      ∃ ctx, ipmiSdrCacheOpen created.file ipmiCtx = .ok ctx ∧
        ctx.recordCount.toNat = created.written.length ∧
        visitAll created.written.length (ipmiSdrCacheFirst ctx) = .ok created.written) ∧
      (∀ r ∈ created.written, r.length = (r.getD sdrRecordLengthIndex 0).toNat + 5) ∧
      (flags &&& sdrCacheCreateFlagsDuplicateRecordId ≠ 0 →
        (created.written.map recordIdOfRecord).Nodup) := by
  obtain ⟨hfile, hcount, hne, hwhole, hnodup⟩ := ipmiSdrCacheCreate_ok h
  refine ⟨fun ipmiCtx hcurrent => ?_, fun r hr => (hwhole r hr).length, hnodup⟩
  have hsmall : 20 + created.written.flatten.length + 5 < 2 ^ 32 := by
    have hlen := length_flatten_le hwhole
    have hlt := created.info.recordCount.isLt
    omega
  refine ⟨_, hfile ▸ ipmiSdrCacheOpen_cacheFile hsmall hcurrent, hcount, ?_⟩
  have hne' : created.written ≠ [] := fun hnil => hne (by rw [hnil]; rfl)
  obtain ⟨r, rs, hcons⟩ := List.exists_cons_of_ne_nil hne'
  rw [hcons] at hwhole ⊢
  refine visitAll_eq ⟨⟨fileHeader created.info, fileTrailer (r :: rs), ?_, length_fileHeader _⟩, rfl,
    hwhole⟩
  rw [← hcons]
  exact hfile

/-- A BMC that announces three records, has two, sends two bytes too many with the first, and asks
    for a new reservation once. -/
def sampleBmc : Bmc ℕ where
  getSdrRepositoryInfo s := (some ⟨0x51, 3, 7, 9⟩, s)
  reserveSdrRepository s := (some 1, s + 1)
  getSdr s _ recordId _ _ :=
    if s = 1 then (.badCompletionCode compCodeReservationCancelled, s)
    else if recordId = 0 then (.ok (some 4) [0, 0, 0x51, 0xC0, 1, 0xAA, 0xBB, 0xCC], s)
    else (.ok (some sdrRecordIdLast) [4, 0, 0x51, 0xC0, 2, 0xDD, 0xEE], s)

/-- The records of that BMC. -/
def sampleRecords : List (List Byte) := [[0, 0, 0x51, 0xC0, 1, 0xAA], [4, 0, 0x51, 0xC0, 2, 0xDD, 0xEE]]

/-- What is created from it. -/
def sampleCreated : Created := ⟨cacheFile ⟨0x51, 2, 7, 9⟩ sampleRecords, ⟨0x51, 2, 7, 9⟩, sampleRecords⟩

theorem ipmiSdrCacheCreate_roundTrip_sample :
    (∀ ipmiCtx, checkUpToDate sampleCreated.info ipmiCtx = .ok () →
      ∃ ctx, ipmiSdrCacheOpen sampleCreated.file ipmiCtx = .ok ctx ∧
        ctx.recordCount.toNat = sampleCreated.written.length ∧
        visitAll sampleCreated.written.length (ipmiSdrCacheFirst ctx) = .ok sampleCreated.written) ∧
      (∀ r ∈ sampleCreated.written, r.length = (r.getD sdrRecordLengthIndex 0).toNat + 5) ∧
      ((sdrCacheCreateFlagsOverwrite ||| sdrCacheCreateFlagsDuplicateRecordId)
          &&& sdrCacheCreateFlagsDuplicateRecordId ≠ 0 →
        (sampleCreated.written.map recordIdOfRecord).Nodup) :=
  ipmiSdrCacheCreate_roundTrip (show ipmiSdrCacheCreate sampleBmc 5 true
    (sdrCacheCreateFlagsOverwrite ||| sdrCacheCreateFlagsDuplicateRecordId) 0 = .ok sampleCreated
    from rfl)

end FreeIpmi.Sdr
