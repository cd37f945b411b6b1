import FreeIpmi.Lib.Handles
import FreeIpmi.Fiid.Run

/-! Is a duplicate (`fiid_obj_dup`) as good as the original?

    `ObjCall` lists the calls on one object with everything that they return. A duplicate differs
    only in `makes_packet_sufficient`, which no call but `fiid_obj_packet_sufficient` reads and no
    call writes, so the two answer alike until that call is asked about a packet that is sufficient
    but not valid. The blocks behind the two objects are allocated separately: calls on the one never
    show in the other. -/

namespace FreeIpmi.Fiid
open Calls Handles

/-! ### Calls and what they return -/

/-- `fiid_obj_packet_sufficient`: `ok` is a return of 1, an error a return of 0 with `errnum`. -/
def packetSufficient (obj : FiidObj) : Except (Option FiidErr) Unit :=
  if !obj.makesPacketSufficient then packetValid obj false
  else
    match packetValid obj false with
    | .ok _ => .ok ()
    | .error saveErrnum =>
      match packetValid obj true with
      | .ok _ => .ok ()
      | .error _ => .error saveErrnum

theorem packetSufficient_isOk (obj : FiidObj) :
    (packetSufficient obj).isOk = fiidObjPacketSufficient obj := by
  rw [packetSufficient, fiidObjPacketSufficient]
  split
  · rfl
  · cases packetValid obj false with
    | ok u => rfl
    | error e =>
      cases packetValid obj true with
      | ok u => rfl
      | error e' => rfl

/-- A call on one object; the getters name the length of their buffer. -/
inductive ObjCall where
  | set (field : String) (val : BitVec 64)
  | get (field : String)
  | setData (field : String) (data : List Byte)
  | getData (field : String) (dataLen : ℕ)
  | setAll (data : List Byte)
  | getAll (dataLen : ℕ)
  | setBlock (fieldStart fieldEnd : String) (data : List Byte)
  | getBlock (fieldStart fieldEnd : String) (dataLen : ℕ)
  | clear
  | clearField (field : String)
  | len
  | fieldLen (field : String)
  | blockLen (fieldStart fieldEnd : String)
  | templateCompare (tmpl : FiidTemplate)
  | packetValid
  | packetSufficient

/-- What a call returns. -/
inductive Outcome where
  | int (r : Except Stop ℕ)
  | value (r : Except Stop (Option (BitVec 64)))
  | bytes (r : Except Stop (ℕ × List Byte))
  | compared (r : Except Stop (Option FiidErr))
  | checked (r : Except (Option FiidErr) Unit)

/-- The object after a call that only reads. -/
def afterRead {α : Type} (obj : FiidObj) (r : Except Stop α) : Option FiidObj :=
  afterCall obj (r >>= fun _ => .ok obj)

/-- One call: what it returns, and the object afterwards, unless the call is undefined. -/
def ObjCall.run : ObjCall → FiidObj → Outcome × Option FiidObj
  | .set field val, obj =>
    let r := fiidObjSet obj field val
    (.int (r >>= fun _ => .ok 0), afterCall obj r)
  | .get field, obj => let r := fiidObjGet obj field; (.value r, afterRead obj r)
  | .setData field data, obj =>
    let r := fiidObjSetData obj field data
    (.int (r >>= fun r => .ok r.2), afterCall obj (r >>= fun r => .ok r.1))
  | .getData field dataLen, obj =>
    let r := fiidObjGetData obj field dataLen
    (.bytes (r >>= fun data => .ok (data.length, data)), afterRead obj r)
  | .setAll data, obj =>
    let r := trySetAll obj data
    (.int (r >>= fun r => .ok r.2), afterCall obj (r >>= fun r => .ok r.1))
  | .getAll dataLen, obj => let r := fiidObjGetAll obj dataLen; (.bytes r, afterRead obj r)
  | .setBlock fieldStart fieldEnd data, obj =>
    let r := trySetBlock obj fieldStart fieldEnd data
    (.int (r >>= fun r => .ok r.2), afterCall obj (r >>= fun r => .ok r.1))
  | .getBlock fieldStart fieldEnd dataLen, obj =>
    let r := fiidObjGetBlock obj fieldStart fieldEnd dataLen
    (.bytes r, afterRead obj r)
  | .clear, obj => (.int (.ok 0), some (fiidObjClear obj))
  | .clearField field, obj =>
    let r := fiidObjClearField obj field
    (.int (r >>= fun _ => .ok 0), afterCall obj r)
  | .len, obj => (.int (.ok (fiidObjLen obj)), some obj)
  | .fieldLen field, obj => let r := fiidObjFieldLen obj field; (.int r, afterRead obj r)
  | .blockLen fieldStart fieldEnd, obj =>
    let r := fiidObjBlockLen obj fieldStart fieldEnd
    (.int r, afterRead obj r)
  | .templateCompare tmpl, obj =>
    let r := fiidObjTemplateCompare obj tmpl
    (.compared r, afterRead obj r)
  | .packetValid, obj => (.checked (Fiid.packetValid obj false), some obj)
  | .packetSufficient, obj => (.checked (Fiid.packetSufficient obj), some obj)

/-- What a sequence of calls returns, up to the first undefined one. -/
def results : List ObjCall → FiidObj → List Outcome := alone ObjCall.run

/-! ### The forgotten flag -/

section Flag
variable {obj obj' : FiidObj}

theorem set_dup (field : String) (val : BitVec 64) :
    fiidObjSet (fiidObjDup obj) field val = (fiidObjSet obj field val).map fiidObjDup := by
  have hlookup : fiidObjLookupFieldIndex (fiidObjDup obj) field
      = fiidObjLookupFieldIndex obj field := rfl
  have hstart : fiidObjFieldStartEnd (fiidObjDup obj) field = fiidObjFieldStartEnd obj field := rfl
  have hdata : (fiidObjDup obj).data = obj.data := rfl
  rw [fiidObjSet, fiidObjSet, hlookup, hstart, hdata]
  cases fiidObjLookupFieldIndex obj field with
  | error e => rfl
  | ok i =>
    cases fiidObjFieldStartEnd obj field with
    | error e => rfl
    | ok r =>
      simp only [ok_bind]
      cases storeBits obj.data r.2.1 (if r.1 > 64 then 64 else r.1) val with
      | error e => rfl
      | ok data => rfl

theorem setData_dup (field : String) (data : List Byte) :
    fiidObjSetData (fiidObjDup obj) field data
      = (fiidObjSetData obj field data).map (Prod.map fiidObjDup id) := by
  have hlookup : fiidObjLookupFieldIndex (fiidObjDup obj) field
      = fiidObjLookupFieldIndex obj field := rfl
  have hstart : fiidObjFieldStart (fiidObjDup obj) field = fiidObjFieldStart obj field := rfl
  have hmax : fiidObjMaxFieldLen (fiidObjDup obj) field = fiidObjMaxFieldLen obj field := rfl
  rw [fiidObjSetData, fiidObjSetData, hlookup, hstart, hmax]
  cases fiidObjLookupFieldIndex obj field with
  | error e => rfl
  | ok i =>
    cases fiidObjFieldStart obj field with
    | error e => rfl
    | ok start =>
      simp only [ok_bind]
      split
      · rfl
      · cases fiidObjMaxFieldLen obj field with
        | error e => rfl
        | ok bitsLen =>
          simp only [ok_bind]
          split <;> rfl

theorem setAll_dup (data : List Byte) :
    fiidObjSetAll (fiidObjDup obj) data = Prod.map id fiidObjDup (fiidObjSetAll obj data) := by
  have hlen : (fiidObjDup obj).data.length = obj.data.length := rfl
  have hfields : (fiidObjDup obj).fields = obj.fields := rfl
  simp only [fiidObjSetAll, hlen, hfields]
  split <;> rfl

theorem setBlock_dup (fieldStart fieldEnd : String) (data : List Byte) :
    fiidObjSetBlock (fiidObjDup obj) fieldStart fieldEnd data
      = Prod.map id fiidObjDup (fiidObjSetBlock obj fieldStart fieldEnd data) := by
  have hbounds : blockBounds (fiidObjDup obj) fieldStart fieldEnd
      = blockBounds obj fieldStart fieldEnd := rfl
  have hfields : ∀ first last, blockFields (fiidObjDup obj) first last
      = blockFields obj first last := fun _ _ => rfl
  rw [fiidObjSetBlock, fiidObjSetBlock, hbounds]
  cases blockBounds obj fieldStart fieldEnd with
  | error e => rfl
  | ok r =>
    simp only [hfields]
    split <;> rfl

theorem clearField_dup (field : String) :
    fiidObjClearField (fiidObjDup obj) field = (fiidObjClearField obj field).map fiidObjDup := by
  have hlookup : fiidObjLookupFieldIndex (fiidObjDup obj) field
      = fiidObjLookupFieldIndex obj field := rfl
  have hset : ∀ i, fiidObjSetFieldLen (fiidObjDup obj) i = fiidObjSetFieldLen obj i := fun _ => rfl
  have hstart : fiidObjFieldStart (fiidObjDup obj) field = fiidObjFieldStart obj field := rfl
  have hmax : fiidObjMaxFieldLen (fiidObjDup obj) field = fiidObjMaxFieldLen obj field := rfl
  rw [fiidObjClearField, fiidObjClearField, hlookup, hstart, hmax]
  cases fiidObjLookupFieldIndex obj field with
  | error e => rfl
  | ok i =>
    simp only [ok_bind, hset]
    cases fiidObjSetFieldLen obj i with
    | error e => rfl
    | ok setFieldLen =>
      simp only [ok_bind]
      split
      · rfl
      · cases fiidObjMaxFieldLen obj field with
        | error e => rfl
        | ok bitsLen =>
          simp only [ok_bind, set_dup]
          split
          · cases fiidObjSet obj field 0 with
            | error e => rfl
            | ok obj' => rfl
          · split
            · rfl
            · cases fiidObjFieldStart obj field with
              | error e => rfl
              | ok start =>
                simp only [ok_bind]
                split <;> rfl

theorem afterCall_map (r : Except Stop FiidObj) :
    afterCall (fiidObjDup obj) (r.map fiidObjDup) = (afterCall obj r).map fiidObjDup := by
  cases r with
  | ok o => rfl
  | error e =>
    simp only [afterCall, Except.map]
    split <;> rfl

theorem afterRead_dup {α : Type} (r : Except Stop α) :
    afterRead (fiidObjDup obj) r = (afterRead obj r).map fiidObjDup := by
  cases r with
  | ok o => rfl
  | error e =>
    simp only [afterRead, error_bind, afterCall]
    split <;> rfl

/-- Every call but `fiid_obj_packet_sufficient` does the same on the duplicate. -/
theorem run_dup (call : ObjCall) (hcall : call ≠ .packetSufficient) :
    call.run (fiidObjDup obj) = ((call.run obj).1, (call.run obj).2.map fiidObjDup) := by
  cases call with
  | packetSufficient => exact absurd rfl hcall
  | set field val =>
    simp only [ObjCall.run, set_dup, afterCall_map]
    cases fiidObjSet obj field val <;> rfl
  | setData field data =>
    simp only [ObjCall.run, setData_dup]
    cases fiidObjSetData obj field data with
    | error e => exact congrArg _ (afterCall_map (.error e))
    | ok r => rfl
  | setAll data =>
    simp only [ObjCall.run, trySetAll, setAll_dup]
    obtain ⟨r, o⟩ := fiidObjSetAll obj data
    cases r with
    | error e => exact congrArg _ (afterCall_map (.error e))
    | ok len => rfl
  | setBlock fieldStart fieldEnd data =>
    simp only [ObjCall.run, trySetBlock, setBlock_dup]
    obtain ⟨r, o⟩ := fiidObjSetBlock obj fieldStart fieldEnd data
    cases r with
    | error e => exact congrArg _ (afterCall_map (.error e))
    | ok len => rfl
  | clearField field =>
    simp only [ObjCall.run, clearField_dup, afterCall_map]
    cases fiidObjClearField obj field <;> rfl
  | clear => rfl
  | len => rfl
  | packetValid => rfl
  | get field => exact congrArg _ (afterRead_dup (fiidObjGet obj field))
  | getData field dataLen => exact congrArg _ (afterRead_dup (fiidObjGetData obj field dataLen))
  | getAll dataLen => exact congrArg _ (afterRead_dup (fiidObjGetAll obj dataLen))
  | getBlock fieldStart fieldEnd dataLen =>
    exact congrArg _ (afterRead_dup (fiidObjGetBlock obj fieldStart fieldEnd dataLen))
  | fieldLen field => exact congrArg _ (afterRead_dup (fiidObjFieldLen obj field))
  | blockLen fieldStart fieldEnd =>
    exact congrArg _ (afterRead_dup (fiidObjBlockLen obj fieldStart fieldEnd))
  | templateCompare tmpl => exact congrArg _ (afterRead_dup (fiidObjTemplateCompare obj tmpl))

/-- The fields that make a packet sufficient are there and the packet is not valid, in an object
    that knows of such fields. -/
def FiidObj.OnlySufficient (obj : FiidObj) : Prop :=
  obj.makesPacketSufficient = true ∧ (packetValid obj true).isOk = true
    ∧ (packetValid obj false).isOk = false

theorem packetSufficient_dup :
    packetSufficient (fiidObjDup obj) = packetSufficient obj ↔ ¬ obj.OnlySufficient := by
  have hdup : packetSufficient (fiidObjDup obj) = packetValid obj false := rfl
  rw [hdup, FiidObj.OnlySufficient, packetSufficient]
  cases obj.makesPacketSufficient with
  | false => simp
  | true =>
    cases hvalid : packetValid obj false with
    | ok u => simp [Except.isOk, Except.toBool]
    | error e =>
      cases packetValid obj true with
      | ok u => simp [Except.isOk, Except.toBool]
      | error e' => simp [Except.isOk, Except.toBool]

/-- Some call of a sequence asks whether a packet that is only sufficient is sufficient. -/
def AsksOnlySufficient : List ObjCall → FiidObj → Prop
  | [], _ => False
  | call :: calls, obj =>
    (call = .packetSufficient ∧ obj.OnlySufficient) ∨
      ∃ obj', (call.run obj).2 = some obj' ∧ AsksOnlySufficient calls obj'

theorem results_dup_iff (obj : FiidObj) (calls : List ObjCall) :
    results calls (fiidObjDup obj) = results calls obj ↔ ¬ AsksOnlySufficient calls obj := by
  induction calls generalizing obj with
  | nil => simp [results, alone, AsksOnlySufficient]
  | cons call calls ih =>
    rw [AsksOnlySufficient, not_or, results, alone, alone]
    by_cases hcall : call = .packetSufficient
    · subst hcall
      have hhead : (Outcome.checked (packetSufficient (fiidObjDup obj))
          = .checked (packetSufficient obj)) ↔ ¬ obj.OnlySufficient := by
        rw [Outcome.checked.injEq, packetSufficient_dup]
      rw [List.cons.injEq]
      refine and_congr (hhead.trans (by simp)) ?_
      exact (ih obj).trans (by simp [ObjCall.run])
    · rw [run_dup call hcall]
      cases hrun : (call.run obj).2 with
      | none => simp [hcall]
      | some obj' =>
        simp only [Option.map_some, List.cons.injEq, true_and, hcall, false_and, not_false_eq_true,
          Option.some.injEq, exists_eq_left']
        exact ih obj'

end Flag

/-! ### Separate memory -/

/-- `struct fiid_obj`, with the addresses of `data` and `field_data`. -/
structure ObjStruct where
  data : ℕ
  fieldData : ℕ
  makesPacketSufficient : Bool

/-- The block behind `field_data`. -/
structure FieldDataBlock where
  fields : List FiidFieldData
  terminatorFlags : BitVec 32
  terminatorSetFieldLen : ℕ

/-- The memory that objects live in; no address from `next` on is allocated. -/
structure Memory where
  structs : ℕ → ObjStruct
  data : ℕ → List Byte
  fieldData : ℕ → FieldDataBlock
  next : ℕ

/-- The object behind a pointer. -/
def Memory.load (m : Memory) (p : ℕ) : FiidObj where
  data := m.data (m.structs p).data
  fields := (m.fieldData (m.structs p).fieldData).fields
  terminatorFlags := (m.fieldData (m.structs p).fieldData).terminatorFlags
  terminatorSetFieldLen := (m.fieldData (m.structs p).fieldData).terminatorSetFieldLen
  makesPacketSufficient := (m.structs p).makesPacketSufficient

/-- A call writes through the pointers of its object and moves none of them. -/
def Memory.store (m : Memory) (p : ℕ) (obj : FiidObj) : Memory where
  structs := Function.update m.structs p
    { m.structs p with makesPacketSufficient := obj.makesPacketSufficient }
  data := Function.update m.data (m.structs p).data obj.data
  fieldData := Function.update m.fieldData (m.structs p).fieldData
    ⟨obj.fields, obj.terminatorFlags, obj.terminatorSetFieldLen⟩
  next := m.next

def objView : View Memory ℕ FiidObj := ⟨Memory.load, Memory.store⟩

/-- `fiid_obj_dup` with its three allocations: the memory, and the pointer to the duplicate. -/
def Memory.dup (m : Memory) (p : ℕ) : Memory × ℕ :=
  ({ structs := Function.update m.structs m.next ⟨m.next + 1, m.next + 2, false⟩
     data := Function.update m.data (m.next + 1) (m.data (m.structs p).data)
     fieldData := Function.update m.fieldData (m.next + 2) (m.fieldData (m.structs p).fieldData)
     next := m.next + 3 }, m.next)

/-- A pointer to an object whose blocks are allocated. -/
structure Memory.Allocated (m : Memory) (p : ℕ) : Prop where
  struct : p < m.next
  data : (m.structs p).data < m.next
  fieldData : (m.structs p).fieldData < m.next

/-- Which of the two objects a call is on. -/
inductive Side where
  | original | duplicate
  deriving DecidableEq

/-- The pointers to an object and to its duplicate. -/
def Side.pointer (p q : ℕ) : Side → ℕ
  | .original => p
  | .duplicate => q

/-- Two objects without a common block. -/
structure Memory.Apart (p q : ℕ) (m : Memory) : Prop where
  struct : p ≠ q
  data : (m.structs p).data ≠ (m.structs q).data
  fieldData : (m.structs p).fieldData ≠ (m.structs q).fieldData

section Separation
variable {m : Memory} {p q : ℕ}

theorem Memory.load_dup (m : Memory) (p : ℕ) :
    (m.dup p).1.load (m.dup p).2 = fiidObjDup (m.load p) := by
  simp [Memory.dup, Memory.load, fiidObjDup]

theorem Memory.load_dup_original (h : m.Allocated p) : (m.dup p).1.load p = m.load p := by
  have hstruct := h.struct.ne
  have hdata : (m.structs p).data ≠ m.next + 1 := by have := h.data; omega
  have hfield : (m.structs p).fieldData ≠ m.next + 2 := by have := h.fieldData; omega
  simp [Memory.dup, Memory.load, hstruct, hdata, hfield]

theorem Memory.dup_apart (h : m.Allocated p) : (m.dup p).1.Apart p (m.dup p).2 := by
  have hstruct := h.struct.ne
  have hdata : (m.structs p).data ≠ m.next + 1 := by have := h.data; omega
  have hfield : (m.structs p).fieldData ≠ m.next + 2 := by have := h.fieldData; omega
  constructor
  · exact hstruct
  · simpa [Memory.dup, hstruct] using hdata
  · simpa [Memory.dup, hstruct] using hfield

theorem Memory.load_store (m : Memory) (p : ℕ) (obj : FiidObj) : (m.store p obj).load p = obj := by
  simp [Memory.store, Memory.load]

theorem Memory.structs_store (m : Memory) (p q : ℕ) (obj : FiidObj) :
    ((m.store p obj).structs q).data = (m.structs q).data
      ∧ ((m.store p obj).structs q).fieldData = (m.structs q).fieldData := by
  by_cases hqp : q = p
  · subst hqp
    simp [Memory.store]
  · simp [Memory.store, hqp]

theorem Memory.Apart.store (h : m.Apart p q) (r : ℕ) (obj : FiidObj) :
    (m.store r obj).Apart p q := by
  constructor
  · exact h.struct
  · rw [(m.structs_store r p obj).1, (m.structs_store r q obj).1]
    exact h.data
  · rw [(m.structs_store r p obj).2, (m.structs_store r q obj).2]
    exact h.fieldData

theorem Memory.Apart.symm (h : m.Apart p q) : m.Apart q p :=
  ⟨h.struct.symm, h.data.symm, h.fieldData.symm⟩

theorem Memory.Apart.load_store_other (h : m.Apart p q) (obj : FiidObj) :
    (m.store p obj).load q = m.load q := by
  simp [Memory.store, Memory.load, h.struct.symm, h.data.symm, h.fieldData.symm]

theorem separate (p q : ℕ) : Separate objView (Memory.Apart p q) (Side.pointer p q) where
  same m _ obj _ := m.load_store _ obj
  keeps _ _ obj h := h.store _ obj
  other m b c obj h hbc := by
    cases b with
    | original =>
      cases c with
      | original => exact absurd rfl hbc
      | duplicate => exact h.load_store_other obj
    | duplicate =>
      cases c with
      | original => exact h.symm.load_store_other obj
      | duplicate => exact absurd rfl hbc

end Separation

/-! ### The duplicate and the original -/

/-- What an observer may expect of a duplicate: it answers a sequence of calls like the object that
    was duplicated, and in any mixture of calls on the two each answers as if it were alone. -/
structure DupFaithful (m : Memory) (p : ℕ) (calls : List ObjCall) : Prop where
  same : results calls ((m.dup p).1.load (m.dup p).2) = results calls (m.load p)
  original : (m.dup p).1.load p = m.load p
  independent : ∀ (mixed : List (Side × ObjCall)) (side : Side),
    let pointer := Side.pointer p (m.dup p).2
    let mixedResults := together objView pointer ObjCall.run mixed (m.dup p).1
    let ownResults := results (ofHandle side mixed) ((m.dup p).1.load (pointer side))
    ofHandle side mixedResults <+: ownResults ∧
      (mixedResults.length = mixed.length → ofHandle side mixedResults = ownResults)

/-- A duplicate is as good as the original for exactly the sequences of calls that never ask whether
    a packet that is only sufficient is sufficient. -/
theorem fiidObjDup_faithful_iff {m : Memory} {p : ℕ} (h : m.Allocated p) (calls : List ObjCall) :
    DupFaithful m p calls ↔ ¬ AsksOnlySufficient calls (m.load p) := by
  have hsame := results_dup_iff (m.load p) calls
  constructor
  · intro hdup
    have hresults := hdup.same
    rw [Memory.load_dup] at hresults
    exact hsame.mp hresults
  · intro hasks
    refine ⟨?_, Memory.load_dup_original h, ?_⟩
    · rw [Memory.load_dup]
      exact hsame.mpr hasks
    · intro mixed side
      have hsep := separate p (m.dup p).2
      have hapart := Memory.dup_apart h
      exact ⟨together_front hsep side hapart, together_eq hsep side hapart⟩

/-! ### A response that is only sufficient -/

/-- `tmpl_cmd_reserve_sdr_repository_rs`. -/
def tmplCmdReserveSdrRepositoryRs : FiidTemplate where
  fields :=
    [⟨8, "cmd", fiidFieldRequired ||| fiidFieldLengthFixed ||| fiidFieldMakesPacketSufficient,
       .refl true⟩,
     ⟨8, "comp_code", fiidFieldRequired ||| fiidFieldLengthFixed ||| fiidFieldMakesPacketSufficient,
       .refl true⟩,
     ⟨16, "reservation_id", fiidFieldRequired ||| fiidFieldLengthFixed, .refl true⟩]

/-- The response as created. -/
def reserveRs : FiidObj where
  data := [0, 0, 0, 0]
  fields := tmplCmdReserveSdrRepositoryRs.fields.map FiidField.toData
  terminatorFlags := 0
  terminatorSetFieldLen := 0
  makesPacketSufficient := true

/-- The response of a BMC that answers with a completion code only. -/
def reserveRsRefused : FiidObj := (fiidObjSetAll reserveRs [0x22, 0xC1]).2

theorem reserveRsRefused_reachable (ndebug : Bool) :
    Reachable ndebug tmplCmdReserveSdrRepositoryRs reserveRsRefused := by
  have hcreate : fiidObjCreate ndebug tmplCmdReserveSdrRepositoryRs = some reserveRs := by
    cases ndebug <;> decide
  exact (Reachable.create hcreate).step (.setAll [0x22, 0xC1]) rfl

/-- A memory with a single object. -/
def memoryOf (obj : FiidObj) : Memory where
  structs := fun _ => ⟨1, 2, obj.makesPacketSufficient⟩
  data := fun _ => obj.data
  fieldData := fun _ => ⟨obj.fields, obj.terminatorFlags, obj.terminatorSetFieldLen⟩
  next := 3

theorem memoryOf_allocated (obj : FiidObj) : (memoryOf obj).Allocated 0 := by
  constructor <;> simp [memoryOf]

theorem load_memoryOf (obj : FiidObj) : (memoryOf obj).load 0 = obj := rfl

theorem fiidObjDup_faithful_iff_refused : (memoryOf reserveRsRefused).Allocated 0 ∧
    (DupFaithful (memoryOf reserveRsRefused) 0 [.packetValid, .getAll 4] ↔
      ¬ AsksOnlySufficient [.packetValid, .getAll 4] ((memoryOf reserveRsRefused).load 0)) :=
  ⟨memoryOf_allocated _, fiidObjDup_faithful_iff (memoryOf_allocated _) [.packetValid, .getAll 4]⟩

/-- Asked whether the refused response is sufficient, the object says yes and its duplicate no. -/
theorem fiidObjDup_forgets_sufficient :
    Reachable false tmplCmdReserveSdrRepositoryRs reserveRsRefused
      ∧ fiidObjPacketSufficient reserveRsRefused = true
      ∧ fiidObjPacketSufficient (fiidObjDup reserveRsRefused) = false
      ∧ ¬ DupFaithful (memoryOf reserveRsRefused) 0 [.packetSufficient] := by
  have horiginal : fiidObjPacketSufficient reserveRsRefused = true := by decide
  have hdup : fiidObjPacketSufficient (fiidObjDup reserveRsRefused) = false := by decide
  refine ⟨reserveRsRefused_reachable false, horiginal, hdup, ?_⟩
  intro hfaithful
  have hresults := hfaithful.same
  rw [Memory.load_dup, load_memoryOf] at hresults
  have hsufficient : packetSufficient (fiidObjDup reserveRsRefused)
      = packetSufficient reserveRsRefused := Outcome.checked.inj (List.cons.inj hresults).1
  rw [← packetSufficient_isOk, ← hsufficient, packetSufficient_isOk, hdup] at horiginal
  cases horiginal

end FreeIpmi.Fiid
