import FreeIpmi.Basic
import FreeIpmi.Lib.BinaryHeap
import FreeIpmi.Lib.Calls

/-! The heap of `common/miscutil/heap.c`, in which `ipmiseld` keeps its hosts.

    The array holds pointers to nodes; a place without one, or whose node is freed, has no value, and
    reading it is undefined, as is any access outside the array. -/

namespace FreeIpmi.Miscutil
open Function

/-- `HEAP_SIZE_DEFAULT`. -/
def heapSizeDefault : ℕ := 64

/-- `HEAP_SIZE_MINIMUM`. -/
def heapSizeMinimum : ℕ := 4

/-- `struct heap`, without its lock and its magic cookie. -/
structure Heap (α : Type) where
  size : ℕ
  fCmp : α → α → ℤ
  count : ℕ
  heapSize : ℕ
  heaparray : ℕ → Option α

/-- The `errno` of `heap_insert`. -/
inductive HeapErr where | enospc | enomem
  deriving DecidableEq, Repr

/-- The next power of 2. -/
def nextPowerOf2 (n : ℕ) : ℕ :=
  let m := n - 1
  let m := m >>> 1 ||| m
  let m := m >>> 2 ||| m
  let m := m >>> 4 ||| m
  let m := m >>> 8 ||| m
  let m := m >>> 16 ||| m
  m + 1

section Heap
variable {α : Type}

/-- `heap_create`, where there is memory. -/
def heapCreate (size : ℤ) (fCmp : α → α → ℤ) : Heap α :=
  let size := if size ≤ 0 then heapSizeDefault else size.toNat
  { size := size
    fCmp := fCmp
    count := 0
    heapSize := max (nextPowerOf2 size) heapSizeMinimum
    heaparray := fun _ => none }

/-- `h->heaparray[i]->data`. -/
def Heap.get (h : Heap α) (i : ℕ) : Except Stop α :=
  if i < h.heapSize then
    match h.heaparray i with
    | some x => .ok x
    | none => .error .undefined
  else .error .undefined

/-- A store to `h->heaparray[i]`. -/
def Heap.put (h : Heap α) (i : ℕ) (p : Option α) : Except Stop (Heap α) :=
  if i < h.heapSize then .ok { h with heaparray := update h.heaparray i p } else .error .undefined

/-- `heap_is_empty`. -/
def heapIsEmpty (h : Heap α) : Bool := h.count == 0

/-- `heap_is_full`. -/
def heapIsFull (h : Heap α) : Bool := h.count == h.size

/-- The loop of `heap_insert`: where the new node belongs. -/
def insertLoop (x : α) : ℕ → Heap α → ℕ → Except Stop (Heap α × ℕ)
  | 0, h, index => if index > 0 then .error .undefined else .ok (h, index)
  | fuel + 1, h, index =>
    if index > 0 then do
      let above ← h.get ((index - 1) / 2)
      if h.fCmp x above > 0 then
        let h ← h.put index (some above)
        insertLoop x fuel h ((index - 1) / 2)
      else return (h, index)
    else .ok (h, index)

/-- `heap_insert`, and whether there is memory for a node. -/
def heapInsert (h : Heap α) (x : α) (mem : Bool) : Except Stop (Except HeapErr Unit × Heap α) :=
  if h.count = h.size then .ok (.error .enospc, h)
  else if !mem then .ok (.error .enomem, h)
  else if h.count = 0 then do
    let h ← h.put 0 (some x)
    return (.ok (), { h with count := h.count + 1 })
  else do
    let (h, index) ← insertLoop x h.count h h.count
    let h ← h.put index (some x)
    return (.ok (), { h with count := h.count + 1 })

/-- Whether the node at `i`, if there is one, belongs above `p`. -/
def Heap.above (h : Heap α) (p : α) (i : ℕ) : Except Stop Bool :=
  if i < h.count then do
    let x ← h.get i
    return decide (h.fCmp x p > 0)
  else .ok false

/-- The condition of the loop of `heap_pop`. -/
def Heap.sinks (h : Heap α) (p : α) (index : ℕ) : Except Stop Bool := do
  let left ← h.above p (2 * index + 1)
  if left then return true else h.above p (2 * index + 2)

/-- The node that comes up in the loop of `heap_pop`. -/
def Heap.risen (h : Heap α) (index : ℕ) : Except Stop ℕ :=
  if 2 * index + 2 < h.count then do
    let left ← h.get (2 * index + 1)
    let right ← h.get (2 * index + 2)
    return if h.fCmp left right > 0 then 2 * index + 1 else 2 * index + 2
  else .ok (2 * index + 1)

/-- The loop of `heap_pop`: where the last node belongs. -/
def popLoop (p : α) : ℕ → Heap α → ℕ → Except Stop (Heap α × ℕ)
  | 0, _, _ => .error .undefined
  | fuel + 1, h, index => do
    let sinks ← h.sinks p index
    if sinks then
      let tmp ← h.risen index
      let x ← h.get tmp
      let h ← h.put index (some x)
      popLoop p fuel h tmp
    else return (h, index)

/-- `heap_pop`. -/
def heapPop (h : Heap α) : Except Stop (Option α × Heap α) :=
  if h.count = 0 then .ok (none, h)
  else do
    let v ← h.get 0
    -- `heap_node_destroy`
    let h ← h.put 0 none
    if h.count = 1 then
      let h ← h.put 0 none
      return (some v, { h with count := h.count - 1 })
    else
      let p ← h.get (h.count - 1)
      let (h, index) ← popLoop p h.count h 0
      let h ← h.put index (some p)
      let h ← h.put (h.count - 1) none
      return (some v, { h with count := h.count - 1 })

/-- `heap_peek`. -/
def heapPeek (h : Heap α) : Except Stop (Option α) :=
  if h.count = 0 then .ok none
  else do
    let v ← h.get 0
    return some v

end Heap

end FreeIpmi.Miscutil
