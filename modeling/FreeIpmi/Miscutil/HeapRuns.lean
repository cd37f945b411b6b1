import FreeIpmi.Miscutil.Heap

/-! Runs of calls on a heap of `common/miscutil/heap.c`.

    A heap stands for the multiset of its elements. No run reaches outside the array or reads a node that
    is not there, although `heap_pop` looks at the last place as well, where the node still stands that
    it moves to the front; and what is popped is the first of all elements, as `fCmp` orders them. -/

namespace FreeIpmi.Miscutil
open Function Calls BinaryHeap

section Sift
variable {α : Type} {fCmp : α → α → ℤ} {h : Heap α} {a : ℕ → α} {x p : α} {n i : ℕ}

/-- `x` may stand above `y`. -/
def Rank (fCmp : α → α → ℤ) (x y : α) : Prop := fCmp y x ≤ 0

theorem Heap.get_eq (hroom : i < h.heapSize) (hi : h.heaparray i = some x) : h.get i = .ok x := by
  rw [Heap.get, if_pos hroom, hi]

theorem Heap.put_eq (hroom : i < h.heapSize) (v : Option α) :
    h.put i v = .ok { h with heaparray := update h.heaparray i v } := if_pos hroom

theorem Heap.put_frame (h : Heap α) (hroom : i < h.heapSize) (v : Option α) :
    ∃ h', h.put i v = .ok h' ∧ h' = { h with heaparray := h'.heaparray } ∧
      ∀ j, j ≠ i → h'.heaparray j = h.heaparray j :=
  ⟨_, Heap.put_eq hroom v, rfl, fun _ hne => update_of_ne hne v h.heaparray⟩

/-- The nodes of `a` stand in the array, but for the hole at `i`. -/
def Heap.Stores (h : Heap α) (a : ℕ → α) (n i : ℕ) : Prop :=
  ∀ j, j < n → j ≠ i → h.heaparray j = some (a j)

/-- The hole is moved from `i` to `j`. -/
theorem Heap.Stores.move {j : ℕ} (hs : h.Stores a n i) :
    ({ h with heaparray := update h.heaparray i (some (a j)) } : Heap α).Stores (update a i (a j)) n
      j := by
  intro k hk hkj
  show update h.heaparray i (some (a j)) k = some (update a i (a j) k)
  by_cases hki : k = i
  · rw [hki, update_self, update_self]
  · rw [update_of_ne hki, update_of_ne hki]
    exact hs k hk hki

/-- The hole is filled. -/
theorem Heap.Stores.fill (hs : h.Stores a n i) {j : ℕ} (hj : j < n) :
    update h.heaparray i (some x) j = some (update a i x j) := by
  by_cases hji : j = i
  · rw [hji, update_self, update_self]
  · rw [update_of_ne hji, update_of_ne hji]
    exact hs j hj hji

/-- What a loop has done that moves the hole of `x` around among `n` places: only nodes are moved, and
    `x` fits into the hole now. -/
structure Sifted (h : Heap α) (a : ℕ → α) (n i : ℕ) (x : α) (h' : Heap α) (a' : ℕ → α) (i' : ℕ) :
    Prop where
  frame : h' = { h with heaparray := h'.heaparray }
  lt : i' < n
  stores : h'.Stores a' n i'
  ordered : Ordered (Rank h.fCmp) (update a' i' x) n
  items : items (update a' i' x) n = items (update a i x) n

theorem Sifted.of_move {h₁ h' : Heap α} {a' : ℕ → α} {i' j : ℕ}
    (hs : Sifted h₁ (update a i (a j)) n j x h' a' i') (hi : i < n) (hj : j < n) (hij : i ≠ j)
    (hframe : h₁ = { h with heaparray := h₁.heaparray }) : Sifted h a n i x h' a' i' := by
  have hcmp : h₁.fCmp = h.fCmp := by rw [hframe]
  refine ⟨?_, hs.lt, hs.stores, ?_, ?_⟩
  · rw [hs.frame, hframe]
  · rw [← hcmp]
    exact hs.ordered
  · rw [hs.items, items_move a x hi hj hij]

/-! ### Inserting -/

theorem insertLoop_spec (x : α) : ∀ (fuel : ℕ) {h : Heap α} {a : ℕ → α} {i : ℕ},
    Ranks (Rank h.fCmp) → n ≤ h.heapSize → i < n → i ≤ fuel → h.Stores a n i →
    Up (Rank h.fCmp) a n i x →
    ∃ h' a' i', insertLoop x fuel h i = .ok (h', i') ∧ Sifted h a n i x h' a' i'
  | 0, h, a, i, _, _, hi, hfuel, hs, hup => by
    have hzero : ¬ i > 0 := by omega
    refine ⟨h, a, i, by rw [insertLoop, if_neg hzero], ⟨rfl, hi, hs, ?_, rfl⟩⟩
    exact hup.around.fill (fun hpos => absurd hpos hzero) hup.below
  | fuel + 1, h, a, i, hr, hroom, hi, hfuel, hs, hup => by
    by_cases hpos : i > 0
    · have hlt : parent i < i := parent_lt hpos
      have habove : h.get ((i - 1) / 2) = .ok (a (parent i)) :=
        Heap.get_eq (show parent i < h.heapSize by omega) (hs (parent i) (by omega) hlt.ne)
      rw [insertLoop, if_pos hpos, habove, ok_bind]
      by_cases hcmp : h.fCmp x (a (parent i)) > 0
      · rw [if_pos hcmp, Heap.put_eq (by omega), ok_bind]
        have hnot : ¬ Rank h.fCmp (a (parent i)) x := Int.not_le.mpr hcmp
        obtain ⟨h', a', i', hloop, hsifted⟩ := insertLoop_spec x fuel
          (h := { h with heaparray := update h.heaparray i (some (a (parent i))) })
          hr hroom (by omega) (by omega) hs.move (hup.move hr hpos hi hnot)
        exact ⟨h', a', i', hloop, hsifted.of_move hi (by omega) hlt.ne' rfl⟩
      · rw [if_neg hcmp]
        exact ⟨h, a, i, rfl, ⟨rfl, hi, hs, hup.around.fill (fun _ => Int.not_lt.mp hcmp) hup.below, rfl⟩⟩
    · refine ⟨h, a, i, by rw [insertLoop, if_neg hpos], ⟨rfl, hi, hs, ?_, rfl⟩⟩
      exact hup.around.fill (fun hpos' => absurd hpos' hpos) hup.below

/-! ### Popping -/

/-- The last place still has the node `p` that is to be moved. -/
theorem Heap.above_eq (hr : Ranks (Rank h.fCmp)) (hcount : h.count = n + 1) (hroom : n < h.heapSize)
    (hs : h.Stores a n i) (hlast : h.heaparray n = some p) {j : ℕ} (hj : j ≠ i) :
    h.above p j = .ok (decide (j < n ∧ h.fCmp (a j) p > 0)) := by
  rw [Heap.above, hcount]
  by_cases hjn : j < n
  · rw [if_pos (by omega), Heap.get_eq (by omega) (hs j hjn hj), ok_bind]
    simp [hjn]
    rfl
  · by_cases heq : j = n
    · subst heq
      have hirrefl : ¬ h.fCmp p p > 0 := Int.not_lt.mpr ((hr.total p p).elim id id)
      rw [if_pos (by omega), Heap.get_eq hroom hlast, ok_bind, decide_eq_false hirrefl,
        decide_eq_false fun hand => hjn hand.1]
      rfl
    · rw [if_neg (by omega)]
      simp [hjn]

theorem Heap.sinks_eq (hr : Ranks (Rank h.fCmp)) (hcount : h.count = n + 1) (hroom : n < h.heapSize)
    (hs : h.Stores a n i) (hlast : h.heaparray n = some p) :
    ∃ b, h.sinks p i = .ok b ∧
      (b = true ↔ ∃ j, 0 < j ∧ j < n ∧ parent j = i ∧ h.fCmp (a j) p > 0) := by
  rw [Heap.sinks, Heap.above_eq hr hcount hroom hs hlast (by omega), ok_bind]
  by_cases hleft : 2 * i + 1 < n ∧ h.fCmp (a (2 * i + 1)) p > 0
  · refine ⟨true, by simp [hleft]; rfl, fun _ => ?_, fun _ => rfl⟩
    exact ⟨2 * i + 1, by omega, hleft.1, (parent_eq_iff (by omega)).mpr (Or.inl rfl), hleft.2⟩
  · rw [Heap.above_eq hr hcount hroom hs hlast (by omega), decide_eq_false hleft]
    refine ⟨_, rfl, ?_⟩
    rw [decide_eq_true_iff]
    constructor
    · rintro ⟨hlt, hcmp⟩
      exact ⟨2 * i + 2, by omega, hlt, (parent_eq_iff (by omega)).mpr (Or.inr rfl), hcmp⟩
    · rintro ⟨j, hpos, hlt, hparent, hcmp⟩
      rcases (parent_eq_iff hpos).mp hparent with rfl | rfl
      · exact absurd ⟨hlt, hcmp⟩ hleft
      · exact ⟨hlt, hcmp⟩

/-- The node that comes up belongs above the other one, and above `p`; it never is the last one. -/
theorem Heap.risen_spec (hr : Ranks (Rank h.fCmp)) (hcount : h.count = n + 1) (hroom : n < h.heapSize)
    (hs : h.Stores a n i) (hlast : h.heaparray n = some p)
    (hsinks : ∃ j, 0 < j ∧ j < n ∧ parent j = i ∧ h.fCmp (a j) p > 0) :
    ∃ tmp, h.risen i = .ok tmp ∧ 0 < tmp ∧ tmp < n ∧ parent tmp = i ∧
      (∀ k, 0 < k → k < n → parent k = i → Rank h.fCmp (a tmp) (a k)) ∧ Rank h.fCmp (a tmp) p := by
  obtain ⟨j, hpos, hjn, hparent, hcmp⟩ := hsinks
  have hp : Rank h.fCmp (a j) p := (hr.total _ _).resolve_right (Int.not_le.mpr hcmp)
  have hleftPlace : parent (2 * i + 1) = i := (parent_eq_iff (by omega)).mpr (Or.inl rfl)
  have hrightPlace : parent (2 * i + 2) = i := (parent_eq_iff (by omega)).mpr (Or.inr rfl)
  have hchild := (parent_eq_iff hpos).mp hparent
  rw [Heap.risen, hcount]
  by_cases hright : 2 * i + 2 < n
  · rw [if_pos (by omega), Heap.get_eq (by omega) (hs (2 * i + 1) (by omega) (by omega)), ok_bind,
      Heap.get_eq (by omega) (hs (2 * i + 2) hright (by omega)), ok_bind]
    by_cases hlarger : h.fCmp (a (2 * i + 1)) (a (2 * i + 2)) > 0
    · have hleft : Rank h.fCmp (a (2 * i + 1)) (a (2 * i + 2)) :=
        (hr.total _ _).resolve_right (Int.not_le.mpr hlarger)
      refine ⟨2 * i + 1, by rw [if_pos hlarger]; rfl, by omega, by omega, hleftPlace, ?_, ?_⟩
      · intro k hk hkn hkparent
        rcases (parent_eq_iff hk).mp hkparent with rfl | rfl
        · exact (hr.total _ _).elim id id
        · exact hleft
      · rcases hchild with rfl | rfl
        · exact hp
        · exact hr.trans _ _ _ hleft hp
    · have hother : Rank h.fCmp (a (2 * i + 2)) (a (2 * i + 1)) := Int.not_lt.mp hlarger
      refine ⟨2 * i + 2, by rw [if_neg hlarger]; rfl, by omega, hright, hrightPlace, ?_, ?_⟩
      · intro k hk hkn hkparent
        rcases (parent_eq_iff hk).mp hkparent with rfl | rfl
        · exact hother
        · exact (hr.total _ _).elim id id
      · rcases hchild with rfl | rfl
        · exact hr.trans _ _ _ hother hp
        · exact hp
  · -- the left one is the only one, or the right one is `p` itself
    have hj : j = 2 * i + 1 := by omega
    subst hj
    have hrisen : h.risen i = .ok (2 * i + 1) := by
      rw [Heap.risen, hcount]
      by_cases hp' : 2 * i + 2 < n + 1
      · have hn : 2 * i + 2 = n := by omega
        rw [if_pos hp', Heap.get_eq (by omega) (hs (2 * i + 1) hjn (by omega)), ok_bind, hn,
          Heap.get_eq hroom hlast, ok_bind, if_pos hcmp]
        rfl
      · rw [if_neg hp']
    rw [Heap.risen, hcount] at hrisen
    refine ⟨2 * i + 1, hrisen, by omega, hjn, hleftPlace, ?_, hp⟩
    intro k hk hkn hkparent
    rcases (parent_eq_iff hk).mp hkparent with rfl | rfl
    · exact (hr.total _ _).elim id id
    · omega

theorem popLoop_spec (p : α) : ∀ (fuel : ℕ) {h : Heap α} {a : ℕ → α} {i : ℕ},
    Ranks (Rank h.fCmp) → h.count = n + 1 → n < h.heapSize → i < n → n - i ≤ fuel →
    h.Stores a n i → h.heaparray n = some p → Down (Rank h.fCmp) a n i p →
    ∃ h' a' i', popLoop p fuel h i = .ok (h', i') ∧ Sifted h a n i p h' a' i'
  | 0, _, _, _, _, _, _, hi, hfuel, _, _, _ => by omega
  | fuel + 1, h, a, i, hr, hcount, hroom, hi, hfuel, hs, hlast, hdown => by
    obtain ⟨b, hsinks, hiff⟩ := Heap.sinks_eq hr hcount hroom hs hlast
    rw [popLoop, hsinks, ok_bind]
    cases b with
    | true =>
      obtain ⟨tmp, hrisen, hpos, hlt, hparent, hfirst, hp⟩ :=
        Heap.risen_spec hr hcount hroom hs hlast (hiff.mp rfl)
      have hbelow : i < tmp := hparent ▸ parent_lt hpos
      rw [if_pos rfl, hrisen, ok_bind, Heap.get_eq (by omega) (hs tmp hlt hbelow.ne'), ok_bind,
        Heap.put_eq (by omega), ok_bind]
      have hlast' : update h.heaparray i (some (a tmp)) n = some p := by
        rw [update_of_ne (by omega)]
        exact hlast
      obtain ⟨h', a', i', hloop, hsifted⟩ := popLoop_spec p fuel
        (h := { h with heaparray := update h.heaparray i (some (a tmp)) })
        hr hcount hroom hlt (by omega) hs.move hlast' (hdown.move hpos hlt hparent hfirst hp)
      exact ⟨h', a', i', hloop, hsifted.of_move hi hlt hbelow.ne rfl⟩
    | false =>
      rw [if_neg Bool.false_ne_true]
      refine ⟨h, a, i, rfl, ⟨rfl, hi, hs, hdown.around.fill hdown.above ?_, rfl⟩⟩
      intro j hj hjn hparent
      by_contra hnot
      exact Bool.false_ne_true (hiff.mpr ⟨j, hj, hjn, hparent, Int.not_le.mp hnot⟩)

end Sift

/-! ### Calls on a multiset -/

section Calls
variable {α : Type} {h h' : Heap α} {s s' : Multiset α}

/-- The heap holds the elements of `s`. -/
structure Heap.Holds (h : Heap α) (s : Multiset α) : Prop where
  places : ∃ a : ℕ → α, (∀ i, i < h.count → h.heaparray i = some (a i)) ∧
    Ordered (Rank h.fCmp) a h.count ∧ items a h.count = s
  le : h.count ≤ h.size
  room : h.size ≤ h.heapSize

theorem Heap.Holds.card (hh : h.Holds s) : Multiset.card s = h.count := by
  obtain ⟨a, -, -, rfl⟩ := hh.places
  exact card_items a _

theorem Heap.Holds.eq_zero_iff (hh : h.Holds s) : s = 0 ↔ h.count = 0 := by
  rw [← Multiset.card_eq_zero, hh.card]

/-- The elements in the array. -/
def Heap.elems (h : Heap α) : Multiset α := (Multiset.range h.count).filterMap h.heaparray

theorem filterMap_range {f : ℕ → Option α} {a : ℕ → α} : ∀ {n : ℕ}, (∀ i, i < n → f i = some (a i)) →
    (Multiset.range n).filterMap f = items a n
  | 0, _ => rfl
  | n + 1, hf => by
    rw [Multiset.range_succ, Multiset.filterMap_cons_some _ _ _ (hf n (Nat.lt_succ_self n)), items_succ,
      filterMap_range fun i hi => hf i (Nat.lt_succ_of_lt hi)]

theorem Heap.Holds.elems (hh : h.Holds s) : h.elems = s := by
  obtain ⟨a, hplaces, -, rfl⟩ := hh.places
  exact filterMap_range hplaces

/-- The calls. An insertion comes with whether there is memory. -/
inductive HeapOp (α : Type) where
  | insert (x : α) (mem : Bool)
  | pop | peek | isEmpty | isFull

/-- What a call returns. -/
inductive HeapOut (α : Type) where
  | inserted (ret : Except HeapErr Unit)
  | got (x : Option α)
  | answer (b : Bool)

/-- One call. -/
def HeapOp.run (h : Heap α) : HeapOp α → Except Stop (HeapOut α × Heap α)
  | .insert x mem => do
    let (ret, h) ← heapInsert h x mem
    return (.inserted ret, h)
  | .pop => do
    let (v, h) ← heapPop h
    return (.got v, h)
  | .peek => do
    let v ← heapPeek h
    return (.got v, h)
  | .isEmpty => .ok (.answer (heapIsEmpty h), h)
  | .isFull => .ok (.answer (heapIsFull h), h)

/-- What a call does to the elements, where no more than `size` may be held, and what it returns: the
    first of them is one that may stand above all others. -/
inductive HeapStep (size : ℕ) (r : α → α → Prop) :
    Multiset α → HeapOp α → HeapOut α → Multiset α → Prop
  | full {t x mem} : Multiset.card t = size →
      HeapStep size r t (.insert x mem) (.inserted (.error .enospc)) t
  | noMemory {t x} : Multiset.card t < size →
      HeapStep size r t (.insert x false) (.inserted (.error .enomem)) t
  | insert {t x} : Multiset.card t < size →
      HeapStep size r t (.insert x true) (.inserted (.ok ())) (x ::ₘ t)
  | popNothing : HeapStep size r 0 .pop (.got none) 0
  | pop {t x} : (∀ y ∈ t, r x y) → HeapStep size r (x ::ₘ t) .pop (.got (some x)) t
  | peekNothing : HeapStep size r 0 .peek (.got none) 0
  | peek {t x} : (∀ y ∈ t, r x y) → HeapStep size r (x ::ₘ t) .peek (.got (some x)) (x ::ₘ t)
  | isEmpty {t b} : (b = true ↔ t = 0) → HeapStep size r t .isEmpty (.answer b) t
  | isFull {t b} : (b = true ↔ Multiset.card t = size) → HeapStep size r t .isFull (.answer b) t

/-- What the calls leave as it is. -/
structure SameHeap (h h' : Heap α) : Prop where
  size : h'.size = h.size
  fCmp : h'.fCmp = h.fCmp

theorem Sifted.holds {h₁ h₂ : Heap α} {a a' : ℕ → α} {n i i' : ℕ} {x : α} (hs : Sifted h₁ a n i x h₂ a' i')
    (hroom : n ≤ h₁.heapSize) :
    ∃ h₃, h₂.put i' (some x) = .ok h₃ ∧ h₃ = { h₁ with heaparray := h₃.heaparray } ∧
      (∀ j, j < n → h₃.heaparray j = some (update a' i' x j)) := by
  have hlt := hs.lt
  have hsame : h₂.heapSize = h₁.heapSize := by rw [hs.frame]
  refine ⟨_, Heap.put_eq (by omega) _, ?_, fun j hj => hs.stores.fill hj⟩
  rw [hs.frame]

theorem heapInsert_spec (hr : Ranks (Rank h.fCmp)) (hh : h.Holds s) (x : α) (mem : Bool) :
    ∃ ret h' s', heapInsert h x mem = .ok (ret, h') ∧ h'.Holds s' ∧ SameHeap h h' ∧
      HeapStep h.size (Rank h.fCmp) s (.insert x mem) (.inserted ret) s' := by
  have hcard := hh.card
  have hle := hh.le
  have hroom := hh.room
  obtain ⟨a, hplaces, hordered, hitems⟩ := hh.places
  by_cases hfull : h.count = h.size
  · exact ⟨_, h, s, by rw [heapInsert, if_pos hfull], hh, ⟨rfl, rfl⟩, .full (hcard.trans hfull)⟩
  have hlt : Multiset.card s < h.size := by omega
  cases mem with
  | false =>
    exact ⟨_, h, s, by rw [heapInsert, if_neg hfull]; rfl, hh, ⟨rfl, rfl⟩, .noMemory hlt⟩
  | true =>
    rw [heapInsert, if_neg hfull, if_neg (by decide)]
    by_cases hzero : h.count = 0
    · rw [if_pos hzero, Heap.put_eq (by omega), ok_bind]
      refine ⟨_, _, x ::ₘ s, rfl, ⟨⟨fun _ => x, ?_, ?_, ?_⟩, ?_, hroom⟩, ⟨rfl, rfl⟩, .insert hlt⟩
      · intro i hi
        have hi0 : i = 0 := by
          have hi' : i < h.count + 1 := hi
          omega
        rw [hi0]
        show update h.heaparray 0 (some x) 0 = some x
        rw [update_self]
      · intro i hpos hi
        have hi' : i < h.count + 1 := hi
        omega
      · have hs : s = 0 := hh.eq_zero_iff.mpr hzero
        show items (fun _ => x) (h.count + 1) = _
        rw [hzero, hs, items_succ]
        rfl
      · show h.count + 1 ≤ h.size
        omega
    · rw [if_neg hzero]
      have hstores : h.Stores a (h.count + 1) h.count := fun j hj hne => hplaces j (by omega)
      obtain ⟨h₁, a', i', hloop, hsifted⟩ := insertLoop_spec x h.count hr (by omega)
        (Nat.lt_succ_self _) le_rfl hstores (hordered.up x)
      obtain ⟨h₂, hput, hframe, hfilled⟩ := hsifted.holds (by omega)
      rw [hloop, ok_bind]
      simp only [hput, ok_bind]
      have hcount : h₂.count = h.count := by rw [hframe]
      have hcmp : h₂.fCmp = h.fCmp := by rw [hframe]
      have hsize : h₂.size = h.size := by rw [hframe]
      have hheapSize : h₂.heapSize = h.heapSize := by rw [hframe]
      refine ⟨_, _, x ::ₘ s, rfl, ⟨⟨update a' i' x, ?_, ?_, ?_⟩, ?_, ?_⟩, ⟨hsize, hcmp⟩, .insert hlt⟩
      · show ∀ j, j < h₂.count + 1 → _
        rw [hcount]
        exact hfilled
      · show Ordered (Rank h₂.fCmp) _ (h₂.count + 1)
        rw [hcount, hcmp]
        exact hsifted.ordered
      · show items _ (h₂.count + 1) = _
        rw [hcount, hsifted.items, items_succ, update_self, ← hitems]
        congr 1
        exact items_congr fun j hj => update_of_ne hj.ne _ _
      · show h₂.count + 1 ≤ h₂.size
        omega
      · show h₂.size ≤ h₂.heapSize
        omega

theorem heapPeek_spec (hr : Ranks (Rank h.fCmp)) (hh : h.Holds s) :
    ∃ v, heapPeek h = .ok v ∧ HeapStep h.size (Rank h.fCmp) s .peek (.got v) s := by
  obtain ⟨a, hplaces, hordered, hitems⟩ := hh.places
  by_cases hzero : h.count = 0
  · have hs := hh.eq_zero_iff.mpr hzero
    subst hs
    exact ⟨none, by rw [heapPeek, if_pos hzero], .peekNothing⟩
  · obtain ⟨n, hn⟩ := Nat.exists_eq_succ_of_ne_zero hzero
    have hget : h.get 0 = .ok (a 0) :=
      Heap.get_eq (by have := hh.le; have := hh.room; omega) (hplaces 0 (by omega))
    have hmem : a 0 ∈ s := hitems ▸ mem_items (by omega)
    obtain ⟨t, rfl⟩ := Multiset.exists_cons_of_mem hmem
    refine ⟨some (a 0), by rw [heapPeek, if_neg hzero, hget]; rfl, .peek fun y hy => ?_⟩
    have hy' : y ∈ items a h.count := hitems ▸ Multiset.mem_cons_of_mem hy
    obtain ⟨i, hi, rfl⟩ := Multiset.mem_map.mp hy'
    exact hordered.first hr (Multiset.mem_range.mp hi)

theorem heapPop_spec (hr : Ranks (Rank h.fCmp)) (hh : h.Holds s) :
    ∃ v h' s', heapPop h = .ok (v, h') ∧ h'.Holds s' ∧ SameHeap h h' ∧
      HeapStep h.size (Rank h.fCmp) s .pop (.got v) s' := by
  have hle := hh.le
  have hroom := hh.room
  obtain ⟨a, hplaces, hordered, hitems⟩ := hh.places
  by_cases hzero : h.count = 0
  · have hs := hh.eq_zero_iff.mpr hzero
    subst hs
    exact ⟨none, h, 0, by rw [heapPop, if_pos hzero], hh, ⟨rfl, rfl⟩, .popNothing⟩
  obtain ⟨n, hn⟩ := Nat.exists_eq_succ_of_ne_zero hzero
  have hget : h.get 0 = .ok (a 0) := Heap.get_eq (by omega) (hplaces 0 (by omega))
  have hfirst : ∀ y ∈ items a h.count, Rank h.fCmp (a 0) y := by
    intro y hy
    obtain ⟨i, hi, rfl⟩ := Multiset.mem_map.mp hy
    exact hordered.first hr (Multiset.mem_range.mp hi)
  obtain ⟨h₀, hput₀, hsame₀, hfreed⟩ := h.put_frame (show 0 < h.heapSize by omega) none
  have hcount₀ : h₀.count = h.count := by rw [hsame₀]
  have hcmp₀ : h₀.fCmp = h.fCmp := by rw [hsame₀]
  have hsize₀ : h₀.size = h.size := by rw [hsame₀]
  have hheapSize₀ : h₀.heapSize = h.heapSize := by rw [hsame₀]
  rw [heapPop, if_neg hzero, hget, ok_bind, hput₀, ok_bind]
  by_cases hone : h.count = 1
  · rw [hcount₀, if_pos hone, Heap.put_eq (show 0 < h₀.heapSize by omega), ok_bind]
    have hs : s = a 0 ::ₘ 0 := by
      rw [← hitems, hone, items_succ]
      rfl
    subst hs
    refine ⟨_, _, 0, rfl, ⟨⟨a, ?_, ?_, ?_⟩, ?_, ?_⟩, ⟨hsize₀, hcmp₀⟩, .pop fun y hy => ?_⟩
    · intro i hi
      have hi' : i < h₀.count - 1 := hi
      omega
    · intro i hpos hi
      have hi' : i < h₀.count - 1 := hi
      omega
    · show items a (h₀.count - 1) = 0
      rw [hcount₀, hone]
      rfl
    · show h₀.count - 1 ≤ h₀.size
      omega
    · show h₀.size ≤ h₀.heapSize
      omega
    · exact absurd hy (Multiset.notMem_zero y)
  · have hlast : h₀.heaparray n = some (a n) := by
      rw [hfreed n (by omega)]
      exact hplaces n (by omega)
    have hpred : h₀.count - 1 = n := by omega
    have hstores : h₀.Stores a n 0 := by
      intro j hj hne
      rw [hfreed j hne]
      exact hplaces j (by omega)
    rw [hn, ← hcmp₀] at hordered
    obtain ⟨h₁, a', i', hloop, hsifted⟩ := popLoop_spec (a n) h₀.count (hcmp₀ ▸ hr)
      (hcount₀.trans hn) (by omega) (by omega) (by omega) hstores hlast (hordered.down (a n))
    obtain ⟨h₂, hput, hframe, hfilled⟩ := hsifted.holds (by omega)
    have hcount : h₂.count = h.count := by rw [hframe, hcount₀]
    have hcmp : h₂.fCmp = h.fCmp := by rw [hframe, hcmp₀]
    have hsize : h₂.size = h.size := by rw [hframe, hsize₀]
    have hheapSize : h₂.heapSize = h.heapSize := by rw [hframe, hheapSize₀]
    have hpred₂ : h₂.count - 1 = n := by omega
    rw [hcount₀, if_neg hone, ← hcount₀, hpred, Heap.get_eq (by omega) hlast, ok_bind, hloop, ok_bind]
    simp only [hput, ok_bind, hpred₂]
    rw [Heap.put_eq (by omega), ok_bind]
    have hs : s = a 0 ::ₘ items (update a 0 (a n)) n := by
      rw [items_update a (a n) (by omega), ← hitems, hn, items_succ]
    rw [hs] at hitems ⊢
    refine ⟨_, _, items (update a 0 (a n)) n, rfl, ⟨⟨update a' i' (a n), ?_, ?_, ?_⟩, ?_, ?_⟩,
      ⟨hsize, hcmp⟩, .pop fun y hy => hfirst y (hitems ▸ Multiset.mem_cons_of_mem hy)⟩
    · show ∀ i, i < h₂.count - 1 → update h₂.heaparray n none i = _
      intro i hi
      rw [update_of_ne (by omega)]
      exact hfilled i (by omega)
    · show Ordered (Rank h₂.fCmp) _ (h₂.count - 1)
      rw [hpred₂, hcmp, ← hcmp₀]
      exact hsifted.ordered
    · show items _ (h₂.count - 1) = _
      rw [hpred₂]
      exact hsifted.items
    · show h₂.count - 1 ≤ h₂.size
      omega
    · show h₂.size ≤ h₂.heapSize
      omega

/-- The array has as many places as the heap may hold elements. -/
theorem le_nextPowerOf2 {n : ℕ} (hpos : 0 < n) : n ≤ nextPowerOf2 n := by
  have hle : ∀ m k : ℕ, m ≤ m >>> k ||| m := fun m k => Nat.right_le_or
  have hall : n - 1 ≤ nextPowerOf2 n - 1 := by
    rw [nextPowerOf2, Nat.add_sub_cancel]
    exact ((((hle _ 1).trans (hle _ 2)).trans (hle _ 4)).trans (hle _ 8)).trans (hle _ 16)
  have hsucc : 0 < nextPowerOf2 n := Nat.succ_pos _
  omega

theorem heapCreate_holds [Inhabited α] (size : ℤ) (fCmp : α → α → ℤ) :
    (heapCreate size fCmp).Holds 0 := by
  refine ⟨⟨fun _ => default, ?_, ?_, rfl⟩, Nat.zero_le _, ?_⟩
  · intro i hi
    exact absurd hi (Nat.not_lt_zero i)
  · intro i _ hi
    exact absurd hi (Nat.not_lt_zero i)
  · have hpos : 0 < (heapCreate size fCmp).size := by
      show 0 < if size ≤ 0 then heapSizeDefault else size.toNat
      split
      · decide
      · omega
    exact (le_nextPowerOf2 hpos).trans (Nat.le_max_left _ _)

/-! ### Runs -/

/-- A run of calls. -/
def heapRuns : Heap α → List (HeapOp α) → Except Stop (List (HeapOut α) × Heap α)
  | h, [] => .ok ([], h)
  | h, op :: ops => do
    let (out, h) ← op.run h
    let (outs, h) ← heapRuns h ops
    return (out :: outs, h)

/-- A run on a multiset. -/
inductive HeapSteps (size : ℕ) (r : α → α → Prop) :
    Multiset α → List (HeapOp α) → List (HeapOut α) → Multiset α → Prop
  | nil {t} : HeapSteps size r t [] [] t
  | cons {t t' t'' op ops out outs} : HeapStep size r t op out t' →
      HeapSteps size r t' ops outs t'' → HeapSteps size r t (op :: ops) (out :: outs) t''

theorem HeapOp.run_spec (hr : Ranks (Rank h.fCmp)) (hh : h.Holds s) : ∀ op : HeapOp α,
    ∃ out h' s', op.run h = .ok (out, h') ∧ h'.Holds s' ∧ SameHeap h h' ∧
      HeapStep h.size (Rank h.fCmp) s op out s'
  | .insert x mem => by
    obtain ⟨ret, h', s', hcall, hh', hsame, hstep⟩ := heapInsert_spec hr hh x mem
    exact ⟨_, h', s', by rw [HeapOp.run, hcall]; rfl, hh', hsame, hstep⟩
  | .pop => by
    obtain ⟨v, h', s', hcall, hh', hsame, hstep⟩ := heapPop_spec hr hh
    exact ⟨_, h', s', by rw [HeapOp.run, hcall]; rfl, hh', hsame, hstep⟩
  | .peek => by
    obtain ⟨v, hcall, hstep⟩ := heapPeek_spec hr hh
    exact ⟨_, h, s, by rw [HeapOp.run, hcall]; rfl, hh, ⟨rfl, rfl⟩, hstep⟩
  | .isEmpty => by
    refine ⟨_, h, s, rfl, hh, ⟨rfl, rfl⟩, .isEmpty ?_⟩
    rw [heapIsEmpty, beq_iff_eq, hh.eq_zero_iff]
  | .isFull => by
    refine ⟨_, h, s, rfl, hh, ⟨rfl, rfl⟩, .isFull ?_⟩
    rw [heapIsFull, beq_iff_eq, hh.card]

theorem heapRuns_holds (hr : Ranks (Rank h.fCmp)) (hh : h.Holds s) (ops : List (HeapOp α)) :
    ∃ outs h' s', heapRuns h ops = .ok (outs, h') ∧ h'.Holds s' ∧
      HeapSteps h.size (Rank h.fCmp) s ops outs s' := by
  induction ops generalizing h s with
  | nil => exact ⟨[], h, s, rfl, hh, .nil⟩
  | cons op ops ih =>
    obtain ⟨out, h₁, s₁, hrun, hh₁, hsame, hstep⟩ := op.run_spec hr hh
    obtain ⟨outs, h', s', hruns, hh', hsteps⟩ := ih (hsame.fCmp ▸ hr) hh₁
    rw [hsame.size, hsame.fCmp] at hsteps
    refine ⟨out :: outs, h', s', ?_, hh', .cons hstep hsteps⟩
    rw [heapRuns, hrun, ok_bind]
    simp only [hruns, ok_bind]
    rfl

/-- In every run of calls on a new heap nothing outside the array is touched and no missing or freed node
    is read; an insertion fails only in a full heap or without memory; and what is popped or peeked at
    may stand, by `fCmp`, above everything in the heap. -/
theorem heapRuns_followMultiset [Inhabited α] (size : ℤ) {fCmp : α → α → ℤ}
    (hr : Ranks (Rank fCmp)) (ops : List (HeapOp α)) :
    ∃ outs h' s', heapRuns (heapCreate size fCmp) ops = .ok (outs, h') ∧ h'.Holds s' ∧
      HeapSteps (heapCreate size fCmp).size (Rank fCmp) 0 ops outs s' :=
  heapRuns_holds hr (heapCreate_holds size fCmp) ops

theorem ranks_of_key {β : Type} [LinearOrder β] {fCmp : α → α → ℤ} (key : α → β)
    (hkey : ∀ x y, fCmp x y > 0 ↔ key x < key y) : Ranks (Rank fCmp) := by
  have hiff : ∀ x y, Rank fCmp x y ↔ key x ≤ key y := fun x y => by
    rw [Rank, ← not_lt, ← not_lt, ← hkey y x]
  refine ⟨fun x y => ?_, fun x y z hxy hyz => ?_⟩
  · rw [hiff, hiff]
    exact le_total _ _
  · rw [hiff] at hxy hyz ⊢
    exact hxy.trans hyz

theorem heapRuns_followMultiset_smallest : ∃ outs h' s',
    heapRuns (heapCreate 3 fun x y : ℕ => (y : ℤ) - x)
      [.insert 7 true, .insert 5 true, .insert 6 false, .insert 6 true, .insert 1 true, .pop, .peek]
      = .ok (outs, h') ∧ h'.Holds s' ∧
    HeapSteps 3 (Rank fun x y : ℕ => (y : ℤ) - x) 0
      [.insert 7 true, .insert 5 true, .insert 6 false, .insert 6 true, .insert 1 true, .pop, .peek]
      outs s' :=
  heapRuns_followMultiset 3 (ranks_of_key id fun x y => by simp) _

end Calls

end FreeIpmi.Miscutil
