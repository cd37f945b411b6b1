import Mathlib

/-! Binary heaps in an array, and the two ways in which they are put in order.

    A place below the first has a parent in front of it, and `r x y` says that `x` may stand above `y`.
    An element is put into an ordered heap by moving a hole: upwards from the end (`Up`), or downwards
    from the first place (`Down`). Each of the two says what is in order around the hole, and the element
    fits in where it says so. The elements themselves stay the same (`items_move`). -/

namespace BinaryHeap
open Function
universe u
variable {α : Type u} {a : ℕ → α} {x : α} {i j k n : ℕ}

/-! ### Places -/

/-- The place above. -/
def parent (i : ℕ) : ℕ := (i - 1) / 2

theorem parent_lt (h : 0 < i) : parent i < i := by
  rw [parent]
  omega

theorem parent_eq_iff (h : 0 < j) : parent j = i ↔ j = 2 * i + 1 ∨ j = 2 * i + 2 := by
  rw [parent]
  omega

/-- The elements at the first `n` places. -/
def items (a : ℕ → α) (n : ℕ) : Multiset α := (Multiset.range n).map a

theorem items_succ (a : ℕ → α) (n : ℕ) : items a (n + 1) = a n ::ₘ items a n := by
  rw [items, Multiset.range_succ, Multiset.map_cons, items]

theorem mem_items (h : i < n) : a i ∈ items a n :=
  Multiset.mem_map_of_mem a (Multiset.mem_range.mpr h)

theorem card_items (a : ℕ → α) (n : ℕ) : Multiset.card (items a n) = n := by
  rw [items, Multiset.card_map, Multiset.card_range]

theorem items_congr {b : ℕ → α} (h : ∀ i, i < n → a i = b i) : items a n = items b n :=
  Multiset.map_congr rfl fun i hi => h i (Multiset.mem_range.mp hi)

/-- Another element at one place. -/
theorem items_update (a : ℕ → α) (x : α) (h : i < n) :
    a i ::ₘ items (update a i x) n = x ::ₘ items a n := by
  induction n with
  | zero => omega
  | succ n ih =>
    rw [items_succ, items_succ]
    by_cases hlast : i = n
    · subst hlast
      have hrest : items (update a i x) i = items a i :=
        items_congr fun j hj => update_of_ne (by omega) x a
      rw [update_self, hrest, Multiset.cons_swap]
    · rw [update_of_ne (Ne.symm hlast), Multiset.cons_swap, ih (by omega), Multiset.cons_swap]

/-- The hole that is to take `x` moves from `i` to `j`. -/
theorem items_move (a : ℕ → α) (x : α) (hi : i < n) (hj : j < n) (hij : i ≠ j) :
    items (update (update a i (a j)) j x) n = items (update a i x) n := by
  have hmoved : a j ::ₘ items (update (update a i (a j)) j x) n
      = x ::ₘ items (update a i (a j)) n := by
    have hupdate := items_update (update a i (a j)) x hj
    rwa [update_of_ne (Ne.symm hij)] at hupdate
  have hfirst := items_update a (a j) hi
  have hwhole := items_update a x hi
  have hall : a i ::ₘ a j ::ₘ items (update (update a i (a j)) j x) n
      = a i ::ₘ a j ::ₘ items (update a i x) n := by
    rw [hmoved, Multiset.cons_swap, hfirst, Multiset.cons_swap (a i) (a j), hwhole, Multiset.cons_swap]
  rwa [Multiset.cons_inj_right, Multiset.cons_inj_right] at hall

/-! ### Order -/

/-- A relation that orders all elements, some of them perhaps level with each other. -/
structure Ranks (r : α → α → Prop) : Prop where
  total : ∀ x y, r x y ∨ r y x
  trans : ∀ x y z, r x y → r y z → r x z

/-- No element stands below one that it should stand above. -/
def Ordered (r : α → α → Prop) (a : ℕ → α) (n : ℕ) : Prop :=
  ∀ i, 0 < i → i < n → r (a (parent i)) (a i)

/-- The first element may stand above all others. -/
theorem Ordered.first {r : α → α → Prop} (hr : Ranks r) (h : Ordered r a n) (hi : i < n) :
    r (a 0) (a i) := by
  induction i using Nat.strong_induction_on with
  | _ i ih =>
    rcases Nat.eq_zero_or_pos i with rfl | hpos
    · exact (hr.total _ _).elim id id
    · have hlt := parent_lt hpos
      exact hr.trans _ _ _ (ih _ hlt (hlt.trans hi)) (h i hpos hi)

/-- Everything is in order that does not touch the hole at `i`; and what is below it fits to what is
    above it. -/
structure Around (r : α → α → Prop) (a : ℕ → α) (n i : ℕ) : Prop where
  except : ∀ j, 0 < j → j < n → j ≠ i → parent j ≠ i → r (a (parent j)) (a j)
  across : 0 < i → ∀ j, 0 < j → j < n → parent j = i → r (a (parent i)) (a j)

/-- `x` fits below the hole, if not above it. -/
structure Up (r : α → α → Prop) (a : ℕ → α) (n i : ℕ) (x : α) : Prop where
  around : Around r a n i
  below : ∀ j, 0 < j → j < n → parent j = i → r x (a j)

/-- `x` fits above the hole, if not below it. -/
structure Down (r : α → α → Prop) (a : ℕ → α) (n i : ℕ) (x : α) : Prop where
  around : Around r a n i
  above : 0 < i → r (a (parent i)) x

section Sift
variable {r : α → α → Prop}

/-- Where it fits on both sides, the heap is in order. -/
theorem Around.fill (h : Around r a n i) (habove : 0 < i → r (a (parent i)) x)
    (hbelow : ∀ j, 0 < j → j < n → parent j = i → r x (a j)) : Ordered r (update a i x) n := by
  intro j hj hjn
  by_cases hij : j = i
  · subst hij
    rw [update_self, update_of_ne (parent_lt hj).ne]
    exact habove hj
  · rw [update_of_ne hij]
    by_cases hparent : parent j = i
    · rw [hparent, update_self]
      exact hbelow j hj hjn hparent
    · rw [update_of_ne hparent]
      exact h.except j hj hjn hij hparent

/-- A new element starts at the end. -/
theorem Ordered.up (h : Ordered r a n) (x : α) : Up r a (n + 1) n x where
  around := {
    except := fun j hj hjn hne _ => h j hj (by omega)
    across := fun _ j hj hjn hparent => by
      have hlt := parent_lt hj
      omega }
  below := fun j hj hjn hparent => by
    have hlt := parent_lt hj
    omega

/-- The element above the hole is moved into it. -/
theorem Up.move (hr : Ranks r) (h : Up r a n i x) (hpos : 0 < i) (hi : i < n)
    (hup : ¬ r (a (parent i)) x) : Up r (update a i (a (parent i))) n (parent i) x := by
  have hlt := parent_lt hpos
  have hx : r x (a (parent i)) := (hr.total _ _).resolve_left hup
  have hnext : 0 < parent i → r (a (parent (parent i))) (a (parent i)) := fun hp =>
    h.around.except _ hp (by omega) (by omega) (by have := parent_lt hp; omega)
  have hsibling : ∀ j, 0 < j → j < n → j ≠ i → parent j = parent i → r (a (parent i)) (a j) := by
    intro j hj hjn hji hparent
    have hedge := h.around.except j hj hjn hji (by omega)
    rwa [hparent] at hedge
  refine ⟨⟨?_, ?_⟩, ?_⟩
  · intro j hj hjn hji hparent
    have hne : j ≠ i := fun heq => hparent (heq ▸ rfl)
    rw [update_of_ne hne]
    by_cases hbelow : parent j = i
    · rw [hbelow, update_self]
      exact h.around.across hpos j hj hjn hbelow
    · rw [update_of_ne hbelow]
      exact h.around.except j hj hjn hne hbelow
  · intro hp j hj hjn hparent
    have hgrand := parent_lt hp
    rw [update_of_ne (by omega)]
    by_cases hji : j = i
    · rw [hji, update_self]
      exact hnext hp
    · rw [update_of_ne hji]
      exact hr.trans _ _ _ (hnext hp) (hsibling j hj hjn hji hparent)
  · intro j hj hjn hparent
    by_cases hji : j = i
    · rw [hji, update_self]
      exact hx
    · rw [update_of_ne hji]
      exact hr.trans _ _ _ hx (hsibling j hj hjn hji hparent)

/-- The first element is taken away, and one place less is left. -/
theorem Ordered.down (h : Ordered r a (n + 1)) (x : α) : Down r a n 0 x where
  around := {
    except := fun j hj hjn _ _ => h j hj (by omega)
    across := fun hpos => absurd hpos (lt_irrefl 0) }
  above := fun hpos => absurd hpos (lt_irrefl 0)

/-- The first of the elements below the hole is moved into it. -/
theorem Down.move (h : Down r a n i x) (hj : 0 < j) (hjn : j < n) (hparent : parent j = i)
    (hfirst : ∀ k, 0 < k → k < n → parent k = i → r (a j) (a k)) (hdown : r (a j) x) :
    Down r (update a i (a j)) n j x := by
  have hlt := parent_lt hj
  refine ⟨⟨?_, ?_⟩, ?_⟩
  · intro k hk hkn hkj hne
    by_cases hki : k = i
    · subst hki
      have hlt' := parent_lt hk
      rw [update_self, update_of_ne hlt'.ne]
      exact h.around.across hk j hj hjn hparent
    · rw [update_of_ne hki]
      by_cases hbelow : parent k = i
      · rw [hbelow, update_self]
        exact hfirst k hk hkn hbelow
      · rw [update_of_ne hbelow]
        exact h.around.except k hk hkn hki hbelow
  · intro _ k hk hkn hbelow
    have hlt' := parent_lt hk
    rw [hparent, update_self, update_of_ne (by omega)]
    have hedge := h.around.except k hk hkn (by omega) (by omega)
    rwa [hbelow] at hedge
  · intro _
    rw [hparent, update_self]
    exact hdown

end Sift

end BinaryHeap
