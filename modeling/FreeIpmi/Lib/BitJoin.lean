import Mathlib

/-! The join over the bits of a mask that are set.

    Each bit stands for a value of a join semilattice, and a mask for the join of the values of its bits.
    The join of a union is the join of the joins, and bits that stand for the least value do not count. -/

namespace BitJoin
universe u
variable {α : Type u} [SemilatticeSup α] [OrderBot α] {w : ℕ} {f g : ℕ → α} {a b : BitVec w} {n m : ℕ}

/-- The join over the bits below `n`. -/
def joinTo (f : ℕ → α) (b : BitVec w) (n : ℕ) : α :=
  (Finset.range n).sup fun k => if b.getLsbD k then f k else ⊥

@[simp] theorem joinTo_zero (f : ℕ → α) (b : BitVec w) : joinTo f b 0 = ⊥ := by
  simp [joinTo]

theorem joinTo_succ (f : ℕ → α) (b : BitVec w) (n : ℕ) :
    joinTo f b (n + 1) = joinTo f b n ⊔ if b.getLsbD n then f n else ⊥ := by
  rw [joinTo, Finset.range_add_one, Finset.sup_insert, sup_comm]
  rfl

/-- A mask without bits has the least value. -/
theorem joinTo_empty (f : ℕ → α) (n : ℕ) : joinTo f (0 : BitVec w) n = ⊥ := by
  simp [joinTo]

theorem joinTo_congr (h : ∀ k < n, b.getLsbD k = true → f k = g k) : joinTo f b n = joinTo g b n := by
  refine Finset.sup_congr rfl fun k hk => ?_
  split
  · rename_i hbit
    exact h k (Finset.mem_range.mp hk) hbit
  · rfl

/-- The join of a union of masks. -/
theorem joinTo_or (f : ℕ → α) (a b : BitVec w) (n : ℕ) :
    joinTo f (a ||| b) n = joinTo f a n ⊔ joinTo f b n := by
  rw [joinTo, joinTo, joinTo, ← Finset.sup_sup]
  refine Finset.sup_congr rfl fun k _ => ?_
  rw [BitVec.getLsbD_or, Pi.sup_apply]
  cases a.getLsbD k <;> cases b.getLsbD k <;> simp

/-- Bits from `n` on that stand for the least value do not count. -/
theorem joinTo_of_bot (hle : n ≤ m) (h : ∀ k, n ≤ k → b.getLsbD k = true → f k = ⊥) :
    joinTo f b m = joinTo f b n := by
  induction m, hle using Nat.le_induction with
  | base => rfl
  | succ m hle ih =>
    rw [joinTo_succ, ih]
    split
    · rename_i hbit
      rw [h m hle hbit, sup_bot_eq]
    · rw [sup_bot_eq]

/-- A bound on the values is one on the join. -/
theorem joinTo_le {c : α} (h : ∀ k < n, f k ≤ c) : joinTo f b n ≤ c := by
  refine Finset.sup_le fun k hk => ?_
  split
  · exact h k (Finset.mem_range.mp hk)
  · exact bot_le

end BitJoin
