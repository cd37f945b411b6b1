import Mathlib

/-! Distances on a cycle.

    Places on a cycle of length `m` are natural numbers taken modulo `m`. `ahead m i j` is the number
    of steps that lead from `i` forward to `j`; going backward is `ahead m j i`. -/

namespace Cycle
variable {m i j : ℕ}

/-- The number of steps forward from `i` to `j`. -/
def ahead (m i j : ℕ) : ℕ := (j % m + (m - i % m)) % m

theorem ahead_lt (hm : 0 < m) (i j : ℕ) : ahead m i j < m := Nat.mod_lt _ hm

/-- Going that many steps leads to `j`. -/
theorem add_ahead (hm : 0 < m) (i j : ℕ) : (i + ahead m i j) % m = j % m := by
  have hi := Nat.mod_lt i hm
  have hsum : i % m + (j % m + (m - i % m)) = j % m + m := by omega
  calc (i + ahead m i j) % m
      = (i % m + (j % m + (m - i % m))) % m := by
        rw [ahead, Nat.add_mod_mod, Nat.mod_add_mod]
    _ = j % m := by rw [hsum, Nat.add_mod_right, Nat.mod_mod]

/-- The distance is the only number of steps below `m` that leads to `j`. -/
theorem ahead_eq {a : ℕ} (ha : a < m) (h : (i + a) % m = j % m) : ahead m i j = a := by
  have hm : 0 < m := by omega
  have heq : i + ahead m i j ≡ i + a [MOD m] := (add_ahead hm i j).trans h.symm
  exact Nat.ModEq.eq_of_lt_of_lt (Nat.ModEq.add_left_cancel' i heq) (ahead_lt hm i j) ha

theorem ahead_self (hm : 0 < m) (i : ℕ) : ahead m i i = 0 := ahead_eq hm rfl

/-- Forward and backward distance make up the whole cycle, unless the places coincide. -/
theorem ahead_add_ahead (hm : 0 < m) (i j : ℕ) :
    (ahead m i j = 0 ∧ ahead m j i = 0) ∨ ahead m i j + ahead m j i = m := by
  have h1 := ahead_lt hm i j
  have hij := add_ahead hm i j
  rcases Nat.eq_zero_or_pos (ahead m i j) with h0 | hpos
  · refine Or.inl ⟨h0, ahead_eq hm ?_⟩
    rw [h0, Nat.add_zero] at hij
    rw [Nat.add_zero, hij]
  · refine Or.inr ?_
    have hback : ahead m j i = m - ahead m i j := by
      apply ahead_eq (by omega)
      have hsum : i + ahead m i j + (m - ahead m i j) = i + m := by omega
      rw [← Nat.mod_add_mod, ← hij, Nat.mod_add_mod, hsum, Nat.add_mod_right]
    omega

end Cycle
