import Mathlib

/-! Loops that may go on forever.

    A loop is the function of one round, which leads to the next state or ends the loop with a
    result. `Ends` is a loop that ends from a state, and `Reached` the states its rounds lead to. A loop
    ends where a measure decreases, and it does not where an invariant only leads to itself. Where some
    of the rounds do not decrease the measure, it ends exactly when there are finitely many of them
    (`ends_iff_passes`). -/

namespace Loops
universe u v
variable {σ : Type u} {ρ : Type v} {round : σ → σ ⊕ ρ} {s s' : σ} {r : ρ} {n : ℕ}

/-- At most `n` rounds of the loop. -/
def run (round : σ → σ ⊕ ρ) : ℕ → σ → Option ρ
  | 0, _ => none
  | n + 1, s =>
    match round s with
    | .inl s' => run round n s'
    | .inr r => some r

/-- The loop ends. -/
def Ends (round : σ → σ ⊕ ρ) (s : σ) : Prop := ∃ n r, run round n s = some r

/-- The states that the rounds from a state lead to. -/
inductive Reached (round : σ → σ ⊕ ρ) (s₀ : σ) : σ → Prop where
  | start : Reached round s₀ s₀
  | next {s s' : σ} (h : Reached round s₀ s) (hround : round s = .inl s') : Reached round s₀ s'

@[simp] theorem run_zero (s : σ) : run round 0 s = none := rfl

theorem run_inl (h : round s = .inl s') : run round (n + 1) s = run round n s' := by
  rw [run, h]

theorem run_inr (h : round s = .inr r) : run round (n + 1) s = some r := by
  rw [run, h]

/-- A state that is reached is the first one, or reached from the next one. -/
theorem reached_iff {s₀ : σ} :
    Reached round s₀ s ↔ s = s₀ ∨ ∃ s₁, round s₀ = .inl s₁ ∧ Reached round s₁ s := by
  constructor
  · intro h
    induction h with
    | start => exact Or.inl rfl
    | next _ hround ih =>
      rcases ih with rfl | ⟨s₁, hfirst, hreached⟩
      · exact Or.inr ⟨_, hround, .start⟩
      · exact Or.inr ⟨s₁, hfirst, hreached.next hround⟩
  · rintro (rfl | ⟨s₁, hfirst, hreached⟩)
    · exact .start
    · induction hreached with
      | start => exact .next .start hfirst
      | next _ hround ih => exact ih.next hround

/-- What holds at first and is kept by every round holds of every state reached. -/
theorem Reached.invariant (Inv : σ → Prop) {s₀ : σ} (h : Reached round s₀ s) (h₀ : Inv s₀)
    (hstep : ∀ s s', Reached round s₀ s → Inv s → round s = .inl s' → Inv s') : Inv s := by
  induction h with
  | start => exact h₀
  | next hreached hround ih => exact hstep _ _ hreached ih hround

/-- A loop whose measure every round decreases ends, with what its last round yields. -/
theorem run_of_measure (Inv : σ → Prop) {Q : ρ → Prop} (μ : σ → ℕ)
    (hstep : ∀ s s', Inv s → round s = .inl s' → Inv s' ∧ μ s' < μ s)
    (hlast : ∀ s r, Inv s → round s = .inr r → Q r) (h : Inv s) (hn : μ s < n) :
    ∃ r, run round n s = some r ∧ Q r := by
  induction n generalizing s with
  | zero => exact absurd hn (Nat.not_lt_zero _)
  | succ n ih =>
    cases hround : round s with
    | inl s' =>
      obtain ⟨hinv, hlt⟩ := hstep s s' h hround
      rw [run_inl hround]
      exact ih hinv (by omega)
    | inr r => exact ⟨r, run_inr hround, hlast s r h hround⟩

/-- A loop that an invariant keeps going does not end. -/
theorem not_ends (Inv : σ → Prop) (hstep : ∀ s, Inv s → ∃ s', round s = .inl s' ∧ Inv s')
    (h : Inv s) : ¬ Ends round s := by
  rintro ⟨n, r, hr⟩
  induction n generalizing s with
  | zero => cases hr
  | succ n ih =>
    obtain ⟨s', hround, hinv⟩ := hstep s h
    rw [run_inl hround] at hr
    exact ih hinv hr

/-! ### Rounds that make no progress -/

/-- How many of the first `n` rounds start in a state with `p`. -/
def passes (round : σ → σ ⊕ ρ) (p : σ → Bool) : ℕ → σ → ℕ
  | 0, _ => 0
  | n + 1, s => (p s).toNat +
    match round s with
    | .inl s' => passes round p n s'
    | .inr _ => 0

section Passes
variable {p : σ → Bool} {k : ℕ}

theorem passes_inl (h : round s = .inl s') :
    passes round p (n + 1) s = (p s).toNat + passes round p n s' := by
  rw [passes, h]

/-- A loop that has ended passes no more states. -/
theorem passes_le_of_run (h : run round n s = some r) (m : ℕ) : passes round p m s ≤ n := by
  induction n generalizing s m with
  | zero => cases h
  | succ n ih =>
    cases m with
    | zero => exact Nat.zero_le _
    | succ m =>
      have hone := Bool.toNat_le (p s)
      cases hround : round s with
      | inl s' =>
        rw [run_inl hround] at h
        have hrest := ih h m
        rw [passes_inl hround]
        omega
      | inr r' =>
        rw [passes, hround]
        dsimp only
        omega

/-- A loop whose rounds decrease a measure, but for at most `k` of them. -/
theorem run_of_passes (Inv : σ → Prop) {Q : ρ → Prop} (μ : σ → ℕ)
    (hstep : ∀ s s', Inv s → round s = .inl s' → Inv s' ∧ μ s' < μ s + (p s).toNat)
    (hlast : ∀ s r, Inv s → round s = .inr r → Q r) (h : Inv s)
    (hk : ∀ m, passes round p m s ≤ k) (hn : μ s + k < n) : ∃ r, run round n s = some r ∧ Q r := by
  induction n generalizing s k with
  | zero => exact absurd hn (Nat.not_lt_zero _)
  | succ n ih =>
    cases hround : round s with
    | inl s' =>
      obtain ⟨hinv, hlt⟩ := hstep s s' h hround
      have hone := hk 1
      rw [passes_inl hround, passes] at hone
      rw [run_inl hround]
      refine ih (k := k - (p s).toNat) hinv (fun m => ?_) (by omega)
      have hrest := hk (m + 1)
      rw [passes_inl hround] at hrest
      omega
    | inr r => exact ⟨r, run_inr hround, hlast s r h hround⟩

/-- Such a loop ends exactly when finitely many rounds do not decrease the measure. -/
theorem ends_iff_passes (Inv : σ → Prop) (μ : σ → ℕ)
    (hstep : ∀ s s', Inv s → round s = .inl s' → Inv s' ∧ μ s' < μ s + (p s).toNat) (h : Inv s) :
    Ends round s ↔ ∃ k, ∀ m, passes round p m s ≤ k := by
  constructor
  · rintro ⟨n, r, hrun⟩
    exact ⟨n, passes_le_of_run hrun⟩
  · rintro ⟨k, hk⟩
    obtain ⟨r, hrun, -⟩ := run_of_passes Inv μ hstep (fun _ _ _ _ => trivial) h hk (Nat.lt_succ_self _)
    exact ⟨_, r, hrun⟩

end Passes

/-! ### What a run leaves behind -/

/-- The last round of a run. -/
theorem exists_last (h : run round n s = some r) :
    ∃ s', Reached round s s' ∧ round s' = .inr r := by
  induction n generalizing s with
  | zero => cases h
  | succ n ih =>
    cases hround : round s with
    | inl s₁ =>
      rw [run_inl hround] at h
      obtain ⟨s', hreached, hlast⟩ := ih h
      exact ⟨s', reached_iff.mpr (Or.inr ⟨s₁, hround, hreached⟩), hlast⟩
    | inr r' =>
      rw [run_inr hround] at h
      cases h
      exact ⟨s, .start, hround⟩

/-- More rounds do not change how a run ends. -/
theorem run_add (h : run round n s = some r) (m : ℕ) : run round (n + m) s = some r := by
  induction n generalizing s with
  | zero => cases h
  | succ n ih =>
    rw [Nat.succ_add]
    cases hround : round s with
    | inl s' =>
      rw [run_inl hround] at h
      rw [run_inl hround]
      exact ih h
    | inr r' =>
      rw [run_inr hround] at h
      rw [run_inr hround, h]

/-- A run goes through every state that is reached. -/
theorem run_of_reached {s₀ : σ} (h : Reached round s₀ s) :
    ∃ n, ∀ m, run round (n + m) s₀ = run round m s := by
  induction h with
  | start => exact ⟨0, fun m => by rw [Nat.zero_add]⟩
  | next _ hround ih =>
    obtain ⟨n, hn⟩ := ih
    exact ⟨n + 1, fun m => by rw [Nat.add_assoc, hn, Nat.add_comm 1 m, run_inl hround]⟩

/-- A run ends as the last round of a state that is reached does. -/
theorem run_of_last {s₀ : σ} (h : Reached round s₀ s) (hlast : round s = .inr r) :
    ∃ n, run round n s₀ = some r := by
  obtain ⟨n, hn⟩ := run_of_reached h
  exact ⟨n + 1, (hn 1).trans (run_inr hlast)⟩

/-- The run from a state that is reached ends as the whole run does. -/
theorem run_from_reached {s₀ : σ} (h : Reached round s₀ s) (hrun : run round n s₀ = some r) :
    run round n s = some r := by
  obtain ⟨k, hk⟩ := run_of_reached h
  rw [← hk n, Nat.add_comm]
  exact run_add hrun k

/-- A cost that grows by at most one in a round. -/
theorem run_cost (cost : σ → ℕ) (total : ρ → ℕ)
    (hstep : ∀ s s', round s = .inl s' → cost s' ≤ cost s + 1)
    (hlast : ∀ s r, round s = .inr r → total r ≤ cost s + 1) (h : run round n s = some r) :
    total r ≤ cost s + n := by
  induction n generalizing s with
  | zero => cases h
  | succ n ih =>
    cases hround : round s with
    | inl s' =>
      rw [run_inl hround] at h
      have hrest := ih h
      have hone := hstep s s' hround
      omega
    | inr r' =>
      rw [run_inr hround] at h
      cases h
      have hone := hlast s r hround
      omega

end Loops
