import FreeIpmi.Util.SequenceNumber

/-! Replay protection over a whole session.

    Numbers repeat once the cycle is through, so a session is followed by an observer that counts on:
    `top` is the place of the highest number, and `accepted` are the places of the numbers accepted
    so far. The list of the receiver is then exactly the record of the 8 places below `top`
    (`Tracks`), every place is accepted at most once, and a number can come back only when `top` has
    gone almost once around. -/

namespace FreeIpmi.Util
open Calls Cycle

/-- A session and what an observer has noted of it. -/
structure Session where
  window : Window
  top : ℕ
  accepted : List ℤ
  deriving DecidableEq

/-- Before the first number. -/
def Session.init : Session := ⟨checkSessionSequenceNumberInit, 0, []⟩

/-- A place whose number counts as received: accepted, or not after the start of the session. -/
def Session.Received (S : Session) (p : ℤ) : Prop := p ≤ 0 ∨ p ∈ S.accepted

/-- A number arrives. It stands for the nearest place at or below the (new) top that carries it. -/
def Session.step (ipmi20 : Bool) (w : ℕ) (S : Session) (s : BitVec 32) :
    Except Stop (Bool × Session) := do
  let (r, window) ← checkSessionSequenceNumber s S.window w ipmi20
  let top := S.top + stepsAhead ipmi20 S.window.highest window.highest
  let place : ℤ := (top : ℤ) - stepsAhead ipmi20 s window.highest
  return (r, ⟨window, top, if r then place :: S.accepted else S.accepted⟩)

/-- A sequence of numbers arrives. -/
def Session.run (ipmi20 : Bool) (w : ℕ) : List (BitVec 32) → Session → Except Stop Session
  | [], S => .ok S
  | s :: ss, S => do
    let (_, S) ← S.step ipmi20 w s
    Session.run ipmi20 w ss S

/-- The receiver's state is the record of what the observer has noted. -/
structure Tracks (ipmi20 : Bool) (S : Session) : Prop where
  highest : S.window.highest.toNat % cycleLen ipmi20 = S.top % cycleLen ipmi20
  list : ∀ k : ℕ, 1 ≤ k → k ≤ 8 →
    (S.window.list.getLsbD (k - 1) = true ↔ S.Received (S.top - k))
  range : ∀ p ∈ S.accepted, 0 < p ∧ p ≤ S.top
  top : S.Received S.top
  nodup : S.accepted.Nodup

/-! ### One number -/

/-- What the arrival of a number can do: nothing, move the top up by 1 to 8 places, or fill in one of
    the 8 places below it. -/
inductive Arrives (ipmi20 : Bool) (S : Session) (s : BitVec 32) : Bool → Session → Prop where
  | drop : Arrives ipmi20 S s false S
  | ahead (a : ℕ) : 1 ≤ a → a ≤ 8 → stepsAhead ipmi20 S.window.highest s = a →
      Arrives ipmi20 S s true
        ⟨⟨s, (S.window.list <<< a) ||| (1#32 <<< (a - 1))⟩, S.top + a, ((S.top : ℤ) + a) :: S.accepted⟩
  | behind (b : ℕ) : 1 ≤ b → b ≤ 8 → stepsAhead ipmi20 s S.window.highest = b →
      S.window.list.getLsbD (b - 1) = false →
      Arrives ipmi20 S s true
        ⟨{ S.window with list := S.window.list ||| (1#32 <<< (b - 1)) }, S.top,
          ((S.top : ℤ) - b) :: S.accepted⟩

section Step
variable {ipmi20 : Bool} {w : ℕ} {S S' : Session} {s : BitVec 32} {r : Bool}

theorem stepsAhead_self (ipmi20 : Bool) (n : BitVec 32) : stepsAhead ipmi20 n n = 0 :=
  ahead_self (cycleLen_pos ipmi20) _

theorem arrives_of_step (hw : w ≤ 32) (h : S.step ipmi20 w s = .ok (r, S')) :
    Arrives ipmi20 S s r S' := by
  obtain ⟨⟨r', W⟩, hcheck, h⟩ := bind_eq_ok.mp h
  cases h
  have hkeep : Arrives ipmi20 S s false
      ⟨S.window, S.top + stepsAhead ipmi20 S.window.highest S.window.highest, S.accepted⟩ := by
    rw [stepsAhead_self]
    exact .drop
  rw [check_eq hw] at hcheck
  split at hcheck
  · cases hcheck
    exact hkeep
  · split at hcheck
    · rename_i ha
      cases hcheck
      have hahead := Arrives.ahead (S := S) _ ha.1 ha.2 rfl
      simpa [stepsAhead_self] using hahead
    · split at hcheck
      · cases hcheck
      · split at hcheck
        · cases hcheck
          exact hkeep
        · split at hcheck
          · rename_i hb
            split at hcheck
            · cases hcheck
              exact hkeep
            · rename_i hbit
              cases hcheck
              have hbehind := Arrives.behind (S := S) _ hb.1 hb.2 rfl (by simpa using hbit)
              simpa [stepsAhead_self] using hbehind
          · cases hcheck
            exact hkeep

/-- Only the last number before any other, in IPMI 2.0, has no defined result. -/
theorem step_defined (hw : w ≤ 32) (h : ¬ FirstIsLast ipmi20 S.window s) :
    ∃ r S', S.step ipmi20 w s = .ok (r, S') := by
  obtain ⟨⟨r, W⟩, hcheck⟩ := (check_returns_iff hw).mpr h
  exact ⟨r, _, by simp only [Session.step, hcheck, ok_bind]; rfl⟩

theorem Tracks.init (ipmi20 : Bool) : Tracks ipmi20 .init := by
  refine ⟨rfl, ?_, ?_, Or.inl le_rfl, List.nodup_nil⟩
  · intro k h1 h8
    have hrec : Session.init.Received ((Session.init.top : ℕ) - k : ℤ) := Or.inl (by simp [Session.init])
    refine iff_of_true ?_ hrec
    interval_cases k <;> rfl
  · intro p hp
    cases hp

theorem not_received_above (h : Tracks ipmi20 S) {p : ℤ} (hp : (S.top : ℤ) < p) : ¬ S.Received p := by
  rintro (h0 | hmem)
  · omega
  · have := (h.range p hmem).2
    omega

/-- Noting a place leaves the other places as they were. -/
theorem received_cons {W : Window} {t : ℕ} {p q : ℤ} (hne : q ≠ p) :
    Session.Received ⟨W, t, p :: S.accepted⟩ q ↔ S.Received q := by
  simp [Session.Received, hne]

/-- The list after the top has moved up by `a`. -/
theorem getLsbD_moved (l : BitVec 32) {a k : ℕ} (ha : 1 ≤ a) (hk : 1 ≤ k) (hk8 : k ≤ 8) :
    ((l <<< a) ||| (1#32 <<< (a - 1))).getLsbD (k - 1)
      = if k < a then false else if k = a then true else l.getLsbD (k - a - 1) := by
  simp only [BitVec.getLsbD_or, BitVec.getLsbD_shiftLeft, BitVec.getLsbD_one]
  rcases lt_trichotomy k a with hlt | rfl | hgt
  · have h2 : k - 1 < a := by omega
    have h3 : k - 1 < a - 1 := by omega
    simp [h2, h3, hlt]
  · have h2 : k - 1 < 32 := by omega
    simp [h2]
  · have h2 : ¬ k - 1 < a := by omega
    have h3 : k - 1 < 32 := by omega
    have h4 : ¬ k - 1 - (a - 1) = 0 := by omega
    have h5 : k - 1 - a = k - a - 1 := by omega
    simp [h2, h3, h4, h5, hgt.ne', show ¬ k < a by omega]

/-- The list after place `b` below the top has been filled in. -/
theorem getLsbD_filled (l : BitVec 32) {b k : ℕ} (hb : 1 ≤ b) (hk : 1 ≤ k) (hk8 : k ≤ 8) :
    (l ||| (1#32 <<< (b - 1))).getLsbD (k - 1) = if k = b then true else l.getLsbD (k - 1) := by
  simp only [BitVec.getLsbD_or, BitVec.getLsbD_shiftLeft, BitVec.getLsbD_one]
  rcases lt_trichotomy k b with hlt | rfl | hgt
  · have h2 : k - 1 < b - 1 := by omega
    simp [h2, hlt.ne]
  · have h2 : k - 1 < 32 := by omega
    simp [h2]
  · have h2 : ¬ k - 1 - (b - 1) = 0 := by omega
    simp [h2, hgt.ne']

/-- The record stays right when the top moves up. -/
theorem Tracks.ahead (h : Tracks ipmi20 S) {a : ℕ} (h1 : 1 ≤ a) (h8 : a ≤ 8)
    (hsteps : stepsAhead ipmi20 S.window.highest s = a) : Tracks ipmi20
      ⟨⟨s, (S.window.list <<< a) ||| (1#32 <<< (a - 1))⟩, S.top + a, ((S.top : ℤ) + a) :: S.accepted⟩ := by
  refine ⟨?_, ?_, ?_, Or.inr ?_, ?_⟩
  · have hplace : (S.window.highest.toNat + a) % cycleLen ipmi20 = s.toNat % cycleLen ipmi20 := by
      rw [← hsteps]
      exact add_ahead (cycleLen_pos ipmi20) _ _
    rw [← hplace, Nat.add_mod, h.highest, ← Nat.add_mod]
  · intro k hk1 hk8
    -- a place below the new top lies above the old one, is the old one, or lies below it
    rw [received_cons (by push_cast; omega), getLsbD_moved _ h1 hk1 hk8]
    rcases lt_trichotomy k a with hlt | rfl | hgt
    · have hnot := not_received_above h (p := ((S.top + a : ℕ) : ℤ) - k) (by push_cast; omega)
      simp only [if_pos hlt, Bool.false_eq_true, false_iff]
      exact hnot
    · simp only [lt_irrefl, if_false, if_true, true_iff, Nat.cast_add, add_sub_cancel_right]
      exact h.top
    · have hplace : ((S.top + a : ℕ) : ℤ) - k = (S.top : ℤ) - ((k - a : ℕ) : ℤ) := by
        push_cast [Nat.cast_sub hgt.le]
        ring
      rw [if_neg (by omega), if_neg hgt.ne', hplace]
      exact h.list (k - a) (by omega) (by omega)
  · intro p hp
    rcases List.mem_cons.mp hp with rfl | hp
    · exact ⟨by omega, by push_cast; omega⟩
    · obtain ⟨hp0, hp1⟩ := h.range p hp
      exact ⟨hp0, by push_cast; omega⟩
  · push_cast
    exact List.mem_cons_self
  · refine List.nodup_cons.mpr ⟨fun hmem => ?_, h.nodup⟩
    have := (h.range _ hmem).2
    omega

/-- The record stays right when a place below the top is filled in. -/
theorem Tracks.behind (h : Tracks ipmi20 S) {b : ℕ} (h1 : 1 ≤ b) (h8 : b ≤ 8)
    (hbit : S.window.list.getLsbD (b - 1) = false) : Tracks ipmi20
      ⟨{ S.window with list := S.window.list ||| (1#32 <<< (b - 1)) }, S.top,
        ((S.top : ℤ) - b) :: S.accepted⟩ := by
  have hnew : ¬ S.Received ((S.top : ℤ) - b) := by
    rw [← h.list b h1 h8, hbit]
    exact Bool.false_ne_true
  refine ⟨h.highest, ?_, ?_, ?_, ?_⟩
  · intro k hk1 hk8
    rw [getLsbD_filled _ h1 hk1 hk8]
    by_cases hkb : k = b
    · subst hkb
      rw [if_pos rfl]
      exact iff_of_true rfl (Or.inr List.mem_cons_self)
    · rw [if_neg hkb, received_cons (by simp only; omega)]
      exact h.list k hk1 hk8
  · intro p hp
    rcases List.mem_cons.mp hp with rfl | hp
    · refine ⟨?_, by simp only; omega⟩
      by_contra hle
      exact hnew (Or.inl (not_lt.mp hle))
    · exact h.range p hp
  · rcases h.top with h0 | hmem
    · exact Or.inl h0
    · exact Or.inr (List.mem_cons_of_mem _ hmem)
  · exact List.nodup_cons.mpr ⟨fun hmem => hnew (Or.inr hmem), h.nodup⟩

theorem Arrives.tracks (ha : Arrives ipmi20 S s r S') (h : Tracks ipmi20 S) : Tracks ipmi20 S' := by
  cases ha with
  | drop => exact h
  | ahead a h1 h8 hsteps => exact h.ahead h1 h8 hsteps
  | behind b h1 h8 _ hbit => exact h.behind h1 h8 hbit

/-- The top stays or moves up by at most 8. -/
theorem Arrives.top_le (ha : Arrives ipmi20 S s r S') : S.top ≤ S'.top ∧ S'.top ≤ S.top + 8 := by
  cases ha with
  | drop => exact ⟨le_rfl, Nat.le_add_right _ _⟩
  | ahead a h1 h8 _ => exact ⟨Nat.le_add_right _ _, Nat.add_le_add_left h8 _⟩
  | behind b _ _ _ _ => exact ⟨le_rfl, Nat.le_add_right _ _⟩

/-- An accepted number gets a place that no accepted number had, within 8 below the top. -/
theorem Arrives.accepted (ha : Arrives ipmi20 S s true S') (h : Tracks ipmi20 S) :
    ∃ p : ℤ, S'.accepted = p :: S.accepted ∧ p ∉ S.accepted ∧ p ≤ S'.top ∧ (S'.top : ℤ) - 8 ≤ p ∧
      (cycleLen ipmi20 : ℤ) ∣ p - s.toNat := by
  have hnodup := (ha.tracks h).nodup
  cases ha with
  | ahead a h1 h8 hsteps =>
    have hplace : s.toNat % cycleLen ipmi20 = (S.top + a) % cycleLen ipmi20 := (h.ahead h1 h8 hsteps).highest
    refine ⟨_, rfl, (List.nodup_cons.mp hnodup).1, by push_cast; omega, by push_cast; omega, ?_⟩
    exact_mod_cast Nat.modEq_iff_dvd.mp hplace
  | behind b h1 h8 hsteps hbit =>
    have hplace : (s.toNat + b) % cycleLen ipmi20 = S.top % cycleLen ipmi20 := by
      rw [← h.highest, ← hsteps]
      exact add_ahead (cycleLen_pos ipmi20) _ _
    refine ⟨_, rfl, (List.nodup_cons.mp hnodup).1, by simp only; omega, by simp only; omega, ?_⟩
    have hdvd := Nat.modEq_iff_dvd.mp hplace
    have heq : (S.top : ℤ) - b - s.toNat = (S.top : ℤ) - ((s.toNat + b : ℕ) : ℤ) := by
      push_cast
      ring
    rw [heq]
    exact hdvd

end Step

/-! ### A whole session -/

section Run
variable {ipmi20 : Bool} {w : ℕ}

theorem run_tracks (hw : w ≤ 32) : ∀ {nums : List (BitVec 32)} {S S' : Session}, Tracks ipmi20 S →
    Session.run ipmi20 w nums S = .ok S' → Tracks ipmi20 S'
  | [], S, S', h, hrun => by cases hrun; exact h
  | s :: nums, S, S', h, hrun => by
    obtain ⟨⟨r, S₁⟩, hstep, hrun⟩ := bind_eq_ok.mp hrun
    exact run_tracks hw ((arrives_of_step hw hstep).tracks h) hrun

/-- The top never moves back, and what was accepted stays accepted. -/
theorem run_mono (hw : w ≤ 32) : ∀ {nums : List (BitVec 32)} {S S' : Session},
    Session.run ipmi20 w nums S = .ok S' → S.top ≤ S'.top ∧ ∀ p ∈ S.accepted, p ∈ S'.accepted
  | [], S, S', hrun => by cases hrun; exact ⟨le_rfl, fun _ hp => hp⟩
  | s :: nums, S, S', hrun => by
    obtain ⟨⟨r, S₁⟩, hstep, hrun⟩ := bind_eq_ok.mp hrun
    have ha := arrives_of_step hw hstep
    obtain ⟨htop, hmem⟩ := run_mono hw hrun
    refine ⟨ha.top_le.1.trans htop, fun p hp => hmem p ?_⟩
    cases ha with
    | drop => exact hp
    | ahead _ _ _ _ => exact List.mem_cons_of_mem _ hp
    | behind _ _ _ _ _ => exact List.mem_cons_of_mem _ hp

/-- Between two acceptances of one number the top has gone around the cycle, up to the window. -/
theorem run_replay (hw : w ≤ 32) {S S₁ S₂ S₃ : Session} {s : BitVec 32} {mid : List (BitVec 32)}
    (h : Tracks ipmi20 S) (h₁ : S.step ipmi20 w s = .ok (true, S₁))
    (h₂ : Session.run ipmi20 w mid S₁ = .ok S₂) (h₃ : S₂.step ipmi20 w s = .ok (true, S₃)) :
    S₁.top + (cycleLen ipmi20 - 8) ≤ S₃.top := by
  have ha₁ := arrives_of_step hw h₁
  have ha₃ := arrives_of_step hw h₃
  have ht₁ := ha₁.tracks h
  obtain ⟨p, hp, -, hp_le, hp_ge, hp_dvd⟩ := ha₁.accepted h
  obtain ⟨q, -, hq_new, hq_le, hq_ge, hq_dvd⟩ := ha₃.accepted (run_tracks hw ht₁ h₂)
  obtain ⟨htop₂, hmem⟩ := run_mono hw h₂
  have htop₃ := ha₃.top_le.1
  have hne : q - p ≠ 0 := by
    intro heq
    obtain rfl : q = p := by omega
    exact hq_new (hmem q (by rw [hp]; exact List.mem_cons_self))
  have hdvd : (cycleLen ipmi20 : ℤ) ∣ q - p := by
    have := dvd_sub hq_dvd hp_dvd
    rwa [sub_sub_sub_cancel_right] at this
  -- the two places differ by at least a cycle, and the later one cannot be the lower one
  have hfar : (cycleLen ipmi20 : ℤ) ≤ |q - p| := by
    by_contra hlt
    exact hne (Int.eq_zero_of_abs_lt_dvd hdvd (not_le.mp hlt))
  have hlen : 8 < cycleLen ipmi20 := by cases ipmi20 <;> decide
  rcases le_total p q with hle | hle
  · rw [abs_of_nonneg (by omega)] at hfar
    omega
  · rw [abs_of_nonpos (by omega)] at hfar
    omega

end Run

/-- Replay protection, for every session in which no call is undefined: the list is the record of the
    8 places below the highest number, the highest number only moves forward by up to 8 places, and
    between two acceptances of one number it goes at least once around the cycle less the window. A
    call is undefined only for the last number before any other, in IPMI 2.0. -/
theorem replay_protection (ipmi20 : Bool) {w : ℕ} (hw : w ≤ 32) {nums : List (BitVec 32)} {S : Session}
    (hrun : Session.run ipmi20 w nums .init = .ok S) :
    S.window.highest.toNat % cycleLen ipmi20 = S.top % cycleLen ipmi20 ∧
      (∀ k : ℕ, 1 ≤ k → k ≤ 8 → (S.window.list.getLsbD (k - 1) = true ↔ S.Received (S.top - k))) ∧
      (∀ s, ¬ FirstIsLast ipmi20 S.window s → ∃ r S', S.step ipmi20 w s = .ok (r, S')) ∧
      (∀ s r S', S.step ipmi20 w s = .ok (r, S') → (r = false → S' = S) ∧
        (S'.window.highest = S.window.highest ∧ S'.top = S.top ∨
          ∃ a, 1 ≤ a ∧ a ≤ 8 ∧ stepsAhead ipmi20 S.window.highest S'.window.highest = a ∧
            S'.top = S.top + a)) ∧
      ∀ s mid S₁ S₂ S₃, S.step ipmi20 w s = .ok (true, S₁) → Session.run ipmi20 w mid S₁ = .ok S₂ →
        S₂.step ipmi20 w s = .ok (true, S₃) → S₁.top + (cycleLen ipmi20 - 8) ≤ S₃.top := by
  have ht := run_tracks hw (Tracks.init ipmi20) hrun
  refine ⟨ht.highest, ht.list, fun s hs => step_defined hw hs, fun s r S' hstep => ?_,
    fun s mid S₁ S₂ S₃ h₁ h₂ h₃ => run_replay hw ht h₁ h₂ h₃⟩
  cases arrives_of_step hw hstep with
  | drop => exact ⟨fun _ => rfl, Or.inl ⟨rfl, rfl⟩⟩
  | ahead a h1 h8 hsteps => exact ⟨nofun, Or.inr ⟨a, h1, h8, hsteps, rfl⟩⟩
  | behind b _ _ _ _ => exact ⟨nofun, Or.inl ⟨rfl, rfl⟩⟩

/-- The session after the numbers 2, 9 and 1. -/
def lateSession : Session := ⟨⟨9, 0x1ffc0⟩, 9, [1, 9, 2]⟩

theorem replay_protection_late : Session.run true 0 [2, 9, 1] .init = .ok lateSession ∧
    ∀ k : ℕ, 1 ≤ k → k ≤ 8 →
      (lateSession.window.list.getLsbD (k - 1) = true ↔ lateSession.Received (lateSession.top - k)) := by
  have hrun : Session.run true 0 [2, 9, 1] .init = .ok lateSession := by decide
  exact ⟨hrun, (replay_protection true (by decide) hrun).2.1⟩

/-! ### Exactly the window short of a cycle -/

/-- The numbers 8, 16, ... above a number. -/
def climb (n : BitVec 32) : ℕ → List (BitVec 32)
  | 0 => []
  | k + 1 => (n + 8) :: climb (n + 8) k

theorem stepsAhead_add_eight (n : BitVec 32) : stepsAhead false n (n + 8) = 8 := by
  apply ahead_eq (by decide)
  rw [BitVec.toNat_add]
  exact (Nat.mod_mod _ _).symm

/-- In IPMI 1.5 a number 8 above the highest is always accepted. -/
theorem step_add_eight (S : Session) : ∃ S', S.step false 0 (S.window.highest + 8) = .ok (true, S') ∧
    S'.window.highest = S.window.highest + 8 ∧ S'.top = S.top + 8 := by
  have hsteps := stepsAhead_add_eight S.window.highest
  have hdrop : ¬ Dropped false S.window (S.window.highest + 8) := by
    rintro (heq | ⟨hfalse, -⟩)
    · rw [heq, stepsAhead_self] at hsteps
      cases hsteps
    · cases hfalse
  have hcheck : checkSessionSequenceNumber (S.window.highest + 8) S.window 0 false
      = .ok (true, ⟨S.window.highest + 8, (S.window.list <<< 8) ||| (1#32 <<< 7)⟩) := by
    rw [check_eq (Nat.zero_le 32), if_neg hdrop, hsteps, if_pos ⟨by decide, le_rfl⟩]
  exact ⟨_, by simp only [Session.step, hcheck, ok_bind]; rfl, rfl, by rw [hsteps]⟩

theorem run_climb : ∀ (k : ℕ) (S : Session), ∃ S',
    Session.run false 0 (climb S.window.highest k) S = .ok S' ∧
      S'.window.highest = S.window.highest + BitVec.ofNat 32 (8 * k) ∧ S'.top = S.top + 8 * k
  | 0, S => ⟨S, rfl, by simp, rfl⟩
  | k + 1, S => by
    obtain ⟨S₁, hstep, hhigh, htop⟩ := step_add_eight S
    obtain ⟨S₂, hrun, hhigh₂, htop₂⟩ := run_climb k S₁
    refine ⟨S₂, ?_, ?_, by omega⟩
    · rw [climb, Session.run, hstep, ok_bind, ← hhigh]
      exact hrun
    · rw [hhigh₂, hhigh, Nat.mul_succ, Nat.add_comm (8 * k) 8, BitVec.ofNat_add, BitVec.add_assoc]
      rfl

/-- The number 1, accepted late, is accepted again when the highest number has moved on by exactly the
    length of the cycle less the window. -/
theorem replay_after_cycle_minus_window : ¬ ∀ (nums : List (BitVec 32)) (S : Session),
    Session.run false 0 nums .init = .ok S → ∀ s mid S₁ S₂ S₃,
      S.step false 0 s = .ok (true, S₁) → Session.run false 0 mid S₁ = .ok S₂ →
      S₂.step false 0 s = .ok (true, S₃) → S₁.top + (cycleLen false - 8) < S₃.top := by
  intro h
  have hpre : Session.run false 0 [2, 9] .init = .ok ⟨⟨9, 0x1ff40⟩, 9, [9, 2]⟩ := by decide
  have hfirst : Session.step false 0 ⟨⟨9, 0x1ff40⟩, 9, [9, 2]⟩ 1 = .ok (true, lateSession) := by decide
  obtain ⟨S₂, hmid, hhigh, htop⟩ := run_climb (2 ^ 29 - 2) lateSession
  obtain ⟨S₃, hlast, -, htop₃⟩ := step_add_eight S₂
  have hone : S₂.window.highest + 8 = 1 := by
    rw [hhigh]
    decide
  rw [hone] at hlast
  have hbad := h _ _ hpre 1 _ _ _ _ hfirst hmid hlast
  have hlate : lateSession.top = 9 := rfl
  have hlen : cycleLen false = 2 ^ 32 := rfl
  omega

end FreeIpmi.Util
