import FreeIpmi.Util.Replay

/-! The check against a plain sliding window.

    A sliding window of `w` places accepts the numbers up to `w` places ahead, and those up to `w`
    places behind that have not been received. The code takes `w` as an argument but always works
    with 8 places, and two IPMI 2.0 branches are off at the seam of the cycle. Apart from that it is
    a sliding window. -/

namespace FreeIpmi.Util
open Calls Cycle

/-- The window a caller asks for; 0 asks for the default. -/
def askedWindow (w : ℕ) : ℕ := if w = 0 then sequenceNumberWindowDefault else w

/-- What a sliding window of `w` places accepts. In IPMI 2.0 the number 0 has no place. -/
def SlidingWindowAccepts (ipmi20 : Bool) (w : ℕ) (S : Session) (s : BitVec 32) : Prop :=
  ¬ (ipmi20 = true ∧ s = 0) ∧
    ((1 ≤ stepsAhead ipmi20 S.window.highest s ∧ stepsAhead ipmi20 S.window.highest s ≤ w) ∨
      (1 ≤ stepsAhead ipmi20 s S.window.highest ∧ stepsAhead ipmi20 s S.window.highest ≤ w ∧
        ¬ S.Received (S.top - stepsAhead ipmi20 s S.window.highest)))

/-- The check accepts what the sliding window accepts, and leaves the state alone when it rejects. -/
def AgreesWithWindow (ipmi20 : Bool) (w : ℕ) (S : Session) (s : BitVec 32) : Prop :=
  ∃ r st, checkSessionSequenceNumber s S.window w ipmi20 = .ok (r, st) ∧
    (r = true ↔ SlidingWindowAccepts ipmi20 (askedWindow w) S s) ∧ (r = false → st = S.window)

/-- A distance on which a window of `w` places and one of 8 places differ. -/
def BetweenWindows (w d : ℕ) : Prop := min 8 w < d ∧ d ≤ max 8 w

/-- A number on which the check and a sliding window of `w` places part: the last number before any
    other, a number whose distance lies between 8 and `w` (and behind, if not received), or the
    number 8 behind that IPMI 2.0 misses. -/
def PartsFromWindow (ipmi20 : Bool) (w : ℕ) (S : Session) (s : BitVec 32) : Prop :=
  FirstIsLast ipmi20 S.window s ∨
    (¬ (ipmi20 = true ∧ s = 0) ∧
      (BetweenWindows w (stepsAhead ipmi20 S.window.highest s) ∨
        (¬ Missed ipmi20 S.window s ∧ BetweenWindows w (stepsAhead ipmi20 s S.window.highest) ∧
          ¬ S.Received (S.top - stepsAhead ipmi20 s S.window.highest)) ∨
        (Missed ipmi20 S.window s ∧ 8 ≤ w ∧ ¬ S.Received (S.top - 8))))

section Agree
variable {ipmi20 : Bool} {w : ℕ} {S : Session} {s : BitVec 32}

theorem missed_behind (h : Missed ipmi20 S.window s) :
    stepsAhead ipmi20 s S.window.highest = 8 ∧
      stepsAhead ipmi20 S.window.highest s = cycleLen ipmi20 - 8 := by
  obtain ⟨rfl, h8, rfl⟩ := h
  rw [h8]
  decide

theorem firstIsLast_steps (h : FirstIsLast ipmi20 S.window s) :
    stepsAhead ipmi20 S.window.highest s = 0 ∧ stepsAhead ipmi20 s S.window.highest = 0 := by
  obtain ⟨rfl, h0, rfl⟩ := h
  rw [h0]
  decide

theorem not_missed_of_ahead (h : stepsAhead ipmi20 S.window.highest s ≤ 8) :
    ¬ Missed ipmi20 S.window s := by
  intro hmiss
  have hlen : 16 < cycleLen ipmi20 := by cases ipmi20 <;> decide
  rw [(missed_behind hmiss).2] at h
  omega

theorem not_accepts_of_dropped (h : Dropped ipmi20 S.window s) (w : ℕ) :
    ¬ SlidingWindowAccepts ipmi20 w S s := by
  rintro ⟨hplace, hcase⟩
  rcases h with rfl | hzero
  · rw [stepsAhead_self] at hcase
    omega
  · exact hplace hzero

/-- What the code itself accepts: a window of 8 places, but for the missed number. -/
theorem check_accepts (hw : w ≤ 32) (ht : Tracks ipmi20 S) (hdef : ¬ FirstIsLast ipmi20 S.window s) :
    ∃ r st, checkSessionSequenceNumber s S.window w ipmi20 = .ok (r, st) ∧
      (r = true ↔ SlidingWindowAccepts ipmi20 8 S s ∧ ¬ Missed ipmi20 S.window s) ∧
      (r = false → st = S.window) := by
  rw [check_eq hw]
  by_cases hdrop : Dropped ipmi20 S.window s
  · rw [if_pos hdrop]
    exact ⟨false, _, rfl, iff_of_false Bool.false_ne_true
      fun h => not_accepts_of_dropped hdrop 8 h.1, fun _ => rfl⟩
  · have hplace : ¬ (ipmi20 = true ∧ s = 0) := fun h => hdrop (Or.inr h)
    rw [if_neg hdrop]
    by_cases ha : 1 ≤ stepsAhead ipmi20 S.window.highest s ∧ stepsAhead ipmi20 S.window.highest s ≤ 8
    · rw [if_pos ha]
      exact ⟨true, _, rfl, iff_of_true rfl ⟨⟨hplace, Or.inl ha⟩, not_missed_of_ahead ha.2⟩, nofun⟩
    · rw [if_neg ha, if_neg hdef]
      by_cases hmiss : Missed ipmi20 S.window s
      · rw [if_pos hmiss]
        exact ⟨false, _, rfl, iff_of_false Bool.false_ne_true fun h => h.2 hmiss, fun _ => rfl⟩
      · rw [if_neg hmiss]
        by_cases hb : 1 ≤ stepsAhead ipmi20 s S.window.highest ∧ stepsAhead ipmi20 s S.window.highest ≤ 8
        · have hlist := ht.list _ hb.1 hb.2
          rw [if_pos hb]
          by_cases hbit : S.window.list.getLsbD (stepsAhead ipmi20 s S.window.highest - 1) = true
          · rw [if_pos hbit]
            refine ⟨false, _, rfl, iff_of_false Bool.false_ne_true ?_, fun _ => rfl⟩
            rintro ⟨⟨-, hcase⟩, -⟩
            rcases hcase with hcase | ⟨-, -, hnew⟩
            · exact ha hcase
            · exact hnew (hlist.mp hbit)
          · rw [if_neg hbit]
            exact ⟨true, _, rfl, iff_of_true rfl
              ⟨⟨hplace, Or.inr ⟨hb.1, hb.2, fun h => hbit (hlist.mpr h)⟩⟩, hmiss⟩, nofun⟩
        · rw [if_neg hb]
          refine ⟨false, _, rfl, iff_of_false Bool.false_ne_true ?_, fun _ => rfl⟩
          rintro ⟨⟨-, hcase⟩, -⟩
          rcases hcase with hcase | ⟨h1, h8, -⟩
          · exact ha hcase
          · exact hb ⟨h1, h8⟩

/-- Where the code and a window of `w` places differ. -/
theorem accepts_iff_accepts (hw : w ≤ 32) (hdef : ¬ FirstIsLast ipmi20 S.window s) :
    ((SlidingWindowAccepts ipmi20 8 S s ∧ ¬ Missed ipmi20 S.window s) ↔
      SlidingWindowAccepts ipmi20 w S s) ↔ ¬ PartsFromWindow ipmi20 w S s := by
  have hlen : 64 < cycleLen ipmi20 := by cases ipmi20 <;> decide
  have hsum : (stepsAhead ipmi20 S.window.highest s = 0 ∧ stepsAhead ipmi20 s S.window.highest = 0) ∨
      stepsAhead ipmi20 S.window.highest s + stepsAhead ipmi20 s S.window.highest = cycleLen ipmi20 :=
    ahead_add_ahead (cycleLen_pos ipmi20) _ _
  by_cases hplace : ipmi20 = true ∧ s = 0
  · refine iff_of_true (iff_of_false (fun h => h.1.1 hplace) (fun h => h.1 hplace)) ?_
    rintro (hfirst | ⟨hno, -⟩)
    · exact hdef hfirst
    · exact hno hplace
  · have hmiss : Missed ipmi20 S.window s → stepsAhead ipmi20 s S.window.highest = 8 :=
      fun h => (missed_behind h).1
    rw [SlidingWindowAccepts, SlidingWindowAccepts, PartsFromWindow]
    simp only [BetweenWindows, hplace, hdef, not_false_eq_true, true_and, false_or]
    generalize stepsAhead ipmi20 S.window.highest s = a at *
    generalize stepsAhead ipmi20 s S.window.highest = b at *
    by_cases hm : Missed ipmi20 S.window s
    · obtain rfl := hmiss hm
      simp only [hm, not_true_eq_false, and_false, true_and, false_and, false_or, false_iff,
        Nat.cast_ofNat]
      by_cases hrec : S.Received (S.top - 8)
      · simp only [hrec, not_true_eq_false, and_false, or_false]
        omega
      · simp only [hrec, not_false_eq_true, and_true]
        omega
    · simp only [hm, not_false_eq_true, and_true, true_and, false_and, or_false]
      by_cases hrec : S.Received (S.top - b)
      · simp only [hrec, not_true_eq_false, and_false, or_false]
        omega
      · simp only [hrec, not_false_eq_true, and_true]
        omega

end Agree

theorem askedWindow_le {w : ℕ} (hw : w ≤ 32) : askedWindow w ≤ 32 := by
  simp only [askedWindow, sequenceNumberWindowDefault]
  split <;> omega

/-- In every session, for every window up to 32 and every number, the check agrees with the sliding
    window exactly when the number is not one of those on which the two part. -/
theorem check_agrees_iff (ipmi20 : Bool) {w₀ : ℕ} (hw₀ : w₀ ≤ 32) {nums : List (BitVec 32)} {S : Session}
    (hrun : Session.run ipmi20 w₀ nums .init = .ok S) {w : ℕ} (hw : w ≤ 32) (s : BitVec 32) :
    AgreesWithWindow ipmi20 w S s ↔ ¬ PartsFromWindow ipmi20 (askedWindow w) S s := by
  have ht := run_tracks hw₀ (Tracks.init ipmi20) hrun
  by_cases hdef : FirstIsLast ipmi20 S.window s
  · refine iff_of_false ?_ (fun h => h (Or.inl hdef))
    rintro ⟨r, st, hcheck, -, -⟩
    have hdrop : ¬ Dropped ipmi20 S.window s := by
      obtain ⟨-, h0, rfl⟩ := hdef
      rintro (heq | ⟨-, heq⟩)
      · rw [h0] at heq
        exact absurd heq (by decide)
      · exact absurd heq (by decide)
    rw [check_eq hw, if_neg hdrop, (firstIsLast_steps hdef).1, if_neg (by omega), if_pos hdef] at hcheck
    cases hcheck
  · rw [← accepts_iff_accepts (askedWindow_le hw) hdef]
    obtain ⟨r, st, hcheck, hacc, hkeep⟩ := check_accepts hw ht hdef
    constructor
    · rintro ⟨r', st', hcheck', hacc', -⟩
      obtain ⟨rfl, rfl⟩ := Prod.mk.inj (Except.ok.inj (hcheck.symm.trans hcheck'))
      exact hacc.symm.trans hacc'
    · intro heq
      exact ⟨r, st, hcheck, hacc.trans heq, hkeep⟩

theorem check_agrees_late : AgreesWithWindow true 8 lateSession 17 := by
  have hrun : Session.run true 0 [2, 9, 1] .init = .ok lateSession := by decide
  refine (check_agrees_iff true (Nat.zero_le 32) hrun (by decide) 17).mpr ?_
  rintro (hfirst | ⟨-, hgap | ⟨-, hgap, -⟩ | ⟨hmiss, -⟩⟩)
  · exact absurd hfirst (by decide)
  · exact absurd hgap.1 (by decide)
  · exact absurd hgap.2 (by decide)
  · exact absurd hmiss (by decide)

/-- A caller who asks for a window of 32 is refused a number 9 ahead. -/
theorem check_ignores_window : ¬ ∀ (nums : List (BitVec 32)) (S : Session) (w : ℕ) (s : BitVec 32),
    Session.run false 32 nums .init = .ok S → w ≤ 32 → AgreesWithWindow false w S s := by
  intro h
  obtain ⟨r, st, hcheck, hacc, -⟩ := h [] .init 32 9 rfl le_rfl
  have hreject : checkSessionSequenceNumber 9 Session.init.window 32 false
      = .ok (false, Session.init.window) := by decide
  rw [hreject] at hcheck
  cases hcheck
  refine Bool.false_ne_true (hacc.mpr ⟨fun h => Bool.false_ne_true h.1, Or.inl ?_⟩)
  decide

end FreeIpmi.Util
