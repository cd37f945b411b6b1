import FreeIpmi.Util.SequenceNumber

/-! The shifts of `_check_session_sequence_number`.

    Every branch computes a distance and shifts by the distance, or by one less, in 32-bit arithmetic.
    The distance is the number of steps from one number to the other, so the bit that is tested or set
    is that of the number, and it is 0 in one case only: IPMI 2.0, where no number has been accepted yet
    and 0xFFFFFFFF arrives. The initial state stays as it is up to the first number from 1 to 8. -/

namespace FreeIpmi.Util
open Calls Cycle

/-! ### What a call shifts by -/

/-- The `shift_num` of a call, and the amounts of its shifts. -/
structure Shifts where
  ahead : Bool
  shiftNum : ℕ
  amounts : List ℕ
  deriving DecidableEq

/-- `shift_num - 1`, a `uint32_t`. -/
def shiftNumLessOne (shiftNum : ℕ) : ℕ := (shiftNum + 2 ^ 32 - 1) % 2 ^ 32

/-- The shifts of `_check_session_sequence_number`. A number above the highest shifts the list and then
    adds a bit; for a number below it the bit that is tested is the one that is set. -/
def shiftsOf (sessionSequenceNumber : BitVec 32) (st : Window) (ipmi20 : Bool) : Option Shifts :=
  if sessionSequenceNumber = st.highest then none
  else if ipmi20 ∧ sessionSequenceNumber = 0 then none
  else
    match aheadShift ipmi20 st.highest.toNat sessionSequenceNumber.toNat with
    | some shiftNum => some ⟨true, shiftNum, [shiftNum, shiftNumLessOne shiftNum]⟩
    | none =>
      match behindShift ipmi20 st.highest.toNat sessionSequenceNumber.toNat with
      | some shiftNum => some ⟨false, shiftNum, [shiftNumLessOne shiftNum]⟩
      | none => none

/-- The distance is at least 1, every amount is in 0..31, and the distance is that of the number that is
    tested, so that the bit is its bit. -/
structure Shifts.Sound (ipmi20 : Bool) (st : Window) (s : BitVec 32) (x : Shifts) : Prop where
  distance : 1 ≤ x.shiftNum
  amounts : ∀ n ∈ x.amounts, n ≤ 31
  selects : x.shiftNum
    = if x.ahead then stepsAhead ipmi20 st.highest s else stepsAhead ipmi20 s st.highest

/-- Whatever a call shifts by is sound. -/
def SoundShifts (ipmi20 : Bool) (st : Window) (s : BitVec 32) : Prop :=
  ∀ x, shiftsOf s st ipmi20 = some x → x.Sound ipmi20 st s

/-- All calls of a run. -/
def RunSound (ipmi20 : Bool) (w : ℕ) : List (BitVec 32) → Window → Prop
  | [], _ => True
  | s :: nums, st => SoundShifts ipmi20 st s ∧
      ∀ r st', checkSessionSequenceNumber s st w ipmi20 = .ok (r, st') → RunSound ipmi20 w nums st'

section Call
variable {ipmi20 : Bool} {st : Window} {s : BitVec 32} {w : ℕ}

theorem shiftNumLessOne_eq {n : ℕ} (h1 : 1 ≤ n) (h8 : n ≤ 8) : shiftNumLessOne n = n - 1 := by
  unfold shiftNumLessOne
  omega

/-- The shifts in terms of distances on the cycle. -/
theorem shiftsOf_eq : shiftsOf s st ipmi20 =
    if Dropped ipmi20 st s then none
    else if 1 ≤ stepsAhead ipmi20 st.highest s ∧ stepsAhead ipmi20 st.highest s ≤ 8 then
      some ⟨true, stepsAhead ipmi20 st.highest s,
        [stepsAhead ipmi20 st.highest s, stepsAhead ipmi20 st.highest s - 1]⟩
    else if FirstIsLast ipmi20 st s then some ⟨false, 0, [2 ^ 32 - 1]⟩
    else if Missed ipmi20 st s then none
    else if 1 ≤ stepsAhead ipmi20 s st.highest ∧ stepsAhead ipmi20 s st.highest ≤ 8 then
      some ⟨false, stepsAhead ipmi20 s st.highest, [stepsAhead ipmi20 s st.highest - 1]⟩
    else none := by
  unfold shiftsOf
  rw [ite_dropped]
  by_cases hdrop : Dropped ipmi20 st s
  · rw [if_pos hdrop, if_pos hdrop]
  · obtain ⟨hahead, hbehind⟩ := shiftNum_eq hdrop
    rw [if_neg hdrop, if_neg hdrop, hahead, hbehind]
    by_cases ha : 1 ≤ stepsAhead ipmi20 st.highest s ∧ stepsAhead ipmi20 st.highest s ≤ 8
    · rw [if_pos ha, if_pos ha]
      simp only [shiftNumLessOne_eq ha.1 ha.2]
    · rw [if_neg ha, if_neg ha]
      by_cases hfirst : FirstIsLast ipmi20 st s
      · rw [if_pos hfirst, if_pos hfirst]
        rfl
      · rw [if_neg hfirst, if_neg hfirst]
        by_cases hmiss : Missed ipmi20 st s
        · rw [if_pos hmiss, if_pos hmiss]
        · rw [if_neg hmiss, if_neg hmiss]
          by_cases hb : 1 ≤ stepsAhead ipmi20 s st.highest ∧ stepsAhead ipmi20 s st.highest ≤ 8
          · rw [if_pos hb, if_pos hb]
            simp only [shiftNumLessOne_eq hb.1 hb.2]
          · rw [if_neg hb, if_neg hb]

/-- A call is sound unless its number is the last one before any other. -/
theorem soundShifts_iff : SoundShifts ipmi20 st s ↔ ¬ FirstIsLast ipmi20 st s := by
  constructor
  · intro h hfirst
    have hshifts : shiftsOf s st ipmi20 = some ⟨false, 0, [2 ^ 32 - 1]⟩ := by
      obtain ⟨rfl, hhigh, rfl⟩ := hfirst
      simp only [shiftsOf, hhigh]
      decide
    exact absurd (h _ hshifts).distance (by decide)
  · intro hfirst x hx
    rw [shiftsOf_eq, if_neg hfirst] at hx
    split at hx
    · cases hx
    · split at hx
      · rename_i hahead
        cases hx
        exact ⟨hahead.1, by simp; omega, rfl⟩
      · split at hx
        · cases hx
        · split at hx
          · rename_i hbehind
            cases hx
            exact ⟨hbehind.1, by simp; omega, rfl⟩
          · cases hx

/-! ### A run -/

/-- Once a number has been accepted in IPMI 2.0, the highest number is never 0 again. -/
theorem highest_ne_zero (hw : w ≤ 32) {r : Bool} {st' : Window} (hst : ipmi20 = true → st.highest ≠ 0)
    (h : checkSessionSequenceNumber s st w ipmi20 = .ok (r, st')) : ipmi20 = true → st'.highest ≠ 0 := by
  intro h20
  rw [check_eq hw] at h
  split at h
  · cases h
    exact hst h20
  · rename_i hdrop
    split at h
    · cases h
      exact fun hzero => hdrop (Or.inr ⟨h20, hzero⟩)
    · split at h
      · cases h
      · split at h
        · cases h
          exact hst h20
        · split at h
          · split at h <;> cases h <;> exact hst h20
          · cases h
            exact hst h20

theorem runSound_of_highest (hw : w ≤ 32) : ∀ {nums : List (BitVec 32)} {st : Window},
    (ipmi20 = true → st.highest ≠ 0) → RunSound ipmi20 w nums st
  | [], _, _ => trivial
  | _ :: _, _, hst =>
    ⟨soundShifts_iff.mpr fun hfirst => hst hfirst.1 hfirst.2.1,
      fun _ _ hcheck => runSound_of_highest hw (highest_ne_zero hw hst hcheck)⟩

/-- Every 0xFFFFFFFF comes behind a number from 1 to 8. -/
def LastIsNotFirst (nums : List (BitVec 32)) : Prop :=
  ∀ pre post, nums = pre ++ BitVec.allOnes 32 :: post → ∃ x ∈ pre, 1 ≤ x.toNat ∧ x.toNat ≤ 8

theorem lastIsNotFirst_cons {nums : List (BitVec 32)} (hs : s ≠ BitVec.allOnes 32)
    (hfar : ¬ (1 ≤ s.toNat ∧ s.toNat ≤ 8)) : LastIsNotFirst (s :: nums) ↔ LastIsNotFirst nums := by
  constructor
  · intro h pre post hnums
    obtain ⟨x, hx, hnear⟩ := h (s :: pre) post (by rw [hnums, List.cons_append])
    rcases List.mem_cons.mp hx with rfl | hx
    · exact absurd hnear hfar
    · exact ⟨x, hx, hnear⟩
  · intro h pre post hnums
    cases pre with
    | nil => exact absurd (List.cons.inj hnums).1 hs
    | cons p pre =>
      obtain ⟨x, hx, hnear⟩ := h pre post (List.cons.inj hnums).2
      exact ⟨x, List.mem_cons_of_mem _ hx, hnear⟩

theorem lastIsNotFirst_near {nums : List (BitVec 32)} (hnear : 1 ≤ s.toNat ∧ s.toNat ≤ 8) :
    LastIsNotFirst (s :: nums) := by
  intro pre post hnums
  cases pre with
  | nil =>
    obtain rfl := (List.cons.inj hnums).1
    exact absurd hnear.2 (by decide)
  | cons p pre =>
    obtain rfl := (List.cons.inj hnums).1
    exact ⟨s, List.mem_cons_self, hnear⟩

/-- The 8 places below 0 count as received. -/
theorem list_init {d : ℕ} (h1 : 1 ≤ d) (h8 : d ≤ 8) :
    checkSessionSequenceNumberInit.list.getLsbD (d - 1) = true := by
  interval_cases d <;> rfl

/-- In the initial state of IPMI 2.0 a number is accepted if it is one from 1 to 8, and else it leaves
    the state as it is. -/
theorem check_init (hw : w ≤ 32) (hs : s ≠ BitVec.allOnes 32) :
    checkSessionSequenceNumber s checkSessionSequenceNumberInit w true =
      if 1 ≤ s.toNat ∧ s.toNat ≤ 8 then
        .ok (true, ⟨s, (0xFF#32 <<< s.toNat) ||| (1#32 <<< (s.toNat - 1))⟩)
      else .ok (false, checkSessionSequenceNumberInit) := by
  rw [check_eq hw]
  by_cases hzero : s = 0
  · subst hzero
    rw [if_pos (show Dropped true checkSessionSequenceNumberInit 0 from Or.inl rfl), if_neg (by decide)]
  · have hlt : s.toNat < cycleLen true := by
      have hne : s.toNat ≠ sequenceNumberMax := fun h => hs (eq_allOnes_iff.mpr h)
      have hle := toNat_le_max s
      simp only [cycleLen, if_true]
      omega
    have hsteps : stepsAhead true checkSessionSequenceNumberInit.highest s = s.toNat :=
      ahead_eq hlt (by rw [show checkSessionSequenceNumberInit.highest.toNat = 0 from rfl, Nat.zero_add])
    have hdrop : ¬ Dropped true checkSessionSequenceNumberInit s := by
      rintro (h | ⟨-, h⟩) <;> exact hzero h
    have hmiss : ¬ Missed true checkSessionSequenceNumberInit s :=
      fun h => absurd h.2.1 (by decide)
    have hfirst : ¬ FirstIsLast true checkSessionSequenceNumberInit s := fun h => hs h.2.2
    rw [if_neg hdrop, hsteps]
    by_cases hnear : 1 ≤ s.toNat ∧ s.toNat ≤ 8
    · rw [if_pos hnear, if_pos hnear]
      rfl
    · rw [if_neg hnear, if_neg hnear, if_neg hfirst, if_neg hmiss]
      split
      · rename_i hbehind
        exact if_pos (list_init hbehind.1 hbehind.2)
      · rfl

/-- The run from the initial state of IPMI 2.0. -/
theorem runSound_init_iff (hw : w ≤ 32) : ∀ {nums : List (BitVec 32)},
    RunSound true w nums checkSessionSequenceNumberInit ↔ LastIsNotFirst nums
  | [] => by
    refine iff_of_true trivial ?_
    intro pre post hnums
    cases pre <;> cases hnums
  | s :: nums => by
    by_cases hs : s = BitVec.allOnes 32
    · refine iff_of_false (fun h => soundShifts_iff.mp h.1 ⟨rfl, rfl, hs⟩) ?_
      intro h
      obtain ⟨x, hx, -⟩ := h [] nums (by rw [hs]; rfl)
      cases hx
    · have hsound : SoundShifts true checkSessionSequenceNumberInit s :=
        soundShifts_iff.mpr fun hfirst => hs hfirst.2.2
      by_cases hnear : 1 ≤ s.toNat ∧ s.toNat ≤ 8
      · refine iff_of_true ⟨hsound, ?_⟩ (lastIsNotFirst_near hnear)
        intro r st' hcheck
        rw [check_init hw hs, if_pos hnear] at hcheck
        cases hcheck
        refine runSound_of_highest hw fun _ hzero => ?_
        rw [show s = 0 from hzero] at hnear
        exact absurd hnear.1 (by decide)
      · rw [lastIsNotFirst_cons hs hnear, ← runSound_init_iff hw]
        constructor
        · rintro ⟨-, h⟩
          exact h _ _ (by rw [check_init hw hs, if_neg hnear])
        · intro h
          refine ⟨hsound, ?_⟩
          intro r st' hcheck
          rw [check_init hw hs, if_neg hnear] at hcheck
          cases hcheck
          exact h

end Call

/-- All shifts of a run are sound, in IPMI 1.5 always, and in IPMI 2.0 exactly when every 0xFFFFFFFF
    comes behind a number from 1 to 8. -/
theorem runSound_iff (ipmi20 : Bool) {w : ℕ} (hw : w ≤ 32) (nums : List (BitVec 32)) :
    RunSound ipmi20 w nums checkSessionSequenceNumberInit ↔ (ipmi20 = true → LastIsNotFirst nums) := by
  cases ipmi20 with
  | false => exact iff_of_true (runSound_of_highest hw nofun) nofun
  | true => exact (runSound_init_iff hw).trans ⟨fun h _ => h, fun h => h rfl⟩

/-- The number 1, and then a replay of the last number of all. -/
theorem runSound_iff_replayed :
    RunSound true 8 [1, BitVec.allOnes 32] checkSessionSequenceNumberInit ↔
      (true = true → LastIsNotFirst [1, BitVec.allOnes 32]) :=
  runSound_iff true (by decide) _

/-- 0xFFFFFFFF as the first number of IPMI 2.0 is 0 steps away, and the bit shifted by 0xFFFFFFFF. -/
theorem lastFirst_shift : shiftsOf (BitVec.allOnes 32) checkSessionSequenceNumberInit true
      = some ⟨false, 0, [0xFFFFFFFF]⟩ ∧
    ¬ RunSound true 8 [BitVec.allOnes 32] checkSessionSequenceNumberInit := by
  have hshifts : shiftsOf (BitVec.allOnes 32) checkSessionSequenceNumberInit true
      = some ⟨false, 0, [0xFFFFFFFF]⟩ := by decide
  refine ⟨hshifts, ?_⟩
  intro h
  exact absurd (h.1 _ hshifts).distance (by decide)

end FreeIpmi.Util
