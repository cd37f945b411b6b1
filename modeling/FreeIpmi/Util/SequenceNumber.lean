import FreeIpmi.Basic
import FreeIpmi.Lib.Calls
import FreeIpmi.Lib.Cycle

/-! Session sequence numbers (`util/ipmi-outofband-util.c`).

    A receiver keeps the highest number it has accepted and a list with one bit for each of the
    numbers below. The code spells out every wrap around the end of the 32-bit range;
    `aheadShift_eq` and `behindShift_eq` say that these branches compute distances on a cycle: of
    all the numbers for IPMI 1.5, and without 0 for IPMI 2.0, where the initial 0 stands in for
    the last number. -/

namespace FreeIpmi.Util
open Calls Cycle

/-- `IPMI_SEQUENCE_NUMBER_MAX`. -/
def sequenceNumberMax : ℕ := 0xFFFFFFFF

/-- `IPMI_SEQUENCE_NUMBER_WINDOW_DEFAULT`. -/
def sequenceNumberWindowDefault : ℕ := 8

/-- `IPMI_SEQUENCE_NUMBER_WINDOW_MAX`. -/
def sequenceNumberWindowMax : ℕ := 32

/-- `highest_received_sequence_number` and `previously_received_list`. -/
structure Window where
  highest : BitVec 32
  list : BitVec 32
  deriving DecidableEq

/-- `ipmi_check_session_sequence_number_1_5_init` and `_2_0_init`. -/
def checkSessionSequenceNumberInit : Window := ⟨0, 0xFF⟩

/-- The check against the numbers above the highest: the `shift_num` of a number in range. -/
def aheadShift (ipmi20 : Bool) (highest s : ℕ) : Option ℕ :=
  if highest > sequenceNumberMax - sequenceNumberWindowDefault then
    let wrapVal := sequenceNumberWindowDefault - (sequenceNumberMax - highest) - 1
    let wrapVal := if ipmi20 then wrapVal + 1 else wrapVal
    if s > highest ∨ s ≤ wrapVal then
      if s > highest ∧ s ≤ sequenceNumberMax then some (s - highest)
      else if ipmi20 then some (s + (sequenceNumberMax - highest))
      else some (s + (sequenceNumberMax - highest) + 1)
    else none
  else if s > highest ∧ s - highest ≤ sequenceNumberWindowDefault then some (s - highest)
  else none

/-- The check against the numbers below the highest: the `shift_num` of a number in range. -/
def behindShift (ipmi20 : Bool) (highest s : ℕ) : Option ℕ :=
  if highest < sequenceNumberWindowDefault then
    let wrapVal := sequenceNumberMax - (sequenceNumberWindowDefault - highest) + 1
    let wrapVal := if ipmi20 then wrapVal - 1 else wrapVal
    if s < highest ∨ s ≥ wrapVal then
      if s > highest ∧ s ≤ sequenceNumberMax then
        if ipmi20 then some (highest + (sequenceNumberMax - s))
        else some (highest + (sequenceNumberMax - s) + 1)
      else some (highest - s)
    else none
  else if s < highest ∧ s ≥ highest - sequenceNumberWindowDefault then some (highest - s)
  else none

/-- `0x1 << (shift_num - 1)`; the subtraction wraps at 0, and the shift is then undefined. -/
def oneBit (shiftNum : ℕ) : Except Stop (BitVec 32) :=
  if 1 ≤ shiftNum ∧ shiftNum ≤ 31 then .ok (1#32 <<< (shiftNum - 1)) else .error .undefined

/-- `_check_session_sequence_number`: whether the number is accepted, and the state after the call.
    `sequence_number_window` is checked and defaulted, and then not used. -/
def checkSessionSequenceNumber (sessionSequenceNumber : BitVec 32) (st : Window)
    (sequenceNumberWindow : ℕ) (ipmi20 : Bool) : Except Stop (Bool × Window) :=
  if sequenceNumberWindow > sequenceNumberWindowMax then .error (.errno .einval)
  else if sessionSequenceNumber = st.highest then .ok (false, st)
  else if ipmi20 ∧ sessionSequenceNumber = 0 then .ok (false, st)
  else
    match aheadShift ipmi20 st.highest.toNat sessionSequenceNumber.toNat with
    | some shiftNum => do
      let b ← oneBit shiftNum
      return (true, ⟨sessionSequenceNumber, (st.list <<< shiftNum) ||| b⟩)
    | none =>
      match behindShift ipmi20 st.highest.toNat sessionSequenceNumber.toNat with
      | some shiftNum => do
        let b ← oneBit shiftNum
        if st.list &&& b ≠ 0 then return (false, st)
        else return (true, { st with list := st.list ||| b })
      | none => .ok (false, st)

/-! ### Distances -/

/-- The number of places on the cycle of sequence numbers. -/
def cycleLen (ipmi20 : Bool) : ℕ := if ipmi20 then sequenceNumberMax else sequenceNumberMax + 1

/-- How far a number is ahead of another. -/
def stepsAhead (ipmi20 : Bool) (n s : BitVec 32) : ℕ := ahead (cycleLen ipmi20) n.toNat s.toNat

theorem cycleLen_pos (ipmi20 : Bool) : 0 < cycleLen ipmi20 := by cases ipmi20 <;> decide

theorem toNat_le_max (s : BitVec 32) : s.toNat ≤ sequenceNumberMax := by
  have := s.isLt
  simp only [sequenceNumberMax]
  omega

/-- The distance on the cycle of all numbers. -/
theorem ahead_1_5 {i j : ℕ} (hi : i ≤ sequenceNumberMax) (hj : j ≤ sequenceNumberMax) (hne : i ≠ j) :
    ahead (cycleLen false) i j = if i < j then j - i else j + (sequenceNumberMax + 1) - i := by
  simp only [ahead, cycleLen, sequenceNumberMax, Bool.false_eq_true, if_false] at *
  split <;> omega

/-- The distance on the cycle without 0, where 0 and the last number are one place. -/
theorem ahead_2_0 {i j : ℕ} (hi : i ≤ sequenceNumberMax) (hj : j ≤ sequenceNumberMax) (hne : i ≠ j) :
    ahead (cycleLen true) i j = if i + j = sequenceNumberMax ∧ (i = 0 ∨ j = 0) then 0
      else if i < j then j - i else j + sequenceNumberMax - i := by
  split
  · simp only [ahead, cycleLen, sequenceNumberMax, if_true] at *
    omega
  · split <;> simp only [ahead, cycleLen, sequenceNumberMax, if_true] at * <;> omega

/-- The first check accepts exactly the numbers up to 8 ahead. -/
theorem aheadShift_eq (ipmi20 : Bool) {h s : ℕ} (hh : h ≤ sequenceNumberMax)
    (hs : s ≤ sequenceNumberMax) (hne : h ≠ s) (h0 : ipmi20 = true → s ≠ 0) :
    aheadShift ipmi20 h s = if 1 ≤ ahead (cycleLen ipmi20) h s ∧ ahead (cycleLen ipmi20) h s ≤ 8
      then some (ahead (cycleLen ipmi20) h s) else none := by
  cases ipmi20 with
  | false =>
    rw [ahead_1_5 hh hs hne]
    simp only [aheadShift, sequenceNumberMax, sequenceNumberWindowDefault] at *
    grind
  | true =>
    rw [ahead_2_0 hh hs hne]
    simp only [aheadShift, sequenceNumberMax, sequenceNumberWindowDefault] at *
    grind

/-- The second check accepts exactly the numbers up to 8 behind, but for two slips of the IPMI 2.0
    branches: at the initial 0 the last number counts as 0 steps behind, and at 8 it is missed. -/
theorem behindShift_eq (ipmi20 : Bool) {h s : ℕ} (hh : h ≤ sequenceNumberMax)
    (hs : s ≤ sequenceNumberMax) (hne : h ≠ s) (h0 : ipmi20 = true → s ≠ 0) :
    behindShift ipmi20 h s =
      if ipmi20 = true ∧ h = 0 ∧ s = sequenceNumberMax then some 0
      else if ipmi20 = true ∧ h = 8 ∧ s = sequenceNumberMax then none
      else if 1 ≤ ahead (cycleLen ipmi20) s h ∧ ahead (cycleLen ipmi20) s h ≤ 8
        then some (ahead (cycleLen ipmi20) s h) else none := by
  cases ipmi20 with
  | false =>
    rw [ahead_1_5 hs hh hne.symm]
    simp only [behindShift, sequenceNumberMax, sequenceNumberWindowDefault] at *
    grind
  | true =>
    rw [ahead_2_0 hs hh hne.symm]
    simp only [behindShift, sequenceNumberMax, sequenceNumberWindowDefault] at *
    grind

/-! ### One call -/

section Check
variable {ipmi20 : Bool} {s : BitVec 32} {st : Window} {w : ℕ}

/-- A number that is not looked at: the highest one again, or 0 in IPMI 2.0. -/
def Dropped (ipmi20 : Bool) (st : Window) (s : BitVec 32) : Prop :=
  s = st.highest ∨ (ipmi20 = true ∧ s = 0)

instance (ipmi20 : Bool) (st : Window) (s : BitVec 32) : Decidable (Dropped ipmi20 st s) := by
  unfold Dropped; infer_instance

/-- The one call without a defined result: the last number, in IPMI 2.0, before any other. -/
def FirstIsLast (ipmi20 : Bool) (st : Window) (s : BitVec 32) : Prop :=
  ipmi20 = true ∧ st.highest = 0 ∧ s = BitVec.allOnes 32

instance (ipmi20 : Bool) (st : Window) (s : BitVec 32) : Decidable (FirstIsLast ipmi20 st s) := by
  unfold FirstIsLast; infer_instance

/-- The number 8 behind that IPMI 2.0 misses. -/
def Missed (ipmi20 : Bool) (st : Window) (s : BitVec 32) : Prop :=
  ipmi20 = true ∧ st.highest = 8 ∧ s = BitVec.allOnes 32

instance (ipmi20 : Bool) (st : Window) (s : BitVec 32) : Decidable (Missed ipmi20 st s) := by
  unfold Missed; infer_instance

theorem oneBit_ok {n : ℕ} (h1 : 1 ≤ n) (h8 : n ≤ 8) : oneBit n = .ok (1#32 <<< (n - 1)) :=
  if_pos ⟨h1, by omega⟩

theorem and_oneBit (l : BitVec 32) {n : ℕ} (hn : n < 32) :
    l &&& (1#32 <<< n) ≠ 0 ↔ l.getLsbD n = true := by
  constructor
  · intro h
    by_contra hbit
    apply h
    refine BitVec.eq_of_getLsbD_eq fun j hj => ?_
    by_cases hjn : j = n
    · subst hjn
      simp [hbit]
    · have hlt : ¬ (n ≤ j ∧ j - n = 0) := by omega
      simp only [BitVec.getLsbD_and, BitVec.getLsbD_shiftLeft, BitVec.getLsbD_one]
      rcases Nat.lt_or_ge j n with h1 | h1
      · simp [h1]
      · have h2 : ¬ j - n = 0 := by omega
        simp [h2]
  · intro hbit h
    have hand := congrArg (fun b => BitVec.getLsbD b n) h
    simp only [BitVec.getLsbD_and, hbit, BitVec.getLsbD_shiftLeft, hn] at hand
    simp at hand

theorem eq_allOnes_iff {x : BitVec 32} : x = BitVec.allOnes 32 ↔ x.toNat = sequenceNumberMax :=
  ⟨fun h => by rw [h]; rfl, fun h => BitVec.eq_of_toNat_eq h⟩

theorem firstIsLast_iff : FirstIsLast ipmi20 st s ↔
    ipmi20 = true ∧ st.highest.toNat = 0 ∧ s.toNat = sequenceNumberMax := by
  rw [FirstIsLast, eq_allOnes_iff]
  exact and_congr_right fun _ => and_congr_left fun _ =>
    ⟨fun h => by rw [h]; rfl, fun h => BitVec.eq_of_toNat_eq h⟩

theorem missed_iff : Missed ipmi20 st s ↔
    ipmi20 = true ∧ st.highest.toNat = 8 ∧ s.toNat = sequenceNumberMax := by
  rw [Missed, eq_allOnes_iff]
  exact and_congr_right fun _ => and_congr_left fun _ =>
    ⟨fun h => by rw [h]; rfl, fun h => BitVec.eq_of_toNat_eq h⟩

/-- The two tests at the head of a call. -/
theorem ite_dropped {α : Type} (x y : α) :
    (if s = st.highest then x else if ipmi20 = true ∧ s = 0 then x else y)
      = if Dropped ipmi20 st s then x else y := by
  by_cases heq : s = st.highest
  · rw [if_pos heq, if_pos (show Dropped ipmi20 st s from Or.inl heq)]
  · rw [if_neg heq]
    exact if_congr ⟨Or.inr, fun h => h.resolve_left heq⟩ rfl rfl

/-- The `shift_num` of a number that is looked at. -/
theorem shiftNum_eq (hdrop : ¬ Dropped ipmi20 st s) :
    aheadShift ipmi20 st.highest.toNat s.toNat
      = (if 1 ≤ stepsAhead ipmi20 st.highest s ∧ stepsAhead ipmi20 st.highest s ≤ 8 then
          some (stepsAhead ipmi20 st.highest s) else none) ∧
    behindShift ipmi20 st.highest.toNat s.toNat
      = (if FirstIsLast ipmi20 st s then some 0 else if Missed ipmi20 st s then none
          else if 1 ≤ stepsAhead ipmi20 s st.highest ∧ stepsAhead ipmi20 s st.highest ≤ 8 then
            some (stepsAhead ipmi20 s st.highest) else none) := by
  have hne : st.highest.toNat ≠ s.toNat :=
    fun h => hdrop (Or.inl (BitVec.eq_of_toNat_eq h.symm))
  have hne0 : ipmi20 = true → s.toNat ≠ 0 :=
    fun hi h => hdrop (Or.inr ⟨hi, BitVec.eq_of_toNat_eq (by rw [h]; rfl)⟩)
  refine ⟨aheadShift_eq ipmi20 (toNat_le_max st.highest) (toNat_le_max s) hne hne0, ?_⟩
  rw [behindShift_eq ipmi20 (toNat_le_max st.highest) (toNat_le_max s) hne hne0]
  exact if_congr firstIsLast_iff.symm rfl (if_congr missed_iff.symm rfl rfl)

/-- The whole check in terms of distances on the cycle. -/
theorem check_eq (hw : w ≤ 32) : checkSessionSequenceNumber s st w ipmi20 =
    if Dropped ipmi20 st s then .ok (false, st)
    else if 1 ≤ stepsAhead ipmi20 st.highest s ∧ stepsAhead ipmi20 st.highest s ≤ 8 then
      .ok (true, ⟨s, (st.list <<< stepsAhead ipmi20 st.highest s) |||
        (1#32 <<< (stepsAhead ipmi20 st.highest s - 1))⟩)
    else if FirstIsLast ipmi20 st s then .error .undefined
    else if Missed ipmi20 st s then .ok (false, st)
    else if 1 ≤ stepsAhead ipmi20 s st.highest ∧ stepsAhead ipmi20 s st.highest ≤ 8 then
      if st.list.getLsbD (stepsAhead ipmi20 s st.highest - 1) then .ok (false, st)
      else .ok (true, { st with list := st.list ||| (1#32 <<< (stepsAhead ipmi20 s st.highest - 1)) })
    else .ok (false, st) := by
  have hwin : ¬ w > sequenceNumberWindowMax := by
    simp only [sequenceNumberWindowMax]
    omega
  unfold checkSessionSequenceNumber
  rw [if_neg hwin, ite_dropped]
  by_cases hdrop : Dropped ipmi20 st s
  · rw [if_pos hdrop, if_pos hdrop]
  · obtain ⟨hahead, hbehind⟩ := shiftNum_eq hdrop
    rw [if_neg hdrop, if_neg hdrop, hahead, hbehind]
    by_cases ha : 1 ≤ stepsAhead ipmi20 st.highest s ∧ stepsAhead ipmi20 st.highest s ≤ 8
    · rw [if_pos ha, if_pos ha]
      simp only [oneBit_ok ha.1 ha.2, ok_bind]
      rfl
    · rw [if_neg ha, if_neg ha]
      by_cases hfirst : FirstIsLast ipmi20 st s
      · rw [if_pos hfirst, if_pos hfirst]
        rfl
      · rw [if_neg hfirst, if_neg hfirst]
        by_cases hmiss : Missed ipmi20 st s
        · rw [if_pos hmiss, if_pos hmiss]
        · rw [if_neg hmiss, if_neg hmiss]
          by_cases hb : 1 ≤ stepsAhead ipmi20 s st.highest ∧ stepsAhead ipmi20 s st.highest ≤ 8
          · rw [if_pos hb, if_pos hb]
            simp only [oneBit_ok hb.1 hb.2, ok_bind]
            by_cases hbit : st.list.getLsbD (stepsAhead ipmi20 s st.highest - 1) = true
            · rw [if_pos hbit, if_pos ((and_oneBit _ (by omega)).mpr hbit)]
              rfl
            · rw [if_neg hbit, if_neg (fun h => hbit ((and_oneBit _ (by omega)).mp h))]
              rfl
          · rw [if_neg hb, if_neg hb]

/-- Only the last number before any other, in IPMI 2.0, has no defined result. -/
theorem check_returns_iff (hw : w ≤ 32) :
    (∃ r, checkSessionSequenceNumber s st w ipmi20 = .ok r) ↔ ¬ FirstIsLast ipmi20 st s := by
  rw [check_eq hw]
  constructor
  · rintro ⟨r, hr⟩ hfirst
    have hdrop : ¬ Dropped ipmi20 st s := by
      obtain ⟨rfl, h0, rfl⟩ := hfirst
      rw [Dropped, h0]
      decide
    have hahead : ¬ (1 ≤ stepsAhead ipmi20 st.highest s ∧ stepsAhead ipmi20 st.highest s ≤ 8) := by
      obtain ⟨rfl, h0, rfl⟩ := hfirst
      rw [h0]
      decide
    rw [if_neg hdrop, if_neg hahead, if_pos hfirst] at hr
    cases hr
  · intro hfirst
    rw [if_neg hfirst]
    split_ifs <;> exact ⟨_, rfl⟩

end Check

end FreeIpmi.Util
