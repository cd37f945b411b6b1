import Mathlib

/-! Points in time and durations in seconds and microseconds (`common/miscutil/timeval.c`).

    The structure keeps the microseconds below a second. Each function is related to the one number of
    microseconds that it stands for; milliseconds are an `unsigned int`, rounded up. -/

namespace FreeIpmi.Util

/-- `struct timeval`. -/
@[ext] structure Timeval where
  tvSec : ℕ
  tvUsec : ℕ
  tvUsec_lt : tvUsec < 1000000
  deriving DecidableEq

/-- All of it in microseconds. -/
def Timeval.micros (a : Timeval) : ℕ := 1000000 * a.tvSec + a.tvUsec

/-- The point in time of a number of microseconds. -/
def Timeval.ofMicros (n : ℕ) : Timeval := ⟨n / 1000000, n % 1000000, Nat.mod_lt _ (by norm_num)⟩

@[simp] theorem Timeval.micros_ofMicros (n : ℕ) : (Timeval.ofMicros n).micros = n :=
  Nat.div_add_mod n 1000000

/-- `timeval_gt`. -/
def timevalGt (a b : Timeval) : Bool :=
  if a.tvSec = b.tvSec then a.tvUsec > b.tvUsec else a.tvSec > b.tvSec

/-- `timeval_add`. -/
def timevalAdd (a b : Timeval) : Timeval :=
  if h : a.tvUsec + b.tvUsec ≥ 1000000 then
    ⟨a.tvSec + b.tvSec + 1, a.tvUsec + b.tvUsec - 1000000, by
      have ha := a.tvUsec_lt
      have hb := b.tvUsec_lt
      omega⟩
  else ⟨a.tvSec + b.tvSec, a.tvUsec + b.tvUsec, Nat.lt_of_not_ge h⟩

/-- `timeval_sub`, which is 0 where the second is not earlier. -/
def timevalSub (a b : Timeval) : Timeval :=
  if timevalGt a b then
    if h : a.tvUsec < b.tvUsec then
      ⟨a.tvSec - b.tvSec - 1, a.tvUsec + 1000000 - b.tvUsec, by omega⟩
    else
      ⟨a.tvSec - b.tvSec, a.tvUsec - b.tvUsec, by
        have ha := a.tvUsec_lt
        omega⟩
  else ⟨0, 0, by norm_num⟩

/-- `timeval_millisecond_init`. -/
def timevalMillisecondInit (ms : BitVec 32) : Timeval :=
  ⟨ms.toNat / 1000, ms.toNat % 1000 * 1000, by omega⟩

/-- `timeval_add_ms`. -/
def timevalAddMs (a : Timeval) (ms : BitVec 32) : Timeval := timevalAdd a (timevalMillisecondInit ms)

/-- `timeval_millisecond_calc`. -/
def timevalMillisecondCalc (a : Timeval) : BitVec 32 :=
  BitVec.ofNat 32 (a.tvSec * 1000 + a.tvUsec / 1000 + if a.tvUsec % 1000 ≠ 0 then 1 else 0)

/-- Microseconds as the milliseconds that they take up. -/
def msRoundUp (n : ℕ) : ℕ := (n + 999) / 1000

theorem msRoundUp_mono {m n : ℕ} (h : m ≤ n) : msRoundUp m ≤ msRoundUp n :=
  Nat.div_le_div_right (by omega)

variable {a b : Timeval} {ms : BitVec 32}

theorem timevalGt_iff : timevalGt a b = true ↔ b.micros < a.micros := by
  have ha := a.tvUsec_lt
  have hb := b.tvUsec_lt
  simp only [timevalGt, Timeval.micros]
  split
  · rename_i hsec
    rw [decide_eq_true_iff, hsec]
    omega
  · rw [decide_eq_true_iff]
    omega

@[simp] theorem micros_timevalAdd : (timevalAdd a b).micros = a.micros + b.micros := by
  simp only [timevalAdd, Timeval.micros]
  split
  · dsimp only
    omega
  · dsimp only
    omega

@[simp] theorem micros_timevalSub : (timevalSub a b).micros = a.micros - b.micros := by
  have ha := a.tvUsec_lt
  have hb := b.tvUsec_lt
  by_cases hgt : timevalGt a b = true
  · have hlt := timevalGt_iff.mp hgt
    simp only [timevalSub, hgt, if_true, Timeval.micros] at hlt ⊢
    split
    · dsimp only
      omega
    · dsimp only
      omega
  · have hle : ¬ b.micros < a.micros := fun h => hgt (timevalGt_iff.mpr h)
    simp only [timevalSub, hgt, Bool.false_eq_true, if_false]
    simp only [Timeval.micros] at hle ⊢
    omega

@[simp] theorem micros_timevalMillisecondInit : (timevalMillisecondInit ms).micros = 1000 * ms.toNat := by
  simp only [timevalMillisecondInit, Timeval.micros]
  omega

@[simp] theorem micros_timevalAddMs : (timevalAddMs a ms).micros = a.micros + 1000 * ms.toNat := by
  rw [timevalAddMs, micros_timevalAdd, micros_timevalMillisecondInit]

theorem timevalMillisecondCalc_eq : timevalMillisecondCalc a = BitVec.ofNat 32 (msRoundUp a.micros) := by
  have ha := a.tvUsec_lt
  rw [timevalMillisecondCalc, msRoundUp, Timeval.micros]
  congr 1
  split
  · omega
  · omega

/-- The milliseconds are never too many, even where they do not fit. -/
theorem timevalMillisecondCalc_le : (timevalMillisecondCalc a).toNat ≤ msRoundUp a.micros := by
  rw [timevalMillisecondCalc_eq, BitVec.toNat_ofNat]
  exact Nat.mod_le _ _

/-! ### Waiting -/

/-- The milliseconds from one point in time to another. -/
def elapsed (since now : Timeval) : BitVec 32 := timevalMillisecondCalc (timevalSub now since)

/-- The milliseconds until `n` of them have elapsed, as the source counts them. -/
def msUntil (since : Timeval) (n : BitVec 32) (now : Timeval) : ℕ :=
  if n ≤ elapsed since now then 0
  else n.toNat - (elapsed since now).toNat - 1 + msRoundUp (since.micros - now.micros + 1)

section Waiting
variable {since now time : Timeval} {n : BitVec 32}

theorem toNat_elapsed :
    (elapsed since now).toNat = msRoundUp (now.micros - since.micros) % 4294967296 := by
  rw [elapsed, timevalMillisecondCalc_eq, micros_timevalSub, BitVec.toNat_ofNat]

/-- No later point in time at which they have elapsed is closer. -/
theorem msUntil_le (hle : now.micros ≤ time.micros) (h : n ≤ elapsed since time) :
    msUntil since n now ≤ msRoundUp (time.micros - now.micros) := by
  have hn := n.isLt
  rw [BitVec.le_def, toNat_elapsed] at h
  rw [msUntil]
  split
  · exact Nat.zero_le _
  · rename_i hwait
    rw [BitVec.le_def, toNat_elapsed] at hwait
    rw [toNat_elapsed]
    simp only [msRoundUp] at *
    omega

/-- They have elapsed at one that is as close. -/
theorem exists_elapsed (since : Timeval) (n : BitVec 32) (now : Timeval) :
    ∃ time : Timeval, now.micros ≤ time.micros ∧ n ≤ elapsed since time ∧
      msRoundUp (time.micros - now.micros) = msUntil since n now := by
  have hn := n.isLt
  by_cases hnow : n ≤ elapsed since now
  · refine ⟨now, le_rfl, hnow, ?_⟩
    rw [msUntil, if_pos hnow, Nat.sub_self]
    rfl
  · obtain ⟨before, hbefore⟩ : ∃ before, before = msRoundUp (now.micros - since.micros) := ⟨_, rfl⟩
    have hwait : before % 4294967296 < n.toNat := by
      rwa [BitVec.le_def, toNat_elapsed, not_le, ← hbefore] at hnow
    refine ⟨.ofMicros (since.micros + 1000 * (before + (n.toNat - before % 4294967296) - 1) + 1),
      ?_, ?_, ?_⟩
    · rw [Timeval.micros_ofMicros]
      simp only [msRoundUp] at hbefore
      omega
    · rw [BitVec.le_def, toNat_elapsed, Timeval.micros_ofMicros]
      simp only [msRoundUp] at *
      omega
    · rw [msUntil, if_neg hnow, Timeval.micros_ofMicros, toNat_elapsed, ← hbefore]
      simp only [msRoundUp] at *
      omega

/-- A sleep is short enough for a timer if it ends before `n` milliseconds have elapsed. -/
theorem le_msUntil_iff {m : ℕ} : m ≤ msUntil since n now ↔
    ∀ time : Timeval, now.micros ≤ time.micros → n ≤ elapsed since time →
      m ≤ msRoundUp (time.micros - now.micros) := by
  constructor
  · intro h time hle helapsed
    exact h.trans (msUntil_le hle helapsed)
  · intro h
    obtain ⟨time, hle, helapsed, hclose⟩ := exists_elapsed since n now
    exact hclose ▸ h time hle helapsed

end Waiting

end FreeIpmi.Util
