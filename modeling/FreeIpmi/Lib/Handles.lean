import Mathlib

/-! Calls through handles into one memory.

    A handle stands for a value somewhere in the memory; a call reads the value, gives a result and
    stores the new value, or is undefined and ends the run. When no two handles share a part of the
    memory, a run that mixes calls on all of them gives each handle the results of its own calls. -/

namespace Handles
variable {μ ι α β κ ρ : Type}

/-- How a memory holds values behind handles. -/
structure View (μ ι α : Type) where
  load : μ → ι → α
  store : μ → ι → α → μ

/-- As long as the memory has `I`, a store through one handle is seen by this handle only. -/
structure Separate (v : View μ ι α) (I : μ → Prop) (h : β → ι) : Prop where
  same : ∀ m b a, I m → v.load (v.store m (h b) a) (h b) = a
  other : ∀ m b c a, I m → b ≠ c → v.load (v.store m (h b) a) (h c) = v.load m (h c)
  keeps : ∀ m b a, I m → I (v.store m (h b) a)

/-- The results of calls on a single value. -/
def alone (call : κ → α → ρ × Option α) : List κ → α → List ρ
  | [], _ => []
  | c :: cs, a =>
    (call c a).1 :: match (call c a).2 with
      | none => []
      | some a' => alone call cs a'

/-- The results of calls through handles, each with the name of its handle. -/
def together (v : View μ ι α) (h : β → ι) (call : κ → α → ρ × Option α) :
    List (β × κ) → μ → List (β × ρ)
  | [], _ => []
  | (b, c) :: cs, m =>
    (b, (call c (v.load m (h b))).1) :: match (call c (v.load m (h b))).2 with
      | none => []
      | some a => together v h call cs (v.store m (h b) a)

/-- What belongs to one handle. -/
def ofHandle {γ : Type} [DecidableEq β] (b : β) (l : List (β × γ)) : List γ :=
  (l.filter fun x => x.1 = b).map Prod.snd

section
variable {γ : Type} [DecidableEq β]

@[simp] theorem ofHandle_nil (b : β) : ofHandle b ([] : List (β × γ)) = [] := rfl

@[simp] theorem ofHandle_cons_self (b : β) (x : γ) (l : List (β × γ)) :
    ofHandle b ((b, x) :: l) = x :: ofHandle b l := by simp [ofHandle]

theorem ofHandle_cons_of_ne {b c : β} (h : c ≠ b) (x : γ) (l : List (β × γ)) :
    ofHandle b ((c, x) :: l) = ofHandle b l := by simp [ofHandle, h]

end

variable {v : View μ ι α} {I : μ → Prop} {h : β → ι} {call : κ → α → ρ × Option α}

/-- Each handle sees a first part of the results that its own calls have alone. -/
theorem together_front [DecidableEq β] (hs : Separate v I h) (b : β) {cs : List (β × κ)} {m : μ}
    (hm : I m) :
    ofHandle b (together v h call cs m) <+: alone call (ofHandle b cs) (v.load m (h b)) := by
  induction cs generalizing m with
  | nil => exact List.nil_prefix
  | cons head cs ih =>
    obtain ⟨c, k⟩ := head
    rw [together]
    cases hcall : (call k (v.load m (h c))).2 with
    | none =>
      by_cases hcb : c = b
      · subst hcb
        simp [alone, hcall]
      · simp [ofHandle_cons_of_ne hcb]
    | some a =>
      have hrest := ih (hs.keeps m c a hm)
      by_cases hcb : c = b
      · subst hcb
        rw [ofHandle_cons_self, ofHandle_cons_self, alone, hcall]
        rw [hs.same m c a hm] at hrest
        exact (List.prefix_cons_inj _).mpr hrest
      · rw [ofHandle_cons_of_ne hcb, ofHandle_cons_of_ne hcb]
        rwa [hs.other m c b a hm hcb] at hrest

/-- When every call was made, each handle sees the results that its own calls have alone. -/
theorem together_eq [DecidableEq β] (hs : Separate v I h) (b : β) {cs : List (β × κ)} {m : μ}
    (hm : I m) (hall : (together v h call cs m).length = cs.length) :
    ofHandle b (together v h call cs m) = alone call (ofHandle b cs) (v.load m (h b)) := by
  induction cs generalizing m with
  | nil => rfl
  | cons head cs ih =>
    obtain ⟨c, k⟩ := head
    rw [together] at hall ⊢
    cases hcall : (call k (v.load m (h c))).2 with
    | none =>
      rw [hcall] at hall
      obtain rfl : cs = [] := List.eq_nil_of_length_eq_zero (by simpa using hall.symm)
      by_cases hcb : c = b
      · subst hcb
        simp [alone, hcall]
      · simp [ofHandle_cons_of_ne hcb, alone]
    | some a =>
      rw [hcall] at hall
      have hrest := ih (hs.keeps m c a hm) (Nat.succ.inj hall)
      by_cases hcb : c = b
      · subst hcb
        rw [hs.same m c a hm] at hrest
        rw [ofHandle_cons_self, ofHandle_cons_self, alone, hcall, hrest]
      · rw [hs.other m c b a hm hcb] at hrest
        rw [ofHandle_cons_of_ne hcb, ofHandle_cons_of_ne hcb, hrest]

end Handles
