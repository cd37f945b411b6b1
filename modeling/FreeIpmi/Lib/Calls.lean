import Mathlib

/-! Calls that may stop early, as `Except`.

    A sequence of calls yields a value exactly when every call does; the lemmas take such a sequence
    apart, and put it together. `Meets x Q E` is the triple for a call: what it returns has `Q`, and
    what it stops with has `E`. -/

namespace Calls
universe u v
variable {ε : Type u} {α β : Type v}

@[simp] theorem ok_bind (a : α) (f : α → Except ε β) : (Except.ok a >>= f) = f a := rfl

@[simp] theorem error_bind (e : ε) (f : α → Except ε β) :
    ((Except.error e : Except ε α) >>= f) = .error e := rfl

theorem bind_eq_ok {x : Except ε α} {f : α → Except ε β} {b : β} :
    (x >>= f) = .ok b ↔ ∃ a, x = .ok a ∧ f a = .ok b := by
  cases x with
  | error e => simp
  | ok a => simp

/-! ### Triples -/

/-- The call returns only values with `Q`, and stops only for reasons with `E`. -/
structure Meets (x : Except ε α) (Q : α → Prop) (E : ε → Prop) : Prop where
  value : ∀ a, x = .ok a → Q a
  reason : ∀ e, x = .error e → E e

variable {Q R : α → Prop} {S : β → Prop} {E F : ε → Prop} {x y : Except ε α}

theorem Meets.ok {a : α} (h : Q a) : Meets (.ok a : Except ε α) Q E where
  value := by
    intro b hb
    cases hb
    exact h
  reason := by
    intro e he
    cases he

theorem Meets.error {e : ε} (h : E e) : Meets (.error e : Except ε α) Q E where
  value := by
    intro b hb
    cases hb
  reason := by
    intro e' he
    cases he
    exact h

theorem Meets.bind {f : α → Except ε β} (hx : Meets x R E) (hf : ∀ a, R a → Meets (f a) S E) :
    Meets (x >>= f) S E := by
  cases x with
  | error e => exact Meets.error (hx.reason e rfl)
  | ok a => exact hf a (hx.value a rfl)

theorem Meets.mono (h : Meets x R E) (hQ : ∀ a, R a → Q a) (hE : ∀ e, E e → F e) : Meets x Q F where
  value a ha := hQ a (h.value a ha)
  reason e he := hE e (h.reason e he)

theorem Meets.weaken (h : Meets x R E) (hQ : ∀ a, R a → Q a) : Meets x Q E := h.mono hQ fun _ he => he

theorem Meets.ite {p : Prop} [Decidable p] (ht : p → Meets x Q E) (hf : ¬ p → Meets y Q E) :
    Meets (if p then x else y) Q E := by
  by_cases hp : p
  · rw [if_pos hp]
    exact ht hp
  · rw [if_neg hp]
    exact hf hp

end Calls
