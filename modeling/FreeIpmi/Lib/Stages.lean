import FreeIpmi.Lib.Calls

/-! Parsers that work in stages.

    A stage takes the state as far as it has got, and hands it on, gives the input up as one that
    cannot be parsed, or fails as a call. `Ensures P stage Q R` is the triple for such a stage: from
    `P` it never fails, it goes on with `Q` or gives up with `R`. Triples of consecutive stages
    compose, so a parser is verified stage by stage. -/

namespace Stages
open Calls
variable {ε σ α : Type}

/-- Why a stage does not hand on a state. -/
inductive Exit (ε σ : Type) where
  | fail (e : ε)
  | unparsed (s : σ)

abbrev Stage (ε σ : Type) := σ → Except (Exit ε σ) σ

/-- A call inside a stage: its error is a failure of the whole parser. -/
def call : Except ε α → Except (Exit ε σ) α
  | .ok a => .ok a
  | .error e => .error (.fail e)

@[simp] theorem call_ok (a : α) : (call (.ok a) : Except (Exit ε σ) α) = .ok a := rfl

@[simp] theorem call_error (e : ε) :
    (call (.error e : Except ε α) : Except (Exit ε σ) α) = .error (.fail e) :=
  rfl

theorem call_eq_ok {x : Except ε α} {a : α} :
    (call x : Except (Exit ε σ) α) = .ok a ↔ x = .ok a := by
  cases x <;> simp

/-- A call does not give up, so what follows it does. -/
theorem call_bind_unparsed {x : Except ε α} {f : α → Except (Exit ε σ) σ} {s : σ}
    (h : (call x >>= f) = .error (.unparsed s)) : ∃ a, x = .ok a ∧ f a = .error (.unparsed s) := by
  cases x with
  | error e => cases h
  | ok a => exact ⟨a, rfl, h⟩

/-- One stage after the other. -/
def runStages : List (Stage ε σ) → Stage ε σ
  | [], s => .ok s
  | a :: as, s => do runStages as (← a s)

theorem runStages_cons_eq_ok {a : Stage ε σ} {as : List (Stage ε σ)} {s s' : σ} :
    runStages (a :: as) s = .ok s' ↔ ∃ s₁, a s = .ok s₁ ∧ runStages as s₁ = .ok s' := bind_eq_ok

/-- What every stage keeps, all of them keep. -/
theorem runStages_meets {P : σ → Prop} {E : Exit ε σ → Prop} : ∀ {as : List (Stage ε σ)} {s : σ},
    (∀ a ∈ as, ∀ s, P s → Meets (a s) P E) → P s → Meets (runStages as s) P E
  | [], _, _, hs => Meets.ok hs
  | a :: _, s, h, hs => (h a List.mem_cons_self s hs).bind fun _ hs₁ =>
      runStages_meets (fun b hb => h b (List.mem_cons_of_mem _ hb)) hs₁

/-- What a parser returns: whether the input was accepted, and the state. -/
def report (accept : σ → Bool) : Except (Exit ε σ) σ → Except ε (Bool × σ)
  | .ok s => .ok (accept s, s)
  | .error (.unparsed s) => .ok (false, s)
  | .error (.fail e) => .error e

/-- An input that is accepted was parsed to its end. -/
theorem report_eq_true {accept : σ → Bool} {x : Except (Exit ε σ) σ} {s : σ}
    (h : report accept x = .ok (true, s)) : x = .ok s ∧ accept s = true := by
  match x with
  | .ok s' =>
    rw [report, Except.ok.injEq, Prod.mk.injEq] at h
    obtain ⟨haccept, rfl⟩ := h
    exact ⟨rfl, haccept⟩
  | .error (.unparsed s') => cases h
  | .error (.fail e) => cases h

/-- From `P` the stage does not fail: it goes on with `Q` or gives up with `R`. -/
def Ensures (P : σ → Prop) (stage : Stage ε σ) (Q R : σ → Prop) : Prop :=
  ∀ s, P s → (∃ s', stage s = .ok s' ∧ Q s') ∨ (∃ s', stage s = .error (.unparsed s') ∧ R s')

variable {P Q R S : σ → Prop} {a : Stage ε σ} {as bs : List (Stage ε σ)}

theorem Ensures.nil : Ensures P (runStages ([] : List (Stage ε σ))) P R :=
  fun s hs => Or.inl ⟨s, rfl, hs⟩

theorem Ensures.cons (ha : Ensures P a Q R) (has : Ensures Q (runStages as) S R) :
    Ensures P (runStages (a :: as)) S R := by
  intro s hs
  rcases ha s hs with ⟨s₁, h₁, hq⟩ | ⟨s₁, h₁, hr⟩
  · rcases has s₁ hq with ⟨s₂, h₂, hs₂⟩ | ⟨s₂, h₂, hr⟩
    · exact Or.inl ⟨s₂, by rw [runStages, h₁, ok_bind, h₂], hs₂⟩
    · exact Or.inr ⟨s₂, by rw [runStages, h₁, ok_bind, h₂], hr⟩
  · exact Or.inr ⟨s₁, by rw [runStages, h₁, error_bind], hr⟩

/-- What does not depend on the state is kept. -/
theorem Ensures.frame {p : Prop} (h : Ensures P a Q R) :
    Ensures (fun s => P s ∧ p) a (fun s => Q s ∧ p) R := by
  rintro s ⟨hs, hp⟩
  rcases h s hs with ⟨s', h', hq⟩ | hr
  · exact Or.inl ⟨s', h', hq, hp⟩
  · exact Or.inr hr

theorem runStages_append : ∀ (as bs : List (Stage ε σ)) (s : σ),
    runStages (as ++ bs) s = (runStages as s >>= runStages bs)
  | [], _, _ => rfl
  | a :: as, bs, s => by
    rw [List.cons_append, runStages, runStages]
    cases a s with
    | error e => rfl
    | ok s₁ => exact runStages_append as bs s₁

theorem Ensures.append (ha : Ensures P (runStages as) Q R) (hb : Ensures Q (runStages bs) S R) :
    Ensures P (runStages (as ++ bs)) S R := by
  intro s hs
  rw [runStages_append]
  rcases ha s hs with ⟨s₁, h₁, hq⟩ | ⟨s₁, h₁, hr⟩
  · rw [h₁, ok_bind]
    exact hb s₁ hq
  · exact Or.inr ⟨s₁, by rw [h₁, error_bind], hr⟩

/-- A parser whose stages do not fail returns. -/
theorem Ensures.report (h : Ensures P (runStages as) Q R) (accept : σ → Bool) {s : σ} (hs : P s) :
    ∃ b s', Stages.report accept (runStages as s) = .ok (b, s') ∧
      ((Q s' ∧ b = accept s') ∨ (R s' ∧ b = false)) := by
  rcases h s hs with ⟨s', h', hq⟩ | ⟨s', h', hr⟩
  · exact ⟨accept s', s', by rw [h']; rfl, Or.inl ⟨hq, rfl⟩⟩
  · exact ⟨false, s', by rw [h']; rfl, Or.inr ⟨hr, rfl⟩⟩

/-! ### What a parser keeps -/

/-- What the parser hands on, or gives up with, has `P`. -/
def Keeps (P : σ → Prop) (x : Except (Exit ε σ) σ) : Prop :=
  Meets x P fun exit => ∀ s, exit = .unparsed s → P s

section Keeps
variable {s : σ} {x y : Except (Exit ε σ) σ}

theorem keeps_ok (h : P s) : Keeps P (.ok s : Except (Exit ε σ) σ) := Meets.ok h

theorem keeps_unparsed (h : P s) : Keeps P (.error (.unparsed s) : Except (Exit ε σ) σ) := by
  refine Meets.error fun s' hs => ?_
  cases hs
  exact h

theorem keeps_fail (e : ε) : Keeps P (.error (.fail e) : Except (Exit ε σ) σ) := by
  refine Meets.error fun s hs => ?_
  cases hs

theorem keeps_call {z : Except ε α} {f : α → Except (Exit ε σ) σ}
    (h : ∀ a, z = .ok a → Keeps P (f a)) : Keeps P (call z >>= f) := by
  cases z with
  | ok a => exact h a rfl
  | error e => exact keeps_fail e

theorem keeps_ite {p : Prop} [Decidable p] (hx : Keeps P x) (hy : Keeps P y) :
    Keeps P (if p then x else y) :=
  Meets.ite (fun _ => hx) fun _ => hy

theorem Keeps.bind {f : σ → Except (Exit ε σ) σ} (hx : Keeps P x) (hf : ∀ s, P s → Keeps P (f s)) :
    Keeps P (x >>= f) :=
  Meets.bind hx hf

/-- What the parser returns has `P`, whether the input was accepted or not. -/
theorem Keeps.report {accept : σ → Bool} {accepted : Bool} (h : Keeps P x)
    (hret : Stages.report accept x = .ok (accepted, s)) : P s := by
  match x with
  | .ok s' =>
    cases hret
    exact h.value _ rfl
  | .error (.unparsed s') =>
    cases hret
    exact h.reason _ rfl _ rfl
  | .error (.fail e) => cases hret

end Keeps

/-! ### Parsers that do not fail -/

/-- The parser goes on or gives up. -/
def Answers (x : Except (Exit ε σ) α) : Prop := ∀ e, x ≠ .error (.fail e)

theorem answers_ok (a : α) : Answers (.ok a : Except (Exit ε σ) α) := fun _ => nofun

theorem answers_unparsed (s : σ) : Answers (.error (.unparsed s) : Except (Exit ε σ) α) := fun _ => nofun

theorem not_answers_fail (e : ε) : ¬ Answers (.error (.fail e) : Except (Exit ε σ) α) :=
  fun h => h e rfl

theorem answers_bind {β : Type} {x : Except (Exit ε σ) α} {f : α → Except (Exit ε σ) β} :
    Answers (x >>= f) ↔ Answers x ∧ ∀ a, x = .ok a → Answers (f a) := by
  cases x with
  | ok a =>
    constructor
    · intro h
      refine ⟨answers_ok a, ?_⟩
      rintro b ⟨⟩
      exact h
    · exact fun h => h.2 a rfl
  | error e => exact ⟨fun h => ⟨fun e' he => h e' (by rw [he, error_bind]), nofun⟩,
      fun h e' he => h.1 e' (by rw [error_bind] at he; cases he; rfl)⟩

theorem report_returns_iff (accept : σ → Bool) {x : Except (Exit ε σ) σ} :
    (∃ r, report accept x = .ok r) ↔ Answers x := by
  match x with
  | .ok s => exact iff_of_true ⟨_, rfl⟩ (answers_ok s)
  | .error (.unparsed s) => exact iff_of_true ⟨_, rfl⟩ (answers_unparsed s)
  | .error (.fail e) => exact iff_of_false nofun (not_answers_fail e)

end Stages
