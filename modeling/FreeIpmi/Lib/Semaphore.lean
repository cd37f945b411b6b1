import Mathlib

/-! Processes that share one semaphore.

    A process makes one call after the other; a call is a program that takes and releases the
    semaphore, and marks where the guarded section begins and ends. The steps of the processes
    interleave in any order, and what a program attempts may fail. `Prog.Keeps` is what a single
    program has to show for a system of such programs to be disciplined. -/

namespace Semaphore
variable {ι C F R S : Type}

/-! ### Programs -/

/-- A program; `F` names what it attempts, and an attempt tells whether it worked. -/
inductive Prog (F R : Type) where
  | ret (r : R)
  | lock (k : Bool → Prog F R)
  | unlock (k : Prog F R)
  | attempt (f : F) (k : Bool → Prog F R)
  | enter (k : Prog F R)
  | leave (k : Prog F R)

namespace Prog

def bind : Prog F R → (R → Prog F S) → Prog F S
  | ret r, f => f r
  | lock k, f => lock fun b => (k b).bind f
  | unlock k, f => unlock (k.bind f)
  | attempt a k, f => attempt a fun b => (k b).bind f
  | enter k, f => enter (k.bind f)
  | leave k, f => leave (k.bind f)

instance : Monad (Prog F) where
  pure := ret
  bind := bind

end Prog

/-- Takes the semaphore, or fails to. -/
def takeLock : Prog F Bool := .lock .ret

def release : Prog F Unit := .unlock (.ret ())

def attempt (f : F) : Prog F Bool := .attempt f .ret

def enterSection : Prog F Unit := .enter (.ret ())

def leaveSection : Prog F Unit := .leave (.ret ())

/-- One attempt after the other, until one fails. -/
def attempts : List F → Prog F Bool
  | [] => return true
  | f :: fs => do
    if ← attempt f then attempts fs
    else return false

/-! ### Systems -/

/-- What a process has of the semaphore, and whether it is in the section that the semaphore guards. -/
structure Hold where
  holds : Bool
  inside : Bool
  deriving DecidableEq

structure Sys (ι C F R : Type) where
  -- the value of the semaphore
  value : ℕ
  running : ι → Option (C × Prog F R)
  hold : ι → Hold
  -- the last call that returned
  last : ι → Option C
  -- a process released the semaphore without holding it
  stolen : Bool

/-- One process starts a call, or makes the next step of its program. -/
inductive Step (ι C : Type) where
  | start (i : ι) (c : C)
  | go (i : ι) (answer : Bool)

def Sys.init : Sys ι C F R where
  value := 1
  running _ := none
  hold _ := ⟨false, false⟩
  last _ := none
  stolen := false

variable [DecidableEq ι] {program : C → Prog F R}

def Sys.resume (s : Sys ι C F R) (i : ι) (c : C) (p : Prog F R) : Sys ι C F R :=
  { s with running := Function.update s.running i (some (c, p)) }

def Sys.setHold (s : Sys ι C F R) (i : ι) (h : Hold) : Sys ι C F R :=
  { s with hold := Function.update s.hold i h }

/-- The next step of a program. The semaphore cannot be taken while its value is 0: then the process
    waits, or fails. -/
def Sys.go (s : Sys ι C F R) (i : ι) (c : C) (answer : Bool) : Prog F R → Option (Sys ι C F R)
  | .ret _ => some
    { s with running := Function.update s.running i none, last := Function.update s.last i (some c) }
  | .lock k =>
    if answer then
      if 0 < s.value then
        some ({ s with value := s.value - 1 }.setHold i { s.hold i with holds := true }
          |>.resume i c (k true))
      else none
    else some (s.resume i c (k false))
  | .unlock k => some ({ s with value := s.value + 1, stolen := s.stolen || !(s.hold i).holds }.setHold i
      { s.hold i with holds := false } |>.resume i c k)
  | .attempt _ k => some (s.resume i c (k answer))
  | .enter k => some (s.setHold i { s.hold i with inside := true } |>.resume i c k)
  | .leave k => some (s.setHold i { s.hold i with inside := false } |>.resume i c k)

def Sys.step (program : C → Prog F R) (s : Sys ι C F R) : Step ι C → Option (Sys ι C F R)
  | .start i c =>
    match s.running i with
    | none => some (s.resume i c (program c))
    | some _ => none
  | .go i answer =>
    match s.running i with
    | none => none
    | some (c, p) => s.go i c answer p

/-- A run from the state in which no process has made a call. -/
inductive Reached (program : C → Prog F R) (allowed : Sys ι C F R → Step ι C → Prop) :
    Sys ι C F R → Prop where
  | init : Reached program allowed .init
  | step {s s' : Sys ι C F R} {e : Step ι C} (before : Reached program allowed s) (may : allowed s e)
      (next : s.step program e = some s') : Reached program allowed s'

def Sys.exec (program : C → Prog F R) : Sys ι C F R → List (Step ι C) → Option (Sys ι C F R)
  | s, [] => some s
  | s, e :: es => (s.step program e).bind fun s' => s'.exec program es

theorem Reached.exec : ∀ {es : List (Step ι C)} {s s' : Sys ι C F R},
    Reached program (fun _ _ => True) s → s.exec program es = some s' →
      Reached program (fun _ _ => True) s'
  | [], s, s', hs, h => by
    cases h
    exact hs
  | e :: es, s, s', hs, h => by
    obtain ⟨s₁, h₁, h₂⟩ := Option.bind_eq_some_iff.mp h
    exact (hs.step trivial h₁).exec h₂

/-! ### Discipline -/

/-- Nobody releases what it does not hold, one process at a time is in the section, and after one of
    these calls the caller does not hold the semaphore. -/
structure Sys.Disciplined (returns : C → Prop) (s : Sys ι C F R) : Prop where
  stolen : s.stolen = false
  exclusive : ∀ i j, (s.hold i).inside = true → (s.hold j).inside = true → i = j
  released : ∀ i c, s.running i = none → s.last i = some c → returns c → (s.hold i).holds = false

/-- Started like this the program takes the semaphore only to release it, is in the section only while
    it holds it, and ends with `Q`. What `works` does not fail. -/
def Prog.Keeps (works : F → Prop) (Q : R → Hold → Prop) : Prog F R → Hold → Prop
  | .ret r, h => Q r h
  | .lock k, h => (h.holds = false → (k true).Keeps works Q { h with holds := true })
      ∧ (k false).Keeps works Q h
  | .unlock k, h => h.holds = true ∧ h.inside = false ∧ k.Keeps works Q { h with holds := false }
  | .attempt f k, h => (k true).Keeps works Q h ∧ (¬ works f → (k false).Keeps works Q h)
  | .enter k, h => h.holds = true ∧ k.Keeps works Q { h with inside := true }
  | .leave k, h => k.Keeps works Q { h with inside := false }

/-- What a system of programs promises: which calls a process may make, what does not fail, and how
    a call leaves the process. -/
structure Terms (program : C → Prog F R) where
  may : C → Hold → Prop
  works : F → Prop
  post : C → Hold → Prop
  -- between two calls a process is in the section exactly if it holds the semaphore
  settled : ∀ c h, post c h → h.holds = h.inside
  keeps : ∀ c h, h.holds = h.inside → may c h → (program c).Keeps works (fun _ => post c) h

variable (terms : Terms program)

/-- The step is within the terms. -/
def Terms.Allowed (s : Sys ι C F R) : Step ι C → Prop
  | .start i c => terms.may c (s.hold i)
  | .go i answer => ∀ c f k, s.running i = some (c, .attempt f k) → terms.works f → answer = true

structure SysInv (s : Sys ι C F R) : Prop where
  value : (s.value = 1 ∧ ∀ i, (s.hold i).holds = false)
    ∨ (s.value = 0 ∧ ∀ i j, (s.hold i).holds = true → (s.hold j).holds = true → i = j)
  inside : ∀ i, (s.hold i).inside = true → (s.hold i).holds = true
  stolen : s.stolen = false
  running : ∀ i c p, s.running i = some (c, p) → p.Keeps terms.works (fun _ => terms.post c) (s.hold i)
  idle : ∀ i, s.running i = none → (s.hold i).holds = (s.hold i).inside
  ended : ∀ i c, s.running i = none → s.last i = some c → terms.post c (s.hold i)

variable {terms} {s s' : Sys ι C F R}

omit [DecidableEq ι] in
theorem SysInv.init : SysInv terms (.init : Sys ι C F R) where
  value := Or.inl ⟨rfl, fun _ => rfl⟩
  inside _ h := by simp [Sys.init] at h
  stolen := rfl
  running _ _ _ h := by simp [Sys.init] at h
  idle _ _ := rfl
  ended _ _ _ h := by simp [Sys.init] at h

/-- The other processes are as they were. -/
theorem SysInv.resume {i : ι} {c : C} {p : Prog F R} {h : Hold} (hs : SysInv terms s)
    (hvalue : (s'.value = 1 ∧ ∀ j, (Function.update s.hold i h j).holds = false)
      ∨ (s'.value = 0 ∧ ∀ j k, (Function.update s.hold i h j).holds = true →
        (Function.update s.hold i h k).holds = true → j = k))
    (hinside : h.inside = true → h.holds = true)
    (hp : p.Keeps terms.works (fun _ => terms.post c) h)
    (hhold : s'.hold = Function.update s.hold i h) (hstolen : s'.stolen = false)
    (hrunning : s'.running = Function.update s.running i (some (c, p))) (hlast : s'.last = s.last) :
    SysInv terms s' where
  value := by rwa [hhold]
  stolen := hstolen
  inside j hj := by
    rw [hhold] at hj ⊢
    by_cases hji : j = i
    · subst hji
      rw [Function.update_self] at hj ⊢
      exact hinside hj
    · rw [Function.update_of_ne hji] at hj ⊢
      exact hs.inside j hj
  running j d q hj := by
    rw [hrunning] at hj
    rw [hhold]
    by_cases hji : j = i
    · subst hji
      rw [Function.update_self] at hj ⊢
      cases hj
      exact hp
    · rw [Function.update_of_ne hji] at hj ⊢
      exact hs.running j d q hj
  idle j hj := by
    rw [hrunning] at hj
    rw [hhold]
    by_cases hji : j = i
    · subst hji
      simp at hj
    · rw [Function.update_of_ne hji] at hj ⊢
      exact hs.idle j hj
  ended j d hj hd := by
    rw [hrunning] at hj
    rw [hlast] at hd
    rw [hhold]
    by_cases hji : j = i
    · subst hji
      simp at hj
    · rw [Function.update_of_ne hji] at hj ⊢
      exact hs.ended j d hj hd

/-- A step that leaves what the process holds leaves the count of the holders. -/
theorem SysInv.value_update {i : ι} {h : Hold} (hs : SysInv terms s) (hh : h.holds = (s.hold i).holds) :
    (s.value = 1 ∧ ∀ j, (Function.update s.hold i h j).holds = false)
      ∨ (s.value = 0 ∧ ∀ j k, (Function.update s.hold i h j).holds = true →
        (Function.update s.hold i h k).holds = true → j = k) := by
  have hsame (j : ι) : (Function.update s.hold i h j).holds = (s.hold j).holds := by
    by_cases hji : j = i
    · subst hji
      rw [Function.update_self, hh]
    · rw [Function.update_of_ne hji]
  simpa only [hsame] using hs.value

/-- A process that takes the semaphore is the only one to hold it. -/
theorem SysInv.value_lock {i : ι} {h : Hold} (hs : SysInv terms s) (hpos : 0 < s.value) :
    s.value - 1 = 0 ∧ ∀ j k, (Function.update s.hold i h j).holds = true →
      (Function.update s.hold i h k).holds = true → j = k := by
  rcases hs.value with ⟨h1, hfree⟩ | ⟨h0, -⟩
  · refine ⟨by omega, fun j k hj hk => ?_⟩
    have honly {l : ι} (hl : (Function.update s.hold i h l).holds = true) : l = i := by
      by_contra hli
      rw [Function.update_of_ne hli, hfree] at hl
      simp at hl
    exact (honly hj).trans (honly hk).symm
  · omega

/-- When the process that holds the semaphore releases it, nobody does. -/
theorem SysInv.value_unlock {i : ι} {h : Hold} (hs : SysInv terms s) (hi : (s.hold i).holds = true)
    (hh : h.holds = false) : s.value + 1 = 1 ∧ ∀ j, (Function.update s.hold i h j).holds = false := by
  rcases hs.value with ⟨-, hfree⟩ | ⟨h0, hone⟩
  · simp [hfree i] at hi
  · refine ⟨by omega, fun j => ?_⟩
    by_cases hji : j = i
    · rw [hji, Function.update_self, hh]
    · rw [Function.update_of_ne hji]
      by_contra hj
      exact hji (hone j i (by simpa using hj) hi)

theorem SysInv.go {i : ι} {c : C} {p : Prog F R} {answer : Bool} (hs : SysInv terms s)
    (hrun : s.running i = some (c, p))
    (hanswer : ∀ f k, p = .attempt f k → terms.works f → answer = true)
    (hgo : s.go i c answer p = some s') : SysInv terms s' := by
  have hp := hs.running i c p hrun
  cases p with
  | ret r =>
    cases hgo
    refine ⟨hs.value, hs.inside, hs.stolen, ?_, ?_, ?_⟩
    · intro j d q (hj : Function.update s.running i none j = some (d, q))
      by_cases hji : j = i
      · subst hji
        simp at hj
      · rw [Function.update_of_ne hji] at hj
        exact hs.running j d q hj
    · intro j (hj : Function.update s.running i none j = none)
      by_cases hji : j = i
      · subst hji
        exact terms.settled c _ hp
      · rw [Function.update_of_ne hji] at hj
        exact hs.idle j hj
    · intro j d (hj : Function.update s.running i none j = none)
        (hd : Function.update s.last i (some c) j = some d)
      by_cases hji : j = i
      · subst hji
        rw [Function.update_self] at hd
        cases hd
        exact hp
      · rw [Function.update_of_ne hji] at hj hd
        exact hs.ended j d hj hd
  | lock k =>
    cases answer with
    | true =>
      simp only [Sys.go, if_true] at hgo
      split at hgo
      · rename_i hpos
        cases hgo
        have hfree : (s.hold i).holds = false := by
          rcases hs.value with ⟨-, hfree⟩ | ⟨h0, -⟩
          · exact hfree i
          · omega
        exact hs.resume (h := { s.hold i with holds := true }) (Or.inr (hs.value_lock hpos))
          (fun _ => rfl) (hp.1 hfree) rfl hs.stolen rfl rfl
      · simp at hgo
    | false =>
      simp only [Sys.go, Bool.false_eq_true, if_false] at hgo
      cases hgo
      exact hs.resume (h := s.hold i) (hs.value_update rfl) (hs.inside i) hp.2
        (Function.update_eq_self i s.hold).symm hs.stolen rfl rfl
  | unlock k =>
    simp only [Sys.go] at hgo
    cases hgo
    refine hs.resume (h := { s.hold i with holds := false }) (Or.inl (hs.value_unlock hp.1 rfl))
      (fun h => ?_) hp.2.2 rfl ?_ rfl rfl
    · simp [hp.2.1] at h
    · simp [Sys.setHold, Sys.resume, hs.stolen, hp.1]
  | attempt f k =>
    simp only [Sys.go] at hgo
    cases hgo
    refine hs.resume (h := s.hold i) (hs.value_update rfl) (hs.inside i) ?_
      (Function.update_eq_self i s.hold).symm hs.stolen rfl rfl
    cases answer with
    | true => exact hp.1
    | false => exact hp.2 fun hworks => by simpa using hanswer f k rfl hworks
  | enter k =>
    simp only [Sys.go] at hgo
    cases hgo
    exact hs.resume (h := { s.hold i with inside := true }) (hs.value_update rfl) (fun _ => hp.1) hp.2
      rfl hs.stolen rfl rfl
  | leave k =>
    simp only [Sys.go] at hgo
    cases hgo
    exact hs.resume (h := { s.hold i with inside := false }) (hs.value_update rfl)
      (fun h => by simp at h) hp rfl hs.stolen rfl rfl

theorem SysInv.step {e : Step ι C} (hs : SysInv terms s) (hmay : terms.Allowed s e)
    (hstep : s.step program e = some s') : SysInv terms s' := by
  cases e with
  | start i c =>
    simp only [Sys.step] at hstep
    split at hstep
    · rename_i hidle
      cases hstep
      exact hs.resume (h := s.hold i) (hs.value_update rfl) (hs.inside i)
        (terms.keeps c _ (hs.idle i hidle) hmay) (Function.update_eq_self i s.hold).symm hs.stolen rfl rfl
    · simp at hstep
  | go i answer =>
    simp only [Sys.step] at hstep
    split at hstep
    · simp at hstep
    · rename_i c p hrun
      exact hs.go hrun (fun f k hp => hmay c f k (hp ▸ hrun)) hstep

/-- Every run within the terms is disciplined. -/
theorem Reached.inv (h : Reached program terms.Allowed s) : SysInv terms s := by
  induction h with
  | init => exact SysInv.init
  | step _ hmay hnext ih => exact ih.step hmay hnext

/-- A process that everything works for stays within the terms. -/
theorem Reached.go {i : ι} : ∀ (n : ℕ) {s s' : Sys ι C F R}, Reached program terms.Allowed s →
    s.exec program (List.replicate n (.go i true)) = some s' → Reached program terms.Allowed s'
  | 0, s, s', hs, h => by
    cases h
    exact hs
  | n + 1, s, s', hs, h => by
    obtain ⟨s₁, h₁, h₂⟩ := Option.bind_eq_some_iff.mp h
    have hmay : terms.Allowed s (.go i true) := fun _ _ _ _ _ => rfl
    exact Reached.go n (hs.step hmay h₁) h₂

omit [DecidableEq ι] in
theorem SysInv.disciplined {returns : C → Prop} (hs : SysInv terms s)
    (hreturns : ∀ c h, returns c → terms.post c h → h.holds = false) : s.Disciplined returns where
  stolen := hs.stolen
  exclusive i j hi hj := by
    have hi' := hs.inside i hi
    have hj' := hs.inside j hj
    rcases hs.value with ⟨-, hfree⟩ | ⟨-, hone⟩
    · simp [hfree i] at hi'
    · exact hone i j hi' hj'
  released i c hidle hlast hc := hreturns c _ hc (hs.ended i c hidle hlast)

/-! ### Rules -/

section Rules
variable {works : F → Prop} {Q : R → Hold → Prop} {T : S → Hold → Prop} {h : Hold}

theorem Prog.Keeps.bind {f : R → Prog F S} {p : Prog F R} (hp : p.Keeps works Q h)
    (hf : ∀ r h, Q r h → (f r).Keeps works T h) : (p >>= f).Keeps works T h := by
  change (p.bind f).Keeps works T h
  induction p generalizing h with
  | ret r => exact hf r h hp
  | lock k ih => exact ⟨fun hh => ih true (hp.1 hh), ih false hp.2⟩
  | unlock k ih => exact ⟨hp.1, hp.2.1, ih hp.2.2⟩
  | attempt a k ih => exact ⟨ih true hp.1, fun hw => ih false (hp.2 hw)⟩
  | enter k ih => exact ⟨hp.1, ih hp.2⟩
  | leave k ih => exact ih hp

theorem Prog.Keeps.mono {p : Prog F R} {P : R → Hold → Prop} (hp : p.Keeps works Q h)
    (hQ : ∀ r h, Q r h → P r h) : p.Keeps works P h := by
  induction p generalizing h with
  | ret r => exact hQ r h hp
  | lock k ih => exact ⟨fun hh => ih true (hp.1 hh), ih false hp.2⟩
  | unlock k ih => exact ⟨hp.1, hp.2.1, ih hp.2.2⟩
  | attempt a k ih => exact ⟨ih true hp.1, fun hw => ih false (hp.2 hw)⟩
  | enter k ih => exact ⟨hp.1, ih hp.2⟩
  | leave k ih => exact ih hp

theorem Prog.Keeps.ite {c : Prop} [Decidable c] {p q : Prog F R} (hp : c → p.Keeps works Q h)
    (hq : ¬ c → q.Keeps works Q h) : (if c then p else q).Keeps works Q h := by
  by_cases hc : c
  · rw [if_pos hc]
    exact hp hc
  · rw [if_neg hc]
    exact hq hc

/-- Attempts leave the semaphore alone, and all work if none of them can fail. -/
theorem keeps_attempts (fs : List F) : (attempts fs).Keeps works
    (fun r h' => h' = h ∧ ((∀ f ∈ fs, works f) → r = true)) h := by
  induction fs with
  | nil => exact ⟨rfl, fun _ => rfl⟩
  | cons f fs ih =>
    refine ⟨?_, fun hf => ?_⟩
    · exact ih.mono fun r h' hr => ⟨hr.1, fun hall => hr.2 fun g hg => hall g (List.mem_cons_of_mem _ hg)⟩
    · exact ⟨rfl, fun hall => absurd (hall f List.mem_cons_self) hf⟩

end Rules

end Semaphore
