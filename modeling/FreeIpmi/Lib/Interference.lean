import FreeIpmi.Lib.Calls

/-! Programs that share a device with a peer.

    A program reaches the device by single accesses, and before each of them the peer may act any
    number of times on its own. `Triple` is the triple for such a program: an assertion that an
    access starts from has to be stable under what the peer does. -/

namespace Interference
variable {σ act ε α β : Type}

/-- The device, and the number of accesses so far. -/
structure World (σ : Type) where
  device : σ
  clock : ℕ

/-- What the peer's actions do, and which of them come before each access. -/
structure Peer (σ act : Type) where
  step : act → σ → σ
  schedule : ℕ → List act

abbrev Prog (σ ε α : Type) := ExceptT ε (StateM (World σ)) α

/-- What the peer does before the `n`-th access. -/
def Peer.run (peer : Peer σ act) (n : ℕ) (d : σ) : σ :=
  (peer.schedule n).foldl (fun d a => peer.step a d) d

/-- One access: what it yields and what it leaves. -/
def access (peer : Peer σ act) (f : σ → α × σ) : Prog σ ε α := fun w =>
  let d := peer.run w.clock w.device
  (.ok (f d).1, { device := (f d).2, clock := w.clock + 1 })

def clock : Prog σ ε ℕ := fun w => (.ok w.clock, w)

/-- Asks until the answer is right, and once more for each of the `n` pauses. -/
def poll (p : Prog σ ε α) (done : α → Bool) (late : ε) : ℕ → Prog σ ε Unit
  | 0 => do if done (← p) then pure () else throw late
  | n + 1 => do if done (← p) then pure () else poll p done late n

def failIf (c : Prop) [Decidable c] (e : ε) : Prog σ ε Unit := if c then throw e else pure ()

def Prog.result (p : Prog σ ε α) (w : World σ) : Except ε α × World σ := p w

/-! ### Triples -/

/-- How a run ended. -/
def Ends (Q : α → σ → Prop) (E : ε → σ → Prop) : Except ε α × World σ → Prop
  | (.ok a, w) => Q a w.device
  | (.error e, w) => E e w.device

/-- From `P` the program returns with `Q` or fails with `E`. -/
def Triple (P : σ → Prop) (p : Prog σ ε α) (Q : α → σ → Prop) (E : ε → σ → Prop) : Prop :=
  ∀ w, P w.device → Ends Q E (p.result w)

/-- The peer keeps the assertion. -/
def Stable (peer : Peer σ act) (P : σ → Prop) : Prop := ∀ a d, P d → P (peer.step a d)

variable {peer : Peer σ act} {P P' : σ → Prop} {Q Q' R : α → σ → Prop} {S : β → σ → Prop}
  {E E' : ε → σ → Prop} {p q : Prog σ ε α}

theorem Stable.run (h : Stable peer P) (n : ℕ) {d : σ} (hd : P d) : P (peer.run n d) := by
  unfold Peer.run
  induction peer.schedule n generalizing d with
  | nil => exact hd
  | cons a as ih => exact ih (h a d hd)

theorem Triple.ok (h : Triple P p Q E) {w w' : World σ} {a : α} (hw : P w.device)
    (hr : p.result w = (.ok a, w')) : Q a w'.device := by
  have hpw := h w hw
  rwa [hr] at hpw

theorem Triple.error (h : Triple P p Q E) {w w' : World σ} {e : ε} (hw : P w.device)
    (hr : p.result w = (.error e, w')) : E e w'.device := by
  have hpw := h w hw
  rwa [hr] at hpw

theorem Triple.pure {a : α} (h : ∀ d, P d → Q a d) : Triple P (Pure.pure a : Prog σ ε α) Q E :=
  fun w hw => h w.device hw

theorem Triple.throw {e : ε} (h : ∀ d, P d → E e d) : Triple P (MonadExcept.throw e : Prog σ ε α) Q E :=
  fun w hw => h w.device hw

theorem Triple.bind {f : α → Prog σ ε β} (hp : Triple P p Q E)
    (hf : ∀ a, Triple (Q a) (f a) S E) : Triple P (p >>= f) S E := by
  intro w hw
  have hpw := hp w hw
  have hbind : (p >>= f).result w = match p.result w with
      | (.ok a, w') => (f a).result w'
      | (.error e, w') => (.error e, w') := by
    change (match p w with | (r, w') => ExceptT.bindCont f r w') = _
    unfold Prog.result
    rcases p w with ⟨e | a, w'⟩ <;> rfl
  rw [hbind]
  rcases hr : p.result w with ⟨e | a, w'⟩
  · rw [hr] at hpw
    exact hpw
  · rw [hr] at hpw
    exact hf a w' hpw

theorem Triple.mono (h : Triple P p Q E) (hP : ∀ d, P' d → P d) (hQ : ∀ a d, Q a d → Q' a d)
    (hE : ∀ e d, E e d → E' e d) : Triple P' p Q' E' := by
  intro w hw
  have hpw := h w (hP _ hw)
  rcases hr : p.result w with ⟨e | a, w'⟩
  · rw [hr] at hpw
    exact hE e _ hpw
  · rw [hr] at hpw
    exact hQ a _ hpw

theorem Triple.pre (h : Triple P p Q E) (hP : ∀ d, P' d → P d) : Triple P' p Q E :=
  h.mono hP (fun _ _ hq => hq) fun _ _ he => he

theorem Triple.post (h : Triple P p Q E) (hQ : ∀ a d, Q a d → Q' a d) : Triple P p Q' E :=
  h.mono (fun _ hp => hp) hQ fun _ _ he => he

/-- A fact that does not depend on the device may be taken out of the assertion. -/
theorem Triple.assume {φ : Prop} (h : φ → Triple P p Q E) : Triple (fun d => φ ∧ P d) p Q E :=
  fun w hw => h hw.1 w hw.2

theorem Triple.exists {ι : Type} {T : ι → σ → Prop} (h : ∀ i, Triple (T i) p Q E) :
    Triple (fun d => ∃ i, T i d) p Q E := by
  rintro w ⟨i, hi⟩
  exact h i w hi

theorem Triple.ite {c : Prop} [Decidable c] (ht : c → Triple P p Q E) (hf : ¬ c → Triple P q Q E) :
    Triple P (if c then p else q) Q E := by
  by_cases hc : c
  · rw [if_pos hc]
    exact ht hc
  · rw [if_neg hc]
    exact hf hc

theorem Triple.failIf {c : Prop} [Decidable c] {e : ε} (h : ∀ d, c → P d → E e d) :
    Triple P (failIf c e) (fun _ d => ¬ c ∧ P d) E :=
  Triple.ite (fun hc => Triple.throw fun d hd => h d hc hd) fun hc => Triple.pure fun _ hd => ⟨hc, hd⟩

/-- An access, by what the peer does before it. -/
theorem Triple.access_run {f : σ → α × σ} (h : ∀ n d, P d → Q (f (peer.run n d)).1 (f (peer.run n d)).2) :
    Triple P (access peer f : Prog σ ε α) Q E := fun w hw => h w.clock w.device hw

/-- An access from a stable assertion, whatever the peer does before it. -/
theorem Triple.access {f : σ → α × σ} (hP : Stable peer P) (h : ∀ d, P d → Q (f d).1 (f d).2) :
    Triple P (access peer f : Prog σ ε α) Q E := Triple.access_run fun n _ hd => h _ (hP.run n hd)

theorem Triple.clock : Triple P (clock : Prog σ ε ℕ) (fun _ d => P d) E := fun _ hw => hw

/-- Polling keeps the assertion until the answer is right. -/
theorem Triple.poll {done : α → Bool} {late : ε} {D : Unit → σ → Prop}
    (hp : Triple P p (fun a d => P d ∧ (done a = true → D () d)) E) (hlate : ∀ d, P d → E late d)
    (n : ℕ) : Triple P (poll p done late n) D E := by
  induction n with
  | zero =>
    refine hp.bind fun a => Triple.ite (fun h => ?_) fun _ => ?_
    · exact Triple.pure fun _ hd => hd.2 h
    · exact Triple.throw fun d hd => hlate d hd.1
  | succ n ih =>
    refine hp.bind fun a => Triple.ite (fun h => ?_) fun _ => ?_
    · exact Triple.pure fun _ hd => hd.2 h
    · exact ih.pre fun _ hd => hd.1

/-- Polling ends at once when the first answer is right. -/
theorem Triple.poll_once {done : α → Bool} {late : ε} {D : Unit → σ → Prop}
    (hp : Triple P p (fun a d => done a = true ∧ D () d) E) (n : ℕ) :
    Triple P (Interference.poll p done late n) D E := by
  cases n with
  | zero =>
    refine hp.bind fun a => Triple.ite (fun _ => ?_) fun h => ?_
    · exact Triple.pure fun _ hd => hd.2
    · exact Triple.throw fun _ hd => absurd hd.1 h
  | succ n =>
    refine hp.bind fun a => Triple.ite (fun _ => ?_) fun h => ?_
    · exact Triple.pure fun _ hd => hd.2
    · exact fun w hw => absurd hw.1 h

end Interference
