import FreeIpmi.Driver.Kcs

/-! What a BMC keeps during a KCS transfer, whatever it does and whenever.

    A transfer goes through phases: the request is being written, a byte of the response is on offer,
    put out or read, the transfer is over. Each phase is an assertion about the BMC that its own
    actions keep, unless they lead to ERROR, where the transfer is doomed. -/

namespace FreeIpmi.Kcs
open Interference

/-! ### The status register -/

@[simp] theorem status_ibf (b : Bmc) : (b.status &&& statusRegIbf == 0) = b.input.isNone := by
  have h (f : Byte) (s : State) (i o : Bool) :
      ((s.bits ||| (if i then 0x02 else 0) ||| (if o then 0x01 else 0) ||| (f &&& 0x3C)) &&& statusRegIbf
        == 0) = !i := by
    revert f
    cases s <;> cases i <;> cases o <;> decide +kernel
  rw [Bmc.status, h]
  cases b.input <;> rfl

@[simp] theorem status_obf (b : Bmc) : (b.status &&& statusRegObf != 0) = b.obf := by
  have h (f : Byte) (s : State) (i o : Bool) :
      ((s.bits ||| (if i then 0x02 else 0) ||| (if o then 0x01 else 0) ||| (f &&& 0x3C)) &&& statusRegObf
        != 0) = o := by
    revert f
    cases s <;> cases i <;> cases o <;> decide +kernel
  rw [Bmc.status, h]

@[simp] theorem status_state (b : Bmc) : b.status &&& statusRegState = b.state.bits := by
  have h (f : Byte) (s : State) (i o : Bool) :
      (s.bits ||| (if i then 0x02 else 0) ||| (if o then 0x01 else 0) ||| (f &&& 0x3C))
        &&& statusRegState = s.bits := by
    revert f
    cases s <;> cases i <;> cases o <;> decide +kernel
  rw [Bmc.status, h]

/-! ### Steady assertions -/

/-- The transfer went to ERROR. -/
structure Doomed (b : Bmc) : Prop where
  state : b.state = .error
  failed : b.failed = true

/-- What the BMC does while it takes no input leaves the assertion true, or the transfer doomed. -/
structure Steady (A : Bmc → Prop) : Prop where
  publish (respond : List Byte → List Byte) : ∀ b, A b → A (b.step respond .publish)
  signal (respond : List Byte → List Byte) (x : Byte) : ∀ b, A b → A (b.step respond (.signal x))
  abort (respond : List Byte → List Byte) (d : Option Byte) :
    ∀ b, A b → A (b.step respond (.abort d)) ∨ Doomed (b.step respond (.abort d))
  flag (x : Byte) : ∀ b, A b → A { b with flags := x }
  -- the registers that the driver writes are not part of the assertion
  submit (i : Input) : ∀ b, A b → A { b with input := some i }

@[simp] theorem putDummy_state (b : Bmc) (d : Option Byte) : (b.putDummy d).state = b.state := by
  cases d <;> rfl

@[simp] theorem putDummy_failed (b : Bmc) (d : Option Byte) : (b.putDummy d).failed = b.failed := by
  cases d <;> rfl

@[simp] theorem putDummy_input (b : Bmc) (d : Option Byte) : (b.putDummy d).input = b.input := by
  cases d <;> rfl

@[simp] theorem putDummy_taken (b : Bmc) (d : Option Byte) : (b.putDummy d).taken = b.taken := by
  cases d <;> rfl

@[simp] theorem putDummy_request (b : Bmc) (d : Option Byte) : (b.putDummy d).request = b.request := by
  cases d <;> rfl

@[simp] theorem putDummy_ending (b : Bmc) (d : Option Byte) : (b.putDummy d).ending = b.ending := by
  cases d <;> rfl

@[simp] theorem next_input (b : Bmc) : b.next.input = b.input := by
  unfold Bmc.next
  split <;> rfl

@[simp] theorem next_taken (b : Bmc) : b.next.taken = b.taken := by
  unfold Bmc.next
  split <;> rfl

/-- Reading the input register changes neither it nor the record of what was taken. -/
theorem receive_frame (respond : List Byte → List Byte) (b : Bmc) (i : Input) (d : Option Byte) :
    (b.receive respond i d).input = b.input ∧ (b.receive respond i d).taken = b.taken := by
  unfold Bmc.receive
  split
  · simp
  · split
    · simp
    · split <;> simp
    · split <;> simp [Bmc.fail]
    · split <;> simp [Bmc.fail]
    · simp [Bmc.fail]
    · simp [Bmc.fail]

/-- Publishing changes nothing, or puts out the next byte. -/
theorem step_publish_cases (respond : List Byte → List Byte) (b : Bmc) :
    b.step respond .publish = b ∨ ∃ x xs, b.response = x :: xs ∧ b.state = .read ∧ b.ready = true
      ∧ b.obf = false ∧ b.step respond .publish
        = { b with obf := true, dataOut := x, response := xs, ready := false } := by
  rcases hr : b.response with - | ⟨x, xs⟩
  · exact Or.inl (by simp only [Bmc.step, hr])
  · by_cases h : b.state = .read ∧ b.ready = true ∧ b.obf = false
    · exact Or.inr ⟨x, xs, rfl, h.1, h.2.1, h.2.2, by simp only [Bmc.step, hr, if_pos h]⟩
    · exact Or.inl (by simp only [Bmc.step, hr, if_neg h])

/-- An action moves what the BMC was handed, at most, from the register to the record. -/
theorem step_handed (respond : List Byte → List Byte) (a : Action) (b : Bmc) :
    (b.step respond a).handed = b.handed := by
  cases a with
  | take d =>
    rcases hi : b.input with - | i
    · simp only [Bmc.step, hi]
    · obtain ⟨hinput, htaken⟩ := receive_frame respond { b with input := none, taken := b.taken ++ [i] } i d
      simp [Bmc.handed, Bmc.step, hi, hinput, htaken]
  | publish =>
    rcases step_publish_cases respond b with h | ⟨x, xs, -, -, -, -, h⟩ <;> rw [h]
    rfl
  | signal x =>
    simp only [Bmc.step]
    split <;> rfl
  | abort d =>
    simp only [Bmc.step]
    split
    · simp [Bmc.handed, Bmc.fail]
    · rfl
  | flag x => rfl

/-- Only taking an input changes the input register. -/
theorem step_input_of_ne (respond : List Byte → List Byte) {a : Action} {b : Bmc} (h : ∀ d, a ≠ .take d) :
    (b.step respond a).input = b.input := by
  cases a with
  | take d => exact absurd rfl (h d)
  | publish =>
    rcases step_publish_cases respond b with h' | ⟨x, xs, -, -, -, -, h'⟩ <;> rw [h']
  | signal x =>
    simp only [Bmc.step]
    split <;> rfl
  | abort d =>
    simp only [Bmc.step]
    split
    · simp [Bmc.fail]
    · rfl
  | flag x => rfl

theorem step_take_none (respond : List Byte → List Byte) (d : Option Byte) {b : Bmc} (h : b.input = none) :
    b.step respond (.take d) = b := by simp [Bmc.step, h]

/-- An empty input register stays empty. -/
theorem step_input (respond : List Byte → List Byte) (a : Action) {b : Bmc} (h : b.input = none) :
    (b.step respond a).input = none := by
  by_cases ha : ∃ d, a = .take d
  · obtain ⟨d, rfl⟩ := ha
    rwa [step_take_none respond d h]
  · exact (step_input_of_ne respond fun d hd => ha ⟨d, hd⟩).trans h

theorem Doomed.steady : Steady Doomed where
  publish respond b hb := by
    rcases step_publish_cases respond b with h | ⟨x, xs, -, hs, -, -, -⟩
    · rwa [h]
    · simp [hb.state] at hs
  signal respond x b hb := by
    simp only [Bmc.step, hb.state, reduceCtorEq, if_false]
    exact hb
  abort respond d b hb := by
    left
    simp only [Bmc.step, hb.state, reduceCtorEq, or_self, if_false]
    exact hb
  flag x b hb := ⟨hb.state, hb.failed⟩
  submit i b hb := ⟨hb.state, hb.failed⟩

/-- In ERROR only a `WRITE_START` makes a difference. -/
theorem Doomed.take {respond : List Byte → List Byte} {d : Option Byte} {b : Bmc} (h : Doomed b) {i : Input}
    (hi : b.input = some i) (hne : i ≠ writeStart) : Doomed (b.step respond (.take d)) := by
  simp only [Bmc.step, hi, Bmc.receive, if_neg hne, h.state]
  exact ⟨by simp, by simp [h.failed]⟩

theorem Steady.anything : Steady fun _ => True where
  publish _ _ _ := trivial
  signal _ _ _ _ := trivial
  abort _ _ _ _ := Or.inl trivial
  flag _ _ _ := trivial
  submit _ _ _ := trivial

theorem Steady.and_const {A : Bmc → Prop} (h : Steady A) (p : Prop) : Steady fun b => A b ∧ p where
  publish respond b hb := ⟨h.publish respond b hb.1, hb.2⟩
  signal respond x b hb := ⟨h.signal respond x b hb.1, hb.2⟩
  abort respond d b hb := (h.abort respond d b hb.1).imp_left fun h' => ⟨h', hb.2⟩
  flag x b hb := ⟨h.flag x b hb.1, hb.2⟩
  submit i b hb := ⟨h.submit i b hb.1, hb.2⟩

/-! ### Phases of a transfer -/

/-- The request is being written, and these bytes of it were taken. -/
structure Writing (request : List Byte) (ending : Bool) (b : Bmc) : Prop where
  state : b.state = .write
  request : b.request = request
  ending : b.ending = ending
  failed : b.failed = false

/-- `Writing`, with the dummy bytes tossed. -/
structure Quiet (request : List Byte) (ending : Bool) (b : Bmc) : Prop extends Writing request ending b where
  obf : b.obf = false

/-- These bytes of the response are still to be read: the first is put out, or will be. -/
inductive Offering : List Byte → Bmc → Prop where
  | done {b : Bmc} (state : b.state = .idle) (failed : b.failed = false) : Offering [] b
  | waiting {b : Bmc} {x : Byte} {xs : List Byte} (state : b.state = .read) (failed : b.failed = false)
      (ready : b.ready = true) (obf : b.obf = false) (response : b.response = x :: xs) :
      Offering (x :: xs) b
  | out {b : Bmc} {x : Byte} {xs : List Byte} (state : b.state = .read) (failed : b.failed = false)
      (ready : b.ready = false) (obf : b.obf = true) (dataOut : b.dataOut = x) (response : b.response = xs) :
      Offering (x :: xs) b

/-- The first of these bytes is put out. -/
structure Offered (x : Byte) (xs : List Byte) (b : Bmc) : Prop where
  state : b.state = .read
  failed : b.failed = false
  ready : b.ready = false
  obf : b.obf = true
  dataOut : b.dataOut = x
  response : b.response = xs

/-- The byte that was put out is read, and the next not asked for. -/
structure Drained (xs : List Byte) (b : Bmc) : Prop where
  state : b.state = .read
  failed : b.failed = false
  ready : b.ready = false
  obf : b.obf = false
  response : b.response = xs

/-- The transfer is over. -/
structure Over (b : Bmc) : Prop where
  state : b.state = .idle
  failed : b.failed = false

theorem step_publish_of_ne (respond : List Byte → List Byte) {b : Bmc}
    (h : ¬ (b.state = .read ∧ b.ready = true ∧ b.obf = false)) : b.step respond .publish = b := by
  rcases step_publish_cases respond b with h' | ⟨x, xs, -, hs, hr, ho, -⟩
  · exact h'
  · exact absurd ⟨hs, hr, ho⟩ h

theorem step_signal_of_ne (respond : List Byte → List Byte) {x : Byte} {b : Bmc} (h : b.state ≠ .idle) :
    b.step respond (.signal x) = b := by simp only [Bmc.step, if_neg h]

theorem step_abort_doomed (respond : List Byte → List Byte) (d : Option Byte) {b : Bmc}
    (h : b.state = .write ∨ b.state = .read) : Doomed (b.step respond (.abort d)) := by
  simp only [Bmc.step, if_pos h]
  exact ⟨by simp [Bmc.fail], by simp [Bmc.fail]⟩

/-- An assertion about a transfer in WRITE or READ, for which there is no byte to publish. -/
theorem Steady.of_state {A : Bmc → Prop} (hstate : ∀ b, A b → b.state = .write ∨ b.state = .read)
    (hpublish : ∀ b, A b → ¬ (b.state = .read ∧ b.ready = true ∧ b.obf = false))
    (hflag : ∀ x b, A b → A { b with flags := x }) (hsubmit : ∀ i b, A b → A { b with input := some i }) :
    Steady A where
  publish respond b hb := by rwa [step_publish_of_ne respond (hpublish b hb)]
  signal respond x b hb := by
    rw [step_signal_of_ne respond]
    · exact hb
    · rcases hstate b hb with h | h <;> simp [h]
  abort respond d b hb := Or.inr (step_abort_doomed respond d (hstate b hb))
  flag := hflag
  submit := hsubmit

theorem Writing.steady (request : List Byte) (ending : Bool) : Steady (Writing request ending) :=
  .of_state (fun _ hb => Or.inl hb.state) (fun b hb h => by simp [hb.state] at h)
    (fun _ _ hb => ⟨hb.state, hb.request, hb.ending, hb.failed⟩)
    (fun _ _ hb => ⟨hb.state, hb.request, hb.ending, hb.failed⟩)

theorem Quiet.steady (request : List Byte) (ending : Bool) : Steady (Quiet request ending) :=
  .of_state (fun _ hb => Or.inl hb.state) (fun b hb h => by simp [hb.state] at h)
    (fun _ _ hb => ⟨⟨hb.state, hb.request, hb.ending, hb.failed⟩, hb.obf⟩)
    (fun _ _ hb => ⟨⟨hb.state, hb.request, hb.ending, hb.failed⟩, hb.obf⟩)

theorem Offered.steady (x : Byte) (xs : List Byte) : Steady (Offered x xs) :=
  .of_state (fun _ hb => Or.inr hb.state) (fun b hb h => by simp [hb.ready] at h)
    (fun _ _ hb => ⟨hb.state, hb.failed, hb.ready, hb.obf, hb.dataOut, hb.response⟩)
    (fun _ _ hb => ⟨hb.state, hb.failed, hb.ready, hb.obf, hb.dataOut, hb.response⟩)

theorem Drained.steady (xs : List Byte) : Steady (Drained xs) :=
  .of_state (fun _ hb => Or.inr hb.state) (fun b hb h => by simp [hb.ready] at h)
    (fun _ _ hb => ⟨hb.state, hb.failed, hb.ready, hb.obf, hb.response⟩)
    (fun _ _ hb => ⟨hb.state, hb.failed, hb.ready, hb.obf, hb.response⟩)

theorem Over.steady : Steady Over where
  publish respond b hb := by
    rw [step_publish_of_ne respond (by simp [hb.state])]
    exact hb
  signal respond x b hb := by
    simp only [Bmc.step, hb.state, if_true]
    exact ⟨rfl, hb.failed⟩
  abort respond d b hb := by
    simp only [Bmc.step, hb.state, reduceCtorEq, or_self, if_false]
    exact Or.inl hb
  flag _ _ hb := ⟨hb.state, hb.failed⟩
  submit _ _ hb := ⟨hb.state, hb.failed⟩

/-- The BMC does not leave IDLE by itself. -/
theorem Over.abort (respond : List Byte → List Byte) (d : Option Byte) {b : Bmc} (h : Over b) :
    Over (b.step respond (.abort d)) := by
  simp only [Bmc.step, h.state, reduceCtorEq, or_self, if_false]
  exact h

theorem Offering.steady (rest : List Byte) : Steady (Offering rest) where
  publish respond b hb := by
    cases hb with
    | done hs hf =>
      rw [step_publish_of_ne respond (by simp [hs])]
      exact .done hs hf
    | waiting hs hf hr ho hrest =>
      simp only [Bmc.step, hrest, hs, hr, ho, and_self, if_true]
      exact .out rfl hf rfl rfl rfl rfl
    | out hs hf hr ho hd hrest =>
      rw [step_publish_of_ne respond (by simp [hr])]
      exact .out hs hf hr ho hd hrest
  signal respond x b hb := by
    cases hb with
    | done hs hf =>
      simp only [Bmc.step, hs, if_true]
      exact .done rfl hf
    | waiting hs hf hr ho hrest =>
      rw [step_signal_of_ne respond (by simp [hs])]
      exact .waiting hs hf hr ho hrest
    | out hs hf hr ho hd hrest =>
      rw [step_signal_of_ne respond (by simp [hs])]
      exact .out hs hf hr ho hd hrest
  abort respond d b hb := by
    cases hb with
    | done hs hf =>
      left
      simp only [Bmc.step, hs, reduceCtorEq, or_self, if_false]
      exact .done hs hf
    | waiting hs => exact Or.inr (step_abort_doomed respond d (Or.inr hs))
    | out hs => exact Or.inr (step_abort_doomed respond d (Or.inr hs))
  flag x b hb := by
    cases hb with
    | done hs hf => exact .done hs hf
    | waiting hs hf hr ho hrest => exact .waiting hs hf hr ho hrest
    | out hs hf hr ho hd hrest => exact .out hs hf hr ho hd hrest
  submit i b hb := by
    cases hb with
    | done hs hf => exact .done hs hf
    | waiting hs hf hr ho hrest => exact .waiting hs hf hr ho hrest
    | out hs hf hr ho hd hrest => exact .out hs hf hr ho hd hrest

/-! ### From one phase to the next -/

section Take
variable {respond : List Byte → List Byte} {d : Option Byte} {b : Bmc} {request : List Byte}

theorem step_take {i : Input} (hi : b.input = some i) : b.step respond (.take d)
    = { b with input := none, taken := b.taken ++ [i] }.receive respond i d := by simp only [Bmc.step, hi]

/-- A `WRITE_START` begins a request, whatever went before. -/
theorem writing_of_writeStart (hi : b.input = some writeStart) :
    Writing [] false (b.step respond (.take d)) := by
  rw [step_take hi, Bmc.receive, if_pos rfl]
  exact ⟨by simp, by simp, by simp, by simp⟩

theorem Writing.take_data {x : Byte} (h : Writing request false b) (hi : b.input = some (dataByte x)) :
    Writing (request ++ [x]) false (b.step respond (.take d)) := by
  rw [step_take hi, Bmc.receive, if_neg (by simp [dataByte, writeStart])]
  simp only [h.state, dataByte, h.ending, h.request, Bool.false_eq_true, if_false]
  exact ⟨by simp, by simp, by simp, by simp [h.failed]⟩

theorem Writing.take_end (h : Writing request false b) (hi : b.input = some writeEnd) :
    Writing request true (b.step respond (.take d)) := by
  rw [step_take hi, Bmc.receive, if_neg (by decide)]
  simp only [h.state, writeEnd, h.ending, and_self, if_true]
  exact ⟨by simp, by simp [h.request], by simp, by simp [h.failed]⟩

/-- One more byte of the response, or none left. -/
theorem offering_next {rest : List Byte} (hr : b.response = rest) (hf : b.failed = false)
    (ho : b.obf = false) : Offering rest b.next := by
  cases rest with
  | nil =>
    simp only [Bmc.next, hr]
    exact .done rfl hf
  | cons x xs =>
    simp only [Bmc.next, hr]
    exact .waiting rfl hf rfl ho rfl

/-- With the last byte of the request the response is there. -/
theorem Quiet.take_last {x : Byte} (h : Quiet request true b) (hi : b.input = some (dataByte x)) :
    Offering (respond (request ++ [x])) (b.step respond (.take d)) := by
  rw [step_take hi, Bmc.receive, if_neg (by simp [dataByte, writeStart])]
  simp only [h.state, dataByte, h.ending, h.request, if_true]
  exact offering_next rfl h.failed h.obf

theorem Drained.take_next {xs : List Byte} (h : Drained xs b) (hi : b.input = some readNext) :
    Offering xs (b.step respond (.take d)) := by
  rw [step_take hi, Bmc.receive, if_neg (by decide)]
  simp only [h.state, readNext, h.obf, and_self, if_true]
  exact offering_next h.response h.failed rfl

end Take

end FreeIpmi.Kcs
