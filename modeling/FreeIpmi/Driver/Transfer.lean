import FreeIpmi.Driver.Phases

/-! A KCS transfer, against every BMC and every delay.

    The driver waits for `IBF` before each byte it writes, so no byte is lost, and the BMC is in ERROR
    for the rest of the transfer once it got there, so the test of the state at the end finds it. What
    is not noticed is a response longer than the buffer: the loop stops counting at `buf_len`, and the
    comparison after it never holds. -/

namespace FreeIpmi.Kcs
open Interference

/-! ### What holds between two accesses -/

/-- The BMC took everything in `h`, and is in this phase or the transfer is doomed. -/
structure Phase (A : Bmc → Prop) (h : List Input) (b : Bmc) : Prop where
  handed : b.handed = h
  input : b.input = none
  phase : A b ∨ Doomed b

/-- An input is on its way from one phase to the next. -/
structure Sent (i : Input) (A B : Bmc → Prop) (h : List Input) (b : Bmc) : Prop where
  handed : b.handed = h
  phase : (b.input = some i ∧ (A b ∨ Doomed b)) ∨ (b.input = none ∧ (B b ∨ Doomed b))

variable {env : Env} {A B : Bmc → Prop} {h : List Input} {b : Bmc} {i : Input}

theorem Steady.step (hA : Steady A) (a : Action) (hb : A b ∨ Doomed b)
    (ha : b.input = none ∨ ∀ d, a ≠ .take d) :
    A (b.step env.respond a) ∨ Doomed (b.step env.respond a) := by
  have keep {B : Bmc → Prop} (hB : Steady B) (hb : B b) :
      B (b.step env.respond a) ∨ Doomed (b.step env.respond a) := by
    cases a with
    | take d =>
      rcases ha with ha | ha
      · rw [step_take_none _ _ ha]
        exact Or.inl hb
      · exact absurd rfl (ha d)
    | publish => exact Or.inl (hB.publish _ b hb)
    | signal x => exact Or.inl (hB.signal _ x b hb)
    | abort d => exact hB.abort _ d b hb
    | flag x => exact Or.inl (hB.flag x b hb)
  rcases hb with hb | hb
  · exact keep hA hb
  · exact Or.inr ((keep Doomed.steady hb).elim id id)

theorem Phase.stable (hA : Steady A) : Stable env.peer (Phase A h) := by
  intro a b hb
  exact {
    handed := (step_handed env.respond a b).trans hb.handed
    input := step_input env.respond a hb.input
    phase := hA.step a hb.phase (Or.inl hb.input) }

/-- While the input waits nothing changes; when it is taken the next phase begins. -/
theorem Sent.stable (hA : Steady A) (hB : Steady B) (htake : ∀ d b, b.input = some i → A b ∨ Doomed b →
      B (b.step env.respond (.take d)) ∨ Doomed (b.step env.respond (.take d))) :
    Stable env.peer (Sent i A B h) := by
  intro a b hb
  refine ⟨(step_handed env.respond a b).trans hb.handed, ?_⟩
  rcases hb.phase with ⟨hi, hp⟩ | ⟨hi, hp⟩
  · by_cases ha : ∃ d, a = .take d
    · obtain ⟨d, rfl⟩ := ha
      right
      refine ⟨?_, htake d b hi hp⟩
      change (b.step env.respond (.take d)).input = none
      rw [step_take hi, (receive_frame env.respond _ i d).1]
    · left
      have ha' : ∀ d, a ≠ .take d := fun d hd => ha ⟨d, hd⟩
      refine ⟨?_, hA.step a hp (Or.inr ha')⟩
      exact (step_input_of_ne env.respond ha').trans hi
  · right
    exact ⟨step_input env.respond a hi, hB.step a hp (Or.inl hi)⟩

/-- An input other than `WRITE_START` does not save a doomed transfer. -/
theorem take_or_doomed (hne : i ≠ writeStart)
    (htake : ∀ d b, A b → b.input = some i → B (b.step env.respond (.take d))) :
    ∀ d b, b.input = some i → A b ∨ Doomed b →
      B (b.step env.respond (.take d)) ∨ Doomed (b.step env.respond (.take d)) := by
  intro d b hi hb
  rcases hb with hb | hb
  · exact Or.inl (htake d b hb hi)
  · exact Or.inr (hb.take hi hne)

/-! ### The driver's accesses -/

variable {P : Bmc → Prop} {F : List Input → Prop}

/-- The call returns `-1`, and what the BMC was handed has `F`. -/
def Fails (F : List Input → Prop) (e : Halt) (b : Bmc) : Prop := e ≠ .rounds ∧ F b.handed

section Accesses
variable {E : Halt → Bmc → Prop}

theorem triple_getStatus (hP : Stable env.peer P) :
    Triple P (ipmiKcsGetStatus env) (fun s b => s = b.status ∧ P b) E := by
  unfold ipmiKcsGetStatus inbStatus
  exact Triple.access hP fun _ hb => ⟨rfl, hb⟩

theorem triple_readByte {Q : Byte → Bmc → Prop} (hP : Stable env.peer P)
    (h : ∀ b, P b → Q b.dataOut { b with obf := false }) : Triple P (ipmiKcsReadByte env) Q E := by
  unfold ipmiKcsReadByte inbData
  exact Triple.access hP h

theorem triple_outb {r : Register} {x : Byte} {Q : Unit → Bmc → Prop} (hP : Stable env.peer P)
    (h : ∀ b, P b → Q () { b with input := some ⟨r, x⟩ }) : Triple P (outb env r x) Q E := by
  unfold outb
  exact Triple.access hP h

theorem triple_testIfState {s : Byte} {Q : Bool → Bmc → Prop} (hP : Stable env.peer P)
    (h : ∀ b, P b → Q (b.state.bits == s &&& statusRegState) b) :
    Triple P (ipmiKcsTestIfState env s) Q E := by
  refine (triple_getStatus hP).bind fun a => Triple.pure fun b hb => ?_
  rw [hb.1, status_state]
  exact h b hb.2

theorem triple_clearObf {Q : Unit → Bmc → Prop} (hP : Stable env.peer P)
    (hclear : ∀ b, P b → b.obf = false → Q () b) (hread : ∀ b, P b → Q () { b with obf := false }) :
    Triple P (ipmiKcsClearObf env) Q E := by
  refine (triple_getStatus hP).bind fun s => ?_
  refine Triple.ite (fun hs => ?_) fun hs => ?_
  · have hbyte : Triple P (ipmiKcsReadByte env) (fun _ => Q ()) E := triple_readByte hP hread
    exact (hbyte.pre fun b hb => hb.2).bind fun _ => Triple.pure fun b hb => hb
  · refine Triple.pure fun b hb => hclear b hb.2 ?_
    have hobf : (b.status &&& statusRegObf != 0) = b.obf := status_obf b
    rw [← hb.1] at hobf
    rw [← hobf, bne_eq_false_iff_eq]
    exact not_not.mp hs

end Accesses

theorem triple_waitForIbfClear {Q : Unit → Bmc → Prop} (hP : Stable env.peer P)
    (hF : ∀ b, P b → F b.handed) (h : ∀ b, P b → b.input = none → Q () b) :
    Triple P (ipmiKcsWaitForIbfClear env) Q (Fails F) := by
  refine Triple.clock.bind fun start => Triple.poll ?_ ?_ _
  · refine (triple_getStatus hP).post fun s b hb => ⟨hb.2, fun hs => h b hb.2 ?_⟩
    rw [hb.1, status_ibf] at hs
    exact Option.isNone_iff_eq_none.mp hs
  · intro b hb
    exact ⟨by simp, hF b hb⟩

theorem triple_waitForObfSet {Q : Unit → Bmc → Prop} (hP : Stable env.peer P)
    (hF : ∀ b, P b → F b.handed) (h : ∀ b, P b → b.obf = true → Q () b) :
    Triple P (ipmiKcsWaitForObfSet env) Q (Fails F) := by
  refine Triple.clock.bind fun start => Triple.poll ?_ ?_ _
  · refine (triple_getStatus hP).post fun s b hb => ⟨hb.2, fun hs => h b hb.2 ?_⟩
    rwa [hb.1, status_obf] at hs
  · intro b hb
    exact ⟨by simp, hF b hb⟩

/-! ### Writing the request -/

@[simp] theorem bits_beq_write (s : State) :
    (s.bits == stateWrite &&& statusRegState) = decide (s = .write) := by cases s <;> rfl

@[simp] theorem bits_beq_read (s : State) :
    (s.bits == stateRead &&& statusRegState) = decide (s = .read) := by cases s <;> rfl

@[simp] theorem bits_beq_idle (s : State) :
    (s.bits == stateIdle &&& statusRegState) = decide (s = .idle) := by cases s <;> rfl

/-- What the BMC is handed for a request. -/
def transferInputs (request : List Byte) : List Input :=
  writeStart :: request.dropLast.map dataByte ++ writeEnd :: request.getLast?.toList.map dataByte

theorem transferInputs_concat (init : List Byte) (last : Byte) : transferInputs (init ++ [last])
    = writeStart :: init.map dataByte ++ [writeEnd, dataByte last] := by simp [transferInputs]

theorem Phase.submit {r : Register} {x : Byte} (hA : Steady A) (hb : Phase A h b) :
    Sent ⟨r, x⟩ A B (h ++ [⟨r, x⟩]) { b with input := some ⟨r, x⟩ } where
  handed := by
    have hh := hb.handed
    rw [Bmc.handed, hb.input] at hh
    simpa [Bmc.handed] using hh
  phase := by
    left
    refine ⟨rfl, ?_⟩
    rcases hb.phase with hp | hp
    · exact Or.inl (hA.submit _ b hp)
    · exact Or.inr (Doomed.steady.submit _ b hp)

theorem triple_submit {r : Register} {x : Byte} {E : Halt → Bmc → Prop} (hA : Steady A) :
    Triple (Phase A h) (outb env r x) (fun _ => Sent ⟨r, x⟩ A B (h ++ [⟨r, x⟩])) E :=
  triple_outb (Phase.stable hA) fun _ hb => hb.submit hA

theorem Sent.taken (hb : Sent i A B h b) (hi : b.input = none) : Phase B h b := by
  rcases hb.phase with ⟨hi', -⟩ | ⟨-, hp⟩
  · simp [hi] at hi'
  · exact ⟨hb.handed, hi, hp⟩

/-- Once the dummy byte is tossed there is none until the next input is taken. -/
theorem Phase.quiet {request : List Byte} {ending : Bool} (hb : Phase (Writing request ending) h b)
    (ho : b.obf = false) : Phase (Quiet request ending) h b :=
  ⟨hb.handed, hb.input, hb.phase.imp_left fun hw => ⟨hw, ho⟩⟩

theorem Phase.clear {request : List Byte} {ending : Bool} (hb : Phase (Writing request ending) h b) :
    Phase (Quiet request ending) h { b with obf := false } where
  handed := hb.handed
  input := hb.input
  phase := hb.phase.imp (fun hw => ⟨⟨hw.state, hw.request, hw.ending, hw.failed⟩, rfl⟩)
    fun hd => ⟨hd.state, hd.failed⟩

theorem triple_settleWrite {request : List Byte} {ending : Bool} (hA : Steady A) (hF : F h)
    (htake : ∀ d b, b.input = some i → A b ∨ Doomed b →
      Writing request ending (b.step env.respond (.take d)) ∨ Doomed (b.step env.respond (.take d))) :
    Triple (Sent i A (Writing request ending) h) (settleWrite env)
      (fun _ => Phase (Quiet request ending) h) (Fails F) := by
  have hW := Writing.steady request ending
  have hstable : Stable env.peer (Phase (Writing request ending) h) := Phase.stable hW
  refine (triple_waitForIbfClear (Q := fun _ => Phase (Writing request ending) h)
    (Sent.stable hA hW htake) (fun b hb => hb.handed ▸ hF) fun b hb hi => hb.taken hi).bind fun _ => ?_
  refine (triple_testIfState (Q := fun _ => Phase (Writing request ending) h) hstable
    fun b hb => hb).bind fun r => ?_
  refine (Triple.failIf fun b _ hb => ⟨by simp, hb.handed ▸ hF⟩).bind fun _ => ?_
  exact (triple_clearObf hstable (fun b hb ho => hb.quiet ho) fun b hb => hb.clear).pre fun b hb => hb.2

/-- What the BMC may have been handed when the writing of a request ends. -/
def Begun (h : List Input) (request : List Byte) (l : List Input) : Prop :=
  ∃ t, t <+: transferInputs request ∧ l = h ++ t

theorem begun_of_prefix {init sent rest : List Byte} {last : Byte} (hinit : init = sent ++ rest) :
    Begun h (init ++ [last]) (h ++ writeStart :: sent.map dataByte) := by
  refine ⟨_, ?_, rfl⟩
  rw [transferInputs_concat, hinit]
  simp [List.prefix_append]

/-- The loop of the write hands over all bytes but the last. -/
theorem triple_writeLoop {init : List Byte} {last : Byte} : ∀ (rest sent : List Byte) (count : ℕ),
    init = sent ++ rest →
    Triple (Phase (Quiet sent false) (h ++ writeStart :: sent.map dataByte))
      (writeLoop env (rest ++ [last]) count)
      (fun r b => r = ([last], count + rest.length)
        ∧ Phase (Quiet init false) (h ++ writeStart :: init.map dataByte) b)
      (Fails (Begun h (init ++ [last]))) := by
  intro rest
  induction rest with
  | nil =>
    intro sent count hinit
    rw [List.append_nil] at hinit
    subst hinit
    exact Triple.pure fun b hb => ⟨rfl, hb⟩
  | cons x rest ih =>
    intro sent count hinit
    obtain ⟨y, ys, hy⟩ := List.exists_cons_of_ne_nil (List.append_ne_nil_of_right_ne_nil rest
      (List.cons_ne_nil last []))
    rw [List.cons_append, hy, writeLoop]
    have hinit' : init = (sent ++ [x]) ++ rest := by rw [hinit]; simp
    have hsent : h ++ writeStart :: sent.map dataByte ++ [dataByte x]
        = h ++ writeStart :: (sent ++ [x]).map dataByte := by simp
    have hQ := Quiet.steady sent false
    refine (triple_submit (B := Writing (sent ++ [x]) false) hQ).bind fun _ => ?_
    refine Triple.bind (Q := fun _ => Phase (Quiet (sent ++ [x]) false)
      (h ++ writeStart :: (sent ++ [x]).map dataByte)) ?_ fun _ => ?_
    · rw [← hsent]
      refine triple_settleWrite hQ (hsent ▸ begun_of_prefix hinit') (take_or_doomed ?_ ?_)
      · simp [writeStart]
      · intro d b hb hi
        exact hb.toWriting.take_data hi
    · have hrec := ih (sent ++ [x]) (count + 1) hinit'
      rw [hy] at hrec
      refine hrec.post fun r b hb => ⟨?_, hb.2⟩
      rw [hb.1, List.length_cons, Nat.add_assoc, Nat.add_comm 1]

/-- The last byte is on its way, or its response. -/
abbrev Answering (respond : List Byte → List Byte) (init : List Byte) (last : Byte) :
    List Input → Bmc → Prop :=
  Sent (dataByte last) (Quiet init true) (Offering (respond (init ++ [last])))

theorem Answering.stable {init : List Byte} {last : Byte} :
    Stable env.peer (Answering env.respond init last h) := by
  refine Sent.stable (Quiet.steady init true) (Offering.steady _) (take_or_doomed ?_ ?_)
  · simp [dataByte, writeStart]
  · intro d b hb hi
    exact hb.take_last hi

theorem triple_ipmiKcsWrite (init : List Byte) (last : Byte) :
    Triple (fun b => b.handed = h) (ipmiKcsWrite env (init ++ [last]))
      (fun count b => count = (init ++ [last]).length ∧ count ≤ intMax
        ∧ Answering env.respond init last (h ++ transferInputs (init ++ [last])) b)
      (Fails (Begun h (init ++ [last]))) := by
  have hstable : Stable env.peer fun b => b.handed = h := fun a b hb =>
    (step_handed env.respond a b).trans hb
  have hnone : Begun h (init ++ [last]) h := ⟨[], List.nil_prefix, by simp⟩
  have hfail {e : KcsErr} : ∀ b : Bmc, b.handed = h → Fails (Begun h (init ++ [last])) (.err e) b :=
    fun b hb => ⟨by simp, hb ▸ hnone⟩
  have hend : h ++ transferInputs (init ++ [last])
      = h ++ writeStart :: init.map dataByte ++ [writeEnd] ++ [dataByte last] := by
    rw [transferInputs_concat]
    simp
  have hended : Begun h (init ++ [last]) (h ++ writeStart :: init.map dataByte ++ [writeEnd]) := by
    refine ⟨writeStart :: init.map dataByte ++ [writeEnd], ?_, by simp⟩
    rw [transferInputs_concat]
    exact ⟨[dataByte last], by simp⟩
  have hstart : Begun h (init ++ [last]) (h ++ [writeStart]) :=
    begun_of_prefix (List.nil_append init).symm
  unfold ipmiKcsWrite
  refine (Triple.failIf fun b _ hb => hfail b hb).bind fun _ => ?_
  refine (Triple.failIf fun b _ hb => hfail b hb.2).bind fun _ => ?_
  refine (Triple.failIf fun b _ hb => hfail b hb.2.2).bind fun _ => ?_
  -- the interface is taken over in whatever state it is
  refine Triple.bind (Q := fun _ => Phase (fun _ => True) h) ?_ fun _ => ?_
  · refine (triple_waitForIbfClear hstable (fun b hb => hb ▸ hnone) fun b hb hi =>
      (⟨hb, hi, Or.inl trivial⟩ : Phase (fun _ => True) h b)).pre fun b hb => hb.2.2.2
  refine Triple.bind (Q := fun _ => Phase (fun _ => True) h) ?_ fun _ => ?_
  · exact triple_clearObf (Phase.stable Steady.anything) (fun b hb _ => hb)
      fun b hb => ⟨hb.handed, hb.input, Or.inl trivial⟩
  refine (triple_submit (B := Writing [] false) Steady.anything).bind fun _ => ?_
  refine (triple_settleWrite Steady.anything hstart fun d b hi _ =>
    Or.inl (writing_of_writeStart hi)).bind fun _ => ?_
  -- all bytes but the last, the announcement, and the last byte
  refine (triple_writeLoop init [] 0 rfl).bind fun r => Triple.assume fun hr => ?_
  subst hr
  have hQ := Quiet.steady init
  refine (triple_submit (B := Writing init true) (hQ false)).bind fun _ => ?_
  refine (triple_settleWrite (hQ false) hended (take_or_doomed (by decide) fun d b hb hi =>
    hb.toWriting.take_end hi)).bind fun _ => ?_
  refine (triple_submit (B := Offering (env.respond (init ++ [last]))) (hQ true)).bind fun _ => ?_
  refine (Triple.failIf fun b _ hb =>
    ⟨by simp, _, List.prefix_rfl, hb.handed.trans hend.symm⟩).bind fun _ => ?_
  refine Triple.pure fun b hb => ⟨by simp, not_lt.mp hb.1, ?_⟩
  rw [hend]
  exact hb.2

/-! ### Reading the response -/

/-- What the BMC may have been handed while its response is read. -/
def Asked (h l : List Input) : Prop := ∃ k, l = h ++ List.replicate k readNext

/-- A byte is kept while the buffer has room for it. -/
theorem take_concat_of_room (done : List Byte) (x : Byte) (n : ℕ) :
    (if (done.take n).length < n then done.take n ++ [x] else done.take n) = (done ++ [x]).take n := by
  rw [List.length_take]
  split
  · rw [List.take_of_length_le (by omega), List.take_of_length_le (by simp; omega)]
  · rw [List.take_append_of_le_length (by omega)]

theorem Offering.ne_nil {rest : List Byte} (hb : Offering rest b) (hs : b.state = .read) : rest ≠ [] := by
  cases hb with
  | done hidle => simp [hs] at hidle
  | waiting => simp
  | out => simp

theorem Offering.eq_nil {rest : List Byte} (hb : Offering rest b) (hs : b.state ≠ .read) :
    rest = [] ∧ Over b := by
  cases hb with
  | done hidle hf => exact ⟨rfl, hidle, hf⟩
  | waiting hread => exact absurd hread hs
  | out hread => exact absurd hread hs

theorem Offering.offered {x : Byte} {xs : List Byte} (hb : Offering (x :: xs) b) (ho : b.obf = true) :
    Offered x xs b := by
  cases hb with
  | waiting hs hf hr ho' => simp [ho] at ho'
  | out hs hf hr _ hd hrest => exact ⟨hs, hf, hr, ho, hd, hrest⟩

theorem Offered.drained {x : Byte} {xs : List Byte} (hb : Offered x xs b) :
    b.dataOut = x ∧ Drained xs { b with obf := false } :=
  ⟨hb.dataOut, hb.state, hb.failed, hb.ready, rfl, hb.response⟩

theorem Phase.imp (hb : Phase A h b) (hAB : A b → B b) : Phase B h b :=
  ⟨hb.handed, hb.input, hb.phase.imp_left hAB⟩

/-- The byte in the output register is read. -/
theorem Phase.drain {B : Byte → Bmc → Prop} (hb : Phase A h b)
    (hAB : A b → B b.dataOut { b with obf := false }) :
    Phase (B b.dataOut) h { b with obf := false } :=
  ⟨hb.handed, hb.input, hb.phase.imp hAB fun hd => ⟨hd.state, hd.failed⟩⟩

/-- The loop of the read keeps the bytes of the response that fit. -/
theorem triple_readLoop {n : ℕ} : ∀ (rounds : ℕ) (done rest p : List Byte), rest.length < rounds →
    Triple (Phase (fun b => Offering rest b ∧ p = done.take n)
        (h ++ List.replicate done.length readNext))
      (readLoop env n rounds p)
      (fun p' b => ∃ k, Phase (fun b => Over b ∧ k = (done ++ rest).length ∧ p' = (done ++ rest).take n)
        (h ++ List.replicate k readNext) b)
      (Fails (Asked h)) := by
  intro rounds
  induction rounds with
  | zero => intro done rest p hrounds; omega
  | succ rounds ih =>
    intro done rest p hrounds
    have hF : ∀ {B : Bmc → Prop} b, Phase B (h ++ List.replicate done.length readNext) b →
        Asked h b.handed := fun b hb => ⟨_, hb.handed⟩
    have hstable : Stable env.peer (Phase (fun b => Offering rest b ∧ p = done.take n)
        (h ++ List.replicate done.length readNext)) := Phase.stable ((Offering.steady rest).and_const _)
    rw [readLoop]
    refine Triple.bind (Q := fun r b => (r = true ↔ b.state = .read)
      ∧ Phase (fun b => Offering rest b ∧ p = done.take n)
        (h ++ List.replicate done.length readNext) b) ?_ fun r => Triple.ite (fun hr => ?_) fun hr => ?_
    · refine triple_testIfState hstable fun b hb => ⟨?_, hb⟩
      rw [bits_beq_read, decide_eq_true_iff]
    · -- in the state READ there is a byte to come
      rcases rest with - | ⟨x, xs⟩
      · refine fun w hw => ?_
        have hs := hw.1.mp hr
        rcases hw.2.phase with hp | hp
        · exact absurd rfl (hp.1.ne_nil hs)
        · simp [hp.state] at hs
      · refine Triple.bind (Q := fun _ => Phase (fun b => Offered x xs b ∧ p = done.take n)
          (h ++ List.replicate done.length readNext)) ?_ fun _ => ?_
        · refine (triple_waitForObfSet hstable hF fun b hb ho => ?_).pre fun b hb => hb.2
          exact hb.imp fun hp => ⟨hp.1.offered ho, hp.2⟩
        refine Triple.bind (Q := fun c => Phase (fun b => Drained xs b ∧ (c = x ∧ p = done.take n))
          (h ++ List.replicate done.length readNext)) ?_ fun c => ?_
        · refine triple_readByte (Phase.stable ((Offered.steady x xs).and_const _)) fun b hb => ?_
          exact hb.drain (B := fun c b => Drained xs b ∧ (c = x ∧ p = done.take n)) fun hp =>
            ⟨hp.1.drained.2, hp.1.drained.1, hp.2⟩
        have hD : Steady fun b => Drained xs b ∧ (c = x ∧ p = done.take n) :=
          (Drained.steady xs).and_const _
        have hO : Steady fun b => Offering xs b ∧ (c = x ∧ p = done.take n) :=
          (Offering.steady xs).and_const _
        have hsent : h ++ List.replicate done.length readNext ++ [readNext]
            = h ++ List.replicate (done ++ [x]).length readNext := by
          rw [List.length_append, List.length_singleton, List.replicate_succ', List.append_assoc]
        refine (triple_submit (B := fun b => Offering xs b ∧ (c = x ∧ p = done.take n)) hD).bind
          fun _ => ?_
        refine Triple.bind (Q := fun _ => Phase (fun b => Offering xs b ∧ (c = x ∧ p = done.take n))
          (h ++ List.replicate (done ++ [x]).length readNext)) ?_ fun _ => ?_
        · have htake (d : Option Byte) (b : Bmc)
              (hb : Drained xs b ∧ (c = x ∧ p = done.take n)) (hi : b.input = some readNext) :
              Offering xs (b.step env.respond (.take d)) ∧ (c = x ∧ p = done.take n) :=
            ⟨hb.1.take_next hi, hb.2⟩
          have hne : readNext ≠ writeStart := by decide
          have hstable' := Sent.stable (h := h ++ List.replicate done.length readNext ++ [readNext])
            hD hO (take_or_doomed (A := fun b => Drained xs b ∧ (c = x ∧ p = done.take n))
              (B := fun b => Offering xs b ∧ (c = x ∧ p = done.take n)) hne htake)
          refine triple_waitForIbfClear hstable' ?_ ?_
          · intro b hb
            exact ⟨_, hb.handed.trans hsent⟩
          · intro b hb hi
            rw [← hsent]
            exact hb.taken hi
        · have hrec := ih (done ++ [x]) xs (if p.length < n then p ++ [c] else p)
            (by simpa using hrounds)
          rw [List.append_assoc, List.singleton_append] at hrec
          refine hrec.pre fun b hb => hb.imp fun hp => ⟨hp.1, ?_⟩
          obtain ⟨rfl, rfl⟩ := hp.2
          exact take_concat_of_room done c n
    · refine Triple.pure fun b hb => ⟨done.length, hb.2.handed, hb.2.input, ?_⟩
      rcases hb.2.phase with hp | hp
      · obtain ⟨rfl, hover⟩ := hp.1.eq_nil fun hs => hr (hb.1.mpr hs)
        left
        rw [List.append_nil]
        exact ⟨hover, rfl, hp.2⟩
      · exact Or.inr hp

/-- The BMC stays in IDLE until the next request. -/
theorem over_stable {p : Prop} :
    Stable env.peer fun b => b.handed = h ∧ b.input = none ∧ Over b ∧ p := by
  rintro a b ⟨hh, hi, hover, hp⟩
  refine ⟨(step_handed env.respond a b).trans hh, step_input env.respond a hi, ?_, hp⟩
  rcases Over.steady.step a (Or.inl hover) (Or.inl hi) with h' | h'
  · exact h'
  · cases a with
    | take d => simpa [Env.peer, step_take_none _ _ hi] using hover
    | publish => exact Over.steady.publish env.respond b hover
    | signal x => exact Over.steady.signal env.respond x b hover
    | abort d => exact hover.abort env.respond d
    | flag x => exact Over.steady.flag x b hover

theorem triple_ipmiKcsRead {n rounds : ℕ} {init : List Byte} {last : Byte}
    (hrounds : (env.respond (init ++ [last])).length < rounds) :
    Triple (Answering env.respond init last h) (ipmiKcsRead env n rounds)
      (fun p b => p = (env.respond (init ++ [last])).take n ∧ n ≠ 0 ∧ p.length ≤ intMax ∧ b.failed = false
        ∧ b.handed = h ++ List.replicate (env.respond (init ++ [last])).length readNext)
      (Fails (Asked h)) := by
  have hF0 : ∀ b, Answering env.respond init last h b → Asked h b.handed :=
    fun b hb => ⟨0, by simpa using hb.handed⟩
  have hF : ∀ {B : Bmc → Prop} {k : ℕ} b, Phase B (h ++ List.replicate k readNext) b →
      Asked h b.handed := fun b hb => ⟨_, hb.handed⟩
  have hP0 : ∀ b, Phase (Offering (env.respond (init ++ [last]))) h b →
      Phase (fun b => Offering (env.respond (init ++ [last])) b ∧ ([] : List Byte) = List.take n [])
        (h ++ List.replicate 0 readNext) b := by
    intro b hb
    exact ⟨by simpa using hb.handed, hb.input, hb.phase.imp_left fun hp => ⟨hp, by simp⟩⟩
  unfold ipmiKcsRead
  refine (Triple.failIf fun b _ hb => ⟨by simp, hF0 b hb⟩).bind fun _ => Triple.assume fun hn => ?_
  refine (Triple.failIf fun b _ hb => ⟨by simp, hF0 b hb⟩).bind fun _ => ?_
  refine Triple.bind (Q := fun _ => Phase (Offering (env.respond (init ++ [last]))) h) ?_ fun _ => ?_
  · exact (triple_waitForIbfClear Answering.stable hF0 fun b hb hi => hb.taken hi).pre fun b hb => hb.2
  refine Triple.bind (Q := fun _ => Phase (Offering (env.respond (init ++ [last]))) h) ?_ fun r => ?_
  · exact triple_testIfState (Phase.stable (Offering.steady _)) fun b hb => hb
  refine (Triple.failIf fun b _ hb => ⟨by simp, hF b (hP0 b hb)⟩).bind fun _ => ?_
  refine ((triple_readLoop rounds [] _ [] hrounds).pre fun b hb => hP0 b hb.2).bind fun p => ?_
  refine Triple.exists fun k => ?_
  -- the test of the state ends a doomed transfer
  refine Triple.bind (Q := fun r b => (r = true ↔ b.state = .idle)
    ∧ Phase (fun b => Over b ∧ k = (env.respond (init ++ [last])).length
      ∧ p = (env.respond (init ++ [last])).take n) (h ++ List.replicate k readNext) b) ?_ fun r => ?_
  · refine triple_testIfState (Phase.stable (Over.steady.and_const _)) fun b hb => ⟨?_, hb⟩
    rw [bits_beq_idle, decide_eq_true_iff]
  refine (Triple.failIf fun b _ hb => ⟨by simp, hF b hb.2⟩).bind fun _ => ?_
  have hover : ∀ b, (¬ r = false ∧ (r = true ↔ b.state = .idle)
      ∧ Phase (fun b => Over b ∧ k = (env.respond (init ++ [last])).length
        ∧ p = (env.respond (init ++ [last])).take n) (h ++ List.replicate k readNext) b) →
      b.handed = h ++ List.replicate k readNext ∧ b.input = none ∧ Over b
        ∧ (k = (env.respond (init ++ [last])).length ∧ p = (env.respond (init ++ [last])).take n) := by
    rintro b ⟨hr, hidle, hb⟩
    have hs : b.state = .idle := hidle.mp (by simpa using hr)
    rcases hb.phase with hp | hp
    · exact ⟨hb.handed, hb.input, hp.1, hp.2⟩
    · simp [hp.state] at hs
  refine Triple.bind (Q := fun _ b => b.handed = h ++ List.replicate k readNext ∧ b.input = none
    ∧ Over b ∧ (k = (env.respond (init ++ [last])).length
      ∧ p = (env.respond (init ++ [last])).take n)) ?_ fun _ => ?_
  · exact (triple_waitForObfSet over_stable (fun b hb => ⟨k, hb.1⟩) fun b hb _ => hb).pre hover
  refine Triple.bind (Q := fun _ b => b.handed = h ++ List.replicate k readNext ∧ b.failed = false
    ∧ (k = (env.respond (init ++ [last])).length
      ∧ p = (env.respond (init ++ [last])).take n)) ?_ fun _ => ?_
  · exact triple_readByte over_stable fun b hb => ⟨hb.1, hb.2.2.1.failed, hb.2.2.2⟩
  refine (Triple.failIf fun b _ hb => ⟨by simp, k, hb.1⟩).bind fun _ => ?_
  refine (Triple.failIf fun b _ hb => ⟨by simp, k, hb.2.1⟩).bind fun _ => ?_
  refine Triple.pure fun b hb => ?_
  obtain ⟨hint, -, hh, hf, rfl, rfl⟩ := hb
  exact ⟨rfl, hn, not_lt.mp hint, hf, hh⟩

/-! ### Transfers -/

/-- What is asked of a request that is written and the response that is read for it. -/
structure Delivers (env : Env) (request : List Byte) (bufLen rounds : ℕ) (w : World Bmc) : Prop where
  -- the bytes of the request in order, `WRITE_END` before the last one, then only `READ`
  handed : ∃ k t, t <+: transferInputs request ++ List.replicate k readNext ∧
    ((transfer env request bufLen rounds).result w).2.device.handed = w.device.handed ++ t
  -- all of them once the write succeeds
  written : ∀ count w', (ipmiKcsWrite env request).result w = (.ok count, w') →
    count = request.length ∧ w'.device.handed = w.device.handed ++ transferInputs request
  -- a success is the whole response, of a transfer that was never in ERROR
  read : ∀ p w', (transfer env request bufLen rounds).result w = (.ok p, w') →
    p = env.respond request ∧ w'.device.failed = false ∧ w'.device.handed
      = w.device.handed ++ transferInputs request ++ List.replicate p.length readNext
  -- the loop of the read ends
  returns : ((transfer env request bufLen rounds).result w).1 ≠ .error .rounds

theorem triple_transfer {n rounds : ℕ} {init : List Byte} {last : Byte}
    (hrounds : (env.respond (init ++ [last])).length < rounds) :
    Triple (fun b => b.handed = h) (transfer env (init ++ [last]) n rounds)
      (fun p b => p = (env.respond (init ++ [last])).take n ∧ n ≠ 0 ∧ p.length ≤ intMax
        ∧ (init ++ [last]).length ≤ intMax ∧ b.failed = false
        ∧ b.handed = h ++ transferInputs (init ++ [last])
          ++ List.replicate (env.respond (init ++ [last])).length readNext)
      (Fails fun l => ∃ k t, t <+: transferInputs (init ++ [last]) ++ List.replicate k readNext
        ∧ l = h ++ t) := by
  unfold transfer
  refine Triple.bind (Q := fun count b => (init ++ [last]).length ≤ intMax
    ∧ Answering env.respond init last (h ++ transferInputs (init ++ [last])) b) ?_ fun count => ?_
  · refine (triple_ipmiKcsWrite init last).mono (fun _ hb => hb) (fun count b hb => ?_) fun e b he => ?_
    · exact ⟨hb.1 ▸ hb.2.1, hb.2.2⟩
    · obtain ⟨t, ht, hl⟩ := he.2
      exact ⟨he.1, 0, t, by simpa using ht, hl⟩
  · refine Triple.assume fun hlen => ?_
    refine (triple_ipmiKcsRead hrounds).mono (fun _ hb => hb) (fun p b hb => ?_) fun e b he => ?_
    · exact ⟨hb.1, hb.2.1, hb.2.2.1, hlen, hb.2.2.2.1, hb.2.2.2.2⟩
    · obtain ⟨k, hk⟩ := he.2
      exact ⟨he.1, k, _, List.prefix_rfl, by rw [hk, List.append_assoc]⟩

end FreeIpmi.Kcs
