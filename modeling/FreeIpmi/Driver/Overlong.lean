import FreeIpmi.Driver.Transfer

/-! A response longer than the buffer.

    With a BMC that acts at once every wait of the driver ends at its first look, and a transfer runs to
    its end. So whenever the response does not fit the buffer, and no other check refuses the call,
    `ipmi_kcs_read` succeeds with the bytes that did fit. -/

namespace FreeIpmi.Kcs
open Interference

/-- A BMC that takes each input and puts out each byte before the next access. -/
def promptEnv (respond : List Byte → List Byte) : Env where
  respond := respond
  schedule _ := [.take none, .publish, .signal 0]
  ioInit := true
  locks := true
  patience _ := 0
  gaveUp _ := .driverTimeout

variable {respond : List Byte → List Byte} {A B P : Bmc → Prop} {b : Bmc}

/-- What the prompt BMC does before an access. -/
def settle (respond : List Byte → List Byte) (b : Bmc) : Bmc :=
  ((b.step respond (.take none)).step respond .publish).step respond (.signal 0)

/-- Nothing is left to take, and the transfer is in this phase. -/
structure Now (A : Bmc → Prop) (b : Bmc) : Prop where
  input : b.input = none
  phase : A b

theorem Now.settle (hA : Steady A) (hb : Now A b) : Now A (settle respond b) := by
  rw [Kcs.settle, step_take_none _ _ hb.input]
  refine ⟨step_input _ _ (step_input _ _ hb.input), ?_⟩
  exact hA.signal _ _ _ (hA.publish _ _ hb.phase)

/-- The input that waits is taken. -/
theorem now_settle_of_take {i : Input} (hB : Steady B) (hi : b.input = some i)
    (htake : B (b.step respond (.take none))) : Now B (settle respond b) := by
  have hinput : (b.step respond (.take none)).input = none := by
    rw [step_take hi, (receive_frame respond _ i none).1]
  exact ⟨step_input _ _ (step_input _ _ hinput), hB.signal _ _ _ (hB.publish _ _ htake)⟩

/-- The next byte of the response is put out. -/
theorem Now.settle_offered {x : Byte} {xs : List Byte} (hb : Now (Offering (x :: xs)) b) :
    (Kcs.settle respond b).obf = true := by
  rw [Kcs.settle, step_take_none _ _ hb.input]
  have hpub : (b.step respond .publish).obf = true ∧ (b.step respond .publish).state = .read := by
    cases hb.phase with
    | waiting hs hf hr ho hrest =>
      simp only [Bmc.step, hrest, hs, hr, ho, and_self, if_true]
    | out hs hf hr ho hd hrest =>
      rw [step_publish_of_ne respond (by simp [hr])]
      exact ⟨ho, hs⟩
  rw [step_signal_of_ne respond (by simp [hpub.2])]
  exact hpub.1

theorem step_signal_of_idle (x : Byte) (h : b.state = .idle) : (b.step respond (.signal x)).obf = true := by
  simp only [Bmc.step, h, if_true]

/-- The dummy byte of the state IDLE is put out. -/
theorem Now.settle_over (hb : Now Over b) : (Kcs.settle respond b).obf = true := by
  have hover : Over ((b.step respond (.take none)).step respond .publish) := by
    rw [step_take_none _ _ hb.input]
    exact Over.steady.publish _ _ hb.phase
  exact step_signal_of_idle _ hover.state

/-! ### The driver's calls return -/

/-- The run does not fail. -/
def Never (_ : Halt) (_ : Bmc) : Prop := False

theorem prompt_getStatus (h : ∀ b, P b → A (settle respond b)) :
    Triple P (ipmiKcsGetStatus (promptEnv respond)) (fun s b => s = b.status ∧ A b) Never := by
  unfold ipmiKcsGetStatus inbStatus
  exact Triple.access_run fun n b hb => ⟨rfl, h b hb⟩

theorem prompt_outb {r : Register} {x : Byte} (h : ∀ b, P b → A (settle respond b)) (hA : Steady A) :
    Triple P (outb (promptEnv respond) r x) (fun _ b => b.input = some ⟨r, x⟩ ∧ A b) Never := by
  unfold outb
  exact Triple.access_run fun n b hb => ⟨rfl, hA.submit _ _ (h b hb)⟩

theorem prompt_readByte (h : ∀ b, P b → A { settle respond b with obf := false }) :
    Triple P (ipmiKcsReadByte (promptEnv respond)) (fun _ => A) Never := by
  unfold ipmiKcsReadByte inbData
  exact Triple.access_run fun n b hb => h b hb

theorem prompt_waitForIbfClear (h : ∀ b, P b → Now A (settle respond b)) :
    Triple P (ipmiKcsWaitForIbfClear (promptEnv respond)) (fun _ => Now A) Never := by
  refine Triple.clock.bind fun start => Triple.poll_once ?_ _
  refine (prompt_getStatus h).post fun s b hb => ⟨?_, hb.2⟩
  rw [hb.1, status_ibf, hb.2.input]
  rfl

theorem prompt_waitForObfSet (h : ∀ b, P b → (settle respond b).obf = true ∧ A (settle respond b)) :
    Triple P (ipmiKcsWaitForObfSet (promptEnv respond)) (fun _ b => b.obf = true ∧ A b) Never := by
  refine Triple.clock.bind fun start => Triple.poll_once ?_ _
  refine (prompt_getStatus h).post fun s b hb => ⟨?_, hb.2⟩
  rw [hb.1, status_obf, hb.2.1]

theorem prompt_testIfState {s : Byte} (h : ∀ b, P b → A (settle respond b)) :
    Triple P (ipmiKcsTestIfState (promptEnv respond) s)
      (fun r b => (r = (b.state.bits == s &&& statusRegState)) ∧ A b) Never := by
  refine (prompt_getStatus h).bind fun a => Triple.pure fun b hb => ?_
  rw [hb.1, status_state]
  exact ⟨rfl, hb.2⟩

theorem prompt_clearObf (h : ∀ b, P b → A (settle respond b))
    (hclear : ∀ b, A b → b.obf = false → B b) (hread : ∀ b, A b → B { settle respond b with obf := false }) :
    Triple P (ipmiKcsClearObf (promptEnv respond)) (fun _ => B) Never := by
  refine (prompt_getStatus h).bind fun s => Triple.ite (fun hs => ?_) fun hs => ?_
  · exact ((prompt_readByte hread).pre fun b hb => hb.2).bind fun _ => Triple.pure fun b hb => hb
  · refine Triple.pure fun b hb => hclear b hb.2 ?_
    have hobf : (b.status &&& statusRegObf != 0) = b.obf := status_obf b
    rw [← hb.1] at hobf
    rw [← hobf, bne_eq_false_iff_eq]
    exact not_not.mp hs

theorem prompt_settleWrite {request : List Byte} {ending : Bool}
    (h : ∀ b, P b → Now (Writing request ending) (settle respond b)) :
    Triple P (settleWrite (promptEnv respond)) (fun _ => Now (Quiet request ending)) Never := by
  have hW := Writing.steady request ending
  refine (prompt_waitForIbfClear h).bind fun _ => ?_
  refine (prompt_testIfState fun b hb => hb.settle hW).bind fun r => ?_
  refine (Triple.failIf fun b hr hb => ?_).bind fun _ => ?_
  · rw [hb.1, bits_beq_write, hb.2.phase.state] at hr
    simp at hr
  · refine (prompt_clearObf (A := Now (Writing request ending)) (fun b hb => ?_) ?_ ?_)
    · exact hb.2.2.settle hW
    · exact fun b hb ho => ⟨hb.input, hb.phase, ho⟩
    · intro b hb
      have hs : Now (Writing request ending) (settle respond b) := hb.settle hW
      exact ⟨hs.input, ⟨hs.phase.state, hs.phase.request, hs.phase.ending, hs.phase.failed⟩, rfl⟩

theorem prompt_writeLoop {last : Byte} (rest sent : List Byte) (count : ℕ) :
    Triple (Now (Quiet sent false)) (writeLoop (promptEnv respond) (rest ++ [last]) count)
      (fun r b => r = ([last], count + rest.length) ∧ Now (Quiet (sent ++ rest) false) b) Never := by
  induction rest generalizing sent count with
  | nil =>
    rw [List.append_nil]
    exact Triple.pure fun b hb => ⟨rfl, hb⟩
  | cons x rest ih =>
    obtain ⟨y, ys, hy⟩ := List.exists_cons_of_ne_nil (List.append_ne_nil_of_right_ne_nil rest
      (List.cons_ne_nil last []))
    have hQ := Quiet.steady sent false
    rw [List.cons_append, hy, writeLoop]
    refine (prompt_outb (fun b hb => (hb.settle hQ).phase) hQ).bind fun _ => ?_
    refine (prompt_settleWrite fun b hb => now_settle_of_take (Writing.steady (sent ++ [x]) false) hb.1
      (hb.2.toWriting.take_data hb.1)).bind fun _ => ?_
    have hrec := ih (sent ++ [x]) (count + 1)
    rw [hy, List.append_assoc, List.singleton_append] at hrec
    refine hrec.post fun r b hb => ⟨?_, hb.2⟩
    rw [hb.1, List.length_cons, Nat.add_assoc, Nat.add_comm 1]

theorem prompt_ipmiKcsWrite (init : List Byte) (last : Byte) (hlen : (init ++ [last]).length ≤ intMax) :
    Triple (fun b => b.input = none) (ipmiKcsWrite (promptEnv respond) (init ++ [last]))
      (fun _ b => b.input = some (dataByte last) ∧ Quiet init true b) Never := by
  have hnow : ∀ b : Bmc, b.input = none → Now (fun _ => True) (settle respond b) := fun b hb =>
    Now.settle Steady.anything ⟨hb, trivial⟩
  have hQ := Quiet.steady init
  unfold ipmiKcsWrite
  refine (Triple.failIf fun b hc _ => by simp at hc).bind fun _ => ?_
  refine (Triple.failIf fun b hc _ => by simp [promptEnv] at hc).bind fun _ => ?_
  refine (Triple.failIf fun b hc _ => by simp [promptEnv] at hc).bind fun _ => ?_
  refine (prompt_waitForIbfClear fun b hb => hnow b hb.2.2.2).bind fun _ => ?_
  refine (prompt_clearObf (B := Now fun _ => True) (fun b hb => hnow b hb.input) (fun _ hb _ => hb)
    fun b hb => ⟨(hnow b hb.input).input, trivial⟩).bind fun _ => ?_
  refine (prompt_outb (fun _ _ => trivial) Steady.anything).bind fun _ => ?_
  refine (prompt_settleWrite fun b hb => now_settle_of_take (Writing.steady [] false) hb.1
    (writing_of_writeStart hb.1)).bind fun _ => ?_
  refine (prompt_writeLoop init [] 0).bind fun r => Triple.assume fun hr => ?_
  subst hr
  refine (prompt_outb (fun b hb => (hb.settle (hQ false)).phase) (hQ false)).bind fun _ => ?_
  refine (prompt_settleWrite fun b hb => now_settle_of_take (Writing.steady init true) hb.1
    (hb.2.toWriting.take_end hb.1)).bind fun _ => ?_
  refine (prompt_outb (fun b hb => (hb.settle (hQ true)).phase) (hQ true)).bind fun _ => ?_
  refine (Triple.failIf fun b hc _ => ?_).bind fun _ => Triple.pure fun b hb => hb.2
  simp only [Nat.zero_add, List.length_append, List.length_singleton] at hc hlen
  omega

theorem prompt_readLoop {n : ℕ} (rounds : ℕ) (rest p : List Byte) (hrounds : rest.length < rounds)
    (hp : p.length ≤ n) : Triple (Now (Offering rest)) (readLoop (promptEnv respond) n rounds p)
      (fun p' b => p'.length ≤ n ∧ Now Over b) Never := by
  induction rounds generalizing rest p with
  | zero => omega
  | succ rounds ih =>
    rw [readLoop]
    have hO := Offering.steady rest
    refine (prompt_testIfState fun b hb => hb.settle hO).bind fun r => Triple.ite (fun hr => ?_) fun hr => ?_
    · rcases rest with - | ⟨x, xs⟩
      · intro w hw
        have hs := hw.1.symm.trans hr
        rw [bits_beq_read, decide_eq_true_iff] at hs
        exact absurd rfl (hw.2.phase.ne_nil hs)
      · refine (prompt_waitForObfSet (A := Now (Offering (x :: xs))) fun b hb =>
          ⟨hb.2.settle_offered, hb.2.settle hO⟩).bind fun _ => ?_
        refine (prompt_readByte (A := Now (Drained xs)) fun b hb => ?_).bind fun c => ?_
        · have hx : Now (Offered x xs) b := ⟨hb.2.input, hb.2.phase.offered hb.1⟩
          have hs : Now (Offered x xs) (settle respond b) := hx.settle (Offered.steady x xs)
          exact ⟨hs.input, hs.phase.drained.2⟩
        · have hD := Drained.steady xs
          refine (prompt_outb (fun b hb => (hb.settle hD).phase) hD).bind fun _ => ?_
          refine (prompt_waitForIbfClear fun b hb => now_settle_of_take (Offering.steady xs) hb.1
            (hb.2.take_next hb.1)).bind fun _ => ?_
          refine ih xs _ (by simpa using hrounds) ?_
          split
          · rw [List.length_append, List.length_singleton]
            omega
          · exact hp
    · refine Triple.pure fun b hb => ⟨hp, hb.2.input, ?_⟩
      refine (hb.2.phase.eq_nil fun hs => hr ?_).2
      rw [hb.1, hs]
      rfl

theorem prompt_ipmiKcsRead {n rounds : ℕ} {init : List Byte} {last : Byte}
    (hrounds : (respond (init ++ [last])).length < rounds) (hne : respond (init ++ [last]) ≠ [])
    (hpos : n ≠ 0) (hint : n ≤ intMax) :
    Triple (fun b => b.input = some (dataByte last) ∧ Quiet init true b)
      (ipmiKcsRead (promptEnv respond) n rounds) (fun _ _ => True) Never := by
  have hO := Offering.steady (respond (init ++ [last]))
  unfold ipmiKcsRead
  refine (Triple.failIf fun b hc _ => hpos hc).bind fun _ => ?_
  refine (Triple.failIf fun b hc _ => by simp [promptEnv] at hc).bind fun _ => ?_
  refine (prompt_waitForIbfClear fun b hb => now_settle_of_take hO hb.2.2.1
    (hb.2.2.2.take_last hb.2.2.1)).bind fun _ => ?_
  refine (prompt_testIfState fun b hb => hb.settle hO).bind fun r => ?_
  refine (Triple.failIf fun b hc hb => ?_).bind fun _ => ?_
  · rw [hb.1, bits_beq_read, decide_eq_false_iff_not] at hc
    exact hne (hb.2.phase.eq_nil hc).1
  refine ((prompt_readLoop rounds _ [] hrounds (Nat.zero_le n)).pre fun b hb => hb.2.2).bind fun p =>
    Triple.assume fun hp => ?_
  refine (prompt_testIfState fun b hb => hb.settle Over.steady).bind fun r' => ?_
  refine (Triple.failIf fun b hc hb => ?_).bind fun _ => ?_
  · rw [hb.1, hb.2.phase.state] at hc
    exact absurd hc (by decide)
  refine (prompt_waitForObfSet (A := fun _ => True) fun b hb =>
    ⟨hb.2.2.settle_over, trivial⟩).bind fun _ => ?_
  refine (prompt_readByte (A := fun _ => True) fun _ _ => trivial).bind fun _ => ?_
  refine (Triple.failIf fun b hc _ => ?_).bind fun _ => ?_
  · exact absurd hc (not_lt.mpr hp)
  refine (Triple.failIf fun b hc _ => ?_).bind fun _ => Triple.pure fun _ _ => trivial
  exact absurd hc (not_lt.mpr (hp.trans hint))

/-- A transfer with a prompt BMC succeeds, however long the response is. -/
theorem prompt_transfer {n rounds : ℕ} {init : List Byte} {last : Byte}
    (hlen : (init ++ [last]).length ≤ intMax) (hrounds : (respond (init ++ [last])).length < rounds)
    (hne : respond (init ++ [last]) ≠ []) (hpos : n ≠ 0) (hint : n ≤ intMax) :
    Triple (fun b => b.input = none) (transfer (promptEnv respond) (init ++ [last]) n rounds)
      (fun _ _ => True) Never := by
  unfold transfer
  exact (prompt_ipmiKcsWrite init last hlen).bind fun _ => prompt_ipmiKcsRead hrounds hne hpos hint

/-! ### When a transfer delivers -/

/-- A BMC at rest. -/
def restingBmc : Bmc where
  state := .idle
  input := none
  obf := false
  dataOut := 0
  flags := 0
  request := []
  ending := false
  response := []
  ready := false
  taken := []
  failed := false

/-- A transfer whose success is never a shortened response delivers. -/
theorem delivers_of {env : Env} {init : List Byte} {last : Byte} {n rounds : ℕ} (w : World Bmc)
    (hrounds : (env.respond (init ++ [last])).length < rounds)
    (hfits : n ≠ 0 → ((env.respond (init ++ [last])).take n).length ≤ intMax →
      (init ++ [last]).length ≤ intMax → (env.respond (init ++ [last])).length ≤ n) :
    Delivers env (init ++ [last]) n rounds w := by
  have htriple := triple_transfer (h := w.device.handed) (n := n) hrounds
  refine ⟨?_, ?_, ?_, ?_⟩
  · rcases hr : (transfer env (init ++ [last]) n rounds).result w with ⟨e | p, w'⟩
    · obtain ⟨-, k, t, ht, hl⟩ := htriple.error rfl hr
      exact ⟨k, t, ht, hl⟩
    · obtain ⟨-, -, -, -, -, hh⟩ := htriple.ok rfl hr
      exact ⟨_, _, List.prefix_rfl, by rw [hh, List.append_assoc]⟩
  · intro count w' hr
    obtain ⟨hcount, -, ha⟩ := (triple_ipmiKcsWrite (h := w.device.handed) init last).ok rfl hr
    exact ⟨hcount, ha.handed⟩
  · intro p w' hr
    obtain ⟨hp, hpos, hint, hlen, hf, hh⟩ := htriple.ok rfl hr
    rw [List.take_of_length_le (hfits hpos (hp ▸ hint) hlen)] at hp
    subst hp
    exact ⟨rfl, hf, hh⟩
  · intro hr
    rcases hres : (transfer env (init ++ [last]) n rounds).result w with ⟨r, w'⟩
    obtain rfl : r = _ := (congrArg Prod.fst hres).symm.trans hr
    exact (htriple.error rfl hres).1 rfl

/-- Against every BMC and every delay a transfer delivers exactly when the response fits the buffer, or
    one of the lengths is refused. -/
theorem transfer_delivers_iff (respond : List Byte → List Byte) (request : List Byte) (hne : request ≠ [])
    (bufLen : ℕ) :
    (∀ env : Env, env.respond = respond → ∀ rounds, (respond request).length < rounds →
      ∀ w, Delivers env request bufLen rounds w)
      ↔ (respond request).length ≤ bufLen ∨ bufLen = 0 ∨ intMax < bufLen ∨ intMax < request.length := by
  obtain ⟨init, last, rfl⟩ : ∃ init last, request = init ++ [last] :=
    ⟨_, _, (List.dropLast_append_getLast hne).symm⟩
  constructor
  · intro h
    by_contra hc
    simp only [not_or, not_le, not_lt] at hc
    obtain ⟨hlong, hpos, hint, hlen⟩ := hc
    have hrs : respond (init ++ [last]) ≠ [] := by
      intro hnil
      rw [hnil] at hlong
      exact absurd hlong (Nat.not_lt_zero _)
    -- with a prompt BMC the transfer succeeds, with as many bytes as fit
    have hsucceeds : Triple (fun b => b.input = none) (transfer (promptEnv respond) (init ++ [last])
        bufLen ((respond (init ++ [last])).length + 1)) (fun _ _ => True) Never :=
      prompt_transfer hlen (Nat.lt_succ_self _) hrs hpos hint
    have hprompt := hsucceeds ⟨restingBmc, 0⟩ rfl
    rcases hr : (transfer (promptEnv respond) (init ++ [last]) bufLen
      ((respond (init ++ [last])).length + 1)).result ⟨restingBmc, 0⟩ with ⟨e | p, w'⟩
    · rw [hr] at hprompt
      exact hprompt
    · obtain ⟨hp, -⟩ := (h (promptEnv respond) rfl _ (Nat.lt_succ_self _) ⟨restingBmc, 0⟩).read p w' hr
      have hrounds : ((promptEnv respond).respond (init ++ [last])).length
          < (respond (init ++ [last])).length + 1 := Nat.lt_succ_self _
      have htriple := triple_transfer (h := restingBmc.handed) (n := bufLen) hrounds
      obtain ⟨hp', -⟩ := htriple.ok rfl hr
      have hlength := congrArg List.length (hp.symm.trans hp')
      rw [List.length_take] at hlength
      have : (respond (init ++ [last])).length = min bufLen (respond (init ++ [last])).length := hlength
      omega
  · rintro hc env rfl rounds hrounds w
    refine delivers_of w hrounds fun hpos hint hlen => ?_
    rw [List.length_take] at hint
    omega

theorem transfer_delivers_iff_sample :
    (∀ env : Env, env.respond = (fun _ => [0x1C, 0x01, 0x00]) → ∀ rounds, 3 < rounds →
      ∀ w, Delivers env [0x18, 0x01] 3 rounds w)
      ↔ 3 ≤ 3 ∨ 3 = 0 ∨ intMax < 3 ∨ intMax < 2 :=
  transfer_delivers_iff (fun _ => [0x1C, 0x01, 0x00]) [0x18, 0x01] (by decide) 3

/-- A response of three bytes is read into a buffer of two with success. -/
theorem transfer_cut_off :
    ((transfer (promptEnv fun _ => [0x1C, 0x01, 0x00]) [0x18, 0x01] 2 4).result ⟨restingBmc, 0⟩).1
        = .ok [0x1C, 0x01]
      ∧ ¬ Delivers (promptEnv fun _ => [0x1C, 0x01, 0x00]) [0x18, 0x01] 2 4 ⟨restingBmc, 0⟩ := by
  have hrun : ((transfer (promptEnv fun _ => [0x1C, 0x01, 0x00]) [0x18, 0x01] 2 4).result
      ⟨restingBmc, 0⟩).1 = .ok [0x1C, 0x01] := by decide +kernel
  refine ⟨hrun, fun h => ?_⟩
  rcases hr : (transfer (promptEnv fun _ => [0x1C, 0x01, 0x00]) [0x18, 0x01] 2 4).result
      ⟨restingBmc, 0⟩ with ⟨r, w'⟩
  rw [hr] at hrun
  change r = _ at hrun
  subst hrun
  obtain ⟨hp, -⟩ := h.read _ w' hr
  exact absurd hp (by decide)

end FreeIpmi.Kcs
