import FreeIpmi.Basic
import FreeIpmi.Lib.BitJoin

/-! The state of a sensor (`_get_sensor_state` and `_get_threshold_sensor_state` of
    `interpret/ipmi-interpret.c`).

    Entry 0 of a table is for a bitmask without bits, and entry `k + 1` for bit `k`. The loop starts at
    entry 0 and tests the bit in front of the entry, so that for a bitmask with bits it begins with a
    shift by -1, of which C does not say what it yields. It ends in front of entry 15, which is that of bit
    14: only the table of the ACPI power states has one. -/

namespace FreeIpmi.Interpret
open BitJoin

/-! ### The loop -/

/-- `IPMI_INTERPRET_STATE_*`. -/
def stateNominal : ℕ := 0x00
def stateWarning : ℕ := 0x01
def stateCritical : ℕ := 0x02
def stateUnknown : ℕ := 0x03

/-- `IPMI_INTERPRET_MAX_SENSOR_AND_EVENT_OFFSET`. -/
def maxSensorAndEventOffset : ℕ := 15

/-- `IPMI_INTERPRET_THRESHOLD_SENSOR_EVENT_BITMASK_MASK`. -/
def thresholdSensorEventBitmaskMask : BitVec 16 := 0x3F

/-- An entry of a table; the defaults and the configuration files only have the first three states. -/
structure SensorConfig where
  state : ℕ
  configured : state ≤ stateCritical

/-- The variables of the loop, with the amounts that it has shifted by. -/
structure StateLoop where
  i : ℕ
  sensorState : ℕ
  bitmask : BitVec 16
  shifts : List ℤ

/-- `0x1 << n`, as an `int`; a negative amount yields what the parameter says. -/
def shiftOne (undef : BitVec 32) (n : ℤ) : BitVec 32 :=
  if 0 ≤ n then 0x1#32 <<< n.toNat else undef

section Loop
variable (undef : BitVec 32)

/-- The condition in front of an update, and the shifts on the way to it. -/
def StateLoop.matches (s : StateLoop) : Bool × List ℤ :=
  if s.i = 0 ∧ s.bitmask = 0 then (true, [])
  else (s.bitmask.setWidth 32 &&& shiftOne undef ((s.i : ℤ) - 1) ≠ 0, [(s.i : ℤ) - 1])

/-- One round. -/
def StateLoop.round (s : StateLoop) (entry : SensorConfig) : StateLoop :=
  let (found, tested) := s.matches undef
  let sensorState :=
    if found ∧ entry.state > s.sensorState then entry.state else s.sensorState
  if s.i = 0 then ⟨s.i + 1, sensorState, s.bitmask, s.shifts ++ tested⟩
  else
    ⟨s.i + 1, sensorState, s.bitmask &&& (~~~shiftOne undef ((s.i : ℤ) - 1)).setWidth 16,
      s.shifts ++ tested ++ [(s.i : ℤ) - 1]⟩

/-- The loop, with the rounds left in front of the last offset. -/
def stateLoop (config : List SensorConfig) : ℕ → StateLoop → StateLoop
  | 0, s => s
  | rounds + 1, s =>
    match config[s.i]? with
    | none => s
    | some entry => stateLoop config rounds (s.round undef entry)

/-- What a call stores, and the amounts that it shifts by. -/
structure StateResult where
  sensorState : ℕ
  shifts : List ℤ
  deriving DecidableEq

/-- `_get_threshold_sensor_state`. -/
def getThresholdSensorState (config : List SensorConfig) (sensorEventBitmask : BitVec 16) :
    StateResult :=
  let s := stateLoop undef config maxSensorAndEventOffset
    ⟨0, stateNominal, sensorEventBitmask &&& thresholdSensorEventBitmaskMask, []⟩
  ⟨s.sensorState, s.shifts⟩

/-- `struct ipmi_interpret_sensor_oem_state`. -/
structure SensorOemState where
  sensorEventBitmask : BitVec 16
  sensorState : ℕ
  isBitmask : Bool

/-- Whether an OEM state is meant. -/
def SensorOemState.applies (o : SensorOemState) (sensorEventBitmask : BitVec 16) : Bool :=
  if o.isBitmask then
    o.sensorEventBitmask &&& sensorEventBitmask ≠ 0
      || (o.sensorEventBitmask = 0 && sensorEventBitmask = 0)
  else o.sensorEventBitmask = sensorEventBitmask

/-- `_get_sensor_oem_state`, with what `hash_find` returns. -/
def getSensorOemState (oemConf : Option (List SensorOemState)) (sensorEventBitmask : BitVec 16) : ℕ :=
  match oemConf with
  | none => stateUnknown
  | some oemState =>
    let found := oemState.filter fun o => o.applies sensorEventBitmask
    if found.isEmpty then stateUnknown
    else found.foldl (fun state o => if o.sensorState > state then o.sensorState else state)
      stateNominal

/-- The flags that are looked at. -/
structure InterpretFlags where
  interpretOemData : Bool
  ignoreUnrecognizedEvents : Bool

/-- `_get_sensor_state`. -/
def getSensorState (flags : InterpretFlags) (oemConf : Option (List SensorOemState))
    (config : List SensorConfig) (sensorEventBitmask : BitVec 16) : StateResult :=
  -- the 16th bit is ignored
  let s := stateLoop undef config maxSensorAndEventOffset
    ⟨0, stateNominal, sensorEventBitmask &&& ~~~(0x1#16 <<< maxSensorAndEventOffset), []⟩
  if s.bitmask ≠ 0 then
    if flags.interpretOemData then
      let tmp := getSensorOemState oemConf sensorEventBitmask
      if flags.ignoreUnrecognizedEvents then
        ⟨if tmp ≠ stateUnknown then tmp else s.sensorState, s.shifts⟩
      else ⟨tmp, s.shifts⟩
    else if ¬ flags.ignoreUnrecognizedEvents then ⟨stateUnknown, s.shifts⟩
    else ⟨s.sensorState, s.shifts⟩
  else ⟨s.sensorState, s.shifts⟩

end Loop

/-! ### What the tables say -/

/-- The state of an entry, if the table has it. -/
def stateOf (config : List SensorConfig) (i : ℕ) : ℕ := (config[i]?.map SensorConfig.state).getD 0

/-- The maximum of the states of the bits that are set. -/
def eventsState (config : List SensorConfig) (bitmask : BitVec 16) : ℕ :=
  joinTo (fun k => stateOf config (k + 1)) bitmask 16

/-- The state of a bitmask, that of entry 0 for one without bits. -/
def configuredState (config : List SensorConfig) (bitmask : BitVec 16) : ℕ :=
  if bitmask = 0 then stateOf config 0 else eventsState config bitmask

/-- A bit that is set has no entry. -/
def Unrecognized (config : List SensorConfig) (bitmask : BitVec 16) : Prop :=
  ∃ k < 16, bitmask.getLsbD k = true ∧ config.length ≤ k + 1

instance (config : List SensorConfig) (bitmask : BitVec 16) :
    Decidable (Unrecognized config bitmask) := by unfold Unrecognized; infer_instance

/-- The state of a discrete sensor. -/
def discreteState (ignoreUnrecognizedEvents : Bool) (config : List SensorConfig)
    (bitmask : BitVec 16) : ℕ :=
  if Unrecognized config bitmask ∧ ignoreUnrecognizedEvents = false then stateUnknown
  else configuredState config bitmask

/-- The shift by -1 is not made, or yields no bit of the bitmask. -/
def Harmless (undef : BitVec 32) (config : List SensorConfig) (bitmask : BitVec 16) : Prop :=
  config = [] ∨ bitmask.setWidth 32 &&& undef = 0

/-- The bits of a threshold sensor, and those of a discrete one. -/
def thresholdBits (bitmask : BitVec 16) : BitVec 16 := bitmask &&& thresholdSensorEventBitmaskMask
def discreteBits (bitmask : BitVec 16) : BitVec 16 := bitmask &&& 0x7FFF

section Rounds
variable {undef : BitVec 32} {config : List SensorConfig} {entry : SensorConfig} {mask : BitVec 16}
  {first n : ℕ} {s : StateLoop}

/-- The state of the loop in front of entry `n + 1`: the bits below `n` are done with. -/
structure StateLoop.At (config : List SensorConfig) (mask : BitVec 16) (first n : ℕ) (s : StateLoop) :
    Prop where
  i : s.i = n + 1
  bits : ∀ j, s.bitmask.getLsbD j = (decide (n ≤ j) && mask.getLsbD j)
  state : s.sensorState = max first (joinTo (fun k => stateOf config (k + 1)) mask n)

theorem shiftOne_natCast (undef : BitVec 32) {n : ℕ} : shiftOne undef n = 0x1#32 <<< n := by
  rw [shiftOne, if_pos (Int.natCast_nonneg n), Int.toNat_natCast]

theorem getLsbD_one_shiftLeft {w n j : ℕ} (hj : j < w) :
    (0x1#w <<< n).getLsbD j = decide (j = n) := by
  rw [BitVec.getLsbD_shiftLeft, BitVec.getLsbD_one]
  by_cases h : j = n
  · have hw : 0 < w := by omega
    simp [h, hw]
    omega
  · by_cases hlt : j < n
    · simp [h, hlt]
    · have hne : ¬ j - n = 0 := by omega
      simp [h, hne]

/-- Whether a bit of the bitmask is set, as the condition tests it. -/
theorem and_shiftOne_ne_zero (b : BitVec 16) (undef : BitVec 32) (hn : n < 16) :
    b.setWidth 32 &&& shiftOne undef n ≠ 0 ↔ b.getLsbD n = true := by
  rw [shiftOne_natCast]
  constructor
  · intro hne
    by_contra hbit
    refine hne (BitVec.eq_of_getLsbD_eq fun j hj => ?_)
    rw [BitVec.getLsbD_and, getLsbD_one_shiftLeft hj, BitVec.getLsbD_setWidth]
    by_cases h : j = n
    · rw [h, Bool.eq_false_of_not_eq_true hbit]
      simp
    · simp [h]
  · intro hbit hzero
    have hj := congrArg (fun x => x.getLsbD n) hzero
    simp only [BitVec.getLsbD_and, getLsbD_one_shiftLeft (show n < 32 by omega),
      BitVec.getLsbD_setWidth, hbit] at hj
    simp at hj
    omega

/-- A round from entry 1 on takes one bit. -/
theorem round_at (undef : BitVec 32) (hat : s.At config mask first n) (hn : n + 1 < maxSensorAndEventOffset)
    (hentry : config[n + 1]? = some entry) : (s.round undef entry).At config mask first (n + 1) ∧
      (s.round undef entry).shifts = s.shifts ++ [(n : ℤ)] ++ [(n : ℤ)] := by
  obtain ⟨i, sensorState, bitmask, shifts⟩ := s
  obtain ⟨rfl, hbits, hstate⟩ := hat
  rw [maxSensorAndEventOffset] at hn
  have hpred : ((n + 1 : ℕ) : ℤ) - 1 = n := by omega
  have hstateOf : stateOf config (n + 1) = entry.state := by rw [stateOf, hentry]; rfl
  have htest : bitmask.setWidth 32 &&& shiftOne undef n ≠ 0 ↔ mask.getLsbD n = true := by
    rw [and_shiftOne_ne_zero _ _ (by omega), hbits, decide_eq_true le_rfl, Bool.true_and]
  have hzero : ¬ (n + 1 = 0 ∧ bitmask = 0) := fun h => Nat.succ_ne_zero n h.1
  simp only [StateLoop.round, StateLoop.matches, if_neg hzero, if_neg (Nat.succ_ne_zero n), hpred]
  refine ⟨⟨rfl, fun j => ?_, ?_⟩, trivial⟩
  · show (bitmask &&& (~~~shiftOne undef n).setWidth 16).getLsbD j = _
    by_cases hj : j < 16
    · have hj32 : j < 32 := by omega
      rw [BitVec.getLsbD_and, BitVec.getLsbD_setWidth, BitVec.getLsbD_not, shiftOne_natCast,
        getLsbD_one_shiftLeft hj32, hbits]
      simp only [hj, hj32, decide_true, Bool.true_and]
      rcases lt_trichotomy j n with hlt | rfl | hgt
      · have h1 : ¬ n ≤ j := by omega
        have h2 : ¬ n + 1 ≤ j := by omega
        simp [h1, h2]
      · have h2 : ¬ j + 1 ≤ j := by omega
        simp [h2]
      · have h1 : n ≤ j := by omega
        have h2 : n + 1 ≤ j := by omega
        have h3 : j ≠ n := by omega
        simp [h1, h2, h3]
    · rw [BitVec.getLsbD_of_ge _ j (by omega), BitVec.getLsbD_of_ge mask j (by omega),
        Bool.and_false]
  · show (if decide (bitmask.setWidth 32 &&& shiftOne undef n ≠ 0) = true
      ∧ entry.state > sensorState then entry.state else sensorState) = _
    dsimp only at hstate
    rw [joinTo_succ, hstateOf, ← max_assoc, ← hstate]
    simp only [decide_eq_true_eq, htest]
    by_cases hbit : mask.getLsbD n = true
    · simp only [hbit, true_and, if_true]
      split_ifs <;> omega
    · simp [hbit]

/-- The rest of the loop. -/
theorem stateLoop_at : ∀ (rounds n : ℕ) (s : StateLoop), s.At config mask first n →
    n + 1 + rounds = maxSensorAndEventOffset → n + 1 ≤ config.length →
      (∃ m, (stateLoop undef config rounds s).At config mask first m ∧
        m + 1 = min maxSensorAndEventOffset config.length) ∧
      ∃ more, (stateLoop undef config rounds s).shifts = s.shifts ++ more ∧
        ∀ a ∈ more, 0 ≤ a ∧ a ≤ 15
  | 0, n, s, hat, hrounds, hlen => ⟨⟨n, hat, by omega⟩, [], (List.append_nil _).symm, nofun⟩
  | rounds + 1, n, s, hat, hrounds, hlen => by
    rw [stateLoop, hat.i]
    cases hentry : config[n + 1]? with
    | none =>
      have hend := List.getElem?_eq_none_iff.mp hentry
      exact ⟨⟨n, hat, by omega⟩, [], (List.append_nil _).symm, nofun⟩
    | some entry =>
      have hlt := (List.getElem?_eq_some_iff.mp hentry).1
      obtain ⟨hnext, hshifts⟩ := round_at undef hat (by omega) hentry
      obtain ⟨hend, more, hmore, hrange⟩ := stateLoop_at rounds (n + 1) _ hnext (by omega) hlt
      refine ⟨hend, (n : ℤ) :: (n : ℤ) :: more, ?_, ?_⟩
      · rw [hmore, hshifts, List.append_assoc, List.append_assoc]
        rfl
      · have hn : (0 : ℤ) ≤ n ∧ (n : ℤ) ≤ 15 := by rw [maxSensorAndEventOffset] at hrounds; omega
        intro a ha
        rcases List.mem_cons.mp ha with rfl | ha
        · exact hn
        · rcases List.mem_cons.mp ha with rfl | ha
          · exact hn
          · exact hrange a ha

/-! ### The whole loop -/

theorem ne_zero_iff (b : BitVec 16) : b ≠ 0 ↔ ∃ k < 16, b.getLsbD k = true := by
  constructor
  · intro hne
    by_contra hno
    refine hne (BitVec.eq_of_getLsbD_eq fun j hj => ?_)
    have hj' : ¬ b.getLsbD j = true := fun h => hno ⟨j, hj, h⟩
    rw [Bool.eq_false_of_not_eq_true hj']
    simp
  · rintro ⟨k, -, hk⟩ rfl
    simp at hk

theorem stateOf_take (config : List SensorConfig) {i n : ℕ} (h : i < n) :
    stateOf (config.take n) i = stateOf config i := by
  rw [stateOf, stateOf, List.getElem?_take_of_lt h]

theorem stateOf_of_le {i : ℕ} (h : config.length ≤ i) : stateOf config i = 0 := by
  rw [stateOf, List.getElem?_eq_none h]
  rfl

/-- The first round, at entry 0. -/
theorem round_zero (undef : BitVec 32) (entry : SensorConfig) (rest : List SensorConfig)
    (mask : BitVec 16) :
    let s := StateLoop.round undef ⟨0, stateNominal, mask, []⟩ entry
    s.At (entry :: rest) mask s.sensorState 0 ∧ s.shifts = (if mask = 0 then [] else [-1]) ∧
      (mask.setWidth 32 &&& undef = 0 →
        s.sensorState = if mask = 0 then entry.state else stateNominal) := by
  by_cases hmask : mask = 0
  · subst hmask
    refine ⟨⟨rfl, fun j => by simp [StateLoop.round], by simp⟩, rfl, fun _ => ?_⟩
    simp only [StateLoop.round, StateLoop.matches]
    simp [stateNominal]
    omega
  · have hcond : ¬ ((0 : ℕ) = 0 ∧ mask = 0) := fun h => hmask h.2
    have hmatches : StateLoop.matches undef ⟨0, stateNominal, mask, []⟩
        = (decide (mask.setWidth 32 &&& undef ≠ 0), [-1]) := if_neg hcond
    refine ⟨⟨rfl, fun j => by simp [StateLoop.round], by simp⟩, ?_, fun hundef => ?_⟩
    · rw [if_neg hmask, StateLoop.round, hmatches]
      rfl
    · rw [if_neg hmask, StateLoop.round, hmatches]
      simp [hundef]

/-- What the loop leaves, where the shift by -1 does no harm. -/
theorem stateLoop_value (hundef : Harmless undef config mask) :
    let s := stateLoop undef config maxSensorAndEventOffset ⟨0, stateNominal, mask, []⟩
    s.sensorState = configuredState (config.take maxSensorAndEventOffset) mask ∧
      (s.bitmask ≠ 0 ↔ Unrecognized (config.take maxSensorAndEventOffset) mask) := by
  cases config with
  | nil =>
    have hbot : joinTo (fun k => stateOf [] (k + 1)) mask 16 = 0 :=
      (joinTo_of_bot (Nat.zero_le 16) fun k _ _ => stateOf_of_le (Nat.zero_le _)).trans
        (joinTo_zero _ _)
    have hzero : stateOf [] 0 = 0 := rfl
    refine ⟨?_, ?_⟩
    · simp only [List.take_nil, configuredState, eventsState, hbot, hzero, ite_self]
      rfl
    · simp only [List.take_nil, Unrecognized, List.length_nil, Nat.zero_le, and_true]
      exact ne_zero_iff mask
  | cons entry rest =>
    obtain ⟨hat, -, hfirst⟩ := round_zero undef entry rest mask
    obtain ⟨⟨m, hm, hend⟩, -⟩ := stateLoop_at 14 0 _ hat rfl (Nat.le_add_left _ _)
    have hlen : ((entry :: rest).take maxSensorAndEventOffset).length = m + 1 := by
      rw [List.length_take, hend]
    have hm14 : m + 1 ≤ 15 := by rw [hend]; exact min_le_left _ _
    refine ⟨hm.state.trans ?_, ?_⟩
    · rw [hfirst (hundef.resolve_left (List.cons_ne_nil _ _)), configuredState, eventsState]
      by_cases hmask : mask = 0
      · subst hmask
        rw [if_pos rfl, if_pos rfl, joinTo_empty, stateOf_take _ (by decide)]
        exact max_eq_left (Nat.zero_le _)
      · have hbot : joinTo (fun k => stateOf ((entry :: rest).take maxSensorAndEventOffset) (k + 1))
            mask 16 = joinTo (fun k => stateOf (entry :: rest) (k + 1)) mask m := by
          rw [joinTo_of_bot (show m ≤ 16 by omega) fun k hk _ => stateOf_of_le (by omega)]
          exact joinTo_congr fun k hk _ => stateOf_take _ (by rw [maxSensorAndEventOffset]; omega)
        rw [if_neg hmask, if_neg hmask, hbot]
        exact max_eq_right (Nat.zero_le _)
    · refine (ne_zero_iff _).trans ?_
      rw [Unrecognized, hlen]
      refine exists_congr fun k => and_congr_right fun _ => ?_
      refine (Bool.eq_iff_iff.mp (hm.bits k)).trans ?_
      rw [Bool.and_eq_true, decide_eq_true_eq, and_comm, Nat.add_le_add_iff_right]

/-- All amounts are in range exactly when there is nothing to test at entry 0. -/
theorem stateLoop_shifts (undef : BitVec 32) (config : List SensorConfig) (mask : BitVec 16) :
    (∀ a ∈ (stateLoop undef config maxSensorAndEventOffset ⟨0, stateNominal, mask, []⟩).shifts,
      0 ≤ a ∧ a ≤ 15) ↔ config = [] ∨ mask = 0 := by
  cases config with
  | nil => exact iff_of_true nofun (Or.inl rfl)
  | cons entry rest =>
    obtain ⟨hat, hshifts, -⟩ := round_zero undef entry rest mask
    obtain ⟨-, more, hmore, hrange⟩ := stateLoop_at 14 0 _ hat rfl (Nat.le_add_left _ _)
    have hall : (stateLoop undef (entry :: rest) maxSensorAndEventOffset
        ⟨0, stateNominal, mask, []⟩).shifts = (if mask = 0 then [] else [-1]) ++ more :=
      hmore.trans (by rw [hshifts])
    rw [hall, or_iff_right (List.cons_ne_nil entry rest)]
    constructor
    · intro h
      by_contra hmask
      rw [if_neg hmask] at h
      exact absurd (h (-1) List.mem_cons_self).1 (by decide)
    · intro hmask
      rw [if_pos hmask]
      exact hrange

end Rounds

/-! ### The two functions -/

/-- A threshold sensor: the state is the configured one, and the amounts of all shifts are in range,
    whatever an undefined shift yields. -/
structure ThresholdSound (config : List SensorConfig) (bitmask : BitVec 16) : Prop where
  state : ∀ undef, (getThresholdSensorState undef config bitmask).sensorState
    = configuredState config (thresholdBits bitmask)
  shifts : ∀ undef, ∀ a ∈ (getThresholdSensorState undef config bitmask).shifts, 0 ≤ a ∧ a ≤ 15

/-- A discrete sensor, without the interpretation of OEM data. -/
structure DiscreteSound (ignoreUnrecognizedEvents : Bool) (oemConf : Option (List SensorOemState))
    (config : List SensorConfig) (bitmask : BitVec 16) : Prop where
  state : ∀ undef, (getSensorState undef ⟨false, ignoreUnrecognizedEvents⟩ oemConf config
    bitmask).sensorState = discreteState ignoreUnrecognizedEvents config (discreteBits bitmask)
  shifts : ∀ undef, ∀ a ∈ (getSensorState undef ⟨false, ignoreUnrecognizedEvents⟩ oemConf config
    bitmask).shifts, 0 ≤ a ∧ a ≤ 15

/-- Bit 14 is set, and the table has an entry for it that the loop should have got to. -/
def MissedEntry (ignoreUnrecognizedEvents : Bool) (config : List SensorConfig)
    (bitmask : BitVec 16) : Prop :=
  15 < config.length ∧ bitmask.getLsbD 14 = true ∧ (ignoreUnrecognizedEvents = true →
    eventsState (config.take maxSensorAndEventOffset) bitmask < stateOf config 15)

section Functions
variable {undef : BitVec 32} {ignoreUnrecognizedEvents : Bool} {config : List SensorConfig}
  {oemConf : Option (List SensorOemState)} {bitmask mask a b : BitVec 16}

/-- The first 15 entries are enough for the bits in front of bit 14. -/
theorem eventsState_take (h : mask.getLsbD 14 = false) (h15 : mask.getLsbD 15 = false) :
    eventsState (config.take maxSensorAndEventOffset) mask = eventsState config mask := by
  refine joinTo_congr fun k hk hbit => ?_
  refine stateOf_take _ ?_
  have h14 : k ≠ 14 := by rintro rfl; rw [h] at hbit; cases hbit
  have h15' : k ≠ 15 := by rintro rfl; rw [h15] at hbit; cases hbit
  rw [maxSensorAndEventOffset]
  omega

theorem configuredState_take (h : mask.getLsbD 14 = false) (h15 : mask.getLsbD 15 = false) :
    configuredState (config.take maxSensorAndEventOffset) mask = configuredState config mask := by
  rw [configuredState, configuredState, eventsState_take h h15, stateOf_take _ (by decide)]

theorem getLsbD_discreteBits (bitmask : BitVec 16) : (discreteBits bitmask).getLsbD 15 = false := by
  simp [discreteBits]

theorem eventsState_split (config : List SensorConfig) (h15 : mask.getLsbD 15 = false) :
    eventsState config mask = max (joinTo (fun k => stateOf config (k + 1)) mask 14)
      (if mask.getLsbD 14 then stateOf config 15 else 0) := by
  rw [eventsState, joinTo_succ, joinTo_succ, h15]
  exact max_eq_left (Nat.zero_le _)

/-- With bit 14 set, the entry for it counts as one more. -/
theorem eventsState_eq_max (config : List SensorConfig) (h : mask.getLsbD 14 = true) (h15 : mask.getLsbD 15 = false) :
    eventsState config mask
      = max (eventsState (config.take maxSensorAndEventOffset) mask) (stateOf config 15) := by
  have hbelow : joinTo (fun k => stateOf (config.take maxSensorAndEventOffset) (k + 1)) mask 14
      = joinTo (fun k => stateOf config (k + 1)) mask 14 :=
    joinTo_congr fun k hk _ => stateOf_take _ (by rw [maxSensorAndEventOffset]; omega)
  have htop : stateOf (config.take maxSensorAndEventOffset) 15 = 0 :=
    stateOf_of_le (by rw [List.length_take, maxSensorAndEventOffset]; omega)
  rw [eventsState_split _ h15, eventsState_split _ h15, hbelow, htop, if_pos h, if_pos h,
    Nat.max_zero]

theorem eventsState_le (config : List SensorConfig) (mask : BitVec 16) :
    eventsState config mask ≤ stateCritical := by
  refine joinTo_le fun k _ => ?_
  rw [stateOf]
  cases config[k + 1]? with
  | none => exact Nat.zero_le _
  | some entry => exact entry.configured

/-- The loop stops at bit 14, which makes a difference exactly where its entry is missed. -/
theorem discreteState_take_iff (h15 : mask.getLsbD 15 = false) :
    discreteState ignoreUnrecognizedEvents (config.take maxSensorAndEventOffset) mask
        = discreteState ignoreUnrecognizedEvents config mask ↔
      ¬ MissedEntry ignoreUnrecognizedEvents config mask := by
  by_cases hlen : config.length ≤ 15
  · rw [List.take_of_length_le (show config.length ≤ maxSensorAndEventOffset from hlen)]
    exact iff_of_true rfl fun h => absurd h.1 (by omega)
  · have hall : ¬ Unrecognized config mask := by
      rintro ⟨k, hk, hbit, hle⟩
      obtain rfl : k = 15 := by omega
      rw [h15] at hbit
      cases hbit
    have hfull : discreteState ignoreUnrecognizedEvents config mask = configuredState config mask :=
      if_neg fun h => hall h.1
    have htake : (config.take maxSensorAndEventOffset).length = 15 := by
      rw [List.length_take, maxSensorAndEventOffset]
      omega
    by_cases h14 : mask.getLsbD 14 = true
    · have hmissing : Unrecognized (config.take maxSensorAndEventOffset) mask :=
        ⟨14, by decide, h14, htake.le⟩
      have hne : mask ≠ 0 := (ne_zero_iff mask).mpr ⟨14, by decide, h14⟩
      have hle := eventsState_le config mask
      rw [hfull, configuredState, if_neg hne, MissedEntry]
      cases ignoreUnrecognizedEvents with
      | false =>
        rw [discreteState, if_pos ⟨hmissing, rfl⟩]
        refine iff_of_false (fun h => ?_) fun h => h ⟨by omega, h14, nofun⟩
        rw [← h] at hle
        exact absurd hle (by decide)
      | true =>
        rw [discreteState, if_neg (fun h => Bool.noConfusion h.2), configuredState, if_neg hne,
          eventsState_eq_max config h14 h15]
        have h15' : 15 < config.length := by omega
        simp only [h15', h14, true_and, forall_const]
        omega
    · have h14' := Bool.eq_false_of_not_eq_true h14
      have hnone : ¬ Unrecognized (config.take maxSensorAndEventOffset) mask := by
        rintro ⟨k, hk, hbit, hle⟩
        obtain rfl | rfl : k = 14 ∨ k = 15 := by omega
        · exact h14 hbit
        · rw [h15] at hbit
          cases hbit
      rw [hfull, discreteState, if_neg (fun h => hnone h.1), configuredState_take h14' h15]
      exact iff_of_true rfl fun h => h14 h.2.1

/-- What a threshold sensor yields. -/
theorem getThresholdSensorState_value (hundef : Harmless undef config (thresholdBits bitmask)) :
    (getThresholdSensorState undef config bitmask).sensorState
      = configuredState config (thresholdBits bitmask) :=
  (stateLoop_value hundef).1.trans
    (configuredState_take (by simp [thresholdBits, thresholdSensorEventBitmaskMask])
      (by simp [thresholdBits, thresholdSensorEventBitmaskMask]))

/-- A discrete sensor without the interpretation of OEM data. -/
theorem getSensorState_eq (undef : BitVec 32) (ignoreUnrecognizedEvents : Bool)
    (oemConf : Option (List SensorOemState)) (config : List SensorConfig) (bitmask : BitVec 16) :
    getSensorState undef ⟨false, ignoreUnrecognizedEvents⟩ oemConf config bitmask =
      let s := stateLoop undef config maxSensorAndEventOffset
        ⟨0, stateNominal, discreteBits bitmask, []⟩
      ⟨if s.bitmask ≠ 0 ∧ ignoreUnrecognizedEvents = false then stateUnknown else s.sensorState,
        s.shifts⟩ := by
  have hmask : bitmask &&& ~~~(0x1#16 <<< maxSensorAndEventOffset) = discreteBits bitmask := rfl
  simp only [getSensorState, hmask]
  cases ignoreUnrecognizedEvents with
  | false => split <;> simp_all
  | true => split <;> simp

/-- What it yields: the loop knows the first 15 entries. -/
theorem getSensorState_value (ignoreUnrecognizedEvents : Bool)
    (oemConf : Option (List SensorOemState))
    (hundef : Harmless undef config (discreteBits bitmask)) :
    (getSensorState undef ⟨false, ignoreUnrecognizedEvents⟩ oemConf config bitmask).sensorState
      = discreteState ignoreUnrecognizedEvents (config.take maxSensorAndEventOffset)
        (discreteBits bitmask) := by
  obtain ⟨hstate, hleft⟩ := stateLoop_value hundef
  rw [getSensorState_eq, discreteState]
  exact if_congr (and_congr_left fun _ => hleft) rfl hstate

/-! ### Unions of bitmasks -/

theorem or_ne_zero (h : a ≠ 0) : a ||| b ≠ 0 := by
  obtain ⟨k, hk, hbit⟩ := (ne_zero_iff a).mp h
  exact (ne_zero_iff _).mpr ⟨k, hk, by rw [BitVec.getLsbD_or, hbit, Bool.true_or]⟩

theorem configuredState_or (config : List SensorConfig) (ha : a ≠ 0) (hb : b ≠ 0) :
    configuredState config (a ||| b) = max (configuredState config a) (configuredState config b) := by
  rw [configuredState, configuredState, configuredState, if_neg (or_ne_zero ha), if_neg ha,
    if_neg hb]
  exact joinTo_or _ _ _ _

theorem unrecognized_or (config : List SensorConfig) (a b : BitVec 16) :
    Unrecognized config (a ||| b) ↔ Unrecognized config a ∨ Unrecognized config b := by
  constructor
  · rintro ⟨k, hk, hbit, hle⟩
    rw [BitVec.getLsbD_or, Bool.or_eq_true] at hbit
    exact hbit.imp (fun h => ⟨k, hk, h, hle⟩) fun h => ⟨k, hk, h, hle⟩
  · rintro (⟨k, hk, hbit, hle⟩ | ⟨k, hk, hbit, hle⟩)
    · exact ⟨k, hk, by rw [BitVec.getLsbD_or, hbit, Bool.true_or], hle⟩
    · exact ⟨k, hk, by rw [BitVec.getLsbD_or, hbit, Bool.or_true], hle⟩

/-- The unknown state is above all others. -/
theorem configuredState_le (config : List SensorConfig) (ha : a ≠ 0) :
    configuredState config a ≤ stateUnknown := by
  rw [configuredState, if_neg ha]
  exact (eventsState_le config a).trans (by decide)

theorem discreteState_or (ignoreUnrecognizedEvents : Bool) (config : List SensorConfig) (ha : a ≠ 0)
    (hb : b ≠ 0) : discreteState ignoreUnrecognizedEvents config (a ||| b)
      = max (discreteState ignoreUnrecognizedEvents config a)
        (discreteState ignoreUnrecognizedEvents config b) := by
  have hea := configuredState_le config ha
  have heb := configuredState_le config hb
  simp only [discreteState, unrecognized_or]
  by_cases hua : Unrecognized config a ∧ ignoreUnrecognizedEvents = false
  · rw [if_pos ⟨Or.inl hua.1, hua.2⟩, if_pos hua]
    split <;> omega
  · by_cases hub : Unrecognized config b ∧ ignoreUnrecognizedEvents = false
    · rw [if_pos ⟨Or.inr hub.1, hub.2⟩, if_neg hua, if_pos hub]
      omega
    · have hnone : ¬ ((Unrecognized config a ∨ Unrecognized config b)
          ∧ ignoreUnrecognizedEvents = false) := fun h =>
        h.1.elim (fun hu => hua ⟨hu, h.2⟩) fun hu => hub ⟨hu, h.2⟩
      rw [if_neg hnone, if_neg hua, if_neg hub, configuredState_or config ha hb]

theorem discreteBits_or (a b : BitVec 16) :
    discreteBits (a ||| b) = discreteBits a ||| discreteBits b := BitVec.and_or_distrib_right

theorem thresholdBits_or (a b : BitVec 16) :
    thresholdBits (a ||| b) = thresholdBits a ||| thresholdBits b := BitVec.and_or_distrib_right

/-! ### Sound calls -/

theorem harmless_of_none (undef : BitVec 32) (h : config = [] ∨ mask = 0) :
    Harmless undef config mask := by
  refine h.imp_right fun hmask => ?_
  rw [hmask]
  simp

/-- The value that common machines yield for the shift by -1, bit 31. -/
theorem harmless_topBit (config : List SensorConfig) (mask : BitVec 16) :
    Harmless 0x80000000 config mask := by
  refine Or.inr (BitVec.eq_of_getLsbD_eq fun j hj => ?_)
  rw [BitVec.getLsbD_and, BitVec.getLsbD_setWidth]
  by_cases h : j < 16
  · interval_cases j <;> simp
  · rw [BitVec.getLsbD_of_ge mask j (by omega)]
    simp

theorem thresholdSound_iff (config : List SensorConfig) (bitmask : BitVec 16) :
    ThresholdSound config bitmask ↔ config = [] ∨ thresholdBits bitmask = 0 :=
  ⟨fun h => (stateLoop_shifts 0 config _).mp (h.shifts 0), fun h =>
    ⟨fun undef => getThresholdSensorState_value (harmless_of_none undef h),
      fun undef => (stateLoop_shifts undef config _).mpr h⟩⟩

theorem discreteSound_iff (ignoreUnrecognizedEvents : Bool)
    (oemConf : Option (List SensorOemState)) (config : List SensorConfig) (bitmask : BitVec 16) :
    DiscreteSound ignoreUnrecognizedEvents oemConf config bitmask ↔
      config = [] ∨ discreteBits bitmask = 0 := by
  constructor
  · intro h
    have hshifts := h.shifts 0
    rw [getSensorState_eq] at hshifts
    exact (stateLoop_shifts 0 config _).mp hshifts
  · intro h
    refine ⟨fun undef => ?_, fun undef => ?_⟩
    · rw [getSensorState_value _ _ (harmless_of_none undef h)]
      refine (discreteState_take_iff (getLsbD_discreteBits bitmask)).mpr fun hmissed => ?_
      rcases h with rfl | hzero
      · exact absurd hmissed.1 (Nat.not_lt_zero _)
      · have hbit := hmissed.2.1
        rw [hzero] at hbit
        cases hbit
    · rw [getSensorState_eq]
      exact (stateLoop_shifts undef config _).mpr h

end Functions

/-- Every shift is in range exactly for an empty table or a bitmask without bits. Whatever the shift by -1
    yields, if it is no bit of the bitmask, a threshold sensor has the configured state and a discrete one
    does unless the entry for bit 14 is missed; and the state of a union of bitmasks with bits is the
    maximum of their states. -/
theorem sensorState_iff (ignoreUnrecognizedEvents : Bool) (oemConf : Option (List SensorOemState))
    (config : List SensorConfig) (bitmask : BitVec 16) :
    ((ThresholdSound config bitmask ↔ config = [] ∨ thresholdBits bitmask = 0) ∧
      (DiscreteSound ignoreUnrecognizedEvents oemConf config bitmask ↔
        config = [] ∨ discreteBits bitmask = 0)) ∧
    ∀ undef, (∀ mask, Harmless undef config mask) →
      let threshold := fun b => (getThresholdSensorState undef config b).sensorState
      let discrete := fun b =>
        (getSensorState undef ⟨false, ignoreUnrecognizedEvents⟩ oemConf config b).sensorState
      threshold bitmask = configuredState config (thresholdBits bitmask) ∧
        (discrete bitmask = discreteState ignoreUnrecognizedEvents config (discreteBits bitmask) ↔
          ¬ MissedEntry ignoreUnrecognizedEvents config (discreteBits bitmask)) ∧
        ∀ b, (thresholdBits bitmask ≠ 0 → thresholdBits b ≠ 0 →
            threshold (bitmask ||| b) = max (threshold bitmask) (threshold b)) ∧
          (discreteBits bitmask ≠ 0 → discreteBits b ≠ 0 →
            discrete (bitmask ||| b) = max (discrete bitmask) (discrete b)) := by
  refine ⟨⟨thresholdSound_iff config bitmask, discreteSound_iff _ _ config bitmask⟩, ?_⟩
  intro undef hundef threshold discrete
  have hthreshold : ∀ b, threshold b = configuredState config (thresholdBits b) :=
    fun b => getThresholdSensorState_value (hundef _)
  have hdiscrete : ∀ b, discrete b = discreteState ignoreUnrecognizedEvents
      (config.take maxSensorAndEventOffset) (discreteBits b) :=
    fun b => getSensorState_value _ _ (hundef _)
  refine ⟨hthreshold bitmask, ?_, fun b => ⟨fun ha hb => ?_, fun ha hb => ?_⟩⟩
  · rw [hdiscrete]
    exact discreteState_take_iff (getLsbD_discreteBits bitmask)
  · rw [hthreshold, hthreshold, hthreshold, thresholdBits_or, configuredState_or config ha hb]
  · rw [hdiscrete, hdiscrete, hdiscrete, discreteBits_or, discreteState_or _ _ ha hb]

/-! ### The ACPI power states -/

/-- `ipmi_interpret_sensor_system_acpi_power_state_config`. -/
def systemAcpiPowerStateConfig : List SensorConfig :=
  List.replicate 14 ⟨stateNominal, by decide⟩
    ++ List.replicate 2 ⟨stateCritical, by decide⟩

/-- The entry for bit 13 is found. -/
theorem sensorState_iff_acpi :
    (getSensorState 0x80000000 ⟨false, false⟩ none systemAcpiPowerStateConfig 0x2000).sensorState
      = discreteState false systemAcpiPowerStateConfig (discreteBits 0x2000) :=
  ((sensorState_iff false none systemAcpiPowerStateConfig 0x2000).2 0x80000000
    (harmless_topBit _)).2.1.mpr fun h => absurd h.2.1 (by decide)

/-- The one for bit 14 is not: the state is unknown where a critical one is configured. And the loop
    begins with a shift by -1. -/
theorem acpiPowerState_unknown :
    (getSensorState 0x80000000 ⟨false, false⟩ none systemAcpiPowerStateConfig 0x4000).sensorState
        = stateUnknown ∧
      discreteState false systemAcpiPowerStateConfig (discreteBits 0x4000) = stateCritical ∧
      -1 ∈ (getSensorState 0x80000000 ⟨false, false⟩ none systemAcpiPowerStateConfig 0x4000).shifts ∧
      ¬ ∀ (config : List SensorConfig) (bitmask : BitVec 16),
        DiscreteSound false none config bitmask := by
  have hstate : (getSensorState 0x80000000 ⟨false, false⟩ none systemAcpiPowerStateConfig
      0x4000).sensorState = stateUnknown := by decide
  have hconfigured : discreteState false systemAcpiPowerStateConfig (discreteBits 0x4000)
      = stateCritical := by decide
  refine ⟨hstate, hconfigured, by decide, ?_⟩
  intro h
  have hsound := (h systemAcpiPowerStateConfig 0x4000).state 0x80000000
  rw [hstate, hconfigured] at hsound
  exact absurd hsound (by decide)

end FreeIpmi.Interpret
