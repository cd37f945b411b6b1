import FreeIpmi.SensorRead.Address

/-! The flags of the communication context after `ipmi_sensor_read`.

    The function sets `IPMI_FLAGS_NO_VALID_CHECK` while it waits for an answer. It takes the flag back
    when the command has succeeded, but not on the way out of a command that has failed or that must
    not be sent. -/

namespace FreeIpmi.SensorRead
open Calls Sdr

/-! ### Setting the flag -/

/-- A context has the flag or not: it is one bit. -/
theorem or_noValidCheck_iff (flags : BitVec 32) :
    flags ||| ipmiFlagsNoValidCheck = flags ↔ flags &&& ipmiFlagsNoValidCheck ≠ 0 := by
  have hbit : ipmiFlagsNoValidCheck = BitVec.twoPow 32 8 := by decide
  have hpow : BitVec.twoPow 32 8 ≠ 0 := by decide
  rw [hbit, BitVec.and_twoPow]
  constructor
  · intro hor
    have hset : flags.getLsbD 8 = true := by
      rw [← hor, BitVec.getLsbD_or, BitVec.getLsbD_twoPow]
      simp
    rwa [if_pos hset]
  · intro hand
    have hset : flags.getLsbD 8 = true := by
      by_contra hclear
      exact hand (if_neg hclear)
    apply BitVec.eq_of_getLsbD_eq
    intro j hj
    rw [BitVec.getLsbD_or, BitVec.getLsbD_twoPow]
    by_cases h8 : 8 = j
    · simp [← h8, hset]
    · simp [h8]

theorem or_noValidCheck_valid {flags : BitVec 32} (h : flags &&& ~~~ipmiFlagsMask = 0) :
    (flags ||| ipmiFlagsNoValidCheck) &&& ~~~ipmiFlagsMask = 0 := by
  rw [BitVec.and_or_distrib_right, h]
  decide

theorem or_noValidCheck_nosession (flags : BitVec 32) :
    (flags ||| ipmiFlagsNoValidCheck) &&& ipmiFlagsNosession = flags &&& ipmiFlagsNosession := by
  rw [BitVec.and_or_distrib_right]
  exact BitVec.or_zero

/-- The context while a command is under way. -/
def IpmiCtx.unchecked (ctx : IpmiCtx) : IpmiCtx :=
  ⟨ctx.flags ||| ipmiFlagsNoValidCheck, or_noValidCheck_valid ctx.valid⟩

theorem setFlags_unchecked (ctx : IpmiCtx) :
    ipmiCtxSetFlags ctx (ctx.flags ||| ipmiFlagsNoValidCheck) = some ctx.unchecked := by
  rw [ipmiCtxSetFlags, dif_pos (or_noValidCheck_valid ctx.valid), if_neg]
  · rfl
  · exact not_not.mpr (or_noValidCheck_nosession ctx.flags).symm

theorem setFlags_back (ctx : IpmiCtx) : ipmiCtxSetFlags ctx.unchecked ctx.flags = some ctx := by
  rw [ipmiCtxSetFlags, dif_pos ctx.valid, if_neg]
  exact not_not.mpr (or_noValidCheck_nosession ctx.flags)

/-! ### The command -/

/-- The command for this sensor may be sent, and succeeds. -/
def CommandSucceeds (bmc : SensorBmc) (ctx : SensorReadCtx) (address : SensorAddress) : Prop :=
  ∃ request ∈ issuedRequest ctx address,
    (bmc (ctx.ipmiCtx.flags ||| ipmiFlagsNoValidCheck) request).failed = none

section Read
variable {bmc : SensorBmc} {ctx : SensorReadCtx} {address : SensorAddress}

/-- After a failed command there is always an error. -/
theorem cornerCaseChecks_error (rs : SensorReadingRs) (a : SensorReadingRs) :
    (sensorReadingCornerCaseChecks ctx rs >>= fun _ => .error .ipmiError) ≠ .ok a := by
  intro h
  obtain ⟨_, -, h⟩ := bind_eq_ok.mp h
  cases h

theorem getSensorReading_ok_iff {sensorNumber : Byte} :
    (∃ rs, getSensorReading bmc ctx sensorNumber = .ok rs)
      ↔ (bmc ctx.ipmiCtx.flags (.bmc sensorNumber)).failed = none := by
  rw [getSensorReading]
  rcases bmc ctx.ipmiCtx.flags (.bmc sensorNumber) with ⟨- | e, rs⟩
  · simp
  · simpa using cornerCaseChecks_error rs

theorem getSensorReadingIpmb_ok_iff {slaveAddress lun channelNumber sensorNumber : Byte} :
    (∃ rs, getSensorReadingIpmb bmc ctx slaveAddress lun channelNumber sensorNumber = .ok rs)
      ↔ ctx.has sensorReadFlagsBridgeSensors = true
        ∧ (bmc ctx.ipmiCtx.flags (.ipmb channelNumber slaveAddress lun sensorNumber)).failed = none := by
  rw [getSensorReadingIpmb]
  by_cases hbridge : ctx.has sensorReadFlagsBridgeSensors = true
  · rw [if_pos hbridge]
    rcases bmc ctx.ipmiCtx.flags (.ipmb channelNumber slaveAddress lun sensorNumber) with ⟨- | e, rs⟩
    · simp [hbridge]
    · rcases e with _ | _ | _
      · simp
      · simp
      · simpa using cornerCaseChecks_error rs
  · simp [hbridge]

/-- The second stage, with the flag set, succeeds when its command does. -/
theorem requestReading_ok_iff :
    (∃ rs, requestReading bmc { ctx with ipmiCtx := ctx.ipmiCtx.unchecked } address = .ok rs)
      ↔ CommandSucceeds bmc ctx address := by
  have hhas : ∀ flag, SensorReadCtx.has { ctx with ipmiCtx := ctx.ipmiCtx.unchecked } flag
      = ctx.has flag := fun _ => rfl
  rw [requestReading, CommandSucceeds, issuedRequest]
  simp only [hhas]
  by_cases hassume : ctx.has sensorReadFlagsAssumeBmcOwner = true
  · rw [if_pos (Or.inl hassume), if_neg (by simp [hassume]), getSensorReading_ok_iff]
    simp [IpmiCtx.unchecked]
  · rw [if_pos (by simp [hassume])]
    by_cases hslave : address.slaveAddress = 0x20
    · rw [if_pos hslave, if_pos (Or.inr hslave), getSensorReading_ok_iff]
      simp [IpmiCtx.unchecked]
    · rw [if_neg hslave, if_neg (by tauto), getSensorReadingIpmb_ok_iff, hhas]
      by_cases hbridge : ctx.has sensorReadFlagsBridgeSensors = true
      · simp [hbridge, IpmiCtx.unchecked]
      · simp [hbridge]

end Read

/-! ### The whole call -/

section Call
variable {libm : Sensor.Libm} {bmc : SensorBmc} {ndebug : Bool} {ctx : SensorReadCtx} {r : List Byte}
  {o : Byte}

/-- A call that gives up on the record leaves the context alone. -/
theorem ipmiSensorRead_notAddressable (h : ¬ Addressable r o) :
    (ipmiSensorRead libm bmc ndebug ctx r o).2 = ctx := by
  rw [ipmiSensorRead]
  cases haddress : sensorAddress ndebug r o with
  | error e => rfl
  | ok address => exact absurd (sensorAddress_ok haddress) h

/-- The context after a command that succeeded, and after one that did not. -/
theorem ipmiSensorRead_succeeds (haddress : Addressable r o)
    (h : CommandSucceeds bmc ctx (addressOf r o)) :
    (ipmiSensorRead libm bmc ndebug ctx r o).2 = ctx := by
  obtain ⟨rs, hrs⟩ := requestReading_ok_iff.mpr h
  simp only [ipmiSensorRead, sensorAddress_addressable haddress, setFlags_unchecked, hrs, setFlags_back]

theorem ipmiSensorRead_fails (haddress : Addressable r o)
    (h : ¬ CommandSucceeds bmc ctx (addressOf r o)) :
    (ipmiSensorRead libm bmc ndebug ctx r o).2.ipmiCtx = ctx.ipmiCtx.unchecked := by
  simp only [ipmiSensorRead, sensorAddress_addressable haddress, setFlags_unchecked]
  cases hrs : requestReading bmc { ctx with ipmiCtx := ctx.ipmiCtx.unchecked } (addressOf r o) with
  | error e => rfl
  | ok rs => exact absurd (requestReading_ok_iff.mp ⟨rs, hrs⟩) h

/-- The flags are as before, unless a sensor that can be asked is not: the command fails, or must not
    be sent, and the flag was clear. -/
theorem ipmiSensorRead_restores_iff (libm : Sensor.Libm) (bmc : SensorBmc) (ndebug : Bool)
    (ctx : SensorReadCtx) (r : List Byte) (o : Byte) :
    (ipmiSensorRead libm bmc ndebug ctx r o).2.ipmiCtx.flags = ctx.ipmiCtx.flags
      ↔ ctx.ipmiCtx.flags &&& ipmiFlagsNoValidCheck ≠ 0 ∨ ¬ Addressable r o
        ∨ CommandSucceeds bmc ctx (addressOf r o) := by
  by_cases haddress : Addressable r o
  · by_cases hsucceeds : CommandSucceeds bmc ctx (addressOf r o)
    · rw [ipmiSensorRead_succeeds haddress hsucceeds]
      simp [hsucceeds]
    · rw [ipmiSensorRead_fails haddress hsucceeds, IpmiCtx.unchecked, or_noValidCheck_iff]
      simp [haddress, hsucceeds]
  · rw [ipmiSensorRead_notAddressable haddress]
    simp [haddress]

end Call

/-- An object of which nothing is set. -/
def emptyRs : SensorReadingRs where
  obj := (Fiid.fiidObjCreate true tmplCmdGetSensorReadingRs).get (by decide)
  of := (Fiid.create_wf (Option.some_get _).symm).of

/-- A BMC that does not answer. -/
def silentBmc : SensorBmc := fun _ _ => ⟨some .messageTimeout, emptyRs⟩

/-- No flag is set, in either context. -/
def plainCtx : SensorReadCtx := ⟨0, ⟨0, by decide⟩⟩

/-- Reading a sensor of a BMC that does not answer leaves the check of the responses off. -/
theorem ipmiSensorRead_not_restores :
    ¬ ∀ (libm : Sensor.Libm) (bmc : SensorBmc) (ndebug : Bool) (ctx : SensorReadCtx) (r : List Byte)
      (o : Byte), (ipmiSensorRead libm bmc ndebug ctx r o).2.ipmiCtx.flags = ctx.ipmiCtx.flags := by
  intro h
  have haddress : Addressable sharedRecord 0 := ⟨by decide, by decide, by decide, Or.inl rfl⟩
  have hfails : ¬ CommandSucceeds silentBmc plainCtx (addressOf sharedRecord 0) := by
    rintro ⟨request, -, hnone⟩
    cases hnone
  have hflags := h ⟨id, id, id, id, id, id, id, id⟩ silentBmc false plainCtx sharedRecord 0
  rw [ipmiSensorRead_fails haddress hfails] at hflags
  exact absurd hflags (by decide)

end FreeIpmi.SensorRead
