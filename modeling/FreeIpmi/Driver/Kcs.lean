import FreeIpmi.Basic
import FreeIpmi.Lib.Interference

/-! The KCS interface: the BMC behind its two registers, and the driver in front of them.

    The BMC takes a byte from the input register (which clears `IBF`), and puts one into the output
    register (which sets `OBF`), at times of its own. Its transfer states are

        write_start            write_end, last byte         READ, no byte left
        ──────────▶  WRITE  ──────────────────────▶  READ  ──────────────────▶  IDLE
                       │                               │
                       └────────────▶ ERROR ◀──────────┘

    and a `WRITE_START` begins a transfer from any of them. -/

namespace FreeIpmi.Kcs
open Interference

/-! ### Registers -/

/-- `IPMI_KCS_REG_DATAIN`/`DATAOUT`, and `IPMI_KCS_REG_CMD`/`STATUS`. -/
inductive Register where | data | command
  deriving DecidableEq, Repr

/-- A byte written to one of the two input registers. -/
structure Input where
  register : Register
  byte : Byte
  deriving DecidableEq, Repr

/-- `IPMI_KCS_STATUS_REG_*`. -/
def statusRegState : Byte := 0xC0
def statusRegIbf : Byte := 0x02
def statusRegObf : Byte := 0x01

/-- `IPMI_KCS_STATE_IDLE`, `IPMI_KCS_STATE_READ`, `IPMI_KCS_STATE_WRITE`. -/
def stateIdle : Byte := 0x00
def stateRead : Byte := 0x40
def stateWrite : Byte := 0x80

/-- `IPMI_KCS_CTRL_WRITE_START`, `IPMI_KCS_CTRL_WRITE_END`, `IPMI_KCS_CTRL_READ`. -/
def ctrlWriteStart : Byte := 0x61
def ctrlWriteEnd : Byte := 0x62
def ctrlRead : Byte := 0x68

def writeStart : Input := ⟨.command, ctrlWriteStart⟩
def writeEnd : Input := ⟨.command, ctrlWriteEnd⟩
def readNext : Input := ⟨.data, ctrlRead⟩
def dataByte (x : Byte) : Input := ⟨.data, x⟩

/-! ### The BMC -/

inductive State where | idle | read | write | error
  deriving DecidableEq, Repr

def State.bits : State → Byte
  | .idle => 0x00
  | .read => 0x40
  | .write => 0x80
  | .error => 0xC0

structure Bmc where
  state : State
  -- what is in the input register; present exactly while `IBF` is set
  input : Option Input
  obf : Bool
  dataOut : Byte
  -- `SMS_ATN`, `C/D` and the OEM bits
  flags : Byte
  -- the request so far, and whether `WRITE_END` announced its last byte
  request : List Byte
  ending : Bool
  -- the bytes of the response not put out yet, and whether the next one may be
  response : List Byte
  ready : Bool
  -- what was taken from the input register so far, and whether this transfer went to ERROR
  taken : List Input
  failed : Bool
  deriving DecidableEq

/-- The status register. -/
def Bmc.status (b : Bmc) : Byte :=
  b.state.bits ||| (if b.input.isSome then 0x02 else 0) ||| (if b.obf then 0x01 else 0)
    ||| (b.flags &&& 0x3C)

/-- What the BMC was handed: what it took, and what waits for it. -/
def Bmc.handed (b : Bmc) : List Input := b.taken ++ b.input.toList

def Bmc.fail (b : Bmc) : Bmc := { b with state := .error, failed := true }

def Bmc.putDummy (b : Bmc) : Option Byte → Bmc
  | none => b
  | some x => { b with obf := true, dataOut := x }

/-- The request is complete or a byte was asked for: one more byte of the response, or none left. -/
def Bmc.next (b : Bmc) : Bmc :=
  match b.response with
  | [] => { b with state := .idle }
  | _ :: _ => { b with state := .read, ready := true }

/-- The input register is read; in the state WRITE a dummy byte may be put out for it. -/
def Bmc.receive (respond : List Byte → List Byte) (b : Bmc) (i : Input) (dummy : Option Byte) : Bmc :=
  if i = writeStart then
    { b with
      state := .write
      request := []
      ending := false
      response := []
      ready := false
      failed := false }.putDummy dummy
  else match b.state, i.register with
    | .error, _ => b.putDummy dummy
    | .write, .data =>
      if b.ending then
        { b with
          request := b.request ++ [i.byte]
          response := respond (b.request ++ [i.byte]) }.next
      else { b with request := b.request ++ [i.byte] }.putDummy dummy
    | .write, .command =>
      if i.byte = ctrlWriteEnd ∧ b.ending = false then { b with ending := true }.putDummy dummy
      else b.fail
    | .read, .data => if i.byte = ctrlRead ∧ b.obf = false then b.next else b.fail
    | .read, .command => b.fail
    | .idle, _ => b.fail

/-- What the BMC may do at any time; what its state does not allow does nothing. -/
inductive Action where
  | take (dummy : Option Byte)
  -- the next byte of the response is put out
  | publish
  -- the dummy byte of the state IDLE
  | signal (x : Byte)
  | abort (dummy : Option Byte)
  | flag (x : Byte)

def Bmc.step (respond : List Byte → List Byte) : Action → Bmc → Bmc
  | .take dummy, b =>
    match b.input with
    | none => b
    | some i => { b with input := none, taken := b.taken ++ [i] }.receive respond i dummy
  | .publish, b =>
    match b.response with
    | [] => b
    | x :: xs =>
      if b.state = .read ∧ b.ready = true ∧ b.obf = false then
        { b with obf := true, dataOut := x, response := xs, ready := false }
      else b
  | .signal x, b => if b.state = .idle then { b with obf := true, dataOut := x } else b
  | .abort dummy, b => if b.state = .write ∨ b.state = .read then b.fail.putDummy dummy else b
  | .flag x, b => { b with flags := x }

/-! ### The driver -/

/-- The `IPMI_KCS_ERR_*` codes that the transfers store in `ctx->errnum`. -/
inductive KcsErr where
  | parameters | ioNotInitialized | lock | busy | overflow | driverTimeout | systemError
  deriving DecidableEq, Repr

/-- Why a call does not return a value: it returns `-1`, or the read loop was not given enough rounds. -/
inductive Halt where
  | err (e : KcsErr)
  | rounds
  deriving DecidableEq, Repr

/-- What a transfer meets: a BMC that acts and answers, the mutex and the clock. -/
structure Env where
  respond : List Byte → List Byte
  schedule : ℕ → List Action
  ioInit : Bool
  locks : Bool
  -- how often a wait begun at a given access sleeps, and why it gives up then
  patience : ℕ → ℕ
  gaveUp : ℕ → KcsErr

abbrev Host (α : Type) := Prog Bmc Halt α

def Env.peer (env : Env) : Peer Bmc Action where
  step := Bmc.step env.respond
  schedule := env.schedule

variable (env : Env)

def inbStatus : Host Byte := access env.peer fun b => (b.status, b)

def inbData : Host Byte := access env.peer fun b => (b.dataOut, { b with obf := false })

def outb (register : Register) (byte : Byte) : Host Unit :=
  access env.peer fun b => ((), { b with input := some ⟨register, byte⟩ })

def ipmiKcsGetStatus : Host Byte := inbStatus env

def ipmiKcsWaitForIbfClear : Host Unit := do
  let start ← clock
  poll (ipmiKcsGetStatus env) (fun status => status &&& statusRegIbf == 0) (.err (env.gaveUp start))
    (env.patience start)

def ipmiKcsWaitForObfSet : Host Unit := do
  let start ← clock
  poll (ipmiKcsGetStatus env) (fun status => status &&& statusRegObf != 0) (.err (env.gaveUp start))
    (env.patience start)

def ipmiKcsReadByte : Host Byte := inbData env

def ipmiKcsReadNext : Host Unit := outb env .data ctrlRead

def ipmiKcsStartWrite : Host Unit := outb env .command ctrlWriteStart

def ipmiKcsWriteByte (byte : Byte) : Host Unit := outb env .data byte

def ipmiKcsEndWrite : Host Unit := outb env .command ctrlWriteEnd

def ipmiKcsTestIfState (state : Byte) : Host Bool := do
  return (← ipmiKcsGetStatus env) &&& statusRegState == state &&& statusRegState

def ipmiKcsClearObf : Host Unit := do
  if (← ipmiKcsGetStatus env) &&& statusRegObf ≠ 0 then
    let _ ← ipmiKcsReadByte env
  else
    return ()

/-- What follows each byte of a request: it is taken, the transfer goes on, the dummy byte is tossed. -/
def settleWrite : Host Unit := do
  ipmiKcsWaitForIbfClear env
  let writing ← ipmiKcsTestIfState env stateWrite
  failIf (writing = false) (.err .busy)
  ipmiKcsClearObf env

/-- The loop of `ipmi_kcs_write`: all bytes but the last, which it leaves. -/
def writeLoop : List Byte → ℕ → Host (List Byte × ℕ)
  | x :: y :: p, count => do
    ipmiKcsWriteByte env x
    settleWrite env
    writeLoop (y :: p) (count + 1)
  | p, count => return (p, count)

def ipmiKcsWrite (buf : List Byte) : Host ℕ := do
  failIf (buf = []) (.err .parameters)
  failIf (env.ioInit = false) (.err .ioNotInitialized)
  failIf (env.locks = false) (.err .lock)
  ipmiKcsWaitForIbfClear env
  ipmiKcsClearObf env
  ipmiKcsStartWrite env
  settleWrite env
  let (p, count) ← writeLoop env buf 0
  ipmiKcsEndWrite env
  settleWrite env
  ipmiKcsWriteByte env (p.headD 0)
  let count := count + 1
  failIf (intMax < count) (.err .overflow)
  return count

/-- The loop of `ipmi_kcs_read`, for at most so many rounds; `p` is what is in the buffer. -/
def readLoop (bufLen : ℕ) : ℕ → List Byte → Host (List Byte)
  | 0, _ => throw .rounds
  | rounds + 1, p => do
    if ← ipmiKcsTestIfState env stateRead then
      ipmiKcsWaitForObfSet env
      let c ← ipmiKcsReadByte env
      let p := if p.length < bufLen then p ++ [c] else p
      ipmiKcsReadNext env
      ipmiKcsWaitForIbfClear env
      readLoop bufLen rounds p
    else return p

/-- `ipmi_kcs_read`; the value is the part of `buf` that it filled, as long as the count it returns. -/
def ipmiKcsRead (bufLen rounds : ℕ) : Host (List Byte) := do
  failIf (bufLen = 0) (.err .parameters)
  failIf (env.ioInit = false) (.err .ioNotInitialized)
  ipmiKcsWaitForIbfClear env
  let reading ← ipmiKcsTestIfState env stateRead
  failIf (reading = false) (.err .busy)
  let p ← readLoop env bufLen rounds []
  let idle ← ipmiKcsTestIfState env stateIdle
  failIf (idle = false) (.err .driverTimeout)
  ipmiKcsWaitForObfSet env
  let _ ← ipmiKcsReadByte env
  failIf (bufLen < p.length) (.err .overflow)
  failIf (intMax < p.length) (.err .overflow)
  return p

/-- A request is written and its response read. -/
def transfer (request : List Byte) (bufLen rounds : ℕ) : Host (List Byte) := do
  let _ ← ipmiKcsWrite env request
  ipmiKcsRead env bufLen rounds

end FreeIpmi.Kcs
