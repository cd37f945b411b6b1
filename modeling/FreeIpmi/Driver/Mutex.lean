import FreeIpmi.Basic
import FreeIpmi.Lib.Semaphore

/-! The mutex of the KCS and SSIF drivers.

    One semaphore, found by its IPC key, guards the interface for all processes of the machine. The
    write of a request takes it, and the read of the response releases it, so a process has the
    interface from its write to its read. The read releases the semaphore whether or not the process
    holds it, and `ipmi_*_cmd` forgets it when it gives up between the two. -/

namespace FreeIpmi.Driver
open Semaphore

/-! ### The calls -/

/-- What the calls attempt, and may fail at. -/
inductive Fault where
  -- the transfer of the request, and of the response: the bus, its time-outs, a busy interface
  | send | receive
  -- `_ipmi_*_cmd_write`
  | rqHdrLen | rqCmdLen | rqObjCreate | rqMalloc | fillHdr | assemble
  -- `_ipmi_*_cmd_read`, before and after the read
  | rsHdrLen | rsTemplate | rsCmdLen | rsObjCreate | rsMalloc
  | rsEmpty | unassemble | rsIncomplete
  deriving DecidableEq

/-- The checks that `ipmi_*_write` and `ipmi_*_read` make of their arguments. -/
structure Args where
  ctx : Bool
  buf : Bool
  ioInit : Bool
  deriving DecidableEq

/-- The checks that `ipmi_*_cmd` makes of its arguments. -/
structure CmdArgs where
  ctx : Bool
  parameters : Bool
  ioInit : Bool
  deriving DecidableEq

/-- A packet that the driver itself made, for a context it has checked. -/
def Args.internal : Args := ⟨true, true, true⟩

abbrev Call := Prog Fault Bool

/-- The write of a request; the value tells whether it succeeded. -/
def driverWrite (a : Args) : Call := do
  if a.ctx = false then return false
  if a.buf = false then return false
  if a.ioInit = false then return false
  if ← takeLock then
    enterSection
    if ← attempt .send then return true
    else
      leaveSection
      release
      return false
  else return false

/-- The read of a response; only a bad context keeps it from releasing the semaphore. -/
def driverRead (a : Args) : Call := do
  if a.ctx = false then return false
  let rv ← if a.buf = false then pure false
    else if a.ioInit = false then pure false
    else attempt .receive
  leaveSection
  release
  return rv

def driverCmdWrite (write : Args → Call) : Call := do
  if ← attempts [.rqHdrLen, .rqCmdLen, .rqObjCreate, .rqMalloc, .fillHdr, .assemble] then
    write .internal
  else return false

def driverCmdRead (read : Args → Call) : Call := do
  if ← attempts [.rsHdrLen, .rsTemplate, .rsCmdLen, .rsObjCreate, .rsMalloc] then
    if ← read .internal then attempts [.rsEmpty, .unassemble, .rsIncomplete]
    else return false
  else return false

def driverCmd (cmdWrite cmdRead : Call) (a : CmdArgs) : Call := do
  if a.ctx = false then return false
  if a.parameters = false then return false
  if a.ioInit = false then return false
  if ← cmdWrite then cmdRead
  else return false

def ipmiKcsWrite : Args → Call := driverWrite

def ipmiKcsRead : Args → Call := driverRead

def ipmiKcsCmdWrite : Call := driverCmdWrite ipmiKcsWrite

def ipmiKcsCmdRead : Call := driverCmdRead ipmiKcsRead

def ipmiKcsCmd : CmdArgs → Call := driverCmd ipmiKcsCmdWrite ipmiKcsCmdRead

def ipmiSsifWrite : Args → Call := driverWrite

def ipmiSsifRead : Args → Call := driverRead

def ipmiSsifCmdWrite : Call := driverCmdWrite ipmiSsifWrite

def ipmiSsifCmdRead : Call := driverCmdRead ipmiSsifRead

def ipmiSsifCmd : CmdArgs → Call := driverCmd ipmiSsifCmdWrite ipmiSsifCmdRead

inductive Interface where | kcs | ssif
  deriving DecidableEq

/-- A call that a process makes. -/
inductive Request where
  | write (interface : Interface) (a : Args)
  | read (interface : Interface) (a : Args)
  | cmd (interface : Interface) (a : CmdArgs)
  deriving DecidableEq

def Request.program : Request → Call
  | .write .kcs a => ipmiKcsWrite a
  | .write .ssif a => ipmiSsifWrite a
  | .read .kcs a => ipmiKcsRead a
  | .read .ssif a => ipmiSsifRead a
  | .cmd .kcs a => ipmiKcsCmd a
  | .cmd .ssif a => ipmiSsifCmd a

def Request.isCmd : Request → Prop
  | .cmd _ _ => True
  | _ => False

abbrev Processes (ι : Type) := Sys ι Request Fault Bool

/-! ### Terms of use -/

/-- A read of a valid context belongs to a write of the same process, and a command does not come between
    the two. -/
def Request.may : Request → Hold → Prop
  | .write _ _, _ => True
  | .read _ a, h => a.ctx = true → h.inside = true
  | .cmd _ _, h => h.inside = false

/-- What a command attempts after the write and before the read. -/
def Fault.beforeRead (f : Fault) : Prop :=
  f ∈ [Fault.rsHdrLen, .rsTemplate, .rsCmdLen, .rsObjCreate, .rsMalloc]

/-- How a call leaves the process. -/
def Request.post : Request → Hold → Prop
  | .cmd _ _, h => h = ⟨false, false⟩
  | _, h => h.holds = h.inside

section Programs
variable {h : Hold}

theorem driverWrite_keeps (a : Args) (hh : h.holds = h.inside) : (driverWrite a).Keeps Fault.beforeRead
    (fun r h' => h' = (if r then ⟨true, true⟩ else h)) h := by
  unfold driverWrite
  refine Prog.Keeps.ite (fun _ => rfl) fun _ => ?_
  refine Prog.Keeps.ite (fun _ => rfl) fun _ => ?_
  refine Prog.Keeps.ite (fun _ => rfl) fun _ => ⟨fun hfree => ?_, rfl⟩
  have hout : h = ⟨false, false⟩ := by
    rcases h with ⟨x, y⟩
    simp_all
  subst hout
  exact ⟨rfl, rfl, fun _ => ⟨rfl, rfl, rfl⟩⟩

theorem driverRead_keeps (a : Args) (hctx : a.ctx = true) : (driverRead a).Keeps Fault.beforeRead
    (fun _ h' => h' = ⟨false, false⟩) ⟨true, true⟩ := by
  unfold driverRead
  refine Prog.Keeps.ite (fun hc => by simp [hctx] at hc) fun _ => ?_
  -- every way to the end releases the semaphore
  refine Prog.Keeps.ite (fun _ => ⟨rfl, rfl, rfl⟩) fun _ => ?_
  refine Prog.Keeps.ite (fun _ => ⟨rfl, rfl, rfl⟩) fun _ => ?_
  exact ⟨⟨rfl, rfl, rfl⟩, fun _ => ⟨rfl, rfl, rfl⟩⟩

/-- A command takes the semaphore and releases it, unless it gives up between write and read. -/
theorem driverCmd_keeps (a : CmdArgs) : (driverCmd (driverCmdWrite driverWrite)
    (driverCmdRead driverRead) a).Keeps Fault.beforeRead (fun _ h' => h' = ⟨false, false⟩)
      ⟨false, false⟩ := by
  unfold driverCmd
  refine Prog.Keeps.ite (fun _ => rfl) fun _ => ?_
  refine Prog.Keeps.ite (fun _ => rfl) fun _ => ?_
  refine Prog.Keeps.ite (fun _ => rfl) fun _ => ?_
  refine Prog.Keeps.bind (Q := fun r h => h = (if r then ⟨true, true⟩ else ⟨false, false⟩)) ?_
    fun r h hh => ?_
  · refine (keeps_attempts _).bind fun r h hh => Prog.Keeps.ite (fun _ => ?_) fun _ => ?_
    · rw [hh.1]
      exact driverWrite_keeps _ rfl
    · exact hh.1
  · subst hh
    refine Prog.Keeps.ite (fun hr => ?_) fun hr => ?_
    · rw [if_pos hr]
      unfold driverCmdRead
      refine (keeps_attempts _).bind fun r' h hh => ?_
      obtain ⟨rfl, hall⟩ := hh
      rw [if_pos (hall fun f hf => hf)]
      refine (driverRead_keeps _ rfl).bind fun r'' h hh => ?_
      subst hh
      refine Prog.Keeps.ite (fun _ => ?_) fun _ => rfl
      exact (keeps_attempts _).mono fun _ _ hq => hq.1
    · rw [if_neg hr]
      rfl

end Programs

/-- The processes read what they wrote, and nothing fails between the two parts of a command. -/
def terms : Terms Request.program where
  may := Request.may
  works := Fault.beforeRead
  post := Request.post
  settled c h hpost := by
    cases c with
    | write i a => exact hpost
    | read i a => exact hpost
    | cmd i a =>
      rw [show h = ⟨false, false⟩ from hpost]
  keeps c h hh hmay := by
    cases c with
    | write i a =>
      have hw := (driverWrite_keeps a hh).mono (P := fun _ h' => h'.holds = h'.inside) fun r h' hr => by
        subst hr
        cases r
        · exact hh
        · rfl
      cases i <;> exact hw
    | read i a =>
      have hr : (driverRead a).Keeps Fault.beforeRead (fun _ h' => h'.holds = h'.inside) h := by
        by_cases hctx : a.ctx = true
        · have hin : h = ⟨true, true⟩ := by
            have hinside : h.inside = true := hmay hctx
            rcases h with ⟨x, y⟩
            simp_all
          subst hin
          exact (driverRead_keeps a hctx).mono fun _ _ hq => by rw [hq]
        · unfold driverRead
          rw [if_pos (by simpa using hctx)]
          exact hh
      cases i <;> exact hr
    | cmd i a =>
      have hout : h = ⟨false, false⟩ := by
        have hinside : h.inside = false := hmay
        rcases h with ⟨x, y⟩
        simp_all
      subst hout
      cases i <;> exact driverCmd_keeps a

/-! ### Discipline -/

/-- In every run in which each read of a valid context is made by a process that is between its write
    and its read, no command is, and no command fails between its write and its read, the mutex is
    used as it should be. -/
theorem reached_disciplined {ι : Type} [DecidableEq ι] (s : Processes ι)
    (h : Reached Request.program terms.Allowed s) : s.Disciplined Request.isCmd := by
  refine h.inv.disciplined fun c h hcmd hpost => ?_
  cases c with
  | write i a => exact hcmd.elim
  | read i a => exact hcmd.elim
  | cmd i a => rw [show h = ⟨false, false⟩ from hpost]

/-- A command for which everything works. -/
theorem reached_disciplined_sample : ∃ s : Processes ℕ, s.running 0 = none
    ∧ s.last 0 = some (.cmd .kcs ⟨true, true, true⟩) ∧ s.Disciplined Request.isCmd := by
  have hrun : (((Sys.init : Processes ℕ).resume 0 (.cmd .kcs ⟨true, true, true⟩)
      (Request.cmd .kcs ⟨true, true, true⟩).program).exec Request.program
        (List.replicate 21 (.go 0 true))).any (fun s =>
          (s.running 0).isNone && s.last 0 == some (.cmd .kcs ⟨true, true, true⟩)) = true := by
    decide +kernel
  obtain ⟨s, hs, h⟩ := (Option.any_eq_true _ _).mp hrun
  simp only [Bool.and_eq_true, Option.isNone_iff_eq_none, beq_iff_eq] at h
  have hstart : Reached Request.program terms.Allowed ((Sys.init : Processes ℕ).resume 0
      (.cmd .kcs ⟨true, true, true⟩) (Request.cmd .kcs ⟨true, true, true⟩).program) :=
    Reached.init.step (e := .start 0 (.cmd .kcs ⟨true, true, true⟩)) rfl rfl
  exact ⟨s, h.1, h.2, reached_disciplined s (hstart.go 21 hs)⟩

/-- A command that cannot allocate the object for the header of the response. -/
def forgetful : List (Step ℕ Request) :=
  .start 0 (.cmd .kcs ⟨true, true, true⟩) ::
    -- `_ipmi_kcs_cmd_write` and the write, then `_ipmi_kcs_cmd_read` up to `fiid_obj_create`
    ((List.replicate 9 true ++ [true, true, true, false, true]).map fun answer => .go 0 answer)

/-- A read without a write before it, and two other processes that write. -/
def stealing : List (Step ℕ Request) :=
  .start 0 (.read .kcs ⟨true, true, true⟩) :: List.replicate 4 (.go 0 true) ++
    .start 1 (.write .kcs ⟨true, true, true⟩) :: List.replicate 3 (.go 1 true) ++
    .start 2 (.write .ssif ⟨true, true, true⟩) :: List.replicate 3 (.go 2 true)

/-- The command has returned, and the semaphore is held by its caller for good; and the read has released
    a semaphore it did not hold, so that two processes are inside at the same time. -/
theorem mutex_misused :
    (∃ s : Processes ℕ, Reached Request.program (fun _ _ => True) s ∧ s.running 0 = none
      ∧ s.last 0 = some (.cmd .kcs ⟨true, true, true⟩) ∧ (s.hold 0).holds = true)
    ∧ (∃ s : Processes ℕ, Reached Request.program (fun _ _ => True) s ∧ s.stolen = true
      ∧ (s.hold 1).inside = true ∧ (s.hold 2).inside = true)
    ∧ ¬ ∀ s : Processes ℕ, Reached Request.program (fun _ _ => True) s → s.Disciplined Request.isCmd := by
  have hforget : ((Sys.init : Processes ℕ).exec Request.program forgetful).any (fun s =>
      (s.running 0).isNone && s.last 0 == some (.cmd .kcs ⟨true, true, true⟩) && (s.hold 0).holds)
        = true := by decide +kernel
  have hsteal : ((Sys.init : Processes ℕ).exec Request.program stealing).any (fun s =>
      s.stolen && (s.hold 1).inside && (s.hold 2).inside) = true := by decide +kernel
  obtain ⟨s, hs, h⟩ := (Option.any_eq_true _ _).mp hforget
  obtain ⟨s', hs', h'⟩ := (Option.any_eq_true _ _).mp hsteal
  simp only [Bool.and_eq_true, Option.isNone_iff_eq_none, beq_iff_eq] at h h'
  refine ⟨⟨s, Reached.init.exec hs, h.1.1, h.1.2, h.2⟩, ⟨s', Reached.init.exec hs', h'.1.1, h'.1.2, h'.2⟩,
    fun hall => ?_⟩
  have hreleased := (hall s (Reached.init.exec hs)).released 0 _ h.1.1 h.1.2 trivial
  simp [h.2] at hreleased

end FreeIpmi.Driver
