import FreeIpmi.Lib.Lanes
import FreeIpmi.Power.Moves

/-! The pending power commands (`ipmipower_powercmd.c`).

    `ipmipower_powercmd_queue` appends a command to `pending`, and with the OEM power type C410X to the
    chain of the command for the same host. `ipmipower_powercmd_process_pending` visits the list once; a
    command that is over is deleted, and the rest of its chain goes to `add_to_pending` and from there
    to the end of the list. Each visit is a step of its own, so that what holds of every state reached
    holds at any time. The scheduler is a board of jobs in lanes: `step_board`. -/

namespace FreeIpmi.Power
open Lanes Calls

/-- A command, and how many were queued before it. -/
structure Entry where
  id : ℕ
  ip : Powercmd

/-- The command has left `IPMIPOWER_PROTOCOL_STATE_START`. -/
def Entry.executing (e : Entry) : Bool := e.ip.protocolState ≠ .start

/-- `pending` and `add_to_pending`, and a record of what was queued, started and deleted. -/
structure Scheduler where
  -- `pending`, where the iterator has been and where it has not; the chains are `ip->next`
  before : List (Lane Entry)
  after : List (Lane Entry)
  addToPending : List (Lane Entry)
  executingCount : ℤ
  -- `ipmipower_powercmd_process_pending` has been called
  processing : Bool
  -- `ipmi_requester_sequence_number_counter` of the connections
  counters : ℕ → ℕ
  queued : List Entry
  started : List Entry
  finished : List Entry

/-- After `ipmipower_powercmd_setup`. -/
def Scheduler.setup (counters : ℕ → ℕ) : Scheduler where
  before := []
  after := []
  addToPending := []
  executingCount := 0
  processing := false
  counters := counters
  queued := []
  started := []
  finished := []

/-- `tolower` in the C locale. -/
def tolower (c : Byte) : Byte := if 0x41 ≤ c ∧ c ≤ 0x5A then c + 0x20 else c

/-- What `strcasecmp` compares of the name of a command's host. -/
def hostOf (cfg : Config) (e : Entry) : List Byte := (cfg.hostname e.ip.ic).map tolower

/-- `IPMI_PRIVILEGE_LEVEL_USER` and `_OPERATOR`. -/
def privilegeLevelUser : ℕ := 0x02
def privilegeLevelOperator : ℕ := 0x03

/-- `ipmipower_oem_power_cmd_check_support_and_privilege`, for the type C410X. -/
def c410xSupports (cfg : Config) : PowerCmd → Bool
  | .powerStatus => true
  | .powerOff | .powerOn =>
    cfg.privilegeLevel ≠ privilegeLevelUser ∧ cfg.privilegeLevel ≠ privilegeLevelOperator
  | _ => false

/-- The `ipmipower_powercmd` that is queued; the message tag and the session id are random. -/
def newPowercmd (cfg : Config) (cmd : PowerCmd) (ic : ℕ) (extraArg : Option (List Byte))
    (initialMessageTag : BitVec 8) (remoteConsoleSessionId : ℕ) : Powercmd where
  cmd := cmd
  protocolState := .start
  retransmissionCount := 0
  closeTimeout := 0
  sessionInboundCount := 0
  window := Util.checkSessionSequenceNumberInit
  permsgauthEnabled := false
  requestedMaximumPrivilegeLevel :=
    if cfg.workarounds.intel20Session ∨ cfg.workarounds.sun20Session
        ∨ cfg.workarounds.openSessionPrivilege then cfg.privilegeLevel
    else 0
  initialMessageTag := initialMessageTag
  messageTagCount := 0
  sessionSequenceNumber := 0
  remoteConsoleSessionId := remoteConsoleSessionId
  waitUntilOnState := 0
  waitUntilOffState := 0
  ic := ic
  rs := {}
  activateSessionId := none
  extraArg := if cfg.oemPowerType = .none then none else extraArg
  outputs := []

/-- What happens: a command is queued, or the list is processed, visit after visit. -/
inductive Event where
  | queue (cmd : PowerCmd) (ic : ℕ) (extraArg : Option (List Byte)) (initialMessageTag : BitVec 8)
      (remoteConsoleSessionId : ℕ)
  | process
  | visit (v : Visit)
  | finish

/-- `ipmipower_powercmd_queue`. -/
def Scheduler.queue (cfg : Config) (s : Scheduler) (ip : Powercmd) : Scheduler :=
  let e : Entry := ⟨s.queued.length, ip⟩
  { s with
    before := if cfg.oemPowerType = .c410x then join (hostOf cfg) e s.before else s.before ++ [⟨e, []⟩]
    queued := s.queued ++ [e] }

/-- One round of the loop of `ipmipower_powercmd_process_pending`. -/
def Scheduler.visit (cfg : Config) (s : Scheduler) (l : Lane Entry) (rest : List (Lane Entry))
    (a : Visited) : Scheduler :=
  let e : Entry := { l.head with ip := a.active.ip }
  let s := { s with
    after := rest
    counters := Function.update s.counters e.ip.ic a.active.counter
    started := if !l.head.executing && e.executing then s.started ++ [e] else s.started }
  if a.finished then
    { s with
      addToPending := if cfg.oemPowerType = .c410x then s.addToPending ++ l.next else s.addToPending
      executingCount := a.executingCount - 1
      finished := s.finished ++ [e] }
  else
    { s with
      before := s.before ++ [{ l with head := e }]
      executingCount := a.executingCount }

/-- One step; `none` where the event cannot happen, or the program ends. -/
def Scheduler.step (cfg : Config) (s : Scheduler) : Event → Option Scheduler
  | .queue cmd ic extraArg tag id =>
    if s.processing then none
    else if cfg.oemPowerType = .c410x ∧ ¬ c410xSupports cfg cmd then none
    else some (s.queue cfg (newPowercmd cfg cmd ic extraArg tag id))
  | .process =>
    if s.processing ∨ s.before.isEmpty then none
    else some { s with processing := true, before := [], after := s.before }
  | .visit v =>
    match s.processing, s.after with
    | true, l :: rest =>
      match processIpmiPackets cfg s.executingCount ⟨l.head.ip, s.counters l.head.ip.ic⟩ v with
      | .ok a => some (s.visit cfg l rest a)
      | .error _ => none
    | _, _ => none
  | .finish =>
    if s.processing ∧ s.after.isEmpty then
      some { s with processing := false, before := s.before ++ s.addToPending, addToPending := [] }
    else none

/-- The states of the runs whose events are all allowed. -/
inductive Reached (cfg : Config) (allowed : Scheduler → Event → Prop) : Scheduler → Prop where
  | setup (counters : ℕ → ℕ) : Reached cfg allowed (Scheduler.setup counters)
  | step {s s' : Scheduler} {e : Event} (before : Reached cfg allowed s) (may : allowed s e)
      (next : s.step cfg e = some s') : Reached cfg allowed s'

/-- `pending`. -/
def Scheduler.pending (s : Scheduler) : List (Lane Entry) := s.before ++ s.after

/-- A run of events. -/
def Scheduler.exec (cfg : Config) : Scheduler → List Event → Option Scheduler
  | s, [] => some s
  | s, e :: es => (s.step cfg e).bind fun s' => s'.exec cfg es

theorem Reached.exec {cfg : Config} {allowed : Scheduler → Event → Prop} {s s' : Scheduler}
    {es : List Event} (h : Reached cfg allowed s) (may : ∀ e ∈ es, ∀ s, allowed s e)
    (hs : s.exec cfg es = some s') : Reached cfg allowed s' := by
  induction es generalizing s with
  | nil =>
    obtain rfl := Option.some.inj hs
    exact h
  | cons e es ih =>
    obtain ⟨s₁, h₁, h₂⟩ := Option.bind_eq_some_iff.mp hs
    obtain ⟨mayHead, mayTail⟩ := List.forall_mem_cons.mp may
    exact ih (h.step (mayHead s) h₁) mayTail h₂

/-! ### The scheduler as a board -/

variable {cfg : Config} {s s' : Scheduler}

/-- A command as a job of its host. -/
def Entry.job (cfg : Config) (e : Entry) : Job (List Byte) := ⟨e.id, hostOf cfg e, e.executing⟩

/-- When a command was queued, and for which host. -/
def Entry.ticket (cfg : Config) (e : Entry) : ℕ × List Byte := (e.id, hostOf cfg e)

def Scheduler.board (cfg : Config) (s : Scheduler) : Board (List Byte) where
  before := s.before.map (Lane.map (Entry.job cfg))
  after := s.after.map (Lane.map (Entry.job cfg))
  arriving := s.addToPending.map (Lane.map (Entry.job cfg))
  busy := s.executingCount
  queued := s.queued.map (Entry.ticket cfg)
  started := s.started.map (Entry.ticket cfg)
  finished := s.finished.map (Entry.ticket cfg)

/-- Commands for one host are serialised. -/
def Config.serial (cfg : Config) : Bool := cfg.oemPowerType = .c410x

/-- The board is valid, and between two calls the iterator is at the start of the list. -/
structure Scheduled (cfg : Config) (s : Scheduler) : Prop where
  valid : (s.board cfg).Valid cfg.serial cfg.fanout
  idle : s.processing = false → s.after = [] ∧ s.addToPending = []

theorem board_queue (ip : Powercmd) (hs : ip.protocolState = .start) :
    (s.queue cfg ip).board cfg = (s.board cfg).enqueue cfg.serial (hostOf cfg ⟨s.queued.length, ip⟩) := by
  have hjob : Entry.job cfg ⟨s.queued.length, ip⟩
      = ⟨s.queued.length, hostOf cfg ⟨s.queued.length, ip⟩, false⟩ := by
    simp [Entry.job, Entry.executing, hs]
  have hbefore : ((s.queue cfg ip).board cfg).before
      = Board.add cfg.serial (Entry.job cfg ⟨s.queued.length, ip⟩) (s.board cfg).before := by
    by_cases hc : cfg.oemPowerType = .c410x
    · simp only [Scheduler.board, Scheduler.queue, Board.add, Config.serial, hc, decide_true, if_true]
      exact map_join (Entry.job cfg) Job.key _ _
    · simp [Scheduler.board, Scheduler.queue, Board.add, Config.serial, hc, Lane.map]
  rw [hjob] at hbefore
  simp only [Scheduler.board, Scheduler.queue] at hbefore
  simp [Scheduler.board, Scheduler.queue, Board.enqueue, hbefore, Entry.ticket]

section visit
variable {l : Lane Entry} {rest : List (Lane Entry)} {v : Visit} {a : Visited}

theorem board_after (hafter : s.after = l :: rest) : (s.board cfg).after
    = l.map (Entry.job cfg) :: rest.map (Lane.map (Entry.job cfg)) := by
  simp [Scheduler.board, hafter]

/-- A visit that leaves the host and whether the command is executing. -/
theorem board_visit_keep (hafter : s.after = l :: rest) (hfinished : a.finished = false)
    (hic : a.active.ip.ic = l.head.ip.ic)
    (hexec : (⟨l.head.id, a.active.ip⟩ : Entry).executing = l.head.executing)
    (hcount : a.executingCount = s.executingCount) :
    (s.board cfg).Step cfg.serial cfg.fanout ((s.visit cfg l rest a).board cfg) := by
  have hjob : Entry.job cfg ⟨l.head.id, a.active.ip⟩ = Entry.job cfg l.head := by
    simp [Entry.job, hostOf, hic, hexec]
  have hboard : (s.visit cfg l rest a).board cfg = { s.board cfg with
      before := (s.board cfg).before ++ [l.map (Entry.job cfg)]
      after := rest.map (Lane.map (Entry.job cfg)) } := by
    simp [Scheduler.visit, Scheduler.board, hfinished, hexec, hcount, Lane.map, hjob]
  rw [hboard]
  exact .keep (board_after hafter)

/-- A visit that starts the command. -/
theorem board_visit_start (hafter : s.after = l :: rest) (hfinished : a.finished = false)
    (hic : a.active.ip.ic = l.head.ip.ic) (hidle : l.head.executing = false)
    (hexec : (⟨l.head.id, a.active.ip⟩ : Entry).executing = true)
    (hlimit : cfg.fanout ≠ 0 → s.executingCount < cfg.fanout)
    (hcount : a.executingCount = s.executingCount + 1) :
    (s.board cfg).Step cfg.serial cfg.fanout ((s.visit cfg l rest a).board cfg) := by
  have hhost : hostOf cfg ⟨l.head.id, a.active.ip⟩ = hostOf cfg l.head := by simp [hostOf, hic]
  have hboard : (s.visit cfg l rest a).board cfg = (s.board cfg).start (l.map (Entry.job cfg))
      (rest.map (Lane.map (Entry.job cfg))) := by
    simp [Scheduler.visit, Scheduler.board, Board.start, Board.startHead, hfinished, hidle, hexec,
      hcount, Lane.map, Entry.job, Entry.ticket, Job.ticket, hhost]
  rw [hboard]
  exact .start (board_after hafter) hidle hlimit

/-- A visit after which the command is over. -/
theorem board_visit_finish (h : Scheduled cfg s) (hafter : s.after = l :: rest)
    (hfinished : a.finished = true) (hic : a.active.ip.ic = l.head.ip.ic)
    (hexec : l.head.executing = true) (hcount : a.executingCount = s.executingCount) :
    (s.board cfg).Step cfg.serial cfg.fanout ((s.visit cfg l rest a).board cfg) := by
  have hhost : hostOf cfg ⟨l.head.id, a.active.ip⟩ = hostOf cfg l.head := by simp [hostOf, hic]
  have hnext : cfg.oemPowerType ≠ .c410x → l.next = [] := by
    intro hc
    have halone := h.valid.alone (by simpa [Config.serial] using hc) (l.map (Entry.job cfg))
      (by simp [Board.lanes, board_after hafter])
    rw [Lane.next, List.map_eq_nil_iff.mp halone]
  have hticket : (l.map (Entry.job cfg)).head.ticket = Entry.ticket cfg ⟨l.head.id, a.active.ip⟩ := by
    simp [Lane.map, Entry.job, Job.ticket, Entry.ticket, hhost]
  have hboard : (s.visit cfg l rest a).board cfg = (s.board cfg).finish (l.map (Entry.job cfg))
      (rest.map (Lane.map (Entry.job cfg))) := by
    by_cases hc : cfg.oemPowerType = .c410x
    · simp [Scheduler.visit, Scheduler.board, Board.finish, hfinished, hexec, hc, hcount, map_next, hticket]
    · simp [Scheduler.visit, Scheduler.board, Board.finish, hfinished, hexec, hc, hcount, map_next,
        hnext hc, hticket]
  rw [hboard]
  exact .finish (board_after hafter) hexec

theorem executing_of_sent {id : ℕ} {ip : Powercmd} {pkt : PacketType}
    (hs : ip.protocolState = .sent pkt) : (⟨id, ip⟩ : Entry).executing = true := by
  simp [Entry.executing, hs]

theorem executing_eq {id : ℕ} {ip ip' : Powercmd} {pkt pkt' : PacketType}
    (hs : ip.protocolState = .sent pkt) (hs' : ip'.protocolState = .sent pkt') :
    (⟨id, ip'⟩ : Entry).executing = (⟨id, ip⟩ : Entry).executing :=
  (executing_of_sent hs').trans (executing_of_sent hs).symm

/-- Every visit is a step of the board. -/
theorem step_board_visit (h : Scheduled cfg s) (hafter : s.after = l :: rest) {counter : ℕ}
    (hmoved : Moved cfg s.executingCount ⟨l.head.ip, counter⟩ v a) :
    (s.board cfg).Step cfg.serial cfg.fanout ((s.visit cfg l rest a).board cfg) := by
  cases hmoved with
  | waits hs => exact board_visit_keep hafter rfl rfl rfl rfl
  | starts hs hlimit hl hs' hpkt =>
    have hidle : l.head.executing = false := by simpa [Entry.executing] using hs
    exact board_visit_start hafter rfl (congrArg Log.ic hl) hidle (executing_of_sent hs') hlimit rfl
  | goesOn hs hs' hl =>
    exact board_visit_keep hafter rfl (congrArg Log.ic hl) (executing_eq hs hs') rfl
  | closes hs hpkt hs' hl =>
    exact board_visit_keep hafter rfl (congrArg Log.ic hl) (executing_eq hs hs') rfl
  | silent hs hrefused hs' hl =>
    exact board_visit_keep hafter rfl (congrArg Log.ic hl) (executing_eq hs hs') rfl
  | ends hs hs' hl =>
    have hexec : l.head.executing = true := by simpa [Entry.executing] using hs
    exact board_visit_finish h hafter rfl (congrArg Log.ic hl) hexec rfl
  | closed hs hl => exact board_visit_finish h hafter rfl (congrArg Log.ic hl) (executing_of_sent hs) rfl

end visit

/-- What a step that is a visit does. -/
theorem step_visit {v : Visit} (hs : s.step cfg (.visit v) = some s') :
    s.processing = true ∧ ∃ l rest a, s.after = l :: rest ∧ s' = s.visit cfg l rest a
      ∧ Moved cfg s.executingCount ⟨l.head.ip, s.counters l.head.ip.ic⟩ v a := by
  simp only [Scheduler.step] at hs
  split at hs
  next l rest hprocessing hafter =>
    split at hs
    next a hvisit =>
      obtain rfl := Option.some.inj hs
      exact ⟨hprocessing, l, rest, a, hafter, rfl, (visit_moved _ _ _ _).value a hvisit⟩
    next => cases hs
  next => cases hs

theorem visit_processing (cfg : Config) (s : Scheduler) (l : Lane Entry) (rest : List (Lane Entry))
    (a : Visited) : (s.visit cfg l rest a).processing = s.processing := by
  unfold Scheduler.visit
  split <;> rfl

theorem Scheduled.setup (counters : ℕ → ℕ) : Scheduled cfg (Scheduler.setup counters) :=
  ⟨Board.valid_empty, fun _ => ⟨rfl, rfl⟩⟩

theorem Scheduled.step {e : Event} (h : Scheduled cfg s) (hs : s.step cfg e = some s') :
    Scheduled cfg s' := by
  cases e with
  | queue cmd ic extraArg tag id =>
    simp only [Scheduler.step] at hs
    split at hs
    next => cases hs
    next hprocessing =>
      split at hs
      next => cases hs
      next =>
        obtain rfl := Option.some.inj hs
        obtain ⟨hafter, hadd⟩ := h.idle (by simpa using hprocessing)
        refine ⟨?_, h.idle⟩
        rw [board_queue _ rfl]
        exact h.valid.step (.enqueue _ (by simp [Scheduler.board, hafter]) (by simp [Scheduler.board, hadd]))
  | process =>
    simp only [Scheduler.step] at hs
    split at hs
    next => cases hs
    next hc =>
      obtain rfl := Option.some.inj hs
      obtain ⟨hafter, -⟩ := h.idle (by simpa using fun hp => hc (.inl hp))
      exact ⟨h.valid.step (.begin (by simp [Scheduler.board, hafter])), by simp⟩
  | visit v =>
    obtain ⟨hprocessing, l, rest, a, hafter, rfl, hmoved⟩ := step_visit hs
    refine ⟨h.valid.step (step_board_visit h hafter hmoved), fun hp => ?_⟩
    rw [visit_processing, hprocessing] at hp
    cases hp
  | finish =>
    simp only [Scheduler.step] at hs
    split at hs
    next hc =>
      obtain rfl := Option.some.inj hs
      have hafter : s.after = [] := by simpa using hc.2
      refine ⟨?_, fun _ => ⟨hafter, rfl⟩⟩
      have hvalid := h.valid.step (.done (by simp [Scheduler.board, hafter]))
      simpa [Scheduler.board] using hvalid
    next => cases hs

theorem Reached.scheduled {allowed : Scheduler → Event → Prop} (h : Reached cfg allowed s) :
    Scheduled cfg s := by
  induction h with
  | setup counters => exact .setup counters
  | step before may next ih => exact ih.step next

/-! ### Scheduling -/

/-- In every run and at any time: the counter is right and within the fanout, no two commands for one
    host are pending if they are serialised, and they are started in their order; and every command
    that was queued is in one place, and has been started at most once. -/
theorem reached_scheduling (h : Reached cfg (fun _ _ => True) s) :
    s.executingCount = s.pending.countP (·.head.executing)
      ∧ 0 ≤ s.executingCount
      ∧ (cfg.fanout ≠ 0 → s.executingCount ≤ cfg.fanout)
      ∧ (cfg.oemPowerType = .c410x → (s.pending.map fun l => hostOf cfg l.head).Nodup
        ∧ ∀ host, (s.started.map (Entry.ticket cfg)).filter (·.2 = host)
          <+: (s.queued.map (Entry.ticket cfg)).filter (·.2 = host))
      ∧ (s.queued.map (Entry.ticket cfg)).Perm ((s.finished
        ++ members (s.pending ++ s.addToPending)).map (Entry.ticket cfg))
      ∧ (s.queued.map Entry.id).Nodup
      ∧ (s.started.map (Entry.ticket cfg)).Perm ((s.finished
        ++ (members (s.pending ++ s.addToPending)).filter Entry.executing).map (Entry.ticket cfg))
      ∧ (s.started.map Entry.id).Nodup
      ∧ (s.processing = false → s.addToPending = []) := by
  have hs := h.scheduled
  have hlanes : (s.board cfg).lanes = (s.pending ++ s.addToPending).map (Lane.map (Entry.job cfg)) := by
    simp [Board.lanes, Scheduler.board, Scheduler.pending]
  have hcounted := hs.valid.counted
  have hmap : (s.board cfg).before ++ (s.board cfg).after = s.pending.map (Lane.map (Entry.job cfg)) := by
    simp [Scheduler.board, Scheduler.pending]
  rw [hmap, List.countP_map] at hcounted
  refine ⟨hcounted, ?_, hs.valid.bounded, fun hc => ?_, ?_, ?_, ?_, ?_, fun hp => (hs.idle hp).2⟩
  · exact le_of_le_of_eq (Int.natCast_nonneg _) hcounted.symm
  · have hvalid : (s.board cfg).Valid true cfg.fanout := by
      have hserial : cfg.serial = true := by simpa [Config.serial] using hc
      exact hserial ▸ hs.valid
    refine ⟨?_, fun host => hvalid.started_prefix host⟩
    have hdistinct := (hvalid.separate rfl).distinct
    rw [hlanes, List.map_append, List.map_append] at hdistinct
    have hpending := (List.nodup_append.mp hdistinct).1
    rwa [List.map_map] at hpending
  · have hkept := hs.valid.kept
    rw [hlanes, members_map, List.map_map] at hkept
    rw [List.map_append]
    exact hkept
  · have hqueued := hs.valid.queued_nodup
    rw [Scheduler.board, List.map_map] at hqueued
    exact hqueued
  · have hran := hs.valid.ran
    rw [hlanes, members_map, Board.running, List.filter_map, List.map_map] at hran
    rw [List.map_append]
    exact hran
  · have hstarted := hs.valid.started_nodup
    rw [Scheduler.board, List.map_map] at hstarted
    exact hstarted

/-- Two slots of one host, whose name is spelled in two ways. -/
def twoSlots : Config where
  driverType := .lan20
  oemPowerType := .c410x
  fanout := 4
  hostname := fun ic => if ic = 0 then [0x62, 0x6D] else [0x42, 0x4D]

/-- Both are switched on, and the first is started. -/
def firstSlot : List Event :=
  [.queue .powerOn 0 (some [0x31]) 0 1, .queue .powerOn 1 (some [0x32]) 0 2, .process, .visit {}, .finish]

theorem reached_scheduling_sample : ∃ s, (Scheduler.setup fun _ => 0).exec twoSlots firstSlot = some s
    ∧ s.pending.length = 1 ∧ s.executingCount = s.pending.countP (·.head.executing) := by
  have hrun : ((Scheduler.setup fun _ => 0).exec twoSlots firstSlot).any
      (fun s => s.pending.length == 1) = true := by decide +kernel
  obtain ⟨s, hs, hlength⟩ := (Option.any_eq_true _ _).mp hrun
  exact ⟨s, hs, by simpa using hlength,
    (reached_scheduling ((Reached.setup fun _ => 0).exec (by simp) hs)).1⟩

end FreeIpmi.Power
