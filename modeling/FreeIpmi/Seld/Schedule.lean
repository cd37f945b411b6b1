import FreeIpmi.Miscutil.HeapRuns

/-! The scheduler of `ipmiseld`: the main thread of `ipmiseld.c` and the worker threads of
    `ipmiseld-threadpool.c`.

    A host waits in the heap until the main thread pops it and queues it; a worker takes it from the queue,
    polls it, sets the time of its next poll and puts it back. A step is what a thread does while it holds
    a lock, or between two locks, so that a run is any interleaving of the threads. -/

namespace FreeIpmi.Seld
open Miscutil

/-! ### Polling a host -/

/-- `ipmiseld_host_data_t`: which host it is, its `next_poll_time`, and whether `host_poll` is set. -/
structure Host where
  host : ℕ
  nextPollTime : ℕ
  hostPoll : Bool
  deriving DecidableEq, Inhabited

/-- `hostdata_timecmp`. -/
def hostdataTimecmp (hd1 hd2 : Host) : ℤ :=
  if hd1.nextPollTime < hd2.nextPollTime then 1
  else if hd1.nextPollTime > hd2.nextPollTime then -1
  else 0

/-- The arguments that matter here. -/
structure Args where
  pollInterval : ℕ
  sessionTimeout : ℕ
  ignoreSdr : Bool
  interpretOemData : Bool
  outputOemEventStrings : Bool

/-- Whether the calls of one poll succeed. -/
structure PollCalls where
  ipmiSetup : Bool
  sdrCacheCreateAndLoad : Bool
  selCtxCreate : Bool
  interpretCtxCreate : Bool
  -- a missing default file is no failure
  interpretLoadSelConfig : Bool
  interpretCtxSetFlags : Bool
  selCtxSetParameter : Bool
  selCtxSetSeparator : Bool
  getOemData : Bool
  selCtxSetManufacturerId : Bool
  selCtxSetProductId : Bool
  selCtxSetIpmiVersion : Bool
  interpretCtxSetManufacturerId : Bool
  interpretCtxSetProductId : Bool
  selParse : Bool

/-- How `_ipmiseld_poll` is left that does not succeed: over its `cleanup`, or by a plain `return`. -/
inductive PollEnd where | cleanup | returned
  deriving DecidableEq

def attempt (succeeds : Bool) (failed : PollEnd) : Except PollEnd Unit :=
  if succeeds then .ok () else .error failed

/-- The calls of `_ipmiseld_poll`. -/
def PollCalls.make (args : Args) (c : PollCalls) : Except PollEnd Unit := do
  attempt c.ipmiSetup .cleanup
  attempt (args.ignoreSdr || c.sdrCacheCreateAndLoad) .cleanup
  attempt c.selCtxCreate .cleanup
  attempt c.interpretCtxCreate .cleanup
  attempt c.interpretLoadSelConfig .cleanup
  attempt (!args.interpretOemData || c.interpretCtxSetFlags) .cleanup
  attempt c.selCtxSetParameter .cleanup
  attempt c.selCtxSetSeparator .returned
  if args.interpretOemData || args.outputOemEventStrings then
    attempt c.getOemData .returned
    attempt c.selCtxSetManufacturerId .returned
    attempt c.selCtxSetProductId .returned
    attempt c.selCtxSetIpmiVersion .returned
    attempt (!args.interpretOemData || c.interpretCtxSetManufacturerId) .returned
    attempt (!args.interpretOemData || c.interpretCtxSetProductId) .returned
  attempt c.selParse .cleanup

/-- `_ipmiseld_poll`: whether it succeeds, and the host afterwards. Only `cleanup` resets `host_poll`. -/
def ipmiseldPoll (args : Args) (c : PollCalls) (hd : Host) : Except Stop (Bool × Host) :=
  if hd.hostPoll then .error .assertion
  else
    match c.make args with
    | .ok () => .ok (true, { hd with hostPoll := false })
    | .error .cleanup => .ok (false, { hd with hostPoll := false })
    | .error .returned => .ok (false, { hd with hostPoll := true })

/-- `_ipmiseld_poll_postprocess`, before it puts the host back. -/
def pollPostprocess (args : Args) (now : ℕ) (hd : Host) : Except Stop Host :=
  if hd.hostPoll then .error .assertion
  else .ok { hd with nextPollTime := now + args.pollInterval }

/-! ### The threads -/

/-- Where the main thread is in its loop. -/
inductive MainAt where
  | loop
  -- `ipmiseld_threadpool_queue`
  | queue (hd : Host)
  | back (hd : Host)
  | peek
  | sleep (secs : ℕ)
  | done

/-- Where a thread is in `_threadpool_func`. -/
inductive WorkerAt where
  | loop
  | poll (hd : Host)
  | postprocess (hd : Host)
  | insert (hd : Host)
  | done

/-- All threads, the clock, and what they share. -/
structure Sched where
  now : ℕ
  exiting : Bool
  heap : Heap Host
  main : MainAt
  queue : List Host
  workers : List WorkerAt

/-- `IPMI_SESSION_TIMEOUT_DEFAULT`. -/
def sessionTimeoutDefault : ℕ := 20000

/-- How long the main thread sleeps if nobody waits: a fifth of a session's timeout. -/
def waittime (args : Args) : ℕ :=
  let waittime := if args.sessionTimeout ≠ 0 then args.sessionTimeout else sessionTimeoutDefault
  max (waittime / 1000 / 5) 1

/-- How long it sleeps after a look at the heap. -/
def sleepTime (args : Args) (now : ℕ) : Option Host → ℕ
  | none => args.pollInterval + 1
  | some hd => if hd.nextPollTime ≠ 0 ∧ hd.nextPollTime > now then hd.nextPollTime - now + 1 else 0

/-- A step of the main thread, and whether there is memory. -/
def mainStep (args : Args) (s : Sched) (mem : Bool) : Except Stop Sched :=
  match s.main with
  | .loop =>
    if s.exiting then .ok { s with main := .done }
    else do
      let (hostData, heap) ← heapPop s.heap
      match hostData with
      | none => return { s with heap := heap, main := .sleep (waittime args) }
      | some hd => return { s with heap := heap, main := .queue hd }
  | .queue hd =>
    if mem then .ok { s with queue := s.queue ++ [hd], main := .peek }
    else .ok { s with main := .back hd }
  | .back hd => do
    let (_, heap) ← heapInsert s.heap hd mem
    return { s with heap := heap, main := .peek }
  | .peek => do
    let hostData ← heapPeek s.heap
    return { s with main := .sleep (sleepTime args s.now hostData) }
  | .sleep _ => .ok { s with main := .loop }
  | .done => .ok s

/-- The main thread sets the exit flag of the workers when it is done. -/
def MainAt.isDone : MainAt → Bool
  | .done => true
  | _ => false

/-- A step of a worker: whether there is memory, and how its calls end. -/
def workerStep (args : Args) (s : Sched) (w : ℕ) (mem : Bool) (c : PollCalls) : Except Stop Sched :=
  match s.workers[w]? with
  | some .loop =>
    if s.main.isDone then .ok { s with workers := s.workers.set w .done }
    else
      match s.queue with
      -- it waits
      | [] => .ok s
      | hd :: queue => .ok { s with queue := queue, workers := s.workers.set w (.poll hd) }
  | some (.poll hd) => do
    let (_, hd) ← ipmiseldPoll args c hd
    return { s with workers := s.workers.set w (.postprocess hd) }
  | some (.postprocess hd) => do
    let hd ← pollPostprocess args s.now hd
    return { s with workers := s.workers.set w (.insert hd) }
  | some (.insert hd) => do
    let (_, heap) ← heapInsert s.heap hd mem
    return { s with heap := heap, workers := s.workers.set w .loop }
  | some .done => .ok s
  | none => .ok s

/-- What happens next. -/
inductive Event where
  | tick (secs : ℕ)
  -- `_signal_handler_callback`
  | signal
  | main (mem : Bool)
  | worker (w : ℕ) (mem : Bool) (c : PollCalls)

def Sched.step (args : Args) (s : Sched) : Event → Except Stop Sched
  | .tick secs => .ok { s with now := s.now + secs }
  | .signal => .ok { s with exiting := true }
  | .main mem => mainStep args s mem
  | .worker w mem c => workerStep args s w mem c

def Sched.run (args : Args) : Sched → List Event → Except Stop Sched
  | s, [] => .ok s
  | s, e :: events => do
    let s ← s.step args e
    s.run args events

/-- The hosts are put into the heap. Without a value the program ends. -/
def insertAll : Heap Host → List ℕ → Except Stop (Option (Heap Host))
  | h, [] => .ok (some h)
  | h, host :: hosts => do
    -- `_alloc_host_data`
    let (ret, h) ← heapInsert h ⟨host, 0, false⟩ true
    match ret with
    | .error _ => return none
    | .ok () => insertAll h hosts

/-- `_ipmiseld` up to its loop, where there is memory. -/
def ipmiseldStart (hosts : List ℕ) (threadpoolCount now : ℕ) : Except Stop (Option Sched) := do
  let heap ← insertAll (heapCreate hosts.length hostdataTimecmp) hosts
  return heap.map fun heap =>
    { now := now
      exiting := false
      heap := heap
      main := .loop
      queue := []
      workers := List.replicate (min hosts.length threadpoolCount) .loop }

end FreeIpmi.Seld
