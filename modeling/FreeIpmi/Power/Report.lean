import FreeIpmi.Power.Schedule

/-! What a power command reports.

    A command is `Due`: it has output nothing until it closes its session, and one message from then on.
    Every visit keeps that, and a command that is over has output its message (`Due.moved`), unless a
    request is refused over IPMI 2.0: then the session is closed, and the command ends without a
    word (`unreported`). -/

namespace FreeIpmi.Power
open Lanes Calls

variable {cfg : Config} {s s' : Scheduler}

/-- The command has output exactly one message, for its host. -/
def Reported (cfg : Config) (ip : Powercmd) : Prop :=
  ∃ msg, ip.outputs = [⟨msg, cfg.hostname ip.ic, ip.extraArg⟩]

/-- One message from the close of the session on, and none before. -/
structure Due (cfg : Config) (ip : Powercmd) : Prop where
  before : ip.protocolState ≠ .sent .closeSession → ip.outputs = []
  after : ip.protocolState = .sent .closeSession → Reported cfg ip

theorem reported_of_output {ip : Powercmd} {l : Log} {msg : MsgType} (hl : l.outputs = [])
    (h : ip.log = l.output cfg msg) : Reported cfg ip := by
  obtain ⟨hic, hextra, houtputs⟩ := Log.mk.inj h
  refine ⟨msg, ?_⟩
  rw [houtputs, hic, hextra, hl]
  rfl

theorem reported_of_log {ip ip' : Powercmd} (h : ip.log = ip'.log) (hr : Reported cfg ip') :
    Reported cfg ip := by
  obtain ⟨hic, hextra, houtputs⟩ := Log.mk.inj h
  obtain ⟨msg, hmsg⟩ := hr
  exact ⟨msg, by rw [houtputs, hic, hextra, hmsg]⟩

theorem due_of_closing {ip : Powercmd} (hs : ip.protocolState = .sent .closeSession)
    (h : Reported cfg ip) : Due cfg ip :=
  ⟨fun hn => absurd hs hn, fun _ => h⟩

theorem due_of_open {ip : Powercmd} (hs : ip.protocolState ≠ .sent .closeSession)
    (h : ip.outputs = []) : Due cfg ip :=
  ⟨fun _ => h, fun hc => absurd hc hs⟩

/-- A visit keeps a command due, and has reported it when the command is over. -/
theorem Due.moved {count : ℤ} {w : Active} {v : Visit} {a : Visited} (hw : Due cfg w.ip)
    (hmoved : Moved cfg count w v a) (hnot : ¬ RefusedSilently cfg w v) :
    if a.finished then Reported cfg a.active.ip else Due cfg a.active.ip := by
  cases hmoved with
  | waits hs => exact hw
  | starts hs hlimit hl hs' hpkt =>
    have hnone : w.ip.outputs = [] := hw.before (by simp [hs])
    exact due_of_open (by simpa [hs'] using hpkt) ((congrArg Log.outputs hl).trans hnone)
  | @goesOn w' pkt pkt' hs hs' hl hpkt =>
    by_cases hclose : pkt = .closeSession
    · have hreported : Reported cfg w.ip := hw.after (by rw [hs, hclose])
      exact due_of_closing (by rw [hs', hpkt.mp hclose]) (reported_of_log hl hreported)
    · have hnone : w.ip.outputs = [] := hw.before (by simpa [hs] using hclose)
      have hopen : pkt' ≠ .closeSession := fun h => hclose (hpkt.mpr h)
      exact due_of_open (by simpa [hs'] using hopen) ((congrArg Log.outputs hl).trans hnone)
  | closes hs hpkt hs' hl =>
    exact due_of_closing hs' (reported_of_output (hw.before (by simpa [hs] using hpkt)) hl)
  | silent hs hrefused => exact absurd hrefused hnot
  | ends hs hs' hl => exact reported_of_output (hw.before hs') hl
  | closed hs hl => exact reported_of_log hl (hw.after hs)

/-- No request is refused over IPMI 2.0 during the event. -/
def Audible (cfg : Config) (s : Scheduler) (e : Event) : Prop :=
  ∀ v l rest, e = .visit v → s.after = l :: rest →
    ¬ RefusedSilently cfg ⟨l.head.ip, s.counters l.head.ip.ic⟩ v

/-- Every command in the lists is due, and every command that is over has been reported. -/
structure Reporting (cfg : Config) (s : Scheduler) : Prop where
  due : ∀ e ∈ members (s.pending ++ s.addToPending), Due cfg e.ip
  reported : ∀ e ∈ s.finished, Reported cfg e.ip

theorem Reporting.visit {l : Lane Entry} {rest : List (Lane Entry)} {v : Visit} {a : Visited}
    (h : Reporting cfg s) (hafter : s.after = l :: rest)
    (hmoved : Moved cfg s.executingCount ⟨l.head.ip, s.counters l.head.ip.ic⟩ v a)
    (hnot : ¬ RefusedSilently cfg ⟨l.head.ip, s.counters l.head.ip.ic⟩ v) :
    Reporting cfg (s.visit cfg l rest a) := by
  have hdue := h.due
  simp only [Scheduler.pending, hafter, members_append, members_cons, List.mem_append,
    List.mem_cons] at hdue
  have hhead := (hdue l.head (by tauto)).moved hmoved hnot
  unfold Scheduler.visit
  cases hfinished : a.finished with
  | true =>
    rw [hfinished, if_pos rfl] at hhead
    refine ⟨fun e he => ?_, fun e he => ?_⟩
    · have hmem : e ∈ members (s.before ++ rest ++ (s.addToPending ++ l.next)) := by
        simp only [if_true, Scheduler.pending] at he
        split at he
        · exact he
        · simp only [members_append, List.mem_append] at he ⊢
          tauto
      simp only [members_append, members_next, List.mem_append] at hmem
      exact hdue e (by tauto)
    · rcases List.mem_append.mp he with he | he
      · exact h.reported e he
      · obtain rfl := List.mem_singleton.mp he
        exact hhead
  | false =>
    rw [hfinished, if_neg (by simp)] at hhead
    refine ⟨fun e he => ?_, h.reported⟩
    simp only [Scheduler.pending, members_append, members_cons, members_nil, List.mem_append,
      List.mem_cons, Bool.false_eq_true, if_false] at he
    by_cases hnew : e = { l.head with ip := a.active.ip }
    · exact hnew ▸ hhead
    · exact hdue e (by tauto)

/-- Who is pending after a command was queued was pending before, or is the command. -/
theorem mem_queue {ip : Powercmd} {e : Entry}
    (he : e ∈ members ((s.queue cfg ip).pending ++ (s.queue cfg ip).addToPending)) :
    e ∈ members (s.pending ++ s.addToPending) ∨ e = ⟨s.queued.length, ip⟩ := by
  simp only [Scheduler.queue, Scheduler.pending, members_append, List.mem_append] at he ⊢
  split at he
  · rw [(members_join _ _ _).mem_iff, List.mem_append, List.mem_singleton] at he
    tauto
  · simp only [members_append, List.mem_append, members_cons, members_nil, List.mem_cons,
      List.append_nil, List.not_mem_nil] at he
    tauto

theorem Reporting.step {e : Event} (h : Reporting cfg s) (may : Audible cfg s e)
    (hs : s.step cfg e = some s') : Reporting cfg s' := by
  cases e with
  | queue cmd ic extraArg tag id =>
    simp only [Scheduler.step] at hs
    split at hs
    next => cases hs
    next =>
      split at hs
      next => cases hs
      next =>
        obtain rfl := Option.some.inj hs
        refine ⟨fun e he => ?_, h.reported⟩
        rcases mem_queue he with he | rfl
        · exact h.due e he
        · exact due_of_open (by simp [newPowercmd]) rfl
  | process =>
    simp only [Scheduler.step] at hs
    split at hs
    next => cases hs
    next hc =>
      obtain rfl := Option.some.inj hs
      refine ⟨fun e he => h.due e ?_, h.reported⟩
      simp only [Scheduler.pending, List.nil_append, members_append, List.mem_append] at he ⊢
      tauto
  | visit v =>
    obtain ⟨-, l, rest, a, hafter, rfl, hmoved⟩ := step_visit hs
    exact h.visit hafter hmoved (may v l rest rfl hafter)
  | finish =>
    simp only [Scheduler.step] at hs
    split at hs
    next hc =>
      obtain rfl := Option.some.inj hs
      refine ⟨fun e he => h.due e ?_, h.reported⟩
      simp only [Scheduler.pending, members_append, List.mem_append, members_nil, List.not_mem_nil] at he ⊢
      tauto
    next => cases hs

theorem Reached.reporting (h : Reached cfg (Audible cfg) s) : Reporting cfg s := by
  induction h with
  | setup counters => exact ⟨by simp [Scheduler.setup, Scheduler.pending], by simp [Scheduler.setup]⟩
  | step before may next ih => exact ih.step may next

/-- Where no request is refused over IPMI 2.0, every command that is over has output one message,
    for its host, and no command that has not been started has output any. -/
theorem reached_reported (h : Reached cfg (Audible cfg) s) :
    (∀ e ∈ s.finished, Reported cfg e.ip)
      ∧ ∀ e ∈ members (s.pending ++ s.addToPending), e.executing = false → e.ip.outputs = [] := by
  refine ⟨h.reporting.reported, fun e he hidle => (h.reporting.due e he).before ?_⟩
  rw [show e.ip.protocolState = .start by simpa [Entry.executing] using hidle]
  simp

/-- One call of `ipmipower_powercmd_process_pending` while one command is pending. -/
def round (v : Visit) : List Event := [.process, .visit v, .finish]

/-- The event brings no error completion code. -/
def Event.completes : Event → Bool
  | .visit v => v.reply.all fun r => r.compCode.all (· == 0)
  | _ => true

theorem audible_of_completes {e : Event} (he : e.completes = true) : Audible cfg s e := by
  rintro v l rest rfl - ⟨-, -, pkt, r, -, hr, hrefused⟩
  have hcode := hrefused.completionCode
  simp only [Event.completes, hr, Option.all_some] at he
  rcases hcomp : r.compCode with _ | n
  · simp [checkCompletionCode, hcomp, Exit.get] at hcode
  · have hzero : n = 0 := by simpa [hcomp] using he
    simp [checkCompletionCode, hcomp, hzero, Exit.get] at hcode

/-- One host, over IPMI 2.0. -/
def oneHost : Config where
  driverType := .lan20
  hostname := fun _ => [0x62, 0x6D]

/-- A call that finds a packet. -/
def answered (r : Reply) : List Event := round { reply := some r }

/-- The capabilities, to the request of this number. -/
def capabilities (rqSeq : ℕ) : Reply where
  netFn := some 0x07
  cmd := some 0x38
  rqSeq := some rqSeq
  compCode := some 0

/-- A message of the session setup. -/
def setupMessage (payloadType messageTag status : ℕ) : Reply where
  payloadType := some payloadType
  messageTag := some messageTag
  rmcpplusStatusCode := some status
  remoteConsoleSessionId := some 7
  managedSystemRandomNumber := some ()

/-- A response in the session; the power is on. -/
def inSession (netFn cmd sessionSequenceNumber rqSeq compCode : ℕ) : Reply where
  payloadType := some 0x00
  sessionSequenceNumber := some sessionSequenceNumber
  sessionId := some 7
  netFn := some netFn
  cmd := some cmd
  rqSeq := some rqSeq
  compCode := some compCode
  powerIsOn := some 1

/-- The first command is refused by RAKP message 2, for its user; the second one gets through. -/
def refusedUser : List Event :=
  .queue .powerStatus 0 none 0 7 :: (round {} ++ answered (capabilities 1)
      ++ answered (setupMessage 0x11 1 0) ++ answered (setupMessage 0x13 2 0x0D))
    ++ .queue .powerStatus 0 none 0 7 :: (round {} ++ answered (capabilities 4)
      ++ answered (setupMessage 0x11 1 0) ++ answered (setupMessage 0x13 2 0)
      ++ answered (setupMessage 0x15 3 0) ++ answered (inSession 0x07 0x3B 1 8 0)
      ++ answered (inSession 0x01 0x01 2 9 0) ++ answered (inSession 0x07 0x3C 3 10 0))

/-- Each of the two commands reports, the first one the refusal. -/
theorem reached_reported_sample : ∃ s, (Scheduler.setup fun _ => 0).exec oneHost refusedUser = some s
    ∧ s.finished.map (·.ip.outputs.map (·.msg)) = [[.usernameInvalid], [.on]]
    ∧ ∀ e ∈ s.finished, Reported oneHost e.ip := by
  have hrun : ((Scheduler.setup fun _ => 0).exec oneHost refusedUser).any
      (fun s => s.finished.map (·.ip.outputs.map (·.msg)) == [[.usernameInvalid], [.on]]) = true := by
    decide +kernel
  obtain ⟨s, hs, hmsgs⟩ := (Option.any_eq_true _ _).mp hrun
  have hcompletes : ∀ e ∈ refusedUser, e.completes = true := by decide +kernel
  have hmay : ∀ e ∈ refusedUser, ∀ s, Audible oneHost s e :=
    fun e he s => audible_of_completes (hcompletes e he)
  exact ⟨s, hs, by simpa using hmsgs, (reached_reported ((Reached.setup fun _ => 0).exec hmay hs)).1⟩

/-- The session is set up, and the BMC refuses the privilege level. -/
def refusedPrivilege : List Event :=
  .queue .powerStatus 0 none 0 7 :: (round {} ++ answered (capabilities 1)
    ++ answered (setupMessage 0x11 1 0) ++ answered (setupMessage 0x13 2 0)
    ++ answered (setupMessage 0x15 3 0) ++ answered (inSession 0x07 0x3B 1 5 0x81)
    ++ round { timedOut := true })

/-- Then the session is closed, and the command is deleted without a word. -/
theorem unreported : ¬ ∀ (cfg : Config) (s : Scheduler), Reached cfg (fun _ _ => True) s →
    ∀ e ∈ s.finished, Reported cfg e.ip := by
  intro h
  have hrun : ((Scheduler.setup fun _ => 0).exec oneHost refusedPrivilege).any
      (fun s => s.finished.any (·.ip.outputs.isEmpty)) = true := by decide +kernel
  obtain ⟨s, hs, hsilent⟩ := (Option.any_eq_true _ _).mp hrun
  obtain ⟨e, he, hempty⟩ := List.any_eq_true.mp hsilent
  obtain ⟨msg, hmsg⟩ := h oneHost s ((Reached.setup fun _ => 0).exec (by simp) hs) e he
  simp [hmsg] at hempty

end FreeIpmi.Power
