import FreeIpmi.Seld.Schedule

/-! Runs of the threads of `ipmiseld`.

    Every host is in exactly one place: in the heap, in the hands of a thread, or in the queue. So no host
    is polled by two threads at once, there always is room in the heap for one that is put back, and no
    host is forgotten as long as there is memory. A host whose time has come is popped before any other
    one is popped twice. -/

namespace FreeIpmi.Seld
open Miscutil Calls BinaryHeap

/-! ### The heap of hosts -/

theorem timecmp_pos (x y : Host) : hostdataTimecmp x y > 0 ↔ x.nextPollTime < y.nextPollTime := by
  rw [hostdataTimecmp]
  split
  · simp [*]
  · split <;> simp [*]

theorem timecmp_ranks : Ranks (Rank hostdataTimecmp) := ranks_of_key Host.nextPollTime timecmp_pos

theorem timecmp_rank {x y : Host} (h : Rank hostdataTimecmp x y) : x.nextPollTime ≤ y.nextPollTime :=
  Nat.le_of_not_lt fun hlt => absurd ((timecmp_pos y x).mpr hlt) (Int.not_lt.mpr h)

/-- A heap of hosts, ordered by the time of their next poll. -/
structure HostHeap (size : ℕ) (h : Heap Host) : Prop where
  holds : h.Holds h.elems
  fCmp : h.fCmp = hostdataTimecmp
  size : h.size = size

section HostHeap
variable {size : ℕ} {h h' : Heap Host}

theorem HostHeap.of_same (hh : HostHeap size h) (hsame : SameHeap h h') {t : Multiset Host}
    (hholds : h'.Holds t) : HostHeap size h' where
  holds := by rwa [hholds.elems]
  fCmp := hsame.fCmp.trans hh.fCmp
  size := hsame.size.trans hh.size

theorem HostHeap.pop (hh : HostHeap size h) :
    (heapPop h = .ok (none, h) ∧ h.elems = 0) ∨
    ∃ hd h', heapPop h = .ok (some hd, h') ∧ HostHeap size h' ∧ h.elems = hd ::ₘ h'.elems ∧
      ∀ y ∈ h.elems, hd.nextPollTime ≤ y.nextPollTime := by
  obtain ⟨v, h', t, hpop, hholds, hsame, hstep⟩ :=
    heapPop_spec (hh.fCmp ▸ timecmp_ranks) hh.holds
  rw [hh.fCmp] at hstep
  generalize helems : h.elems = u at hstep
  cases hstep with
  | popNothing =>
    refine Or.inl ⟨?_, rfl⟩
    rw [heapPop, if_pos (hh.holds.eq_zero_iff.mp helems)]
  | pop hfirst =>
    refine Or.inr ⟨_, h', hpop, hh.of_same hsame hholds, by rw [hholds.elems], fun y hy => ?_⟩
    rcases Multiset.mem_cons.mp hy with rfl | hmem
    · exact le_rfl
    · exact timecmp_rank (hfirst y hmem)

theorem HostHeap.insert (hh : HostHeap size h) (hroom : Multiset.card h.elems < size) (hd : Host)
    (mem : Bool) :
    ∃ ret h', heapInsert h hd mem = .ok (ret, h') ∧ HostHeap size h' ∧
      h'.elems = (if mem then {hd} else 0) + h.elems ∧ (mem = true → ret = .ok ()) := by
  obtain ⟨ret, h', t, hinsert, hholds, hsame, hstep⟩ :=
    heapInsert_spec (hh.fCmp ▸ timecmp_ranks) hh.holds hd mem
  refine ⟨ret, h', hinsert, hh.of_same hsame hholds, ?_⟩
  rw [hholds.elems]
  rw [hh.size] at hstep
  generalize h.elems = u at hstep hroom
  cases hstep with
  | full hcard => omega
  | noMemory => exact ⟨(zero_add _).symm, fun hmem => absurd hmem Bool.false_ne_true⟩
  | insert => exact ⟨(Multiset.singleton_add _ _).symm, fun _ => rfl⟩

theorem HostHeap.peek (hh : HostHeap size h) : ∃ v, heapPeek h = .ok v := by
  obtain ⟨v, hpeek, -⟩ := heapPeek_spec (hh.fCmp ▸ timecmp_ranks) hh.holds
  exact ⟨v, hpeek⟩

end HostHeap

/-! ### Where the hosts are -/

/-- The host in the hands of the main thread. -/
def MainAt.hosts : MainAt → Multiset Host
  | .queue hd | .back hd => {hd}
  | _ => 0

/-- The host in the hands of a worker. -/
def WorkerAt.hosts : WorkerAt → Multiset Host
  | .poll hd | .postprocess hd | .insert hd => {hd}
  | _ => 0

/-- The hosts in the hands of all workers. -/
def workersHosts (workers : List WorkerAt) : Multiset Host := (workers.map WorkerAt.hosts).sum

/-- The hosts that are not in the heap. -/
def Sched.inHand (s : Sched) : Multiset Host := s.main.hosts + s.queue + workersHosts s.workers

/-- All hosts. -/
def Sched.hosts (s : Sched) : Multiset Host := s.heap.elems + s.inHand

/-- What one entry of a list adds to a sum, and what the others do. -/
theorem sum_map_set {β M : Type} [AddCommMonoid M] (f : β → M) {x : β} :
    ∀ {l : List β} {w : ℕ}, l[w]? = some x →
    ∃ others, (l.map f).sum = f x + others ∧ ∀ y, ((l.set w y).map f).sum = f y + others
  | [], w, hx => by simp at hx
  | v :: l, 0, hx => by
    have hv : v = x := by simpa using hx
    exact ⟨(l.map f).sum, by rw [← hv]; rfl, fun y => rfl⟩
  | v :: l, w + 1, hx => by
    obtain ⟨others, hall, hset⟩ := sum_map_set f (w := w) (show l[w]? = some x by simpa using hx)
    refine ⟨f v + others, ?_, fun y => ?_⟩
    · show f v + (l.map f).sum = _
      rw [hall, add_left_comm]
    · show f v + ((l.set w y).map f).sum = _
      rw [hset, add_left_comm]

/-- What one worker has in its hands, and what the others have. -/
theorem workersHosts_set {x : WorkerAt} {workers : List WorkerAt} {w : ℕ}
    (hx : workers[w]? = some x) : ∃ others, workersHosts workers = x.hosts + others ∧
      ∀ y : WorkerAt, workersHosts (workers.set w y) = y.hosts + others :=
  sum_map_set WorkerAt.hosts hx

/-- The identities of all hosts. -/
def Sched.names (s : Sched) : Multiset ℕ := s.hosts.map Host.host

/-- Some of the hosts of the program, each of them once. -/
structure Sched.Inv (hosts : Multiset ℕ) (s : Sched) : Prop where
  heap : HostHeap (Multiset.card hosts) s.heap
  le : s.names ≤ hosts

/-- No poll has been left early. -/
def Sched.Clean (s : Sched) : Prop := ∀ hd ∈ s.hosts, hd.hostPoll = false

theorem Sched.Inv.room {hosts : Multiset ℕ} {s : Sched} (hi : s.Inv hosts) {hd : Host}
    (hmem : hd ∈ s.inHand) : Multiset.card s.heap.elems < Multiset.card hosts := by
  have hcard := Multiset.card_le_card hi.le
  have hpos := Multiset.card_pos_iff_exists_mem.mpr ⟨hd, hmem⟩
  rw [Sched.names, Multiset.card_map, Sched.hosts, Multiset.card_add] at hcard
  omega

/-! ### One step -/

/-- There is memory for what is done next. -/
def Event.HasMemory : Event → Prop
  | .main mem => mem = true
  | .worker _ mem _ => mem = true
  | _ => True

/-- The calls of a poll end so that it is left early. -/
def Event.LeavesEarly (args : Args) : Event → Prop
  | .worker _ _ c => c.make args = .error .returned
  | _ => False

/-- What a step does to the hosts. -/
structure Stepped (args : Args) (e : Event) (size : ℕ) (s s' : Sched) : Prop where
  heap : HostHeap size s'.heap
  le : s'.names ≤ s.names
  all : e.HasMemory → s'.names = s.names
  clean : s.Clean → ¬ e.LeavesEarly args → s'.Clean

section Step
variable {args : Args} {e : Event} {size : ℕ} {s s' : Sched}

/-- A host goes from one place to another. -/
theorem Stepped.of_moved (hheap : HostHeap size s'.heap) (h : s'.hosts = s.hosts) :
    Stepped args e size s s' where
  heap := hheap
  le := by rw [Sched.names, Sched.names, h]
  all _ := by rw [Sched.names, Sched.names, h]
  clean hclean _ := by
    rw [Sched.Clean, h]
    exact hclean

/-- A host is changed. -/
theorem Stepped.of_changed {hd hd' : Host} {rest : Multiset Host} (hheap : HostHeap size s'.heap)
    (h : s.hosts = {hd} + rest) (h' : s'.hosts = {hd'} + rest) (hname : hd'.host = hd.host)
    (hclean : ¬ e.LeavesEarly args → hd'.hostPoll = false) : Stepped args e size s s' := by
  have hnames : s'.names = s.names := by
    rw [Sched.names, Sched.names, h, h', Multiset.map_add, Multiset.map_add, Multiset.map_singleton,
      Multiset.map_singleton, hname]
  refine ⟨hheap, hnames.le, fun _ => hnames, fun hc hearly y hy => ?_⟩
  rw [h', Multiset.singleton_add, Multiset.mem_cons] at hy
  rcases hy with rfl | hmem
  · exact hclean hearly
  · exact hc y (by rw [h]; exact Multiset.mem_add.mpr (Or.inr hmem))

/-- A host goes into the heap, if there is memory. -/
theorem Stepped.of_inserted {hd : Host} {mem : Bool} {rest : Multiset Host}
    (hheap : HostHeap size s'.heap) (h : s.hosts = {hd} + rest)
    (h' : s'.hosts = (if mem then {hd} else 0) + rest) (hmem : e.HasMemory → mem = true) :
    Stepped args e size s s' := by
  have hle : s'.hosts ≤ s.hosts := by
    rw [h, h']
    cases mem with
    | true => exact le_rfl
    | false => exact add_le_add (Multiset.zero_le _) le_rfl
  refine ⟨hheap, Multiset.map_le_map hle, fun hhas => ?_, fun hclean _ y hy => ?_⟩
  · rw [Sched.names, Sched.names, h, h', if_pos (hmem hhas)]
  · exact hclean y (Multiset.mem_of_le hle hy)

theorem mainStep_spec (hheap : HostHeap size s.heap)
    (hroom : ∀ hd ∈ s.inHand, Multiset.card s.heap.elems < size) (mem : Bool) :
    ∃ s', mainStep args s mem = .ok s' ∧ Stepped args (.main mem) size s s' := by
  have hhosts : s.hosts = s.heap.elems + (s.main.hosts + s.queue + workersHosts s.workers) := rfl
  cases hmain : s.main with
  | loop =>
    rw [hmain] at hhosts
    simp only [mainStep, hmain]
    by_cases hexit : s.exiting
    · rw [if_pos hexit]
      exact ⟨_, rfl, Stepped.of_moved hheap hhosts.symm⟩
    · rw [if_neg hexit]
      rcases hheap.pop with ⟨hpop, -⟩ | ⟨hd, h', hpop, hheap', helems, -⟩
      · rw [hpop, ok_bind]
        exact ⟨_, rfl, Stepped.of_moved hheap hhosts.symm⟩
      · rw [hpop, ok_bind]
        refine ⟨_, rfl, Stepped.of_moved hheap' ?_⟩
        rw [hhosts, helems, ← Multiset.singleton_add]
        show h'.elems + ({hd} + _ + _) = {hd} + h'.elems + (0 + _ + _)
        abel
  | queue hd =>
    rw [hmain] at hhosts
    simp only [mainStep, hmain]
    cases mem with
    | true =>
      refine ⟨_, rfl, Stepped.of_moved hheap ?_⟩
      rw [hhosts]
      show _ + (0 + ((s.queue ++ [hd] : List Host) : Multiset Host) + _) = _ + ({hd} + _ + _)
      rw [← Multiset.coe_add, Multiset.coe_singleton]
      abel
    | false => exact ⟨_, rfl, Stepped.of_moved hheap hhosts.symm⟩
  | back hd =>
    rw [hmain] at hhosts
    have hmem : hd ∈ s.inHand := by
      rw [Sched.inHand, hmain]
      simp [MainAt.hosts]
    obtain ⟨ret, h', hinsert, hheap', helems, -⟩ := hheap.insert (hroom hd hmem) hd mem
    have hbefore : s.hosts = {hd} + (s.heap.elems + (s.queue + workersHosts s.workers)) := by
      rw [hhosts]
      show _ + ({hd} + _ + _) = {hd} + (_ + (_ + _))
      abel
    simp only [mainStep, hmain]
    rw [hinsert, ok_bind]
    refine ⟨_, rfl, Stepped.of_inserted hheap' hbefore ?_ id⟩
    · show h'.elems + (0 + _ + _) = _
      rw [helems]
      abel
  | peek =>
    rw [hmain] at hhosts
    obtain ⟨v, hpeek⟩ := hheap.peek
    simp only [mainStep, hmain]
    rw [hpeek, ok_bind]
    exact ⟨_, rfl, Stepped.of_moved hheap hhosts.symm⟩
  | sleep secs =>
    rw [hmain] at hhosts
    simp only [mainStep, hmain]
    exact ⟨_, rfl, Stepped.of_moved hheap hhosts.symm⟩
  | done =>
    simp only [mainStep, hmain]
    exact ⟨_, rfl, Stepped.of_moved hheap rfl⟩

theorem workerStep_spec (hheap : HostHeap size s.heap)
    (hroom : ∀ hd ∈ s.inHand, Multiset.card s.heap.elems < size) (w : ℕ) (mem : Bool)
    (c : PollCalls) :
    (∃ s', workerStep args s w mem c = .ok s' ∧ Stepped args (.worker w mem c) size s s') ∨
      workerStep args s w mem c = .error .assertion ∧ ¬ s.Clean := by
  cases hx : s.workers[w]? with
  | none =>
    simp only [workerStep, hx]
    exact Or.inl ⟨s, rfl, Stepped.of_moved hheap rfl⟩
  | some x =>
    obtain ⟨others, hall, hset⟩ := workersHosts_set hx
    have hhosts : s.hosts = s.heap.elems + (s.main.hosts + s.queue + (x.hosts + others)) := by
      rw [← hall]
      rfl
    have hhand : x.hosts ≤ s.inHand := by
      rw [Sched.inHand, hall]
      exact (Multiset.le_add_right _ _).trans (Multiset.le_add_left _ _)
    have hhand' : x.hosts ≤ s.hosts := hhand.trans (Multiset.le_add_left _ _)
    cases x with
    | loop =>
      simp only [workerStep, hx]
      cases hdone : s.main.isDone with
      | true =>
        refine Or.inl ⟨_, rfl, Stepped.of_moved hheap ?_⟩
        show _ + (_ + _ + workersHosts (s.workers.set w .done)) = _
        rw [hset, hhosts]
        rfl
      | false =>
        cases hqueue : s.queue with
        | nil => exact Or.inl ⟨s, rfl, Stepped.of_moved hheap rfl⟩
        | cons hd queue =>
          refine Or.inl ⟨_, rfl, Stepped.of_moved hheap ?_⟩
          show _ + (_ + (queue : Multiset Host) + workersHosts (s.workers.set w (.poll hd))) = _
          rw [hset, hhosts, hqueue, ← Multiset.cons_coe, ← Multiset.singleton_add]
          show _ + (_ + _ + (({hd} : Multiset Host) + _)) = _ + (_ + ({hd} + _) + (0 + _))
          abel
    | poll hd =>
      have hmem : hd ∈ s.hosts := Multiset.mem_of_le hhand' (Multiset.mem_singleton_self hd)
      simp only [workerStep, hx, ipmiseldPoll]
      cases hpoll : hd.hostPoll with
      | true =>
        refine Or.inr ⟨rfl, fun hclean => ?_⟩
        rw [hclean hd hmem] at hpoll
        cases hpoll
      | false =>
        have hchanged : ∀ hd' : Host, hd'.host = hd.host →
            (¬ (Event.worker w mem c).LeavesEarly args → hd'.hostPoll = false) →
            Stepped args (.worker w mem c) size s
              { s with workers := s.workers.set w (.postprocess hd') } := by
          intro hd' hname hearly
          have hbefore : s.hosts = {hd} + (s.heap.elems + (s.main.hosts + s.queue + others)) := by
            rw [hhosts]
            show _ + (_ + ({hd} + _)) = _
            abel
          refine Stepped.of_changed hheap hbefore ?_ hname hearly
          · show _ + (_ + workersHosts (s.workers.set w (.postprocess hd'))) = _
            rw [hset]
            show _ + (_ + ({hd'} + _)) = _
            abel
        rcases hmake : c.make args with e | u
        · cases e with
          | cleanup => exact Or.inl ⟨_, rfl, hchanged { hd with hostPoll := false } rfl fun _ => rfl⟩
          | returned =>
            exact Or.inl ⟨_, rfl, hchanged { hd with hostPoll := true } rfl fun hnot =>
              absurd hmake hnot⟩
        · exact Or.inl ⟨_, rfl, hchanged { hd with hostPoll := false } rfl fun _ => rfl⟩
    | postprocess hd =>
      have hmem : hd ∈ s.hosts := Multiset.mem_of_le hhand' (Multiset.mem_singleton_self hd)
      simp only [workerStep, hx, pollPostprocess]
      cases hpoll : hd.hostPoll with
      | true =>
        refine Or.inr ⟨rfl, fun hclean => ?_⟩
        rw [hclean hd hmem] at hpoll
        cases hpoll
      | false =>
        have hbefore : s.hosts = {hd} + (s.heap.elems + (s.main.hosts + s.queue + others)) := by
          rw [hhosts]
          show _ + (_ + ({hd} + _)) = _
          abel
        have hname : (⟨hd.host, s.now + args.pollInterval, false⟩ : Host).host = hd.host := rfl
        refine Or.inl ⟨_, rfl, Stepped.of_changed hheap hbefore ?_ hname fun _ => rfl⟩
        show _ + (_ + workersHosts (s.workers.set w (.insert _))) = _
        rw [hset]
        show _ + (_ + ({_} + _)) = _
        abel
    | insert hd =>
      have hmem : hd ∈ s.inHand := Multiset.mem_of_le hhand (Multiset.mem_singleton_self hd)
      obtain ⟨ret, h', hinsert, hheap', helems, -⟩ := hheap.insert (hroom hd hmem) hd mem
      have hbefore : s.hosts = {hd} + (s.heap.elems + (s.main.hosts + s.queue + others)) := by
        rw [hhosts]
        show _ + (_ + ({hd} + _)) = _
        abel
      simp only [workerStep, hx]
      rw [hinsert, ok_bind]
      refine Or.inl ⟨_, rfl, Stepped.of_inserted hheap' hbefore ?_ id⟩
      show h'.elems + (_ + workersHosts (s.workers.set w .loop)) = _
      rw [hset, helems]
      show _ + (_ + (0 + _)) = _
      abel
    | done =>
      simp only [workerStep, hx]
      exact Or.inl ⟨s, rfl, Stepped.of_moved hheap rfl⟩

theorem Stepped.inv {hosts : Multiset ℕ} (h : Stepped args e (Multiset.card hosts) s s')
    (hi : s.Inv hosts) : s'.Inv hosts where
  heap := h.heap
  le := h.le.trans hi.le

theorem step_spec {hosts : Multiset ℕ} (hi : s.Inv hosts) (e : Event) :
    (∃ s', s.step args e = .ok s' ∧ Stepped args e (Multiset.card hosts) s s') ∨
      s.step args e = .error .assertion ∧ ¬ s.Clean := by
  cases e with
  | tick secs => exact Or.inl ⟨_, rfl, Stepped.of_moved hi.heap rfl⟩
  | signal => exact Or.inl ⟨_, rfl, Stepped.of_moved hi.heap rfl⟩
  | main mem => exact Or.inl (mainStep_spec hi.heap (fun _ hmem => hi.room hmem) mem)
  | worker w mem c => exact workerStep_spec hi.heap (fun _ hmem => hi.room hmem) w mem c

end Step

/-! ### Runs -/

section Runs
variable {args : Args} {hosts : Multiset ℕ} {s s' : Sched} {events : List Event}

theorem run_spec (hi : s.Inv hosts) :
    (∃ s', s.run args events = .ok s' ∧ s'.Inv hosts ∧
      ((∀ e ∈ events, e.HasMemory) → s'.names = s.names)) ∨
    s.run args events = .error .assertion ∧ (¬ s.Clean ∨ ∃ e ∈ events, e.LeavesEarly args) := by
  induction events generalizing s with
  | nil => exact Or.inl ⟨s, rfl, hi, fun _ => rfl⟩
  | cons e events ih =>
    rcases step_spec hi e with ⟨s₁, hstep, hs⟩ | ⟨hstep, hclean⟩
    · have hrun : s.run args (e :: events) = s₁.run args events := by
        rw [Sched.run, hstep, ok_bind]
      rw [hrun]
      rcases ih (hs.inv hi) with ⟨s', hrest, hi', hnames⟩ | ⟨hrest, hearly⟩
      · refine Or.inl ⟨s', hrest, hi', fun hmem => ?_⟩
        rw [hnames fun e' he' => hmem e' (List.mem_cons_of_mem _ he'), hs.all (hmem e List.mem_cons_self)]
      · refine Or.inr ⟨hrest, ?_⟩
        by_cases he : e.LeavesEarly args
        · exact Or.inr ⟨e, List.mem_cons_self, he⟩
        · rcases hearly with hclean | ⟨e', hmem, he'⟩
          · exact Or.inl fun hc => hclean (hs.clean hc he)
          · exact Or.inr ⟨e', List.mem_cons_of_mem _ hmem, he'⟩
    · refine Or.inr ⟨?_, Or.inl hclean⟩
      rw [Sched.run, hstep]
      rfl

theorem insertAll_spec {size : ℕ} : ∀ {hosts : List ℕ} {h : Heap Host}, HostHeap size h →
    Multiset.card h.elems + hosts.length ≤ size →
    ∃ h', insertAll h hosts = .ok (some h') ∧ HostHeap size h' ∧
      h'.elems = (hosts.map fun host => (⟨host, 0, false⟩ : Host) : Multiset Host) + h.elems
  | [], h, hheap, _ => ⟨h, rfl, hheap, (zero_add _).symm⟩
  | host :: hosts, h, hheap, hsize => by
    rw [List.length_cons] at hsize
    obtain ⟨ret, h₁, hinsert, hheap₁, helems, hret⟩ := hheap.insert (by omega) ⟨host, 0, false⟩ true
    obtain rfl := hret rfl
    rw [if_pos rfl] at helems
    obtain ⟨h', hrest, hheap', helems'⟩ := insertAll_spec hheap₁
      (show Multiset.card h₁.elems + hosts.length ≤ size by
        rw [helems, Multiset.card_add, Multiset.card_singleton]
        omega)
    refine ⟨h', ?_, hheap', ?_⟩
    · rw [insertAll, hinsert, ok_bind]
      exact hrest
    · rw [helems', helems, List.map_cons, ← Multiset.cons_coe, ← Multiset.singleton_add]
      abel

theorem workersHosts_loop (n : ℕ) : workersHosts (List.replicate n .loop) = 0 := by
  rw [workersHosts, List.map_replicate, List.sum_replicate]
  exact nsmul_zero n

theorem ipmiseldStart_spec {hosts : List ℕ} (hne : hosts ≠ []) (threadpoolCount now : ℕ) :
    ∃ s, ipmiseldStart hosts threadpoolCount now = .ok (some s) ∧ s.Inv hosts ∧ s.names = hosts ∧
      s.Clean := by
  have hcreate := heapCreate_holds hosts.length hostdataTimecmp
  have hpos := List.length_pos_of_ne_nil hne
  have hheap : HostHeap hosts.length (heapCreate hosts.length hostdataTimecmp) := by
    refine ⟨by rwa [hcreate.elems], rfl, ?_⟩
    show (if (hosts.length : ℤ) ≤ 0 then heapSizeDefault else (hosts.length : ℤ).toNat) = _
    rw [if_neg (by omega), Int.toNat_natCast]
  obtain ⟨h', hinsert, hheap', helems⟩ := insertAll_spec hheap
    (show Multiset.card _ + hosts.length ≤ hosts.length by
      rw [hcreate.elems, Multiset.card_zero, zero_add])
  rw [hcreate.elems, add_zero] at helems
  refine ⟨_, by rw [ipmiseldStart, hinsert]; rfl, ?_⟩
  have hhosts : h'.elems + (0 + (([] : List Host) : Multiset Host) +
      workersHosts (List.replicate (min hosts.length threadpoolCount) .loop))
      = (hosts.map fun host => (⟨host, 0, false⟩ : Host) : Multiset Host) := by
    rw [workersHosts_loop, helems]
    exact add_zero _
  have hnames : ((hosts.map fun host => (⟨host, 0, false⟩ : Host) : Multiset Host)).map Host.host
      = hosts := by
    rw [Multiset.map_coe, List.map_map]
    exact congrArg _ (List.map_id hosts)
  refine ⟨⟨hheap', ?_⟩, ?_, fun hd hmem => ?_⟩
  · exact ((congrArg (Multiset.map Host.host) hhosts).trans hnames).le
  · exact (congrArg (Multiset.map Host.host) hhosts).trans hnames
  · have hmem' : hd ∈ h'.elems + (0 + (([] : List Host) : Multiset Host) +
        workersHosts (List.replicate (min hosts.length threadpoolCount) .loop)) := hmem
    rw [hhosts] at hmem'
    obtain ⟨host, -, rfl⟩ := List.mem_map.mp (Multiset.mem_coe.mp hmem')
    rfl

/-- In every interleaving of the threads every host is in one place at most, so that no two threads have
    the same one; and as long as there is memory it is in one. Nothing undefined is done, and the program
    stops with a failed assertion only after a poll that was left early. -/
theorem run_keepsHosts (args : Args) {hosts : List ℕ} (hne : hosts ≠ []) (threadpoolCount now : ℕ)
    (events : List Event) :
    ∃ s₀, ipmiseldStart hosts threadpoolCount now = .ok (some s₀) ∧
      ((∃ s, s₀.run args events = .ok s ∧ (hosts.Nodup → s.names.Nodup) ∧ s.names ≤ hosts ∧
          ((∀ e ∈ events, e.HasMemory) → s.names = hosts)) ∨
        s₀.run args events = .error .assertion ∧ ∃ e ∈ events, e.LeavesEarly args) := by
  obtain ⟨s₀, hstart, hi, hnames, hclean⟩ := ipmiseldStart_spec hne threadpoolCount now
  refine ⟨s₀, hstart, ?_⟩
  rcases run_spec hi with ⟨s, hrun, hi', hall⟩ | ⟨hrun, hearly⟩
  · refine Or.inl ⟨s, hrun, fun hnodup => ?_, hi'.le, fun hmem => (hall hmem).trans hnames⟩
    exact Multiset.nodup_of_le hi'.le (Multiset.coe_nodup.mpr hnodup)
  · exact Or.inr ⟨hrun, hearly.resolve_left fun hnot => hnot hclean⟩

/-- Polls a minute after each other. -/
def minuteArgs : Args := ⟨60, 0, true, false, false⟩

/-- A poll that succeeds. -/
def goodCalls : PollCalls :=
  ⟨true, true, true, true, true, true, true, true, true, true, true, true, true, true, true⟩

theorem run_keepsHosts_two :
    ∃ s₀, ipmiseldStart [1, 2] 2 100 = .ok (some s₀) ∧
      ((∃ s, s₀.run minuteArgs [.main true, .main true, .worker 0 true goodCalls, .main true] = .ok s ∧
          ([1, 2].Nodup → s.names.Nodup) ∧ s.names ≤ [1, 2] ∧
          ((∀ e ∈ [Event.main true, .main true, .worker 0 true goodCalls, .main true], e.HasMemory) →
            s.names = [1, 2])) ∨
        s₀.run minuteArgs [.main true, .main true, .worker 0 true goodCalls, .main true]
          = .error .assertion ∧
          ∃ e ∈ [Event.main true, .main true, .worker 0 true goodCalls, .main true],
            e.LeavesEarly minuteArgs) :=
  run_keepsHosts minuteArgs (by decide) 2 100 _

end Runs

/-! ### Nobody starves -/

section Starve
variable {args : Args} {hosts : Multiset ℕ} {s s' : Sched} {a : Host} {events : List Event} {e : Event}

/-- The main thread pops a host next. -/
def Sched.popsBy (s : Sched) : Event → Bool
  | .main _ =>
    match s.main with
    | .loop => !s.exiting
    | _ => false
  | _ => false

/-- How often it does so in a run. -/
def Sched.pops (args : Args) : Sched → List Event → ℕ
  | _, [] => 0
  | s, e :: events =>
    (if s.popsBy e then 1 else 0) +
      match s.step args e with
      | .ok s => s.pops args events
      | .error _ => 0

/-- A host that can be popped before `a`. -/
def Host.due (a hd : Host) : ℕ := if hd.nextPollTime ≤ a.nextPollTime then 1 else 0

/-- Among those that are being put back into the heap, the hosts that can be popped before `a`. -/
def MainAt.due (a : Host) : MainAt → ℕ
  | .back hd => a.due hd
  | _ => 0

def WorkerAt.due (a : Host) : WorkerAt → ℕ
  | .insert hd => a.due hd
  | _ => 0

/-- The hosts that can be popped before `a`, which is in the heap. -/
def Sched.ahead (a : Host) (s : Sched) : ℕ :=
  ((s.heap.elems.erase a).map a.due).sum + s.main.due a + (s.workers.map (WorkerAt.due a)).sum

/-- The time of `a` has come. -/
structure Waits (a : Host) (s : Sched) : Prop where
  mem : a ∈ s.heap.elems
  time : a.nextPollTime ≤ s.now

/-- In a step `a` is popped, or it still waits, and whoever is popped has been ahead of it. -/
inductive Advanced (a : Host) (e : Event) (s s' : Sched) : Prop
  | popped : s'.main = .queue a → Advanced a e s s'
  | waits : Waits a s' → s'.ahead a + (if s.popsBy e then 1 else 0) ≤ s.ahead a → Advanced a e s s'

theorem due_cons {t : Multiset Host} (hmem : a ∈ t) (hd : Host) :
    (((hd ::ₘ t).erase a).map a.due).sum = a.due hd + ((t.erase a).map a.due).sum := by
  have hall : (t.map a.due).sum = a.due a + ((t.erase a).map a.due).sum := by
    rw [← Multiset.sum_cons, ← Multiset.map_cons, Multiset.cons_erase hmem]
  by_cases hsame : hd = a
  · rw [hsame, Multiset.erase_cons_head, hall]
  · rw [Multiset.erase_cons_tail _ hsame, Multiset.map_cons, Multiset.sum_cons]

/-- A host that is put back into the heap still is ahead of `a`, if it was. -/
theorem HostHeap.insert_due {size : ℕ} {h h' : Heap Host} (hheap : HostHeap size h)
    (hroom : Multiset.card h.elems < size) (hmem : a ∈ h.elems) {hd : Host} {mem : Bool}
    {ret : Except HeapErr Unit} (hinsert : heapInsert h hd mem = .ok (ret, h')) :
    a ∈ h'.elems ∧
      ((h'.elems.erase a).map a.due).sum ≤ a.due hd + ((h.elems.erase a).map a.due).sum := by
  obtain ⟨ret', h'', hinsert', -, helems, -⟩ := hheap.insert hroom hd mem
  rw [hinsert] at hinsert'
  cases hinsert'
  rw [helems]
  cases mem with
  | true =>
    rw [if_pos rfl, Multiset.singleton_add]
    exact ⟨Multiset.mem_cons_of_mem hmem, (due_cons hmem hd).le⟩
  | false =>
    rw [if_neg Bool.false_ne_true, zero_add]
    exact ⟨hmem, Nat.le_add_left _ _⟩

theorem mainStep_advanced (hheap : HostHeap (Multiset.card hosts) s.heap)
    (hroom : ∀ hd ∈ s.inHand, Multiset.card s.heap.elems < Multiset.card hosts) (hw : Waits a s)
    (hstep : mainStep args s true = .ok s') : Advanced a (.main true) s s' := by
  cases hmain : s.main with
  | loop =>
    simp only [mainStep, hmain] at hstep
    by_cases hexit : s.exiting
    · rw [if_pos hexit] at hstep
      cases hstep
      refine .waits ⟨hw.mem, hw.time⟩ ?_
      simp [Sched.ahead, Sched.popsBy, hmain, hexit, MainAt.due]
    · rw [if_neg hexit] at hstep
      rcases hheap.pop with ⟨-, hempty⟩ | ⟨hd, h', hpop, -, helems, hfirst⟩
      · exact absurd (hempty ▸ hw.mem) (Multiset.notMem_zero a)
      · rw [hpop, ok_bind] at hstep
        cases hstep
        by_cases hsame : hd = a
        · exact .popped (by rw [hsame])
        · have hmem : a ∈ h'.elems := by
            have hmem := hw.mem
            rw [helems, Multiset.mem_cons] at hmem
            exact hmem.resolve_left fun heq => hsame heq.symm
          refine .waits ⟨hmem, hw.time⟩ ?_
          have hdue : a.due hd = 1 := if_pos (hfirst a hw.mem)
          have herase : s.heap.elems.erase a = hd ::ₘ h'.elems.erase a := by
            rw [helems, Multiset.erase_cons_tail _ hsame]
          simp only [Sched.ahead, Sched.popsBy, hmain, hexit, herase, Multiset.map_cons,
            Multiset.sum_cons, hdue, MainAt.due]
          simp
  | queue hd =>
    simp only [mainStep, hmain] at hstep
    cases hstep
    refine .waits ⟨hw.mem, hw.time⟩ ?_
    simp [Sched.ahead, Sched.popsBy, hmain, MainAt.due]
  | back hd =>
    simp only [mainStep, hmain] at hstep
    obtain ⟨⟨ret, h'⟩, hinsert, hok⟩ := bind_eq_ok.mp hstep
    cases hok
    have hhand : hd ∈ s.inHand := by
      rw [Sched.inHand, hmain]
      simp [MainAt.hosts]
    obtain ⟨hmem, hdue⟩ := hheap.insert_due (hroom hd hhand) hw.mem hinsert
    refine .waits ⟨hmem, hw.time⟩ ?_
    simp only [Sched.ahead, Sched.popsBy, hmain, MainAt.due, Bool.false_eq_true, if_false]
    omega
  | peek =>
    simp only [mainStep, hmain] at hstep
    obtain ⟨v, -, hok⟩ := bind_eq_ok.mp hstep
    cases hok
    refine .waits ⟨hw.mem, hw.time⟩ ?_
    simp [Sched.ahead, Sched.popsBy, hmain, MainAt.due]
  | sleep secs =>
    simp only [mainStep, hmain] at hstep
    cases hstep
    refine .waits ⟨hw.mem, hw.time⟩ ?_
    simp [Sched.ahead, Sched.popsBy, hmain, MainAt.due]
  | done =>
    simp only [mainStep, hmain] at hstep
    cases hstep
    refine .waits hw ?_
    simp [Sched.popsBy, hmain]

/-- A host that has been polled comes later than `a`. -/
theorem workerStep_advanced (hheap : HostHeap (Multiset.card hosts) s.heap)
    (hroom : ∀ hd ∈ s.inHand, Multiset.card s.heap.elems < Multiset.card hosts) (hw : Waits a s)
    (hinterval : 0 < args.pollInterval) {w : ℕ} {mem : Bool} {c : PollCalls}
    (hstep : workerStep args s w mem c = .ok s') : Advanced a (.worker w mem c) s s' := by
  have hpops : (if s.popsBy (.worker w mem c) then 1 else 0) = 0 := rfl
  cases hx : s.workers[w]? with
  | none =>
    simp only [workerStep, hx] at hstep
    cases hstep
    exact .waits hw le_rfl
  | some x =>
    obtain ⟨others, hall, hset⟩ := sum_map_set (WorkerAt.due a) hx
    obtain ⟨othersHosts, hallHosts, -⟩ := workersHosts_set hx
    have hhand : x.hosts ≤ s.inHand := by
      rw [Sched.inHand, hallHosts]
      exact (Multiset.le_add_right _ _).trans (Multiset.le_add_left _ _)
    cases x with
    | loop =>
      simp only [workerStep, hx] at hstep
      split at hstep
      · cases hstep
        refine .waits ⟨hw.mem, hw.time⟩ ?_
        simp only [Sched.ahead, hset, hall, hpops]
        exact le_rfl
      · split at hstep
        · cases hstep
          exact .waits hw le_rfl
        · cases hstep
          refine .waits ⟨hw.mem, hw.time⟩ ?_
          simp only [Sched.ahead, hset, hall, hpops]
          exact le_rfl
    | poll hd =>
      simp only [workerStep, hx] at hstep
      obtain ⟨⟨rv, hd'⟩, -, hok⟩ := bind_eq_ok.mp hstep
      cases hok
      refine .waits ⟨hw.mem, hw.time⟩ ?_
      simp only [Sched.ahead, hset, hall, hpops]
      exact le_rfl
    | postprocess hd =>
      simp only [workerStep, hx] at hstep
      obtain ⟨hd', hpost, hok⟩ := bind_eq_ok.mp hstep
      cases hok
      rw [pollPostprocess] at hpost
      split at hpost
      · cases hpost
      · cases hpost
        have hlater : WorkerAt.due a (.insert { hd with nextPollTime := s.now + args.pollInterval }) = 0 := by
          have htime := hw.time
          exact if_neg (by show ¬ s.now + args.pollInterval ≤ a.nextPollTime; omega)
        refine .waits ⟨hw.mem, hw.time⟩ ?_
        simp only [Sched.ahead, hset, hall, hpops, hlater]
        exact le_rfl
    | insert hd =>
      simp only [workerStep, hx] at hstep
      obtain ⟨⟨ret, h'⟩, hinsert, hok⟩ := bind_eq_ok.mp hstep
      cases hok
      have hmem' : hd ∈ s.inHand := Multiset.mem_of_le hhand (Multiset.mem_singleton_self hd)
      obtain ⟨hmem, hdue⟩ := hheap.insert_due (hroom hd hmem') hw.mem hinsert
      refine .waits ⟨hmem, hw.time⟩ ?_
      simp only [Sched.ahead, hset, hall, hpops, WorkerAt.due]
      omega
    | done =>
      simp only [workerStep, hx] at hstep
      cases hstep
      exact .waits hw le_rfl

theorem step_advanced (hi : s.Inv hosts) (hw : Waits a s) (hinterval : 0 < args.pollInterval)
    (hmem : e ≠ .main false) (hstep : s.step args e = .ok s') : Advanced a e s s' := by
  cases e with
  | tick secs =>
    cases hstep
    exact .waits ⟨hw.mem, hw.time.trans (Nat.le_add_right _ _)⟩ le_rfl
  | signal =>
    cases hstep
    exact .waits ⟨hw.mem, hw.time⟩ le_rfl
  | main mem =>
    cases mem with
    | true => exact mainStep_advanced hi.heap (fun _ hhand => hi.room hhand) hw hstep
    | false => exact absurd rfl hmem
  | worker w mem c =>
    exact workerStep_advanced hi.heap (fun _ hhand => hi.room hhand) hw hinterval hstep

theorem run_advanced (hi : s.Inv hosts) (hw : Waits a s) (hinterval : 0 < args.pollInterval)
    (hmem : ∀ e ∈ events, e ≠ .main false) (hrun : s.run args events = .ok s') :
    (∃ events₁ events₂ s₁, events = events₁ ++ events₂ ∧ s.run args events₁ = .ok s₁ ∧
      s₁.main = .queue a) ∨ s.pops args events ≤ s.ahead a := by
  induction events generalizing s with
  | nil => exact Or.inr (Nat.zero_le _)
  | cons e events ih =>
    obtain ⟨s₁, hstep, hrest⟩ := bind_eq_ok.mp hrun
    rcases step_spec hi e with ⟨s₁', hstep', hs⟩ | ⟨hstep', -⟩
    · rw [hstep] at hstep'
      cases hstep'
      cases step_advanced hi hw hinterval (hmem e List.mem_cons_self) hstep with
      | popped hpopped =>
        exact Or.inl ⟨[e], events, s₁, rfl, by rw [Sched.run, hstep]; rfl, hpopped⟩
      | waits hw₁ hahead =>
        rcases ih (hs.inv hi) hw₁ (fun e' he' => hmem e' (List.mem_cons_of_mem _ he')) hrest with
          ⟨events₁, events₂, s₂, rfl, hrun₁, hpopped⟩ | hpops
        · refine Or.inl ⟨e :: events₁, events₂, s₂, rfl, ?_, hpopped⟩
          rw [Sched.run, hstep]
          exact hrun₁
        · refine Or.inr ?_
          rw [Sched.pops, hstep]
          simp only
          omega
    · rw [hstep] at hstep'
      cases hstep'

theorem Host.due_le (a hd : Host) : a.due hd ≤ 1 := by
  rw [Host.due]
  split <;> omega

theorem workers_due_le (a : Host) : ∀ workers : List WorkerAt,
    (workers.map (WorkerAt.due a)).sum ≤ Multiset.card (workersHosts workers)
  | [] => le_rfl
  | x :: workers => by
    have ih := workers_due_le a workers
    have hx : x.due a ≤ Multiset.card x.hosts := by
      cases x with
      | insert hd => exact Host.due_le a hd
      | _ => exact Nat.zero_le _
    show x.due a + (workers.map (WorkerAt.due a)).sum
      ≤ Multiset.card (x.hosts + workersHosts workers)
    rw [Multiset.card_add]
    omega

/-- Fewer hosts than there are can be ahead of one of them. -/
theorem Sched.Inv.ahead_lt (hi : s.Inv hosts) (hmem : a ∈ s.heap.elems) :
    s.ahead a < Multiset.card hosts := by
  have hcard := Multiset.card_le_card hi.le
  rw [Sched.names, Multiset.card_map, Sched.hosts, Sched.inHand, Multiset.card_add, Multiset.card_add,
    Multiset.card_add] at hcard
  have hpos := Multiset.card_pos_iff_exists_mem.mpr ⟨a, hmem⟩
  have hheap : ((s.heap.elems.erase a).map a.due).sum ≤ Multiset.card (s.heap.elems.erase a) := by
    have hsum := Multiset.sum_le_card_nsmul ((s.heap.elems.erase a).map a.due) 1 (by
      intro n hn
      obtain ⟨hd, -, rfl⟩ := Multiset.mem_map.mp hn
      exact Host.due_le a hd)
    rwa [Multiset.card_map, smul_eq_mul, mul_one] at hsum
  rw [Multiset.card_erase_of_mem hmem, Nat.pred_eq_sub_one] at hheap
  have hmain : s.main.due a ≤ Multiset.card s.main.hosts := by
    cases s.main with
    | back hd => exact Host.due_le a hd
    | _ => exact Nat.zero_le _
  have hworkers := workers_due_le a s.workers
  rw [Sched.ahead]
  omega

/-- Once the time of a host has come that is in the heap, it is among the next hosts that are popped, no
    more of them than there are hosts, whatever the threads do and however long the polls take. -/
theorem run_noStarvation {args : Args} {hosts : List ℕ} {threadpoolCount now : ℕ} {s₀ s s' : Sched}
    {a : Host} {events₀ events : List Event}
    (hstart : ipmiseldStart hosts threadpoolCount now = .ok (some s₀)) (hne : hosts ≠ [])
    (hrun₀ : s₀.run args events₀ = .ok s) (hmem : a ∈ s.heap.elems) (htime : a.nextPollTime ≤ s.now)
    (hinterval : 0 < args.pollInterval) (hqueued : ∀ e ∈ events, e ≠ .main false)
    (hrun : s.run args events = .ok s') (hpops : hosts.length ≤ s.pops args events) :
    ∃ events₁ events₂ s₁, events = events₁ ++ events₂ ∧ s.run args events₁ = .ok s₁ ∧
      s₁.main = .queue a := by
  obtain ⟨s₀', hstart', hi₀, -, -⟩ := ipmiseldStart_spec hne threadpoolCount now
  rw [hstart] at hstart'
  cases hstart'
  rcases run_spec hi₀ with ⟨s₁, hrun₁, hi, -⟩ | ⟨hrun₁, -⟩
  · rw [hrun₀] at hrun₁
    cases hrun₁
    have hahead := hi.ahead_lt hmem
    rw [Multiset.coe_card] at hahead
    exact (run_advanced hi ⟨hmem, htime⟩ hinterval hqueued hrun).resolve_right (by omega)
  · rw [hrun₀] at hrun₁
    cases hrun₁

/-- The main thread goes around its loop until it has popped the second time. -/
def twoPops : List Event := List.replicate 5 (.main true)

theorem run_noStarvation_second :
    ∃ s₀ s', ipmiseldStart [1, 2] 1 100 = .ok (some s₀) ∧ s₀.run minuteArgs twoPops = .ok s' ∧
      ∃ events₁ events₂ s₁, twoPops = events₁ ++ events₂ ∧ s₀.run minuteArgs events₁ = .ok s₁ ∧
        s₁.main = .queue ⟨2, 0, false⟩ :=
  ⟨_, _, rfl, rfl, run_noStarvation (rfl : ipmiseldStart [1, 2] 1 100 = .ok (some _)) (by decide)
    (rfl : Sched.run minuteArgs _ [] = .ok _) (by decide) (by decide) (by decide)
    (by simp [twoPops]) rfl (by decide)⟩

end Starve

end FreeIpmi.Seld
