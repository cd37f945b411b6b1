import Mathlib

/-! Jobs in lanes.

    Jobs are worked off in passes over a list. Where two jobs of one key must not run at the same time,
    each key has a lane: its head may run, and the others wait behind it. A job that is queued joins the
    lane of its key; when a head is finished, what is left of its lane goes to the end of the list once
    the pass is over. `Board` is the list with a record of what was queued, started and finished;
    `Valid` is kept by every step, and says that no job is lost or run twice and that the jobs of a key
    are started in their order. -/

namespace Lanes
universe u v
variable {α : Type u} {κ : Type v} {key : α → κ}

/-- A job at the head, and those that wait behind it. -/
structure Lane (α : Type u) where
  head : α
  waiting : List α

def Lane.members (l : Lane α) : List α := l.head :: l.waiting

def members (ls : List (Lane α)) : List α := ls.flatMap Lane.members

/-- The lane without its head. -/
def Lane.next (l : Lane α) : List (Lane α) :=
  match l.waiting with
  | [] => []
  | a :: as => [⟨a, as⟩]

def Lane.map {β : Type v} (f : α → β) (l : Lane α) : Lane β := ⟨f l.head, l.waiting.map f⟩

/-- Each lane is of one key, and no two of the same. -/
structure Separate (key : α → κ) (ls : List (Lane α)) : Prop where
  distinct : (ls.map fun l => key l.head).Nodup
  uniform : ∀ l ∈ ls, ∀ a ∈ l.waiting, key a = key l.head

variable {a : α} {k : κ} {l : Lane α} {ls ls' as bs : List (Lane α)}

@[simp] theorem members_nil : members ([] : List (Lane α)) = [] := rfl

@[simp] theorem members_cons (l : Lane α) (ls : List (Lane α)) :
    members (l :: ls) = l.head :: (l.waiting ++ members ls) := by
  simp [members, Lane.members]

@[simp] theorem members_append (as bs : List (Lane α)) :
    members (as ++ bs) = members as ++ members bs := by
  simp [members]

@[simp] theorem members_next (l : Lane α) : members l.next = l.waiting := by
  unfold Lane.next
  split <;> simp [*]

theorem map_next {β : Type v} (f : α → β) (l : Lane α) :
    (l.map f).next = l.next.map (Lane.map f) := by
  unfold Lane.next Lane.map
  cases l.waiting <;> rfl

theorem members_map {β : Type v} (f : α → β) (ls : List (Lane α)) :
    members (ls.map (Lane.map f)) = (members ls).map f := by
  induction ls with
  | nil => rfl
  | cons l ls ih => simp [Lane.map, ih]

theorem Separate.perm (h : Separate key ls) (hp : ls.Perm ls') : Separate key ls' where
  distinct := (hp.map _).nodup_iff.mp h.distinct
  uniform l hl := h.uniform l (hp.mem_iff.mpr hl)

theorem Separate.tail (h : Separate key (l :: ls)) : Separate key ls where
  distinct := (List.nodup_cons.mp h.distinct).2
  uniform l' hl' := h.uniform l' (List.mem_cons_of_mem l hl')

theorem Separate.head_ne (h : Separate key (l :: ls)) : ∀ l' ∈ ls, key l'.head ≠ key l.head :=
  fun _ hl' he => (List.nodup_cons.mp h.distinct).1 (List.mem_map.mpr ⟨_, hl', he⟩)

theorem Separate.next (h : Separate key (as ++ l :: bs)) : Separate key (as ++ bs ++ l.next) := by
  have hsep : Separate key (l :: (as ++ bs)) := h.perm List.perm_middle
  suffices hfirst : Separate key (l.next ++ (as ++ bs)) from hfirst.perm List.perm_append_comm
  unfold Lane.next
  cases hw : l.waiting with
  | nil => exact hsep.tail
  | cons a rest =>
    have hu := hsep.uniform l List.mem_cons_self
    rw [hw] at hu
    have ha : key a = key l.head := hu a List.mem_cons_self
    refine ⟨?_, fun l' hl' => ?_⟩
    · simpa [ha] using hsep.distinct
    · rcases List.mem_cons.mp hl' with rfl | hl'
      · exact fun b hb => (hu b (List.mem_cons_of_mem a hb)).trans ha.symm
      · exact hsep.tail.uniform l' hl'

/-! ### Joining a lane -/

section keys
variable [DecidableEq κ]

/-- A job goes to the end of the first lane of its key, or opens a lane at the end of the list. -/
def join (key : α → κ) (a : α) : List (Lane α) → List (Lane α)
  | [] => [⟨a, []⟩]
  | l :: ls =>
    if key l.head = key a then { l with waiting := l.waiting ++ [a] } :: ls else l :: join key a ls

theorem map_join {β : Type v} (f : α → β) (key : β → κ) (a : α) (ls : List (Lane α)) :
    (join (fun a => key (f a)) a ls).map (Lane.map f) = join key (f a) (ls.map (Lane.map f)) := by
  induction ls with
  | nil => rfl
  | cons l ls ih =>
    rw [join, List.map_cons, join, ← ih]
    by_cases hl : key (f l.head) = key (f a)
    · rw [if_pos hl, if_pos (show key (l.map f).head = key (f a) from hl)]
      simp [Lane.map]
    · rw [if_neg hl, if_neg (show key (l.map f).head ≠ key (f a) from hl), List.map_cons]

theorem members_join (key : α → κ) (a : α) (ls : List (Lane α)) :
    (members (join key a ls)).Perm (members ls ++ [a]) := by
  induction ls with
  | nil => simp [join]
  | cons l ls ih =>
    unfold join
    split
    · have hswap : ([a] ++ members ls).Perm (members ls ++ [a]) := List.perm_append_comm
      simpa using hswap.append_left l.waiting
    · simpa using ih.append_left l.waiting

/-- Joining a lane leaves the heads, or adds one. -/
theorem heads_join (key : α → κ) (a : α) (ls : List (Lane α)) :
    (join key a ls).map Lane.head = ls.map Lane.head
      ∨ (∀ l ∈ ls, key l.head ≠ key a) ∧ (join key a ls).map Lane.head = ls.map Lane.head ++ [a] := by
  induction ls with
  | nil => exact .inr ⟨by simp, rfl⟩
  | cons l ls ih =>
    unfold join
    split
    next => exact .inl rfl
    next hne =>
      rcases ih with ih | ⟨hnone, ih⟩
      · exact .inl (by simp [ih])
      · exact .inr ⟨by simpa [hne] using hnone, by simp [ih]⟩

/-- Who waits after joining a lane waited before, or joined. -/
theorem waiting_join {b : α} (hl : l ∈ join key a ls) (hb : b ∈ l.waiting) :
    b = a ∨ ∃ l' ∈ ls, b ∈ l'.waiting := by
  induction ls with
  | nil =>
    obtain rfl := List.mem_singleton.mp hl
    cases hb
  | cons l' ls ih =>
    unfold join at hl
    split at hl
    next =>
      rcases List.mem_cons.mp hl with rfl | hl
      · rcases List.mem_append.mp hb with hb | hb
        · exact .inr ⟨l', List.mem_cons_self, hb⟩
        · exact .inl (List.mem_singleton.mp hb)
      · exact .inr ⟨l, List.mem_cons_of_mem _ hl, hb⟩
    next =>
      rcases List.mem_cons.mp hl with rfl | hl
      · exact .inr ⟨l, List.mem_cons_self, hb⟩
      · rcases ih hl with hba | ⟨l₀, hl₀, hb₀⟩
        · exact .inl hba
        · exact .inr ⟨l₀, List.mem_cons_of_mem _ hl₀, hb₀⟩

/-! ### The lines of the keys -/

/-- The jobs of a key, in the order of the lanes. -/
def line (key : α → κ) (k : κ) (ls : List (Lane α)) : List α := (members ls).filter (key · = k)


@[simp] theorem line_nil : line key k ([] : List (Lane α)) = [] := rfl

theorem line_append (as bs : List (Lane α)) :
    line key k (as ++ bs) = line key k as ++ line key k bs := by
  simp [line]

theorem line_cons (l : Lane α) (ls : List (Lane α)) :
    line key k (l :: ls) = l.members.filter (key · = k) ++ line key k ls := by
  simp [line, members]

/-- A lane of the key is in its line as a whole. -/
theorem filter_members_self (hl : ∀ a ∈ l.waiting, key a = key l.head) (hk : key l.head = k) :
    l.members.filter (key · = k) = l.members := by
  refine List.filter_eq_self.mpr fun a ha => ?_
  rcases List.mem_cons.mp ha with rfl | ha
  · simpa using hk
  · simpa using (hl a ha).trans hk

/-- A lane of another key is not in the line. -/
theorem filter_members_other (hl : ∀ a ∈ l.waiting, key a = key l.head) (hk : key l.head ≠ k) :
    l.members.filter (key · = k) = [] := by
  refine List.filter_eq_nil_iff.mpr fun a ha => ?_
  rcases List.mem_cons.mp ha with rfl | ha
  · simpa using hk
  · simpa [hl a ha] using hk

theorem line_eq_nil (hls : ∀ l ∈ ls, ∀ a ∈ l.waiting, key a = key l.head)
    (hk : ∀ l ∈ ls, key l.head ≠ k) : line key k ls = [] := by
  induction ls with
  | nil => rfl
  | cons l ls ih =>
    have hl : l.members.filter (key · = k) = [] :=
      filter_members_other (hls l List.mem_cons_self) (hk l List.mem_cons_self)
    rw [line_cons, hl, List.nil_append]
    exact ih (fun l' hl' => hls l' (List.mem_cons_of_mem l hl'))
      fun l' hl' => hk l' (List.mem_cons_of_mem l hl')

/-- The line of a key that has a lane. -/
theorem Separate.line_head (h : Separate key (l :: ls)) (hk : key l.head = k) :
    line key k (l :: ls) = l.members := by
  rw [line_cons, filter_members_self (h.uniform l List.mem_cons_self) hk,
    line_eq_nil h.tail.uniform fun l' hl' => hk ▸ h.head_ne l' hl', List.append_nil]

theorem Separate.line_tail (h : Separate key (l :: ls)) (hk : key l.head ≠ k) :
    line key k (l :: ls) = line key k ls := by
  rw [line_cons, filter_members_other (h.uniform l List.mem_cons_self) hk, List.nil_append]

/-- The line of a key is its lane. -/
theorem Separate.line_of_mem (h : Separate key ls) (hl : l ∈ ls) (hk : key l.head = k) :
    line key k ls = l.members := by
  obtain ⟨as, bs, rfl⟩ := List.append_of_mem hl
  have hsep : Separate key (l :: (as ++ bs)) := h.perm List.perm_middle
  have has : line key k as = [] := line_eq_nil
    (fun l' hl' => h.uniform l' (List.mem_append_left _ hl'))
    fun l' hl' => hk ▸ hsep.head_ne l' (List.mem_append_left _ hl')
  have hbs : Separate key (l :: bs) :=
    ⟨(List.nodup_append.mp (by simpa using h.distinct)).2.1,
      fun l' hl' => h.uniform l' (List.mem_append_right _ hl')⟩
  rw [line_append, has, List.nil_append, hbs.line_head hk]

/-- The order of the lanes does not matter to a line. -/
theorem Separate.line_perm (h : Separate key ls) (hp : ls.Perm ls') :
    line key k ls = line key k ls' := by
  by_cases hk : ∃ l ∈ ls, key l.head = k
  · obtain ⟨l, hl, hk⟩ := hk
    rw [h.line_of_mem hl hk, (h.perm hp).line_of_mem (hp.mem_iff.mp hl) hk]
  · have hne : ∀ l ∈ ls, key l.head ≠ k := fun l hl he => hk ⟨l, hl, he⟩
    rw [line_eq_nil h.uniform hne, line_eq_nil (h.perm hp).uniform fun l hl => hne l (hp.mem_iff.mpr hl)]

/-- A head leaves its line, and the lane may move. -/
theorem Separate.line_next (h : Separate key (as ++ l :: bs)) :
    line key k (as ++ l :: bs)
      = (if key l.head = k then [l.head] else []) ++ line key k (as ++ bs ++ l.next) := by
  have hsep : Separate key (l :: (as ++ bs)) := h.perm List.perm_middle
  have hwaiting : line key k l.next = l.waiting.filter (key · = k) := by rw [line, members_next]
  rw [h.line_perm List.perm_middle, line_append (as ++ bs), hwaiting]
  by_cases hk : key l.head = k
  · have hrest : line key k (as ++ bs) = [] :=
      line_eq_nil hsep.tail.uniform fun l' hl' => hk ▸ hsep.head_ne l' hl'
    have hall : l.waiting.filter (key · = k) = l.waiting :=
      List.filter_eq_self.mpr fun a ha => by
        simpa using (hsep.uniform l List.mem_cons_self a ha).trans hk
    rw [hsep.line_head hk, if_pos hk, hrest, hall]
    rfl
  · have hnone : l.waiting.filter (key · = k) = [] :=
      List.filter_eq_nil_iff.mpr fun a ha => by
        simpa [hsep.uniform l List.mem_cons_self a ha] using hk
    rw [hsep.line_tail hk, if_neg hk, hnone, List.nil_append, List.append_nil]

theorem Separate.join (h : Separate key ls) (a : α) : Separate key (join key a ls) where
  distinct := by
    have hkeys (ms : List (Lane α)) : ms.map (fun l => key l.head) = (ms.map Lane.head).map key := by
      simp
    have hdistinct := h.distinct
    rw [hkeys] at hdistinct ⊢
    rcases heads_join key a ls with heq | ⟨hnone, heq⟩
    · rwa [heq]
    · rw [heq, List.map_append, List.nodup_append]
      refine ⟨hdistinct, List.nodup_singleton _, ?_⟩
      rintro k hk k' hk' rfl
      obtain ⟨l, hl, rfl⟩ := List.mem_map.mp (hkeys ls ▸ hk)
      exact hnone l hl (List.mem_singleton.mp hk')
  uniform := by
    have huniform := h.uniform
    clear h
    induction ls with
    | nil => simp [Lanes.join]
    | cons l ls ih =>
      unfold Lanes.join
      have hl := huniform l List.mem_cons_self
      have hls := fun l' hl' => huniform l' (List.mem_cons_of_mem l hl')
      split
      next he =>
        intro l' hl' b hb
        rcases List.mem_cons.mp hl' with rfl | hl'
        · rcases List.mem_append.mp hb with hb | hb
          · exact hl b hb
          · exact (congrArg key (List.mem_singleton.mp hb)).trans he.symm
        · exact hls l' hl' b hb
      next =>
        intro l' hl'
        rcases List.mem_cons.mp hl' with rfl | hl'
        · exact hl
        · exact ih hls l' hl'

/-- A job that joins is the last of its line. -/
theorem Separate.line_join (h : Separate key ls) (a : α) :
    line key k (Lanes.join key a ls) = line key k ls ++ if key a = k then [a] else [] := by
  induction ls with
  | nil =>
    by_cases hk : key a = k
    · simp [Lanes.join, line, hk]
    · simp [Lanes.join, line, hk]
  | cons l ls ih =>
    unfold Lanes.join
    split
    next he =>
      by_cases hk : key a = k
      · have hsep : Separate key ({ l with waiting := l.waiting ++ [a] } :: ls) := by
          have hjoin := h.join a
          rwa [Lanes.join, if_pos he] at hjoin
        rw [hsep.line_head (he.trans hk), h.line_head (he.trans hk), if_pos hk]
        rfl
      · have hne : key l.head ≠ k := fun hl => hk (he.symm.trans hl)
        rw [line_cons, line_cons, if_neg hk, List.append_nil]
        congr 1
        rw [filter_members_other (h.uniform l List.mem_cons_self) hne]
        refine filter_members_other (fun b hb => ?_) hne
        rcases List.mem_append.mp hb with hb | hb
        · exact h.uniform l List.mem_cons_self b hb
        · exact (congrArg key (List.mem_singleton.mp hb)).trans he.symm
    next => rw [line_cons, line_cons, ih h.tail, List.append_assoc]

end keys

/-! ### A board of jobs -/

/-- A job that was queued. -/
structure Job (κ : Type v) where
  id : ℕ
  key : κ
  running : Bool

/-- When a job was queued, and for which key. -/
def Job.ticket (j : Job κ) : ℕ × κ := (j.id, j.key)

structure Board (κ : Type v) where
  -- the list, as far as the pass has come, and the rest of it
  before : List (Lane (Job κ))
  after : List (Lane (Job κ))
  -- what goes to the end of the list after the pass
  arriving : List (Lane (Job κ))
  busy : ℤ
  queued : List (ℕ × κ)
  started : List (ℕ × κ)
  finished : List (ℕ × κ)

namespace Board

def lanes (b : Board κ) : List (Lane (Job κ)) := b.before ++ b.after ++ b.arriving

/-- Nothing is queued. -/
def empty : Board κ := ⟨[], [], [], 0, [], [], []⟩

/-- A lane whose head runs. -/
def startHead (l : Lane (Job κ)) : Lane (Job κ) := { l with head := { l.head with running := true } }

@[simp] theorem startHead_key (l : Lane (Job κ)) : (startHead l).head.key = l.head.key := rfl
@[simp] theorem startHead_id (l : Lane (Job κ)) : (startHead l).head.id = l.head.id := rfl
@[simp] theorem startHead_waiting (l : Lane (Job κ)) : (startHead l).waiting = l.waiting := rfl
@[simp] theorem startHead_running (l : Lane (Job κ)) : (startHead l).head.running = true := rfl
@[simp] theorem startHead_ticket (l : Lane (Job κ)) : (startHead l).head.ticket = l.head.ticket := rfl

/-- The jobs that run. -/
def running (js : List (Job κ)) : List (Job κ) := js.filter Job.running

theorem running_append (is js : List (Job κ)) : running (is ++ js) = running is ++ running js :=
  List.filter_append ..

@[simp] theorem running_cons (j : Job κ) (js : List (Job κ)) :
    running (j :: js) = if j.running then j :: running js else running js :=
  List.filter_cons ..

theorem lanes_next {b : Board κ} {l : Lane (Job κ)} {rest : List (Lane (Job κ))}
    (hafter : b.after = l :: rest) : b.lanes = b.before ++ l :: (rest ++ b.arriving) := by
  simp [lanes, hafter]

variable [DecidableEq κ]

/-- A job is added to the list, in the lane of its key if keys are `serial`. -/
def add (serial : Bool) (j : Job κ) (ls : List (Lane (Job κ))) : List (Lane (Job κ)) :=
  if serial then join Job.key j ls else ls ++ [⟨j, []⟩]

/-- A job of the key is queued. -/
def enqueue (serial : Bool) (k : κ) (b : Board κ) : Board κ :=
  { b with
    before := add serial ⟨b.queued.length, k, false⟩ b.before
    queued := b.queued ++ [(b.queued.length, k)] }

/-- The head of the next lane is started. -/
def start (l : Lane (Job κ)) (rest : List (Lane (Job κ))) (b : Board κ) : Board κ :=
  { b with
    before := b.before ++ [startHead l]
    after := rest
    busy := b.busy + 1
    started := b.started ++ [l.head.ticket] }

/-- The head of the next lane is finished. -/
def finish (l : Lane (Job κ)) (rest : List (Lane (Job κ))) (b : Board κ) : Board κ :=
  { b with
    after := rest
    arriving := b.arriving ++ l.next
    busy := b.busy - 1
    finished := b.finished ++ [l.head.ticket] }

/-- One step, where at most `limit` jobs run at a time if it is not 0. -/
inductive Step (serial : Bool) (limit : ℕ) : Board κ → Board κ → Prop where
  | enqueue {b : Board κ} (k : κ) (hafter : b.after = []) (harriving : b.arriving = []) :
      Step serial limit b (b.enqueue serial k)
  | begin {b : Board κ} (hafter : b.after = []) :
      Step serial limit b { b with before := [], after := b.before }
  | keep {b : Board κ} {l : Lane (Job κ)} {rest : List (Lane (Job κ))} (hafter : b.after = l :: rest) :
      Step serial limit b { b with before := b.before ++ [l], after := rest }
  | start {b : Board κ} {l : Lane (Job κ)} {rest : List (Lane (Job κ))} (hafter : b.after = l :: rest)
      (hidle : l.head.running = false) (hlimit : limit ≠ 0 → b.busy < limit) :
      Step serial limit b (b.start l rest)
  | finish {b : Board κ} {l : Lane (Job κ)} {rest : List (Lane (Job κ))} (hafter : b.after = l :: rest)
      (hrunning : l.head.running = true) : Step serial limit b (b.finish l rest)
  | done {b : Board κ} (hafter : b.after = []) :
      Step serial limit b { b with before := b.before ++ b.arriving, arriving := [] }

/-- The tickets of one key. -/
def ofKey (k : κ) (ts : List (ℕ × κ)) : List (ℕ × κ) := ts.filter (·.2 = k)

structure Valid (serial : Bool) (limit : ℕ) (b : Board κ) : Prop where
  kept : b.queued.Perm (b.finished ++ (members b.lanes).map Job.ticket)
  ran : b.started.Perm (b.finished ++ (running (members b.lanes)).map Job.ticket)
  numbered : b.queued.map Prod.fst = List.range b.queued.length
  counted : b.busy = (b.before ++ b.after).countP fun l => l.head.running
  bounded : limit ≠ 0 → b.busy ≤ limit
  waiting : ∀ l ∈ b.lanes, ∀ j ∈ l.waiting, j.running = false
  arriving : ∀ l ∈ b.arriving, l.head.running = false
  alone : serial = false → ∀ l ∈ b.lanes, l.waiting = []
  separate : serial = true → Separate Job.key b.lanes
  inLine : serial = true → ∀ k, ofKey k b.queued
    = ofKey k b.finished ++ (line Job.key k b.lanes).map Job.ticket
  inOrder : serial = true → ∀ k, ofKey k b.started
    = ofKey k b.finished ++ (running (line Job.key k b.lanes)).map Job.ticket

variable {serial : Bool} {limit : ℕ} {b b' : Board κ}

theorem valid_empty : Valid serial limit (empty : Board κ) where
  kept := List.Perm.refl _
  ran := List.Perm.refl _
  numbered := rfl
  counted := rfl
  bounded _ := Int.natCast_nonneg limit
  waiting := by simp [lanes, empty]
  arriving := by simp [empty]
  alone := by simp [lanes, empty]
  separate _ := ⟨List.nodup_nil, by simp [lanes, empty]⟩
  inLine _ _ := rfl
  inOrder _ _ := rfl

/-- Where the pass is does not matter. -/
theorem Valid.moved {before after : List (Lane (Job κ))} (h : Valid serial limit b)
    (hmoved : before ++ after = b.before ++ b.after) :
    Valid serial limit { b with before, after } := by
  have hlanes : lanes { b with before, after } = b.lanes := by simp only [lanes, hmoved]
  exact ⟨hlanes ▸ h.kept, hlanes ▸ h.ran, h.numbered, hmoved ▸ h.counted, h.bounded, hlanes ▸ h.waiting,
    h.arriving, hlanes ▸ h.alone, hlanes ▸ h.separate, hlanes ▸ h.inLine, hlanes ▸ h.inOrder⟩

theorem Valid.done (h : Valid serial limit b) (hafter : b.after = []) :
    Valid serial limit { b with before := b.before ++ b.arriving, arriving := [] } := by
  have hlanes : lanes { b with before := b.before ++ b.arriving, arriving := [] } = b.lanes := by
    simp [lanes, hafter]
  have hcounted : b.busy = (b.before ++ b.arriving ++ b.after).countP fun l => l.head.running := by
    have hidle : b.arriving.countP (fun l => l.head.running) = 0 :=
      List.countP_eq_zero.mpr fun l hl => by simp [h.arriving l hl]
    rw [h.counted, hafter]
    simp [hidle]
  exact ⟨hlanes ▸ h.kept, hlanes ▸ h.ran, h.numbered, hcounted, h.bounded, hlanes ▸ h.waiting, by simp,
    hlanes ▸ h.alone, hlanes ▸ h.separate, hlanes ▸ h.inLine, hlanes ▸ h.inOrder⟩

theorem ofKey_append (k : κ) (ss ts : List (ℕ × κ)) : ofKey k (ss ++ ts) = ofKey k ss ++ ofKey k ts :=
  List.filter_append ..

section enqueue
variable {j : Job κ} {ls : List (Lane (Job κ))}

theorem members_add (serial : Bool) (j : Job κ) (ls : List (Lane (Job κ))) :
    (members (add serial j ls)).Perm (members ls ++ [j]) := by
  unfold add
  split
  · exact members_join Job.key j ls
  · simp

theorem countP_add (hj : j.running = false) :
    (add serial j ls).countP (fun l => l.head.running) = ls.countP fun l => l.head.running := by
  have hheads (ms : List (Lane (Job κ))) :
      ms.countP (fun l => l.head.running) = (ms.map Lane.head).countP Job.running := by
    rw [List.countP_map]
    rfl
  rw [hheads, hheads]
  unfold add
  split
  · rcases heads_join Job.key j ls with heq | ⟨-, heq⟩
    · rw [heq]
    · simp [heq, hj]
  · simp [hj]

theorem waiting_add {l : Lane (Job κ)} {i : Job κ} (hl : l ∈ add serial j ls) (hi : i ∈ l.waiting) :
    i = j ∨ ∃ l' ∈ ls, i ∈ l'.waiting := by
  unfold add at hl
  split at hl
  · exact waiting_join hl hi
  · rcases List.mem_append.mp hl with hl | hl
    · exact .inr ⟨l, hl, hi⟩
    · obtain rfl := List.mem_singleton.mp hl
      cases hi

/-- Who is queued is at the end of its line, and waits. -/
theorem Valid.enqueue (h : Valid serial limit b) (k : κ) (hafter : b.after = [])
    (harriving : b.arriving = []) : Valid serial limit (b.enqueue serial k) := by
  have hlanes : b.lanes = b.before := by simp [lanes, hafter, harriving]
  have hlanes' : (b.enqueue serial k).lanes = add serial ⟨b.queued.length, k, false⟩ b.before := by
    simp [lanes, Board.enqueue, hafter, harriving]
  have hmembers := members_add serial ⟨b.queued.length, k, false⟩ b.before
  have hjoin (hs : serial = true) :
      add serial ⟨b.queued.length, k, false⟩ b.before
        = join Job.key ⟨b.queued.length, k, false⟩ b.before := if_pos hs
  have hseparate (hs : serial = true) : Separate Job.key b.before := hlanes ▸ h.separate hs
  refine ⟨?_, ?_, ?_, ?_, h.bounded, ?_, h.arriving, ?_, ?_, ?_, ?_⟩
  · rw [hlanes']
    have hkept := hlanes ▸ h.kept
    have hadd := (hmembers.map Job.ticket).append_left b.finished
    rw [List.map_append, ← List.append_assoc] at hadd
    exact (hkept.append_right _).trans hadd.symm
  · rw [hlanes']
    have hidle : running (members b.before ++ [⟨b.queued.length, k, false⟩])
        = running (members b.before) := by simp [running]
    have hran := hlanes ▸ h.ran
    refine hran.trans (List.Perm.append_left _ ?_)
    exact ((hmembers.filter _).trans (List.Perm.of_eq hidle)).symm.map _
  · simp [Board.enqueue, List.range_succ, h.numbered]
  · simp [Board.enqueue, List.countP_append, countP_add, h.counted]
  · rw [hlanes']
    intro l hl i hi
    rcases waiting_add hl hi with rfl | ⟨l', hl', hi'⟩
    · rfl
    · exact h.waiting l' (hlanes ▸ hl') i hi'
  · rw [hlanes']
    intro hs l hl
    rw [add, hs, if_neg (by simp)] at hl
    rcases List.mem_append.mp hl with hl | hl
    · exact h.alone hs l (hlanes ▸ hl)
    · rw [List.mem_singleton.mp hl]
  · rw [hlanes']
    intro hs
    rw [hjoin hs]
    exact (hseparate hs).join _
  · rw [hlanes']
    intro hs k'
    have hline := hlanes ▸ h.inLine hs k'
    rw [hjoin hs, (hseparate hs).line_join, List.map_append, ← List.append_assoc]
    refine (ofKey_append k' _ _).trans (congrArg₂ _ hline ?_)
    by_cases hk : k = k' <;> simp [ofKey, hk, Job.ticket]
  · rw [hlanes']
    intro hs k'
    have horder := hlanes ▸ h.inOrder hs k'
    rw [hjoin hs, (hseparate hs).line_join, running_append]
    refine horder.trans (congrArg _ ?_)
    by_cases hk : k = k' <;> simp [running, hk]

end enqueue

section next
variable {l : Lane (Job κ)} {rest : List (Lane (Job κ))}

theorem map_ticket_line (k : κ) (ls : List (Lane (Job κ))) :
    (line Job.key k ls).map Job.ticket = ofKey k ((members ls).map Job.ticket) := by
  rw [ofKey, List.filter_map]
  rfl

/-- No one who waits runs. -/
theorem Valid.running_waiting (h : Valid serial limit b) (hl : l ∈ b.lanes) : running l.waiting = [] :=
  List.filter_eq_nil_iff.mpr fun j hj => by simp [h.waiting l hl j hj]

/-- A head that is started keeps its place. -/
theorem Valid.start (h : Valid serial limit b) (hafter : b.after = l :: rest)
    (hidle : l.head.running = false) (hlimit : limit ≠ 0 → b.busy < limit) :
    Valid serial limit (b.start l rest) := by
  have hlanes := lanes_next hafter
  have hlanes' : (b.start l rest).lanes = b.before ++ startHead l :: (rest ++ b.arriving) := by
    simp [lanes, Board.start]
  have hlmem : l ∈ b.lanes := by simp [hlanes]
  have hmem {m : Lane (Job κ)} (hm : m ∈ (b.start l rest).lanes) : m = startHead l ∨ m ∈ b.lanes := by
    rw [hlanes'] at hm
    rw [hlanes]
    simp only [List.mem_append, List.mem_cons] at hm ⊢
    tauto
  have hmembers : (members (b.start l rest).lanes).map Job.ticket = (members b.lanes).map Job.ticket := by
    simp [hlanes, hlanes']
  have hseparate (hs : serial = true) : Separate Job.key (b.start l rest).lanes := by
    have hsep := h.separate hs
    refine ⟨?_, fun m hm => ?_⟩
    · have hdistinct := hsep.distinct
      rw [hlanes] at hdistinct
      simpa [hlanes'] using hdistinct
    · rcases hmem hm with rfl | hm
      · exact hsep.uniform l hlmem
      · exact hsep.uniform m hm
  refine ⟨hmembers ▸ h.kept, ?_, h.numbered, ?_, ?_, ?_, h.arriving, ?_, hseparate, ?_, ?_⟩
  · have hran := h.ran
    rw [hlanes] at hran
    rw [hlanes']
    simp only [members_append, members_cons, startHead_waiting, running_append, running_cons, hidle,
      startHead_running, Bool.false_eq_true, if_false, if_true, List.map_append, List.map_cons,
      startHead_ticket, ← List.append_assoc] at hran ⊢
    refine (hran.append_right [l.head.ticket]).trans ?_
    simp only [List.append_assoc, Board.start]
    refine List.Perm.append_left _ (List.Perm.append_left _ ?_)
    simp only [← List.append_assoc]
    exact List.perm_append_singleton _ _
  · simp only [Board.start, h.counted, hafter, List.countP_append, List.countP_cons,
      List.countP_nil, startHead_running, hidle]
    push_cast
    simp
    ring
  · intro hl
    have := hlimit hl
    simp only [Board.start]
    omega
  · intro m hm
    rcases hmem hm with rfl | hm
    · exact h.waiting l hlmem
    · exact h.waiting m hm
  · intro hs m hm
    rcases hmem hm with rfl | hm
    · exact h.alone hs l hlmem
    · exact h.alone hs m hm
  · intro hs k
    rw [map_ticket_line, hmembers, ← map_ticket_line]
    exact h.inLine hs k
  · intro hs k
    have horder := h.inOrder hs k
    have hperm : b.lanes.Perm (l :: (b.before ++ (rest ++ b.arriving))) := hlanes ▸ List.perm_middle
    have hperm' : (b.start l rest).lanes.Perm (startHead l :: (b.before ++ (rest ++ b.arriving))) :=
      hlanes' ▸ List.perm_middle
    have hsep := (h.separate hs).perm hperm
    have hsep' := (hseparate hs).perm hperm'
    rw [(h.separate hs).line_perm hperm] at horder
    rw [(hseparate hs).line_perm hperm']
    rw [Board.start, ofKey_append, horder]
    by_cases hk : l.head.key = k
    · rw [hsep.line_head hk, hsep'.line_head hk]
      simp [Lane.members, hidle, h.running_waiting hlmem, ofKey, hk, Job.ticket]
    · rw [hsep.line_tail hk, hsep'.line_tail hk]
      simp [ofKey, hk, Job.ticket]

omit [DecidableEq κ] in
/-- What is finished goes from the lanes to the list of finished jobs. -/
theorem perm_finish {β : Type v} (fs as ws bs : List β) (t : β) :
    (fs ++ (as ++ t :: (ws ++ bs))).Perm (fs ++ [t] ++ (as ++ bs ++ ws)) := by
  have hws : (as ++ (ws ++ bs)).Perm (as ++ bs ++ ws) := by
    rw [List.append_assoc]
    exact List.perm_append_comm.append_left as
  rw [List.append_assoc]
  exact (List.perm_middle.trans (hws.cons t)).append_left fs

/-- A head that is finished leaves its line, and the lane goes to the end of the list. -/
theorem Valid.finish (h : Valid serial limit b) (hafter : b.after = l :: rest)
    (hrunning : l.head.running = true) : Valid serial limit (b.finish l rest) := by
  have hlanes := lanes_next hafter
  have hlanes' : (b.finish l rest).lanes = b.before ++ (rest ++ b.arriving) ++ l.next := by
    simp [lanes, Board.finish]
  have hlmem : l ∈ b.lanes := by simp [hlanes]
  have hnext {m : Lane (Job κ)} (hm : m ∈ l.next) :
      m.head ∈ l.waiting ∧ ∀ j ∈ m.waiting, j ∈ l.waiting := by
    unfold Lane.next at hm
    split at hm
    next => cases hm
    next a as hw =>
      obtain rfl := List.mem_singleton.mp hm
      rw [hw]
      exact ⟨List.mem_cons_self, fun j hj => List.mem_cons_of_mem a hj⟩
  have hmem {m : Lane (Job κ)} (hm : m ∈ (b.finish l rest).lanes) : m ∈ b.lanes ∨ m ∈ l.next := by
    rw [hlanes'] at hm
    rw [hlanes]
    simp only [List.mem_append, List.mem_cons] at hm ⊢
    tauto
  have hseparate (hs : serial = true) : Separate Job.key (b.before ++ l :: (rest ++ b.arriving)) :=
    hlanes ▸ h.separate hs
  refine ⟨?_, ?_, h.numbered, ?_, ?_, ?_, ?_, ?_, ?_, ?_, ?_⟩
  · have hkept := h.kept
    rw [hlanes] at hkept
    rw [hlanes']
    simp only [members_append, members_cons, members_next, List.map_append, List.map_cons] at hkept ⊢
    exact hkept.trans (perm_finish ..)
  · have hran := h.ran
    rw [hlanes] at hran
    rw [hlanes']
    simp only [members_append, members_cons, members_next, running_append, running_cons, hrunning,
      if_true, List.map_append, List.map_cons] at hran ⊢
    exact hran.trans (perm_finish ..)
  · simp only [Board.finish, h.counted, hafter, List.countP_append, List.countP_cons, hrunning,
      if_true]
    push_cast
    ring
  · intro hl
    have := h.bounded hl
    simp only [Board.finish]
    omega
  · intro m hm j hj
    rcases hmem hm with hm | hm
    · exact h.waiting m hm j hj
    · exact h.waiting l hlmem j ((hnext hm).2 j hj)
  · intro m hm
    rcases List.mem_append.mp hm with hm | hm
    · exact h.arriving m hm
    · exact h.waiting l hlmem m.head (hnext hm).1
  · intro hs m hm
    rcases hmem hm with hm | hm
    · exact h.alone hs m hm
    · have hhead := (hnext hm).1
      rw [h.alone hs l hlmem] at hhead
      cases hhead
  · intro hs
    rw [hlanes']
    exact (hseparate hs).next
  · intro hs k
    have hline := h.inLine hs k
    rw [hlanes, (hseparate hs).line_next] at hline
    rw [hlanes', Board.finish, ofKey_append]
    refine hline.trans ?_
    by_cases hk : l.head.key = k <;> simp [ofKey, hk, Job.ticket]
  · intro hs k
    have horder := h.inOrder hs k
    rw [hlanes, (hseparate hs).line_next, running_append] at horder
    rw [hlanes', Board.finish, ofKey_append]
    refine horder.trans ?_
    by_cases hk : l.head.key = k <;> simp [running, ofKey, hk, Job.ticket, hrunning]

end next

/-- Every step keeps the board valid. -/
theorem Valid.step (h : Valid serial limit b) (hstep : Step serial limit b b') :
    Valid serial limit b' := by
  cases hstep with
  | enqueue k hafter harriving => exact h.enqueue k hafter harriving
  | begin hafter => exact h.moved (by simp [hafter])
  | keep hafter => exact h.moved (by simp [hafter])
  | start hafter hidle hlimit => exact h.start hafter hidle hlimit
  | finish hafter hrunning => exact h.finish hafter hrunning
  | done hafter => exact h.done hafter

/-- No job is queued twice. -/
theorem Valid.queued_nodup (h : Valid serial limit b) : (b.queued.map Prod.fst).Nodup :=
  h.numbered ▸ List.nodup_range

/-- No job is started twice. -/
theorem Valid.started_nodup (h : Valid serial limit b) : (b.started.map Prod.fst).Nodup := by
  have hall : ((b.finished ++ (members b.lanes).map Job.ticket).map Prod.fst).Nodup :=
    (h.kept.map Prod.fst).nodup_iff.mp h.queued_nodup
  refine (h.ran.map Prod.fst).nodup_iff.mpr (hall.sublist (List.Sublist.map _ ?_))
  exact (List.Sublist.refl _).append (List.filter_sublist.map _)

/-- The jobs of a key are started in the order in which they are queued. -/
theorem Valid.started_prefix (h : Valid true limit b) (k : κ) :
    ofKey k b.started <+: ofKey k b.queued := by
  rw [h.inLine rfl k, h.inOrder rfl k, List.prefix_append_right_inj]
  refine List.IsPrefix.map _ ?_
  by_cases hk : ∃ l ∈ b.lanes, l.head.key = k
  · obtain ⟨l, hl, hk⟩ := hk
    rw [(h.separate rfl).line_of_mem hl hk, Lane.members, running_cons, h.running_waiting hl]
    split
    · exact (List.prefix_cons_inj l.head).mpr List.nil_prefix
    · exact List.nil_prefix
  · have hnone : line Job.key k b.lanes = [] :=
      line_eq_nil (h.separate rfl).uniform fun l hl he => hk ⟨l, hl, he⟩
    rw [hnone]
    exact List.nil_prefix

end Board

end Lanes
