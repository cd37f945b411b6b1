import FreeIpmi.Miscutil.CbufCalls

/-! Whole runs of calls on a circular buffer of `common/miscutil/cbuf.c`, from `cbuf_create` on. -/

namespace FreeIpmi.Miscutil
open Ring Calls

/-! ### Runs -/

/-- A run of calls. -/
def runs : Cbuf → List CbufOp → Except Stop (List Outcome × Cbuf)
  | cb, [] => .ok ([], cb)
  | cb, op :: ops => do
    let (out, cb) ← op.run cb
    let (outs, cb) ← runs cb ops
    return (out :: outs, cb)

/-- A run on a tape. -/
inductive Fifo.Steps : Fifo → List CbufOp → List Outcome → Fifo → Prop
  | nil {q} : Steps q [] [] q
  | cons {q q' q'' op ops out outs} : q.Step op out q' → Steps q' ops outs q'' →
      Steps q (op :: ops) (out :: outs) q''

/-- The tape of a new buffer. -/
def Fifo.create (minsize maxsize : ℤ) : Fifo :=
  ⟨⟨minsize.toNat, [], [], Nat.zero_le _⟩, .wrapMany, max minsize.toNat maxsize.toNat⟩

section Runs
variable {overhead : ℕ} {cb cb' : Cbuf} {q q' : Fifo} {op : CbufOp} {out : Outcome} {ops : List CbufOp}
  {outs : List Outcome}

theorem CbufOp.keeps (h : cb.Holds overhead q) : ∀ {op : CbufOp}, op.Fits overhead q.maxsize →
    op.Keeps overhead cb q
  | .size, _ => keeps_size h
  | .free, _ => keeps_free h
  | .used, _ => keeps_used h
  | .reused, _ => keeps_reused h
  | .isEmpty, _ => keeps_isEmpty h
  | .flush, _ => keeps_flush h
  | .optSet value, _ => keeps_optSet h value
  | .drop len, _ => keeps_drop h len
  | .rewind len, _ => keeps_rewind h len
  | .peek len, _ => keeps_peek h len
  | .read len, _ => keeps_read h len
  | .replay len, _ => keeps_replay h len
  | .write _ _ _, hfits => keeps_write h hfits
  | .peekToFd len answers, _ => keeps_peekToFd h len answers
  | .readToFd len answers, _ => keeps_readToFd h len answers
  | .replayToFd len answers, _ => keeps_replayToFd h len answers
  | .writeFromFd _ _ _, hfits => keeps_writeFromFd h hfits

theorem Fifo.Step.maxsize (h : q.Step op out q') : q'.maxsize = q.maxsize := by
  cases h <;> rfl

theorem runs_keep (h : cb.Holds overhead q) (hfits : ∀ op ∈ ops, op.Fits overhead q.maxsize) :
    ∃ outs cb' q', runs cb ops = .ok (outs, cb') ∧ q.Steps ops outs q' ∧ cb'.Holds overhead q' := by
  induction ops generalizing cb q with
  | nil => exact ⟨[], cb, q, rfl, .nil, h⟩
  | cons op ops ih =>
    obtain ⟨out, cb₁, q₁, hrun, hstep, hholds⟩ := CbufOp.keeps h (hfits op List.mem_cons_self)
    obtain ⟨outs, cb', q', hruns, hsteps, hholds'⟩ := ih hholds fun op hop => by
      rw [hstep.maxsize]
      exact hfits op (List.mem_cons_of_mem _ hop)
    refine ⟨out :: outs, cb', q', ?_, .cons hstep hsteps, hholds'⟩
    rw [runs, hrun, ok_bind]
    simp only [hruns]
    rfl

/-- From `cbuf_create` on no call ever fails an assertion, and all that the callers see is what the tape
    says. -/
theorem runs_followTape {magicLen : ℕ} {minsize maxsize : ℤ} {mem : Mem}
    (hcreate : cbufCreate magicLen minsize maxsize mem = .ok (some cb))
    (hfits : ∀ op ∈ ops, op.Fits (1 + 2 * magicLen) (max minsize.toNat maxsize.toNat)) :
    ∃ outs cb' q', runs cb ops = .ok (outs, cb') ∧ (Fifo.create minsize maxsize).Steps ops outs q' ∧
      cb'.Holds (1 + 2 * magicLen) q' :=
  runs_keep (cbufCreate_holds hcreate) hfits

/-- Calls that fill a buffer of two bytes, make it grow, and wrap around its end. -/
def wrappingOps : List CbufOp :=
  [.write [1, 2] 2 none, .read 1, .write [3, 4, 5] 3 (some fun _ => 0),
    .readToFd (-1) [.ok 2, .error (.io 11)], .replay 3,
    .writeFromFd ⟨[.error .eintr, .ok 1], [6, 7]⟩ (-1) none]

theorem wrappingOps_fit :
    ∀ op ∈ wrappingOps, op.Fits (1 + 2 * 0) (max (2 : ℤ).toNat (4 : ℤ).toNat) := by
  simp [wrappingOps, CbufOp.Fits, asked, cbufChunk, intMax]

theorem runs_followTape_wrapping : ∃ cb, cbufCreate 0 2 4 (some fun _ => 0) = .ok (some cb) ∧
    ∃ outs cb' q', runs cb wrappingOps = .ok (outs, cb') ∧
      (Fifo.create 2 4).Steps wrappingOps outs q' ∧ cb'.Holds 1 q' :=
  ⟨_, rfl, runs_followTape (rfl : cbufCreate 0 2 4 (some fun _ => 0) = .ok (some _)) wrappingOps_fit⟩

/-! ### What goes in and what comes out -/

/-- Calls that neither throw unread bytes away nor bring bytes back. -/
def CbufOp.Forward : CbufOp → Prop
  | .flush | .drop _ | .rewind _ => False
  | _ => True

/-- What a call can take bytes from. -/
def CbufOp.input : CbufOp → List Byte
  | .write srcbuf _ _ => srcbuf
  | .writeFromFd src _ _ => src.stream
  | _ => []

/-- The bytes that a call says it has written. -/
def CbufOp.put (op : CbufOp) (out : Outcome) : List Byte :=
  match out.ret with
  | .ok n => op.input.take n
  | .error _ => []

/-- The bytes that a call has read. -/
def CbufOp.got (op : CbufOp) (out : Outcome) : List Byte :=
  match op with
  | .read _ | .readToFd _ _ => out.got
  | _ => []

theorem CbufOp.put_counts {b rest : List Byte} (hinput : op.input = b ++ rest)
    (hcounts : Counts out.ret b.length) : op.put out = b := by
  rw [CbufOp.put]
  rcases hcounts with hret | ⟨hzero, e, hret⟩
  · rw [hret, hinput]
    exact List.take_left' rfl
  · rw [hret, List.length_eq_zero_iff.mp hzero]

theorem CbufOp.put_of_input (h : op.input = []) : op.put out = [] := by
  rw [CbufOp.put, h]
  split
  · exact List.take_nil
  · rfl

theorem Fifo.Step.conserves (h : q.Step op out q') (hforward : op.Forward) :
    Conserves q.tape.unread (op.put out) (op.got out) out.ndropped q'.tape.unread := by
  cases h with
  | refused hrefused =>
    have hgot : op.got ⟨.error .einval, [], 0, op.stream⟩ = [] := by
      cases op <;> rfl
    rw [hgot]
    exact Conserves.refl _
  | size | free | used | reused | isEmpty | optSet | peek | replay | peekToFd | replayToFd =>
    rw [CbufOp.put_of_input rfl]
    exact Conserves.refl _
  | flush | drop | rewind => exact hforward.elim
  | @read len b hlen hb =>
    have hprefix : b <+: q.tape.unread := hb ▸ List.take_prefix _ _
    have hdrop := q.tape.conserves_drop b.length
    rw [← List.prefix_iff_eq_take.mp hprefix] at hdrop
    rw [CbufOp.put_of_input rfl]
    exact hdrop
  | readToFd hlen hk hret =>
    rw [CbufOp.put_of_input rfl]
    exact q.tape.conserves_drop _
  | writeNothing =>
    rw [CbufOp.put_counts (List.nil_append _).symm (Or.inl rfl)]
    exact Conserves.refl _
  | writeNothingFromFd =>
    rw [CbufOp.put_counts (List.nil_append _).symm (Or.inl rfl)]
    exact Conserves.refl _
  | @write srcbuf len mem k b hlen hroom hb =>
    obtain ⟨rest, hrest⟩ : b <+: srcbuf := hb ▸ List.take_prefix _ _
    have hinput : (CbufOp.write srcbuf len mem).input = b ++ rest := hrest.symm
    have hcounts : Counts (if b.length = 0 then .error .enospc else .ok b.length) b.length := by
      by_cases hzero : b.length = 0
      · exact Or.inr ⟨hzero, _, if_pos hzero⟩
      · exact Or.inl (if_neg hzero)
    rw [CbufOp.put_counts hinput hcounts]
    exact (q.grow k).tape.conserves_push b
  | @writeFromFd src len mem k b ret rest hlen hne hroom hstream hle hfull hret =>
    have hinput : (CbufOp.writeFromFd src len mem).input = b ++ rest := hstream
    rw [CbufOp.put_counts hinput hret]
    exact (q.grow k).tape.conserves_push b

/-- The bytes that the calls of a run say they have written, one behind the other. -/
def putAll (ops : List CbufOp) (outs : List Outcome) : List Byte :=
  (List.zipWith CbufOp.put ops outs).flatten

/-- The bytes that they have read. -/
def gotAll (ops : List CbufOp) (outs : List Outcome) : List Byte :=
  (List.zipWith CbufOp.got ops outs).flatten

/-- The number of bytes that were overwritten. -/
def lost (outs : List Outcome) : ℕ := (outs.map Outcome.ndropped).sum

theorem Fifo.Steps.conserves (h : q.Steps ops outs q') (hforward : ∀ op ∈ ops, op.Forward) :
    Conserves q.tape.unread (putAll ops outs) (gotAll ops outs) (lost outs) q'.tape.unread := by
  induction h with
  | nil => exact Conserves.refl _
  | cons hstep _ ih =>
    have hfirst := hstep.conserves (hforward _ List.mem_cons_self)
    have hrest := ih fun op hop => hforward op (List.mem_cons_of_mem _ hop)
    exact hfirst.trans hrest

/-- With `CBUF_NO_DROP` nothing is overwritten. -/
theorem Fifo.Step.noDrop (h : q.Step op out q') (hoverwrite : q.overwrite = .noDrop)
    (hkept : ∀ value, op ≠ .optSet value) : q'.overwrite = .noDrop ∧ out.ndropped = 0 := by
  have hlen : ∀ k len, (q.grow k).writeLen len ≤ (q.grow k).tape.size - q.tape.unread.length := by
    intro k len
    have hsame : (q.grow k).overwrite = .noDrop := hoverwrite
    rw [Fifo.writeLen, hsame]
    exact Nat.min_le_right _ _
  have hle : ∀ k, q.tape.unread.length ≤ (q.grow k).tape.size := by
    intro k
    exact (Nat.le_add_left _ _).trans (q.grow k).tape.le
  cases h with
  | optSet o => exact absurd rfl (hkept o.value)
  | @write srcbuf len mem k b hpos hroom hb =>
    refine ⟨hoverwrite, Nat.sub_eq_zero_of_le ?_⟩
    have hfits := hlen k len.toNat
    have htape := hle k
    have hbLen : b.length ≤ (q.grow k).writeLen len.toNat := by
      rw [hb]
      exact List.length_take_le _ _
    omega
  | @writeFromFd src len mem k b ret rest hneg hne hroom hstream hbLen hfull hret =>
    refine ⟨hoverwrite, Nat.sub_eq_zero_of_le ?_⟩
    have hfits := hlen k (q.askedFd len)
    have htape := hle k
    omega
  | _ => exact ⟨hoverwrite, rfl⟩

theorem Fifo.Steps.noDrop (h : q.Steps ops outs q') (hoverwrite : q.overwrite = .noDrop)
    (hkept : ∀ value, CbufOp.optSet value ∉ ops) : lost outs = 0 := by
  induction h with
  | nil => rfl
  | cons hstep _ ih =>
    obtain ⟨hnext, hzero⟩ := hstep.noDrop hoverwrite fun value heq =>
      hkept value (heq ▸ List.mem_cons_self)
    have hrest := ih hnext fun value hmem => hkept value (List.mem_cons_of_mem _ hmem)
    rw [lost, List.map_cons, List.sum_cons, hzero]
    exact (Nat.zero_add _).trans hrest

theorem Fifo.Steps.maxsize (h : q.Steps ops outs q') : q'.maxsize = q.maxsize := by
  induction h with
  | nil => rfl
  | cons hstep _ ih => exact ih.trans hstep.maxsize

/-- All unread bytes can be peeked at. -/
theorem Cbuf.Holds.peekAll (h : cb.Holds overhead q) :
    cbufPeek cb cb.used = .ok (.ok q.tape.unread.length, q.tape.unread) := by
  by_cases hzero : cb.used = 0
  · have hnil : q.tape.unread = [] := List.length_eq_zero_iff.mp (h.used ▸ hzero)
    rw [cbufPeek, if_neg (by omega), if_pos (by omega), hnil]
    rfl
  · have hall : q.tape.unread.take cb.used = q.tape.unread := by
      rw [h.used, List.take_length]
    rw [cbufPeek, if_neg (by omega), if_neg (by omega), demand_true h.isValid, ok_bind, Int.toNat_natCast,
      cbufReader_mem h (by omega), hall]
    rfl

/-- In any run of writes, reads, peeks and replays, from a state that any calls have led to: what is
    read, with what can be peeked at behind it, is what could be peeked at before, with what is written
    behind that, but for as many bytes as `ndropped` counts. With `CBUF_NO_DROP` none is missing. -/
theorem runs_conserve {magicLen : ℕ} {minsize maxsize : ℤ} {mem : Mem} {cb₀ : Cbuf}
    {ops₀ : List CbufOp} {outs₀ : List Outcome}
    (hcreate : cbufCreate magicLen minsize maxsize mem = .ok (some cb₀))
    (hfits : ∀ op ∈ ops₀ ++ ops, op.Fits (1 + 2 * magicLen) (max minsize.toNat maxsize.toNat))
    (hrun₀ : runs cb₀ ops₀ = .ok (outs₀, cb)) (hrun : runs cb ops = .ok (outs, cb'))
    (hforward : ∀ op ∈ ops, op.Forward) :
    ∃ before after, cbufPeek cb cb.used = .ok (.ok before.length, before) ∧
      cbufPeek cb' cb'.used = .ok (.ok after.length, after) ∧
      Conserves before (putAll ops outs) (gotAll ops outs) (lost outs) after ∧
      (cb.overwrite = .noDrop → (∀ value, CbufOp.optSet value ∉ ops) →
        gotAll ops outs ++ after = before ++ putAll ops outs) := by
  have hcreated := cbufCreate_holds hcreate
  obtain ⟨outs₁, cb₁, q₁, hruns₁, hsteps₁, hholds₁⟩ := runs_keep hcreated fun op hop =>
    hfits op (List.mem_append_left _ hop)
  rw [hrun₀] at hruns₁
  cases hruns₁
  have hmaxsize := hsteps₁.maxsize
  obtain ⟨outs₂, cb₂, q₂, hruns₂, hsteps₂, hholds₂⟩ := runs_keep hholds₁ fun op hop => by
    rw [hmaxsize]
    exact hfits op (List.mem_append_right _ hop)
  rw [hrun] at hruns₂
  cases hruns₂
  have hconserves := hsteps₂.conserves hforward
  refine ⟨_, _, hholds₁.peekAll, hholds₂.peekAll, hconserves, ?_⟩
  intro hoverwrite hkept
  rw [hsteps₂.noDrop (hholds₁.overwrite ▸ hoverwrite) hkept] at hconserves
  exact hconserves.eq

/-- Calls before those: a buffer that does not drop anything. -/
def noDropOps : List CbufOp := [.optSet 0, .write [8, 9] 2 none, .drop 1]

theorem noDropOps_fit :
    ∀ op ∈ noDropOps ++ wrappingOps, op.Fits (1 + 2 * 0) (max (2 : ℤ).toNat (4 : ℤ).toNat) := by
  simp [noDropOps, wrappingOps, CbufOp.Fits, asked, cbufChunk, intMax]

theorem wrappingOps_forward : ∀ op ∈ wrappingOps, op.Forward := by
  simp [wrappingOps, CbufOp.Forward]

theorem runs_conserve_wrapping : ∃ cb₀ outs₀ cb outs cb',
    cbufCreate 0 2 4 (some fun _ => 0) = .ok (some cb₀) ∧ runs cb₀ noDropOps = .ok (outs₀, cb) ∧
    runs cb wrappingOps = .ok (outs, cb') ∧
    ∃ before after, cbufPeek cb cb.used = .ok (.ok before.length, before) ∧
      cbufPeek cb' cb'.used = .ok (.ok after.length, after) ∧
      Conserves before (putAll wrappingOps outs) (gotAll wrappingOps outs) (lost outs) after ∧
      (cb.overwrite = .noDrop → (∀ value, CbufOp.optSet value ∉ wrappingOps) →
        gotAll wrappingOps outs ++ after = before ++ putAll wrappingOps outs) :=
  ⟨_, _, _, _, _, rfl, rfl, rfl,
    runs_conserve (rfl : cbufCreate 0 2 4 (some fun _ => 0) = .ok (some _)) noDropOps_fit rfl rfl
      wrappingOps_forward⟩

end Runs

end FreeIpmi.Miscutil
