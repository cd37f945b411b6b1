import FreeIpmi.Api.Session

/-! The requests of a session are numbered afresh.

    Between two requests the session sequence number moves on along its cycle, unless a call returns
    past its cleanup label, and it stays on the cycle, unless the cleanup of a bridged IPMI 2.0 call
    takes it from the last number to 0. -/

namespace FreeIpmi.Api
open Util

/-! ### The cycle of session sequence numbers -/

/-- The number of session sequence numbers in use. -/
def Version.cycle : Version → ℕ
  | .v15 => 2 ^ 32
  | .v20 => 2 ^ 32 - 1

theorem iterate_next_v15 (n : BitVec 32) (k : ℕ) :
    (Version.v15.next^[k] n).toNat = (n.toNat + k) % 2 ^ 32 := by
  induction k with
  | zero => exact (Nat.mod_eq_of_lt n.isLt).symm
  | succ k ih =>
    have hone : (1 : BitVec 32).toNat = 1 := rfl
    rw [Function.iterate_succ_apply', Version.next, BitVec.toNat_add, ih, hone, Nat.mod_add_mod,
      Nat.add_assoc]

theorem iterate_next_v20 {n : BitVec 32} (hn : n ≠ 0) (k : ℕ) :
    (Version.v20.next^[k] n).toNat = (n.toNat - 1 + k) % (2 ^ 32 - 1) + 1 := by
  have hpos : n.toNat ≠ 0 := fun h => hn (BitVec.eq_of_toNat_eq h)
  induction k with
  | zero =>
    have hlt := n.isLt
    simp only [Function.iterate_zero, id_eq, Nat.add_zero]
    omega
  | succ k ih =>
    rw [Function.iterate_succ_apply', Version.next]
    generalize hm : Version.v20.next^[k] n = m at ih
    have hlt := m.isLt
    have hadd : (m + 1).toNat = (m.toNat + 1) % 2 ^ 32 := by simp [BitVec.toNat_add]
    split
    · rename_i h0
      have hz : (m.toNat + 1) % 2 ^ 32 = 0 := by rw [← hadd, h0]; rfl
      rw [h0]
      change 1 = _
      omega
    · rename_i h0
      have hz : (m.toNat + 1) % 2 ^ 32 ≠ 0 := by
        rw [← hadd]
        exact fun h => h0 (BitVec.eq_of_toNat_eq h)
      rw [hadd]
      omega

theorem iterate_next_ne_zero {n : BitVec 32} (hn : n ≠ 0) (k : ℕ) : Version.v20.next^[k] n ≠ 0 := by
  intro h
  have hk := iterate_next_v20 hn k
  rw [h] at hk
  simp at hk

/-- A number comes back only after the whole cycle. -/
theorem cycle_le_of_eq {v : Version} {n : BitVec 32} (hn : v = .v20 → n ≠ 0) {i j : ℕ} (hij : i < j)
    (heq : v.next^[i] n = v.next^[j] n) : i + v.cycle ≤ j := by
  have htoNat := congrArg BitVec.toNat heq
  cases v with
  | v15 =>
    rw [iterate_next_v15, iterate_next_v15] at htoNat
    simp only [Version.cycle]
    omega
  | v20 =>
    rw [iterate_next_v20 (hn rfl), iterate_next_v20 (hn rfl)] at htoNat
    simp only [Version.cycle]
    omega

/-! ### Requests that are numbered afresh -/

/-- The requests of a session that began with these two numbers. -/
structure Fresh (v : Version) (n : BitVec 32) (q : ℕ) (attempts : List Attempt) : Prop where
  -- each number is that many steps along the cycle
  number : ∀ a ∈ attempts, a.number = v.next^[a.moves] n
  -- it moves on from request to request
  advances : attempts.Pairwise fun a b => a.moves < b.moves
  -- so no number is used twice before the cycle is used up
  distinct : attempts.Pairwise fun a b => a.number = b.number → a.moves + v.cycle ≤ b.moves
  nonzero : v = .v20 → ∀ a ∈ attempts, a.number ≠ 0
  -- `rq_seq` moves by one with each request
  rqSeq : attempts.map (·.rqSeq)
    = (List.range attempts.length).map fun k => (q + k) % (requesterSequenceNumberMax + 1)

/-! ### Calls that reach their cleanup -/

/-- A round before the end of the loop makes the call return past its cleanup label. -/
def roundsLeave (v : Version) (skipRetransmit : Bool) : List Round → Bool
  | [] => false
  | .resend o :: rounds => !skipRetransmit && o == .sent && roundsLeave v skipRetransmit rounds
  | .unassembleError :: _ => true
  | .unparsed :: rounds => roundsLeave v skipRetransmit rounds
  | .ignored :: rounds => roundsLeave v skipRetransmit rounds
  | .accepted clock :: _ => !clock && v == .v15
  | .sessionTimeout :: _ => false
  | .receiveError :: _ => false
  | .verifyError :: _ => false

def Call.leaves (v : Version) (c : Call) : Bool :=
  !c.early && c.first == .sent && roundsLeave v c.skipRetransmit c.rounds

def IpmbSend.Meets (v : Version) : IpmbSend → Prop
  | .notBuilt => True
  | .message c _ _ => c.leaves v = false

/-- The cleanup of a bridged call finds a number that it may increment. -/
def Counters.MeetsCleanup (v : Version) (s : Counters) : Prop :=
  v = .v20 → s.sessionSequenceNumber ≠ BitVec.allOnes 32

/-- The calls inside a bridged call reach their cleanup, and so does the bridged call, if it does, at a
    number it may increment. -/
def ipmbMeets (v : Version) : List IpmbRound → Counters → Prop
  | .resend o :: rounds, s => o.Meets v ∧
    match ipmiCmdSendIpmb (cmdWrapper v) o s with
    | (s, true) => ipmbMeets v rounds s
    | (s, false) => s.MeetsCleanup v
  | .unassembleError :: _, _ => True
  | .unparsed :: rounds, s => ipmbMeets v rounds s
  | .ignored :: rounds, s => ipmbMeets v rounds s
  | [], s => s.MeetsCleanup v
  | .sessionTimeout :: _, s => s.MeetsCleanup v
  | .receiveError :: _, s => s.MeetsCleanup v
  | .verifyError :: _, s => s.MeetsCleanup v
  | .accepted _ :: _, s => s.MeetsCleanup v

def Request.Meets (v : Version) : Request → Counters → Prop
  | .cmd c, _ => c.leaves v = false
  | .ipmb first rounds, s => ipmbMeets v (.resend first :: rounds) s

/-- Each call of the session is made in a state in which it meets the condition. -/
def SessionMeets (v : Version) : List Request → Counters → Prop
  | [], _ => True
  | r :: requests, s => r.Meets v s ∧ SessionMeets v requests (r.exec v s)

/-! ### What a call keeps -/

/-- The requests so far are numbered afresh, all of them before `bound` moves. -/
structure Numbered (v : Version) (n : BitVec 32) (q : ℕ) (bound : ℕ) (s : Counters) : Prop where
  number : s.sessionSequenceNumber = v.next^[s.moves] n
  attempts : ∀ a ∈ s.attempts, a.number = v.next^[a.moves] n ∧ a.moves < bound
  advances : s.attempts.Pairwise fun a b => a.moves < b.moves
  rqSeqs : s.attempts.map (·.rqSeq)
    = (List.range s.attempts.length).map fun k => (q + k) % (requesterSequenceNumberMax + 1)

/-- The counters are at numbers for the next request. -/
structure Ready (v : Version) (n : BitVec 32) (q : ℕ) (s : Counters) : Prop extends
    Numbered v n q s.moves s where
  rqSeq : s.rqSeq = (q + s.attempts.length) % (requesterSequenceNumberMax + 1)

/-- The counters are at the numbers of the last request. -/
structure Pending (v : Version) (n : BitVec 32) (q : ℕ) (s : Counters) : Prop extends
    Numbered v n q (s.moves + 1) s where
  rqSeq : (s.rqSeq + 1) % (requesterSequenceNumberMax + 1)
    = (q + s.attempts.length) % (requesterSequenceNumberMax + 1)

variable {v : Version} {n : BitVec 32} {q : ℕ} {s : Counters}

theorem Ready.start (hr : q ≤ requesterSequenceNumberMax) :
    Ready v n q (.start n q) where
  number := rfl
  attempts a ha := by simp [Counters.start] at ha
  advances := List.Pairwise.nil
  rqSeqs := rfl
  rqSeq := (Nat.mod_eq_of_lt (Nat.lt_succ_of_le hr)).symm

theorem Ready.cmdSend (hs : Ready v n q s) (o : Send) :
    Pending v n q (s.cmdSend o) where
  number := hs.number
  attempts a ha := by
    rcases List.mem_append.mp ha with ha | ha
    · exact ⟨(hs.attempts a ha).1, Nat.lt_succ_of_lt (hs.attempts a ha).2⟩
    · rw [List.mem_singleton.mp ha]
      exact ⟨hs.number, Nat.lt_succ_self _⟩
  advances := by
    refine List.pairwise_append.mpr ⟨hs.advances, List.pairwise_singleton _ _, fun a ha b hb => ?_⟩
    rw [List.mem_singleton.mp hb]
    exact (hs.attempts a ha).2
  rqSeqs := by
    simp only [Counters.cmdSend, List.map_append, hs.rqSeqs, List.length_append, List.length_singleton,
      List.range_succ, List.map_singleton, hs.rqSeq]
  rqSeq := by
    simp only [Counters.cmdSend, List.length_append, List.length_singleton, hs.rqSeq,
      Nat.mod_add_mod, Nat.add_assoc]

theorem Pending.advance (hs : Pending v n q s) : Ready v n q (s.advance v) where
  number := by
    simp only [Counters.advance]
    rw [Function.iterate_succ_apply', ← hs.number]
  attempts := hs.attempts
  advances := hs.advances
  rqSeqs := hs.rqSeqs
  rqSeq := hs.rqSeq

theorem Ready.cleanupIpmb (hs : Ready v n q s) (hc : s.MeetsCleanup v) :
    Ready v n q s.cleanupIpmb where
  number := by
    have hnext : v.next s.sessionSequenceNumber = s.sessionSequenceNumber + 1 := by
      cases v with
      | v15 => rfl
      | v20 =>
        refine if_neg fun h0 => hc rfl ?_
        have h : s.sessionSequenceNumber = 0 - 1 := by rw [← h0]; simp
        rw [h]
        rfl
    simp only [Counters.cleanupIpmb]
    rw [Function.iterate_succ_apply', ← hs.number, hnext]
  attempts a ha := ⟨(hs.attempts a ha).1, Nat.lt_succ_of_lt (hs.attempts a ha).2⟩
  advances := hs.advances
  rqSeqs := hs.rqSeqs
  rqSeq := hs.rqSeq

/-- A loop that does not leave the call ends at the cleanup. -/
theorem Pending.cmdLoop {skip : Bool} (rounds : List Round) (hs : Pending v n q s)
    (hrounds : roundsLeave v skip rounds = false) :
    ∃ rv, (cmdLoop v skip rounds s).2 = .cleanup rv ∧ Pending v n q (cmdLoop v skip rounds s).1 := by
  induction rounds generalizing s with
  | nil => exact ⟨false, rfl, hs⟩
  | cons r rounds ih =>
    cases r with
    | sessionTimeout => exact ⟨false, rfl, hs⟩
    | receiveError => exact ⟨false, rfl, hs⟩
    | resend o =>
      rw [Api.cmdLoop]
      split
      · exact ⟨true, rfl, hs⟩
      · rename_i hskip
        split
        · rename_i ho
          refine ih (hs.advance.cmdSend o) ?_
          simpa [roundsLeave, hskip, ho] using hrounds
        · exact ⟨false, rfl, hs.advance.cmdSend o⟩
    | unassembleError => simp [roundsLeave] at hrounds
    | unparsed => exact ih hs hrounds
    | verifyError => exact ⟨false, rfl, hs⟩
    | ignored => exact ih hs hrounds
    | accepted clock =>
      rw [Api.cmdLoop]
      cases clock with
      | true => exact ⟨true, rfl, hs⟩
      | false =>
        cases v with
        | v15 => simp [roundsLeave] at hrounds
        | v20 => exact ⟨false, rfl, hs⟩

/-- A call that reaches its cleanup leaves numbers for the next request. -/
theorem Ready.cmdWrapper (hs : Ready v n q s) {c : Call} (hc : c.leaves v = false) :
    Ready v n q (cmdWrapper v c s).1 := by
  unfold Api.cmdWrapper
  split
  · exact hs
  · rename_i hearly
    split
    · rename_i hfirst
      have hrounds : roundsLeave v c.skipRetransmit c.rounds = false := by
        simpa [Call.leaves, hearly, hfirst] using hc
      obtain ⟨rv, hexit, hp⟩ := (hs.cmdSend c.first).cmdLoop c.rounds hrounds
      generalize hloop : Api.cmdLoop v c.skipRetransmit c.rounds (s.cmdSend c.first) = r at hexit hp
      obtain ⟨s₁, e⟩ := r
      change e = _ at hexit
      subst hexit
      exact hp.advance
    · exact (hs.cmdSend c.first).advance

theorem Ready.ipmiCmdSendIpmb (hs : Ready v n q s) {o : IpmbSend} (ho : o.Meets v) :
    Ready v n q (ipmiCmdSendIpmb (Api.cmdWrapper v) o s).1 := by
  cases o with
  | notBuilt => exact hs
  | message c answered clock => exact hs.cmdWrapper ho

/-- A bridged call goes on, or ends where its cleanup keeps to the cycle. -/
theorem Ready.ipmbLoop (rounds : List IpmbRound) (hs : Ready v n q s)
    (hrounds : ipmbMeets v rounds s) :
    Ready v n q (ipmbLoop (Api.cmdWrapper v) rounds s).1
      ∧ (∀ rv, (ipmbLoop (Api.cmdWrapper v) rounds s).2 = .cleanup rv →
        (ipmbLoop (Api.cmdWrapper v) rounds s).1.MeetsCleanup v) := by
  induction rounds generalizing s with
  | nil => exact ⟨hs, fun _ _ => hrounds⟩
  | cons r rounds ih =>
    cases r with
    | sessionTimeout => exact ⟨hs, fun _ _ => hrounds⟩
    | receiveError => exact ⟨hs, fun _ _ => hrounds⟩
    | resend o =>
      obtain ⟨ho, hrest⟩ := hrounds
      have hsend := hs.ipmiCmdSendIpmb ho
      rw [Api.ipmbLoop]
      rcases hr : Api.ipmiCmdSendIpmb (Api.cmdWrapper v) o s with ⟨s₁, ok⟩
      rw [hr] at hsend hrest
      cases ok with
      | true => exact ih hsend hrest
      | false => exact ⟨hsend, fun _ _ => hrest⟩
    | unassembleError => exact ⟨hs, fun _ h => by simp [Api.ipmbLoop] at h⟩
    | unparsed => exact ih hs hrounds
    | verifyError => exact ⟨hs, fun _ _ => hrounds⟩
    | ignored => exact ih hs hrounds
    | accepted clock => exact ⟨hs, fun _ _ => hrounds⟩

theorem Ready.cmdWrapperIpmb (hs : Ready v n q s) {first : IpmbSend} {rounds : List IpmbRound}
    (h : ipmbMeets v (.resend first :: rounds) s) :
    Ready v n q (cmdWrapperIpmb (Api.cmdWrapper v) first rounds s).1 := by
  obtain ⟨hfirst, hrest⟩ := h
  have hsend := hs.ipmiCmdSendIpmb hfirst
  unfold Api.cmdWrapperIpmb
  rcases hr : Api.ipmiCmdSendIpmb (Api.cmdWrapper v) first s with ⟨s₁, ok⟩
  rw [hr] at hsend hrest
  cases ok with
  | false => exact hsend.cleanupIpmb hrest
  | true =>
    obtain ⟨hready, hclean⟩ := hsend.ipmbLoop rounds hrest
    simp only
    generalize hloop : Api.ipmbLoop (Api.cmdWrapper v) rounds s₁ = r at hready hclean
    obtain ⟨s₂, e⟩ := r
    cases e with
    | left => exact hready
    | cleanup rv => exact hready.cleanupIpmb (hclean rv rfl)

theorem Ready.exec (hs : Ready v n q s) {r : Request} (hr : r.Meets v s) :
    Ready v n q (r.exec v s) := by
  cases r with
  | cmd c => cases v <;> exact hs.cmdWrapper hr
  | ipmb first rounds => cases v <;> exact hs.cmdWrapperIpmb hr

theorem Ready.runSession {requests : List Request} (hs : Ready v n q s)
    (h : SessionMeets v requests s) : Ready v n q (runSession v requests s) := by
  induction requests generalizing s with
  | nil => exact hs
  | cons r requests ih => exact ih (hs.exec h.1) h.2

theorem Ready.fresh (hs : Ready v n q s) (hn : v = .v20 → n ≠ 0) :
    Fresh v n q s.attempts where
  number a ha := (hs.attempts a ha).1
  advances := hs.advances
  distinct := by
    refine List.Pairwise.imp_of_mem (fun {a b} ha hb hab heq => ?_) hs.advances
    rw [(hs.attempts a ha).1, (hs.attempts b hb).1] at heq
    exact cycle_le_of_eq hn hab heq
  nonzero hv a ha := by
    subst hv
    rw [(hs.attempts a ha).1]
    exact iterate_next_ne_zero (hn rfl) _
  rqSeq := hs.rqSeqs

/-- In every session whose calls meet the condition the requests are numbered afresh. -/
theorem runSession_fresh (v : Version) (n : BitVec 32) (q : ℕ) (requests : List Request)
    (hn : v = .v20 → n ≠ 0) (hr : q ≤ requesterSequenceNumberMax)
    (h : SessionMeets v requests (.start n q)) :
    Fresh v n q (runSession v requests (.start n q)).attempts :=
  ((Ready.start hr).runSession h).fresh hn

/-- A command that is answered at once. -/
def answered : Call := ⟨false, false, .sent, [.accepted true]⟩

/-- A bridged command that is answered at once. -/
def bridged : Request := .ipmb (.message answered true true) [.accepted true]

theorem runSession_fresh_sample : Fresh .v20 1 7 (runSession .v20
    [.cmd ⟨false, false, .sent, [.ignored, .resend .sent, .accepted true]⟩, bridged]
      (.start 1 7)).attempts :=
  runSession_fresh .v20 1 7 _ (fun _ => by decide) (by decide)
    ⟨rfl, ⟨rfl, fun _ => by decide⟩, trivial⟩

/-! ### Numbers that are used again -/

/-- A command whose reply is verified, but the clock cannot be read then. -/
def unclocked : Call := ⟨false, false, .sent, [.accepted false]⟩

theorem runSession_answered (k : ℕ) (s : Counters) :
    (runSession .v20 (List.replicate k (.cmd answered)) s).sessionSequenceNumber
      = Version.v20.next^[k] s.sessionSequenceNumber := by
  induction k generalizing s with
  | zero => rfl
  | succ k ih => exact ih ((Request.cmd answered).exec .v20 s)

/-- The cleanup of a bridged command does not skip 0. -/
theorem exec_bridged (s : Counters) : (bridged.exec .v20 s).sessionSequenceNumber
    = Version.v20.next s.sessionSequenceNumber + 1 := rfl

/-- In IPMI 1.5 a number is sent twice after a call that returns past its cleanup; and in IPMI 2.0 the
    number 0 is sent after a bridged command whose request has the number before the last one. -/
theorem runSession_reused :
    ((runSession .v15 [.cmd unclocked, .cmd answered] (.start 5 3)).attempts
        = [⟨5, 3, true, 0⟩, ⟨5, 3, true, 0⟩]
      ∧ ¬ Fresh .v15 5 3 (runSession .v15 [.cmd unclocked, .cmd answered] (.start 5 3)).attempts)
    ∧ ∃ a ∈ (runSession .v20 (List.replicate (2 ^ 32 - 3) (.cmd answered) ++ [bridged, .cmd answered])
        (.start 1 7)).attempts, a.transmitted = true ∧ a.number = 0 := by
  have hrun : (runSession .v15 [.cmd unclocked, .cmd answered] (.start 5 3)).attempts
      = [⟨5, 3, true, 0⟩, ⟨5, 3, true, 0⟩] := by decide
  refine ⟨⟨hrun, fun h => ?_⟩, ?_⟩
  · have hadv := h.advances
    rw [hrun] at hadv
    exact absurd hadv (by decide)
  · have hnumber := runSession_answered (2 ^ 32 - 3) (.start 1 7)
    have hone : (1 : BitVec 32) ≠ 0 := by decide
    have hlast : Version.v20.next^[2 ^ 32 - 3] (1 : BitVec 32) = 0xFFFFFFFE := by
      apply BitVec.eq_of_toNat_eq
      rw [iterate_next_v20 hone]
      decide
    rw [runSession, List.foldl_append]
    generalize hs : List.foldl (fun s r => Request.exec .v20 r s) (.start 1 7)
      (List.replicate (2 ^ 32 - 3) (.cmd answered)) = s
    have hsn : s.sessionSequenceNumber = 0xFFFFFFFE := by
      rw [← hs, ← hlast]
      exact hnumber
    refine ⟨_, List.mem_append_right _ List.mem_cons_self, rfl, ?_⟩
    change (bridged.exec .v20 s).sessionSequenceNumber = 0
    rw [exec_bridged, hsn]
    decide

end FreeIpmi.Api
