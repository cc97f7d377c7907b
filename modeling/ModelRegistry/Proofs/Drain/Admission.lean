import ModelRegistry.Drain

/-!
# Callers and a drain, access by access

Admitting a call takes two accesses to what all callers share: a caller looks whether the drain has
begun, and then raises the count.  Between the two others may act.  Here any number of callers, each
of which is admitted once and then finishes, and one drain take turns in any order, one access at a
time; a caller that has raised the count and not lowered it again holds a guard.

A drain that reads a count of zero ends complete, and at that moment nobody holds a guard.  But a
caller that has looked before the drain began, and has not raised the count, is not counted.  It
does so later, and then holds a guard although the drain has ended (`not_admitsNoLateCall`).  No
other guard can appear: a late one belongs to a caller that stood between its two accesses
(`late_guards_were_between`).  So a drain keeps its promise exactly if no caller stands there, as
when the two accesses are taken together, which is what `Drain.track?` does (`run_test_raise`).

The count is never above the number of callers, so one of 32 bits is the same for fewer callers than
it can count.
-/

namespace ModelRegistry

/-- What replacing an item does to a count. -/
theorem countP_set_add {α : Type} (p : α → Bool) {l : List α} {i : Nat} {a : α}
    (h : l[i]? = some a) (b : α) :
    (l.set i b).countP p + (if p a then 1 else 0) = l.countP p + (if p b then 1 else 0) := by
  obtain ⟨hi, rfl⟩ := List.getElem?_eq_some_iff.1 h
  have hcounted : p l[i] = true → 0 < l.countP p :=
    fun hp => List.countP_pos_iff.2 ⟨l[i], List.getElem_mem hi, hp⟩
  rw [List.countP_set hi]
  split
  · next hp =>
    have := hcounted hp
    omega
  · omega

namespace Drain

variable {d admitted : Drain}

theorem track?_eq_none_iff : d.track? = none ↔ d.draining = true := by
  simp [track?]

theorem track?_eq_some_iff :
    d.track? = some admitted ↔ d.draining = false ∧ d.enter = admitted := by
  simp [track?]

theorem result_eq_complete_iff : d.result = .complete ↔ d.inFlight = 0 := by
  simp [result]

/-! ## Accesses -/

/-- How far a caller has got. -/
inductive Caller
  /-- Has not looked yet. -/
  | outside
  /-- Has seen that no drain had begun. -/
  | between
  /-- Has raised the count: the call is under way. -/
  | counted
  /-- Has finished, or was not admitted. -/
  | gone
  deriving DecidableEq, Repr

/-- How far the drain has got. -/
inductive Drainer
  | idle
  | waiting
  | ended (result : DrainResult)
  deriving DecidableEq, Repr

/-- The callers and the drain with what they share. -/
structure Shared where
  drain : Drain
  callers : List Caller
  drainer : Drainer
  deriving DecidableEq, Repr

/-- One access to what is shared. -/
inductive Access
  /-- A caller looks whether the drain has begun. -/
  | test (caller : Nat)
  /-- A caller raises the count. -/
  | raise (caller : Nat)
  /-- A caller lowers the count. -/
  | lower (caller : Nat)
  /-- The drain begins. -/
  | begin
  /-- The drain reads the count, and ends if that is zero. -/
  | read
  /-- The drain has waited long enough: it reads the count and ends. -/
  | expire
  deriving DecidableEq, Repr

namespace Shared

/-- Callers that have done nothing yet, and no drain. -/
def start (callers : Nat) : Shared := ⟨.new, List.replicate callers .outside, .idle⟩

/-- Move a caller on. -/
def move (s : Shared) (i : Nat) (c : Caller) : Shared := { s with callers := s.callers.set i c }

/-- How many callers stand somewhere. -/
def standing (s : Shared) (c : Caller) : Nat := s.callers.countP (· = c)

/-- How many guards are live. -/
def live (s : Shared) : Nat := s.standing .counted

/-- It is the turn of whoever makes an access. -/
def Due (s : Shared) : Access → Prop
  | .test i => s.callers[i]? = some .outside
  | .raise i => s.callers[i]? = some .between
  | .lower i => s.callers[i]? = some .counted
  | .begin => s.drainer = .idle
  | .read | .expire => s.drainer = .waiting

instance (s : Shared) : (a : Access) → Decidable (s.Due a)
  | .test _ | .raise _ | .lower _ | .begin | .read | .expire => inferInstanceAs (Decidable (_ = _))

/-- What an access leaves. -/
def perform (s : Shared) : Access → Shared
  | .test i => s.move i (if s.drain.draining then .gone else .between)
  | .raise i => { s with drain := s.drain.enter }.move i .counted
  | .lower i => { s with drain := s.drain.leave }.move i .gone
  | .begin => { s with drain := s.drain.begin, drainer := .waiting }
  | .read => if s.drain.inFlight = 0 then { s with drainer := .ended .complete } else s
  | .expire => { s with drainer := .ended s.drain.result }

/-- An access, if it is due. -/
def step (a : Access) (s : Shared) : Option Shared := if s.Due a then some (s.perform a) else none

/-- Accesses one after the other. -/
def run : List Access → Shared → Option Shared
  | [], s => some s
  | a :: accesses, s => (step a s).bind (run accesses)

variable {s t : Shared} {a : Access} {accesses : List Access}

theorem step_eq_some_iff : step a s = some t ↔ s.Due a ∧ s.perform a = t := by
  rw [step, Option.ite_none_right_eq_some, Option.some.injEq]

theorem step_of_due (h : s.Due a) : step a s = some (s.perform a) := if_pos h

/-- With nobody in between, the two accesses of a caller are `Drain.track?`. -/
theorem run_test_raise {i : Nat} (h : s.callers[i]? = some .outside) :
    match s.drain.track? with
    | none => run [.test i] s = some (s.move i .gone)
    | some drain => run [.test i, .raise i] s = some ({ s with drain }.move i .counted) := by
  have htest : step (.test i) s = some (s.perform (.test i)) := step_of_due h
  cases hdraining : s.drain.draining with
  | true => simp [track?, hdraining, run, htest, perform]
  | false =>
    obtain ⟨hi, -⟩ := List.getElem?_eq_some_iff.1 h
    have hraise : (s.move i .between).Due (.raise i) := by simp [Due, move, hi]
    simp only [track?, hdraining, run, htest, perform, Option.bind_some, Bool.false_eq_true,
      if_false, step_of_due hraise]
    simp [move]

/-! ## What every access keeps -/

/-- Who stands where, once a caller has moved on. -/
theorem standing_move {i : Nat} {c : Caller} (h : s.callers[i]? = some c) (next d : Caller) :
    (s.move i next).standing d + (if c = d then 1 else 0) =
      s.standing d + (if next = d then 1 else 0) := by
  have hcount := countP_set_add (fun x => decide (x = d)) h next
  simp only [decide_eq_true_eq] at hcount
  exact hcount

/-- The count is that of the live guards, and the flag is that of the drain. -/
structure Consistent (s : Shared) : Prop where
  inFlight_eq : s.drain.inFlight = s.live
  draining_iff : s.drain.draining = true ↔ s.drainer ≠ .idle

theorem consistent_start (callers : Nat) : (start callers).Consistent := by
  refine ⟨?_, by simp [start, new]⟩
  simp [start, live, standing, new, List.countP_replicate]

theorem Consistent.step (h : s.Consistent) (hstep : step a s = some t) : t.Consistent := by
  obtain ⟨hdue, rfl⟩ := step_eq_some_iff.1 hstep
  cases a with
  | test i =>
    refine ⟨h.inFlight_eq.trans ?_, h.draining_iff⟩
    have hmove := standing_move hdue (if s.drain.draining then .gone else .between) .counted
    cases hdraining : s.drain.draining <;> simpa [live, perform, hdraining] using hmove.symm
  | raise i =>
    have hmove : (s.move i .counted).live = s.live + 1 := standing_move hdue .counted .counted
    exact ⟨(congrArg (· + 1) h.inFlight_eq).trans hmove.symm, h.draining_iff⟩
  | lower i =>
    have hmove : (s.move i .gone).live + 1 = s.live := standing_move hdue .gone .counted
    have hcount := h.inFlight_eq
    refine ⟨?_, h.draining_iff⟩
    show s.drain.inFlight - 1 = (s.move i .gone).live
    omega
  | begin => exact ⟨h.inFlight_eq, by simp [perform, Drain.begin]⟩
  | read =>
    have hwaiting : s.drainer = .waiting := hdue
    rw [perform]
    split
    · exact ⟨h.inFlight_eq, by simp [h.draining_iff, hwaiting]⟩
    · exact h
  | expire =>
    have hwaiting : s.drainer = .waiting := hdue
    exact ⟨h.inFlight_eq, by simp [perform, h.draining_iff, hwaiting]⟩

theorem Consistent.run (h : s.Consistent) (hrun : run accesses s = some t) : t.Consistent := by
  induction accesses generalizing s with
  | nil =>
    obtain rfl := Option.some.inj hrun
    exact h
  | cons a accesses ih =>
    obtain ⟨next, hstep, hrun⟩ := Option.bind_eq_some_iff.1 hrun
    exact ih (h.step hstep) hrun

/-- A drain ends complete at a moment at which nobody is counted. -/
theorem inFlight_of_complete (hbefore : s.drainer ≠ .ended .complete) (hstep : step a s = some t)
    (hcomplete : t.drainer = .ended .complete) : t.drain.inFlight = 0 := by
  obtain ⟨-, rfl⟩ := step_eq_some_iff.1 hstep
  cases a with
  | test i | raise i | lower i => exact absurd hcomplete hbefore
  | begin => cases hcomplete
  | read =>
    rw [perform] at hcomplete ⊢
    split
    · assumption
    · next hnot =>
      rw [if_neg hnot] at hcomplete
      exact absurd hcomplete hbefore
  | expire => exact result_eq_complete_iff.1 (Drainer.ended.inj hcomplete)

/-! ## Once the drain has begun -/

/-- A drain that has begun lets nobody in: the guards, and the callers that may still get one, do
not become more. -/
theorem step_of_draining (hdraining : s.drain.draining = true) (hstep : step a s = some t) :
    t.drain.draining = true ∧
      t.live + t.standing .between ≤ s.live + s.standing .between := by
  obtain ⟨hdue, rfl⟩ := step_eq_some_iff.1 hstep
  cases a with
  | test i =>
    have hlive : (s.move i .gone).live = s.live := standing_move hdue .gone .counted
    have hbetween : (s.move i .gone).standing .between = s.standing .between :=
      standing_move hdue .gone .between
    rw [perform, if_pos hdraining]
    exact ⟨hdraining, by omega⟩
  | raise i =>
    have hlive : (s.move i .counted).live = s.live + 1 := standing_move hdue .counted .counted
    have hbetween : (s.move i .counted).standing .between + 1 = s.standing .between :=
      standing_move hdue .counted .between
    refine ⟨hdraining, ?_⟩
    show (s.move i .counted).live + (s.move i .counted).standing .between ≤ _
    omega
  | lower i =>
    have hlive : (s.move i .gone).live + 1 = s.live := standing_move hdue .gone .counted
    have hbetween : (s.move i .gone).standing .between = s.standing .between :=
      standing_move hdue .gone .between
    refine ⟨hdraining, ?_⟩
    show (s.move i .gone).live + (s.move i .gone).standing .between ≤ _
    omega
  | begin => exact ⟨rfl, Nat.le_refl _⟩
  | read =>
    rw [perform]
    split <;> exact ⟨hdraining, Nat.le_refl _⟩
  | expire => exact ⟨hdraining, Nat.le_refl _⟩

theorem run_of_draining (hdraining : s.drain.draining = true) (hrun : run accesses s = some t) :
    t.live + t.standing .between ≤ s.live + s.standing .between := by
  induction accesses generalizing s with
  | nil =>
    obtain rfl := Option.some.inj hrun
    exact Nat.le_refl _
  | cons a accesses ih =>
    obtain ⟨next, hstep, hrun⟩ := Option.bind_eq_some_iff.1 hrun
    obtain ⟨hnext, hle⟩ := step_of_draining hdraining hstep
    exact Nat.le_trans (ih hnext hrun) hle

/-- A caller between its accesses can make the second one at any time. -/
theorem exists_raise (h : 0 < s.standing .between) :
    ∃ i t, run [.raise i] s = some t ∧ t.live = s.live + 1 := by
  obtain ⟨c, hc, hbetween⟩ := List.countP_pos_iff.1 h
  obtain rfl := of_decide_eq_true hbetween
  obtain ⟨i, hi⟩ := List.getElem?_of_mem hc
  have hstep : step (.raise i) s = some (s.perform (.raise i)) := step_of_due hi
  refine ⟨i, s.perform (.raise i), ?_, ?_⟩
  · rw [run, hstep]
    rfl
  · exact standing_move hi .counted .counted

/-- **A guard that comes late belongs to a caller between its two accesses.**  Any number of callers
and a drain take turns in any order, until the drain ends complete.  Then no call is counted and no
guard is live.  Whatever accesses follow, the count stays that of the live guards, and together with
the callers that may still get one these are never more than the callers that now stand between
their accesses.  So no guard will ever be live again exactly if nobody stands there. -/
theorem late_guards_were_between {callers : Nat} {before : Shared}
    (hrun : run accesses (start callers) = some before)
    (hbefore : before.drainer ≠ .ended .complete) (hstep : step a before = some s)
    (hcomplete : s.drainer = .ended .complete) :
    s.drain.inFlight = 0 ∧ s.live = 0 ∧
      (∀ later t, run later s = some t →
        t.drain.inFlight = t.live ∧ t.live + t.standing .between ≤ s.standing .between) ∧
      ((∀ later t, run later s = some t → t.live = 0) ↔ s.standing .between = 0) := by
  have hconsistent : s.Consistent := ((consistent_start callers).run hrun).step hstep
  have hcount : s.drain.inFlight = 0 := inFlight_of_complete hbefore hstep hcomplete
  have hlive : s.live = 0 := hconsistent.inFlight_eq.symm.trans hcount
  have hdraining : s.drain.draining = true := hconsistent.draining_iff.2 (by simp [hcomplete])
  have hlater (later : List Access) (t : Shared) (hrun : run later s = some t) :
      t.drain.inFlight = t.live ∧ t.live + t.standing .between ≤ s.standing .between := by
    have hle := run_of_draining hdraining hrun
    exact ⟨(hconsistent.run hrun).inFlight_eq, by omega⟩
  refine ⟨hcount, hlive, hlater, ?_, ?_⟩
  · intro hnone
    refine Nat.eq_zero_of_not_pos fun hbetween => ?_
    obtain ⟨i, t, hraise, hguard⟩ := exists_raise hbetween
    have := hnone [.raise i] t hraise
    omega
  · intro hbetween later t hrun
    have := (hlater later t hrun).2
    omega

/-- The first caller finishes in time.  The second one has looked before the drain began and raises
the count after it has ended. -/
theorem late_guards_were_between_of_two_callers :
    ∃ before s t,
      run [.test 0, .raise 0, .test 1, .begin, .read, .lower 0] (start 2) = some before ∧
      before.drainer = .waiting ∧ step .read before = some s ∧ s.drainer = .ended .complete ∧
      s.live = 0 ∧ s.standing .between = 1 ∧ run [.raise 1] s = some t ∧ t.live = 1 ∧
      ¬ ∀ later t, run later s = some t → t.live = 0 := by
  obtain ⟨-, hlive, -, hnone⟩ :=
    @late_guards_were_between _ .read [.test 0, .raise 0, .test 1, .begin, .read, .lower 0] 2 _ rfl
      (by decide) rfl rfl
  refine ⟨_, _, _, rfl, rfl, rfl, rfl, hlive, rfl, rfl, rfl, ?_⟩
  rw [hnone]
  decide

/-- What a drain is to keep: once it has ended complete, no guard is live and none ever will be. -/
def AdmitsNoLateCall : Prop :=
  ∀ callers accesses s, run accesses (start callers) = some s → s.drainer = .ended .complete →
    s.live = 0 ∧ ∀ later t, run later s = some t → t.live = 0

/-- One caller is enough to break it: the caller looks, the drain begins and reads a count of zero,
and then the caller raises the count. -/
theorem not_admitsNoLateCall : ¬ AdmitsNoLateCall := by
  intro h
  obtain ⟨-, hlater⟩ := h 1 [.test 0, .begin, .read] _ rfl rfl
  have hlive := hlater [.raise 0] _ rfl
  exact absurd hlive (by decide)

end Shared
end Drain
end ModelRegistry
