import Mathlib.Data.List.Basic
import Mathlib.Data.List.Induction
import ModelRegistry.Proofs.Lifecycle.Sweeps

/-!
# The course of a module

Modules are registered and then gone through any number of times.  `Course` says which hooks of one
module can have been run by then, in which order, and how far each such sequence has brought the
module: failed probes, then one that succeeds, then the hook that makes it active, then the hook on
exit, and nothing behind that.

A turn takes a module from one point of its course to a later one (`Course.turn`), and the turns of
one sweep do so for each module by itself (`ModuleTurns.turn_of`).  `modules_run_their_course` puts
this together along the sweeps.
-/

namespace ModelRegistry

/-! ## One module -/

/-- The hooks of a module that were run, and the state that they have brought it to. -/
inductive Course : List HookUse → ModuleState → Prop
  | unregistered (failed : Nat) :
      Course (.replicate failed .probeFailed) .unregistered
  | probed (failed : Nat) :
      Course (.replicate failed .probeFailed ++ [.probed]) .probed
  | active (failed : Nat) :
      Course (.replicate failed .probeFailed ++ [.probed, .init]) .active
  | tornDownUnused (failed : Nat) :
      Course (.replicate failed .probeFailed ++ [.probed, .exit]) .tornDown
  | tornDown (failed : Nat) :
      Course (.replicate failed .probeFailed ++ [.probed, .init, .exit]) .tornDown

namespace Course

variable {uses : List HookUse} {s : ModuleState}

/-- A turn takes a module on in its course. -/
theorem turn {w : Sweep} {now : List HookUse} {s' : ModuleState} (h : Course uses s)
    (hturn : ModuleTurn w s now s') : Course (uses ++ now) s' := by
  cases hturn with
  | probeFailed =>
    cases h with
    | unregistered failed =>
      rw [← List.replicate_succ']
      exact .unregistered _
  | probed =>
    cases h with
    | unregistered failed => exact .probed failed
  | init =>
    cases h with
    | probed failed =>
      rw [List.append_assoc]
      exact .active failed
  | exit hs =>
    cases h with
    | probed failed =>
      rw [List.append_assoc]
      exact .tornDownUnused failed
    | active failed =>
      rw [List.append_assoc]
      exact .tornDown failed
    | unregistered => simp at hs
    | tornDownUnused => simp at hs
    | tornDown => simp at hs
  | passed =>
    rw [List.append_nil]
    exact h

/-- A module has left its first state exactly if a probe has succeeded. -/
theorem probed_mem_iff (h : Course uses s) : .probed ∈ uses ↔ s ≠ .unregistered := by
  cases h <;> simp

/-- A module is torn down exactly if its last hook has been run. -/
theorem exit_mem_iff (h : Course uses s) : .exit ∈ uses ↔ s = .tornDown := by
  cases h <;> simp

end Course

/-- A turn runs the last hook if it is one of the exit, and the module is neither before its probe
nor torn down. -/
theorem ModuleTurn.exit_mem_iff {w : Sweep} {s s' : ModuleState} {uses : List HookUse}
    (h : ModuleTurn w s uses s') :
    .exit ∈ uses ↔ w = .exit ∧ s ≠ .unregistered ∧ s ≠ .tornDown := by
  cases h with
  | probeFailed => simp
  | probed => simp
  | init => simp
  | exit hs => rcases hs with rfl | rfl <;> simp
  | @passed w s hpassed =>
    cases w with
    | exit => cases s <;> simp_all [Sweep.concerns]
    | _ => simp

/-! ## Modules side by side -/

namespace HookNote

@[simp] theorem hooksOf_append (entry : Nat) (notes later : List HookNote) :
    hooksOf entry (notes ++ later) = hooksOf entry notes ++ hooksOf entry later :=
  List.filterMap_append

/-- Notes on one module are its own and nobody else's. -/
@[simp] theorem hooksOf_map_mk (entry first : Nat) (uses : List HookUse) :
    hooksOf entry (uses.map (HookNote.mk first)) = if first = entry then uses else [] := by
  by_cases h : first = entry <;> simp [hooksOf, List.filterMap_map, h]

end HookNote

open HookNote (hooksOf)

namespace ModuleTurns

variable {w : Sweep} {first : Nat} {ss ss' : List ModuleState} {notes : List HookNote}

/-- The modules that a sweep treats are those that it concerns, in the order of registration. -/
theorem entries_eq (h : ModuleTurns w first ss notes ss') :
    notes.map (·.entry) = ss.findIdxs w.concerns first := by
  induction h with
  | nil => rfl
  | @cons first s _ uses _ _ _ hturn _ ih =>
    have huses := hturn.length_eq
    cases hdue : w.concerns s with
    | false =>
      obtain rfl : uses = [] := by simpa [hdue] using huses
      simp [hdue, ih]
    | true =>
      obtain ⟨u, rfl⟩ := List.length_eq_one_iff.1 (huses.trans (by simp [hdue]))
      simp [hdue, ih]

theorem mem_hooks (h : ModuleTurns w first ss notes ss') : ∀ n ∈ notes, n.hook ∈ w.hooks := by
  induction h with
  | nil => simp
  | cons hturn _ ih =>
    intro n hn
    rcases List.mem_append.1 hn with hn | hn
    · obtain ⟨u, hu, rfl⟩ := List.mem_map.1 hn
      exact hturn.mem_hooks u hu
    · exact ih n hn

/-- Nothing is noted of modules before the first. -/
theorem hooksOf_of_lt (h : ModuleTurns w first ss notes ss') {entry : Nat} (hlt : entry < first) :
    hooksOf entry notes = [] := by
  induction h with
  | nil => rfl
  | cons _ _ ih =>
    have hne : ¬ _ = entry := Nat.ne_of_gt hlt
    simp [hne, ih (Nat.lt_succ_of_lt hlt)]

/-- Each module has a turn of its own. -/
theorem turn_of (h : ModuleTurns w first ss notes ss') {i : Nat} {s : ModuleState}
    (hs : ss[i]? = some s) :
    ∃ s', ss'[i]? = some s' ∧ ModuleTurn w s (hooksOf (first + i) notes) s' := by
  induction h generalizing i with
  | nil => simp at hs
  | @cons first s₀ s₀' uses ss ss' notes hturn hrest ih =>
    cases i with
    | zero =>
      obtain rfl : s₀ = s := by simpa using hs
      refine ⟨s₀', rfl, ?_⟩
      simpa [hrest.hooksOf_of_lt (Nat.lt_succ_self first)] using hturn
    | succ i =>
      obtain ⟨s', hs', hnext⟩ := ih (by simpa using hs)
      refine ⟨s', by simpa using hs', ?_⟩
      have hne : ¬ first = first + (i + 1) := by omega
      rw [HookNote.hooksOf_append, HookNote.hooksOf_map_mk, if_neg hne, List.nil_append]
      rwa [Nat.add_assoc, Nat.add_comm 1 i] at hnext

end ModuleTurns

/-! ## Sweeps one after the other -/

namespace Modules

variable {β σ : Type}

/-- The modules as they are registered, one after the other. -/
def ofHooks (hooks : List (Module β σ)) : Modules β σ :=
  hooks.foldl (fun ms m => register m ms) []

theorem foldl_register (hooks : List (Module β σ)) (ms : Modules β σ) :
    hooks.foldl (fun ms m => register m ms) ms = ms ++ hooks.map (⟨·, .unregistered⟩) := by
  induction hooks generalizing ms with
  | nil => simp
  | cons m hooks ih =>
    rw [List.foldl_cons, ih, register, List.append_assoc]
    rfl

theorem ofHooks_eq (hooks : List (Module β σ)) :
    ofHooks hooks = hooks.map (⟨·, .unregistered⟩) := by
  simp [ofHooks, foldl_register]

section Runs

variable (hooks : List (Module β σ)) (c : Context β σ)

/-- What sweeps leave of modules that have just been registered. -/
def swept (ws : List Sweep) : Outcome (Context β σ) (Modules β σ) :=
  (sweepAll ws (ofHooks hooks)).run c

/-- The same with a journal, in which nothing has been noted before. -/
def sweptJournaled (ws : List Sweep) :
    Outcome (Context (Noted HookNote β) σ) (Modules (Noted HookNote β) σ) :=
  (sweepAll ws ((ofHooks hooks).journaled 0)).run (c.beside [])

/-- The hooks that are run by sweeps over modules that have just been registered. -/
def journal (ws : List Sweep) : List HookNote := (sweptJournaled hooks c ws).state.bus.notes

theorem sweptJournaled_eq (ws : List Sweep) :
    sweptJournaled hooks c ws =
      ⟨(swept hooks c ws).value.journaled 0,
        (swept hooks c ws).state.beside (journal hooks c ws), (swept hooks c ws).events⟩ := by
  obtain ⟨added, hrun⟩ := sweepAll_journaled ws (ofHooks hooks) 0 c []
  have hjournal : journal hooks c ws = added :=
    congrArg (fun o => o.state.bus.notes) hrun
  rw [hjournal]
  exact hrun

/-- One more sweep adds the hooks of one turn for each module. -/
theorem journal_concat (ws : List Sweep) (w : Sweep) :
    ∃ added, journal hooks c (ws ++ [w]) = journal hooks c ws ++ added ∧
      ModuleTurns w 0 (swept hooks c ws).value.states added
        (swept hooks c (ws ++ [w])).value.states := by
  obtain ⟨added, hturns, hrun⟩ := sweep_journaled w (swept hooks c ws).value 0
    (swept hooks c ws).state (journal hooks c ws)
  refine ⟨added, ?_, ?_⟩
  · have hbefore := sweptJournaled_eq hooks c ws
    rw [sweptJournaled] at hbefore
    rw [journal, sweptJournaled, run_sweepAll_concat, hbefore]
    simp only [hrun]
    rfl
  · show ModuleTurns w 0 _ added ((sweepAll (ws ++ [w]) (ofHooks hooks)).run c).value.states
    rw [run_sweepAll_concat]
    exact hturns

theorem hooks_swept (ws : List Sweep) : (swept hooks c ws).value.map (·.hooks) = hooks := by
  rw [swept, hooks_sweepAll, ofHooks_eq, List.map_map]
  exact List.map_id'' (fun _ => rfl) hooks

theorem length_states (ws : List Sweep) :
    (swept hooks c ws).value.states.length = hooks.length := by
  have hlength := congrArg List.length (hooks_swept hooks c ws)
  rw [List.length_map] at hlength
  rw [states, List.length_map, hlength]

/-- One more sweep is one turn for a module, whose hooks are noted behind the earlier ones. -/
theorem exists_turn (ws : List Sweep) (w : Sweep) {i : Nat} (hi : i < hooks.length) :
    ∃ s now s', (swept hooks c ws).value.states[i]? = some s ∧
      (swept hooks c (ws ++ [w])).value.states[i]? = some s' ∧ ModuleTurn w s now s' ∧
      hooksOf i (journal hooks c (ws ++ [w])) = hooksOf i (journal hooks c ws) ++ now := by
  obtain ⟨added, hjournal, hturns⟩ := journal_concat hooks c ws w
  have hlt : i < (swept hooks c ws).value.states.length := by rwa [length_states]
  have hs := List.getElem?_eq_getElem hlt
  obtain ⟨s', hs', hturn⟩ := hturns.turn_of hs
  rw [Nat.zero_add] at hturn
  exact ⟨_, _, s', hs, hs', hturn, by rw [hjournal, HookNote.hooksOf_append]⟩

/-- After any sweeps, each module is at a point of its course. -/
theorem course_of_states (ws : List Sweep) {i : Nat} {s : ModuleState}
    (hs : (swept hooks c ws).value.states[i]? = some s) :
    Course (hooksOf i (journal hooks c ws)) s := by
  induction ws using List.reverseRecOn generalizing s with
  | nil =>
    have hmem := List.mem_of_getElem? hs
    simp only [swept, sweepAll, Action.run_pure, states, ofHooks_eq, List.map_map,
      List.mem_map] at hmem
    obtain ⟨m, -, rfl⟩ := hmem
    exact .unregistered 0
  | append_singleton ws w ih =>
    -- Sweeps neither add nor drop modules, so this one was there before the last sweep.
    have hi : i < hooks.length := by
      rw [← length_states hooks c (ws ++ [w])]
      exact (List.getElem?_eq_some_iff.1 hs).1
    obtain ⟨s₀, now, s', hs₀, hs', hturn, hhooks⟩ := exists_turn hooks c ws w hi
    obtain rfl : s' = s := Option.some.inj (hs'.symm.trans hs)
    rw [hhooks]
    exact (ih hs₀).turn hturn

/-- The last hook of a module is run exactly if there was an exit after a probe that succeeded. -/
theorem exit_mem_journal_iff (ws : List Sweep) {i : Nat} (hi : i < hooks.length) :
    .exit ∈ hooksOf i (journal hooks c ws) ↔
      ∃ before after, ws = before ++ .exit :: after ∧
        .probed ∈ hooksOf i (journal hooks c before) := by
  induction ws using List.reverseRecOn with
  | nil =>
    constructor
    · intro h
      cases h
    · rintro ⟨before, after, heq, -⟩
      simp at heq
  | append_singleton ws w ih =>
    obtain ⟨s, now, s', hs, -, hturn, hhooks⟩ := exists_turn hooks c ws w hi
    have hcourse := course_of_states hooks c ws hs
    -- The exit is one of the earlier sweeps or the last one.
    have hsplit : (∃ before after, ws ++ [w] = before ++ .exit :: after ∧
          .probed ∈ hooksOf i (journal hooks c before)) ↔
        (∃ before after, ws = before ++ .exit :: after ∧
          .probed ∈ hooksOf i (journal hooks c before)) ∨
        w = .exit ∧ .probed ∈ hooksOf i (journal hooks c ws) := by
      constructor
      · rintro ⟨before, after, heq, hprobed⟩
        rcases List.eq_nil_or_concat after with rfl | ⟨after, last, rfl⟩
        · obtain ⟨rfl, hw⟩ := List.append_inj' heq rfl
          exact .inr ⟨by simpa using hw, hprobed⟩
        · rw [List.concat_eq_append, ← List.cons_append, ← List.append_assoc] at heq
          exact .inl ⟨before, after, (List.append_inj' heq rfl).1, hprobed⟩
      · rintro (⟨before, after, rfl, hprobed⟩ | ⟨rfl, hprobed⟩)
        · exact ⟨before, after ++ [w], by simp, hprobed⟩
        · exact ⟨ws, [], rfl, hprobed⟩
    rw [hsplit, ← ih, hhooks, List.mem_append, hturn.exit_mem_iff, hcourse.probed_mem_iff,
      hcourse.exit_mem_iff]
    -- A module that is already torn down has had its exit, and no sweep takes that back.
    by_cases hdown : s = .tornDown <;> simp [hdown]

end Runs

/-- **Modules run their course, each by itself.**  Keeping a journal changes nothing, and modules
keep their places.  After any sweeps each module is at a point of its course, and its state says at
which.  Its last hook has been run exactly if there was an exit after a probe that succeeded.  And
every sweep runs one hook of each module that it concerns, by the state of that module alone, in the
order of registration and whatever came of the hooks before it. -/
theorem modules_run_their_course (hooks : List (Module β σ)) (c : Context β σ) (ws : List Sweep) :
    let o := swept hooks c ws
    sweptJournaled hooks c ws =
        ⟨o.value.journaled 0, o.state.beside (journal hooks c ws), o.events⟩ ∧
    o.value.map (·.hooks) = hooks ∧
    (∀ i s, o.value.states[i]? = some s → Course (hooksOf i (journal hooks c ws)) s) ∧
    (∀ i, i < hooks.length → (.exit ∈ hooksOf i (journal hooks c ws) ↔
      ∃ before after, ws = before ++ .exit :: after ∧
        .probed ∈ hooksOf i (journal hooks c before))) ∧
    ∀ w, ∃ added, journal hooks c (ws ++ [w]) = journal hooks c ws ++ added ∧
      added.map (·.entry) = o.value.states.findIdxs w.concerns ∧ ∀ n ∈ added, n.hook ∈ w.hooks := by
  intro o
  refine ⟨sweptJournaled_eq hooks c ws, hooks_swept hooks c ws,
    fun i s hs => course_of_states hooks c ws hs,
    fun i hi => exit_mem_journal_iff hooks c ws hi, ?_⟩
  intro w
  obtain ⟨added, hjournal, hturns⟩ := journal_concat hooks c ws w
  exact ⟨added, hjournal, hturns.entries_eq, hturns.mem_hooks⟩

/-- The first of two modules is refused once, so it is probed again and comes too late to be made
active; the second takes its whole course meanwhile. -/
theorem modules_run_their_course_when_refused_once :
    let refusedOnce : Action (Context Nat Unit) (Except ModuleError Unit) :=
      Action.step fun c =>
        (if c.bus = 0 then .error (.unavailable (.pathInUse "/a")) else .ok (),
          { c with bus := c.bus + 1 })
    let hooks : List (Module Nat Unit) :=
      [⟨"late", refusedOnce, pure (), pure ()⟩, ⟨"early", pure (.ok ()), pure (), pure ()⟩]
    let c : Context Nat Unit := .new 0 ()
    let ws : List Sweep := [.probe, .init, .probe, .exit, .exit]
    (swept hooks c ws).value.states[0]? = some .tornDown ∧
      hooksOf 0 (journal hooks c ws) = [.probeFailed, .probed, .exit] ∧
      hooksOf 1 (journal hooks c ws) = [.probed, .init, .exit] ∧
      Course (hooksOf 0 (journal hooks c ws)) .tornDown ∧
      1 < hooks.length ∧
      (∃ before after, ws = before ++ .exit :: after ∧
        .probed ∈ hooksOf 1 (journal hooks c before)) := by
  intro refusedOnce hooks c ws
  obtain ⟨-, -, hcourse, hexit, -⟩ := modules_run_their_course hooks c ws
  have hdown : (swept hooks c ws).value.states[0]? = some .tornDown := by decide
  have hlate : hooksOf 0 (journal hooks c ws) = [.probeFailed, .probed, .exit] := by decide
  have hearly : hooksOf 1 (journal hooks c ws) = [.probed, .init, .exit] := by decide
  have hlast : .exit ∈ hooksOf 1 (journal hooks c ws) := by
    rw [hearly]
    decide
  exact ⟨hdown, hlate, hearly, hcourse 0 .tornDown hdown, Nat.one_lt_two,
    (hexit 1 Nat.one_lt_two).1 hlast⟩

end Modules
end ModelRegistry
