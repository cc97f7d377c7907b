import ModelRegistry.Proofs.Daemon.ModelService
import ModelRegistry.Proofs.Lifecycle.Course
import ModelRegistry.Store

/-!
# What a start answers

A start counts the modules between its two sweeps, when those are probed that it is about to make
active.  The modules that were active before are not among them.  So what it answers is by how many
modules more are active afterwards (`value_add_activeCount_start`), and how many are active at any
time is the sum of what the starts have answered since the last stop (`activeCount_after`).

A sweep changes how many modules are in which states by the turns of the single modules
(`ModuleTurns.countP_eq`).
-/

namespace ModelRegistry

/-! ## Counting along a sweep -/

namespace ModuleTurn

variable {w : Sweep} {s s' : ModuleState} {uses : List HookUse}

theorem eq_of_not_concerns (h : ModuleTurn w s uses s') (hs : w.concerns s = false) : s' = s := by
  cases h with
  | passed => rfl
  | probeFailed => rfl
  | probed => simp [Sweep.concerns] at hs
  | init => simp [Sweep.concerns] at hs
  | exit h => simp [Sweep.concerns, h] at hs

theorem active_iff_of_probe (h : ModuleTurn .probe s uses s') : s' = .active ↔ s = .active := by
  cases h <;> simp

/-- What is enabled is active after it has been gone through to make it so. -/
theorem active_iff_of_init (h : ModuleTurn .init s uses s') : s' = .active ↔ s.Enabled := by
  cases h with
  | init => simp [ModuleState.Enabled]
  | passed hs => simp_all [Sweep.concerns, ModuleState.Enabled]

theorem ne_probed_of_init (h : ModuleTurn .init s uses s') : s' ≠ .probed := by
  cases h with
  | init => simp
  | passed hs => exact of_decide_eq_false hs

theorem not_enabled_of_exit (h : ModuleTurn .exit s uses s') : ¬ s'.Enabled := by
  cases h with
  | exit => decide
  | passed hs => exact of_decide_eq_false hs

end ModuleTurn

/-- If every turn leads to a state with one property exactly from the states with another, then a
sweep leaves as many modules with the one as it has found with the other. -/
theorem ModuleTurns.countP_eq {w : Sweep} {first : Nat} {ss ss' : List ModuleState}
    {notes : List HookNote} {p q : ModuleState → Prop} [DecidablePred p] [DecidablePred q]
    (h : ModuleTurns w first ss notes ss')
    (hturn : ∀ {s uses s'}, ModuleTurn w s uses s' → (q s' ↔ p s)) :
    ss'.countP (q ·) = ss.countP (p ·) := by
  induction h with
  | nil => rfl
  | cons turn _ ih => simp only [List.countP_cons, ih, decide_eq_true_eq, hturn turn]

namespace Modules

variable {β σ : Type}

/-- How many modules are active. -/
def activeCount (ms : Modules β σ) : Nat := ms.states.countP (· = .active)

theorem probedCount_eq (ms : Modules β σ) : ms.probedCount = ms.states.countP (· = .probed) := by
  rw [states, List.countP_map]
  rfl

/-- What is enabled is probed or active, and nothing is both. -/
theorem countP_enabled (ms : Modules β σ) :
    ms.states.countP (·.Enabled) = ms.probedCount + ms.activeCount := by
  rw [probedCount_eq, activeCount]
  induction ms.states with
  | nil => rfl
  | cons s ss ih =>
    simp only [List.countP_cons, ih]
    cases s <;> simp [ModuleState.Enabled] <;> omega

section Sweeps

variable (ms : Modules β σ) (c : Context β σ)

theorem countP_sweep {w : Sweep} {p q : ModuleState → Prop} [DecidablePred p] [DecidablePred q]
    (hturn : ∀ {s uses s'}, ModuleTurn w s uses s' → (q s' ↔ p s)) :
    ((sweep w ms).run c).value.states.countP (q ·) = ms.states.countP (p ·) := by
  obtain ⟨_, hturns, -⟩ := sweep_journaled w ms 0 c []
  exact hturns.countP_eq hturn

theorem activeCount_probe : ((sweep .probe ms).run c).value.activeCount = ms.activeCount :=
  countP_sweep ms c ModuleTurn.active_iff_of_probe

theorem activeCount_init :
    ((sweep .init ms).run c).value.activeCount = ms.probedCount + ms.activeCount := by
  rw [← countP_enabled]
  exact countP_sweep ms c ModuleTurn.active_iff_of_init

theorem activeCount_exit : ((sweep .exit ms).run c).value.activeCount = 0 := by
  rw [activeCount, countP_sweep (p := fun _ => False) ms c fun turn =>
    iff_false_intro fun hactive => turn.not_enabled_of_exit (.inr hactive)]
  simp

/-- A module that a sweep does not concern stays as it is. -/
theorem getElem?_states_sweep {w : Sweep} {i : Nat} {s : ModuleState} (hs : ms.states[i]? = some s)
    (hpassed : w.concerns s = false) : ((sweep w ms).run c).value.states[i]? = some s := by
  obtain ⟨_, hturns, -⟩ := sweep_journaled w ms 0 c []
  obtain ⟨s', hs', hturn⟩ := hturns.turn_of hs
  rw [hs', hturn.eq_of_not_concerns hpassed]

theorem ne_probed_of_mem_init {s : ModuleState} (hs : s ∈ ((sweep .init ms).run c).value.states) :
    s ≠ .probed := by
  have hnone := countP_sweep (p := fun _ => False) (q := (· = .probed)) ms c fun turn =>
    iff_false_intro turn.ne_probed_of_init
  simp only [decide_false, List.countP_false] at hnone
  simpa using List.countP_eq_zero.1 hnone s hs

end Sweeps

theorem activeCount_ofHooks (hooks : List (Module β σ)) : (ofHooks hooks).activeCount = 0 := by
  simp [activeCount, states, ofHooks_eq]

end Modules

/-! ## Starts and stops -/

namespace Daemon

variable {β σ : Type}

/-- A daemon is started or stopped. -/
inductive Transition
  | start
  | stop

/-- The command that it is told. -/
def Transition.command : Transition → Command
  | start => .start
  | stop => .stop

/-- The sum of what the starts answer, from `sum` on and from each stop on anew. -/
def answeredSinceStop : List Transition → Daemon β σ → Nat → Nat
  | [], _, sum => sum
  | .start :: told, d, sum =>
    answeredSinceStop told (perform .start d) (sum + (start.run d).value)
  | .stop :: told, d, _ => answeredSinceStop told (perform .stop d) 0

/-- A start goes through the modules twice. -/
theorem modules_start (d : Daemon β σ) :
    let probed := (Modules.sweep .probe d.modules).run d.context
    (perform .start d).modules = ((Modules.sweep .init probed.value).run probed.state).value := rfl

/-- What it answers is counted in between. -/
theorem value_start (d : Daemon β σ) :
    (start.run d).value = ((Modules.sweep .probe d.modules).run d.context).value.probedCount := rfl

/-- By what a start answers, more modules are active afterwards than before. -/
theorem value_add_activeCount_start (d : Daemon β σ) :
    (start.run d).value + d.modules.activeCount = (perform .start d).modules.activeCount := by
  rw [value_start, modules_start, Modules.activeCount_init, Modules.activeCount_probe]

theorem activeCount_stop (d : Daemon β σ) : (perform .stop d).modules.activeCount = 0 :=
  Modules.activeCount_exit d.modules d.context

/-- What is active stays active when the daemon is started. -/
theorem active_start {d : Daemon β σ} {i : Nat} (h : d.modules.states[i]? = some .active) :
    (perform .start d).modules.states[i]? = some .active := by
  rw [modules_start]
  have hprobed := d.modules.getElem?_states_sweep (w := .probe) d.context h rfl
  exact Modules.getElem?_states_sweep (w := .init) _ _ hprobed rfl

/-- Of a daemon that was started, what is enabled is active. -/
theorem enabled_iff_active_start (d : Daemon β σ) {s : ModuleState}
    (hs : s ∈ (perform .start d).modules.states) : s.Enabled ↔ s = .active := by
  rw [modules_start] at hs
  exact or_iff_right (Modules.ne_probed_of_mem_init _ _ hs)

/-- How many modules are active is what the starts have answered since the last stop. -/
theorem activeCount_after (told : List Transition) (d : Daemon β σ) :
    (after (told.map Transition.command) d).modules.activeCount =
      answeredSinceStop told d d.modules.activeCount := by
  induction told generalizing d with
  | nil => rfl
  | cons transition told ih =>
    rw [List.map_cons, after, List.foldl_cons]
    cases transition with
    | start =>
      rw [answeredSinceStop, Nat.add_comm, value_add_activeCount_start]
      exact ih (perform .start d)
    | stop =>
      rw [answeredSinceStop, ← activeCount_stop d]
      exact ih (perform .stop d)

theorem activeCount_after_stop (told : List Transition) (d : Daemon β σ) :
    (after ((told ++ [Transition.stop]).map Transition.command) d).modules.activeCount = 0 := by
  rw [List.map_append, after, List.foldl_append]
  exact activeCount_stop _

/-- A daemon that was not started, or was stopped after it, has no active modules. -/
theorem activeCount_of_not_started (hooks : List (Module β σ)) (c : Context β σ)
    {told : List Transition} (h : told.getLast? ≠ some Transition.start) :
    (after (told.map Transition.command) ⟨c, Modules.ofHooks hooks⟩).modules.activeCount = 0 := by
  rcases List.eq_nil_or_concat told with rfl | ⟨earlier, last, rfl⟩
  · exact Modules.activeCount_ofHooks hooks
  · rw [List.concat_eq_append] at h ⊢
    cases last with
    | start => simp at h
    | stop => exact activeCount_after_stop earlier _

/-- **A start answers how many modules it has enabled, and not how many are.**  The modules may have
any hooks and the daemon may have been started and stopped in any order.  After a start, what is
enabled is active, and what was active before is so still.  How many modules are active is what this
start and those since the last stop have answered together.  So the answer is the number of active
modules exactly if those starts have enabled none, and then it is zero exactly if no module is
enabled.  Those starts have enabled none if the last thing told to the daemon was no start. -/
theorem start_counts_newly_enabled (hooks : List (Module β σ)) (c : Context β σ)
    (told : List Transition) :
    let new : Daemon β σ := ⟨c, Modules.ofHooks hooks⟩
    let d := after (told.map Transition.command) new
    let o := start.run d
    let heard := answeredSinceStop told new 0
    (∀ s ∈ o.state.modules.states, s.Enabled ↔ s = .active) ∧
    (∀ i : Nat, d.modules.states[i]? = some .active → o.state.modules.states[i]? = some .active) ∧
    heard + o.value = o.state.modules.activeCount ∧
    (o.value = o.state.modules.activeCount ↔ heard = 0) ∧
    (heard = 0 → (o.value = 0 ↔ ∀ s ∈ o.state.modules.states, ¬ s.Enabled)) ∧
    (told.getLast? ≠ some Transition.start → heard = 0) := by
  intro new d o heard
  have hheard : d.modules.activeCount = heard := by
    rw [activeCount_after, Modules.activeCount_ofHooks]
  have hcount : heard + o.value = o.state.modules.activeCount := by
    rw [← hheard, Nat.add_comm]
    exact value_add_activeCount_start d
  have henabled : ∀ s ∈ o.state.modules.states, s.Enabled ↔ s = .active :=
    fun s hs => enabled_iff_active_start d hs
  refine ⟨henabled, fun i => active_start, hcount, by omega, fun hnone => ?_, fun hlast => ?_⟩
  · rw [hnone, Nat.zero_add] at hcount
    rw [hcount, Modules.activeCount, List.countP_eq_zero]
    exact forall₂_congr fun s hs => by rw [henabled s hs, decide_eq_true_eq]
  · exact hheard.symm.trans (activeCount_of_not_started hooks c hlast)

/-- A start answers the number of modules that are enabled when it is done. -/
def CountsEnabled : Prop :=
  ∀ (β σ : Type) (hooks : List (Module β σ)) (c : Context β σ) (told : List Transition),
    let o := start.run (after (told.map Transition.command) ⟨c, Modules.ofHooks hooks⟩)
    o.value = o.state.modules.activeCount ∧ (o.value = 0 ↔ o.state.modules.activeCount = 0)

/-- The second start of a daemon that serves models answers zero, while the model service is
active. -/
theorem not_countsEnabled : ¬ CountsEnabled := by
  intro h
  obtain ⟨hvalue, -⟩ := h LocalBus Store [ModelModule.hooks LocalBus.bus Store.backend]
    (.new .new .empty) [.start]
  exact absurd hvalue (by decide)

end Daemon
end ModelRegistry
