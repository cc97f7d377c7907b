import ModelRegistry.Proofs.Lifecycle.Journal

/-!
# Going through the modules

There are three ways of going through the modules, the sweeps.  `ModuleTurn` lists what a sweep can
do to one module: the hook that is run, if any, and the state that the module is in afterwards.
`ModuleTurns` takes one turn after the other, in the order of registration.

`sweep_journaled` says at once that keeping a journal changes nothing and that what a sweep adds to
it are the hooks of such turns, and `sweepAll_journaled` says so for sweeps one after the other.
-/

namespace ModelRegistry

/-- The ways of going through the modules. -/
inductive Sweep
  | probe
  | init
  | exit
  deriving DecidableEq, Repr

namespace Sweep

variable {β σ : Type}

/-- The modules that are treated, by their states. -/
def concerns : Sweep → ModuleState → Bool
  | probe, s => s = .unregistered
  | init, s => s = .probed
  | exit, s => s = .probed ∨ s = .active

/-- The hooks that are run. -/
def hooks : Sweep → List HookUse
  | probe => [.probeFailed, .probed]
  | init => [.init]
  | exit => [.exit]

/-- What is done to one module. -/
def treat : Sweep → ModuleEntry β σ → Action (Context β σ) (ModuleEntry β σ)
  | probe => Modules.probe
  | init => Modules.init
  | exit => Modules.exit

/-- A module that is not concerned is passed over. -/
theorem treat_of_not_concerns {w : Sweep} {e : ModuleEntry β σ} (h : w.concerns e.state = false) :
    w.treat e = pure e := by
  cases w with
  | probe => exact if_neg (of_decide_eq_false h)
  | init => exact if_neg (of_decide_eq_false h)
  | exit => exact if_neg (of_decide_eq_false h)

section Treated

variable (m : Module β σ) (c : Context β σ)

theorem run_probe_of_ok (h : (m.probe.run c).value = .ok ()) :
    (probe.treat ⟨m, .unregistered⟩).run c =
      ⟨⟨m, .probed⟩, (m.probe.run c).state, (m.probe.run c).events⟩ := by
  simp only [treat, Modules.probe, if_true, Action.run_bind, h, Action.run_pure, List.append_nil]

theorem run_probe_of_error {fault : ModuleError} (h : (m.probe.run c).value = .error fault) :
    (probe.treat ⟨m, .unregistered⟩).run c =
      ⟨⟨m, .unregistered⟩, (m.probe.run c).state,
        (m.probe.run c).events ++ [.moduleDisabled m.name fault.status fault.message]⟩ := by
  simp only [treat, Modules.probe, if_true, Action.run_bind, h]
  rfl

theorem run_init :
    (init.treat ⟨m, .probed⟩).run c =
      ⟨⟨m, .active⟩, (m.init.run c).state, (m.init.run c).events ++ [.moduleActive m.name]⟩ := rfl

theorem run_exit {s : ModuleState} (h : s = .probed ∨ s = .active) :
    (exit.treat ⟨m, s⟩).run c =
      ⟨⟨m, .tornDown⟩, (m.exit.run c).state,
        (m.exit.run c).events ++ [.moduleTornDown m.name]⟩ := by
  simp only [treat, Modules.exit, if_pos h]
  rfl

end Treated

/-- A module stays the same module. -/
theorem hooks_treat (w : Sweep) (e : ModuleEntry β σ) (c : Context β σ) :
    ((w.treat e).run c).value.hooks = e.hooks := by
  obtain ⟨m, s⟩ := e
  by_cases hdue : w.concerns s = true
  · cases w with
    | probe =>
      obtain rfl : s = .unregistered := of_decide_eq_true hdue
      cases hprobe : (m.probe.run c).value with
      | ok => rw [run_probe_of_ok m c hprobe]
      | error => rw [run_probe_of_error m c hprobe]
    | init =>
      obtain rfl : s = .probed := of_decide_eq_true hdue
      rw [run_init]
    | exit => rw [run_exit m c (of_decide_eq_true hdue)]
  · rw [treat_of_not_concerns (by simpa using hdue)]
    rfl

end Sweep

/-! ## Turns -/

/-- What a sweep does to a module: the hook that is run, and the state before and after it. -/
inductive ModuleTurn : Sweep → ModuleState → List HookUse → ModuleState → Prop
  | probeFailed : ModuleTurn .probe .unregistered [.probeFailed] .unregistered
  | probed : ModuleTurn .probe .unregistered [.probed] .probed
  | init : ModuleTurn .init .probed [.init] .active
  | exit {s : ModuleState} (h : s = .probed ∨ s = .active) : ModuleTurn .exit s [.exit] .tornDown
  | passed {w : Sweep} {s : ModuleState} (h : w.concerns s = false) : ModuleTurn w s [] s

namespace ModuleTurn

variable {w : Sweep} {s s' : ModuleState} {uses : List HookUse}

/-- A module that is concerned has one hook run, and any other has none. -/
theorem length_eq (h : ModuleTurn w s uses s') : uses.length = if w.concerns s then 1 else 0 := by
  cases h with
  | probeFailed => rfl
  | probed => rfl
  | init => rfl
  | exit h => simp [Sweep.concerns, h]
  | passed h => simp [h]

theorem mem_hooks (h : ModuleTurn w s uses s') : ∀ u ∈ uses, u ∈ w.hooks := by
  cases h <;> simp [Sweep.hooks]

end ModuleTurn

/-- Turns of modules that are numbered from `first` on: the states before, the notes on the hooks
that are run, and the states after. -/
inductive ModuleTurns (w : Sweep) :
    (first : Nat) → List ModuleState → List HookNote → List ModuleState → Prop
  | nil {first : Nat} : ModuleTurns w first [] [] []
  | cons {first : Nat} {s s' : ModuleState} {uses : List HookUse} {ss ss' : List ModuleState}
      {notes : List HookNote} (turn : ModuleTurn w s uses s')
      (rest : ModuleTurns w (first + 1) ss notes ss') :
      ModuleTurns w first (s :: ss) (uses.map (HookNote.mk first) ++ notes) (s' :: ss')

/-! ## Sweeps -/

namespace Modules

variable {β σ : Type}

/-- Go through the modules once. -/
def sweep : Sweep → Modules β σ → Action (Context β σ) (Modules β σ)
  | .probe => probeAll
  | .init => initAll
  | .exit => exitAll

theorem sweep_eq_each (w : Sweep) (ms : Modules β σ) : sweep w ms = each w.treat ms := by
  cases w <;> rfl

/-- Going through one module alone is treating that module. -/
theorem run_sweep_single (w : Sweep) (e : ModuleEntry β σ) (c : Context β σ) :
    (sweep w [e]).run c =
      ⟨[((w.treat e).run c).value], ((w.treat e).run c).state, ((w.treat e).run c).events⟩ := by
  simp only [sweep_eq_each, each, Action.run_bind, Action.run_pure, List.append_nil]

theorem hooks_sweep (w : Sweep) (ms : Modules β σ) (c : Context β σ) :
    ((sweep w ms).run c).value.map (·.hooks) = ms.map (·.hooks) := by
  rw [sweep_eq_each]
  induction ms generalizing c with
  | nil => rfl
  | cons e es ih =>
    simp only [each, Action.run_bind, Action.run_pure, List.map_cons, Sweep.hooks_treat, ih]

/-- Go through the modules several times. -/
def sweepAll : List Sweep → Modules β σ → Action (Context β σ) (Modules β σ)
  | [], ms => pure ms
  | w :: ws, ms => do
    let ms ← sweep w ms
    sweepAll ws ms

theorem sweepAll_append (ws vs : List Sweep) (ms : Modules β σ) :
    sweepAll (ws ++ vs) ms = sweepAll ws ms >>= sweepAll vs := by
  induction ws generalizing ms with
  | nil => simp [sweepAll]
  | cons w ws ih => simp [sweepAll, ih]

/-- The last sweep goes through what the sweeps before it have left. -/
theorem run_sweepAll_concat (ws : List Sweep) (w : Sweep) (ms : Modules β σ) (c : Context β σ) :
    (sweepAll (ws ++ [w]) ms).run c =
      let before := (sweepAll ws ms).run c
      let last := (sweep w before.value).run before.state
      ⟨last.value, last.state, before.events ++ last.events⟩ := by
  simp only [sweepAll_append, Action.run_bind, sweepAll, Action.run_pure, List.append_nil]

/-- Modules keep their places in the order of registration. -/
theorem hooks_sweepAll (ws : List Sweep) (ms : Modules β σ) (c : Context β σ) :
    ((sweepAll ws ms).run c).value.map (·.hooks) = ms.map (·.hooks) := by
  induction ws generalizing ms c with
  | nil => rfl
  | cons w ws ih => simp only [sweepAll, Action.run_bind, ih, hooks_sweep]

/-- The states of the modules in order. -/
def states (ms : Modules β σ) : List ModuleState := ms.map (·.state)

end Modules

section Journaled

variable {β σ : Type}

/-- Treating a module with a journal is treating it without, and adds the hook of its turn. -/
theorem Sweep.treat_journaled (w : Sweep) (e : ModuleEntry β σ) (entry : Nat) (c : Context β σ)
    (notes : List HookNote) :
    let o := (w.treat e).run c
    ∃ uses, ModuleTurn w e.state uses o.value.state ∧
      (w.treat ⟨e.hooks.journaled entry, e.state⟩).run (c.beside notes) =
        ⟨⟨o.value.hooks.journaled entry, o.value.state⟩,
          o.state.beside (notes ++ uses.map (HookNote.mk entry)), o.events⟩ := by
  intro o
  obtain ⟨m, s⟩ := e
  by_cases hdue : w.concerns s = true
  · cases w with
    | probe =>
      obtain rfl : s = .unregistered := of_decide_eq_true hdue
      have hnoted := m.journaled_probe entry c notes
      cases hprobe : (m.probe.run c).value with
      | ok =>
        refine ⟨[.probed], ?_, ?_⟩
        · simp only [o, run_probe_of_ok m c hprobe]
          exact .probed
        · simp only [o, run_probe_of_ok m c hprobe]
          rw [run_probe_of_ok _ _ (by rw [hnoted, hprobe]), hnoted, hprobe]
          rfl
      | error fault =>
        refine ⟨[.probeFailed], ?_, ?_⟩
        · simp only [o, run_probe_of_error m c hprobe]
          exact .probeFailed
        · simp only [o, run_probe_of_error m c hprobe]
          rw [run_probe_of_error _ _ (by rw [hnoted, hprobe]), hnoted, hprobe]
          rfl
    | init =>
      obtain rfl : s = .probed := of_decide_eq_true hdue
      refine ⟨[.init], .init, ?_⟩
      rw [run_init, m.journaled_init entry c notes]
      rfl
    | exit =>
      have hs : s = .probed ∨ s = .active := of_decide_eq_true hdue
      refine ⟨[.exit], ?_, ?_⟩
      · simp only [o, run_exit m c hs]
        exact .exit hs
      · simp only [o, run_exit m c hs]
        rw [run_exit _ _ hs, m.journaled_exit entry c notes]
        rfl
  · have hpassed : w.concerns s = false := by simpa using hdue
    have hplain : w.treat ⟨m, s⟩ = pure ⟨m, s⟩ := treat_of_not_concerns hpassed
    have hnoted : w.treat ⟨m.journaled entry, s⟩ = pure ⟨m.journaled entry, s⟩ :=
      treat_of_not_concerns hpassed
    refine ⟨[], ?_, ?_⟩
    · simp only [o, hplain]
      exact .passed hpassed
    · simp only [o, hplain, hnoted, Action.run_pure, List.map_nil, List.append_nil]

namespace Modules

theorem sweep_journaled (w : Sweep) (ms : Modules β σ) (first : Nat) (c : Context β σ)
    (notes : List HookNote) :
    let o := (sweep w ms).run c
    ∃ added, ModuleTurns w first ms.states added o.value.states ∧
      (sweep w (ms.journaled first)).run (c.beside notes) =
        ⟨o.value.journaled first, o.state.beside (notes ++ added), o.events⟩ := by
  simp only [sweep_eq_each]
  -- Each module finds the next number, and the context and the notes that the one before it left.
  induction ms generalizing first c notes with
  | nil => exact ⟨[], .nil, by simp [each, journaled, Action.run_pure]⟩
  | cons e es ih =>
    obtain ⟨uses, hturn, hrun⟩ := w.treat_journaled e first c notes
    obtain ⟨added, hturns, hruns⟩ :=
      ih (first + 1) ((w.treat e).run c).state (notes ++ uses.map (HookNote.mk first))
    refine ⟨uses.map (HookNote.mk first) ++ added, .cons hturn hturns, ?_⟩
    simp only [each, journaled, Action.run_bind, Action.run_pure, hrun, hruns, List.append_assoc]

/-- Sweeps with a journal are the sweeps without it. -/
theorem sweepAll_journaled (ws : List Sweep) (ms : Modules β σ) (first : Nat) (c : Context β σ)
    (notes : List HookNote) :
    let o := (sweepAll ws ms).run c
    ∃ added, (sweepAll ws (ms.journaled first)).run (c.beside notes) =
      ⟨o.value.journaled first, o.state.beside (notes ++ added), o.events⟩ := by
  induction ws generalizing ms c notes with
  | nil => exact ⟨[], by simp [sweepAll, Action.run_pure]⟩
  | cons w ws ih =>
    obtain ⟨now, -, hrun⟩ := sweep_journaled w ms first c notes
    obtain ⟨later, hruns⟩ := ih ((sweep w ms).run c).value ((sweep w ms).run c).state (notes ++ now)
    refine ⟨now ++ later, ?_⟩
    simp only [sweepAll, Action.run_bind, hrun, hruns, List.append_assoc]

end Modules
end Journaled
end ModelRegistry
