import ModelRegistry.Proofs.Installer.Orchestration

/-!
# What the hooks are put together from

A plugin supplies two parts, to install and to uninstall, and may leave the rest of the eight hooks
as they are.  Which parts a hook then takes, and in which order, is `Hook.parts`.

The parts are any steps whatsoever on any state.  To see how often they are taken, each is made to
note that in the state (`PluginStep.noted`); an action and the same action with notes are related by
`Takes`, which says that the notes are the given parts, that nothing else differs, and that the
state is what these parts make of it.  The relation is kept by running one action after another, so
it holds of every hook.

The result of a hook is a matter of its own: an upgrade takes both parts and asks neither for its
result (`answer_error_iff`).
-/

namespace ModelRegistry

variable {σ α β : Type}

/-! ## Parts -/

/-- What a hook is put together from. -/
inductive Plugin.Part
  | uninstall
  | install
  deriving DecidableEq, Repr

/-- The parts of a hook in the order in which they are taken. -/
def Hook.parts : Hook → List Plugin.Part
  | install | recoverUninstall => [.install]
  | uninstall | recoverInstall => [.uninstall]
  | upgrade | recoverUpgrade => [.uninstall, .install]
  | clean | undo => []

namespace PluginStep

/-- A step that is noted as a part when it has been taken. -/
def noted (part : Plugin.Part) (step : PluginStep σ α) : PluginStep (σ × List Plugin.Part) α :=
  fun args => (step args).within Prod.fst fun s t => (s, t.2 ++ [part])

/-- A step that fails in a state. -/
def Fails (step : PluginStep σ α) (args : HookArgs) (s : σ) : Prop :=
  ∃ e, ((step args).run s).value = .error e

end PluginStep

namespace Plugin

/-- A plugin that supplies the parts and nothing else. -/
def ofParts (uninstall : PluginStep σ Unit) (install : PluginStep σ Installation) : Plugin σ where
  install := install
  uninstall := uninstall

section

variable (uninstall : PluginStep σ Unit) (install : PluginStep σ Installation) (args : HookArgs)

/-- The plugin with parts that are noted. -/
def ofNotedParts : Plugin (σ × List Part) :=
  ofParts (uninstall.noted .uninstall) (install.noted .install)

/-- What a part makes of a state. -/
def afterPart (s : σ) : Part → σ
  | .uninstall => ((uninstall args).run s).state
  | .install => ((install args).run s).state

/-- What parts make of a state, one after the other and whether they fail or not. -/
def afterParts (parts : List Part) (s : σ) : σ := parts.foldl (afterPart uninstall install args) s

/-! ## Actions that take parts -/

/-- An action takes parts: with notes it does the same and notes just these, and its effect on the
state is theirs. -/
structure Takes (parts : List Part) (a : Action σ α) (noted : Action (σ × List Part) α) : Prop where
  run_noted (s : σ) (notes : List Part) :
    noted.run (s, notes) = ⟨(a.run s).value, ((a.run s).state, notes ++ parts), (a.run s).events⟩
  state_run (s : σ) : (a.run s).state = afterParts uninstall install args parts s

variable {uninstall install args}

namespace Takes

variable {parts parts' : List Part}

theorem pure (v : α) :
    Takes uninstall install args [] (Pure.pure v : Action σ α) (Pure.pure v) where
  run_noted s notes := by rw [List.append_nil, Action.run_pure, Action.run_pure]
  state_run s := rfl

theorem bind {a : Action σ α} {noted : Action (σ × List Part) α} {f : α → Action σ β}
    {notedf : α → Action (σ × List Part) β} (ha : Takes uninstall install args parts a noted)
    (hf : ∀ v, Takes uninstall install args parts' (f v) (notedf v)) :
    Takes uninstall install args (parts ++ parts') (a >>= f) (noted >>= notedf) where
  run_noted s notes := by
    rw [Action.run_bind, Action.run_bind, ha.run_noted]
    dsimp only
    rw [(hf _).run_noted, List.append_assoc]
  state_run s := by
    rw [Action.run_bind]
    dsimp only
    rw [(hf _).state_run, ha.state_run]
    exact List.foldl_append.symm

/-- What follows a result, by whether it is a failure. -/
theorem bindResult {a : Action σ (Except InstallError α)}
    {noted : Action (σ × List Part) (Except InstallError α)}
    {f : Except InstallError α → Action σ β}
    {notedf : Except InstallError α → Action (σ × List Part) β}
    (ha : Takes uninstall install args parts a noted)
    (hok : ∀ v, Takes uninstall install args parts' (f (.ok v)) (notedf (.ok v)))
    (herror : ∀ e, Takes uninstall install args parts' (f (.error e)) (notedf (.error e))) :
    Takes uninstall install args (parts ++ parts') (a >>= f) (noted >>= notedf) := by
  refine bind ha fun result => ?_
  cases result with
  | ok v => exact hok v
  | error e => exact herror e

/-- A report takes no part. -/
theorem reporting (e : Event) {a : Action σ α} {noted : Action (σ × List Part) α}
    (ha : Takes uninstall install args parts a noted) :
    Takes uninstall install args parts (Action.report e >>= fun _ => a)
      (Action.report e >>= fun _ => noted) := by
  have hreport : Takes uninstall install args [] (Action.report e : Action σ Unit)
      (Action.report e) :=
    ⟨fun s notes => by rw [List.append_nil]; rfl, fun _ => rfl⟩
  exact bind hreport fun _ => ha

theorem ofUninstall :
    Takes uninstall install args [.uninstall] (uninstall args) (uninstall.noted .uninstall args) :=
  ⟨fun _ _ => rfl, fun _ => rfl⟩

theorem ofInstall :
    Takes uninstall install args [.install] (install args) (install.noted .install args) :=
  ⟨fun _ _ => rfl, fun _ => rfl⟩

/-- An upgrade takes both parts, whatever comes of them. -/
theorem ofUpgrade :
    Takes uninstall install args [.uninstall, .install]
      (PluginStep.upgrade uninstall install args)
      (PluginStep.upgrade (uninstall.noted .uninstall) (install.noted .install) args) := by
  show Takes uninstall install args ([.uninstall] ++ ([.install] ++ [])) _ _
  refine bindResult ofUninstall (fun _ => ?_) fun _ => reporting _ ?_
  -- With a failure to report or without, the installation follows.
  all_goals exact bindResult ofInstall (fun _ => pure _) fun _ => reporting _ (pure _)

theorem ofAnswer (hook : Hook) :
    Takes uninstall install args hook.parts ((ofParts uninstall install).answer hook args)
      ((ofNotedParts uninstall install).answer hook args) := by
  have hinstalled : Takes uninstall install args [.install]
      (return (← install args).map fun _ => ())
      (return (← install.noted .install args).map fun _ => ()) :=
    bind ofInstall fun _ => pure _
  cases hook with
  | install | recoverUninstall => exact hinstalled
  | uninstall | recoverInstall => exact ofUninstall
  | upgrade | recoverUpgrade => exact ofUpgrade
  | clean | undo => exact pure _

theorem ofRun (hook : Hook) :
    Takes uninstall install args hook.parts (hook.run (ofParts uninstall install) args)
      (hook.run (ofNotedParts uninstall install) args) := by
  rw [Hook.run, Hook.run, ← List.append_nil (Hook.parts hook)]
  exact reporting _
    (bindResult (ofAnswer hook) (fun _ => pure _) fun _ => reporting _ (pure _))

end Takes

/-! ## Results -/

/-- What a hook answers is what its one part does; with two parts or none it is a success. -/
theorem answer_value (hook : Hook) (s : σ) :
    (((ofParts uninstall install).answer hook args).run s).value =
      match hook with
      | .install | .recoverUninstall => ((install args).run s).value.map fun _ => ()
      | .uninstall | .recoverInstall => ((uninstall args).run s).value
      | .upgrade | .recoverUpgrade | .clean | .undo => .ok () := by
  cases hook with
  | upgrade => exact Installer.upgrade_value args s uninstall install
  | recoverUpgrade => exact Installer.upgrade_value args s uninstall install
  | _ => rfl

/-- A hook fails with the failure of its one part. -/
theorem answer_error_iff (hook : Hook) (s : σ) :
    (∃ e, (((ofParts uninstall install).answer hook args).run s).value = .error e) ↔
      (hook = .install ∨ hook = .recoverUninstall) ∧ install.Fails args s ∨
        (hook = .uninstall ∨ hook = .recoverInstall) ∧ uninstall.Fails args s := by
  have hmap (result : Except InstallError Installation) :
      (∃ e, result.map (fun _ => ()) = .error e) ↔ ∃ e, result = .error e := by
    cases result <;> simp [Except.map]
  rw [answer_value]
  cases hook <;> simp [PluginStep.Fails, hmap]

end

end Plugin

/-- To the package manager a hook is its answer, between two reports. -/
theorem Hook.run_eq (hook : Hook) (p : Plugin σ) (args : HookArgs) (s : σ) :
    let o := (p.answer hook args).run s
    (hook.run p args).run s =
      { value := match o.value with
          | .ok () => 0
          | .error _ => -1
        state := o.state
        events := .hookCalled hook.name args.pkgId (args.appId.getD "") :: (o.events ++
          match o.value with
          | .ok () => []
          | .error e => [.hookFailed hook.name args.pkgId e.message]) } := by
  intro o
  have hreport (e : Event) : (Action.report e).run s = ⟨(), s, [e]⟩ := rfl
  rw [Hook.run, Action.run_bind, Action.run_bind, hreport]
  dsimp only [o]
  cases ((p.answer hook args).run s).value <;> rfl

theorem Hook.run_cases (hook : Hook) (p : Plugin σ) (args : HookArgs) (s : σ) :
    let result := ((hook.run p args).run s).value
    (result = 0 ∨ result = -1) ∧
      (result = -1 ↔ ∃ e, ((p.answer hook args).run s).value = .error e) := by
  rw [Hook.run_eq]
  cases ((p.answer hook args).run s).value <;> simp

namespace Plugin

/-- **Every hook takes its parts.**  Whatever a plugin does to install and to uninstall, if the rest
of it is left as it is, then every hook takes the parts that it is put together from, each once and
in order, also when one of them fails, and has no other effect.  It ends with zero or with minus
one, and with minus one exactly if it takes one part only and that one fails; an upgrade never does.
Recovering is what it stands for.  Of the installer every hook that installs leaves the same behind
as an installation, however far that gets, and every other hook leaves the state alone. -/
theorem hooks_take_parts (uninstall : PluginStep σ Unit) (install : PluginStep σ Installation)
    (args : HookArgs) (s : σ) :
    let p := ofParts uninstall install
    (∀ hook : Hook,
      let o := (hook.run p args).run s
      (hook.run (ofNotedParts uninstall install) args).run (s, []) =
          ⟨o.value, (o.state, hook.parts), o.events⟩ ∧
        o.state = afterParts uninstall install args hook.parts s ∧
        (o.value = 0 ∨ o.value = -1) ∧
        (o.value = -1 ↔
          (hook = .install ∨ hook = .recoverUninstall) ∧ install.Fails args s ∨
            (hook = .uninstall ∨ hook = .recoverInstall) ∧ uninstall.Fails args s)) ∧
    (∀ hook hook' : Hook,
      (hook, hook') ∈ [(.recoverInstall, .uninstall), (.recoverUninstall, .install),
        (.recoverUpgrade, .upgrade)] →
      p.answer hook = p.answer hook' ∧
        ((hook.run p args).run s).value = ((hook'.run p args).run s).value ∧
        ((hook.run p args).run s).state = ((hook'.run p args).run s).state) ∧
    ∀ (source : PackageSource) (files : Files) (backend : Backend σ) (hook : Hook),
      let installer := Installer.plugin source files backend
      ((hook.run installer args).run s).state =
        if .install ∈ hook.parts then ((Hook.install.run installer args).run s).state else s := by
  intro p
  refine ⟨fun hook => ?_, fun hook hook' hrecover => ?_, fun source files backend hook => ?_⟩
  · have htakes : Takes uninstall install args hook.parts _ _ := Takes.ofRun hook
    obtain ⟨hresult, hfails⟩ := hook.run_cases p args s
    exact ⟨htakes.run_noted s [], htakes.state_run s, hresult, hfails.trans (answer_error_iff hook s)⟩
  · have hanswer : p.answer hook = p.answer hook' := by
      simp only [List.mem_cons, Prod.mk.injEq, List.not_mem_nil, or_false] at hrecover
      rcases hrecover with ⟨rfl, rfl⟩ | ⟨rfl, rfl⟩ | ⟨rfl, rfl⟩ <;> rfl
    rw [Hook.run_eq, Hook.run_eq, hanswer]
    exact ⟨rfl, rfl, rfl⟩
  · intro installer
    -- The installer leaves in place what is registered, so its first part has no effect.
    have hstate (hook : Hook) : ((hook.run installer args).run s).state =
        afterParts .leaveInPlace (Installer.install source files backend) args hook.parts s :=
      (Takes.ofRun hook).state_run s
    rw [hstate, hstate]
    cases hook <;> rfl

end Plugin
end ModelRegistry
