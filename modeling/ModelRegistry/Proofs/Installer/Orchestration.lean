import ModelRegistry.Installer
import ModelRegistry.Proofs.Manifest.Replay
import ModelRegistry.Proofs.Text.Utf8

/-!
# What an installation does, step by step

An installation asks a package source five questions, one after the other, and then registers a
manifest.  Another type of package ends it before the questions after that, and the first fault ends
it wherever it is (`target_cases`).  Only the last step reaches the backend, and it is carried out
with one target, made from the answers.  There the manifest cannot be read, or its text is
registered (`registerFile_cases`), and the calls are those that the text leads to (`replayFile`).

What the backend says goes into the report and nowhere else.  So how a hook ends can be told without
a backend, which is `conclusion`.
-/

namespace ModelRegistry

variable {σ : Type}

/-! ## The manifest -/

/-- The tag of a registration that has one. -/
def Call.appInfo? : Call → Option String
  | register _ _ _ _ appInfo => some appInfo
  | addResource _ _ _ appInfo => some appInfo
  | describe .. | activate .. | get .. | getActive .. | getAll .. | delete .. | setPipeline .. =>
    none

namespace Manifest

/-- What becomes of the manifest at a path.  One that cannot be read leads to no call. -/
def replayFile (files : Files) (appInfo : String) (path : Path) : Replay :=
  match files.isRegular? path, files.read path with
  | none, _ => ⟨[], .error (.notFound path)⟩
  | some false, _ => ⟨[], .error (.notRegularFile path)⟩
  | some true, .error fault => ⟨[], .error (.unreadable path fault)⟩
  | some true, .ok content =>
    match Text.ofBytes? content with
    | none => ⟨[], .error (.unreadable path .notText)⟩
    | some text => replay appInfo text

/-- The text of the manifest at a path. -/
def HoldsText (files : Files) (path : Path) (text : String) : Prop :=
  files.isRegular? path = some true ∧ files.read path = .ok (Text.bytes text)

/-- Either the manifest cannot be read, or its text is registered. -/
theorem registerFile_cases (backend : Backend σ) (files : Files) (appInfo : String)
    (path : Path) :
    (∃ e, registerFile backend files appInfo path = pure (.error e) ∧
        replayFile files appInfo path = ⟨[], .error e⟩) ∨
      ∃ text, HoldsText files path text ∧
        registerFile backend files appInfo path = register backend appInfo (Text.bytes text) ∧
        replayFile files appInfo path = replay appInfo text := by
  unfold registerFile load replayFile HoldsText
  cases files.isRegular? path with
  | none => exact .inl ⟨_, rfl, rfl⟩
  | some regular =>
    cases regular with
    | false => exact .inl ⟨_, rfl, rfl⟩
    | true =>
      cases files.read path with
      | error fault => exact .inl ⟨_, rfl, rfl⟩
      | ok content =>
        cases htext : Text.ofBytes? content with
        | none => exact .inl ⟨.unreadable path .notText, by simp [htext], by simp [htext]⟩
        | some text =>
          have hcontent : Text.bytes text = content := Text.bytes_of_ofBytes? htext
          exact .inr ⟨text, ⟨rfl, congrArg _ hcontent.symm⟩, by simp [htext, hcontent],
            by simp [htext]⟩

/-- A manifest that holds a text is registered as that text. -/
theorem registerFile_of_holdsText (backend : Backend σ) {files : Files} (appInfo : String)
    {path : Path} {text : String} (h : HoldsText files path text) :
    registerFile backend files appInfo path = register backend appInfo (Text.bytes text) := by
  simp [registerFile, load, h.1, h.2, Text.ofBytes?_bytes]

theorem registerFile_state (backend : Backend σ) (files : Files) (appInfo : String) (path : Path)
    (s : σ) :
    ((registerFile backend files appInfo path).run s).state =
      (backend.run (replayFile files appInfo path).calls s).2 := by
  rcases registerFile_cases backend files appInfo path with
    ⟨e, hregister, hreplay⟩ | ⟨text, -, hregister, hreplay⟩
  · rw [hregister, hreplay]
    rfl
  · rw [hregister, hreplay, replay_state]

/-- The calls that reach a backend are those of the manifest. -/
theorem registerFile_recorded (backend : Backend σ) (files : Files) (appInfo : String)
    (path : Path) (s : σ) :
    let calls := (replayFile files appInfo path).calls
    ((registerFile backend.recorded files appInfo path).run (.new s)).state =
      ⟨(backend.run calls s).2, calls⟩ :=
  (registerFile_state backend.recorded files appInfo path (.new s)).trans
    (Backend.run_recorded backend _ (.new s))

/-- Whatever the backend answers, the registration ends in the same way. -/
theorem registerFile_outcome (backend : Backend σ) (files : Files) (appInfo : String)
    (path : Path) (s : σ) :
    ((registerFile backend files appInfo path).run s).value.map (fun _ => ()) =
      (replayFile files appInfo path).outcome := by
  rcases registerFile_cases backend files appInfo path with
    ⟨e, hregister, hreplay⟩ | ⟨text, -, hregister, hreplay⟩
  · rw [hregister, hreplay]
    rfl
  · rw [hregister, hreplay, replay_outcome]

/-- A task tags its registration with what it is given, or with nothing. -/
theorem Task.appInfo_of_call {appInfo tag : String} {task : Task} {c : Call}
    (hcall : task.call? appInfo = some c) (htag : c.appInfo? = some tag) : tag = appInfo := by
  cases task <;> cases hcall <;> cases htag <;> rfl

theorem appInfo_of_replay {appInfo tag text : String} {c : Call}
    (hcall : c ∈ (replay appInfo text).calls) (htag : c.appInfo? = some tag) : tag = appInfo := by
  rw [replay_eq] at hcall
  cases hplan : Plan.ofDocument (Text.bytes text) with
  | error e => simp [hplan] at hcall
  | ok plan =>
    simp only [hplan, Plan.calls] at hcall
    obtain ⟨task, -, htask⟩ := List.mem_filterMap.1 hcall
    exact Task.appInfo_of_call htask htag

theorem appInfo_of_replayFile {files : Files} {appInfo tag : String} {path : Path} {c : Call}
    (hcall : c ∈ (replayFile files appInfo path).calls) (htag : c.appInfo? = some tag) :
    tag = appInfo := by
  unfold replayFile at hcall
  split at hcall
  · cases hcall
  · cases hcall
  · cases hcall
  · split at hcall
    · cases hcall
    · exact appInfo_of_replay hcall htag

end Manifest

namespace Installer

/-! ## The questions -/

/-- The fault in an answer. -/
def fault? {α : Type} : Except PackageError α → Option PackageError
  | .ok _ => none
  | .error e => some e

/-- The first fault in what a source says about a package: in opening it, in its type, in its root,
and in the type and the version of its resources. -/
def firstFault? (source : PackageSource) (pkgId : String) : Option PackageError :=
  match source pkgId with
  | .error e => some e
  | .ok p =>
    [fault? p.packageType, fault? p.rootPath, fault? p.resType, fault? p.resVersion].findSome? id

/-- A package of a type that is not installed. -/
def IsOther (source : PackageSource) (pkgId type : String) : Prop :=
  ∃ p, source pkgId = .ok p ∧ p.packageType = .ok type ∧ type ≠ packageType

/-- The target of a package with these answers. -/
def targetOf (args : HookArgs) (root : Path) (resType resVersion : String) : Target where
  manifest := manifestPath root resType
  appInfo := AppContext.appInfo
    { pkgId := args.pkgId, appId := args.appId.getD "", resType, resVersion }

/-- Looking for the target ends with another type, or with the first fault, or when everything has
been said. -/
theorem target_cases (source : PackageSource) (args : HookArgs) :
    (∃ type, IsOther source args.pkgId type ∧ target source args = .ok (.inl type)) ∨
      (∃ e, (∀ type, ¬ IsOther source args.pkgId type) ∧
        firstFault? source args.pkgId = some e ∧ target source args = .error e) ∨
      ∃ root resType resVersion,
        source args.pkgId = .ok ⟨.ok packageType, .ok root, .ok resType, .ok resVersion⟩ ∧
          target source args = .ok (.inr (targetOf args root resType resVersion)) := by
  cases hsource : source args.pkgId with
  | error e =>
    refine .inr (.inl ⟨e, by simp [IsOther, hsource], by rw [firstFault?, hsource], ?_⟩)
    rw [target, hsource]
    rfl
  | ok p =>
    obtain ⟨type, root, resType, resVersion⟩ := p
    -- The package is asked in order, and every question is the last one if it has no answer.
    rw [target, firstFault?, hsource]
    cases type with
    | error e => exact .inr (.inl ⟨e, by simp [IsOther, hsource], rfl, rfl⟩)
    | ok type =>
      by_cases htype : type = packageType
      · subst htype
        have hnot (type : String) : ¬ IsOther source args.pkgId type := by
          simpa [IsOther, hsource] using Eq.symm
        cases root with
        | error e => exact .inr (.inl ⟨e, hnot, rfl, rfl⟩)
        | ok root =>
          cases resType with
          | error e => exact .inr (.inl ⟨e, hnot, rfl, rfl⟩)
          | ok resType =>
            cases resVersion with
            | error e => exact .inr (.inl ⟨e, hnot, rfl, rfl⟩)
            | ok resVersion => exact .inr (.inr ⟨root, resType, resVersion, rfl, rfl⟩)
      · refine .inl ⟨type, ⟨_, hsource, rfl, htype⟩, ?_⟩
        show (if type ≠ packageType then _ else _) = _
        exact if_pos htype

theorem target_eq_inl_iff (source : PackageSource) (args : HookArgs) (type : String) :
    target source args = .ok (.inl type) ↔ IsOther source args.pkgId type := by
  rcases target_cases source args with
    ⟨other, hother, htarget⟩ | ⟨e, hnot, -, htarget⟩ | ⟨root, resType, resVersion, hsource, htarget⟩
  · rw [htarget]
    constructor
    · rintro ⟨⟩
      exact hother
    · rintro ⟨p, hp, htype, -⟩
      obtain ⟨q, hq, hqtype, -⟩ := hother
      obtain rfl := Except.ok.inj (hp.symm.trans hq)
      rw [Except.ok.inj (htype.symm.trans hqtype)]
  · simp [htarget, hnot type]
  · simpa [htarget, IsOther, hsource] using Eq.symm

/-! ## The steps -/

theorem reportMetadata_state (metadata : List (String × String)) (s : σ) :
    ((reportMetadata metadata).run s).state = s := by
  induction metadata with
  | nil => rfl
  | cons entry metadata ih => exact ih

section

variable (source : PackageSource) (files : Files) (backend : Backend σ) (args : HookArgs) (s : σ)

/-- What an installation comes to is what its last step does, and only that step reaches the
backend. -/
theorem install_run :
    let o := (install source files backend args).run s
    (o.value, o.state) =
      match target source args with
      | .error e => (.error (.packageInfo e), s)
      | .ok (.inl type) => (.ok (.skipped type), s)
      | .ok (.inr t) =>
        let last := (Manifest.registerFile backend files t.appInfo t.manifest).run s
        ((last.value.mapError (.manifest t.manifest)).map (.installed t.manifest), last.state) := by
  rw [install, Action.run_bind, reportMetadata_state]
  cases target source args with
  | error e => rfl
  | ok found =>
    cases found with
    | inl type => rfl
    | inr t =>
      dsimp only
      rw [Action.run_bind]
      cases ((Manifest.registerFile backend files t.appInfo t.manifest).run s).value <;> rfl

/-- An installation skips exactly the packages of another type, and these leave the state alone. -/
theorem skipped_iff (type : String) :
    ((install source files backend args).run s).value = .ok (.skipped type) ∧
        ((install source files backend args).run s).state = s ↔
      IsOther source args.pkgId type := by
  have hrun := install_run source files backend args s
  rw [← target_eq_inl_iff]
  constructor
  · rintro ⟨hvalue, -⟩
    have hfirst := hvalue.symm.trans (congrArg Prod.fst hrun)
    revert hfirst
    cases target source args with
    | error e => exact nofun
    | ok found =>
      cases found with
      | inl other =>
        rintro ⟨⟩
        rfl
      | inr t =>
        dsimp only
        cases ((Manifest.registerFile backend files t.appInfo t.manifest).run s).value <;>
          exact nofun
  · intro htarget
    rw [htarget] at hrun
    exact Prod.mk.inj hrun

/-! ## How a hook ends -/

/-- How an installation ends, whatever the backend answers. -/
def conclusion : Except InstallError Unit :=
  match target source args with
  | .error e => .error (.packageInfo e)
  | .ok (.inl _) => .ok ()
  | .ok (.inr t) =>
    (Manifest.replayFile files t.appInfo t.manifest).outcome.mapError (.manifest t.manifest)

theorem install_conclusion :
    ((install source files backend args).run s).value.map (fun _ => ()) =
      conclusion source files args := by
  have hvalue : ((install source files backend args).run s).value = _ :=
    congrArg Prod.fst (install_run source files backend args s)
  rw [hvalue, conclusion]
  cases target source args with
  | error e => rfl
  | ok found =>
    cases found with
    | inl type => rfl
    | inr t =>
      simp only [← Manifest.registerFile_outcome backend files t.appInfo t.manifest s]
      cases ((Manifest.registerFile backend files t.appInfo t.manifest).run s).value <;> rfl

/-- An upgrade always succeeds. -/
theorem upgrade_value (uninstall : PluginStep σ Unit) (install : PluginStep σ Installation) :
    ((PluginStep.upgrade uninstall install args).run s).value = .ok () := by
  simp only [PluginStep.upgrade, Action.run_bind]
  split
  · simp only [Action.run_bind]
    split <;> rfl
  · simp only [Action.run_bind]
    split <;> rfl

/-- How a hook ends: two of the eight install, and the others always succeed. -/
def hookConclusion (hook : Hook) : Except InstallError Unit :=
  match hook with
  | .install | .recoverUninstall => conclusion source files args
  | .uninstall | .upgrade | .recoverInstall | .recoverUpgrade | .clean | .undo => .ok ()

theorem answer_value (hook : Hook) :
    (((plugin source files backend).answer hook args).run s).value =
      hookConclusion source files args hook := by
  cases hook with
  | install => exact install_conclusion source files backend args s
  | recoverUninstall => exact install_conclusion source files backend args s
  | upgrade => exact upgrade_value args s _ _
  | recoverUpgrade => exact upgrade_value args s _ _
  | _ => rfl

/-- The package manager sees zero for success and minus one for failure. -/
theorem run_value (hook : Hook) :
    ((hook.run (plugin source files backend) args).run s).value =
      match hookConclusion source files args hook with
      | .ok () => 0
      | .error _ => -1 := by
  rw [Hook.run, Action.run_bind, Action.run_bind]
  dsimp only
  have hvalue := answer_value source files backend args s hook
  rw [show ((Action.report (.hookCalled hook.name args.pkgId (args.appId.getD ""))).run s).state = s
    from rfl, hvalue]
  cases hookConclusion source files args hook <;> rfl

end

/-! ## An installation as a whole -/

/-- The last step of an installation, seen from its end: what it comes to, with the manifest at
`path` and this tag. -/
structure Registers (files : Files) (backend : Backend σ) (s : σ) (path : Path) (appInfo : String)
    (o : Outcome (Recorded σ) (Except InstallError Installation)) : Prop where
  /-- The calls are those of the manifest, and the backend is left as they leave it. -/
  state :
    let calls := (Manifest.replayFile files appInfo path).calls
    o.state = ⟨(backend.run calls s).2, calls⟩
  /-- It fails as the manifest does. -/
  outcome :
    o.value.map (fun _ => ()) =
      (Manifest.replayFile files appInfo path).outcome.mapError (.manifest path)
  /-- The report is the one of the text. -/
  report (text : String) (htext : Manifest.HoldsText files path text) :
    let last := (Manifest.register backend.recorded appInfo (Text.bytes text)).run (.new s)
    o.value = (last.value.mapError (.manifest path)).map (.installed path)
  /-- Whatever is registered carries the tag. -/
  tags : ∀ c ∈ o.state.calls, ∀ tag, c.appInfo? = some tag → tag = appInfo

theorem registers_of_eq {files : Files} {backend : Backend σ} {s : σ} {path : Path}
    {appInfo : String} {o : Outcome (Recorded σ) (Except InstallError Installation)}
    (hvalue :
      let last := (Manifest.registerFile backend.recorded files appInfo path).run (.new s)
      o.value = (last.value.mapError (.manifest path)).map (.installed path))
    (hstate : o.state =
      ((Manifest.registerFile backend.recorded files appInfo path).run (.new s)).state) :
    Registers files backend s path appInfo o where
  state := hstate.trans (Manifest.registerFile_recorded backend files appInfo path s)
  outcome := by
    rw [hvalue, ← Manifest.registerFile_outcome backend.recorded files appInfo path (.new s)]
    cases ((Manifest.registerFile backend.recorded files appInfo path).run (.new s)).value <;> rfl
  report text htext := by
    rw [hvalue, Manifest.registerFile_of_holdsText backend.recorded appInfo htext]
  tags c hc tag htag := by
    rw [hstate, Manifest.registerFile_recorded] at hc
    exact Manifest.appInfo_of_replayFile hc htag

/-- **An installation asks in order, and only then registers.**  Whatever the source says about a
package, whatever the files hold and whatever the backend answers: a call reaches the backend only
if all questions about the package have been answered and its type is the one that is installed.  A
package is skipped, and nothing is called, exactly if it is of another type.  Any other package ends
the installation with its first fault, before any call.  Without a fault the manifest is registered,
at a path and with a tag made from the answers: the calls are those that its text leads to, each
model and each resource carries the tag, and the installation fails as the manifest does or comes to
the report of its text.  How a hook ends is the same with any two backends. -/
theorem install_in_order (source : PackageSource) (files : Files) (backend : Backend σ)
    (args : HookArgs) (s : σ) :
    let o := (install source files backend.recorded args).run (.new s)
    (o.state.calls ≠ [] → ∃ root resType resVersion,
      source args.pkgId = .ok ⟨.ok packageType, .ok root, .ok resType, .ok resVersion⟩) ∧
    (∀ type, o.value = .ok (.skipped type) ∧ o.state = .new s ↔ IsOther source args.pkgId type) ∧
    ((∀ type, ¬ IsOther source args.pkgId type) →
      match firstFault? source args.pkgId with
      | some e => o.value = .error (.packageInfo e) ∧ o.state = .new s
      | none => ∃ root resType resVersion,
          source args.pkgId = .ok ⟨.ok packageType, .ok root, .ok resType, .ok resVersion⟩ ∧
          Registers files backend s (manifestPath root resType)
            (AppContext.appInfo ⟨args.pkgId, args.appId.getD "", resType, resVersion⟩) o) ∧
    ∀ (hook : Hook) (τ : Type) (other : Backend τ) (t : τ),
      let result := ((hook.run (plugin source files backend) args).run s).value
      (result = 0 ∨ result = -1) ∧
        result = ((hook.run (plugin source files other) args).run t).value := by
  intro o
  have hrun := install_run source files backend.recorded args (.new s)
  have hends (hook : Hook) (τ : Type) (other : Backend τ) (t : τ) :
      let result := ((hook.run (plugin source files backend) args).run s).value
      (result = 0 ∨ result = -1) ∧
        result = ((hook.run (plugin source files other) args).run t).value := by
    intro result
    have hresult := run_value source files backend args s hook
    refine ⟨?_, hresult.trans (run_value source files other args t hook).symm⟩
    rw [show result = _ from hresult]
    cases hookConclusion source files args hook with
    | ok => exact .inl rfl
    | error e => exact .inr rfl
  refine ⟨?_, fun type => skipped_iff source files backend.recorded args (.new s) type, ?_, hends⟩
  · intro hcall
    rcases target_cases source args with
      ⟨type, -, htarget⟩ | ⟨e, -, -, htarget⟩ | ⟨root, resType, resVersion, hsource, -⟩
    · rw [htarget] at hrun
      exact absurd (congrArg (fun o => o.2.calls) hrun) hcall
    · rw [htarget] at hrun
      exact absurd (congrArg (fun o => o.2.calls) hrun) hcall
    · exact ⟨root, resType, resVersion, hsource⟩
  · intro hnot
    rcases target_cases source args with
      ⟨type, hother, -⟩ | ⟨e, -, hfault, htarget⟩ | ⟨root, resType, resVersion, hsource, htarget⟩
    · exact absurd hother (hnot type)
    · rw [htarget] at hrun
      rw [hfault]
      exact Prod.mk.inj hrun
    · have hnone : firstFault? source args.pkgId = none := by
        rw [firstFault?, hsource]
        rfl
      rw [htarget] at hrun
      obtain ⟨hvalue, hstate⟩ := Prod.mk.inj hrun
      rw [hnone]
      exact ⟨root, resType, resVersion, hsource, registers_of_eq hvalue hstate⟩

/-- A package with a model and a resource; the backend refuses the model, and the package is
installed all the same. -/
theorem install_in_order_of_refused_model :
    let path := manifestPath (.ofText "/opt/pkg") "vision"
    let text := "\x7b\"model\": \x7b\"name\": \"m\", \"model\": \"/m\"\x7d, " ++
      "\"resource\": \x7b\"name\": \"r\", \"path\": \"/r\"\x7d\x7d"
    let source : PackageSource := fun _ =>
      .ok ⟨.ok "rpk", .ok (.ofText "/opt/pkg"), .ok "vision", .ok "1.0"⟩
    let files : Files :=
      ⟨fun p => if p = path then some true else none, fun _ => .ok (Text.bytes text)⟩
    let backend : Backend Unit := .refusing [("m", ⟨.busy, "in use"⟩)]
    let tag := AppContext.appInfo ⟨"org.pkg", "app", "vision", "1.0"⟩
    let o := (install source files backend.recorded ⟨"org.pkg", some "app", []⟩).run (.new ())
    o.value = .ok (.installed path ⟨0, 0, 1, 0, 1⟩) ∧
      o.state.calls = [.register "m" "/m" false "" tag, .addResource "r" "/r" "" tag] := by
  intro path text source files backend tag o
  obtain ⟨-, -, hregisters, -⟩ :=
    install_in_order source files backend ⟨"org.pkg", some "app", []⟩ ()
  have hnot (type : String) : ¬ IsOther source "org.pkg" type := by
    rintro ⟨p, ⟨⟩, ⟨⟩, hne⟩
    exact hne rfl
  obtain ⟨root, resType, resVersion, ⟨⟩, hregisters⟩ := hregisters hnot
  have htext : Manifest.HoldsText files path text := ⟨by simp [files], rfl⟩
  have hcalls : (Manifest.replayFile files tag path).calls =
      [.register "m" "/m" false "" tag, .addResource "r" "/r" "" tag] := by decide +kernel
  refine ⟨(hregisters.report text htext).trans ?_, ?_⟩
  · decide +kernel
  · exact (congrArg Recorded.calls hregisters.state).trans hcalls

end Installer
end ModelRegistry
