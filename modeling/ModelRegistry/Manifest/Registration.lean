import ModelRegistry.Files
import ModelRegistry.Log.Action
import ModelRegistry.Manifest.Plan

/-!
# Registering a manifest

The tasks of a plan are carried out one after the other against a backend.  A refused registration
is counted and the next task is taken up; so the calls that reach the backend are those of the plan,
whatever it answers.  An unknown key ends the run with an error after the tasks before it.
-/

namespace ModelRegistry

variable {σ : Type}

/-- Put a call to a backend. -/
def Backend.ask (backend : Backend σ) (c : Call) : Action σ (Answer c) := Action.step (backend c)

namespace Manifest

/-- Carry out one task and count what became of it. -/
def Task.run (backend : Backend σ) (appInfo : String) (report : Report) :
    Task → Action σ Report
  | .model name path active description => do
    match ← backend.ask (.register name path active description appInfo) with
    | .ok version =>
      Action.report (.modelRegistered name path version active)
      pure (report.accept .model)
    | .error refusal =>
      Action.report (.registrationRefused .model refusal)
      pure report.refuse
  | .pipeline name description => do
    match ← backend.ask (.setPipeline name description) with
    | .ok () =>
      Action.report (.pipelineRegistered name)
      pure (report.accept .pipeline)
    | .error refusal =>
      Action.report (.registrationRefused .pipeline refusal)
      pure report.refuse
  | .resource name path description => do
    match ← backend.ask (.addResource name path description appInfo) with
    | .ok () =>
      Action.report (.resourceRegistered name path)
      pure (report.accept .resource)
    | .error refusal =>
      Action.report (.resourceRefused name path refusal)
      pure report.refuse
  | .skipEntry category fault => do
    Action.report (.entrySkipped category fault)
    pure report.skip
  | .skipPath name index => do
    Action.report (.pathSkipped name index)
    pure report.skip

/-- Carry out tasks in order. -/
def runTasks (backend : Backend σ) (appInfo : String) : List Task → Report → Action σ Report
  | [], report => pure report
  | task :: tasks, report => do
    let report ← task.run backend appInfo report
    runTasks backend appInfo tasks report

/-- Carry out a plan. -/
def Plan.run (backend : Backend σ) (appInfo : String) (plan : Plan) :
    Action σ (Except ManifestError Report) := do
  let report ← runTasks backend appInfo plan.tasks .empty
  match plan.unknownKey with
  | some key =>
    Action.report (.unknownCategory key)
    pure (.error (.unknownCategory key))
  | none =>
    Action.report (.manifestDone report)
    pure (.ok report)

/-- Register all that a manifest holds, tagging models and resources with `appInfo`. -/
def register (backend : Backend σ) (appInfo : String) (document : Bytes) :
    Action σ (Except ManifestError Report) :=
  match Plan.ofDocument document with
  | .error e => pure (.error e)
  | .ok plan => plan.run backend appInfo

/-- The content of the manifest at a path. -/
def load (files : Files) (path : Path) : Except ManifestError Bytes :=
  match files.isRegular? path with
  | none => .error (.notFound path)
  | some false => .error (.notRegularFile path)
  | some true =>
    match files.read path with
    | .error fault => .error (.unreadable path fault)
    | .ok content =>
      match Text.ofBytes? content with
      | none => .error (.unreadable path .notText)
      | some _ => .ok content

/-- Register the manifest at a path. -/
def registerFile (backend : Backend σ) (files : Files) (appInfo : String) (path : Path) :
    Action σ (Except ManifestError Report) :=
  match load files path with
  | .error e => pure (.error e)
  | .ok document => register backend appInfo document

end Manifest
end ModelRegistry
