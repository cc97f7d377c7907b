import ModelRegistry.Operations

/-!
# Recorded calls

Which calls reach a backend is a question about whoever makes them.  `Backend.recorded` answers it:
it is the same backend, with every call that reaches it written down.  `Operations.recorded` does
this for the operations of a registry, each of which writes down what it was asked for.
`Backend.refusing` is the simplest backend worth recording: it remembers nothing and refuses the
names that it is told to refuse.
-/

namespace ModelRegistry

/-- A state with the calls that have reached it, the first one first. -/
structure Recorded (σ : Type) where
  state : σ
  calls : List Call

/-- The same backend, with its calls written down. -/
def Backend.recorded {σ : Type} (backend : Backend σ) : Backend (Recorded σ) := fun c r =>
  let (answer, state) := backend c r.state
  (answer, ⟨state, r.calls ++ [c]⟩)

namespace Recorded

variable {σ : Type}

/-- A state without calls. -/
def new (state : σ) : Recorded σ := ⟨state, []⟩

/-- The same state, with the calls so far forgotten. -/
def forget (r : Recorded σ) : Recorded σ := new r.state

/-- Carry out an operation and write a call down. -/
def noting {α : Type} (c : Call) (operation : σ → α × σ) (r : Recorded σ) : α × Recorded σ :=
  ((operation r.state).1, ⟨(operation r.state).2, r.calls ++ [c]⟩)

end Recorded

/-- The same operations, each written down as a call with its arguments in order. -/
def Operations.recorded {σ : Type} (ops : Operations σ) : Operations (Recorded σ) where
  addModel name path active description appInfo :=
    Recorded.noting (.register name path active description appInfo)
      (ops.addModel name path active description appInfo)
  updateModelDescription name version description :=
    Recorded.noting (.describe name version description)
      (ops.updateModelDescription name version description)
  activateModel name version :=
    Recorded.noting (.activate name version) (ops.activateModel name version)
  getModel name version := Recorded.noting (.get name version) (ops.getModel name version)
  getActivatedModel name := Recorded.noting (.getActive name) (ops.getActivatedModel name)
  getAllModels name := Recorded.noting (.getAll name) (ops.getAllModels name)
  deleteModel name version force :=
    Recorded.noting (.delete name version force) (ops.deleteModel name version force)
  setPipelineDescription name description :=
    Recorded.noting (.setPipeline name description) (ops.setPipelineDescription name description)
  addResource name path description appInfo :=
    Recorded.noting (.addResource name path description appInfo)
      (ops.addResource name path description appInfo)

/-- Recording changes neither answers nor states, and adds exactly the call that was made. -/
theorem Backend.recorded_apply {σ : Type} (backend : Backend σ) (c : Call) (r : Recorded σ) :
    backend.recorded c r = ((backend c r.state).1, ⟨(backend c r.state).2, r.calls ++ [c]⟩) := rfl

/-! ## A backend without memory -/

/-- What stands in for a result. -/
def Method.sample : (m : Method) → m.Result
  | .register => (1 : UInt32)
  | .get | .getActive => "\x7b\x7d"
  | .getAll => "[]"
  | .describe | .activate | .delete | .setPipeline | .addResource => ()

/-- Refuse some names and accept all others. -/
def Backend.refusing {σ : Type} (refusals : List (String × Refusal)) : Backend σ := fun c s =>
  match refusals.lookup c.name with
  | some refusal => (.error refusal, s)
  | none => (.ok c.method.sample, s)

end ModelRegistry
