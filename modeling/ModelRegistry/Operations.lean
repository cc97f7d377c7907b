import ModelRegistry.Call

/-!
# Operations of a registry

To those who use it a registry is nine operations.  Each takes arguments of its own, most of them
texts, and tells them apart by their order alone.  A backend answers calls, which name their method
and hold its arguments; `Operations.of` makes one call of each operation, and `Operations.backend`
answers each call by one operation.
-/

namespace ModelRegistry

/-- The operations of a registry, with their arguments in order. -/
structure Operations (σ : Type) where
  addModel (name path : String) (active : Bool) (description appInfo : String) :
    σ → Except Refusal UInt32 × σ
  updateModelDescription (name : String) (version : UInt32) (description : String) :
    σ → Except Refusal Unit × σ
  activateModel (name : String) (version : UInt32) : σ → Except Refusal Unit × σ
  getModel (name : String) (version : UInt32) : σ → Except Refusal String × σ
  getActivatedModel (name : String) : σ → Except Refusal String × σ
  getAllModels (name : String) : σ → Except Refusal String × σ
  deleteModel (name : String) (version : UInt32) (force : Bool) : σ → Except Refusal Unit × σ
  setPipelineDescription (name description : String) : σ → Except Refusal Unit × σ
  addResource (name path description appInfo : String) : σ → Except Refusal Unit × σ

namespace Operations

variable {σ : Type}

/-- The operations of a backend. -/
def of (backend : Backend σ) : Operations σ where
  addModel name path active description appInfo :=
    backend (.register name path active description appInfo)
  updateModelDescription name version description := backend (.describe name version description)
  activateModel name version := backend (.activate name version)
  getModel name version := backend (.get name version)
  getActivatedModel name := backend (.getActive name)
  getAllModels name := backend (.getAll name)
  deleteModel name version force := backend (.delete name version force)
  setPipelineDescription name description := backend (.setPipeline name description)
  addResource name path description appInfo :=
    backend (.addResource name path description appInfo)

/-- The backend with these operations. -/
def backend (ops : Operations σ) : Backend σ
  | .register name path active description appInfo =>
    ops.addModel name path active description appInfo
  | .describe name version description => ops.updateModelDescription name version description
  | .activate name version => ops.activateModel name version
  | .get name version => ops.getModel name version
  | .getActive name => ops.getActivatedModel name
  | .getAll name => ops.getAllModels name
  | .delete name version force => ops.deleteModel name version force
  | .setPipeline name description => ops.setPipelineDescription name description
  | .addResource name path description appInfo => ops.addResource name path description appInfo

@[simp] theorem backend_of (backend : Backend σ) : (of backend).backend = backend := by
  funext c
  cases c <;> rfl

end Operations
end ModelRegistry
