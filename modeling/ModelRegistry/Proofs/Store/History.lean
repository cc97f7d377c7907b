import ModelRegistry.Store

/-!
# Histories of the store

An `Exchange` is a call together with what was said to it, and a history is the list of exchanges
so far.  `Backend.run` puts calls to a backend one after the other and keeps the history.

Everything that is later said about the past of a store is read off its history alone, by looking at
one exchange at a time: which version it registered, deleted, described or made active, and which
pipeline or resource it set.  Only an exchange that ended well says anything.
-/

namespace ModelRegistry

/-- A call and what was said to it. -/
structure Exchange where
  call : Call
  answer : Answer call

/-- What has been asked and answered, the first exchange first. -/
abbrev History := List Exchange

/-- Put calls to a backend in order. -/
def Backend.run {σ : Type} (backend : Backend σ) : List Call → σ → History × σ
  | [], s => ([], s)
  | c :: cs, s =>
    let (answer, s) := backend c s
    let (later, s) := Backend.run backend cs s
    (⟨c, answer⟩ :: later, s)

section Run

variable {σ : Type} (backend : Backend σ)

@[simp] theorem Backend.run_nil (s : σ) : backend.run [] s = ([], s) := rfl

theorem Backend.run_cons_state (c : Call) (cs : List Call) (s : σ) :
    (backend.run (c :: cs) s).2 = (backend.run cs (backend c s).2).2 := rfl

theorem Backend.run_append (cs ds : List Call) (s : σ) :
    backend.run (cs ++ ds) s =
      ((backend.run cs s).1 ++ (backend.run ds (backend.run cs s).2).1,
        (backend.run ds (backend.run cs s).2).2) := by
  induction cs generalizing s with
  | nil => rfl
  | cons c cs ih => simp [Backend.run, ih]

/-- The last call of a run is put to the state that the calls before it have left. -/
theorem Backend.run_concat (cs : List Call) (c : Call) (s : σ) :
    backend.run (cs ++ [c]) s =
      ((backend.run cs s).1 ++ [⟨c, (backend c (backend.run cs s).2).1⟩],
        (backend c (backend.run cs s).2).2) := by
  rw [Backend.run_append]
  rfl

/-- Every call of a run is answered once. -/
theorem Backend.length_run (cs : List Call) (s : σ) : (backend.run cs s).1.length = cs.length := by
  induction cs generalizing s with
  | nil => rfl
  | cons c cs ih => simp [Backend.run, ih]

end Run

/-! ## What an exchange did -/

namespace Exchange

/-- The version of a model that was registered. -/
def registered? (name : String) : Exchange → Option UInt32
  | ⟨.register n .., .ok version⟩ => if n = name then some version else none
  | _ => none

/-- The version of a model that was deleted. -/
def deleted? (name : String) : Exchange → Option UInt32
  | ⟨.delete n version _, .ok _⟩ => if n = name then some version else none
  | _ => none

/-- The description that a version of a model was given after its registration. -/
def described? (name : String) (version : UInt32) : Exchange → Option String
  | ⟨.describe n v description, .ok _⟩ =>
    if n = name ∧ v = version then some description else none
  | _ => none

/-- The version of a model that was made the active one, by its registration or later. -/
def activated? (name : String) : Exchange → Option UInt32
  | ⟨.register n _ active _ _, .ok version⟩ => if n = name ∧ active then some version else none
  | ⟨.activate n version, .ok _⟩ => if n = name then some version else none
  | _ => none

/-- The pipeline that was set under a name. -/
def pipeline? (name : String) : Exchange → Option PipelineRecord
  | ⟨.setPipeline n description, .ok _⟩ => if n = name then some ⟨name, description⟩ else none
  | _ => none

/-- The resource that was added under a name. -/
def resource? (name : String) : Exchange → Option ResourceRecord
  | ⟨.addResource n path description appInfo, .ok _⟩ =>
    if n = name then some ⟨name, path, description, appInfo⟩ else none
  | _ => none

end Exchange

/-! ## What a history says -/

namespace History

/-- How many versions of a model have been registered. -/
def registrations (h : History) (name : String) : Nat :=
  (h.filterMap (Exchange.registered? name)).length

/-- The version of the latest activation of a model. -/
def lastActivated? (h : History) (name : String) : Option UInt32 :=
  (h.filterMap (Exchange.activated? name)).getLast?

/-- The latest description that a version was given after its registration. -/
def lastDescription? (h : History) (name : String) (version : UInt32) : Option String :=
  (h.filterMap (Exchange.described? name version)).getLast?

/-- The latest pipeline under a name. -/
def lastPipeline? (h : History) (name : String) : Option PipelineRecord :=
  (h.filterMap (Exchange.pipeline? name)).getLast?

/-- The resources under a name, in order. -/
def resourcesOf (h : History) (name : String) : List ResourceRecord :=
  h.filterMap (Exchange.resource? name)

/-- A version has been registered, and not deleted since. -/
def Live (h : History) (name : String) (version : UInt32) : Prop :=
  ∃ before e after, h = before ++ e :: after ∧ e.registered? name = some version ∧
    ∀ d ∈ after, d.deleted? name ≠ some version

theorem registrations_concat (h : History) (e : Exchange) (name : String) :
    registrations (h ++ [e]) name =
      registrations h name + if (e.registered? name).isSome then 1 else 0 := by
  cases he : e.registered? name <;> simp [registrations, he]

theorem registrations_le_append (h after : History) (name : String) :
    registrations h name ≤ registrations (h ++ after) name := by
  simp [registrations]

/-- The last value that exchanges hold, when one exchange is added. -/
theorem getLast?_filterMap_concat {α : Type} (f : Exchange → Option α) (h : History)
    (e : Exchange) : ((h ++ [e]).filterMap f).getLast? = (f e).or (h.filterMap f).getLast? := by
  cases he : f e <;> simp [he]

theorem lastActivated?_concat (h : History) (e : Exchange) (name : String) :
    lastActivated? (h ++ [e]) name = (e.activated? name).or (lastActivated? h name) :=
  getLast?_filterMap_concat _ h e

theorem lastDescription?_concat (h : History) (e : Exchange) (name : String) (version : UInt32) :
    lastDescription? (h ++ [e]) name version =
      (e.described? name version).or (lastDescription? h name version) :=
  getLast?_filterMap_concat _ h e

theorem lastPipeline?_concat (h : History) (e : Exchange) (name : String) :
    lastPipeline? (h ++ [e]) name = (e.pipeline? name).or (lastPipeline? h name) :=
  getLast?_filterMap_concat _ h e

theorem resourcesOf_concat (h : History) (e : Exchange) (name : String) :
    resourcesOf (h ++ [e]) name = resourcesOf h name ++ (e.resource? name).toList := by
  cases he : e.resource? name <;> simp [resourcesOf, he]

end History
end ModelRegistry
