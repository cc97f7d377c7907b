import ModelRegistry.Lifecycle

/-!
# Keeping a journal

What a hook did cannot be seen in the context that it leaves: another hook may have undone it.  So a
journal is kept beside the bus, in a context whose bus state is `Noted`.  An action on a plain
context works in such a context as before (`Context.aside`), out of reach of the notes, and
`Context.note` adds to them.

`Module.journaled` is a module that does what it did and writes down which of its hooks were run.
-/

namespace ModelRegistry

/-- A state with notes on what has been done, the first one first. -/
structure Noted (ε β : Type) where
  state : β
  notes : List ε

namespace Context

variable {ε β σ α : Type}

/-- The same context, with notes beside its bus. -/
def beside (c : Context β σ) (notes : List ε) : Context (Noted ε β) σ :=
  { c with bus := ⟨c.bus, notes⟩ }

/-- The same context without the notes. -/
def plain (c : Context (Noted ε β) σ) : Context β σ := { c with bus := c.bus.state }

/-- Work on a context with notes as on a plain one. -/
def aside (a : Action (Context β σ) α) : Action (Context (Noted ε β) σ) α :=
  Action.within plain (fun c noted => c.beside noted.bus.notes) a

/-- Add a note. -/
def note (e : ε) : Action (Context (Noted ε β) σ) Unit :=
  onBus fun b => ((), { b with notes := b.notes ++ [e] })

theorem run_aside (a : Action (Context β σ) α) (c : Context β σ) (notes : List ε) :
    (aside a).run (c.beside notes) =
      ⟨(a.run c).value, (a.run c).state.beside notes, (a.run c).events⟩ := rfl

theorem run_note (e : ε) (c : Context β σ) (notes : List ε) :
    (note e).run (c.beside notes) = ⟨(), c.beside (notes ++ [e]), []⟩ := rfl

/-- Notes beside the bus make no difference to a call. -/
theorem dispatch_beside (m : Message) (c : Context β σ) (notes : List ε) :
    (c.beside notes).dispatch m = ((c.dispatch m).1, (c.dispatch m).2.beside notes) := by
  have hservice : (c.beside notes).service? m.objectPath = c.service? m.objectPath := rfl
  rw [dispatch, dispatch, hservice]
  cases c.service? m.objectPath <;> rfl

end Context

/-! ## Hooks -/

/-- A hook that was run, and for a probe what came of it. -/
inductive HookUse
  | probeFailed
  | probed
  | init
  | exit
  deriving DecidableEq, Repr

/-- The use that a probe was. -/
def HookUse.ofProbe : Except ModuleError Unit → HookUse
  | .ok _ => .probed
  | .error _ => .probeFailed

/-- A note on a hook: the number of its module in the order of registration, and the use. -/
structure HookNote where
  entry : Nat
  hook : HookUse
  deriving DecidableEq, Repr

/-- The hooks of one module that were run, in order. -/
def HookNote.hooksOf (entry : Nat) (notes : List HookNote) : List HookUse :=
  notes.filterMap fun n => if n.entry = entry then some n.hook else none

namespace Module

variable {β σ : Type}

/-- The same module, which also writes down the hooks that are run. -/
def journaled (m : Module β σ) (entry : Nat) : Module (Noted HookNote β) σ where
  name := m.name
  probe := do
    let result ← Context.aside m.probe
    Context.note ⟨entry, .ofProbe result⟩
    pure result
  init := do
    Context.aside m.init
    Context.note ⟨entry, .init⟩
  exit := do
    Context.aside m.exit
    Context.note ⟨entry, .exit⟩

variable (m : Module β σ) (entry : Nat) (c : Context β σ) (notes : List HookNote)

theorem journaled_probe : (m.journaled entry).probe.run (c.beside notes) =
    ⟨(m.probe.run c).value,
      (m.probe.run c).state.beside (notes ++ [⟨entry, .ofProbe (m.probe.run c).value⟩]),
      (m.probe.run c).events⟩ := by
  simp only [journaled, Action.run_bind, Context.run_aside, Context.run_note, Action.run_pure,
    List.append_nil]

theorem journaled_init : (m.journaled entry).init.run (c.beside notes) =
    ⟨(), (m.init.run c).state.beside (notes ++ [⟨entry, .init⟩]), (m.init.run c).events⟩ := by
  simp only [journaled, Action.run_bind, Context.run_aside, Context.run_note, List.append_nil]

theorem journaled_exit : (m.journaled entry).exit.run (c.beside notes) =
    ⟨(), (m.exit.run c).state.beside (notes ++ [⟨entry, .exit⟩]), (m.exit.run c).events⟩ := by
  simp only [journaled, Action.run_bind, Context.run_aside, Context.run_note, List.append_nil]

end Module

/-- The same modules at the same points, which also write down the hooks that are run.  They are
numbered from `first` on. -/
def Modules.journaled {β σ : Type} (first : Nat) :
    Modules β σ → Modules (Noted HookNote β) σ
  | [] => []
  | e :: es => ⟨e.hooks.journaled first, e.state⟩ :: journaled (first + 1) es

end ModelRegistry
