import ModelRegistry.Log.Event

/-!
# Actions

An `Action` changes a state and reports events on the way.  Running two actions one after the other
threads the state and puts the events of the first before those of the second; nothing else can
happen, which is what the monad laws here say.
-/

namespace ModelRegistry

/-- What an action comes to: its value, the state after it and the events it reported. -/
structure Outcome (σ α : Type) where
  value : α
  state : σ
  events : List Event

/-- A step on a state that reports events. -/
def Action (σ α : Type) := σ → Outcome σ α

namespace Action

variable {σ τ α β : Type}

def run (a : Action σ α) (s : σ) : Outcome σ α := a s

/-- Report one event. -/
def report (e : Event) : Action σ Unit := fun s => ⟨(), s, [e]⟩

/-- Change the state without a report. -/
def step (f : σ → α × σ) : Action σ α := fun s => ⟨(f s).1, (f s).2, []⟩

/-- Look at the state. -/
def get : Action σ σ := fun s => ⟨s, s, []⟩

instance : Monad (Action σ) where
  pure v := fun s => ⟨v, s, []⟩
  bind a f := fun s =>
    let first := a s
    let second := f first.value first.state
    ⟨second.value, second.state, first.events ++ second.events⟩

theorem run_pure (v : α) (s : σ) : (pure v : Action σ α).run s = ⟨v, s, []⟩ := rfl

theorem run_bind (a : Action σ α) (f : α → Action σ β) (s : σ) :
    (a >>= f).run s =
      ⟨((f (a.run s).value).run (a.run s).state).value,
        ((f (a.run s).value).run (a.run s).state).state,
        (a.run s).events ++ ((f (a.run s).value).run (a.run s).state).events⟩ := rfl

instance : LawfulMonad (Action σ) :=
  LawfulMonad.mk' (Action σ)
    (fun a => funext fun s => congrArg (Outcome.mk (a s).value (a s).state) (List.append_nil _))
    (fun v f => by funext s; simp [bind, pure])
    (fun a f g => by funext s; simp [bind, List.append_assoc])

/-- Run an action on one part of a larger state. -/
def within (get : τ → σ) (set : σ → τ → τ) (a : Action σ α) : Action τ α := fun t =>
  let o := a (get t)
  ⟨o.value, set o.state t, o.events⟩

end Action
end ModelRegistry
