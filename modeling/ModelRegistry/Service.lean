import ModelRegistry.Table
import ModelRegistry.Wire

/-!
# Services

A `Service` is one interface with the handlers attached to its events.  At most one handler is
attached to an event, and handlers are numbered from one in the order in which they were attached.
A handler works on the state of the registry behind it; a call whose event has no handler never gets
that far.
-/

namespace ModelRegistry

/-- Why the bus or a service refuses something. -/
inductive BusError
  | unavailable (interface : String)
  | alreadyAttached (event : String)
  | pathInUse (objectPath : String)
  | notPublished (objectPath : String)
  deriving DecidableEq, Repr

namespace BusError

def message : BusError → String
  | unavailable interface => "Service object for '" ++ interface ++ "' is unavailable"
  | alreadyAttached event => "Handler already attached to event '" ++ event ++ "'"
  | pathInUse objectPath => "Object path '" ++ objectPath ++ "' is already exported"
  | notPublished objectPath => "Object path '" ++ objectPath ++ "' is not exported"

end BusError

/-- What answers a call. -/
abbrev Handler (σ : Type) := Call → σ → Reply × σ

/-- A handler with its number. -/
structure Attached (σ : Type) where
  id : Nat
  handler : Handler σ

/-- An interface with its handlers. -/
structure Service (σ : Type) where
  interface : String
  handlers : Table (Attached σ)
  /-- The number of the next handler. -/
  nextId : Nat

namespace Service

variable {σ : Type}

/-- An interface without handlers. -/
def new (interface : String) : Service σ := ⟨interface, .empty, 1⟩

def isAttached (s : Service σ) (event : String) : Bool := s.handlers.contains event

def handlerCount (s : Service σ) : Nat := s.handlers.size

/-- Attach a handler to an event that has none. -/
def attach (s : Service σ) (event : String) (handler : Handler σ) :
    Except BusError Nat × Service σ :=
  if s.isAttached event then (.error (.alreadyAttached event), s)
  else
    (.ok s.nextId,
      { s with handlers := s.handlers.set event ⟨s.nextId, handler⟩, nextId := s.nextId + 1 })

/-- Detach the handler of an event, if there is one. -/
def detach (s : Service σ) (event : String) : Option Nat × Service σ :=
  ((s.handlers.find? event).map (·.id), { s with handlers := s.handlers.erase event })

/-- Answer a call with the handler of its event. -/
def invoke (s : Service σ) (call : Call) (state : σ) : Reply × σ :=
  match s.handlers.find? call.event with
  | some a => a.handler call state
  | none =>
    (.error .unavailable ("no handler for '" ++ call.event ++ "' on " ++ s.interface), state)

end Service
end ModelRegistry
