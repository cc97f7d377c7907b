/-!
# Draining

Before the daemon stops, calls that are under way are allowed to finish and no new ones are
admitted.  A `Drain` counts the calls under way.  Admitting a call is two accesses to what all
callers share: whether the drain has begun is looked at, and then the count is raised; the
operations here take the two together.
-/

namespace ModelRegistry

/-- How many calls are under way, and whether new ones are still admitted. -/
structure Drain where
  draining : Bool
  /-- How many guards are alive.  Each is held by a connection that a thread serves, and there are
  always fewer than 2 ^ 32 of these; so this number stays in the range of a counter of 32 bits,
  which it stands for, and never wraps. -/
  inFlight : Nat
  deriving DecidableEq, Repr

/-- How a drain ends. -/
inductive DrainResult
  | complete
  | timeout (remaining : Nat)
  deriving DecidableEq, Repr

namespace Drain

def new : Drain := ⟨false, 0⟩

/-- Count one more call. -/
def enter (d : Drain) : Drain := { d with inFlight := d.inFlight + 1 }

/-- Admit a call, unless the drain has begun. -/
def track? (d : Drain) : Option Drain := if d.draining then none else some d.enter

/-- One call has finished. -/
def leave (d : Drain) : Drain := { d with inFlight := d.inFlight - 1 }

/-- Admit no more calls. -/
def begin (d : Drain) : Drain := { d with draining := true }

/-- How the drain stands when nothing more is waited for. -/
def result (d : Drain) : DrainResult :=
  if d.inFlight = 0 then .complete else .timeout d.inFlight

end Drain
end ModelRegistry
