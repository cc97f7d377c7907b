/-!
# The limit on connections

A `Limiter` counts open connections.  It admits at least one, whatever limit it is given, and never
more than its limit.
-/

namespace ModelRegistry

/-- How many connections are open, of how many. -/
structure Limiter where
  opened : Nat
  limit : Nat
  opened_le_limit : opened ≤ limit

namespace Limiter

/-- A limiter without connections. -/
def new (limit : Nat) : Limiter := ⟨0, max limit 1, Nat.zero_le _⟩

/-- One more connection, unless the limit is reached. -/
def acquire? (l : Limiter) : Option Limiter :=
  if h : l.opened < l.limit then some { l with opened := l.opened + 1, opened_le_limit := h }
  else none

/-- One connection less. -/
def release (l : Limiter) : Limiter :=
  { l with
    opened := l.opened - 1
    opened_le_limit := Nat.le_trans (Nat.sub_le _ _) l.opened_le_limit }

end Limiter
end ModelRegistry
