import ModelRegistry.Service

/-!
# The bus

The bus hands out service objects and publishes them at object paths.  `Bus` is any machine that
does this; what it answers may depend on all that went before.  `LocalBus` is the one inside the
process: it gives out a fresh service object every time and remembers which paths are taken.
-/

namespace ModelRegistry

/-- A machine with states of type `β` that hands out and publishes services. -/
structure Bus (β σ : Type) where
  /-- Make the bus ready; once is enough. -/
  boot : β → β
  /-- Make the service object of an interface. -/
  acquire : String → β → Except BusError (Service σ) × β
  /-- Publish a service at an object path. -/
  publish : Service σ → String → β → Except BusError Unit × β
  /-- Withdraw what is published at an object path. -/
  withdraw : String → β → Except BusError Unit × β

/-- The state of the bus inside the process. -/
structure LocalBus where
  booted : Bool
  /-- The object paths that are taken. -/
  published : List String
  deriving DecidableEq, Repr

namespace LocalBus

def new : LocalBus := ⟨false, []⟩

def isPublished (b : LocalBus) (objectPath : String) : Bool := b.published.contains objectPath

def boot (b : LocalBus) : LocalBus := { b with booted := true }

def publish (b : LocalBus) (objectPath : String) : Except BusError Unit × LocalBus :=
  if b.isPublished objectPath then (.error (.pathInUse objectPath), b)
  else (.ok (), { b with published := b.published ++ [objectPath] })

def withdraw (b : LocalBus) (objectPath : String) : Except BusError Unit × LocalBus :=
  if b.isPublished objectPath then
    (.ok (), { b with published := b.published.filter (· ≠ objectPath) })
  else (.error (.notPublished objectPath), b)

/-- The bus inside the process as a bus. -/
def bus {σ : Type} : Bus LocalBus σ where
  boot := boot
  acquire interface b := (.ok (Service.new interface), b)
  publish _ objectPath b := b.publish objectPath
  withdraw objectPath b := b.withdraw objectPath

end LocalBus
end ModelRegistry
