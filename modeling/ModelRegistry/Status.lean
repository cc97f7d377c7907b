/-!
# Status codes and refusals

Every answer of the registry carries a signed status, zero for success.  A `Refusal` is an answer
without a result: its code travels to the caller as it is, and nothing forces the code to be
non-zero.
-/

namespace ModelRegistry

/-- A signed code of 32 bits; zero means success. -/
abbrev Status := Int32

namespace Status

def ok : Status := 0
def notFound : Status := -2
def io : Status := -5
def busy : Status := -16
def invalidParameter : Status := -22
def unavailable : Status := -38

/-- The code in decimal. -/
def text (s : Status) : String := toString s.toInt

end Status

/-- Why a call has no result. -/
structure Refusal where
  code : Status
  message : String
  deriving DecidableEq, Repr

namespace Refusal

def invalidParameter (message : String) : Refusal := ⟨.invalidParameter, message⟩

def notFound (message : String) : Refusal := ⟨.notFound, message⟩

/-- The refusal in words. -/
def report (r : Refusal) : String := "backend status " ++ r.code.text ++ ": " ++ r.message

end Refusal
end ModelRegistry
