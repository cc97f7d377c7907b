import ModelRegistry.IoFault
import ModelRegistry.Text.Bytes

/-!
# Frames

A stream carries frames: four bytes of length, the most significant first, and then a body of that
many bytes.  `Frame.encode` writes one.  `Frame.cut` looks at a stream that ends and says what is at
its front, and `Frame.split` goes on like this to the end.
-/

namespace ModelRegistry
namespace Frame

/-- How many bytes the length takes. -/
def headerSize : Nat := 4

/-- The length of a body, the most significant byte first. -/
def header (size : Nat) : Bytes :=
  [UInt8.ofNat (size / 0x1000000), UInt8.ofNat (size / 0x10000), UInt8.ofNat (size / 0x100),
    UInt8.ofNat size]

/-- The number that bytes stand for, the most significant first. -/
def number (bs : Bytes) : Nat := bs.foldl (fun n b => n * 256 + b.toNat) 0

/-- Write one frame.  A body over the limit, or of a size that four bytes cannot hold, is refused.
-/
def encode (limit : Nat) (body : Bytes) : Except IoFault Bytes :=
  if limit < body.length ∨ UInt32.size ≤ body.length then .error (.frameTooLarge body.length limit)
  else .ok (header body.length ++ body)

/-- How many bytes are still missing from the frame at the front of a stream. -/
def missing (s : Bytes) : Nat :=
  if s.length < headerSize then headerSize - s.length
  else headerSize + number (s.take headerSize) - s.length

/-- What is at the front of a stream that ends. -/
inductive Cut
  | whole (body rest : Bytes)
  /-- The length is over the limit; the body is still in the stream. -/
  | oversized (size : Nat) (rest : Bytes)
  | shortHeader
  | shortBody
  deriving DecidableEq, Repr

/-- Look at the front of a stream, no further than the first frame goes. -/
def cut (limit : Nat) (s : Bytes) : Cut :=
  let front := s.take headerSize
  if front.length < headerSize then .shortHeader
  else
    let size := number front
    let rest := s.drop headerSize
    if limit < size then .oversized size rest
    else
      let body := rest.take size
      if body.length < size then .shortBody else .whole body (rest.drop size)

/-- What is left of a stream behind what was looked at. -/
def Cut.rest : Cut → Bytes
  | whole _ rest | oversized _ rest => rest
  | shortHeader | shortBody => []

theorem length_take_lt_iff {n : Nat} {s : Bytes} : (s.take n).length < n ↔ s.length < n := by
  rw [List.length_take]
  omega

theorem cut_whole_lt {limit : Nat} {s body rest : Bytes} (h : cut limit s = .whole body rest) :
    rest.length < s.length := by
  simp only [cut] at h
  split at h
  · cases h
  · rename_i hs
    split at h
    · cases h
    · split at h
      · cases h
      · cases h
        simp only [List.length_take, List.length_drop, headerSize] at *
        omega

/-- The frames at the front of a stream behind those in `seen`, which is reversed, and what ended
the run of frames. -/
def splitFrom (limit : Nat) (seen : List Bytes) (s : Bytes) : List Bytes × Cut :=
  match h : cut limit s with
  | .whole body rest =>
    have : rest.length < s.length := cut_whole_lt h
    splitFrom limit (body :: seen) rest
  | .oversized size rest => (seen.reverse, .oversized size rest)
  | .shortHeader => (seen.reverse, .shortHeader)
  | .shortBody => (seen.reverse, .shortBody)
  termination_by s.length

/-- The frames at the front of a stream, and what ended the run of frames. -/
def split (limit : Nat) (s : Bytes) : List Bytes × Cut := splitFrom limit [] s

theorem splitFrom_eq (limit : Nat) (seen : List Bytes) (s : Bytes) :
    splitFrom limit seen s = (seen.reverse ++ (split limit s).1, (split limit s).2) := by
  unfold split
  induction hn : s.length using Nat.strongRecOn generalizing seen s with
  | ind n ih =>
    rw [splitFrom, splitFrom.eq_def limit []]
    split
    · next body rest h =>
      have hlt := cut_whole_lt h
      rw [ih rest.length (by omega) (body :: seen) rest rfl,
        ih rest.length (by omega) [body] rest rfl]
      simp
    all_goals simp

/-- A stream with a whole frame at its front is split behind that frame. -/
theorem split_of_whole {limit : Nat} {s body rest : Bytes} (h : cut limit s = .whole body rest) :
    split limit s = (body :: (split limit rest).1, (split limit rest).2) := by
  have : split limit s = splitFrom limit [body] rest := by
    rw [split, splitFrom]
    split <;> simp_all
  rw [this, splitFrom_eq]
  rfl

end Frame
end ModelRegistry
