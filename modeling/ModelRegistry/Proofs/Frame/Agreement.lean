import Mathlib.Logic.Function.Iterate
import ModelRegistry.Frame.Transport
import ModelRegistry.Proofs.Wire.Frames

/-!
# Two ways to the same frames

The side that waits and the side that blocks talk to each other, so they must see the same frames in
the same bytes.  Both writers put the bytes that `encode` makes of a body, or put none and give the
fault that it gives (`Writer.did_write`).  Both readers look at the front of the stream alone
(`demand_eq`, `next_eq`), and from four bytes on they find the same there (`agree`).  As a read
leaves the same bytes either way (`bytes_next`), this goes on along the whole stream.
-/

namespace ModelRegistry
namespace Frame

/-! ## Writing -/

theorem checkedHeader_of_fits {limit : Nat} {body : Bytes} (h : Fits limit body) :
    checkedHeader limit body.length = .ok (header body.length) := by
  rw [checkedHeader, if_neg (Nat.not_lt.2 h.1), if_neg (Nat.not_le.2 h.2)]

theorem checkedHeader_of_not_fits {limit : Nat} {body : Bytes} (h : ¬ Fits limit body) :
    checkedHeader limit body.length = .error (.frameTooLarge body.length limit) := by
  unfold checkedHeader
  split
  · rfl
  · next hlimit =>
    refine if_pos (Nat.le_of_not_lt fun hsize => ?_)
    exact h ⟨Nat.le_of_not_lt hlimit, hsize⟩

theorem encode_of_fits {limit : Nat} {body : Bytes} (h : Fits limit body) :
    encode limit body = .ok (framed body) := encode_of_lt h.2 h.1

theorem encode_of_not_fits {limit : Nat} {body : Bytes} (h : ¬ Fits limit body) :
    encode limit body = .error (.frameTooLarge body.length limit) := by
  refine if_pos ?_
  rw [Fits, not_and_or, Nat.not_le, Nat.not_lt] at h
  exact h

namespace Writer

variable {τ : Type} (w : Writer τ) {limit : Nat} {body : Bytes}

theorem write_of_fits (h : Fits limit body) (t : τ) :
    w.write limit body t = (.ok (), w.put body (w.put (header body.length) t)) := by
  rw [write, checkedHeader_of_fits h]

theorem write_of_not_fits (h : ¬ Fits limit body) (t : τ) :
    w.write limit body t = (.error (.frameTooLarge body.length limit), t) := by
  rw [write, checkedHeader_of_not_fits h]

theorem bytes_write_of_fits (h : Fits limit body) (t : τ) :
    w.bytes (w.write limit body t).2 = w.bytes t ++ framed body := by
  rw [w.write_of_fits h, w.bytes_put, w.bytes_put, List.append_assoc, framed]

/-- What has come of a write: bytes behind those that were there, or a fault and nothing else. -/
def Did (outcome : Except IoFault Bytes) (t : τ) (written : Except IoFault Unit × τ) : Prop :=
  match outcome with
  | .ok more => written.1 = .ok () ∧ w.bytes written.2 = w.bytes t ++ more
  | .error fault => written = (.error fault, t)

/-- A frame is written as one whole, or not at all. -/
theorem did_write (limit : Nat) (body : Bytes) (t : τ) :
    w.Did (encode limit body) t (w.write limit body t) := by
  by_cases h : Fits limit body
  · rw [encode_of_fits h]
    exact ⟨by rw [w.write_of_fits h], w.bytes_write_of_fits h t⟩
  · rw [encode_of_not_fits h]
    exact w.write_of_not_fits h t

end Writer

/-! ## Reading -/

/-- What is found at the front `s` of a stream, and left of it, by waiting and by blocking. -/
inductive Agree (limit : Nat) (s : Bytes) :
    Except IoFault (Option Bytes) × Bytes → Except IoFault Bytes × Bytes → Prop
  | frame {body rest : Bytes} (hfront : s = framed body ++ rest) (hlimit : body.length ≤ limit) :
    Agree limit s (.ok (some body), rest) (.ok body, rest)
  /-- The length is used up and the body is left. -/
  | tooLarge {size : Nat} (hsize : size = number (s.take headerSize)) (hlimit : limit < size) :
    Agree limit s (.error (.frameTooLarge size limit), s.drop headerSize)
      (.error (.frameTooLarge size limit), s.drop headerSize)
  | cutShort (hlimit : number (s.take headerSize) ≤ limit)
    (hshort : s.length < headerSize + number (s.take headerSize)) :
    Agree limit s (.error .unexpectedEnd, []) (.error .unexpectedEnd, [])

/-- Where there is a length to read, it makes no difference whether to wait or to block. -/
theorem agree {limit : Nat} {pieces : List Bytes} (h : headerSize ≤ pieces.flatten.length) :
    Agree limit pieces.flatten ((next limit pieces).1, (next limit pieces).2.flatten)
      (demand limit pieces.flatten) := by
  rw [next_eq, demand_eq]
  cases hcut : cut limit pieces.flatten with
  | whole body rest =>
    obtain ⟨hfront, hlimit⟩ := eq_framed_of_cut hcut
    exact .frame hfront hlimit
  | oversized size rest =>
    obtain ⟨-, hlimit, hsize, rfl⟩ := eq_of_cut_oversized hcut
    exact .tooLarge hsize hlimit
  | shortHeader => exact absurd (cut_eq_shortHeader_iff.1 hcut) (Nat.not_lt.2 h)
  | shortBody =>
    obtain ⟨-, hlimit, hshort⟩ := cut_eq_shortBody_iff.1 hcut
    exact .cutShort hlimit hshort

/-- A read leaves the same bytes either way, also where there is no length to read. -/
theorem bytes_next (limit : Nat) (pieces : List Bytes) :
    (next limit pieces).2.flatten = (demand limit pieces.flatten).2 := by
  have hnext := congrArg Prod.snd (next_eq limit pieces)
  rw [demand_eq]
  cases hcut : cut limit pieces.flatten with
  | whole | oversized | shortHeader | shortBody =>
    rw [hcut] at hnext
    exact hnext

/-- **Waiting and blocking agree.**  Take any stream, in any pieces, and read it any number of
times, whatever the reads bring.  The same bytes are left either way, and as long as these hold a
length, the next read brings the same either way: a frame; or the fault that its length is over the
limit, with the length alone used up; or the fault that the stream ends before its body.  And
whatever has been written before, a body is written either way as the same bytes or is refused with
the same fault. -/
theorem ways_agree (limit : Nat) :
    (∀ (pieces : List Bytes) (n : Nat),
      let waited := (fun pieces => (next limit pieces).2)^[n] pieces
      let demanded := (fun s => (demand limit s).2)^[n] pieces.flatten
      waited.flatten = demanded ∧
        (headerSize ≤ demanded.length →
          Agree limit demanded ((next limit waited).1, (next limit waited).2.flatten)
            (demand limit demanded))) ∧
    ∀ (body buffer : Bytes) (sink : Sink),
      appending.Did (encode limit body) buffer (appending.write limit body buffer) ∧
        offering.Did (encode limit body) sink (offering.write limit body sink) := by
  refine ⟨fun pieces n => ?_, fun body buffer sink => ?_⟩
  · intro waited demanded
    have hread : Function.Semiconj List.flatten (fun pieces => (next limit pieces).2)
        fun s => (demand limit s).2 := bytes_next limit
    have hsame : waited.flatten = demanded := hread.iterate_right n pieces
    refine ⟨hsame, ?_⟩
    rw [← hsame]
    exact agree
  · exact ⟨appending.did_write limit body buffer, offering.did_write limit body sink⟩

/-- A length over the limit arrives in two pieces and is used up; behind it either way finds a
frame. -/
theorem ways_agree_behind_oversized :
    let pieces : List Bytes := [[0, 0], [0, 5, 0, 0], [], [0, 1, 7]]
    let waited := (next 4 pieces).2
    headerSize ≤ waited.flatten.length ∧
      Agree 4 waited.flatten ((next 4 waited).1, (next 4 waited).2.flatten)
        (demand 4 waited.flatten) ∧
      (demand 4 waited.flatten).1 = .ok [7] := by
  have hwaited := (ways_agree 4).1 [[0, 0], [0, 5, 0, 0], [], [0, 1, 7]] 1
  exact ⟨by decide, hwaited.2 (by decide), rfl⟩

end Frame
end ModelRegistry
