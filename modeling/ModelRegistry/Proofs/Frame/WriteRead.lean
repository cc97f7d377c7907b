import ModelRegistry.Proofs.Frame.Agreement
import ModelRegistry.Proofs.Frame.Truncation

/-!
# What is written comes back

Bodies are written one after another, and those that there is no frame for are refused in between.
The buffer then holds the frames of the others (`Writer.writeAll_eq`), so these are what is read
from it.  Of a buffer that is cut off, those are read whose frames are complete (`Whole`).
-/

namespace ModelRegistry
namespace Frame

/-! ## What is in the buffer -/

/-- The bodies that are not refused. -/
def accepted (limit : Nat) (bodies : List Bytes) : List Bytes :=
  bodies.filter fun body => Fits limit body

theorem Fits.mono {limit limit' : Nat} {body : Bytes} (h : Fits limit body)
    (hlimit : limit ≤ limit') : Fits limit' body := ⟨Nat.le_trans h.1 hlimit, h.2⟩

theorem fits_of_mem_accepted {limit : Nat} {bodies : List Bytes} {body : Bytes}
    (h : body ∈ accepted limit bodies) : Fits limit body :=
  of_decide_eq_true (List.mem_filter.1 h).2

theorem accepted_cons_of_fits {limit : Nat} {body : Bytes} (h : Fits limit body)
    (bodies : List Bytes) : accepted limit (body :: bodies) = body :: accepted limit bodies :=
  List.filter_cons_of_pos (decide_eq_true h)

theorem accepted_cons_of_not_fits {limit : Nat} {body : Bytes} (h : ¬ Fits limit body)
    (bodies : List Bytes) : accepted limit (body :: bodies) = accepted limit bodies := by
  apply List.filter_cons_of_neg
  rwa [decide_eq_true_iff]

/-- What is said to the writer of a body. -/
def verdict (limit : Nat) (body : Bytes) : Except IoFault Unit :=
  if Fits limit body then .ok () else .error (.frameTooLarge body.length limit)

theorem Writer.writeAll_eq {τ : Type} (w : Writer τ) (limit : Nat) (bodies : List Bytes) (t : τ) :
    (w.writeAll limit bodies t).1 = bodies.map (verdict limit) ∧
      w.bytes (w.writeAll limit bodies t).2 = w.bytes t ++ stream (accepted limit bodies) := by
  induction bodies generalizing t with
  | nil => exact ⟨rfl, (List.append_nil _).symm⟩
  | cons body bodies ih =>
    obtain ⟨hresults, hbytes⟩ := ih (w.write limit body t).2
    rw [w.writeAll_cons, hresults, hbytes, List.map_cons, verdict]
    by_cases h : Fits limit body
    · rw [accepted_cons_of_fits h, stream_cons, w.bytes_write_of_fits h, List.append_assoc,
        w.write_of_fits h, if_pos h]
      exact ⟨rfl, rfl⟩
    · rw [accepted_cons_of_not_fits h, w.write_of_not_fits h, if_neg h]
      exact ⟨rfl, rfl⟩

/-! ## What is read from it -/

/-- The bodies whose frames lie wholly in the first `place` bytes of a stream: those of a front of
it, and a frame belongs to this front exactly if it ends by then. -/
structure Whole (bodies : List Bytes) (place : Nat) (read : List Bytes) : Prop where
  front : read <+: bodies
  lt_iff : ∀ i < bodies.length, i < read.length ↔ (stream (bodies.take (i + 1))).length ≤ place

theorem whole_of_le {bodies : List Bytes} {place : Nat} (h : (stream bodies).length ≤ place) :
    Whole bodies place bodies where
  front := List.prefix_refl _
  lt_iff i hi := by
    have htake : bodies.take (i + 1) <+: bodies := List.take_prefix (i + 1) bodies
    exact iff_of_true hi (Nat.le_trans (length_stream_le htake) h)

/-- The frames before the one that a place lies in are those that are complete there. -/
theorem Within.whole {bodies before : List Bytes} {body : Bytes} {place offset : Nat}
    (h : Within bodies place before body offset) : Whole bodies place before where
  front := (List.prefix_append before [body]).trans h.front
  lt_iff i hi := by
    obtain ⟨after, rfl⟩ := h.front
    have hplace := h.place_eq
    have hoffset := h.offset_lt
    constructor
    · intro hlt
      have htake : (before ++ [body] ++ after).take (i + 1) <+: before := by
        rw [List.append_assoc, List.take_append_of_le_length hlt]
        exact List.take_prefix (i + 1) before
      exact Nat.le_trans (length_stream_le htake) (by omega)
    · intro hle
      by_contra hge
      have htake : before ++ [body] <+: (before ++ [body] ++ after).take (i + 1) := by
        refine List.prefix_take_iff.2 ⟨List.prefix_append _ _, ?_⟩
        rw [List.length_append, List.length_singleton]
        omega
      have hlength := length_stream_le htake
      rw [stream_append, List.length_append, stream_cons, stream_nil, List.append_nil] at hlength
      omega

/-- Of a stream that is cut off anywhere, the bodies of the complete frames are read. -/
theorem whole_split_take {limit : Nat} {bodies : List Bytes}
    (hfits : ∀ body ∈ bodies, Fits limit body) (place : Nat) :
    Whole bodies place (split limit ((stream bodies).take place)).1 := by
  by_cases hplace : place < (stream bodies).length
  · obtain ⟨before, body, offset, hwithin⟩ := exists_within hplace
    rw [hwithin.split_take hfits]
    exact hwithin.whole
  · have hle := Nat.le_of_not_lt hplace
    rw [List.take_of_length_le hle, split_stream_end hfits]
    exact whole_of_le hle

/-- **What is written comes back.**  Bodies are written under one limit and read under another that
is not lower.  Behind what is in a buffer the frames of the accepted bodies are put, each a length
of four bytes and the body, and a body that is refused leaves the buffer as it is, whether the
writer blocks or waits.  Either reader gets the accepted bodies back, in order and unchanged.  And
of what is written, cut off at any byte, either reader gets the bodies of the frames that are
complete. -/
theorem written_comes_back {writing reading : Nat} (hlimit : writing ≤ reading)
    (bodies : List Bytes) :
    (∀ buffer, appending.writeAll writing bodies buffer =
      (bodies.map (verdict writing), buffer ++ stream (accepted writing bodies))) ∧
    (∀ sink, (offering.writeAll writing bodies sink).1 = bodies.map (verdict writing) ∧
      (offering.writeAll writing bodies sink).2.taken =
        sink.taken ++ stream (accepted writing bodies)) ∧
    (∀ body, Fits writing body → number (header body.length) = body.length) ∧
    (∀ body, ¬ Fits writing body →
      (∀ buffer, appending.write writing body buffer =
        (.error (.frameTooLarge body.length writing), buffer)) ∧
      ∀ sink, offering.write writing body sink =
        (.error (.frameTooLarge body.length writing), sink)) ∧
    (demanding reading).all (stream (accepted writing bodies)) =
      (accepted writing bodies, .unexpectedEnd) ∧
    (∀ pieces : List Bytes, pieces.flatten = stream (accepted writing bodies) →
      (waiting reading).all pieces = (accepted writing bodies, none)) ∧
    ∀ place,
      let front := (stream (accepted writing bodies)).take place
      Whole (accepted writing bodies) place ((demanding reading).all front).1 ∧
        ∀ pieces : List Bytes, pieces.flatten = front →
          Whole (accepted writing bodies) place ((waiting reading).all pieces).1 := by
  have hfits : ∀ body ∈ accepted writing bodies, Fits reading body :=
    fun body hbody => (fits_of_mem_accepted hbody).mono hlimit
  refine ⟨fun buffer => ?_, fun sink => offering.writeAll_eq writing bodies sink,
    fun body h => number_header h.2,
    fun body h => ⟨fun buffer => appending.write_of_not_fits h buffer,
      fun sink => offering.write_of_not_fits h sink⟩, ?_, fun pieces hpieces => ?_,
    fun place => ⟨?_, fun pieces hpieces => ?_⟩⟩
  · obtain ⟨hresults, hbytes⟩ := appending.writeAll_eq writing bodies buffer
    exact Prod.ext hresults hbytes
  · rw [demanding_all_eq, split_stream_end hfits]
    rfl
  · rw [waiting_all_eq, hpieces, split_stream_end hfits]
    rfl
  · rw [demanding_all_eq]
    exact whole_split_take hfits place
  · rw [waiting_all_eq, hpieces]
    exact whole_split_take hfits place

/-- Three bodies are written, the second over the limit.  What is written arrives in pieces. -/
theorem written_comes_back_without_second :
    2 ≤ 3 ∧
      (appending.writeAll 2 [[7], [1, 2, 3], []] []).2 = [0, 0, 0, 1, 7, 0, 0, 0, 0] ∧
      ((waiting 3).all [[0, 0, 0], [1, 7, 0, 0, 0, 0]]) = ([[7], []], none) := by
  obtain ⟨hbuffer, -, -, -, -, hread, -⟩ := written_comes_back (show 2 ≤ 3 by decide)
    [[7], [1, 2, 3], []]
  exact ⟨by decide, by rw [hbuffer]; rfl, hread [[0, 0, 0], [1, 7, 0, 0, 0, 0]] rfl⟩

end Frame
end ModelRegistry
