import ModelRegistry.Frame.Transport
import ModelRegistry.Proofs.Wire.Frames

/-!
# Streams that are cut off

A connection can be lost at any byte.  A place in a stream of frames lies in one of the frames
(`exists_within`), and of a stream that ends at this place the bodies of the frames before it are
read, and nothing of the frame that is cut (`Within.split_take`).

What is reported then depends on the place.  Blocking always meets a fault.  Waiting meets one only
inside a body: inside a header it reports the end of the stream as if no frame had begun, which is
against what the end of a stream is to mean (`ReportsTruncation`).
-/

namespace ModelRegistry
namespace Frame

/-! ## Where a stream is cut -/

/-- A place in the stream of some bodies, so many bytes into the frame of one of them. -/
structure Within (bodies : List Bytes) (place : Nat) (before : List Bytes) (body : Bytes)
    (offset : Nat) : Prop where
  front : before ++ [body] <+: bodies
  offset_lt : offset < (framed body).length
  place_eq : place = (stream before).length + offset

/-- Every place before the end of a stream lies in one of the frames. -/
theorem exists_within {bodies : List Bytes} {place : Nat} (h : place < (stream bodies).length) :
    ∃ before body offset, Within bodies place before body offset := by
  induction bodies generalizing place with
  | nil => exact absurd h (Nat.not_lt_zero place)
  | cons first bodies ih =>
    by_cases hfirst : place < (framed first).length
    · exact ⟨[], first, place, ⟨bodies, rfl⟩, hfirst, (Nat.zero_add place).symm⟩
    · rw [stream_cons, List.length_append] at h
      obtain ⟨before, body, offset, hfront, hoffset, hplace⟩ :=
        @ih (place - (framed first).length) (by omega)
      refine ⟨first :: before, body, offset, List.cons_prefix_cons.2 ⟨rfl, hfront⟩, hoffset, ?_⟩
      rw [stream_cons, List.length_append]
      omega

/-- A place is where no frame has begun yet, and all those before it are complete. -/
def AtBoundary (bodies : List Bytes) (place : Nat) : Prop :=
  ∃ before, before <+: bodies ∧ place = (stream before).length

/-- A place is inside a header: some of its bytes lie before it, and some behind it. -/
def InHeader (bodies : List Bytes) (place : Nat) : Prop :=
  ∃ before body offset, Within bodies place before body offset ∧ 0 < offset ∧ offset < headerSize

/-- A place is inside a body, which has not been read to its end there. -/
def InBody (bodies : List Bytes) (place : Nat) : Prop :=
  ∃ before body offset, Within bodies place before body offset ∧ headerSize ≤ offset

/-- A place between two frames is where the second one starts. -/
theorem AtBoundary.within {bodies : List Bytes} {place : Nat} (h : AtBoundary bodies place)
    (hplace : place < (stream bodies).length) : ∃ before body, Within bodies place before body 0 := by
  obtain ⟨before, ⟨after, rfl⟩, rfl⟩ := h
  cases after with
  | nil =>
    rw [List.append_nil] at hplace
    exact absurd hplace (Nat.lt_irrefl _)
  | cons body after =>
    refine ⟨before, body, ⟨after, by simp⟩, ?_, rfl⟩
    rw [length_framed, headerSize]
    omega

theorem place_cases {bodies : List Bytes} {place : Nat} (h : place < (stream bodies).length) :
    AtBoundary bodies place ∨ InHeader bodies place ∨ InBody bodies place := by
  obtain ⟨before, body, offset, hwithin⟩ := exists_within h
  by_cases hzero : offset = 0
  · refine .inl ⟨before, (List.prefix_append before [body]).trans hwithin.front, ?_⟩
    rw [hwithin.place_eq, hzero, Nat.add_zero]
  · by_cases hheader : offset < headerSize
    · exact .inr (.inl ⟨before, body, offset, hwithin, Nat.pos_of_ne_zero hzero, hheader⟩)
    · exact .inr (.inr ⟨before, body, offset, hwithin, Nat.le_of_not_lt hheader⟩)

/-! ## What is read of it -/

/-- Of a frame that is cut no body is read. -/
theorem cut_take_framed {limit offset : Nat} {body : Bytes} (h : Fits limit body)
    (hoffset : offset < (framed body).length) :
    cut limit ((framed body).take offset) =
      if offset < headerSize then .shortHeader else .shortBody := by
  have hlength : ((framed body).take offset).length = offset :=
    List.length_take_of_le (Nat.le_of_lt hoffset)
  split
  · next hheader => exact cut_eq_shortHeader_iff.2 (hlength.symm ▸ hheader)
  · next hheader =>
    have hfour := Nat.le_of_not_lt hheader
    have hsize : number (((framed body).take offset).take headerSize) = body.length := by
      rw [List.take_take, Nat.min_eq_left hfour, framed, ← length_header body.length,
        List.take_left, number_header h.2]
    rw [length_framed] at hoffset
    rw [cut_eq_shortBody_iff, hlength, hsize]
    exact ⟨hfour, h.1, hoffset⟩

namespace Within

variable {bodies before : List Bytes} {body : Bytes} {place offset : Nat}

/-- Up to the place there are whole frames, and the front of one more. -/
theorem take_stream (h : Within bodies place before body offset) :
    (stream bodies).take place = stream before ++ (framed body).take offset := by
  obtain ⟨after, rfl⟩ := h.front
  rw [h.place_eq, List.append_assoc, List.singleton_append, stream_append, stream_cons,
    List.take_length_add_append, List.take_append_of_le_length (Nat.le_of_lt h.offset_lt)]

/-- What is read of a stream that is cut off are the bodies of the frames before the cut. -/
theorem split_take {limit : Nat} (h : Within bodies place before body offset)
    (hfits : ∀ body ∈ bodies, Fits limit body) :
    split limit ((stream bodies).take place) =
      (before, if offset < headerSize then .shortHeader else .shortBody) := by
  have hfront : ∀ other ∈ before ++ [body], Fits limit other :=
    fun other hother => hfits other (h.front.subset hother)
  obtain ⟨hbefore, hbody⟩ := List.forall_mem_append.1 hfront
  have hcut := cut_take_framed (hbody body (List.mem_singleton.2 rfl)) h.offset_lt
  have hends : ∀ whole later, cut limit ((framed body).take offset) ≠ .whole whole later := by
    rw [hcut]
    intro whole later
    split <;> exact Cut.noConfusion
  rw [h.take_stream, split_stream hbefore, split_of_ends hends, List.append_nil, hcut]

/-- What waiting ends with, by how far the frame goes that is cut. -/
theorem ending_eq {limit : Nat} (h : Within bodies place before body offset)
    (hfits : ∀ body ∈ bodies, Fits limit body) {pieces : List Bytes}
    (hpieces : pieces.flatten = (stream bodies).take place) :
    ((waiting limit).all pieces).2 =
      if offset < headerSize then none else some .unexpectedEnd := by
  rw [waiting_all_eq, hpieces, h.split_take hfits]
  split <;> rfl

end Within

/-! ## What is reported -/

/-- What the end of a stream is to mean: where a stream of frames is cut off, waiting reports the
end without a fault exactly if no frame has begun there. -/
def ReportsTruncation : Prop :=
  ∀ (limit : Nat) (bodies : List Bytes) (place : Nat) (pieces : List Bytes),
    (∀ body ∈ bodies, Fits limit body) → place < (stream bodies).length →
      pieces.flatten = (stream bodies).take place →
        (((waiting limit).all pieces).2 = none ↔ AtBoundary bodies place)

/-- Two bytes of a header are enough to break it. -/
theorem not_reportsTruncation : ¬ ReportsTruncation := by
  intro h
  have hwithin : Within [[7]] 2 [] [7] 2 := ⟨⟨[], rfl⟩, by decide, rfl⟩
  have hfits : ∀ body ∈ [[7]], Fits 64 body := by decide
  have hnone : ((waiting 64).all [[0, 0]]).2 = none := hwithin.ending_eq hfits rfl
  obtain ⟨before, hbefore, hplace⟩ := (h 64 [[7]] 2 [[0, 0]] hfits (by decide) rfl).1 hnone
  rcases List.prefix_cons_iff.1 hbefore with rfl | ⟨rest, rfl, -⟩
  · exact absurd hplace (by decide)
  · rw [stream_cons, List.length_append, length_framed, headerSize] at hplace
    omega

/-- **What is reported of a stream that is cut off.**  Waiting for the frames of a stream that ends
before its last byte, in any pieces, ends without a fault exactly if the cut is between two frames
or inside a header, and with the fault of an early end exactly if it is inside a body; one of these
it is.  Blocking ends with the fault wherever the cut is. -/
theorem endings_of_cut_stream {limit place : Nat} {bodies pieces : List Bytes}
    (hfits : ∀ body ∈ bodies, Fits limit body) (hplace : place < (stream bodies).length)
    (hpieces : pieces.flatten = (stream bodies).take place) :
    (((waiting limit).all pieces).2 = none ↔ AtBoundary bodies place ∨ InHeader bodies place) ∧
      (((waiting limit).all pieces).2 = some .unexpectedEnd ↔ InBody bodies place) ∧
      (AtBoundary bodies place ∨ InHeader bodies place ∨ InBody bodies place) ∧
      ((demanding limit).all pieces.flatten).2 = .unexpectedEnd := by
  have hclean : AtBoundary bodies place ∨ InHeader bodies place →
      ((waiting limit).all pieces).2 = none := by
    rintro (hboundary | ⟨before, body, offset, hwithin, -, hoffset⟩)
    · obtain ⟨before, body, hwithin⟩ := hboundary.within hplace
      exact hwithin.ending_eq hfits hpieces
    · rw [hwithin.ending_eq hfits hpieces, if_pos hoffset]
  have hfault : InBody bodies place →
      ((waiting limit).all pieces).2 = some .unexpectedEnd := by
    rintro ⟨before, body, offset, hwithin, hoffset⟩
    rw [hwithin.ending_eq hfits hpieces, if_neg (Nat.not_lt.2 hoffset)]
  have hcases := or_assoc.2 (place_cases hplace)
  refine ⟨⟨fun hnone => ?_, hclean⟩, ⟨fun hsome => ?_, hfault⟩, place_cases hplace, ?_⟩
  · refine hcases.resolve_right fun hbody => ?_
    rw [hfault hbody] at hnone
    exact absurd hnone (Option.some_ne_none _)
  · refine hcases.resolve_left fun hfree => ?_
    rw [hclean hfree] at hsome
    exact absurd hsome.symm (Option.some_ne_none _)
  · obtain ⟨before, body, offset, hwithin⟩ := exists_within hplace
    rw [demanding_all_eq, hpieces, hwithin.split_take hfits]
    split <;> rfl

/-- Of the second of two frames only one byte comes, and no fault is reported. -/
theorem endings_of_cut_stream_in_header :
    (∀ body ∈ [[7], [8]], Fits 64 body) ∧ 6 < (stream [[7], [8]]).length ∧
      [[0, 0, 0], [1, 7, 0]].flatten = (stream [[7], [8]]).take 6 ∧
      ((waiting 64).all [[0, 0, 0], [1, 7, 0]]).2 = none := by
  have hfits : ∀ body ∈ [[7], [8]], Fits 64 body := by decide
  have hpieces : [[0, 0, 0], [1, 7, 0]].flatten = (stream [[7], [8]]).take 6 := rfl
  have hheader : InHeader [[7], [8]] 6 :=
    ⟨[[7]], [8], 1, ⟨⟨[], rfl⟩, by decide, rfl⟩, by decide, by decide⟩
  obtain ⟨hnone, -⟩ := endings_of_cut_stream hfits (by decide) hpieces
  exact ⟨hfits, by decide, hpieces, hnone.2 (.inr hheader)⟩

end Frame
end ModelRegistry
