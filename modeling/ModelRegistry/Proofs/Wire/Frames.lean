import ModelRegistry.Frame

/-!
# Frames are cut where they were joined

The four bytes of a header stand for the length that they were made from, as long as that is a
number of 32 bits.  So a body within such a limit is written as a frame, and the frame is cut from
the front of a stream again, whatever the stream goes on with.

Conversely every stream is the frames of some bodies and a rest that no whole frame begins
(`Frame.Splits`), and it is so in only one way.
-/

namespace ModelRegistry
namespace Frame

theorem number_header {size : Nat} (h : size < UInt32.size) : number (header size) = size := by
  have hlt : size < 0x100000000 := h
  simp only [header, number, List.foldl_cons, List.foldl_nil, UInt8.toNat_ofNat']
  omega

theorem length_header (size : Nat) : (header size).length = headerSize := rfl

/-- A body within the limit is written, if its length is a number of 32 bits. -/
theorem encode_of_lt {limit : Nat} {body : Bytes} (hsize : body.length < UInt32.size)
    (h : body.length ≤ limit) : encode limit body = .ok (header body.length ++ body) := by
  apply if_neg
  rintro (hlong | hlong)
  · exact absurd h (Nat.not_le.2 hlong)
  · exact absurd hsize (Nat.not_lt.2 hlong)

/-- A body whose length is no number of 32 bits is never written. -/
theorem encode_of_ge {limit : Nat} {body : Bytes} (hsize : UInt32.size ≤ body.length) :
    encode limit body = .error (.frameTooLarge body.length limit) := if_pos (.inr hsize)

theorem take_frame (body rest : Bytes) :
    (header body.length ++ body ++ rest).take headerSize = header body.length := by
  rw [List.append_assoc, ← length_header body.length, List.take_left]

theorem drop_frame (body rest : Bytes) :
    (header body.length ++ body ++ rest).drop headerSize = body ++ rest := by
  rw [List.append_assoc, ← length_header body.length, List.drop_left]

/-- A stream has a whole frame at its front when it holds a length within the limit and so many
bytes behind it. -/
theorem cut_eq_whole_iff {limit : Nat} {s body rest : Bytes} :
    cut limit s = .whole body rest ↔
      headerSize ≤ s.length ∧ number (s.take headerSize) ≤ limit ∧
        number (s.take headerSize) ≤ (s.drop headerSize).length ∧
        body = (s.drop headerSize).take (number (s.take headerSize)) ∧
        rest = (s.drop headerSize).drop (number (s.take headerSize)) := by
  simp only [cut, length_take_lt_iff]
  by_cases hshort : s.length < headerSize
  · simp [hshort, Nat.not_le.2 hshort]
  · by_cases hlarge : limit < number (s.take headerSize)
    · simp [hshort, hlarge, Nat.not_le.2 hlarge]
    · by_cases hcut : (s.drop headerSize).length < number (s.take headerSize)
      · simp only [if_neg hshort, if_neg hlarge, if_pos hcut, Nat.not_le.2 hcut, false_and,
          and_false, reduceCtorEq]
      · simp only [if_neg hshort, if_neg hlarge, if_neg hcut, Cut.whole.injEq,
          Nat.le_of_not_lt hshort, Nat.le_of_not_lt hlarge, Nat.le_of_not_lt hcut, true_and,
          eq_comm]

/-- A front is a length over the limit when four bytes say so; nothing behind them is touched. -/
theorem eq_of_cut_oversized {limit size : Nat} {s rest : Bytes}
    (h : cut limit s = .oversized size rest) :
    headerSize ≤ s.length ∧ limit < size ∧ size = number (s.take headerSize) ∧
      rest = s.drop headerSize := by
  simp only [cut, length_take_lt_iff] at h
  split at h
  · cases h
  · next hheader =>
    split at h
    · next hlimit =>
      obtain ⟨rfl, rfl⟩ := Cut.oversized.inj h
      exact ⟨Nat.le_of_not_lt hheader, hlimit, rfl, rfl⟩
    · split at h <;> cases h

/-- A stream ends in a header when there are not even four bytes. -/
theorem cut_eq_shortHeader_iff {limit : Nat} {s : Bytes} :
    cut limit s = .shortHeader ↔ s.length < headerSize := by
  simp only [cut, length_take_lt_iff]
  by_cases hheader : s.length < headerSize
  · exact iff_of_true (if_pos hheader) hheader
  · refine iff_of_false ?_ hheader
    rw [if_neg hheader]
    split
    · exact Cut.noConfusion
    · split <;> exact Cut.noConfusion

/-- A stream ends in a body when there are four bytes of a length within the limit, and fewer bytes
behind them. -/
theorem cut_eq_shortBody_iff {limit : Nat} {s : Bytes} :
    cut limit s = .shortBody ↔ headerSize ≤ s.length ∧ number (s.take headerSize) ≤ limit ∧
      s.length < headerSize + number (s.take headerSize) := by
  have hrest : (s.drop headerSize).length < number (s.take headerSize) ↔
      s.length - headerSize < number (s.take headerSize) := by rw [List.length_drop]
  simp only [cut, length_take_lt_iff, hrest]
  split
  · next hheader => exact iff_of_false Cut.noConfusion fun h => absurd h.1 (by omega)
  · split
    · next hlimit => exact iff_of_false Cut.noConfusion fun h => absurd h.2.1 (by omega)
    · split
      · next hbody => exact iff_of_true rfl ⟨by omega, by omega, by omega⟩
      · next hbody => exact iff_of_false Cut.noConfusion fun h => absurd h.2.2 (by omega)

/-- A frame at the front of a stream is cut from it, or its body is over the limit. -/
theorem cut_header (limit : Nat) {body : Bytes} (hsize : body.length < UInt32.size)
    (rest : Bytes) : cut limit (header body.length ++ body ++ rest) =
      if limit < body.length then .oversized body.length (body ++ rest) else .whole body rest := by
  simp only [cut, take_frame, drop_frame, length_header, number_header hsize, Nat.lt_irrefl,
    if_false, List.take_left, List.drop_left]

/-! ## Whole streams -/

/-- Four bytes are the header of the number that they stand for. -/
theorem header_number {bs : Bytes} (h : bs.length = headerSize) : header (number bs) = bs := by
  match bs, h with
  | [a, b, c, d], _ =>
    have ha := a.toNat_lt
    have hb := b.toNat_lt
    have hc := c.toNat_lt
    have hd := d.toNat_lt
    simp only [header, number, List.foldl_cons, List.foldl_nil, List.cons.injEq, and_true,
      ← UInt8.toNat_inj, UInt8.toNat_ofNat']
    omega

/-- The frame of a body. -/
def framed (body : Bytes) : Bytes := header body.length ++ body

/-- What is cut from a stream is the frame that stood there. -/
theorem eq_framed_of_cut {limit : Nat} {s body rest : Bytes} (h : cut limit s = .whole body rest) :
    s = framed body ++ rest ∧ body.length ≤ limit := by
  obtain ⟨hheader, hsize, hbody, rfl, rfl⟩ := cut_eq_whole_iff.1 h
  have hlength : ((s.drop headerSize).take (number (s.take headerSize))).length =
      number (s.take headerSize) := by
    rw [List.length_take]
    omega
  refine ⟨?_, by rw [hlength]; exact hsize⟩
  have hfour : (s.take headerSize).length = headerSize := by
    rw [List.length_take]
    omega
  rw [framed, hlength, header_number hfour, List.append_assoc, List.take_append_drop,
    List.take_append_drop]

theorem length_framed (body : Bytes) : (framed body).length = headerSize + body.length := by
  rw [framed, List.length_append, length_header]

/-- The frames of some bodies, one behind the other. -/
def stream (bodies : List Bytes) : Bytes := bodies.flatMap framed

@[simp] theorem stream_nil : stream [] = [] := rfl

@[simp] theorem stream_cons (body : Bytes) (bodies : List Bytes) :
    stream (body :: bodies) = framed body ++ stream bodies := rfl

theorem stream_append (bodies bodies' : List Bytes) :
    stream (bodies ++ bodies') = stream bodies ++ stream bodies' := List.flatMap_append

theorem length_stream_le {before bodies : List Bytes} (h : before <+: bodies) :
    (stream before).length ≤ (stream bodies).length := by
  obtain ⟨after, rfl⟩ := h
  rw [stream_append, List.length_append]
  exact Nat.le_add_right _ _

/-- A body that there is a frame for, under a limit. -/
def Fits (limit : Nat) (body : Bytes) : Prop := body.length ≤ limit ∧ body.length < UInt32.size

instance (limit : Nat) : DecidablePred (Fits limit) :=
  fun body => inferInstanceAs (Decidable (body.length ≤ limit ∧ body.length < UInt32.size))

theorem cut_framed {limit : Nat} {body : Bytes} (h : Fits limit body) (rest : Bytes) :
    cut limit (framed body ++ rest) = .whole body rest := by
  rw [framed, cut_header limit h.2, if_neg (Nat.not_lt.2 h.1)]

/-- A stream is split behind frames that stand at its front. -/
theorem split_stream {limit : Nat} {bodies : List Bytes} (h : ∀ body ∈ bodies, Fits limit body)
    (rest : Bytes) : split limit (stream bodies ++ rest) =
      (bodies ++ (split limit rest).1, (split limit rest).2) := by
  induction bodies with
  | nil => rfl
  | cons body bodies ih =>
    obtain ⟨hbody, hbodies⟩ := List.forall_mem_cons.1 h
    rw [stream_cons, List.append_assoc, split_of_whole (cut_framed hbody _), ih hbodies,
      List.cons_append]

/-- Where there is no whole frame there is nothing to split. -/
theorem split_of_ends {limit : Nat} {s : Bytes} (h : ∀ body later, cut limit s ≠ .whole body later) :
    split limit s = ([], cut limit s) := by
  rw [split, splitFrom]
  split
  · next hcut => exact absurd hcut (h _ _)
  all_goals
    next hcut =>
      rw [hcut]
      rfl

/-- A stream of whole frames is split into their bodies, and ends where no header begins. -/
theorem split_stream_end {limit : Nat} {bodies : List Bytes}
    (h : ∀ body ∈ bodies, Fits limit body) :
    split limit (stream bodies) = (bodies, .shortHeader) := by
  have hcut : cut limit [] = .shortHeader := cut_eq_shortHeader_iff.2 (by decide)
  have hends : ∀ body later, cut limit [] ≠ .whole body later := by
    rw [hcut]
    exact fun _ _ => Cut.noConfusion
  have hsplit := split_stream h []
  rwa [split_of_ends hends, hcut, List.append_nil, List.append_nil] at hsplit

/-- A stream is the frames of bodies within the limit, and a rest that no whole frame begins. -/
structure Splits (limit : Nat) (s : Bytes) (bodies : List Bytes) (rest : Bytes) : Prop where
  eq : s = stream bodies ++ rest
  fits : ∀ body ∈ bodies, body.length ≤ limit
  ends : ∀ body later, cut limit rest ≠ .whole body later

theorem Splits.nil {limit : Nat} {s : Bytes} (h : ∀ body later, cut limit s ≠ .whole body later) :
    Splits limit s [] s := ⟨rfl, by simp, h⟩

theorem Splits.cons {limit : Nat} {s body rest : Bytes} {bodies : List Bytes}
    (hbody : body.length ≤ limit) (h : Splits limit s bodies rest) :
    Splits limit (framed body ++ s) (body :: bodies) rest where
  eq := by rw [h.eq, stream_cons, List.append_assoc]
  fits := List.forall_mem_cons.2 ⟨hbody, h.fits⟩
  ends := h.ends

/-- What is kept of a stream that no whole frame begins: nothing, when its front is a length over
the limit, and else all of it. -/
def kept (limit : Nat) (rest : Bytes) : Option Bytes :=
  match cut limit rest with
  | .oversized .. => none
  | _ => some rest

theorem eq_of_kept {limit : Nat} {rest left : Bytes} (h : kept limit rest = some left) :
    left = rest := by
  unfold kept at h
  split at h
  · cases h
  · exact (Option.some.inj h).symm

/-- Behind a length over the limit no frame is read any more, whatever else arrives. -/
theorem ends_of_kept_eq_none {limit : Nat} {rest : Bytes} (h : kept limit rest = none) (t : Bytes)
    (body later : Bytes) : cut limit (rest ++ t) ≠ .whole body later := by
  unfold kept at h
  split at h
  · next hcut =>
    obtain ⟨hheader, hlimit, rfl, -⟩ := eq_of_cut_oversized hcut
    intro hwhole
    obtain ⟨-, hsize, -⟩ := cut_eq_whole_iff.1 hwhole
    rw [List.take_append_of_le_length hheader] at hsize
    omega
  · cases h

/-- Every stream splits. -/
theorem exists_splits (limit : Nat) (s : Bytes) : ∃ bodies rest, Splits limit s bodies rest := by
  induction hn : s.length using Nat.strongRecOn generalizing s with
  | ind n ih =>
    by_cases hwhole : ∃ body later, cut limit s = .whole body later
    · obtain ⟨body, later, hcut⟩ := hwhole
      obtain ⟨hs, hbody⟩ := eq_framed_of_cut hcut
      have hlater := cut_whole_lt hcut
      obtain ⟨bodies, rest, hsplits⟩ := ih later.length (by omega) later rfl
      rw [hs]
      exact ⟨body :: bodies, rest, hsplits.cons hbody⟩
    · refine ⟨[], s, Splits.nil ?_⟩
      intro body later hcut
      exact hwhole ⟨body, later, hcut⟩

/-- Bodies that a stream splits into are those that are read from it. -/
theorem Splits.split_eq {limit : Nat} (hlimit : limit < UInt32.size) {s rest : Bytes}
    {bodies : List Bytes} (h : Splits limit s bodies rest) :
    split limit s = (bodies, cut limit rest) := by
  have hfits : ∀ body ∈ bodies, Fits limit body := fun body hbody =>
    ⟨h.fits body hbody, Nat.lt_of_le_of_lt (h.fits body hbody) hlimit⟩
  rw [h.eq, split_stream hfits, split_of_ends h.ends, List.append_nil]

theorem Splits.unique {limit : Nat} (hlimit : limit < UInt32.size) {s rest rest' : Bytes}
    {bodies bodies' : List Bytes} (h : Splits limit s bodies rest)
    (h' : Splits limit s bodies' rest') : bodies = bodies' := by
  have heq := h.split_eq hlimit
  rw [h'.split_eq hlimit] at heq
  exact (congrArg Prod.fst heq).symm

/-- What comes behind a stream is split behind its rest. -/
theorem Splits.append {limit : Nat} {s t rest rest' : Bytes} {bodies bodies' : List Bytes}
    (h : Splits limit s bodies rest) (h' : Splits limit (rest ++ t) bodies' rest') :
    Splits limit (s ++ t) (bodies ++ bodies') rest' where
  eq := by rw [h.eq, List.append_assoc, h'.eq, stream_append, List.append_assoc]
  fits body hbody := by
    rcases List.mem_append.1 hbody with hbody | hbody
    · exact h.fits body hbody
    · exact h'.fits body hbody
  ends := h'.ends

end Frame
end ModelRegistry
