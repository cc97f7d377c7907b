import ModelRegistry.Frame

/-!
# Frames in transit

A frame is read in two goes, first its length and then its body, and written in two goes as well.
There are two ways to do either.

* To block: `Frame.demand` has the rest of the stream before it, and a buffer takes bytes at once.
* To wait: `Frame.next` gets the stream in pieces, which have nothing to do with the frames, and a
  `Frame.Sink` takes bytes a few at a time.

Where a stream ends before a length is complete, the reader that blocks finds a fault and the one
that waits an end without a frame.  In everything else they are to agree.  What a `Frame.Reader`
does is therefore tied to what `Frame.cut` sees at the front of its stream, and what a
`Frame.Writer` has written are the bytes that it was given, in order.
-/

namespace ModelRegistry
namespace Frame

/-! ## Reading one frame -/

/-- Take exactly so many bytes.  A stream that ends before them is used up. -/
def exactly (n : Nat) (s : Bytes) : Except IoFault Bytes × Bytes :=
  let front := s.take n
  if front.length < n then (.error .unexpectedEnd, []) else (.ok front, s.drop n)

/-- Read one frame; the end of the stream before a complete frame is a fault. -/
def demand (limit : Nat) (s : Bytes) : Except IoFault Bytes × Bytes :=
  match exactly headerSize s with
  | (.error fault, rest) => (.error fault, rest)
  | (.ok front, rest) =>
    let size := number front
    if limit < size then (.error (.frameTooLarge size limit), rest) else exactly size rest

/-- Wait for exactly so many bytes of a stream that arrives in pieces.  A piece may be empty, and
what is not asked for yet of a piece stays in front of the others. -/
def await (n : Nat) : List Bytes → Except IoFault Bytes × List Bytes
  | [] => if n = 0 then (.ok [], []) else (.error .unexpectedEnd, [])
  | piece :: pieces =>
    let front := piece.take n
    if front.length < n then
      match await (n - front.length) pieces with
      | (.ok more, rest) => (.ok (front ++ more), rest)
      | (.error fault, rest) => (.error fault, rest)
    else (.ok front, piece.drop n :: pieces)

/-- Wait for one frame; the end of the stream before a complete length is an end without a frame. -/
def next (limit : Nat) (pieces : List Bytes) : Except IoFault (Option Bytes) × List Bytes :=
  match await headerSize pieces with
  | (.error .unexpectedEnd, rest) => (.ok none, rest)
  | (.error fault, rest) => (.error fault, rest)
  | (.ok front, rest) =>
    let size := number front
    if limit < size then (.error (.frameTooLarge size limit), rest)
    else
      match await size rest with
      | (.ok body, rest) => (.ok (some body), rest)
      | (.error fault, rest) => (.error fault, rest)

theorem exactly_of_le {n : Nat} {s : Bytes} (h : n ≤ s.length) :
    exactly n s = (.ok (s.take n), s.drop n) := by
  simp only [exactly, length_take_lt_iff, if_neg (Nat.not_lt.2 h)]

theorem exactly_of_lt {n : Nat} {s : Bytes} (h : s.length < n) :
    exactly n s = (.error .unexpectedEnd, []) := by
  simp only [exactly, length_take_lt_iff, if_pos h]

/-- Where a piece ends makes no difference. -/
theorem await_eq (n : Nat) (pieces : List Bytes) :
    (await n pieces).1 = (exactly n pieces.flatten).1 ∧
      (await n pieces).2.flatten = (exactly n pieces.flatten).2 := by
  induction pieces generalizing n with
  | nil =>
    rcases Nat.eq_zero_or_pos n with rfl | hpos
    · exact ⟨rfl, rfl⟩
    · rw [List.flatten_nil, exactly_of_lt hpos, await, if_neg (Nat.ne_of_gt hpos)]
      exact ⟨rfl, rfl⟩
  | cons piece pieces ih =>
    rw [await, List.flatten_cons]
    by_cases hpiece : piece.length < n
    · have hle := Nat.le_of_lt hpiece
      simp only [List.take_of_length_le hle, if_pos hpiece]
      -- What is still wanted has to come out of the other pieces.
      rcases hawait : await (n - piece.length) pieces with ⟨answer, rest⟩
      obtain ⟨hfirst, hrest⟩ := ih (n - piece.length)
      rw [hawait] at hfirst hrest
      by_cases henough : n - piece.length ≤ pieces.flatten.length
      · rw [exactly_of_le henough] at hfirst hrest
        rw [exactly_of_le (by rw [List.length_append]; omega), List.take_append, List.drop_append,
          List.take_of_length_le hle, List.drop_of_length_le hle, List.nil_append]
        obtain rfl := hfirst
        exact ⟨rfl, hrest⟩
      · have hlt := Nat.lt_of_not_le henough
        rw [exactly_of_lt hlt] at hfirst hrest
        rw [exactly_of_lt (by rw [List.length_append]; omega)]
        obtain rfl := hfirst
        exact ⟨rfl, hrest⟩
    · have hle := Nat.le_of_not_lt hpiece
      rw [exactly_of_le (by rw [List.length_append]; omega), List.take_append_of_le_length hle,
        List.drop_append_of_le_length hle]
      simp only [List.length_take, Nat.min_eq_left hle, Nat.lt_irrefl, if_false, List.flatten_cons,
        and_self]

theorem await_of_le {n : Nat} {pieces : List Bytes} (h : n ≤ pieces.flatten.length) :
    ∃ rest, await n pieces = (.ok (pieces.flatten.take n), rest) ∧
      rest.flatten = pieces.flatten.drop n := by
  obtain ⟨hanswer, hrest⟩ := await_eq n pieces
  rw [exactly_of_le h] at hanswer hrest
  exact ⟨_, Prod.ext hanswer rfl, hrest⟩

theorem await_of_lt {n : Nat} {pieces : List Bytes} (h : pieces.flatten.length < n) :
    ∃ rest, await n pieces = (.error .unexpectedEnd, rest) ∧ rest.flatten = [] := by
  obtain ⟨hanswer, hrest⟩ := await_eq n pieces
  rw [exactly_of_lt h] at hanswer hrest
  exact ⟨_, Prod.ext hanswer rfl, hrest⟩

/-- What one read of a stream brings, by what is at its front. -/
theorem demand_eq (limit : Nat) (s : Bytes) :
    demand limit s =
      match cut limit s with
      | .whole body rest => (.ok body, rest)
      | .oversized size rest => (.error (.frameTooLarge size limit), rest)
      | .shortHeader | .shortBody => (.error .unexpectedEnd, []) := by
  simp only [demand, cut, length_take_lt_iff]
  by_cases hheader : s.length < headerSize
  · simp only [exactly_of_lt hheader, if_pos hheader]
  · simp only [exactly_of_le (Nat.le_of_not_lt hheader), if_neg hheader]
    by_cases hlimit : limit < number (s.take headerSize)
    · simp only [if_pos hlimit]
    · simp only [if_neg hlimit]
      by_cases hbody : (s.drop headerSize).length < number (s.take headerSize)
      · simp only [exactly_of_lt hbody, if_pos hbody]
      · simp only [exactly_of_le (Nat.le_of_not_lt hbody), if_neg hbody]

/-- What one read of a stream that arrives brings, by what is at its front. -/
theorem next_eq (limit : Nat) (pieces : List Bytes) :
    ((next limit pieces).1, (next limit pieces).2.flatten) =
      match cut limit pieces.flatten with
      | .whole body rest => (.ok (some body), rest)
      | .oversized size rest => (.error (.frameTooLarge size limit), rest)
      | .shortHeader => (.ok none, [])
      | .shortBody => (.error .unexpectedEnd, []) := by
  simp only [next, cut, length_take_lt_iff]
  by_cases hheader : pieces.flatten.length < headerSize
  · obtain ⟨rest, hawait, hrest⟩ := await_of_lt hheader
    simp only [hawait, hrest, if_pos hheader]
  · obtain ⟨rest, hawait, hrest⟩ := await_of_le (Nat.le_of_not_lt hheader)
    simp only [hawait, if_neg hheader, ← hrest]
    by_cases hlimit : limit < number (pieces.flatten.take headerSize)
    · simp only [if_pos hlimit]
    · simp only [if_neg hlimit]
      by_cases hbody : rest.flatten.length < number (pieces.flatten.take headerSize)
      · obtain ⟨later, hlater, hnone⟩ := await_of_lt hbody
        simp only [hlater, hnone, if_pos hbody]
      · obtain ⟨later, hlater, hdrop⟩ := await_of_le (Nat.le_of_not_lt hbody)
        simp only [hlater, hdrop, if_neg hbody]

/-! ## Reading on -/

/-- The frame at the front of a stream, or what a reader ends with where there is no whole one. -/
def Cut.outcome {ω : Type} (ending : Cut → ω) : Cut → Except ω Bytes × Bytes
  | whole body rest => (.ok body, rest)
  | other => (.error (ending other), other.rest)

/-- A way to read frames.  What a read does is settled by the bytes that are still to come. -/
structure Reader (τ ω : Type) where
  limit : Nat
  /-- Read one frame, or find what the reading ends with. -/
  read : τ → Except ω Bytes × τ
  /-- The bytes that are still to come. -/
  bytes : τ → Bytes
  /-- What the reading ends with where there is no whole frame. -/
  ending : Cut → ω
  read_eq : ∀ t, ((read t).1, bytes (read t).2) = (cut limit (bytes t)).outcome ending

namespace Reader

variable {τ ω : Type} (r : Reader τ ω)

theorem cut_of_ok {t t' : τ} {body : Bytes} (h : r.read t = (.ok body, t')) :
    cut r.limit (r.bytes t) = .whole body (r.bytes t') := by
  have heq := r.read_eq t
  rw [h] at heq
  cases hcut : cut r.limit (r.bytes t) with
  | whole found rest =>
    rw [hcut] at heq
    obtain ⟨hbody, hrest⟩ := Prod.mk.inj heq
    rw [Except.ok.inj hbody, hrest]
  | oversized | shortHeader | shortBody =>
    rw [hcut] at heq
    cases (Prod.mk.inj heq).1

theorem split_of_error {t t' : τ} {ending : ω} (h : r.read t = (.error ending, t')) :
    (split r.limit (r.bytes t)).1 = [] ∧ r.ending (split r.limit (r.bytes t)).2 = ending := by
  have heq := r.read_eq t
  rw [h] at heq
  rw [split, splitFrom]
  split
  · next hcut =>
    rw [hcut] at heq
    cases (Prod.mk.inj heq).1
  all_goals
    next hcut =>
      rw [hcut] at heq
      exact ⟨rfl, (Except.error.inj (Prod.mk.inj heq).1).symm⟩

/-- Read frames behind those in `seen`, which is reversed, until a read brings none. -/
def allFrom (seen : List Bytes) (t : τ) : List Bytes × ω :=
  match h : r.read t with
  | (.ok body, t') =>
    have : (r.bytes t').length < (r.bytes t).length := cut_whole_lt (r.cut_of_ok h)
    allFrom (body :: seen) t'
  | (.error ending, _) => (seen.reverse, ending)
  termination_by (r.bytes t).length

/-- Read frames until a read brings none. -/
def all (t : τ) : List Bytes × ω := r.allFrom [] t

theorem allFrom_eq (seen : List Bytes) (t : τ) :
    r.allFrom seen t =
      (seen.reverse ++ (split r.limit (r.bytes t)).1, r.ending (split r.limit (r.bytes t)).2) := by
  induction hn : (r.bytes t).length using Nat.strongRecOn generalizing seen t with
  | ind n ih =>
    rw [allFrom]
    split
    · next body t' hread =>
      have hcut := r.cut_of_ok hread
      have hlt := cut_whole_lt hcut
      rw [ih _ (by omega) (body :: seen) t' rfl, split_of_whole hcut, List.reverse_cons,
        List.append_assoc, List.singleton_append]
    · next ending t' hread =>
      obtain ⟨hnone, hending⟩ := r.split_of_error hread
      rw [hnone, hending, List.append_nil]

/-- What is read are the frames at the front of the stream. -/
theorem all_eq (t : τ) :
    r.all t = ((split r.limit (r.bytes t)).1, r.ending (split r.limit (r.bytes t)).2) :=
  r.allFrom_eq [] t

end Reader

/-- What a reader that blocks ends with. -/
def demandEnding (limit : Nat) : Cut → IoFault
  | .oversized size _ => .frameTooLarge size limit
  | _ => .unexpectedEnd

/-- What a reader that waits ends with, which need not be a fault. -/
def nextEnding (limit : Nat) : Cut → Option IoFault
  | .oversized size _ => some (.frameTooLarge size limit)
  | .shortHeader => none
  | _ => some .unexpectedEnd

/-- Reading that blocks. -/
def demanding (limit : Nat) : Reader Bytes IoFault where
  limit := limit
  read := demand limit
  bytes := id
  ending := demandEnding limit
  read_eq := by
    intro s
    rw [demand_eq, id, id]
    cases cut limit s <;> rfl

/-- Reading that waits. -/
def waiting (limit : Nat) : Reader (List Bytes) (Option IoFault) where
  limit := limit
  read pieces :=
    match next limit pieces with
    | (.ok (some body), rest) => (.ok body, rest)
    | (.ok none, rest) => (.error none, rest)
    | (.error fault, rest) => (.error (some fault), rest)
  bytes := List.flatten
  ending := nextEnding limit
  read_eq := by
    intro pieces
    have heq := next_eq limit pieces
    rcases hnext : next limit pieces with ⟨answer, rest⟩
    rw [hnext] at heq
    cases hcut : cut limit pieces.flatten with
    | whole | oversized | shortHeader | shortBody =>
      rw [hcut] at heq
      obtain ⟨rfl, hrest⟩ := Prod.mk.inj heq
      simp only [hrest]
      rfl

theorem demanding_all_eq (limit : Nat) (s : Bytes) :
    (demanding limit).all s = ((split limit s).1, demandEnding limit (split limit s).2) :=
  (demanding limit).all_eq s

theorem waiting_all_eq (limit : Nat) (pieces : List Bytes) :
    (waiting limit).all pieces =
      ((split limit pieces.flatten).1, nextEnding limit (split limit pieces.flatten).2) :=
  (waiting limit).all_eq pieces

/-- Read frames until the stream ends or a fault is met. -/
def readAll (limit : Nat) (s : Bytes) : List Bytes × Option IoFault := (waiting limit).all [s]

/-- Read frames until a fault is met. -/
def demandAll (limit : Nat) (s : Bytes) : List Bytes × IoFault := (demanding limit).all s

/-! ## Writing -/

/-- The length in front of a body.  One over the limit, or that four bytes cannot hold, is refused.
-/
def checkedHeader (limit size : Nat) : Except IoFault Bytes :=
  if limit < size then .error (.frameTooLarge size limit)
  else if UInt32.size ≤ size then .error (.frameTooLarge size limit)
  else .ok (header size)

/-- A way to write bytes. -/
structure Writer (τ : Type) where
  /-- Write bytes behind those that have been written. -/
  put : Bytes → τ → τ
  /-- All that has been written. -/
  bytes : τ → Bytes
  bytes_put : ∀ more t, bytes (put more t) = bytes t ++ more

namespace Writer

variable {τ : Type} (w : Writer τ)

/-- Write one frame. -/
def write (limit : Nat) (body : Bytes) (t : τ) : Except IoFault Unit × τ :=
  match checkedHeader limit body.length with
  | .error fault => (.error fault, t)
  | .ok front => (.ok (), w.put body (w.put front t))

/-- Write the frames of some bodies, going on behind a body that is refused. -/
def writeAll (limit : Nat) : List Bytes → τ → List (Except IoFault Unit) × τ
  | [], t => ([], t)
  | body :: bodies, t =>
    let (result, t) := w.write limit body t
    let (results, t) := writeAll limit bodies t
    (result :: results, t)

theorem writeAll_cons (limit : Nat) (body : Bytes) (bodies : List Bytes) (t : τ) :
    w.writeAll limit (body :: bodies) t =
      ((w.write limit body t).1 :: (w.writeAll limit bodies (w.write limit body t).2).1,
        (w.writeAll limit bodies (w.write limit body t).2).2) := rfl

end Writer

/-- Writing that blocks, into a buffer. -/
def appending : Writer Bytes where
  put more buffer := buffer ++ more
  bytes := id
  bytes_put _ _ := rfl

/-- A buffer that takes bytes a few at a time. -/
structure Sink where
  taken : Bytes
  /-- How many bytes are taken at each of the next turns, of which zero makes the writer wait.
  Behind these turns there is room for everything. -/
  turns : List Nat
  deriving DecidableEq, Repr

/-- Go on offering bytes until all are taken. -/
def Sink.offer (taken more : Bytes) : List Nat → Sink
  | [] => ⟨taken ++ more, []⟩
  | turn :: turns =>
    if more = [] then ⟨taken, turn :: turns⟩
    else Sink.offer (taken ++ more.take turn) (more.drop turn) turns

theorem Sink.taken_offer (taken more : Bytes) (turns : List Nat) :
    (Sink.offer taken more turns).taken = taken ++ more := by
  induction turns generalizing taken more with
  | nil => rfl
  | cons turn turns ih =>
    rw [Sink.offer]
    split
    · next hnone => rw [hnone, List.append_nil]
    · rw [ih, List.append_assoc, List.take_append_drop]

/-- Writing that waits. -/
def offering : Writer Sink where
  put more sink := Sink.offer sink.taken more sink.turns
  bytes := Sink.taken
  bytes_put more sink := Sink.taken_offer sink.taken more sink.turns

end Frame
end ModelRegistry
