import ModelRegistry.Client
import ModelRegistry.Proofs.Wire.Frames

/-!
# Peers that answer a request at most once

A `Responder` decides what becomes of connections and requests.  It may refuse either.  To a request
that it takes it sends one frame, or else bytes that do not begin with a frame the client could
take: none at all, a part of one, or a length over the limit.  What it does depends on a state of
its own that is any type, so it may change its mind between any two requests, and a frame may hold
anything.

`Responder.peer` is the peer that does so.  The bytes for the client wait in the stream of their
connection, behind those that already wait there, and a stream ends or fails where a reply was
broken off.  Every request is written down with the connection it was sent on and what became of it.
-/

namespace ModelRegistry

/-- What becomes of one request.  Only an answer is a frame that a client can take. -/
inductive Reaction (limit : Nat)
  | refuse (fault : IoFault)
  | answer (body : Bytes) (hsize : body.length < UInt32.size)
  /-- Something else, behind which the stream fails or ends. -/
  | spoil (bytes : Bytes) (hspoilt : ∀ body rest, Frame.cut limit bytes ≠ .whole body rest)
      (fault : Option IoFault)

/-- The body of the reply that a client can take. -/
def Reaction.body? {limit : Nat} : Reaction limit → Option Bytes
  | .answer body _ => if body.length ≤ limit then some body else none
  | _ => none

/-- A machine with states of type `τ` that reacts to connections and requests. -/
structure Responder (limit : Nat) (τ : Type) where
  connect : Path → τ → Except IoFault Unit × τ
  react : Nat → Bytes → τ → Reaction limit × τ

/-- A request as it was sent, and what became of it. -/
structure Turn (limit : Nat) where
  connection : Nat
  request : Bytes
  reaction : Reaction limit

/-- The bytes that wait on a connection, and the fault behind them if they do not just end. -/
structure Stream where
  bytes : Bytes
  fault : Option IoFault

/-- Nothing waits. -/
def Stream.empty : Stream := ⟨[], none⟩

namespace Responder

variable {limit : Nat} {τ : Type}

/-- A responder with its connections, numbered in the order in which they were opened. -/
structure State (limit : Nat) (τ : Type) where
  own : τ
  nextConnection : Nat
  streams : Nat → Stream
  /-- The requests so far. -/
  turns : List (Turn limit)

namespace State

def new (own : τ) : State limit τ := ⟨own, 0, fun _ => .empty, []⟩

def setStream (s : State limit τ) (id : Nat) (stream : Stream) : State limit τ :=
  { s with streams := fun other => if other = id then stream else s.streams other }

@[simp] theorem setStream_streams (s : State limit τ) (id : Nat) (stream : Stream) :
    (s.setStream id stream).streams id = stream := if_pos rfl

@[simp] theorem setStream_setStream (s : State limit τ) (id : Nat) (stream stream' : Stream) :
    (s.setStream id stream).setStream id stream' = s.setStream id stream' := by
  simp only [setStream, State.mk.injEq, true_and, and_true]
  funext other
  by_cases h : other = id <;> simp [h]

/-- More bytes wait on a connection. -/
def push (s : State limit τ) (id : Nat) (bytes : Bytes) (fault : Option IoFault) : State limit τ :=
  s.setStream id ⟨(s.streams id).bytes ++ bytes, fault⟩

/-- What becomes of a request is sent. -/
def put (s : State limit τ) (id : Nat) : Reaction limit → Except IoFault Unit × State limit τ
  | .refuse fault => (.error fault, s)
  | .answer body _ => (.ok (), s.push id (Frame.header body.length ++ body) none)
  | .spoil bytes _ fault => (.ok (), s.push id bytes fault)

/-- Bytes are taken from a connection. -/
def take (s : State limit τ) (id size : Nat) : Except IoFault Bytes × State limit τ :=
  let stream := s.streams id
  if size ≤ stream.bytes.length then
    (.ok (stream.bytes.take size),
      s.setStream id ⟨stream.bytes.drop size, stream.fault⟩)
  else
    match stream.fault with
    | some fault => (.error fault, s)
    | none => (.ok stream.bytes, s.setStream id .empty)

end State

/-- The responder as a peer. -/
def peer (r : Responder limit τ) : Peer (State limit τ) where
  connect path s :=
    match r.connect path s.own with
    | (.error fault, own) => (.error fault, { s with own })
    | (.ok (), own) =>
      (.ok s.nextConnection,
        ({ s with own, nextConnection := s.nextConnection + 1 } : State limit τ).setStream
          s.nextConnection .empty)
  send id bytes s :=
    let (reaction, own) := r.react id bytes s.own
    ({ s with own, turns := s.turns ++ [⟨id, bytes, reaction⟩] } : State limit τ).put id reaction
  receive id size s := s.take id size
  close _ s := s

/-! ## Taking a frame -/

variable (r : Responder limit τ) (id : Nat) (s : State limit τ)

/-- Two states that differ in their streams alone. -/
structure SameTurns (s s' : State limit τ) : Prop where
  turns : s'.turns = s.turns
  nextConnection : s'.nextConnection = s.nextConnection

variable {r id s}

section Stream

variable {bytes : Bytes} {ending : Option IoFault} (hstream : s.streams id = ⟨bytes, ending⟩)

include hstream

theorem fill_of_le {size : Nat} (h : size ≤ bytes.length) :
    Client.fill r.peer id size s =
      (.ok (bytes.take size), s.setStream id ⟨bytes.drop size, ending⟩) := by
  have hlength : ¬ (bytes.take size).length < size := by
    rw [List.length_take]
    omega
  simp only [Client.fill, peer, State.take, hstream, if_pos h, if_neg hlength, List.take_take,
    Nat.min_self]

/-- When too few bytes wait, the client meets a fault. -/
theorem fill_of_lt {size : Nat} (h : bytes.length < size) :
    ∃ fault s', Client.fill r.peer id size s = (.error fault, s') ∧ SameTurns s s' := by
  simp only [Client.fill, peer, State.take, hstream, if_neg (Nat.not_le.2 h)]
  cases ending with
  | some fault => exact ⟨fault, s, rfl, rfl, rfl⟩
  | none =>
    simp only [if_pos h]
    exact ⟨.unexpectedEnd, _, rfl, rfl, rfl⟩

/-- The client takes the frame at the front of a stream. -/
theorem takeFrame_of_whole {body rest : Bytes} (h : Frame.cut limit bytes = .whole body rest) :
    Client.takeFrame r.peer limit id s = (.ok body, s.setStream id ⟨rest, ending⟩) := by
  obtain ⟨hheader, hsize, hbody, rfl, rfl⟩ := Frame.cut_eq_whole_iff.1 h
  simp only [Client.takeFrame, fill_of_le hstream hheader, if_neg (Nat.not_lt.2 hsize)]
  rw [fill_of_le (State.setStream_streams ..) hbody, State.setStream_setStream]

/-- Without a frame at the front of the stream the client meets a fault. -/
theorem takeFrame_of_spoilt (h : ∀ body rest, Frame.cut limit bytes ≠ .whole body rest) :
    ∃ fault s', Client.takeFrame r.peer limit id s = (.error fault, s') ∧ SameTurns s s' := by
  by_cases hheader : Frame.headerSize ≤ bytes.length
  · simp only [Client.takeFrame, fill_of_le hstream hheader]
    by_cases hsize : limit < Frame.number (bytes.take Frame.headerSize)
    · rw [if_pos hsize]
      exact ⟨_, _, rfl, rfl, rfl⟩
    · -- The body is not complete, or the stream would begin with a frame.
      have hbody : (bytes.drop Frame.headerSize).length <
          Frame.number (bytes.take Frame.headerSize) := by
        apply Nat.lt_of_not_le
        intro hlong
        exact h _ _ (Frame.cut_eq_whole_iff.2 ⟨hheader, Nat.le_of_not_lt hsize, hlong, rfl, rfl⟩)
      rw [if_neg hsize]
      obtain ⟨fault, s', hfill, hsame⟩ := fill_of_lt (r := r) (State.setStream_streams s id _) hbody
      exact ⟨fault, s', hfill, hsame.turns, hsame.nextConnection⟩
  · obtain ⟨fault, s', hfill, hsame⟩ := fill_of_lt (r := r) hstream (Nat.lt_of_not_le hheader)
    simp only [Client.takeFrame, hfill]
    exact ⟨fault, s', rfl, hsame⟩

end Stream

/-! ## Reactions -/

/-- Only a refusal is met when the request is sent. -/
theorem put_eq_error {reaction : Reaction limit} {fault : IoFault} {s' : State limit τ}
    (hput : s.put id reaction = (.error fault, s')) : reaction.body? = none ∧ s' = s := by
  cases reaction with
  | refuse fault =>
    cases hput
    exact ⟨rfl, rfl⟩
  | answer | spoil => cases hput

/-- On a connection on which nothing waited, the client takes the answer to its request and leaves
nothing, or meets a fault. -/
theorem takeFrame_of_put {reaction : Reaction limit} {sent : State limit τ}
    (hempty : s.streams id = .empty) (hput : s.put id reaction = (.ok (), sent)) :
    (∃ body, reaction.body? = some body ∧
      Client.takeFrame r.peer limit id sent = (.ok body, s.setStream id .empty)) ∨
    (reaction.body? = none ∧
      ∃ fault s', Client.takeFrame r.peer limit id sent = (.error fault, s') ∧ SameTurns s s') := by
  have hstream (bytes : Bytes) (ending : Option IoFault) :
      (s.push id bytes ending).streams id = ⟨bytes, ending⟩ := by
    rw [State.push, State.setStream_streams, hempty]
    rfl
  cases reaction with
  | refuse fault => cases hput
  | answer body hsize =>
    cases hput
    have hcut := Frame.cut_header limit hsize []
    rw [List.append_nil] at hcut
    by_cases hfits : body.length ≤ limit
    · rw [if_neg (Nat.not_lt.2 hfits)] at hcut
      refine .inl ⟨body, if_pos hfits, ?_⟩
      rw [takeFrame_of_whole (hstream _ _) hcut, State.push, State.setStream_setStream]
      rfl
    · rw [if_pos (Nat.lt_of_not_le hfits)] at hcut
      refine .inr ⟨if_neg hfits, ?_⟩
      obtain ⟨fault, s', htake, hsame⟩ := takeFrame_of_spoilt (r := r) (hstream _ _)
        fun body rest hwhole => by rw [hcut] at hwhole; cases hwhole
      exact ⟨fault, s', htake, hsame.turns, hsame.nextConnection⟩
  | spoil bytes hspoilt ending =>
    cases hput
    obtain ⟨fault, s', htake, hsame⟩ := takeFrame_of_spoilt (r := r) (hstream _ _) hspoilt
    exact .inr ⟨rfl, fault, s', htake, hsame.turns, hsame.nextConnection⟩

end Responder
end ModelRegistry
