import ModelRegistry.Frame
import ModelRegistry.Path
import ModelRegistry.Wire

/-!
# The client

A client is a backend whose answers come from the other end of a socket.  For each call it sends one
request frame and takes one reply frame; the connection is opened for the first call and given up
after any fault, so that the next call starts on a fresh one.

A `Peer` is any machine at the other end.  What it does with a request, and whether it answers at
all, is its own business.
-/

namespace ModelRegistry

/-- A machine with states of type `τ` that accepts connections and speaks on them. -/
structure Peer (τ : Type) where
  /-- Open a connection to the socket at a path. -/
  connect : Path → τ → Except IoFault Nat × τ
  send : Nat → Bytes → τ → Except IoFault Unit × τ
  /-- The next bytes, at most as many as asked for, and fewer only where the stream ends. -/
  receive : Nat → Nat → τ → Except IoFault Bytes × τ
  /-- Give a connection up. -/
  close : Nat → τ → τ

/-- Where a client connects, and the limit on its frames. -/
structure Address where
  socket : Path
  limit : Nat
  deriving DecidableEq, Repr

/-- A client with the peer it talks to. -/
structure Client (τ : Type) where
  connection : Option Nat
  peer : τ

/-! ## What a reply means -/

/-- The refusal of a reply that does not fit the call. -/
def Reply.unexpected (r : Reply) : Refusal := ⟨.io, "unexpected reply: " ++ r.describe⟩

/-- A result, unless the status is one of failure. -/
def unlessFailed {α : Type} (status : Status) (message : String) (result : α) :
    Except Refusal α :=
  if status = .ok then .ok result else .error ⟨status, message⟩

namespace Reply

/-- The answer in a reply that should carry a version. -/
def toVersion : Reply → Except Refusal UInt32
  | version v s => unlessFailed s "register failed" v
  | error s m => .error ⟨s, m⟩
  | r => .error r.unexpected

/-- The answer in a reply that should carry a text. -/
def toInfo : Reply → Except Refusal String
  | info i s => unlessFailed s "lookup failed" i
  | error s m => .error ⟨s, m⟩
  | r => .error r.unexpected

/-- The answer in a reply that should carry a status. -/
def toStatus : Reply → Except Refusal Unit
  | status s => unlessFailed s "call failed" ()
  | error s m => .error ⟨s, m⟩
  | r => .error r.unexpected

/-- The answer to a call in its reply. -/
def toAnswer (r : Reply) : (c : Call) → Answer c
  | .register .. => r.toVersion
  | .get .. | .getActive .. | .getAll .. => r.toInfo
  | .describe .. | .activate .. | .delete .. | .setPipeline .. | .addResource .. => r.toStatus

end Reply

namespace Client

variable {τ : Type}

/-- A client that has not connected yet. -/
def new (peer : τ) : Client τ := ⟨none, peer⟩

/-! ## Exchanges -/

/-- The connection of a client, opened if there is none. -/
def connect (machine : Peer τ) (address : Address) (c : Client τ) :
    Except IoFault Nat × Client τ :=
  match c.connection with
  | some id => (.ok id, c)
  | none =>
    match machine.connect address.socket c.peer with
    | (.error fault, peer) => (.error fault, { c with peer })
    | (.ok id, peer) => (.ok id, { connection := some id, peer })

/-- Take exactly so many bytes. -/
def fill (machine : Peer τ) (id size : Nat) (peer : τ) : Except IoFault Bytes × τ :=
  match machine.receive id size peer with
  | (.error fault, peer) => (.error fault, peer)
  | (.ok bytes, peer) =>
    if bytes.length < size then (.error .unexpectedEnd, peer) else (.ok (bytes.take size), peer)

/-- Take one frame. -/
def takeFrame (machine : Peer τ) (limit id : Nat) (peer : τ) : Except IoFault Bytes × τ :=
  match fill machine id Frame.headerSize peer with
  | (.error fault, peer) => (.error fault, peer)
  | (.ok header, peer) =>
    let size := Frame.number header
    if limit < size then (.error (.frameTooLarge size limit), peer)
    else fill machine id size peer

/-- Send one frame. -/
def sendFrame (machine : Peer τ) (limit id : Nat) (body : Bytes) (peer : τ) :
    Except IoFault Unit × τ :=
  match Frame.encode limit body with
  | .error fault => (.error fault, peer)
  | .ok frame => machine.send id frame peer

/-- Send a request and take the reply. -/
def exchange (machine : Peer τ) (address : Address) (request : Bytes) (c : Client τ) :
    Except IoFault Bytes × Client τ :=
  match c.connect machine address with
  | (.error fault, c) => (.error fault, c)
  | (.ok id, c) =>
    match sendFrame machine address.limit id request c.peer with
    | (.error fault, peer) => (.error fault, { c with peer })
    | (.ok (), peer) =>
      let (result, peer) := takeFrame machine address.limit id peer
      (result, { c with peer })

/-- Give the connection up. -/
def disconnect (machine : Peer τ) (c : Client τ) : Client τ :=
  match c.connection with
  | none => c
  | some id => ⟨none, machine.close id c.peer⟩

/-! ## Calls -/

/-- Make a call and wait for the reply. -/
def call (machine : Peer τ) (address : Address) (call : Call) (c : Client τ) :
    Except Refusal Reply × Client τ :=
  match (Message.toModel call).encode address.limit with
  | .error e => (.error (.invalidParameter e.message), c)
  | .ok request =>
    match c.exchange machine address request with
    | (.error fault, c) =>
      (.error ⟨.io, address.socket.text ++ ": " ++ fault.message⟩, c.disconnect machine)
    | (.ok body, c) =>
      match Reply.decode address.limit body with
      | .error e => (.error ⟨.io, "malformed reply: " ++ e.message⟩, c)
      | .ok reply => (.ok reply, c)

/-- The client as a backend. -/
def backend (machine : Peer τ) (address : Address) : Backend (Client τ) := fun call c =>
  match c.call machine address call with
  | (.error refusal, c) => (.error refusal, c)
  | (.ok reply, c) => (reply.toAnswer call, c)

end Client
end ModelRegistry
