import ModelRegistry.Client
import ModelRegistry.Daemon
import ModelRegistry.Drain
import ModelRegistry.Files
import ModelRegistry.Limiter

/-!
# The server

The server answers each complete frame of a connection with one reply frame, in order.  A frame that
is no message is answered with an error and does not end the connection; one whose length is over
the limit does, and so does a reply for which even the error that would stand in for it is too long.

Calls of all connections are dispatched one at a time.  From the moment that the drain begins every
frame is answered with an error and nothing is dispatched.
-/

namespace ModelRegistry

/-- A daemon that serves connections. -/
structure Server (β σ : Type) where
  daemon : Daemon β σ
  drain : Drain
  limiter : Limiter
  /-- The limit on frames. -/
  limit : Nat
  /-- The open connections, each with the bytes that do not make a frame yet. -/
  connections : List (Nat × Bytes)
  nextConnection : Nat

namespace Server

variable {β σ : Type}

/-- A server without connections. -/
def new (daemon : Daemon β σ) (limit maxConnections : Nat) : Server β σ :=
  { daemon, drain := .new, limiter := .new maxConnections, limit, connections := [],
    nextConnection := 0 }

/-- Work on the daemon of a server. -/
def onDaemon {α : Type} (a : Action (Daemon β σ) α) : Action (Server β σ) α :=
  Action.within (·.daemon) (fun daemon s => { s with daemon }) a

/-- Admit no more calls. -/
def beginDrain (s : Server β σ) : Server β σ := { s with drain := s.drain.begin }

/-! ## Frames -/

/-- The answer to everything once the drain has begun. -/
def shuttingDown : Reply := .error .unavailable "daemon is shutting down"

/-- Answer the body of a frame by dispatching the message in it. -/
def handle (body : Bytes) (s : Server β σ) : Reply × Server β σ :=
  match Message.decode s.limit body with
  | .error e => (.error .invalidParameter e.message, s)
  | .ok message =>
    let (reply, daemon) := s.daemon.dispatch message
    (reply, { s with daemon })

/-- Answer the body of a frame, if calls are still admitted. -/
def answer (body : Bytes) (s : Server β σ) : Reply × Server β σ :=
  match s.drain.track? with
  | none => (shuttingDown, s)
  | some drain =>
    let (reply, s) := handle body { s with drain }
    (reply, { s with drain := s.drain.leave })

/-- The document that is sent for a reply: the reply, an error that says that it is too long, or
none when that is too long as well. -/
def replyDocument (limit : Nat) (reply : Reply) : Option Bytes :=
  match reply.encode limit with
  | .ok document => some document
  | .error e => ((Reply.error .invalidParameter e.message).encode limit).toOption

/-- The frame that is sent for a reply. -/
def replyFrame (limit : Nat) (reply : Reply) : Option Bytes := do
  let document ← replyDocument limit reply
  (Frame.encode limit document).toOption

/-- What comes of the bytes of a connection: the bytes to send, what is left over when the
connection stays open, and the server afterwards. -/
structure Served (β σ : Type) where
  output : Bytes
  left : Option Bytes
  server : Server β σ

/-- Answer every complete frame in the bytes of a connection.  `sent` holds the frames that have
been sent before, in reverse. -/
def serveFrom (sent : List Bytes) (unread : Bytes) (s : Server β σ) : Served β σ :=
  match h : Frame.cut s.limit unread with
  | .oversized .. => ⟨sent.reverse.flatten, none, s⟩
  | .shortHeader | .shortBody => ⟨sent.reverse.flatten, some unread, s⟩
  | .whole body rest =>
    let (reply, s') := answer body s
    match replyFrame s.limit reply with
    | none => ⟨sent.reverse.flatten, none, s'⟩
    | some frame =>
      have : rest.length < unread.length := Frame.cut_whole_lt h
      serveFrom (frame :: sent) rest s'
  termination_by unread.length

/-- Answer every complete frame in the bytes of a connection. -/
def serve (unread : Bytes) (s : Server β σ) : Served β σ := serveFrom [] unread s

theorem serveFrom_eq (sent : List Bytes) (unread : Bytes) (s : Server β σ) :
    serveFrom sent unread s =
      { serve unread s with output := sent.reverse.flatten ++ (serve unread s).output } := by
  unfold serve
  induction hn : unread.length using Nat.strongRecOn generalizing sent unread s with
  | ind n ih =>
    rw [serveFrom, serveFrom.eq_def []]
    split
    · simp
    · simp
    · simp
    · next body rest h =>
      have hlt := Frame.cut_whole_lt h
      simp only
      split
      · simp
      · next frame _ =>
        rw [ih rest.length (by omega) (frame :: sent) rest _ rfl,
          ih rest.length (by omega) [frame] rest _ rfl]
        simp

/-! ## Connections -/

def isOpen (id : Nat) (s : Server β σ) : Bool := s.connections.any fun c => c.1 = id

/-- Accept a connection, or drop it when the limit is reached. -/
def accept : Action (Server β σ) Nat := do
  let s ← Action.get
  let id := s.nextConnection
  match s.limiter.acquire? with
  | none =>
    Action.step fun s => ((), { s with nextConnection := id + 1 })
    Action.report (.connectionLimitReached s.limiter.limit)
  | some limiter =>
    Action.step fun s =>
      ((), { s with limiter, connections := s.connections ++ [(id, [])], nextConnection := id + 1 })
  pure id

/-- Forget a connection and free its place. -/
def drop (id : Nat) (s : Server β σ) : Server β σ :=
  if s.isOpen id then
    { s with
      limiter := s.limiter.release
      connections := s.connections.filter fun c => c.1 ≠ id }
  else s

/-- Take bytes from a connection; the answer is what is sent back. -/
def feed (id : Nat) (bytes : Bytes) (s : Server β σ) : Bytes × Server β σ :=
  match s.connections.lookup id with
  | none => ([], s)
  | some unread =>
    let served := serve (unread ++ bytes) s
    match served.left with
    | none => (served.output, served.server.drop id)
    | some left =>
      (served.output,
        { served.server with
          connections := served.server.connections.map fun c => if c.1 = id then (id, left) else c })

/-! ## The socket -/

/-- Make a socket to listen on, in place of whatever file is there. -/
def openSocket (socket : Path) (t : FileTree) : Except IoFault FileTree := do
  let t ←
    match socket.parent? with
    | none => pure t
    | some parent => t.makeDirectories parent
  let t ← if t.has socket then t.removeFile socket else pure t
  t.bind socket

/-- Remove the socket, if it is still there. -/
def closeSocket (socket : Path) (t : FileTree) : FileTree :=
  (t.removeFile socket).toOption.getD t

end Server
end ModelRegistry
