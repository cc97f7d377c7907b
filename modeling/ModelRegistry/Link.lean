import ModelRegistry.Frame.Transport
import ModelRegistry.Server

/-!
# A server as a peer

A `Link` joins a server to its clients: what the server sends waits until the client takes it.  A
connection over the limit is dropped by the server, which its client notices when it speaks.
-/

namespace ModelRegistry

/-- A server with the bytes that its clients have not taken yet. -/
structure Link (β σ : Type) where
  server : Server β σ
  inboxes : List (Nat × Bytes)

namespace Link

variable {β σ : Type}

/-- A server without clients. -/
def new (server : Server β σ) : Link β σ := ⟨server, []⟩

/-- The bytes that wait for a client. -/
def inbox (l : Link β σ) (id : Nat) : Bytes := (l.inboxes.lookup id).getD []

def setInbox (l : Link β σ) (id : Nat) (bytes : Bytes) : Link β σ :=
  { l with inboxes := (id, bytes) :: l.inboxes.filter fun i => i.1 ≠ id }

/-- Work on the server of a link. -/
def onServer {α : Type} (a : Action (Server β σ) α) : Action (Link β σ) α :=
  Action.within (·.server) (fun server l => { l with server }) a

/-- Open a connection. -/
def connect (l : Link β σ) : Nat × Link β σ :=
  let o := Server.accept.run l.server
  (o.value, { l with server := o.state })

/-- Send bytes to the server; whatever it answers waits for the client. -/
def send (l : Link β σ) (id : Nat) (bytes : Bytes) : Except IoFault Unit × Link β σ :=
  if l.server.isOpen id then
    let (output, server) := l.server.feed id bytes
    (.ok (), ({ l with server } : Link β σ).setInbox id (l.inbox id ++ output))
  else (.error .brokenPipe, l)

/-- Take the bytes that wait, up to so many. -/
def receive (l : Link β σ) (id size : Nat) : Bytes × Link β σ :=
  ((l.inbox id).take size, l.setInbox id ((l.inbox id).drop size))

/-- Take the next reply; none when the connection ended before one. -/
def takeReply (l : Link β σ) (limit id : Nat) : Option Reply × Link β σ :=
  match Frame.demand limit (l.inbox id) with
  | (.ok body, rest) => ((Reply.decode limit body).toOption, l.setInbox id rest)
  | (.error _, _) => (none, l.setInbox id [])

/-- Take so many replies behind those in `seen`, which is reversed; none for each that the
connection ended before. -/
def takeReplies (limit id : Nat) (seen : List (Option Reply)) :
    Nat → Link β σ → List (Option Reply) × Link β σ
  | 0, l => (seen.reverse, l)
  | n + 1, l =>
    let (reply, l) := l.takeReply limit id
    takeReplies limit id (reply :: seen) n l

/-- Give a connection up. -/
def close (l : Link β σ) (id : Nat) : Link β σ := { l with server := l.server.drop id }

/-- The server as a peer, for clients that can reach its socket. -/
def peer (reach : Path → Except IoFault Unit) : Peer (Link β σ) where
  connect socket l :=
    match reach socket with
    | .error fault => (.error fault, l)
    | .ok () =>
      let (id, l) := l.connect
      (.ok id, l)
  send id bytes l := l.send id bytes
  receive id size l :=
    let (bytes, l) := l.receive id size
    (.ok bytes, l)
  close id l := l.close id

end Link

/-- The peer of a socket on which nobody listens. -/
def Peer.nobody {τ : Type} (fault : Path → IoFault) : Peer τ where
  connect socket t := (.error (fault socket), t)
  send _ _ t := (.error .brokenPipe, t)
  receive _ _ t := (.ok [], t)
  close _ t := t

end ModelRegistry
