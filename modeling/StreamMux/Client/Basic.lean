import StreamMux.Client.Config
import StreamMux.Network.Link

/-!
A client: its settings, the application that answers the server, and the connection once there is
one. Every operation needs a connection; one that ended is still there until it is closed, and
fails requests with its cause.
-/
namespace StreamMux

/-- A client, with the connection that it has made, if any. -/
structure Client where
  config : ClientConfig
  application : Application := .empty
  link : Option World := none
  deriving Inhabited

namespace Client

/-- There is a connection, and it has not ended. -/
def isConnected (c : Client) : Bool := c.link.any (·.near.connection.isActive)

/-- The client's end before anything happened. -/
def endpoint (c : Client) : Endpoint :=
  World.newEndpoint .client c.config.connection (some c.config.setup) c.application

/-- Dials the server and announces the client. -/
def connect (network : Network) (c : Client) : Except ClientError Client := do
  if c.isConnected then throw .alreadyConnected
  c.config.validate
  match network c.config.address with
  | .failed error => throw (.io error)
  | .timedOut => throw .timeout
  | .server acceptor settings =>
    let w : World := { near := c.endpoint }
    return { c with link := some (w.run.serve acceptor settings).run }

/-- Closes the connection, if there is one. -/
def close (c : Client) : Client := { c with link := none }

end Client

/-- An operation of a client. What it did to the connection stays also if it fails. -/
abbrev Operation (α : Type) := ExceptT ClientError (StateM Client) α

namespace Operation

/-- Runs an operation. -/
def on {α : Type} (op : Operation α) (c : Client) : Except ClientError α × Client :=
  (ExceptT.run op).run c

/-- Something done on the connection. -/
def onLink {α : Type} (f : World → α × World) : Operation α := do
  match (← get).link with
  | none => throw .notConnected
  | some w =>
    let (result, w) := f w
    modify ({ · with link := some w })
    return result

/-- Something done at once that may fail. Nothing if it does not come back. -/
def attempt (f : Endpoint → Poll (Except Failure Unit) × Endpoint) : Operation (Option Unit) := do
  match ← onLink (·.look f) with
  | .ready (.error cause) => throw (.failure cause)
  | .ready (.ok ()) => return some ()
  | .pending => return none

def fireAndForget (payload : Payload) : Operation (Option Unit) :=
  attempt (·.fireAndForget payload)

def metadataPush (metadata : ByteArray) : Operation (Option Unit) :=
  attempt (·.pushMetadata metadata)

/-- The answer to a request. Nothing if the server never gives one. -/
def requestResponse (payload : Payload) : Operation (Option Payload) := do
  match ← onLink (·.response payload) with
  | some (.error cause) => throw (.failure cause)
  | some (.ok payload) => return some payload
  | none => return none

def requestStream (payload : Payload) (batch : Option UInt32) (limit : Option Nat) :
    Operation (List Item) :=
  onLink (·.stream payload batch limit)

def requestChannel (sent : List Item) (batch : Option UInt32) (limit : Option Nat) :
    Operation (List Item) :=
  onLink (·.channel sent batch limit)

/-- Why the connection ended, once it has. -/
def closedCause : Operation (Option Failure) :=
  onLink fun w => (w.near.connection.terminal, w)

end Operation
end StreamMux
