import StreamMux.Server.Admission
import StreamMux.World

/-!
Reaching a server: what dialing an address leads to, and the first exchange on a fresh
connection. The client announces itself; the server admits it and takes its end, or tells it why
not and hangs up.
-/
namespace StreamMux

/-- What dialing an address leads to. -/
inductive Reach where
  | failed (error : IoError)
  | timedOut
  | server (acceptor : Acceptor) (settings : Settings)

/-- What can be reached, by address. -/
abbrev Network := SocketAddress → Reach

/-- The network of a machine that is connected to nothing. -/
def Network.unreachable : Network := fun _ => .failed (.system .networkUnreachable)

namespace World

/-- A server turns the far end away: an ERROR frame, and nothing after it. -/
def turnAway (w : World) (cause : Failure) : World :=
  let incoming :=
    match cause.closingFrame.encode with
    | .ok bytes => (w.incoming.write bytes).toOption.getD w.incoming
    | .error _ => w.incoming
  { w with incoming := incoming.shutdown, outgoing := w.outgoing.dropReader }

/-- A server takes the far end once the first frame is there. -/
def serve (w : World) (acceptor : Acceptor) (settings : Settings) : World :=
  match w.outgoing.read with
  | (.ready (some first), outgoing) =>
    let w := { w with outgoing }
    match admission acceptor first with
    | .ok (setup, application) =>
      let config := setup.connectionConfig settings.prefetch
      let far := newEndpoint .server config none application
      { w with far := some { far with clock := w.clock } }
    | .error cause => w.turnAway cause
  | _ => w

/-! ### Waiting -/

/-- Lets time pass up to the next alarm, if there is one. -/
def awaitAlarm (w : World) : World :=
  match w.alarms with
  | [] => w
  | first :: _ => w.advance (first.1.due - w.clock.now)

/-- Asks for what a request gives, and lets everything run that asking set off. -/
def look {α : Type} (w : World) (poll : Endpoint → Poll α × Endpoint) : Poll α × World :=
  let (answer, w) := w.act .near poll
  (answer.getD .pending, w.run)

/-- Asks until there is an answer, for so many alarms at most. Asking may itself bring the answer
about, so time passes only after the second look. -/
def await {α : Type} (poll : Endpoint → Poll α × Endpoint) : Nat → World → Option α × World
  | 0, w => (none, w)
  | alarms + 1, w =>
    match w.look poll with
    | (.ready value, w) => (some value, w)
    | (.pending, w) =>
      match w.look poll with
      | (.ready value, w) => (some value, w)
      | (.pending, w) => await poll alarms w.awaitAlarm

/-- How many alarms are waited for. -/
def patience : Nat := 100000

/-- The answer to a request. Nothing if it does not come. -/
def response (w : World) (payload : Payload) : Option Item × World :=
  let name := "response"
  match w.act .near (·.requestResponse name payload) with
  | (some (.ready item), w) => (some item, w.run)
  | (_, w) =>
    await (fun e =>
      match e.request? name with
      | some (.response stream) => e.pollResponse name stream
      | _ => (.pending, e)) patience w.run

/-- The items of the request with a name up to its end, or so many of them. -/
def collect (name : String) : Nat → World → List Item × World
  | 0, w => ([], w)
  | limit + 1, w =>
    match await (·.pollItem name) patience w with
    | (some (some item), w) =>
      let (items, w) := collect name limit w
      (item :: items, w)
    | (_, w) => ([], w)

/-- Items of a request, after which it is let go of. -/
def items (w : World) (name : String) (limit : Option Nat) : List Item × World :=
  let (items, w) := collect name (limit.getD stepLimit) w
  let (_, w) := w.act .near fun e => ((), e.dropRequest name)
  (items, w.run)

/-- The items of a stream. -/
def stream (w : World) (payload : Payload) (batch : Option UInt32) (limit : Option Nat) :
    List Item × World :=
  let name := "stream"
  let (_, w) := w.act .near fun e => ((), e.requestStream name payload batch)
  w.items name limit

/-- The items that come back on a channel. -/
def channel (w : World) (sent : List Item) (batch : Option UInt32) (limit : Option Nat) :
    List Item × World :=
  let name := "channel"
  let (_, w) := w.act .near fun e => ((), e.requestChannel name (Source.ofItems sent) batch)
  w.items name limit

end World
end StreamMux
