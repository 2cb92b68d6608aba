import StreamMux.Exchange.Basic

/-!
What this end sends on a stream. An item costs one credit; the end of a direction and a failure
cost none. Each step says whether the sequence goes on.
-/
namespace StreamMux.Exchange

/-- How a step of sending went. -/
inductive Sending where
  /-- The item was sent; the next may follow. -/
  | sent
  /-- There is no credit; the item is kept. -/
  | waiting
  /-- The direction is over. -/
  | over
  deriving DecidableEq, Repr

/-- Sends an item if there is credit for it. -/
def offer (s : Exchange) (payload : Payload) : Sending × Exchange × List Frame :=
  match s.limiter.acquire with
  | (.pending, limiter) => (.waiting, { s with limiter }, [])
  | (.ready (.error _), limiter) => (.over, { s with limiter }, [])
  | (.ready (.ok ()), limiter) =>
    let s := { s with limiter }
    if s.closed.outbound then (.over, s, [])
    else (.sent, s, [.payload (.item s.id payload)])

/-- The sequence of this end is over. -/
def complete (s : Exchange) : Exchange × List Frame :=
  (s.close Directions.outboundOnly,
    if s.closed.outbound then [] else [.payload (.completion s.id)])

/-- The sequence of this end fails, and the stream with it. -/
def failLocally (s : Exchange) (f : Failure) : Exchange × List Frame :=
  (((s.close Directions.both).stop).failInbox f,
    if s.closed.outbound then [] else [f.streamFrame s.id])

/-- The application answers a request-response of the peer. -/
def respond (s : Exchange) (result : Item) : Exchange × List Frame :=
  let frame :=
    match result with
    | .ok payload => .payload (.lastItem s.id payload)
    | .error f => f.streamFrame s.id
  (s.close Directions.outboundOnly, if s.closed.outbound then [] else [frame])

/-- Opens a channel with its first item, unless the consumer is gone already. -/
def openChannel (s : Exchange) (initial : UInt32) (first : Payload) :
    Sending × Exchange × List Frame :=
  if s.isOver then (.over, s, [])
  else (.sent, { s with initiated := true },
    [.payload (.requestChannel s.id initial first false)])

/-- Opens a channel on which this end sends nothing. -/
def openSilentChannel (s : Exchange) (initial : UInt32) : Exchange × List Frame :=
  if s.isOver then (s, [])
  else ({ s with initiated := true }.close Directions.outboundOnly,
    [.payload (.requestChannel s.id initial Payload.empty true)])

/-- The sequence fails before the peer has heard of the channel. -/
def failUnopened (s : Exchange) (f : Failure) : Exchange := (s.close Directions.both).failInbox f

end StreamMux.Exchange
