import StreamMux.Exchange.Basic

/-!
What the peer sends on a stream, and how the consumer takes it. Fragments are put together before
anything is delivered. The consumer asks for more once it took as many items as it asked for and
finds its inbox empty; giving up before the end tells the peer so.
-/
namespace StreamMux.Exchange

/-- Closes directions for the consumer of this end. The peer is told if it knows of the stream
and was still sending. -/
def cancelLocally (s : Exchange) (sides : Directions) : Exchange × List Frame :=
  let notify := s.initiated && sides.inbound && !s.closed.inbound
  let s := s.close sides
  let s := if sides.outbound then s.stop else s
  (s, if notify then [.cancel s.id] else [])

/-- The consumer goes away. On a stream of this end that ends both directions, on a channel of
the peer the inbound one. -/
def dropConsumer (s : Exchange) : Exchange × List Frame :=
  match s.consumer with
  | none => (s, [])
  | some consumer =>
    let s := { s with consumer := none }
    if consumer.finished then (s, [])
    else if s.kind.isRequester then s.cancelLocally Directions.both
    else s.cancelLocally Directions.inboundOnly

/-- The consumer asks for the next item. -/
def poll (s : Exchange) : Poll (Option Item) × Exchange × List Frame :=
  match s.consumer with
  | none => (.ready none, s, [])
  | some consumer =>
    if consumer.finished then (.ready none, s, [])
    else
      match s.inbox.pop? with
      | some (.ok payload, inbox) =>
        let consumer := { consumer with delivered := consumer.delivered + 1 }
        (.ready (some (.ok payload)), { s with inbox, consumer := some consumer }, [])
      | some (.error f, inbox) =>
        let consumer := { consumer with finished := true }
        (.ready (some (.error f)), { s with inbox, consumer := some consumer }, [])
      | none =>
        if !s.inboxOpen then
          (.ready none, { s with consumer := some { consumer with finished := true } }, [])
        else if consumer.grantDue then
          let consumer := { consumer with grantDue := false }
          (.pending, { s with consumer := some consumer }, [.requestN s.id consumer.batch])
        else if consumer.batch < maxRequestN ∧ consumer.batch.toNat ≤ consumer.delivered then
          let consumer := { consumer with delivered := 0 }
          (.pending, { s with consumer := some consumer }, [.requestN s.id consumer.batch])
        else (.pending, s, [])

/-- What a payload-carrying frame leads to: the stream, frames to write, and the payload with
which the application's work starts. -/
structure Reception where
  stream : Exchange
  frames : List Frame := []
  started : Option Payload := none

/-- How the application takes up a channel: the size of its requests for items, and whether it
keeps the items of the peer or refuses them at once. -/
structure Uptake where
  batch : UInt32
  keepsItems : Payload → Bool

/-- The first payload starts the work of a stream that the peer opened; later ones are items of
a channel. On a stream of this end a payload is the answer, or an item. -/
def deliver (s : Exchange) (uptake : Uptake) (payload : Payload) : Reception :=
  match s.kind with
  | .requesterResponse =>
    { stream := (s.settle (.ok payload)).close Directions.inboundOnly }
  | .requesterStream | .requesterChannel => { stream := s.deposit (.ok payload) }
  | kind =>
    if s.started then
      { stream := if kind = .responderChannel then s.deposit (.ok payload) else s }
    else
      let s := { s with started := true }
      match kind with
      | .responderFireAndForget => { stream := s.close Directions.both, started := some payload }
      | .responderChannel =>
        let consumer := { batch := max uptake.batch 1, grantDue := true }
        let s := { s with consumer := some consumer }
        if uptake.keepsItems payload then { stream := s, started := some payload }
        else
          let (s, frames) := s.dropConsumer
          { stream := s, frames, started := some payload }
      | _ => { stream := s.close Directions.inboundOnly, started := some payload }

/-- The peer sends nothing more. -/
def completeInbound (s : Exchange) : Exchange :=
  match s.kind with
  | .requesterResponse => (s.settle (.ok Payload.empty)).close Directions.inboundOnly
  | .requesterStream | .requesterChannel | .responderChannel =>
    s.endInbox.close Directions.inboundOnly
  | _ => s

/-- The frame has a part in a payload: it carries an item, opens a stream, or continues what has
begun. -/
def carriesPayload (s : Exchange) (f : PayloadFrame) : Bool :=
  f.next || f.type.opensStream || s.fragments.isSome

/-- A payload-carrying frame. Completion ends a payload even if more was announced. -/
def receive (s : Exchange) (uptake : Uptake) (f : PayloadFrame) : Reception :=
  if s.closed.inbound then { stream := s }
  else
    let payload :=
      match s.fragments with
      | none => f.payload
      | some begun => begun.append f.payload
    let carries := s.carriesPayload f
    if carries && f.follows && !f.complete then { stream := { s with fragments := some payload } }
    else
      let r : Reception :=
        if carries then { s with fragments := none }.deliver uptake payload else { stream := s }
      if f.complete then { r with stream := r.stream.completeInbound } else r

/-- The peer asks for `n` more items. -/
def grant (s : Exchange) (n : Nat) : Exchange :=
  if s.kind.needsCredit then { s with limiter := s.limiter.grant n } else s

/-- The peer takes no more items. That ends one direction of a channel of this end, and all of a
stream that the peer opened. -/
def cancelByPeer (s : Exchange) : Exchange :=
  match s.kind with
  | .requesterChannel => (s.close Directions.outboundOnly).stop
  | .requesterResponse | .requesterStream => s
  | _ => (s.close Directions.both).stop.failInbox (.canceled "stream canceled by requester")

/-- The caller of a request-response does not wait any longer. -/
def abandon (s : Exchange) : Exchange × List Frame :=
  (s.close Directions.both, if s.closed.inbound then [] else [.cancel s.id])

end StreamMux.Exchange
