import StreamMux.Endpoint.Basic

/-!
Taking the next item from a producer. Each step does one thing: it ends a pause, starts one,
takes one item, or finds that there is none.
-/
namespace StreamMux

/-- What asking a producer for an item led to. -/
inductive Pull where
  | item (item : Item)
  | ended
  | waiting
  /-- Something else was done first. -/
  | again

namespace Endpoint

/-- The next item that was handed in to a feed. -/
def takeFed (e : Endpoint) (place : Nat) : Poll (Option Item) × Endpoint :=
  match e.feedAt? place with
  | none => (.ready none, e)
  | some feed =>
    match feed.items.pop? with
    | some (item, items) => (.ready (some item), e.setFeedAt place { feed with items })
    | none => (if feed.ended then .ready none else .pending, e)

def reportPull (e : Endpoint) (label : Option String) : Endpoint :=
  match label with
  | some label => e.report (.pulled label)
  | none => e

/-- One step of a source that is not waiting for time to pass. -/
def pullSupply (e : Endpoint) (s : Source) : Pull × Source × Endpoint :=
  match s.supply with
  | .feed place =>
    match e.takeFed place with
    | (.pending, e) => (.waiting, s, e)
    | (.ready (some item), e) => (.item item, s, e)
    | (.ready none, e) => (.ended, { s with finished := true }, e)
  | supply =>
    match supply.next? with
    | some (.item item, supply) => (.item item, { s with supply }, e.reportPull s.label)
    | some (.pause time, supply) =>
      if time = 0 then (.again, { s with supply }, e)
      else
        let (alarm, e) := e.setAlarm (e.clock.now + time)
        (.waiting, { s with supply, alarm := some alarm }, e)
    | none =>
      if s.endless then (.waiting, s, e) else (.ended, { s with finished := true }, e)

def pullSource (e : Endpoint) (s : Source) : Pull × Source × Endpoint :=
  match s.alarm with
  | none => e.pullSupply s
  | some alarm =>
    if e.clock.isDue alarm then (.again, { s with alarm := none }, e) else (.waiting, s, e)

/-- Takes an item of the peer, and reports it if the producer does so. -/
def pullInbound (e : Endpoint) (stream : Nat) (reports : Bool) :
    Poll (Option Item) × Endpoint :=
  let (answer, connection) := e.connection.pollItem stream
  let e := { e with connection }
  match answer with
  | .ready (some item) => (answer, if reports then e.report (.received item) else e)
  | _ => (answer, e)

/-- The producer is done with the items of the peer. -/
def finishIntake (e : Endpoint) (stream : Nat) (p : Producer) : Pull × Producer × Endpoint :=
  (.again, { p with intake := .none }, e.dropInbound stream)

/-- One step of a producer: its first item, then the items of the peer, then its own. -/
def pull (e : Endpoint) (stream : Nat) (p : Producer) : Pull × Producer × Endpoint :=
  match p.first with
  | some payload => (.item (.ok payload), { p with first := none }, e)
  | none =>
    match p.intake with
    | .none | .hold | .keep =>
      let (answer, tail, e) := e.pullSource p.tail
      (answer, { p with tail }, e)
    | .pass (some 0) => e.finishIntake stream p
    | .pass limit =>
      match e.pullInbound stream p.reports with
      | (.pending, e) => (.waiting, p, e)
      | (.ready (some item), e) => (.item item, { p with intake := .pass (limit.map (· - 1)) }, e)
      | (.ready none, e) => e.finishIntake stream p
    | .drain =>
      match e.pullInbound stream p.reports with
      | (.pending, e) => (.waiting, p, e)
      | (.ready (some _), e) => (.again, p, e)
      | (.ready none, e) => e.report .receivedEnd |>.finishIntake stream p

/-- Asking the source would be answered. -/
def sourceIsReady (e : Endpoint) (s : Source) : Bool :=
  match s.alarm with
  | some alarm => e.clock.isDue alarm
  | none =>
    match s.supply with
    | .feed place =>
      match e.feedAt? place with
      | some feed => !feed.items.isEmpty || feed.ended
      | none => true
    | supply => supply.next?.isSome || !s.endless

/-- There is a reason to ask for an item of the peer: the answer is known, or nobody has asked
yet. A consumer that waits is not woken to ask the peer for more. -/
def inboundIsReady (e : Endpoint) (stream : Nat) : Bool :=
  let s := e.connection.stream stream
  match s.consumer with
  | none => true
  | some consumer =>
    consumer.finished || consumer.grantDue || !s.inbox.isEmpty || !s.inboxOpen

/-- There is a reason to ask the producer. -/
def producerIsReady (e : Endpoint) (stream : Nat) (p : Producer) : Bool :=
  p.first.isSome ||
    match p.intake with
    | .none | .hold | .keep => e.sourceIsReady p.tail
    | .pass (some 0) => true
    | .pass _ | .drain => e.inboundIsReady stream

end Endpoint
end StreamMux
