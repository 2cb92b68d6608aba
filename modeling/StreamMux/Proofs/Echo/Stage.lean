import StreamMux.Proofs.Echo.Lane
import StreamMux.Proofs.Exchange.Replenishing
import StreamMux.Proofs.Transfer.Rest

/-!
# A channel whose items come back

One end opens a channel and sends payloads on it, and the application of the other end sends each
of them back. At every moment the payloads lie in this order: taken by the consumer, in its inbox,
on the wire back, with the task of the other end, in the inbox there, on the wire, and still with
the task of this end (`Stage`). Each of the two directions has its own credit (`Lent`).
-/
namespace StreamMux

/-- A channel, how many items each end asks for at a time, and the payloads that are sent on it. -/
structure Echo where
  id : UInt32
  near : UInt32
  far : UInt32
  payloads : List Payload

namespace Echo

/-- What comes back. A channel on which nothing is sent opens with an empty payload, and this is
sent back like any other. -/
def reply : List Payload → List Payload
  | [] => [Payload.empty]
  | payloads => payloads

/-- What the consumer is to get. -/
def items (o : Echo) : List Payload := reply o.payloads

/-- What the consumer is to get, as an order of items. -/
def order (o : Echo) : Order where
  id := o.id
  batch := o.near
  request := Payload.empty
  payloads := o.items
  failure := none

/-- All frames of the channel can be written and read. -/
structure Valid (o : Echo) : Prop where
  stream : IsStreamId o.id
  near : 0 < o.near.toNat
  nearBound : o.near ≤ maxRequestN
  far : 0 < o.far.toNat
  farBound : o.far ≤ maxRequestN
  payloads : ∀ payload ∈ o.payloads, payload.Fits

theorem Valid.items {o : Echo} (v : o.Valid) : ∀ payload ∈ o.items, payload.Fits := by
  intro payload member
  unfold Echo.items reply at member
  split at member
  · rw [List.mem_singleton.mp member]
    simp [Payload.Fits, Payload.empty]
  · exact v.payloads payload member

/-- The application sends back what it gets, this payload before the items of the channel. -/
def repeater (first : Option Payload) : Producer :=
  { first, intake := .pass none, reports := false }

/-- There is nothing more to send back. -/
def exhausted : Producer := { reports := false }

/-! ### The streams of the two ends -/

/-- The stream of the end that opened the channel, while items can come. -/
structure Taking (o : Echo) (s : Exchange) (shut : Bool) (queued : List Payload)
    (delivered : Nat) : Prop where
  id : s.id = o.id
  kind : s.kind = .requesterChannel
  closed : s.closed = { outbound := shut }
  fragments : s.fragments = none
  stopped : s.stopped = false
  inbox : s.inbox.toList = queued.map .ok
  inboxOpen : s.inboxOpen = true
  consumer : s.consumer = some { batch := o.near, delivered }

/-- The stream of the end that sends the items back, while its application takes some. -/
structure Echoing (o : Echo) (t : Exchange) (finished : Bool) (kept : List Payload) (used : Nat)
    (due : Bool) : Prop where
  id : t.id = o.id
  kind : t.kind = .responderChannel
  closed : t.closed = { inbound := finished }
  fragments : t.fragments = none
  started : t.started = true
  stopped : t.stopped = false
  inbox : t.inbox.toList = kept.map .ok
  inboxOpen : t.inboxOpen = !finished
  consumer : t.consumer = some { batch := o.far, delivered := used, grantDue := due }

/-- Its application took all items, and only the end is to be sent. -/
structure Leaving (o : Echo) (t : Exchange) : Prop where
  id : t.id = o.id
  kind : t.kind = .responderChannel
  closed : t.closed = Directions.inboundOnly
  stopped : t.stopped = false
  consumer : t.consumer = none

/-! ### Where the payloads are -/

/-- What the end that opens the channel has to send. -/
inductive Near where
  /-- The first payload is awaited. -/
  | unopened (p : Producer)
  | sending (p : Producer) (held : Option Payload)
  | silent

/-- What the other end has to send. -/
inductive Far where
  | unasked
  | echoing (t : Exchange) (first held : Option Payload)
  | leaving (t : Exchange)
  | finished

/-- What is left to be sent by the end that opened the channel. -/
inductive Feeds (o : Echo) (l : Limiter) (asked used : Nat) (due : Bool) :
    Near → List Payload → Bool → Prop
  | sending {p : Producer} {held : Option Payload} {left : List Payload}
      (refuses : p.intake = .none) (yields : p.Yields left none)
      (credit : Lent o.far l asked used due) :
      Feeds o l asked used due (.sending p held) (held.toList ++ left) false
  | silent : Feeds o l asked used due .silent [] true

/-- Where the payloads are, and what is on the wire in both directions. -/
inductive Stage (o : Echo) (s : Exchange) (up down : List Frame) (got : List Item)
    (ended : Bool) : Near → Far → Prop
  | unopened {p : Producer} (taking : o.Taking s false [] 0) (refuses : p.intake = .none)
      (yields : p.Yields o.payloads none) (credit : Lent o.far s.limiter 0 0 true)
      (unsent : up = []) (nothing : down = []) (untaken : got = []) (goes : ended = false) :
      Stage o s up down got ended (.unopened p) .unasked
  | requested {near : Near} {first : Payload} {rest : List Payload} {frames : List Frame}
      {shut ends silent : Bool} (taking : o.Taking s shut [] 0)
      (feeds : o.Feeds s.limiter 0 0 true near rest shut)
      (asks : up = .payload (.requestChannel o.id o.near first silent) :: frames)
      (upward : Lane o.id o.near frames [] 0 ends) (which : shut = (ends || silent))
      (last : silent = true → ends = false) (nothing : down = []) (untaken : got = [])
      (goes : ended = false) (order : first :: rest = o.items) :
      Stage o s up down got ended near .unasked
  | echoing {near : Near} {t : Exchange} {first held : Option Payload}
      {taken queued back kept sent rest : List Payload} {delivered used asked granted : Nat}
      {shut ends finished due : Bool} (taking : o.Taking s shut queued delivered)
      (feeds : o.Feeds s.limiter granted (sent.length + kept.length + used) due near rest shut)
      (far : o.Echoing t finished kept used due) (upward : Lane o.id o.near up sent asked ends)
      (downward : Lane o.id o.far down back granted false) (which : shut = (ends || finished))
      (last : finished = true → sent = [] ∧ ends = false)
      (credit : Lent o.near t.limiter asked (back.length + queued.length + delivered) false)
      (handed : got = taken.map .ok) (goes : ended = false)
      (order : taken ++ queued ++ back ++ held.toList ++ first.toList ++ kept ++ sent ++ rest =
        o.items) :
      Stage o s up down got ended near (.echoing t first held)
  | leaving {t : Exchange} {taken queued back : List Payload} {delivered asked granted : Nat}
      (taking : o.Taking s true queued delivered) (far : o.Leaving t)
      (upward : Lane o.id o.near up [] asked false)
      (downward : Lane o.id o.far down back granted false) (handed : got = taken.map .ok)
      (goes : ended = false) (order : taken ++ queued ++ back = o.items) :
      Stage o s up down got ended .silent (.leaving t)
  | closing {taken queued back : List Payload} {frames : List Frame}
      {delivered asked granted : Nat} (taking : o.Taking s true queued delivered)
      (upward : Lane o.id o.near up [] asked false)
      (downward : Lane o.id o.far frames back granted false)
      (closes : down = frames ++ [.payload (.completion o.id)]) (handed : got = taken.map .ok)
      (goes : ended = false) (order : taken ++ queued ++ back = o.items) :
      Stage o s up down got ended .silent .finished
  | served {taken queued : List Payload} {asked : Nat} (near : o.order.Served s (queued.map .ok))
      (upward : Lane o.id o.near up [] asked false) (nothing : down = [])
      (handed : got = taken.map .ok) (goes : ended = false) (order : taken ++ queued = o.items) :
      Stage o s up down got ended .silent .finished
  | finished {asked : Nat} {consumer : Consumer} (id : s.id = o.id)
      (closed : s.closed = Directions.both) (gone : s.consumer = some consumer)
      (done : consumer.finished = true) (upward : Lane o.id o.near up [] asked false)
      (nothing : down = []) (all : got = o.items.map .ok) (ends : ended = true) :
      Stage o s up down got ended .silent .finished

variable {o : Echo} {s : Exchange} {up down : List Frame} {got : List Item} {ended : Bool}
  {near : Near} {far : Far}

/-- What the consumer has got is the beginning of what it is to get, and all of it at the end. -/
theorem Stage.begins (h : o.Stage s up down got ended near far) :
    got <+: o.items.map .ok ∧ (ended = true → got = o.items.map .ok) := by
  have part {taken rest : List Payload} (order : taken ++ rest = o.items) :
      taken.map (.ok : Payload → Item) <+: o.items.map .ok := by
    rw [← order, List.map_append]
    exact List.prefix_append _ _
  cases h with
  | unopened taking refuses yields credit unsent nothing untaken goes
  | requested taking feeds asks upward which last nothing untaken goes order =>
    rw [untaken, goes]
    exact ⟨List.nil_prefix, by simp⟩
  | echoing taking feeds far upward downward which last credit handed goes order =>
    rw [handed, goes]
    simp only [List.append_assoc] at order
    exact ⟨part order, by simp⟩
  | leaving taking far upward downward handed goes order
  | closing taking upward downward closes handed goes order =>
    rw [handed, goes]
    rw [List.append_assoc] at order
    exact ⟨part order, by simp⟩
  | served near upward nothing handed goes order =>
    rw [handed, goes]
    exact ⟨part order, by simp⟩
  | finished id closed gone done upward nothing all ends =>
    rw [all]
    exact ⟨List.prefix_refl _, fun _ => rfl⟩

/-- The consumer has the stream of the channel. -/
theorem Stage.id (h : o.Stage s up down got ended near far) : s.id = o.id := by
  cases h with
  | unopened taking | requested taking | echoing taking | leaving taking | closing taking =>
    exact taking.id
  | served near => exact near.id
  | finished id => exact id

end Echo
end StreamMux
