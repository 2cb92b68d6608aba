import StreamMux.Clock
import StreamMux.Failure

/-!
Applications, described by what they do when they are called. A job has one result, now, later
or never; a source gives items one after the other; a producer answers a stream or a channel
with the items of a source, and can pass on or consume what the peer sends before that.
-/
namespace StreamMux

/-- Something that can be seen of an application at work. -/
inductive Event where
  | metadataPush (metadata : ByteArray)
  | fireAndForget (payload : Payload)
  | requestResponse (payload : Payload)
  | requestStream (payload : Payload)
  | requestChannel (payload : Payload)
  /-- An item was taken from the source with this label. -/
  | pulled (label : String)
  /-- An item of the peer was taken. -/
  | received (item : Item)
  /-- The items of the peer were taken to their end. -/
  | receivedEnd

/-- Work with one result. -/
structure Job (α : Type) where
  delay : Duration := 0
  /-- No result: the work never ends. -/
  result : Option (Except Failure α)

/-- What a source holds: an item, or a time to wait before the next one. -/
inductive Entry where
  | item (item : Item)
  | pause (time : Duration)

/-- Where the items of a source come from. -/
inductive Supply where
  | entries (list : List Entry)
  | copies (payload : Payload) (count : Nat)
  /-- The numbers from `next` to below `bound`, in decimal. -/
  | numbers (next bound : Nat)
  /-- Items handed in from outside. A feed is named by its place. -/
  | feed (place : Nat)

/-- The next entry of a supply that is not fed. -/
def Supply.next? : Supply → Option (Entry × Supply)
  | entries [] => none
  | entries (e :: rest) => some (e, entries rest)
  | copies _ 0 => none
  | copies payload (count + 1) => some (.item (.ok payload), copies payload count)
  | numbers next bound =>
    if next < bound then
      some (.item (.ok (Payload.ofText (toString next))), numbers (next + 1) bound)
    else none
  | feed _ => none

/-- Items that an application gives one after the other. -/
structure Source where
  /-- Under which name takings and the loss of the source are reported, if at all. -/
  label : Option String := none
  supply : Supply := .entries []
  /-- After the last item it does not end. -/
  endless : Bool := false
  /-- The time that is being waited for. -/
  alarm : Option Alarm := none
  finished : Bool := false

/-- A source that has its items at hand. -/
def Source.ofItems (items : List Item) : Source := { supply := .entries (items.map .item) }

/-- What a producer does with the items of the peer before it comes to its own. -/
inductive Intake where
  /-- They are refused. -/
  | none
  /-- They are passed on, at most so many if a limit is given. -/
  | pass (limit : Option Nat)
  /-- They are taken to their end. -/
  | drain
  /-- They are kept, but not taken, as long as the producer is there. -/
  | hold
  /-- They are kept by the application, which comes back to them when it likes, whatever becomes
  of the producer. -/
  | keep
  deriving DecidableEq, Repr

/-- How an application answers a stream or a channel: the first item, what becomes of the peer's
items, and the items that follow. -/
structure Producer where
  first : Option Payload := none
  intake : Intake := .none
  /-- Items taken from the peer are reported. -/
  reports : Bool := true
  tail : Source := {}

/-- What an application does in each interaction; what is missing is refused. -/
structure Application where
  /-- Calls are reported. -/
  reports : Bool := true
  metadataPush : Option (ByteArray → Job Unit) := none
  fireAndForget : Option (Payload → Job Unit) := none
  requestResponse : Option (Payload → Job Payload) := none
  requestStream : Option (Payload → Producer) := none
  requestChannel : Option (Payload → Producer) := none

namespace Application

/-- The application that refuses everything. -/
def empty : Application := {}

instance : Inhabited Application := ⟨empty⟩

/-- Answers each request with what it holds; a stream repeats it so many times. -/
def echo (repeats : Nat) : Application where
  reports := false
  metadataPush := some fun _ => { result := some (.ok ()) }
  fireAndForget := some fun _ => { result := some (.ok ()) }
  requestResponse := some fun payload => { result := some (.ok payload) }
  requestStream := some fun payload => { tail := { supply := .copies payload repeats } }
  requestChannel := some fun payload =>
    { first := some payload, intake := .pass none, reports := false }

/-- How often an echo repeats a payload unless told otherwise. -/
def defaultRepeats : Nat := 16

def notImplemented (interaction : String) : Failure :=
  .application (interaction ++ " is not implemented")

def refusedJob {α : Type} (interaction : String) : Job α :=
  { result := some (.error (notImplemented interaction)) }

def refusedProducer (interaction : String) : Producer :=
  { tail := Source.ofItems [.error (notImplemented interaction)] }

def onPush (a : Application) (metadata : ByteArray) : Job Unit :=
  (a.metadataPush.map (· metadata)).getD (refusedJob "metadata push")

def onForget (a : Application) (payload : Payload) : Job Unit :=
  (a.fireAndForget.map (· payload)).getD (refusedJob "fire and forget")

def onResponse (a : Application) (payload : Payload) : Job Payload :=
  (a.requestResponse.map (· payload)).getD (refusedJob "request response")

def onStream (a : Application) (payload : Payload) : Producer :=
  (a.requestStream.map (· payload)).getD (refusedProducer "request stream")

def onChannel (a : Application) (payload : Payload) : Producer :=
  (a.requestChannel.map (· payload)).getD (refusedProducer "request channel")

/-- Called with a channel's first payload, the application keeps the items of the peer. -/
def keepsItems (a : Application) (payload : Payload) : Bool :=
  (a.onChannel payload).intake ≠ .none

end Application
end StreamMux
