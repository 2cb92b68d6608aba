import StreamMux.FrameQueue.Receiver
import StreamMux.Proofs.Trace

/-!
# The two lanes of a frame queue

Each lane gives back what it took in, in its order and once (`Run.accounts`); the normal lane is
looked at only when the priority lane is empty (`FrameQueue.Takes`). Whether the one that takes
frames finds one at once or waits for it makes no difference, as long as somebody can add frames.

Source: `FrameQueue.tryDequeue`, `FrameQueue.dequeue`, `FrameQueue.resumeDequeue`, `Receiver`.
-/
namespace StreamMux

/-! ### Lanes -/

namespace FrameQueue

/-- One of the two lanes. -/
inductive Lane where
  | priority
  | normal
  deriving DecidableEq

/-- What waits in a lane, oldest first. -/
def lane (q : FrameQueue) : Lane → List Frame
  | .priority => q.priority.toList
  | .normal => q.normal.toList

/-- Adds a frame to a lane. -/
def put (q : FrameQueue) (frame : Frame) : Lane → FrameQueue
  | .priority => q.enqueuePriority frame
  | .normal => q.enqueue frame

variable {q : FrameQueue}

theorem lane_put (q : FrameQueue) (frame : Frame) (into lane : Lane) :
    (q.put frame into).lane lane =
      q.lane lane ++ if q.accepts = true ∧ into = lane then [frame] else [] := by
  cases accepts : q.accepts with
  | true =>
    cases into <;> cases lane <;>
      simp [put, FrameQueue.lane, enqueuePriority, enqueue, accepts]
  | false =>
    cases into <;> simp [put, enqueuePriority, enqueue, accepts]

theorem put_same (q : FrameQueue) (frame : Frame) (into : Lane) :
    (q.put frame into).cause = q.cause ∧ (q.put frame into).hasProducer = q.hasProducer ∧
      (q.put frame into).hasConsumer = q.hasConsumer := by
  cases accepts : q.accepts <;> cases into <;> simp [put, enqueuePriority, enqueue, accepts]

/-- What taking a frame comes to. -/
inductive Takes (q : FrameQueue) : Option (Frame × FrameQueue) → Prop
  | urgent {frame : Frame} {priority : Fifo Frame}
      (first : q.lane .priority = frame :: priority.toList) :
      Takes q (some (frame, { q with priority }))
  | plain {frame : Frame} {normal : Fifo Frame} (none : q.lane .priority = [])
      (first : q.lane .normal = frame :: normal.toList) :
      Takes q (some (frame, { q with normal }))
  | nothing (empty : ∀ lane, q.lane lane = []) : Takes q none

theorem takes (q : FrameQueue) : q.Takes q.tryDequeue := by
  unfold tryDequeue
  cases urgent : q.priority.pop? with
  | some taken => exact .urgent (Fifo.pop?_eq_some urgent)
  | none =>
    have none : q.lane .priority = [] := (Fifo.pop?_eq_none_iff _).mp urgent
    cases plain : q.normal.pop? with
    | some taken => exact .plain none (Fifo.pop?_eq_some plain)
    | none =>
      refine .nothing fun lane => ?_
      cases lane with
      | priority => exact none
      | normal => exact (Fifo.pop?_eq_none_iff _).mp plain

/-- As long as somebody can add frames, asking again is asking. -/
theorem resumeDequeue_eq (producer : q.hasProducer = true) : q.resumeDequeue = q.dequeue := by
  unfold resumeDequeue
  cases urgent : q.priority.pop? with
  | some taken => simp [dequeue, tryDequeue, urgent]
  | none => simp [producer]

end FrameQueue

/-! ### A queue in use -/

namespace Receiver

open FrameQueue (Lane)

/-- Something that is done with a queue. -/
inductive Use where
  | put (lane : Lane) (frame : Frame)
  | close (cause : Failure)
  | tryNext
  | next
  /-- The wait for the next frame is given up. -/
  | giveUp

/-- What comes back. -/
inductive Given where
  | nothing
  | accepted (accepted : Bool)
  | found (frame : Option Frame)
  | answer (answer : Poll (Except Failure Frame))

/-- The frame that was handed out. -/
def Given.frame? : Given → Option Frame
  | found frame => frame
  | answer (.ready (.ok frame)) => some frame
  | _ => none

def use (r : Receiver) : Use → Given × Receiver
  | .put lane frame => (.accepted r.accepts, { r with queue := r.queue.put frame lane })
  | .close cause => (.nothing, { r with queue := r.queue.close cause })
  | .tryNext => (.found r.tryNext.1, r.tryNext.2)
  | .next => (.answer r.next.1, r.next.2)
  | .giveUp => (.nothing, { r with waiting := false })

/-- A use, in the state in which it was made. -/
structure Event where
  before : Receiver
  use : Use

namespace Event

def given (event : Event) : Given := (event.before.use event.use).1

def after (event : Event) : Receiver := (event.before.use event.use).2

/-- What was taken into a lane. -/
def accepted (event : Event) (lane : Lane) : List Frame :=
  match event.use, event.given with
  | .put into frame, .accepted true => if into = lane then [frame] else []
  | _, _ => []

/-- What a lane lost. -/
def left (event : Event) (lane : Lane) : List Frame :=
  (event.before.queue.lane lane).take
    ((event.before.queue.lane lane).length - (event.after.queue.lane lane).length)

/-- The cause, if the queue was closed. -/
def cause? (event : Event) : Option Failure :=
  match event.use with
  | .close cause => some cause
  | _ => none

end Event

/-- A fresh queue, and all that was done with it. Nobody tries to take a frame while waiting for
one. -/
inductive Run : List Event → Receiver → Prop
  | start : Run [] {}
  | step {past : List Event} {r : Receiver} (run : Run past r) (use : Use)
      (free : use = .tryNext → r.isBusy = false) : Run (past ++ [⟨r, use⟩]) (r.use use).2

/-- All that was taken into a lane. -/
def accepted (past : List Event) (lane : Lane) : List Frame := past.flatMap (·.accepted lane)

/-- All that has left a lane. -/
def left (past : List Event) (lane : Lane) : List Frame := past.flatMap (·.left lane)

/-- The causes with which the queue was closed. -/
def causes (past : List Event) : List Failure := past.filterMap (·.cause?)

variable {past : List Event} {r : Receiver} {event : Event} {lane : Lane}

/-! ### What a use comes to -/

theorem Event.left_of_append {removed : List Frame}
    (split : event.before.queue.lane lane = removed ++ event.after.queue.lane lane) :
    event.left lane = removed := by
  rw [Event.left, split, List.length_append, Nat.add_sub_cancel, List.take_left]

theorem Event.left_of_grown {added : List Frame}
    (grown : event.after.queue.lane lane = event.before.queue.lane lane ++ added) :
    event.left lane = [] := by
  rw [Event.left, grown, List.length_append, Nat.sub_eq_zero_of_le (Nat.le_add_right _ _),
    List.take_zero]

/-- As long as somebody can add frames, it makes no difference whether one waited for the frame. -/
theorem next_eq (producer : r.queue.hasProducer = true) :
    r.next = match r.queue.tryDequeue with
      | some (frame, queue) => (.ready (.ok frame), { queue })
      | none =>
        if r.queue.isClosed then (.ready (.error r.queue.finalCause), { queue := r.queue })
        else (.pending, { queue := r.queue, waiting := true }) := by
  have same : (if r.waiting then r.queue.resumeDequeue else r.queue.dequeue) =
      r.queue.dequeue := by
    rw [FrameQueue.resumeDequeue_eq producer, ite_self]
  rw [next, same, FrameQueue.dequeue]
  cases r.queue.tryDequeue with
  | some taken => rfl
  | none =>
    rw [producer]
    cases closed : r.queue.isClosed <;> rfl

/-- What is taken is what the queue gives. -/
theorem Event.takes (producer : event.before.queue.hasProducer = true)
    (asks : event.use = .tryNext ∨ event.use = .next) :
    ∃ result, event.before.queue.Takes result ∧ event.given.frame? = result.map (·.1) ∧
      event.after.queue = (result.map (·.2)).getD event.before.queue := by
  obtain ⟨r, use⟩ := event
  refine ⟨r.queue.tryDequeue, r.queue.takes, ?_⟩
  rcases asks with rfl | rfl
  · simp only [Event.given, Event.after, Receiver.use, tryNext, Given.frame?]
    cases r.queue.tryDequeue <;> exact ⟨rfl, rfl⟩
  · simp only [Event.given, Event.after, Receiver.use, next_eq producer]
    cases r.queue.tryDequeue with
    | some taken => exact ⟨rfl, rfl⟩
    | none => cases r.queue.isClosed <;> exact ⟨rfl, rfl⟩

/-- An answer that is not a frame tells of an empty queue whether it is closed. -/
theorem Event.told {answer : Poll (Except Failure Frame)}
    (producer : event.before.queue.hasProducer = true) (given : event.given = .answer answer)
    (none : event.given.frame? = none) :
    (∀ lane, event.before.queue.lane lane = []) ∧
      answer = if event.before.queue.isClosed then .ready (.error event.before.queue.finalCause)
        else .pending := by
  obtain ⟨r, use⟩ := event
  cases use with
  | next =>
    simp only [Event.given, Receiver.use, next_eq producer] at given none
    have takes := r.queue.takes
    cases taken : r.queue.tryDequeue with
    | some taken' =>
      rw [taken] at none
      simp [Given.frame?] at none
    | none =>
      rw [taken] at given takes
      cases takes with
      | nothing empty =>
        refine ⟨empty, ?_⟩
        injection given with given
        rw [← given]
        cases r.queue.isClosed <;> rfl
  | _ => simp [Event.given, Receiver.use] at given

/-- What a use does to the lanes: they take in a frame, or keep what they have, or the first frame
of one of them is handed out. The normal lane gives one only when the priority lane has none. -/
inductive Event.Moves (event : Event) : Prop
  | grows (none : event.given.frame? = none)
      (lanes : ∀ lane, event.after.queue.lane lane =
        event.before.queue.lane lane ++ event.accepted lane)
  | gives (frame : Frame) (own : Lane) (handed : event.given.frame? = some frame)
      (lanes : ∀ lane, event.before.queue.lane lane =
        (if own = lane then [frame] else []) ++ event.after.queue.lane lane)
      (nothing : ∀ lane, event.accepted lane = [])
      (last : own = .normal → event.before.queue.lane .priority = [])

/-- A frame that is put is told to be accepted if and only if it is taken in. -/
theorem Event.accepted_put {r : Receiver} (producer : r.queue.hasProducer = true) (into : Lane)
    (frame : Frame) (lane : Lane) :
    Event.accepted ⟨r, .put into frame⟩ lane =
      if r.queue.accepts = true ∧ into = lane then [frame] else [] := by
  cases accepts : r.queue.accepts <;>
    simp [Event.accepted, Event.given, Receiver.use, Receiver.accepts, producer, accepts]

theorem Event.accepted_of_asks (asks : event.use = .tryNext ∨ event.use = .next) (lane : Lane) :
    event.accepted lane = [] := by
  rcases asks with asks | asks
  · rw [Event.accepted, asks]
  · rw [Event.accepted, asks]

theorem Event.moves (producer : event.before.queue.hasProducer = true) : event.Moves := by
  have asked (asks : event.use = .tryNext ∨ event.use = .next) : event.Moves := by
    have nothing := event.accepted_of_asks asks
    obtain ⟨result, takes, handed, after⟩ := event.takes producer asks
    cases takes with
    | urgent first =>
      refine .gives _ .priority handed (fun lane => ?_) nothing nofun
      rw [after]
      cases lane with
      | priority => exact first
      | normal => rfl
    | plain none first =>
      refine .gives _ .normal handed (fun lane => ?_) nothing fun _ => none
      rw [after]
      cases lane with
      | priority => rfl
      | normal => exact first
    | nothing =>
      refine .grows handed fun lane => ?_
      rw [after, nothing, List.append_nil]
      rfl
  obtain ⟨r, use⟩ := event
  cases use with
  | put into frame =>
    refine .grows rfl fun lane => ?_
    rw [accepted_put producer]
    exact r.queue.lane_put frame into lane
  | close cause => exact .grows rfl fun lane => by cases lane <;> exact (List.append_nil _).symm
  | tryNext => exact asked (.inl rfl)
  | next => exact asked (.inr rfl)
  | giveUp => exact .grows rfl fun lane => (List.append_nil _).symm

/-- A frame that is handed out has left its lane, and nothing else leaves the lanes. -/
theorem Event.left_eq (producer : event.before.queue.hasProducer = true) :
    (event.given.frame? = none ∧ ∀ lane, event.left lane = []) ∨
      ∃ frame own, event.given.frame? = some frame ∧
        (∀ lane, event.left lane = if own = lane then [frame] else []) ∧
        (own = .normal → event.before.queue.lane .priority = []) := by
  cases event.moves producer with
  | grows none lanes => exact .inl ⟨none, fun lane => event.left_of_grown (lanes lane)⟩
  | gives frame own handed lanes _ last =>
    exact .inr ⟨frame, own, handed, fun lane => event.left_of_append (lanes lane), last⟩

/-- What a lane had and took in is what left it and what it has. -/
theorem Event.balance (producer : event.before.queue.hasProducer = true) (lane : Lane) :
    event.left lane ++ event.after.queue.lane lane =
      event.before.queue.lane lane ++ event.accepted lane := by
  cases event.moves producer with
  | grows none lanes => rw [event.left_of_grown (lanes lane), List.nil_append, lanes]
  | gives frame own handed lanes nothing =>
    rw [event.left_of_append (lanes lane), nothing, List.append_nil, lanes]

/-- Only closing changes the cause, and only the first time. Nobody goes away. -/
theorem Event.keeps (producer : event.before.queue.hasProducer = true) :
    event.after.queue.cause = event.before.queue.cause.or event.cause? ∧
      event.after.queue.hasProducer = event.before.queue.hasProducer ∧
      event.after.queue.hasConsumer = event.before.queue.hasConsumer := by
  have asked (asks : event.use = .tryNext ∨ event.use = .next) :
      event.after.queue.cause = event.before.queue.cause ∧
        event.after.queue.hasProducer = event.before.queue.hasProducer ∧
        event.after.queue.hasConsumer = event.before.queue.hasConsumer := by
    obtain ⟨result, takes, _, after⟩ := event.takes producer asks
    rw [after]
    cases takes with
    | urgent first => exact ⟨rfl, rfl, rfl⟩
    | plain none first => exact ⟨rfl, rfl, rfl⟩
    | nothing => exact ⟨rfl, rfl, rfl⟩
  obtain ⟨r, use⟩ := event
  cases use with
  | put into frame =>
    obtain ⟨cause, rest⟩ := r.queue.put_same frame into
    exact ⟨cause.trans (Option.or_none ..).symm, rest⟩
  | close cause => exact ⟨Option.orElse_eq_or .., rfl, rfl⟩
  | tryNext =>
    obtain ⟨cause, rest⟩ := asked (.inl rfl)
    exact ⟨cause.trans (Option.or_none ..).symm, rest⟩
  | next =>
    obtain ⟨cause, rest⟩ := asked (.inr rfl)
    exact ⟨cause.trans (Option.or_none ..).symm, rest⟩
  | giveUp => exact ⟨(Option.or_none ..).symm, rfl, rfl⟩

/-! ### A whole run -/

/-- What the state of a queue says of all that was done with it. -/
structure Accounts (past : List Event) (r : Receiver) : Prop where
  producer : r.queue.hasProducer = true
  consumer : r.queue.hasConsumer = true
  cause : r.queue.cause = (causes past).head?
  lanes : ∀ lane, left past lane ++ r.queue.lane lane = accepted past lane

namespace Accounts

theorem start : Accounts [] {} := ⟨rfl, rfl, rfl, fun lane => by cases lane <;> rfl⟩

/-- One use more. -/
theorem snoc (h : Accounts past event.before) : Accounts (past ++ [event]) event.after := by
  obtain ⟨cause, producer, consumer⟩ := event.keeps h.producer
  refine ⟨producer.trans h.producer, consumer.trans h.consumer, ?_, fun lane => ?_⟩
  · rw [cause, h.cause, causes, causes, List.filterMap_append, List.head?_append]
    cases cause? : event.cause? <;> simp [cause?]
  · have lanes : left (past ++ [event]) lane = left past lane ++ event.left lane := by simp [left]
    have taken : accepted (past ++ [event]) lane = accepted past lane ++ event.accepted lane := by
      simp [accepted]
    rw [lanes, taken, ← h.lanes, List.append_assoc, List.append_assoc, event.balance h.producer]

end Accounts

theorem Run.accounts (run : Run past r) : Accounts past r := by
  induction run with
  | start => exact .start
  | @step past r _ use _ ih =>
    have before : Accounts past (Event.mk r use).before := ih
    exact before.snoc

/-- A part of a run, up to one of its events, is a run. -/
theorem Run.before {earlier later : List Event} (run : Run past r)
    (split : past = earlier ++ event :: later) : Run earlier event.before := by
  induction run generalizing later with
  | start => simp at split
  | step run use _ ih =>
    rcases split_snoc split with ⟨rfl, rfl⟩ | ⟨rest, split⟩
    · exact run
    · exact ih split

/-- What an event of a queue does, given all that was done before. -/
structure Follows (past : List Event) (event : Event) : Prop where
  /-- A frame that is handed out leaves one lane, and nothing else leaves a lane. It comes from the
  normal lane only if all that the priority lane took in has left it. -/
  handed : (event.given.frame? = none ∧ ∀ lane, event.left lane = []) ∨
    ∃ frame own, event.given.frame? = some frame ∧
      (∀ lane, event.left lane = if own = lane then [frame] else []) ∧
      (own = .normal → left past .priority = accepted past .priority)
  /-- A frame is accepted if and only if the queue was not closed before. -/
  accepts : ∀ lane frame, event.use = .put lane frame →
    event.given = .accepted (causes past).isEmpty
  /-- Who asks for a frame gets one if a lane has one. -/
  served : event.use = .tryNext ∨ event.use = .next →
    (∃ lane, left past lane ≠ accepted past lane) → ∃ frame, event.given.frame? = some frame
  /-- Who is told that no frame comes is told the first cause, and both lanes are empty. -/
  failed : ∀ cause, event.given = .answer (.ready (.error cause)) →
    (∀ lane, left past lane = accepted past lane) ∧ (causes past).head? = some cause
  /-- Who waits waits for a queue that is empty and not closed. -/
  waits : event.given = .answer .pending →
    (∀ lane, left past lane = accepted past lane) ∧ causes past = []

namespace Accounts

/-- A lane is empty when all that it took in has left it. -/
theorem empty_iff (h : Accounts past r) (lane : Lane) :
    r.queue.lane lane = [] ↔ left past lane = accepted past lane := by
  rw [← h.lanes lane]
  exact ⟨fun empty => by rw [empty, List.append_nil], fun same => by simpa using same.symm⟩

theorem closed (h : Accounts past r) : r.queue.isClosed = !(causes past).isEmpty := by
  rw [FrameQueue.isClosed, h.cause]
  cases causes past with
  | nil => rfl
  | cons _ _ => rfl

theorem follows (h : Accounts past event.before) : Follows past event where
  handed := by
    rcases event.left_eq h.producer with nothing | ⟨frame, own, handed, left, last⟩
    · exact .inl nothing
    · exact .inr ⟨frame, own, handed, left, fun normal => (h.empty_iff _).mp (last normal)⟩
  accepts lane frame use := by
    have accepts : event.before.accepts = (causes past).isEmpty := by
      simp [Receiver.accepts, FrameQueue.accepts, h.closed, h.producer, h.consumer]
    rw [Event.given, use, Receiver.use, accepts]
  served asks some := by
    obtain ⟨result, takes, handed, _⟩ := event.takes h.producer asks
    cases takes with
    | urgent first => exact ⟨_, handed⟩
    | plain none first => exact ⟨_, handed⟩
    | nothing empty =>
      obtain ⟨lane, some⟩ := some
      exact absurd ((h.empty_iff lane).mp (empty lane)) some
  failed cause given := by
    obtain ⟨empty, told⟩ := event.told h.producer given (by rw [given]; rfl)
    refine ⟨fun lane => (h.empty_iff lane).mp (empty lane), ?_⟩
    split at told
    next closed =>
      injection told with told
      injection told with told
      obtain ⟨first, same⟩ := Option.isSome_iff_exists.mp closed
      rw [← h.cause, told, FrameQueue.finalCause, same]
      rfl
    next => contradiction
  waits given := by
    obtain ⟨empty, told⟩ := event.told h.producer given (by rw [given]; rfl)
    refine ⟨fun lane => (h.empty_iff lane).mp (empty lane), ?_⟩
    split at told
    next => contradiction
    next free => simpa [h.closed] using free

end Accounts

/-- Whatever is done with a queue, in any order, as long as it has a producer and a consumer, what
left a lane and what it still has is what it took in, in the same order; and each event follows
from those before it. -/
theorem lanes_in_order (run : Run past r) :
    (∀ lane, left past lane ++ r.queue.lane lane = accepted past lane) ∧
    ∀ earlier event later, past = earlier ++ event :: later → Follows earlier event :=
  ⟨run.accounts.lanes, fun _ _ _ split => (run.before split).accounts.follows⟩

/-- One waits for a frame; two are put, the second into the priority lane, and the queue is closed
twice. Both are handed out, the second first, and then the first cause is told. -/
theorem lanes_in_order_of_overtaken :
    let first : Frame := .cancel 1
    let second : Frame := .keepAlive true 0 .empty
    ∃ past r, Run past r ∧
      past.map (·.use) = [.next, .put .normal first, .put .priority second, .close .closed,
        .close .cancelled, .put .normal first, .next, .next, .next] ∧
      past.map (·.given) = [.answer .pending, .accepted true, .accepted true, .nothing, .nothing,
        .accepted false, .answer (.ready (.ok second)), .answer (.ready (.ok first)),
        .answer (.ready (.error .closed))] ∧
      ∀ lane, left past lane = accepted past lane := by
  intro first second
  have asked := Run.start.step .next nofun
  have put := (asked.step (.put .normal first) nofun).step (.put .priority second) nofun
  have closed := (put.step (.close .closed) nofun).step (.close .cancelled) nofun
  have refused := closed.step (.put .normal first) nofun
  have emptied := (refused.step .next nofun).step .next nofun
  have told := emptied.step .next nofun
  refine ⟨_, _, told, rfl, rfl, fun lane => ?_⟩
  rw [← (lanes_in_order told).1 lane, List.self_eq_append_right]
  cases lane with
  | priority => rfl
  | normal => rfl

end Receiver
end StreamMux
