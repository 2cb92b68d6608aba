import StreamMux.Proofs.Connection.History
import StreamMux.Proofs.Exchange.Ending
import StreamMux.Proofs.Frame.Landing

/-!
# What follows the end of a connection

The queue of a connection that has ended gives out what waited in it, takes nothing in, and then
reports the cause (`History.drains`). Callers that were waiting have the cause for an answer
(`History.answers`), consumers take what had come in for them and then the cause
(`History.consumes`). ERROR on stream 0 is enqueued by the call that ends the connection, and by
nothing else (`Does.closings`, `History.closings`).
-/
namespace StreamMux

/-! ### Taking frames off a queue -/

namespace FrameQueue

/-- All frames that wait, in the order in which they leave. -/
def frames (q : FrameQueue) : List Frame := q.priority.toList ++ q.normal.toList

theorem dequeue_frames {q : FrameQueue} {frame : Frame} {rest : List Frame}
    (frames : q.frames = frame :: rest) : q.dequeue.1 = .ready (.ok frame) ∧
      q.dequeue.2.frames = rest ∧ q.dequeue.2.cause = q.cause := by
  unfold FrameQueue.frames at frames
  unfold dequeue tryDequeue
  cases urgent : q.priority.pop? with
  | some taken =>
    obtain ⟨first, priority⟩ := taken
    rw [Fifo.pop?_eq_some urgent, List.cons_append, List.cons.injEq] at frames
    obtain ⟨rfl, left⟩ := frames
    exact ⟨rfl, left, rfl⟩
  | none =>
    have empty := (Fifo.pop?_eq_none_iff _).mp urgent
    rw [empty, List.nil_append] at frames
    cases plain : q.normal.pop? with
    | some taken =>
      obtain ⟨first, normal⟩ := taken
      rw [Fifo.pop?_eq_some plain, List.cons.injEq] at frames
      obtain ⟨rfl, left⟩ := frames
      have all : ({ q with normal } : FrameQueue).frames = rest := by
        rw [FrameQueue.frames, empty, List.nil_append, left]
      exact ⟨rfl, all, rfl⟩
    | none =>
      rw [(Fifo.pop?_eq_none_iff _).mp plain] at frames
      contradiction

/-- A queue that was closed, and has nothing left, gives the cause. -/
theorem dequeue_drained {q : FrameQueue} {cause : Failure} (empty : q.frames = [])
    (closed : q.cause = some cause) : q.dequeue = (.ready (.error cause), q) := by
  obtain ⟨urgent, plain⟩ := List.append_eq_nil_iff.mp empty
  have urgent := (Fifo.pop?_eq_none_iff _).mpr urgent
  have plain := (Fifo.pop?_eq_none_iff _).mpr plain
  simp [dequeue, tryDequeue, urgent, plain, isClosed, finalCause, closed]

/-- Taking a frame off the queue adds none to the urgent ones. -/
theorem priority_dequeue (q : FrameQueue) :
    q.dequeue.2.priority.toList.length ≤ q.priority.toList.length := by
  unfold dequeue tryDequeue
  cases urgent : q.priority.pop? with
  | some taken => simp [Fifo.pop?_eq_some urgent]
  | none =>
    cases plain : q.normal.pop? with
    | some taken => exact Nat.le_refl _
    | none =>
      dsimp only [Option.map]
      split
      · exact Nat.le_refl _
      · exact Nat.le_refl _

theorem foldl_enqueue_refused {q : FrameQueue} (refuses : q.accepts = false)
    (frames : List Frame) : frames.foldl enqueue q = q := by
  induction frames with
  | nil => rfl
  | cons frame frames ih =>
    rw [List.foldl_cons, enqueue, refuses, if_neg Bool.false_ne_true, ih]

theorem enqueuePriority_refused {q : FrameQueue} (refuses : q.accepts = false) (frame : Frame) :
    q.enqueuePriority frame = q := by
  rw [enqueuePriority, refuses, if_neg Bool.false_ne_true]

theorem toList_enqueuePriority (q : FrameQueue) (frame : Frame) :
    (q.enqueuePriority frame).priority.toList =
      q.priority.toList ++ if q.accepts then [frame] else [] := by
  unfold enqueuePriority
  split
  next accepts => simp
  next refuses => simp

end FrameQueue

namespace Connection

variable {c d e : Connection} {deed : Deed} {past later : List Event} {i : Nat} {cause : Failure}

/-! ### What a deed does to the queue -/

/-- What is done to the queue of a connection, but for taking a frame off it. -/
inductive Queued (c d : Connection) : Prop
  | streams (frames : List Frame) (eq : d.queue = frames.foldl FrameQueue.enqueue c.queue)
  | urgent (frame : Frame) (plain : frame.isClosing = false)
      (eq : d.queue = c.queue.enqueuePriority frame)
  | torn (cause : Failure) (eq : d = c.teardown cause)
  | terminated (cause : Failure) (eq : d = c.terminate cause)

theorem asks_queued (made : c.Asks d) : c.Queued d := by
  cases made with
  | response payload made =>
    unfold requestResponse at made
    obtain ⟨⟨_, e⟩, registered, eq⟩ := bind_ok made
    cases eq
    obtain ⟨_, id, ids, registry, _, _, _, rfl⟩ := register_ok (fun _ => rfl) registered
    exact .streams [_] rfl
  | stream batch payload made =>
    unfold requestStream at made
    obtain ⟨⟨_, e⟩, registered, eq⟩ := bind_ok made
    cases eq
    obtain ⟨_, id, ids, registry, _, _, _, rfl⟩ := register_ok (fun _ => rfl) registered
    exact .streams [_] rfl
  | channel batch made =>
    obtain ⟨_, id, ids, registry, _, _, _, rfl⟩ := register_ok (fun _ => rfl) made
    exact .streams [] rfl

theorem serves_queued (made : c.Serves d) : c.Queued d := by
  cases made with
  | metadataPush metadata made =>
    unfold metadataPush at made
    split at made
    · contradiction
    · split at made
      · cases made
        exact .urgent _ rfl rfl
      · contradiction
  | fireAndForget payload made =>
    unfold fireAndForget at made
    split at made
    · contradiction
    · split at made
      · contradiction
      · split at made
        · cases made
          exact .streams [_] rfl
        · contradiction
  | tick now made =>
    rw [made, tick]
    split
    · exact .terminated _ rfl
    · exact .urgent _ rfl rfl
  | teardown cause made => exact .torn cause made
  | terminate cause made => exact .terminated cause made

theorem dispatch_queued (c : Connection) (keepsItems : Payload → Bool) (now : Duration)
    (frame : Frame) : c.Queued (c.dispatch keepsItems now frame).1 := by
  have still : c.Queued c := .streams [] rfl
  have stepped (id : UInt32) (f : Exchange → Exchange) : c.Queued (c.stepRegistered id f) := by
    unfold stepRegistered
    split
    · exact .streams [] rfl
    · exact still
  cases frame with
  | keepAlive respond position data =>
    change c.Queued (c.hear now respond)
    unfold hear
    split
    · exact .urgent _ rfl rfl
    · exact .streams [] rfl
  | metadataPush metadata => exact still
  | setup s => exact still
  | lease ttl requests metadata => exact still
  | error id code message =>
    unfold dispatch
    dsimp only
    split
    · exact .torn _ rfl
    · exact stepped id _
  | requestN id n => exact stepped id _
  | cancel id => exact stepped id _
  | payload f =>
    rw [dispatch]
    split
    · split
      · exact still
      · exact .streams _ rfl
    · unfold accept
      split
      · exact still
      · split
        · exact still
        · split
          · exact still
          next i d opened =>
            obtain ⟨registry, _, rfl, rfl⟩ := insert?_ok opened
            exact .streams _ rfl

theorem Does.queued (does : Does c deed d) :
    (deed = .dequeues ∧ d = { c with queue := c.queue.dequeue.2 }) ∨
      (deed ≠ .dequeues ∧ c.Queued d) := by
  cases does with
  | asks made => exact .inr ⟨by simp, asks_queued made⟩
  | serves made => exact .inr ⟨by simp, serves_queued made⟩
  | act i m own placed fits => exact .inr ⟨by simp, .streams _ rfl⟩
  | handles keepsItems now frame =>
    exact .inr ⟨by simp, dispatch_queued c keepsItems now frame⟩
  | dequeues => exact .inl ⟨rfl, rfl⟩

/-! ### The queue after the end -/

/-- The frame that was taken off the queue. -/
def Event.taken (event : Event) : List Frame :=
  match event.deed, event.before.queue.dequeue.1 with
  | .dequeues, .ready (.ok frame) => [frame]
  | _, _ => []

/-- All frames that were taken off the queue, in their order. -/
def taken (past : List Event) : List Frame := past.flatMap (·.taken)

@[simp] theorem taken_append (past next : List Event) :
    taken (past ++ next) = taken past ++ taken next := by
  simp [taken]

theorem taken_other (event : Event) (other : event.deed ≠ .dequeues) : event.taken = [] := by
  unfold Event.taken
  split
  next same _ => exact absurd same other
  · rfl

/-- Nothing enters the queue of a connection that has ended, and what leaves it is taken off. -/
theorem Does.drains (does : Does c deed d) (halted : c.isActive = false)
    (closed : c.queue.cause = some cause) :
    c.queue.frames = (Event.mk c deed d).taken ++ d.queue.frames ∧
      d.queue.cause = some cause := by
  have refuses : c.queue.accepts = false := by
    simp [FrameQueue.accepts, FrameQueue.isClosed, closed]
  rcases does.queued with ⟨rfl, rfl⟩ | ⟨other, queued⟩
  · cases frames : c.queue.frames with
    | nil =>
      have same := FrameQueue.dequeue_drained frames closed
      simp [Event.taken, same, frames, closed]
    | cons frame rest =>
      obtain ⟨told, left, cause⟩ := FrameQueue.dequeue_frames frames
      exact ⟨by simp [Event.taken, told, left], cause.trans closed⟩
  · have same : d.queue = c.queue := by
      cases queued with
      | streams frames eq => rw [eq, FrameQueue.foldl_enqueue_refused refuses]
      | urgent frame plain eq => rw [eq, FrameQueue.enqueuePriority_refused refuses]
      | torn cause eq => rw [eq, (ended_of_inactive halted cause).1]
      | terminated cause eq => rw [eq, (ended_of_inactive halted cause).2]
    rw [taken_other _ other, same]
    exact ⟨rfl, closed⟩

/-- What holds of a connection that has ended. -/
structure Over (c : Connection) (cause : Failure) : Prop where
  sound : c.Sound
  terminal : c.terminal = some cause
  closed : c.queue.cause = some cause

theorem Over.isActive (h : c.Over cause) : c.isActive = false := by
  simp [Connection.isActive, h.terminal]

theorem Does.stays_over (h : c.Over cause) (does : Does c deed d) : d.Over cause := by
  obtain ⟨terminal, _⟩ := does.after_end h.sound h.isActive
  have queue := does.drains h.isActive h.closed
  exact ⟨does.sound h.sound, terminal.trans h.terminal, queue.2⟩

theorem History.stays_over (history : History c later d) (h : c.Over cause) : d.Over cause := by
  induction history with
  | start => exact h
  | step history does ih => exact does.stays_over ih

/-- What waits in the queue at the end is taken off it in its order, and nothing comes after it. -/
theorem History.drains (history : History c later d) (h : c.Over cause) :
    c.queue.frames = taken later ++ d.queue.frames := by
  induction history with
  | start => rfl
  | @step d e deed later history does ih =>
    have before := history.stays_over h
    rw [taken_append, List.append_assoc, ih, (does.drains before.isActive before.closed).1]
    simp [taken]

theorem cause_close {q : FrameQueue} (accepts : q.accepts = true) (cause : Failure) :
    (q.close cause).cause = some cause := by
  have fresh : q.cause = none := by
    simp only [FrameQueue.accepts, FrameQueue.isClosed, Bool.and_eq_true] at accepts
    simpa using accepts.1
  rw [FrameQueue.close, fresh]
  rfl

/-- What ends an active connection is a call that names the cause. -/
theorem Does.ends_with (h : c.Sound) (does : Does c deed d) (live : c.isActive = true)
    (terminal : d.terminal = some cause) :
    (d = c.teardown cause ∨ d = c.terminate cause) ∧ c.Ended d cause ∧ d.Over cause := by
  have halted : d.isActive = false := by simp [isActive, terminal]
  have accepts : c.queue.accepts = true := h.accepts.trans live
  obtain ⟨first, eq⟩ := does.ends h live halted
  have ended : c.Ended d first := by
    rcases eq with rfl | rfl
    · exact teardown_ended live first
    · exact terminate_ended live first
  have same : first = cause := Option.some.inj (ended.terminal.symm.trans terminal)
  subst same
  refine ⟨eq, ended, does.sound h, terminal, ?_⟩
  rcases eq with rfl | rfl
  · rw [teardown_eq live]
    exact cause_close accepts first
  · rw [terminate_eq live, teardown_eq (c := c.enqueuePriority first.closingFrame) live]
    exact cause_close ((accepts_enqueuePriority _ _).trans accepts) first

/-! ### Callers and consumers -/

/-- What a history leaves of those who wait on the stream at a place. -/
structure Awaits (s : Exchange) (past : List Event) (i : Nat) : Prop where
  receptive : s.Receptive
  /-- A caller that has no answer, and did not turn away, can still get one. -/
  caller : s.kind = .requesterResponse → s.answer = .awaited →
    (∀ event ∈ past, event.deed ≠ .act i .abandon) → s.closed.inbound = false

/-- The move of the stream at a place is a deed of that place, or one of the peer. -/
theorem Touches.own_eq {m : Exchange.Move} (touches : Touches c i deed m)
    (own : m.isLocal = true) : deed = .act i m := by
  cases touches with
  | own _ => rfl
  | receive uptake named inner => simp [Exchange.Move.isLocal] at own
  | grant named => simp [Exchange.Move.isLocal] at own
  | cancel named => simp [Exchange.Move.isLocal] at own
  | error named stream => simp [Exchange.Move.isLocal] at own

theorem Does.awaits (h : c.Sound) (does : Does c deed d) (placed : i < c.streams.size)
    (awaits : Awaits (c.stream i) past i) : Awaits (d.stream i) (past ++ [⟨c, deed, d⟩]) i := by
  have coherent := h.coherent i placed
  have earlier (stayed : ∀ event ∈ past ++ [⟨c, deed, d⟩], event.deed ≠ .act i .abandon) :
      ∀ event ∈ past, event.deed ≠ .act i .abandon :=
    fun event member => stayed event (List.mem_append_left _ member)
  cases does.fate h placed with
  | spared same silent =>
    rw [same]
    exact ⟨awaits.receptive, fun kind awaited stayed =>
      awaits.caller kind awaited (earlier stayed)⟩
  | moved m fits touches eq sent =>
    rw [eq]
    refine ⟨m.receptive awaits.receptive, fun kind awaited stayed => ?_⟩
    have kind : (c.stream i).kind = .requesterResponse :=
      (m.effect coherent fits).kind.symm.trans kind
    have asked := awaits.receptive.asked kind
    have waits : m ≠ .abandon := by
      rintro rfl
      exact stayed ⟨c, deed, d⟩ (by simp) (touches.own_eq rfl)
    have before : (c.stream i).answer = .awaited := by
      cases answer : (c.stream i).answer with
      | none => contradiction
      | awaited => rfl
      | given result =>
        rw [m.answer_given answer] at awaited
        contradiction
    have isOpen := awaits.caller kind before (earlier stayed)
    rcases Exchange.Move.answered coherent fits kind asked waits isOpen with goes | answered
    · exact goes
    · exact absurd awaited answered
  | failed cause live halted eq silent =>
    rw [eq]
    refine ⟨Exchange.fail_receptive awaits.receptive cause, fun kind awaited stayed => ?_⟩
    have kind : (c.stream i).kind = .requesterResponse :=
      (Exchange.fail_effect coherent cause).kind.symm.trans kind
    exact absurd awaited (Exchange.fail_answered (awaits.receptive.asked kind) cause).2

theorem Birth.awaits (birth : Birth c d i deed) (past : List Event) :
    Awaits (d.stream i) past i := by
  cases birth with
  | response id payload nonzero eq sent =>
    rw [eq]
    exact ⟨(Exchange.requester_receptive id 0).1, fun _ _ _ => rfl⟩
  | stream id batch payload nonzero eq sent =>
    rw [eq]
    exact ⟨(Exchange.requester_receptive id batch).2.1, fun kind => by cases kind⟩
  | channel id batch nonzero eq silent =>
    rw [eq]
    exact ⟨(Exchange.requester_receptive id batch).2.2, fun kind => by cases kind⟩
  | responder f kind uptake opens foreign eq sent =>
    have answers := ofRequest?_answers opens
    have effect := Exchange.receive_effect (responder_coherent f.id f.initial answers) uptake f
    rw [eq]
    refine ⟨?_, fun same => ?_⟩
    · exact Exchange.receive_receptive
        (Exchange.responder_receptive f.id f.initial answers) uptake f
    · rw [effect.kind] at same
      simp [show kind = .requesterResponse from same, StreamKind.isRequester] at answers

theorem History.awaits (history : History c past d) (h : c.Sound) (empty : c.streams.size = 0)
    (placed : i < d.streams.size) : Awaits (d.stream i) past i := by
  induction history with
  | start => omega
  | @step d e deed past history does ih =>
    have sound := history.sound h
    by_cases earlier : i < d.streams.size
    · exact does.awaits sound earlier (ih earlier)
    · exact (does.birth sound (Nat.le_of_not_lt earlier) placed).awaits _

/-- An answer that is there stays. -/
theorem History.answer_given (history : History c later d) (h : c.Sound)
    (placed : i < c.streams.size) {result : Item} (given : (c.stream i).answer = .given result) :
    (d.stream i).answer = .given result := by
  induction history with
  | start => exact given
  | @step d e deed later history does ih =>
    have bound := Nat.lt_of_lt_of_le placed (history.later h).size
    cases does.fate (history.sound h) bound with
    | spared same silent => rw [same, ih]
    | moved m fits touches eq sent => rw [eq, m.answer_given ih]
    | failed cause live halted eq silent => rw [eq, Exchange.fail_given ih]

/-- What the consumer of the stream at a place was told when it asked. -/
def Event.told (event : Event) (i : Nat) : List (Poll (Option Item)) :=
  match event.deed with
  | .act j .poll => if j = i then [(event.before.pollItem i).1] else []
  | _ => []

/-- All that the consumer was told, in its order. -/
def told (past : List Event) (i : Nat) : List (Poll (Option Item)) := past.flatMap (·.told i)

@[simp] theorem told_append (past next : List Event) (i : Nat) :
    told (past ++ next) i = told past i ++ told next i := by
  simp [told]

theorem told_other (event : Event) (other : event.deed ≠ .act i .poll) : event.told i = [] := by
  unfold Event.told
  split
  next j same =>
    split
    next here => exact absurd (here ▸ same) other
    · rfl
  · rfl

/-- What the consumer of a stream that is over is given, item by item, from what it is owed. -/
theorem Does.consumes (h : c.Sound) (does : Does c deed d) (placed : i < c.streams.size)
    {items : List Item} (owes : (c.stream i).Owes cause items)
    (ended : (c.stream i).inboxOpen = false) (closed : (c.stream i).closed.inbound = true)
    (stays : deed ≠ .act i .dropConsumer) :
    (Event.mk c deed d).told i = [] ∧ (d.stream i).Owes cause items ∨
      (Event.mk c deed d).told i = [.ready items.head?] ∧ (d.stream i).Owes cause items.tail := by
  by_cases asks : deed = .act i .poll
  · subst asks
    cases does with
    | act _ _ own placed fits =>
      obtain ⟨answer, left⟩ := owes.poll
      have stream : (c.stepWriting i (Exchange.Move.poll.apply ·)).stream i =
          (c.stream i).poll.2.1 := (stream_commit c placed _ _ i).trans (if_pos rfl)
      rw [stream]
      exact .inr ⟨by simp [Event.told, pollItem, answer], left⟩
  · refine .inl ⟨told_other _ asks, ?_⟩
    have moved {m : Exchange.Move} (poll : m ≠ .poll) (drop : m ≠ .dropConsumer) :
        (m.apply (c.stream i)).1.Owes cause items :=
      Exchange.Move.owes owes ended closed poll drop
    cases does.fate h placed with
    | spared same silent => rwa [same]
    | moved m fits touches eq sent =>
      rw [eq]
      refine moved ?_ ?_
      · rintro rfl
        exact asks (touches.own_eq rfl)
      · rintro rfl
        exact stays (touches.own_eq rfl)
    | failed cause' live halted eq silent =>
      rw [eq]
      exact moved (m := .fail cause') (by simp) (by simp)

/-- A consumer is told what it is owed, in its order, and then that there is nothing more. -/
theorem History.consumes (history : History c later d) (h : c.Sound) (placed : i < c.streams.size)
    {items : List Item} (owes : (c.stream i).Owes cause items)
    (ended : (c.stream i).inboxOpen = false) (closed : (c.stream i).closed.inbound = true)
    (stays : ∀ event ∈ later, event.deed ≠ .act i .dropConsumer) :
    told later i = (List.range (told later i).length).map (fun k => .ready items[k]?) ∧
      (d.stream i).Owes cause (items.drop (told later i).length) := by
  induction history with
  | start => exact ⟨rfl, by simpa [told] using owes⟩
  | @step d e deed later history does ih =>
    obtain ⟨soFar, owed⟩ := ih fun event member => stays event (List.mem_append_left _ member)
    have grown := (history.later h).streams i placed
    have bound := Nat.lt_of_lt_of_le placed (history.later h).size
    have next := does.consumes (history.sound h) bound owed (grown.inbox ended)
      (grown.inbound closed) (stays ⟨d, deed, e⟩ (by simp))
    have single : told [⟨d, deed, e⟩] i = (Event.mk d deed e).told i := by simp [told]
    rw [told_append, single]
    rcases next with ⟨silent, left⟩ | ⟨answer, left⟩
    · rw [silent, List.append_nil]
      exact ⟨soFar, left⟩
    · rw [List.head?_drop] at answer
      rw [List.tail_drop] at left
      rw [answer, List.length_append, List.length_singleton, List.range_succ, List.map_append,
        ← soFar]
      exact ⟨rfl, left⟩

/-! ### ERROR on stream 0 -/

/-- The frames with ERROR on stream 0 that a deed enqueued. -/
def Event.closings (event : Event) : List Frame :=
  (event.after.queue.priority.toList.drop event.before.queue.priority.toList.length ++
    event.before.enqueued event.after).filter (·.isClosing)

/-- All frames with ERROR on stream 0 that were enqueued. -/
def closings (past : List Event) : List Frame := past.flatMap (·.closings)

/-- The frame that was handled was read off the transport. -/
def Deed.IsRead (deed : Deed) : Prop :=
  ∀ frame, deed = .handles frame → ∃ bytes, Frame.decode bytes = .ok frame

/-- No stream stands under 0, which is the connection's. -/
def Identified (c : Connection) : Prop := ∀ i < c.streams.size, (c.stream i).id ≠ 0

theorem Does.identified (h : c.Sound) (does : Does c deed d) (read : deed.IsRead)
    (ids : c.Identified) : d.Identified := by
  intro i placed
  by_cases earlier : i < c.streams.size
  · rw [((does.later h).streams i earlier).id]
    exact ids i earlier
  · cases does.birth h (Nat.le_of_not_lt earlier) placed with
    | response id payload nonzero eq sent => rwa [eq]
    | stream id batch payload nonzero eq sent => rwa [eq]
    | channel id batch nonzero eq silent => rwa [eq]
    | responder f kind uptake opens foreign eq sent =>
      obtain ⟨bytes, decoded⟩ := read _ rfl
      have effect := Exchange.receive_effect
        (responder_coherent f.id f.initial (ofRequest?_answers opens)) uptake f
      rw [eq, effect.id]
      exact payload_nonzero decoded

theorem History.identified (history : History c past d) (h : c.Sound) (ids : c.Identified)
    (read : ∀ event ∈ past, event.deed.IsRead) : d.Identified := by
  induction history with
  | start => exact ids
  | @step d e deed past history does ih =>
    have before := ih fun event member => read event (List.mem_append_left _ member)
    exact does.identified (history.sound h) (read ⟨d, deed, e⟩ (by simp)) before

/-- What is enqueued for streams is none of it ERROR on stream 0. -/
theorem Outcome.enqueued_plain (outcome : c.Outcome d) (ids : d.Identified) :
    ∀ f ∈ c.enqueued d, f.isClosing = false := by
  intro f member
  cases outcome with
  | still streams registry active accepts enqueued =>
    have type := (enqueued f member).1
    cases f <;> simp_all [Frame.isClosing, Frame.type]
  | @moved i t frames placed effect eq =>
    subst eq
    rw [enqueued_commit] at member
    split at member
    · have stream := ids i (by rwa [size_commit])
      rw [stream_commit c placed, if_pos rfl, effect.id] at stream
      exact isClosing_of_id (by rwa [effect.writes.ids f member])
    · contradiction
  | @opened t frames born live free streams registry active accepts enqueued =>
    rw [enqueued] at member
    have stream := ids c.streams.size (by rw [streams, Array.size_push]; exact Nat.lt_succ_self _)
    rw [stream_push rfl streams, if_pos rfl] at stream
    split at member
    · cases born with
      | response id payload => rw [List.mem_singleton.mp member]; rfl
      | stream id batch payload => rw [List.mem_singleton.mp member]; rfl
      | channel id batch => contradiction
      | responder id initial answers effect =>
        refine isClosing_of_id ?_
        rw [effect.writes.ids f member]
        rwa [effect.id] at stream
    · contradiction
  | torn cause live streams registry finished refuses enqueued =>
    rw [enqueued] at member
    contradiction

/-- As long as the connection goes on, or once it is over, there is no ERROR on stream 0. -/
theorem Does.closings_nil (h : c.Sound) (does : Does c deed d) (ids : d.Identified)
    (goes : d.isActive = c.isActive) : (Event.mk c deed d).closings = [] := by
  have plain := (does.outcome h).enqueued_plain ids
  have lane (same : d.queue.priority.toList.drop c.queue.priority.toList.length = [] ∨
      ∃ frame : Frame, frame.isClosing = false ∧
        d.queue.priority.toList.drop c.queue.priority.toList.length = [frame]) :
      (Event.mk c deed d).closings = [] := by
    rw [Event.closings, List.filter_append, List.append_eq_nil_iff]
    refine ⟨?_, List.filter_eq_nil_iff.mpr fun f member => by simp [plain f member]⟩
    rcases same with none | ⟨frame, urgent, one⟩
    · rw [none, List.filter_nil]
    · rw [one, List.filter_cons_of_neg (by simp [urgent]), List.filter_nil]
  have still (same : d.queue.priority = c.queue.priority) : (Event.mk c deed d).closings = [] :=
    lane (.inl (by rw [same, List.drop_length]))
  rcases does.queued with ⟨rfl, rfl⟩ | ⟨_, queued⟩
  · exact lane (.inl (List.drop_of_length_le (FrameQueue.priority_dequeue c.queue)))
  · cases queued with
    | streams frames eq => exact still (by rw [eq, priority_foldl_enqueue])
    | urgent frame plain eq =>
      rw [eq] at lane
      refine lane ?_
      rw [FrameQueue.toList_enqueuePriority, List.drop_left]
      split
      · exact .inr ⟨frame, plain, rfl⟩
      · exact .inl rfl
    | torn cause eq =>
      have halted : c.isActive = false := by rw [← goes, eq, isActive_teardown]
      exact still (by rw [eq, (ended_of_inactive halted cause).1])
    | terminated cause eq =>
      have halted : c.isActive = false := by rw [← goes, eq, isActive_terminate]
      exact still (by rw [eq, (ended_of_inactive halted cause).2])

/-- The call that ends the connection enqueues one, with its cause, if it tells the peer. -/
theorem closings_of_ends (h : c.Sound) (live : c.isActive = true) (cause : Failure) (deed : Deed) :
    (Event.mk c deed (c.teardown cause)).closings = [] ∧
      (Event.mk c deed (c.terminate cause)).closings = [cause.closingFrame] := by
  have told : c.queue.accepts = true := h.accepts.trans live
  have torn : c.enqueued (c.teardown cause) = [] :=
    enqueued_of_same (by rw [teardown_eq live]; rfl)
  have terminated : c.enqueued (c.terminate cause) = [] := by
    refine enqueued_of_same ?_
    rw [terminate_eq live, teardown_eq (c := c.enqueuePriority cause.closingFrame) live]
    exact normal_enqueuePriority c.queue _
  refine ⟨?_, ?_⟩
  · rw [Event.closings, torn, teardown_eq live]
    simp [FrameQueue.close]
  · rw [Event.closings, terminated, terminate_eq live,
      teardown_eq (c := c.enqueuePriority cause.closingFrame) live]
    have lane := FrameQueue.toList_enqueuePriority c.queue cause.closingFrame
    rw [told, if_pos rfl] at lane
    change List.filter _ (List.drop _
      (c.queue.enqueuePriority cause.closingFrame).priority.toList ++ []) = _
    rw [lane, List.drop_left]
    rfl

/-- A history that does not end the connection enqueues no ERROR on stream 0. -/
theorem History.closings_nil (history : History c past d) (h : c.Sound) (ids : c.Identified)
    (read : ∀ event ∈ past, event.deed.IsRead) (goes : d.isActive = c.isActive) :
    closings past = [] := by
  induction history with
  | start => rfl
  | @step d e deed past history does ih =>
    have sound := history.sound h
    have earlier : ∀ event ∈ past, event.deed.IsRead :=
      fun event member => read event (List.mem_append_left _ member)
    have before := history.identified h ids earlier
    have same : d.isActive = c.isActive := by
      cases live : c.isActive with
      | true => exact (does.outcome sound).isActive (goes.trans live)
      | false =>
        refine Bool.eq_false_iff.mpr fun again => ?_
        rw [history.isActive h again] at live
        contradiction
    have last := does.closings_nil sound
      (does.identified sound (read ⟨d, deed, e⟩ (by simp)) before) (goes.trans same.symm)
    rw [closings, List.flatMap_append, ← closings, ih earlier same]
    simp [last]

end Connection
end StreamMux
