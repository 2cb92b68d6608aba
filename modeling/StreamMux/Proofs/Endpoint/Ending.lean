import StreamMux.Proofs.Connection.Terminal
import StreamMux.Proofs.Endpoint.Leaving

/-!
# What the application finds after the end

However a connection comes to its end, and whatever is tried afterwards: the cause stays, what was
registered is gone, nothing is enqueued any more, those who were waiting are told the cause, and so
is everyone who asks for something new (`ended_with_cause`). Two things are not reached by the end:
a request of the peer that was read before it, and a consumer that goes with the work that polls it
(`end_leaves_loose_ends`).
-/
namespace StreamMux

namespace Endpoint

variable {e : Endpoint} {cause : Failure} {name : String}

/-- A connection that is over refuses every request. -/
theorem refused_of_terminal {c : Connection} (terminal : c.terminal = some cause) :
    (∀ metadata, c.metadataPush metadata = .error (.failed cause)) ∧
    (∀ payload, c.fireAndForget payload = .error (.failed cause)) ∧
    (∀ payload, c.requestResponse payload = .error (.failed cause)) ∧
    (∀ batch payload, c.requestStream batch payload = .error (.failed cause)) ∧
    ∀ batch, c.requestChannel batch = .error (.failed cause) := by
  have register (make : UInt32 → Exchange) : c.register make = .error (.failed cause) := by
    rw [Connection.register, terminal]
  refine ⟨fun metadata => ?_, fun payload => ?_, fun payload => ?_, fun batch payload => ?_,
    fun batch => register _⟩
  · rw [Connection.metadataPush, terminal]
  · rw [Connection.fireAndForget, terminal]
  · rw [Connection.requestResponse, register]
    rfl
  · rw [Connection.requestStream, register]
    rfl

/-- A stream or channel that is asked for an item too late gives the cause, and then ends. -/
theorem pollItem_refused {opening : Opening} {batch : UInt32}
    (terminal : e.connection.terminal = some cause)
    (unopened : e.request? name = some (.unopened opening batch)) :
    (e.pollItem name).1 = .ready (some (.error cause)) ∧
      ((e.pollItem name).2.pollItem name).1 = .ready none := by
  obtain ⟨_, _, _, stream, channel⟩ := refused_of_terminal terminal
  have opened : (e.open opening batch).1 = .error (.failed cause) := by
    cases opening with
    | stream payload => rw [«open», stream]
    | channel source => rw [«open», channel]
  generalize made : e.open opening batch = result at opened
  obtain ⟨answer, f⟩ := result
  cases opened
  rw [pollItem_unmade unopened made]
  dsimp only
  rw [pollItem_of_refused (f.request?_setRequest_same name .refused)]
  exact ⟨rfl, rfl⟩

end Endpoint

namespace Connection

/-- What is left of a connection that came to its end between `c` and `d` with a cause, once more
was done until `e`. -/
structure Aftermath (past : List Event) (c : Connection) (ending : Deed) (d : Connection)
    (later : List Event) (e : Connection) (cause : Failure) : Prop where
  /-- One of two calls ended it. -/
  call : d = c.teardown cause ∨ d = c.terminate cause
  /-- The cause stays, whatever else would end the connection. -/
  terminal : e.terminal = some cause ∧ ∀ other, e.teardown other = e ∧ e.terminate other = e
  /-- The end leaves nothing registered. What is registered afterwards was requested by the peer in
  a frame that was read before the end and handled after it. -/
  registry : d.registry = .empty ∧ ∀ id i, e.registry.get? id = some i →
    d.streams.size ≤ i ∧ ∃ event ∈ later, event.deed.Requests id
  /-- The end takes nothing from the queue, and adds at most the news of itself. -/
  kept : d.queue.normal = c.queue.normal ∧
    (d.queue.priority = c.queue.priority ∨
      d.queue.priority.toList = c.queue.priority.toList ++ [cause.closingFrame])
  /-- What waited then is still given out, in its order, and nothing comes after it. -/
  drains : d.queue.frames = taken later ++ e.queue.frames
  /-- The queue gives the next frame that waits, and the cause when there is none. -/
  next : e.queue.dequeue.1 =
    (e.queue.frames.head?.map (Poll.ready ∘ .ok)).getD (.ready (.error cause))
  /-- A caller that had no answer, and had not turned away, has the cause for an answer. -/
  callers : ∀ i < c.streams.size, (c.stream i).kind = .requesterResponse →
    c.pollResponse i = .pending → (∀ event ∈ past, event.deed ≠ .act i .abandon) →
    e.pollResponse i = .ready (.error cause)
  /-- An answer that was there stays. -/
  answered : ∀ i < c.streams.size, ∀ result, c.pollResponse i = .ready result →
    e.pollResponse i = .ready result
  /-- A consumer to which the peer's direction was open is told what had come in for it, then the
  cause, and then that there is nothing more. -/
  consumers : ∀ i < c.streams.size, ∀ consumer, (c.stream i).consumer = some consumer →
    (c.stream i).closed.inbound = false →
    (∀ event ∈ later, event.deed ≠ .act i .dropConsumer) →
    (∀ item ∈ (c.stream i).inbox.toList, ∃ payload, item = .ok payload) ∧
    told later i = (List.range (told later i).length).map fun k =>
      .ready ((c.stream i).inbox.toList ++ [.error cause])[k]?
  /-- New requests fail with the cause. -/
  refuses : (∀ metadata, e.metadataPush metadata = .error (.failed cause)) ∧
    (∀ payload, e.fireAndForget payload = .error (.failed cause)) ∧
    (∀ payload, e.requestResponse payload = .error (.failed cause)) ∧
    (∀ batch payload, e.requestStream batch payload = .error (.failed cause)) ∧
    ∀ batch, e.requestChannel batch = .error (.failed cause)
  /-- A stream or channel that is first asked for an item now gives the cause, and then ends. -/
  unopened : ∀ f : Endpoint, f.connection = e → ∀ name opening batch,
    f.request? name = some (.unopened opening batch) →
    (f.pollItem name).1 = .ready (some (.error cause)) ∧
      ((f.pollItem name).2.pollItem name).1 = .ready none
  /-- Only the call that ended the connection enqueued ERROR on stream 0, and only if it is the one
  that tells the peer. -/
  closings : (∀ event ∈ past ++ ⟨c, ending, d⟩ :: later, event.deed.IsRead) →
    closings past = [] ∧ closings later = [] ∧
    (d = c.teardown cause ∧ (Event.mk c ending d).closings = [] ∨
      d = c.terminate cause ∧ (Event.mk c ending d).closings = [cause.closingFrame])

/-- What ends an active connection leaves its queue as it was, but for the news of the end. -/
theorem queue_of_ends {c : Connection} (h : c.Sound) (live : c.isActive = true) (cause : Failure) :
    (c.teardown cause).queue.normal = c.queue.normal ∧
      (c.teardown cause).queue.priority = c.queue.priority ∧
      (c.terminate cause).queue.normal = c.queue.normal ∧
      (c.terminate cause).queue.priority.toList =
        c.queue.priority.toList ++ [cause.closingFrame] := by
  have accepts : c.queue.accepts = true := h.accepts.trans live
  have lane := FrameQueue.toList_enqueuePriority c.queue cause.closingFrame
  rw [accepts, if_pos rfl] at lane
  rw [terminate_eq live, teardown_eq live,
    teardown_eq (c := c.enqueuePriority cause.closingFrame) live]
  exact ⟨rfl, rfl, normal_enqueuePriority _ _, lane⟩

/-- A connection that was ended by a call with a cause, whoever made it, and whatever was done
before and after: see `Aftermath`. -/
theorem ended_with_cause {side : Side} {config : ConnectionConfig} {setup : Option Setup}
    {now : Duration} {c d e : Connection} {past later : List Event} {ending : Deed}
    {cause : Failure} (history : History (new side config setup now) past c)
    (live : c.isActive = true) (ends : Does c ending d) (terminal : d.terminal = some cause)
    (after : History d later e) : Aftermath past c ending d later e cause := by
  have start := sound_new side config setup now
  have sound := history.sound start
  obtain ⟨call, ended, halted⟩ := ends.ends_with sound live terminal
  have final := after.stays_over halted
  obtain ⟨tornNormal, tornUrgent, toldNormal, toldUrgent⟩ := queue_of_ends sound live cause
  have awaits {i : Nat} (placed : i < c.streams.size) : Awaits (c.stream i) past i :=
    history.awaits start rfl placed
  -- A stream that had an open direction is registered, so the end failed it.
  have failed {i : Nat} (placed : i < c.streams.size)
      (isOpen : (c.stream i).closed.inbound = false) : d.stream i = (c.stream i).fail cause := by
    have registered := (sound.registered i placed).mpr (by simp [Exchange.isOver, isOpen])
    rw [ended.stream i placed, if_pos (mem_values_of_get? registered)]
  have bound {i : Nat} (placed : i < c.streams.size) : i < d.streams.size := by
    rwa [ended.size]
  have given {i : Nat} {result : Item} (placed : i < c.streams.size)
      (answer : (d.stream i).answer = .given result) : e.pollResponse i = .ready result := by
    rw [pollResponse, after.answer_given halted.sound (bound placed) answer]
  exact {
    call
    terminal := ⟨final.terminal, ended_of_inactive final.isActive⟩
    registry := ⟨ended.registry, (after.after_end halted.sound halted.isActive ended.registry).2⟩
    kept := by
      rcases call with rfl | rfl
      · exact ⟨tornNormal, .inl tornUrgent⟩
      · exact ⟨toldNormal, .inr toldUrgent⟩
    drains := after.drains halted
    next := by
      cases frames : e.queue.frames with
      | nil => rw [FrameQueue.dequeue_drained frames final.closed]; rfl
      | cons frame rest => rw [(FrameQueue.dequeue_frames frames).1]; rfl
    callers := fun i placed kind pending waited => by
      have asked := (awaits placed).receptive.asked kind
      have awaited : (c.stream i).answer = .awaited := by
        unfold pollResponse at pending
        cases answer : (c.stream i).answer with
        | none => contradiction
        | awaited => rfl
        | given result => rw [answer] at pending; cases pending
      have isOpen := (awaits placed).caller kind awaited waited
      exact given placed (by rw [failed placed isOpen, Exchange.fail_answer awaited])
    answered := fun i placed result ready => by
      have answer : (c.stream i).answer = .given result := by
        unfold pollResponse at ready
        cases answer : (c.stream i).answer with
        | none => rw [answer] at ready; cases ready
        | awaited => rw [answer] at ready; cases ready
        | given result => rw [answer] at ready; cases ready; rfl
      exact given placed ((History.single ends).answer_given sound placed answer)
    consumers := fun i placed consumer waits isOpen stays => by
      have receptive := (awaits placed).receptive
      have takes := (sound.coherent i placed).consumer (by rw [waits]; simp)
      have inbox := receptive.inbox takes isOpen
      refine ⟨receptive.items inbox, ?_⟩
      have owes := Exchange.Owes.of_fail receptive waits inbox cause
      obtain ⟨box, answer, eq⟩ := (c.stream i).fail_eq cause
      rw [← failed placed isOpen] at owes
      refine (after.consumes halted.sound (bound placed) owes ?_ ?_ stays).1
      · rw [failed placed isOpen, eq]
      · rw [failed placed isOpen, eq]
        rfl
    refuses := Endpoint.refused_of_terminal final.terminal
    unopened := fun f same name opening batch unopened =>
      Endpoint.pollItem_refused (by rw [same, final.terminal]) unopened
    closings := fun read => by
      have earlier : ∀ event ∈ past, event.deed.IsRead :=
        fun event member => read event (List.mem_append_left _ member)
      have ids : (new side config setup now).Identified := fun i placed => by
        simp [new] at placed
      have between := history.identified start ids earlier
      have next := ends.identified sound (read ⟨c, ending, d⟩ (by simp)) between
      refine ⟨history.closings_nil start ids earlier live, ?_, ?_⟩
      · refine after.closings_nil halted.sound next (fun event member => ?_) ?_
        · exact read event (List.mem_append_right _ (List.mem_cons_of_mem _ member))
        · rw [final.isActive, halted.isActive]
      · obtain ⟨torn, terminated⟩ := closings_of_ends sound live cause ending
        rcases call with rfl | rfl
        · exact .inl ⟨rfl, torn⟩
        · exact .inr ⟨rfl, terminated⟩ }

/-- A client asks for an answer and for a stream, of which one item comes, and closes. The answer is
the cause; the consumer takes the item, then the cause, and then nothing. -/
theorem ended_with_cause_of_closed :
    let start := new .client {} none 0
    let asked := ((start.requestResponse Payload.empty).toOption.map (·.2)).getD start
    let opened := ((asked.requestStream 8 Payload.empty).toOption.map (·.2)).getD asked
    let served := (opened.dispatch (fun _ => true) 0 (.payload (.item 3 Payload.empty))).1
    let ended := served.terminate .closed
    let first := ended.stepWriting 1 (Exchange.Move.poll.apply ·)
    let second := first.stepWriting 1 (Exchange.Move.poll.apply ·)
    let third := second.stepWriting 1 (Exchange.Move.poll.apply ·)
    let later : List Event :=
      [⟨ended, .act 1 .poll, first⟩, ⟨first, .act 1 .poll, second⟩,
        ⟨second, .act 1 .poll, third⟩]
    third.terminal = some .closed ∧ third.registry = .empty ∧
      third.queue.frames = ended.queue.frames ∧
      third.pollResponse 0 = .ready (.error .closed) ∧
      told later 1 = [.ready (some (.ok Payload.empty)), .ready (some (.error .closed)),
        .ready none] := by
  intro start asked opened served ended first second third later
  have response : Does start .asks asked := by
    have made : (start.requestResponse Payload.empty).toOption.isSome = true := by decide +kernel
    cases placed : start.requestResponse Payload.empty with
    | error cause => simp [placed, Except.toOption] at made
    | ok placing =>
      have eq : asked = placing.2 := by simp [asked, placed, Except.toOption]
      exact eq ▸ .asks (.response _ placed)
  have stream : Does asked .asks opened := by
    have made : (asked.requestStream 8 Payload.empty).toOption.isSome = true := by decide +kernel
    cases placed : asked.requestStream 8 Payload.empty with
    | error cause => simp [placed, Except.toOption] at made
    | ok placing =>
      have eq : opened = placing.2 := by simp [opened, placed, Except.toOption]
      exact eq ▸ .asks (.stream 8 _ placed)
  have item : Does opened (.handles (.payload (.item 3 Payload.empty))) served :=
    .handles _ _ _ _
  have closes : Does served .serves ended := .serves (.terminate .closed rfl)
  have asks (c : Connection) (placed : 1 < c.streams.size) :
      Does c (.act 1 .poll) (c.stepWriting 1 (Exchange.Move.poll.apply ·)) :=
    .act c 1 .poll rfl placed trivial
  have history := ((History.start.step response).step stream).step item
  have after : History ended later third :=
    ((History.start.step (asks ended (by decide +kernel))).step
      (asks first (by decide +kernel))).step (asks second (by decide +kernel))
  have halted : ended.terminal = some .closed := by decide +kernel
  have law := ended_with_cause history (by decide +kernel) closes halted after
  have waits := (history.awaits (sound_new .client {} none 0) rfl (i := 0)
    (by decide +kernel)).receptive.awaited (by decide +kernel) (by decide +kernel)
  have pending : served.pollResponse 0 = .pending := by rw [pollResponse, waits]
  have caller := law.callers 0 (by decide +kernel) (by decide +kernel) pending (by simp)
  have consumer := law.consumers 1 (by decide +kernel) { batch := 8 } (by decide +kernel)
    (by decide +kernel) (by simp [later])
  have inbox : (served.stream 1).inbox.toList = [.ok Payload.empty] := by
    have items : (served.stream 1).inbox.toList.map Except.toOption = [some Payload.empty] := by
      decide +kernel
    obtain ⟨item, single, came⟩ := List.map_eq_singleton_iff.mp items
    rw [single]
    cases item with
    | ok payload => rw [Option.some.inj came]
    | error f => simp [Except.toOption] at came
  have count : (told later 1).length = 3 := rfl
  have untaken : taken later = [] := rfl
  have drained := law.drains
  rw [untaken, List.nil_append] at drained
  refine ⟨law.terminal.1, by decide +kernel, drained.symm, caller, ?_⟩
  rw [consumer.2, inbox, count]
  rfl

end Connection

namespace Endpoint

open Connection

/-- The end does not reach everything. A request that was read before it and is handled after it
opens a stream that stays registered. And a consumer that the work of a channel asks for items is
not told the cause: it goes with the work, which is given up. -/
theorem end_leaves_loose_ends :
    (let ended := (Connection.new .server {} none 0).terminate .closed
     let request := Frame.payload (.requestStream 1 1 Payload.empty)
     let late := (ended.dispatch (fun _ => true) 0 request).1
     History ended [⟨ended, .handles request, late⟩] late ∧ ended.registry = .empty ∧
       late.terminal = some .closed ∧ late.registry.get? 1 = some 0) ∧
    let start : Endpoint :=
      { connection := .new .server {} none 0
        application := { requestChannel := some fun _ => { intake := .drain } } }
    let request := Frame.payload (.requestChannel 1 1 Payload.empty false)
    let waiting := ((start.handle request).stepWork 0).1
    let closed := (waiting.perform .close).2
    let after := (closed.stepWork 0).1
    waiting.connection.isActive = true ∧
      (waiting.connection.stream 0).consumer = some { batch := 64 } ∧
      (waiting.connection.stream 0).closed.inbound = false ∧
      closed.connection.terminal = some .closed ∧
      after.readyTasks {} = [.write, .read, .watch] ∧
      (after.connection.stream 0).consumer = none ∧
      after.events = #[.requestChannel Payload.empty] := by
  exact ⟨⟨.single (.handles _ _ _ _), by decide +kernel, by decide +kernel, by decide +kernel⟩,
    by decide +kernel, by decide +kernel, by decide +kernel, by decide +kernel, by decide +kernel,
    by decide +kernel, rfl⟩

end Endpoint
end StreamMux
