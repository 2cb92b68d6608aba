import StreamMux.Proofs.Connection.Arrival
import StreamMux.Proofs.Connection.WireDiscipline

/-!
# Histories of a connection

A run tells which states a connection can come to. A history tells how: it lists what was done, with
the state before and the state after (`Event`), so that what was sent, granted or taken on the way
can be read off it. A frame of the peer may be handled at any time: one that was read before the
connection ended is also handled if the end comes in between.

A deed spares a stream that was there before, makes it do one move, or fails it with the whole
connection (`Fate`). A stream that was not there is one that this end asked for, or one that a
request of the peer opens (`Birth`).
-/
namespace StreamMux

/-- A stream that failed with the connection is not changed by failing once more. -/
theorem Exchange.fail_fail (s : Exchange) (cause : Failure) :
    (s.fail cause).fail cause = s.fail cause := by
  cases s with
  | mk id kind closed started initiated fragments limiter stopped inbox inboxOpen consumer answer =>
    cases inboxOpen <;> cases answer <;>
      simp [fail, close, stop, failInbox, deposit, endInbox, settle, Limiter.cancel,
        Directions.union]

namespace Connection

/-- What is done to a connection. -/
inductive Deed where
  | asks
  | serves
  | act (place : Nat) (move : Exchange.Move)
  | handles (frame : Frame)
  | dequeues

/-- A deed takes a connection from one state to another. -/
inductive Does : Connection → Deed → Connection → Prop
  | asks {c d : Connection} (made : c.Asks d) : Does c .asks d
  | serves {c d : Connection} (made : c.Serves d) : Does c .serves d
  | act (c : Connection) (i : Nat) (m : Exchange.Move) (own : m.isLocal = true)
      (placed : i < c.streams.size) (fits : m.Fits (c.stream i)) :
      Does c (.act i m) (c.stepWriting i (m.apply ·))
  | handles (c : Connection) (keepsItems : Payload → Bool) (now : Duration) (frame : Frame) :
      Does c (.handles frame) (c.dispatch keepsItems now frame).1
  | dequeues (c : Connection) : Does c .dequeues { c with queue := c.queue.dequeue.2 }

/-- Something that was done, with the states around it. -/
structure Event where
  before : Connection
  deed : Deed
  after : Connection

/-- All that was done between two states, in its order. -/
inductive History (c : Connection) : List Event → Connection → Prop
  | start : History c [] c
  | step {d e : Connection} {deed : Deed} {past : List Event} (history : History c past d)
      (next : Does d deed e) : History c (past ++ [⟨d, deed, e⟩]) e

/-- The frames that were enqueued for the stream at a place. -/
def sent (past : List Event) (i : Nat) : List Frame :=
  past.flatMap fun event => event.before.enqueuedFor event.after i

variable {c d e : Connection} {deed : Deed} {past next : List Event} {i : Nat}

@[simp] theorem sent_nil (i : Nat) : sent [] i = [] := rfl

@[simp] theorem sent_append (past next : List Event) (i : Nat) :
    sent (past ++ next) i = sent past i ++ sent next i := by
  simp [sent]

@[simp] theorem sent_single (event : Event) (i : Nat) :
    sent [event] i = event.before.enqueuedFor event.after i := by
  simp [sent]

theorem Does.toStep (does : Does c deed d) : Step c d := by
  cases does with
  | asks made => exact .asks made
  | serves made => exact .serves made
  | act i m own placed fits => exact .act c i m own placed fits
  | handles keepsItems now frame => exact .dispatch c keepsItems now frame
  | dequeues => exact .dequeue c

theorem Does.outcome (does : Does c deed d) (h : c.Sound) : c.Outcome d := does.toStep.outcome h

theorem Does.sound (does : Does c deed d) (h : c.Sound) : d.Sound := does.toStep.sound h

theorem Does.later (does : Does c deed d) (h : c.Sound) : c.Later d := does.toStep.later h

namespace History

theorem run (history : History c past d) : Run c (sent past) d := by
  induction history with
  | start => exact .start
  | @step d e deed past history does ih =>
    have split : sent (past ++ [⟨d, deed, e⟩]) = fun i => sent past i ++ d.enqueuedFor e i :=
      funext fun i => by simp
    rw [split]
    exact ih.step does.toStep

theorem single (does : Does c deed d) : History c [⟨c, deed, d⟩] d := .step .start does

theorem sound (history : History c past d) (h : c.Sound) : d.Sound := history.run.sound h

theorem later (history : History c past d) (h : c.Sound) : c.Later d := history.run.later h

/-- A connection that is active was so all the time. -/
theorem isActive (history : History c past d) (h : c.Sound) (active : d.isActive = true) :
    c.isActive = true := by
  induction history with
  | start => exact active
  | step history does ih => exact ih ((does.outcome (history.sound h)).isActive active)

end History

/-! ### What a deed comes to -/

/-- The move that a deed makes the stream at a place do: the deed itself, or what a frame of its id
asks for. -/
inductive Touches (c : Connection) (i : Nat) : Deed → Exchange.Move → Prop
  | own {m : Exchange.Move} (own : m.isLocal = true) : Touches c i (.act i m) m
  | receive {f : PayloadFrame} (uptake : Exchange.Uptake) (named : c.registry.get? f.id = some i)
      (inner : f.type.opensStream = false) : Touches c i (.handles (.payload f)) (.receive uptake f)
  | grant {id n : UInt32} (named : c.registry.get? id = some i) :
      Touches c i (.handles (.requestN id n)) (.grant n.toNat)
  | cancel {id : UInt32} (named : c.registry.get? id = some i) :
      Touches c i (.handles (.cancel id)) .cancelByPeer
  | error {id : UInt32} {code : ErrorCode} {message : String}
      (named : c.registry.get? id = some i) (stream : id ≠ 0) :
      Touches c i (.handles (.error id code message)) (.fail (.ofErrorFrame code message))

/-- What a deed comes to for the connection. -/
inductive Course (c d : Connection) : Deed → Prop
  /-- No stream is concerned. -/
  | quiet {deed : Deed} (streams : d.streams = c.streams) (registry : d.registry = c.registry)
      (terminal : d.terminal = c.terminal) (silent : ∀ i, c.enqueuedFor d i = []) : Course c d deed
  | moved {deed : Deed} (i : Nat) (m : Exchange.Move) (placed : i < c.streams.size)
      (fits : m.Fits (c.stream i)) (touches : Touches c i deed m)
      (eq : d = c.stepWriting i (m.apply ·)) : Course c d deed
  | asked (made : c.Asks d) : Course c d .asks
  /-- A request of the peer opens a stream, which receives it. -/
  | accepted (f : PayloadFrame) (kind : StreamKind) (uptake : Exchange.Uptake)
      (registry : Registry Nat) (opens : StreamKind.ofRequest? f.type = some kind)
      (foreign : c.side.owns f.id = false)
      (inserted : c.registry.insert? f.id c.streams.size = some registry)
      (eq : d =
        let s := Exchange.responder f.id kind f.initial
        let r := s.receive uptake f
        { c with registry, streams := c.streams.push s }.commit c.streams.size r.stream r.frames) :
      Course c d (.handles (.payload f))
  | ended {deed : Deed} (cause : Failure) (eq : d = c.teardown cause ∨ d = c.terminate cause) :
      Course c d deed

theorem Course.of_lane {deed : Deed} (streams : d.streams = c.streams)
    (registry : d.registry = c.registry) (terminal : d.terminal = c.terminal)
    (normal : d.queue.normal = c.queue.normal) : Course c d deed :=
  .quiet streams registry terminal fun i => enqueuedFor_torn (enqueued_of_same normal) i

theorem Course.of_priority (c : Connection) (frame : Frame) (deed : Deed) :
    Course c (c.enqueuePriority frame) deed :=
  .of_lane (c := c) (d := c.enqueuePriority frame) rfl rfl rfl (normal_enqueuePriority _ _)

theorem serves_course (made : c.Serves d) (deed : Deed) : Course c d deed := by
  cases made with
  | metadataPush metadata made =>
    unfold metadataPush at made
    split at made
    · contradiction
    · split at made
      · cases made
        exact .of_priority c _ deed
      · contradiction
  | fireAndForget payload made =>
    unfold fireAndForget at made
    split at made
    · contradiction
    · split at made
      · contradiction
      next id ids found =>
        split at made
        next accepts =>
          cases made
          let d := { c with ids }.enqueue (.payload (.fireAndForget id payload))
          have added : c.enqueued d =
              if c.queue.accepts then [.payload (.fireAndForget id payload)] else [] :=
            drop_added (toList_enqueue c.queue _)
          refine .quiet rfl rfl rfl (enqueuedFor_still (c := c) (d := d) rfl fun f hf => ?_)
          rw [added, if_pos accepts, List.mem_singleton] at hf
          rw [hf]
          exact ⟨rfl, get?_of_free (StreamIds.next?_ok found).free⟩
        · contradiction
  | tick now made =>
    rw [made, tick]
    split
    · exact .ended _ (.inr rfl)
    · exact .of_priority c _ deed
  | teardown cause made => exact .ended cause (.inl made)
  | terminate cause made => exact .ended cause (.inr made)

theorem accept_course (c : Connection) (keepsItems : Payload → Bool) (f : PayloadFrame) :
    Course c (c.accept keepsItems f).1 (.handles (.payload f)) := by
  have still : Course c c (.handles (.payload f)) := .of_lane rfl rfl rfl rfl
  unfold accept
  split
  · exact still
  next kind opens =>
    split
    · exact still
    next foreign =>
      split
      · exact still
      next i d opened =>
        obtain ⟨registry, inserted, rfl, rfl⟩ := insert?_ok opened
        refine .accepted f kind { batch := c.config.prefetch, keepsItems } registry opens
          (by simpa using foreign) inserted ?_
        rw [receive, stream_push rfl rfl, if_pos rfl]

/-- A frame of the peer makes the stream of its id move, opens a stream, or ends all of them. -/
theorem dispatch_course (h : c.Sound) (keepsItems : Payload → Bool) (now : Duration)
    (frame : Frame) : Course c (c.dispatch keepsItems now frame).1 (.handles frame) := by
  have still (deed : Deed) : Course c c deed := .of_lane rfl rfl rfl rfl
  cases frame with
  | keepAlive respond position data =>
    change Course c (c.hear now respond) _
    unfold hear
    split
    · exact .of_lane (c := c) rfl rfl rfl (normal_enqueuePriority c.queue _)
    · exact .of_lane (c := c) (d := { c with lastHeard := now }) rfl rfl rfl rfl
  | metadataPush metadata => exact still _
  | setup s => exact still _
  | lease ttl requests metadata => exact still _
  | error id code message =>
    unfold dispatch
    dsimp only
    split
    · exact .ended _ (.inl rfl)
    next stream =>
      unfold stepRegistered
      split
      next j named =>
        exact .moved j (.fail _) (h.placed named).1 trivial (.error named stream) rfl
      · exact still _
  | requestN id n =>
    change Course c (c.stepRegistered id _) _
    unfold stepRegistered
    split
    next j named => exact .moved j (.grant _) (h.placed named).1 trivial (.grant named) rfl
    · exact still _
  | cancel id =>
    change Course c (c.stepRegistered id _) _
    unfold stepRegistered
    split
    next j named => exact .moved j .cancelByPeer (h.placed named).1 trivial (.cancel named) rfl
    · exact still _
  | payload f =>
    rw [dispatch]
    split
    next j named =>
      split
      · exact still _
      next inner =>
        exact .moved j (.receive _ f) (h.placed named).1 trivial
          (.receive _ named (by simpa using inner)) rfl
    · exact c.accept_course keepsItems f

theorem Does.course (h : c.Sound) (does : Does c deed d) : Course c d deed := by
  cases does with
  | asks made => exact .asked made
  | serves made => exact serves_course made _
  | act i m own placed fits => exact .moved i m placed fits (.own own) rfl
  | handles keepsItems now frame => exact dispatch_course h keepsItems now frame
  | dequeues =>
    have fewer : c.enqueued { c with queue := c.queue.dequeue.2 } = [] :=
      List.drop_of_length_le (dequeue_spec c.queue).2
    exact .quiet rfl rfl rfl (enqueuedFor_torn fewer)

/-- Asking for a stream registers one of this end. -/
theorem asks_registers (made : c.Asks d) : ∃ make j e, (∀ id, (make id).id = id) ∧
    (∀ id, (make id).kind.isRequester = true) ∧ c.register make = .ok (j, e) ∧
    d.streams = e.streams ∧ d.terminal = e.terminal := by
  cases made with
  | response payload made =>
    unfold requestResponse at made
    obtain ⟨⟨_, e⟩, registered, eq⟩ := bind_ok made
    cases eq
    exact ⟨_, _, e, fun _ => rfl, fun _ => rfl, registered, rfl, rfl⟩
  | stream batch payload made =>
    unfold requestStream at made
    obtain ⟨⟨_, e⟩, registered, eq⟩ := bind_ok made
    cases eq
    exact ⟨_, _, e, fun _ => rfl, fun _ => rfl, registered, rfl, rfl⟩
  | channel batch made => exact ⟨_, _, d, fun _ => rfl, fun _ => rfl, made, rfl, rfl⟩

/-- Only an active connection asks for streams. -/
theorem asks_live (made : c.Asks d) : c.isActive = true := by
  obtain ⟨make, j, e, named, _, registered, _, _⟩ := asks_registers made
  exact (register_ok named registered).1

/-! ### The end of the connection -/

theorem teardown_eq (live : c.isActive = true) (cause : Failure) :
    c.teardown cause =
      { c with
        terminal := some cause
        streams := c.registry.values.foldl (fun s i => s.modify i (·.fail cause)) c.streams
        registry := .empty
        queue := c.queue.close cause } := by
  have none : c.terminal = none := by simpa [isActive] using live
  rw [teardown, none]

theorem terminate_eq (live : c.isActive = true) (cause : Failure) :
    c.terminate cause = (c.enqueuePriority cause.closingFrame).teardown cause := by
  have none : c.terminal = none := by simpa [isActive] using live
  rw [terminate, none]

/-- Only the first cause counts. -/
theorem ended_of_inactive (halted : c.isActive = false) (cause : Failure) :
    c.teardown cause = c ∧ c.terminate cause = c := by
  cases terminal : c.terminal with
  | none => simp [isActive, terminal] at halted
  | some first => simp [teardown, terminate, terminal]

/-- Failing the streams at some places, each of them any number of times. -/
theorem fail_places (cause : Failure) (places : List Nat) (streams : Array Exchange) (i : Nat) :
    (places.foldl (fun streams j => streams.modify j (·.fail cause)) streams)[i]? =
      if i ∈ places then streams[i]?.map (·.fail cause) else streams[i]? := by
  induction places generalizing streams with
  | nil => simp
  | cons j rest ih =>
    rw [List.foldl_cons, ih, Array.getElem?_modify]
    by_cases same : j = i
    · subst same
      have again : (·.fail cause) ∘ (·.fail cause) = fun s : Exchange => s.fail cause :=
        funext fun s => s.fail_fail cause
      simp [again]
    · simp [same, Ne.symm same]

/-- What the end of a connection leaves behind. -/
structure Ended (c d : Connection) (cause : Failure) : Prop where
  terminal : d.terminal = some cause
  registry : d.registry = .empty
  /-- The streams that were registered failed. -/
  stream : ∀ i < c.streams.size,
    d.stream i = if i ∈ c.registry.values then (c.stream i).fail cause else c.stream i
  size : d.streams.size = c.streams.size
  silent : ∀ i, c.enqueuedFor d i = []

theorem teardown_ended (live : c.isActive = true) (cause : Failure) :
    Ended c (c.teardown cause) cause := by
  rw [teardown_eq live]
  refine ⟨rfl, rfl, fun i placed => ?_, size_fail_all _ _ _, ?_⟩
  · rw [stream, fail_places, getElem?_of_placed placed]
    split
    · rfl
    · rfl
  · exact enqueuedFor_torn (enqueued_of_same rfl)

theorem terminate_ended (live : c.isActive = true) (cause : Failure) :
    Ended c (c.terminate cause) cause := by
  have ended := teardown_ended (c := c.enqueuePriority cause.closingFrame) live cause
  rw [terminate_eq live]
  refine ⟨ended.terminal, ended.registry, ended.stream, ended.size, enqueuedFor_torn ?_⟩
  refine enqueued_of_same ?_
  rw [teardown_eq (c := c.enqueuePriority cause.closingFrame) live]
  exact normal_enqueuePriority c.queue _

/-- What ends an active connection is a call that names the cause. -/
theorem Does.ends (h : c.Sound) (does : Does c deed d) (live : c.isActive = true)
    (halted : d.isActive = false) : ∃ cause, d = c.teardown cause ∨ d = c.terminate cause := by
  have kept (same : d.terminal = c.terminal) : False := by
    rw [isActive, same] at halted
    rw [isActive, halted] at live
    contradiction
  cases does.course h with
  | quiet streams registry terminal silent => exact (kept terminal).elim
  | moved i m placed fits touches eq => exact (kept (by rw [eq]; rfl)).elim
  | asked made =>
    obtain ⟨make, j, e, named, _, registered, _, terminal⟩ := asks_registers made
    obtain ⟨_, id, ids, registry, _, _, _, rfl⟩ := register_ok named registered
    exact (kept terminal).elim
  | accepted f kind uptake registry opens foreign inserted eq => exact (kept (by rw [eq]; rfl)).elim
  | ended cause eq => exact ⟨cause, eq⟩

/-- The deed handles a request of the peer, for a stream under this id. -/
def Deed.Requests (deed : Deed) (id : UInt32) : Prop :=
  ∃ f kind, deed = .handles (.payload f) ∧ f.id = id ∧ StreamKind.ofRequest? f.type = some kind

/-- After the end the cause stays, and what is registered anew was requested by the peer. -/
theorem Does.after_end (h : c.Sound) (does : Does c deed d) (halted : c.isActive = false) :
    d.terminal = c.terminal ∧ ∀ id i, d.registry.get? id = some i →
      c.registry.get? id = some i ∨ c.streams.size ≤ i ∧ deed.Requests id := by
  cases does.course h with
  | quiet streams registry terminal silent =>
    exact ⟨terminal, fun id i held => .inl (registry ▸ held)⟩
  | moved j m placed fits touches eq =>
    subst eq
    refine ⟨rfl, fun id i held => .inl ?_⟩
    simp only [stepWriting, commit] at held
    split at held
    · rw [Registry.get?_erase] at held
      split at held
      · contradiction
      · exact held
    · exact held
  | asked made =>
    rw [asks_live made] at halted
    contradiction
  | accepted f kind uptake registry opens foreign inserted eq =>
    subst eq
    refine ⟨rfl, fun id i held => ?_⟩
    have held : registry.get? id = some i := by
      simp only [commit] at held
      split at held
      · rw [Registry.get?_erase] at held
        split at held
        · contradiction
        · exact held
      · exact held
    rw [Registry.get?_insert? inserted] at held
    split at held
    next same =>
      cases held
      exact .inr ⟨Nat.le_refl _, f, kind, rfl, same.symm, opens⟩
    · exact .inl held
  | ended cause eq =>
    have same : d = c := by
      obtain ⟨torn, terminated⟩ := ended_of_inactive halted cause
      rcases eq with rfl | rfl
      · exact torn
      · exact terminated
    subst same
    exact ⟨rfl, fun id i held => .inl held⟩

/-- What is registered after the end was requested by the peer after it. -/
theorem History.after_end (history : History c past d) (h : c.Sound) (halted : c.isActive = false)
    (empty : c.registry = .empty) : d.terminal = c.terminal ∧
      ∀ id i, d.registry.get? id = some i →
        c.streams.size ≤ i ∧ ∃ event ∈ past, event.deed.Requests id := by
  induction history with
  | start => exact ⟨rfl, fun id i held => by rw [empty] at held; contradiction⟩
  | @step d e deed past history does ih =>
    obtain ⟨terminal, registered⟩ := ih
    have gone : d.isActive = false := (congrArg Option.isNone terminal).trans halted
    obtain ⟨next, later⟩ := does.after_end (history.sound h) gone
    refine ⟨next.trans terminal, fun id i held => ?_⟩
    rcases later id i held with before | ⟨fresh, requests⟩
    · obtain ⟨past, event, member, requests⟩ := registered id i before
      exact ⟨past, event, List.mem_append_left _ member, requests⟩
    · exact ⟨Nat.le_trans (history.later h).size fresh, ⟨d, deed, e⟩, by simp, requests⟩

/-! ### One stream -/

/-- What a deed does to a stream that was there. -/
inductive Fate (c d : Connection) (i : Nat) (deed : Deed) : Prop
  | spared (same : d.stream i = c.stream i) (silent : c.enqueuedFor d i = [])
  | moved (m : Exchange.Move) (fits : m.Fits (c.stream i)) (touches : Touches c i deed m)
      (eq : d.stream i = (m.apply (c.stream i)).1)
      (sent : c.enqueuedFor d i = if c.isActive then (m.apply (c.stream i)).2 else [])
  | failed (cause : Failure) (live : c.isActive = true) (halted : d.terminal = some cause)
      (eq : d.stream i = (c.stream i).fail cause) (silent : c.enqueuedFor d i = [])

/-- A stream that comes about leaves those alone that were there. -/
theorem Fate.of_grown (h : c.Sound) (outcome : c.Outcome d)
    (grown : c.streams.size < d.streams.size) (placed : i < c.streams.size) (deed : Deed) :
    Fate c d i deed := by
  cases outcome with
  | still streams registry active accepts enqueued => simp [streams] at grown
  | moved j bound effect eq => simp [eq, size_commit] at grown
  | torn cause live streams registry finished refuses enqueued =>
    simp [streams, size_fail_all] at grown
  | opened born live free streams registry active accepts enqueued =>
    have earlier := Nat.ne_of_lt placed
    refine .spared ?_ ?_
    · rw [stream_push rfl streams, if_neg earlier]
    · rw [enqueuedFor_opened h born free streams enqueued, if_neg earlier]

theorem Fate.of_ended {cause : Failure} (live : c.isActive = true) (ended : Ended c d cause)
    (placed : i < c.streams.size) (deed : Deed) : Fate c d i deed := by
  have eq := ended.stream i placed
  by_cases named : i ∈ c.registry.values
  · exact .failed cause live ended.terminal (eq.trans (if_pos named)) (ended.silent i)
  · exact .spared (eq.trans (if_neg named)) (ended.silent i)

theorem asks_grown (made : c.Asks d) : c.streams.size < d.streams.size := by
  obtain ⟨make, j, e, named, _, registered, streams, _⟩ := asks_registers made
  obtain ⟨_, id, ids, registry, _, _, _, rfl⟩ := register_ok named registered
  rw [streams, Array.size_push]
  exact Nat.lt_succ_self _

theorem Does.fate (h : c.Sound) (does : Does c deed d) (placed : i < c.streams.size) :
    Fate c d i deed := by
  have course := does.course h
  have outcome := does.outcome h
  cases course with
  | quiet streams registry terminal silent =>
    exact .spared (by rw [stream, stream, streams]) (silent i)
  | moved j m bound fits touches eq =>
    subst eq
    have effect := m.effect (h.coherent j bound) fits
    have stream := stream_commit c bound (m.apply (c.stream j)).1 (m.apply (c.stream j)).2 i
    have sent := enqueuedFor_moved h bound effect i
    by_cases same : i = j
    · subst same
      exact .moved m fits touches (stream.trans (if_pos rfl)) (sent.trans (if_pos rfl))
    · exact .spared (stream.trans (if_neg same)) (sent.trans (if_neg same))
  | asked made => exact .of_grown h outcome (asks_grown made) placed _
  | accepted f kind uptake registry opens foreign inserted eq =>
    refine .of_grown h outcome ?_ placed _
    rw [eq, size_commit, Array.size_push]
    exact Nat.lt_succ_self _
  | ended cause eq =>
    cases live : c.isActive with
    | true =>
      rcases eq with rfl | rfl
      · exact .of_ended live (teardown_ended live cause) placed deed
      · exact .of_ended live (terminate_ended live cause) placed deed
    | false =>
      have same : d = c := by
        rcases eq with rfl | rfl
        · exact (ended_of_inactive live cause).1
        · exact (ended_of_inactive live cause).2
      subst same
      exact .spared rfl (enqueuedFor_torn (enqueued_of_same rfl) i)

/-- How a stream comes about that was not there, and what is enqueued with it. -/
inductive Birth (c d : Connection) (i : Nat) : Deed → Prop
  | response (id : UInt32) (payload : Payload) (nonzero : id ≠ 0)
      (eq : d.stream i = .requesterResponse id)
      (sent : c.enqueuedFor d i = [.payload (.requestResponse id payload)]) : Birth c d i .asks
  | stream (id batch : UInt32) (payload : Payload) (nonzero : id ≠ 0)
      (eq : d.stream i = .requesterStream batch id)
      (sent : c.enqueuedFor d i = [.payload (.requestStream id batch payload)]) : Birth c d i .asks
  | channel (id batch : UInt32) (nonzero : id ≠ 0) (eq : d.stream i = .requesterChannel batch id)
      (silent : c.enqueuedFor d i = []) : Birth c d i .asks
  | responder (f : PayloadFrame) (kind : StreamKind) (uptake : Exchange.Uptake)
      (opens : StreamKind.ofRequest? f.type = some kind) (foreign : c.side.owns f.id = false)
      (eq : d.stream i = ((Exchange.responder f.id kind f.initial).receive uptake f).stream)
      (sent : c.enqueuedFor d i = if c.isActive then
        ((Exchange.responder f.id kind f.initial).receive uptake f).frames else []) :
      Birth c d i (.handles (.payload f))

/-- The stream that was asked for is one of this end, under an id that is not 0. -/
theorem asks_stream (made : c.Asks d) (fresh : c.streams.size ≤ i) (placed : i < d.streams.size) :
    (d.stream i).id ≠ 0 ∧ (d.stream i).kind.isRequester = true := by
  obtain ⟨make, j, e, named, asks, registered, streams, _⟩ := asks_registers made
  obtain ⟨_, id, ids, registry, found, _, _, rfl⟩ := register_ok named registered
  rw [streams, Array.size_push] at placed
  rw [stream_push rfl streams, if_pos (by omega), named]
  exact ⟨(StreamIds.next?_ok found).nonzero, asks id⟩

theorem asks_birth (h : c.Sound) (made : c.Asks d) (fresh : c.streams.size ≤ i)
    (placed : i < d.streams.size) : Birth c d i .asks := by
  obtain ⟨nonzero, asks⟩ := asks_stream made fresh placed
  obtain ⟨frames, born, live, sent⟩ := made.outcome.birth h fresh placed
  rw [if_pos (live asks)] at sent
  generalize eq : d.stream i = t at born asks nonzero
  cases born with
  | response id payload => exact .response id payload nonzero eq sent
  | stream id batch payload => exact .stream id batch payload nonzero eq sent
  | channel id batch => exact .channel id batch nonzero eq sent
  | responder id initial answers effect =>
    rw [effect.kind] at asks
    simp [Exchange.responder, answers] at asks

theorem ofRequest?_answers {type : FrameType} {kind : StreamKind}
    (opens : StreamKind.ofRequest? type = some kind) : kind.isRequester = false := by
  revert opens
  cases type <;> simp [StreamKind.ofRequest?] <;> rintro rfl <;> rfl

theorem Does.birth (h : c.Sound) (does : Does c deed d) (fresh : c.streams.size ≤ i)
    (placed : i < d.streams.size) : Birth c d i deed := by
  have course := does.course h
  cases course with
  | quiet streams registry terminal silent =>
    rw [streams] at placed
    omega
  | moved j m bound fits touches eq =>
    rw [eq, stepWriting, size_commit] at placed
    omega
  | asked made => exact asks_birth h made fresh placed
  | accepted f kind uptake registry opens foreign inserted eq =>
    have bound : c.streams.size <
        (c.streams.push (Exchange.responder f.id kind f.initial)).size := by simp
    have last : i = c.streams.size := by
      rw [eq, size_commit, Array.size_push] at placed
      omega
    have effect := Exchange.receive_effect
      (responder_coherent f.id f.initial (ofRequest?_answers opens)) uptake f
    subst last
    refine .responder f kind uptake opens foreign ?_ ?_
    · rw [eq, stream_commit _ bound, if_pos rfl]
    · rw [eq]
      refine (enqueuedFor_opened h (.responder f.id f.initial (ofRequest?_answers opens) effect)
        ?_ ?_ ?_ _).trans (if_pos rfl)
      · rw [effect.id]
        exact get?_of_insert? inserted
      · simp [commit, Array.setIfInBounds, Array.set_push]
      · exact drop_added (toList_foldl_enqueue _ c.queue)
  | ended cause eq =>
    have size : d.streams.size = c.streams.size := by
      cases live : c.isActive with
      | true =>
        rcases eq with rfl | rfl
        · exact (teardown_ended live cause).size
        · exact (terminate_ended live cause).size
      | false =>
        rcases eq with rfl | rfl
        · rw [(ended_of_inactive live cause).1]
        · rw [(ended_of_inactive live cause).2]
    omega

/-! ### Streams of this end -/

/-- A stream of this end is over as soon as the connection is. -/
theorem History.isOver (history : History c past d) (h : c.Sound) (live : c.isActive = true)
    (halted : d.isActive = false) (placed : i < d.streams.size)
    (asks : (d.stream i).kind.isRequester = true) : (d.stream i).isOver = true := by
  induction history with
  | start =>
    rw [live] at halted
    contradiction
  | @step d e deed past history does ih =>
    have sound := history.sound h
    cases was : d.isActive with
    | true =>
      have empty : e.registry = .empty := by
        obtain ⟨cause, rfl | rfl⟩ := does.ends sound was halted
        · exact (teardown_ended was cause).registry
        · exact (terminate_ended was cause).registry
      have registered := (does.sound sound).registered i placed
      rw [empty] at registered
      simpa using registered
    | false =>
      by_cases before : i < d.streams.size
      · have later := (does.later sound).streams i before
        exact later.isOver (ih was before (later.kind ▸ asks))
      · cases does.birth sound (Nat.le_of_not_lt before) placed with
        | responder f kind uptake opens foreign eq sent =>
          have answers := ofRequest?_answers opens
          have effect :=
            Exchange.receive_effect (responder_coherent f.id f.initial answers) uptake f
          rw [eq, effect.kind] at asks
          simp [Exchange.responder, answers] at asks
        | _ =>
          cases does with
          | asks made =>
            rw [asks_live made] at was
            contradiction

end Connection
end StreamMux
