import StreamMux.Proofs.Outbound.Acts
import StreamMux.World

/-!
# What an endpoint hands to its transport

A step of the loop that writes takes the first frame off a lane, the normal lane only when the
priority lane is empty, and hands its bytes to the transport unless it cannot be encoded
(`Endpoint.Wrote`). So over any number of acts what left a lane and what it still has is what it had
and took in, and the bytes that were handed over are those of the frames that left, in their order
(`Endpoint.handed_over`).
-/
namespace StreamMux

/-- The bytes of a frame, unless it cannot be encoded. -/
def Frame.bytes? (frame : Frame) : Option ByteArray := frame.encode.toOption

/-- What is handed to the transport for frames that are taken one after the other. -/
def wire (frames : List Frame) : List ByteArray := frames.filterMap Frame.bytes?

/-- Whoever writes is not told of a failure. -/
def Pipe.Works (pipe : Pipe) : Prop := pipe.writerOpen = true ∧ pipe.readerOpen = true

@[simp] theorem wire_nil : wire [] = [] := rfl

@[simp] theorem wire_append (frames more : List Frame) :
    wire (frames ++ more) = wire frames ++ wire more := List.filterMap_append

theorem wire_single (frame : Frame) : wire [frame] = frame.bytes?.toList := by
  cases bytes : frame.bytes? <;> simp [wire, bytes]

theorem mem_wire {frames : List Frame} {frame : Frame} {bytes : ByteArray} (mem : frame ∈ frames)
    (encoded : frame.encode = .ok bytes) : bytes ∈ wire frames := by
  refine List.mem_filterMap.mpr ⟨frame, mem, ?_⟩
  rw [Frame.bytes?, encoded]
  rfl

theorem Pipe.Works.write {pipe : Pipe} (works : pipe.Works) (bytes : ByteArray) :
    ∃ next, pipe.write bytes = .ok next := by
  rw [Pipe.write, works.1, works.2]
  exact ⟨_, rfl⟩

namespace FrameQueue

/-- What asking for a frame comes to, as long as somebody can add some. -/
theorem dequeue_cases {q : FrameQueue} (producer : q.hasProducer = true) :
    (∃ frame own rest, q.dequeue = (.ready (.ok frame), rest) ∧
      (∀ lane, q.lane lane = (if own = lane then [frame] else []) ++ rest.lane lane) ∧
      (own = .normal → q.lane .priority = []) ∧ rest.cause = q.cause ∧
      rest.hasProducer = q.hasProducer ∧ rest.hasConsumer = q.hasConsumer) ∨
    (∀ lane, q.lane lane = []) ∧
      q.dequeue = (if q.isClosed then .ready (.error q.finalCause) else .pending, q) := by
  have takes := q.takes
  unfold dequeue
  generalize q.tryDequeue = taken at takes
  cases takes with
  | urgent first =>
    refine .inl ⟨_, .priority, _, rfl, fun lane => ?_, nofun, rfl, rfl, rfl⟩
    cases lane with
    | priority => exact first
    | normal => rfl
  | plain none first =>
    refine .inl ⟨_, .normal, _, rfl, fun lane => ?_, fun _ => none, rfl, rfl, rfl⟩
    cases lane with
    | priority => rfl
    | normal => exact first
  | nothing empty =>
    refine .inr ⟨empty, ?_⟩
    rw [producer]
    cases q.isClosed <;> rfl

theorem isEmpty_iff (q : FrameQueue) : q.isEmpty = true ↔ ∀ lane, q.lane lane = [] := by
  rw [isEmpty, Bool.and_eq_true, Fifo.isEmpty_iff, Fifo.isEmpty_iff]
  refine ⟨fun empty lane => ?_, fun empty => ⟨empty .priority, empty .normal⟩⟩
  cases lane with
  | priority => exact empty.1
  | normal => exact empty.2

end FrameQueue

namespace Endpoint

open FrameQueue (Lane)

/-- The frames that wait in a lane. -/
def lane (e : Endpoint) (lane : Lane) : List Frame := e.connection.queue.lane lane

/-- What an act puts into a lane. -/
def accepted (e : Endpoint) (act : Act) (lane : Lane) : List Frame :=
  if act.isWrite then [] else ((e.after act).lane lane).drop (e.lane lane).length

/-- What acts put into a lane, one after the other. -/
def acceptedAll (e : Endpoint) : List Act → Lane → List Frame
  | [], _ => []
  | act :: acts, lane => e.accepted act lane ++ (e.after act).acceptedAll acts lane

/-- What a step of the loop that writes comes to. -/
inductive Wrote (e : Endpoint) (out : Pipe) (f : Endpoint) : Prop
  | waits (empty : ∀ lane, e.lane lane = []) (live : e.connection.isActive = true) (eq : f = e)
  | stops (empty : ∀ lane, e.lane lane = []) (halted : e.connection.isActive = false)
      (eq : f = { e with writing := false })
  /-- A frame is taken. A write that fails ends the connection, and the loop. -/
  | takes (frame : Frame) (own : Lane)
      (lanes : ∀ lane, e.lane lane = (if own = lane then [frame] else []) ++ f.lane lane)
      (first : own = .normal → e.lane .priority = []) (piped : f.connection.Piped)
      (config : f.connection.config = e.connection.config)
      (written : f.written.toList = e.written.toList ++ wire [frame])
      (goes : f.writing = e.writing ∧ f.connection.terminal = e.connection.terminal ∨
        f.writing = false ∧ f.connection.isActive = false ∧ ¬ out.Works ∧
          (∀ cause, e.connection.terminal = some cause → f.connection.terminal = some cause))

variable {e f : Endpoint} {act : Act} {acts : List Act}

theorem stepWrite_wrote (piped : e.connection.Piped) (out : Pipe) :
    e.Wrote out (e.stepWrite out).1 := by
  unfold stepWrite
  rcases FrameQueue.dequeue_cases piped.producer with
    ⟨frame, own, rest, taken, lanes, first, cause, producer, consumer⟩ | ⟨empty, told⟩
  · rw [taken]
    dsimp only
    let c : Connection := { e.connection with queue := rest }
    have without : c.Piped :=
      ⟨cause.trans piped.cause, producer.trans piped.producer, consumer.trans piped.consumer⟩
    cases encoded : frame.encode with
    | error problem =>
      refine .takes frame own lanes first without rfl ?_ (.inl ⟨rfl, rfl⟩)
      rw [wire_single, Frame.bytes?, encoded]
      exact (List.append_nil _).symm
    | ok bytes =>
      have pushed : (e.written.push bytes).toList = e.written.toList ++ wire [frame] := by
        rw [wire_single, Frame.bytes?, encoded, Array.toList_push]
        rfl
      dsimp only
      cases written : out.write bytes with
      | ok out => exact .takes frame own lanes first without rfl pushed (.inl ⟨rfl, rfl⟩)
      | error cause =>
        have feeds : c.Feeds true (c.teardown cause) := .teardown c cause
        refine .takes frame own (fun lane => (lanes lane).trans ?_) first (feeds.piped without)
          feeds.config pushed (.inr ⟨rfl, ?_, fun works => ?_, fun first ended => ?_⟩)
        · have same : (c.teardown cause).queue.lane lane = rest.lane lane := by
            unfold Connection.teardown
            split
            · rfl
            · cases lane <;> rfl
          exact congrArg _ same.symm
        · change (c.teardown cause).isActive = false
          unfold Connection.teardown Connection.isActive
          split
          next ended => rw [ended]; rfl
          · rfl
        · obtain ⟨next, ok⟩ := works.write bytes
          rw [ok] at written
          contradiction
        · exact (feeds.stays_over without ended).1
  · rw [told]
    have closed := piped.isClosed
    cases live : e.connection.isActive with
    | true =>
      rw [live] at closed
      rw [closed]
      exact .waits empty live rfl
    | false =>
      rw [live] at closed
      rw [closed]
      exact .stops empty live rfl

/-- The queue stays joined to its connection. -/
theorem piped_after (h : e.connection.Piped) (act : Act) : (e.after act).connection.Piped := by
  cases other : act.isWrite with
  | false => exact (e.feeds_after other).connection.piped h
  | true =>
    cases act with
    | write out =>
      cases stepWrite_wrote h out with
      | waits empty live eq => rw [after, eq]; exact h
      | stops empty halted eq => rw [after, eq]; exact h
      | takes frame own lanes first piped config written goes => exact piped
    | _ => contradiction

theorem piped_afterAll (h : e.connection.Piped) (acts : List Act) :
    (e.afterAll acts).connection.Piped := by
  induction acts generalizing e with
  | nil => exact h
  | cons act acts ih => exact ih (piped_after h act)

theorem config_after (h : e.connection.Piped) (act : Act) :
    (e.after act).connection.config = e.connection.config := by
  cases other : act.isWrite with
  | false => exact (e.feeds_after other).connection.config
  | true =>
    cases act with
    | write out =>
      cases stepWrite_wrote h out with
      | waits empty live eq => rw [after, eq]
      | stops empty halted eq => rw [after, eq]
      | takes frame own lanes first piped config written goes => exact config
    | _ => contradiction

/-- The settings of a connection stay as they are. -/
theorem config_afterAll (h : e.connection.Piped) (acts : List Act) :
    (e.afterAll acts).connection.config = e.connection.config := by
  induction acts generalizing e with
  | nil => rfl
  | cons act acts ih => exact (ih (piped_after h act)).trans (config_after h act)

/-- A connection that is over stays over, for the same cause. -/
theorem over_after (h : e.connection.Piped) {cause : Failure}
    (ended : e.connection.terminal = some cause) (act : Act) :
    (e.after act).connection.terminal = some cause := by
  cases other : act.isWrite with
  | false => exact ((e.feeds_after other).connection.stays_over h ended).1
  | true =>
    cases act with
    | write out =>
      cases stepWrite_wrote h out with
      | waits empty live eq => rw [after, eq]; exact ended
      | stops empty halted eq => rw [after, eq]; exact ended
      | takes frame own lanes first piped config written goes =>
        rcases goes with ⟨_, same⟩ | ⟨_, _, _, kept⟩
        · exact same.trans ended
        · exact kept cause ended
    | _ => contradiction

theorem over_afterAll (h : e.connection.Piped) {cause : Failure}
    (ended : e.connection.terminal = some cause) (acts : List Act) :
    (e.afterAll acts).connection.terminal = some cause := by
  induction acts generalizing e with
  | nil => exact ended
  | cons act acts ih => exact ih (piped_after h act) (over_after h ended act)

/-- Other acts only add to a lane. -/
theorem lane_after (other : act.isWrite = false) (lane : Lane) :
    (e.after act).lane lane = e.lane lane ++ e.accepted act lane := by
  obtain ⟨added, grown⟩ := (e.feeds_after other).connection.lane lane
  have grown : (e.after act).lane lane = e.lane lane ++ added := grown
  rw [accepted, if_neg (by simp [other]), grown, List.drop_left]

/-- What is handed over in one act is the bytes of what leaves the lanes. -/
theorem handed_over_after (h : e.connection.Piped) (act : Act) : ∃ handed,
    (e.after act).written.toList = e.written.toList ++ wire handed ∧
    ∀ lane, ∃ taken, taken.Sublist handed ∧
      taken ++ (e.after act).lane lane = e.lane lane ++ e.accepted act lane := by
  cases other : act.isWrite with
  | false =>
    refine ⟨[], by rw [(e.feeds_after other).written, wire_nil, List.append_nil], fun lane => ?_⟩
    exact ⟨[], .refl _, lane_after other lane⟩
  | true =>
    cases act with
    | write out =>
      have nothing (lane : Lane) : e.accepted (.write out) lane = [] := rfl
      cases stepWrite_wrote h out with
      | waits empty live eq =>
        exact ⟨[], by rw [after, eq, wire_nil, List.append_nil], fun lane =>
          ⟨[], .refl _, by rw [after, eq, nothing, List.append_nil, List.nil_append]⟩⟩
      | stops empty halted eq =>
        exact ⟨[], by rw [after, eq, wire_nil, List.append_nil], fun lane =>
          ⟨[], .refl _, by rw [after, eq, nothing, List.append_nil, List.nil_append]; rfl⟩⟩
      | takes frame own lanes first piped config written goes =>
        refine ⟨[frame], written, fun lane => ⟨if own = lane then [frame] else [], ?_, ?_⟩⟩
        · split
          · exact .refl _
          · exact List.nil_sublist _
        · rw [nothing, List.append_nil]
          exact (lanes lane).symm
    | _ => contradiction

/-- Over any number of acts the bytes of what leaves the lanes are handed over, in the order in
which it leaves; what left a lane and what it has is what it had and took in. -/
theorem handed_over (h : e.connection.Piped) (acts : List Act) : ∃ handed,
    (e.afterAll acts).written.toList = e.written.toList ++ wire handed ∧
    ∀ lane, ∃ taken, taken.Sublist handed ∧
      taken ++ (e.afterAll acts).lane lane = e.lane lane ++ e.acceptedAll acts lane := by
  induction acts generalizing e with
  | nil => exact ⟨[], (List.append_nil _).symm, fun lane => ⟨[], .refl _, (List.append_nil _).symm⟩⟩
  | cons act acts ih =>
    obtain ⟨handed, written, lanes⟩ := handed_over_after h act
    obtain ⟨handed', written', lanes'⟩ := ih (piped_after h act)
    refine ⟨handed ++ handed', ?_, fun lane => ?_⟩
    · rw [afterAll_cons, written', written, wire_append, List.append_assoc]
    · obtain ⟨taken, part, balance⟩ := lanes lane
      obtain ⟨taken', part', balance'⟩ := lanes' lane
      refine ⟨taken ++ taken', part.append part', ?_⟩
      calc (taken ++ taken') ++ (e.afterAll (act :: acts)).lane lane
          = taken ++ ((e.after act).lane lane ++ (e.after act).acceptedAll acts lane) := by
            rw [List.append_assoc, ← balance']
            rfl
        _ = e.lane lane ++ e.acceptedAll (act :: acts) lane := by
            rw [← List.append_assoc, balance, List.append_assoc]
            rfl

end Endpoint

/-- The queue of a fresh connection is open, and holds at most the announcement. -/
theorem Connection.piped_new (side : Side) (config : ConnectionConfig) (setup : Option Setup)
    (now : Duration) : (Connection.new side config setup now).Piped := by
  cases setup <;> exact ⟨rfl, rfl, rfl⟩

theorem World.piped_newEndpoint (side : Side) (config : ConnectionConfig) (setup : Option Setup)
    (application : Application) : (newEndpoint side config setup application).connection.Piped :=
  Connection.piped_new side config setup 0

end StreamMux
