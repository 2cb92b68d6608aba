import StreamMux.Proofs.Endpoint.Advancing
import StreamMux.Proofs.World.Run

/-!
# Rest

Everything has come to rest when nothing is queued or on its way and every task is blocked
(`World.Quiet`). A task that sends items runs on from one to the next, and then it asks for the next
one though nothing has woken it; where this matters, no task is in the middle of that
(`World.Settled`). At rest a task waits for an item only if there is none, and with an item only if
there is no credit.
-/
namespace StreamMux

/-- The task asks its producer for an item. -/
inductive Task.Fetches (i : Nat) (p : Producer) : Task → Prop
  | opening (batch : UInt32) : Fetches i p (.openChannel i batch p)
  | sending : Fetches i p (.send i p none)

namespace Endpoint

/-- The task waits for credit, and nothing has woken it. -/
def sleeps (e : Endpoint) : TaskId → Bool
  | .work k =>
    match e.tasks[k]?.join with
    | some (.send stream _ (some _)) => (e.connection.stream stream).limiter.parked
    | _ => false
  | _ => false

variable {e : Endpoint} {i k : Nat} {p : Producer} {task : Task} {left : List Payload}
  {failure : Option Failure}

theorem mem_zipIdx (there : e.tasks[k]? = some (some task)) :
    (some task, k) ∈ e.tasks.toList.zipIdx := by
  rw [List.mk_mem_zipIdx_iff_getElem?, Array.getElem?_toList]
  exact there

theorem mem_readyTasks (there : e.tasks[k]? = some (some task)) (ready : e.taskIsReady task = true)
    (inp : Pipe) : .work k ∈ e.readyTasks inp := by
  unfold readyTasks
  dsimp only
  refine List.mem_map.mpr ⟨(.work k, true), List.mem_filter.mpr ⟨?_, rfl⟩, rfl⟩
  refine List.mem_append_right _ (List.mem_map.mpr ⟨_, mem_zipIdx there, ?_⟩)
  rw [Option.map_some, ready]
  rfl

theorem mem_alarms {alarm : Alarm} (there : e.tasks[k]? = some (some task))
    (fetches : task.Fetches i p) (set : p.tail.alarm = some alarm) :
    (alarm, .work k) ∈ e.alarms := by
  unfold alarms
  dsimp only
  refine List.mem_append_right _ (List.mem_filterMap.mpr ⟨_, mem_zipIdx there, ?_⟩)
  rw [Option.bind_some]
  cases fetches with
  | opening batch =>
    dsimp only
    rw [set]
    rfl
  | sending =>
    dsimp only
    rw [set]
    rfl

theorem sleeps_of_fetches (there : e.tasks[k]? = some (some task)) (fetches : task.Fetches i p) :
    e.sleeps (.work k) = false := by
  unfold sleeps
  dsimp only
  rw [there, Option.join_some]
  cases fetches with
  | opening batch => rfl
  | sending => rfl

theorem taskIsReady_of_fetches (fetches : task.Fetches i p)
    (ready : e.producerIsReady i p = true) : e.taskIsReady task = true := by
  cases fetches with
  | opening batch => rw [taskIsReady, ready, Bool.or_true]
  | sending => rw [taskIsReady, ready, Bool.or_true]

/-- A producer that yields payloads is ready to be asked, unless it waits for time to pass. -/
theorem producerIsReady_of_yields (yields : p.Yields left failure)
    (unread : p.intake = .none ∨ (e.connection.stream i).consumer = none)
    (awake : p.tail.alarm = none) : e.producerIsReady i p = true := by
  unfold producerIsReady
  cases first : p.first with
  | some payload => rfl
  | none =>
    have source : e.sourceIsReady p.tail = true := by
      have own := yields.own
      unfold sourceIsReady
      rw [awake]
      dsimp only
      split
      next place fed =>
        rw [fed] at own
        contradiction
      next plain =>
        cases next : p.tail.supply.next? with
        | some taken => rfl
        | none =>
          have empty : p.items = [] := by
            rw [Producer.items, first, Supply.next?_none next]
            rfl
          rw [(yields.finished empty).2.2]
          rfl
    rw [Option.isSome_none, Bool.false_or]
    rcases unread with refuses | unread
    · rw [refuses]
      exact source
    · have inbound : e.inboundIsReady i = true := by
        rw [inboundIsReady, unread]
      split
      · exact source
      · exact source
      · exact source
      · rfl
      · exact inbound
      · exact inbound

end Endpoint

namespace World

/-- Everything has come to rest: nothing is queued or on its way, every task is blocked, none of
them because time has to pass, and the consumer asks in vain. Its call comes back: where every id
is taken, the search for a free one goes on, which is no rest. -/
structure Quiet (name : String) (w : World) : Prop where
  queues : ∀ {here e}, w.endpoint? here = some e → e.connection.queue.isEmpty = true
  pipes : ∀ here, (w.writes here).frames.isEmpty = true
  blocked : ∀ {here e}, w.endpoint? here = some e →
    ∀ task ∈ e.readyTasks (w.reads here), e.sleeps task = true
  timeless : ∀ {here e}, w.endpoint? here = some e → ∀ alarm k, (alarm, .work k) ∉ e.alarms
  consumer : (w.near.pollItem name).2 = w.near
  found : ¬ w.near.Searches name

/-- Everything has come to rest, and no task is in the middle of its work: unless it waits for
credit, to run it once more does nothing to the streams. -/
structure Settled (name : String) (w : World) : Prop extends Quiet name w where
  idle : ∀ {here e}, w.endpoint? here = some e → ∀ k, e.sleeps (.work k) = true ∨
    (({ e with clock := w.clock } : Endpoint).stepWork k).1.connection = e.connection

variable {name : String} {w : World} {id : UInt32} {here : End} {e : Endpoint} {i k : Nat}
  {p : Producer} {task : Task}

/-- Nothing is on the way. -/
theorem Quiet.flow (quiet : w.Quiet name) (here : End) : w.flow here id = [] := by
  unfold World.flow
  split
  next e found =>
    have empty := quiet.queues found
    have pipe := quiet.pipes here
    rw [FrameQueue.isEmpty, Bool.and_eq_true, Fifo.isEmpty_iff, Fifo.isEmpty_iff] at empty
    rw [Fifo.isEmpty_iff] at pipe
    rw [onTheWay, pipe, Connection.waiting, empty.2]
    rfl
  · rfl

/-- Asking in vain changes nothing at the stream. -/
theorem Quiet.still {i : Nat} {s : Exchange} (quiet : w.Quiet name)
    (opened : w.near.request? name = some (.opened i)) (holds : w.near.connection.Holds id i s)
    (accepts : w.near.connection.queue.accepts = true) : s.poll.2 = (s, []) := by
  have same := quiet.consumer
  rw [Endpoint.pollItem_opened opened, Endpoint.pullInbound_holds holds] at same
  obtain ⟨stream, frames⟩ := holds.of_commit_same accepts (congrArg Endpoint.connection same)
  exact Prod.ext stream frames

/-- A task that asks for an item has no reason to. -/
theorem Quiet.fetching (quiet : w.Quiet name) (found : w.endpoint? here = some e)
    (there : e.tasks[k]? = some (some task)) (fetches : task.Fetches i p) :
    e.producerIsReady i p = false ∧ p.tail.alarm = none := by
  constructor
  · refine Bool.eq_false_iff.mpr fun ready => ?_
    have waits := quiet.blocked found _ (Endpoint.mem_readyTasks there
      (Endpoint.taskIsReady_of_fetches fetches ready) (w.reads here))
    rw [Endpoint.sleeps_of_fetches there fetches] at waits
    contradiction
  · exact Option.eq_none_iff_forall_ne_some.mpr fun alarm set =>
      quiet.timeless found alarm k (Endpoint.mem_alarms there fetches set)

/-- No task asks for an item of a producer that yields some, or its end. -/
theorem Quiet.yielded (quiet : w.Quiet name) (found : w.endpoint? here = some e)
    (there : e.tasks[k]? = some (some task)) (fetches : task.Fetches i p)
    {left : List Payload} {failure : Option Failure} (yields : p.Yields left failure)
    (unread : p.intake = .none ∨ (e.connection.stream i).consumer = none) : False := by
  obtain ⟨blocked, awake⟩ := quiet.fetching found there fetches
  rw [Endpoint.producerIsReady_of_yields yields unread awake] at blocked
  contradiction

/-- No task holds an item for which there is credit. -/
theorem Quiet.granted (quiet : w.Quiet name) (found : w.endpoint? here = some e)
    {payload : Payload} (there : e.tasks[k]? = some (some (.send i p (some payload))))
    (credit : (e.connection.stream i).limiter.isDecided = true ∧
      (e.connection.stream i).limiter.parked = false) : False := by
  have ready : e.taskIsReady (.send i p (some payload)) = true := by
    rw [Endpoint.taskIsReady, credit.1, Bool.or_true]
  have parked := quiet.blocked found _ (Endpoint.mem_readyTasks there ready (w.reads here))
  unfold Endpoint.sleeps at parked
  dsimp only at parked
  rw [there, Option.join_some] at parked
  exact Bool.false_ne_true (credit.2.symm.trans parked)

/-- At rest no stream that was asked for is still to be opened. -/
theorem Quiet.opened (quiet : w.Quiet name) {opening : Opening} {batch : UInt32} :
    w.near.request? name ≠ some (.unopened opening batch) := by
  have after := Endpoint.asked_pollItem quiet.found
  rw [quiet.consumer] at after
  exact after _ _

/-- A stream is gone where it is over at one end and the other does not have it. -/
theorem gone_of_over {s : Exchange} {f : Endpoint} (holds : w.near.connection.Holds id i s)
    (closed : s.isOver = true) (across : w.endpoint? .far = some f)
    (gone : f.connection.registry.get? id = none) (found : w.endpoint? here = some e) :
    e.connection.registry.get? (w.near.connection.stream i).id = none := by
  rw [holds.stream, holds.named]
  cases here with
  | near =>
    cases found
    rw [holds.registered, closed, if_pos rfl]
  | far =>
    rw [across, Option.some.injEq] at found
    exact found ▸ gone

/-! ### To find everything at rest -/

instance (w : World) : Decidable w.Live :=
  decidable_of_iff
    (w.near.connection.isActive = true ∧ w.far.any (·.connection.isActive) = true) <| by
    rw [Option.any_eq_true]
    constructor
    · rintro ⟨near, f, there, far⟩ here
      cases here with
      | near => exact ⟨_, rfl, near⟩
      | far => exact ⟨f, there, far⟩
    · intro live
      obtain ⟨e, same, near⟩ := live .near
      cases same
      exact ⟨near, live .far⟩

-- Chosen before an instance that goes through all ids there are.
instance (issued given : List UInt32) : Decidable (∀ id ∈ given, id ∉ issued) :=
  List.decidableBAll _ _

instance (request : Option Request) : Decidable (request = some .refused) :=
  match request with
  | some .refused => isTrue rfl
  | none => isFalse (by simp)
  | some (.response _) => isFalse (by simp)
  | some (.unopened _ _) => isFalse (by simp)
  | some (.opened _) => isFalse (by simp)

instance (request : Option Request) (i : Nat) : Decidable (request = some (.opened i)) :=
  match request with
  | some (.opened j) => decidable_of_iff (j = i) (by simp)
  | none => isFalse (by simp)
  | some (.response _) => isFalse (by simp)
  | some (.unopened _ _) => isFalse (by simp)
  | some .refused => isFalse (by simp)

/-- A consumer that has come to the end asks in vain. -/
theorem pollItem_finished {e : Endpoint} {i : Nat} (opened : e.request? name = some (.opened i))
    (done : (e.connection.stream i).consumer.any (·.finished) = true) :
    (e.pollItem name).2 = e := by
  obtain ⟨consumer, attached, finished⟩ := (Option.any_eq_true _ _).mp done
  have polled : (e.connection.stream i).poll = (.ready none, e.connection.stream i, []) := by
    unfold Exchange.poll
    rw [attached]
    dsimp only
    rw [finished, if_pos rfl]
  rw [Endpoint.pollItem_opened opened, Endpoint.pullInbound_eq, polled, Connection.commit_same]

/-- An end at which nothing will happen by itself. -/
def isIdle (inp : Pipe) (e : Endpoint) : Bool :=
  e.connection.queue.isEmpty && (e.readyTasks inp).isEmpty && e.alarms.all (·.2 = .watch)

theorem quiet_of_idle {i : Nat} (outgoing : w.outgoing.frames.isEmpty = true)
    (incoming : w.incoming.frames.isEmpty = true) (near : isIdle w.incoming w.near = true)
    (far : w.far.all (isIdle w.outgoing) = true)
    (opened : w.near.request? name = some (.opened i))
    (done : (w.near.connection.stream i).consumer.any (·.finished) = true) : w.Quiet name := by
  have idle {here : End} {e : Endpoint} (found : w.endpoint? here = some e) :
      (e.connection.queue.isEmpty = true ∧ (e.readyTasks (w.reads here)).isEmpty = true) ∧
        e.alarms.all (·.2 = .watch) = true := by
    rw [← Bool.and_eq_true, ← Bool.and_eq_true]
    cases here with
    | near =>
      cases found
      exact near
    | far => exact (Option.all_eq_true _ _).mp far e found
  refine ⟨fun found => (idle found).1.1, fun here => ?_, fun found task ready => ?_,
    fun found alarm k set => ?_, pollItem_finished opened done,
    fun searches => ?_⟩
  · cases here with
    | near => exact outgoing
    | far => exact incoming
  · rw [List.isEmpty_iff.mp (idle found).1.2] at ready
    contradiction
  · have watch := List.all_eq_true.mp (idle found).2 _ set
    exact absurd (of_decide_eq_true watch) (by simp)
  · obtain ⟨opening, batch, waiting, _⟩ := searches
    rw [opened] at waiting
    cases waiting

/-- Where all work is done no task is in the middle of it. -/
theorem Quiet.settled (quiet : w.Quiet name) (near : w.near.tasks.all (·.isNone) = true)
    (far : w.far.all (·.tasks.all (·.isNone)) = true) : w.Settled name where
  toQuiet := quiet
  idle {here e} found k := by
    have done : e.tasks.all (·.isNone) = true := by
      cases here with
      | near =>
        cases found
        exact near
      | far => exact (Option.all_eq_true _ _).mp far e found
    have idle : e.tasks[k]?.join = none := by
      cases there : e.tasks[k]? with
      | none => rfl
      | some task =>
        have member := Array.mem_of_getElem? there
        have none := (Array.all_eq_true'.mp done) task member
        rw [Option.isNone_iff_eq_none.mp none, Option.join_some]
    refine .inr ?_
    unfold Endpoint.stepWork
    dsimp only
    rw [idle]

end World
end StreamMux
