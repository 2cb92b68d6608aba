import StreamMux.Proofs.Endpoint.Calling
import StreamMux.Proofs.Endpoint.Yielding

/-!
# An end brings a stream on

What an end does for a stream of its own comes down to a step of the stream and the frames that go
with it (`Leads`). After it a task goes on with the stream, or none (`Advances`). The stream begins
when a request of the peer comes, or one of the application.
-/
namespace StreamMux

/-- Asking for an item closes nothing. -/
theorem Exchange.isOver_poll (s : Exchange) : s.poll.2.1.isOver = s.isOver := by
  unfold poll isOver
  repeat' split
  all_goals rfl

/-- The item that was handed out, if one was. -/
def Poll.taken : Poll (Option Item) → List Item
  | .ready (some item) => [item]
  | _ => []

/-- There will be no more items. -/
def Poll.isEnd : Poll (Option Item) → Bool
  | .ready none => true
  | _ => false

namespace Endpoint

/-- The stream of an id goes on: frames of it are enqueued, and the requests of the application
and the items that it keeps stay. -/
structure Sends (id : UInt32) (frames : List Frame) (e f : Endpoint) : Prop where
  grows : e.connection.Grows f.connection
  waiting : f.connection.waiting = e.connection.waiting ++ frames
  own : ∀ g ∈ frames, g.id = id
  application : f.application = e.application
  requests : f.requests = e.requests
  kept : f.kept = e.kept

/-- The stream at a place becomes another, and frames of it are enqueued. The tasks stay. -/
structure Leads (id : UInt32) (i : Nat) (t : Exchange) (frames : List Frame) (e f : Endpoint) :
    Prop extends Sends id frames e f where
  holds : f.connection.Holds id i t
  tasks : f.tasks = e.tasks

/-- The task that works for a stream, in its slot. -/
inductive Runs (e : Endpoint) : Option Task → Option Nat → Prop
  | idle : Runs e none none
  | busy {task : Task} {k : Nat} (there : e.tasks[k]? = some (some task)) :
      Runs e (some task) (some k)

/-- The stream at a place becomes another, frames of it are enqueued, and this task goes on with
it. Nobody else works for it if nobody else did. -/
structure Advances (id : UInt32) (slot : Option Nat) (i : Nat) (t : Exchange)
    (task : Option Task) (frames : List Frame) (e f : Endpoint) : Prop
    extends Sends id frames e f where
  holds : f.connection.Holds id i t
  later : ∃ slot', f.Runs task slot' ∧
    ∀ names, e.Avoids id names slot → f.Avoids id names slot'

variable {id : UInt32} {frames more : List Frame} {names : Option String} {name : String}
  {slot slot' : Option Nat} {task : Option Task} {e f g : Endpoint} {i k : Nat} {s t u : Exchange}

theorem Runs.bound (h : e.Runs task slot) (k : Nat) (mine : slot = some k) : k < e.tasks.size := by
  cases h with
  | idle => contradiction
  | busy there =>
    cases mine
    exact (Array.getElem?_eq_some_iff.mp there).1

theorem Runs.of_tasks (h : e.Runs task slot) (tasks : f.tasks = e.tasks) : f.Runs task slot := by
  cases h with
  | idle => exact .idle
  | busy there => exact .busy (tasks ▸ there)

/-! ### Steps of the stream -/

theorem Sends.of_still (h : e.Still f) : Sends id [] e f where
  grows := by
    rw [h.connection]
    exact .refl _
  waiting := by rw [h.connection, List.append_nil]
  own := by simp
  application := h.application
  requests := h.requests
  kept := h.kept

theorem Sends.trans (h : Sends id frames e f) (h' : Sends id more f g) :
    Sends id (frames ++ more) e g where
  grows := h.grows.trans h'.grows
  waiting := by rw [h'.waiting, h.waiting, List.append_assoc]
  own x hx := (List.mem_append.mp hx).elim (h.own x) (h'.own x)
  application := h'.application.trans h.application
  requests := h'.requests.trans h.requests
  kept := h'.kept.trans h.kept

/-- Nobody else works on the stream as long as the other tasks stay. -/
theorem Sends.avoids (h : Sends id frames e f) (avoids : e.Avoids id names slot)
    (tasks : ∀ k task, slot' ≠ some k → f.tasks[k]?.join = some task →
      slot ≠ some k ∧ e.tasks[k]?.join = some task) : f.Avoids id names slot' :=
  avoids.grows h.grows (fun n _ => by rw [request?, request?, h.requests]) h.kept tasks

/-- The stream made a step. -/
theorem Leads.of_commit (holds : e.connection.Holds id i s) (named : t.id = id)
    (mono : s.isOver = true → t.isOver = true) (accepts : e.connection.queue.accepts = true)
    (own : ∀ g ∈ frames, g.id = id) (connection : f.connection = e.connection.commit i t frames)
    (application : f.application = e.application) (requests : f.requests = e.requests)
    (kept : f.kept = e.kept) (tasks : f.tasks = e.tasks) : Leads id i t frames e f where
  grows := by
    rw [connection]
    exact Connection.grows_commit _ i frames (by rw [holds.stream, named, holds.named])
  waiting := by rw [connection, Connection.waiting_commit, accepts, if_pos rfl]
  own := own
  application := application
  requests := requests
  kept := kept
  holds := by
    rw [connection]
    exact holds.commit (named.trans holds.named.symm) mono
  tasks := tasks

theorem Leads.of_still (holds : e.connection.Holds id i s) (h : e.Still f) :
    Leads id i s [] e f where
  toSends := .of_still h
  holds := by
    rw [h.connection]
    exact holds
  tasks := h.tasks

theorem Leads.trans (h : Leads id i t frames e f) (h' : Leads id i u more f g) :
    Leads id i u (frames ++ more) e g where
  toSends := h.toSends.trans h'.toSends
  holds := h'.holds
  tasks := h'.tasks.trans h.tasks

/-! ### What becomes of the task -/

theorem Advances.of_still (h : e.Still f) (advances : Advances id slot i t task frames f g) :
    Advances id slot i t task frames e g where
  toSends := by
    have still : Sends id [] e f := .of_still h
    have sends := still.trans advances.toSends
    rwa [List.nil_append] at sends
  holds := advances.holds
  later := by
    obtain ⟨slot', runs, avoids⟩ := advances.later
    refine ⟨slot', runs, fun names before => avoids names ?_⟩
    exact (Sends.of_still h).avoids before fun k task other found => ⟨other, h.tasks ▸ found⟩

/-- The task stays as it is. -/
theorem Leads.stays (h : Leads id i t frames e f) (runs : e.Runs task slot) :
    Advances id slot i t task frames e f where
  toSends := h.toSends
  holds := h.holds
  later := by
    exact ⟨slot, runs.of_tasks h.tasks, fun names avoids =>
      h.avoids avoids fun k task other found => ⟨other, h.tasks ▸ found⟩⟩

/-- The task goes on. -/
theorem Leads.keeps {before : Task} (h : Leads id i t frames e f)
    (there : e.tasks[k]? = some (some before)) (after : Task) :
    Advances id (some k) i t (some after) frames e (f.setTask k (some after)) := by
  have bound : k < f.tasks.size := by
    rw [h.tasks]
    exact (Array.getElem?_eq_some_iff.mp there).1
  have sends : Sends id frames e (f.setTask k (some after)) := { h.toSends with }
  refine { sends with holds := h.holds, later := ⟨some k, .busy ?_, fun names avoids => ?_⟩ }
  · rw [task_setTask, if_pos ⟨rfl, bound⟩]
  · refine sends.avoids avoids fun l x other found => ?_
    rw [task_setTask, h.tasks, if_neg fun here => other (by rw [here.1])] at found
    exact ⟨other, found⟩

/-- A producer goes away that wants nothing of the peer. -/
theorem dropProducer_still {p : Producer}
    (unread : p.intake = .none ∨ (e.connection.stream i).consumer = none) :
    e.Still (e.dropProducer i p) := by
  have still := (e.dropSource_rests p.tail).toStill
  unfold dropProducer
  dsimp only
  split
  · exact still
  · exact still
  next wanted _ =>
    have none := unread.resolve_left wanted
    rw [dropInbound_none (by rw [still.connection]; exact none)]
    exact still

/-- The task is over. -/
theorem Leads.leaves {before : Task} (h : Leads id i t frames e f)
    (there : e.tasks[k]? = some (some before)) {p : Producer}
    (unread : p.intake = .none ∨ t.consumer = none) :
    Advances id (some k) i t none frames e (f.finishProducing k i p).1 := by
  have bound : k < f.tasks.size := by
    rw [h.tasks]
    exact (Array.getElem?_eq_some_iff.mp there).1
  have still : (f.setTask k none).Still (f.finishProducing k i p).1 :=
    dropProducer_still (by rw [setTask, h.holds.stream]; exact unread)
  have gone : Sends id frames e (f.setTask k none) := { h.toSends with }
  have sends := gone.trans (.of_still still)
  rw [List.append_nil] at sends
  refine { sends with holds := ?_, later := ⟨none, .idle, fun names avoids => ?_⟩ }
  · rw [still.connection]
    exact h.holds
  · refine sends.avoids avoids fun l x _ found => ?_
    rw [still.tasks, task_setTask] at found
    split at found
    · contradiction
    next other =>
      rw [h.tasks] at found
      exact ⟨fun same => other ⟨(Option.some.inj same).symm, bound⟩, found⟩

/-! ### Frames of the peer -/

/-- A stream that goes on takes a frame of its peer. -/
theorem handle_takes (holds : e.connection.Holds id i s) (nonzero : id ≠ 0)
    (goes : s.isOver = false) {frame : Frame} (takes : Connection.Takes s t frame) :
    e.handle frame = { e with connection := e.connection.commit i t [] } := by
  unfold handle
  rw [Connection.dispatch_takes e.application.keepsItems e.clock.now holds nonzero goes takes]

theorem handle_leads (holds : e.connection.Holds id i s) (nonzero : id ≠ 0)
    (goes : s.isOver = false) (accepts : e.connection.queue.accepts = true) (named : t.id = id)
    {frame : Frame} (takes : Connection.Takes s t frame) :
    Leads id i t [] e (e.handle frame) := by
  rw [handle_takes holds nonzero goes takes]
  exact .of_commit holds named (by simp [goes]) accepts (by simp) rfl rfl rfl rfl rfl

/-- A request for more that comes too late changes nothing. -/
theorem handle_late (gone : e.connection.registry.get? id = none) (n : UInt32) :
    e.handle (.requestN id n) = e := by
  unfold handle
  rw [Connection.dispatch_requestN_late e.application.keepsItems e.clock.now gone]

theorem start_items (e : Endpoint) (i : Nat) (payload : Payload) : ∃ f, e.Still f ∧
    e.start (.items i payload) = f.spawn (.send i (e.application.onStream payload) none) :=
  ⟨_, (reportCall_rests e _ _).toStill, rfl⟩

/-- The items of a channel go with what answers it, unless they are kept apart. -/
theorem start_channel (e : Endpoint) (i : Nat) {payload : Payload}
    (together : (e.application.onChannel payload).intake ≠ .keep) : ∃ f, e.Still f ∧
      e.start (.channel i payload) = f.spawn (.send i (e.application.onChannel payload) none) := by
  refine ⟨_, (reportCall_rests e e.application.requestChannel.isSome
    (.requestChannel payload)).toStill, ?_⟩
  unfold start
  dsimp only
  rw [keepChannel_eq_self together]

/-- A request of the peer opens a stream, and a task starts to work for it. -/
theorem handle_opens (lacks : e.connection.Lacks id) (server : e.connection.side = .server)
    (odd : id.toNat % 2 = 1) {f : PayloadFrame} {kind : StreamKind} {payload : Payload}
    (asks : f.id = id) (opens : StreamKind.ofRequest? f.type = some kind)
    (received : (Exchange.responder id kind f.initial).receive
      { batch := e.connection.config.prefetch, keepsItems := e.application.keepsItems } f =
        { stream := t, started := some payload })
    (named : t.id = id) {work : Connection.Work} {task : Task}
    (calls : Connection.Work.ofRequest? kind e.connection.streams.size payload = some work)
    (starts : ∀ g : Endpoint, g.application = e.application →
      ∃ called, g.Still called ∧ g.start work = called.spawn task) :
    Advances id none e.connection.streams.size t (some task) [] e (e.handle (.payload f)) := by
  obtain ⟨d, dispatched, grows, holds, waiting⟩ := Connection.dispatch_request
    e.application.keepsItems e.clock.now lacks server odd asks opens received named
  obtain ⟨called, still, started⟩ := starts { e with connection := d } rfl
  have handled : e.handle (.payload f) = called.spawn task := by
    unfold handle
    rw [dispatched, calls]
    exact started
  have same : called.connection = d := still.connection
  have tasks : called.tasks = e.tasks := still.tasks
  have sends : Sends id [] e (called.spawn task) :=
    { grows := by rw [spawn, same]; exact grows
      waiting := by rw [spawn, same, List.append_nil]; exact waiting
      own := by simp
      application := still.application
      requests := still.requests
      kept := still.kept }
  rw [handled]
  refine { sends with
    holds := ?_, later := ⟨some e.tasks.size, .busy ?_, fun names avoids => ?_⟩ }
  · rw [spawn, same]
    exact holds
  · rw [task_spawn, tasks, if_pos rfl]
  · refine sends.avoids avoids fun k task other found => ?_
    rw [task_spawn, tasks, if_neg fun same => other (by rw [same])] at found
    exact ⟨by simp, found⟩

/-! ### Items for the application -/

theorem goes_of_running (active : e.connection.isActive = true)
    (holds : e.connection.Holds id i s) (running : s.stopped = false) :
    e.connection.isStopped i = false := by
  rw [Connection.isStopped, active, holds.stream, running]
  rfl

theorem pullInbound_holds (holds : e.connection.Holds id i s) : e.pullInbound i false =
    (s.poll.1, { e with connection := e.connection.commit i s.poll.2.1 s.poll.2.2 }) := by
  rw [pullInbound_eq, holds.stream]

theorem pullInbound_leads (holds : e.connection.Holds id i s)
    (accepts : e.connection.queue.accepts = true) :
    (e.pullInbound i false).1 = s.poll.1 ∧
      Leads id i s.poll.2.1 s.poll.2.2 e (e.pullInbound i false).2 := by
  have own := s.poll_own
  have named : s.poll.2.1.id = id := own.1.trans holds.named
  rw [pullInbound_holds holds]
  refine ⟨rfl, .of_commit holds named (fun before => ?_) accepts (fun g hg => ?_) rfl rfl rfl
    rfl rfl⟩
  · rw [s.isOver_poll]
    exact before
  · exact (own.2 g hg).trans holds.named

/-- The application takes so many items, as long as there are some. What holds on when it asks for
one holds on. -/
theorem takeItems_leads {P : Exchange → List Frame → List Item → Bool → Prop} (limit : Nat)
    {e : Endpoint} {s : Exchange} {sent : List Frame} {got : List Item} {ended : Bool}
    (opened : e.request? name = some (.opened i)) (holds : e.connection.Holds id i s)
    (accepts : e.connection.queue.accepts = true) (start : P s sent got ended)
    (step : ∀ s sent got ended, P s sent got ended →
      P s.poll.2.1 (sent ++ s.poll.2.2) (got ++ s.poll.1.taken) (ended || s.poll.1.isEnd)) :
    ∃ t frames, Leads id i t frames e (e.takeItems name limit).2.2 ∧
      P t (sent ++ frames) (got ++ (e.takeItems name limit).1)
        (ended || (e.takeItems name limit).2.1 = .ended) := by
  induction limit generalizing e s sent got ended with
  | zero =>
    refine ⟨s, [], .of_still holds (.refl e), ?_⟩
    simpa [takeItems] using start
  | succ limit ih =>
    have next := step _ _ _ _ start
    obtain ⟨answer, leads⟩ := pullInbound_leads holds accepts
    rw [← pollItem_opened opened] at answer leads
    rw [← answer] at next
    unfold takeItems
    generalize e.pollItem name = result at next leads
    obtain ⟨_ | _ | item, f⟩ := result
    · exact ⟨_, _, leads, by simpa [Poll.taken, Poll.isEnd] using next⟩
    · exact ⟨_, _, leads, by simpa [Poll.taken, Poll.isEnd] using next⟩
    · have still : f.request? name = some (.opened i) := by
        rw [request?, leads.requests]
        exact opened
      obtain ⟨t, more, later, last⟩ :=
        ih still leads.holds (leads.grows.accepts.trans accepts) next
      refine ⟨t, _, leads.trans later, ?_⟩
      simpa [Poll.taken, Poll.isEnd] using last

end Endpoint
end StreamMux
