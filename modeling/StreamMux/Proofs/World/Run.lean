import StreamMux.Proofs.Endpoint.Calling
import StreamMux.Proofs.Frame.Landing
import StreamMux.World

/-!
# Runs of two endpoints

On a transport with two endpoints anything can come next: a step of any task, a call of either
application, time that passes. A run follows one request of the near end under its name, with what
its consumer has got on the way (`Run`). What an end has sent on a stream is on its way until the
other end reads it, in its queue or on the transport (`flow`).
-/
namespace StreamMux

/-- The items that came back. -/
def Reply.taken : Reply → List Item
  | .items list _ _ => list
  | _ => []

/-- There will be no more items. -/
def Reply.isEnd : Reply → Bool
  | .items _ .ended _ => true
  | _ => false

namespace World

/-- Neither connection is over. -/
def Live (w : World) : Prop :=
  ∀ here, ∃ e, w.endpoint? here = some e ∧ e.connection.isActive = true

/-- One thing that happens, but that the application of the near end comes back to the request with
a name. -/
inductive Step (name : String) (w : World) : World → Prop
  | task (here : End) (task : TaskId) : Step name w (w.stepTask here task).1
  | passes (now : Duration) : Step name w (w.setNow now)
  | calls (here : End) (call : Call) (other : here = .near → call.request? ≠ some name) :
      Step name w (w.act here (·.perform call)).2

/-- The ids that were given out between two states, at either end. -/
def spent (w w' : World) : List UInt32 :=
  [End.near, End.far].flatMap fun here =>
    match w.endpoint? here, w'.endpoint? here with
    | some e, some f => e.connection.spent f.connection
    | _, _ => []

/-- What a run leaves behind: the items that the consumer got, whether they ended, and the ids that
were given out. -/
structure Log where
  got : List Item := []
  ended : Bool := false
  issued : List UInt32 := []

/-- Any number of steps in which no connection ends and no id is given out twice. Once the
application of the near end asks for a stream under the name; it comes back to it for items, and is
not refused. -/
inductive Run (name : String) (payload : Payload) (w₀ : World) : Log → World → Prop
  | start : Run name payload w₀ {} w₀
  | step {log : Log} {w w' : World} (run : Run name payload w₀ log w) (next : Step name w w')
      (live : w'.Live) (fresh : ∀ id ∈ w.spent w', id ∉ log.issued) :
      Run name payload w₀ { log with issued := log.issued ++ w.spent w' } w'
  | asks {log : Log} {w : World} (run : Run name payload w₀ log w)
      (unasked : w.near.request? name = none) (batch : Option UInt32)
      (positive : 0 < w.near.batchSize batch) (bound : w.near.batchSize batch ≤ maxRequestN) :
      Run name payload w₀ log (w.act .near (·.perform (.requestStream name payload batch))).2
  | polls {log : Log} {w w' : World} (run : Run name payload w₀ log w) (limit : Nat)
      {reply : Reply} (answered : w.act .near (·.perform (.poll name limit)) = (some reply, w'))
      (live : w'.Live) (fresh : ∀ id ∈ w.spent w', id ∉ log.issued)
      (granted : w'.near.request? name ≠ some .refused) :
      Run name payload w₀
        { got := log.got ++ reply.taken, ended := log.ended || reply.isEnd
          issued := log.issued ++ w.spent w' } w'

end World

/-- The call that asks for a stream or a channel. -/
def Opening.call (name : String) (batch : Option UInt32) : Opening → Call
  | .stream payload => .requestStream name payload batch
  | .channel source => .requestChannel name source batch

namespace World

/-- Any number of steps like those of a run, in which the application of the near end asks for a
stream or for a channel. -/
inductive Follows (name : String) (opening : Opening) (w₀ : World) : Log → World → Prop
  | start : Follows name opening w₀ {} w₀
  | step {log : Log} {w w' : World} (run : Follows name opening w₀ log w) (next : Step name w w')
      (live : w'.Live) (fresh : ∀ id ∈ w.spent w', id ∉ log.issued) :
      Follows name opening w₀ { log with issued := log.issued ++ w.spent w' } w'
  | asks {log : Log} {w : World} (run : Follows name opening w₀ log w)
      (unasked : w.near.request? name = none) (batch : Option UInt32)
      (positive : 0 < w.near.batchSize batch) (bound : w.near.batchSize batch ≤ maxRequestN) :
      Follows name opening w₀ log (w.act .near (·.perform (opening.call name batch))).2
  | polls {log : Log} {w w' : World} (run : Follows name opening w₀ log w) (limit : Nat)
      {reply : Reply} (answered : w.act .near (·.perform (.poll name limit)) = (some reply, w'))
      (live : w'.Live) (fresh : ∀ id ∈ w.spent w', id ∉ log.issued)
      (granted : w'.near.request? name ≠ some .refused) :
      Follows name opening w₀
        { got := log.got ++ reply.taken, ended := log.ended || reply.isEnd
          issued := log.issued ++ w.spent w' } w'

theorem Run.follows {name : String} {payload : Payload} {w₀ w : World} {log : Log}
    (run : Run name payload w₀ log w) : Follows name (.stream payload) w₀ log w := by
  induction run with
  | start => exact .start
  | step run next live fresh ih => exact .step ih next live fresh
  | asks run unasked batch positive bound ih => exact .asks ih unasked batch positive bound
  | polls run limit answered live fresh granted ih =>
    exact .polls ih limit answered live fresh granted

theorem endpoint?_near (w : World) : w.endpoint? .near = some w.near := rfl

theorem mem_spent {w w' : World} {here : End} {e f : Endpoint} {id : UInt32}
    (found : w.endpoint? here = some e) (found' : w'.endpoint? here = some f)
    (given : id ∈ e.connection.spent f.connection) : id ∈ w.spent w' := by
  refine List.mem_flatMap.mpr ⟨here, by cases here <;> simp, ?_⟩
  rw [found, found']
  exact given

/-! ### Ends -/

/-- The end across. -/
def across : End → End
  | .near => .far
  | .far => .near

theorem reads_eq (w : World) (here : End) : w.reads here = w.writes (across here) := by
  cases here <;> rfl

theorem setReads_eq (w : World) (here : End) (p : Pipe) :
    w.setReads here p = w.setWrites (across here) p := by
  cases here <;> rfl

@[simp] theorem endpoint?_setEndpoint (w : World) (here there : End) (e : Endpoint) :
    (w.setEndpoint here e).endpoint? there =
      if there = here then some e else w.endpoint? there := by
  cases here <;> cases there <;> rfl

@[simp] theorem writes_setEndpoint (w : World) (here there : End) (e : Endpoint) :
    (w.setEndpoint here e).writes there = w.writes there := by
  cases here <;> cases there <;> rfl

@[simp] theorem endpoint?_setWrites (w : World) (here there : End) (p : Pipe) :
    (w.setWrites here p).endpoint? there = w.endpoint? there := by
  cases here <;> cases there <;> rfl

@[simp] theorem writes_setWrites (w : World) (here there : End) (p : Pipe) :
    (w.setWrites here p).writes there = if there = here then p else w.writes there := by
  cases here <;> cases there <;> rfl

@[simp] theorem endpoint?_setClock (w : World) (clock : Clock) (there : End) :
    ({ w with clock } : World).endpoint? there = w.endpoint? there := by
  cases there <;> rfl

@[simp] theorem writes_setClock (w : World) (clock : Clock) (there : End) :
    ({ w with clock } : World).writes there = w.writes there := by
  cases there <;> rfl

/-! ### Frames on their way -/

/-- The frames with an id that are on a transport, or wait at the end that writes to it, as they
will be read. -/
def onTheWay (id : UInt32) (pipe : Pipe) (c : Connection) : List Frame :=
  (pipe.frames.toList.filterMap Frame.read? ++ c.waiting.filterMap Frame.landed).filter
    (·.id = id)

/-- What an end has sent with an id and the other has not read. -/
def flow (w : World) (here : End) (id : UInt32) : List Frame :=
  match w.endpoint? here with
  | some e => onTheWay id (w.writes here) e.connection
  | none => []

theorem flow_eq {w : World} {here : End} {e : Endpoint} (found : w.endpoint? here = some e)
    (id : UInt32) : w.flow here id = onTheWay id (w.writes here) e.connection := by
  rw [flow, found]

variable {id : UInt32} {pipe : Pipe} {c d : Connection}

/-- Frames that are enqueued come last. -/
theorem onTheWay_append {frames : List Frame} (added : d.waiting = c.waiting ++ frames) :
    onTheWay id pipe d =
      onTheWay id pipe c ++ (frames.filterMap Frame.landed).filter (·.id = id) := by
  simp only [onTheWay, added, List.filterMap_append, List.filter_append, List.append_assoc]

/-- Frames of other streams make no difference. -/
theorem landed_others {frames : List Frame} (others : ∀ f ∈ frames, low31 f.id ≠ id) :
    (frames.filterMap Frame.landed).filter (·.id = id) = [] := by
  rw [List.filter_eq_nil_iff]
  intro g hg same
  obtain ⟨f, hf, landed⟩ := List.mem_filterMap.mp hg
  exact others f hf ((id_landed landed).symm.trans (of_decide_eq_true same))

/-- Only the frames with the id count. -/
theorem onTheWay_pipe {pipe' : Pipe}
    (same : (pipe'.frames.toList.filterMap Frame.read?).filter (·.id = id) =
      (pipe.frames.toList.filterMap Frame.read?).filter (·.id = id)) :
    onTheWay id pipe' c = onTheWay id pipe c := by
  rw [onTheWay, List.filter_append, same, ← List.filter_append, onTheWay]

theorem onTheWay_apart (apart : c.Apart id d) : onTheWay id pipe d = onTheWay id pipe c := by
  obtain ⟨added, eq, others⟩ := apart.waiting
  rw [onTheWay_append eq, landed_others others, List.append_nil]

end World
end StreamMux
