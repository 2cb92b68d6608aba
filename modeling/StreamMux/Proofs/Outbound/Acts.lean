import StreamMux.Proofs.Agreement.Traffic
import StreamMux.Proofs.Endpoint.Leaving

/-!
# What an endpoint does

An endpoint does one thing after the other: its three loops and its tasks take a step, the
application calls for something or changes its mind, time passes (`Endpoint.Act`). The transport may
be in any state at each of them, so that nothing is assumed of the peer. An act leaves alone what is
not its own (`Endpoint.leaves_after`): only the loop that writes takes frames out of the queue and
hands bytes to the transport, and whatever else is done puts frames into the queue or closes it
(`Endpoint.Feeds`).
-/
namespace StreamMux

namespace Endpoint

/-- Something that an endpoint does, with the part of the transport that it finds. -/
inductive Act where
  | write (out : Pipe)
  | read (inp : Pipe)
  | watch
  | work (k : Nat)
  | call (call : Call)
  /-- The clock that the endpoint looks at next. -/
  | time (clock : Clock)
  /-- What the application does from now on when it is called. -/
  | turn (application : Application)

/-- The endpoint after what it does. -/
def after (e : Endpoint) : Act → Endpoint
  | .write out => (e.stepWrite out).1
  | .read inp => (e.stepRead inp).1
  | .watch => e.stepWatch.1
  | .work k => (e.stepWork k).1
  | .call call => (e.perform call).2
  | .time clock => { e with clock }
  | .turn application => { e with application }

/-- The endpoint after all that it does, one after the other. -/
def afterAll (e : Endpoint) (acts : List Act) : Endpoint := acts.foldl after e

/-- The loop that writes takes a step. -/
def Act.isWrite : Act → Bool
  | write _ => true
  | _ => false

/-- The endpoint does it: it has the same clock and the same application afterwards. -/
def Act.isOwn : Act → Bool
  | time _ | turn _ => false
  | _ => true

/-- The task that takes a step. -/
def Act.task? : Act → Option TaskId
  | write _ => some .write
  | read _ => some .read
  | watch => some .watch
  | work k => some (.work k)
  | call _ | time _ | turn _ => none

/-- The name of the request that is made or come back to. -/
def Act.request? : Act → Option String
  | .call what => what.request?
  | _ => none

@[simp] theorem afterAll_nil (e : Endpoint) : e.afterAll [] = e := rfl

@[simp] theorem afterAll_cons (e : Endpoint) (act : Act) (acts : List Act) :
    e.afterAll (act :: acts) = (e.after act).afterAll acts := rfl

theorem afterAll_append (e : Endpoint) (acts more : List Act) :
    e.afterAll (acts ++ more) = (e.afterAll acts).afterAll more := List.foldl_append

variable {e f : Endpoint} {act : Act}

/-- Whatever an endpoint does. -/
theorem leaves_after (e : Endpoint) (own : act.isOwn = true) :
    e.Leaves act.task? act.request? (e.after act) := by
  cases act with
  | write out => exact e.stepWrite_leaves out
  | read inp => exact e.stepRead_leaves inp
  | watch => exact e.stepWatch_leaves
  | work k => exact e.stepWork_leaves k
  | call call => exact e.perform_leaves call
  | time clock => contradiction
  | turn application => contradiction

/-- The queue is fed, and nothing is handed to the transport. -/
structure Feeds (e f : Endpoint) : Prop where
  connection : e.connection.Feeds true f.connection
  written : f.written = e.written
  writing : f.writing = e.writing

/-- Whatever an endpoint does but write puts frames into the queue, or closes it. -/
theorem feeds_after (e : Endpoint) (other : act.isWrite = false) : e.Feeds (e.after act) := by
  have silent : act.task? ≠ some .write := by
    cases act with
    | write out => contradiction
    | _ => simp [Act.task?]
  have fed (own : act.isOwn = true) : e.Feeds (e.after act) :=
    have leaves := e.leaves_after own
    ⟨leaves.connection silent, leaves.written silent, leaves.writing silent⟩
  cases act with
  | time clock => exact ⟨.refl _, rfl, rfl⟩
  | turn application => exact ⟨.refl _, rfl, rfl⟩
  | _ => exact fed rfl

end Endpoint

/-- Whatever happens to two endpoints on a transport, each of them only acts. -/
theorem World.Occurs.acts {w w' : World} (next : w.Occurs w') {there : End} {e : Endpoint}
    (found : w.endpoint? there = some e) :
    ∃ acts, w'.endpoint? there = some (e.afterAll acts) := by
  -- The end that does something looks at the clock of the world first.
  have settles {w' : World} {here : End} {f : Endpoint} (own : w.endpoint? here = some f)
      (act : Endpoint.Act) (others : w'.endpoint? there = if there = here then
        some (({ f with clock := w.clock } : Endpoint).after act) else w.endpoint? there) :
      ∃ acts, w'.endpoint? there = some (e.afterAll acts) := by
    rw [others]
    split
    next same =>
      subst same
      rw [found, Option.some.injEq] at own
      exact ⟨[.time w.clock, act], by rw [← own]; rfl⟩
    · exact ⟨[], found⟩
  cases next with
  | task here task =>
    unfold stepTask
    cases own : w.endpoint? here with
    | none => exact ⟨[], found⟩
    | some f =>
      cases task with
      | write => exact settles own (.write (w.writes here)) (by simp [Endpoint.after])
      | read => exact settles own (.read (w.reads here)) (by simp [setReads_eq, Endpoint.after])
      | watch => exact settles own .watch (by simp [Endpoint.after])
      | work k => exact settles own (.work k) (by simp [Endpoint.after])
  | passes now =>
    cases there with
    | near =>
      cases found
      exact ⟨[.time { w.clock with now }], rfl⟩
    | far =>
      have far : w.far = some e := found
      exact ⟨[.time { w.clock with now }], by simp [setNow, endpoint?, far]; rfl⟩
  | calls here call =>
    unfold act
    cases own : w.endpoint? here with
    | none => exact ⟨[], found⟩
    | some f => exact settles own (.call call) (by simp [Endpoint.after])
  | turns here application =>
    unfold act
    cases own : w.endpoint? here with
    | none => exact ⟨[], found⟩
    | some f => exact settles own (.turn application) (by simp [Endpoint.after])

end StreamMux
