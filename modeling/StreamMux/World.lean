import StreamMux.Endpoint.Calls
import StreamMux.Endpoint.Tasks

/-!
One or two endpoints on a transport, and the clock that they share. A far end without an endpoint
is played from outside. Tasks that can run wait in a line; the first of the line runs until it is
blocked or done. Time stands still while a task can run.
-/
namespace StreamMux

/-- The two ends of a transport. -/
inductive End where
  | near | far
  deriving DecidableEq, Repr

/-- Everything on one transport. -/
structure World where
  near : Endpoint
  /-- The endpoint at the far end; without one, that end is played from outside. -/
  far : Option Endpoint := none
  /-- What the near end writes. -/
  outgoing : Pipe := {}
  /-- What the near end reads. -/
  incoming : Pipe := {}
  clock : Clock := {}
  /-- The tasks that can run, in the order in which they will. -/
  line : List (End × TaskId) := []
  deriving Inhabited

namespace World

def endpoint? (w : World) : End → Option Endpoint
  | .near => some w.near
  | .far => w.far

def setEndpoint (w : World) (here : End) (e : Endpoint) : World :=
  match here with
  | .near => { w with near := e }
  | .far => { w with far := some e }

/-- What an end writes. -/
def writes (w : World) : End → Pipe
  | .near => w.outgoing
  | .far => w.incoming

/-- What an end reads. -/
def reads (w : World) : End → Pipe
  | .near => w.incoming
  | .far => w.outgoing

def setWrites (w : World) (here : End) (p : Pipe) : World :=
  match here with
  | .near => { w with outgoing := p }
  | .far => { w with incoming := p }

def setReads (w : World) (here : End) (p : Pipe) : World :=
  match here with
  | .near => { w with incoming := p }
  | .far => { w with outgoing := p }

/-! ### Steps -/

/-- One step of one task. -/
def stepTask (w : World) (here : End) (task : TaskId) : World × Progress :=
  match w.endpoint? here with
  | none => (w, .done)
  | some e =>
    let e := { e with clock := w.clock }
    let finish (w : World) (e : Endpoint) : World :=
      { w.setEndpoint here e with clock := e.clock }
    match task with
    | .write =>
      let (e, pipe, progress) := e.stepWrite (w.writes here)
      (finish (w.setWrites here pipe) e, progress)
    | .read =>
      let (e, pipe, progress) := e.stepRead (w.reads here)
      (finish (w.setReads here pipe) e, progress)
    | .watch =>
      let (e, progress) := e.stepWatch
      (finish w e, progress)
    | .work k =>
      let (e, progress) := e.stepWork k
      (finish w e, progress)

/-- All tasks that can run. -/
def readyTasks (w : World) : List (End × TaskId) :=
  [End.near, End.far].flatMap fun here =>
    match w.endpoint? here with
    | some e => (e.readyTasks (w.reads here)).map (here, ·)
    | none => []

/-- Lets the tasks that can run, and do not stand in line yet, stand at its end. -/
def refill (w : World) : World :=
  { w with line := w.line ++ w.readyTasks.filter (!w.line.contains ·) }

/-- Lets the tasks in line run, until all are blocked or so many steps were made. -/
def settle : Nat → World → World
  | 0, w => w
  | steps + 1, w =>
    match w.line with
    | [] => w
    | (here, task) :: rest =>
      let (w, progress) := w.stepTask here task
      let w := if progress = .again then w else { w with line := rest }
      settle steps w.refill

/-- More steps than anything makes before it is blocked. -/
def stepLimit : Nat := 10 ^ 12

/-- Lets everything run until it is blocked. -/
def run (w : World) : World := settle stepLimit w.refill

/-! ### Time -/

/-- The alarms of all endpoints with the tasks that wait for them, the first to go off first. -/
def alarms (w : World) : List (Alarm × End × TaskId) :=
  let all := [End.near, End.far].flatMap fun here =>
    match w.endpoint? here with
    | some e => e.alarms.map fun (alarm, task) => (alarm, here, task)
    | none => []
  all.mergeSort fun a b => a.1.isBefore b.1

/-- Sets the time for everyone. -/
def setNow (w : World) (now : Duration) : World :=
  let clock := { w.clock with now }
  { w with
    clock
    near := { w.near with clock }
    far := w.far.map ({ · with clock }) }

/-- Lets time pass up to a point, stopping at every alarm on the way. -/
def advanceTo : Nat → Duration → World → World
  | 0, _, w => w
  | stops + 1, target, w =>
    match w.alarms with
    | [] => w.setNow target
    | first :: _ =>
      if target < first.1.due then w.setNow target
      else
        let w := if w.clock.now < first.1.due then w.setNow first.1.due else w
        let due := (w.alarms.filter (w.clock.isDue ·.1)).map (·.2)
        advanceTo stops target { w with line := w.line ++ due }.run

/-- Lets time pass. -/
def advance (w : World) (time : Duration) : World :=
  advanceTo stepLimit (w.clock.now + time) w

/-! ### From outside -/

/-- Lets the application of an end act. -/
def act {α : Type} (w : World) (here : End) (f : Endpoint → α × Endpoint) : Option α × World :=
  match w.endpoint? here with
  | none => (none, w)
  | some e =>
    let (result, e) := f { e with clock := w.clock }
    (some result, { w.setEndpoint here e with clock := e.clock })

/-- Forgets what was recorded. -/
def clearRecord (w : World) : World :=
  { w with near := w.near.clearRecord, far := w.far.map (·.clearRecord) }

/-- An endpoint before its first step. -/
def newEndpoint (side : Side) (config : ConnectionConfig) (setup : Option Setup)
    (application : Application) : Endpoint :=
  { connection := Connection.new side config setup 0, application }

/-! ### Playing the far end -/

/-- The far end writes a frame; tells whether the transport took it. -/
def deliver (w : World) (frame : ByteArray) : Bool × World :=
  match w.incoming.write frame with
  | .ok incoming => (true, { w with incoming })
  | .error _ => (false, w)

/-- The far end writes frames; tells whether the last one was taken. -/
def deliverAll (w : World) (frames : List ByteArray) : Bool × World :=
  frames.foldl (fun (_, w) frame => w.deliver frame) (true, w)

/-- The far end writes nothing more. -/
def endIncoming (w : World) : World := { w with incoming := w.incoming.shutdown }

/-- The far end reads nothing more. -/
def dropOutgoing (w : World) : World := { w with outgoing := w.outgoing.dropReader }

/-- All that the near end wrote and nobody has read. -/
def takeWritten (w : World) : List ByteArray × World :=
  (w.outgoing.frames.toList, { w with outgoing := { w.outgoing with frames := .empty } })

/-- The far end can see that the near end writes nothing more. -/
def sawEnd (w : World) : Bool := !w.outgoing.writerOpen && w.outgoing.readerOpen

end World
end StreamMux
