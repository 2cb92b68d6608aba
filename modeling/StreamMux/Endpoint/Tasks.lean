import StreamMux.Endpoint.Producing
import StreamMux.Frame.Decode

/-!
The steps of an endpoint's tasks: the loop that writes the queued frames, the loop that reads
and dispatches the peer's, the watchdog, and the application's work. Before each step a task
looks whether it is to be given up.
-/
namespace StreamMux.Endpoint

/-! ### The application's work -/

/-- A job for a call comes to its next phase, or gives its result. -/
def stepJob {α : Type} (e : Endpoint) (job : Job α) (phase : Phase) (call : Endpoint → Endpoint)
    (keep : Phase → Task) (k : Nat) (finish : Endpoint → Except Failure α → Endpoint) :
    Endpoint × Progress :=
  match phase with
  | .fresh =>
    let e := call e
    if job.delay = 0 then (e.setTask k (keep .awake), .again)
    else
      let (alarm, e) := e.setAlarm (e.clock.now + job.delay)
      (e.setTask k (keep (.asleep alarm)), .blocked)
  | .asleep alarm =>
    if e.clock.isDue alarm then (e.setTask k (keep .awake), .again) else (e, .blocked)
  | .awake =>
    match job.result with
    | none => (e, .blocked)
    | some result => (finish (e.setTask k none) result, .done)

/-- A call is reported if the application implements the interaction and reports. -/
def reportCall (e : Endpoint) (implemented : Bool) (event : Event) : Endpoint :=
  if implemented && e.application.reports then e.report event else e

/-- Gives up a job: that is reported if the application had been called for it. -/
def giveUpJob (e : Endpoint) (k : Nat) (implemented : Bool) (phase : Phase) (label : String) :
    Endpoint × Progress :=
  let e := e.setTask k none
  match phase with
  | .fresh => (e, .done)
  | _ => (if implemented && e.application.reports then e.reportDropped label else e, .done)

def stepPush (e : Endpoint) (k : Nat) (metadata : ByteArray) (phase : Phase) :
    Endpoint × Progress :=
  let implemented := e.application.metadataPush.isSome
  if !e.connection.isActive then
    e.giveUpJob k implemented phase ("push:" ++ lossyText metadata)
  else
    e.stepJob (e.application.onPush metadata) phase
      (·.reportCall implemented (.metadataPush metadata)) (.push metadata) k (fun e _ => e)

def stepForget (e : Endpoint) (k stream : Nat) (payload : Payload) (phase : Phase) :
    Endpoint × Progress :=
  let implemented := e.application.fireAndForget.isSome
  if e.connection.isStopped stream then
    e.giveUpJob k implemented phase ("fnf:" ++ lossyText payload.data)
  else
    e.stepJob (e.application.onForget payload) phase
      (·.reportCall implemented (.fireAndForget payload)) (.forget stream payload) k
      (fun e _ => e)

def stepRespond (e : Endpoint) (k stream : Nat) (payload : Payload) (phase : Phase) :
    Endpoint × Progress :=
  let implemented := e.application.requestResponse.isSome
  if e.connection.isStopped stream then
    e.giveUpJob k implemented phase ("rr:" ++ lossyText payload.data)
  else
    e.stepJob (e.application.onResponse payload) phase
      (·.reportCall implemented (.requestResponse payload)) (.respond stream payload) k
      (fun e result => e.mapConnection (·.stepWriting stream (·.respond result)))

/-- A task with a producer is over. -/
def finishProducing (e : Endpoint) (k stream : Nat) (p : Producer) : Endpoint × Progress :=
  ((e.setTask k none).dropProducer stream p, .done)

/-- Sends a sequence: asks for an item if none is held, otherwise asks for credit. -/
def stepSend (e : Endpoint) (k stream : Nat) (p : Producer) (held : Option Payload) :
    Endpoint × Progress :=
  if e.connection.isStopped stream then e.finishProducing k stream p
  else
    match held with
    | some payload =>
      let (sending, after, frames) := (e.connection.stream stream).offer payload
      let e := e.mapConnection (·.commit stream after frames)
      match sending with
      | .sent => (e.setTask k (some (.send stream p none)), .again)
      | .waiting => (e, .blocked)
      | .over => e.finishProducing k stream p
    | none =>
      let (answer, p, e) := e.pull stream p
      match answer with
      | .waiting => (e.setTask k (some (.send stream p none)), .blocked)
      | .again => (e.setTask k (some (.send stream p none)), .again)
      | .item (.ok payload) => (e.setTask k (some (.send stream p (some payload))), .again)
      | .item (.error f) =>
        (e.mapConnection (·.stepWriting stream (·.failLocally f))).finishProducing k stream p
      | .ended =>
        (e.mapConnection (·.stepWriting stream Exchange.complete)).finishProducing k stream p

/-- Awaits the first item of a channel and opens it. -/
def stepOpen (e : Endpoint) (k stream : Nat) (batch : UInt32) (p : Producer) :
    Endpoint × Progress :=
  if e.connection.isStopped stream then e.finishProducing k stream p
  else
    let (answer, p, e) := e.pull stream p
    match answer with
    | .waiting => (e.setTask k (some (.openChannel stream batch p)), .blocked)
    | .again => (e.setTask k (some (.openChannel stream batch p)), .again)
    | .item (.ok payload) =>
      let (sending, after, frames) := (e.connection.stream stream).openChannel batch payload
      let e := e.mapConnection (·.commit stream after frames)
      match sending with
      | .sent => (e.setTask k (some (.send stream p none)), .again)
      | _ => e.finishProducing k stream p
    | .item (.error f) =>
      (e.mapConnection (·.step stream (·.failUnopened f))).finishProducing k stream p
    | .ended =>
      (e.mapConnection (·.stepWriting stream (·.openSilentChannel batch))).finishProducing
        k stream p

def stepWork (e : Endpoint) (k : Nat) : Endpoint × Progress :=
  match e.tasks[k]?.join with
  | none => (e, .done)
  | some (.push metadata phase) => e.stepPush k metadata phase
  | some (.forget stream payload phase) => e.stepForget k stream payload phase
  | some (.respond stream payload phase) => e.stepRespond k stream payload phase
  | some (.openChannel stream batch p) => e.stepOpen k stream batch p
  | some (.send stream p held) => e.stepSend k stream p held

/-! ### The loops of the connection -/

/-- Starts the work that a frame calls for. A stream and a channel call the application at once,
the other interactions when their task first runs. -/
def start (e : Endpoint) : Connection.Work → Endpoint
  | .metadataPush metadata => e.spawn (.push metadata .fresh)
  | .fireAndForget stream payload => e.spawn (.forget stream payload .fresh)
  | .response stream payload => e.spawn (.respond stream payload .fresh)
  | .items stream payload =>
    (e.reportCall e.application.requestStream.isSome (.requestStream payload)).spawn
      (.send stream (e.application.onStream payload) none)
  | .channel stream payload =>
    let p := e.application.onChannel payload
    ((e.reportCall e.application.requestChannel.isSome (.requestChannel payload)).keepChannel
      stream p).spawn (.send stream p none)

/-- Handles a frame of the peer. -/
def handle (e : Endpoint) (frame : Frame) : Endpoint :=
  let (connection, work) := e.connection.dispatch e.application.keepsItems e.clock.now frame
  let e := { e with connection }
  match work with
  | none => e
  | some work => e.start work

/-- The writing loop ends and lets the peer know. -/
def stopWriting (e : Endpoint) (out : Pipe) : Endpoint × Pipe × Progress :=
  ({ e with writing := false }, out.shutdown, .done)

/-- Writes one queued frame. What cannot be encoded is passed over; a failed write ends the
connection. -/
def stepWrite (e : Endpoint) (out : Pipe) : Endpoint × Pipe × Progress :=
  match e.connection.queue.dequeue with
  | (.pending, _) => (e, out, .blocked)
  | (.ready (.error _), _) => e.stopWriting out
  | (.ready (.ok frame), queue) =>
    let e := e.mapConnection ({ · with queue })
    match frame.encode with
    | .error _ => (e, out, .again)
    | .ok bytes =>
      let e := { e with written := e.written.push bytes }
      match out.write bytes with
      | .ok out => (e, out, .again)
      | .error f => (e.mapConnection (·.teardown f)).stopWriting out

/-- The reading loop ends; nothing more is taken from the transport. -/
def stopReading (e : Endpoint) (inp : Pipe) : Endpoint × Pipe × Progress :=
  ({ e with reading := false }, inp.dropReader, .done)

/-- Reads and handles one frame. A frame that may be ignored is passed over; any other that
cannot be decoded ends the connection, and so does the end of the transport. -/
def stepRead (e : Endpoint) (inp : Pipe) : Endpoint × Pipe × Progress :=
  if !e.connection.isActive then e.stopReading inp
  else
    match inp.read with
    | (.pending, inp) => (e, inp, .blocked)
    | (.ready none, inp) => (e.mapConnection (·.teardown .closed)).stopReading inp
    | (.ready (some bytes), inp) =>
      match Frame.decode bytes with
      | .ok frame => (e.handle frame, inp, .again)
      | .error problem =>
        if problem.isIgnorable then (e, inp, .again)
        else (e.mapConnection (·.terminate (.connection problem.message))).stopReading inp

/-- Waits for the next tick of the watchdog. -/
def awaitTick (e : Endpoint) (due : Duration) : Endpoint × Progress :=
  let (alarm, e) := e.setAlarm due
  ({ e with watch := some (.asleep alarm) }, .blocked)

def stepWatch (e : Endpoint) : Endpoint × Progress :=
  if !e.connection.isActive then ({ e with watch := none }, .done)
  else
    match e.watch with
    | none => (e, .done)
    | some (.asleep alarm) =>
      if e.clock.isDue alarm then
        let e := e.mapConnection (·.tick e.clock.now)
        if e.connection.isActive then
          e.awaitTick (alarm.due + e.connection.config.tickInterval)
        else ({ e with watch := none }, .done)
      else (e, .blocked)
    | some _ => e.awaitTick (e.clock.now + e.connection.config.tickInterval)

/-! ### What can run -/

def phaseIsReady (e : Endpoint) {α : Type} (job : Job α) : Phase → Bool
  | .fresh => true
  | .asleep alarm => e.clock.isDue alarm
  | .awake => job.result.isSome

/-- A step of the task would not find it blocked. -/
def taskIsReady (e : Endpoint) : Task → Bool
  | .push metadata phase =>
    !e.connection.isActive || e.phaseIsReady (e.application.onPush metadata) phase
  | .forget stream payload phase =>
    e.connection.isStopped stream || e.phaseIsReady (e.application.onForget payload) phase
  | .respond stream payload phase =>
    e.connection.isStopped stream || e.phaseIsReady (e.application.onResponse payload) phase
  | .openChannel stream _ p => e.connection.isStopped stream || e.producerIsReady stream p
  | .send stream p none => e.connection.isStopped stream || e.producerIsReady stream p
  | .send stream _ (some _) =>
    e.connection.isStopped stream || (e.connection.stream stream).limiter.isDecided

def watchIsReady (e : Endpoint) : Bool :=
  match e.watch with
  | none => false
  | some (.asleep alarm) => !e.connection.isActive || e.clock.isDue alarm
  | some _ => true

/-- The tasks that can run, given what there is to read. -/
def readyTasks (e : Endpoint) (inp : Pipe) : List TaskId :=
  let loops :=
    [(TaskId.write, e.writing && e.connection.queue.isReady),
      (.read, e.reading && (!e.connection.isActive || inp.isReadable)),
      (.watch, e.watchIsReady)]
  let work := e.tasks.toList.zipIdx.map fun (task, k) =>
    (TaskId.work k, (task.map e.taskIsReady).getD false)
  ((loops ++ work).filter (·.2)).map (·.1)

/-- The alarms that are set, each with the task that waits for it. -/
def alarms (e : Endpoint) : List (Alarm × TaskId) :=
  let ofPhase : Phase → Option Alarm
    | .asleep alarm => some alarm
    | _ => none
  let ofTask : Task → Option Alarm
    | .push _ phase | .forget _ _ phase | .respond _ _ phase => ofPhase phase
    | .openChannel _ _ p | .send _ p none => p.tail.alarm
    | .send _ _ (some _) => none
  let watch := ((e.watch.bind ofPhase).map fun alarm => (alarm, TaskId.watch)).toList
  let work := e.tasks.toList.zipIdx.filterMap fun (task, k) =>
    (task.bind ofTask).map fun alarm => (alarm, TaskId.work k)
  watch ++ work

end StreamMux.Endpoint
