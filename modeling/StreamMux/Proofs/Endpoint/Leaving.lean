import StreamMux.Proofs.Endpoint.Calling

/-!
# What an endpoint leaves alone

Each loop changes what is its own, a task its slot, and a call the request under its name; all the
rest is left alone, and all but the loop that writes only put frames into the queue or close it
(`Endpoint.Leaves`). There is one lemma of this kind for each function of an endpoint, up to
`Endpoint.stepWork_leaves` and `Endpoint.perform_leaves`.

Source: `Endpoint.stepWrite`, `Endpoint.stepRead`, `Endpoint.stepWatch`, `Endpoint.perform`.
-/
namespace StreamMux.Endpoint

/-- What is left alone where the task `who` takes a step, if there is one, or something is called
for under `name`, if there is one. -/
structure Leaves (who : Option TaskId) (name : Option String) (e f : Endpoint) : Prop where
  connection : who ≠ some .write → e.connection.Feeds true f.connection
  lastHeard : who ≠ some .read → f.connection.lastHeard = e.connection.lastHeard
  application : f.application = e.application
  request : ∀ n, name ≠ some n → f.request? n = e.request? n
  task : ∀ k < e.tasks.size, who ≠ some (.work k) → f.tasks[k]? = e.tasks[k]?
  size : e.tasks.size ≤ f.tasks.size
  writing : who ≠ some .write → f.writing = e.writing
  reading : who ≠ some .read → f.reading = e.reading
  watch : who ≠ some .watch → f.watch = e.watch
  written : who ≠ some .write → f.written = e.written
  now : f.clock.now = e.clock.now

variable {who : Option TaskId} {name : Option String} {e f g : Endpoint} {n : String}

namespace Leaves

theorem of_rests (h : e.Rests f) : e.Leaves who name f where
  connection _ := by rw [h.connection]; exact .refl _
  lastHeard _ := by rw [h.connection]
  application := h.application
  request n _ := by rw [request?, request?, h.requests]
  task k _ _ := by rw [h.tasks]
  size := Nat.le_of_eq (by rw [h.tasks])
  writing _ := h.writing
  reading _ := h.reading
  watch _ := h.watch
  written _ := h.written
  now := h.now

theorem refl (e : Endpoint) : e.Leaves who name e := of_rests (.refl e)

theorem trans (h : e.Leaves who name f) (h' : f.Leaves who name g) : e.Leaves who name g where
  connection other := (h.connection other).trans (h'.connection other)
  lastHeard other := (h'.lastHeard other).trans (h.lastHeard other)
  application := h'.application.trans h.application
  request n other := (h'.request n other).trans (h.request n other)
  task k bound other :=
    (h'.task k (Nat.lt_of_lt_of_le bound h.size) other).trans (h.task k bound other)
  size := Nat.le_trans h.size h'.size
  writing other := (h'.writing other).trans (h.writing other)
  reading other := (h'.reading other).trans (h.reading other)
  watch other := (h'.watch other).trans (h.watch other)
  written other := (h'.written other).trans (h.written other)
  now := h'.now.trans h.now

/-- A step of the task in a slot, or of none. -/
theorem of_stirs {place : Option Nat} {batch : Option UInt32} {slot : Option Nat}
    (h : Stirs place batch slot e f) (mine : ∀ k, slot = some k → who = some (.work k)) :
    e.Leaves who name f where
  connection _ := h.connection.feeds
  lastHeard _ := h.connection.feeds.lastHeard
  application := h.application
  request n _ := by rw [request?, request?, h.requests]
  task k _ other := h.others k fun same => other (mine k same)
  size := Nat.le_of_eq h.size.symm
  writing _ := h.writing
  reading _ := h.reading
  watch _ := h.watch
  written _ := h.written
  now := h.now

/-- Where nothing is called for, no request is touched. -/
theorem request_same (h : e.Leaves who none f) (n : String) : f.request? n = e.request? n :=
  h.request n (by simp)

/-- Only the connection changes, and the peer is not heard. -/
theorem connects {d : Connection} (feeds : e.connection.Feeds false d) :
    e.Leaves who name { e with connection := d } :=
  { refl e with
    connection := fun _ => feeds.may_note
    lastHeard := fun _ => feeds.lastHeard }

theorem setRequest (request : Request) : e.Leaves who (some n) (e.setRequest n request) :=
  have same : e.Leaves who (some n) e := refl e
  { same with
    request := fun m other => by
      rw [request?_setRequest, if_neg fun same => other (congrArg some same.symm)] }

theorem forgetRequest (e : Endpoint) (n : String) : e.Leaves who (some n) (e.forgetRequest n) :=
  have same : e.Leaves who (some n) e := refl e
  { same with
    request := fun m other => by
      rw [request?_forgetRequest, if_neg fun same => other (congrArg some same.symm)] }

theorem spawn (e : Endpoint) (task : Task) : e.Leaves who name (e.spawn task) :=
  { refl e with
    task := fun k bound _ => by rw [task_spawn, if_neg (Nat.ne_of_lt bound)]
    size := by
      rw [Endpoint.spawn, Array.size_push]
      exact Nat.le_succ _ }

end Leaves

/-! ### Tasks -/

theorem stepWork_leaves (e : Endpoint) (k : Nat) :
    e.Leaves (some (.work k)) name (e.stepWork k).1 := by
  cases there : e.tasks[k]?.join with
  | none =>
    rw [stepWork_none there]
    exact .refl e
  | some task => exact .of_stirs (stepWork_steps there).toStirs fun j same => by cases same; rfl

/-! ### Loops -/

theorem keepChannel_leaves (e : Endpoint) (i : Nat) (p : Producer) :
    e.Leaves who name (e.keepChannel i p) := by
  obtain same | ⟨-, kept⟩ := e.keepChannel_cases i p
  · rw [same]
    exact .refl e
  · rw [kept]
    exact { Leaves.refl e with }

theorem start_leaves (e : Endpoint) (work : Connection.Work) :
    e.Leaves who name (e.start work) := by
  have reported (implemented : Bool) (event : Event) :
      e.Leaves who name (e.reportCall implemented event) :=
    .of_rests (e.reportCall_rests implemented event)
  cases work with
  | metadataPush metadata => exact .spawn e _
  | fireAndForget stream payload => exact .spawn e _
  | response stream payload => exact .spawn e _
  | items stream payload => exact (reported _ _).trans (.spawn _ _)
  | channel stream payload =>
    exact ((reported _ _).trans (keepChannel_leaves _ _ _)).trans (.spawn _ _)

theorem handle_leaves (e : Endpoint) (frame : Frame) :
    e.Leaves (some .read) name (e.handle frame) := by
  have feeds := Connection.Feeds.dispatch e.connection e.application.keepsItems e.clock.now frame
  have dispatched : e.Leaves (some .read) name { e with connection :=
      (e.connection.dispatch e.application.keepsItems e.clock.now frame).1 } :=
    { Leaves.refl e with
      connection := fun _ => feeds.may_note
      lastHeard := fun other => absurd rfl other }
  unfold handle
  dsimp only
  split
  · exact dispatched
  · exact dispatched.trans (start_leaves _ _)

theorem stepRead_leaves (e : Endpoint) (inp : Pipe) :
    e.Leaves (some .read) name (e.stepRead inp).1 := by
  have stopped (f : Endpoint) (inp : Pipe) : f.Leaves (some .read) name (f.stopReading inp).1 :=
    { Leaves.refl f with reading := fun other => absurd rfl other }
  unfold stepRead
  split
  · exact stopped e inp
  · split
    · exact .refl e
    · exact (Leaves.connects (.teardown _ _)).trans (stopped _ _)
    · split
      · exact e.handle_leaves _
      · split
        · exact .refl e
        · exact (Leaves.connects (.terminate _ _)).trans (stopped _ _)

theorem stepWatch_leaves (e : Endpoint) : e.Leaves (some .watch) name e.stepWatch.1 := by
  have stopped (f : Endpoint) : f.Leaves (some .watch) name { f with watch := none } :=
    { Leaves.refl f with watch := fun other => absurd rfl other }
  have awaits (f : Endpoint) (due : Duration) :
      f.Leaves (some .watch) name (f.awaitTick due).1 :=
    { Leaves.of_rests (f.setAlarm_rests due) with watch := fun other => absurd rfl other }
  unfold stepWatch
  split
  · exact stopped e
  · split
    · exact .refl e
    · split
      · have ticked : e.Leaves (some .watch) name (e.mapConnection (·.tick e.clock.now)) :=
          .connects (.tick _ _)
        dsimp only
        split
        · exact ticked.trans (awaits _ _)
        · exact ticked.trans (stopped _)
      · exact .refl e
    · exact awaits e _

theorem stepWrite_leaves (e : Endpoint) (out : Pipe) :
    e.Leaves (some .write) name (e.stepWrite out).1 := by
  have writes {f : Endpoint} (h : e.Leaves (some .write) name f) (writing : Bool)
      (written : Array ByteArray) :
      e.Leaves (some .write) name { f with writing, written } :=
    { h with
      writing := fun other => absurd rfl other
      written := fun other => absurd rfl other }
  have taken (queue : FrameQueue) :
      e.Leaves (some .write) name (e.mapConnection ({ · with queue })) :=
    { Leaves.refl e with connection := fun other => absurd rfl other }
  unfold stepWrite
  split
  · exact .refl e
  · exact writes (.refl e) false e.written
  · dsimp only
    split
    · exact taken _
    · split
      · exact writes (taken _) e.writing _
      · exact writes ((taken _).trans (.connects (.teardown _ _))) false _

/-! ### Calls -/

theorem attempt_leaves (e : Endpoint)
    (change : Connection → Except Connection.Refusal Connection)
    (feeds : ∀ d, change e.connection = .ok d → e.connection.Feeds false d) :
    e.Leaves who name (e.attempt change).2 := by
  unfold attempt
  split
  next d made => exact .connects (feeds d made)
  · exact .refl e
  · exact .refl e

theorem pullInbound_leaves (e : Endpoint) (i : Nat) (reports : Bool) :
    e.Leaves who name (e.pullInbound i reports).2 := by
  have stirs : Stirs (some i) none none e (e.pullInbound i reports).2 :=
    pullInbound_stirs e i reports
  exact .of_stirs stirs (by simp)

theorem giveUp_leaves (e : Endpoint) (request : Request) :
    e.Leaves who name (e.giveUp request) := by
  cases request with
  | response stream => exact .connects (.stepWriting _ _ _)
  | opened stream => exact .connects (.stepWriting _ _ _)
  | unopened opening batch =>
    cases opening with
    | stream payload => exact .refl e
    | channel source => exact .of_rests (e.dropSource_rests source)
  | refused => exact .refl e

theorem keepRequest_leaves (e : Endpoint) (n : String) (request : Request) :
    e.Leaves who (some n) (e.keepRequest n request) := by
  have kept : e.Leaves who (some n) (e.setRequest n request) := .setRequest request
  unfold keepRequest
  dsimp only
  split
  · exact kept.trans (giveUp_leaves _ _)
  · exact kept

theorem dropRequest_leaves (e : Endpoint) (n : String) :
    e.Leaves who (some n) (e.dropRequest n) := by
  unfold dropRequest
  split
  · exact (Leaves.forgetRequest e n).trans (giveUp_leaves _ _)
  · exact .refl e

theorem requestResponse_leaves (e : Endpoint) (n : String) (payload : Payload) :
    e.Leaves who (some n) (e.requestResponse n payload).2 := by
  have dropped : e.Leaves who (some n) (e.dropRequest n) := e.dropRequest_leaves n
  unfold requestResponse
  dsimp only
  split
  · exact dropped
  · exact dropped
  next i d made =>
    exact (dropped.trans (.connects (.requestResponse made))).trans (.setRequest _)

theorem open_leaves (e : Endpoint) (opening : Opening) (batch : UInt32) :
    e.Leaves who name (e.open opening batch).2 := by
  unfold «open»
  cases opening with
  | stream payload =>
    dsimp only
    split
    next i d made => exact .connects (.requestStream made)
    · exact .refl e
  | channel source =>
    dsimp only
    split
    next i d made =>
      exact (Leaves.connects (.register (fun _ => rfl) made)).trans (.spawn _ _)
    · exact .of_rests (e.dropSource_rests source)
    · exact .refl e

theorem pollItem_leaves (e : Endpoint) (n : String) : e.Leaves who (some n) (e.pollItem n).2 := by
  rcases e.pollItem_cases n with ⟨i, found⟩ | ⟨opening, batch, found⟩ | idle
  · rw [pollItem_opened found]
    exact e.pullInbound_leaves i false
  · have opened : e.Leaves who (some n) (e.open opening batch).2 := e.open_leaves opening batch
    generalize made : e.open opening batch = result at opened
    obtain ⟨(cause | _) | i, f⟩ := result
    · rw [pollItem_unmade found made]
      exact opened.trans (.setRequest _)
    · rw [pollItem_endless found (congrArg Prod.fst made)]
      exact .refl e
    · rw [pollItem_made found made, pollItem_opened (f.request?_setRequest_same n _)]
      exact (opened.trans (.setRequest _)).trans (pullInbound_leaves _ i false)
  · rw [idle]
    exact .refl e

theorem takeItems_leaves (e : Endpoint) (n : String) (limit : Nat) :
    e.Leaves who (some n) (e.takeItems n limit).2.2 :=
  takeItems_keeps (fun f leaves => leaves.trans (f.pollItem_leaves n)) limit (.refl e)

theorem pollNamed_leaves (e : Endpoint) (n : String) (limit : Nat) :
    e.Leaves who (some n) (e.pollNamed n limit).2 := by
  unfold pollNamed
  split
  · exact .refl e
  · unfold pollResponse
    dsimp only
    split
    · exact .refl e
    · exact .forgetRequest e n
  · exact e.takeItems_leaves n limit

theorem pollKept_leaves (e : Endpoint) (i : Nat) : e.Leaves who name (e.pollKept i).2 := by
  obtain same | ⟨-, polled⟩ := e.pollKept_cases i
  · rw [same]
    exact .refl e
  · rw [polled]
    exact e.pullInbound_leaves i false

theorem dropKept_leaves (e : Endpoint) (i : Nat) : e.Leaves who name (e.dropKept i) := by
  obtain same | ⟨-, dropped⟩ := e.dropKept_cases i
  · rw [same]
    exact .refl e
  · have fewer : e.Leaves who name { e with kept := e.kept.filter (· != i) } :=
      { Leaves.refl e with }
    rw [dropped]
    exact fewer.trans (.connects (.stepWriting _ _ _))

/-- Whatever the application calls for. -/
theorem perform_leaves (e : Endpoint) (call : Call) :
    e.Leaves none call.request? (e.perform call).2 := by
  cases call with
  | close => exact .connects (.terminate _ _)
  | closed => exact .refl e
  | fireAndForget payload =>
    exact attempt_leaves e (·.fireAndForget payload) fun d => .fireAndForget
  | metadataPush metadata =>
    exact attempt_leaves e (·.metadataPush metadata) fun d => .metadataPush
  | requestResponse n payload => exact e.requestResponse_leaves n payload
  | requestStream n payload batch => exact e.keepRequest_leaves n _
  | requestChannel n source batch => exact e.keepRequest_leaves n _
  | requestFedChannel n label batch =>
    exact (Leaves.of_rests (e.openFeed_rests n)).trans (keepRequest_leaves _ n _)
  | poll n limit => exact e.pollNamed_leaves n limit
  | drop n => exact e.dropRequest_leaves n
  | pollKept i => exact e.pollKept_leaves i
  | dropKept i => exact e.dropKept_leaves i
  | feed n item => exact .of_rests (e.feed_rests n item)
  | endFeed n => exact .of_rests (e.endFeed_rests n)

end StreamMux.Endpoint
