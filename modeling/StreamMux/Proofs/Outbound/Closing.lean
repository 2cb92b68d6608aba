import StreamMux.Proofs.Outbound.Lanes

/-!
# How an endpoint closes

When this end ends the connection, its ERROR frame goes into the priority lane: behind the frames
that wait there, ahead of those that wait in the normal lane. From then on the queue takes in
nothing, and each step of the loop that writes takes the next of the frames that waited, until there
are none and the loop ends (`Endpoint.drains`). So what was accepted before is handed over in any
case, but what still waits for a stream comes after the ERROR frame (`Endpoint.closing_drains`).
-/
namespace StreamMux.Endpoint

open FrameQueue (Lane)

/-- The transport takes what is written. -/
def Act.Working : Act → Prop
  | write out => out.Works
  | _ => True

/-- This end ends the connection: the application closes it, the watchdog finds the peer silent, or
something that the peer wrote cannot be decoded and may not be ignored. -/
inductive Terminates (e : Endpoint) : Act → Failure → Prop
  | closes : Terminates e (.call .close) .closed
  | silent {alarm : Alarm} (asleep : e.watch = some (.asleep alarm))
      (due : e.clock.isDue alarm = true) (silent : e.connection.isSilent e.clock.now = true) :
      Terminates e .watch (.keepAliveTimeout e.connection.config.lifetime)
  | garbled {inp rest : Pipe} {bytes : ByteArray} {problem : FrameError}
      (arrived : inp.read = (.ready (some bytes), rest))
      (broken : Frame.decode bytes = .error problem) (fatal : problem.isIgnorable = false) :
      Terminates e (.read inp) (.connection problem.message)

/-- All that waits to be written, in the order in which it will be. -/
def waiting (e : Endpoint) : List Frame := e.lane .priority ++ e.lane .normal

variable {e f : Endpoint} {act : Act} {acts past later : List Act} {cause : Failure}

theorem waiting_eq_nil (empty : ∀ lane, e.lane lane = []) : e.waiting = [] := by
  rw [waiting, empty, empty]
  rfl

/-- The frame that is taken is the first of those that wait. -/
theorem waiting_of_lanes {frame : Frame} {own : Lane}
    (lanes : ∀ lane, e.lane lane = (if own = lane then [frame] else []) ++ f.lane lane)
    (first : own = .normal → e.lane .priority = []) : e.waiting = frame :: f.waiting := by
  cases own with
  | priority =>
    rw [waiting, lanes .priority, lanes .normal]
    rfl
  | normal =>
    have none : f.lane .priority = [] := (lanes .priority).symm.trans (first rfl)
    rw [waiting, waiting, first rfl, none, lanes .normal]
    rfl

/-! ### The end -/

theorem Terminates.other (terminates : e.Terminates act cause) : act.isWrite = false := by
  cases terminates <;> rfl

/-- Each way to end the connection is to terminate it. -/
theorem Terminates.connection (terminates : e.Terminates act cause)
    (live : e.connection.isActive = true) :
    (e.after act).connection = e.connection.terminate cause := by
  cases terminates with
  | closes => rfl
  | @silent alarm asleep due silent =>
    have ticked : e.connection.tick e.clock.now =
        e.connection.terminate (.keepAliveTimeout e.connection.config.lifetime) := by
      rw [Connection.tick, if_pos silent]
    have ended : (e.connection.tick e.clock.now).isActive = false := by
      rw [ticked]
      exact Connection.isActive_terminate _ _
    rw [after, stepWatch, if_neg (by simp [live]), asleep]
    dsimp only
    rw [if_pos due, if_neg (by simp [mapConnection, ended])]
    exact ticked
  | @garbled inp rest bytes problem arrived broken fatal =>
    rw [after, stepRead, if_neg (by simp [live]), arrived]
    dsimp only
    rw [broken]
    dsimp only
    rw [if_neg (by simp [fatal])]
    rfl

/-- The ERROR frame comes last in the priority lane. -/
theorem Terminates.queue (terminates : e.Terminates act cause) (piped : e.connection.Piped)
    (live : e.connection.isActive = true) :
    (e.after act).connection.terminal = some cause ∧
      (e.after act).waiting = e.lane .priority ++ [cause.closingFrame] ++ e.lane .normal := by
  have accepts : e.connection.queue.accepts = true := piped.accepts.trans live
  have torn : (e.after act).connection.terminal = some cause ∧ (e.after act).connection.queue =
      (e.connection.queue.put cause.closingFrame .priority).close cause := by
    have told : (e.connection.enqueuePriority cause.closingFrame).isActive = true := live
    rw [terminates.connection live, Connection.terminate_eq live, Connection.teardown_eq told]
    exact ⟨rfl, rfl⟩
  have closed (q : FrameQueue) (lane : Lane) : (q.close cause).lane lane = q.lane lane := by
    cases lane <;> rfl
  refine ⟨torn.1, ?_⟩
  rw [waiting, lane, lane, torn.2, closed, closed, FrameQueue.lane_put, FrameQueue.lane_put,
    if_pos ⟨accepts, rfl⟩, if_neg (by simp), List.append_nil]
  rfl

/-! ### What comes after -/

/-- A connection that is over, on a transport that works: only steps of the loop that writes do
anything to the queue, and each of them takes one frame. -/
theorem drains_after (piped : e.connection.Piped) (ended : e.connection.terminal = some cause)
    (working : act.Working) :
    (∀ lane, e.accepted act lane = []) ∧
    (act.isWrite = false → (e.after act).waiting = e.waiting ∧
      (e.after act).written = e.written ∧ (e.after act).writing = e.writing) ∧
    (act.isWrite = true → (e.after act).waiting = e.waiting.drop 1 ∧
      (e.after act).written.toList = e.written.toList ++ wire (e.waiting.take 1) ∧
      (e.after act).writing = (e.writing && !e.waiting.isEmpty)) := by
  cases other : act.isWrite with
  | false =>
    have feeds := e.feeds_after other
    have same : (e.after act).connection.queue = e.connection.queue :=
      (feeds.connection.stays_over piped ended).2
    refine ⟨fun lane => ?_, fun _ => ⟨?_, feeds.written, feeds.writing⟩, fun writes => ?_⟩
    · rw [accepted, if_neg (by simp [other]), Endpoint.lane, Endpoint.lane, same, List.drop_length]
    · rw [waiting, waiting, lane, lane, same]
      rfl
    · contradiction
  | true =>
    refine ⟨fun lane => if_pos other, fun silent => ?_, fun _ => ?_⟩
    · contradiction
    cases act with
    | write out =>
      have halted : e.connection.isActive = false := by rw [Connection.isActive, ended]; rfl
      cases stepWrite_wrote piped out with
      | waits empty live eq =>
        rw [halted] at live
        contradiction
      | stops empty halted eq =>
        have none := waiting_eq_nil empty
        have none' : ({ e with writing := false } : Endpoint).waiting = [] := none
        rw [after, eq, none', none]
        exact ⟨rfl, (List.append_nil _).symm, (Bool.and_false _).symm⟩
      | takes frame own lanes first piped config written goes =>
        have next : e.waiting = frame :: (e.after (.write out)).waiting :=
          waiting_of_lanes lanes first
        have goes : (e.after (.write out)).writing = e.writing :=
          goes.elim And.left fun failed => absurd working failed.2.2.1
        rw [next, goes]
        exact ⟨rfl, written, (Bool.and_true _).symm⟩
    | _ => contradiction

/-- So over any number of acts the frames that wait are handed over one by one, and then the loop
ends. -/
theorem drains (piped : e.connection.Piped) (ended : e.connection.terminal = some cause)
    (working : ∀ act ∈ acts, act.Working) :
    let steps := acts.countP Act.isWrite
    (∀ lane, e.acceptedAll acts lane = []) ∧
    (e.afterAll acts).waiting = e.waiting.drop steps ∧
    (e.afterAll acts).written.toList = e.written.toList ++ wire (e.waiting.take steps) ∧
    (e.afterAll acts).writing = (e.writing && decide (steps ≤ e.waiting.length)) := by
  induction acts generalizing e with
  | nil =>
    exact ⟨fun _ => rfl, rfl, (List.append_nil _).symm, by simp⟩
  | cons act acts ih =>
    obtain ⟨nothing, other, writes⟩ := drains_after piped ended (working act (by simp))
    obtain ⟨nothing', waiting', written', writing'⟩ := ih (piped_after piped act)
      (over_after piped ended act) fun act member => working act (List.mem_cons_of_mem _ member)
    refine ⟨fun lane => by rw [acceptedAll, nothing, nothing']; rfl, ?_⟩
    rw [afterAll_cons, waiting', written', writing']
    cases kind : act.isWrite with
    | false =>
      obtain ⟨waiting, written, writing⟩ := other kind
      rw [List.countP_cons_of_neg (by simp [kind]), waiting, written, writing]
      exact ⟨rfl, rfl, rfl⟩
    | true =>
      obtain ⟨waiting, written, writing⟩ := writes kind
      rw [List.countP_cons_of_pos kind, waiting, written, writing, List.drop_drop, Nat.add_comm 1,
        List.append_assoc, ← wire_append, List.length_drop]
      refine ⟨rfl, ?_, ?_⟩
      · rw [Nat.add_comm, List.take_add]
      · cases e.waiting with
        | nil => simp
        | cons frame rest => simp

/-- The loop that writes runs as long as the connection does. -/
theorem writing_after (piped : e.connection.Piped)
    (runs : e.connection.isActive = true → e.writing = true)
    (live : (e.after act).connection.isActive = true) : (e.after act).writing = true := by
  have before : e.connection.isActive = true := by
    cases terminal : e.connection.terminal with
    | none => rw [Connection.isActive, terminal]; rfl
    | some cause =>
      rw [Connection.isActive, over_after piped terminal act] at live
      contradiction
  cases other : act.isWrite with
  | false => exact (e.feeds_after other).writing.trans (runs before)
  | true =>
    cases act with
    | write out =>
      cases stepWrite_wrote piped out with
      | waits empty live eq => rw [after, eq]; exact runs before
      | stops empty halted eq =>
        rw [before] at halted
        contradiction
      | takes frame own lanes first piped config written goes =>
        rcases goes with ⟨same, _⟩ | ⟨_, halted, _⟩
        · exact same.trans (runs before)
        · rw [after, halted] at live
          contradiction
    | _ => contradiction

theorem writing_afterAll (piped : e.connection.Piped)
    (runs : e.connection.isActive = true → e.writing = true)
    (live : (e.afterAll acts).connection.isActive = true) : (e.afterAll acts).writing = true := by
  induction acts generalizing e with
  | nil => exact runs live
  | cons act acts ih =>
    exact ih (piped_after piped act) (fun live => writing_after piped runs live) live

/-- An endpoint does anything, over any transport; then this end ends the connection, and from then
on the transport works. What a lane took in before was handed over, or waits still; the ERROR
frame comes after what waits in the priority lane and before what waits in the normal lane. Nothing
more is taken in. Each step of the loop that writes takes the next frame and hands it over, unless
it cannot be encoded; the step after the last of them ends the loop. By then each frame that was
taken in was handed over, or cannot be encoded. -/
theorem closing_drains (side : Side) (config : ConnectionConfig) (setup : Option Setup)
    (application : Application)
    (live : ((World.newEndpoint side config setup application).afterAll past).connection.isActive)
    (terminates :
      ((World.newEndpoint side config setup application).afterAll past).Terminates act cause)
    (working : ∀ act ∈ later, act.Working) :
    let start := World.newEndpoint side config setup application
    let e := start.afterAll past
    let g := (e.after act).afterAll later
    let frames := e.lane .priority ++ [cause.closingFrame] ++ e.lane .normal
    let steps := later.countP Act.isWrite
    (∀ lane, ∃ before, (wire before).Sublist e.written.toList ∧
      before ++ e.lane lane = start.lane lane ++ start.acceptedAll past lane) ∧
    cause.closingFrame.bytes?.isSome = true ∧
    (∀ lane, (e.after act).acceptedAll later lane = []) ∧
    g.connection.terminal = some cause ∧
    g.written.toList = e.written.toList ++ wire (frames.take steps) ∧
    g.waiting = frames.drop steps ∧
    (g.writing = true ↔ steps ≤ frames.length) ∧
    (frames.length ≤ steps → ∀ lane, ∀ frame ∈ start.acceptedAll past lane,
      (∃ bytes, frame.encode = .ok bytes ∧ bytes ∈ g.written.toList) ∨
        ∃ problem, frame.encode = .error problem) := by
  intro start e g frames steps
  have fresh : start.connection.Piped := World.piped_newEndpoint side config setup application
  have piped : e.connection.Piped := piped_afterAll fresh past
  have written : (e.after act).written = e.written := (e.feeds_after terminates.other).written
  have writing : (e.after act).writing = true :=
    (e.feeds_after terminates.other).writing.trans (writing_afterAll fresh (fun _ => rfl) live)
  obtain ⟨ended, waiting⟩ := terminates.queue piped live
  obtain ⟨nothing, rest, handed, runs⟩ := drains (piped_after piped act) ended working
  have kept (lane : Lane) : ∃ before, (wire before).Sublist e.written.toList ∧
      before ++ e.lane lane = start.lane lane ++ start.acceptedAll past lane := by
    obtain ⟨handed, written, lanes⟩ := handed_over fresh past
    obtain ⟨before, part, balance⟩ := lanes lane
    refine ⟨before, ?_, balance⟩
    rw [written]
    exact part.filterMap _
  have written : g.written.toList = e.written.toList ++ wire (frames.take steps) := by
    rw [handed, waiting, written]
  refine ⟨kept, rfl, nothing, over_afterAll (piped_after piped act) ended later, written, ?_, ?_,
    fun drained lane frame accepted => ?_⟩
  · rw [rest, waiting]
  · rw [runs, writing, waiting, Bool.true_and, decide_eq_true_iff]
  · cases encoded : frame.encode with
    | error problem => exact .inr ⟨problem, rfl⟩
    | ok bytes =>
      refine .inl ⟨bytes, rfl, ?_⟩
      obtain ⟨before, part, balance⟩ := kept lane
      have member : frame ∈ before ++ e.lane lane := balance ▸ List.mem_append_right _ accepted
      rw [written, List.take_of_length_le drained]
      rcases List.mem_append.mp member with earlier | waits
      · exact List.mem_append_left _ (part.subset (mem_wire earlier encoded))
      · refine List.mem_append_right _ (mem_wire ?_ encoded)
        cases lane with
        | priority => exact List.mem_append_left _ (List.mem_append_left _ waits)
        | normal => exact List.mem_append_right _ waits

/-- A request without an answer waits as the application closes the connection: the ERROR frame goes
first, the request after it, and the third step ends the loop. -/
theorem closing_drains_of_queued :
    let e := (World.newEndpoint .client {} none .empty).afterAll
      [.call (.fireAndForget Payload.empty)]
    let g := (e.after (.call .close)).afterAll [.write {}, .write {}, .write {}]
    e.lane .normal = [.payload (.fireAndForget 1 Payload.empty)] ∧
      g.written.toList =
        wire [Failure.closed.closingFrame, .payload (.fireAndForget 1 Payload.empty)] ∧
      g.waiting = [] ∧ g.writing = false := by
  intro e g
  have queued : e.lane .normal = [.payload (.fireAndForget 1 Payload.empty)] := by decide +kernel
  have urgent : e.lane .priority = [] := by decide +kernel
  have nothing : e.written.toList = [] := by decide +kernel
  have ends : e.Terminates (.call .close) .closed := .closes
  have working : ∀ act ∈ [Act.write {}, .write {}, .write {}], act.Working := by
    simp [Act.Working, Pipe.Works]
  have law := closing_drains .client {} none .empty rfl ends working
  obtain ⟨_, _, _, _, written, waiting, writing, _⟩ := law
  rw [queued, urgent] at written waiting writing
  refine ⟨queued, written.trans ?_, waiting, ?_⟩
  · rw [nothing]
    rfl
  · exact Bool.eq_false_iff.mpr fun runs => absurd (writing.mp runs) (by decide)

/-- It does not hold that the ERROR frame is the last: a request that was accepted before the
connection is closed is written after it. -/
theorem closing_overtakes : ¬ ∀ (past later : List Act) (act : Act) (cause : Failure),
    let e := (World.newEndpoint .client {} none .empty).afterAll past
    let g := (e.after act).afterAll later
    e.connection.isActive = true → e.Terminates act cause → (∀ act ∈ later, act.Working) →
      g.writing = false → g.written.toList.getLast? = cause.closingFrame.bytes? := by
  intro claim
  have last := claim [.call (.fireAndForget Payload.empty)] [.write {}, .write {}, .write {}]
    (.call .close) .closed rfl .closes (by simp [Act.Working, Pipe.Works]) (by decide +kernel)
  exact absurd last (by decide +kernel)

end StreamMux.Endpoint
