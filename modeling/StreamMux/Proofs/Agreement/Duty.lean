import StreamMux.Proofs.Agreement.Working
import StreamMux.Proofs.Endpoint.Working
import StreamMux.Proofs.Exchange.Ending

/-!
# What tasks and requests rely on

A task makes only moves that its stream allows: it knows what its stream is, whether the peer has
heard of it, and that the way to the peer is open unless it was told to stop (`Task.Suits`). Who
waits for an answer has it, or can still get it (`Request.Suits`). Nobody else takes that away.
Moves for the peer, and those for who takes the items, are `Steady`; the others are made by the one
task that sends on the stream, or the one caller that waits for the answer (`Endpoint.Orderly`).
-/
namespace StreamMux

namespace Exchange

variable {s t u : Exchange}

/-- The caller that waits for the answer has it, or can still get it. -/
structure Answerable (s : Exchange) : Prop where
  receptive : s.Receptive
  isOpen : s.answer = .awaited → s.closed.inbound = false

/-- The way to the peer closes only when the work for the stream is to be given up, the peer hears
of no stream, and no caller is turned away. -/
structure Steady (s t : Exchange) : Prop extends s.Extends t where
  opened : t.initiated = s.initiated
  tended : s.kind.needsCredit = true → t.closed.outbound = true →
    s.closed.outbound = true ∨ t.stopped = true
  answerable : s.kind = .requesterResponse → s.Answerable → t.Answerable

/-- The work for the stream goes on as long as the way to the peer is open. -/
def Tended (s : Exchange) : Prop := s.closed.outbound = true → s.stopped = true

/-- The move is neither of those that only the task makes that sends on the stream, nor the one
with which the caller turns away. -/
def Move.IsSteady : Move → Prop
  | complete | openChannel .. | openSilentChannel _ | failUnopened _ | abandon => False
  | _ => True

theorem Sends.extends (sends : s.Sends) (later : s.Extends t) : t.Sends :=
  ⟨later.kind ▸ sends.1, later.initiated sends.2⟩

namespace Steady

theorem refl (s : Exchange) : s.Steady s := ⟨.refl s, rfl, fun _ => .inl, fun _ waits => waits⟩

theorem trans (h : s.Steady t) (h' : t.Steady u) : s.Steady u where
  toExtends := h.toExtends.trans h'.toExtends
  opened := h'.opened.trans h.opened
  tended credit closed := by
    rcases h'.tended (h.kind.symm ▸ credit) closed with before | stopped
    · exact (h.tended credit before).imp_right h'.stopped
    · exact .inr stopped
  answerable kind waits := h'.answerable (h.kind.trans kind) (h.answerable kind waits)

theorem unopened (h : s.Steady t) (unopened : s.Unopened) : t.Unopened :=
  ⟨h.kind.trans unopened.1, h.opened.trans unopened.2⟩

theorem tends (h : s.Steady t) (credit : s.kind.needsCredit = true) (tended : s.Tended) :
    t.Tended := fun closed =>
  (h.tended credit closed).elim (fun before => h.stopped (tended before)) fun stopped => stopped

end Steady

/-! ### Steady moves -/

/-- The first payload of a stream, or an item, leaves the way to the peer as it is. -/
theorem deliver_same (s : Exchange) (uptake : Uptake) (payload : Payload) :
    (s.deliver uptake payload).stream.initiated = s.initiated ∧
      (s.kind ≠ .responderFireAndForget →
        (s.deliver uptake payload).stream.closed.outbound = s.closed.outbound) := by
  have kept := s.deposit_stays (.ok payload)
  have same : (s.deposit (.ok payload)).closed.outbound = s.closed.outbound := by rw [kept.closed]
  unfold deliver
  split
  · have settled := s.settle_stays (.ok payload)
    exact ⟨settled.initiated, fun _ => by simp [close, settled.closed]⟩
  · exact ⟨kept.initiated, fun _ => same⟩
  · exact ⟨kept.initiated, fun _ => same⟩
  · split
    · dsimp only
      split
      · exact ⟨kept.initiated, fun _ => same⟩
      · exact ⟨rfl, fun _ => rfl⟩
    · dsimp only
      split
      next kind => exact ⟨rfl, fun other => absurd kind other⟩
      next kind =>
        split
        · exact ⟨rfl, fun _ => rfl⟩
        · have early (consumer : Consumer) (goes : consumer.finished = false) :
              dropConsumer { s with started := true, consumer := some consumer } =
                { s with started := true, consumer := none }.cancelLocally
                  Directions.inboundOnly := by
            unfold dropConsumer
            dsimp only
            rw [goes, if_neg Bool.false_ne_true, if_neg (by simp [kind, StreamKind.isRequester])]
          rw [early _ rfl, cancelLocally_eq]
          exact ⟨rfl, fun _ => by simp⟩
      · exact ⟨rfl, fun _ => by simp [close]⟩

theorem completeInbound_same (s : Exchange) : s.completeInbound.initiated = s.initiated ∧
    s.completeInbound.closed.outbound = s.closed.outbound := by
  unfold completeInbound
  split
  · have settled := s.settle_stays (.ok Payload.empty)
    exact ⟨settled.initiated, by simp [close, settled.closed]⟩
  · exact ⟨rfl, by simp [close, endInbox]⟩
  · exact ⟨rfl, by simp [close, endInbox]⟩
  · exact ⟨rfl, by simp [close, endInbox]⟩
  · exact ⟨rfl, rfl⟩

theorem receive_same (s : Exchange) (uptake : Uptake) (f : PayloadFrame) :
    (s.receive uptake f).stream.initiated = s.initiated ∧
      (s.kind ≠ .responderFireAndForget →
        (s.receive uptake f).stream.closed.outbound = s.closed.outbound) := by
  have ended (r : Reception) (same : r.stream.initiated = s.initiated ∧
      (s.kind ≠ .responderFireAndForget → r.stream.closed.outbound = s.closed.outbound)) :
      r.stream.completeInbound.initiated = s.initiated ∧
      (s.kind ≠ .responderFireAndForget →
        r.stream.completeInbound.closed.outbound = s.closed.outbound) := by
    obtain ⟨initiated, outbound⟩ := r.stream.completeInbound_same
    exact ⟨initiated.trans same.1, fun other => outbound.trans (same.2 other)⟩
  unfold receive
  split
  · exact ⟨rfl, fun _ => rfl⟩
  · dsimp only
    split
    · exact ⟨rfl, fun _ => rfl⟩
    · split
      · split
        · exact ended _ (deliver_same { s with fragments := none } uptake _)
        · exact ended { stream := s } ⟨rfl, fun _ => rfl⟩
      · split
        · exact deliver_same { s with fragments := none } uptake _
        · exact ⟨rfl, fun _ => rfl⟩

/-- A caller is turned away by itself. -/
theorem Move.answerable {m : Move} (coherent : s.Coherent) (fits : m.Fits s) (waits : m ≠ .abandon)
    (kind : s.kind = .requesterResponse) (h : s.Answerable) : (m.apply s).1.Answerable := by
  refine ⟨m.receptive h.receptive, fun awaited => ?_⟩
  have asked := h.receptive.asked kind
  have before : s.answer = .awaited := by
    cases answer : s.answer with
    | none => contradiction
    | awaited => rfl
    | given result =>
      rw [m.answer_given answer] at awaited
      contradiction
  exact (Move.answered coherent fits kind asked waits (h.isOpen before)).resolve_right
    fun answered => answered awaited

theorem Move.steady {m : Move} (coherent : s.Coherent) (fits : m.Fits s) (steady : m.IsSteady) :
    s.Steady (m.apply s).1 := by
  have waits : m ≠ .abandon := by
    rintro rfl
    exact steady
  suffices kept : (m.apply s).1.initiated = s.initiated ∧ (s.kind.needsCredit = true →
      (m.apply s).1.closed.outbound = true → s.closed.outbound = true ∨
        (m.apply s).1.stopped = true) from
    ⟨(m.effect coherent fits).toExtends, kept.1, kept.2, Move.answerable coherent fits waits⟩
  cases m with
  | poll =>
    obtain ⟨inbox, consumer, eq, _⟩ := s.poll_eq
    rw [apply, eq]
    exact ⟨rfl, fun _ => .inl⟩
  | dropConsumer =>
    by_cases retired : s.Retired
    · rw [apply, dropConsumer_retired retired]
      exact ⟨rfl, fun _ => .inl⟩
    · rw [apply, dropConsumer_early retired, cancelLocally_eq]
      refine ⟨rfl, fun _ closed => ?_⟩
      split
      · exact .inr (by simp)
      next responder =>
        rw [if_neg responder] at closed
        exact .inl (by simpa using closed)
  | abandon => contradiction
  | receive uptake f =>
    obtain ⟨initiated, outbound⟩ := s.receive_same uptake f
    refine ⟨initiated, fun credit closed => .inl ?_⟩
    rw [← outbound fun kind => absurd credit (by rw [kind]; decide)]
    exact closed
  | grant n =>
    obtain ⟨limiter, eq⟩ := s.grant_eq n
    rw [apply, eq]
    exact ⟨rfl, fun _ => .inl⟩
  | cancelByPeer =>
    rw [apply]
    unfold Exchange.cancelByPeer
    split
    · exact ⟨rfl, fun _ _ => .inr rfl⟩
    · exact ⟨rfl, fun _ => .inl⟩
    · exact ⟨rfl, fun _ => .inl⟩
    · obtain ⟨inbox, eq⟩ := ((s.close Directions.both).stop).failInbox_eq
        (.canceled "stream canceled by requester")
      rw [eq]
      exact ⟨rfl, fun _ _ => .inr rfl⟩
  | fail cause =>
    obtain ⟨inbox, answer, eq⟩ := s.fail_eq cause
    rw [apply, eq]
    exact ⟨rfl, fun _ _ => .inr rfl⟩
  | offer payload =>
    obtain ⟨limiter, eq⟩ := s.offer_eq payload
    rw [apply, eq]
    exact ⟨rfl, fun _ => .inl⟩
  | failLocally f =>
    obtain ⟨inbox, eq⟩ := s.failLocally_eq f
    rw [apply, eq]
    exact ⟨rfl, fun _ _ => .inr rfl⟩
  | respond result =>
    exact ⟨rfl, fun credit _ => absurd credit (by rw [show s.kind = _ from fits]; decide)⟩
  | failUnopened f => exact steady.elim
  | complete => exact steady.elim
  | openChannel initial first => exact steady.elim
  | openSilentChannel initial => exact steady.elim

end Exchange
namespace Connection

variable {c d e : Connection} {i : Nat}

/-- All streams that were there are steady. -/
structure Steady (c d : Connection) : Prop where
  size : c.streams.size ≤ d.streams.size
  streams : ∀ i < c.streams.size, (c.stream i).Steady (d.stream i)

/-- As long as the application was not told of a stream of the peer, the way back is open. -/
def Fresh (c : Connection) : Prop :=
  ∀ i < c.streams.size, (c.stream i).kind.isRequester = false →
    (c.stream i).kind.needsCredit = true → (c.stream i).started = false → (c.stream i).Tended

namespace Steady

theorem refl (c : Connection) : c.Steady c := ⟨Nat.le_refl _, fun _ _ => .refl _⟩

theorem trans (h : c.Steady d) (h' : d.Steady e) : c.Steady e where
  size := Nat.le_trans h.size h'.size
  streams i bound := (h.streams i bound).trans (h'.streams i (Nat.lt_of_lt_of_le bound h.size))

theorem of_streams (same : d.streams = c.streams) : c.Steady d where
  size := Nat.le_of_eq (by rw [same])
  streams i _ := by
    rw [stream, stream, same]
    exact .refl _

theorem of_push {t : Exchange} (pushed : d.streams = c.streams.push t) : c.Steady d where
  size := by rw [pushed, Array.size_push]; exact Nat.le_succ _
  streams i bound := by
    rw [stream_push rfl pushed, if_neg (Nat.ne_of_lt bound)]
    exact .refl _

theorem move {m : Exchange.Move} (sound : c.Sound) (placed : i < c.streams.size)
    (fits : m.Fits (c.stream i)) (steady : m.IsSteady) :
    c.Steady (c.stepWriting i (m.apply ·)) where
  size := Nat.le_of_eq (size_commit c i _ _).symm
  streams j bound := by
    rw [stepWriting, stream_commit c placed]
    split
    next same =>
      subst same
      exact m.steady (sound.coherent j placed) fits steady
    · exact .refl _

/-- The connection ends, and those of its streams that are registered fail. -/
theorem ended {cause : Failure} (sound : c.Sound)
    (eq : d = c.teardown cause ∨ d = c.terminate cause) :
    c.Steady d ∧ d.streams.size = c.streams.size := by
  cases live : c.isActive with
  | false =>
    obtain ⟨torn, terminated⟩ := ended_of_inactive live cause
    rcases eq with eq | eq
    · rw [eq, torn]
      exact ⟨.refl c, rfl⟩
    · rw [eq, terminated]
      exact ⟨.refl c, rfl⟩
  | true =>
    have ended : c.Ended d cause := by
      rcases eq with rfl | rfl
      · exact teardown_ended live cause
      · exact terminate_ended live cause
    refine ⟨⟨Nat.le_of_eq ended.size.symm, fun i placed => ?_⟩, ended.size⟩
    rw [ended.stream i placed]
    split
    · exact Exchange.Move.steady (m := .fail cause) (sound.coherent i placed) trivial trivial
    · exact .refl _

end Steady

theorem Fresh.steady (fresh : c.Fresh) (steady : c.Steady d)
    (new : ∀ i, c.streams.size ≤ i → i < d.streams.size → (d.stream i).kind.isRequester = false →
      (d.stream i).kind.needsCredit = true → (d.stream i).Tended) : d.Fresh := by
  intro i bound responder credit unstarted
  by_cases old : i < c.streams.size
  · have same := steady.streams i old
    rw [same.kind] at responder credit
    have early : (c.stream i).started = false := Bool.eq_false_iff.mpr fun started => by
      rw [same.started started] at unstarted
      contradiction
    exact same.tends credit (fresh i old responder credit early)
  · exact new i (Nat.le_of_not_lt old) bound responder credit

theorem Fresh.same_size (fresh : c.Fresh) (steady : c.Steady d)
    (size : d.streams.size = c.streams.size) : d.Fresh :=
  fresh.steady steady fun i past bound => absurd bound (by omega)

end Connection

/-! ### Tasks and requests -/

/-- The stream on which a task sends, or will. -/
def Task.producing? : Task → Option Nat
  | .openChannel stream .. | .send stream .. => some stream
  | .push .. | .forget .. | .respond .. => none

theorem Task.Continues.producing {t u : Task} (h : t.Continues u) :
    u.producing? = t.producing? := by
  cases h <;> rfl

/-- The stream of a task is as the task expects it. -/
def Task.Suits (c : Connection) : Task → Prop
  | .push .. | .forget .. => True
  | .respond i _ _ => i < c.streams.size ∧ (c.stream i).kind = .responderResponse
  | .openChannel i _ p => i < c.streams.size ∧ (c.stream i).Unopened ∧ (c.stream i).Tended ∧
      p.intake = .none
  | .send i p _ => i < c.streams.size ∧ (c.stream i).Sends ∧ (c.stream i).Tended ∧
      ((c.stream i).kind = .requesterChannel → p.intake = .none) ∧
      ((c.stream i).kind.isRequester = false → (c.stream i).started = true)

/-- The stream of a request is as it was asked for. -/
def Request.Suits (c : Connection) : Request → Prop
  | .response i => i < c.streams.size ∧ (c.stream i).kind = .requesterResponse ∧
      (c.stream i).Answerable
  | .opened i => i < c.streams.size ∧ (c.stream i).kind.isRequester = true
  | .unopened .. | .refused => True

section

variable {c d : Connection} {task : Task} {request : Request} {i : Nat}

theorem Request.Suits.steady (h : request.Suits c) (steady : c.Steady d) : request.Suits d := by
  cases request with
  | response i =>
    obtain ⟨bound, kind, waits⟩ := h
    have same := steady.streams i bound
    exact ⟨Nat.lt_of_lt_of_le bound steady.size, same.kind.trans kind, same.answerable kind waits⟩
  | opened i =>
    exact ⟨Nat.lt_of_lt_of_le h.1 steady.size, (steady.streams i h.1).kind ▸ h.2⟩
  | unopened opening batch => trivial
  | refused => trivial

/-- The stream that moves is not the one whose answer is waited for. -/
theorem Request.Suits.works (h : request.Suits c) (works : c.Works i d) (sound : c.Sound)
    (other : request ≠ .response i) : request.Suits d := by
  cases request with
  | response j =>
    have same := works.others (j := j) fun same => other (congrArg _ same)
    rw [Request.Suits, works.size, same]
    exact h
  | opened j =>
    exact ⟨Nat.lt_of_lt_of_eq h.1 works.size.symm,
      ((works.later sound).streams j h.1).kind ▸ h.2⟩
  | unopened opening batch => trivial
  | refused => trivial

theorem Task.Suits.steady (h : task.Suits c) (steady : c.Steady d) : task.Suits d := by
  cases task with
  | push metadata phase => trivial
  | forget i payload phase => trivial
  | respond i payload phase =>
    exact ⟨Nat.lt_of_lt_of_le h.1 steady.size, (steady.streams i h.1).kind.trans h.2⟩
  | openChannel i batch p =>
    obtain ⟨bound, unopened, tended, own⟩ := h
    have same := steady.streams i bound
    exact ⟨Nat.lt_of_lt_of_le bound steady.size, same.unopened unopened,
      same.tends (by rw [unopened.1]; rfl) tended, own⟩
  | send i p held =>
    obtain ⟨bound, sends, tended, own, told⟩ := h
    have same := steady.streams i bound
    exact ⟨Nat.lt_of_lt_of_le bound steady.size, sends.extends same.toExtends,
      same.tends sends.1 tended, fun kind => own (same.kind.symm.trans kind),
      fun responder => same.started (told (same.kind ▸ responder))⟩

/-- Another task makes moves of another stream. -/
theorem Task.Suits.works (h : task.Suits c) (works : c.Works i d) (sound : c.Sound)
    (other : task.producing? ≠ some i) : task.Suits d := by
  cases task with
  | push metadata phase => trivial
  | forget j payload phase => trivial
  | respond j payload phase =>
    have later := works.later sound
    exact ⟨Nat.lt_of_lt_of_le h.1 later.size, (later.streams j h.1).kind.trans h.2⟩
  | openChannel j batch p =>
    have same := works.others (j := j) fun same => other (congrArg some same)
    rw [Task.Suits, works.size, same]
    exact h
  | send j p held =>
    have same := works.others (j := j) fun same => other (congrArg some same)
    rw [Task.Suits, works.size, same]
    exact h

theorem Task.Suits.producing (h : task.Suits c) (producing : task.producing? = some i) :
    i < c.streams.size ∧ (c.stream i).kind.needsCredit = true ∧
      ((c.stream i).kind.isRequester = false → (c.stream i).started = true) := by
  cases task with
  | openChannel j batch p =>
    cases producing
    obtain ⟨bound, unopened, _⟩ := h
    rw [unopened.1]
    exact ⟨bound, rfl, fun responder => by contradiction⟩
  | send j p held =>
    cases producing
    exact ⟨h.1, h.2.1.1, h.2.2.2.2⟩
  | _ => contradiction

end

namespace Endpoint

variable {e f : Endpoint} {k : Nat} {task : Task}

/-- Everyone's stream is as expected, no two requests wait for the same answer, no two tasks send
on the same stream, and the items that are kept are those of a stream. -/
structure Orderly (e : Endpoint) : Prop where
  fresh : e.connection.Fresh
  requests : ∀ (n : String) (request : Request), e.request? n = some request →
    request.Suits e.connection
  alone : ∀ (m n : String) (i : Nat), e.request? m = some (.response i) →
    e.request? n = some (.response i) → m = n
  tasks : ∀ (k : Nat) (task : Task), e.tasks[k]?.join = some task → task.Suits e.connection
  single : ∀ (j k : Nat) (t u : Task) (i : Nat), e.tasks[j]?.join = some t →
    e.tasks[k]?.join = some u → t.producing? = some i → u.producing? = some i → j = k
  kept : ∀ i ∈ e.kept, i < e.connection.streams.size

/-- Nothing happens but steady things. -/
theorem Orderly.steady (h : e.Orderly) (steady : e.connection.Steady f.connection)
    (fresh : f.connection.Fresh) (requests : f.requests = e.requests) (kept : f.kept = e.kept)
    (tasks : f.tasks = e.tasks) : f.Orderly where
  fresh := fresh
  requests n request found :=
    (h.requests n request (by rw [request?, ← requests]; exact found)).steady steady
  alone m n i first second := h.alone m n i (by rw [request?, ← requests]; exact first)
    (by rw [request?, ← requests]; exact second)
  tasks k task found := (h.tasks k task (tasks ▸ found)).steady steady
  single j k t u i first second := h.single j k t u i (tasks ▸ first) (tasks ▸ second)
  kept i keeps := Nat.lt_of_lt_of_le (h.kept i (kept ▸ keeps)) steady.size

/-- Nothing happens to a stream, a request or a task. -/
theorem Orderly.of_streams (h : e.Orderly) (streams : f.connection.streams = e.connection.streams)
    (requests : f.requests = e.requests) (kept : f.kept = e.kept) (tasks : f.tasks = e.tasks) :
    f.Orderly := by
  have fresh : f.connection.Fresh := by
    unfold Connection.Fresh Connection.stream
    rw [streams]
    exact h.fresh
  exact h.steady (.of_streams streams) fresh requests kept tasks

theorem Orderly.of_still (h : e.Orderly) (still : e.Still f) : f.Orderly :=
  h.of_streams (by rw [still.connection]) still.requests still.kept still.tasks

/-- Items of streams that there are are kept. -/
theorem Orderly.of_kept {places : List Nat} (h : e.Orderly)
    (kept : ∀ i ∈ places, i < e.connection.streams.size) : ({ e with kept := places }).Orderly :=
  { fresh := h.fresh
    requests := h.requests
    alone := h.alone
    tasks := h.tasks
    single := h.single
    kept := kept }

/-- A task that sends on a new stream, or on none. -/
theorem Orderly.spawn (h : e.Orderly) (suits : task.Suits e.connection)
    (new : ∀ i, task.producing? = some i → ∀ (k : Nat) (u : Task), e.tasks[k]?.join = some u →
      u.producing? ≠ some i) : (e.spawn task).Orderly where
  fresh := h.fresh
  requests := h.requests
  alone := h.alone
  tasks k u found := by
    rw [task_spawn] at found
    split at found
    · cases found
      exact suits
    · exact h.tasks k u found
  single j k t u i first second sends sends' := by
    rw [task_spawn] at first second
    split at first
    next last =>
      cases first
      split at second
      next last' => exact last.trans last'.symm
      · exact absurd sends' (new i sends k u second)
    · split at second
      next last' =>
        cases second
        exact absurd sends (new i sends' j t first)
      · exact h.single j k t u i first second sends sends'
  kept := h.kept

/-- A stream that only the task on it relies on: nobody waits for its answer, and if the peer opened
it, then the application was told. -/
def Lone (e : Endpoint) (i : Nat) : Prop :=
  i < e.connection.streams.size → (e.connection.stream i).kind ≠ .requesterResponse ∧
    ((e.connection.stream i).kind.isRequester = false →
      (e.connection.stream i).kind.needsCredit = true → (e.connection.stream i).started = true)

/-- A task does its duty: it makes moves that its stream allows, and what it is then suits the
stream. -/
structure Dutiful (k i : Nat) (e f : Endpoint) : Prop where
  works : e.connection.Works i f.connection
  suits : ∀ t, f.tasks[k]?.join = some t → t.Suits f.connection

theorem Orderly.steps {i : Nat} (h : e.Orderly) (sound : e.connection.Sound)
    (there : e.tasks[k]?.join = some task) (steps : Steps k task e f) (dutiful : Dutiful k i e f)
    (lone : e.Lone i)
    (alone : ∀ (j : Nat) (u : Task), j ≠ k → e.tasks[j]?.join = some u → u.producing? ≠ some i) :
    f.Orderly := by
  have works := dutiful.works
  have request (n : String) : f.request? n = e.request? n := by
    rw [request?, request?, steps.requests]
  have other {j : Nat} (different : j ≠ k) : f.tasks[j]? = e.tasks[j]? :=
    steps.others j fun same => different (Option.some.inj same).symm
  -- The task that takes a step sends where it sent before.
  have before (j : Nat) (t : Task) (found : f.tasks[j]?.join = some t) :
      ∃ u, e.tasks[j]?.join = some u ∧ t.producing? = u.producing? := by
    by_cases own : j = k
    · subst own
      exact ⟨task, there, (steps.own t found).producing⟩
    · rw [other own] at found
      exact ⟨t, found, rfl⟩
  refine ⟨fun j bound responder credit unstarted => ?_, fun n r found => ?_,
    fun m n j first second => ?_, fun j t found => ?_,
    fun j l t u i' first second sends sends' => ?_, fun j keeps => ?_⟩
  · rw [works.size] at bound
    by_cases own : j = i
    · subst own
      have later := (works.later sound).streams j bound
      rw [later.kind] at responder credit
      rw [later.started ((lone bound).2 responder credit)] at unstarted
      contradiction
    · rw [works.others own] at responder credit unstarted ⊢
      exact h.fresh j bound responder credit unstarted
  · rw [request] at found
    have suits := h.requests n r found
    refine suits.works works sound ?_
    rintro rfl
    exact (lone suits.1).1 suits.2.1
  · rw [request] at first second
    exact h.alone m n j first second
  · by_cases own : j = k
    · subst own
      exact dutiful.suits t found
    · rw [other own] at found
      exact (h.tasks j t found).works works sound (alone j t own found)
  · obtain ⟨t', first', same⟩ := before j t first
    obtain ⟨u', second', same'⟩ := before l u second
    exact h.single j l t' u' i' first' second' (same.symm.trans sends) (same'.symm.trans sends')
  · rw [works.size]
    exact h.kept j (steps.kept ▸ keeps)

end Endpoint
end StreamMux
