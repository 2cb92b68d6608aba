import StreamMux.Proofs.Agreement.Duty
import StreamMux.Proofs.Endpoint.Calling

/-!
# Tasks do their duty

Whatever a task does in one step, it makes moves of its stream that the stream allows, and it is
over or can go on (`Endpoint.stepWork_orderly`).
-/
namespace StreamMux

/-- A channel that was opened has its way to the peer open. -/
theorem Exchange.openChannel_sent {s : Exchange} (coherent : s.Coherent) (unopened : s.Unopened)
    (goes : s.stopped = false) {initial : UInt32} {first : Payload}
    (sent : (s.openChannel initial first).1 = .sent) :
    (s.openChannel initial first).2.1.Sends ∧ (s.openChannel initial first).2.1.Tended := by
  unfold openChannel at sent ⊢
  split at sent
  · contradiction
  next live =>
    rw [if_neg live]
    have isOpen := coherent.outbound_open unopened goes (by simpa using live)
    exact ⟨⟨by rw [unopened.1]; rfl, rfl⟩, fun closed => absurd closed (by simp [isOpen])⟩

namespace Connection

variable {c d e : Connection} {i : Nat}

/-- The next item is asked for: the way to the peer stays as it is. -/
structure Pulls (i : Nat) (c d : Connection) : Prop where
  works : c.Works i d
  stream : (c.stream i).Steady (d.stream i)
  outbound : (d.stream i).closed.outbound = (c.stream i).closed.outbound

namespace Pulls

theorem refl (i : Nat) (c : Connection) : Pulls i c c := ⟨.still, .refl _, rfl⟩

theorem of_same (same : d = c) : Pulls i c d := by
  rw [same]
  exact .refl i c

theorem trans (h : Pulls i c d) (h' : Pulls i d e) : Pulls i c e where
  works := h.works.trans h'.works
  stream := h.stream.trans h'.stream
  outbound := h'.outbound.trans h.outbound

theorem move {m : Exchange.Move} (sound : c.Sound) (placed : i < c.streams.size)
    (own : m.isLocal = true) (fits : m.Fits (c.stream i)) (fair : m.IsFair (c.stream i))
    (steady : m.IsSteady)
    (outbound : (m.apply (c.stream i)).1.closed.outbound = (c.stream i).closed.outbound) :
    Pulls i c (c.stepWriting i (m.apply ·)) where
  works := .single m own placed fits fair
  stream := (Steady.move sound placed fits steady).streams i placed
  outbound := by
    rw [stepWriting, stream_commit c placed, if_pos rfl]
    exact outbound

theorem placed (h : Pulls i c d) (placed : i < c.streams.size) : i < d.streams.size := by
  rw [h.works.size]
  exact placed

end Pulls
end Connection

namespace Endpoint

open Connection (Pulls)

variable {e f : Endpoint} {k i : Nat} {p : Producer}

/-! ### Duty -/

namespace Dutiful

theorem ends (works : e.connection.Works i f.connection) (gone : f.tasks[k]?.join = none) :
    Dutiful k i e f where
  works := works
  suits t found := by
    rw [gone] at found
    contradiction

/-- The task in the slot waits. -/
theorem waits {task : Task} (works : e.connection.Works i f.connection) (same : f.tasks = e.tasks)
    (there : e.tasks[k]?.join = some task) (suits : task.Suits f.connection) :
    Dutiful k i e f where
  works := works
  suits t found := by
    rw [same, there, Option.some.injEq] at found
    exact found ▸ suits

/-- The task goes on as another one. -/
theorem goes {task : Task} (works : e.connection.Works i f.connection)
    (suits : task.Suits f.connection) : Dutiful k i e (f.setTask k (some task)) where
  works := works
  suits t found := by
    rw [own_setTask found]
    exact suits

end Dutiful

/-! ### Jobs -/

theorem giveUpJob_dutiful (e : Endpoint) (k i : Nat) (implemented : Bool) (phase : Phase)
    (label : String) : Dutiful k i e (e.giveUpJob k implemented phase label).1 := by
  have gone := e.join_setTask k
  unfold giveUpJob
  split
  · exact .ends .still gone
  · dsimp only
    split
    · exact .ends .still gone
    · exact .ends .still gone

theorem stepJob_dutiful {α : Type} {task : Task} (there : e.tasks[k]?.join = some task)
    (suits : task.Suits e.connection) (job : Job α) (phase : Phase) {call : Endpoint → Endpoint}
    {keep : Phase → Task} {finish : Endpoint → Except Failure α → Endpoint}
    (called : (call e).connection = e.connection)
    (kept : ∀ phase, (keep phase).Suits e.connection)
    (finished : ∀ result, Dutiful k i e (finish (e.setTask k none) result)) :
    Dutiful k i e (e.stepJob job phase call keep k finish).1 := by
  have again {f : Endpoint} (same : f.connection = e.connection) (phase : Phase) :
      Dutiful k i e (f.setTask k (some (keep phase))) :=
    .goes (by rw [same]; exact .still) (by rw [same]; exact kept phase)
  have waits : Dutiful k i e e := .waits .still rfl there suits
  unfold stepJob
  split
  · dsimp only
    split
    · exact again called _
    · exact again (f := ((call e).setAlarm ((call e).clock.now + job.delay)).2) called _
  · split
    · exact again rfl _
    · exact waits
  · split
    · exact waits
    · exact finished _

theorem stepPush_dutiful {metadata : ByteArray} {phase : Phase}
    (there : e.tasks[k]?.join = some (.push metadata phase)) (i : Nat) :
    Dutiful k i e (e.stepPush k metadata phase).1 := by
  unfold stepPush
  dsimp only
  split
  · exact giveUpJob_dutiful _ _ _ _ _ _
  · exact stepJob_dutiful there trivial _ _ (reportCall_rests e _ _).connection (fun _ => trivial)
      fun _ => .ends .still (e.join_setTask k)

theorem stepForget_dutiful {j : Nat} {payload : Payload} {phase : Phase}
    (there : e.tasks[k]?.join = some (.forget j payload phase)) (i : Nat) :
    Dutiful k i e (e.stepForget k j payload phase).1 := by
  unfold stepForget
  dsimp only
  split
  · exact giveUpJob_dutiful _ _ _ _ _ _
  · exact stepJob_dutiful there trivial _ _ (reportCall_rests e _ _).connection (fun _ => trivial)
      fun _ => .ends .still (e.join_setTask k)

theorem stepRespond_dutiful {payload : Payload} {phase : Phase}
    (there : e.tasks[k]?.join = some (.respond i payload phase))
    (suits : (Task.respond i payload phase).Suits e.connection) :
    Dutiful k i e (e.stepRespond k i payload phase).1 := by
  unfold stepRespond
  dsimp only
  split
  · exact giveUpJob_dutiful _ _ _ _ _ _
  · exact stepJob_dutiful there suits _ _ (reportCall_rests e _ _).connection (fun _ => suits)
      fun result => .ends (.single (.respond result) rfl suits.1 suits.2 trivial)
        (e.join_setTask k)

/-! ### Items -/

theorem pullInbound_pulls (sound : e.connection.Sound) (placed : i < e.connection.streams.size)
    (reports : Bool) : Pulls i e.connection (e.pullInbound i reports).2.connection := by
  have outbound : (Exchange.Move.poll.apply (e.connection.stream i)).1.closed.outbound =
      (e.connection.stream i).closed.outbound := by
    obtain ⟨inbox, consumer, eq, _⟩ := (e.connection.stream i).poll_eq
    rw [Exchange.Move.apply, eq]
  rw [(e.pullInbound_same i reports).1]
  exact Pulls.move (m := .poll) sound placed rfl trivial trivial trivial outbound

/-- A responder does not want the items of its peer any more. -/
theorem dropInbound_pulls (sound : e.connection.Sound) (placed : i < e.connection.streams.size)
    (responder : (e.connection.stream i).kind.isRequester = false) :
    Pulls i e.connection (e.dropInbound i).connection := by
  refine Pulls.move (m := .dropConsumer) sound placed rfl trivial trivial trivial ?_
  rw [Exchange.Move.apply]
  by_cases retired : (e.connection.stream i).Retired
  · rw [Exchange.dropConsumer_retired retired]
  · rw [Exchange.dropConsumer_early retired, responder, Exchange.cancelLocally_eq]
    simp

theorem pull_pulls (sound : e.connection.Sound) (placed : i < e.connection.streams.size)
    (own : (e.connection.stream i).kind.isRequester = true → p.intake = .none) :
    Pulls i e.connection (e.pull i p).2.2.connection := by
  cases responder : (e.connection.stream i).kind.isRequester with
  | true => exact .of_same (pull_rests (own responder)).1.connection
  | false =>
    have asked : Pulls i e.connection (e.pullInbound i p.reports).2.connection :=
      pullInbound_pulls sound placed p.reports
    have source : Pulls i e.connection (e.pullSource p.tail).2.2.connection :=
      .of_same (e.pullSource_rests _).connection
    have dropped (f : Endpoint) (pulls : Pulls i e.connection f.connection) :
        Pulls i e.connection (f.dropInbound i).connection :=
      pulls.trans (dropInbound_pulls (pulls.works.sound sound) (pulls.placed placed)
        (by rw [pulls.stream.kind]; exact responder))
    unfold pull
    split
    · exact .refl i _
    · split
      · exact source
      · exact source
      · exact source
      · exact dropped e (.refl i _)
      · split
        next eq => rw [eq] at asked; exact asked
        next eq => rw [eq] at asked; exact asked
        next f eq => rw [eq] at asked; exact dropped f asked
      · split
        next eq => rw [eq] at asked; exact asked
        next eq => rw [eq] at asked; exact asked
        next f eq => rw [eq] at asked; exact dropped (f.report .receivedEnd) asked

/-! ### Sequences -/

/-- A task that is over leaves its slot empty. -/
theorem join_finishProducing (e : Endpoint) (k i : Nat) (p : Producer) :
    (e.finishProducing k i p).1.tasks[k]?.join = none := by
  have dropped : Stirs (some i) none none (e.setTask k none) (e.finishProducing k i p).1 :=
    dropProducer_stirs _ i p
  rw [dropped.tasks]
  exact e.join_setTask k

/-- A task that is over. -/
theorem finishProducing_dutiful (works : e.connection.Works i f.connection)
    (placed : i < e.connection.streams.size) (p : Producer) :
    Dutiful k i e (f.finishProducing k i p).1 := by
  have dropped : ((f.setTask k none).dropSource p.tail).connection = f.connection :=
    (dropSource_rests _ p.tail).connection
  refine .ends ?_ (f.join_finishProducing k i p)
  unfold finishProducing dropProducer
  dsimp only
  split
  · rw [dropped]
    exact works
  · rw [dropped]
    exact works
  · refine works.trans ?_
    rw [dropInbound, mapConnection, dropped]
    exact .single .dropConsumer rfl (works.size ▸ placed) trivial trivial

/-- The connection goes on, and the stream was not told to stop. -/
theorem goes_of_isStopped (goes : ¬ e.connection.isStopped i = true) :
    (e.connection.stream i).stopped = false := by
  unfold Connection.isStopped at goes
  simp only [Bool.or_eq_true, not_or, Bool.not_eq_true] at goes
  exact goes.2

theorem stepSend_dutiful {held : Option Payload} (sound : e.connection.Sound)
    (there : e.tasks[k]?.join = some (.send i p held))
    (suits : (Task.send i p held).Suits e.connection) :
    Dutiful k i e (e.stepSend k i p held).1 := by
  obtain ⟨placed, sends, tended, own, told⟩ := suits
  -- The task still suits its stream, whatever it holds then.
  have suits' {d : Connection} (pulls : Pulls i e.connection d) (q : Producer)
      (held' : Option Payload)
      (own' : (e.connection.stream i).kind = .requesterChannel → q.intake = .none) :
      (Task.send i q held').Suits d :=
    ⟨pulls.placed placed, sends.extends pulls.stream.toExtends,
      pulls.stream.tends sends.1 tended, fun kind => own' (pulls.stream.kind.symm.trans kind),
      fun responder => pulls.stream.started (told (pulls.stream.kind ▸ responder))⟩
  unfold stepSend
  split
  · exact finishProducing_dutiful .still placed p
  next goes =>
    have goes := goes_of_isStopped goes
    have isOpen : (e.connection.stream i).closed.outbound = false :=
      Bool.eq_false_iff.mpr fun closed => by
        rw [tended closed] at goes
        contradiction
    split
    next payload =>
      have outbound :
          ((Exchange.Move.offer payload).apply (e.connection.stream i)).1.closed.outbound =
            (e.connection.stream i).closed.outbound := by
        obtain ⟨limiter, eq⟩ := (e.connection.stream i).offer_eq payload
        rw [Exchange.Move.apply, eq]
      have offered : Pulls i e.connection
          (e.connection.stepWriting i ((Exchange.Move.offer payload).apply ·)) :=
        .move (m := .offer payload) sound placed rfl sends trivial trivial outbound
      dsimp only
      split
      · exact .goes offered.works (suits' offered p none own)
      · exact .waits offered.works rfl there (suits' offered p _ own)
      · exact finishProducing_dutiful offered.works placed p
    · have pulls : Pulls i e.connection (e.pull i p).2.2.connection :=
        pull_pulls sound placed fun requester => own <| by
          have credit := sends.1
          cases kind : (e.connection.stream i).kind <;> rw [kind] at requester credit <;>
            first | rfl | contradiction
      have own' : (e.connection.stream i).kind = .requesterChannel →
          (e.pull i p).2.1.intake = .none := fun kind => (pull_rests (own kind)).2
      have placed' := pulls.placed placed
      have sends' := sends.extends pulls.stream.toExtends
      dsimp only
      split
      · exact .goes pulls.works (suits' pulls _ none own')
      · exact .goes pulls.works (suits' pulls _ none own')
      · exact .goes pulls.works (suits' pulls _ _ own')
      next failure _ =>
        exact finishProducing_dutiful (pulls.works.move (.failLocally failure) rfl placed' sends'
          (pulls.outbound.trans isOpen)) placed _
      · exact finishProducing_dutiful (pulls.works.move .complete rfl placed' sends' trivial)
          placed _

theorem stepOpen_dutiful {batch : UInt32} (sound : e.connection.Sound)
    (suits : (Task.openChannel i batch p).Suits e.connection) :
    Dutiful k i e (e.stepOpen k i batch p).1 := by
  obtain ⟨placed, unopened, tended, refuses⟩ := suits
  unfold stepOpen
  split
  · exact finishProducing_dutiful .still placed p
  next goes =>
    have goes := goes_of_isStopped goes
    obtain ⟨rests, refuses'⟩ := pull_rests (e := e) (i := i) refuses
    have connection := rests.connection
    have pulled : e.connection.Works i (e.pull i p).2.2.connection := by
      rw [connection]
      exact .still
    have moved (m : Exchange.Move) (own : m.isLocal = true)
        (fits : m.Fits (e.connection.stream i)) (fair : m.IsFair (e.connection.stream i)) :
        e.connection.Works i ((e.pull i p).2.2.connection.stepWriting i (m.apply ·)) :=
      pulled.move m own (connection ▸ placed) (connection ▸ fits) (connection ▸ fair)
    have waits : (Task.openChannel i batch (e.pull i p).2.1).Suits (e.pull i p).2.2.connection := by
      rw [connection]
      exact ⟨placed, unopened, tended, refuses'⟩
    dsimp only
    split
    · exact .goes pulled waits
    · exact .goes pulled waits
    next payload _ =>
      have opened := moved (.openChannel batch payload) rfl ⟨unopened, goes⟩ trivial
      split
      next sent =>
        have suits := Exchange.openChannel_sent (sound.coherent i placed) unopened goes
          (by rw [← connection]; exact sent)
        have stream : ((e.pull i p).2.2.connection.stepWriting i
            ((Exchange.Move.openChannel batch payload).apply ·)).stream i =
            ((e.connection.stream i).openChannel batch payload).2.1 := by
          rw [connection, Connection.stepWriting, Connection.stream_commit _ placed, if_pos rfl]
          rfl
        have kind := ((opened.later sound).streams i placed).kind.trans unopened.1
        refine .goes opened ⟨opened.size ▸ placed, ?_, ?_, fun _ => refuses', ?_⟩
        · exact stream ▸ suits.1
        · exact stream ▸ suits.2
        · have requester := congrArg StreamKind.isRequester kind
          exact fun responder => absurd (requester.symm.trans responder) (by decide)
      · exact finishProducing_dutiful opened placed _
    next failure _ =>
      exact finishProducing_dutiful (moved (.failUnopened failure) rfl unopened trivial) placed _
    · exact finishProducing_dutiful
        (moved (.openSilentChannel batch) rfl ⟨unopened, goes⟩ trivial) placed _

/-! ### Any task -/

/-- Where a task sends, no other does, and nobody waits for an answer. -/
theorem Orderly.only {task : Task} (h : e.Orderly) (there : e.tasks[k]?.join = some task)
    (sends : task.producing? = some i) : e.Lone i ∧
      ∀ (j : Nat) (u : Task), j ≠ k → e.tasks[j]?.join = some u → u.producing? ≠ some i := by
  obtain ⟨_, credit, told⟩ := (h.tasks k task there).producing sends
  refine ⟨fun _ => ⟨fun kind => ?_, fun responder _ => told responder⟩,
    fun j u other found sends' => other (h.single j k u task i found there sends' sends)⟩
  rw [kind] at credit
  contradiction

/-- A task does one step. -/
theorem stepWork_orderly (h : e.Orderly) (sound : e.connection.Sound) (k : Nat) :
    (∃ i, e.connection.Works i (e.stepWork k).1.connection) ∧ (e.stepWork k).1.Orderly := by
  -- Its turn is one on a stream that no other task sends on.
  have turn {task : Task} (i : Nat) (there : e.tasks[k]?.join = some task)
      (alone : e.Lone i ∧ ∀ (j : Nat) (u : Task), j ≠ k → e.tasks[j]?.join = some u →
        u.producing? ≠ some i)
      (dutiful : Dutiful k i e (e.stepWork k).1) :
      (∃ i, e.connection.Works i (e.stepWork k).1.connection) ∧ (e.stepWork k).1.Orderly :=
    ⟨⟨i, dutiful.works⟩,
      h.steps sound there (stepWork_steps there) dutiful alone.1 alone.2⟩
  -- A job that is for no stream, or for one on which nothing is sent, has its turn on none.
  have none : e.Lone e.connection.streams.size ∧ ∀ (j : Nat) (u : Task), j ≠ k →
      e.tasks[j]?.join = some u → u.producing? ≠ some e.connection.streams.size :=
    ⟨fun bound => absurd bound (Nat.lt_irrefl _), fun j u _ found sends =>
      Nat.lt_irrefl _ ((h.tasks j u found).producing sends).1⟩
  cases there : e.tasks[k]?.join with
  | none =>
    rw [stepWork_none there]
    exact ⟨⟨0, .still⟩, h⟩
  | some task =>
    have suits := h.tasks k task there
    cases task with
    | push metadata phase =>
      refine turn _ there none ?_
      rw [stepWork, there]
      exact stepPush_dutiful there _
    | forget i payload phase =>
      refine turn _ there none ?_
      rw [stepWork, there]
      exact stepForget_dutiful there _
    | respond i payload phase =>
      refine turn i there ⟨fun _ => ?_, fun j u _ found sends => ?_⟩ ?_
      · rw [suits.2]
        exact ⟨by decide, fun _ credit => by contradiction⟩
      · have credit := ((h.tasks j u found).producing sends).2.1
        rw [suits.2] at credit
        contradiction
      · rw [stepWork, there]
        exact stepRespond_dutiful there suits
    | openChannel i batch p =>
      refine turn i there (h.only there rfl) ?_
      rw [stepWork, there]
      exact stepOpen_dutiful sound suits
    | send i p held =>
      refine turn i there (h.only there rfl) ?_
      rw [stepWork, there]
      exact stepSend_dutiful sound there suits

end Endpoint
end StreamMux
