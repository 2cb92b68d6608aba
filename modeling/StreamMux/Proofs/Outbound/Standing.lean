import StreamMux.Proofs.Connection.Ownership
import StreamMux.Proofs.Connection.Terminal
import StreamMux.Proofs.Outbound.Lanes

/-!
# An endpoint with any peer

Two endpoints that are joined keep each other in good order. An endpoint also does so by itself,
whatever its peer writes: all that it does is a history of its connection, and everyone's stream
stays as expected (`Endpoint.Standing.afterAll`). So all streams that this end asked for are over
when the connection is, and then nobody waits: whoever asks for an answer or for an item is told at
once (`Endpoint.Standing.told`).
-/
namespace StreamMux

/-! ### Histories -/

namespace Connection

variable {c₀ c d : Connection} {i : Nat}

/-- What can come of a connection, whatever is done to it. -/
def Evolves (c d : Connection) : Prop := ∃ past, History c past d

theorem Evolves.refl (c : Connection) : c.Evolves c := ⟨[], .start⟩

theorem Evolves.step {deed : Deed} (h : c₀.Evolves c) (does : Does c deed d) : c₀.Evolves d := by
  obtain ⟨past, history⟩ := h
  exact ⟨_, history.step does⟩

theorem Evolves.works (h : c₀.Evolves c) (works : c.Works i d) : c₀.Evolves d := by
  induction works with
  | still => exact h
  | move works m own placed fits fair ih => exact ih.step (.act _ i m own placed fits)

theorem Evolves.acted (h : c₀.Evolves c) (acted : c.Acted d) : c₀.Evolves d := by
  cases acted with
  | works i works => exact h.works works
  | acts i j before acts after =>
    refine Evolves.works ?_ after
    have h := h.works before
    cases acts with
    | asks made => exact h.step (.asks made)
    | serves made => exact h.step (.serves made)
    | moves k m own placed fits fair => exact h.step (.act _ k m own placed fits)

theorem Evolves.seated {side : Side} (h : c.Evolves d) (start : c.Seated side) :
    d.Seated side := by
  obtain ⟨past, history⟩ := h
  induction history with
  | start => exact start
  | step _ does ih => exact does.seated ih

end Connection

/-! ### Good order -/

namespace Endpoint

/-- The endpoint's connection was once `c₀`, and everyone's stream is as expected. -/
structure Standing (c₀ : Connection) (e : Endpoint) : Prop where
  start : c₀.Sound
  evolves : c₀.Evolves e.connection
  orderly : e.Orderly

variable {c₀ : Connection} {e f : Endpoint} {n : String} {i : Nat}

namespace Standing

theorem sound (h : e.Standing c₀) : e.connection.Sound := by
  obtain ⟨past, history⟩ := h.evolves
  exact history.sound h.start

theorem of_still (h : e.Standing c₀) (still : e.Still f) : f.Standing c₀ :=
  ⟨h.start, still.connection ▸ h.evolves, h.orderly.of_still still⟩

theorem acted (h : e.Standing c₀) (acted : e.connection.Acted f.connection ∧ f.Orderly) :
    f.Standing c₀ :=
  ⟨h.start, h.evolves.acted acted.1, acted.2⟩

/-- The connection ends, or a frame of its own is queued. -/
theorem serves (h : e.Standing c₀) (serves : e.connection.Serves f.connection)
    (requests : f.requests = e.requests) (kept : f.kept = e.kept) (tasks : f.tasks = e.tasks) :
    f.Standing c₀ :=
  h.acted (serves_orderly h.orderly h.sound serves requests kept tasks)

theorem stepWrite (h : e.Standing c₀) (out : Pipe) : (e.stepWrite out).1.Standing c₀ := by
  unfold Endpoint.stepWrite
  split
  · exact h
  · exact h.of_still ⟨rfl, rfl, rfl, rfl, rfl⟩
  next frame queue taken =>
    have dequeued : (e.mapConnection ({ · with queue })).Standing c₀ := by
      have eq : e.connection.queue.dequeue.2 = queue := by rw [taken]
      subst eq
      exact ⟨h.start, h.evolves.step (.dequeues _), h.orderly.of_streams rfl rfl rfl rfl⟩
    dsimp only
    split
    · exact dequeued
    · split
      · exact dequeued.of_still ⟨rfl, rfl, rfl, rfl, rfl⟩
      next cause _ => exact dequeued.serves (.teardown cause rfl) rfl rfl rfl

theorem stepRead (h : e.Standing c₀) (inp : Pipe) : (e.stepRead inp).1.Standing c₀ := by
  unfold Endpoint.stepRead
  split
  · exact h.of_still ⟨rfl, rfl, rfl, rfl, rfl⟩
  next live =>
    split
    · exact h
    · exact h.serves (.teardown .closed rfl) rfl rfl rfl
    · split
      next frame _ =>
        refine ⟨h.start, ?_, handle_orderly h.orderly h.sound frame⟩
        rw [connection_handle]
        exact h.evolves.step (.handles _ _ _ frame)
      next problem _ =>
        split
        · exact h
        · exact h.serves (.terminate _ rfl) rfl rfl rfl

theorem after (h : e.Standing c₀) (act : Act) : (e.after act).Standing c₀ := by
  cases act with
  | write out => exact h.stepWrite out
  | read inp => exact h.stepRead inp
  | watch => exact h.acted (stepWatch_orderly h.orderly h.sound)
  | work k =>
    obtain ⟨⟨i, works⟩, orderly⟩ := stepWork_orderly h.orderly h.sound k
    exact ⟨h.start, h.evolves.works works, orderly⟩
  | call call => exact h.acted (perform_orderly h.orderly h.sound call)
  | time clock => exact h.of_still ⟨rfl, rfl, rfl, rfl, rfl⟩
  | turn application => exact ⟨h.start, h.evolves, h.orderly.of_streams rfl rfl rfl rfl⟩

/-- Whatever an endpoint does, and whatever its peer writes, it stays in good order. -/
theorem afterAll (h : e.Standing c₀) (acts : List Act) : (e.afterAll acts).Standing c₀ := by
  induction acts generalizing e with
  | nil => exact h
  | cons act acts ih => exact ih (h.after act)

end Standing
end Endpoint

theorem World.newEndpoint_standing (side : Side) (config : ConnectionConfig) (setup : Option Setup)
    (a : Application) :
    (newEndpoint side config setup a).Standing (Connection.new side config setup 0) :=
  ⟨Connection.sound_new _ _ _ _, .refl _, newEndpoint_orderly side config setup a⟩

/-! ### Nobody waits -/

/-- Who asked has to come back later. -/
def Reply.waits : Reply → Bool
  | .answer .pending | .items _ .pending _ => true
  | _ => false

/-- Nobody takes the items, or no more of them can come in. -/
def Exchange.Ceased (s : Exchange) : Prop := s.consumer ≠ none → s.inboxOpen = false

theorem Exchange.Ceased.poll {s : Exchange} (h : s.Ceased) :
    s.poll.1 ≠ .pending ∧ s.poll.2.1.Ceased := by
  unfold Exchange.poll
  split
  · exact ⟨nofun, h⟩
  next consumer waits =>
    have ended : s.inboxOpen = false := h (by simp [waits])
    split
    · exact ⟨nofun, h⟩
    · split
      · exact ⟨nofun, fun _ => ended⟩
      · exact ⟨nofun, fun _ => ended⟩
      · rw [if_pos (by simp [ended])]
        exact ⟨nofun, fun _ => ended⟩

/-- A connection that is over refuses new streams. -/
theorem Connection.register_over {c : Connection} (halted : c.isActive = false)
    (make : UInt32 → Exchange) : ∃ cause, c.register make = .error (.failed cause) := by
  unfold Connection.register
  split
  · exact ⟨_, rfl⟩
  next live =>
    rw [isActive, live] at halted
    contradiction

namespace Endpoint

variable {c₀ : Connection} {e f : Endpoint} {n : String} {i : Nat}

/-- Whoever asks for the next item of a request is told at once. -/
structure Tells (e : Endpoint) (n : String) : Prop where
  halted : e.connection.isActive = false
  opened : ∀ i, e.request? n = some (.opened i) →
    i < e.connection.streams.size ∧ (e.connection.stream i).Ceased

/-- What is opened too late is refused. -/
theorem open_over (halted : e.connection.isActive = false) (opening : Opening) (batch : UInt32) :
    ∃ cause f, e.open opening batch = (.error (.failed cause), f) ∧
      f.connection = e.connection := by
  cases opening with
  | stream payload =>
    obtain ⟨cause, refused⟩ := Connection.register_over halted (.requesterStream batch)
    have refused : e.connection.requestStream batch payload = .error (.failed cause) := by
      rw [Connection.requestStream, refused]
      rfl
    refine ⟨cause, e, ?_, rfl⟩
    unfold «open»
    dsimp only
    rw [refused]
  | channel source =>
    obtain ⟨cause, refused⟩ := Connection.register_over halted (.requesterChannel batch)
    refine ⟨cause, e.dropSource source, ?_, (dropSource_rests e source).connection⟩
    unfold «open» Connection.requestChannel
    dsimp only
    rw [refused]

theorem Tells.pollItem (h : e.Tells n) :
    (e.pollItem n).1 ≠ .pending ∧ (e.pollItem n).2.Tells n := by
  rcases e.pollItem_cases n with ⟨i, found⟩ | ⟨opening, batch, found⟩ | idle
  · obtain ⟨placed, ceased⟩ := h.opened i found
    obtain ⟨told, ceased⟩ := ceased.poll
    rw [pollItem_opened found, pullInbound_eq]
    refine ⟨told, h.halted, fun j again => ?_⟩
    cases found.symm.trans again
    dsimp only
    rw [Connection.size_commit, Connection.stream_commit _ placed, if_pos rfl]
    exact ⟨placed, ceased⟩
  · obtain ⟨cause, f, made, connection⟩ := open_over h.halted opening batch
    rw [pollItem_unmade found made]
    refine ⟨by simp, (congrArg Connection.isActive connection).trans h.halted, fun i again => ?_⟩
    rw [request?_setRequest_same] at again
    cases again
  · rw [idle]
    exact ⟨by simp, h⟩

theorem Tells.takeItems (limit : Nat) {e : Endpoint} (h : e.Tells n) :
    (e.takeItems n limit).2.1 ≠ .pending := by
  induction limit generalizing e with
  | zero => simp [Endpoint.takeItems]
  | succ limit ih =>
    obtain ⟨told, later⟩ := h.pollItem
    unfold Endpoint.takeItems
    generalize e.pollItem n = result at told later
    obtain ⟨_ | _ | item, f⟩ := result
    · exact absurd rfl told
    · simp
    · exact ih later

/-- After the end of the connection nobody waits for an answer or an item. -/
theorem Standing.told (h : e.Standing c₀) (live : c₀.isActive = true)
    (halted : e.connection.isActive = false) (n : String) (limit : Nat) :
    (e.perform (.poll n limit)).1.waits = false := by
  obtain ⟨past, history⟩ := h.evolves
  have isOver {i : Nat} (placed : i < e.connection.streams.size)
      (own : (e.connection.stream i).kind.isRequester = true) :
      (e.connection.stream i).closed.inbound = true :=
    (Bool.and_eq_true_iff.mp (history.isOver h.start live halted placed own)).1
  have tells : e.Tells n := by
    refine ⟨halted, fun i found => ?_⟩
    obtain ⟨placed, own⟩ := h.orderly.requests n _ found
    refine ⟨placed, fun takes => Bool.eq_false_iff.mpr fun isOpen => ?_⟩
    have goes := (h.sound.coherent i placed).inbox isOpen takes
    rw [isOver placed own] at goes
    contradiction
  change (e.pollNamed n limit).1.waits = false
  unfold pollNamed
  split
  · rfl
  next i found =>
    obtain ⟨placed, kind, answerable⟩ := h.orderly.requests n _ found
    unfold pollResponse Connection.pollResponse
    dsimp only
    cases answer : (e.connection.stream i).answer with
    | none => exact absurd answer (answerable.receptive.asked kind)
    | awaited =>
      have goes := answerable.isOpen answer
      rw [isOver placed (by rw [kind]; rfl)] at goes
      contradiction
    | given result => rfl
  · have told := tells.takeItems limit
    dsimp only
    cases pause : (e.takeItems n limit).2.1 with
    | pending => exact absurd pause told
    | ended => rfl
    | enough => rfl

end Endpoint
end StreamMux
