import StreamMux.Network.Link
import StreamMux.Server.Hosting

/-!
# The books of a server

The numbers that a server keeps of its connections agree with the tasks of these connections, after
whatever has happened in whatever order (`Hosting.accounted`): as many connections are active as
there are tasks that are not over, never more than the settings allow; the others that were taken on
have ended; whoever was not taken on was turned away, and that only while the server was full; a
failure is counted once, when its task is over; and the room that a task leaves is there for the
next connection. Behind it is what an event can lead to (`Hosting.Steps`), each with the books in
order afterwards (`Hosting.Steps.books`), and behind that what becomes of one task: one that is over
stays so, and only such a task has failed (`Handling.meet_of_over`, `Handling.hasFailed_of_open`).

A task that hands over to a connection, or turns its peer away, does so as `World.serve` does
(`World.serve_agrees`), and the peer is told the code of the error that is counted
(`Handling.honest_run`).

Source: `Server.step`, `Handling.meet`, `Hosting.step`, `World.serve`.
-/
namespace StreamMux

/-! ### The task of one connection -/

namespace Handling

variable {settings : Settings} {handling : Handling}

/-- Only a task that is over can have failed. -/
theorem hasFailed_of_open (goesOn : handling.isOver = false) : handling.hasFailed = false := by
  cases handling with
  | finished => cases goesOn
  | awaiting | asking | leaving | serving => rfl

/-- Nothing happens to a task that is over. -/
theorem meet_of_over (finished : handling.isOver = true) (what : Occurrence) :
    handling.meet settings what = handling := by
  cases handling with
  | finished => cases what <;> rfl
  | awaiting | asking | leaving | serving => cases finished

/-- Unless it comes to an end just now, a task stands where it stood as far as the books go. -/
theorem meet_stands {what : Occurrence}
    (stands : ¬ ((handling.meet settings what).isOver && !handling.isOver) = true) :
    (handling.meet settings what).isOver = handling.isOver ∧
      (handling.meet settings what).hasFailed = handling.hasFailed := by
  cases before : handling.isOver with
  | true =>
    rw [meet_of_over before]
    exact ⟨before, rfl⟩
  | false =>
    have goesOn : (handling.meet settings what).isOver = false := by simpa [before] using stands
    exact ⟨goesOn, by rw [hasFailed_of_open goesOn, hasFailed_of_open before]⟩

end Handling

/-! ### What the peer is told -/

/-- The peer is told nothing but the code of the error, if it is told anything. -/
def Parting.IsHonest (p : Parting) : Prop :=
  ∀ cause, p.told = some cause → ∃ error, p.error = some error ∧ cause.code = error.code

namespace Handling

variable {settings : Settings} {handling : Handling}

/-- Should the peer be turned away, or have been, then honestly. -/
def IsHonest : Handling → Prop
  | leaving parting | finished parting => parting.IsHonest
  | _ => True

theorem honest_lateness (limit : Duration) : (lateness limit).IsHonest := by
  rintro _ ⟨⟩
  exact ⟨_, rfl, rfl⟩

theorem honest_refusal (cause : Failure) : (refusal cause).IsHonest := by
  rintro _ ⟨⟩
  exact ⟨_, rfl, rfl⟩

theorem honest_silent (error : Option ServerError) :
    ({ error } : Parting).IsHonest := nofun

theorem honest_receive (first : ByteArray) : (receive first).IsHonest := by
  rw [receive]
  split
  · trivial
  · exact honest_refusal _

theorem IsHonest.meet (honest : handling.IsHonest) (what : Occurrence) :
    (handling.meet settings what).IsHonest := by
  fun_cases Handling.meet settings handling what with
  | case1 | case2 | case3 | case9 => exact honest_silent _
  | case4 first => exact honest_receive first
  | case5 => exact honest_lateness _
  | case6 => trivial
  | case7 => exact honest_refusal _
  | case8 | case10 => exact honest

/-- What becomes of a task in the course of time. -/
def run (settings : Settings) (handling : Handling) (course : List Occurrence) : Handling :=
  course.foldl (meet settings) handling

/-- What a peer is told when it is turned away has the code of the error its task fails with. -/
theorem honest_run (settings : Settings) (course : List Occurrence) :
    (run settings awaiting course).IsHonest := by
  -- By induction on what happens, which may find the task at any point.
  suffices kept : ∀ handling : Handling, handling.IsHonest → (run settings handling course).IsHonest
    from kept awaiting trivial
  induction course with
  | nil => exact fun _ honest => honest
  | cons what course ih => exact fun _ honest => ih _ (honest.meet what)

/-- What becomes of a task that asked the acceptor. -/
def consult (acceptor : Acceptor) (settings : Settings) : Handling → Handling
  | asking setup => (asking setup).meet settings (.answered (acceptor setup))
  | handling => handling

/-- The first frame and the answer of the acceptor together are the admission of the peer. -/
theorem consult_receive (acceptor : Acceptor) (settings : Settings) (first : ByteArray) :
    (receive first).consult acceptor settings =
      match admission acceptor first with
      | .ok (setup, application) =>
        serving (setup.connectionConfig settings.prefetch) application
      | .error cause => leaving (refusal cause) := by
  rw [receive, admission]
  cases validateSetup first with
  | error cause => rfl
  | ok setup =>
    simp only [consult, bind, Except.bind]
    cases acceptor setup <;> rfl

end Handling

/-- The far end of a connection is served, or turned away, as the task of the connection says. -/
theorem World.serve_agrees (w : World) (acceptor : Acceptor) (settings : Settings)
    {first : ByteArray} {outgoing : Pipe}
    (read : w.outgoing.read = (.ready (some first), outgoing)) :
    w.serve acceptor settings =
      match (Handling.receive first).consult acceptor settings with
      | .serving config application =>
        { w with
          outgoing
          far := some { newEndpoint .server config none application with clock := w.clock } }
      | .leaving { told := some cause, .. } => { w with outgoing }.turnAway cause
      | _ => w := by
  rw [Handling.consult_receive]
  cases decision : admission acceptor first with
  | ok admitted => simp only [World.serve, read, decision]
  | error cause => simp only [World.serve, read, decision, Handling.refusal]

/-! ### Counting tasks -/

/-- Where one element is replaced, it alone counts. -/
theorem countP_revised {α : Type} (p : α → Bool) {l : List α} {i : Nat} {before : α}
    (found : l[i]? = some before) (after : α) :
    (l.set i after).countP p + (p before).toNat = l.countP p + (p after).toNat := by
  obtain ⟨bound, rfl⟩ := List.getElem?_eq_some_iff.mp found
  have counted : (p l[i]).toNat ≤ l.countP p := by
    cases holds : p l[i] with
    | false => exact Nat.zero_le _
    | true => exact List.countP_pos_iff.mpr ⟨l[i], List.getElem_mem bound, holds⟩
  rw [List.countP_set bound]
  generalize l.countP p = count at counted ⊢
  generalize p l[i] = held at counted ⊢
  cases held <;> cases p after <;>
    simp only [Bool.toNat_true, Bool.toNat_false, Bool.false_eq_true, if_true, if_false]
      at counted ⊢ <;>
    omega

/-- The task is not over. -/
def Visit.isOpen (v : Visit) : Bool := !v.handling.isOver

/-- The task is over, and failed. -/
def Visit.hasFailed (v : Visit) : Bool := v.handling.hasFailed

/-- The task with a number is not over. -/
def GoesOn (visits : List Visit) (task : Nat) : Prop :=
  ∃ visit, visits[task]? = some visit ∧ visit.isOpen = true

section Tasks

variable {visits : List Visit} {task other : Nat} {before after : Visit}

theorem goesOn_snoc (isOpen : after.isOpen = true) :
    GoesOn (visits ++ [after]) task ↔ task = visits.length ∨ GoesOn visits task := by
  simp only [GoesOn, List.getElem?_append, List.getElem?_singleton]
  split
  · rename_i inside
    rw [or_iff_right (Nat.ne_of_lt inside)]
  · rename_i beyond
    have none : visits[task]? = none := List.getElem?_eq_none (Nat.le_of_not_lt beyond)
    rw [none]
    constructor
    · rintro ⟨visit, found, -⟩
      split at found
      · exact .inl (by omega)
      · cases found
    · rintro (rfl | ⟨_, found, _⟩)
      · exact ⟨after, by simp, isOpen⟩
      · cases found

theorem goesOn_set (found : visits[task]? = some before) :
    GoesOn (visits.set task after) other ↔
      if other = task then after.isOpen = true else GoesOn visits other := by
  obtain ⟨inside, -⟩ := List.getElem?_eq_some_iff.mp found
  split
  · rename_i same
    subst same
    simp only [GoesOn, List.getElem?_set_self inside, Option.some.injEq, exists_eq_left']
  · rename_i different
    simp only [GoesOn, List.getElem?_set_ne (Ne.symm different)]

theorem goesOn_tell : GoesOn (visits.map Visit.tell) task ↔ GoesOn visits task := by
  rw [GoesOn, GoesOn, List.getElem?_map]
  cases visits[task]? with
  | none => simp
  | some visit => simp [Visit.isOpen, Visit.tell]

theorem hasFailed_of_isOpen (isOpen : before.isOpen = true) : before.hasFailed = false :=
  Handling.hasFailed_of_open ((Bool.not_eq_true' _).mp isOpen)

end Tasks

/-- The books of the accept loop agree with the tasks. -/
structure Server.Books (s : Server) (visits : List Visit) : Prop where
  distinct : s.tasks.Nodup
  tasks : ∀ task, task ∈ s.tasks ↔ GoesOn visits task
  running : s.tasks.length = visits.countP Visit.isOpen
  room : s.tasks.length ≤ s.settings.maxConnections
  active : s.tally.active = s.tasks.length
  total : s.tally.total = visits.length
  errors : s.tally.errors = visits.countP Visit.hasFailed

namespace Server.Books

variable {s : Server} {visits : List Visit} {task : Nat} {before after : Visit}

theorem opening (settings : Settings) : Books { settings } [] where
  distinct := List.nodup_nil
  tasks _ := ⟨nofun, fun ⟨_, found, _⟩ => nomatch found⟩
  running := rfl
  room := Nat.zero_le _
  active := rfl
  total := rfl
  errors := rfl

theorem isFull_iff (books : s.Books visits) :
    s.isFull = true ↔ visits.countP Visit.isOpen = s.settings.maxConnections := by
  have room := books.room
  rw [isFull, decide_eq_true_iff, books.active, ← books.running]
  omega

/-- A connection is turned away. -/
theorem turnAway (books : s.Books visits) (full : s.isFull = true) : s.accept.Books visits := by
  rw [accept, if_pos full]
  exact { books with }

/-- A connection is taken on. -/
theorem accept (books : s.Books visits) (room : s.isFull = false) :
    s.accept.Books (visits ++ [({} : Visit)]) := by
  have fewer : s.tasks.length < s.settings.maxConnections := by
    rw [isFull, decide_eq_false_iff_not, books.active] at room
    exact Nat.lt_of_not_le room
  have unused : s.tally.total ∉ s.tasks := by
    rw [books.tasks, books.total]
    rintro ⟨visit, found, -⟩
    simp at found
  rw [Server.accept, room, if_neg Bool.false_ne_true]
  constructor
  case distinct => exact List.nodup_cons.mpr ⟨unused, books.distinct⟩
  case tasks =>
    intro task
    rw [List.mem_cons, books.tasks, books.total, goesOn_snoc rfl]
  case running =>
    rw [List.countP_append, ← books.running]
    rfl
  case room => exact fewer
  case active => exact congrArg (· + 1) books.active
  case total => simp [books.total]
  case errors =>
    rw [List.countP_append, ← books.errors]
    rfl

/-- A task goes on. -/
theorem stands (books : s.Books visits) (found : visits[task]? = some before)
    (alike : after.isOpen = before.isOpen) (failed : after.hasFailed = before.hasFailed) :
    s.Books (visits.set task after) := by
  have openings := countP_revised Visit.isOpen found after
  have failures := countP_revised Visit.hasFailed found after
  rw [alike] at openings
  rw [failed] at failures
  refine { books with tasks := ?_, running := ?_, total := ?_, errors := ?_ }
  · intro other
    rw [books.tasks, goesOn_set found]
    split
    · rename_i same
      rw [same, alike]
      simp [GoesOn, found]
    · rfl
  · exact books.running.trans (Nat.add_right_cancel openings).symm
  · exact books.total.trans List.length_set.symm
  · exact books.errors.trans (Nat.add_right_cancel failures).symm

/-- A task comes to an end. -/
theorem finish (books : s.Books visits) (found : visits[task]? = some before)
    (goesOn : before.isOpen = true) (finished : after.isOpen = false) :
    (s.finish task after.hasFailed).Books (visits.set task after) := by
  have member : task ∈ s.tasks := (books.tasks task).mpr ⟨before, found, goesOn⟩
  -- The task is on the list, so it was counted, and the numbers can go down by one.
  have shorter : (s.tasks.erase task).length + 1 = s.tasks.length := by
    have := List.length_erase_of_mem member
    have := List.length_pos_of_mem member
    omega
  have one : (visits.set task after).countP Visit.isOpen + 1 = visits.countP Visit.isOpen := by
    simpa [goesOn, finished] using countP_revised Visit.isOpen found after
  have counted : (visits.set task after).countP Visit.hasFailed =
      visits.countP Visit.hasFailed + after.hasFailed.toNat := by
    simpa [hasFailed_of_isOpen goesOn] using countP_revised Visit.hasFailed found after
  have running := books.running
  have active := books.active
  rw [Server.finish, if_pos member]
  constructor
  case distinct => exact books.distinct.erase task
  case tasks =>
    intro other
    rw [books.distinct.mem_erase_iff, books.tasks, goesOn_set found, finished]
    split <;> simp [*]
  case running =>
    show (s.tasks.erase task).length = _
    omega
  case room => exact Nat.le_trans List.length_erase_le books.room
  case active =>
    show s.tally.active - 1 = (s.tasks.erase task).length
    omega
  case total => exact books.total.trans List.length_set.symm
  case errors =>
    rw [counted, ← books.errors]
    cases after.hasFailed <;> rfl

/-- All tasks are told of the shutdown. -/
theorem tell (books : s.Books visits) : s.Books (visits.map Visit.tell) := by
  refine { books with tasks := ?_, running := ?_, total := ?_, errors := ?_ }
  · exact fun task => (books.tasks task).trans goesOn_tell.symm
  · rw [books.running, List.countP_map]
    rfl
  · rw [books.total, List.length_map]
  · rw [books.errors, List.countP_map]
    rfl

end Server.Books

/-! ### What can happen at a server -/

namespace Server

variable {s : Server}

theorem accept_settings (s : Server) : s.accept.settings = s.settings := by
  rw [accept]
  split <;> rfl

theorem accept_sockets (s : Server) :
    s.accept.tally.total + s.accept.tally.rejected = s.tally.total + s.tally.rejected + 1 := by
  rw [accept]
  split
  · rfl
  · exact Nat.add_right_comm _ _ _

theorem accept_rejected (room : s.isFull = false) :
    s.accept.tally.rejected = s.tally.rejected := by
  rw [accept, room]
  rfl

/-- The end of a task is none of the connections that come. -/
theorem finish_keeps (s : Server) (task : Nat) (failed : Bool) :
    (s.finish task failed).settings = s.settings ∧
      (s.finish task failed).tally.total = s.tally.total ∧
      (s.finish task failed).tally.rejected = s.tally.rejected := by
  rw [finish]
  split <;> exact ⟨rfl, rfl, rfl⟩

end Server

namespace Hosting

variable {h next : Hosting} {event : Event}

/-- With this event a connection is taken from the listener: there has to be an accept loop. -/
def takes (h : Hosting) : Event → Bool
  | .arrival => h.server.running
  | _ => false

/-- What an event leads to. -/
inductive Steps (h : Hosting) : Event → Hosting → Prop
  | idle (event : Event) (none : h.takes event = false) : Steps h event h
  | admits (live : h.server.running = true) (room : h.server.isFull = false) :
      Steps h .arrival
        { h with server := h.server.accept, visits := h.visits ++ [({} : Visit)] }
  | refuses (live : h.server.running = true) (full : h.server.isFull = true) :
      Steps h .arrival { h with server := h.server.accept }
  | stands (task : Nat) (what : Handling.Occurrence) (before after : Visit)
      (found : h.visits[task]? = some before) (alike : after.isOpen = before.isOpen)
      (failed : after.hasFailed = before.hasFailed) :
      Steps h (.meets task what) { h with visits := h.visits.set task after }
  | ends (task : Nat) (what : Handling.Occurrence) (before after : Visit)
      (found : h.visits[task]? = some before) (goesOn : before.isOpen = true)
      (finished : after.isOpen = false) :
      Steps h (.meets task what)
        { h with
          server := h.server.finish task after.hasFailed
          visits := h.visits.set task after }
  | called : Steps h .shutdown { h with visits := h.visits.map Visit.tell, called := true }
  | stops : Steps h .stop { h with server.running := false }

theorem steps_meets (h : Hosting) (task : Nat) (what : Handling.Occurrence) :
    h.Steps (.meets task what) (h.meet task what) := by
  rw [meet]
  cases found : h.visits[task]? with
  | none => exact .idle _ rfl
  | some before =>
    let after : Visit := { before with handling := before.handling.meet h.server.settings what }
    dsimp only
    split
    · rename_i ends
      obtain ⟨finished, goesOn⟩ := (Bool.and_eq_true _ _).mp ends
      exact .ends task what before after found goesOn (congrArg not finished)
    · rename_i stands
      obtain ⟨alike, failed⟩ := Handling.meet_stands stands
      exact .stands task what before after found (congrArg not alike) failed

theorem steps (h : Hosting) (event : Event) : h.Steps event (h.step event) := by
  cases event with
  | arrival =>
    rw [step, arrive, Server.step]
    cases live : h.server.running with
    | false => exact .idle _ live
    | true =>
      cases full : h.server.isFull with
      | false => exact .admits live full
      | true => exact .refuses live full
  | lost => exact .idle _ rfl
  | meets task what => exact h.steps_meets task what
  | shutdown => exact .called
  | stop =>
    rw [step]
    split
    · exact .stops
    · exact .idle _ rfl

/-! ### What the books say -/

/-- How many tasks are not over. -/
def running (h : Hosting) : Nat := h.visits.countP Visit.isOpen

/-- How many tasks are over. -/
def ended (h : Hosting) : Nat := h.visits.countP (·.handling.isOver)

/-- How many tasks are over and failed. -/
def failures (h : Hosting) : Nat := h.visits.countP Visit.hasFailed

namespace Steps

/-- Every event leaves the books in order. -/
theorem books (steps : h.Steps event next) (books : h.server.Books h.visits) :
    next.server.Books next.visits := by
  cases steps with
  | idle => exact books
  | admits live room => exact books.accept room
  | refuses live full => exact books.turnAway full
  | stands task what before after found alike failed => exact books.stands found alike failed
  | ends task what before after found goesOn finished => exact books.finish found goesOn finished
  | called => exact books.tell
  | stops => exact { books with }

theorem settings (steps : h.Steps event next) : next.server.settings = h.server.settings := by
  cases steps with
  | admits | refuses => exact h.server.accept_settings
  | ends task what before after => exact (h.server.finish_keeps task after.hasFailed).1
  | idle | stands | called | stops => rfl

/-- Every connection that is taken from the listener is counted, as taken on or as turned away. -/
theorem sockets (steps : h.Steps event next) :
    next.server.tally.total + next.server.tally.rejected =
      h.server.tally.total + h.server.tally.rejected + (h.takes event).toNat := by
  cases steps with
  | idle event none => rw [none, Bool.toNat_false, Nat.add_zero]
  | admits live | refuses live =>
    rw [takes, live]
    exact h.server.accept_sockets
  | ends task what before after =>
    obtain ⟨-, total, rejected⟩ := h.server.finish_keeps task after.hasFailed
    rw [total, rejected]
    rfl
  | stands | called | stops => rfl

/-- Only a connection that comes to a full server is turned away. -/
theorem rejected (steps : h.Steps event next) :
    next.server.tally.rejected = h.server.tally.rejected ∨
      event = .arrival ∧ h.server.isFull = true := by
  cases steps with
  | admits live room => exact .inl (Server.accept_rejected room)
  | refuses live full => exact .inr ⟨rfl, full⟩
  | ends task what before after => exact .inl (h.server.finish_keeps task after.hasFailed).2.2
  | idle | stands | called | stops => exact .inl rfl

/-- A task goes on, or it alone comes to its end. -/
theorem goesOn {task : Nat} (steps : h.Steps event next) (goesOn : GoesOn h.visits task) :
    GoesOn next.visits task ∨ next.running + 1 = h.running := by
  cases steps with
  | admits => exact .inl ((goesOn_snoc rfl).mpr (.inr goesOn))
  | called => exact .inl (goesOn_tell.mpr goesOn)
  | idle | refuses | stops => exact .inl goesOn
  | stands other what before after found alike failed =>
    refine .inl ((goesOn_set found).mpr ?_)
    split
    · rename_i same
      subst same
      obtain ⟨visit, found', isOpen⟩ := goesOn
      cases found.symm.trans found'
      exact alike.trans isOpen
    · exact goesOn
  | ends other what before after found isOpen finished =>
    right
    simpa [running, isOpen, finished] using countP_revised Visit.isOpen found after

end Steps

/-- How many connections are taken from the listener, be it that they are turned away. -/
def taken : Hosting → List Event → Nat
  | _, [] => 0
  | h, event :: events => (h.takes event).toNat + (h.step event).taken events

theorem run_books (books : h.server.Books h.visits) (events : List Event) :
    (h.run events).server.Books (h.run events).visits := by
  induction events generalizing h with
  | nil => exact books
  | cons event events ih => exact ih ((h.steps event).books books)

theorem run_settings (h : Hosting) (events : List Event) :
    (h.run events).server.settings = h.server.settings := by
  induction events generalizing h with
  | nil => rfl
  | cons event events ih => exact (ih (h.step event)).trans (h.steps event).settings

theorem run_sockets (h : Hosting) (events : List Event) :
    (h.run events).server.tally.total + (h.run events).server.tally.rejected =
      h.server.tally.total + h.server.tally.rejected + h.taken events := by
  induction events generalizing h with
  | nil => rfl
  | cons event events ih =>
    rw [taken, ← Nat.add_assoc, ← (h.steps event).sockets]
    exact ih (h.step event)

theorem running_add_ended (h : Hosting) : h.running + h.ended = h.visits.length := by
  have parts := List.length_eq_countP_add_countP Visit.isOpen (l := h.visits)
  simp only [Visit.isOpen, Bool.not_eq_true, Bool.not_eq_false', Bool.decide_eq_true] at parts
  exact parts.symm

/-- With this event the task with a number comes to its end. -/
def Ends (h : Hosting) (event : Event) (task : Nat) : Prop :=
  GoesOn h.visits task ∧
    ∃ visit, (h.step event).visits[task]? = some visit ∧ visit.handling.isOver = true

/-- The end of a task leaves one task less. -/
theorem Ends.running {task : Nat} (ends : h.Ends event task) :
    (h.step event).running + 1 = h.running := by
  obtain ⟨goesOn, visit, found, finished⟩ := ends
  refine ((h.steps event).goesOn goesOn).resolve_left ?_
  rintro ⟨other, found', isOpen⟩
  cases found.symm.trans found'
  simp [Visit.isOpen, finished] at isOpen

/-- A connection is taken on where there is room for it. -/
theorem visits_arrival (books : h.server.Books h.visits) (live : h.server.running = true)
    (room : h.running < h.server.settings.maxConnections) :
    (h.step .arrival).visits = h.visits ++ [({} : Visit)] := by
  have vacant : h.server.isFull = false := by
    rw [← Bool.not_eq_true, books.isFull_iff]
    exact Nat.ne_of_lt room
  rw [step, arrive, live, vacant]
  rfl

/-- The numbers of a server that has taken so many connections from its listener, and what can
happen to it next. -/
structure Accounted (settings : Settings) (taken : Nat) (h : Hosting) : Prop where
  active : h.server.tally.active = h.running
  room : h.running ≤ settings.maxConnections
  total : h.server.tally.total = h.running + h.ended
  sockets : h.server.tally.total + h.server.tally.rejected = taken
  errors : h.server.tally.errors = h.failures
  /-- A connection is turned away only when as many tasks as are allowed are not over. -/
  refuses : ∀ event, h.server.tally.rejected < (h.step event).server.tally.rejected →
    event = .arrival ∧ h.running = settings.maxConnections
  /-- A task that ends makes room: the next connection is taken on, if the accept loop is there. -/
  frees : ∀ event task, h.Ends event task →
    (h.step event).running + 1 = h.running ∧
      ((h.step event).server.running = true →
        ((h.step event).step .arrival).visits = (h.step event).visits ++ [({} : Visit)])

/-- Whatever happens, the numbers of a server are those of its tasks. -/
theorem accounted (settings : Settings) (events : List Event) :
    Accounted settings ((opening settings).taken events) ((opening settings).run events) := by
  have books := run_books (h := opening settings) (Server.Books.opening settings) events
  have same : ((opening settings).run events).server.settings = settings := run_settings _ events
  have sockets := run_sockets (opening settings) events
  -- How the server came to its state no longer matters: the books say all that is needed.
  generalize (opening settings).run events = h at books same sockets
  constructor
  case active => exact books.active.trans books.running
  case room =>
    have room := books.room
    rwa [books.running, same] at room
  case total => exact books.total.trans h.running_add_ended.symm
  case sockets => simpa [opening] using sockets
  case errors => exact books.errors
  case refuses =>
    intro event more
    obtain ⟨arrival, full⟩ := (h.steps event).rejected.resolve_left (Nat.ne_of_gt more)
    exact ⟨arrival, same ▸ books.isFull_iff.mp full⟩
  case frees =>
    intro event task ends
    have fewer := ends.running
    refine ⟨fewer, fun live => visits_arrival ((h.steps event).books books) live ?_⟩
    have room := books.room
    rw [books.running] at room
    rw [(h.steps event).settings]
    exact Nat.lt_of_lt_of_le (Nat.lt_of_succ_le (Nat.le_of_eq fewer)) room

/-- One connection at a time. The first sends what is no frame, and while it is told so a second one
is turned away. Then the task of the first ends with a failure, and a third connection is taken. -/
theorem accounted_of_full :
    let start := opening { maxConnections := 1 }
    let busy := start.run [.arrival, .meets 0 (.first (.ok (some ⟨#[0]⟩)))]
    let full := start.run [.arrival, .meets 0 (.first (.ok (some ⟨#[0]⟩))), .arrival]
    let left := start.run
      [.arrival, .meets 0 (.first (.ok (some ⟨#[0]⟩))), .arrival, .meets 0 .told]
    busy.running = 1 ∧ full.server.tally = { total := 1, active := 1, rejected := 1, errors := 0 } ∧
      left.running = 0 ∧ left.failures = 1 ∧
      left.server.tally = { total := 1, active := 0, rejected := 1, errors := 1 } ∧
      (left.step .arrival).visits = left.visits ++ [({} : Visit)] := by
  intro start busy full left
  have grows : busy.server.tally.rejected < (busy.step .arrival).server.tally.rejected := by decide
  have refused := (accounted { maxConnections := 1 } _).refuses .arrival grows
  have ends : full.Ends (.meets 0 .told) 0 :=
    ⟨⟨_, rfl, by decide⟩, _, rfl, by decide⟩
  have freed := (accounted { maxConnections := 1 } _).frees _ _ ends
  have active := (accounted { maxConnections := 1 }
    [.arrival, .meets 0 (.first (.ok (some ⟨#[0]⟩))), .arrival]).active
  have errors := (accounted { maxConnections := 1 }
    [.arrival, .meets 0 (.first (.ok (some ⟨#[0]⟩))), .arrival, .meets 0 .told]).errors
  have tally : left.server.tally = { total := 1, active := 0, rejected := 1, errors := 1 } := by
    decide
  have one : full.server.tally = { total := 1, active := 1, rejected := 1, errors := 0 } := by
    decide
  refine ⟨refused.2, one, ?_, ?_, tally, freed.2 (by decide)⟩
  · have fewer : left.running + 1 = full.running := freed.1
    have running : full.running = 1 := active.symm.trans (by rw [one])
    omega
  · exact errors.symm.trans (by rw [tally])

end Hosting
end StreamMux
