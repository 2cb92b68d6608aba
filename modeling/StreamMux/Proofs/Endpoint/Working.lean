import StreamMux.Proofs.Connection.Feeding
import StreamMux.Proofs.Endpoint.Apart

/-!
# What a task leaves alone

A source gives items without touching the connection at all (`Endpoint.Rests`). A task makes moves
of the stream that it works for, and changes its own slot; it leaves everything else alone
(`Endpoint.stepWork_steps`), whatever the state of its stream. So the task of another stream
changes nothing of a stream that is set aside (`Endpoint.stepWork_apart`).

Source: `Endpoint.pull`, `Endpoint.stepJob`, `Endpoint.stepSend`, `Endpoint.stepOpen`.
-/
namespace StreamMux

/-- The move is one of this end, and if it opens a channel, it asks for as many items as is told. -/
def Exchange.Move.May (batch : Option UInt32) : Exchange.Move → Prop
  | .openChannel initial _ | .openSilentChannel initial => batch = some initial
  | m => m.isLocal = true

/-- How many items a task asks for with the request for its stream, if it is to open it. -/
def Task.batch? : Task → Option UInt32
  | .openChannel _ batch _ => some batch
  | _ => none

/-- What a task can be after a step: what it was, in a later phase, or one that sends on the channel
that it opened. -/
inductive Task.Continues : Task → Task → Prop
  | push (metadata : ByteArray) (phase phase' : Phase) :
      Continues (.push metadata phase) (.push metadata phase')
  | forget (stream : Nat) (payload : Payload) (phase phase' : Phase) :
      Continues (.forget stream payload phase) (.forget stream payload phase')
  | respond (stream : Nat) (payload : Payload) (phase phase' : Phase) :
      Continues (.respond stream payload phase) (.respond stream payload phase')
  | waits (stream : Nat) (batch : UInt32) (p q : Producer) :
      Continues (.openChannel stream batch p) (.openChannel stream batch q)
  | opened (stream : Nat) (batch : UInt32) (p q : Producer) :
      Continues (.openChannel stream batch p) (.send stream q none)
  | sends (stream : Nat) (p q : Producer) (held held' : Option Payload) :
      Continues (.send stream p held) (.send stream q held')

theorem Task.Continues.place {t u : Task} (h : t.Continues u) : u.place? = t.place? := by
  cases h <;> rfl

/-! ### Moves of one stream -/

namespace Connection

/-- Moves of the stream at a place, if there is one, by this end. What opens it asks for as many
items as is told. -/
inductive Moved (place : Option Nat) (batch : Option UInt32) (c : Connection) : Connection → Prop
  | still : Moved place batch c c
  | move {d : Connection} {i : Nat} (before : Moved place batch c d) (own : place = some i)
      (m : Exchange.Move) (may : m.May batch) :
      Moved place batch c (d.stepWriting i (m.apply ·))

namespace Moved

variable {c d e : Connection} {place : Option Nat} {batch : Option UInt32} {id : UInt32}
  {notes : Bool}

theorem trans (h : c.Moved place batch d) (h' : d.Moved place batch e) :
    c.Moved place batch e := by
  induction h' with
  | still => exact h
  | move before own m may ih => exact ih.move own m may

theorem feeds (h : c.Moved place batch d) : c.Feeds notes d := by
  induction h with
  | still => exact .refl c
  | move before own m may ih => exact ih.trans (.stepWriting _ _ _)

theorem apart (h : c.Moved place batch d) (wire : low31 id = id)
    (other : ∀ i, place = some i → c.Beside id i) : Apart id c d := by
  induction h with
  | still => exact .refl id c
  | move before own m may ih => exact ih.trans (apart_move wire (ih.beside (other _ own)) m)

end Moved
end Connection

namespace Endpoint

variable {id : UInt32} {name : Option String} {slot : Option Nat} {e f g : Endpoint}

/-! ### Sources -/

theorem report_rests (e : Endpoint) (event : Event) : e.Rests (e.report event) :=
  ⟨⟨rfl, rfl, rfl, rfl, rfl⟩, rfl, rfl, rfl, rfl, rfl⟩

theorem reportDropped_rests (e : Endpoint) (label : String) : e.Rests (e.reportDropped label) :=
  ⟨⟨rfl, rfl, rfl, rfl, rfl⟩, rfl, rfl, rfl, rfl, rfl⟩

theorem setFeedAt_rests (e : Endpoint) (place : Nat) (feed : Feed) :
    e.Rests (e.setFeedAt place feed) :=
  ⟨⟨rfl, rfl, rfl, rfl, rfl⟩, rfl, rfl, rfl, rfl, rfl⟩

theorem setAlarm_rests (e : Endpoint) (due : Duration) : e.Rests (e.setAlarm due).2 :=
  ⟨⟨rfl, rfl, rfl, rfl, rfl⟩, rfl, rfl, rfl, rfl, rfl⟩

theorem reportCall_rests (e : Endpoint) (implemented : Bool) (event : Event) :
    e.Rests (e.reportCall implemented event) := by
  unfold reportCall
  split
  · exact e.report_rests event
  · exact .refl e

theorem dropSource_rests (e : Endpoint) (s : Source) : e.Rests (e.dropSource s) := by
  have told {f : Endpoint} (rests : e.Rests f) (label : String) :
      e.Rests (if s.finished then f else f.reportDropped label) := by
    split
    · exact rests
    · exact rests.trans (f.reportDropped_rests label)
  unfold dropSource
  dsimp only
  split
  -- Whether or not its end is reported, only its feed was let go before.
  refine told ?_ _
  all_goals
    split
    · split
      · exact e.setFeedAt_rests _ _
      · exact .refl e
    · exact .refl e

theorem takeFed_rests (e : Endpoint) (place : Nat) : e.Rests (e.takeFed place).2 := by
  unfold takeFed
  split
  · exact .refl e
  · split
    · exact e.setFeedAt_rests _ _
    · exact .refl e

theorem reportPull_rests (e : Endpoint) (label : Option String) : e.Rests (e.reportPull label) := by
  unfold reportPull
  split
  · exact e.report_rests _
  · exact .refl e

theorem pullSupply_rests (e : Endpoint) (s : Source) : e.Rests (e.pullSupply s).2.2 := by
  unfold pullSupply
  split
  next place _ =>
    have taken := e.takeFed_rests place
    split
    next eq => rw [eq] at taken; exact taken
    next eq => rw [eq] at taken; exact taken
    next eq => rw [eq] at taken; exact taken
  · split
    · exact e.reportPull_rests _
    next time _ _ =>
      split
      · exact .refl e
      · exact e.setAlarm_rests (e.clock.now + time)
    · split
      · exact .refl e
      · exact .refl e

theorem pullSource_rests (e : Endpoint) (s : Source) : e.Rests (e.pullSource s).2.2 := by
  unfold pullSource
  split
  · exact e.pullSupply_rests s
  · split
    · exact .refl e
    · exact .refl e

/-- A producer that refuses the items of the peer touches its source only. -/
theorem pull_rests {i : Nat} {p : Producer} (refuses : p.intake = .none) :
    e.Rests (e.pull i p).2.2 ∧ (e.pull i p).2.1.intake = .none := by
  unfold pull
  split
  · exact ⟨.refl e, refuses⟩
  · rw [refuses]
    exact ⟨e.pullSource_rests _, rfl⟩

/-! ### Producers -/

/-- Moves of one stream, and changes in one slot. Everything else is left alone. -/
structure Stirs (place : Option Nat) (batch : Option UInt32) (slot : Option Nat) (e f : Endpoint) :
    Prop where
  connection : e.connection.Moved place batch f.connection
  application : f.application = e.application
  requests : f.requests = e.requests
  kept : f.kept = e.kept
  others : ∀ j, slot ≠ some j → f.tasks[j]? = e.tasks[j]?
  size : f.tasks.size = e.tasks.size
  writing : f.writing = e.writing
  reading : f.reading = e.reading
  watch : f.watch = e.watch
  written : f.written = e.written
  now : f.clock.now = e.clock.now

variable {place : Option Nat} {batch : Option UInt32} {i k : Nat}

namespace Stirs

theorem of_rests (h : e.Rests f) : Stirs place batch slot e f where
  connection := by rw [h.connection]; exact .still
  application := h.application
  requests := h.requests
  kept := h.kept
  others j _ := by rw [h.tasks]
  size := by rw [h.tasks]
  writing := h.writing
  reading := h.reading
  watch := h.watch
  written := h.written
  now := h.now

theorem trans (h : Stirs place batch slot e f) (h' : Stirs place batch slot f g) :
    Stirs place batch slot e g where
  connection := h.connection.trans h'.connection
  application := h'.application.trans h.application
  requests := h'.requests.trans h.requests
  kept := h'.kept.trans h.kept
  others j other := (h'.others j other).trans (h.others j other)
  size := h'.size.trans h.size
  writing := h'.writing.trans h.writing
  reading := h'.reading.trans h.reading
  watch := h'.watch.trans h.watch
  written := h'.written.trans h.written
  now := h'.now.trans h.now

theorem rests (h : Stirs place batch slot e f) (h' : f.Rests g) : Stirs place batch slot e g :=
  h.trans (.of_rests h')

theorem move (h : Stirs (some i) batch slot e f) (m : Exchange.Move) (may : m.May batch) :
    Stirs (some i) batch slot e (f.mapConnection (·.stepWriting i (m.apply ·))) :=
  { h with connection := h.connection.move rfl m may }

theorem setTask (h : Stirs place batch (some k) e f) (task : Option Task) :
    Stirs place batch (some k) e (f.setTask k task) :=
  { h with
    others := fun j other => by
      rw [task_setTask, if_neg fun same => other (congrArg some same.1.symm)]
      exact h.others j other
    size := by
      rw [Endpoint.setTask, Array.size_setIfInBounds]
      exact h.size }

theorem apart {own : Option Nat} (h : Stirs place batch own e f) (wire : low31 id = id)
    (other : ∀ i, place = some i → e.connection.Beside id i)
    (free : ∀ k, own = some k → slot ≠ some k)
    (goes : ∀ k t, own = some k → f.tasks[k]?.join = some t → t.place? = place) :
    Apart id name slot e f := by
  have apart := h.connection.apart wire other
  exact
    { connection := apart
      application := h.application
      request := fun n _ => by rw [request?, request?, h.requests]
      task := fun j aside _ => h.others j fun same => free j same aside
      size := Nat.le_of_eq h.size.symm
      avoids := fun avoids =>
        { requests := fun n r other found i placed => by
            rw [request?, h.requests] at found
            exact apart.beside (avoids.requests n r other found i placed)
          tasks := fun j t aside found i placed => apart.beside <| by
            by_cases same : own = some j
            · exact other i ((goes j t same found).symm.trans placed)
            · rw [h.others j same] at found
              exact avoids.tasks j t aside found i placed
          kept := fun i keeps => apart.beside (avoids.kept i (h.kept ▸ keeps)) } }

theorem tasks (h : Stirs place batch none e f) : f.tasks = e.tasks :=
  Array.ext_getElem? fun j => h.others j (by simp)

end Stirs

theorem pullInbound_stirs (e : Endpoint) (i : Nat) (reports : Bool) :
    Stirs (some i) batch slot e (e.pullInbound i reports).2 := by
  have polled : Stirs (some i) batch slot e { e with connection := (e.connection.pollItem i).2 } :=
    (Stirs.of_rests (.refl e)).move .poll rfl
  unfold pullInbound
  dsimp only
  split
  · split
    · exact polled.rests (report_rests _ _)
    · exact polled
  · exact polled

theorem pullInbound_apart (wire : low31 id = id) (other : e.connection.Beside id i)
    (reports : Bool) : Apart id name slot e (e.pullInbound i reports).2 := by
  have stirs : Stirs (some i) none none e (e.pullInbound i reports).2 :=
    pullInbound_stirs e i reports
  exact stirs.apart wire (fun j same => Option.some.inj same ▸ other) (by simp) (by simp)

theorem dropInbound_stirs (e : Endpoint) (i : Nat) :
    Stirs (some i) batch slot e (e.dropInbound i) :=
  (Stirs.of_rests (.refl e)).move .dropConsumer rfl

theorem dropProducer_stirs (e : Endpoint) (i : Nat) (p : Producer) :
    Stirs (some i) batch slot e (e.dropProducer i p) := by
  have dropped : Stirs (some i) batch slot e (e.dropSource p.tail) :=
    .of_rests (e.dropSource_rests p.tail)
  unfold dropProducer
  dsimp only
  split
  · exact dropped
  · exact dropped
  · exact dropped.trans (dropInbound_stirs _ i)

theorem pull_stirs (e : Endpoint) (i : Nat) (p : Producer) :
    Stirs (some i) batch slot e (e.pull i p).2.2 := by
  have asked : Stirs (some i) batch slot e (e.pullInbound i p.reports).2 :=
    pullInbound_stirs e i p.reports
  unfold pull
  split
  · exact .of_rests (.refl e)
  · split
    · exact .of_rests (e.pullSource_rests _)
    · exact .of_rests (e.pullSource_rests _)
    · exact .of_rests (e.pullSource_rests _)
    · exact dropInbound_stirs e i
    · split
      next eq => rw [eq] at asked; exact asked
      next eq => rw [eq] at asked; exact asked
      next eq => rw [eq] at asked; exact asked.trans (dropInbound_stirs _ i)
    · split
      next eq => rw [eq] at asked; exact asked
      next eq => rw [eq] at asked; exact asked
      next f eq =>
        rw [eq] at asked
        exact (asked.rests (f.report_rests _)).trans (dropInbound_stirs _ i)

/-! ### Jobs -/

theorem join_setTask (e : Endpoint) (k : Nat) : (e.setTask k none).tasks[k]?.join = none := by
  rw [task_setTask]
  split
  · rfl
  next past =>
    rw [Array.getElem?_eq_none (Nat.le_of_not_lt fun bound => past ⟨rfl, bound⟩)]
    rfl

theorem own_setTask {t u : Task} (found : (e.setTask k (some t)).tasks[k]?.join = some u) :
    u = t := by
  rw [task_setTask] at found
  split at found
  · exact (Option.some.inj found).symm
  next past =>
    rw [Array.getElem?_eq_none (Nat.le_of_not_lt fun bound => past ⟨rfl, bound⟩)] at found
    contradiction

/-- A task takes a step: it makes moves of its stream, and it is over or goes on. -/
structure Steps (k : Nat) (task : Task) (e f : Endpoint) : Prop extends
    Stirs task.place? task.batch? (some k) e f where
  own : ∀ t, f.tasks[k]?.join = some t → task.Continues t

variable {task : Task}

namespace Steps

/-- The slot is as it was. -/
theorem waits {t : Task} (stirs : Stirs task.place? task.batch? (some k) e f)
    (same : f.tasks = e.tasks) (there : e.tasks[k]?.join = some t) (goes : task.Continues t) :
    Steps k task e f where
  toStirs := stirs
  own u found := by
    rw [same, there, Option.some.injEq] at found
    exact found ▸ goes

theorem goes {t : Task} (stirs : Stirs task.place? task.batch? (some k) e f)
    (goes : task.Continues t) : Steps k task e (f.setTask k (some t)) where
  toStirs := stirs.setTask _
  own u found := by
    rw [own_setTask found]
    exact goes

theorem ends (stirs : Stirs task.place? task.batch? (some k) e f) :
    Steps k task e (f.setTask k none) where
  toStirs := stirs.setTask none
  own u found := by
    rw [join_setTask] at found
    contradiction

theorem rests (h : Steps k task e f) (h' : f.Rests g) : Steps k task e g where
  toStirs := h.toStirs.rests h'
  own t found := h.own t (h'.tasks ▸ found)

end Steps

theorem giveUpJob_steps (e : Endpoint) (k : Nat) (task : Task) (implemented : Bool) (phase : Phase)
    (label : String) : Steps k task e (e.giveUpJob k implemented phase label).1 := by
  have gone : Steps k task e (e.setTask k none) := .ends (.of_rests (.refl e))
  unfold giveUpJob
  split
  · exact gone
  · dsimp only
    split
    · exact gone.rests (reportDropped_rests _ _)
    · exact gone

theorem stepJob_steps {α : Type} (there : e.tasks[k]?.join = some task) (job : Job α)
    (phase : Phase) {call : Endpoint → Endpoint} {keep : Phase → Task}
    {finish : Endpoint → Except Failure α → Endpoint} (called : e.Rests (call e))
    (same : task = keep phase) (kept : ∀ phase phase', (keep phase).Continues (keep phase'))
    (finished : ∀ f, Steps k task e f → ∀ result, Steps k task e (finish f result)) :
    Steps k task e (e.stepJob job phase call keep k finish).1 := by
  subst same
  have again {f : Endpoint} (rests : e.Rests f) (phase' : Phase) :
      Steps k (keep phase) e (f.setTask k (some (keep phase'))) :=
    .goes (.of_rests rests) (kept phase phase')
  have waits : Steps k (keep phase) e e := .waits (.of_rests (.refl e)) rfl there (kept _ _)
  unfold stepJob
  split
  · dsimp only
    split
    · exact again called _
    · exact again (called.trans (setAlarm_rests _ _)) _
  · split
    · exact again (.refl e) _
    · exact waits
  · split
    · exact waits
    · exact finished _ (.ends (.of_rests (.refl e))) _

/-! ### Sequences -/

theorem finishProducing_steps (task : Task) (place : task.place? = some i)
    (stirs : Stirs task.place? task.batch? (some k) e f) (p : Producer) :
    Steps k task e (f.finishProducing k i p).1 := by
  have gone : Steps k task e (f.setTask k none) := .ends stirs
  have dropped : Stirs task.place? task.batch? none (f.setTask k none)
      ((f.setTask k none).dropProducer i p) := place ▸ dropProducer_stirs _ i p
  refine ⟨gone.toStirs.trans { dropped with others := fun j _ => dropped.others j (by simp) }, ?_⟩
  intro t found
  rw [show (f.finishProducing k i p).1.tasks[k]? = _ from dropped.others k (by simp)] at found
  exact gone.own t found

theorem stepSend_steps {p : Producer} {held : Option Payload}
    (there : e.tasks[k]?.join = some (.send i p held)) :
    Steps k (.send i p held) e (e.stepSend k i p held).1 := by
  have pulled : Stirs (some i) none (some k) e (e.pull i p).2.2 := pull_stirs e i p
  have ends {f : Endpoint} (stirs : Stirs (some i) none (some k) e f) (q : Producer) :
      Steps k (.send i p held) e (f.finishProducing k i q).1 :=
    finishProducing_steps (.send i p held) rfl stirs q
  have goes {f : Endpoint} (stirs : Stirs (some i) none (some k) e f) (q : Producer)
      (held' : Option Payload) :
      Steps k (.send i p held) e (f.setTask k (some (.send i q held'))) :=
    .goes stirs (.sends i p q held held')
  unfold stepSend
  split
  · exact ends (.of_rests (.refl e)) p
  · split
    next payload =>
      have offered : Stirs (some i) none (some k) e
          (e.mapConnection (·.stepWriting i ((Exchange.Move.offer payload).apply ·))) :=
        (Stirs.of_rests (.refl e)).move _ rfl
      dsimp only
      split
      · exact goes offered p none
      · exact .waits offered rfl there (.sends i p p _ _)
      · exact ends offered p
    · dsimp only
      split
      · exact goes pulled _ none
      · exact goes pulled _ none
      · exact goes pulled _ _
      next failure _ =>
        exact ends (pulled.move (.failLocally failure) rfl) _
      · exact ends (pulled.move .complete rfl) _

theorem stepOpen_steps (e : Endpoint) (k i : Nat) (asked : UInt32) (p : Producer) :
    Steps k (.openChannel i asked p) e (e.stepOpen k i asked p).1 := by
  have pulled : Stirs (some i) (some asked) (some k) e (e.pull i p).2.2 := pull_stirs e i p
  have ends {f : Endpoint} (stirs : Stirs (some i) (some asked) (some k) e f) (q : Producer) :
      Steps k (.openChannel i asked p) e (f.finishProducing k i q).1 :=
    finishProducing_steps (.openChannel i asked p) rfl stirs q
  unfold stepOpen
  split
  · exact ends (.of_rests (.refl e)) p
  · dsimp only
    split
    · exact .goes pulled (.waits i asked p _)
    · exact .goes pulled (.waits i asked p _)
    next payload _ =>
      have opened := pulled.move (.openChannel asked payload) rfl
      split
      · exact .goes opened (.opened i asked p _)
      · exact ends opened _
    next failure _ =>
      exact ends (pulled.move (.failUnopened failure) rfl) _
    · exact ends (pulled.move (.openSilentChannel asked) rfl) _

/-- Nobody is in the slot. -/
theorem stepWork_none (gone : e.tasks[k]?.join = none) : e.stepWork k = (e, .done) := by
  unfold stepWork
  rw [gone]

/-- Whatever a task does in one step. -/
theorem stepWork_steps (there : e.tasks[k]?.join = some task) :
    Steps k task e (e.stepWork k).1 := by
  unfold stepWork
  rw [there]
  cases task with
  | push metadata phase =>
    dsimp only
    unfold stepPush
    dsimp only
    split
    · exact giveUpJob_steps _ _ _ _ _ _
    · exact stepJob_steps there _ _ (reportCall_rests e _ _) rfl (.push metadata)
        fun _ stepped _ => stepped
  | forget i payload phase =>
    dsimp only
    unfold stepForget
    dsimp only
    split
    · exact giveUpJob_steps _ _ _ _ _ _
    · exact stepJob_steps there _ _ (reportCall_rests e _ _) rfl (.forget i payload)
        fun _ stepped _ => stepped
  | respond i payload phase =>
    dsimp only
    unfold stepRespond
    dsimp only
    split
    · exact giveUpJob_steps _ _ _ _ _ _
    · exact stepJob_steps there _ _ (reportCall_rests e _ _) rfl (.respond i payload)
        fun _ stepped result =>
          ⟨stepped.toStirs.move (.respond result) rfl, stepped.own⟩
  | openChannel i batch p => exact stepOpen_steps e k i batch p
  | send i p held => exact stepSend_steps there

/-- A task in another slot does its step. -/
theorem stepWork_apart (wire : low31 id = id) (avoids : e.Avoids id name slot)
    (free : slot ≠ some k) : Apart id name slot e (e.stepWork k).1 := by
  cases there : e.tasks[k]?.join with
  | none =>
    rw [stepWork_none there]
    exact .refl id name slot e
  | some task =>
    have stepped := stepWork_steps there
    refine stepped.toStirs.apart wire (avoids.tasks k task free there)
      (fun j same => same ▸ free) fun j t same found => ?_
    cases same
    exact (stepped.own t found).place

end Endpoint
end StreamMux
