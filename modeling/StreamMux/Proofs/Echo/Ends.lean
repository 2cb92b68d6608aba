import StreamMux.Proofs.Echo.Feeding

/-!
# The ends of a channel

The end that opened the channel sends its payloads, and hands what comes back to its application
(`Speaks`). The other end opens a stream when the request comes, and a task sends each item back
(`Replies`). Whatever an end does leads from one stage of the channel to another.
-/
namespace StreamMux

/-- The task of the end that opened the channel, whose stream is at a place. -/
def Echo.Near.task (o : Echo) (i : Nat) : Echo.Near → Option Task
  | .unopened p => some (.openChannel i o.near p)
  | .sending p held => some (.send i p held)
  | .silent => none

theorem Echo.Valid.nonzero {o : Echo} (v : o.Valid) : o.id ≠ 0 := by
  have stream := (isStreamId_iff o.id).mp v.stream
  exact fun zero => stream.2 (stream.1.trans zero)

/-! ### Frames of the channel arrive as they were sent -/

/-- The frames can be written, and are read as they are. -/
def Lands (frames : List Frame) : Prop := ∀ g ∈ frames, g.landed = some g

theorem lands_nil : Lands [] := by simp [Lands]

theorem lands_append {frames more : List Frame} (h : Lands frames) (h' : Lands more) :
    Lands (frames ++ more) := fun g hg => (List.mem_append.mp hg).elim (h g) (h' g)

theorem lands_single {frame : Frame} (h : frame.landed = some frame) : Lands [frame] :=
  fun g hg => by rw [List.mem_singleton.mp hg, h]

theorem Lands.eq {frames : List Frame} (h : Lands frames) :
    frames.filterMap Frame.landed = frames := by
  induction frames with
  | nil => rfl
  | cons frame rest ih =>
    rw [List.filterMap_cons, h frame List.mem_cons_self]
    exact congrArg _ (ih fun g hg => h g (List.mem_cons_of_mem _ hg))

namespace Endpoint

variable {o : Echo} {up down frames : List Frame} {got : List Item} {ended : Bool}
  {near : Echo.Near} {far : Echo.Far} {name : String} {slot : Option Nat} {e f g : Endpoint}
  {i k : Nat} {s t : Exchange}

/-! ### The end that opened the channel -/

/-- What the end that opened the channel did for it, and the stage afterwards. -/
structure Speaks (o : Echo) (i : Nat) (up down : List Frame) (got : List Item) (ended : Bool)
    (far : Echo.Far) (slot : Option Nat) (e f : Endpoint) : Prop where
  intro ::
  after : ∃ t near frames, Advances o.id slot i t (near.task o i) frames e f ∧ Lands frames ∧
    o.Stage t (up ++ frames) down got ended near far

theorem Speaks.of_still (h : e.Still f) (speaks : f.Speaks o i up down got ended far slot g) :
    e.Speaks o i up down got ended far slot g := by
  obtain ⟨t, near, frames, advances, rest⟩ := speaks.after
  exact ⟨t, near, frames, advances.of_still h, rest⟩

/-- The end goes on, and sends nothing. -/
theorem Speaks.silent (near : Echo.Near) (advances : Advances o.id slot i t (near.task o i) [] e f)
    (stage : o.Stage t up down got ended near far) : Speaks o i up down got ended far slot e f :=
  ⟨t, near, [], advances, lands_nil, by rw [List.append_nil]; exact stage⟩

/-- The application takes so many items, as long as there are some. -/
theorem takeItems_speaks (v : o.Valid) (limit : Nat) (opened : e.request? name = some (.opened i))
    (accepts : e.connection.queue.accepts = true) (holds : e.connection.Holds o.id i s)
    (runs : e.Runs (near.task o i) slot) (stage : o.Stage s up down got ended near far) :
    Speaks o i up down (got ++ (e.takeItems name limit).1)
      (ended || (e.takeItems name limit).2.1 = .ended) far slot e
      (e.takeItems name limit).2.2 := by
  let stays (t : Exchange) (asks : List Frame) (got : List Item) (ended : Bool) : Prop :=
    Lands asks ∧ o.Stage t (up ++ asks) down got ended near far
  have start : stays s [] got ended := ⟨lands_nil, by rw [List.append_nil]; exact stage⟩
  obtain ⟨t, asks, leads, lands, next⟩ := takeItems_leads limit opened holds accepts start
    fun t asks got ended before => by
      have polled := before.2.poll v
      refine ⟨lands_append before.1 fun g hg => ?_, by
        rw [← List.append_assoc]
        exact polled.stage⟩
      rw [polled.asks g hg, landed_requestN v.stream v.nearBound]
  exact ⟨t, near, asks, leads.stays runs, lands, next⟩

/-- A frame of the channel comes. -/
theorem handle_speaks (v : o.Valid) (accepts : e.connection.queue.accepts = true)
    (holds : e.connection.Holds o.id i s) (runs : e.Runs (near.task o i) slot) {frame : Frame}
    (stage : o.Stage s up (frame :: down) got ended near far) :
    Speaks o i up down got ended far slot e (e.handle frame) := by
  obtain ⟨goes, t, takes, next⟩ := stage.arrive v
  exact .silent near ((handle_leads holds v.nonzero goes accepts next.id takes).stays runs) next

/-- The task that awaits the first payload makes a step. -/
theorem stepOpen_speaks (v : o.Valid) {p : Producer} (active : e.connection.isActive = true)
    (accepts : e.connection.queue.accepts = true) (holds : e.connection.Holds o.id i s)
    (task : e.tasks[k]? = some (some (.openChannel i o.near p)))
    (stage : o.Stage s up down got ended (.unopened p) far) :
    Speaks o i up down got ended far (some k) e (e.stepOpen k i o.near p).1 := by
  obtain ⟨running, goes⟩ := stage.running (by simp)
  have goes_on (t : Exchange) : s.isOver = true → t.isOver = true := by simp [goes]
  obtain ⟨refuses, yields, answered⟩ := stage.opens (q := (e.pull i p).2.1) v
  obtain ⟨rests, refused⟩ := pull_rests (e := e) (i := i) refuses
  have still := rests.toStill
  have answer := answered _ refused (pull_refuses yields refuses)
  unfold stepOpen
  rw [goes_of_running active holds running, if_neg Bool.false_ne_true]
  generalize e.pull i p = result at still refused answer
  obtain ⟨_, q, f⟩ := result
  dsimp only at still refused answer ⊢
  have held : f.connection.stream i = s := by rw [still.connection, holds.stream]
  cases answer with
  | @opens t payload named fits eq next =>
    dsimp only
    rw [held, eq]
    dsimp only
    have leads : Leads o.id i t [.payload (.requestChannel o.id o.near payload false)] e
        (f.mapConnection (·.commit i t [.payload (.requestChannel o.id o.near payload false)])) :=
      .of_commit holds named (goes_on t) accepts
        (by simp [Frame.id, PayloadFrame.requestChannel])
        (by rw [mapConnection, still.connection]) still.application still.requests still.kept
        still.tasks
    exact ⟨t, .sending q none, _, leads.keeps task _,
      lands_single (landed_requestChannel v.stream v.nearBound fits false), next⟩
  | @silent t named eq next =>
    have leads : Leads o.id i t [.payload (.requestChannel o.id o.near Payload.empty true)] e
        (f.mapConnection (·.stepWriting i (·.openSilentChannel o.near))) :=
      .of_commit holds named (goes_on t) accepts
        (by simp [Frame.id, PayloadFrame.requestChannel])
        (by rw [mapConnection, Connection.stepWriting, held, eq, still.connection])
        still.application still.requests still.kept still.tasks
    have fits : Payload.empty.Fits := by simp [Payload.Fits, Payload.empty]
    exact ⟨t, .silent, _, leads.leaves task (.inl refused),
      lands_single (landed_requestChannel v.stream v.nearBound fits true), next⟩
  | waiting next =>
    exact .silent (.unopened q) ((Leads.of_still holds still).keeps task _) next
  | again next =>
    exact .silent (.unopened q) ((Leads.of_still holds still).keeps task _) next

/-- The task that sends the payloads makes a step. -/
theorem stepSend_speaks (v : o.Valid) {p : Producer} {held : Option Payload}
    (active : e.connection.isActive = true) (accepts : e.connection.queue.accepts = true)
    (holds : e.connection.Holds o.id i s) (task : e.tasks[k]? = some (some (.send i p held)))
    (stage : o.Stage s up down got ended (.sending p held) far) :
    Speaks o i up down got ended far (some k) e (e.stepSend k i p held).1 := by
  obtain ⟨running, goes⟩ := stage.running (by simp)
  have goes_on (t : Exchange) : s.isOver = true → t.isOver = true := by simp [goes]
  unfold stepSend
  rw [goes_of_running active holds running, if_neg Bool.false_ne_true]
  cases held with
  | some payload =>
    dsimp only
    rw [holds.stream]
    rcases stage.sends with ⟨t, named, offered, next⟩ | ⟨t, named, offered, item, next⟩
    · rw [offered]
      have leads : Leads o.id i t [] e (e.mapConnection (·.commit i t [])) :=
        .of_commit holds named (goes_on t) accepts (by simp) rfl rfl rfl rfl rfl
      exact .silent (.sending p (some payload)) (leads.stays (.busy task)) next
    · rw [offered]
      dsimp only
      have leads : Leads o.id i t [.payload (.item o.id payload)] e
          (e.mapConnection (·.commit i t [.payload (.item o.id payload)])) :=
        .of_commit holds named (goes_on t) accepts (by simp [Frame.id, PayloadFrame.item]) rfl rfl
          rfl rfl rfl
      exact ⟨t, .sending p none, _, leads.keeps task _,
        lands_single (landed_item v.stream (v.items payload item)), next⟩
  | none =>
    obtain ⟨refuses, left, yields, answered⟩ := stage.fetches (q := (e.pull i p).2.1)
    obtain ⟨rests, refused⟩ := pull_rests (e := e) (i := i) refuses
    have still := rests.toStill
    have answer := answered _ refused (pull_refuses yields refuses)
    generalize e.pull i p = result at still refused answer
    obtain ⟨_, q, f⟩ := result
    dsimp only at still refused answer ⊢
    have kept (held : Option Payload) := (Leads.of_still holds still).keeps task (.send i q held)
    cases answer with
    | @holds payload next => exact .silent (.sending q (some payload)) (kept _) next
    | closes named frames next =>
      have leads : Leads o.id i s.complete.1 [.payload (.completion o.id)] e
          (f.mapConnection (·.stepWriting i Exchange.complete)) :=
        .of_commit holds named (goes_on _) accepts (by simp [Frame.id, PayloadFrame.completion])
          (by rw [mapConnection, still.connection, Connection.stepWriting, holds.stream, ← frames])
          still.application still.requests still.kept still.tasks
      exact ⟨_, .silent, _, leads.leaves task (.inl refused),
        lands_single (landed_completion v.stream), next⟩
    | waiting next => exact .silent (.sending q none) (kept none) next
    | again next => exact .silent (.sending q none) (kept none) next

/-- The task of the channel makes a step. -/
theorem stepWork_speaks (v : o.Valid) (active : e.connection.isActive = true)
    (accepts : e.connection.queue.accepts = true) (holds : e.connection.Holds o.id i s)
    (runs : e.Runs (near.task o i) (some k)) (stage : o.Stage s up down got ended near far) :
    Speaks o i up down got ended far (some k) e (e.stepWork k).1 := by
  unfold stepWork
  cases near with
  | unopened p =>
    obtain _ | task := runs
    rw [task, Option.join_some]
    exact stepOpen_speaks v active accepts holds task stage
  | sending p held =>
    obtain _ | task := runs
    rw [task, Option.join_some]
    exact stepSend_speaks v active accepts holds task stage
  | silent => cases runs

/-! ### The end that sends the items back -/

/-- What the other end has of the channel: nothing yet, a stream and the task that sends its items
back, or nothing any more. -/
inductive Echoes (o : Echo) (e : Endpoint) : Echo.Far → Option Nat → Prop
  | unasked (lacks : e.connection.Lacks o.id) : Echoes o e .unasked none
  | echoing {j : Nat} {slot : Option Nat} {t : Exchange} {first held : Option Payload}
      (holds : e.connection.Holds o.id j t)
      (runs : e.Runs (some (.send j (Echo.repeater first) held)) slot) :
      Echoes o e (.echoing t first held) slot
  | leaving {j : Nat} {slot : Option Nat} {t : Exchange} (holds : e.connection.Holds o.id j t)
      (runs : e.Runs (some (.send j Echo.exhausted none)) slot) : Echoes o e (.leaving t) slot
  | finished (gone : e.connection.registry.get? o.id = none) : Echoes o e .finished none

/-- What the other end did for the channel, and the stage afterwards. -/
structure Replies (o : Echo) (s : Exchange) (up down : List Frame) (got : List Item)
    (ended : Bool) (near : Echo.Near) (slot : Option Nat) (e f : Endpoint) : Prop where
  intro ::
  after : ∃ far slot' frames, Sends o.id frames e f ∧ Echoes o f far slot' ∧
    (∀ names, e.Avoids o.id names slot → f.Avoids o.id names slot') ∧ Lands frames ∧
    o.Stage s up (down ++ frames) got ended near far

theorem Replies.of_still (h : e.Still f) (replies : f.Replies o s up down got ended near slot g) :
    e.Replies o s up down got ended near slot g := by
  obtain ⟨far, slot', frames, sends, echoes, avoids, rest⟩ := replies.after
  refine ⟨far, slot', frames, (Sends.of_still h).trans sends, echoes,
    fun names before => avoids names ?_, rest⟩
  exact (Sends.of_still h).avoids before fun k task other found => ⟨other, h.tasks ▸ found⟩

theorem Echoes.of_still (h : e.Still f) (echoes : Echoes o e far slot) : Echoes o f far slot := by
  cases echoes with
  | unasked lacks => exact .unasked (by rw [h.connection]; exact lacks)
  | echoing holds runs =>
    exact .echoing (by rw [h.connection]; exact holds) (runs.of_tasks h.tasks)
  | leaving holds runs =>
    exact .leaving (by rw [h.connection]; exact holds) (runs.of_tasks h.tasks)
  | finished gone => exact .finished (by rw [h.connection]; exact gone)

/-- The stream of the channel goes on. -/
theorem Replies.echoing {j : Nat} {first held : Option Payload}
    (advances : Advances o.id slot j t (some (.send j (Echo.repeater first) held)) frames e f)
    (lands : Lands frames)
    (stage : o.Stage s up (down ++ frames) got ended near (.echoing t first held)) :
    Replies o s up down got ended near slot e f := by
  obtain ⟨slot', runs, avoids⟩ := advances.later
  exact ⟨_, slot', frames, advances.toSends, .echoing advances.holds runs, avoids, lands, stage⟩

/-- Nothing is said. -/
theorem Replies.silent {j : Nat} {first held : Option Payload}
    (advances : Advances o.id slot j t (some (.send j (Echo.repeater first) held)) [] e f)
    (stage : o.Stage s up down got ended near (.echoing t first held)) :
    Replies o s up down got ended near slot e f := by
  refine .echoing advances lands_nil ?_
  rw [List.append_nil]
  exact stage

theorem Replies.leaving {j : Nat}
    (advances : Advances o.id slot j t (some (.send j Echo.exhausted none)) [] e f)
    (stage : o.Stage s up down got ended near (.leaving t)) :
    Replies o s up down got ended near slot e f := by
  obtain ⟨slot', runs, avoids⟩ := advances.later
  refine ⟨_, slot', [], advances.toSends, .leaving advances.holds runs, avoids, lands_nil, ?_⟩
  rw [List.append_nil]
  exact stage

/-- The stream of the channel is over. -/
theorem Replies.finished {j : Nat} (done : t.isOver = true)
    (advances : Advances o.id slot j t none frames e f) (lands : Lands frames)
    (stage : o.Stage s up (down ++ frames) got ended near .finished) :
    Replies o s up down got ended near slot e f := by
  obtain ⟨slot', runs, avoids⟩ := advances.later
  cases runs with
  | idle =>
    refine ⟨.finished, none, frames, advances.toSends, .finished ?_, avoids, lands, stage⟩
    rw [advances.holds.registered, done, if_pos rfl]

/-- A frame of the channel comes: the request, or what follows it. -/
theorem handle_replies (v : o.Valid) (server : e.connection.side = .server)
    (odd : o.id.toNat % 2 = 1) (accepts : e.connection.queue.accepts = true)
    (repeats : ∀ payload, e.application.onChannel payload = Echo.repeater (some payload))
    (prefetch : e.connection.config.prefetch = o.far) (echoes : Echoes o e far slot)
    {frame : Frame} (stage : o.Stage s (frame :: up) down got ended near far) :
    Replies o s up down got ended near slot e (e.handle frame) := by
  cases echoes with
  | unasked lacks =>
    obtain ⟨payload, complete, rfl, next⟩ := stage.request v
    have keeps : e.application.keepsItems payload = true := by
      rw [Application.keepsItems, repeats]
      rfl
    have received := Echo.receive_requestChannel v keeps complete
    rw [← prefetch] at received
    refine .silent (handle_opens lacks server odd rfl rfl received rfl rfl fun g same => ?_) next
    have repeats' : g.application.onChannel payload = Echo.repeater (some payload) :=
      same ▸ repeats payload
    rw [← repeats']
    exact g.start_channel _ (by rw [repeats']; simp [Echo.repeater])
  | @echoing j _ t first held holds runs =>
    obtain ⟨goes, u, takes, named, next⟩ := stage.hears v
    exact .silent ((handle_leads holds v.nonzero goes accepts named takes).stays runs) next
  | @leaving j _ t holds runs =>
    obtain ⟨goes, u, takes, named, next⟩ := stage.hears_leaving
    exact .leaving ((handle_leads holds v.nonzero goes accepts named takes).stays runs) next
  | finished gone =>
    obtain ⟨rfl, next⟩ := stage.late
    rw [handle_late gone]
    refine ⟨_, none, [], .of_still (.refl e), .finished gone, fun _ avoids => avoids, lands_nil, ?_⟩
    rw [List.append_nil]
    exact next

section Returning

variable {j : Nat} {first : Option Payload} (v : o.Valid) (active : e.connection.isActive = true)
  (accepts : e.connection.queue.accepts = true) (holds : e.connection.Holds o.id j t)

include v active accepts holds

/-- The task sends back the item that it has, as soon as there is credit for it. -/
theorem stepSend_returns {payload : Payload}
    (task : e.tasks[k]? = some (some (.send j (Echo.repeater first) (some payload))))
    (stage : o.Stage s up down got ended near (.echoing t first (some payload))) :
    Replies o s up down got ended near (some k) e
      (e.stepSend k j (Echo.repeater first) (some payload)).1 := by
  obtain ⟨finished, kept, used, due, echoing⟩ := stage.returns
  have goes_on (u : Exchange) : t.isOver = true → u.isOver = true := by simp [echoing.isOver]
  unfold stepSend
  rw [goes_of_running active holds echoing.stopped, if_neg Bool.false_ne_true]
  dsimp only
  rw [holds.stream]
  rcases stage.sends_back with ⟨u, named, offered, next⟩ | ⟨u, named, offered, item, next⟩
  · rw [offered]
    have leads : Leads o.id j u [] e (e.mapConnection (·.commit j u [])) :=
      .of_commit holds named (goes_on u) accepts (by simp) rfl rfl rfl rfl rfl
    exact .silent (leads.stays (.busy task)) next
  · rw [offered]
    have leads : Leads o.id j u [.payload (.item o.id payload)] e
        (e.mapConnection (·.commit j u [.payload (.item o.id payload)])) :=
      .of_commit holds named (goes_on u) accepts (by simp [Frame.id, PayloadFrame.item]) rfl
        rfl rfl rfl rfl
    exact .echoing (leads.keeps task (.send j (Echo.repeater first) none))
      (lands_single (landed_item v.stream (v.items payload item))) next

/-- The task has no item, and takes the next one from the peer. -/
theorem stepSend_passes
    (task : e.tasks[k]? = some (some (.send j (Echo.repeater first) none)))
    (stage : o.Stage s up down got ended near (.echoing t first none)) :
    Replies o s up down got ended near (some k) e
      (e.stepSend k j (Echo.repeater first) none).1 := by
  obtain ⟨finished, kept, used, due, echoing⟩ := stage.returns
  unfold stepSend
  rw [goes_of_running active holds echoing.stopped, if_neg Bool.false_ne_true]
  cases first with
  | some payload =>
    have leads := Leads.of_still holds (.refl e)
    exact .silent (leads.keeps task (.send j (Echo.repeater none) (some payload)))
      stage.takes_first
  | none =>
    obtain ⟨answer, leads⟩ := pullInbound_leads holds accepts
    have done : t.poll.2.1.isOver = false := t.isOver_poll.trans echoing.isOver
    unfold pull
    dsimp only [Echo.repeater]
    generalize e.pullInbound j false = result at answer leads ⊢
    obtain ⟨_, f⟩ := result
    dsimp only at answer leads
    subst answer
    cases stage.passes with
    | @item u payload eq next =>
      rw [eq] at leads ⊢
      exact .silent (leads.keeps task (.send j (Echo.repeater none) (some payload))) next
    | @asks u eq next =>
      rw [eq] at leads ⊢
      exact .echoing (leads.keeps task (.send j (Echo.repeater none) none))
        (lands_single (landed_requestN v.stream v.farBound)) next
    | waits eq =>
      rw [eq] at leads ⊢
      exact .silent (leads.keeps task (.send j (Echo.repeater none) none)) stage
    | @finish u w eq dropped next =>
      rw [eq] at leads done ⊢
      have drops : Leads o.id j w [] f (f.dropInbound j) :=
        .of_commit leads.holds next.parting.id (by simp [done])
          (leads.grows.accepts.trans accepts) (by simp)
          (by rw [dropInbound, mapConnection, Connection.stepWriting, leads.holds.stream,
            dropped])
          rfl rfl rfl rfl
      exact .leaving ((leads.trans drops).keeps task (.send j Echo.exhausted none)) next

/-- The task says that nothing more goes back, and is done. -/
theorem stepSend_leaves (task : e.tasks[k]? = some (some (.send j Echo.exhausted none)))
    (stage : o.Stage s up down got ended near (.leaving t)) :
    Replies o s up down got ended near (some k) e (e.stepSend k j Echo.exhausted none).1 := by
  have leaving := stage.parting
  obtain ⟨named, done, frames, next⟩ := stage.leaves
  have leads : Leads o.id j t.complete.1 [.payload (.completion o.id)] e
      (e.mapConnection (·.stepWriting j Exchange.complete)) :=
    .of_commit holds named (by simp [done]) accepts (by simp [Frame.id, PayloadFrame.completion])
      (by rw [mapConnection, Connection.stepWriting, holds.stream, ← frames]) rfl rfl rfl rfl
  unfold stepSend
  rw [goes_of_running active holds leaving.stopped, if_neg Bool.false_ne_true]
  exact .finished done (leads.leaves task (.inl rfl)) (lands_single (landed_completion v.stream))
    next

end Returning

/-- The task that sends the items back makes a step. -/
theorem stepWork_replies (v : o.Valid) (active : e.connection.isActive = true)
    (accepts : e.connection.queue.accepts = true) (echoes : Echoes o e far (some k))
    (stage : o.Stage s up down got ended near far) :
    Replies o s up down got ended near (some k) e (e.stepWork k).1 := by
  unfold stepWork
  cases echoes with
  | @echoing j _ t first held holds runs =>
    obtain _ | task := runs
    rw [task, Option.join_some]
    cases held with
    | some payload => exact stepSend_returns v active accepts holds task stage
    | none => exact stepSend_passes v active accepts holds task stage
  | leaving holds runs =>
    obtain _ | task := runs
    rw [task, Option.join_some]
    exact stepSend_leaves v active accepts holds task stage

end Endpoint
end StreamMux
