import StreamMux.Proofs.Transfer.Answer

/-!
# The ends of a transfer

The end that asked takes the frames of its stream and hands their items to its application
(`Consumes`). The end that answers opens the stream when the request comes, and sends what its
handler yields (`Serves`). Each enqueues frames of the stream and nothing else.
-/
namespace StreamMux.Endpoint

variable {o : Order} {up down : List Frame} {got : List Item} {ended : Bool} {far : Order.Far}
  {name : String} {slot : Option Nat} {e f g : Endpoint} {i k : Nat} {s t : Exchange}

/-! ### The end that asked -/

/-- What the application of the end that asked has got, and what its end has sent for it. -/
structure Consumes (o : Order) (i : Nat) (up down : List Frame)
    (got : List Item) (ended : Bool) (far : Order.Far) (e f : Endpoint) : Prop where
  intro ::
  after : ∃ t asks, Leads o.id i t asks e f ∧
    (∀ g ∈ asks, g = .requestN o.id o.batch) ∧ o.Stage t (up ++ asks) down got ended far

theorem Consumes.of_still (holds : e.connection.Holds o.id i s) (h : e.Still f)
    (consumes : f.Consumes o i up down got ended far g) :
    e.Consumes o i up down got ended far g := by
  obtain ⟨t, asks, leads, rest⟩ := consumes.after
  exact ⟨t, asks, (Leads.of_still holds h).trans leads, rest⟩

/-- The application takes so many items, as long as there are some. -/
theorem takeItems_consumes (v : o.Valid) (limit : Nat)
    (opened : e.request? name = some (.opened i))
    (accepts : e.connection.queue.accepts = true) (holds : e.connection.Holds o.id i s)
    (stage : o.Stage s up down got ended far) :
    Consumes o i up down (got ++ (e.takeItems name limit).1)
      (ended || (e.takeItems name limit).2.1 = .ended) far e (e.takeItems name limit).2.2 := by
  let stays (t : Exchange) (asks : List Frame) (got : List Item) (ended : Bool) : Prop :=
    (∀ g ∈ asks, g = .requestN o.id o.batch) ∧ o.Stage t (up ++ asks) down got ended far
  have start : stays s [] got ended := ⟨by simp, by rw [List.append_nil]; exact stage⟩
  obtain ⟨t, asks, leads, again, next⟩ := takeItems_leads limit opened holds accepts start
    fun t asks got ended before => by
      have polled := before.2.poll v
      refine ⟨fun g hg => ?_, by rw [← List.append_assoc]; exact polled.stage⟩
      exact (List.mem_append.mp hg).elim (before.1 g) (polled.asks g)
  exact ⟨t, asks, leads, again, next⟩

/-! ### The end that answers -/

/-- What the end that answers has of an order: nothing yet, a stream and the task that sends on it,
or nothing any more. -/
inductive Answers (o : Order) (e : Endpoint) : Order.Far → Option Nat → Prop
  | unasked (lacks : e.connection.Lacks o.id) : Answers o e .unasked none
  | sending {j k : Nat} {t : Exchange} {p : Producer} {held : Option Payload}
      (holds : e.connection.Holds o.id j t)
      (task : e.tasks[k]? = some (some (.send j p held))) :
      Answers o e (.sending t p held) (some k)
  | finished (gone : e.connection.registry.get? o.id = none) : Answers o e .finished none

theorem Answers.of_runs {j : Nat} {p : Producer} {held : Option Payload}
    (holds : e.connection.Holds o.id j t) (runs : e.Runs (some (.send j p held)) slot) :
    Answers o e (.sending t p held) slot := by
  cases runs with
  | busy there => exact .sending holds there

/-- What the end that answers did, and what it has now. -/
structure Serves (o : Order) (s : Exchange) (up down : List Frame) (got : List Item)
    (ended : Bool) (slot : Option Nat) (e f : Endpoint) : Prop where
  intro ::
  after : ∃ far slot' frames, Sends o.id frames e f ∧ Answers o f far slot' ∧
    (∀ names, e.Avoids o.id names slot → f.Avoids o.id names slot') ∧
    o.Stage s up (down ++ frames.filterMap Frame.landed) got ended far

/-- The task that sends on the stream goes on. -/
theorem Serves.sends {j : Nat} {p : Producer} {held : Option Payload}
    (advances : Advances o.id slot j t (some (.send j p held)) frames e f)
    (stage : o.Stage s up (down ++ frames.filterMap Frame.landed) got ended (.sending t p held)) :
    Serves o s up down got ended slot e f := by
  obtain ⟨slot', runs, avoids⟩ := advances.later
  exact ⟨_, slot', frames, advances.toSends, .of_runs advances.holds runs, avoids, stage⟩

/-- The task goes on, and nothing is sent. -/
theorem Serves.silent {j : Nat} {p : Producer} {held : Option Payload}
    (advances : Advances o.id slot j t (some (.send j p held)) [] e f)
    (stage : o.Stage s up down got ended (.sending t p held)) :
    Serves o s up down got ended slot e f :=
  .sends advances (by rw [List.filterMap_nil, List.append_nil]; exact stage)

/-- The task says farewell, and is over. -/
theorem Serves.over (v : o.Valid) {j : Nat} (finished : t.isOver = true)
    (advances : Advances o.id slot j t none [o.farewell] e f)
    (next : ∀ last, o.farewell.landed = some last →
      o.Stage s up (down ++ [last]) got ended .finished) :
    Serves o s up down got ended slot e f := by
  obtain ⟨last, landed⟩ := Order.landed_farewell v
  obtain ⟨slot', runs, avoids⟩ := advances.later
  cases runs with
  | idle =>
    refine ⟨.finished, none, _, advances.toSends, .finished ?_, avoids, ?_⟩
    · rw [advances.holds.registered, finished, if_pos rfl]
    · rw [List.filterMap_cons, landed]
      exact next last landed

theorem Answers.of_still (h : e.Still f) (answers : Answers o e far slot) :
    Answers o f far slot := by
  cases answers with
  | unasked lacks => exact .unasked (by rw [h.connection]; exact lacks)
  | sending holds task =>
    exact .sending (by rw [h.connection]; exact holds) (by rw [h.tasks]; exact task)
  | finished gone => exact .finished (by rw [h.connection]; exact gone)

theorem Serves.of_still (h : e.Still f) (serves : f.Serves o s up down got ended slot g) :
    e.Serves o s up down got ended slot g := by
  obtain ⟨far, slot', frames, sends, answers, avoids, stage⟩ := serves.after
  refine ⟨far, slot', frames, (Sends.of_still h).trans sends, answers,
    fun names before => avoids names ?_, stage⟩
  exact (Sends.of_still h).avoids before fun k task other found => ⟨other, h.tasks ▸ found⟩

/-- A frame of the stream comes: the request, or a request for more. -/
theorem handle_serves (v : o.Valid) (server : e.connection.side = .server)
    (odd : o.id.toNat % 2 = 1) (accepts : e.connection.queue.accepts = true)
    (yields : (e.application.onStream o.request).Yields o.payloads o.failure)
    (answers : Answers o e far slot) {frame : Frame}
    (stage : o.Stage s (frame :: up) down got ended far) :
    Serves o s up down got ended slot e (e.handle frame) := by
  cases answers with
  | unasked lacks =>
    obtain ⟨rfl, t, named, received, next⟩ := stage.request v yields
    refine .silent (handle_opens lacks server odd rfl rfl (received _) named rfl
      fun g same => ?_) next
    rw [← same]
    exact g.start_items _ o.request
  | @sending j k t p held holds task =>
    obtain ⟨rfl, goes, named, on, next⟩ := stage.grant v
    have takes : Connection.Takes t (t.grant o.batch.toNat) (.requestN t.id o.batch) :=
      .requestN rfl
    rw [holds.named] at takes
    exact .silent ((handle_leads holds v.nonzero goes accepts named takes).stays (.busy task)) next
  | finished gone =>
    obtain ⟨rfl, next⟩ := stage.late
    rw [handle_late gone]
    refine ⟨_, none, [], .of_still (.refl e), .finished gone, fun _ avoids => avoids, ?_⟩
    rw [List.filterMap_nil, List.append_nil]
    exact next

section Sending

variable {j : Nat} {p : Producer} (v : o.Valid) (active : e.connection.isActive = true)
  (accepts : e.connection.queue.accepts = true) (holds : e.connection.Holds o.id j t)

include v active accepts holds

/-- The task sends the item that it has, as soon as there is credit for it. -/
theorem stepSend_offers {payload : Payload}
    (task : e.tasks[k]? = some (some (.send j p (some payload))))
    (stage : o.Stage s up down got ended (.sending t p (some payload))) :
    Serves o s up down got ended (some k) e (e.stepSend k j p (some payload)).1 := by
  have answering := stage.answering
  have goes_on (u : Exchange) : t.isOver = true → u.isOver = true := by simp [answering.isOver]
  unfold stepSend
  rw [goes_of_running active holds answering.stopped, if_neg Bool.false_ne_true]
  dsimp only
  rcases stage.offer with ⟨u, named, goes, offered, next⟩ | ⟨u, named, goes, offered, item, next⟩
  · rw [holds.stream, offered]
    have leads : Leads o.id j u [] e (e.mapConnection (·.commit j u [])) :=
      .of_commit holds named (goes_on u) accepts (by simp) rfl rfl rfl rfl rfl
    exact .silent (leads.stays (.busy task)) next
  · rw [holds.stream, offered]
    have leads : Leads o.id j u [.payload (.item o.id payload)] e
        (e.mapConnection (·.commit j u [.payload (.item o.id payload)])) :=
      .of_commit holds named (goes_on u) accepts (by simp [Frame.id, PayloadFrame.item])
        rfl rfl rfl rfl rfl
    refine .sends (leads.keeps task (.send j p none)) ?_
    rw [List.filterMap_cons, landed_item v.stream (v.payloads payload item)]
    exact next

/-- The task has no item, and asks its handler for the next one. -/
theorem stepSend_fetches (task : e.tasks[k]? = some (some (.send j p none)))
    (stage : o.Stage s up down got ended (.sending t p none)) :
    Serves o s up down got ended (some k) e (e.stepSend k j p none).1 := by
  have answering := stage.answering
  obtain ⟨_, left, yields, answered⟩ := stage.pulled
  obtain ⟨still, told⟩ := pull_yields (e := e) (i := j) yields
    (by rw [holds.stream, answering.consumer])
  unfold stepSend
  rw [goes_of_running active holds answering.stopped, if_neg Bool.false_ne_true]
  generalize e.pull j p = result at still told
  obtain ⟨answer, q, f⟩ := result
  have next := answered _ _ told
  have kept (held : Option Payload) := (Leads.of_still holds still).keeps task (.send j q held)
  have leaves {m : Exchange → Exchange × List Frame} (left : (m t).1.id = o.id ∧
      (m t).1.isOver = true ∧ (m t).2 = [o.farewell] ∧ (m t).1.consumer = none)
      (next : ∀ last, o.farewell.landed = some last →
        o.Stage s up (down ++ [last]) got ended .finished) :
      Serves o s up down got ended (some k) e
        ((f.mapConnection (·.stepWriting j m)).finishProducing k j q).1 := by
    obtain ⟨named, finished, frames, gone⟩ := left
    have leads : Leads o.id j (m t).1 [o.farewell] e
        (f.mapConnection (·.stepWriting j m)) := by
      refine .of_commit holds named (by simp [answering.isOver]) accepts
        (by simp [o.id_farewell]) ?_ still.application still.requests still.kept still.tasks
      rw [mapConnection, still.connection, Connection.stepWriting, holds.stream, ← frames]
    exact .over v finished (leads.leaves task (.inr gone)) next
  dsimp only
  cases answer with
  | waiting => exact .silent (kept none) next
  | again => exact .silent (kept none) next
  | item item =>
    cases item with
    | ok payload => exact .silent (kept (some payload)) next
    | error failure => exact leaves (answering.failLocally next.1) next.2
  | ended => exact leaves (answering.complete next.1) next.2

end Sending

/-- The task that sends on the stream makes a step. -/
theorem stepWork_serves (v : o.Valid) (active : e.connection.isActive = true)
    (accepts : e.connection.queue.accepts = true) (answers : Answers o e far (some k))
    (stage : o.Stage s up down got ended far) :
    Serves o s up down got ended (some k) e (e.stepWork k).1 := by
  cases answers with
  | @sending j _ t p held holds task =>
    have step : e.stepWork k = e.stepSend k j p held := by
      rw [stepWork, task, Option.join_some]
    rw [step]
    cases held with
    | some payload => exact stepSend_offers v active accepts holds task stage
    | none => exact stepSend_fetches v active accepts holds task stage

end StreamMux.Endpoint
