import StreamMux.Proofs.Endpoint.Advancing
import StreamMux.Proofs.Endpoint.Leaving
import StreamMux.Proofs.World.Turn

/-!
# How a stream comes to pass

Before the application asks for its first item, no end has anything to do with the id that the
stream will get, nor with any other that was not given out (`Untouched`). The first item that is
asked for opens the stream under such an id (`act_unopened`).
-/
namespace StreamMux

/-! ### The first item -/

namespace Endpoint

variable {name : String} {e f : Endpoint} {opening : Opening} {batch : UInt32}

/-- Asking for a stream or a channel under a free name keeps the request for later. -/
theorem perform_call (free : e.request? name = none) (chosen : Option UInt32) :
    e.perform (opening.call name chosen) =
      (.unopened, e.setRequest name (.unopened opening (e.batchSize chosen))) := by
  unfold Opening.call
  cases opening with
  | stream payload =>
    unfold perform requestStream keepRequest
    dsimp only
    rw [free]
  | channel source =>
    unfold perform requestChannel keepRequest
    dsimp only
    rw [free]

/-- A stream is opened: its request is enqueued, and no task works for it. -/
theorem open_stream {payload : Payload} {i : Nat}
    (made : e.open (.stream payload) batch = (.ok i, f)) : f.clock = e.clock ∧
    ∃ own, e.connection.spent f.connection = [own] ∧ own ≠ 0 ∧ low31 own = own ∧
      own.toNat % 2 = e.connection.ids.counter.toNat % 2 ∧
      (e.connection.Lacks own → e.connection.queue.accepts = true →
        Advances own none i (.requesterStream batch own) none
          [.payload (.requestStream own batch payload)] e f) := by
  unfold «open» at made
  dsimp only at made
  split at made
  next j d registered =>
    cases made
    obtain ⟨own, spends, nonzero, low, parity, grows, holds, waiting⟩ :=
      Connection.requestStream_holds registered
    refine ⟨rfl, own, spends, nonzero, low, parity, fun lacks accepts => ?_⟩
    rw [accepts, if_pos rfl] at waiting
    have sends : Sends own [.payload (.requestStream own batch payload)] e
        { e with connection := d } :=
      { grows, waiting, application := rfl, requests := rfl, kept := rfl
        own := by simp [Frame.id, PayloadFrame.requestStream] }
    exact { sends with
      holds := holds lacks
      later := ⟨none, .idle, fun names avoids =>
        sends.avoids avoids fun k task unset there => ⟨unset, there⟩⟩ }
  · cases made

/-- A channel is opened: nothing is enqueued, and a task awaits its first item. -/
theorem open_channel {source : Source} {i : Nat}
    (made : e.open (.channel source) batch = (.ok i, f)) : f.clock = e.clock ∧
    ∃ own, e.connection.spent f.connection = [own] ∧ own ≠ 0 ∧ low31 own = own ∧
      own.toNat % 2 = e.connection.ids.counter.toNat % 2 ∧
      (e.connection.Lacks own → Advances own none i (.requesterChannel batch own)
        (some (.openChannel i batch { tail := source })) [] e f) := by
  unfold «open» at made
  dsimp only at made
  split at made
  next j d registered =>
    cases made
    obtain ⟨own, spends, nonzero, low, parity, grows, _, _, _, holds, waiting⟩ :=
      Connection.register_holds (fun _ => rfl) (fun _ => rfl) registered
    refine ⟨rfl, own, spends, nonzero, low, parity, fun lacks => ?_⟩
    let task : Task := .openChannel i batch { tail := source }
    have sends : Sends own [] e (({ e with connection := d } : Endpoint).spawn task) :=
      { grows, own := by simp, application := rfl, requests := rfl, kept := rfl
        waiting := by rw [List.append_nil]; exact waiting }
    refine { sends with
      holds := holds lacks
      later := ⟨some e.tasks.size, .busy ?_, fun names avoids =>
        sends.avoids avoids fun k task other found => ?_⟩ }
    · rw [task_spawn, if_pos rfl]
    · rw [task_spawn, if_neg fun same => other (by rw [same])] at found
      exact ⟨by simp, found⟩
  · cases made
  · cases made

/-- What is opened gets the next free id. -/
theorem open_ok {i : Nat} (made : e.open opening batch = (.ok i, f)) : f.clock = e.clock ∧
    ∃ own, e.connection.spent f.connection = [own] ∧ own ≠ 0 ∧ low31 own = own ∧
      own.toNat % 2 = e.connection.ids.counter.toNat % 2 := by
  cases opening with
  | stream payload =>
    obtain ⟨clock, own, spends, nonzero, low, parity, _⟩ := open_stream made
    exact ⟨clock, own, spends, nonzero, low, parity⟩
  | channel source =>
    obtain ⟨clock, own, spends, nonzero, low, parity, _⟩ := open_channel made
    exact ⟨clock, own, spends, nonzero, low, parity⟩

/-- Asking for the first item opens the stream, and is then like asking an open one. -/
theorem perform_unopened {i : Nat} (unopened : e.request? name = some (.unopened opening batch))
    (made : e.open opening batch = (.ok i, f)) (limit : Nat) :
    e.perform (.poll name (limit + 1)) =
      (f.setRequest name (.opened i)).perform (.poll name (limit + 1)) := by
  unfold perform pollNamed
  dsimp only
  rw [unopened, request?_setRequest_same, takeItems_made unopened made]

/-- What cannot be opened is refused. -/
theorem perform_refused {cause : Failure}
    (unopened : e.request? name = some (.unopened opening batch))
    (made : e.open opening batch = (.error (.failed cause), f)) (limit : Nat) :
    (e.perform (.poll name (limit + 1))).2.request? name = some .refused := by
  unfold perform pollNamed
  dsimp only
  rw [unopened]
  dsimp only
  rw [(takeItems_unmade unopened made limit).2, request?_setRequest_same]

/-- While an id is looked for the caller waits. -/
theorem perform_endless (unopened : e.request? name = some (.unopened opening batch))
    (endless : (e.open opening batch).1 = .error .endless) (limit : Nat) :
    e.perform (.poll name (limit + 1)) = (.items [] .pending none, e) := by
  have searches : e.Searches name := ⟨opening, batch, unopened, endless⟩
  unfold perform pollNamed
  dsimp only
  rw [unopened]
  dsimp only
  rw [searches.takeItems, streamId?, unopened]

end Endpoint

namespace World

/-- Neither end has anything to do with an id, and no frame with it is on its way. -/
structure Untouched (id : UInt32) (name : String) (a : Application) (config : ConnectionConfig)
    (w : World) : Prop where
  aside : w.Aside id name fun _ => none
  lacks : ∀ {here e}, w.endpoint? here = some e → e.connection.Lacks id
  silent : ∀ here, w.flow here id = []
  there : ∃ f, w.endpoint? .far = some f ∧ f.application = a ∧ f.connection.config = config

variable {id : UInt32} {name : String} {a : Application} {config : ConnectionConfig} {w w' : World}

theorem Untouched.apart (h : w.Untouched id name a config) (live : w.Live)
    (apart : w.Apart id name (fun _ => none) w') : w'.Untouched id name a config where
  aside := apart.aside h.aside live
  lacks {here f} now := by
    obtain ⟨e, found, _⟩ := live here
    obtain ⟨g, same, keeps⟩ := apart.ends found
    rw [now, Option.some.injEq] at same
    exact same ▸ keeps.lacks (h.lacks found)
  silent here := by rw [apart.flow, h.silent]
  there := by
    obtain ⟨f, found, application, config⟩ := h.there
    obtain ⟨g, same, keeps⟩ := apart.ends found
    exact ⟨g, same, keeps.application.trans application, keeps.config.trans config⟩

theorem Untouched.turn (h : w.Untouched id name a config) (live : w.Live)
    (turn : Turn id name (fun _ => none) w w') : w'.Untouched id name a config := by
  cases turn with
  | apart apart => exact h.apart live apart
  | reads here found found' other named first writes =>
    rw [h.silent] at first
    contradiction
  | works here k mine => contradiction

/-! ### Before the first item -/

/-- Steps leave the request alone. -/
theorem Step.request (next : Step name w w') : w'.near.request? name = w.near.request? name := by
  cases next with
  | task here task =>
    cases here with
    | near =>
      unfold stepTask endpoint?
      cases task with
      | write => exact (Endpoint.stepWrite_leaves _ _).request_same name
      | read => exact (Endpoint.stepRead_leaves _ _).request_same name
      | watch => exact (Endpoint.stepWatch_leaves _).request_same name
      | work k => exact (Endpoint.stepWork_leaves _ k).request_same name
    | far =>
      unfold stepTask endpoint?
      dsimp only
      split
      · rfl
      · cases task <;> rfl
  | passes now => rfl
  | calls here call other =>
    cases here with
    | near =>
      unfold act endpoint?
      exact (Endpoint.perform_leaves { w.near with clock := w.clock } call).request name (other rfl)
    | far =>
      unfold act endpoint?
      dsimp only
      split
      · rfl
      · rfl

/-- The application asks for the stream. -/
theorem Untouched.asks (h : w.Untouched id name a config) {e : Endpoint}
    (own : w'.endpoint? .near = some e) (same : e.connection = w.near.connection)
    (other : w'.endpoint? .far = w.endpoint? .far) (writes : ∀ here, w'.writes here = w.writes here)
    (requests : ∀ n, name ≠ n → e.request? n = w.near.request? n) (kept : e.kept = w.near.kept)
    (tasks : e.tasks = w.near.tasks) : w'.Untouched id name a config := by
  have found : w.endpoint? .near = some w.near := rfl
  have grows : w.near.connection.Grows e.connection := by
    rw [same]
    exact .refl _
  have avoids : e.Avoids id (some name) none :=
    (h.aside.avoids found).grows grows (fun n unset => requests n fun eq => unset (congrArg _ eq))
      kept fun k task unset there => ⟨unset, tasks ▸ there⟩
  refine ⟨h.aside.grows found own other grows avoids (by simp) rfl,
    fun {here f} now => ?_, fun here => ?_, ?_⟩
  · cases here with
    | near =>
      rw [own, Option.some.injEq] at now
      rw [← now, same]
      exact h.lacks found
    | far => exact h.lacks (other ▸ now)
  · cases here with
    | near =>
      have before := h.silent .near
      rw [flow_eq found] at before
      rw [flow_eq own, writes, same, before]
    | far => rw [flow_same other (writes .far), h.silent]
  · rw [other]
    exact h.there

/-- The application asks for no item, or the request is not there. -/
theorem Untouched.rests (h : w.Untouched id name a config) (wire : low31 id = id) (live : w.Live)
    (act : Endpoint → Reply × Endpoint) {reply : Reply}
    (acts : act w.present = (reply, w.present)) :
    (w.act .near act).2.Untouched id name a config := by
  rw [act_near acts]
  have becomes : w.Becomes .near w.present _ _
      { w.setEndpoint .near w.present with clock := w.clock } := becomes_of_set rfl
  exact h.apart live (becomes.apart_of_end rfl wire (.refl _ _ _ _) rfl)

/-- The near end when its stream was just opened. -/
def opening (w : World) (name : String) (i : Nat) (e : Endpoint) : World :=
  { w.setEndpoint .near (e.setRequest name (.opened i)) with clock := w.clock }

theorem request?_opening (w : World) (name : String) (i : Nat) (e : Endpoint) (n : String) :
    (w.opening name i e).near.request? n = if n = name then some (.opened i) else e.request? n :=
  Endpoint.request?_setRequest e name n (.opened i)

/-- Asking for the first items is like opening the stream and then asking for them. -/
theorem act_unopened {opening : Opening} {batch : UInt32} {i : Nat} {e : Endpoint}
    (unopened : w.near.request? name = some (.unopened opening batch))
    (made : w.present.open opening batch = (.ok i, e)) (limit : Nat) :
    w.act .near (·.perform (.poll name (limit + 1))) =
      (w.opening name i e).act .near (·.perform (.poll name (limit + 1))) := by
  have first := Endpoint.perform_unopened (e := w.present) unopened made limit
  have clock : e.clock = w.clock := (Endpoint.open_ok made).1
  have present : (w.opening name i e).present = e.setRequest name (.opened i) := by
    unfold World.present World.opening
    rw [← clock]
    rfl
  rw [← present] at first
  generalize performed : (w.opening name i e).present.perform (.poll name (limit + 1)) = result
    at first
  obtain ⟨reply, f⟩ := result
  rw [act_near first, act_near performed]
  rfl

/-- What can be said of a stream that was just opened. -/
structure Opened (id : UInt32) (name : String) (i : Nat) (t : Exchange) (task : Option Task)
    (frames : List Frame) (slot : Option Nat) (w : World) : Prop where
  aside : w.Aside id name (between slot none)
  request : w.near.request? name = some (.opened i)
  holds : w.near.connection.Holds id i t
  runs : w.near.Runs task slot
  up : w.flow .near id = frames.filterMap Frame.landed
  down : w.flow .far id = []

theorem Untouched.opened {i : Nat} {t : Exchange} {task : Option Task} {frames : List Frame}
    {e : Endpoint} (h : w.Untouched id name a config) (wire : low31 id = id)
    (advances : Endpoint.Advances id none i t task frames w.present e) :
    ∃ slot, Opened id name i t task frames slot (w.opening name i e) := by
  have still := w.present_still
  have advances := advances.of_still still
  obtain ⟨slot, runs, avoids⟩ := advances.later
  have found : w.endpoint? .near = some w.near := rfl
  have now := (w.opening name i e).endpoint?_near
  have other : (w.opening name i e).endpoint? .far = w.endpoint? .far := rfl
  have writes (here : End) : (w.opening name i e).writes here = w.writes here := by
    cases here <;> rfl
  have opened : (w.opening name i e).near.request? name = some (.opened i) := by
    rw [request?_opening, if_pos rfl]
  have avoids : (w.opening name i e).near.Avoids id (some name) slot := by
    have before := avoids (some name) (h.aside.avoids found)
    refine ⟨fun n request unset there => ?_, before.tasks, before.kept⟩
    rw [request?_opening, if_neg fun same => unset (by rw [same])] at there
    exact before.requests n request unset there
  have up := flow_sends wire found now (writes .near) advances.waiting advances.own
  rw [h.silent, List.nil_append] at up
  refine ⟨slot, h.aside.grows found now other advances.grows avoids runs.bound rfl, opened,
    advances.holds, runs.of_tasks rfl, up, ?_⟩
  rw [flow_same other (writes .far), h.silent]

end World
end StreamMux
