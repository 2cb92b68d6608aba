import StreamMux.Proofs.World.Run

/-!
# Steps apart from one stream

Whatever an end does that is not about a stream, it keeps all that can be said of the stream
(`Endpoint.Keeps`), and the frames on their way for it. So does a world that makes such a step
(`World.Keeps`).
-/
namespace StreamMux

/-- A connection of one side that is at work. -/
structure Connection.Healthy (side : Side) (c : Connection) : Prop where
  role : c.side = side
  accepts : c.queue.accepts = true
  placed : c.Placed
  level : ∀ f ∈ c.queue.priority.toList, f.id = 0
  parity : c.ids.counter.toNat % 2 = if side = Side.client then 1 else 0

theorem Connection.Healthy.grows {side : Side} {c d : Connection} (h : c.Healthy side)
    (grows : c.Grows d) : d.Healthy side where
  role := grows.side.trans h.role
  accepts := grows.accepts.trans h.accepts
  placed := grows.placed h.placed
  level f hf := by
    obtain ⟨added, eq, level⟩ := grows.priority
    rw [eq] at hf
    rcases List.mem_append.mp hf with old | new
    · exact h.level f old
    · exact level f new
  parity := grows.parity.trans h.parity

namespace Endpoint

/-- All that can be said of a stream, and of what is set aside for it, holds on. -/
structure Keeps (id : UInt32) (name : Option String) (slot : Option Nat) (e f : Endpoint) :
    Prop where
  healthy : ∀ {side}, e.connection.Healthy side → f.connection.Healthy side
  holds : ∀ {i s}, e.connection.Holds id i s → f.connection.Holds id i s
  lacks : e.connection.Lacks id → f.connection.Lacks id
  config : f.connection.config = e.connection.config
  registry : f.connection.registry.get? id = e.connection.registry.get? id
  application : f.application = e.application
  request : ∀ n, name = some n → f.request? n = e.request? n
  task : ∀ k, slot = some k → k < e.tasks.size → f.tasks[k]? = e.tasks[k]?
  size : e.tasks.size ≤ f.tasks.size
  avoids : e.Avoids id name slot → f.Avoids id name slot

variable {id : UInt32} {name : Option String} {slot : Option Nat} {e f g : Endpoint}

theorem Apart.keeps (wire : low31 id = id) (h : Apart id name slot e f) :
    Keeps id name slot e f where
  healthy healthy := healthy.grows h.connection.toGrows
  holds holds := holds.apart wire h.connection
  lacks lacks := lacks.apart h.connection
  config := h.connection.config
  registry := h.connection.registry
  application := h.application
  request := h.request
  task := h.task
  size := h.size
  avoids := h.avoids

theorem Keeps.trans (h : Keeps id name slot e f) (h' : Keeps id name slot f g) :
    Keeps id name slot e g where
  healthy healthy := h'.healthy (h.healthy healthy)
  holds holds := h'.holds (h.holds holds)
  lacks lacks := h'.lacks (h.lacks lacks)
  config := h'.config.trans h.config
  registry := h'.registry.trans h.registry
  application := h'.application.trans h.application
  request n eq := (h'.request n eq).trans (h.request n eq)
  task k eq bound := (h'.task k eq (Nat.lt_of_lt_of_le bound h.size)).trans (h.task k eq bound)
  size := Nat.le_trans h.size h'.size
  avoids avoids := h'.avoids (h.avoids avoids)

/-- Frames go off the queue. -/
theorem Keeps.of_queue {q : FrameQueue}
    (connection : f.connection = { e.connection with queue := q })
    (accepts : q.accepts = e.connection.queue.accepts)
    (priority : ∀ f ∈ q.priority.toList, f ∈ e.connection.queue.priority.toList)
    (application : f.application = e.application) (requests : f.requests = e.requests)
    (kept : f.kept = e.kept) (tasks : f.tasks = e.tasks) : Keeps id name slot e f where
  healthy h := by
    rw [connection]
    exact ⟨h.role, accepts.trans h.accepts, h.placed, fun f hf => h.level f (priority f hf),
      h.parity⟩
  holds h := by
    rw [connection]
    exact ⟨h.bound, h.stream, h.named, h.only, h.registered⟩
  lacks h := by
    rw [connection]
    exact ⟨h.absent, h.free⟩
  config := by rw [connection]
  registry := by rw [connection]
  application := application
  request n _ := by rw [request?, request?, requests]
  task k _ _ := by rw [tasks]
  size := Nat.le_of_eq (by rw [tasks])
  avoids h :=
    { requests := fun n r other found i place => by
        rw [request?, requests] at found
        rw [connection]
        exact h.requests n r other found i place
      tasks := fun k t other found i place => by
        rw [tasks] at found
        rw [connection]
        exact h.tasks k t other found i place
      kept := fun i keeps => by
        rw [kept] at keeps
        rw [connection]
        exact h.kept i keeps }

end Endpoint

/-! ### Writing -/

theorem dequeue_ok {q r : FrameQueue} {f : Frame} (h : q.dequeue = (.ready (.ok f), r)) :
    r.accepts = q.accepts ∧
      ((q.priority.toList = f :: r.priority.toList ∧ r.normal = q.normal) ∨
        (q.normal.toList = f :: r.normal.toList ∧ r.priority = q.priority)) := by
  unfold FrameQueue.dequeue FrameQueue.tryDequeue at h
  cases priority : q.priority.pop? with
  | some taken =>
    rw [priority] at h
    cases h
    exact ⟨rfl, .inl ⟨Fifo.pop?_eq_some priority, rfl⟩⟩
  | none =>
    rw [priority] at h
    cases normal : q.normal.pop? with
    | some taken =>
      rw [normal] at h
      cases h
      exact ⟨rfl, .inr ⟨Fifo.pop?_eq_some normal, rfl⟩⟩
    | none =>
      rw [normal] at h
      dsimp only [Option.map] at h
      split at h
      · cases h
      · cases h

namespace Endpoint

variable {id : UInt32} {name : Option String} {slot : Option Nat} {e : Endpoint}

/-- The frame that is taken off the queue and what is left make up what was on the way. -/
theorem onTheWay_dequeue {side : Side} {q : FrameQueue} {frame : Frame} {pipe pipe' : Pipe}
    (nonzero : id ≠ 0) (healthy : e.connection.Healthy side)
    (taken : e.connection.queue.dequeue = (.ready (.ok frame), q))
    (written : pipe'.frames.toList.filterMap Frame.read? =
      pipe.frames.toList.filterMap Frame.read? ++ frame.landed.toList) :
    World.onTheWay id pipe' { e.connection with queue := q } =
      World.onTheWay id pipe e.connection := by
  have single : frame.landed.toList = [frame].filterMap Frame.landed := by
    cases landed : frame.landed with
    | none => simp [landed]
    | some g => simp [landed]
  rw [single] at written
  obtain ⟨_, ⟨first, same⟩ | ⟨first, _⟩⟩ := dequeue_ok taken
  · have other : ([frame].filterMap Frame.landed).filter (·.id = id) = [] := by
      refine World.landed_others fun f hf => ?_
      rw [List.mem_singleton.mp hf, healthy.level frame (by rw [first]; simp)]
      exact Ne.symm nonzero
    simp only [World.onTheWay, Connection.waiting, same, written, List.filter_append, other,
      List.append_nil]
  · have front : frame :: q.normal.toList = [frame] ++ q.normal.toList := rfl
    simp only [World.onTheWay, Connection.waiting, first, written, front, List.filterMap_append,
      List.append_assoc]

/-- A frame is written or passed over. What waited for the transport is on it now. -/
theorem stepWrite_keeps {side : Side} {out : Pipe} (nonzero : id ≠ 0)
    (healthy : e.connection.Healthy side)
    (live : (e.stepWrite out).1.connection.isActive = true) :
    Keeps id name slot e (e.stepWrite out).1 ∧
      World.onTheWay id (e.stepWrite out).2.1 (e.stepWrite out).1.connection =
        World.onTheWay id out e.connection := by
  have still : Keeps id name slot e e :=
    .of_queue rfl rfl (fun _ h => h) rfl rfl rfl rfl
  unfold stepWrite at live ⊢
  split
  · exact ⟨still, rfl⟩
  · exact ⟨.of_queue rfl rfl (fun _ h => h) rfl rfl rfl rfl, rfl⟩
  next frame queue taken =>
    obtain ⟨accepts, lanes⟩ := dequeue_ok taken
    have fewer : ∀ f ∈ queue.priority.toList, f ∈ e.connection.queue.priority.toList := by
      rcases lanes with ⟨first, _⟩ | ⟨_, same⟩
      · rw [first]
        exact fun f hf => List.mem_cons_of_mem _ hf
      · rw [same]
        exact fun f hf => hf
    rw [taken] at live
    dsimp only at live ⊢
    cases written : frame.encode with
    | error problem =>
      refine ⟨.of_queue rfl accepts fewer rfl rfl rfl rfl,
        onTheWay_dequeue nonzero healthy taken ?_⟩
      simp [Frame.landed, written, Except.toOption]
    | ok bytes =>
      rw [written] at live
      dsimp only at live ⊢
      cases put : out.write bytes with
      | error cause =>
        rw [put] at live
        simp [stopWriting, mapConnection, Connection.isActive_teardown] at live
      | ok pipe =>
        refine ⟨.of_queue rfl accepts fewer rfl rfl rfl rfl,
          onTheWay_dequeue nonzero healthy taken ?_⟩
        unfold Pipe.write at put
        split at put
        · cases put
          simp only [Fifo.toList_push, List.filterMap_append, Frame.landed, written]
          cases read : Frame.read? bytes with
          | none => simp [Except.toOption, read]
          | some g => simp [Except.toOption, read]
        · contradiction

/-! ### Reading -/

/-- Nothing comes of what is read, or it is a frame. -/
theorem stepRead_ok {inp : Pipe} (active : e.connection.isActive = true)
    (live : (e.stepRead inp).1.connection.isActive = true) :
    (e.Still (e.stepRead inp).1 ∧ (e.stepRead inp).2.1.frames.toList.filterMap Frame.read? =
      inp.frames.toList.filterMap Frame.read?) ∨
    ∃ frame, low31 frame.id = frame.id ∧ (e.stepRead inp).1 = e.handle frame ∧
      inp.frames.toList.filterMap Frame.read? =
        frame :: (e.stepRead inp).2.1.frames.toList.filterMap Frame.read? := by
  unfold stepRead at live ⊢
  rw [active] at live ⊢
  rw [if_neg (by simp)] at live ⊢
  unfold Pipe.read at live ⊢
  cases popped : inp.frames.pop? with
  | none =>
    rw [popped] at live
    dsimp only at live ⊢
    by_cases more : inp.writerOpen = true
    · rw [if_pos more]
      exact .inl ⟨.refl e, rfl⟩
    · rw [if_neg more] at live
      simp [stopReading, mapConnection, Connection.isActive_teardown] at live
  | some taken =>
    obtain ⟨bytes, frames⟩ := taken
    have first := Fifo.pop?_eq_some popped
    rw [popped] at live
    dsimp only at live ⊢
    cases decoded : Frame.decode bytes with
    | ok frame =>
      refine .inr ⟨frame, low31_decode decoded, rfl, ?_⟩
      rw [first, List.filterMap_cons]
      simp [Frame.read?, decoded, Except.toOption]
    | error problem =>
      rw [decoded] at live
      dsimp only at live ⊢
      split
      · refine .inl ⟨.refl e, ?_⟩
        rw [first, List.filterMap_cons]
        simp [Frame.read?, decoded, Except.toOption]
      next fatal =>
        rw [if_neg fatal] at live
        simp [stopReading, mapConnection, Connection.isActive_terminate] at live

end Endpoint
end StreamMux
