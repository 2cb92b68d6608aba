import StreamMux.Proofs.Connection.HalfClose
import StreamMux.Proofs.Exchange.Own
import StreamMux.Proofs.Frame.RoundTrip

/-!
# What happens apart from one stream

A connection carries many streams. Most of what happens is about others than the stream of a given
id, and then nothing that can be seen under the id changes: neither its stream, nor what is
registered under it, nor its frames among those that wait (`Apart`). Ids are compared as they go
over the wire, where they have no top bit.
-/
namespace StreamMux

namespace Connection

/-- The frames of streams that wait to be written. -/
def waiting (c : Connection) : List Frame := c.queue.normal.toList

/-- What the registry holds are places of streams, under the ids of the streams. -/
def Placed (c : Connection) : Prop :=
  ∀ {id : UInt32} {i : Nat}, c.registry.get? id = some i →
    i < c.streams.size ∧ (c.stream i).id = id

/-- The stream at a place has another id. -/
def Beside (id : UInt32) (c : Connection) (i : Nat) : Prop :=
  i < c.streams.size ∧ low31 (c.stream i).id ≠ id

/-- The connection goes on: nothing that it has is lost, and it is not over. -/
structure Grows (c d : Connection) : Prop where
  side : d.side = c.side
  config : d.config = c.config
  terminal : d.terminal = c.terminal
  accepts : d.queue.accepts = c.queue.accepts
  parity : d.ids.counter.toNat % 2 = c.ids.counter.toNat % 2
  placed : c.Placed → d.Placed
  size : c.streams.size ≤ d.streams.size
  names : ∀ j < c.streams.size, (d.stream j).id = (c.stream j).id
  priority : ∃ added, d.queue.priority.toList = c.queue.priority.toList ++ added ∧
    ∀ f ∈ added, f.id = 0

/-- What happened between two states of a connection is about other streams than that of an id. -/
structure Apart (id : UInt32) (c d : Connection) : Prop extends c.Grows d where
  same : ∀ j < c.streams.size, low31 (c.stream j).id = id → d.stream j = c.stream j
  fresh : ∀ j, c.streams.size ≤ j → j < d.streams.size → low31 (d.stream j).id ≠ id
  registry : d.registry.get? id = c.registry.get? id
  waiting : ∃ added, d.waiting = c.waiting ++ added ∧ ∀ f ∈ added, low31 f.id ≠ id

/-- The stream of an id: where it is, and that no other has the id. -/
structure Holds (id : UInt32) (c : Connection) (i : Nat) (s : Exchange) : Prop where
  bound : i < c.streams.size
  stream : c.stream i = s
  named : s.id = id
  only : ∀ j < c.streams.size, j ≠ i → low31 (c.stream j).id ≠ id
  registered : c.registry.get? id = if s.isOver then none else some i

/-- No stream has the id. -/
structure Lacks (id : UInt32) (c : Connection) : Prop where
  absent : ∀ j < c.streams.size, low31 (c.stream j).id ≠ id
  free : c.registry.get? id = none

variable {id : UInt32} {c d e : Connection}

theorem Grows.refl (c : Connection) : c.Grows c where
  side := rfl
  config := rfl
  terminal := rfl
  accepts := rfl
  parity := rfl
  placed h := h
  size := Nat.le_refl _
  names _ _ := rfl
  priority := ⟨[], (List.append_nil _).symm, by simp⟩

theorem Grows.trans (h : c.Grows d) (h' : d.Grows e) : c.Grows e where
  side := h'.side.trans h.side
  config := h'.config.trans h.config
  terminal := h'.terminal.trans h.terminal
  accepts := h'.accepts.trans h.accepts
  parity := h'.parity.trans h.parity
  placed hc := h'.placed (h.placed hc)
  size := Nat.le_trans h.size h'.size
  names j hj := (h'.names j (Nat.lt_of_lt_of_le hj h.size)).trans (h.names j hj)
  priority := by
    obtain ⟨first, eq, level⟩ := h.priority
    obtain ⟨second, eq', level'⟩ := h'.priority
    refine ⟨first ++ second, by rw [eq', eq, List.append_assoc], fun f hf => ?_⟩
    rcases List.mem_append.mp hf with old | new
    · exact level f old
    · exact level' f new

/-- Another stream stays another one. -/
theorem Grows.beside (h : c.Grows d) {j : Nat} (other : c.Beside id j) : d.Beside id j := by
  refine ⟨Nat.lt_of_lt_of_le other.1 h.size, ?_⟩
  rw [h.names j other.1]
  exact other.2

namespace Apart

theorem refl (id : UInt32) (c : Connection) : Apart id c c where
  toGrows := .refl c
  same _ _ _ := rfl
  fresh _ past placed := absurd placed (Nat.not_lt_of_le past)
  registry := rfl
  waiting := ⟨[], (List.append_nil _).symm, by simp⟩

theorem trans (h : Apart id c d) (h' : Apart id d e) : Apart id c e where
  toGrows := h.toGrows.trans h'.toGrows
  same j hj named := by
    have later := h'.same j (Nat.lt_of_lt_of_le hj h.size) (by rw [h.names j hj, named])
    rw [later, h.same j hj named]
  fresh j past placed := by
    by_cases early : j < d.streams.size
    · rw [h'.names j early]
      exact h.fresh j past early
    · exact h'.fresh j (Nat.le_of_not_lt early) placed
  registry := h'.registry.trans h.registry
  waiting := by
    obtain ⟨first, eq, others⟩ := h.waiting
    obtain ⟨second, eq', others'⟩ := h'.waiting
    refine ⟨first ++ second, by rw [eq', eq, List.append_assoc], fun f hf => ?_⟩
    rcases List.mem_append.mp hf with old | new
    · exact others f old
    · exact others' f new

theorem beside (h : Apart id c d) {j : Nat} (other : c.Beside id j) : d.Beside id j :=
  h.toGrows.beside other

end Apart

theorem Holds.apart {i : Nat} {s : Exchange} (h : c.Holds id i s) (wire : low31 id = id)
    (apart : Apart id c d) : d.Holds id i s where
  bound := Nat.lt_of_lt_of_le h.bound apart.size
  stream := by
    rw [apart.same i h.bound (by rw [h.stream, h.named, wire]), h.stream]
  named := h.named
  only j hj different := by
    by_cases early : j < c.streams.size
    · rw [apart.names j early]
      exact h.only j early different
    · exact apart.fresh j (Nat.le_of_not_lt early) hj
  registered := apart.registry.trans h.registered

theorem Lacks.apart (h : c.Lacks id) (apart : Apart id c d) : d.Lacks id where
  absent j hj := by
    by_cases early : j < c.streams.size
    · rw [apart.names j early]
      exact h.absent j early
    · exact apart.fresh j (Nat.le_of_not_lt early) hj
  free := apart.registry.trans h.free

/-! ### One stream makes a step -/

theorem stream_commit_ne (c : Connection) {i j : Nat} {t : Exchange} {frames : List Frame}
    (different : j ≠ i) : (c.commit i t frames).stream j = c.stream j := by
  unfold commit stream
  dsimp only
  rw [Array.getElem?_setIfInBounds_ne (Ne.symm different)]

theorem placed_commit {i : Nat} {t : Exchange} {frames : List Frame} (h : c.Placed)
    (named : t.id = (c.stream i).id) : (c.commit i t frames).Placed := by
  intro id j found
  have held : c.registry.get? id = some j := by
    simp only [commit] at found
    split at found
    · rw [Registry.get?_erase] at found
      split at found
      · contradiction
      · exact found
    · exact found
  obtain ⟨bound, name⟩ := h held
  refine ⟨by rw [size_commit]; exact bound, ?_⟩
  by_cases same : j = i
  · subst same
    rw [stream_commit c bound, if_pos rfl, named, name]
  · rw [stream_commit_ne c same, name]

theorem waiting_commit (c : Connection) (i : Nat) (t : Exchange) (frames : List Frame) :
    (c.commit i t frames).waiting = c.waiting ++ if c.queue.accepts then frames else [] :=
  toList_foldl_enqueue frames c.queue

theorem grows_commit (c : Connection) (i : Nat) {t : Exchange} (frames : List Frame)
    (named : t.id = (c.stream i).id) : c.Grows (c.commit i t frames) where
  side := rfl
  config := rfl
  terminal := rfl
  accepts := accepts_commit c i t frames
  parity := rfl
  placed h := placed_commit h named
  size := Nat.le_of_eq (size_commit c i t frames).symm
  names j hj := by
    by_cases same : j = i
    · subst same
      rw [stream_commit c hj, if_pos rfl, named]
    · rw [stream_commit_ne c same]
  priority := ⟨[], by rw [List.append_nil]; exact congrArg _ (priority_foldl_enqueue _ _), by simp⟩

/-- Another stream makes a step. -/
theorem apart_commit {i : Nat} {t : Exchange} {frames : List Frame} (wire : low31 id = id)
    (other : c.Beside id i) (named : t.id = (c.stream i).id) (ids : ∀ f ∈ frames, f.id = t.id) :
    Apart id c (c.commit i t frames) where
  toGrows := grows_commit c i frames named
  same j _ name := by
    rw [stream_commit_ne]
    rintro rfl
    exact other.2 name
  fresh j past placed := by
    rw [size_commit] at placed
    exact absurd placed (Nat.not_lt_of_le past)
  registry := by
    have different : id ≠ (c.stream i).id := by
      intro same
      rw [same] at wire
      exact other.2 (wire.trans same.symm)
    simp only [commit]
    split
    · rw [Registry.get?_erase, if_neg different]
    · rfl
  waiting := by
    refine ⟨_, waiting_commit c i t frames, fun f hf => ?_⟩
    split at hf
    · rw [ids f hf, named]
      exact other.2
    · simp at hf

theorem apart_move {i : Nat} (wire : low31 id = id) (other : c.Beside id i)
    (m : Exchange.Move) : Apart id c (c.stepWriting i (m.apply ·)) := by
  have own := m.own (c.stream i)
  exact apart_commit wire other own.1 fun f hf => (own.2 f hf).trans own.1.symm

/-- The stream of an id makes a step itself. -/
theorem Holds.commit {i : Nat} {s t : Exchange} {frames : List Frame} (h : c.Holds id i s)
    (named : t.id = s.id) (mono : s.isOver = true → t.isOver = true) :
    (c.commit i t frames).Holds id i t where
  bound := by rw [size_commit]; exact h.bound
  stream := by rw [stream_commit c h.bound, if_pos rfl]
  named := named.trans h.named
  only j hj different := by
    rw [size_commit] at hj
    rw [stream_commit c h.bound, if_neg different]
    exact h.only j hj different
  registered := by
    have before := h.registered
    simp only [Connection.commit, h.stream]
    cases was : s.isOver with
    | true => simpa [was, mono was] using before
    | false =>
      cases now : t.isOver with
      | true => simp [h.named, Registry.get?_erase]
      | false => simpa [was] using before

/-- A step that makes no difference left the stream as it was, and had nothing to send. -/
theorem Holds.of_commit_same {i : Nat} {s t : Exchange} {frames : List Frame} (h : c.Holds id i s)
    (accepts : c.queue.accepts = true) (same : c.commit i t frames = c) : t = s ∧ frames = [] := by
  constructor
  · have placed := congrArg (Connection.stream · i) same
    rw [stream_commit _ h.bound, if_pos rfl, h.stream] at placed
    exact placed
  · have waiting := congrArg Connection.waiting same
    rw [waiting_commit, accepts, if_pos rfl] at waiting
    exact List.append_right_eq_self.mp waiting

/-! ### One stream more -/

/-- The id that was given out between two states, if one was. -/
def spent (c d : Connection) : List UInt32 :=
  if d.ids = c.ids then [] else [maskId d.ids.counter]

theorem spent_congr {d' : Connection} (same : d'.ids = d.ids) : c.spent d' = c.spent d := by
  rw [spent, spent, same]

theorem spent_of_next? {inUse : UInt32 → Bool} {ids : StreamIds}
    (found : c.ids.next? inUse = some (id, ids)) (same : d.ids = ids) : c.spent d = [id] := by
  rw [spent, same, if_neg (StreamIds.next?_ok found).moved, (StreamIds.next?_ok found).latest]

/-- An id that is given out has no top bit. -/
theorem low31_of_next? {ids ids' : StreamIds} {inUse : UInt32 → Bool}
    (h : ids.next? inUse = some (id, ids')) : low31 id = id :=
  ((isStreamId_iff id).mp (StreamIds.next?_ok h).stream).1

theorem placed_insert {ids : StreamIds} {t : Exchange} {registry : Registry Nat} (h : c.Placed)
    (inserted : c.registry.insert? t.id c.streams.size = some registry) :
    Placed { c with ids, registry, streams := c.streams.push t } := by
  intro id j found
  rw [Registry.get?_insert? inserted] at found
  rw [stream_push rfl rfl, Array.size_push]
  split at found
  next shared =>
    rw [← Option.some.inj found, if_pos rfl, shared]
    exact ⟨Nat.lt_succ_self _, rfl⟩
  next other =>
    obtain ⟨bound, name⟩ := h found
    rw [if_neg (Nat.ne_of_lt bound)]
    exact ⟨Nat.lt_succ_of_lt bound, name⟩

theorem grows_insert {ids : StreamIds} {t : Exchange} {registry : Registry Nat}
    (inserted : c.registry.insert? t.id c.streams.size = some registry)
    (parity : ids.counter.toNat % 2 = c.ids.counter.toNat % 2) :
    c.Grows { c with ids, registry, streams := c.streams.push t } where
  side := rfl
  config := rfl
  terminal := rfl
  accepts := rfl
  parity := parity
  placed h := placed_insert h inserted
  size := by rw [Array.size_push]; exact Nat.le_succ _
  names j hj := by rw [stream_push rfl rfl, if_neg (Nat.ne_of_lt hj)]
  priority := ⟨[], (List.append_nil _).symm, by simp⟩

/-- A stream of another id is placed and registered. -/
theorem apart_insert {ids : StreamIds} {t : Exchange} {registry : Registry Nat}
    (wire : low31 id = id)
    (inserted : c.registry.insert? t.id c.streams.size = some registry)
    (parity : ids.counter.toNat % 2 = c.ids.counter.toNat % 2) (other : low31 t.id ≠ id) :
    Apart id c { c with ids, registry, streams := c.streams.push t } where
  toGrows := grows_insert inserted parity
  same j hj _ := by rw [stream_push rfl rfl, if_neg (Nat.ne_of_lt hj)]
  fresh j past bound := by
    rw [Array.size_push] at bound
    rw [stream_push rfl rfl, if_pos (by omega)]
    exact other
  registry := by
    have different : id ≠ t.id := by
      intro same
      rw [same] at wire
      exact other (wire.trans same.symm)
    rw [Registry.get?_insert? inserted, if_neg different]
  waiting := ⟨[], (List.append_nil _).symm, by simp⟩

/-- A stream is placed and registered under an id that no other has. -/
theorem Lacks.insert {ids : StreamIds} {t : Exchange} {registry : Registry Nat}
    (h : c.Lacks t.id) (inserted : c.registry.insert? t.id c.streams.size = some registry)
    (goes : t.isOver = false) :
    Holds t.id { c with ids, registry, streams := c.streams.push t } c.streams.size t where
  bound := by
    rw [Array.size_push]
    exact Nat.lt_succ_self _
  stream := by rw [stream_push rfl rfl, if_pos rfl]
  named := rfl
  only j hj different := by
    rw [Array.size_push] at hj
    rw [stream_push rfl rfl, if_neg different]
    exact h.absent j (by omega)
  registered := by rw [Registry.get?_insert? inserted, if_pos rfl, goes, if_neg Bool.false_ne_true]

theorem grows_enqueue (c : Connection) (frame : Frame) : c.Grows (c.enqueue frame) where
  side := rfl
  config := rfl
  terminal := rfl
  accepts := accepts_enqueue _ _
  parity := rfl
  placed h := h
  size := Nat.le_refl _
  names _ _ := rfl
  priority := by
    refine ⟨[], ?_, by simp⟩
    rw [List.append_nil]
    exact congrArg Fifo.toList (priority_foldl_enqueue [frame] c.queue)

theorem apart_enqueue {frame : Frame} (other : low31 frame.id ≠ id) :
    Apart id c (c.enqueue frame) where
  toGrows := grows_enqueue c frame
  same _ _ _ := rfl
  fresh _ past bound := absurd bound (Nat.not_lt_of_le past)
  registry := rfl
  waiting := by
    refine ⟨_, toList_enqueue c.queue frame, fun f hf => ?_⟩
    split at hf
    · rw [List.mem_singleton.mp hf]
      exact other
    · simp at hf

/-- A frame of the connection as a whole is about no stream. -/
theorem apart_enqueuePriority (id : UInt32) (c : Connection) {frame : Frame}
    (level : frame.id = 0) : Apart id c (c.enqueuePriority frame) where
  side := rfl
  config := rfl
  terminal := rfl
  accepts := accepts_enqueuePriority _ _
  parity := rfl
  placed h := h
  size := Nat.le_refl _
  names _ _ := rfl
  priority := by
    unfold enqueuePriority FrameQueue.enqueuePriority
    split
    · exact ⟨[frame], Fifo.toList_push _ _, by simp [level]⟩
    · exact ⟨[], (List.append_nil _).symm, by simp⟩
  same _ _ _ := rfl
  fresh _ past bound := absurd bound (Nat.not_lt_of_le past)
  registry := rfl
  waiting := by
    refine ⟨[], ?_, by simp⟩
    rw [List.append_nil]
    exact congrArg Fifo.toList (normal_enqueuePriority _ _)

/-! ### Requests of this end -/

/-- A stream of this end under an id that is not the given one. -/
theorem apart_register {make : UInt32 → Exchange} {i : Nat} (wire : low31 id = id)
    (named : ∀ id, (make id).id = id) (made : c.register make = .ok (i, d))
    (other : id ∉ c.spent d) : Apart id c d ∧ d.Beside id i := by
  obtain ⟨_, own, ids, registry, found, inserted, rfl, rfl⟩ := register_ok named made
  rw [spent_of_next? found rfl, List.mem_singleton] at other
  have name : low31 (make own).id ≠ id := by
    rw [named, low31_of_next? found]
    exact Ne.symm other
  have parity := (StreamIds.next?_ok found).parity
  refine ⟨apart_insert wire (by rw [named]; exact inserted) parity name, ?_, ?_⟩
  · rw [Array.size_push]
    exact Nat.lt_succ_self _
  · rw [stream_push rfl rfl, if_pos rfl]
    exact name

/-- The stream is registered, and its request enqueued. -/
theorem apart_requested {make : UInt32 → Exchange} {i : Nat} (wire : low31 id = id)
    (named : ∀ id, (make id).id = id) (made : c.register make = .ok (i, d))
    (other : id ∉ c.spent d) {request : Frame} (bears : request.id = (d.stream i).id) :
    Apart id c (d.enqueue request) ∧ (d.enqueue request).Beside id i := by
  obtain ⟨apart, beside⟩ := apart_register wire named made other
  have added : Apart id d (d.enqueue request) := apart_enqueue (bears ▸ beside.2)
  exact ⟨apart.trans added, added.beside beside⟩

theorem requestResponse_apart {payload : Payload} {i : Nat} (wire : low31 id = id)
    (made : c.requestResponse payload = .ok (i, d)) (other : id ∉ c.spent d) :
    Apart id c d ∧ d.Beside id i := by
  unfold requestResponse at made
  obtain ⟨⟨i, e⟩, registered, eq⟩ := bind_ok made
  cases eq
  exact apart_requested wire (fun _ => rfl) registered other rfl

theorem requestStream_apart {batch : UInt32} {payload : Payload} {i : Nat} (wire : low31 id = id)
    (made : c.requestStream batch payload = .ok (i, d)) (other : id ∉ c.spent d) :
    Apart id c d ∧ d.Beside id i := by
  unfold requestStream at made
  obtain ⟨⟨i, e⟩, registered, eq⟩ := bind_ok made
  cases eq
  exact apart_requested wire (fun _ => rfl) registered other rfl

/-- A stream that this end registers is the one of the id that was given out. -/
theorem register_holds {make : UInt32 → Exchange} {i : Nat} (named : ∀ id, (make id).id = id)
    (goes : ∀ id, (make id).isOver = false) (made : c.register make = .ok (i, d)) :
    ∃ own, c.spent d = [own] ∧ own ≠ 0 ∧ low31 own = own ∧
      own.toNat % 2 = c.ids.counter.toNat % 2 ∧ c.Grows d ∧ (d.stream i).id = own ∧
      i = c.streams.size ∧ d.streams = c.streams.push (make own) ∧
      (c.Lacks own → d.Holds own i (make own)) ∧ d.waiting = c.waiting := by
  obtain ⟨_, own, ids, registry, found, inserted, rfl, rfl⟩ := register_ok named made
  have out := StreamIds.next?_ok found
  have inserted : c.registry.insert? (make own).id c.streams.size = some registry := by
    rw [named]
    exact inserted
  refine ⟨own, spent_of_next? found rfl, out.nonzero, low31_of_next? found, out.same,
    grows_insert inserted out.parity, ?_, rfl, rfl, fun lacks => ?_, rfl⟩
  · rw [stream_push rfl rfl, if_pos rfl, named]
  · have lacks : c.Lacks (make own).id := by
      rw [named]
      exact lacks
    have holds : Holds (make own).id
        { c with ids, registry, streams := c.streams.push (make own) } c.streams.size (make own) :=
      lacks.insert inserted (goes own)
    rw [named] at holds
    exact holds

/-- With the request for a stream the stream is registered. -/
theorem requestStream_holds {batch : UInt32} {payload : Payload} {i : Nat}
    (made : c.requestStream batch payload = .ok (i, d)) :
    ∃ own, c.spent d = [own] ∧ own ≠ 0 ∧ low31 own = own ∧
      own.toNat % 2 = c.ids.counter.toNat % 2 ∧ c.Grows d ∧
      (c.Lacks own → d.Holds own i (.requesterStream batch own)) ∧
      d.waiting = c.waiting ++
        if c.queue.accepts then [.payload (.requestStream own batch payload)] else [] := by
  unfold requestStream at made
  obtain ⟨⟨i, e⟩, registered, eq⟩ := bind_ok made
  cases eq
  obtain ⟨own, spends, nonzero, low, odd, grows, named, _, _, holds, waiting⟩ :=
    register_holds (fun _ => rfl) (fun _ => rfl) registered
  refine ⟨own, spends, nonzero, low, odd, grows.trans (grows_enqueue _ _), fun lacks => ?_, ?_⟩
  · have holds := holds lacks
    exact ⟨holds.bound, holds.stream, rfl, holds.only, holds.registered⟩
  · rw [named, ← waiting, ← grows.accepts]
    exact toList_enqueue e.queue _

theorem fireAndForget_apart {payload : Payload} (made : c.fireAndForget payload = .ok d)
    (other : id ∉ c.spent d) : Apart id c d := by
  unfold fireAndForget at made
  split at made
  · contradiction
  · split at made
    · contradiction
    next own ids found =>
      split at made
      · cases made
        rw [spent_of_next? found rfl, List.mem_singleton] at other
        have counted : Apart id c { c with ids } :=
          { side := rfl, config := rfl, terminal := rfl, accepts := rfl
            parity := (StreamIds.next?_ok found).parity
            placed := fun h => h, size := Nat.le_refl _, names := fun _ _ => rfl
            priority := (Grows.refl c).priority, same := fun _ _ _ => rfl
            fresh := (Apart.refl id c).fresh, registry := rfl
            waiting := (Apart.refl id c).waiting }
        refine counted.trans (apart_enqueue ?_)
        change low31 own ≠ id
        rw [low31_of_next? found]
        exact Ne.symm other
      · contradiction

theorem metadataPush_apart {metadata : ByteArray} (made : c.metadataPush metadata = .ok d) :
    Apart id c d := by
  unfold metadataPush at made
  split at made
  · contradiction
  · split at made
    · cases made
      exact apart_enqueuePriority id c rfl
    · contradiction

/-! ### The end -/

/-- What ends the connection leaves it inactive. -/
theorem isActive_teardown (c : Connection) (cause : Failure) :
    (c.teardown cause).isActive = false := by
  unfold teardown
  split
  next terminal => simp [isActive, terminal]
  · rfl

theorem isActive_terminate (c : Connection) (cause : Failure) :
    (c.terminate cause).isActive = false := by
  unfold terminate
  split
  next terminal => simp [isActive, terminal]
  · exact isActive_teardown _ _

theorem apart_tick {now : Duration} (live : (c.tick now).isActive = true) :
    Apart id c (c.tick now) := by
  unfold tick at live ⊢
  split at live
  · rw [isActive_terminate] at live
    contradiction
  next heard =>
    rw [if_neg heard]
    exact apart_enqueuePriority id c rfl

end Connection
end StreamMux
