import StreamMux.Proofs.Agreement.Link

/-!
# Frames between two ends

A frame that is written is read as one that says the same on the same stream, in one piece as it
was (`Frame.lands`). So the two ends agree as before when a frame goes onto the transport
(`Link.Agrees.writes`), and when it is read at its other end (`Link.Agrees.reads`).
-/
namespace StreamMux

/-! ### On the wire -/

/-- A frame on a stream arrives: it says what it said. -/
theorem Frame.lands {f : Frame} {bytes : ByteArray} (written : f.encode = .ok bytes)
    (whole : f.IsWhole) (stream : low31 f.id ≠ 0) :
    ∃ g, Frame.read? bytes = some g ∧ g.id = low31 f.id ∧ g.signal = f.signal ∧ g.IsWhole := by
  have read {g : Frame} (decoded : Frame.decode bytes = .ok g) : Frame.read? bytes = some g := by
    rw [Frame.read?, decoded]
    rfl
  cases f with
  | payload f =>
    refine ⟨_, read ((decode_payload written whole.2).trans (if_neg stream)), rfl, ?_, whole⟩
    obtain ⟨type, id, follows, complete, next, initial, payload⟩ := f
    cases type <;> cases complete <;> cases next <;> rfl
  | requestN id n =>
    exact ⟨_, read ((decode_requestN written).trans (if_neg stream)), rfl, rfl, trivial⟩
  | cancel id =>
    exact ⟨_, read ((decode_cancel written).trans (if_neg stream)), rfl, rfl, trivial⟩
  | error id code message => exact ⟨_, read (decode_error written), rfl, rfl, trivial⟩
  | _ => exact absurd rfl stream

/-- A frame of the connection as a whole arrives as one, if it does. -/
theorem Frame.lands_level {f g : Frame} {bytes : ByteArray} (written : f.encode = .ok bytes)
    (level : low31 f.id = 0) (read : Frame.read? bytes = some g) : g.id = 0 ∧ g.IsWhole := by
  have decoded : Frame.decode bytes = .ok g := by
    unfold Frame.read? at read
    cases decoded : Frame.decode bytes with
    | error problem =>
      rw [decoded] at read
      contradiction
    | ok g' =>
      rw [decoded] at read
      cases read
      rfl
  have zero : g.id = 0 := (id_decode_encode written decoded).trans level
  refine ⟨zero, ?_⟩
  cases g with
  | payload f => exact absurd zero (payload_nonzero decoded)
  | _ => trivial

/-- Its landing makes no difference to what is said on a stream. -/
theorem said_landed {id : UInt32} {f : Frame} {bytes : ByteArray} (nonzero : id ≠ 0)
    (written : f.encode = .ok bytes) (whole : f.IsWhole) :
    said id (Frame.read? bytes).toList = said id [f] := by
  by_cases level : low31 f.id = 0
  · rw [said_others fun g (member : g ∈ [f]) => ?_, said_others fun g member => ?_]
    · rw [(Frame.lands_level written level (Option.mem_toList.mp member)).1]
      exact nonzero.symm
    · rw [List.mem_singleton.mp member, level]
      exact nonzero.symm
  · obtain ⟨g, read, named, signal, _⟩ := Frame.lands written whole level
    have same : low31 g.id = low31 f.id := by rw [named, low31_low31]
    rw [read, Option.toList_some, said, said]
    by_cases own : low31 f.id = id
    · simp [same, own, signal]
    · simp [same, own]

namespace Connection

variable {id : UInt32} {c : Connection} {q : FrameQueue}

theorem Holds.of_queue {i : Nat} {s : Exchange} (h : c.Holds id i s) :
    Holds id { c with queue := q } i s :=
  ⟨h.bound, h.stream, h.named, h.only, h.registered⟩

theorem Lacks.of_queue (h : c.Lacks id) : Lacks id { c with queue := q } := ⟨h.absent, h.free⟩

end Connection

theorem Accord.of_queue {id : UInt32} {s : Exchange} {d : Connection} {q : FrameQueue}
    {up down : List Signal} (h : Accord id s d up down) :
    Accord id s { d with queue := q } up down := by
  cases h with
  | untold untold lacks waits silent => exact .untold untold lacks.of_queue waits silent
  | told known facing talk =>
    refine .told known ?_ talk
    cases facing with
    | absent lacks => exact .absent lacks.of_queue
    | present holds answers started => exact .present holds.of_queue answers started

namespace World.Link

variable {kept : End → Nat → Prop} {issued : List UInt32} {l l' : Link} {here : End} {id : UInt32}

/-! ### Writing -/

/-- An end writes the next frame. -/
structure Writes (here : End) (l l' : Link) : Prop where
  frame : ∃ f q bytes, (l.ends here).queue.dequeue = (.ready (.ok f), q) ∧
    f.encode = .ok bytes ∧ l'.ends here = { l.ends here with queue := q } ∧
    l'.pipes here = l.pipes here ++ (Frame.read? bytes).toList
  ends : l'.ends (across here) = l.ends (across here)
  pipes : l'.pipes (across here) = l.pipes (across here)

/-- What was to be said is said all the same. -/
theorem Writes.alike (writes : Writes here l l')
    (level : ∀ f ∈ (l.ends here).queue.priority.toList, f.id = 0)
    (whole : ∀ f ∈ l.transit here, f.IsWhole) :
    (∀ id, id ≠ 0 → l'.signals here id = l.signals here id) ∧
      ∀ f ∈ l'.transit here, f.IsWhole := by
  obtain ⟨f, q, bytes, taken, written, ends, pipes⟩ := writes.frame
  have waiting : (l'.ends here).waiting = q.normal.toList := by rw [ends]; rfl
  -- A frame of the priority lane is on stream 0 and was never waiting; any other was the first.
  obtain ⟨_, ⟨first, same⟩ | ⟨first, _⟩⟩ := dequeue_ok taken
  · have zero : low31 f.id = 0 := by rw [level f (by rw [first]; simp)]; rfl
    have later : (l'.ends here).waiting = (l.ends here).waiting := by rw [waiting, same]; rfl
    refine ⟨fun id nonzero => ?_, fun g member => ?_⟩
    · have nothing : said id (Frame.read? bytes).toList = [] := said_others fun g member => by
        rw [(Frame.lands_level written zero (Option.mem_toList.mp member)).1]
        exact nonzero.symm
      simp only [signals, transit, pipes, later, said_append, nothing, List.append_nil]
    · rw [transit, pipes, later, List.append_assoc] at member
      rcases List.mem_append.mp member with old | rest
      · exact whole g (List.mem_append_left _ old)
      · rcases List.mem_append.mp rest with new | old
        · exact (Frame.lands_level written zero (Option.mem_toList.mp new)).2
        · exact whole g (List.mem_append_right _ old)
  · have front : (l.ends here).waiting = [f] ++ q.normal.toList := first
    have inOne : f.IsWhole := whole f (List.mem_append_right _ (by rw [front]; simp))
    refine ⟨fun id nonzero => ?_, fun g member => ?_⟩
    · simp only [signals, transit, pipes, waiting, front, said_append,
        said_landed nonzero written inOne, List.append_assoc]
    · rw [transit, pipes, waiting, List.append_assoc] at member
      rcases List.mem_append.mp member with old | rest
      · exact whole g (List.mem_append_left _ old)
      · rcases List.mem_append.mp rest with new | old
        · have read : Frame.read? bytes = some g := Option.mem_toList.mp new
          by_cases zero : low31 f.id = 0
          · exact (Frame.lands_level written zero read).2
          · obtain ⟨g', landed, _, _, isWhole⟩ := Frame.lands written inOne zero
            rw [read] at landed
            cases landed
            exact isWhole
        · exact whole g (List.mem_append_right _ (by rw [front]; exact List.mem_append_right _ old))

/-- A frame goes onto the transport. -/
theorem Agrees.writes (h : l.Agrees kept issued) (writes : Writes here l l') :
    l'.Agrees kept issued := by
  have healthy := h.healthy here
  obtain ⟨same, whole⟩ := writes.alike healthy.level (h.whole here)
  obtain ⟨f, q, bytes, taken, written, ends, pipes⟩ := writes.frame
  obtain ⟨accepts, lanes⟩ := dequeue_ok taken
  have fewer : ∀ f ∈ q.priority.toList, f.id = 0 := by
    rcases lanes with ⟨first, _⟩ | ⟨_, same⟩
    · exact fun g member => healthy.level g (by rw [first]; exact List.mem_cons_of_mem _ member)
    · rw [same]
      exact healthy.level
  have away (id : UInt32) : l'.signals (across here) id = l.signals (across here) id :=
    signals_same writes.ends writes.pipes
  have alike (id : UInt32) (nonzero : id ≠ 0) (there : End) :
      l'.signals there id = l.signals there id :=
    each (P := fun there => l'.signals there id = l.signals there id) (same id nonzero) (away id)
      there
  have queued (there : End) : ∃ q, l'.ends there = { l.ends there with queue := q } :=
    each (P := fun there => ∃ q, l'.ends there = { l.ends there with queue := q }) ⟨q, ends⟩
      ⟨(l.ends (across here)).queue, writes.ends⟩ there
  refine ⟨each ?_ (writes.ends ▸ h.sound (across here)),
    each ?_ (writes.ends ▸ h.healthy (across here)), each whole ?_,
    fun id wire nonzero unused there => ?_, fun there i placed requester keep => ?_⟩
  · have sound := (Connection.Step.dequeue (l.ends here)).sound (h.sound here)
    rw [taken] at sound
    exact ends ▸ sound
  · rw [ends]
    exact ⟨healthy.role, accepts.trans healthy.accepts, healthy.placed, fewer, healthy.parity⟩
  · rw [transit, writes.ends, writes.pipes]
    exact h.whole (across here)
  · have before := h.fresh id wire nonzero unused there
    obtain ⟨q, queued⟩ := queued there
    rw [alike id nonzero, queued]
    exact ⟨before.1.of_queue, before.2⟩
  · obtain ⟨q, own⟩ := queued there
    obtain ⟨q', other⟩ := queued (across there)
    have stream : (l'.ends there).stream i = (l.ends there).stream i := by rw [own]; rfl
    have before : i < (l.ends there).streams.size := by rw [own] at placed; exact placed
    rw [stream] at requester keep ⊢
    obtain ⟨wire, nonzero, given, owned, holds, accord⟩ := h.shares there i before requester keep
    refine ⟨wire, nonzero, given, owned, ?_, ?_⟩
    · rw [own]
      exact holds.of_queue
    · rw [alike _ nonzero, alike _ nonzero, other]
      exact accord.of_queue

/-! ### Reading -/

/-- An end reads a frame and handles it. -/
structure Reads (here : End) (frame : Frame) (l l' : Link) : Prop where
  wire : low31 frame.id = frame.id
  handles : ∃ keepsItems now, l'.ends here = ((l.ends here).dispatch keepsItems now frame).1
  ends : l'.ends (across here) = l.ends (across here)
  mine : l'.pipes here = l.pipes here
  theirs : l.pipes (across here) = frame :: l'.pipes (across here)

section

variable {frame : Frame} (h : l.Agrees kept issued) (read : Reads here frame l l')
  (live : (l'.ends here).isActive = true)

include read in
theorem Reads.transit : l.transit (across here) = frame :: l'.transit (across here) := by
  rw [Link.transit, Link.transit, read.theirs, read.ends, List.cons_append]

include read in
/-- A frame of another stream says nothing on the stream. -/
theorem Reads.others (other : frame.id ≠ id) :
    l'.signals (across here) id = l.signals (across here) id := by
  have nothing : said id [frame] = [] := said_others fun g member => by
    rw [List.mem_singleton.mp member, read.wire]
    exact other
  rw [signals, signals, read.transit, ← List.singleton_append, said_append, nothing,
    List.nil_append]

include read in
theorem Reads.first (mine : frame.id = id) :
    l.signals (across here) id = frame.signal :: l'.signals (across here) id := by
  have own : said id [frame] = [frame.signal] := said_own fun g member => by
    rw [List.mem_singleton.mp member, read.wire, mine]
  rw [signals, signals, read.transit, ← List.singleton_append, said_append, own]
  rfl

include h read live

/-- For the streams of other ids nothing happens. -/
theorem Reads.apart (other : frame.id ≠ id) :
    (l.ends here).Apart id (l'.ends here) := by
  obtain ⟨keepsItems, now, handles⟩ := read.handles
  rw [handles] at live ⊢
  exact (Connection.dispatch_apart (h.healthy here).placed keepsItems now read.wire other live).1

theorem Reads.grows : (l.ends here).Grows (l'.ends here) := by
  by_cases first : frame.id = 1
  · have apart : (l.ends here).Apart 2 (l'.ends here) :=
      read.apart h live (by rw [first]; decide)
    exact apart.toGrows
  · exact (read.apart h live first).toGrows

/-- What is opened by a frame is a stream of the other end. -/
theorem Reads.places {i : Nat} (placed : i < (l'.ends here).streams.size)
    (requester : ((l'.ends here).stream i).kind.isRequester = true) :
    i < (l.ends here).streams.size := by
  obtain ⟨keepsItems, now, handles⟩ := read.handles
  rw [handles] at live placed requester
  cases Connection.dispatch_course (h.sound here) keepsItems now frame with
  | quiet streams registry terminal silent => exact streams ▸ placed
  | moved j m bound fits touches eq =>
    rw [eq, Connection.stepWriting, Connection.size_commit] at placed
    exact placed
  | accepted f kind uptake registry opens foreign inserted eq =>
    -- What is new is a stream that this end answers, not one that it asked for.
    refine Classical.byContradiction fun new => ?_
    have answers := Connection.ofRequest?_answers opens
    have effect := Exchange.receive_effect
      (Connection.responder_coherent f.id f.initial answers) uptake f
    rw [eq, Connection.size_commit, Array.size_push] at placed
    obtain rfl : i = (l.ends here).streams.size := by omega
    rw [eq, Connection.stream_commit _ (by rw [Array.size_push]; exact Nat.lt_succ_self _),
      if_pos rfl, effect.kind, Exchange.responder, answers] at requester
    contradiction
  | ended cause eq =>
    rcases eq with eq | eq
    · rw [eq, Connection.isActive_teardown] at live
      contradiction
    · rw [eq, Connection.isActive_terminate] at live
      contradiction

/-- A stream that this end has asked for. -/
theorem Agrees.reads_near {i : Nat} (bound : i < (l.ends here).streams.size)
    (requester : ((l.ends here).stream i).kind.isRequester = true)
    (keep : ((l.ends here).stream i).kind = .requesterChannel → kept here i) :
    l'.Shares issued here ((l.ends here).stream i).id i ((l'.ends here).stream i) := by
  obtain ⟨wire, nonzero, given, owned, holds, accord⟩ := h.shares here i bound requester keep
  by_cases mine : frame.id = ((l.ends here).stream i).id
  · rw [read.first mine] at accord
    have whole : frame.IsWhole := h.whole (across here) frame (by rw [read.transit]; simp)
    obtain ⟨keepsItems, now, handles⟩ := read.handles
    obtain ⟨t, eq, extends', later⟩ := accord.hears_near keepsItems now holds
      ((h.sound here).coherent i bound) requester nonzero mine whole
    rw [← handles] at eq
    have stream : (l'.ends here).stream i = t := by
      rw [eq, Connection.stream_commit _ bound, if_pos rfl]
    have silent : l'.signals here ((l.ends here).stream i).id =
        l.signals here ((l.ends here).stream i).id := by
      have waiting : (l'.ends here).waiting = (l.ends here).waiting := by
        rw [eq, Connection.waiting_commit]
        simp
      rw [signals, signals, Link.transit, Link.transit, waiting, read.mine]
    refine ⟨wire, nonzero, given, owned, ?_, ?_⟩
    · rw [stream, eq]
      exact holds.commit extends'.id extends'.isOver
    · rw [stream, read.ends, silent]
      exact later
  · have apart := read.apart h live mine
    have same := apart.same i bound wire
    refine ⟨wire, nonzero, given, owned, ?_, ?_⟩
    · rw [same]
      exact holds.apart wire apart
    · rw [same, read.ends, signals_apart read.mine apart, read.others mine]
      exact accord

/-- A stream that the other end has asked for. -/
theorem Agrees.reads_far {i : Nat} (bound : i < (l.ends (across here)).streams.size)
    (requester : ((l.ends (across here)).stream i).kind.isRequester = true)
    (keep : ((l.ends (across here)).stream i).kind = .requesterChannel → kept (across here) i) :
    l'.Shares issued (across here) ((l.ends (across here)).stream i).id i
      ((l.ends (across here)).stream i) := by
  obtain ⟨wire, nonzero, given, owned, holds, accord⟩ :=
    h.shares (across here) i bound requester keep
  have foreign := foreign_across owned
  rw [across_across] at accord foreign
  refine ⟨wire, nonzero, given, owned, read.ends ▸ holds, ?_⟩
  rw [across_across]
  by_cases mine : frame.id = ((l.ends (across here)).stream i).id
  · rw [read.first mine] at accord
    have whole : frame.IsWhole := h.whole (across here) frame (by rw [read.transit]; simp)
    obtain ⟨keepsItems, now, handles⟩ := read.handles
    obtain ⟨added, waiting, named, later⟩ := accord.hears_far keepsItems now (h.sound here)
      requester ((h.healthy here).role ▸ foreign) (h.healthy here).accepts nonzero mine whole
    rw [← handles] at waiting later
    rw [signals_added read.mine waiting fun f member => by rw [named f member, wire]]
    exact later
  · have apart := read.apart h live mine
    rw [signals_apart read.mine apart, read.others mine]
    exact accord.apart wire apart

/-- A frame is read at its other end. -/
theorem Agrees.reads : l'.Agrees kept issued := by
  obtain ⟨keepsItems, now, handles⟩ := read.handles
  have step := Connection.Step.dispatch (l.ends here) keepsItems now frame
  rw [← handles] at step
  have adds := Connection.dispatch_whole (h.sound here) keepsItems now frame (handles ▸ live)
  rw [← handles] at adds
  have later := step.later (h.sound here)
  refine ⟨each (step.sound (h.sound here)) (read.ends ▸ h.sound (across here)),
    each ((h.healthy here).grows (read.grows h live)) (read.ends ▸ h.healthy (across here)),
    each (whole_added (h.whole here) read.mine adds) fun f member => ?_,
    fun id wire nonzero unused => ?_, fun there i placed requester keep => ?_⟩
  · exact h.whole (across here) f (by rw [read.transit]; exact List.mem_cons_of_mem _ member)
  · have before := h.fresh id wire nonzero unused
    -- No frame is on its way with an id that was not given out, so this one has another.
    have other : frame.id ≠ id := fun mine => by
      have first := read.first mine
      rw [(before (across here)).2] at first
      contradiction
    have apart := read.apart h live other
    refine each ⟨(before here).1.apart apart, ?_⟩ ⟨read.ends ▸ (before (across here)).1, ?_⟩
    · rw [signals_apart read.mine apart, (before here).2]
    · rw [read.others other, (before (across here)).2]
  · by_cases mine : there = here
    · subst mine
      have old := read.places h live placed requester
      have extends' := later.streams i old
      rw [extends'.kind] at requester keep
      rw [extends'.id]
      exact h.reads_near read live old requester keep
    · rw [eq_across mine] at placed requester keep ⊢
      rw [read.ends] at placed requester keep ⊢
      exact h.reads_far read live placed requester keep

end

end World.Link
end StreamMux
