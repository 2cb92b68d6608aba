import StreamMux.Proofs.Agreement.Frames
import StreamMux.Proofs.World.Delivery

/-!
# Two endpoints that do what they like

A client and a server are joined, and anything can happen to them but that a connection ends, that
an id is given out again or that a frame cannot be encoded (`World.Traffic`). What one end does, and
what it writes and reads, leaves the two in agreement (`World.Accords.occurs`), so they agree at any
time (`World.Traffic.accords`).
-/
namespace StreamMux

namespace World

/-- One thing that happens: a step of any task, time that passes, a call of an application, or an
application that does otherwise from now on when it is called. -/
inductive Occurs (w : World) : World → Prop
  | task (here : End) (task : TaskId) : Occurs w (w.stepTask here task).1
  | passes (now : Duration) : Occurs w (w.setNow now)
  | calls (here : End) (call : Call) : Occurs w (w.act here (·.perform call)).2
  | turns (here : End) (application : Application) :
      Occurs w (w.act here fun e => ((), { e with application })).2

/-- All frames that wait to be written can be encoded. -/
def Encodable (w : World) : Prop :=
  ∀ here e, w.endpoint? here = some e →
    ∀ f ∈ e.connection.queue.priority.toList ++ e.connection.queue.normal.toList,
      ∃ bytes, f.encode = .ok bytes

/-- The channels that are `kept` keep their consumers as long as they need them. -/
def Minds (kept : End → Nat → Prop) (w w' : World) : Prop :=
  ∀ here e f, w.endpoint? here = some e → w'.endpoint? here = some f →
    ∀ i, kept here i → e.connection.Keeps f.connection i

/-- Any number of things that happen, with the ids that were given out on the way: no connection
ends, no id is given out twice, every frame can be encoded, and some channels keep their
consumers. -/
inductive Traffic (kept : End → Nat → Prop) (w₀ : World) : List UInt32 → World → Prop
  | start : Traffic kept w₀ [] w₀
  | step {issued : List UInt32} {w w' : World} (traffic : Traffic kept w₀ issued w)
      (next : w.Occurs w') (encodable : w.Encodable) (live : w'.Live)
      (fresh : ∀ id ∈ w.spent w', id ∉ issued) (minds : w.Minds kept w') :
      Traffic kept w₀ (issued ++ w.spent w') w'

/-- The connections of a world and the transport between them. -/
def link (w : World) : Link where
  ends here := ((w.endpoint? here).map (·.connection)).getD default
  pipes here := (w.writes here).frames.toList.filterMap Frame.read?

/-- The two ends agree, and each is in good order. -/
structure Accords (kept : End → Nat → Prop) (issued : List UInt32) (w : World) : Prop where
  live : w.Live
  agrees : w.link.Agrees kept issued
  orderly : ∀ {here e}, w.endpoint? here = some e → e.Orderly

variable {kept : End → Nat → Prop} {issued more : List UInt32} {w w' : World} {here : End}
  {e f : Endpoint} {mine theirs : Pipe}

theorem link_ends (found : w.endpoint? here = some e) : w.link.ends here = e.connection := by
  unfold link
  dsimp only
  rw [found]
  rfl

theorem link_pipes (w : World) (here : End) :
    w.link.pipes here = (w.writes here).frames.toList.filterMap Frame.read? := rfl

/-- More ids may have been given out. -/
theorem Link.Agrees.later {l : Link} (h : l.Agrees kept issued) :
    l.Agrees kept (issued ++ more) where
  sound := h.sound
  healthy := h.healthy
  whole := h.whole
  fresh id wire nonzero unused :=
    h.fresh id wire nonzero fun given => unused (List.mem_append_left _ given)
  shares here i placed requester keep :=
    have shares := h.shares here i placed requester keep
    { shares with given := List.mem_append_left _ shares.given }

/-! ### At the start -/

theorem newEndpoint_orderly (side : Side) (config : ConnectionConfig) (setup : Option Setup)
    (a : Application) : (newEndpoint side config setup a).Orderly where
  fresh i bound := absurd bound (Nat.not_lt_zero i)
  requests _ _ found := by contradiction
  alone _ _ _ found := by contradiction
  tasks _ _ found := by simp [newEndpoint] at found
  single _ _ _ _ _ found := by simp [newEndpoint] at found
  kept _ keeps := by simp [newEndpoint] at keeps

/-- Nothing has happened, and nothing is on its way. -/
theorem joined_accords (config config' : ConnectionConfig) (setup setup' : Option Setup)
    (a a' : Application) : (joined config config' setup setup' a a').Accords kept [] := by
  have live := joined_live config config' setup setup' a a'
  have ends (here : End) : ∃ c s b, (joined config config' setup setup' a a').link.ends here =
      (newEndpoint (role here) c s b).connection := by
    obtain ⟨e, found, _⟩ := live here
    obtain ⟨c, s, b, rfl⟩ := joined_ends _ _ _ _ _ _ found
    exact ⟨c, s, b, link_ends found⟩
  have nothing (here : End) : (joined config config' setup setup' a a').link.transit here = [] := by
    cases here with
    | near => cases setup <;> rfl
    | far => cases setup' <;> rfl
  refine ⟨live, ⟨fun here => ?_, fun here => ?_, fun here => ?_, fun id _ _ _ here => ?_,
    fun here i placed => ?_⟩, fun found => ?_⟩
  · obtain ⟨_, _, _, same⟩ := ends here
    exact same ▸ Connection.sound_new _ _ _ _
  · obtain ⟨_, _, _, same⟩ := ends here
    exact same ▸ newEndpoint_healthy _ _ _ _
  · simp [nothing]
  · obtain ⟨_, _, _, same⟩ := ends here
    refine ⟨same ▸ newEndpoint_lacks _ _ _ _ _, ?_⟩
    rw [Link.signals, nothing]
    rfl
  · obtain ⟨_, _, _, same⟩ := ends here
    rw [same] at placed
    exact absurd placed (Nat.not_lt_zero i)
  · obtain ⟨_, _, _, rfl⟩ := joined_ends _ _ _ _ _ _ found
    exact newEndpoint_orderly _ _ _ _

/-! ### One end does something -/

theorem Becomes.spent (becomes : w.Becomes here f mine theirs w')
    (found : w.endpoint? here = some e) (live : w.Live) :
    w.spent w' = e.connection.spent f.connection := by
  obtain ⟨g, there, _⟩ := live (across here)
  have same : g.connection.spent g.connection = [] := if_pos rfl
  have own := becomes.own
  have other := becomes.other.trans there
  unfold World.spent
  cases here with
  | near =>
    simp only [across] at there other
    simp [found, own, there, other, same]
  | far =>
    simp only [across] at there other
    simp [found, own, there, other, same]

theorem Becomes.link_across (becomes : w.Becomes here f mine theirs w') :
    w'.link.ends (across here) = w.link.ends (across here) := by
  unfold World.link
  dsimp only
  rw [becomes.other]

theorem Becomes.link (becomes : w.Becomes here f mine theirs w')
    (same : mine.frames.toList.filterMap Frame.read? = w.link.pipes here)
    (same' : theirs.frames.toList.filterMap Frame.read? = w.link.pipes (across here)) :
    w'.link = w.link.become here f.connection := by
  have own : w'.link.ends here = (w.link.become here f.connection).ends here := by
    rw [link_ends becomes.own, Link.become_here]
  have other : w'.link.ends (across here) =
      (w.link.become here f.connection).ends (across here) := by
    rw [Link.become_across, becomes.link_across]
  have mine : w'.link.pipes here = w.link.pipes here := by
    rw [link_pipes, becomes.mine, same]
  have theirs : w'.link.pipes (across here) = w.link.pipes (across here) := by
    rw [link_pipes, becomes.theirs, same']
  have ends : w'.link.ends = (w.link.become here f.connection).ends :=
    funext fun there => Link.each (P := fun there => w'.link.ends there = _) own other there
  have pipes : w'.link.pipes = w.link.pipes :=
    funext fun there => Link.each (P := fun there => w'.link.pipes there = _) mine theirs there
  calc w'.link = ⟨w'.link.ends, w'.link.pipes⟩ := rfl
    _ = w.link.become here f.connection := by rw [ends, pipes]; rfl

theorem Becomes.orderly (becomes : w.Becomes here f mine theirs w')
    (before : ∀ {here e}, w.endpoint? here = some e → e.Orderly) (orderly : f.Orderly)
    {there : End} {g : Endpoint} (now : w'.endpoint? there = some g) : g.Orderly := by
  by_cases mine : there = here
  · subst mine
    rw [becomes.own, Option.some.injEq] at now
    exact now ▸ orderly
  · rw [eq_across mine, becomes.other] at now
    exact before now

section

variable (h : w.Accords kept issued) (live : w'.Live)
include h live

/-- An end acts of its own accord. -/
theorem Accords.acted (becomes : w.Becomes here f mine theirs w')
    (found : w.endpoint? here = some e)
    (same : mine.frames.toList.filterMap Frame.read? = w.link.pipes here)
    (same' : theirs.frames.toList.filterMap Frame.read? = w.link.pipes (across here))
    (acted : e.connection.Acted f.connection ∧ f.Orderly)
    (fresh : ∀ id ∈ w.spent w', id ∉ issued) (minds : w.Minds kept w') :
    w'.Accords kept (issued ++ w.spent w') := by
  have own := link_ends found
  refine ⟨live, ?_, becomes.orderly h.orderly acted.2⟩
  -- The other end and both pipes are as they were, so one end of the link changes.
  rw [becomes.spent found h.live] at fresh ⊢
  rw [becomes.link same same', ← own]
  refine h.agrees.acted (own ▸ acted.1) (live.active becomes.own) (own ▸ fresh) fun i keep => ?_
  rw [own]
  exact minds here e f found becomes.own i keep

/-- A frame goes onto the transport or is read, and no stream is asked for. -/
theorem Accords.passes (becomes : w.Becomes here f mine theirs w')
    (agrees : w'.link.Agrees kept issued) (orderly : f.Orderly) :
    w'.Accords kept (issued ++ w.spent w') :=
  ⟨live, agrees.later, becomes.orderly h.orderly orderly⟩

end

/-- What an end is when it is left alone, with the time of the world. -/
theorem Accords.present (h : w.Accords kept issued) (found : w.endpoint? here = some e) :
    Endpoint.Orderly { e with clock := w.clock } ∧ e.connection.Sound :=
  ⟨(h.orderly found).of_still ⟨rfl, rfl, rfl, rfl, rfl⟩, link_ends found ▸ h.agrees.sound here⟩

end World

/-! ### Writing -/

namespace Endpoint

variable {e : Endpoint} {out : Pipe}

/-- A frame goes onto the transport, or nothing happens. -/
theorem stepWrite_ok (live : (e.stepWrite out).1.connection.isActive = true)
    (encodable : ∀ f ∈ e.connection.queue.priority.toList ++ e.connection.queue.normal.toList,
      ∃ bytes, f.encode = .ok bytes) :
    (e.Still (e.stepWrite out).1 ∧ (e.stepWrite out).2.1.frames = out.frames) ∨
    ∃ f q bytes, e.connection.queue.dequeue = (.ready (.ok f), q) ∧ f.encode = .ok bytes ∧
      ({ e with connection := { e.connection with queue := q } }).Still (e.stepWrite out).1 ∧
      (e.stepWrite out).2.1.frames.toList = out.frames.toList ++ [bytes] := by
  unfold stepWrite at live ⊢
  split
  · exact .inl ⟨.refl e, rfl⟩
  · exact .inl ⟨⟨rfl, rfl, rfl, rfl, rfl⟩, rfl⟩
  next frame q taken =>
    have queued : frame ∈ e.connection.queue.priority.toList ++
        e.connection.queue.normal.toList := by
      obtain ⟨_, ⟨first, _⟩ | ⟨first, _⟩⟩ := dequeue_ok taken
      · simp [first]
      · simp [first]
    obtain ⟨bytes, written⟩ := encodable frame queued
    rw [taken] at live
    dsimp only at live ⊢
    rw [written] at live ⊢
    dsimp only at live ⊢
    cases put : out.write bytes with
    | error cause =>
      rw [put] at live
      simp [stopWriting, mapConnection, Connection.isActive_teardown] at live
    | ok pipe =>
      refine .inr ⟨frame, q, bytes, taken, written, ⟨rfl, rfl, rfl, rfl, rfl⟩, ?_⟩
      unfold Pipe.write at put
      split at put
      · cases put
        exact Fifo.toList_push _ _
      · contradiction

end Endpoint

namespace World

variable {kept : End → Nat → Prop} {issued : List UInt32} {w w' : World} {here : End}
  {e : Endpoint}

section

variable (h : w.Accords kept issued) (live : w'.Live) (found : w.endpoint? here = some e)
  (fresh : ∀ id ∈ w.spent w', id ∉ issued) (minds : w.Minds kept w')
include h live found fresh minds

theorem Accords.stepWrite (encodable : w.Encodable) (made : (w.stepTask here .write).1 = w') :
    w'.Accords kept (issued ++ w.spent w') := by
  have becomes : w.Becomes here _ _ _ w' := becomes_of_writes (by rw [← made, stepTask, found])
  have alive := live.active becomes.own
  obtain ⟨orderly, _⟩ := h.present found
  rcases Endpoint.stepWrite_ok (e := { e with clock := w.clock }) alive (encodable here e found)
    with ⟨still, same⟩ | ⟨f, q, bytes, taken, written, still, more⟩
  · refine h.acted live becomes found (by rw [same]; rfl) rfl ⟨.works 0 ?_, orderly.of_still still⟩
      fresh minds
    rw [still.connection]
    exact .still
  · have writes : Link.Writes here w.link w'.link :=
      { frame := by
          refine ⟨f, q, bytes, by rw [link_ends found]; exact taken, written, ?_, ?_⟩
          · rw [link_ends becomes.own, link_ends found]
            exact still.connection
          · rw [link_pipes, link_pipes, becomes.mine, more, List.filterMap_append]
            cases read : Frame.read? bytes <;> simp [read]
        ends := becomes.link_across
        pipes := by rw [link_pipes, link_pipes, becomes.theirs] }
    exact h.passes live becomes (h.agrees.writes writes) <|
      orderly.of_streams (by rw [still.connection]) still.requests still.kept still.tasks

theorem Accords.stepRead (made : (w.stepTask here .read).1 = w') :
    w'.Accords kept (issued ++ w.spent w') := by
  have becomes : w.Becomes here _ _ _ w' := becomes_of_reads (by rw [← made, stepTask, found])
  rw [reads_eq] at becomes
  have active := h.live.active found
  have alive := live.active becomes.own
  obtain ⟨orderly, sound⟩ := h.present found
  rcases Endpoint.stepRead_ok (e := { e with clock := w.clock }) active alive with
    ⟨still, same⟩ | ⟨frame, wire, handled, first⟩
  · refine h.acted live becomes found rfl same ⟨.works 0 ?_, orderly.of_still still⟩ fresh minds
    rw [still.connection]
    exact .still
  · rw [handled] at becomes alive
    have reads : Link.Reads here frame w.link w'.link :=
      { wire
        handles := ⟨_, _, by
          rw [link_ends becomes.own, link_ends found]
          exact Endpoint.connection_handle _ _⟩
        ends := becomes.link_across
        mine := by rw [link_pipes, link_pipes, becomes.mine]
        theirs := by
          rw [link_pipes, link_pipes, becomes.theirs]
          exact first }
    refine h.passes live becomes (h.agrees.reads reads ?_) ?_
    · rw [link_ends becomes.own]
      exact alive
    · exact Endpoint.handle_orderly orderly sound frame

theorem Accords.stepWatch (made : (w.stepTask here .watch).1 = w') :
    w'.Accords kept (issued ++ w.spent w') := by
  have becomes : w.Becomes here _ _ _ w' := becomes_of_set (by rw [← made, stepTask, found])
  obtain ⟨orderly, sound⟩ := h.present found
  exact h.acted live becomes found rfl rfl
    (Endpoint.stepWatch_orderly orderly sound) fresh minds

theorem Accords.stepWork {k : Nat} (made : (w.stepTask here (.work k)).1 = w') :
    w'.Accords kept (issued ++ w.spent w') := by
  have becomes : w.Becomes here _ _ _ w' := becomes_of_set (by rw [← made, stepTask, found])
  obtain ⟨orderly, sound⟩ := h.present found
  obtain ⟨⟨i, works⟩, later⟩ := Endpoint.stepWork_orderly orderly sound k
  exact h.acted live becomes found rfl rfl ⟨.works i works, later⟩ fresh minds

theorem Accords.perform {call : Call} (made : (w.act here (·.perform call)).2 = w') :
    w'.Accords kept (issued ++ w.spent w') := by
  have becomes : w.Becomes here _ _ _ w' := becomes_of_set (by rw [← made, act, found])
  obtain ⟨orderly, sound⟩ := h.present found
  exact h.acted live becomes found rfl rfl
    (Endpoint.perform_orderly orderly sound call) fresh minds

theorem Accords.turns {application : Application}
    (made : (w.act here fun e => ((), { e with application })).2 = w') :
    w'.Accords kept (issued ++ w.spent w') := by
  have becomes : w.Becomes here _ _ _ w' := becomes_of_set (by rw [← made, act, found])
  exact h.acted live becomes found rfl rfl
    ⟨.works 0 .still, (h.orderly found).of_streams rfl rfl rfl rfl⟩ fresh minds

end

/-- The clock is set at both ends. -/
theorem Accords.setNow (h : w.Accords kept issued) (now : Duration) (live : (w.setNow now).Live) :
    (w.setNow now).Accords kept (issued ++ w.spent (w.setNow now)) := by
  have same : (w.setNow now).link = w.link := by
    have ends : (w.setNow now).link.ends = w.link.ends := funext fun here => by
      obtain ⟨e, found, _⟩ := h.live here
      obtain ⟨clock, later⟩ := setNow_ends found now
      rw [link_ends found, link_ends later]
    have pipes : (w.setNow now).link.pipes = w.link.pipes := funext fun here => by
      rw [link_pipes, link_pipes, writes_setNow]
    calc (w.setNow now).link = ⟨(w.setNow now).link.ends, (w.setNow now).link.pipes⟩ := rfl
      _ = w.link := by rw [ends, pipes]
  refine ⟨live, same ▸ h.agrees.later, fun {here f} later => ?_⟩
  obtain ⟨e, found, _⟩ := h.live here
  obtain ⟨clock, after⟩ := setNow_ends found now
  rw [later, Option.some.injEq] at after
  exact (h.orderly found).of_still (after ▸ ⟨rfl, rfl, rfl, rfl, rfl⟩)

/-- Whatever happens, the two ends agree. -/
theorem Accords.occurs (h : w.Accords kept issued) (next : w.Occurs w') (encodable : w.Encodable)
    (live : w'.Live) (fresh : ∀ id ∈ w.spent w', id ∉ issued) (minds : w.Minds kept w') :
    w'.Accords kept (issued ++ w.spent w') := by
  cases next with
  | task here task =>
    obtain ⟨e, found, _⟩ := h.live here
    cases task with
    | write => exact h.stepWrite live found fresh minds encodable rfl
    | read => exact h.stepRead live found fresh minds rfl
    | watch => exact h.stepWatch live found fresh minds rfl
    | work k => exact h.stepWork live found fresh minds rfl
  | passes now => exact h.setNow now live
  | calls here call =>
    obtain ⟨e, found, _⟩ := h.live here
    exact h.perform live found fresh minds rfl
  | turns here application =>
    obtain ⟨e, found, _⟩ := h.live here
    exact h.turns live found fresh minds rfl

/-- However it started, the two ends agree all along. -/
theorem Traffic.accords {w₀ : World} (traffic : Traffic kept w₀ issued w)
    (start : w₀.Accords kept []) : w.Accords kept issued := by
  induction traffic with
  | start => exact start
  | step _ next encodable live fresh minds ih => exact ih.occurs next encodable live fresh minds

end World
end StreamMux
