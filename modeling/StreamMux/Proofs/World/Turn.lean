import StreamMux.Proofs.World.Keeping

/-!
# What a step has to do with one stream

The application of the near end asks for a stream under a name, and each end may work for it in a
slot. A step of the world is apart from the stream, an end reads a frame of the stream, or an end
does its work for it (`Turn`).
-/
namespace StreamMux.World

/-- The request that is set aside. -/
def named (name : String) : End → Option String
  | .near => some name
  | .far => none

def role : End → Side
  | .near => .client
  | .far => .server

/-- The slots in which the two ends work. -/
def between (near far : Option Nat) : End → Option Nat
  | .near => near
  | .far => far

/-- Both ends are at work, and but for what is set aside neither works on the stream. -/
structure Aside (id : UInt32) (name : String) (slots : End → Option Nat) (w : World) : Prop where
  healthy : ∀ {here e}, w.endpoint? here = some e → e.connection.Healthy (role here)
  avoids : ∀ {here e}, w.endpoint? here = some e →
    e.Avoids id (named name here) (slots here)
  bound : ∀ {here e}, w.endpoint? here = some e → ∀ k, slots here = some k →
    k < e.tasks.size

/-- Nothing happened to the stream. -/
structure Apart (id : UInt32) (name : String) (slots : End → Option Nat) (w w' : World) : Prop where
  ends : ∀ {here e}, w.endpoint? here = some e → ∃ f, w'.endpoint? here = some f ∧
    e.Keeps id (named name here) (slots here) f
  flow : ∀ here, w'.flow here id = w.flow here id

/-- What a step is to the stream. -/
inductive Turn (id : UInt32) (name : String) (slots : End → Option Nat) (w : World) : World → Prop
  | apart {w' : World} (apart : w.Apart id name slots w') : Turn id name slots w w'
  | reads {w' : World} (here : End) {e : Endpoint} {frame : Frame}
      (found : w.endpoint? here = some e)
      (found' : w'.endpoint? here = some ({ e with clock := w.clock }.handle frame))
      (across : w'.endpoint? (across here) = w.endpoint? (across here)) (named : frame.id = id)
      (first : w.flow (World.across here) id = frame :: w'.flow (World.across here) id)
      (writes : w'.writes here = w.writes here) : Turn id name slots w w'
  | works (here : End) (k : Nat) (mine : slots here = some k) :
      Turn id name slots w (w.stepTask here (.work k)).1

variable {id : UInt32} {name : String} {slots slots' : End → Option Nat} {w w' : World} {here : End}
  {e f : Endpoint} {frames : List Frame}

theorem across_ne (here : End) : across here ≠ here := by
  cases here <;> decide

theorem ne_across (here : End) : here ≠ across here := (across_ne here).symm

theorem eq_across {there : End} (other : there ≠ here) : there = across here := by
  cases here <;> cases there <;> first | rfl | exact absurd rfl other

theorem Apart.aside (apart : w.Apart id name slots w') (aside : w.Aside id name slots)
    (live : w.Live) : w'.Aside id name slots := by
  have before {here f} (found' : w'.endpoint? here = some f) : ∃ e, w.endpoint? here = some e ∧
      e.Keeps id (named name here) (slots here) f := by
    obtain ⟨e, found, _⟩ := live here
    obtain ⟨g, kept, keeps⟩ := apart.ends found
    rw [found', Option.some.injEq] at kept
    exact ⟨e, found, kept ▸ keeps⟩
  refine ⟨fun found' => ?_, fun found' => ?_, fun found' k eq => ?_⟩
  · obtain ⟨e, found, keeps⟩ := before found'
    exact keeps.healthy (aside.healthy found)
  · obtain ⟨e, found, keeps⟩ := before found'
    exact keeps.avoids (aside.avoids found)
  · obtain ⟨e, found, keeps⟩ := before found'
    exact Nat.lt_of_lt_of_le (aside.bound found k eq) keeps.size

/-- One end becomes another, and the pipes that it writes and reads; the other end stays. -/
structure Becomes (w : World) (here : End) (f : Endpoint) (mine theirs : Pipe) (w' : World) :
    Prop where
  own : w'.endpoint? here = some f
  other : w'.endpoint? (across here) = w.endpoint? (across here)
  mine : w'.writes here = mine
  theirs : w'.writes (across here) = theirs

theorem becomes_of_writes {f : Endpoint} {pipe : Pipe} {clock : Clock}
    (eq : w' = { (w.setWrites here pipe).setEndpoint here f with clock }) :
    w.Becomes here f pipe (w.writes (across here)) w' := by
  subst eq
  constructor <;> simp [across_ne]

theorem becomes_of_reads {f : Endpoint} {pipe : Pipe} {clock : Clock}
    (eq : w' = { (w.setReads here pipe).setEndpoint here f with clock }) :
    w.Becomes here f (w.writes here) pipe w' := by
  subst eq
  rw [setReads_eq]
  constructor <;> simp [across_ne, ne_across]

theorem becomes_of_set {f : Endpoint} {clock : Clock}
    (eq : w' = { w.setEndpoint here f with clock }) :
    w.Becomes here f (w.writes here) (w.writes (across here)) w' := by
  subst eq
  constructor <;> simp [across_ne]

/-- One end changes, and nothing that can be seen of the stream. -/
theorem Becomes.apart {mine theirs : Pipe} (becomes : w.Becomes here f mine theirs w')
    (found : w.endpoint? here = some e)
    (keeps : e.Keeps id (named name here) (slots here) f)
    (same : onTheWay id mine f.connection = onTheWay id (w.writes here) e.connection)
    (unread : (theirs.frames.toList.filterMap Frame.read?).filter (·.id = id) =
      ((w.writes (across here)).frames.toList.filterMap Frame.read?).filter (·.id = id)) :
    w.Apart id name slots w' := by
  refine ⟨fun {there g} before => ?_, fun there => ?_⟩
  · by_cases mine : there = here
    · subst mine
      rw [found, Option.some.injEq] at before
      exact ⟨f, becomes.own, before ▸ keeps⟩
    · rw [eq_across mine] at before ⊢
      exact ⟨g, becomes.other.trans before, .of_queue rfl rfl (fun _ h => h) rfl rfl rfl rfl⟩
  · by_cases mine : there = here
    · subst mine
      rw [flow_eq becomes.own, flow_eq found, becomes.mine, same]
    · rw [eq_across mine, flow, flow, becomes.other, becomes.theirs]
      split
      · exact onTheWay_pipe unread
      · rfl

/-- One end changes and writes nothing. -/
theorem Becomes.apart_of_end {theirs : Pipe}
    (becomes : w.Becomes here f (w.writes here) theirs w') (found : w.endpoint? here = some e)
    (wire : low31 id = id)
    (apart : Endpoint.Apart id (named name here) (slots here)
      { e with clock := w.clock } f)
    (unread : (theirs.frames.toList.filterMap Frame.read?).filter (·.id = id) =
      ((w.writes (across here)).frames.toList.filterMap Frame.read?).filter (·.id = id)) :
    w.Apart id name slots w' := by
  have still : Endpoint.Apart id (named name here) (slots here) e
      { e with clock := w.clock } := .of_still ⟨rfl, rfl, rfl, rfl, rfl⟩
  have apart := still.trans apart
  exact becomes.apart found (apart.keeps wire) (onTheWay_apart apart.connection) unread

theorem Live.active (live : w.Live) (found : w.endpoint? here = some e) :
    e.connection.isActive = true := by
  obtain ⟨f, same, alive⟩ := live here
  rw [found, Option.some.injEq] at same
  exact same ▸ alive

/-! ### Steps of tasks -/

section

variable (aside : w.Aside id name slots) (live' : w'.Live) (found : w.endpoint? here = some e)
include aside live' found

theorem stepWrite_turn (nonzero : id ≠ 0) (made : (w.stepTask here .write).1 = w') :
    w.Apart id name slots w' := by
  have becomes : w.Becomes here _ _ _ w' := becomes_of_writes (by
    rw [← made, stepTask, found])
  have healthy := aside.healthy found
  have still : e.Keeps id (named name here) (slots here) { e with clock := w.clock } :=
    .of_queue rfl rfl (fun _ h => h) rfl rfl rfl rfl
  obtain ⟨keeps, same⟩ := Endpoint.stepWrite_keeps (e := { e with clock := w.clock }) nonzero
    healthy (live'.active becomes.own)
  exact becomes.apart found (still.trans keeps) same rfl

theorem stepRead_turn (wire : low31 id = id) (live : w.Live)
    (made : (w.stepTask here .read).1 = w') : Turn id name slots w w' := by
  have becomes : w.Becomes here _ _ _ w' := becomes_of_reads (by
    rw [← made, stepTask, found])
  rw [reads_eq] at becomes
  have active := live.active found
  have alive := live'.active becomes.own
  rcases Endpoint.stepRead_ok (e := { e with clock := w.clock }) active alive with
    ⟨passed, same⟩ | ⟨frame, onWire, handled, first⟩
  · exact .apart (becomes.apart_of_end found wire (.of_still passed) (by rw [same]))
  · rw [handled] at becomes alive
    by_cases mine : frame.id = id
    · refine .reads here found becomes.own becomes.other mine ?_ becomes.mine
      obtain ⟨g, there, _⟩ := live (across here)
      rw [flow_eq there, flow_eq (becomes.other.trans there), becomes.theirs, onTheWay, onTheWay,
        first, List.cons_append, List.filter_cons, if_pos (by simpa using mine)]
    · rw [Endpoint.connection_handle] at alive
      have bound := aside.bound found
      have placed : e.connection.Placed := (aside.healthy found).placed
      have apart : Endpoint.Apart id (named name here) (slots here) _ _ :=
        Endpoint.handle_apart (e := { e with clock := w.clock }) placed bound onWire mine alive
      refine .apart (becomes.apart_of_end found wire apart ?_)
      rw [first, List.filter_cons, if_neg (by simpa using mine)]

omit aside in
theorem stepWatch_turn (wire : low31 id = id) (made : (w.stepTask here .watch).1 = w') :
    w.Apart id name slots w' := by
  have becomes : w.Becomes here _ _ _ w' := becomes_of_set (by rw [← made, stepTask, found])
  have alive := live'.active becomes.own
  exact becomes.apart_of_end found wire (Endpoint.stepWatch_apart alive) rfl

omit live' in
theorem stepWork_turn (wire : low31 id = id) {k : Nat} (other : slots here ≠ some k)
    (made : (w.stepTask here (.work k)).1 = w') : w.Apart id name slots w' := by
  have becomes : w.Becomes here _ _ _ w' := becomes_of_set (by rw [← made, stepTask, found])
  have avoids := aside.avoids found
  have apart : Endpoint.Apart id (named name here) (slots here) _ _ :=
    Endpoint.stepWork_apart (e := { e with clock := w.clock }) wire
      ⟨avoids.requests, avoids.tasks, avoids.kept⟩ other
  exact becomes.apart_of_end found wire apart rfl

theorem perform_turn (wire : low31 id = id) {call : Call}
    (other : here = .near → call.request? ≠ some name) (fresh : id ∉ w.spent w')
    (made : (w.act here (·.perform call)).2 = w') : w.Apart id name slots w' := by
  have becomes : w.Becomes here _ _ _ w' := becomes_of_set (by rw [← made, act, found])
  have avoids := aside.avoids found
  have alive := live'.active becomes.own
  have different : ∀ n, call.request? = some n → named name here ≠ some n := by
    intro n asks
    cases here with
    | near =>
      rw [named]
      rintro same
      exact other rfl (asks.trans same.symm)
    | far => exact fun same => by contradiction
  have unspent : id ∉ e.connection.spent
      ({ e with clock := w.clock }.perform call).2.connection := fun given =>
    fresh (mem_spent found becomes.own given)
  have bound := aside.bound found
  have apart : Endpoint.Apart id (named name here) (slots here) _ _ :=
    Endpoint.perform_apart (e := { e with clock := w.clock }) wire
      ⟨avoids.requests, avoids.tasks, avoids.kept⟩ call different bound alive unspent
  exact becomes.apart_of_end found wire apart rfl

end

/-- The clock is set at both ends, and nothing else. -/
theorem setNow_ends (found : w.endpoint? here = some e) (now : Duration) :
    ∃ clock, (w.setNow now).endpoint? here = some { e with clock } := by
  cases here with
  | near =>
    cases found
    exact ⟨_, rfl⟩
  | far =>
    have there : w.far = some e := found
    exact ⟨_, by rw [setNow, endpoint?, there, Option.map_some]⟩

theorem writes_setNow (now : Duration) (here : End) :
    (w.setNow now).writes here = w.writes here := by
  cases here <;> rfl

theorem setNow_turn (now : Duration) : w.Apart id name slots (w.setNow now) := by
  refine ⟨fun found => ?_, fun here => ?_⟩
  · obtain ⟨clock, later⟩ := setNow_ends found now
    exact ⟨_, later, .of_queue rfl rfl (fun _ h => h) rfl rfl rfl rfl⟩
  · cases found : w.endpoint? here with
    | none =>
      cases here with
      | near => contradiction
      | far =>
        have nobody : w.far = none := found
        rw [flow, flow, found, setNow, endpoint?, nobody]
        rfl
    | some e =>
      obtain ⟨clock, later⟩ := setNow_ends found now
      rw [flow_eq later, flow_eq found, writes_setNow]

/-- What a step has to do with a stream that is set aside. -/
theorem Step.turn (next : Step name w w')
    (aside : w.Aside id name slots) (wire : low31 id = id) (nonzero : id ≠ 0) (live : w.Live)
    (live' : w'.Live) (fresh : id ∉ w.spent w') : Turn id name slots w w' := by
  cases next with
  | task here task =>
    obtain ⟨e, found, _⟩ := live here
    cases task with
    | write => exact .apart (stepWrite_turn aside live' found nonzero rfl)
    | read => exact stepRead_turn aside live' found wire live rfl
    | watch => exact .apart (stepWatch_turn live' found wire rfl)
    | work k =>
      by_cases mine : slots here = some k
      · exact .works here k mine
      · exact .apart (stepWork_turn aside found wire mine rfl)
  | passes now => exact .apart (setNow_turn now)
  | calls here call other =>
    obtain ⟨e, found, _⟩ := live here
    exact .apart (perform_turn aside live' found wire other fresh rfl)

/-! ### An end that brings the stream on -/

/-- An end that goes on leaves the other end alone. -/
theorem Aside.grows (aside : w.Aside id name slots) (found : w.endpoint? here = some e)
    (found' : w'.endpoint? here = some f)
    (other : w'.endpoint? (across here) = w.endpoint? (across here))
    (grows : e.connection.Grows f.connection)
    (avoids : f.Avoids id (named name here) (slots' here))
    (bound : ∀ k, slots' here = some k → k < f.tasks.size)
    (there : slots' (across here) = slots (across here)) : w'.Aside id name slots' := by
  have which {there g} (now : w'.endpoint? there = some g) :
      (there = here ∧ g = f) ∨ (there = across here ∧ w.endpoint? there = some g) := by
    by_cases mine : there = here
    · subst mine
      rw [found', Option.some.injEq] at now
      exact .inl ⟨rfl, now.symm⟩
    · have far := eq_across mine
      subst far
      exact .inr ⟨rfl, other ▸ now⟩
  refine ⟨fun now => ?_, fun now => ?_, fun now => ?_⟩
  · rcases which now with ⟨rfl, rfl⟩ | ⟨rfl, before⟩
    · exact (aside.healthy found).grows grows
    · exact aside.healthy before
  · rcases which now with ⟨rfl, rfl⟩ | ⟨rfl, before⟩
    · exact avoids
    · rw [there]
      exact aside.avoids before
  · rcases which now with ⟨rfl, rfl⟩ | ⟨rfl, before⟩
    · exact bound
    · rw [there]
      exact aside.bound before

/-- What an end sends comes last on its way. -/
theorem flow_sends (wire : low31 id = id) (found : w.endpoint? here = some e)
    (found' : w'.endpoint? here = some f) (writes : w'.writes here = w.writes here)
    (waiting : f.connection.waiting = e.connection.waiting ++ frames)
    (own : ∀ g ∈ frames, g.id = id) :
    w'.flow here id = w.flow here id ++ frames.filterMap Frame.landed := by
  rw [flow_eq found', flow_eq found, writes, onTheWay_append waiting]
  congr 1
  refine List.filter_eq_self.mpr fun g hg => ?_
  obtain ⟨x, hx, landed⟩ := List.mem_filterMap.mp hg
  rw [decide_eq_true_eq, id_landed landed, own x hx, wire]

theorem flow_same (other : w'.endpoint? here = w.endpoint? here)
    (writes : w'.writes here = w.writes here) : w'.flow here id = w.flow here id := by
  rw [flow, flow, other, writes]

/-- The near end as its application finds it. -/
def present (w : World) : Endpoint := { w.near with clock := w.clock }

theorem present_still (w : World) : w.near.Still w.present := ⟨rfl, rfl, rfl, rfl, rfl⟩

theorem isEnd_items (items : List Item) (pause : Endpoint.Pause) (stream : Option UInt32) :
    (Reply.items items pause stream).isEnd = decide (pause = .ended) := by
  cases pause <;> rfl

theorem act_present {α : Type} (w : World) (act : Endpoint → α × Endpoint) :
    w.act .near act = (some (act w.present).1,
      { w.setEndpoint .near (act w.present).2 with clock := (act w.present).2.clock }) := rfl

theorem act_near {α : Type} {act : Endpoint → α × Endpoint} {a : α}
    (acts : act w.present = (a, e)) :
    w.act .near act = (some a, { w.setEndpoint .near e with clock := e.clock }) := by
  rw [act_present, acts]

/-- The application comes back to an open stream: the reply is what its end takes from it, and but
for this end nothing changes. -/
theorem polls_opened {i limit : Nat} {reply : Reply}
    (opened : w.near.request? name = some (.opened i))
    (answered : w.act .near (·.perform (.poll name limit)) = (some reply, w')) :
    reply.taken = (w.present.takeItems name limit).1 ∧
      reply.isEnd = decide ((w.present.takeItems name limit).2.1 = .ended) ∧
      w.Becomes .near (w.present.takeItems name limit).2.2 (w.writes .near) (w.writes .far) w' := by
  have opened : w.present.request? name = some (.opened i) := opened
  generalize taken : w.present.takeItems name limit = result
  obtain ⟨items, pause, e⟩ := result
  have performed : w.present.perform (.poll name limit) =
      (.items items pause (e.streamId? name), e) := by
    rw [Endpoint.perform, Endpoint.pollNamed, opened, taken]
  rw [act_near performed] at answered
  cases answered
  exact ⟨rfl, isEnd_items items pause _, becomes_of_set rfl⟩

end StreamMux.World
