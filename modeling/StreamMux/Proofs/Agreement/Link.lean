import StreamMux.Proofs.Agreement.Accord
import StreamMux.Proofs.Connection.Ownership
import StreamMux.Proofs.World.Turn

/-!
# Two connections and the transport between them

All that the two ends of a transport know of each other's streams goes through their frames. For
every stream that one end has asked for, its state at both ends is in accord with the frames on
their way (`Link.Agrees`). Each end may do whatever it wants (`Link.Agrees.acts`), write
(`Link.Agrees.writes`) and read (`Link.Agrees.reads`), as long as no connection ends, no id is given
out twice and every frame can be written.
-/
namespace StreamMux

/-- What some frames say on a stream. -/
def said (id : UInt32) (frames : List Frame) : List Signal :=
  (frames.filter (low31 ·.id = id)).map (·.signal)

section

variable {id : UInt32} {frames : List Frame}

@[simp] theorem said_append (frames more : List Frame) :
    said id (frames ++ more) = said id frames ++ said id more := by
  rw [said, List.filter_append, List.map_append]
  rfl

theorem said_own (own : ∀ f ∈ frames, low31 f.id = id) :
    said id frames = frames.map (·.signal) := by
  rw [said, List.filter_eq_self.mpr fun f member => by simpa using own f member]

theorem said_others (others : ∀ f ∈ frames, low31 f.id ≠ id) : said id frames = [] := by
  rw [said, List.filter_eq_nil_iff.mpr fun f member => by simpa using others f member]
  rfl

end

namespace World

/-- Two connections, and what each of them has written and the other has not read, as it will be
read. -/
structure Link where
  ends : End → Connection
  pipes : End → List Frame

namespace Link

/-- The frames that an end has sent, on the transport and before it. -/
def transit (l : Link) (here : End) : List Frame :=
  l.pipes here ++ (l.ends here).waiting

/-- What an end has said on a stream that the other end has not heard. -/
def signals (l : Link) (here : End) (id : UInt32) : List Signal :=
  said id (l.transit here)

/-- A stream that an end has asked for, with the other end and the frames between the two. -/
structure Shares (l : Link) (issued : List UInt32) (here : End) (id : UInt32) (i : Nat)
    (s : Exchange) : Prop where
  wire : low31 id = id
  nonzero : id ≠ 0
  given : id ∈ issued
  owned : (role here).owns id = true
  holds : (l.ends here).Holds id i s
  accord : Accord id s (l.ends (across here)) (l.signals here id) (l.signals (across here) id)

/-- Both ends are at work, and what each of them has asked for is in accord with the other. The
consumers of the channels that are `kept` are there as long as they are needed. -/
structure Agrees (kept : End → Nat → Prop) (issued : List UInt32) (l : Link) : Prop where
  sound : ∀ here, (l.ends here).Sound
  healthy : ∀ here, (l.ends here).Healthy (role here)
  whole : ∀ here, ∀ f ∈ l.transit here, f.IsWhole
  fresh : ∀ id, low31 id = id → id ≠ 0 → id ∉ issued →
    ∀ here, (l.ends here).Lacks id ∧ l.signals here id = []
  shares : ∀ here i, i < (l.ends here).streams.size →
    ((l.ends here).stream i).kind.isRequester = true →
    (((l.ends here).stream i).kind = .requesterChannel → kept here i) →
    l.Shares issued here ((l.ends here).stream i).id i ((l.ends here).stream i)

variable {kept : End → Nat → Prop} {issued : List UInt32} {l l' : Link} {here : End} {id : UInt32}

theorem across_across (here : End) : across (across here) = here := by cases here <;> rfl

/-- What holds at an end and at the other holds at both. -/
theorem each {P : End → Prop} (own : P here) (other : P (across here)) (there : End) : P there := by
  by_cases mine : there = here
  · exact mine ▸ own
  · exact eq_across mine ▸ other

/-- An id of one end is not one of the other. -/
theorem foreign_across (owned : (role here).owns id = true) :
    (role (across here)).owns id = false := by
  cases here with
  | near =>
    have odd : id % 2 = 1 := by simpa [role, Side.owns] using owned
    simp [role, across, Side.owns, odd]
  | far =>
    have even : id % 2 = 0 := by
      simp only [role, Side.owns, Bool.and_eq_true, beq_iff_eq] at owned
      exact owned.2
    simp [role, across, Side.owns, even]

/-- What an allocator of one end gives out is one of its ids. -/
theorem owns_of_parity (nonzero : id ≠ 0)
    (parity : id.toNat % 2 = if role here = Side.client then 1 else 0) :
    (role here).owns id = true := by
  have mine : (if role here = Side.client then 1 else 0) = (role here).parity := by
    cases here <;> rfl
  exact ((role here).owns_iff id).mpr ⟨nonzero, parity.trans mine⟩

/-! ### Signals -/

theorem signals_same {there : End} (ends : l'.ends there = l.ends there)
    (pipes : l'.pipes there = l.pipes there) : l'.signals there id = l.signals there id := by
  rw [signals, signals, transit, transit, ends, pipes]

/-- What is enqueued for the stream is said last. -/
theorem signals_added (pipes : l'.pipes here = l.pipes here) {added : List Frame}
    (waiting : (l'.ends here).waiting = (l.ends here).waiting ++ added)
    (named : ∀ f ∈ added, low31 f.id = id) :
    l'.signals here id = l.signals here id ++ added.map (·.signal) := by
  rw [signals, signals, transit, transit, pipes, waiting, ← List.append_assoc, said_append,
    said_own named]

theorem signals_apart (pipes : l'.pipes here = l.pipes here)
    (apart : Connection.Apart id (l.ends here) (l'.ends here)) :
    l'.signals here id = l.signals here id := by
  obtain ⟨added, waiting, others⟩ := apart.waiting
  rw [signals, signals, transit, transit, pipes, waiting, ← List.append_assoc, said_append,
    said_others others, List.append_nil]

theorem whole_added (whole : ∀ f ∈ l.transit here, f.IsWhole) (pipes : l'.pipes here = l.pipes here)
    (adds : Connection.AddsWhole (l.ends here) (l'.ends here)) :
    ∀ f ∈ l'.transit here, f.IsWhole := by
  obtain ⟨added, waiting, new⟩ := adds
  intro f member
  rw [transit, pipes, waiting, ← List.append_assoc] at member
  exact (List.mem_append.mp member).elim (whole f) (new f)

/-! ### An end acts -/

/-- What one end does of its own accord. -/
structure Acts (here : End) (l l' : Link) : Prop where
  acts : (l.ends here).Acts (l'.ends here)
  other : l'.ends (across here) = l.ends (across here)
  pipes : l'.pipes = l.pipes

section

variable (h : l.Agrees kept issued) (made : Acts here l l')
  (live : (l'.ends here).isActive = true)
  (unspent : ∀ id ∈ (l.ends here).spent (l'.ends here), id ∉ issued)
include h made live unspent

/-- A stream that this end had asked for before. -/
theorem Agrees.shares_near {i : Nat} (bound : i < (l.ends here).streams.size)
    (requester : ((l.ends here).stream i).kind.isRequester = true)
    (keeps : ((l.ends here).stream i).kind = .requesterChannel →
      kept here i ∧ (l.ends here).Keeps (l'.ends here) i) :
    l'.Shares (issued ++ (l.ends here).spent (l'.ends here)) here ((l'.ends here).stream i).id i
      ((l'.ends here).stream i) := by
  obtain ⟨wire, nonzero, given, owned, holds, accord⟩ :=
    h.shares here i bound requester fun channel => (keeps channel).1
  have step := made.acts.toStep
  have later := step.later (h.sound here)
  have extends' := later.streams i bound
  have pipe : l'.pipes here = l.pipes here := by rw [made.pipes]
  have away : l'.signals (across here) ((l.ends here).stream i).id =
      l.signals (across here) ((l.ends here).stream i).id :=
    signals_same made.other (by rw [made.pipes])
  have other : ((l.ends here).stream i).id ∉ (l.ends here).spent (l'.ends here) := fun spent =>
    unspent _ spent given
  rw [extends'.id]
  rcases made.acts.about live wire other with apart | ⟨j, m, stirs⟩
  · have same := apart.same i bound wire
    refine ⟨wire, nonzero, List.mem_append_left _ given, owned, ?_, ?_⟩
    · rw [same]
      exact holds.apart wire apart
    · rw [same, made.other, signals_apart pipe apart, away]
      exact accord
  · -- No other stream has the id, so it is this one that makes the move.
    obtain rfl : j = i := Classical.byContradiction fun other =>
      holds.only j stirs.placed other stirs.named
    have coherent := (h.sound here).coherent j bound
    have effect := m.effect coherent stirs.fits
    have stream : (l'.ends here).stream j = (m.apply ((l.ends here).stream j)).1 := by
      rw [stirs.eq, Connection.stepWriting, Connection.stream_commit _ bound, if_pos rfl]
    have patient : m.Keeps ((l.ends here).stream j) := by
      cases m with
      | dropConsumer =>
        intro channel
        refine ((keeps channel).2 (Nat.lt_of_lt_of_le bound later.size) ?_ ?_).2
        · rw [extends'.kind, channel]
        · rw [stream]
          exact Exchange.dropConsumer_none _
      | _ => trivial
    have waiting : (l'.ends here).waiting =
        (l.ends here).waiting ++ (m.apply ((l.ends here).stream j)).2 := by
      rw [stirs.eq, Connection.stepWriting, Connection.waiting_commit, (h.healthy here).accepts,
        if_pos rfl]
    refine ⟨wire, nonzero, List.mem_append_left _ given, owned, ?_, ?_⟩
    · rw [stream, stirs.eq]
      exact holds.commit effect.id effect.isOver
    · rw [stream, made.other, away, signals_added pipe waiting fun f member => by
        rw [effect.writes.ids f member, wire]]
      exact accord.stirs_near coherent requester stirs.own stirs.fits stirs.fair patient

/-- A stream that the other end has asked for. -/
theorem Agrees.shares_far {i : Nat} (bound : i < (l.ends (across here)).streams.size)
    (requester : ((l.ends (across here)).stream i).kind.isRequester = true)
    (keeps : ((l.ends (across here)).stream i).kind = .requesterChannel → kept (across here) i) :
    l'.Shares (issued ++ (l.ends here).spent (l'.ends here)) (across here)
      ((l.ends (across here)).stream i).id i ((l.ends (across here)).stream i) := by
  obtain ⟨wire, nonzero, given, owned, holds, accord⟩ :=
    h.shares (across here) i bound requester keeps
  have pipe : l'.pipes here = l.pipes here := by rw [made.pipes]
  have away : l'.signals (across here) ((l.ends (across here)).stream i).id =
      l.signals (across here) ((l.ends (across here)).stream i).id :=
    signals_same made.other (by rw [made.pipes])
  have other : ((l.ends (across here)).stream i).id ∉ (l.ends here).spent (l'.ends here) :=
    fun spent => unspent _ spent given
  refine ⟨wire, nonzero, List.mem_append_left _ given, owned, made.other ▸ holds, ?_⟩
  rw [across_across] at accord ⊢
  rw [away]
  rcases made.acts.about live wire other with apart | ⟨j, m, stirs⟩
  · rw [signals_apart pipe apart]
    exact accord.apart wire apart
  · have own := m.own ((l.ends here).stream j)
    have waiting : (l'.ends here).waiting =
        (l.ends here).waiting ++ (m.apply ((l.ends here).stream j)).2 := by
      rw [stirs.eq, Connection.stepWriting, Connection.waiting_commit, (h.healthy here).accepts,
        if_pos rfl]
    rw [signals_added pipe waiting fun f member => by rw [own.2 f member, stirs.named]]
    exact accord.stirs_far (h.sound here) requester stirs

omit live in
/-- A stream that this end asks for. -/
theorem Agrees.shares_new {own : UInt32} {t : Exchange} {frames : List Frame}
    (opens : (l.ends here).Opens (l'.ends here) own t frames) :
    l'.Shares (issued ++ (l.ends here).spent (l'.ends here)) here own (l.ends here).streams.size
      t := by
  have given : own ∈ (l.ends here).spent (l'.ends here) := by
    rw [opens.spent]
    exact List.mem_singleton_self own
  have before := h.fresh own opens.wire opens.nonzero (unspent own given)
  have healthy := h.healthy here
  have pipe : l'.pipes here = l.pipes here := by rw [made.pipes]
  have away : l'.signals (across here) own = l.signals (across here) own :=
    signals_same made.other (by rw [made.pipes])
  have waiting := opens.waiting
  rw [healthy.accepts, if_pos rfl] at waiting
  obtain ⟨named, accord⟩ := Accord.opens opens (before (across here)).1
  refine ⟨opens.wire, opens.nonzero, List.mem_append_right _ given,
    owns_of_parity opens.nonzero (opens.parity.trans healthy.parity),
    opens.holds (before here).1, ?_⟩
  rw [made.other, away, (before (across here)).2, signals_added pipe waiting fun f member => by
    rw [named f member, opens.wire], (before here).2]
  exact accord

/-- Whatever an end does, the two agree. -/
theorem Agrees.acts (keeps : ∀ i, kept here i → (l.ends here).Keeps (l'.ends here) i) :
    l'.Agrees kept (issued ++ (l.ends here).spent (l'.ends here)) := by
  have step := made.acts.toStep
  have later := step.later (h.sound here)
  have grows := made.acts.grows live
  have pipe (there : End) : l'.pipes there = l.pipes there := by rw [made.pipes]
  refine ⟨each (step.sound (h.sound here)) (made.other ▸ h.sound (across here)),
    each ((h.healthy here).grows grows) (made.other ▸ h.healthy (across here)),
    each (whole_added (h.whole here) (pipe here) (made.acts.whole (h.sound here) live)) ?_,
    fun id wire nonzero unused => ?_, fun there i placed requester keep => ?_⟩
  · rw [transit, made.other, pipe]
    exact h.whole (across here)
  · rw [List.mem_append, not_or] at unused
    have before := h.fresh id wire nonzero unused.1
    rcases made.acts.about live wire unused.2 with apart | ⟨j, m, stirs⟩
    · -- Nothing is said on an id that nobody has.
      refine each ⟨(before here).1.apart apart, ?_⟩ ⟨made.other ▸ (before (across here)).1, ?_⟩
      · rw [signals_apart (pipe here) apart, (before here).2]
      · rw [signals_same made.other (pipe _), (before (across here)).2]
    · exact absurd stirs.named ((before here).1.absent j stirs.placed)
  · by_cases mine : there = here
    · subst mine
      rcases made.acts.places (h.sound there) live placed with old | ⟨rfl, own, t, frames, opens⟩
      · rw [(later.streams i old).kind] at requester keep
        exact h.shares_near made live unspent old requester fun channel =>
          ⟨keep channel, keeps i (keep channel)⟩
      · have stream : (l'.ends there).stream (l.ends there).streams.size = t := by
          rw [Connection.stream_push rfl opens.streams, if_pos rfl]
        rw [stream, opens.named]
        exact h.shares_new made unspent opens
    · rw [eq_across mine] at placed requester keep ⊢
      rw [made.other] at placed requester keep ⊢
      exact h.shares_far made live unspent placed requester keep

end

end Link
end World
end StreamMux
