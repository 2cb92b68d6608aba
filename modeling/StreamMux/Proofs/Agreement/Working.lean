import StreamMux.Proofs.Agreement.Wire

/-!
# Several deeds at a time

Between two frames of its peer an end makes any number of moves of one stream (`Connection.Works`),
and with them at most once something else (`Connection.Acted`). Consumers that have come to their
end stay so (`Connection.Ages`), so that what a channel keeps over all of this it keeps in each
deed.
-/
namespace StreamMux

namespace Connection

variable {c d e : Connection} {i j : Nat}

/-- Moves of the stream at a place, one after the other. -/
inductive Works (i : Nat) (c : Connection) : Connection → Prop
  | still : Works i c c
  | move {d : Connection} (works : Works i c d) (m : Exchange.Move) (own : m.isLocal = true)
      (placed : i < d.streams.size) (fits : m.Fits (d.stream i)) (fair : m.IsFair (d.stream i)) :
      Works i c (d.stepWriting i (m.apply ·))

/-- Moves of one stream, something else maybe, and moves of another one. -/
inductive Acted (c d : Connection) : Prop
  | works (i : Nat) (works : Works i c d) : Acted c d
  | acts {b b' : Connection} (i j : Nat) (before : Works i c b) (acts : b.Acts b')
      (after : Works j b' d) : Acted c d

/-- Nobody takes up the items of a stream again, and who has come to the end is done. -/
structure Ages (c d : Connection) : Prop where
  later : c.Later d
  gone : ∀ i < c.streams.size, (c.stream i).consumer = none → (d.stream i).consumer = none
  retired : ∀ i < c.streams.size, (c.stream i).Retired → (d.stream i).Retired

/-! ### One deed -/

theorem Acts.ages (acts : c.Acts d) (h : c.Sound) (live : d.isActive = true) : c.Ages d := by
  have later := acts.toStep.later h
  have same (eq : ∀ i < c.streams.size, d.stream i = c.stream i) : c.Ages d :=
    ⟨later, fun i bound gone => by rw [eq i bound, gone], fun i bound retired => by
      rw [eq i bound]
      exact retired⟩
  cases acts with
  | asks made =>
    obtain ⟨_, _, _, opens⟩ := made.opens
    exact same fun i bound => by rw [stream_push rfl opens.streams, if_neg (Nat.ne_of_lt bound)]
  | serves made =>
    have streams := made.streams h live
    exact same fun i _ => by rw [stream, stream, streams]
  | moves i m own placed fits fair =>
    refine ⟨later, fun j bound gone => ?_, fun j bound retired => ?_⟩
    · rw [stepWriting, stream_commit c placed]
      split
      next mine => exact Exchange.Move.consumer_none own (mine ▸ gone)
      · exact gone
    · rw [stepWriting, stream_commit c placed]
      split
      next mine => exact Exchange.Move.retired own (mine ▸ retired)
      · exact retired

theorem Keeps.first (keeps : c.Keeps e i) (later : d.Ages e) :
    c.Keeps d i := fun bound channel gone =>
  keeps (Nat.lt_of_lt_of_le bound later.later.size)
    ((later.later.streams i bound).kind.trans channel) (later.gone i bound gone)

theorem Keeps.second (keeps : c.Keeps e i) (before : c.Ages d) : d.Keeps e i :=
  fun bound channel gone => by
    obtain ⟨early, dispensable⟩ := keeps bound channel gone
    exact ⟨Nat.lt_of_lt_of_le early before.later.size,
      dispensable.imp (before.retired i early) (before.later.streams i early).outbound⟩

/-! ### Many moves -/

namespace Works

theorem trans (h : Works i c d) (h' : Works i d e) : Works i c e := by
  induction h' with
  | still => exact h
  | move works m own placed fits fair ih => exact ih.move m own placed fits fair

theorem single (m : Exchange.Move) (own : m.isLocal = true) (placed : i < c.streams.size)
    (fits : m.Fits (c.stream i)) (fair : m.IsFair (c.stream i)) :
    Works i c (c.stepWriting i (m.apply ·)) :=
  .move .still m own placed fits fair

theorem size (h : Works i c d) : d.streams.size = c.streams.size := by
  induction h with
  | still => rfl
  | move works m own placed fits fair ih => rw [stepWriting, size_commit, ih]

theorem ids (h : Works i c d) : d.ids = c.ids := by
  induction h with
  | still => rfl
  | move works m own placed fits fair ih => exact ih

theorem terminal (h : Works i c d) : d.terminal = c.terminal := by
  induction h with
  | still => rfl
  | move works m own placed fits fair ih => exact ih

theorem isActive (h : Works i c d) : d.isActive = c.isActive :=
  congrArg Option.isNone h.terminal

theorem others (h : Works i c d) (other : j ≠ i) : d.stream j = c.stream j := by
  induction h with
  | still => rfl
  | move works m own placed fits fair ih => rw [stepWriting, stream_commit_ne _ other, ih]

theorem sound (h : Works i c d) (sound : c.Sound) : d.Sound := by
  induction h with
  | still => exact sound
  | @move d works m own placed fits fair ih => exact (Step.act d i m own placed fits).sound ih

theorem later (h : Works i c d) (sound : c.Sound) : c.Later d := by
  induction h with
  | still => exact .refl c
  | @move d works m own placed fits fair ih =>
    exact ih.trans ((Step.act d i m own placed fits).later (works.sound sound))

theorem ages (h : Works i c d) (sound : c.Sound) (live : d.isActive = true) : c.Ages d := by
  induction h with
  | still => exact ⟨.refl c, fun _ _ gone => gone, fun _ _ retired => retired⟩
  | @move d works m own placed fits fair ih =>
    have before := ih live
    have after := (Acts.moves i m own placed fits fair).ages (works.sound sound) live
    exact
      { later := before.later.trans after.later
        gone := fun j bound gone =>
          after.gone j (Nat.lt_of_lt_of_le bound before.later.size) (before.gone j bound gone)
        retired := fun j bound retired => after.retired j
          (Nat.lt_of_lt_of_le bound before.later.size) (before.retired j bound retired) }

end Works

/-- The ids are given out where something else is done than moves. -/
theorem spent_of_acts {b b' : Connection} (before : Works i c b) (after : Works j b' d) :
    c.spent d = b.spent b' := by
  rw [spent, spent, before.ids, after.ids]

end Connection

namespace World.Link

variable {kept : End → Nat → Prop} {issued : List UInt32} {l : Link} {here : End}
  {c d : Connection} {i : Nat}

/-- One end changes. -/
def become (l : Link) (here : End) (d : Connection) : Link where
  ends there := if there = here then d else l.ends there
  pipes := l.pipes

@[simp] theorem become_here (l : Link) (here : End) (d : Connection) :
    (l.become here d).ends here = d := if_pos rfl

@[simp] theorem become_across (l : Link) (here : End) (d : Connection) :
    (l.become here d).ends (across here) = l.ends (across here) := if_neg (across_ne here)

@[simp] theorem become_self (l : Link) (here : End) : l.become here (l.ends here) = l := by
  simp only [become]
  congr 1
  funext there
  split
  next mine => rw [mine]
  · rfl

theorem Agrees.act (h : (l.become here c).Agrees kept issued) (acts : c.Acts d)
    (live : d.isActive = true) (unspent : ∀ id ∈ c.spent d, id ∉ issued)
    (keeps : ∀ i, kept here i → c.Keeps d i) :
    (l.become here d).Agrees kept (issued ++ c.spent d) := by
  have own := l.become_here here c
  have own' := l.become_here here d
  have made : Link.Acts here (l.become here c) (l.become here d) :=
    ⟨by rw [own, own']; exact acts, by rw [become_across, become_across], rfl⟩
  have agrees := h.acts made (by rw [own']; exact live) (by rw [own, own']; exact unspent)
    (by rw [own, own']; exact keeps)
  rw [own, own'] at agrees
  exact agrees

theorem Agrees.works (h : (l.become here c).Agrees kept issued) (works : c.Works i d)
    (live : d.isActive = true) (keeps : ∀ i, kept here i → c.Keeps d i) :
    (l.become here d).Agrees kept issued := by
  have start : c.Sound := l.become_here here c ▸ h.sound here
  induction works with
  | still => exact h
  | @move d works m own placed fits fair ih =>
    have sound := works.sound start
    have acts := Connection.Acts.moves i m own placed fits fair
    have before := ih live fun j keep => (keeps j keep).first (acts.ages sound live)
    have nothing : d.spent (d.stepWriting i (m.apply ·)) = [] := if_pos rfl
    have after := before.act acts live (by rw [nothing]; simp) fun j keep =>
      (keeps j keep).second (works.ages start live)
    rw [nothing, List.append_nil] at after
    exact after

/-- Whatever an end does between two frames, the two agree. -/
theorem Agrees.acted (h : l.Agrees kept issued) (acted : (l.ends here).Acted d)
    (live : d.isActive = true) (unspent : ∀ id ∈ (l.ends here).spent d, id ∉ issued)
    (keeps : ∀ i, kept here i → (l.ends here).Keeps d i) :
    (l.become here d).Agrees kept (issued ++ (l.ends here).spent d) := by
  have start : (l.become here (l.ends here)).Agrees kept issued := by
    rw [become_self]
    exact h
  cases acted with
  | works i works =>
    have nothing : (l.ends here).spent d = [] := if_pos works.ids
    rw [nothing, List.append_nil]
    exact start.works works live keeps
  | @acts b b' i j before acts after =>
    rw [Connection.spent_of_acts before after] at unspent ⊢
    have live' : b'.isActive = true := after.isActive.symm.trans live
    -- What is kept from the first state to the last is kept in each of the three parts, since
    -- nobody takes up items again and who has come to the end stays there.
    have sound := before.sound (h.sound here)
    have sound' := acts.toStep.sound sound
    have ages := acts.ages sound live'
    have ages' := after.ages sound' live
    have alive : b.isActive = true := (acts.toStep.outcome sound).isActive live'
    have early := before.ages (h.sound here) alive
    have first := start.works before alive fun k keep => ((keeps k keep).first ages').first ages
    have second := first.act acts live' unspent fun k keep =>
      ((keeps k keep).first ages').second early
    exact second.works after live fun k keep => ((keeps k keep).second early).second ages

end World.Link
end StreamMux
