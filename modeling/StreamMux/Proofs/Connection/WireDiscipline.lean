import StreamMux.Proofs.Connection.HalfClose
import StreamMux.Proofs.Exchange.Discipline

/-!
# What a connection writes for each of its streams

The frames that a run enqueues for a stream are lawful for its kind, whatever the peer sends and in
whatever order the application acts. A step adds to one stream at most, and only frames that the
state of the stream allows (`Outcome.effect`, `Outcome.birth`); the discipline of a run follows by
induction.
-/
namespace StreamMux

namespace Exchange

/-- Nothing is written on a stream that is over. -/
theorem Writes.of_over {s t : Exchange} {frames : List Frame} (hs : s.Coherent)
    (finished : s.isOver = true) (h : s.Writes t frames) : frames = [] := by
  rw [isOver_iff] at finished
  cases h with
  | nothing => rfl
  | requestN n waits isOpen => simp [hs.inbox isOpen waits] at finished
  | cancel kind known isOpen closed gone ended => simp [isOpen] at finished
  | item payload sends isOpen => simp [isOpen] at finished
  | completion sends isOpen closed => simp [isOpen] at finished
  | failure f sends isOpen ended inbox => simp [isOpen] at finished
  | answer payload kind isOpen closed => simp [isOpen] at finished
  | refusal f kind isOpen closed => simp [isOpen] at finished
  | opening initial first complete unopened isOpen known closed => simp [isOpen] at finished

/-- Once its own direction is closed, an end writes of the peer's sequence only. -/
theorem Writes.of_closed {s t : Exchange} {frames : List Frame} (h : s.Writes t frames)
    (closed : s.closed.outbound = true) :
    ∀ f ∈ frames, f.signal = .requestN ∨ f.signal = .cancel := by
  cases h with
  | nothing => simp
  | requestN n waits isOpen => simp
  | cancel kind known isOpen ended gone finished => simp
  | item payload sends isOpen => simp [isOpen] at closed
  | completion sends isOpen ended => simp [isOpen] at closed
  | failure f sends isOpen finished inbox => simp [isOpen] at closed
  | answer payload kind isOpen ended => simp [isOpen] at closed
  | refusal f kind isOpen ended => simp [isOpen] at closed
  | opening initial first complete unopened isOpen known ended => simp [isOpen] at closed

end Exchange

namespace Connection

/-! ### What one step enqueues for a stream -/

theorem Born.ids {t : Exchange} {frames : List Frame} (h : Born t frames) :
    ∀ f ∈ frames, f.id = t.id := by
  cases h with
  | response id payload => simp [Frame.id, PayloadFrame.requestResponse, Exchange.requesterResponse]
  | stream id batch payload =>
    simp [Frame.id, PayloadFrame.requestStream, Exchange.requesterStream]
  | channel id batch => simp
  | responder id initial answers effect =>
    rw [effect.id]
    exact effect.writes.ids

/-- The frames of one stream, and of no other, are those that concern it. -/
theorem filter_concerns {c d : Connection} {i : Nat} {frames : List Frame}
    (ids : ∀ f ∈ frames, c.Concerns d i f)
    (other : ∀ f ∈ frames, ∀ j, c.Concerns d j f → j = i) (j : Nat) :
    frames.filter (c.Concerns d j) = if j = i then frames else [] := by
  split
  next same =>
    rw [List.filter_eq_self]
    exact fun f hf => by simpa [same] using ids f hf
  next different =>
    rw [List.filter_eq_nil_iff]
    exact fun f hf concerns => different (other f hf j (by simpa using concerns))

theorem enqueuedFor_still {c d : Connection} (streams : d.streams = c.streams)
    (enqueued : ∀ f ∈ c.enqueued d, f.type = .requestFnf ∧ c.registry.get? f.id = none) (j : Nat) :
    c.enqueuedFor d j = [] := by
  rw [enqueuedFor, List.filter_eq_nil_iff]
  intro f hf concerns
  rcases (of_decide_eq_true concerns).2 with held | ⟨fresh, placed⟩
  · simp [(enqueued f hf).2] at held
  · rw [streams] at placed
    omega

/-- What a stream writes in a step is enqueued for it. -/
theorem concerns_moved {c : Connection} (h : c.Sound) {i : Nat} (placed : i < c.streams.size)
    {t : Exchange} {frames : List Frame} (effect : (c.stream i).Effect t frames) :
    ∀ f ∈ frames, c.registry.get? f.id = some i ∧ c.Concerns (c.commit i t frames) i f := by
  intro f hf
  have id := effect.writes.ids f hf
  have held : c.registry.get? f.id = some i := by
    rw [id, h.registered i placed]
    refine Bool.eq_false_iff.mpr fun finished => ?_
    simp [effect.writes.of_over (h.coherent i placed) finished] at hf
  refine ⟨held, ?_, .inl held⟩
  rw [stream_commit c placed, if_pos rfl, effect.id, id]

theorem enqueuedFor_moved {c : Connection} (h : c.Sound) {i : Nat} (placed : i < c.streams.size)
    {t : Exchange} {frames : List Frame} (effect : (c.stream i).Effect t frames) (j : Nat) :
    c.enqueuedFor (c.commit i t frames) j =
      if j = i then (if c.isActive then frames else []) else [] := by
  rw [enqueuedFor, enqueued_commit, h.accepts]
  by_cases active : c.isActive = true
  · simp only [if_pos active]
    have own := concerns_moved h placed effect
    refine filter_concerns (fun f hf => (own f hf).2) (fun f hf j concerns => ?_) j
    rcases concerns.2 with other | ⟨fresh, bound⟩
    · exact Option.some.inj (other.symm.trans (own f hf).1)
    · rw [size_commit] at bound
      omega
  · simp [active]

theorem concerns_opened {c d : Connection} {t : Exchange} {frames : List Frame}
    (born : Born t frames) (streams : d.streams = c.streams.push t) :
    ∀ f ∈ frames, c.Concerns d c.streams.size f := by
  intro f hf
  refine ⟨?_, .inr ⟨Nat.le_refl _, ?_⟩⟩
  · rw [stream_push rfl streams, if_pos rfl, born.ids f hf]
  · rw [streams, Array.size_push]
    exact Nat.lt_succ_self _

theorem enqueuedFor_opened {c d : Connection} (h : c.Sound) {t : Exchange} {frames : List Frame}
    (born : Born t frames) (free : c.registry.get? t.id = none)
    (streams : d.streams = c.streams.push t)
    (enqueued : c.enqueued d = if c.queue.accepts then frames else []) (j : Nat) :
    c.enqueuedFor d j =
      if j = c.streams.size then (if c.isActive then frames else []) else [] := by
  have size : d.streams.size = c.streams.size + 1 := by rw [streams, Array.size_push]
  rw [enqueuedFor, enqueued, h.accepts]
  by_cases active : c.isActive = true
  · simp only [if_pos active]
    refine filter_concerns (concerns_opened born streams) (fun f hf j concerns => ?_) j
    rcases concerns.2 with other | ⟨fresh, bound⟩
    · rw [born.ids f hf, free] at other
      contradiction
    · omega
  · simp [active]

theorem enqueuedFor_torn {c d : Connection} (enqueued : c.enqueued d = []) (j : Nat) :
    c.enqueuedFor d j = [] := by
  rw [enqueuedFor, enqueued]
  rfl

/-- A step and a stream that was there: it makes at most one move, and what that writes is all that
is enqueued for it. -/
theorem Outcome.effect {c d : Connection} (h : c.Sound) (outcome : c.Outcome d) {i : Nat}
    (placed : i < c.streams.size) :
    ∃ frames, (c.stream i).Effect (d.stream i) frames ∧
      c.enqueuedFor d i = if c.isActive then frames else [] := by
  have stays := Exchange.Effect.stay (h.coherent i placed)
  cases outcome with
  | still streams registry active accepts enqueued =>
    refine ⟨[], ?_, by simp [enqueuedFor_still streams enqueued]⟩
    rw [stream, stream, streams] at *
    exact stays
  | moved j bound effect eq =>
    subst eq
    rw [stream_commit c bound, enqueuedFor_moved h bound effect]
    by_cases same : i = j
    · subst same
      exact ⟨_, by simpa using effect, by simp⟩
    · exact ⟨[], by simpa [same] using stays, by simp [same]⟩
  | opened born live free streams registry active accepts enqueued =>
    rw [stream_push rfl streams, enqueuedFor_opened h born free streams enqueued]
    have earlier := Nat.ne_of_lt placed
    exact ⟨[], by simpa [earlier] using stays, by simp [earlier]⟩
  | torn cause live streams registry finished refuses enqueued =>
    exact ⟨[], (torn_stream h streams placed).1, by simp [enqueuedFor_torn enqueued]⟩

/-- A step and a stream that it opens. -/
theorem Outcome.birth {c d : Connection} (h : c.Sound) (outcome : c.Outcome d) {i : Nat}
    (fresh : c.streams.size ≤ i) (placed : i < d.streams.size) :
    ∃ frames, Born (d.stream i) frames ∧
      ((d.stream i).kind.isRequester = true → c.isActive = true) ∧
      c.enqueuedFor d i = if c.isActive then frames else [] := by
  cases outcome with
  | still streams registry active accepts enqueued =>
    rw [streams] at placed
    omega
  | moved j bound effect eq =>
    rw [eq, size_commit] at placed
    omega
  | opened born live free streams registry active accepts enqueued =>
    have last : i = c.streams.size := by
      rw [streams, Array.size_push] at placed
      omega
    rw [stream_push rfl streams, enqueuedFor_opened h born free streams enqueued, if_pos last,
      if_pos last]
    exact ⟨_, born, live, rfl⟩
  | torn cause live streams registry finished refuses enqueued =>
    rw [streams, size_fail_all] at placed
    omega

/-- A connection that is over enqueues nothing, and never starts again. -/
theorem Outcome.isActive {c d : Connection} (outcome : c.Outcome d) (active : d.isActive = true) :
    c.isActive = true := by
  cases outcome with
  | still streams registry same accepts enqueued => rw [← same, active]
  | moved i placed effect eq => rw [eq] at active; exact active
  | opened born live free streams registry same accepts enqueued => rw [← same, active]
  | torn cause live streams registry finished refuses enqueued => exact live

/-! ### What a run enqueues for a stream -/

/-- A stream on which nothing was written yet. -/
theorem lawful_nil {kind : StreamKind}
    (later : kind.isRequester = true → kind = .requesterChannel) : Lawful [] kind := by
  cases kind <;> simp [StreamKind.isRequester] at later
  case requesterChannel => exact ⟨.inl rfl, .nil _ _, by simp, by simp [Final], by simp [Final]⟩
  case responderFireAndForget => rfl
  case responderResponse => exact .inl rfl
  case responderStream => exact .nil _ _
  case responderChannel => exact ⟨.nil _ _, .nil _ _, by simp [Final]⟩

theorem tracks_nil {s : Exchange} (unknown : s.kind = .requesterChannel → s.initiated = false) :
    Tracks s [] where
  cancel member := by simp at member
  ends x member := by simp at member
  error member := by simp at member
  opened kind known := by simp [unknown kind] at known
  unopened _ complete := by simp

theorem Born.lawful {t : Exchange} {frames : List Frame} (h : Born t frames) :
    Lawful (frames.map (·.signal)) t.kind ∧ Tracks t (frames.map (·.signal)) := by
  cases h with
  | response id payload =>
    refine ⟨.inl rfl, ?_⟩
    constructor <;> simp [Exchange.requesterResponse, Signal.isEnd]
  | stream id batch payload =>
    refine ⟨⟨[], rfl, .nil _ _⟩, ?_⟩
    constructor <;> simp [Exchange.requesterStream, Signal.isEnd]
  | channel id batch => exact ⟨lawful_nil fun _ => rfl, tracks_nil fun _ => rfl⟩
  | @responder id kind initial _ _ answers effect =>
    have fresh := responder_coherent id initial answers
    have empty : Tracks (.responder id kind initial) [] := tracks_nil fun (same : kind = _) => by
      simp [same, StreamKind.isRequester] at answers
    have none := lawful_nil fun asks => by
      rw [answers] at asks
      contradiction
    exact ⟨effect.lawful fresh empty none, effect.tracks empty⟩

/-- What is known of the frames that a run has enqueued: they are lawful, and the state of an active
connection tells which may follow. -/
structure Disciplined (c : Connection) (sent : Nat → List Frame) : Prop where
  lawful : ∀ i < c.streams.size, Lawful ((sent i).map (·.signal)) (c.stream i).kind
  tracks : c.isActive = true → ∀ i < c.streams.size, Tracks (c.stream i) ((sent i).map (·.signal))
  unplaced : ∀ i, c.streams.size ≤ i → sent i = []

theorem Disciplined.step {c d : Connection} {sent : Nat → List Frame} (h : c.Sound)
    (before : c.Disciplined sent) (next : Step c d) :
    d.Disciplined (fun i => sent i ++ c.enqueuedFor d i) := by
  have outcome := next.outcome h
  have later := outcome.later h
  refine ⟨fun i hi => ?_, fun active i hi => ?_, fun i hi => ?_⟩
  · rw [List.map_append]
    by_cases placed : i < c.streams.size
    · obtain ⟨frames, effect, eq⟩ := outcome.effect h placed
      rw [eq]
      split
      next active =>
        exact effect.lawful (h.coherent i placed) (before.tracks active i placed)
          (before.lawful i placed)
      · simpa [effect.kind] using before.lawful i placed
    · have fresh := Nat.le_of_not_lt placed
      obtain ⟨frames, born, asks, eq⟩ := outcome.birth h fresh hi
      rw [eq, before.unplaced i fresh, List.map_nil, List.nil_append]
      split
      · exact born.lawful.1
      next inactive => exact lawful_nil fun requester => absurd (asks requester) inactive
  · have was := outcome.isActive active
    rw [List.map_append]
    by_cases placed : i < c.streams.size
    · obtain ⟨frames, effect, eq⟩ := outcome.effect h placed
      rw [eq, if_pos was]
      exact effect.tracks (before.tracks was i placed)
    · have fresh := Nat.le_of_not_lt placed
      obtain ⟨frames, born, _, eq⟩ := outcome.birth h fresh hi
      rw [eq, if_pos was, before.unplaced i fresh]
      exact born.lawful.2
  · have unplaced := Nat.le_trans later.size hi
    rw [before.unplaced i unplaced, List.nil_append, enqueuedFor, List.filter_eq_nil_iff]
    intro f _ concerns
    rcases (of_decide_eq_true concerns).2 with held | ⟨_, placed⟩
    · exact absurd (h.placed held).1 (Nat.not_lt_of_le unplaced)
    · exact absurd placed (Nat.not_lt_of_le hi)

theorem Run.disciplined {c d : Connection} {sent : Nat → List Frame} (run : Run c sent d)
    (h : c.Sound) (empty : c.streams.size = 0) : d.Disciplined sent := by
  induction run with
  | start => exact ⟨fun i hi => by omega, fun _ i hi => by omega, fun _ _ => rfl⟩
  | step run next ih => exact ih.step (run.sound h) next

/-- Once the direction to the peer is closed, only the peer's sequence is written about. -/
theorem Run.after_closed {c d : Connection} {sent : Nat → List Frame} (run : Run c sent d)
    (h : c.Sound) {i : Nat} (placed : i < c.streams.size)
    (closed : (c.stream i).closed.outbound = true) :
    ∀ f ∈ sent i, f.signal = .requestN ∨ f.signal = .cancel := by
  induction run with
  | start => simp
  | @step d e sent run next ih =>
    have later := run.later h
    have sound := run.sound h
    obtain ⟨frames, effect, eq⟩ :=
      (next.outcome sound).effect sound (Nat.lt_of_lt_of_le placed later.size)
    intro f hf
    rcases List.mem_append.mp hf with before | now
    · exact ih f before
    · rw [eq] at now
      split at now
      · exact effect.writes.of_closed ((later.streams i placed).outbound closed) f now
      · simp at now

/-- Once a stream is over, nothing is written on it. -/
theorem Run.after_over {c d : Connection} {sent : Nat → List Frame} (run : Run c sent d)
    (h : c.Sound) {i : Nat} (placed : i < c.streams.size) (finished : (c.stream i).isOver = true) :
    sent i = [] := by
  induction run with
  | start => rfl
  | @step d e sent run next ih =>
    have later := run.later h
    have sound := run.sound h
    have bound := Nat.lt_of_lt_of_le placed later.size
    obtain ⟨frames, effect, eq⟩ := (next.outcome sound).effect sound bound
    have none := effect.writes.of_over (sound.coherent i bound)
      ((later.streams i placed).isOver finished)
    have now : d.enqueuedFor e i = [] := by
      rw [eq, none]
      simp
    exact List.append_eq_nil_iff.mpr ⟨ih, now⟩

/-- A request for one answer or for a stream closes the direction to the peer from the start. -/
theorem Run.asks_closed {c d : Connection} {sent : Nat → List Frame} (run : Run c sent d)
    (h : c.Sound) (empty : c.streams.size = 0) {i : Nat} (placed : i < d.streams.size)
    (kind : (d.stream i).kind = .requesterResponse ∨ (d.stream i).kind = .requesterStream) :
    (d.stream i).closed.outbound = true := by
  induction run with
  | start => omega
  | @step d e sent run next ih =>
    have sound := run.sound h
    by_cases before : i < d.streams.size
    · have later := (next.later sound).streams i before
      exact later.outbound (ih before (later.kind ▸ kind))
    · obtain ⟨frames, born, _⟩ :=
        (next.outcome sound).birth sound (Nat.le_of_not_lt before) placed
      generalize e.stream i = t at born kind ⊢
      cases born with
      | response id payload => rfl
      | stream id batch payload => rfl
      | channel id batch => simp [Exchange.requesterChannel] at kind
      | responder id initial answers effect =>
        rw [effect.kind] at kind
        rcases kind with same | same <;>
          simp [Exchange.responder] at same <;> simp [same, StreamKind.isRequester] at answers

/-- What the peer's CANCEL closes. -/
theorem cancelByPeer_closes {s : Exchange}
    (asks : s.kind = .requesterResponse ∨ s.kind = .requesterStream → s.closed.outbound = true) :
    s.cancelByPeer.closed.outbound = true ∧
      (s.kind.isRequester = false → s.cancelByPeer.isOver = true) := by
  unfold Exchange.cancelByPeer
  split
  next kind => simp [Exchange.close, Exchange.stop, kind, StreamKind.isRequester]
  next kind => simp [asks (.inl kind), kind, StreamKind.isRequester]
  next kind => simp [asks (.inr kind), kind, StreamKind.isRequester]
  next notChannel notResponse notStream =>
    obtain ⟨inbox, eq⟩ := ((s.close Directions.both).stop).failInbox_eq
      (.canceled "stream canceled by requester")
    rw [eq]
    simp [Exchange.close, Exchange.stop, Exchange.isOver]

/-- A step enqueues no frame of a stream but for the stream itself. -/
theorem Outcome.concerns {c d : Connection} (h : c.Sound) (outcome : c.Outcome d) :
    ∀ f ∈ c.enqueued d, f.type = .requestFnf ∨ ∃ i, c.Concerns d i f := by
  intro f hf
  cases outcome with
  | still streams registry active accepts enqueued => exact .inl (enqueued f hf).1
  | moved i placed effect eq =>
    subst eq
    rw [enqueued_commit] at hf
    split at hf
    · exact .inr ⟨i, (concerns_moved h placed effect f hf).2⟩
    · simp at hf
  | opened born live free streams registry active accepts enqueued =>
    rw [enqueued] at hf
    split at hf
    · exact .inr ⟨_, concerns_opened born streams f hf⟩
    · simp at hf
  | torn cause live streams registry finished refuses enqueued => simp [enqueued] at hf

/-- Whatever the peer and the application do, in any order: what is enqueued for a stream is lawful
for its kind. Once the peer's CANCEL was handled, nothing of this end's sequence follows, and on a
stream that the peer opened nothing at all. Every frame that is enqueued is one of a stream, apart
from the requests that nothing is kept of. -/
theorem enqueued_lawful {side : Side} {config : ConnectionConfig} {setup : Option Setup}
    {now : Duration} {c : Connection} {sent : Nat → List Frame}
    (run : Run (new side config setup now) sent c) :
    (∀ i < c.streams.size, Lawful ((sent i).map (·.signal)) (c.stream i).kind) ∧
    (∀ id i keepsItems now, c.registry.get? id = some i →
      ∀ d later, Run (c.dispatch keepsItems now (.cancel id)).1 later d →
        (∀ f ∈ later i, f.signal = .requestN ∨ f.signal = .cancel) ∧
        ((c.stream i).kind.isRequester = false → later i = [])) ∧
    (∀ d, Step c d → ∀ f ∈ c.enqueued d, f.type = .requestFnf ∨ ∃ i, c.Concerns d i f) := by
  have fresh := sound_new side config setup now
  have h := run.sound fresh
  refine ⟨(run.disciplined fresh rfl).lawful, fun id i keepsItems now held d later after => ?_, ?_⟩
  · have placed := (h.placed held).1
    have cancel : Step c (c.dispatch keepsItems now (.cancel id)).1 := .dispatch _ _ _ _
    have sound := cancel.sound h
    have eq : (c.dispatch keepsItems now (.cancel id)).1 =
        c.commit i (c.stream i).cancelByPeer [] := by
      simp [dispatch, stepRegistered, held, step]
    rw [eq] at after sound
    have closes := cancelByPeer_closes (run.asks_closed fresh rfl placed)
    have bound : i < (c.commit i (c.stream i).cancelByPeer []).streams.size := by
      rw [size_commit]
      exact placed
    have stream :
        (c.commit i (c.stream i).cancelByPeer []).stream i = (c.stream i).cancelByPeer := by
      rw [stream_commit c placed, if_pos rfl]
    refine ⟨after.after_closed sound bound ?_, fun answers => after.after_over sound bound ?_⟩
    · rw [stream]
      exact closes.1
    · rw [stream]
      exact closes.2 answers
  · exact fun d next => (next.outcome h).concerns h

/-- An item is sent on a stream that the peer asked for. After the peer's CANCEL the end of the
items is not written any more. -/
theorem enqueued_lawful_of_cancelled :
    let opened := ((new .server {} none 0).dispatch (fun _ => true) 0
      (.payload (.requestStream 1 8 Payload.empty))).1
    let sending := opened.stepWriting 0 ((Exchange.Move.offer Payload.empty).apply ·)
    let cancelled := (sending.dispatch (fun _ => true) 0 (.cancel 1)).1
    let after := cancelled.stepWriting 0 (Exchange.Move.complete.apply ·)
    (opened.enqueuedFor sending 0).map (·.signal) = [.item] ∧ Lawful [.item] .responderStream ∧
      cancelled.enqueuedFor after 0 = [] := by
  intro opened sending cancelled after
  have first : Step (new .server {} none 0) opened := .dispatch _ _ _ _
  have second : Step opened sending := .act _ _ _ rfl (by decide) ⟨rfl, rfl⟩
  have last : Step cancelled after := .act _ _ _ rfl (by decide) ⟨rfl, rfl⟩
  have law := enqueued_lawful ((Run.start.step first).step second)
  have silent := (law.2.1 1 0 (fun _ => true) 0 (by decide) after _ (Run.start.step last)).2 rfl
  exact ⟨by decide, law.1 0 (by decide), (List.append_eq_nil_iff.mp silent).2⟩

end Connection
end StreamMux
