import StreamMux.Proofs.Agreement.Talk
import StreamMux.Proofs.Connection.Step
import StreamMux.Proofs.Exchange.Ending

/-!
# What an end tells of a stream

Whatever an end does of its own accord on a stream that its peer knows, it tells the peer which
directions it closes (`Move.tells`). There are two ways not to: to fail a sequence that was
completed, which no task does (`Move.IsFair`), and to let go of the consumer of a channel on which
there is more to come both ways, since the CANCEL for that speaks of one direction only
(`Move.Keeps`). A channel that the peer does not know yet closes in silence, or is opened
(`Move.opens_or_waits`).
-/
namespace StreamMux.Exchange

/-- The consumer has come to the end of its items, or is gone. -/
def Retired (s : Exchange) : Prop :=
  ∀ consumer, s.consumer = some consumer → consumer.finished = true

/-- The consumer can go: it has come to its end, or nothing more is sent to the peer. -/
def Dispensable (s : Exchange) : Prop :=
  s.Retired ∨ s.closed.outbound = true

/-- A sequence fails before it is over. -/
def Move.IsFair (s : Exchange) : Move → Prop
  | failLocally _ => s.closed.outbound = false
  | _ => True

/-- A channel of this end keeps its consumer as long as it needs it. -/
def Move.Keeps (s : Exchange) : Move → Prop
  | dropConsumer => s.kind = .requesterChannel → s.Dispensable
  | _ => True

/-- A request for an answer or a stream carries items one way only. -/
structure OneWay (s : Exchange) : Prop where
  sends : s.kind = .requesterResponse ∨ s.kind = .requesterStream → s.closed.outbound = true
  takes : s.kind = .responderResponse ∨ s.kind = .responderStream → s.closed.inbound = true

variable {s t : Exchange} {m : Move}

/-! ### Parts of moves -/

theorem poll_eq (s : Exchange) : ∃ inbox consumer, s.poll.2.1 = { s with inbox, consumer } ∧
    (s.consumer = none → consumer = none) ∧ (s.Retired → consumer = s.consumer) ∧
    ∀ f ∈ s.poll.2.2, f.signal = .requestN := by
  unfold poll
  split
  next none => exact ⟨s.inbox, s.consumer, rfl, fun h => h, fun _ => rfl, by simp⟩
  next consumer waits =>
    split
    · exact ⟨s.inbox, s.consumer, rfl, fun h => h, fun _ => rfl, by simp⟩
    next unfinished =>
      have goes : ¬ s.Retired := fun retired => unfinished (retired consumer waits)
      have late (later : Option Consumer) : s.Retired → later = s.consumer := fun h => absurd h goes
      have there (later : Option Consumer) : s.consumer = none → later = none := fun h => by
        rw [waits] at h
        contradiction
      split
      · exact ⟨_, _, rfl, there _, late _, by simp⟩
      · exact ⟨_, _, rfl, there _, late _, by simp⟩
      · split
        · exact ⟨s.inbox, _, rfl, there _, late _, by simp⟩
        · split
          · exact ⟨s.inbox, _, rfl, there _, late _, by simp⟩
          · split
            · exact ⟨s.inbox, _, rfl, there _, late _, by simp⟩
            · exact ⟨s.inbox, s.consumer, rfl, fun h => h, fun _ => rfl, by simp⟩

/-- A consumer that has come to the end goes unnoticed. -/
theorem dropConsumer_retired (retired : s.Retired) :
    s.dropConsumer = ({ s with consumer := none }, []) := by
  unfold dropConsumer
  cases waits : s.consumer with
  | none =>
    cases s
    simp_all
  | some consumer =>
    dsimp only
    rw [if_pos (retired consumer waits)]

/-- Any other consumer takes the inbound direction with it, on a stream of this end both. -/
theorem dropConsumer_early (waits : ¬ s.Retired) : s.dropConsumer =
    { s with consumer := none }.cancelLocally
      (if s.kind.isRequester then Directions.both else Directions.inboundOnly) := by
  unfold dropConsumer
  unfold Retired at waits
  cases attached : s.consumer with
  | none => simp [attached] at waits
  | some consumer =>
    dsimp only
    rw [attached] at waits
    rw [if_neg (by simpa using waits)]
    split
    · rfl
    · rfl

/-! ### Moves that the peer is told of -/

theorem Effect.inner {frames : List Frame} (effect : s.Effect t frames)
    (known : s.initiated = true) : ∀ x ∈ frames.map (·.signal), x.isInner = true := by
  cases effect.writes with
  | opening initial first complete unopened isOpen now closed =>
    rw [unopened.2] at known
    contradiction
  | _ => simp [Signal.isInner]

/-- What a move writes goes with what it closes. -/
theorem Effect.tells {frames : List Frame} (effect : s.Effect t frames) (known : s.initiated = true)
    (oneWay : s.OneWay)
    (takes : t.closed.inbound = true → s.closed.inbound = true ∨
      .cancel ∈ frames.map (·.signal) ∨ .error ∈ frames.map (·.signal))
    (sends : t.closed.outbound = true → s.closed.outbound = true ∨
      ∃ x ∈ frames.map (·.signal), x.isEnd = true) :
    Tells s.closed t.closed (frames.map (·.signal)) where
  inner := effect.inner known
  inbound := effect.inbound
  outbound := effect.outbound
  takes := takes
  sends := sends
  ended := by
    cases effect.writes with
    | completion sends isOpen closed => exact fun _ _ _ => closed
    | failure f sends isOpen finished ended => exact fun _ _ _ => (isOver_iff t |>.mp finished).2
    | answer payload kind isOpen closed => exact fun _ _ _ => closed
    | refusal f kind isOpen closed => exact fun _ _ _ => closed
    | opening initial first complete unopened isOpen now closed =>
      rw [unopened.2] at known
      contradiction
    | _ => simp [Signal.isEnd]
  canceled := by
    cases effect.writes with
    | cancel takes known isOpen closed gone finished => exact fun _ => closed
    | _ => simp
  failed := by
    cases effect.writes with
    | failure f sends isOpen finished ended => exact fun _ => (isOver_iff t |>.mp finished).1
    | refusal f kind isOpen closed => exact fun _ => effect.inbound (oneWay.takes (.inl kind))
    | _ => simp

/-- A CANCEL of the requester is the last that it has to do with the stream. -/
theorem Effect.cancel_both {frames : List Frame} (effect : s.Effect t frames)
    (requester : s.kind.isRequester = true) (told : .cancel ∈ frames.map (·.signal)) :
    t.closed.outbound = true := by
  revert told
  cases effect.writes with
  | cancel takes known isOpen closed gone finished =>
    exact fun _ => (isOver_iff t |>.mp (finished requester)).2
  | _ => simp

/-- Only items of a sequence that needs credit are written. -/
theorem Effect.item_sends {frames : List Frame} (effect : s.Effect t frames)
    (told : .item ∈ frames.map (·.signal)) : s.kind.needsCredit = true := by
  revert told
  cases effect.writes with
  | item payload sends isOpen => exact fun _ => sends.1
  | _ => simp

/-- A direction that was closed without a word stays so. -/
theorem closed_of_same (same : t.closed = s.closed) {news : List Signal} :
    (t.closed.inbound = true → s.closed.inbound = true ∨ .cancel ∈ news ∨ .error ∈ news) ∧
    (t.closed.outbound = true → s.closed.outbound = true ∨ ∃ x ∈ news, x.isEnd = true) := by
  rw [same]
  exact ⟨.inl, .inl⟩

theorem dropConsumer_told (known : s.initiated = true) (oneWay : s.OneWay)
    (keeps : Move.dropConsumer.Keeps s) :
    (s.dropConsumer.1.closed.inbound = true → s.closed.inbound = true ∨
      .cancel ∈ s.dropConsumer.2.map (·.signal) ∨ .error ∈ s.dropConsumer.2.map (·.signal)) ∧
    (s.dropConsumer.1.closed.outbound = true → s.closed.outbound = true ∨
      ∃ x ∈ s.dropConsumer.2.map (·.signal), x.isEnd = true) := by
  by_cases retired : s.Retired
  · rw [dropConsumer_retired retired]
    exact closed_of_same rfl
  · rw [dropConsumer_early retired, cancelLocally_eq]
    dsimp only
    -- CANCEL speaks of the inbound direction, so the outbound one must have been closed before.
    refine ⟨fun _ => ?_, fun closed => ?_⟩
    · cases was : s.closed.inbound with
      | true => exact .inl rfl
      | false =>
        refine .inr (.inl ?_)
        rw [if_pos (by split <;> simp [known])]
        simp
    · left
      by_cases requester : s.kind.isRequester = true
      · cases kind : s.kind with
        | requesterResponse => exact oneWay.sends (.inl kind)
        | requesterStream => exact oneWay.sends (.inr kind)
        | requesterChannel => exact (keeps kind).resolve_left retired
        | _ =>
          rw [kind] at requester
          contradiction
      · rw [if_neg requester] at closed
        simpa using closed

/-- An end tells its peer what it closes of its own accord. -/
theorem Move.tells (h : s.Coherent) (known : s.initiated = true) (oneWay : s.OneWay)
    (own : m.isLocal = true) (fits : m.Fits s) (fair : m.IsFair s) (keeps : m.Keeps s) :
    Tells s.closed (m.apply s).1.closed ((m.apply s).2.map (·.signal)) := by
  have unopened (fresh : s.Unopened) : False := by
    rw [fresh.2] at known
    contradiction
  suffices told : _ ∧ _ from (m.effect h fits).tells known oneWay told.1 told.2
  cases m with
  | poll =>
    obtain ⟨inbox, consumer, eq, _⟩ := s.poll_eq
    exact closed_of_same (by rw [apply, eq])
  | dropConsumer => exact dropConsumer_told known oneWay keeps
  | abandon =>
    refine ⟨fun _ => ?_, fun _ => .inl (oneWay.sends (.inl fits))⟩
    cases was : s.closed.inbound with
    | true => exact .inl rfl
    | false => exact .inr (.inl (by simp [apply, Exchange.abandon, was]))
  | offer payload =>
    obtain ⟨limiter, eq⟩ := s.offer_eq payload
    exact closed_of_same (by rw [apply, eq])
  | complete =>
    refine ⟨fun closed => .inl (by simpa [apply, Exchange.complete, close] using closed),
      fun _ => ?_⟩
    cases was : s.closed.outbound with
    | true => exact .inl rfl
    | false => exact .inr (by simp [apply, Exchange.complete, was, Signal.isEnd])
  | failLocally f =>
    have isOpen : s.closed.outbound = false := fair
    refine ⟨fun _ => .inr (.inr ?_), fun _ => .inr ?_⟩
    · simp [apply, Exchange.failLocally, isOpen]
    · simp [apply, Exchange.failLocally, isOpen, Signal.isEnd]
  | respond result =>
    refine ⟨fun closed => .inl (by simpa [apply, Exchange.respond, close] using closed),
      fun _ => ?_⟩
    cases was : s.closed.outbound with
    | true => exact .inl rfl
    | false =>
      refine .inr ?_
      cases result <;> simp [apply, Exchange.respond, was, Signal.isEnd]
  | openChannel initial first => exact (unopened fits.1).elim
  | openSilentChannel initial => exact (unopened fits.1).elim
  | failUnopened f => exact (unopened fits).elim
  | receive uptake f => contradiction
  | grant n => contradiction
  | cancelByPeer => contradiction
  | fail cause => contradiction

/-! ### A channel that the peer does not know -/

/-- The channel was not opened, and has both directions open or none. -/
structure Untold (s : Exchange) : Prop where
  unopened : s.Unopened
  even : s.closed.inbound = s.closed.outbound

/-- A channel that the peer does not know yet goes on so without a word but for requests for items,
or it is opened. -/
theorem Move.opens_or_waits (h : s.Untold) (own : m.isLocal = true) (fits : m.Fits s) :
    (m.apply s).1.Untold ∧ (∀ f ∈ (m.apply s).2, f.signal = .requestN) ∨
      ∃ complete, (m.apply s).2.map (·.signal) = [.requestChannel complete] ∧
        (m.apply s).1.kind = .requesterChannel ∧ (m.apply s).1.initiated = true ∧
        (m.apply s).1.closed = { inbound := false, outbound := complete } := by
  obtain ⟨⟨kind, unknown⟩, even⟩ := h
  have noCredit (sends : s.Sends) : False := by
    rw [sends.2] at unknown
    contradiction
  have live (goes : ¬ s.isOver = true) : s.closed = { inbound := false, outbound := false } := by
    rw [isOver_iff, ← even, and_self, Bool.not_eq_true] at goes
    cases closed : s.closed
    simp_all
  cases m with
  | poll =>
    obtain ⟨inbox, consumer, eq, _, _, frames⟩ := s.poll_eq
    refine .inl ⟨?_, frames⟩
    rw [apply, eq]
    exact ⟨⟨kind, unknown⟩, even⟩
  | dropConsumer =>
    refine .inl ?_
    by_cases retired : s.Retired
    · rw [apply, dropConsumer_retired retired]
      exact ⟨⟨⟨kind, unknown⟩, even⟩, by simp⟩
    · have requester : s.kind.isRequester = true := by rw [kind]; rfl
      rw [apply, dropConsumer_early retired, if_pos requester, cancelLocally_eq]
      exact ⟨⟨⟨kind, unknown⟩, by simp⟩, by simp [unknown]⟩
  | abandon =>
    rw [Fits, kind] at fits
    contradiction
  | offer payload => exact (noCredit fits).elim
  | complete => exact (noCredit fits).elim
  | failLocally f => exact (noCredit fits).elim
  | respond result =>
    rw [Fits, kind] at fits
    contradiction
  | openChannel initial first =>
    rw [apply]
    unfold Exchange.openChannel
    split
    · exact .inl ⟨⟨⟨kind, unknown⟩, even⟩, by simp⟩
    next goes => exact .inr ⟨false, rfl, kind, rfl, live goes⟩
  | openSilentChannel initial =>
    rw [apply]
    unfold Exchange.openSilentChannel
    split
    · exact .inl ⟨⟨⟨kind, unknown⟩, even⟩, by simp⟩
    next goes =>
      refine .inr ⟨true, rfl, kind, rfl, ?_⟩
      rw [close]
      dsimp only
      rw [live goes]
      rfl
  | failUnopened f =>
    obtain ⟨inbox, eq⟩ := s.failUnopened_eq f
    refine .inl ⟨?_, by simp [apply]⟩
    rw [apply, eq]
    exact ⟨⟨kind, unknown⟩, rfl⟩
  | receive uptake f => contradiction
  | grant n => contradiction
  | cancelByPeer => contradiction
  | fail cause => contradiction

/-! ### The consumer -/

theorem dropConsumer_none (s : Exchange) : s.dropConsumer.1.consumer = none := by
  by_cases retired : s.Retired
  · rw [dropConsumer_retired retired]
  · rw [dropConsumer_early retired, cancelLocally_eq]

/-- Only the one who takes the items changes the consumer. -/
theorem Move.consumer_same (own : m.isLocal = true) (other : m ≠ .poll ∧ m ≠ .dropConsumer) :
    (m.apply s).1.consumer = s.consumer := by
  cases m with
  | poll => simp at other
  | dropConsumer => simp at other
  | abandon => rfl
  | offer payload =>
    obtain ⟨limiter, eq⟩ := s.offer_eq payload
    rw [apply, eq]
  | complete => rfl
  | failLocally f =>
    obtain ⟨inbox, eq⟩ := s.failLocally_eq f
    rw [apply, eq]
  | respond result => rfl
  | openChannel initial first =>
    obtain ⟨initiated, eq⟩ := s.openChannel_eq initial first
    rw [apply, eq]
  | openSilentChannel initial =>
    obtain ⟨closed, initiated, eq, _⟩ := s.openSilentChannel_eq initial
    rw [apply, eq]
  | failUnopened f =>
    obtain ⟨inbox, eq⟩ := s.failUnopened_eq f
    rw [apply, eq]
  | receive uptake f => contradiction
  | grant n => contradiction
  | cancelByPeer => contradiction
  | fail cause => contradiction

/-- Nobody takes up the items of a stream again. -/
theorem Move.consumer_none (own : m.isLocal = true) (gone : s.consumer = none) :
    (m.apply s).1.consumer = none := by
  by_cases polls : m = .poll
  · obtain ⟨inbox, consumer, eq, none, _⟩ := s.poll_eq
    rw [polls, apply, eq]
    exact none gone
  · by_cases drops : m = .dropConsumer
    · rw [drops, apply, s.dropConsumer_none]
    · rw [consumer_same own ⟨polls, drops⟩, gone]

theorem Move.retired (own : m.isLocal = true) (retired : s.Retired) : (m.apply s).1.Retired := by
  have same (eq : (m.apply s).1.consumer = s.consumer) : (m.apply s).1.Retired := by
    intro consumer attached
    exact retired consumer (eq ▸ attached)
  by_cases polls : m = .poll
  · obtain ⟨inbox, consumer, eq, _, kept, _⟩ := s.poll_eq
    refine same ?_
    rw [polls, apply, eq]
    exact kept retired
  · by_cases drops : m = .dropConsumer
    · intro consumer attached
      rw [drops, apply, s.dropConsumer_none] at attached
      contradiction
    · exact same (consumer_same own ⟨polls, drops⟩)

end StreamMux.Exchange
