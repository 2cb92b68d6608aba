import StreamMux.Proofs.Echo.Answer

/-!
# A channel at rest

When nothing is on the wire and the consumer asks in vain, the channel is over and everything came
back, or one of the two tasks has something to do and need not wait (`Stage.rest`). The two
directions cannot wait for each other. The consumer did not use up its batch, so the other end may
send what it holds; and that end holds nothing and did not use up its batch either, so the end that
opened the channel may send what it holds.
-/
namespace StreamMux.Echo

variable {o : Echo} {s t : Exchange} {got : List Item} {ended shut : Bool} {near : Near} {far : Far}
  {queued : List Payload} {delivered : Nat}

/-- The consumer asks in vain: it has nothing in its inbox, and has not used up its batch. -/
theorem Taking.rest (h : o.Taking s shut queued delivered) (still : s.poll.2 = (s, [])) :
    queued = [] ∧ (o.near < maxRequestN → delivered < o.near.toNat) := by
  cases h.polls with
  | item eq same next =>
    rw [eq, Prod.mk.injEq] at still
    have counted := next.consumer
    rw [still.1, h.consumer] at counted
    simp at counted
  | again limited spent eq same next =>
    rw [eq, Prod.mk.injEq] at still
    exact absurd still.2 (by simp)
  | waits ahead eq => exact ⟨rfl, ahead⟩

/-- What a task of one of the ends is to do for a channel, without anything to wait for. -/
inductive Owes (o : Echo) (s : Exchange) : Near → Far → Prop
  | opens {p : Producer} (refuses : p.intake = .none) (yields : p.Yields o.payloads none) :
      Owes o s (.unopened p) .unasked
  | fetches {p : Producer} {left : List Payload} {far : Far} (refuses : p.intake = .none)
      (yields : p.Yields left none) : Owes o s (.sending p none) far
  | sends {p : Producer} {payload : Payload} {far : Far}
      (credit : s.limiter.isDecided = true ∧ s.limiter.parked = false) :
      Owes o s (.sending p (some payload)) far
  | repeats {near : Near} {t : Exchange} {payload : Payload} :
      Owes o s near (.echoing t (some payload) none)
  | returns {near : Near} {t : Exchange} {first : Option Payload} {payload : Payload}
      (credit : t.limiter.isDecided = true ∧ t.limiter.parked = false) :
      Owes o s near (.echoing t first (some payload))
  | takes {near : Near} {t : Exchange} (known : t.inbox.isEmpty = false ∨ t.inboxOpen = false) :
      Owes o s near (.echoing t none none)
  | asks {near : Near} {t u : Exchange} (goes : t.stopped = false)
      (polled : t.poll = (.pending, u, [.requestN o.id o.far])) :
      Owes o s near (.echoing t none none)
  | leaves {near : Near} {t : Exchange} : Owes o s near (.leaving t)

/-- When nothing is on the wire and the consumer asks in vain, everything came back, or there is
something to do. -/
theorem Stage.rest (v : o.Valid) (h : o.Stage s [] [] got ended near far)
    (still : s.poll.2 = (s, [])) :
    (far = .finished ∧ s.isOver = true ∧ got = o.items.map .ok ∧ ended = true) ∨
      o.Owes s near far := by
  cases h with
  | unopened taking refuses yields credit unsent nothing untaken goes =>
    exact .inr (.opens refuses yields)
  | requested taking feeds asks upward which last nothing untaken goes order => contradiction
  | @echoing _ t first held taken queued back kept sent rest delivered used asked granted shut ends
      finished due taking feeds far upward downward which last credit handed goes order =>
    obtain ⟨rfl, rfl, rfl⟩ := upward.empty
    obtain ⟨rfl, rfl, _⟩ := downward.empty
    obtain ⟨rfl, ahead⟩ := taking.rest still
    refine .inr ?_
    cases held with
    | some payload =>
      exact .returns (credit.decided v.nearBound fun limited => by simpa using ahead limited)
    | none =>
      cases first with
      | some payload => exact .repeats
      | none =>
        cases far.polls with
        | @item _ payload kept _ _ _ _ _ =>
          refine .takes (.inl (Bool.eq_false_iff.mpr fun empty => ?_))
          have inbox := far.inbox
          rw [(Fifo.isEmpty_iff _).mp empty] at inbox
          contradiction
        | first eq => exact .asks far.stopped eq
        | again limited spent eq => exact .asks far.stopped eq
        | finish done =>
          subst done
          exact .takes (.inr far.inboxOpen)
        | waits running ahead =>
          subst running
          obtain rfl : shut = false := which
          cases feeds with
          | @sending p held left refuses yields lent =>
            cases held with
            | none => exact .fetches refuses yields
            | some payload =>
              exact .sends (lent.decided v.farBound fun limited => by simpa using ahead limited)
  | leaving taking far upward downward handed goes order => exact .inr .leaves
  | closing taking upward downward closes handed goes order => simp at closes
  | @served taken queued asked served upward nothing handed goes order =>
    refine absurd still (served.restless ?_)
    cases queued with
    | cons payload queued => exact .inl ⟨payload, _, rfl⟩
    | nil => exact .inr (.inl rfl)
  | finished id closed gone done upward nothing all ends =>
    exact .inl ⟨rfl, Exchange.isOver_of_closed closed, all, ends⟩

end StreamMux.Echo
