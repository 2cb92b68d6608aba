import StreamMux.Proofs.Exchange.Discipline

/-!
# What a move does to the credit

An item costs one credit. Nothing else that an end does on a stream touches the credit; only the
peer grants more (`Spends`, `Move.spends`).
-/
namespace StreamMux

/-- A PAYLOAD frame with an item in it. -/
def Frame.carriesItem : Frame → Bool
  | .payload f => f.type = .payload && f.next
  | _ => false

/-- How many of the frames carry an item. -/
def countItems (frames : List Frame) : Nat := frames.countP (·.carriesItem)

@[simp] theorem countItems_nil : countItems [] = 0 := rfl

@[simp] theorem countItems_append (frames more : List Frame) :
    countItems (frames ++ more) = countItems frames + countItems more :=
  List.countP_append

/-- The credit is the same. Nobody may ask for it any more, if it was given up. -/
structure Limiter.Kept (l m : Limiter) : Prop where
  credit : m.credit = l.credit
  unbounded : m.unbounded = l.unbounded
  live : m.cancelled = false → l.cancelled = false

namespace Limiter

theorem Kept.refl (l : Limiter) : l.Kept l := ⟨rfl, rfl, id⟩

theorem Kept.trans {l m n : Limiter} (h : l.Kept m) (h' : m.Kept n) : l.Kept n :=
  ⟨h'.credit.trans h.credit, h'.unbounded.trans h.unbounded, fun live => h.live (h'.live live)⟩

/-- To give up what an end does for a stream leaves the credit as it is. -/
theorem Kept.cancel (l : Limiter) : l.Kept l.cancel := ⟨rfl, rfl, fun live => by cases live⟩

end Limiter

namespace Exchange

/-- Between two states of a stream no credit is granted, and each item that is written costs one.
Credit is lost only where no item can be written any more. -/
structure Spends (s t : Exchange) (frames : List Frame) : Prop where
  unbounded : t.limiter.unbounded = s.limiter.unbounded
  live : t.limiter.cancelled = false → s.limiter.cancelled = false
  paid : s.limiter.unbounded = false →
    countItems frames + t.limiter.credit ≤ s.limiter.credit
  exact : s.limiter.unbounded = false → t.closed.outbound = false →
    countItems frames + t.limiter.credit = s.limiter.credit

variable {s t : Exchange} {frames : List Frame}

theorem Spends.of_kept (kept : s.limiter.Kept t.limiter) (none : countItems frames = 0) :
    s.Spends t frames where
  unbounded := kept.unbounded
  live := kept.live
  paid _ := Nat.le_of_eq (by rw [none, kept.credit, Nat.zero_add])
  exact _ _ := by rw [none, kept.credit, Nat.zero_add]

/-! ### What keeps the credit -/

theorem deposit_credit (s : Exchange) (item : Item) :
    s.limiter.Kept (s.deposit item).limiter := by
  obtain ⟨inbox, eq⟩ := s.deposit_eq item
  rw [eq]
  exact .refl s.limiter

theorem settle_credit (s : Exchange) (result : Item) :
    s.limiter.Kept (s.settle result).limiter := by
  obtain ⟨answer, eq⟩ := s.settle_eq result
  rw [eq]
  exact .refl s.limiter

theorem failInbox_credit (s : Exchange) (f : Failure) :
    s.limiter.Kept (s.failInbox f).limiter := by
  obtain ⟨inbox, eq⟩ := s.failInbox_eq f
  rw [eq]
  exact .refl s.limiter

theorem fail_credit (s : Exchange) (cause : Failure) : s.limiter.Kept (s.fail cause).limiter := by
  obtain ⟨inbox, answer, eq⟩ := s.fail_eq cause
  rw [eq]
  exact .cancel s.limiter

theorem cancelLocally_credit (s : Exchange) (sides : Directions) :
    s.limiter.Kept (s.cancelLocally sides).1.limiter ∧
      countItems (s.cancelLocally sides).2 = 0 := by
  rw [cancelLocally_eq]
  refine ⟨?_, ?_⟩
  · cases sides.outbound with
    | false => exact .refl s.limiter
    | true => exact .cancel s.limiter
  · dsimp only
    split
    · rfl
    · rfl

theorem dropConsumer_credit (s : Exchange) :
    s.limiter.Kept s.dropConsumer.1.limiter ∧ countItems s.dropConsumer.2 = 0 := by
  unfold dropConsumer
  split
  · exact ⟨.refl s.limiter, rfl⟩
  · dsimp only
    split
    · exact ⟨.refl s.limiter, rfl⟩
    · split
      · exact cancelLocally_credit { s with consumer := none } _
      · exact cancelLocally_credit { s with consumer := none } _

theorem poll_credit (s : Exchange) :
    s.limiter.Kept s.poll.2.1.limiter ∧ countItems s.poll.2.2 = 0 := by
  unfold poll
  repeat' split
  all_goals exact ⟨.refl s.limiter, rfl⟩

theorem deliver_credit (s : Exchange) (uptake : Uptake) (payload : Payload) :
    s.limiter.Kept (s.deliver uptake payload).stream.limiter ∧
      countItems (s.deliver uptake payload).frames = 0 := by
  unfold deliver
  split
  · exact ⟨s.settle_credit _, rfl⟩
  · exact ⟨s.deposit_credit _, rfl⟩
  · exact ⟨s.deposit_credit _, rfl⟩
  · split
    · refine ⟨?_, rfl⟩
      dsimp only
      split
      · exact s.deposit_credit _
      · exact .refl s.limiter
    · dsimp only
      split
      · exact ⟨.refl s.limiter, rfl⟩
      · split
        · exact ⟨.refl s.limiter, rfl⟩
        · exact dropConsumer_credit { s with started := true, consumer := some _ }
      · exact ⟨.refl s.limiter, rfl⟩

theorem completeInbound_credit (s : Exchange) : s.limiter.Kept s.completeInbound.limiter := by
  unfold completeInbound
  split
  · exact s.settle_credit _
  · exact .refl s.limiter
  · exact .refl s.limiter
  · exact .refl s.limiter
  · exact .refl s.limiter

theorem receive_credit (s : Exchange) (uptake : Uptake) (f : PayloadFrame) :
    s.limiter.Kept (s.receive uptake f).stream.limiter ∧
      countItems (s.receive uptake f).frames = 0 := by
  unfold receive
  split
  · exact ⟨.refl s.limiter, rfl⟩
  · have whole (payload : Payload) :
        let r : Reception := if s.carriesPayload f
          then { s with fragments := none }.deliver uptake payload else { stream := s }
        s.limiter.Kept r.stream.limiter ∧ countItems r.frames = 0 := by
      dsimp only
      split
      · exact deliver_credit { s with fragments := none } uptake payload
      · exact ⟨.refl s.limiter, rfl⟩
    dsimp only
    split
    · exact ⟨.refl s.limiter, rfl⟩
    · split
      · exact ⟨(whole _).1.trans (completeInbound_credit _), (whole _).2⟩
      · exact whole _

theorem cancelByPeer_credit (s : Exchange) : s.limiter.Kept s.cancelByPeer.limiter := by
  unfold cancelByPeer
  split
  · exact .cancel s.limiter
  · exact .refl s.limiter
  · exact .refl s.limiter
  · exact (Limiter.Kept.cancel s.limiter).trans
      (failInbox_credit (s.close Directions.both).stop _)

theorem complete_credit (s : Exchange) :
    s.limiter.Kept s.complete.1.limiter ∧ countItems s.complete.2 = 0 := by
  refine ⟨.refl s.limiter, ?_⟩
  unfold complete
  dsimp only
  split
  · rfl
  · rfl

theorem failLocally_credit (s : Exchange) (f : Failure) :
    s.limiter.Kept (s.failLocally f).1.limiter ∧ countItems (s.failLocally f).2 = 0 := by
  refine ⟨(Limiter.Kept.cancel s.limiter).trans
    (failInbox_credit (s.close Directions.both).stop f), ?_⟩
  unfold failLocally
  dsimp only
  split
  · rfl
  · rfl

theorem openChannel_credit (s : Exchange) (initial : UInt32) (first : Payload) :
    s.limiter.Kept (s.openChannel initial first).2.1.limiter ∧
      countItems (s.openChannel initial first).2.2 = 0 := by
  unfold openChannel
  split
  · exact ⟨.refl s.limiter, rfl⟩
  · exact ⟨.refl s.limiter, rfl⟩

theorem openSilentChannel_credit (s : Exchange) (initial : UInt32) :
    s.limiter.Kept (s.openSilentChannel initial).1.limiter ∧
      countItems (s.openSilentChannel initial).2 = 0 := by
  unfold openSilentChannel
  split
  · exact ⟨.refl s.limiter, rfl⟩
  · exact ⟨.refl s.limiter, rfl⟩

/-! ### What spends it, and what adds to it -/

/-- What an answer of a limiter costs. -/
def price : Poll (Except Failure Unit) → Nat
  | .ready (.ok _) => 1
  | _ => 0

theorem acquire_paid (l : Limiter) : l.acquire.2.unbounded = l.unbounded ∧
    l.acquire.2.cancelled = l.cancelled ∧
    (l.unbounded = false → price l.acquire.1 + l.acquire.2.credit = l.credit) := by
  unfold Limiter.acquire
  split
  · simp [price]
  · split
    next unbounded => simp [unbounded]
    · split
      next positive => exact ⟨rfl, rfl, fun _ => Nat.add_sub_cancel' positive⟩
      · simp [price]

theorem offer_spends (s : Exchange) (payload : Payload) :
    s.Spends (s.offer payload).2.1 (s.offer payload).2.2 := by
  obtain ⟨unbounded, cancelled, cost⟩ := acquire_paid s.limiter
  unfold offer
  generalize s.limiter.acquire = result at unbounded cancelled cost ⊢
  have pays (answer : Poll (Except Failure Unit)) (limiter : Limiter)
      (cancelled : limiter.cancelled = s.limiter.cancelled) (frames : List Frame)
      (paid : countItems frames ≤ price answer)
      (exact : s.closed.outbound = false → countItems frames = price answer)
      (unbounded : limiter.unbounded = s.limiter.unbounded)
      (cost : s.limiter.unbounded = false → price answer + limiter.credit = s.limiter.credit) :
      s.Spends { s with limiter } frames :=
    { unbounded
      live := fun live => cancelled ▸ live
      paid := fun bounded => by
        have cost := cost bounded
        dsimp only
        omega
      exact := fun bounded isOpen => by
        rw [exact isOpen]
        exact cost bounded }
  obtain ⟨_ | _ | ⟨⟩, limiter⟩ := result
  · exact pays .pending limiter cancelled [] (Nat.zero_le _) (fun _ => rfl) unbounded cost
  · exact pays (.ready (.error _)) limiter cancelled [] (Nat.zero_le _) (fun _ => rfl) unbounded
      cost
  · dsimp only
    split
    next closed =>
      exact pays (.ready (.ok ())) limiter cancelled [] (Nat.zero_le _)
        (fun isOpen => by simp [closed] at isOpen) unbounded cost
    · exact pays (.ready (.ok ())) limiter cancelled [.payload (.item s.id payload)]
        (Nat.le_refl _) (fun _ => rfl) unbounded cost

/-- On a stream whose items need credit, a move pays for what it writes, unless it is the peer's
grant. -/
theorem Move.spends {m : Move} (fits : m.Fits s) (sends : s.kind.needsCredit = true)
    (own : ∀ n, m ≠ .grant n) : s.Spends (m.apply s).1 (m.apply s).2 := by
  cases m with
  | poll => exact .of_kept (poll_credit s).1 (poll_credit s).2
  | dropConsumer => exact .of_kept (dropConsumer_credit s).1 (dropConsumer_credit s).2
  | abandon => simp [show s.kind = _ from fits, StreamKind.needsCredit] at sends
  | receive uptake f =>
    exact .of_kept (receive_credit s uptake f).1 (receive_credit s uptake f).2
  | grant n => exact absurd rfl (own n)
  | cancelByPeer => exact .of_kept (cancelByPeer_credit s) rfl
  | fail cause => exact .of_kept (fail_credit s cause) rfl
  | offer payload => exact offer_spends s payload
  | complete => exact .of_kept (complete_credit s).1 (complete_credit s).2
  | failLocally f => exact .of_kept (failLocally_credit s f).1 (failLocally_credit s f).2
  | respond result => simp [show s.kind = _ from fits, StreamKind.needsCredit] at sends
  | openChannel initial first =>
    exact .of_kept (openChannel_credit s initial first).1 (openChannel_credit s initial first).2
  | openSilentChannel initial =>
    exact .of_kept (openSilentChannel_credit s initial).1 (openSilentChannel_credit s initial).2
  | failUnopened f => exact .of_kept (failInbox_credit (s.close _) f) rfl

/-- A grant of the peer adds what it says, unless it says nothing, or nobody can ask for it, or the
credit is without a bound. Credit that reaches the largest number is without a bound from then
on. -/
theorem grant_adds (n : Nat) (sends : s.kind.needsCredit = true) :
    s.limiter.Kept (s.grant n).limiter ∧
        (n = 0 ∨ s.limiter.cancelled = true ∨ s.limiter.unbounded = true) ∨
      (s.limiter.unbounded = false ∧ (s.grant n).limiter.unbounded = false ∧
        (s.grant n).limiter.cancelled = s.limiter.cancelled ∧
        (s.grant n).limiter.credit = s.limiter.credit + n ∧
        s.limiter.credit + n < maxRequestN.toNat) ∨
      (s.limiter.unbounded = false ∧ (s.grant n).limiter.unbounded = true ∧
        maxRequestN.toNat ≤ s.limiter.credit + n) := by
  have none : s.limiter.Kept s.limiter := .refl _
  rw [grant, if_pos sends]
  unfold Limiter.grant
  dsimp only
  split
  next nothing => exact .inl ⟨none, nothing.imp_right .inl⟩
  · unfold Limiter.add
    cases unbounded : s.limiter.unbounded with
    | true => exact .inl ⟨⟨rfl, unbounded.symm ▸ unbounded, fun live => live⟩, .inr (.inr rfl)⟩
    | false =>
      rw [if_neg (by simp)]
      split
      next full => exact .inr (.inr ⟨rfl, rfl, full⟩)
      next room => exact .inr (.inl ⟨rfl, rfl, rfl, rfl, Nat.lt_of_not_le room⟩)

end Exchange
end StreamMux
