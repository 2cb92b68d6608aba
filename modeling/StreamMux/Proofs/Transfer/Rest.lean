import StreamMux.Proofs.Transfer.Answer

/-!
# The beginning and the end of a transfer

At every stage the consumer has got a beginning of what it is to get (`Stage.begins`). When nothing
is on the wire any more and the consumer asks in vain, it has got all of it, or the peer has
something to send and may send it (`Stage.rest`).
-/
namespace StreamMux.Order

variable {o : Order} {s t : Exchange} {up down : List Frame} {got : List Item} {ended : Bool}
  {far : Far}

/-- What the consumer has got is the beginning of what it is to get, and all of it at the end. -/
theorem Stage.begins (h : o.Stage s up down got ended far) :
    got <+: o.items ∧ (ended = true → got = o.items) := by
  have part {taken rest : List Payload} (order : taken ++ rest = o.payloads) :
      taken.map (.ok : Payload → Item) <+: o.items := by
    rw [Order.items, delivery, ← order, List.map_append, List.append_assoc]
    exact List.prefix_append _ _
  cases h with
  | asked near asks nothing none goes =>
    rw [none, goes]
    exact ⟨List.nil_prefix, by simp⟩
  | flowing near far asks items handed goes yields order credit =>
    rw [handed, goes]
    simp only [List.append_assoc] at order
    exact ⟨part order, by simp⟩
  | closing near asks landed items handed goes order =>
    rw [handed, goes]
    simp only [List.append_assoc] at order
    exact ⟨part order, by simp⟩
  | served near asks nothing handed goes order =>
    rw [handed, goes]
    exact ⟨part order, by simp⟩
  | finished id closed gone done asks nothing all ends =>
    rw [all]
    exact ⟨List.prefix_refl _, fun _ => rfl⟩

/-! ### At rest -/

/-- The consumer asks in vain: it has nothing in its inbox, and has not used up what it asked
for. -/
theorem Awaiting.rest {queued : List Payload} {delivered : Nat}
    (h : o.Awaiting s queued delivered) (still : s.poll.2 = (s, [])) :
    queued = [] ∧ ¬ (o.batch < maxRequestN ∧ o.batch.toNat ≤ delivered) := by
  cases queued with
  | cons payload queued =>
    obtain ⟨t, polled, next⟩ := h.poll_item
    rw [polled, Prod.mk.injEq] at still
    have longer := h.inbox
    rw [← still.1, next.inbox] at longer
    simpa using congrArg List.length longer
  | nil =>
    refine ⟨rfl, fun again => ?_⟩
    rw [h.poll_empty, if_pos again, Prod.mk.injEq] at still
    exact absurd still.2 (by simp)

theorem Served.restless {queued : List Item} (h : o.Served s queued)
    (last : (∃ payload more, queued = .ok payload :: more) ∨ queued = [] ∨
      ∃ f, queued = [.error f]) : s.poll.2 ≠ (s, []) := by
  intro still
  obtain ⟨consumer, attached, goes⟩ := h.consumer
  have done (item : Option Item) (eq : queued = item.toList)
      (failed : ∀ i ∈ item, ∃ f, i = .error f) : False := by
    obtain ⟨t, after, polled, _, _, gone, finished⟩ := h.poll_last item eq failed
    rw [polled, Prod.mk.injEq] at still
    rw [still.1, attached, Option.some.injEq] at gone
    rw [gone, finished] at goes
    contradiction
  rcases last with ⟨payload, more, rfl⟩ | empty | ⟨f, one⟩
  · obtain ⟨t, polled, next⟩ := h.poll_item
    rw [polled, Prod.mk.injEq] at still
    have longer := h.inbox
    rw [← still.1, next.inbox] at longer
    simpa using congrArg List.length longer
  · exact done none empty (by simp)
  · exact done (some (.error f)) one (by simp)

/-- When nothing is on the wire and the consumer asks in vain, it has got everything, or the peer
has something to send and may send it. -/
theorem Stage.rest (v : o.Valid) (h : o.Stage s [] [] got ended far) (still : s.poll.2 = (s, [])) :
    (far = .finished ∧ s.isOver = true ∧ got = o.items ∧ (o.failure = none → ended = true)) ∨
      ∃ t p held left, far = .sending t p held ∧ o.Answering t ∧ p.Yields left o.failure ∧
        (held.isSome = true → t.limiter.isDecided = true ∧ t.limiter.parked = false) := by
  cases h with
  | asked near asks nothing none goes => contradiction
  | @flowing t p held taken queued sent left delivered grants near far asks items handed goes
      yields order credit =>
    refine .inr ⟨t, p, held, left, rfl, far, yields, fun _ => ?_⟩
    obtain ⟨rfl, idle⟩ := near.rest still
    have unsent : sent = [] := List.map_eq_nil_iff.mp items.symm
    have unasked : grants = 0 := by
      cases grants with
      | zero => rfl
      | succ grants => contradiction
    subst unsent unasked
    suffices decided : t.limiter.isDecided = true by
      refine ⟨decided, Bool.eq_false_iff.mpr fun parked => ?_⟩
      rw [credit.asleep parked] at decided
      contradiction
    unfold Limiter.isDecided
    by_cases unlimited : o.batch = maxRequestN
    · simp [credit.unlimited unlimited]
    · obtain ⟨bounded, eq⟩ := credit.counted unlimited
      have short : o.batch < maxRequestN := by
        rw [UInt32.lt_iff_toNat_lt]
        exact Nat.lt_of_le_of_ne (UInt32.le_iff_toNat_le.mp v.bound) fun same =>
          unlimited (UInt32.toNat_inj.mp same)
      -- Were there no credit, all of it would be with the consumer, which would ask again.
      have some : 0 < t.limiter.credit := by
        refine Nat.pos_of_ne_zero fun none => idle ⟨short, ?_⟩
        simp only [List.length_nil] at eq
        omega
      simp [some]
  | closing near asks landed items handed goes order => simp at items
  | @served taken queued grants near asks nothing handed goes order =>
    refine absurd still (near.restless ?_)
    cases queued with
    | cons payload queued => exact .inl ⟨payload, _, rfl⟩
    | nil =>
      rcases o.final_cases with ⟨_, final⟩ | ⟨e, f, _, final⟩
      · exact .inr (.inl (by simp [final]))
      · exact .inr (.inr ⟨f, by simp [final]⟩)
  | finished id closed gone done asks nothing all ends =>
    exact .inl ⟨rfl, Exchange.isOver_of_closed closed, all, ends⟩

end StreamMux.Order
