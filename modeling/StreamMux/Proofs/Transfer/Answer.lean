import StreamMux.Proofs.Transfer.Stage

/-!
# What the peer makes of an order

The request opens a stream at the peer, and every request for more adds to its credit. The peer asks
its handler for one item after another and sends each as soon as there is credit for it; the end
costs none.
-/
namespace StreamMux.Order

variable {o : Order} {s t : Exchange} {up down : List Frame} {got : List Item} {ended : Bool}
  {far : Far}

/-! ### What the peer is sent -/

theorem Granted.new (o : Order) (v : o.Valid) :
    o.Granted (Limiter.new o.batch.toNat) (o.batch.toNat * 0 + 0 + 0 + 0) := by
  have bound : o.batch.toNat ≤ maxRequestN.toNat := UInt32.le_iff_toNat_le.mp v.bound
  have apart : o.batch ≠ maxRequestN → o.batch.toNat < maxRequestN.toNat := fun limited =>
    Nat.lt_of_le_of_ne bound fun same => limited (UInt32.toNat_inj.mp same)
  unfold Limiter.new Limiter.add
  rw [if_neg Bool.false_ne_true]
  refine ⟨?_, fun unlimited => ?_, fun limited => ?_, fun parked => ?_⟩
  · split <;> rfl
  · rw [if_pos (by rw [unlimited]; omega)]
  · have below := apart limited
    rw [if_neg (by simp only; omega)]
    exact ⟨rfl, by simp only; omega⟩
  · split at parked <;> contradiction

/-- The request arrives at the peer and opens a stream there. -/
theorem Stage.request (v : o.Valid) {p : Producer} (yields : p.Yields o.payloads o.failure)
    {f : Frame} (h : o.Stage s (f :: up) down got ended .unasked) :
    f = .payload (.requestStream o.id o.batch o.request) ∧ ∃ t : Exchange, t.id = o.id ∧
      (∀ uptake, (Exchange.responder o.id .responderStream o.batch).receive uptake
        (.requestStream o.id o.batch o.request) = { stream := t, started := some o.request }) ∧
      o.Stage s up down got ended (.sending t p none) := by
  cases h with
  | asked near asks nothing empty goes =>
    rw [List.cons.injEq] at asks
    obtain ⟨rfl, rfl⟩ := asks
    refine ⟨rfl, { Exchange.responder o.id .responderStream o.batch with
      started := true, closed := Directions.inboundOnly }, rfl, fun uptake => rfl, ?_⟩
    have order : [] ++ [] ++ [] ++ (none : Option Payload).toList ++ o.payloads = o.payloads := rfl
    have unasked : [] = List.replicate 0 (Frame.requestN o.id o.batch) := rfl
    have unsent : down = ([] : List Payload).map fun payload =>
        .payload (.item o.id payload) := nothing
    have untaken : got = ([] : List Payload).map .ok := empty
    exact .flowing near ⟨rfl, rfl, rfl, rfl, rfl⟩ unasked unsent untaken goes yields order
      (.new o v)

/-- Credit arrives. -/
theorem Granted.grant {l : Limiter} {grants sent queued delivered : Nat} (v : o.Valid)
    (h : o.Granted l (o.batch.toNat * (grants + 1) + sent + queued + delivered)) :
    o.Granted (l.grant o.batch.toNat) (o.batch.toNat * grants + sent + queued + delivered) := by
  have bound : o.batch.toNat ≤ maxRequestN.toNat := UInt32.le_iff_toNat_le.mp v.bound
  have positive := v.positive
  have mine : ¬ (o.batch.toNat = 0 ∨ l.cancelled = true) := by
    rw [h.goes]
    simp only [Bool.false_eq_true, or_false]
    omega
  unfold Limiter.grant Limiter.add
  rw [if_neg mine]
  refine ⟨?_, fun unlimited => ?_, fun limited => ?_, by simp⟩
  · split
    · exact h.goes
    · split
      · exact h.goes
      · exact h.goes
  · rw [h.unlimited unlimited, if_pos rfl]
    exact h.unlimited unlimited
  · obtain ⟨bounded, eq⟩ := h.counted limited
    have below : o.batch.toNat ≠ maxRequestN.toNat := fun same =>
      limited (UInt32.toNat_inj.mp same)
    rw [Nat.mul_succ] at eq
    rw [bounded, if_neg Bool.false_ne_true, if_neg (by omega)]
    exact ⟨rfl, by simp only; omega⟩

theorem Answering.isOver (h : o.Answering t) : t.isOver = false := by
  rw [Exchange.isOver, h.closed]
  rfl

theorem Stage.answering {p : Producer} {held : Option Payload}
    (h : o.Stage s up down got ended (.sending t p held)) : o.Answering t := by
  cases h with
  | flowing near far asks items handed goes yields order credit => exact far

/-- A request for more arrives at the peer while it is sending. -/
theorem Stage.grant (v : o.Valid) {p : Producer} {held : Option Payload} {f : Frame}
    (h : o.Stage s (f :: up) down got ended (.sending t p held)) :
    f = .requestN o.id o.batch ∧ t.isOver = false ∧ (t.grant o.batch.toNat).id = o.id ∧
      (t.grant o.batch.toNat).isOver = false ∧
      o.Stage s up down got ended (.sending (t.grant o.batch.toNat) p held) := by
  cases h with
  | @flowing _ _ _ taken queued sent left delivered grants near far asks items handed goes
      yields order credit =>
    cases grants with
    | zero => contradiction
    | succ grants =>
      rw [List.replicate_succ, List.cons.injEq] at asks
      obtain ⟨rfl, asks⟩ := asks
      have granted : t.grant o.batch.toNat =
          { t with limiter := t.limiter.grant o.batch.toNat } := by
        rw [Exchange.grant, far.kind]
        rfl
      have next : o.Answering (t.grant o.batch.toNat) := by
        rw [granted]
        exact ⟨far.id, far.kind, far.closed, far.stopped, far.consumer⟩
      refine ⟨rfl, far.isOver, next.id, next.isOver,
        .flowing near next asks items handed goes yields order ?_⟩
      rw [granted]
      exact credit.grant v

/-- Requests for more that come too late change nothing. -/
theorem Stage.late {f : Frame} (h : o.Stage s (f :: up) down got ended .finished) :
    f = .requestN o.id o.batch ∧ o.Stage s up down got ended .finished := by
  have shorter {grants : Nat} (asks : f :: up = List.replicate grants (.requestN o.id o.batch)) :
      f = .requestN o.id o.batch ∧
        ∃ grants, up = List.replicate grants (.requestN o.id o.batch) := by
    cases grants with
    | zero => contradiction
    | succ grants =>
      rw [List.replicate_succ, List.cons.injEq] at asks
      exact ⟨asks.1, grants, asks.2⟩
  cases h with
  | closing near asks landed items handed goes order =>
    obtain ⟨same, _, asks⟩ := shorter asks
    exact ⟨same, .closing near asks landed items handed goes order⟩
  | served near asks nothing handed goes order =>
    obtain ⟨same, _, asks⟩ := shorter asks
    exact ⟨same, .served near asks nothing handed goes order⟩
  | finished id closed gone done asks nothing all ends =>
    obtain ⟨same, _, asks⟩ := shorter asks
    exact ⟨same, .finished id closed gone done asks nothing all ends⟩

/-! ### What the peer sends -/

/-- Asking for credit: there is none, or one unit of it is used. -/
theorem Granted.acquire {l : Limiter} {used : Nat} (h : o.Granted l used) :
    (l.acquire = (.pending, { l with parked := true }) ∧ o.batch ≠ maxRequestN ∧ l.credit = 0) ∨
      ∃ l', l.acquire = (.ready (.ok ()), l') ∧ o.Granted l' (used + 1) := by
  unfold Limiter.acquire
  rw [h.goes, if_neg Bool.false_ne_true]
  by_cases unlimited : o.batch = maxRequestN
  · rw [h.unlimited unlimited, if_pos rfl]
    exact .inr ⟨l, rfl, h.goes, h.unlimited, fun limited => absurd unlimited limited, h.asleep⟩
  · obtain ⟨bounded, eq⟩ := h.counted unlimited
    rw [bounded, if_neg Bool.false_ne_true]
    by_cases some : 0 < l.credit
    · rw [if_pos some]
      refine .inr ⟨_, rfl, rfl, fun same => absurd same unlimited, fun _ => ⟨rfl, ?_⟩, ?_⟩
      · simp only
        omega
      · intro parked
        have poor := h.asleep parked
        simp [Limiter.isDecided, some] at poor
    · rw [if_neg some]
      exact .inl ⟨rfl, unlimited, by omega⟩

theorem Answering.limited (h : o.Answering t) (limiter : Limiter) :
    o.Answering { t with limiter } :=
  ⟨h.id, h.kind, h.closed, h.stopped, h.consumer⟩

/-- The item that the peer holds is sent, or waits for credit. -/
theorem Stage.offer {p : Producer} {payload : Payload}
    (h : o.Stage s up down got ended (.sending t p (some payload))) :
    (∃ u : Exchange, u.id = o.id ∧ u.isOver = false ∧ t.offer payload = (.waiting, u, []) ∧
      o.Stage s up down got ended (.sending u p (some payload))) ∨
    ∃ u : Exchange, u.id = o.id ∧ u.isOver = false ∧
      t.offer payload = (.sent, u, [.payload (.item o.id payload)]) ∧
      payload ∈ o.payloads ∧
      o.Stage s up (down ++ [.payload (.item o.id payload)]) got ended (.sending u p none) := by
  cases h with
  | @flowing _ _ _ taken queued sent left delivered grants near far asks items handed goes
      yields order credit =>
    unfold Exchange.offer
    rcases credit.acquire with ⟨acquired, limited, poor⟩ | ⟨limiter, acquired, spent⟩
    · rw [acquired]
      have next := far.limited { t.limiter with parked := true }
      have asleep : { t.limiter with parked := true }.isDecided = false := by
        simp [Limiter.isDecided, credit.goes, (credit.counted limited).1, poor]
      exact .inl ⟨_, next.id, next.isOver, rfl, .flowing near next asks items handed goes yields
        order ⟨credit.goes, credit.unlimited, credit.counted, fun _ => asleep⟩⟩
    · rw [acquired]
      have next := far.limited limiter
      refine .inr ⟨_, next.id, next.isOver, ?_, ?_, ?_⟩
      · dsimp only
        rw [far.closed, far.id]
        rfl
      · rw [← order]
        simp
      · have items : down ++ [.payload (.item o.id payload)] =
            (sent ++ [payload]).map fun payload => .payload (.item o.id payload) := by
          rw [items, List.map_append]
          rfl
        refine .flowing near next asks items handed goes yields (by simpa using order) ?_
        have same : o.batch.toNat * grants + (sent ++ [payload]).length + queued.length +
            delivered = o.batch.toNat * grants + sent.length + queued.length + delivered + 1 := by
          simp only [List.length_append, List.length_cons, List.length_nil]
          omega
        rw [same]
        exact spent

/-- The peer asks its handler. -/
theorem Stage.pulled {p : Producer} (h : o.Stage s up down got ended (.sending t p none)) :
    o.Answering t ∧ ∃ left, p.Yields left o.failure ∧ ∀ q answer,
      Endpoint.Pulled left o.failure q answer →
      match answer with
      | .item (.ok payload) => o.Stage s up down got ended (.sending t q (some payload))
      | .waiting | .again => o.Stage s up down got ended (.sending t q none)
      | .item (.error f) => o.failure = some f ∧ ∀ last, o.farewell.landed = some last →
        o.Stage s up (down ++ [last]) got ended .finished
      | .ended => o.failure = none ∧ ∀ last, o.farewell.landed = some last →
        o.Stage s up (down ++ [last]) got ended .finished := by
  cases h with
  | @flowing _ _ _ taken queued sent left delivered grants near far asks items handed goes
      yields order credit =>
    refine ⟨far, left, yields, fun q answer told => ?_⟩
    have closes (all : left = []) (last : Frame) (landed : o.farewell.landed = some last) :
        o.Stage s up (down ++ [last]) got ended .finished :=
      .closing near asks landed (by rw [items]) handed goes (by simpa [all] using order)
    cases answer with
    | item item =>
      cases item with
      | ok payload =>
        obtain ⟨more, rfl, next⟩ := told
        exact .flowing near far asks items handed goes next (by simpa using order) credit
      | error f => exact ⟨told.2, closes told.1⟩
    | ended => exact ⟨told.2, closes told.1⟩
    | waiting => exact .flowing near far asks items handed goes told order credit
    | again => exact .flowing near far asks items handed goes told order credit

theorem id_farewell (o : Order) : o.farewell.id = o.id := by
  unfold farewell
  split
  · rfl
  · exact Exchange.id_streamFrame _ _

theorem landed_farewell (v : o.Valid) : ∃ last, o.farewell.landed = some last := by
  unfold farewell
  split
  · exact ⟨_, landed_completion v.stream⟩
  next f _ =>
    obtain ⟨code, message, landed, _⟩ := landed_streamFrame v.stream f
    exact ⟨_, landed⟩

/-- The handler came to its end. -/
theorem Answering.complete (h : o.Answering t) (ends : o.failure = none) :
    t.complete.1.id = o.id ∧ t.complete.1.isOver = true ∧ t.complete.2 = [o.farewell] ∧
      t.complete.1.consumer = none := by
  unfold Exchange.complete
  rw [h.closed]
  refine ⟨h.id, ?_, ?_, h.consumer⟩
  · rw [Exchange.isOver, Exchange.close, h.closed]
    rfl
  · rw [farewell, ends, h.id]
    rfl

/-- The handler failed. -/
theorem Answering.failLocally {f : Failure} (h : o.Answering t) (fails : o.failure = some f) :
    (t.failLocally f).1.id = o.id ∧ (t.failLocally f).1.isOver = true ∧
      (t.failLocally f).2 = [o.farewell] ∧ (t.failLocally f).1.consumer = none := by
  obtain ⟨inbox, eq⟩ := t.failLocally_eq f
  rw [eq, h.closed]
  refine ⟨h.id, ?_, ?_, h.consumer⟩
  · exact Exchange.isOver_of_closed rfl
  · rw [farewell, fails, h.id]
    rfl

end StreamMux.Order
