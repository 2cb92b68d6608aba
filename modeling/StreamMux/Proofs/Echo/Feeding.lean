import StreamMux.Proofs.Echo.Answer

/-!
# What is sent on a channel

The end that opens a channel waits for its first payload and sends it with the request, or asks
for a channel on which it sends nothing (`Stage.opens`). It takes one payload after the other and
sends each as soon as there is credit for it (`Stage.fetches`, `Stage.sends`); the end costs none.
-/
namespace StreamMux.Echo

open Endpoint (Pulled)

variable {o : Echo} {s : Exchange} {up down : List Frame} {got : List Item} {ended shut : Bool}
  {near : Near} {far : Far} {p q : Producer} {queued : List Payload} {delivered : Nat}

/-- As long as it has something to send, the stream goes on at the end that opened it. -/
theorem Stage.running (h : o.Stage s up down got ended near far) (busy : near ≠ .silent) :
    s.stopped = false ∧ s.isOver = false := by
  cases h with
  | unopened taking | requested taking | echoing taking => exact ⟨taking.stopped, taking.isOver⟩
  | leaving | closing | served | finished => exact absurd rfl busy

/-! ### The first payload -/

/-- What comes of asking for the first payload. -/
inductive Opened (o : Echo) (s : Exchange) (up down : List Frame) (got : List Item)
    (ended : Bool) (far : Far) (q : Producer) : Pull → Prop
  | opens {t : Exchange} {payload : Payload} (named : t.id = o.id) (fits : payload.Fits)
      (eq : s.openChannel o.near payload =
        (.sent, t, [.payload (.requestChannel o.id o.near payload false)]))
      (next : o.Stage t (up ++ [.payload (.requestChannel o.id o.near payload false)]) down got
        ended (.sending q none) far) : Opened o s up down got ended far q (.item (.ok payload))
  | silent {t : Exchange} (named : t.id = o.id) (eq : s.openSilentChannel o.near =
        (t, [.payload (.requestChannel o.id o.near Payload.empty true)]))
      (next : o.Stage t (up ++ [.payload (.requestChannel o.id o.near Payload.empty true)]) down got
        ended .silent far) : Opened o s up down got ended far q .ended
  | waiting (next : o.Stage s up down got ended (.unopened q) far) :
      Opened o s up down got ended far q .waiting
  | again (next : o.Stage s up down got ended (.unopened q) far) :
      Opened o s up down got ended far q .again

/-- The request leaves the consumer as it is. -/
theorem Taking.initiate (h : o.Taking s shut queued delivered) :
    o.Taking { s with initiated := true } shut queued delivered :=
  ⟨h.id, h.kind, h.closed, h.fragments, h.stopped, h.inbox, h.inboxOpen, h.consumer⟩

/-- The payloads of this end come to their end. -/
theorem Taking.close (h : o.Taking s shut queued delivered) :
    o.Taking (s.close Directions.outboundOnly) true queued delivered := by
  refine ⟨h.id, h.kind, ?_, h.fragments, h.stopped, h.inbox, h.inboxOpen, h.consumer⟩
  rw [Exchange.close, h.closed]
  cases shut <;> rfl

/-- The first payload is asked for. -/
theorem Stage.opens (v : o.Valid) (h : o.Stage s up down got ended (.unopened p) far) :
    p.intake = .none ∧ p.Yields o.payloads none ∧ ∀ answer, q.intake = .none →
      Pulled o.payloads none q answer → Opened o s up down got ended far q answer := by
  cases h with
  | unopened taking refuses yields credit unsent nothing untaken goes =>
    refine ⟨refuses, yields, fun answer still told => ?_⟩
    subst unsent
    cases answer with
    | item item =>
      cases item with
      | ok payload =>
        obtain ⟨rest, all, left⟩ := told
        have order : payload :: rest = o.items := by
          unfold items reply
          rw [all]
        have fits : payload.Fits := v.payloads payload (by rw [all]; exact List.mem_cons_self)
        refine .opens (t := { s with initiated := true }) taking.id fits ?_
          (.requested taking.initiate (.sending still left credit) rfl .nil rfl (by simp) nothing
            untaken goes order)
        rw [Exchange.openChannel, taking.isOver, taking.id, if_neg Bool.false_ne_true]
      | error failure => exact absurd told.2 (by simp)
    | ended =>
      have order : Payload.empty :: [] = o.items := by
        unfold items reply
        rw [told.1]
      refine .silent (t := { s with initiated := true }.close Directions.outboundOnly) taking.id ?_
        (.requested taking.initiate.close .silent rfl .nil rfl (by simp) nothing untaken goes order)
      rw [Exchange.openSilentChannel, taking.isOver, taking.id, if_neg Bool.false_ne_true]
    | waiting => exact .waiting (.unopened taking still told credit rfl nothing untaken goes)
    | again => exact .again (.unopened taking still told credit rfl nothing untaken goes)
  | requested taking feeds => cases feeds
  | echoing taking feeds => cases feeds

/-! ### The payloads behind it -/

/-- What comes of asking for the next payload. -/
inductive Fetched (o : Echo) (s : Exchange) (up down : List Frame) (got : List Item)
    (ended : Bool) (far : Far) (q : Producer) : Pull → Prop
  | holds {payload : Payload}
      (next : o.Stage s up down got ended (.sending q (some payload)) far) :
      Fetched o s up down got ended far q (.item (.ok payload))
  | closes (named : s.complete.1.id = o.id) (frames : s.complete.2 = [.payload (.completion o.id)])
      (next : o.Stage s.complete.1 (up ++ [.payload (.completion o.id)]) down got ended .silent
        far) : Fetched o s up down got ended far q .ended
  | waiting (next : o.Stage s up down got ended (.sending q none) far) :
      Fetched o s up down got ended far q .waiting
  | again (next : o.Stage s up down got ended (.sending q none) far) :
      Fetched o s up down got ended far q .again

/-- The next payload is asked for, and none is held. -/
theorem Stage.fetches (h : o.Stage s up down got ended (.sending p none) far) :
    p.intake = .none ∧ ∃ left, p.Yields left none ∧ ∀ answer, q.intake = .none →
      Pulled left none q answer → Fetched o s up down got ended far q answer := by
  -- The answer is looked at once, for a stage of either kind.
  have cases {left : List Payload} {answer : Pull} (told : Pulled left none q answer)
      (open' : s.closed.outbound = false) (named : s.id = o.id)
      (goes : ∀ held rest, q.Yields rest none → left = held.toList ++ rest →
        o.Stage s up down got ended (.sending q held) far)
      (closes : left = [] → o.Stage s.complete.1 (up ++ [.payload (.completion o.id)]) down got
        ended .silent far) : Fetched o s up down got ended far q answer := by
    cases answer with
    | item item =>
      cases item with
      | ok payload =>
        obtain ⟨rest, all, yields⟩ := told
        exact .holds (goes (some payload) rest yields all)
      | error failure => exact absurd told.2 (by simp)
    | ended =>
      refine .closes named ?_ (closes told.1)
      rw [Exchange.complete, open', named]
      rfl
    | waiting => exact .waiting (goes none left told rfl)
    | again => exact .again (goes none left told rfl)
  cases h with
  | @requested _ payload _ frames _ ends silent taking feeds asks upward which last nothing untaken
      goes order =>
    cases feeds with
    | @sending _ _ left refuses yields credit =>
      obtain ⟨rfl, rfl⟩ := Bool.or_eq_false_iff.mp which.symm
      refine ⟨refuses, left, yields, fun answer still told => cases told ?_ taking.id
        (fun held rest yields eq => ?_) fun empty => ?_⟩
      · rw [taking.closed]
      · exact .requested taking (.sending still yields credit) asks upward rfl (by simp) nothing
          untaken goes (by rw [← eq]; exact order)
      · have both : true = (true || false) := rfl
        refine .requested taking.close .silent ?_ (upward.snoc_last rfl) both (by simp) nothing
          untaken goes (by rw [empty] at order; exact order)
        rw [asks, List.cons_append]
  | @echoing _ t first held taken queued back kept sent _ delivered used asked granted _ ends
      finished due taking feeds far upward downward which last credit handed goes order =>
    cases feeds with
    | @sending _ _ left refuses yields lent =>
      obtain ⟨rfl, rfl⟩ := Bool.or_eq_false_iff.mp which.symm
      refine ⟨refuses, left, yields, fun answer still told => cases told ?_ taking.id
        (fun held rest yields eq => ?_) fun empty => ?_⟩
      · rw [taking.closed]
      · exact .echoing taking (.sending still yields lent) far upward downward rfl (by simp) credit
          handed goes (by rw [← eq]; exact order)
      · have both : true = (true || false) := rfl
        exact .echoing taking.close .silent far (upward.snoc_last rfl) downward both (by simp)
          credit handed goes (by rw [empty] at order; exact order)

theorem Taking.limited (h : o.Taking s shut queued delivered) (limiter : Limiter) :
    o.Taking { s with limiter } shut queued delivered :=
  ⟨h.id, h.kind, h.closed, h.fragments, h.stopped, h.inbox, h.inboxOpen, h.consumer⟩

/-- The payload that is held is sent, or waits for credit. -/
theorem Stage.sends {payload : Payload}
    (h : o.Stage s up down got ended (.sending p (some payload)) far) :
    (∃ t : Exchange, t.id = o.id ∧ s.offer payload = (.waiting, t, []) ∧
      o.Stage t up down got ended (.sending p (some payload)) far) ∨
    ∃ t : Exchange, t.id = o.id ∧
      s.offer payload = (.sent, t, [.payload (.item o.id payload)]) ∧ payload ∈ o.items ∧
      o.Stage t (up ++ [.payload (.item o.id payload)]) down got ended (.sending p none) far := by
  cases h with
  | requested taking feeds asks upward which last nothing untaken goes order =>
    cases feeds with
    | sending refuses yields credit =>
      -- The other end has not asked for anything yet.
      rcases credit.acquire with ⟨acquired, poor⟩ | ⟨given, _⟩
      · have next := taking.limited { s.limiter with parked := true }
        refine .inl ⟨_, next.id, ?_, .requested next (.sending refuses yields poor) asks upward
          which last nothing untaken goes order⟩
        unfold Exchange.offer
        rw [acquired]
      · contradiction
  | @echoing _ t first held taken queued back kept sent _ delivered used asked granted _ ends
      finished due taking feeds far upward downward which last credit handed goes order =>
    cases feeds with
    | @sending _ _ left refuses yields lent =>
      rcases lent.acquire with ⟨acquired, poor⟩ | ⟨rfl, limiter, acquired, spent⟩
      · have next := taking.limited { s.limiter with parked := true }
        refine .inl ⟨_, next.id, ?_, .echoing next (.sending refuses yields poor) far upward
          downward which last credit handed goes order⟩
        unfold Exchange.offer
        rw [acquired]
      · obtain ⟨rfl, rfl⟩ := Bool.or_eq_false_iff.mp which.symm
        have next := taking.limited limiter
        refine .inr ⟨_, next.id, ?_, ?_, ?_⟩
        · unfold Exchange.offer
          rw [acquired]
          dsimp only
          rw [taking.closed, taking.id, if_neg Bool.false_ne_true]
        · rw [← order]
          simp
        · refine .echoing next (.sending refuses yields (spent.recount ?_)) far
            (upward.snoc_item rfl payload) downward rfl (by simp) credit handed goes
            (by simpa using order)
          rw [List.length_append, List.length_singleton]
          omega

end StreamMux.Echo
