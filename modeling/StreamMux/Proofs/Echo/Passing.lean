import StreamMux.Proofs.Echo.Ends
import StreamMux.Proofs.World.Course

/-!
# A channel that passes between two ends

Once a channel is there its frames pass between the ends, and both have a task for it. The near end
holds the stream under the name of the request, and the application of the far end sends back what
comes. Every step of the world leads from one stage of the channel to another (`Bounces.turn`).
-/
namespace StreamMux

namespace Endpoint

variable {o : Echo} {id : UInt32} {name : Option String} {e f : Endpoint} {far : Echo.Far}
  {slot : Option Nat} {task : Option Task}

/-- The task in the slot stays as long as the end does other things. -/
theorem Runs.keeps (h : e.Runs task slot) (keeps : e.Keeps id name slot f) : f.Runs task slot := by
  cases h with
  | idle => exact .idle
  | busy there =>
    have bound := (Array.getElem?_eq_some_iff.mp there).1
    exact .busy ((keeps.task _ rfl bound).trans there)

theorem Echoes.keeps (h : Echoes o e far slot) (keeps : e.Keeps o.id none slot f) :
    Echoes o f far slot := by
  cases h with
  | unasked lacks => exact .unasked (keeps.lacks lacks)
  | echoing holds runs => exact .echoing (keeps.holds holds) (runs.keeps keeps)
  | leaving holds runs => exact .leaving (keeps.holds holds) (runs.keeps keeps)
  | finished gone => exact .finished (keeps.registry.trans gone)

theorem Echoes.bound (h : Echoes o e far slot) (k : Nat) (mine : slot = some k) :
    k < e.tasks.size := by
  cases h with
  | unasked lacks => contradiction
  | echoing holds runs => exact runs.bound k mine
  | leaving holds runs => exact runs.bound k mine
  | finished gone => contradiction

end Endpoint

namespace World

/-- A channel whose items come back, between the two ends. -/
structure Bounces (o : Echo) (name : String) (got : List Item) (ended : Bool) (w : World)
    (i : Nat) (s : Exchange) (near : Echo.Near) (far : Echo.Far) (slot there : Option Nat)
    (f : Endpoint) : Prop where
  aside : w.Aside o.id name (between slot there)
  request : w.near.request? name = some (.opened i)
  holds : w.near.connection.Holds o.id i s
  runs : w.near.Runs (near.task o i) slot
  across : w.endpoint? .far = some f
  echoes : f.Echoes o far there
  repeats : ∀ payload, f.application.onChannel payload = Echo.repeater (some payload)
  prefetch : f.connection.config.prefetch = o.far
  stage : o.Stage s (w.flow .near o.id) (w.flow .far o.id) got ended near far

variable {o : Echo} {name : String} {got more : List Item} {ended ended' : Bool} {w w' : World}
  {i : Nat} {s : Exchange} {near : Echo.Near} {far : Echo.Far} {slot there : Option Nat}
  {e f g : Endpoint}

/-- The near end does something for the channel. -/
theorem Bounces.speaks (h : Bounces o name got ended w i s near far slot there f) (valid : o.Valid)
    (own : w'.endpoint? .near = some e) (other : w'.endpoint? .far = w.endpoint? .far)
    (writes : w'.writes .near = w.writes .near)
    (speaks : w.near.Speaks o i (w.flow .near o.id) (w'.flow .far o.id) more ended' far slot e) :
    ∃ s near slot, Bounces o name more ended' w' i s near far slot there f := by
  obtain ⟨t, near, frames, advances, lands, stage⟩ := speaks.after
  obtain ⟨slot', runs, avoids⟩ := advances.later
  have wire := ((isStreamId_iff o.id).mp valid.stream).1
  have same : w'.near = e := Option.some.inj own
  have up := flow_sends wire w.endpoint?_near own writes advances.waiting advances.own
  rw [lands.eq] at up
  have aside : w'.Aside o.id name (between slot' there) :=
    h.aside.grows w.endpoint?_near own other advances.grows
      (avoids _ (h.aside.avoids w.endpoint?_near)) runs.bound rfl
  refine ⟨t, near, slot', aside, ?_, ?_, ?_, other.trans h.across, h.echoes, h.repeats, h.prefetch,
    ?_⟩
  · rw [same, Endpoint.request?, advances.requests]
    exact h.request
  · rw [same]
    exact advances.holds
  · rw [same]
    exact runs
  · rw [up]
    exact stage

/-- The far end does something for the channel. -/
theorem Bounces.replies (h : Bounces o name got ended w i s near far slot there f)
    (valid : o.Valid) (own : w'.endpoint? .far = some g)
    (other : w'.endpoint? .near = w.endpoint? .near) (writes : w'.writes .far = w.writes .far)
    (replies : f.Replies o s (w'.flow .near o.id) (w.flow .far o.id) got ended near there g) :
    ∃ far there, Bounces o name got ended w' i s near far slot there g := by
  obtain ⟨far, there', frames, sends, echoes, avoids, lands, stage⟩ := replies.after
  have wire := ((isStreamId_iff o.id).mp valid.stream).1
  have same : w'.near = w.near := Option.some.inj other
  have down := flow_sends wire h.across own writes sends.waiting sends.own
  rw [lands.eq] at down
  have aside : w'.Aside o.id name (between slot there') :=
    h.aside.grows h.across own other sends.grows (avoids _ (h.aside.avoids h.across)) echoes.bound
      rfl
  refine ⟨far, there', aside, ?_, ?_, ?_, own, echoes, ?_, ?_, ?_⟩
  · rw [same]
    exact h.request
  · rw [same]
    exact h.holds
  · rw [same]
    exact h.runs
  · rw [sends.application]
    exact h.repeats
  · rw [sends.grows.config]
    exact h.prefetch
  · rw [down]
    exact stage

/-- What is apart from the channel leaves it at its stage. -/
theorem Bounces.apart (h : Bounces o name got ended w i s near far slot there f) (live : w.Live)
    (apart : w.Apart o.id name (between slot there) w') :
    ∃ g, Bounces o name got ended w' i s near far slot there g := by
  obtain ⟨e, own, here⟩ := apart.ends w.endpoint?_near
  obtain ⟨g, across, far⟩ := apart.ends h.across
  have eq : w'.near = e := Option.some.inj own
  refine ⟨g, apart.aside h.aside live, ?_, ?_, ?_, across, h.echoes.keeps far, ?_, ?_, ?_⟩
  · rw [eq, here.request name rfl]
    exact h.request
  · rw [eq]
    exact here.holds h.holds
  · rw [eq]
    exact h.runs.keeps here
  · rw [far.application]
    exact h.repeats
  · rw [far.config]
    exact h.prefetch
  · rw [apart.flow, apart.flow]
    exact h.stage

/-- A step of the world leads from one stage to another. -/
theorem Bounces.turn (h : Bounces o name got ended w i s near far slot there f) (valid : o.Valid)
    (odd : o.id.toNat % 2 = 1) (live : w.Live)
    (turn : Turn o.id name (between slot there) w w') :
    ∃ s near far slot there f, Bounces o name got ended w' i s near far slot there f := by
  have accepts := (h.aside.healthy w.endpoint?_near).accepts
  have healthy := h.aside.healthy h.across
  have still : f.Still { f with clock := w.clock } := ⟨rfl, rfl, rfl, rfl, rfl⟩
  have runs : w.present.Runs (near.task o i) slot := h.runs.of_tasks rfl
  cases turn with
  | apart apart =>
    obtain ⟨g, bounces⟩ := h.apart live apart
    exact ⟨s, near, far, slot, there, g, bounces⟩
  | @reads _ here e frame found found' other named first writes =>
    have stage := h.stage
    cases here with
    | near =>
      cases found
      rw [show w.flow .far o.id = frame :: w'.flow .far o.id from first] at stage
      have speaks := Endpoint.handle_speaks (e := w.present) valid accepts h.holds runs stage
      obtain ⟨s, near, slot, bounces⟩ :=
        h.speaks valid found' other writes (speaks.of_still w.present_still)
      exact ⟨s, near, far, slot, there, f, bounces⟩
    | far =>
      have same : e = f := Option.some.inj (found.symm.trans h.across)
      subst same
      rw [show w.flow .near o.id = frame :: w'.flow .near o.id from first] at stage
      have replies := Endpoint.handle_replies (e := { e with clock := w.clock }) valid healthy.role
        odd healthy.accepts h.repeats h.prefetch (h.echoes.of_still still) stage
      obtain ⟨far, there, bounces⟩ :=
        h.replies valid found' other writes (replies.of_still still)
      exact ⟨s, near, far, slot, there, _, bounces⟩
  | works here k mine =>
    cases here with
    | near =>
      obtain rfl : slot = some k := mine
      have becomes : w.Becomes .near _ _ _ (w.stepTask .near (.work k)).1 := becomes_of_set rfl
      have active := live.active w.endpoint?_near
      have speaks := Endpoint.stepWork_speaks (e := w.present) valid active accepts h.holds runs
        h.stage
      have down : (w.stepTask .near (.work k)).1.flow .far o.id = w.flow .far o.id :=
        flow_same becomes.other becomes.theirs
      rw [← down] at speaks
      obtain ⟨s, near, slot, bounces⟩ := h.speaks valid becomes.own becomes.other becomes.mine
        (speaks.of_still w.present_still)
      exact ⟨s, near, far, slot, there, f, bounces⟩
    | far =>
      obtain rfl : there = some k := mine
      have becomes : w.Becomes .far _ _ _ (w.stepTask .far (.work k)).1 :=
        becomes_of_set (by rw [stepTask, h.across])
      have active := live.active h.across
      have replies := Endpoint.stepWork_replies (e := { f with clock := w.clock }) valid active
        healthy.accepts (h.echoes.of_still still) h.stage
      have up : (w.stepTask .far (.work k)).1.flow .near o.id = w.flow .near o.id :=
        flow_same becomes.other becomes.theirs
      rw [← up] at replies
      obtain ⟨far, there, bounces⟩ := h.replies valid becomes.own becomes.other becomes.mine
        (replies.of_still still)
      exact ⟨s, near, far, slot, there, _, bounces⟩

/-- The application of the near end asks for items. -/
theorem Bounces.polls (h : Bounces o name got ended w i s near far slot there f) (valid : o.Valid)
    (limit : Nat) {reply : Reply}
    (answered : w.act .near (·.perform (.poll name limit)) = (some reply, w')) :
    ∃ s near slot, Bounces o name (got ++ reply.taken) (ended || reply.isEnd) w' i s near far slot
      there f := by
  have accepts := (h.aside.healthy w.endpoint?_near).accepts
  have opened : w.present.request? name = some (.opened i) := h.request
  have runs : w.present.Runs (near.task o i) slot := h.runs.of_tasks rfl
  have speaks := Endpoint.takeItems_speaks valid limit opened accepts h.holds runs h.stage
  obtain ⟨taken, ends, becomes⟩ := polls_opened h.request answered
  have down : w'.flow .far o.id = w.flow .far o.id := flow_same becomes.other becomes.theirs
  rw [← taken, ← ends, ← down] at speaks
  exact h.speaks valid becomes.own becomes.other becomes.mine (speaks.of_still w.present_still)

/-! ### A channel that is asked for -/

/-- The channel is opened: its first payload is awaited. -/
theorem Untouched.bounces {a : Application} {config : ConnectionConfig} {source : Source}
    (h : w.Untouched o.id name a config) (valid : o.Valid)
    (yields : ({ tail := source } : Producer).Yields o.payloads none)
    (repeats : ∀ payload, a.onChannel payload = Echo.repeater (some payload))
    (prefetch : config.prefetch = o.far)
    (made : w.present.open (.channel source) o.near = (.ok i, e))
    (own : w.near.connection.spent e.connection = [o.id]) :
    ∃ s near slot f,
      Bounces o name [] false (w.opening name i e) i s near .unasked slot none f := by
  obtain ⟨_, own', spends, nonzero, low, _, opens⟩ := Endpoint.open_channel made
  have spends : w.near.connection.spent e.connection = [own'] := spends
  obtain rfl : o.id = own' := by
    rw [own, List.cons.injEq] at spends
    exact spends.1
  have lacks : w.near.connection.Lacks o.id := h.lacks w.endpoint?_near
  obtain ⟨slot, opened⟩ := h.opened low (opens lacks)
  obtain ⟨f, there, application, configured⟩ := h.there
  have consumer : (Exchange.requesterChannel o.near o.id).consumer = some { batch := o.near } := by
    rw [Exchange.requesterChannel, Order.max_one valid.near]
  refine ⟨_, .unopened { tail := source }, slot, f, opened.aside, opened.request, opened.holds,
    opened.runs, there, .unasked (h.lacks there), by rw [application]; exact repeats,
    by rw [configured]; exact prefetch, ?_⟩
  rw [opened.up, opened.down]
  exact .unopened ⟨rfl, rfl, rfl, rfl, rfl, rfl, rfl, consumer⟩ rfl yields (.start _) rfl rfl rfl
    rfl

/-- The payloads of the channel under an id go to the other end and back. -/
def Channels (name : String) (payloads : List Payload) (id : UInt32) (got : List Item)
    (ended : Bool) (w : World) : Prop :=
  ∃ o : Echo, o.id = id ∧ o.payloads = payloads ∧ o.Valid ∧ id.toNat % 2 = 1 ∧
    ∃ i s near far slot there f, Bounces o name got ended w i s near far slot there f

/-- Whatever happens, the payloads of a channel that was opened go to the other end and back. -/
theorem channels_upheld {a : Application} {config : ConnectionConfig} {source : Source}
    {payloads : List Payload} (positive : 0 < config.prefetch)
    (bound : config.prefetch ≤ maxRequestN) (fitting : ∀ payload ∈ payloads, payload.Fits)
    (yields : ({ tail := source } : Producer).Yields payloads none)
    (repeats : ∀ payload, a.onChannel payload = Echo.repeater (some payload)) (name : String) :
    Upheld name (.channel source) a config (Channels name payloads) where
  opens {id batch i w e} some most low nonzero odd untouched made own := by
    let o : Echo := { id, near := batch, far := config.prefetch, payloads }
    have valid : o.Valid :=
      { stream := (isStreamId_iff id).mpr ⟨low, by rw [low]; exact nonzero⟩
        near := UInt32.lt_iff_toNat_lt.mp some
        nearBound := most
        far := UInt32.lt_iff_toNat_lt.mp positive
        farBound := bound
        payloads := fitting }
    have opens : w.Untouched o.id name a config := untouched
    obtain ⟨s, near, slot, f, bounces⟩ := opens.bounces valid yields repeats rfl made own
    exact ⟨o, rfl, rfl, valid, odd, i, s, near, _, slot, _, f, bounces⟩
  steps {id got ended w w'} before next live live' fresh := by
    obtain ⟨o, rfl, payloads, valid, odd, i, s, near, far, slot, there, f, bounces⟩ := before
    have wire := ((isStreamId_iff o.id).mp valid.stream).1
    have turn := next.turn bounces.aside wire valid.nonzero live live' fresh
    obtain ⟨s, near, far, slot, there, f, bounces⟩ := bounces.turn valid odd live turn
    exact ⟨o, rfl, payloads, valid, odd, i, s, near, far, slot, there, f, bounces⟩
  polls {id got ended w w' limit reply} before answered := by
    obtain ⟨o, rfl, payloads, valid, odd, i, s, near, far, slot, there, f, bounces⟩ := before
    obtain ⟨s, near, slot, bounces⟩ := bounces.polls valid limit answered
    exact ⟨o, rfl, payloads, valid, odd, i, s, near, far, slot, there, f, bounces⟩
  requested {id got ended w} before := by
    obtain ⟨o, rfl, _, _, _, i, s, near, far, slot, there, f, bounces⟩ := before
    rw [bounces.request]
    simp

end World
end StreamMux
