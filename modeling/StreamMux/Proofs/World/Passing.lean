import StreamMux.Proofs.Transfer.Ends
import StreamMux.Proofs.World.Course

/-!
# A stream that passes between two ends

Once a stream is asked for, its frames pass between the ends until it is over. The near end holds
the stream under the name of the request, and the far end answers it; what is on the way between
them makes up the stage of the transfer (`Passes`). Every step keeps this.
-/
namespace StreamMux

/-- What can be said of the end that answers holds on as long as it does other things. -/
theorem Endpoint.Answers.keeps {o : Order} {e f : Endpoint} {far : Order.Far}
    {slot : Option Nat} (h : Answers o e far slot) (keeps : e.Keeps o.id none slot f) :
    Answers o f far slot := by
  cases h with
  | unasked lacks => exact .unasked (keeps.lacks lacks)
  | sending holds task =>
    have bound := (Array.getElem?_eq_some_iff.mp task).1
    exact .sending (keeps.holds holds) ((keeps.task _ rfl bound).trans task)
  | finished gone => exact .finished (keeps.registry.trans gone)

theorem Endpoint.Answers.bound {o : Order} {e : Endpoint} {far : Order.Far} {slot : Option Nat}
    (h : Answers o e far slot) (k : Nat) (mine : slot = some k) : k < e.tasks.size := by
  cases h with
  | unasked lacks => contradiction
  | sending holds task =>
    cases mine
    exact (Array.getElem?_eq_some_iff.mp task).1
  | finished gone => contradiction

namespace World

/-- A stream that was asked for, between the two ends. -/
structure Passes (o : Order) (name : String) (got : List Item) (ended : Bool) (w : World)
    (i : Nat) (s : Exchange) (far : Order.Far) (slot : Option Nat) (f : Endpoint) : Prop where
  aside : w.Aside o.id name (between none slot)
  request : w.near.request? name = some (.opened i)
  holds : w.near.connection.Holds o.id i s
  there : w.endpoint? .far = some f
  answers : f.Answers o far slot
  yields : (f.application.onStream o.request).Yields o.payloads o.failure
  stage : o.Stage s (w.flow .near o.id) (w.flow .far o.id) got ended far

variable {o : Order} {name : String} {got : List Item} {ended : Bool} {w w' : World} {i : Nat}
  {s : Exchange} {far : Order.Far} {slot : Option Nat} {e f g : Endpoint} {a : Application}
  {config : ConnectionConfig}

/-- The near end does something for its stream. -/
theorem Passes.consumes (h : Passes o name got ended w i s far slot f) {more : List Item}
    {ended' : Bool} (valid : o.Valid) (own : w'.endpoint? .near = some e)
    (other : w'.endpoint? .far = w.endpoint? .far) (writes : w'.writes .near = w.writes .near)
    (consumes : w.near.Consumes o i (w.flow .near o.id) (w'.flow .far o.id) more ended' far e) :
    ∃ s, Passes o name more ended' w' i s far slot f := by
  obtain ⟨t, asks, leads, again, stage⟩ := consumes.after
  have wire := ((isStreamId_iff o.id).mp valid.stream).1
  have found : w.endpoint? .near = some w.near := rfl
  have near : w'.near = e := Option.some.inj own
  have landed : asks.filterMap Frame.landed = asks := by
    rw [List.eq_replicate_of_mem again]
    exact List.filterMap_replicate_of_some (landed_requestN valid.stream valid.bound)
  have up := flow_sends wire found own writes leads.waiting leads.own
  rw [landed] at up
  have avoids : e.Avoids o.id (some name) none :=
    leads.avoids (h.aside.avoids found) fun k task unset there => ⟨unset, leads.tasks ▸ there⟩
  refine ⟨t, h.aside.grows found own other leads.grows avoids (by simp [between]) rfl, ?_,
    ?_, other.trans h.there, h.answers, h.yields, ?_⟩
  · rw [near, Endpoint.request?, leads.requests]
    exact h.request
  · rw [near]
    exact leads.holds
  · rw [up]
    exact stage

/-- The far end does something for the stream. -/
theorem Passes.serves (h : Passes o name got ended w i s far slot f) (valid : o.Valid)
    (own : w'.endpoint? .far = some g) (other : w'.endpoint? .near = w.endpoint? .near)
    (writes : w'.writes .far = w.writes .far)
    (serves : f.Serves o s (w'.flow .near o.id) (w.flow .far o.id) got ended slot g) :
    ∃ far slot, Passes o name got ended w' i s far slot g := by
  obtain ⟨far, slot', frames, sends, answers, avoids, stage⟩ := serves.after
  have wire := ((isStreamId_iff o.id).mp valid.stream).1
  have near : w'.near = w.near := Option.some.inj other
  have down := flow_sends wire h.there own writes sends.waiting sends.own
  refine ⟨far, slot', h.aside.grows h.there own other sends.grows
    (avoids _ (h.aside.avoids h.there)) answers.bound rfl, ?_, ?_, own, answers, ?_, ?_⟩
  · rw [near]
    exact h.request
  · rw [near]
    exact h.holds
  · rw [sends.application]
    exact h.yields
  · rw [down]
    exact stage

/-- What is apart from the stream leaves it at its stage. -/
theorem Passes.apart (h : Passes o name got ended w i s far slot f) (live : w.Live)
    (apart : w.Apart o.id name (between none slot) w') :
    ∃ g, Passes o name got ended w' i s far slot g := by
  obtain ⟨e, own, near⟩ := apart.ends w.endpoint?_near
  obtain ⟨g, there, far⟩ := apart.ends h.there
  have eq : w'.near = e := Option.some.inj own
  refine ⟨g, apart.aside h.aside live, ?_, ?_, there, h.answers.keeps far, ?_, ?_⟩
  · rw [eq, near.request name rfl]
    exact h.request
  · rw [eq]
    exact near.holds h.holds
  · rw [far.application]
    exact h.yields
  · rw [apart.flow, apart.flow]
    exact h.stage

/-- A step of the world leads from one stage to another. -/
theorem Passes.turn (h : Passes o name got ended w i s far slot f) (valid : o.Valid)
    (odd : o.id.toNat % 2 = 1) (live : w.Live) (turn : Turn o.id name (between none slot) w w') :
    ∃ s far slot f, Passes o name got ended w' i s far slot f := by
  cases turn with
  | apart apart =>
    obtain ⟨g, passes⟩ := h.apart live apart
    exact ⟨s, far, slot, g, passes⟩
  | @reads _ here e frame found found' other named first writes =>
    cases here with
    | near =>
      cases found
      have stage := h.stage
      rw [show w.flow .far o.id = frame :: w'.flow .far o.id from first] at stage
      obtain ⟨goes, t, takes, next⟩ := stage.arrive valid
      have accepts := (h.aside.healthy w.endpoint?_near).accepts
      have leads := Endpoint.handle_leads (e := w.present) h.holds valid.nonzero goes accepts
        next.id takes
      have consumes : w.present.Consumes o i (w.flow .near o.id) (w'.flow .far o.id) got ended far
          (w.present.handle frame) :=
        ⟨t, [], leads, by simp, by rw [List.append_nil]; exact next⟩
      obtain ⟨s, passes⟩ :=
        h.consumes valid found' other writes (consumes.of_still h.holds w.present_still)
      exact ⟨s, far, slot, f, passes⟩
    | far =>
      have same : e = f := Option.some.inj (found.symm.trans h.there)
      subst same
      have stage := h.stage
      rw [show w.flow .near o.id = frame :: w'.flow .near o.id from first] at stage
      have healthy := h.aside.healthy h.there
      have still : e.Still { e with clock := w.clock } := ⟨rfl, rfl, rfl, rfl, rfl⟩
      have serves := Endpoint.handle_serves (e := { e with clock := w.clock }) valid healthy.role
        odd healthy.accepts h.yields (h.answers.of_still still) stage
      obtain ⟨far, slot, passes⟩ := h.serves valid found' other writes (serves.of_still still)
      exact ⟨s, far, slot, _, passes⟩
  | works here k mine =>
    -- The near end only takes.
    obtain rfl : here = .far := by
      cases here with
      | near => contradiction
      | far => rfl
    obtain rfl : slot = some k := mine
    have becomes : w.Becomes .far _ _ _ (w.stepTask .far (.work k)).1 :=
      becomes_of_set (by rw [stepTask, h.there])
    have still : f.Still { f with clock := w.clock } := ⟨rfl, rfl, rfl, rfl, rfl⟩
    have up : (w.stepTask .far (.work k)).1.flow .near o.id = w.flow .near o.id :=
      flow_same becomes.other becomes.theirs
    have active := live.active h.there
    have accepts := (h.aside.healthy h.there).accepts
    have serves := Endpoint.stepWork_serves (e := { f with clock := w.clock }) valid active accepts
      (h.answers.of_still still) h.stage
    rw [← up] at serves
    obtain ⟨far, slot, passes⟩ := h.serves valid becomes.own becomes.other becomes.mine
      (serves.of_still still)
    exact ⟨s, far, slot, _, passes⟩

/-- The application of the near end asks for items. -/
theorem Passes.polls (h : Passes o name got ended w i s far slot f) (valid : o.Valid)
    (limit : Nat) {reply : Reply}
    (answered : w.act .near (·.perform (.poll name limit)) = (some reply, w')) :
    ∃ s, Passes o name (got ++ reply.taken) (ended || reply.isEnd) w' i s far slot f := by
  have accepts := (h.aside.healthy w.endpoint?_near).accepts
  have opened : w.present.request? name = some (.opened i) := h.request
  have consumes := Endpoint.takeItems_consumes valid limit opened accepts h.holds h.stage
  obtain ⟨taken, ends, becomes⟩ := polls_opened h.request answered
  have down : w'.flow .far o.id = w.flow .far o.id := flow_same becomes.other becomes.theirs
  rw [← taken, ← ends, ← down] at consumes
  exact h.consumes valid becomes.own becomes.other becomes.mine
    (consumes.of_still h.holds w.present_still)

/-! ### A stream that is asked for -/

/-- The stream is opened: its request is on the way. -/
theorem Untouched.passes (h : w.Untouched o.id name a config) (valid : o.Valid)
    (yields : (a.onStream o.request).Yields o.payloads o.failure)
    (made : w.present.open (.stream o.request) o.batch = (.ok i, e))
    (own : w.near.connection.spent e.connection = [o.id]) :
    ∃ s f, Passes o name [] false (w.opening name i e) i s .unasked none f := by
  obtain ⟨_, own', spends, nonzero, low, _, opens⟩ := Endpoint.open_stream made
  have spends : w.near.connection.spent e.connection = [own'] := spends
  obtain rfl : o.id = own' := by
    rw [own, List.cons.injEq] at spends
    exact spends.1
  have accepts := (h.aside.healthy w.endpoint?_near).accepts
  have lacks : w.near.connection.Lacks o.id := h.lacks w.endpoint?_near
  obtain ⟨slot, opened⟩ := h.opened low (opens lacks accepts)
  obtain rfl : slot = none := by
    cases opened.runs
    rfl
  obtain ⟨f, there, application, _⟩ := h.there
  have up := opened.up
  rw [List.filterMap_cons, landed_requestStream valid.stream valid.bound valid.request] at up
  refine ⟨.requesterStream o.batch o.id, f, opened.aside, opened.request, opened.holds, there,
    .unasked (h.lacks there), by rw [application]; exact yields, ?_⟩
  have consumer : (Exchange.requesterStream o.batch o.id).consumer = some { batch := o.batch } := by
    rw [Exchange.requesterStream, Order.max_one valid.positive]
  rw [up, opened.down]
  exact .asked ⟨rfl, rfl, rfl, rfl, rfl, rfl, consumer⟩ rfl rfl rfl rfl

/-- The stream under an id passes between the ends. -/
def Streams (name : String) (payloads : List Payload) (failure : Option Failure) (id : UInt32)
    (got : List Item) (ended : Bool) (w : World) : Prop :=
  ∃ o : Order, o.id = id ∧ o.payloads = payloads ∧ o.failure = failure ∧ o.Valid ∧
    id.toNat % 2 = 1 ∧ ∃ i s far slot f, Passes o name got ended w i s far slot f

/-- Whatever happens, a stream that was opened passes between the ends. -/
theorem streams_upheld {payload : Payload} {payloads : List Payload} {failure : Option Failure}
    (fits : payload.Fits) (fitting : ∀ payload ∈ payloads, payload.Fits)
    (yields : (a.onStream payload).Yields payloads failure) (name : String) :
    Upheld name (.stream payload) a config (Streams name payloads failure) where
  opens {id batch i w e} positive bound low nonzero odd untouched made own := by
    let o : Order := { id, batch, request := payload, payloads, failure }
    have valid : o.Valid :=
      { stream := (isStreamId_iff id).mpr ⟨low, by rw [low]; exact nonzero⟩
        positive := UInt32.lt_iff_toNat_lt.mp positive
        bound, request := fits, payloads := fitting }
    have opens : w.Untouched o.id name a config := untouched
    obtain ⟨s, f, passes⟩ := opens.passes valid yields made own
    exact ⟨o, rfl, rfl, rfl, valid, odd, i, s, _, _, f, passes⟩
  steps {id got ended w w'} before next live live' fresh := by
    obtain ⟨o, rfl, payloads, failure, valid, odd, i, s, far, slot, f, passes⟩ := before
    have wire := ((isStreamId_iff o.id).mp valid.stream).1
    have turn := next.turn passes.aside wire valid.nonzero live live' fresh
    obtain ⟨s, far, slot, f, passes⟩ := passes.turn valid odd live turn
    exact ⟨o, rfl, payloads, failure, valid, odd, i, s, far, slot, f, passes⟩
  polls {id got ended w w' limit reply} before answered := by
    obtain ⟨o, rfl, payloads, failure, valid, odd, i, s, far, slot, f, passes⟩ := before
    obtain ⟨s, passes⟩ := passes.polls valid limit answered
    exact ⟨o, rfl, payloads, failure, valid, odd, i, s, far, slot, f, passes⟩
  requested {id got ended w} before := by
    obtain ⟨o, rfl, _, _, _, _, i, s, far, slot, f, passes⟩ := before
    rw [passes.request]
    simp

end World
end StreamMux
