import StreamMux.Exchange.Inbound
import StreamMux.Proofs.Stream.Splitting

/-!
# A payload in fragments

The first fragment of a payload and those in the middle are only kept; the last one does what a
single frame with the whole payload would have done (`receive_last`).

Source: `Exchange.receive`, `Exchange.carriesPayload`, `Payload.append`.
-/
namespace StreamMux

/-! ### Payloads one behind the other -/

theorem joined_snoc (pieces : List ByteArray) (piece : ByteArray) :
    joined (pieces ++ [piece]) = joined pieces ++ piece := by
  induction pieces with
  | nil => exact ByteArray.append_empty.trans ByteArray.empty_append.symm
  | cons first pieces ih => rw [List.cons_append, joined, joined, ih, ByteArray.append_assoc]

namespace Payload

/-- The data of all payloads, and the metadata of those that have some. If none has, there is none.
-/
def concat (payloads : List Payload) : Payload where
  data := joined (payloads.map (·.data))
  metadata :=
    if payloads.all (·.metadata.isNone) then none
    else some (joined (payloads.filterMap (·.metadata)))

theorem concat_singleton (p : Payload) : concat [p] = p := by
  obtain ⟨data, metadata⟩ := p
  cases metadata <;> simp [concat, joined]

theorem concat_snoc (payloads : List Payload) (p : Payload) :
    concat (payloads ++ [p]) = (concat payloads).append p := by
  have data : (concat (payloads ++ [p])).data = ((concat payloads).append p).data := by
    rw [concat, List.map_append]
    exact joined_snoc _ _
  have metadata : (concat (payloads ++ [p])).metadata = ((concat payloads).append p).metadata := by
    simp only [concat, append, List.all_append, List.all_cons, List.all_nil, Bool.and_true,
      List.filterMap_append]
    cases none : payloads.all (·.metadata.isNone) with
    | true =>
      have nothing : payloads.filterMap (·.metadata) = [] := by simpa using none
      cases last : p.metadata <;> simp [last, nothing, joined]
    | false => cases last : p.metadata <;> simp [last, joined_snoc]
  exact congrArg₂ Payload.mk data metadata

end Payload

namespace PayloadFrame

/-- More of the payload comes. -/
def isPart (f : PayloadFrame) : Bool := f.follows && !f.complete

/-- The frame with the payload of all fragments, which ends its direction if the last one does. -/
def whole (first : PayloadFrame) (middle : List PayloadFrame) (last : PayloadFrame) :
    PayloadFrame :=
  { first with
    follows := false
    complete := last.complete
    payload := .concat ((first :: middle ++ [last]).map (·.payload)) }

end PayloadFrame

namespace Exchange

variable {s : Exchange} (uptake : Uptake) {f : PayloadFrame}

/-- What has begun of a payload, and what a frame adds to it. -/
def gathered (s : Exchange) (f : PayloadFrame) : Payload :=
  match s.fragments with
  | none => f.payload
  | some begun => begun.append f.payload

/-- What carries a payload of which more comes is kept. -/
theorem receive_part (isOpen : s.closed.inbound = false) (carries : s.carriesPayload f = true)
    (more : f.isPart = true) :
    s.receive uptake f = { stream := { s with fragments := some (s.gathered f) } } := by
  have kept : (s.carriesPayload f && f.follows && !f.complete) = true := by
    rw [Bool.and_assoc, carries]
    exact more
  unfold receive
  dsimp only
  rw [if_neg (Bool.eq_false_iff.mp isOpen), if_pos kept]
  rfl

/-- What carries the rest of a payload delivers it. -/
theorem receive_rest (isOpen : s.closed.inbound = false) (carries : s.carriesPayload f = true)
    (ends : f.isPart = false) :
    s.receive uptake f =
      let r := { s with fragments := none }.deliver uptake (s.gathered f)
      if f.complete then { r with stream := r.stream.completeInbound } else r := by
  have ready : ¬ (s.carriesPayload f && f.follows && !f.complete) = true := by
    rw [Bool.and_assoc, carries, Bool.true_and]
    exact Bool.eq_false_iff.mp ends
  unfold receive
  dsimp only
  rw [if_neg (Bool.eq_false_iff.mp isOpen), if_neg ready, if_pos carries]
  rfl

/-- The last fragment delivers what a frame with the whole payload would have delivered. -/
theorem receive_last {whole last : PayloadFrame} {got : Payload} (isOpen : s.closed.inbound = false)
    (idle : s.fragments = none) (carries : s.carriesPayload whole = true)
    (single : whole.isPart = false) (ends : last.isPart = false)
    (complete : whole.complete = last.complete)
    (payload : whole.payload = got.append last.payload) :
    ({ s with fragments := some got }).receive uptake last = s.receive uptake whole := by
  have continues : ({ s with fragments := some got }).carriesPayload last = true := by
    simp [carriesPayload]
  have same : s.gathered whole = ({ s with fragments := some got }).gathered last := by
    rw [gathered, idle]
    exact payload
  rw [receive_rest uptake (s := { s with fragments := some got }) isOpen continues ends,
    receive_rest uptake isOpen carries single, complete, same]

end Exchange
end StreamMux
