import StreamMux.Proofs.Exchange.Ending
import StreamMux.Proofs.Exchange.Fragments

/-!
# The one answer of a request-response

What the peer sends decides how the call stands (`Outlook`): it waits, possibly with the beginning
of a payload, until a payload is whole, the peer completes without one, or the stream fails. The
stream of a call that waits keeps to that in every move (`Stands.move`): a frame of the peer may
decide (`Stands.receive`), a failure does (`Stands.fail`), and the caller may go away
(`Stands.abandon`). Nothing moves a stream of which the call is decided (`Move.settled`).

Source: `Exchange.receive`, `Exchange.deliver`, `Exchange.completeInbound`, `Exchange.settle`,
`Exchange.abandon`.
-/
namespace StreamMux

/-- How a call stands that asked for one answer. -/
inductive Outlook where
  /-- It waits. These parts have come of a payload of which more comes. -/
  | waits (parts : List Payload)
  /-- It has its answer. -/
  | answered (result : Item)
  /-- The caller went away while it waited. -/
  | abandoned

/-- What a PAYLOAD frame of the peer makes of a call that waits. -/
def PayloadFrame.outlook (f : PayloadFrame) (parts : List Payload) : Outlook :=
  if f.next || !parts.isEmpty then
    if f.isPart then .waits (parts ++ [f.payload])
    else .answered (.ok (.concat (parts ++ [f.payload])))
  else if f.complete then .answered (.ok Payload.empty)
  else .waits parts

/-- What a move of its stream makes of a call that waits. -/
def Exchange.Move.outlook (parts : List Payload) : Exchange.Move → Outlook
  | .receive _ f => f.outlook parts
  | .fail cause => .answered (.error cause)
  | .abandon => .abandoned
  | _ => .waits parts

/-- What the peer was told of a call under an id. -/
def Outlook.cancels (id : UInt32) : Outlook → List Frame
  | .abandoned => [.cancel id]
  | _ => []

/-- A frame of the peer does not make the caller go away. -/
theorem PayloadFrame.cancels_outlook (f : PayloadFrame) {parts : List Payload} {id : UInt32} :
    (f.outlook parts).cancels id = [] := by
  unfold outlook
  repeat' split
  all_goals rfl

namespace Exchange

variable {s : Exchange} {f : PayloadFrame} {parts : List Payload} {result : Item} {o : Outlook}

/-- The stream of a call that waits. -/
structure Waits (s : Exchange) (parts : List Payload) : Prop where
  closed : s.closed = Directions.outboundOnly
  answer : s.answer = .awaited
  fragments : s.fragments = if parts.isEmpty then none else some (.concat parts)

/-- What the stream of a call knows of how the call stands. -/
def Stands (s : Exchange) : Outlook → Prop
  | .waits parts => s.Waits parts
  | .answered result => s.isOver = true ∧ s.answer = .given result
  | .abandoned => s.isOver = true

namespace Waits

theorem isOpen (h : s.Waits parts) : s.closed.inbound = false := by rw [h.closed]; rfl

theorem goes (h : s.Waits parts) : s.isOver = false := by simp [isOver, h.isOpen]

/-- What a frame adds to goes behind what has come. -/
theorem gathered (h : s.Waits parts) (f : PayloadFrame) :
    s.gathered f = .concat (parts ++ [f.payload]) := by
  rw [Exchange.gathered, h.fragments]
  cases parts with
  | nil => exact (Payload.concat_singleton _).symm
  | cons first parts => exact (Payload.concat_snoc _ _).symm

/-- A PAYLOAD frame carries an item, or continues what has come. -/
theorem carries (h : s.Waits parts) (inner : f.type.opensStream = false) :
    s.carriesPayload f = (f.next || !parts.isEmpty) := by
  rw [carriesPayload, inner, h.fragments, Bool.or_false]
  cases parts <;> rfl

end Waits

/-! ### Moves that decide -/

/-- The first result decides. -/
theorem Waits.settle (closed : s.closed = Directions.outboundOnly) (answer : s.answer = .awaited)
    (result : Item) :
    ((s.settle result).close Directions.inboundOnly).Stands (.answered result) := by
  simp [Stands, Exchange.settle, answer, close, closed, isOver]

/-- Completion after that changes nothing. -/
theorem Stands.complete (kind : s.kind = .requesterResponse) (h : s.Stands (.answered result)) :
    s.completeInbound.Stands (.answered result) := by
  obtain ⟨finished, given⟩ := h
  rw [completeInbound, kind]
  dsimp only
  rw [settle_given given]
  exact ⟨(close_extends s _).isOver finished, given⟩

/-- A frame that carries nothing can only say that nothing comes. -/
theorem receive_bare (uptake : Uptake) (isOpen : s.closed.inbound = false)
    (bare : s.carriesPayload f = false) :
    s.receive uptake f = { stream := if f.complete then s.completeInbound else s } := by
  unfold receive
  simp only [isOpen, bare, Bool.false_and, Bool.false_eq_true, if_false]
  split <;> rfl

/-- A PAYLOAD frame of the peer makes of the stream what it makes of the call. -/
theorem Stands.receive (kind : s.kind = .requesterResponse) (h : s.Stands (.waits parts))
    (uptake : Uptake) (inner : f.type.opensStream = false) :
    (s.receive uptake f).frames = [] ∧ (s.receive uptake f).stream.Stands (f.outlook parts) := by
  have waits : s.Waits parts := h
  have carries := waits.carries inner
  unfold PayloadFrame.outlook
  rw [← carries]
  cases carried : s.carriesPayload f with
  | true =>
    rw [if_pos rfl]
    cases more : f.isPart with
    | true =>
      rw [receive_part uptake waits.isOpen carried more, waits.gathered, if_pos rfl]
      exact ⟨rfl, waits.closed, waits.answer, by simp⟩
    | false =>
      have delivered : { s with fragments := none }.deliver uptake (s.gathered f) =
          { stream := ({ s with fragments := none }.settle (.ok (s.gathered f))).close
              Directions.inboundOnly } := by
        unfold deliver
        dsimp only
        rw [kind]
      have decided := Waits.settle (s := { s with fragments := none }) waits.closed waits.answer
        (.ok (s.gathered f))
      obtain ⟨answer, same⟩ := { s with fragments := none }.settle_eq (.ok (s.gathered f))
      rw [receive_rest uptake waits.isOpen carried more, delivered, if_neg Bool.false_ne_true,
        ← waits.gathered]
      dsimp only
      split
      · refine ⟨rfl, Stands.complete ?_ decided⟩
        rw [same]
        exact kind
      · exact ⟨rfl, decided⟩
  | false =>
    rw [receive_bare uptake waits.isOpen carried, if_neg Bool.false_ne_true]
    refine ⟨rfl, ?_⟩
    dsimp only
    split
    · rw [completeInbound, kind]
      exact Waits.settle waits.closed waits.answer _
    · exact waits

/-- What fails decides with the cause. -/
theorem Stands.fail (h : s.Stands (.waits parts)) (cause : Failure) :
    (s.fail cause).Stands (.answered (.error cause)) := by
  obtain ⟨inbox, answer, eq⟩ := s.fail_eq cause
  have given := fail_answer h.answer cause
  refine ⟨isOver_of_closed ?_, given⟩
  rw [eq]

/-- The caller goes away: the peer is told. -/
theorem Stands.abandon (h : s.Stands (.waits parts)) :
    s.abandon.1.Stands .abandoned ∧ s.abandon.2 = [.cancel s.id] := by
  refine ⟨isOver_of_closed (Directions.union_both _), ?_⟩
  rw [Exchange.abandon, h.isOpen]
  rfl

/-- What a move makes of the call it makes of the stream. -/
theorem Stands.move {m : Move} (h : s.Coherent) (kind : s.kind = .requesterResponse)
    (fits : m.Fits s) (inner : ∀ uptake f, m = .receive uptake f → f.type.opensStream = false)
    (waits : s.Stands (.waits parts)) :
    (m.apply s).1.Stands (m.outlook parts) ∧ (m.apply s).2 = (m.outlook parts).cancels s.id := by
  have gone : s.consumer = none := h.consumer_none (by rw [kind]; rfl)
  have noCredit (sends : s.Sends) : False := by
    simp [Sends, kind, StreamKind.needsCredit] at sends
  have opened (unopened : s.Unopened) : False := by simp [Unopened, kind] at unopened
  -- The other moves leave the stream as it is, or do not fit one of this kind.
  have idle {m : Move} (still : m.apply s = (s, [])) (same : m.outlook parts = .waits parts) :
      (m.apply s).1.Stands (m.outlook parts) ∧
        (m.apply s).2 = (m.outlook parts).cancels s.id := by
    rw [still, same]
    exact ⟨waits, rfl⟩
  cases m with
  | poll => exact idle (by simp [Move.apply, Exchange.poll, gone]) rfl
  | dropConsumer => exact idle (by simp [Move.apply, Exchange.dropConsumer, gone]) rfl
  | abandon => exact Stands.abandon waits
  | receive uptake f =>
    obtain ⟨silent, stands⟩ := Stands.receive kind waits uptake (inner uptake f rfl)
    exact ⟨stands, silent.trans f.cancels_outlook.symm⟩
  | grant n => exact idle (by simp [Move.apply, Exchange.grant, kind, StreamKind.needsCredit]) rfl
  | cancelByPeer => exact idle (by simp [Move.apply, Exchange.cancelByPeer, kind]) rfl
  | fail cause => exact ⟨Stands.fail waits cause, rfl⟩
  | offer payload => exact (noCredit fits).elim
  | complete => exact (noCredit fits).elim
  | failLocally f => exact (noCredit fits).elim
  | respond result => simp [Move.Fits, kind] at fits
  | openChannel initial first => exact (opened fits.1).elim
  | openSilentChannel initial => exact (opened fits.1).elim
  | failUnopened f => exact (opened fits).elim

/-! ### After the decision -/

/-- A caller that goes away then changes nothing, and the peer is not told. -/
theorem abandon_over (finished : s.isOver = true) : s.abandon = (s, []) := by
  obtain ⟨inbound, outbound⟩ := (isOver_iff s).mp finished
  have both : s.closed = Directions.both := by
    cases closed : s.closed
    simp_all [Directions.both]
  rw [Exchange.abandon, close, inbound, both, Directions.union_both, ← both]
  rfl

/-- On a stream that is over nothing is written, and nothing is decided again. -/
theorem Move.settled {m : Move} (h : s.Coherent) (fits : m.Fits s)
    (kind : s.kind = .requesterResponse) (finished : s.isOver = true) :
    (m.apply s).1.isOver = true ∧ (m.apply s).2 = [] := by
  have effect := m.effect h fits
  have gone : s.consumer = none := h.consumer_none (by rw [kind]; rfl)
  obtain ⟨inbound, outbound⟩ := (isOver_iff s).mp finished
  have writes := effect.writes
  refine ⟨effect.toExtends.isOver finished, ?_⟩
  generalize (m.apply s).2 = frames at writes
  cases writes <;> simp_all

end Exchange
end StreamMux
