import StreamMux.Proofs.Exchange.Effect

/-!
# A move stays on its stream

Whatever state a stream is in, and whether the move fits it or not, the id stays and the frames
that are written bear it. Nothing else is needed to tell the streams of a connection apart.
-/
namespace StreamMux.Exchange

theorem id_deposit (s : Exchange) (item : Item) : (s.deposit item).id = s.id := by
  obtain ⟨inbox, eq⟩ := s.deposit_eq item
  rw [eq]

theorem id_settle (s : Exchange) (result : Item) : (s.settle result).id = s.id := by
  obtain ⟨answer, eq⟩ := s.settle_eq result
  rw [eq]

theorem id_failInbox (s : Exchange) (f : Failure) : (s.failInbox f).id = s.id := by
  obtain ⟨inbox, eq⟩ := s.failInbox_eq f
  rw [eq]

theorem id_fail (s : Exchange) (cause : Failure) : (s.fail cause).id = s.id := by
  obtain ⟨inbox, answer, eq⟩ := s.fail_eq cause
  rw [eq]

theorem id_streamFrame (id : UInt32) (f : Failure) : (f.streamFrame id).id = id := rfl

/-! ### The consumer -/

theorem cancelLocally_own (s : Exchange) (sides : Directions) :
    (s.cancelLocally sides).1.id = s.id ∧ ∀ f ∈ (s.cancelLocally sides).2, f.id = s.id := by
  rw [cancelLocally_eq]
  refine ⟨rfl, fun f hf => ?_⟩
  dsimp only at hf
  split at hf
  · rw [List.mem_singleton.mp hf]
    rfl
  · simp at hf

theorem dropConsumer_own (s : Exchange) :
    s.dropConsumer.1.id = s.id ∧ ∀ f ∈ s.dropConsumer.2, f.id = s.id := by
  unfold dropConsumer
  split
  · simp
  · dsimp only
    split
    · simp
    · split
      · exact cancelLocally_own _ _
      · exact cancelLocally_own _ _

theorem poll_own (s : Exchange) : s.poll.2.1.id = s.id ∧ ∀ f ∈ s.poll.2.2, f.id = s.id := by
  unfold poll
  repeat' split
  all_goals simp [Frame.id]

theorem abandon_own (s : Exchange) : s.abandon.1.id = s.id ∧ ∀ f ∈ s.abandon.2, f.id = s.id := by
  unfold abandon
  dsimp only
  split
  · simp [close]
  · simp [close, Frame.id]

/-! ### The peer -/

theorem deliver_own (s : Exchange) (uptake : Uptake) (payload : Payload) :
    (s.deliver uptake payload).stream.id = s.id ∧
      ∀ f ∈ (s.deliver uptake payload).frames, f.id = s.id := by
  unfold deliver
  split
  · simp [close, id_settle]
  · simp [id_deposit]
  · simp [id_deposit]
  · split
    · split
      · simp [id_deposit]
      · simp
    · dsimp only
      split
      · simp [close]
      · split
        · simp
        · exact dropConsumer_own _
      · simp [close]

theorem id_completeInbound (s : Exchange) : s.completeInbound.id = s.id := by
  unfold completeInbound
  split
  · simp [close, id_settle]
  · rfl
  · rfl
  · rfl
  · rfl

theorem receive_own (s : Exchange) (uptake : Uptake) (f : PayloadFrame) :
    (s.receive uptake f).stream.id = s.id ∧ ∀ g ∈ (s.receive uptake f).frames, g.id = s.id := by
  unfold receive
  split
  · simp
  · have whole (payload : Payload) :
        let r : Reception := if s.carriesPayload f
          then { s with fragments := none }.deliver uptake payload else { stream := s }
        r.stream.id = s.id ∧ ∀ g ∈ r.frames, g.id = s.id := by
      dsimp only
      split
      · exact deliver_own _ _ _
      · simp
    dsimp only
    split
    · simp
    · split
      · exact ⟨(id_completeInbound _).trans (whole _).1, (whole _).2⟩
      · exact whole _

theorem id_cancelByPeer (s : Exchange) : s.cancelByPeer.id = s.id := by
  unfold cancelByPeer
  split
  · rfl
  · rfl
  · rfl
  · rw [id_failInbox]
    rfl

theorem id_grant (s : Exchange) (n : Nat) : (s.grant n).id = s.id := by
  unfold grant
  split <;> rfl

/-! ### This end -/

theorem offer_own (s : Exchange) (payload : Payload) :
    (s.offer payload).2.1.id = s.id ∧ ∀ f ∈ (s.offer payload).2.2, f.id = s.id := by
  unfold offer
  split
  · simp
  · simp
  · dsimp only
    split
    · simp
    · simp [Frame.id, PayloadFrame.item]

theorem complete_own (s : Exchange) :
    s.complete.1.id = s.id ∧ ∀ f ∈ s.complete.2, f.id = s.id := by
  unfold complete
  dsimp only
  split
  · simp [close]
  · simp [close, Frame.id, PayloadFrame.completion]

theorem failLocally_own (s : Exchange) (f : Failure) :
    (s.failLocally f).1.id = s.id ∧ ∀ g ∈ (s.failLocally f).2, g.id = s.id := by
  unfold failLocally
  dsimp only
  rw [id_failInbox]
  split
  · simp [close, stop]
  · simp [close, stop, id_streamFrame]

theorem respond_own (s : Exchange) (result : Item) :
    (s.respond result).1.id = s.id ∧ ∀ f ∈ (s.respond result).2, f.id = s.id := by
  unfold respond
  dsimp only
  split
  · simp [close]
  · cases result with
    | ok payload => simp [close, Frame.id, PayloadFrame.lastItem]
    | error f => simp [close, id_streamFrame]

theorem openChannel_own (s : Exchange) (initial : UInt32) (first : Payload) :
    (s.openChannel initial first).2.1.id = s.id ∧
      ∀ f ∈ (s.openChannel initial first).2.2, f.id = s.id := by
  unfold openChannel
  split
  · simp
  · simp [Frame.id, PayloadFrame.requestChannel]

theorem openSilentChannel_own (s : Exchange) (initial : UInt32) :
    (s.openSilentChannel initial).1.id = s.id ∧
      ∀ f ∈ (s.openSilentChannel initial).2, f.id = s.id := by
  unfold openSilentChannel
  split
  · simp
  · simp [close, Frame.id, PayloadFrame.requestChannel]

/-- Every move stays on its stream. -/
theorem Move.own (m : Move) (s : Exchange) :
    (m.apply s).1.id = s.id ∧ ∀ f ∈ (m.apply s).2, f.id = s.id := by
  cases m with
  | poll => exact poll_own s
  | dropConsumer => exact dropConsumer_own s
  | abandon => exact abandon_own s
  | receive uptake frame => exact receive_own s uptake frame
  | grant n => exact ⟨id_grant s n, by simp [apply]⟩
  | cancelByPeer => exact ⟨id_cancelByPeer s, by simp [apply]⟩
  | fail cause => exact ⟨id_fail s cause, by simp [apply]⟩
  | offer payload => exact offer_own s payload
  | complete => exact complete_own s
  | failLocally f => exact failLocally_own s f
  | respond result => exact respond_own s result
  | openChannel initial first => exact openChannel_own s initial first
  | openSilentChannel initial => exact openSilentChannel_own s initial
  | failUnopened f => exact ⟨(id_failInbox _ f).trans rfl, by simp [apply]⟩

end StreamMux.Exchange
