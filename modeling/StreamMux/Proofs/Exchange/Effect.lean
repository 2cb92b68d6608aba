import StreamMux.Proofs.Exchange.Move

/-!
# What each move does

One theorem for each step of a stream, and `Move.effect`, which sums them up. Nothing beyond this
module unfolds the steps of a stream to learn what they write or close.
-/
namespace StreamMux.Exchange

theorem fail_effect {s : Exchange} (h : s.Coherent) (cause : Failure) :
    s.Effect (s.fail cause) [] := by
  obtain ⟨inbox, answer, hs⟩ := s.fail_eq cause
  rw [hs]
  exact Ends.effect h ⟨rfl, rfl, rfl, rfl, rfl, fun _ => rfl, rfl, rfl⟩ .nothing

theorem failUnopened_effect {s : Exchange} (h : s.Coherent) (f : Failure) :
    s.Effect (s.failUnopened f) [] := by
  obtain ⟨inbox, hs⟩ := s.failUnopened_eq f
  rw [hs]
  exact Ends.effect h ⟨rfl, rfl, rfl, rfl, rfl, fun hs => hs, rfl, rfl⟩ .nothing

theorem poll_effect {s : Exchange} (h : s.Coherent) : s.Effect s.poll.2.1 s.poll.2.2 := by
  unfold poll
  split
  · exact .stay h
  next consumer hc =>
    have waits : s.consumer ≠ none := by simp [hc]
    split
    · exact .stay h
    · split
      · exact Stays.effect h (.takes (fun _ => waits) _) .nothing
      · exact Stays.effect h (.takes (fun _ => waits) _) .nothing
      · split
        · exact Stays.effect h (.takes (fun _ => waits) _) .nothing
        next isOpen =>
          have isOpen : s.inboxOpen = true := by simpa using isOpen
          split
          · exact Stays.effect h (.takes (fun _ => waits) _)
              (.requestN _ waits isOpen)
          · split
            · exact Stays.effect h (.takes (fun _ => waits) _)
                (.requestN _ waits isOpen)
            · exact .stay h

theorem cancelLocally_eq (s : Exchange) (sides : Directions) :
    s.cancelLocally sides =
      ({ s with
          closed := s.closed.union sides, stopped := s.stopped || sides.outbound
          limiter := if sides.outbound then s.limiter.cancel else s.limiter },
        if s.initiated && sides.inbound && !s.closed.inbound then [.cancel s.id] else []) := by
  unfold cancelLocally
  cases ho : sides.outbound <;> simp [close, stop]

/-- The consumer goes, and with it the directions in `sides`. -/
theorem cancelLocally_effect {s : Exchange} (h : s.Coherent) (takes : s.kind.hasConsumer = true)
    (sides : Directions) (inbound : sides.inbound = true)
    (both : s.kind.isRequester = true → sides.outbound = true) :
    s.Effect ({ s with consumer := none }.cancelLocally sides).1
      ({ s with consumer := none }.cancelLocally sides).2 := by
  rw [cancelLocally_eq]
  have closed : (s.closed.union sides).inbound = true := by simp [inbound]
  refine
    { id := rfl
      kind := rfl
      inbound := fun _ => closed
      outbound := fun hs => by simp [hs]
      started := fun hs => hs
      initiated := fun hs => hs
      stopped := fun hs => by simp [hs]
      inbox := fun hs => hs
      consumer := fun _ _ => rfl
      coherent :=
        { inbox := fun _ hc => absurd rfl hc
          consumer := fun hc => absurd rfl hc
          initiated := h.initiated
          unopened := fun _ _ => .inr closed }
      writes := ?_
      opens := .inl rfl }
  dsimp only
  by_cases told : (s.initiated && sides.inbound && !s.closed.inbound) = true
  · rw [if_pos told]
    simp only [Bool.and_eq_true, Bool.not_eq_true'] at told
    refine .cancel (.inl takes) told.1.1 told.2 closed rfl fun requester => ?_
    simp [isOver, inbound, both requester]
  · rw [if_neg told]
    exact .nothing

theorem dropConsumer_effect {s : Exchange} (h : s.Coherent) :
    s.Effect s.dropConsumer.1 s.dropConsumer.2 := by
  unfold dropConsumer
  split
  · exact .stay h
  next consumer hc =>
    have takes : s.kind.hasConsumer = true := h.consumer (by simp [hc])
    dsimp only
    split
    · exact Stays.effect h (.takes (fun hc => absurd rfl hc) _) .nothing
    · split
      · exact cancelLocally_effect h takes _ rfl fun _ => rfl
      next notRequester => exact cancelLocally_effect h takes _ rfl fun hr => absurd hr notRequester

theorem abandon_effect {s : Exchange} (h : s.Coherent) (kind : s.kind = .requesterResponse) :
    s.Effect s.abandon.1 s.abandon.2 := by
  have gone : s.consumer = none := by
    cases hc : s.consumer with
    | none => rfl
    | some _ => simpa [kind, StreamKind.hasConsumer] using h.consumer (by simp [hc])
  refine
    { id := rfl
      kind := rfl
      inbound := fun _ => by simp [abandon, close]
      outbound := fun _ => by simp [abandon, close]
      started := fun hs => hs
      initiated := fun hs => hs
      stopped := fun hs => hs
      inbox := fun hs => hs
      consumer := fun _ hc => hc
      coherent :=
        { inbox := fun _ hc => absurd gone hc
          consumer := h.consumer
          initiated := h.initiated
          unopened := fun _ _ => .inr (by simp [abandon, close]) }
      writes := ?_
      opens := .inl rfl }
  unfold abandon
  dsimp only
  split
  · exact .nothing
  next isOpen =>
    exact .cancel (.inr kind) (h.initiated (by simp [kind])) (by simpa using isOpen)
      (by simp [close]) gone fun _ => isOver_of_closed (Directions.union_both _)

/-- The end of what this end sends. -/
theorem closeOutbound_effect {s : Exchange} {frames : List Frame} (h : s.Coherent)
    (known : s.initiated = true) (writes : s.Writes (s.close Directions.outboundOnly) frames) :
    s.Effect (s.close Directions.outboundOnly) frames where
  toExtends := close_extends s _
  coherent :=
    { inbox := fun ho hc => by simpa [close] using h.inbox ho hc
      consumer := h.consumer
      initiated := h.initiated
      unopened := fun hi _ => by simp [close, known] at hi }
  writes := writes
  opens := .inl rfl

theorem complete_effect {s : Exchange} (h : s.Coherent) (sends : s.Sends) :
    s.Effect s.complete.1 s.complete.2 := by
  refine closeOutbound_effect h sends.2 ?_
  unfold complete
  dsimp only
  split
  · exact .nothing
  next isOpen =>
    exact .completion sends (by simpa using isOpen)
      (by simp [close])

theorem respond_effect {s : Exchange} (h : s.Coherent) (kind : s.kind = .responderResponse)
    (result : Item) : s.Effect (s.respond result).1 (s.respond result).2 := by
  refine closeOutbound_effect h (h.initiated (by simp [kind])) ?_
  unfold respond
  dsimp only
  split
  · exact .nothing
  next isOpen =>
    have isOpen : s.closed.outbound = false := by simpa using isOpen
    have closed : (s.close Directions.outboundOnly).closed.outbound = true := by
      simp [close]
    cases result with
    | ok payload => exact .answer payload kind isOpen closed
    | error f => exact .refusal f kind isOpen closed

theorem failLocally_effect {s : Exchange} (h : s.Coherent) (sends : s.Sends) (f : Failure) :
    s.Effect (s.failLocally f).1 (s.failLocally f).2 := by
  obtain ⟨inbox, hs⟩ := s.failLocally_eq f
  rw [hs]
  refine Ends.effect h ⟨rfl, rfl, rfl, rfl, rfl, fun _ => rfl, rfl, rfl⟩ ?_
  dsimp only
  split
  · exact .nothing
  next isOpen =>
    exact .failure f sends (by simpa using isOpen) (isOver_of_closed rfl) rfl

theorem offer_effect {s : Exchange} (h : s.Coherent) (sends : s.Sends) (payload : Payload) :
    s.Effect (s.offer payload).2.1 (s.offer payload).2.2 := by
  unfold offer
  split
  · exact Stays.effect h (.keeps s _ _ _ _) .nothing
  · exact Stays.effect h (.keeps s _ _ _ _) .nothing
  · dsimp only
    split
    · exact Stays.effect h (.keeps s _ _ _ _) .nothing
    next isOpen =>
      exact Stays.effect h (.keeps s _ _ _ _)
        (.item payload sends (by simpa using isOpen))

theorem grant_effect {s : Exchange} (h : s.Coherent) (n : Nat) : s.Effect (s.grant n) [] := by
  unfold grant
  split
  · exact Stays.effect h (.keeps s _ _ _ _) .nothing
  · exact .stay h

theorem cancelByPeer_effect {s : Exchange} (h : s.Coherent) : s.Effect s.cancelByPeer [] := by
  unfold cancelByPeer
  split
  · exact
      { toExtends := (close_extends s _).trans (stop_extends _)
        coherent :=
          { inbox := fun ho hc => by
              simpa [close, stop] using h.inbox ho hc
            consumer := h.consumer
            initiated := h.initiated
            unopened := fun _ _ => .inl rfl }
        writes := .nothing
        opens := .inl rfl }
  · exact .stay h
  · exact .stay h
  · obtain ⟨inbox, hs⟩ := ((s.close Directions.both).stop).failInbox_eq
      (.canceled "stream canceled by requester")
    rw [hs]
    exact Ends.effect h
      ⟨rfl, rfl, Directions.union_both _, rfl, rfl, fun _ => rfl, rfl, rfl⟩ .nothing

/-- A channel that can still be opened has its way to the peer open. -/
theorem Coherent.outbound_open {s : Exchange} (h : s.Coherent) (unopened : s.Unopened)
    (goes : s.stopped = false) (live : s.isOver = false) : s.closed.outbound = false := by
  refine Bool.eq_false_iff.mpr fun closed => ?_
  rcases h.unopened unopened.2 closed with stopped | inbound
  · simp [goes] at stopped
  · simp [isOver, inbound, closed] at live

/-- Telling the peer of a channel. -/
theorem opening_effect {s : Exchange} (h : s.Coherent) (unopened : s.Unopened)
    (goes : s.stopped = false) (live : s.isOver = false) (initial : UInt32) (first : Payload) :
    s.Effect { s with initiated := true }
      [.payload (.requestChannel s.id initial first false)] where
  id := rfl
  kind := rfl
  inbound hs := hs
  outbound hs := hs
  started hs := hs
  initiated _ := rfl
  stopped hs := hs
  inbox hs := hs
  consumer _ hc := hc
  coherent :=
    { inbox := h.inbox
      consumer := h.consumer
      initiated := fun _ => rfl
      unopened := fun hi => by simp at hi }
  writes := .opening initial first false unopened (h.outbound_open unopened goes live) rfl
    fun hc => by simp at hc
  opens := .inr ⟨_, _, _, rfl⟩

theorem openChannel_effect {s : Exchange} (h : s.Coherent) (unopened : s.Unopened)
    (goes : s.stopped = false) (initial : UInt32) (first : Payload) :
    s.Effect (s.openChannel initial first).2.1 (s.openChannel initial first).2.2 := by
  unfold openChannel
  split
  · exact .stay h
  next live => exact opening_effect h unopened goes (by simpa using live) initial first

theorem openSilentChannel_effect {s : Exchange} (h : s.Coherent) (unopened : s.Unopened)
    (goes : s.stopped = false) (initial : UInt32) :
    s.Effect (s.openSilentChannel initial).1 (s.openSilentChannel initial).2 := by
  unfold openSilentChannel
  split
  · exact .stay h
  next live =>
    have isOpen := h.outbound_open unopened goes (by simpa using live)
    have opened := opening_effect h unopened goes (by simpa using live) initial Payload.empty
    have closed := closeOutbound_effect opened.coherent rfl .nothing
    exact
      { toExtends := opened.toExtends.trans closed.toExtends
        coherent := closed.coherent
        writes := .opening initial Payload.empty true unopened isOpen rfl fun _ => by simp [close]
        opens := .inr ⟨_, _, _, rfl⟩ }

/-! ### Frames of the peer -/

theorem closeInbound_effect {s : Exchange} (h : s.Coherent)
    (done : s.inboxOpen = true → s.consumer = none) :
    s.Effect (s.close Directions.inboundOnly) [] where
  toExtends := close_extends s _
  coherent :=
    { inbox := fun ho hc => absurd (done ho) hc
      consumer := h.consumer
      initiated := h.initiated
      unopened := fun _ _ => .inr (by simp [close]) }
  writes := .nothing
  opens := .inl rfl

/-- A consumer takes up the items that come in. -/
theorem attach_effect {s : Exchange} (h : s.Coherent) (kind : s.kind = .responderChannel)
    (isOpen : s.closed.inbound = false) (consumer : Consumer) :
    s.Effect { s with consumer := some consumer } [] where
  id := rfl
  kind := rfl
  inbound hs := hs
  outbound hs := hs
  started hs := hs
  initiated hs := hs
  stopped hs := hs
  inbox hs := hs
  consumer hs := by simp [isOpen] at hs
  coherent :=
    { inbox := fun _ _ => isOpen
      consumer := fun _ => by simp [kind, StreamKind.hasConsumer]
      initiated := h.initiated
      unopened := h.unopened }
  writes := .nothing
  opens := .inl rfl

/-- Only these kinds of stream have somebody who takes their items. -/
theorem Coherent.consumer_none {s : Exchange} (h : s.Coherent)
    (kind : s.kind.hasConsumer = false) : s.consumer = none := by
  cases hc : s.consumer with
  | none => rfl
  | some _ => simpa [kind] using h.consumer (by simp [hc])

theorem settle_stays (s : Exchange) (result : Item) : s.Stays (s.settle result) := by
  obtain ⟨answer, hs⟩ := s.settle_eq result
  rw [hs]
  exact .keeps s _ _ _ _

theorem deposit_stays (s : Exchange) (item : Item) : s.Stays (s.deposit item) := by
  obtain ⟨inbox, hs⟩ := s.deposit_eq item
  rw [hs]
  exact .keeps s _ _ _ _

/-- The answer of a request-response ends what comes in. -/
theorem answered_effect {s : Exchange} (h : s.Coherent) (kind : s.kind = .requesterResponse)
    (result : Item) : s.Effect ((s.settle result).close Directions.inboundOnly) [] := by
  refine (s.settle_stays result).then_effect h fun ht => closeInbound_effect ht fun _ => ?_
  exact ht.consumer_none (by rw [(s.settle_stays result).kind, kind]; rfl)

theorem completeInbound_effect {s : Exchange} (h : s.Coherent) :
    s.Effect s.completeInbound [] := by
  have ended : s.Effect (s.endInbox.close Directions.inboundOnly) [] :=
    { toExtends := (endInbox_extends s).trans (close_extends _ _)
      coherent :=
        { inbox := fun ho => by simp [endInbox, close] at ho
          consumer := h.consumer
          initiated := h.initiated
          unopened := fun _ _ => .inr (by simp [close]) }
      writes := .nothing
      opens := .inl rfl }
  unfold completeInbound
  split
  next kind => exact answered_effect h kind _
  · exact ended
  · exact ended
  · exact ended
  · exact .stay h

/-- A consumer that goes at once. -/
theorem dropConsumer_attached (s : Exchange) (consumer : Consumer)
    (unfinished : consumer.finished = false) (responder : s.kind.isRequester = false) :
    { s with consumer := some consumer }.dropConsumer =
      { s with consumer := none }.cancelLocally Directions.inboundOnly := by
  simp [dropConsumer, unfinished, responder]

/-- The first payload of a stream that the peer opened starts its work. -/
theorem start_effect {s : Exchange} (h : s.Coherent) (isOpen : s.closed.inbound = false)
    (first : s.started = false) (responder : s.kind.isRequester = false) (uptake : Uptake)
    (payload : Payload) :
    s.Effect (s.deliver uptake payload).stream (s.deliver uptake payload).frames := by
  have begins : s.Stays { s with started := true } :=
    ⟨rfl, rfl, rfl, fun _ => rfl, rfl, rfl, rfl, fun hc => hc⟩
  unfold deliver
  split
  next kind => simp [kind, StreamKind.isRequester] at responder
  next kind => simp [kind, StreamKind.isRequester] at responder
  next kind => simp [kind, StreamKind.isRequester] at responder
  next notResponse notStream notChannel =>
    rw [if_neg (by simp [first])]
    refine begins.then_effect h fun ht => ?_
    dsimp only
    split
    next kind =>
      have gone := ht.consumer_none (by rw [begins.kind, kind]; rfl)
      exact
        { toExtends := close_extends _ _
          coherent :=
            { inbox := fun _ hc => absurd gone hc
              consumer := ht.consumer
              initiated := ht.initiated
              unopened := fun _ _ => .inr (by simp [close]) }
          writes := .nothing
          opens := .inl rfl }
    next kind =>
      split
      · exact attach_effect ht kind isOpen _
      · dsimp only
        rw [dropConsumer_attached { s with started := true } _ rfl responder]
        exact cancelLocally_effect ht (by simp [kind, StreamKind.hasConsumer]) _ rfl fun hr => by
          simp [responder] at hr
    next notForget notResponderChannel =>
      refine closeInbound_effect ht fun _ => ht.consumer_none ?_
      cases kind : s.kind <;> simp_all [StreamKind.hasConsumer]

theorem deliver_effect {s : Exchange} (h : s.Coherent) (isOpen : s.closed.inbound = false)
    (uptake : Uptake) (payload : Payload) :
    s.Effect (s.deliver uptake payload).stream (s.deliver uptake payload).frames := by
  have kept : s.Effect (s.deposit (.ok payload)) [] := Stays.effect h (s.deposit_stays _) .nothing
  by_cases first : s.started = false ∧ s.kind.isRequester = false
  · exact start_effect h isOpen first.1 first.2 uptake payload
  · unfold deliver
    split
    next kind => exact answered_effect h kind _
    · exact kept
    · exact kept
    next notResponse notStream notChannel =>
      have started : s.started = true := by
        cases kind : s.kind <;> simp_all [StreamKind.isRequester]
      rw [if_pos started]
      dsimp only
      split
      · exact kept
      · exact .stay h

theorem receive_effect {s : Exchange} (h : s.Coherent) (uptake : Uptake) (f : PayloadFrame) :
    s.Effect (s.receive uptake f).stream (s.receive uptake f).frames := by
  unfold receive
  split
  · exact .stay h
  next isOpen =>
    have isOpen : s.closed.inbound = false := by simpa using isOpen
    have taken : s.Stays { s with fragments := none } := .keeps s _ _ _ _
    have whole (payload : Payload) : s.Effect
        (if s.carriesPayload f then { s with fragments := none }.deliver uptake payload
          else { stream := s } : Reception).stream
        (if s.carriesPayload f then { s with fragments := none }.deliver uptake payload
          else { stream := s } : Reception).frames := by
      split
      · exact taken.then_effect h fun ht => deliver_effect ht isOpen uptake payload
      · exact .stay h
    dsimp only
    split
    · exact Stays.effect h (.keeps s _ _ _ _) .nothing
    · split
      · exact (whole _).then_silent (completeInbound_effect (whole _).coherent)
      · exact whole _

/-- What every move does. -/
theorem Move.effect {s : Exchange} (h : s.Coherent) (m : Move) (fits : m.Fits s) :
    s.Effect (m.apply s).1 (m.apply s).2 := by
  cases m with
  | poll => exact poll_effect h
  | dropConsumer => exact dropConsumer_effect h
  | abandon => exact abandon_effect h fits
  | receive uptake frame => exact receive_effect h uptake frame
  | grant n => exact grant_effect h n
  | cancelByPeer => exact cancelByPeer_effect h
  | fail cause => exact fail_effect h cause
  | offer payload => exact offer_effect h fits payload
  | complete => exact complete_effect h fits
  | failLocally f => exact failLocally_effect h fits f
  | respond result => exact respond_effect h fits result
  | openChannel initial first => exact openChannel_effect h fits.1 fits.2 initial first
  | openSilentChannel initial => exact openSilentChannel_effect h fits.1 fits.2 initial
  | failUnopened f => exact failUnopened_effect h f

end StreamMux.Exchange
