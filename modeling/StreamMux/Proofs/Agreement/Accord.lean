import StreamMux.Proofs.Agreement.Acting
import StreamMux.Proofs.Endpoint.Yielding

/-!
# Where the two ends of a stream stand

A stream that one end has asked for is in `Accord` with the other end and with the signals on their
way between the two. It stays so when either end makes a move of it (`Accord.stirs_near`,
`Accord.stirs_far`) and when either end hears the next signal (`Accord.hears_near`,
`Accord.hears_far`).
-/
namespace StreamMux

/-- The other end of a stream: whether it is there, and what it has closed. -/
inductive Facing (id : UInt32) (kind : StreamKind) (d : Connection) : Bool → Directions → Prop
  | absent (lacks : d.Lacks id) : Facing id kind d false {}
  | present {j : Nat} {t : Exchange} (holds : d.Holds id j t) (answers : t.kind = kind.answering)
      (started : t.started = true) : Facing id kind d true t.closed

/-- A stream that this end asked for, the other end, and the signals on their way to it (`up`) and
from it (`down`). -/
inductive Accord (id : UInt32) (s : Exchange) (d : Connection) (up down : List Signal) : Prop
  | told {there : Bool} {r : Directions} (known : s.initiated = true)
      (facing : Facing id s.kind d there r) (talk : Talk s.kind s.closed r there up down)
  | untold (untold : s.Untold) (lacks : d.Lacks id) (waits : ∀ x ∈ up, x = .requestN)
      (silent : down = [])

variable {id : UInt32} {kind : StreamKind} {s : Exchange} {c c' d d' : Connection}
  {up down : List Signal} {there : Bool} {r : Directions} {x : Signal}

theorem StreamKind.answering_responder (requester : kind.isRequester = true) :
    kind.answering.isRequester = false := by
  cases kind <;> first | contradiction | rfl

/-- A stream of which everything is closed hears nothing new. -/
theorem StreamKind.heard_both (kind : StreamKind) (x : Signal) :
    kind.heard Directions.both x = Directions.both := by
  cases kind <;> cases x <;> rfl

theorem Exchange.closed_of_isOver (finished : s.isOver = true) : s.closed = Directions.both := by
  obtain ⟨inbound, outbound⟩ := (Exchange.isOver_iff s).mp finished
  cases closed : s.closed
  rw [closed] at inbound outbound
  simp_all [Directions.both]

namespace Talk

theorem oneWay_requester (h : Talk s.kind s.closed r there up down)
    (requester : s.kind.isRequester = true) : s.OneWay where
  sends kind := (h.oneWay (by rcases kind with kind | kind <;> simp [kind])).1
  takes kind := by
    rcases kind with kind | kind
    all_goals
      rw [kind] at requester
      contradiction

theorem oneWay_responder {t : Exchange} (h : Talk kind s.closed t.closed true up down)
    (requester : kind.isRequester = true) (answers : t.kind = kind.answering) : t.OneWay where
  sends other := by
    have responder := StreamKind.answering_responder requester
    rw [← answers] at responder
    rcases other with kind | kind
    all_goals
      rw [kind] at responder
      contradiction
  takes other := by
    refine (h.oneWay ?_).2 rfl
    rintro rfl
    rw [answers] at other
    simp [StreamKind.answering] at other

/-- Payloads that come in for the responder start no work any more. -/
theorem listens_responder {t : Exchange} (h : Talk kind s.closed t.closed true up down)
    (requester : kind.isRequester = true) (answers : t.kind = kind.answering)
    (started : t.started = true) : t.Listens := by
  by_cases channel : kind = .requesterChannel
  · subst channel
    exact .inr (.inr ⟨answers, started⟩)
  · exact .inl ((h.oneWay channel).2 rfl)

end Talk

/-! ### Deeds of either end -/

theorem Facing.apart (h : Facing id kind d there r) (wire : low31 id = id)
    (apart : Connection.Apart id d d') : Facing id kind d' there r := by
  cases h with
  | absent lacks => exact .absent (lacks.apart apart)
  | present holds answers started => exact .present (holds.apart wire apart) answers started

theorem Accord.apart (h : Accord id s d up down) (wire : low31 id = id)
    (apart : Connection.Apart id d d') : Accord id s d' up down := by
  cases h with
  | told known facing talk => exact .told known (facing.apart wire apart) talk
  | untold untold lacks waits silent => exact .untold untold (lacks.apart apart) waits silent

/-- This end makes a move of the stream. -/
theorem Accord.stirs_near (h : Accord id s d up down) (coherent : s.Coherent)
    (requester : s.kind.isRequester = true) {m : Exchange.Move} (own : m.isLocal = true)
    (fits : m.Fits s) (fair : m.IsFair s) (keeps : m.Keeps s) :
    Accord id (m.apply s).1 d (up ++ (m.apply s).2.map (·.signal)) down := by
  have effect := m.effect coherent fits
  cases h with
  | told known facing talk =>
    have tells := Exchange.Move.tells coherent known (talk.oneWay_requester requester) own fits fair
      keeps
    refine .told (effect.initiated known) (effect.kind ▸ facing) ?_
    rw [effect.kind]
    exact talk.requester_tells tells (effect.cancel_both requester)
  | untold untold lacks waits silent =>
    rcases Exchange.Move.opens_or_waits untold own fits with ⟨still, asks⟩ |
      ⟨complete, news, channel, known, closed⟩
    · refine .untold still lacks (fun x member => ?_) silent
      rcases List.mem_append.mp member with old | new
      · exact waits x old
      · obtain ⟨f, written, signal⟩ := List.mem_map.mp new
        exact signal ▸ asks f written
    · refine .told known (.absent lacks) ?_
      rw [news, silent]
      exact Talk.of_request waits (by rw [channel]; rfl) (by rw [closed]) (by rw [closed]; rfl)

/-- The other end makes a move of the stream. -/
theorem Accord.stirs_far (h : Accord id s d up down) (sound : d.Sound)
    (requester : s.kind.isRequester = true) {j : Nat} {m : Exchange.Move}
    (stirs : Connection.Stirs id d d' j m) :
    Accord id s d' up (down ++ (m.apply (d.stream j)).2.map (·.signal)) := by
  have effect := m.effect (sound.coherent j stirs.placed) stirs.fits
  cases h with
  | untold untold lacks waits silent => exact absurd stirs.named (lacks.absent j stirs.placed)
  | told known facing talk =>
    cases facing with
    | absent lacks => exact absurd stirs.named (lacks.absent j stirs.placed)
    | @present k t holds answers started =>
      have same : j = k := Classical.byContradiction fun other =>
        holds.only j stirs.placed other stirs.named
      subst same
      have stream := holds.stream
      subst stream
      have responder : (d.stream j).kind.isRequester = false := by
        rw [answers]
        exact StreamKind.answering_responder requester
      have channel : (d.stream j).kind ≠ .requesterChannel := fun kind => by
        rw [kind] at responder
        contradiction
      have coherent := sound.coherent j stirs.placed
      have keeps : m.Keeps (d.stream j) := by
        cases m <;> first | exact trivial | exact fun kind => absurd kind channel
      have tells := Exchange.Move.tells coherent (coherent.initiated channel)
        (talk.oneWay_responder requester answers) stirs.own stirs.fits stirs.fair keeps
      have moved : d'.Holds id j (m.apply (d.stream j)).1 := by
        rw [stirs.eq]
        exact holds.commit effect.id effect.isOver
      refine .told known (.present moved (effect.kind.trans answers) (effect.started started)) ?_
      refine talk.responder_tells tells fun response told => ?_
      have credit := effect.item_sends told
      rw [answers, response] at credit
      contradiction

/-- This end asks for a stream under an id that the other end has not heard of. -/
theorem Accord.opens {own : UInt32} {frames : List Frame} (opens : c.Opens c' own s frames)
    (lacks : d.Lacks own) :
    (∀ f ∈ frames, f.id = own) ∧ Accord own s d (frames.map (·.signal)) [] := by
  have named := opens.named
  have nothing : ∀ x ∈ ([] : List Signal), x = .requestN := by simp
  cases opens.born with
  | response id payload =>
    refine ⟨fun f member => List.mem_singleton.mp member ▸ named, .told rfl (.absent lacks) ?_⟩
    exact Talk.of_request nothing rfl rfl rfl
  | stream id batch payload =>
    refine ⟨fun f member => List.mem_singleton.mp member ▸ named, .told rfl (.absent lacks) ?_⟩
    exact Talk.of_request nothing rfl rfl rfl
  | channel id batch =>
    exact ⟨by simp, .untold ⟨⟨rfl, rfl⟩, rfl⟩ lacks (by simp) rfl⟩
  | responder id initial answers effect =>
    have requester := opens.requester
    rw [effect.kind, Exchange.responder, answers] at requester
    contradiction

/-! ### Frames of either end -/

variable {i : Nat} (keepsItems : Payload → Bool) (now : Duration) {frame : Frame}

/-- This end hears of the stream. -/
theorem Accord.hears_near (h : Accord id s d up (frame.signal :: down)) (holds : c.Holds id i s)
    (coherent : s.Coherent) (requester : s.kind.isRequester = true) (nonzero : id ≠ 0)
    (named : frame.id = id) (whole : frame.IsWhole) :
    ∃ t, (c.dispatch keepsItems now frame).1 = c.commit i t [] ∧ s.Extends t ∧
      Accord id t d up down := by
  cases h with
  | untold untold lacks waits silent => contradiction
  | told known facing talk =>
    have inner := talk.answers _ List.mem_cons_self
    have single : s.kind = .requesterResponse → frame.signal ≠ .item := fun response item =>
      talk.single response (item ▸ List.mem_cons_self)
    have heard := talk.requester_hears requester
    cases goes : s.isOver with
    | true =>
      have gone : c.registry.get? id = none := by rw [holds.registered, goes, if_pos rfl]
      refine ⟨s, ?_, .refl s, .told known facing ?_⟩
      · rw [Connection.dispatch_late keepsItems now gone nonzero named whole inner, ← holds.stream,
          Connection.commit_same]
      · rw [Exchange.closed_of_isOver goes, StreamKind.heard_both] at heard
        rw [Exchange.closed_of_isOver goes]
        exact heard
    | false =>
      have listens : s.Listens := .inr (.inl requester)
      have effect := Exchange.take_effect coherent listens
        { batch := c.config.prefetch, keepsItems } whole inner single
      refine ⟨_, congrArg Prod.fst (Connection.dispatch_inner keepsItems now holds nonzero goes
        listens named whole inner single), effect.toExtends, ?_⟩
      refine .told (effect.initiated known) (effect.kind ▸ facing) ?_
      rw [effect.kind, Exchange.take_closed listens _ whole inner single]
      exact heard

/-- The other end becomes `d'`: what it sends is about the stream, which is in accord with it. -/
def Answered (id : UInt32) (s : Exchange) (d d' : Connection) (up down : List Signal) : Prop :=
  ∃ added, d'.waiting = d.waiting ++ added ∧ (∀ f ∈ added, f.id = id) ∧
    Accord id s d' up (down ++ added.map (·.signal))

theorem Accord.answered (h : Accord id s d up down) : Answered id s d d up down :=
  ⟨[], (List.append_nil _).symm, by simp, by simpa using h⟩

/-- The other end, which knows nothing of the stream, hears the request for it. -/
theorem Talk.hears_request (talk : Talk s.kind s.closed {} false (frame.signal :: up) down)
    (known : s.initiated = true) (lacks : d.Lacks id) (foreign : d.side.owns id = false)
    (accepts : d.queue.accepts = true) (named : frame.id = id) (whole : frame.IsWhole)
    (opens : s.kind.opensWith frame.signal = true) :
    Answered id s d (d.dispatch keepsItems now frame).1 up down := by
  obtain ⟨f, rfl⟩ : ∃ f, frame = .payload f := by
    cases frame with
    | payload f => exact ⟨f, rfl⟩
    | _ => cases kind : s.kind <;> rw [kind] at opens <;> contradiction
  obtain ⟨t, refused, grows, holds, answers, started, closed, waiting⟩ :=
    Connection.dispatch_opens keepsItems now lacks foreign named whole.1 opens
  rw [accepts] at waiting
  refine ⟨_, waiting, fun f member => ?_, .told known (.present holds answers started) ?_⟩
  · split at member
    · rw [List.mem_singleton.mp member]
      rfl
    · contradiction
  · have down := (talk.asked rfl).2.1
    have opened := talk.responder_opens opens refused
    rw [closed, down]
    cases refused <;> exact opened

/-- The other end hears more of a stream that it knows. -/
theorem Talk.hears_inner {j : Nat} {t : Exchange}
    (talk : Talk s.kind s.closed t.closed true (frame.signal :: up) down)
    (known : s.initiated = true) (requester : s.kind.isRequester = true) (sound : d.Sound)
    (holds : d.Holds id j t) (answers : t.kind = s.kind.answering) (started : t.started = true)
    (nonzero : id ≠ 0) (named : frame.id = id) (whole : frame.IsWhole) :
    Answered id s d (d.dispatch keepsItems now frame).1 up down := by
  have inner := talk.opened rfl _ List.mem_cons_self
  have responder : t.kind.isRequester = false := by
    rw [answers]
    exact StreamKind.answering_responder requester
  have heard := talk.responder_hears responder
  cases goes : t.isOver with
  | true =>
    have gone : d.registry.get? id = none := by rw [holds.registered, goes, if_pos rfl]
    rw [Connection.dispatch_late keepsItems now gone nonzero named whole inner]
    refine Accord.answered (.told known (.present holds answers started) ?_)
    rw [Exchange.closed_of_isOver goes, StreamKind.heard_both] at heard
    rw [Exchange.closed_of_isOver goes]
    exact heard
  | false =>
    have listens := talk.listens_responder requester answers started
    have single : t.kind = .requesterResponse → frame.signal ≠ .item := fun kind => by
      rw [kind] at responder
      contradiction
    have coherent : t.Coherent := holds.stream ▸ sound.coherent j holds.bound
    have effect := Exchange.take_effect coherent listens
      { batch := d.config.prefetch, keepsItems } whole inner single
    rw [Connection.dispatch_inner keepsItems now holds nonzero goes listens named whole inner
      single]
    refine ⟨[], ?_, by simp, .told known (.present (holds.commit effect.id effect.isOver)
      (effect.kind.trans answers) (effect.started started)) ?_⟩
    · rw [Connection.waiting_commit]
      simp
    · rw [Exchange.take_closed listens _ whole inner single, List.map_nil, List.append_nil]
      exact heard

/-- The other end hears of the stream. -/
theorem Accord.hears_far (h : Accord id s d (frame.signal :: up) down) (sound : d.Sound)
    (requester : s.kind.isRequester = true) (foreign : d.side.owns id = false)
    (accepts : d.queue.accepts = true) (nonzero : id ≠ 0) (named : frame.id = id)
    (whole : frame.IsWhole) : Answered id s d (d.dispatch keepsItems now frame).1 up down := by
  -- Who knows nothing of the stream does not notice that items are asked for.
  have asked (lacks : d.Lacks id) (asks : frame.signal = .requestN)
      (later : Accord id s d up down) :
      Answered id s d (d.dispatch keepsItems now frame).1 up down := by
    rw [Connection.dispatch_late keepsItems now lacks.free nonzero named whole (by rw [asks]; rfl)]
    exact later.answered
  cases h with
  | untold untold lacks waits silent =>
    have later : ∀ x ∈ up, x = .requestN := fun x member => waits x (List.mem_cons_of_mem _ member)
    exact asked lacks (waits _ List.mem_cons_self) (.untold untold lacks later silent)
  | told known facing talk =>
    cases facing with
    | absent lacks =>
      rcases talk.next_up with asks | opens
      · refine asked lacks asks (.told known (.absent lacks) ?_)
        rw [asks] at talk
        exact talk.responder_waits
      · exact talk.hears_request keepsItems now known lacks foreign accepts named whole opens
    | present holds answers started =>
      exact talk.hears_inner keepsItems now known requester sound holds answers started nonzero
        named whole

end StreamMux
