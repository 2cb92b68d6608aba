import StreamMux.Proofs.Exchange.Discipline

/-!
# Two ends that close one stream

Each end of a stream closes directions of its own accord and when it hears of the other end. What it
closes of its own accord it tells the other end, and such news can cross. `Talk` relates what the
two ends have closed to the news that is on its way: whoever has closed a direction has heard of it,
or the other end still will. When nothing is on its way any more, the two ends have closed the same
(`Talk.mirrors`).

It is kept when an end tells what it closes (`Talk.requester_tells`, `Talk.responder_tells`), when
an end hears the next signal (`Talk.requester_hears`, `Talk.responder_hears`), and when the request
arrives that the responder learns of the stream with (`Talk.responder_opens`).
-/
namespace StreamMux

namespace Signal

/-- The signal is one of a stream that was opened before. -/
def isInner : Signal → Bool
  | requestN | cancel | item | completion | lastItem | error => true
  | requestResponse | requestStream | requestChannel _ | other => false

/-- The sequence of the requester is over with it; a request for an answer or a stream has none. -/
def closes : Signal → Bool
  | requestResponse | requestStream => true
  | x => x.isEnd

/-- What a responder has closed once it has taken up a request, and maybe refused its items. -/
def opening (refused : Bool) : Signal → Directions
  | requestChannel complete => { inbound := complete || refused }
  | _ => Directions.inboundOnly

theorem closes_of_isEnd {x : Signal} (h : x.isEnd = true) : x.closes = true := by
  cases x <;> first | exact h | rfl

theorem isEnd_of_closes {x : Signal} (inner : x.isInner = true) (h : x.closes = true) :
    x.isEnd = true := by
  cases x <;> first | exact h | contradiction

end Signal

namespace StreamKind

/-- The signal opens a stream of this kind. -/
def opensWith : StreamKind → Signal → Bool
  | requesterResponse, .requestResponse | requesterStream, .requestStream
  | requesterChannel, .requestChannel _ => true
  | _, _ => false

/-- What an end has closed once it has heard a signal of the peer. -/
def heard (kind : StreamKind) (d : Directions) : Signal → Directions
  | .completion | .lastItem => { d with inbound := true }
  | .error => Directions.both
  | .cancel =>
    match kind with
    | requesterResponse | requesterStream => d
    | requesterChannel => { d with outbound := true }
    | _ => Directions.both
  | _ => d

variable (kind : StreamKind) {x : Signal}

theorem heard_inbound (requester : kind.isRequester = true) (d : Directions)
    (inner : x.isInner = true) :
    (kind.heard d x).inbound = true ↔ d.inbound = true ∨ x.isEnd = true := by
  cases kind <;> cases x <;> first | contradiction | simp [heard, Signal.isEnd]

theorem heard_outbound (requester : kind.isRequester = true) (d : Directions)
    (inner : x.isInner = true) : (kind.heard d x).outbound = true ↔
      d.outbound = true ∨ x = .error ∨ x = .cancel ∧ kind = .requesterChannel := by
  cases kind <;> cases x <;> first | contradiction | simp [heard]

theorem heard_inbound_responder (responder : kind.isRequester = false) (d : Directions)
    (inner : x.isInner = true) :
    (kind.heard d x).inbound = true ↔ d.inbound = true ∨ x.isEnd = true ∨ x = .cancel := by
  cases kind <;> cases x <;> first | contradiction | simp [heard, Signal.isEnd]

theorem heard_outbound_responder (responder : kind.isRequester = false) (d : Directions)
    (inner : x.isInner = true) :
    (kind.heard d x).outbound = true ↔ d.outbound = true ∨ x = .error ∨ x = .cancel := by
  cases kind <;> cases x <;> first | contradiction | simp [heard]

/-- A request closes nothing of what the peer sends, and is not one for items. -/
theorem opensWith_ne (opens : kind.opensWith x = true) :
    x ≠ .cancel ∧ x ≠ .error ∧ x ≠ .requestN := by
  refine ⟨?_, ?_, ?_⟩ <;> rintro rfl <;> cases kind <;> contradiction

end StreamKind

/-- An end closes directions, from `s` to `t`, and tells the other end of it. -/
structure Tells (s t : Directions) (news : List Signal) : Prop where
  inner : ∀ x ∈ news, x.isInner = true
  inbound : s.inbound = true → t.inbound = true
  outbound : s.outbound = true → t.outbound = true
  /-- That it takes nothing more is told. -/
  takes : t.inbound = true → s.inbound = true ∨ .cancel ∈ news ∨ .error ∈ news
  /-- That it sends nothing more is told. -/
  sends : t.outbound = true → s.outbound = true ∨ ∃ x ∈ news, x.isEnd = true
  ended : ∀ x ∈ news, x.isEnd = true → t.outbound = true
  canceled : .cancel ∈ news → t.inbound = true
  failed : .error ∈ news → t.inbound = true

/-- What a requester (`s`) and a responder (`r`) have closed, against the signals on their way `up`
to the responder and `down` to the requester. The responder is not there before it hears of the
stream. -/
structure Talk (kind : StreamKind) (s r : Directions) (there : Bool) (up down : List Signal) :
    Prop where
  /-- The responder knows, or will hear, that the requester sends nothing more. -/
  sends : s.outbound = true → r.inbound = true ∨ ∃ x ∈ up, x.closes = true
  /-- The requester knows, or will hear, that the responder takes nothing more. -/
  taken : r.inbound = true → s.outbound = true ∨ .cancel ∈ down ∨ .error ∈ down
  /-- The responder knows, or will hear, that the requester takes nothing more. -/
  takes : s.inbound = true → r.outbound = true ∨ .cancel ∈ up ∨ .error ∈ up
  /-- The requester knows, or will hear, that the responder sends nothing more. -/
  sent : r.outbound = true → s.inbound = true ∨ ∃ x ∈ down, x.isEnd = true
  closed : ∀ x ∈ up, x.closes = true → s.outbound = true
  canceled : .cancel ∈ up → s.inbound = true ∧ s.outbound = true
  failed : .error ∈ up → s.inbound = true
  ended : ∀ x ∈ down, x.isEnd = true → r.outbound = true
  refused : .cancel ∈ down → r.inbound = true
  broken : .error ∈ down → r.inbound = true
  /-- A responder that is not there will hear of the stream. -/
  asked : there = false → r = {} ∧ down = [] ∧ ∃ before request rest,
    up = before ++ request :: rest ∧ (∀ x ∈ before, x = .requestN) ∧
      kind.opensWith request = true ∧ ∀ x ∈ rest, x.isInner = true
  opened : there = true → ∀ x ∈ up, x.isInner = true
  answers : ∀ x ∈ down, x.isInner = true
  /-- The answer to a request-response is the last item. -/
  single : kind = .requesterResponse → .item ∉ down
  /-- Only on a channel items go both ways. -/
  oneWay : kind ≠ .requesterChannel → s.outbound = true ∧ (there = true → r.inbound = true)

namespace Talk

variable {kind : StreamKind} {s r t : Directions} {there : Bool} {up down news : List Signal}
  {x : Signal}

/-- When nothing is on its way, each end has closed what the other has. -/
theorem mirrors (h : Talk kind s r there [] []) :
    there = true ∧ s.outbound = r.inbound ∧ s.inbound = r.outbound := by
  refine ⟨?_, ?_, ?_⟩
  · refine Bool.not_eq_false _ |>.mp fun absent => ?_
    obtain ⟨_, _, before, request, rest, nothing, _⟩ := h.asked absent
    simp at nothing
  · refine Bool.eq_iff_iff.mpr ⟨fun hs => ?_, fun hr => ?_⟩
    · simpa using h.sends hs
    · simpa using h.taken hr
  · refine Bool.eq_iff_iff.mpr ⟨fun hs => ?_, fun hr => ?_⟩
    · simpa using h.takes hs
    · simpa using h.sent hr

/-! ### Telling -/

theorem requester_tells (h : Talk kind s r there up down) (tells : Tells s t news)
    (both : .cancel ∈ news → t.outbound = true) : Talk kind t r there (up ++ news) down where
  sends ht := by
    rcases tells.sends ht with hs | ⟨x, new, ends⟩
    · rcases h.sends hs with known | ⟨x, old, closes⟩
      · exact .inl known
      · exact .inr ⟨x, List.mem_append_left _ old, closes⟩
    · exact .inr ⟨x, List.mem_append_right _ new, Signal.closes_of_isEnd ends⟩
  taken hr := (h.taken hr).imp_left tells.outbound
  takes ht := by
    rcases tells.takes ht with hs | canceled | failed
    · refine (h.takes hs).imp_right fun told => ?_
      exact told.imp (List.mem_append_left _) (List.mem_append_left _)
    · exact .inr (.inl (List.mem_append_right _ canceled))
    · exact .inr (.inr (List.mem_append_right _ failed))
  sent hr := (h.sent hr).imp_left tells.inbound
  closed x member closes := by
    rcases List.mem_append.mp member with old | new
    · exact tells.outbound (h.closed x old closes)
    · exact tells.ended x new (Signal.isEnd_of_closes (tells.inner x new) closes)
  canceled member := by
    rcases List.mem_append.mp member with old | new
    · exact (h.canceled old).imp tells.inbound tells.outbound
    · exact ⟨tells.canceled new, both new⟩
  failed member := by
    rcases List.mem_append.mp member with old | new
    · exact tells.inbound (h.failed old)
    · exact tells.failed new
  ended := h.ended
  refused := h.refused
  broken := h.broken
  asked absent := by
    obtain ⟨unopened, silent, before, request, rest, eq, waits, opens, inner⟩ := h.asked absent
    refine ⟨unopened, silent, before, request, rest ++ news, by simp [eq], waits, opens, ?_⟩
    exact fun x member => (List.mem_append.mp member).elim (inner x) (tells.inner x)
  opened present x member := (List.mem_append.mp member).elim (h.opened present x) (tells.inner x)
  answers := h.answers
  single := h.single
  oneWay other := (h.oneWay other).imp_left tells.outbound

theorem responder_tells (h : Talk kind s r true up down) (tells : Tells r t news)
    (single : kind = .requesterResponse → .item ∉ news) :
    Talk kind s t true up (down ++ news) where
  sends hs := (h.sends hs).imp_left tells.inbound
  taken ht := by
    rcases tells.takes ht with hr | canceled | failed
    · refine (h.taken hr).imp_right fun told => ?_
      exact told.imp (List.mem_append_left _) (List.mem_append_left _)
    · exact .inr (.inl (List.mem_append_right _ canceled))
    · exact .inr (.inr (List.mem_append_right _ failed))
  takes hs := (h.takes hs).imp_left tells.outbound
  sent ht := by
    rcases tells.sends ht with hr | ⟨x, new, ends⟩
    · rcases h.sent hr with known | ⟨x, old, ends⟩
      · exact .inl known
      · exact .inr ⟨x, List.mem_append_left _ old, ends⟩
    · exact .inr ⟨x, List.mem_append_right _ new, ends⟩
  closed := h.closed
  canceled := h.canceled
  failed := h.failed
  ended x member ends := by
    rcases List.mem_append.mp member with old | new
    · exact tells.outbound (h.ended x old ends)
    · exact tells.ended x new ends
  refused member := by
    rcases List.mem_append.mp member with old | new
    · exact tells.inbound (h.refused old)
    · exact tells.canceled new
  broken member := by
    rcases List.mem_append.mp member with old | new
    · exact tells.inbound (h.broken old)
    · exact tells.failed new
  asked absent := by contradiction
  opened := h.opened
  answers x member := (List.mem_append.mp member).elim (h.answers x) (tells.inner x)
  single response member :=
    (List.mem_append.mp member).elim (h.single response) (single response)
  oneWay other := (h.oneWay other).imp_right fun closed _ => tells.inbound (closed rfl)

/-! ### Hearing -/

theorem requester_hears (h : Talk kind s r there up (x :: down))
    (requester : kind.isRequester = true) : Talk kind (kind.heard s x) r there up down := by
  have inner : x.isInner = true := h.answers x List.mem_cons_self
  have inbound := kind.heard_inbound requester s inner
  have outbound := kind.heard_outbound requester s inner
  have keepsIn (hs : s.inbound = true) : (kind.heard s x).inbound = true := inbound.mpr (.inl hs)
  have keepsOut (hs : s.outbound = true) : (kind.heard s x).outbound = true :=
    outbound.mpr (.inl hs)
  exact
    { sends := fun ht => by
        rcases outbound.mp ht with hs | rfl | ⟨rfl, _⟩
        · exact h.sends hs
        · exact .inl (h.broken List.mem_cons_self)
        · exact .inl (h.refused List.mem_cons_self)
      taken := fun hr => by
        rcases h.taken hr with hs | told | told
        · exact .inl (keepsOut hs)
        · rcases List.mem_cons.mp told with rfl | later
          · refine .inl ?_
            -- Only on a channel CANCEL closes anything; elsewhere it was closed all along.
            by_cases channel : kind = .requesterChannel
            · exact outbound.mpr (.inr (.inr ⟨rfl, channel⟩))
            · exact keepsOut (h.oneWay channel).1
          · exact .inr (.inl later)
        · rcases List.mem_cons.mp told with rfl | later
          · exact .inl (outbound.mpr (.inr (.inl rfl)))
          · exact .inr (.inr later)
      takes := fun ht => by
        rcases inbound.mp ht with hs | ends
        · exact h.takes hs
        · exact .inl (h.ended x List.mem_cons_self ends)
      sent := fun hr => by
        rcases h.sent hr with hs | ⟨y, told, ends⟩
        · exact .inl (keepsIn hs)
        · rcases List.mem_cons.mp told with rfl | later
          · exact .inl (inbound.mpr (.inr ends))
          · exact .inr ⟨y, later, ends⟩
      closed := fun y member closes => keepsOut (h.closed y member closes)
      canceled := fun member => (h.canceled member).imp keepsIn keepsOut
      failed := fun member => keepsIn (h.failed member)
      ended := fun y member => h.ended y (List.mem_cons_of_mem _ member)
      refused := fun member => h.refused (List.mem_cons_of_mem _ member)
      broken := fun member => h.broken (List.mem_cons_of_mem _ member)
      asked := fun absent => by simpa using (h.asked absent).2.1
      opened := h.opened
      answers := fun y member => h.answers y (List.mem_cons_of_mem _ member)
      single := fun response member => h.single response (List.mem_cons_of_mem _ member)
      oneWay := fun other => (h.oneWay other).imp_left keepsOut }

theorem responder_hears {answering : StreamKind} (h : Talk kind s r true (x :: up) down)
    (responder : answering.isRequester = false) :
    Talk kind s (answering.heard r x) true up down := by
  have inner : x.isInner = true := h.opened rfl x List.mem_cons_self
  have inbound := answering.heard_inbound_responder responder r inner
  have outbound := answering.heard_outbound_responder responder r inner
  have keepsIn (hr : r.inbound = true) : (answering.heard r x).inbound = true :=
    inbound.mpr (.inl hr)
  have keepsOut (hr : r.outbound = true) : (answering.heard r x).outbound = true :=
    outbound.mpr (.inl hr)
  exact
    { sends := fun hs => by
        rcases h.sends hs with hr | ⟨y, told, closes⟩
        · exact .inl (keepsIn hr)
        · rcases List.mem_cons.mp told with rfl | later
          · exact .inl (inbound.mpr (.inr (.inl (Signal.isEnd_of_closes inner closes))))
          · exact .inr ⟨y, later, closes⟩
      taken := fun ht => by
        rcases inbound.mp ht with hr | ends | rfl
        · exact h.taken hr
        · exact .inl (h.closed x List.mem_cons_self (Signal.closes_of_isEnd ends))
        · exact .inl (h.canceled List.mem_cons_self).2
      takes := fun hs => by
        rcases h.takes hs with hr | told | told
        · exact .inl (keepsOut hr)
        · rcases List.mem_cons.mp told with rfl | later
          · exact .inl (outbound.mpr (.inr (.inr rfl)))
          · exact .inr (.inl later)
        · rcases List.mem_cons.mp told with rfl | later
          · exact .inl (outbound.mpr (.inr (.inl rfl)))
          · exact .inr (.inr later)
      sent := fun ht => by
        rcases outbound.mp ht with hr | rfl | rfl
        · exact h.sent hr
        · exact .inl (h.failed List.mem_cons_self)
        · exact .inl (h.canceled List.mem_cons_self).1
      closed := fun y member => h.closed y (List.mem_cons_of_mem _ member)
      canceled := fun member => h.canceled (List.mem_cons_of_mem _ member)
      failed := fun member => h.failed (List.mem_cons_of_mem _ member)
      ended := fun y member ends => keepsOut (h.ended y member ends)
      refused := fun member => keepsIn (h.refused member)
      broken := fun member => keepsIn (h.broken member)
      asked := fun absent => by contradiction
      opened := fun _ y member => h.opened rfl y (List.mem_cons_of_mem _ member)
      answers := h.answers
      single := h.single
      oneWay := fun other => (h.oneWay other).imp_right fun closed _ => keepsIn (closed rfl) }

/-- A responder that is not there takes no notice of a request for items. -/
theorem responder_waits (h : Talk kind s r false (.requestN :: up) down) :
    Talk kind s r false up down where
  sends hs := (h.sends hs).imp_right fun ⟨x, member, closes⟩ => by
    rcases List.mem_cons.mp member with rfl | later
    · contradiction
    · exact ⟨x, later, closes⟩
  taken := h.taken
  takes hs := (h.takes hs).imp_right fun told => by simpa using told
  sent := h.sent
  closed x member := h.closed x (List.mem_cons_of_mem _ member)
  canceled member := h.canceled (List.mem_cons_of_mem _ member)
  failed member := h.failed (List.mem_cons_of_mem _ member)
  ended := h.ended
  refused := h.refused
  broken := h.broken
  asked _ := by
    obtain ⟨unopened, silent, before, request, rest, eq, waits, opens, inner⟩ := h.asked rfl
    cases before with
    | nil =>
      cases eq
      cases kind <;> contradiction
    | cons first before =>
      cases eq
      refine ⟨unopened, silent, before, request, rest, rfl, fun x member => ?_, opens, inner⟩
      exact waits x (List.mem_cons_of_mem _ member)
  opened present := by contradiction
  answers := h.answers
  single := h.single
  oneWay := h.oneWay

/-- What a responder that is not there hears is a request for items, or opens the stream. -/
theorem next_up (h : Talk kind s r false (x :: up) down) :
    x = .requestN ∨ kind.opensWith x = true := by
  obtain ⟨_, _, before, request, rest, eq, waits, opens, _⟩ := h.asked rfl
  cases before with
  | nil =>
    cases eq
    exact .inr opens
  | cons first before =>
    cases eq
    exact .inl (waits x List.mem_cons_self)

/-- A responder that hears of the stream is there, and says so if it takes no items. -/
theorem responder_opens (h : Talk kind s r false (x :: up) down) (opens : kind.opensWith x = true)
    (refused : Bool) :
    Talk kind s (x.opening refused) true up (if refused = true then [.cancel] else []) := by
  obtain ⟨rfl, rfl, before, request, rest, eq, waits, _, inner⟩ := h.asked rfl
  -- Nothing comes before the request any more, since this signal is the request.
  obtain ⟨rfl, rfl, rfl⟩ : before = [] ∧ x = request ∧ up = rest := by
    cases before with
    | nil => simpa using eq
    | cons first before =>
      obtain ⟨rfl, _⟩ := List.cons.inj eq
      exact absurd (waits x List.mem_cons_self) (kind.opensWith_ne opens).2.2
  have outbound : (x.opening refused).outbound = false := by cases x <;> rfl
  have inbound : (x.opening refused).inbound = true ↔ x.closes = true ∨ refused = true := by
    cases x <;> cases kind <;> first | contradiction | simp [Signal.opening, Signal.closes,
      Signal.isEnd]
  have news {y : Signal} (member : y ∈ if refused = true then [Signal.cancel] else []) :
      y = .cancel ∧ refused = true := by
    split at member
    next was => exact ⟨List.mem_singleton.mp member, was⟩
    · contradiction
  exact
    { sends := fun hs => by
        rcases h.sends hs with hr | ⟨y, told, closes⟩
        · contradiction
        · rcases List.mem_cons.mp told with rfl | later
          · exact .inl (inbound.mpr (.inl closes))
          · exact .inr ⟨y, later, closes⟩
      taken := fun hr => by
        rcases inbound.mp hr with closes | rfl
        · exact .inl (h.closed x List.mem_cons_self closes)
        · exact .inr (.inl List.mem_cons_self)
      takes := fun hs => by
        have request := kind.opensWith_ne opens
        rcases h.takes hs with hr | told | told
        · contradiction
        · exact .inr (.inl ((List.mem_cons.mp told).resolve_left (Ne.symm request.1)))
        · exact .inr (.inr ((List.mem_cons.mp told).resolve_left (Ne.symm request.2.1)))
      sent := fun hr => by
        rw [outbound] at hr
        contradiction
      closed := fun y member => h.closed y (List.mem_cons_of_mem _ member)
      canceled := fun member => h.canceled (List.mem_cons_of_mem _ member)
      failed := fun member => h.failed (List.mem_cons_of_mem _ member)
      ended := fun y member ends => by
        obtain ⟨rfl, _⟩ := news member
        contradiction
      refused := fun member => inbound.mpr (.inr (news member).2)
      broken := fun member => by
        obtain ⟨same, _⟩ := news member
        contradiction
      asked := fun absent => by contradiction
      opened := fun _ => inner
      answers := fun y member => by
        obtain ⟨rfl, _⟩ := news member
        rfl
      single := fun _ member => by
        obtain ⟨same, _⟩ := news member
        contradiction
      oneWay := fun other => by
        refine ⟨(h.oneWay other).1, fun _ => inbound.mpr (.inl ?_)⟩
        cases kind <;> cases x <;> first | contradiction | rfl }

/-! ### Asking -/

/-- A requester has just asked for a stream. -/
theorem of_request {before : List Signal} (waits : ∀ y ∈ before, y = .requestN)
    (opens : kind.opensWith x = true) (goes : s.inbound = false) (sends : s.outbound = x.closes) :
    Talk kind s {} false (before ++ [x]) [] := by
  have last {y : Signal} (member : y ∈ before ++ [x]) : y = .requestN ∨ y = x :=
    (List.mem_append.mp member).imp (waits y) List.mem_singleton.mp
  have request := kind.opensWith_ne opens
  exact
    { sends := fun hs => .inr ⟨x, by simp, by rw [← sends, hs]⟩
      taken := fun absent => by contradiction
      takes := fun hs => by
        rw [goes] at hs
        contradiction
      sent := fun absent => by contradiction
      closed := fun y member closes => by
        rcases last member with rfl | rfl
        · contradiction
        · rw [sends, closes]
      canceled := fun member => by
        rcases last member with same | same
        · contradiction
        · exact absurd same.symm request.1
      failed := fun member => by
        rcases last member with same | same
        · contradiction
        · exact absurd same.symm request.2.1
      ended := fun _ absent => by contradiction
      refused := fun absent => by contradiction
      broken := fun absent => by contradiction
      asked := fun _ =>
        ⟨rfl, rfl, before, x, [], rfl, waits, opens, fun _ absent => by contradiction⟩
      opened := fun present => by contradiction
      answers := fun _ absent => by contradiction
      single := fun _ absent => by contradiction
      oneWay := fun other => by
        refine ⟨?_, fun present => by contradiction⟩
        rw [sends]
        cases kind <;> cases x <;> first | contradiction | rfl }

end Talk
end StreamMux
