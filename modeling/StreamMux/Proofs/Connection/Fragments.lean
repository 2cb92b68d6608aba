import StreamMux.Proofs.Connection.Isolation
import StreamMux.Proofs.Exchange.Fragments

/-!
# Fragments among other frames

A payload may come in one frame or in several, with frames of other streams between them. Until the
last fragment nothing of it is to be seen (`Gathers.handle`), and then everything is as it would be
after the one frame (`receive_alike`). The frames between make no difference (`handle_elsewhere`).

Source: `Connection.dispatch`, `Connection.receive`, `Connection.accept`, `Exchange.receive`.
-/
namespace StreamMux

/-- Fragments of one payload: all but the last announce more, and all but the first are PAYLOAD. -/
structure PayloadFrame.Fragments (first : PayloadFrame) (middle : List PayloadFrame)
    (last : PayloadFrame) : Prop where
  begins : first.isPart = true
  goesOn : ∀ f ∈ middle, f.type = .payload ∧ f.isPart = true
  ends : last.type = .payload ∧ last.isPart = false

namespace Connection

/-- What can be seen of a stream: its state, the place of the stream that is registered under its
id, and those of the waiting frames that are its own. -/
structure View where
  stream : Exchange
  registered : Option Nat
  waiting : List Frame

/-- The stream of an id, at its place. -/
def view (c : Connection) (id : UInt32) (i : Nat) : View where
  stream := c.stream i
  registered := c.registry.get? id
  waiting := c.waiting.filter (·.id == id)

/-- Handles frames one after the other, each at the time at which it comes. -/
def handle (keepsItems : Payload → Bool) (c : Connection) :
    List (Duration × Frame) → Connection × List Work
  | [] => (c, [])
  | (now, frame) :: later =>
    let (d, started) := c.dispatch keepsItems now frame
    let (e, works) := d.handle keepsItems later
    (e, started.toList ++ works)

/-- The frames of an id among those that come. -/
def framesOf (id : UInt32) (arrivals : List (Duration × Frame)) : List Frame :=
  (arrivals.map (·.2)).filter (·.id == id)

variable {id : UInt32} {c d e : Connection} {i : Nat} {s t : Exchange} (keepsItems : Payload → Bool)

theorem works_cons (c : Connection) (now : Duration) (frame : Frame)
    (later : List (Duration × Frame)) :
    (c.handle keepsItems ((now, frame) :: later)).2 =
      (c.dispatch keepsItems now frame).2.toList ++
        ((c.dispatch keepsItems now frame).1.handle keepsItems later).2 := rfl

theorem handle_append (c : Connection) (early late : List (Duration × Frame)) :
    (c.handle keepsItems (early ++ late)).1 =
        ((c.handle keepsItems early).1.handle keepsItems late).1 ∧
      (c.handle keepsItems (early ++ late)).2 = (c.handle keepsItems early).2 ++
        ((c.handle keepsItems early).1.handle keepsItems late).2 := by
  induction early generalizing c with
  | nil => exact ⟨rfl, rfl⟩
  | cons arrival early ih =>
    obtain ⟨same, works⟩ := ih (c.dispatch keepsItems arrival.1 arrival.2).1
    refine ⟨same, ?_⟩
    simp only [List.cons_append, handle, works, List.append_assoc]

@[simp] theorem framesOf_append (id : UInt32) (early late : List (Duration × Frame)) :
    framesOf id (early ++ late) = framesOf id early ++ framesOf id late := by
  rw [framesOf, List.map_append, List.filter_append]
  rfl

theorem framesOf_eq_append {arrivals : List (Duration × Frame)} {first second : List Frame}
    (own : framesOf id arrivals = first ++ second) :
    ∃ early late, arrivals = early ++ late ∧ framesOf id early = first ∧
      framesOf id late = second := by
  obtain ⟨_, _, frames, rfl, rfl⟩ := List.filter_eq_append_iff.mp own
  obtain ⟨early, late, rfl, rfl, rfl⟩ := List.map_eq_append_iff.mp frames
  exact ⟨early, late, rfl, rfl, rfl⟩

/-- Where the first frame of an id comes. -/
theorem split_of_framesOf {arrivals : List (Duration × Frame)} {frame : Frame} {rest : List Frame}
    (own : framesOf id arrivals = frame :: rest) :
    ∃ early now late, arrivals = early ++ (now, frame) :: late ∧ framesOf id early = [] ∧
      frame.id = id ∧ framesOf id late = rest := by
  induction arrivals with
  | nil => contradiction
  | cons arrival arrivals ih =>
    obtain ⟨now, other⟩ := arrival
    by_cases named : other.id = id
    · have head : framesOf id ((now, other) :: arrivals) = other :: framesOf id arrivals := by
        simp [framesOf, named]
      rw [head] at own
      cases own
      exact ⟨[], now, arrivals, rfl, rfl, named, rfl⟩
    · have skip : framesOf id ((now, other) :: arrivals) = framesOf id arrivals := by
        simp [framesOf, named]
      obtain ⟨early, time, late, rfl, none, same, rest⟩ := ih (skip ▸ own)
      exact ⟨(now, other) :: early, time, late, rfl, by simpa [framesOf, named] using none, same,
        rest⟩

/-! ### Frames of other streams -/

/-- The stream of an id is at a place. -/
structure Has (c : Connection) (id : UInt32) (i : Nat) : Prop where
  placed : c.Placed
  bound : i < c.streams.size
  named : (c.stream i).id = id

theorem Has.grows (h : c.Has id i) (grows : c.Grows d) : d.Has id i where
  placed := grows.placed h.placed
  bound := Nat.lt_of_lt_of_le h.bound grows.size
  named := (grows.names i h.bound).trans h.named

/-- Nothing happens to a stream, in any number of steps: no work was started for it either. -/
structure Spares (id : UInt32) (i : Nat) (c d : Connection) (works : List Work) : Prop
    extends c.Grows d where
  view : d.view id i = c.view id i
  works : ∀ work ∈ works, work.place? ≠ some i

theorem Confined.view_eq {k : UInt32} (h : Confined k c d) (has : c.Has id i) (other : k ≠ id) :
    d.view id i = c.view id i := by
  obtain ⟨added, ids, eq⟩ := h.queue
  have waiting : d.waiting = c.waiting ++ if c.queue.accepts then added else [] := by
    rw [Connection.waiting, eq]
    exact toList_foldl_enqueue added c.queue
  have foreign : (if c.queue.accepts then added else []).filter (·.id == id) = [] := by
    split
    · exact List.filter_eq_nil_iff.mpr fun f hf => by simpa [ids f hf] using other
    · rfl
  have same : d.stream i = c.stream i :=
    h.other has.placed has.bound (by rw [has.named]; exact other.symm)
  rw [Connection.view, Connection.view, same, h.registry id other.symm, waiting,
    List.filter_append, foreign, List.append_nil]

theorem Untouched.view_eq (h : Untouched c d) : d.view id i = c.view id i := by
  rw [view, view, stream, stream, waiting, waiting, h.streams, h.registry, h.normal]

theorem Spares.trans {works works' : List Work} (h : Spares id i c d works)
    (h' : Spares id i d e works') : Spares id i c e (works ++ works') where
  toGrows := h.toGrows.trans h'.toGrows
  view := h'.view.trans h.view
  works := List.forall_mem_append.mpr ⟨h.works, h'.works⟩

theorem dispatch_elsewhere (has : c.Has id i) (now : Duration) {frame : Frame}
    (other : frame.id ≠ id) (stays : frame.isClosing = false) :
    Spares id i c (c.dispatch keepsItems now frame).1
      (c.dispatch keepsItems now frame).2.toList := by
  cases general : frame.isGeneral with
  | true =>
    obtain ⟨untouched, none⟩ := dispatch_untouched c keepsItems now general
    refine ⟨untouched.toGrows, untouched.view_eq, fun work started => ?_⟩
    rw [none work (by simpa using started)]
    simp
  | false =>
    obtain ⟨confined, starts⟩ := dispatch_confined has.placed keepsItems now general stays
    refine ⟨confined.toGrows, confined.view_eq has other, fun work started place => ?_⟩
    obtain ⟨j, place', _, name⟩ := starts work (by simpa using started)
    rw [place, Option.some.injEq] at place'
    rw [← place', (has.grows confined.toGrows).named] at name
    exact other name.symm

theorem handle_elsewhere (has : c.Has id i) {arrivals : List (Duration × Frame)}
    (none : framesOf id arrivals = [])
    (stays : ∀ arrival ∈ arrivals, arrival.2.isClosing = false) :
    Spares id i c (c.handle keepsItems arrivals).1 (c.handle keepsItems arrivals).2 := by
  induction arrivals generalizing c with
  | nil => exact ⟨.refl c, rfl, by simp [handle]⟩
  | cons arrival arrivals ih =>
    obtain ⟨other, later⟩ : arrival.2.id ≠ id ∧ framesOf id arrivals = [] := by
      simpa [framesOf] using none
    have first := dispatch_elsewhere keepsItems has arrival.1 other (stays arrival (by simp))
    exact first.trans (ih (has.grows first.toGrows) later fun arrival member =>
      stays arrival (List.mem_cons_of_mem _ member))

/-! ### Frames of the stream itself -/

theorem filter_of_elsewhere {works : List Work} (none : ∀ work ∈ works, work.place? ≠ some i) :
    works.filter (·.place? == some i) = [] :=
  List.filter_eq_nil_iff.mpr fun work member => by simpa using none work member

/-- The work that a frame starts is for the stream that takes it. -/
theorem filter_receive (c : Connection) (i : Nat) (f : PayloadFrame) :
    (c.receive keepsItems i f).2.toList.filter (·.place? == some i) =
      (c.receive keepsItems i f).2.toList := by
  refine List.filter_eq_self.mpr fun work started => ?_
  obtain ⟨payload, _, opens⟩ := Option.bind_eq_some_iff.mp (Option.mem_toList.mp started)
  simpa using place_ofRequest opens

/-- The stream that takes a frame: one that is registered and can take a payload, or one that the
peer opens with the frame. -/
inductive Addressed (c : Connection) (f : PayloadFrame) : Nat → Exchange → Prop
  | registered {i : Nat} (found : c.registry.get? f.id = some i) (plain : f.type = .payload)
      (next : f.next = true) (isOpen : (c.stream i).closed.inbound = false)
      (idle : (c.stream i).fragments = none) : Addressed c f i (c.stream i)
  | requested {kind : StreamKind} (opens : StreamKind.ofRequest? f.type = some kind)
      (free : c.registry.get? f.id = none) (foreign : c.side.owns f.id = false) :
      Addressed c f c.streams.size (.responder f.id kind f.initial)

/-- A stream that takes a frame can take a payload, and the frame carries one. -/
theorem Addressed.carries {f : PayloadFrame} (h : c.Addressed f i s) :
    s.closed.inbound = false ∧ s.fragments = none ∧
      (f.next = true ∨ f.type.opensStream = true) := by
  cases h with
  | registered found plain next isOpen idle => exact ⟨isOpen, idle, .inl next⟩
  | @requested kind opens free foreign =>
    have request : f.type.opensStream = true := by
      revert opens
      cases f.type <;> simp [StreamKind.ofRequest?, FrameType.opensStream]
    refine ⟨?_, rfl, .inr request⟩
    revert opens
    cases f.type <;> simp [StreamKind.ofRequest?] <;> rintro rfl <;> rfl

/-- A PAYLOAD frame comes to the stream that is registered under its id. -/
theorem dispatch_registered (found : c.registry.get? id = some i) (now : Duration)
    {f : PayloadFrame} (named : f.id = id) (plain : f.type = .payload) :
    c.dispatch keepsItems now (.payload f) = c.receive keepsItems i f := by
  unfold dispatch
  dsimp only
  rw [named, found]
  dsimp only
  rw [plain, if_neg (by decide)]

/-- The stream of an id is registered, and ready for a payload. -/
structure Ready (c : Connection) (id : UInt32) (i : Nat) : Prop extends c.Has id i where
  found : c.registry.get? id = some i
  isOpen : (c.stream i).closed.inbound = false
  idle : (c.stream i).fragments = none

/-- A frame like the given one is received by a stream that is ready, in a connection that differs
at most in that this stream is there. -/
structure Reaches (c d : Connection) (f : PayloadFrame) (i : Nat) (s : Exchange) : Prop where
  ready : d.Ready f.id i
  view : d.view f.id i = { c.view f.id i with stream := s, registered := some i }
  receives : ∀ now (g : PayloadFrame), g.id = f.id → g.type = f.type → g.initial = f.initial →
    c.dispatch keepsItems now (.payload g) = d.receive keepsItems i g

theorem Addressed.reaches {f : PayloadFrame} (h : c.Addressed f i s) (placed : c.Placed) :
    ∃ d, Reaches keepsItems c d f i s := by
  obtain ⟨isOpen, idle, _⟩ := h.carries
  cases h with
  | registered found plain next _ _ =>
    obtain ⟨bound, named⟩ := placed found
    exact ⟨c, ⟨⟨placed, bound, named⟩, found, isOpen, idle⟩, by rw [view, found],
      fun now g id type _ => dispatch_registered keepsItems found now id (type.trans plain)⟩
  | @requested kind opens free foreign =>
    let t := Exchange.responder f.id kind f.initial
    obtain ⟨registry, inserted⟩ :
        ∃ registry, c.registry.insert? t.id c.streams.size = some registry := by
      rw [Registry.insert?, Registry.contains, show c.registry.get? t.id = none from free]
      exact ⟨_, rfl⟩
    let d : Connection := { c with registry, streams := c.streams.push t }
    have last : d.stream c.streams.size = t := by rw [stream_push rfl rfl, if_pos rfl]
    have found : d.registry.get? f.id = some c.streams.size :=
      (Registry.get?_insert? inserted f.id).trans (if_pos rfl)
    have has : d.Has f.id c.streams.size :=
      ⟨placed_insert placed inserted, by simp [d], by rw [last]; rfl⟩
    refine ⟨d, ⟨has, found, by rw [last]; exact isOpen, by rw [last]; exact idle⟩, ?_,
      fun now g id type initial => ?_⟩
    · rw [view, last, found]
      rfl
    · unfold dispatch
      dsimp only
      rw [id, free]
      dsimp only
      rw [accept, type, opens]
      dsimp only
      rw [id, initial, foreign, if_neg Bool.false_ne_true, insert?, inserted]
      rfl

/-- What is seen of a stream that makes a step. -/
theorem view_commit (has : c.Has id i) (found : c.registry.get? id = some i)
    {frames : List Frame} (ids : ∀ f ∈ frames, f.id = id) :
    (c.commit i t frames).view id i =
      { stream := t
        registered := if !(c.stream i).isOver && t.isOver then none else some i
        waiting := (c.view id i).waiting ++ if c.queue.accepts then frames else [] } := by
  have stream : (c.commit i t frames).stream i = t := by
    rw [stream_commit c has.bound, if_pos rfl]
  have registered : (c.commit i t frames).registry.get? id =
      if !(c.stream i).isOver && t.isOver then none else some i := by
    simp only [commit]
    split
    · rw [has.named, Registry.get?_erase, if_pos rfl]
    · exact found
  have own : (if c.queue.accepts then frames else []).filter (·.id == id) =
      if c.queue.accepts then frames else [] := by
    refine List.filter_eq_self.mpr fun f hf => ?_
    split at hf
    · simpa using ids f hf
    · simp at hf
  rw [view, stream, registered, waiting_commit, List.filter_append, own]
  rfl

/-- What is seen of a stream that takes a frame, and the work for it. -/
theorem receive_view (has : c.Has id i) (found : c.registry.get? id = some i) (f : PayloadFrame)
    {r : Exchange.Reception}
    (received : (c.stream i).receive { batch := c.config.prefetch, keepsItems } f = r) :
    (c.receive keepsItems i f).1.view id i =
        { stream := r.stream
          registered := if !(c.stream i).isOver && r.stream.isOver then none else some i
          waiting := (c.view id i).waiting ++ if c.queue.accepts then r.frames else [] } ∧
      (c.receive keepsItems i f).2 = r.started.bind (Work.ofRequest? (c.stream i).kind i) := by
  have own := Exchange.receive_own (c.stream i) { batch := c.config.prefetch, keepsItems } f
  rw [received, has.named] at own
  rw [receive, received]
  exact ⟨view_commit has found own.2, rfl⟩

theorem grows_receive (c : Connection) (i : Nat) (f : PayloadFrame) :
    c.Grows (c.receive keepsItems i f).1 :=
  grows_commit c i _ (Exchange.receive_own (c.stream i) _ f).1

/-- A fragment after which more comes is kept, and nothing else happens. -/
theorem receive_gathers (has : c.Has id i) (found : c.registry.get? id = some i)
    (isOpen : (c.stream i).closed.inbound = false) {f : PayloadFrame}
    (carries : (c.stream i).carriesPayload f = true) (more : f.isPart = true) :
    c.Grows (c.receive keepsItems i f).1 ∧
      (c.receive keepsItems i f).1.view id i = { c.view id i with
        stream := { c.stream i with fragments := some ((c.stream i).gathered f) } } ∧
      (c.receive keepsItems i f).2 = none := by
  have received :=
    (c.stream i).receive_part { batch := c.config.prefetch, keepsItems } isOpen carries more
  obtain ⟨seen, started⟩ := receive_view keepsItems has found f received
  have stays : (!(c.stream i).isOver && (c.stream i).isOver) = false := Bool.not_and_self _
  have nothing : (if c.queue.accepts then ([] : List Frame) else []) = [] := ite_self _
  refine ⟨grows_receive keepsItems c i f, ?_, started⟩
  rw [seen]
  change View.mk _ (if (!(c.stream i).isOver && (c.stream i).isOver) = true then none else some i)
    ((c.view id i).waiting ++ if c.queue.accepts then [] else []) = _
  rw [stays, nothing, List.append_nil, if_neg Bool.false_ne_true, ← found]
  rfl

/-- Two connections in which a stream differs only in what has begun of a payload: what completes
the payload in the one does what the whole payload does in the other. -/
theorem receive_alike (has : c.Has id i) (has' : d.Has id i)
    (found : c.registry.get? id = some i) (config : d.config = c.config)
    (accepts : d.queue.accepts = c.queue.accepts) {got : Payload}
    (gathered : d.view id i =
      { c.view id i with stream := { c.stream i with fragments := some got } })
    {f g : PayloadFrame}
    (same : ∀ uptake, ({ c.stream i with fragments := some got }).receive uptake g =
      (c.stream i).receive uptake f) :
    (d.receive keepsItems i g).1.view id i = (c.receive keepsItems i f).1.view id i ∧
      (d.receive keepsItems i g).2 = (c.receive keepsItems i f).2 := by
  obtain ⟨seen, started⟩ := receive_view keepsItems has found f rfl
  have stream : d.stream i = { c.stream i with fragments := some got } :=
    congrArg View.stream gathered
  have found' : d.registry.get? id = some i := (congrArg View.registered gathered).trans found
  have waiting : (d.view id i).waiting = (c.view id i).waiting := by rw [gathered]
  obtain ⟨seen', started'⟩ := receive_view keepsItems has' found' g (by rw [stream, config, same])
  rw [seen, seen', started, started', stream, waiting, accepts]
  exact ⟨rfl, rfl⟩

/-! ### Many frames -/

/-- This much has come of a payload for a stream, and nothing else happened to the stream. -/
structure Gathers (id : UInt32) (i : Nat) (c d : Connection) (got : Payload) (works : List Work) :
    Prop extends c.Grows d where
  view : d.view id i =
    { c.view id i with stream := { c.stream i with fragments := some got } }
  works : ∀ work ∈ works, work.place? ≠ some i

namespace Gathers

variable {got : Payload} {works works' : List Work}

theorem found (h : Gathers id i c d got works) (ready : c.Ready id i) :
    d.registry.get? id = some i :=
  (congrArg View.registered h.view).trans ready.found

theorem stream (h : Gathers id i c d got works) :
    d.stream i = { c.stream i with fragments := some got } :=
  congrArg View.stream h.view

theorem spares (h : Gathers id i c d got works) (spares : Spares id i d e works') :
    Gathers id i c e got (works ++ works') where
  toGrows := h.toGrows.trans spares.toGrows
  view := spares.view.trans h.view
  works := List.forall_mem_append.mpr ⟨h.works, spares.works⟩

/-- One fragment more. -/
theorem part (h : Gathers id i c d got works) (ready : c.Ready id i) (now : Duration)
    {f : PayloadFrame} (named : f.id = id) (plain : f.type = .payload) (more : f.isPart = true) :
    Gathers id i c (d.dispatch keepsItems now (.payload f)).1 (got.append f.payload)
      (works ++ (d.dispatch keepsItems now (.payload f)).2.toList) := by
  have carries : (d.stream i).carriesPayload f = true := by
    simp [Exchange.carriesPayload, h.stream]
  obtain ⟨grows, seen, none⟩ := receive_gathers keepsItems (ready.toHas.grows h.toGrows)
    (h.found ready) (by rw [h.stream]; exact ready.isOpen) carries more
  rw [dispatch_registered keepsItems (h.found ready) now named plain, none, Option.toList_none,
    List.append_nil]
  refine ⟨h.toGrows.trans grows, ?_, h.works⟩
  rw [seen, h.view, h.stream]
  rfl

/-- Fragments after which more comes are kept one behind the other, whatever comes between them. -/
theorem handle {seen : List Payload} (h : Gathers id i c d (.concat seen) works)
    (ready : c.Ready id i) {parts : List PayloadFrame}
    (goesOn : ∀ f ∈ parts, f.type = .payload ∧ f.isPart = true)
    {arrivals : List (Duration × Frame)} (own : framesOf id arrivals = parts.map .payload)
    (stays : ∀ arrival ∈ arrivals, arrival.2.isClosing = false) :
    Gathers id i c (d.handle keepsItems arrivals).1 (.concat (seen ++ parts.map (·.payload)))
      (works ++ (d.handle keepsItems arrivals).2) := by
  induction parts generalizing d seen works arrivals with
  | nil =>
    rw [List.map_nil, List.append_nil]
    exact h.spares (handle_elsewhere keepsItems (ready.toHas.grows h.toGrows) own stays)
  | cons f parts ih =>
    obtain ⟨early, now, late, rfl, none, named, rest⟩ := split_of_framesOf own
    obtain ⟨plain, more⟩ := goesOn f (by simp)
    have waited := h.spares (handle_elsewhere keepsItems (ready.toHas.grows h.toGrows) none
      fun arrival member => stays arrival (by simp [member]))
    have kept := waited.part keepsItems ready now named plain more
    rw [← Payload.concat_snoc] at kept
    have later := ih kept (fun g member => goesOn g (List.mem_cons_of_mem _ member)) rest
      fun arrival member => stays arrival (by simp [member])
    obtain ⟨same, started⟩ := handle_append keepsItems d early ((now, .payload f) :: late)
    rw [same, started]
    simpa [Connection.handle] using later

/-- The last fragment does what the whole frame would have done. -/
theorem last {first last : PayloadFrame} {middle : List PayloadFrame}
    (h : Gathers id i c d (.concat ((first :: middle).map (·.payload))) works)
    (ready : c.Ready id i) (begins : first.next = true ∨ first.type.opensStream = true)
    (named : last.id = id) (ends : last.type = .payload ∧ last.isPart = false) (now : Duration) :
    c.Grows (d.dispatch keepsItems now (.payload last)).1 ∧
      (d.dispatch keepsItems now (.payload last)).1.view id i =
        (c.receive keepsItems i (first.whole middle last)).1.view id i ∧
      (d.dispatch keepsItems now (.payload last)).2 =
        (c.receive keepsItems i (first.whole middle last)).2 := by
  have payload : (first.whole middle last).payload =
      (Payload.concat ((first :: middle).map PayloadFrame.payload)).append last.payload := by
    rw [← Payload.concat_snoc]
    exact congrArg Payload.concat List.map_append
  have carries : (c.stream i).carriesPayload (first.whole middle last) = true := by
    simpa [Exchange.carriesPayload, PayloadFrame.whole, ready.idle] using begins
  rw [dispatch_registered keepsItems (h.found ready) now named ends.1]
  refine ⟨h.toGrows.trans (grows_receive keepsItems d i last), ?_⟩
  exact receive_alike keepsItems ready.toHas (ready.toHas.grows h.toGrows) ready.found h.config
    h.accepts h.view fun uptake =>
      Exchange.receive_last uptake ready.isOpen ready.idle carries rfl ends.2 rfl payload

end Gathers

section

variable {first last : PayloadFrame} {middle : List PayloadFrame}
  {later : List (Duration × Frame)}

/-- The first fragment begins a payload, to which those in the middle are added. -/
theorem Reaches.gathers (h : Reaches keepsItems c d first i s)
    (carries : s.fragments = none ∧ (first.next = true ∨ first.type.opensStream = true))
    (begins : first.isPart = true) (now : Duration)
    (goesOn : ∀ f ∈ middle, f.type = .payload ∧ f.isPart = true)
    (own : framesOf first.id later = middle.map .payload)
    (stays : ∀ arrival ∈ later, arrival.2.isClosing = false) :
    Gathers first.id i d (c.handle keepsItems ((now, .payload first) :: later)).1
      (.concat ((first :: middle).map (·.payload)))
      (c.handle keepsItems ((now, .payload first) :: later)).2 := by
  have stream : d.stream i = s := congrArg View.stream h.view
  have begun : Gathers first.id i d (c.dispatch keepsItems now (.payload first)).1
      (.concat [first.payload]) (c.dispatch keepsItems now (.payload first)).2.toList := by
    obtain ⟨grows, kept, none⟩ := receive_gathers keepsItems h.ready.toHas h.ready.found
      h.ready.isOpen (by simpa [Exchange.carriesPayload, stream, carries.1] using carries.2) begins
    rw [h.receives now first rfl rfl rfl, none]
    refine ⟨grows, ?_, by simp⟩
    rw [kept, Payload.concat_singleton, Exchange.gathered, stream, carries.1]
  exact begun.handle keepsItems h.ready goesOn own stays

/-- When the last fragment has come, all is as after the whole frame. -/
theorem Reaches.completes (h : Reaches keepsItems c d first i s)
    (carries : s.fragments = none ∧ (first.next = true ∨ first.type.opensStream = true))
    (fragments : first.Fragments middle last) (now : Duration)
    (own : framesOf first.id later = (middle ++ [last]).map .payload)
    (stays : ∀ arrival ∈ later, arrival.2.isClosing = false) :
    (c.handle keepsItems ((now, .payload first) :: later)).1.view first.id i =
      (d.receive keepsItems i (first.whole middle last)).1.view first.id i ∧
    (c.handle keepsItems ((now, .payload first) :: later)).2.filter (·.place? == some i) =
      (d.receive keepsItems i (first.whole middle last)).2.toList := by
  rw [List.map_append] at own
  obtain ⟨early, rest, rfl, ownEarly, ownRest⟩ := framesOf_eq_append own
  obtain ⟨between, time, after, rfl, none, named, nothing⟩ := split_of_framesOf ownRest
  have ownMiddle : framesOf first.id (early ++ between) = middle.map .payload := by
    rw [framesOf_append, ownEarly, none, List.append_nil]
  have gathers := h.gathers keepsItems carries fragments.begins now fragments.goesOn ownMiddle
    fun arrival member => stays arrival (by
      rcases List.mem_append.mp member with before | later <;> simp [*])
  obtain ⟨grows, seen, started⟩ :=
    gathers.last keepsItems h.ready carries.2 named fragments.ends time
  have spares := handle_elsewhere keepsItems (h.ready.toHas.grows grows) nothing
    fun arrival member => stays arrival (by simp [member])
  obtain ⟨same, works⟩ := handle_append keepsItems c ((now, .payload first) :: (early ++ between))
    ((time, .payload last) :: after)
  rw [List.cons_append, List.append_assoc] at same works
  rw [same, works]
  refine ⟨spares.view.trans seen, ?_⟩
  rw [List.filter_append, filter_of_elsewhere gathers.works, List.nil_append, works_cons,
    List.filter_append, filter_of_elsewhere spares.works, List.append_nil, started, filter_receive]

end

/-- In every state that a connection can come to, a payload in fragments does to a stream what it
does in one frame, with frames of other streams between the fragments or not.

* Until the last fragment has come, nothing is seen of the payload: the stream is as it was but for
  what it keeps, no frame is enqueued for it, and no work is started.
* Then the stream, its registration and the frames enqueued for it are those after the one frame,
  and so is the work that was started. -/
theorem fragments_agree {side : Side} {config : ConnectionConfig} {setup : Option Setup}
    {start : Duration} {c : Connection} {sent : Nat → List Frame}
    (run : Run (new side config setup start) sent c) (keepsItems : Payload → Bool)
    {first last : PayloadFrame} {middle : List PayloadFrame}
    (fragments : first.Fragments middle last) {i : Nat} {s : Exchange}
    (addressed : c.Addressed first i s) (now : Duration) {later : List (Duration × Frame)}
    (own : framesOf first.id later = (middle ++ [last]).map .payload)
    (stays : ∀ arrival ∈ later, arrival.2.isClosing = false) :
    (∀ early late, later = early ++ late → framesOf first.id late ≠ [] →
      ∃ parts, parts <+: middle ∧ framesOf first.id early = parts.map .payload ∧
        (c.handle keepsItems ((now, .payload first) :: early)).1.view first.id i =
          { c.view first.id i with
            stream := { s with fragments := some (.concat ((first :: parts).map (·.payload))) }
            registered := some i } ∧
        ∀ work ∈ (c.handle keepsItems ((now, .payload first) :: early)).2,
          work.place? ≠ some i) ∧
    (c.handle keepsItems ((now, .payload first) :: later)).1.view first.id i =
      (c.dispatch keepsItems now (.payload (first.whole middle last))).1.view first.id i ∧
    (c.handle keepsItems ((now, .payload first) :: later)).2.filter (·.place? == some i) =
      (c.dispatch keepsItems now (.payload (first.whole middle last))).2.toList := by
  obtain ⟨_, carries⟩ := addressed.carries
  obtain ⟨d, reaches⟩ :=
    addressed.reaches keepsItems (run.sound (sound_new side config setup start)).placed
  refine ⟨fun early late split rest => ?_, ?_⟩
  · obtain ⟨front, frame, eq⟩ := (List.eq_nil_or_concat (framesOf first.id late)).resolve_left rest
    rw [split, framesOf_append, eq, List.concat_eq_append, ← List.append_assoc,
      List.map_append] at own
    obtain ⟨parts, others, rfl, ownEarly, _⟩ :=
      List.map_eq_append_iff.mp (List.append_inj_left' own rfl).symm
    have gathers := reaches.gathers keepsItems carries fragments.begins now
      (fun f member => fragments.goesOn f (List.mem_append_left _ member)) ownEarly.symm
      fun arrival member => stays arrival (by simp [split, member])
    refine ⟨parts, List.prefix_append _ _, ownEarly.symm, ?_, gathers.works⟩
    rw [gathers.view, reaches.view, show d.stream i = s from congrArg View.stream reaches.view]
  · rw [reaches.receives now (first.whole middle last) rfl rfl rfl]
    exact reaches.completes keepsItems carries fragments now own stays

/-- A request in three fragments, between which a KEEPALIVE and a request for another stream come.
It is answered once, when it is whole. -/
theorem fragments_agree_of_request :
    let c := new .server {} none 0
    let first : PayloadFrame :=
      { type := .requestResponse, id := 1, follows := true, payload := .ofText "a" }
    let second : PayloadFrame := { id := 1, follows := true, payload := .ofText "b" }
    let last : PayloadFrame := { id := 1, payload := .ofText "c" }
    let other : Frame := .payload (.requestStream 3 1 Payload.empty)
    let later : List (Duration × Frame) :=
      [(0, .keepAlive true 0 .empty), (0, .payload second), (0, other), (0, .payload last)]
    let all := c.handle (fun _ => true) ((0, .payload first) :: later)
    let once := c.dispatch (fun _ => true) 0 (.payload (first.whole [second] last))
    all.1.view 1 0 = once.1.view 1 0 ∧
      all.2.filter (·.place? == some 0) =
        [.response 0 (.concat [.ofText "a", .ofText "b", .ofText "c"])] := by
  intro c first second last other later all once
  have addressed : c.Addressed first 0 (.responder 1 .responderResponse 0) :=
    .requested rfl rfl (by decide)
  have fragments : first.Fragments [second] last :=
    ⟨rfl, by simp [second, PayloadFrame.isPart], rfl, rfl⟩
  have own : framesOf first.id later = ([second] ++ [last]).map .payload := rfl
  have law := fragments_agree Run.start (fun _ => true) fragments addressed 0 own (by decide)
  exact ⟨law.2.1, law.2.2⟩

end Connection
end StreamMux
