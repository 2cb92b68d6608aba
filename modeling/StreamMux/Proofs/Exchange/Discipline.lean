import StreamMux.Proofs.Exchange.Effect

/-!
# What one end may write on a stream

Each kind of stream has its grammar of frames (`Lawful`). The frames that were written leave their
trace in the state of the stream (`Tracks`), and from that state a move can only write what the
grammar lets follow (`Effect.lawful`).
-/
namespace StreamMux

/-- What a frame says about a stream, apart from its contents. -/
inductive Signal where
  | requestResponse
  | requestStream
  | requestChannel (complete : Bool)
  | requestN
  | cancel
  | item
  | completion
  /-- An item that is the last. -/
  | lastItem
  | error
  | other
  deriving DecidableEq

namespace Signal

/-- The signal belongs to the sequence of the end that sends it. REQUEST_N and CANCEL are about the
sequence of the peer. -/
def isData : Signal → Bool
  | requestN | cancel => false
  | _ => true

/-- The sequence of the end that sends it is over with it. -/
def isEnd : Signal → Bool
  | requestChannel complete => complete
  | completion | lastItem | error => true
  | _ => false

end Signal

def Frame.signal : Frame → Signal
  | .payload f =>
    match f.type, f.next, f.complete with
    | .requestResponse, _, _ => .requestResponse
    | .requestStream, _, _ => .requestStream
    | .requestChannel, _, complete => .requestChannel complete
    | .payload, true, false => .item
    | .payload, false, true => .completion
    | .payload, true, true => .lastItem
    | _, _, _ => .other
  | .requestN .. => .requestN
  | .cancel _ => .cancel
  | .error .. => .error
  | _ => .other

namespace Frame

@[simp] theorem signal_requestResponse (id : UInt32) (p : Payload) :
    (payload (.requestResponse id p)).signal = .requestResponse := rfl

@[simp] theorem signal_requestStream (id initial : UInt32) (p : Payload) :
    (payload (.requestStream id initial p)).signal = .requestStream := rfl

@[simp] theorem signal_requestChannel (id initial : UInt32) (first : Payload) (complete : Bool) :
    (payload (.requestChannel id initial first complete)).signal = .requestChannel complete := rfl

@[simp] theorem signal_item (id : UInt32) (p : Payload) :
    (payload (.item id p)).signal = .item := rfl

@[simp] theorem signal_completion (id : UInt32) :
    (payload (.completion id)).signal = .completion := rfl

@[simp] theorem signal_lastItem (id : UInt32) (p : Payload) :
    (payload (.lastItem id p)).signal = .lastItem := rfl

@[simp] theorem signal_requestN (id n : UInt32) : (requestN id n).signal = .requestN := rfl

@[simp] theorem signal_cancel (id : UInt32) : (cancel id).signal = .cancel := rfl

@[simp] theorem signal_streamFrame (id : UInt32) (f : Failure) :
    (f.streamFrame id).signal = .error := rfl

end Frame

/-- Any number of one signal, and after them at most one of those that end the series. -/
def Series (each : Signal) (ends l : List Signal) : Prop :=
  ∃ n, l = List.replicate n each ∨ ∃ e ∈ ends, l = List.replicate n each ++ [e]

/-- Nothing comes after the signal. -/
def Final (x : Signal) (l : List Signal) : Prop := x ∉ l.dropLast

/-- What the data of a channel of this end is: nothing yet, a request that is complete, or a request
and the items after it with their end. -/
def ChannelData (data : List Signal) : Prop :=
  data = [] ∨ data = [.requestChannel true] ∨
    ∃ rest, data = .requestChannel false :: rest ∧ Series .item [.completion, .error] rest

/-- What this end writes on a stream, from its registration on. -/
def Lawful (l : List Signal) : StreamKind → Prop
  | .requesterResponse => l = [.requestResponse] ∨ l = [.requestResponse, .cancel]
  | .requesterStream => ∃ rest, l = .requestStream :: rest ∧ Series .requestN [.cancel] rest
  | .requesterChannel =>
    ChannelData (l.filter (·.isData)) ∧ Series .requestN [.cancel] (l.filter (!·.isData)) ∧
      (.cancel ∈ l → ∃ complete, .requestChannel complete ∈ l) ∧ Final .cancel l ∧ Final .error l
  | .responderFireAndForget => l = []
  | .responderResponse => l = [] ∨ l = [.lastItem] ∨ l = [.error]
  | .responderStream => Series .item [.completion, .error] l
  | .responderChannel =>
    Series .item [.completion, .error] (l.filter (·.isData)) ∧
      Series .requestN [.cancel] (l.filter (!·.isData)) ∧ Final .error l

/-! ### Longer series -/

theorem Series.nil (each : Signal) (ends : List Signal) : Series each ends [] := ⟨0, .inl rfl⟩

/-- A series without its end is only the one signal. -/
theorem Series.unended {each : Signal} {ends l : List Signal} (h : Series each ends l)
    (goes : ∀ e ∈ ends, e ∉ l) : ∃ n, l = List.replicate n each := by
  obtain ⟨n, plain | ⟨e, he, ended⟩⟩ := h
  · exact ⟨n, plain⟩
  · exact absurd (by simp [ended]) (goes e he)

theorem Series.snoc {each : Signal} {ends l : List Signal} (h : Series each ends l)
    (goes : ∀ e ∈ ends, e ∉ l) : Series each ends (l ++ [each]) := by
  obtain ⟨n, rfl⟩ := h.unended goes
  exact ⟨n + 1, .inl List.replicate_succ'.symm⟩

theorem Series.finish {each e : Signal} {ends l : List Signal} (h : Series each ends l)
    (goes : ∀ e ∈ ends, e ∉ l) (he : e ∈ ends) : Series each ends (l ++ [e]) := by
  obtain ⟨n, rfl⟩ := h.unended goes
  exact ⟨n, .inr ⟨e, he, rfl⟩⟩

theorem Final.snoc {x : Signal} {l : List Signal} (absent : x ∉ l) (y : Signal) :
    Final x (l ++ [y]) := by
  simpa [Final] using absent

/-- The data of a channel that was opened and has not ended goes on. -/
theorem ChannelData.snoc {data : List Signal} {x : Signal} (h : ChannelData data)
    (opened : ∃ complete, .requestChannel complete ∈ data) (goes : ∀ y ∈ data, y.isEnd = false)
    (next : x = .item ∨ x = .completion ∨ x = .error) : ChannelData (data ++ [x]) := by
  rcases h with rfl | rfl | ⟨rest, rfl, series⟩
  · simp at opened
  · simp [Signal.isEnd] at goes
  · have more : ∀ e ∈ [Signal.completion, .error], e ∉ rest := by
      intro e he member
      have := goes e (List.mem_cons_of_mem _ member)
      rcases List.mem_cons.mp he with rfl | he
      · simp [Signal.isEnd] at this
      · simp [List.mem_singleton.mp he, Signal.isEnd] at this
    refine .inr (.inr ⟨rest ++ [x], rfl, ?_⟩)
    rcases next with rfl | rfl | rfl
    · exact series.snoc more
    · exact series.finish more (by simp)
    · exact series.finish more (by simp)

/-! ### What may follow -/

theorem lawful_requestN {kind : StreamKind} {l : List Signal} (h : Lawful l kind)
    (takes : kind.hasConsumer = true) (noCancel : .cancel ∉ l) (noError : .error ∉ l) :
    Lawful (l ++ [.requestN]) kind := by
  cases kind <;> simp only [StreamKind.hasConsumer, Bool.false_eq_true] at takes
  case requesterStream =>
    obtain ⟨rest, rfl, series⟩ := h
    exact ⟨rest ++ [.requestN], rfl, series.snoc (by simpa using noCancel)⟩
  case requesterChannel =>
    obtain ⟨data, control, opened, _, _⟩ := h
    refine ⟨by simpa [Signal.isData] using data, ?_, ?_, .snoc noCancel _, .snoc noError _⟩
    · have longer := control.snoc (by simpa using fun member => absurd member noCancel)
      simpa [Signal.isData] using longer
    · intro member
      simp [noCancel] at member
  case responderChannel =>
    obtain ⟨data, control, _⟩ := h
    refine ⟨by simpa [Signal.isData] using data, ?_, .snoc noError _⟩
    have longer := control.snoc (by simpa using fun member => absurd member noCancel)
    simpa [Signal.isData] using longer

theorem lawful_cancel {kind : StreamKind} {l : List Signal} (h : Lawful l kind)
    (takes : kind.hasConsumer = true ∨ kind = .requesterResponse) (noCancel : .cancel ∉ l)
    (noError : .error ∉ l)
    (opened : kind = .requesterChannel → ∃ complete, .requestChannel complete ∈ l) :
    Lawful (l ++ [.cancel]) kind := by
  cases kind <;> simp [StreamKind.hasConsumer] at takes
  case requesterResponse =>
    rcases h with rfl | rfl
    · exact .inr rfl
    · simp at noCancel
  case requesterStream =>
    obtain ⟨rest, rfl, series⟩ := h
    exact ⟨rest ++ [.cancel], rfl, series.finish (by simpa using noCancel) (by simp)⟩
  case requesterChannel =>
    obtain ⟨data, control, _, _, _⟩ := h
    refine ⟨by simpa [Signal.isData] using data, ?_, ?_, .snoc noCancel _, .snoc noError _⟩
    · have longer := control.finish (e := .cancel)
        (by simpa using fun member => absurd member noCancel) (by simp)
      simpa [Signal.isData] using longer
    · intro _
      obtain ⟨complete, member⟩ := opened rfl
      exact ⟨complete, List.mem_append_left _ member⟩
  case responderChannel =>
    obtain ⟨data, control, _⟩ := h
    refine ⟨by simpa [Signal.isData] using data, ?_, .snoc noError _⟩
    have longer := control.finish (e := .cancel)
      (by simpa using fun member => absurd member noCancel) (by simp)
    simpa [Signal.isData] using longer

/-- An item, or the end of the items. -/
theorem lawful_data {kind : StreamKind} {l : List Signal} {x : Signal} (h : Lawful l kind)
    (sends : kind.needsCredit = true) (goes : ∀ y ∈ l, y.isEnd = false)
    (next : x = .item ∨ x = .completion ∨ x = .error)
    (opened : kind = .requesterChannel →
      .cancel ∉ l ∧ ∃ complete, .requestChannel complete ∈ l) : Lawful (l ++ [x]) kind := by
  have noError : .error ∉ l := fun member => by simpa [Signal.isEnd] using goes _ member
  have data : x.isData = true := by rcases next with rfl | rfl | rfl <;> rfl
  have series {m : List Signal} (within : ∀ y ∈ m, y ∈ l)
      (h : Series .item [.completion, .error] m) :
      Series .item [.completion, .error] (m ++ [x]) := by
    have more : ∀ e ∈ [Signal.completion, .error], e ∉ m := by
      intro e he member
      have ends := goes e (within e member)
      simp only [List.mem_cons, List.not_mem_nil, or_false] at he
      rcases he with rfl | rfl <;> simp [Signal.isEnd] at ends
    rcases next with rfl | rfl | rfl
    · exact h.snoc more
    · exact h.finish more (by simp)
    · exact h.finish more (by simp)
  cases kind <;> simp only [StreamKind.needsCredit, Bool.false_eq_true] at sends
  case requesterChannel =>
    obtain ⟨noCancel, complete, member⟩ := opened rfl
    obtain ⟨soFar, control, _, _, _⟩ := h
    refine ⟨?_, by simpa [data] using control, ?_, .snoc noCancel _, .snoc noError _⟩
    · rw [List.filter_append, List.filter_cons_of_pos data, List.filter_nil]
      refine soFar.snoc ⟨complete, ?_⟩ (fun y hy => goes y (List.mem_filter.mp hy).1) next
      exact List.mem_filter.mpr ⟨member, rfl⟩
    · exact fun _ => ⟨complete, List.mem_append_left _ member⟩
  case responderStream => exact series (fun _ hy => hy) h
  case responderChannel =>
    obtain ⟨soFar, control, _⟩ := h
    refine ⟨?_, by simpa [data] using control, .snoc noError _⟩
    rw [List.filter_append, List.filter_cons_of_pos data, List.filter_nil]
    exact series (fun _ hy => (List.mem_filter.mp hy).1) soFar

theorem lawful_answer {l : List Signal} {x : Signal} (h : Lawful l .responderResponse)
    (goes : ∀ y ∈ l, y.isEnd = false) (next : x = .lastItem ∨ x = .error) :
    Lawful (l ++ [x]) .responderResponse := by
  rcases h with rfl | rfl | rfl
  · exact .inr (by simpa using next)
  · simp [Signal.isEnd] at goes
  · simp [Signal.isEnd] at goes

theorem lawful_opening {l : List Signal} (h : Lawful l .requesterChannel)
    (unopened : ∀ complete, .requestChannel complete ∉ l) (goes : ∀ y ∈ l, y.isEnd = false)
    (complete : Bool) : Lawful (l ++ [.requestChannel complete]) .requesterChannel := by
  obtain ⟨data, control, known, _, _⟩ := h
  have noCancel : .cancel ∉ l := fun member => by
    obtain ⟨complete, opened⟩ := known member
    exact unopened complete opened
  have noError : .error ∉ l := fun member => by simpa [Signal.isEnd] using goes _ member
  have none : l.filter (·.isData) = [] := by
    rcases data with none | only | ⟨rest, opened, _⟩
    · exact none
    · exact absurd ((List.mem_filter.mp (only ▸ List.mem_cons_self)).1) (unopened true)
    · exact absurd ((List.mem_filter.mp (opened ▸ List.mem_cons_self)).1) (unopened false)
  refine ⟨?_, by simpa [Signal.isData] using control, ?_, .snoc noCancel _, .snoc noError _⟩
  · rw [List.filter_append, none, List.nil_append, List.filter_cons_of_pos rfl, List.filter_nil]
    cases complete with
    | true => exact .inr (.inl rfl)
    | false => exact .inr (.inr ⟨[], rfl, .nil _ _⟩)
  · exact fun _ => ⟨complete, by simp⟩

/-! ### The trace of the frames in the state -/

/-- What the frames that were written tell of the state of the stream. -/
structure Tracks (s : Exchange) (l : List Signal) : Prop where
  cancel : .cancel ∈ l → s.closed.inbound = true ∧ s.consumer = none ∧
    (s.kind.isRequester = true → s.isOver = true)
  ends : ∀ x ∈ l, x.isEnd = true → s.closed.outbound = true
  error : .error ∈ l → s.kind ≠ .responderResponse → s.isOver = true ∧ s.inboxOpen = false
  opened : s.kind = .requesterChannel → s.initiated = true →
    ∃ complete, .requestChannel complete ∈ l
  unopened : s.initiated = false → ∀ complete, .requestChannel complete ∉ l

/-- The trace after a move, from what the frames of the move tell of the state that it leaves. -/
theorem Tracks.append {s t : Exchange} {l new : List Signal} (h : Tracks s l) (later : s.Extends t)
    (cancel : .cancel ∈ new → t.closed.inbound = true ∧ t.consumer = none ∧
      (t.kind.isRequester = true → t.isOver = true))
    (ends : ∀ x ∈ new, x.isEnd = true → t.closed.outbound = true)
    (error : .error ∈ new → t.kind ≠ .responderResponse → t.isOver = true ∧ t.inboxOpen = false)
    (opens : t.initiated = s.initiated ∨ ∃ complete, .requestChannel complete ∈ new)
    (known : ∀ complete, .requestChannel complete ∈ new → t.initiated = true) :
    Tracks t (l ++ new) where
  cancel member := by
    rcases List.mem_append.mp member with old | new
    · obtain ⟨closed, gone, finished⟩ := h.cancel old
      refine ⟨later.inbound closed, later.consumer closed gone, fun requester => ?_⟩
      exact later.isOver (finished (later.kind ▸ requester))
    · exact cancel new
  ends x member isEnd := by
    rcases List.mem_append.mp member with old | new
    · exact later.outbound (h.ends x old isEnd)
    · exact ends x new isEnd
  error member kind := by
    rcases List.mem_append.mp member with old | new
    · obtain ⟨finished, ended⟩ := h.error old (later.kind ▸ kind)
      exact ⟨later.isOver finished, later.inbox ended⟩
    · exact error new kind
  opened kind initiated := by
    rcases opens with same | ⟨complete, new⟩
    · obtain ⟨complete, old⟩ := h.opened (later.kind ▸ kind) (same ▸ initiated)
      exact ⟨complete, List.mem_append_left _ old⟩
    · exact ⟨complete, List.mem_append_right _ new⟩
  unopened unknown complete member := by
    rcases List.mem_append.mp member with old | new
    · have before : s.initiated = false :=
        Bool.eq_false_iff.mpr fun hs => by simp [later.initiated hs] at unknown
      exact h.unopened before complete old
    · simp [known complete new] at unknown

/-- No end was written as long as the direction to the peer is open. -/
theorem Tracks.goes {s : Exchange} {l : List Signal} (h : Tracks s l)
    (isOpen : s.closed.outbound = false) : ∀ x ∈ l, x.isEnd = false := fun x member =>
  Bool.eq_false_iff.mpr fun isEnd => by simp [h.ends x member isEnd] at isOpen

/-- A stream that sends was not cancelled by this end if it is one of a requester, and the peer
knows of it. -/
theorem Tracks.sends {s : Exchange} {l : List Signal} (h : Tracks s l) (sends : s.Sends)
    (isOpen : s.closed.outbound = false) (kind : s.kind = .requesterChannel) :
    .cancel ∉ l ∧ ∃ complete, .requestChannel complete ∈ l := by
  refine ⟨fun member => ?_, h.opened kind sends.2⟩
  have finished := (h.cancel member).2.2 (by rw [kind]; rfl)
  rw [Exchange.isOver_iff] at finished
  simp [finished.2] at isOpen

namespace Exchange

/-- What a move writes may follow what was written before. -/
theorem Effect.lawful {s t : Exchange} {frames : List Frame} {l : List Signal} (hs : s.Coherent)
    (h : Tracks s l) (before : Lawful l s.kind) (effect : s.Effect t frames) :
    Lawful (l ++ frames.map (·.signal)) t.kind := by
  rw [effect.kind]
  cases effect.writes with
  | nothing => simpa using before
  | requestN n waits isOpen =>
    have noCancel : .cancel ∉ l := fun member => waits (h.cancel member).2.1
    have takes := hs.consumer waits
    refine lawful_requestN before takes noCancel fun member => ?_
    have ended := (h.error member fun kind => by simp [kind, StreamKind.hasConsumer] at takes).2
    simp [isOpen] at ended
  | cancel kind known isOpen closed gone finished =>
    have noCancel : .cancel ∉ l := fun member => by simp [(h.cancel member).1] at isOpen
    refine lawful_cancel before kind noCancel (fun member => ?_) fun kind => h.opened kind known
    have finished := (h.error member fun same => by simp [same, StreamKind.hasConsumer] at kind).1
    rw [isOver_iff] at finished
    simp [finished.1] at isOpen
  | item payload sends isOpen =>
    exact lawful_data before sends.1 (h.goes isOpen) (.inl rfl) (h.sends sends isOpen)
  | completion sends isOpen closed =>
    exact lawful_data before sends.1 (h.goes isOpen) (.inr (.inl rfl)) (h.sends sends isOpen)
  | failure f sends isOpen finished ended =>
    exact lawful_data before sends.1 (h.goes isOpen) (.inr (.inr rfl)) (h.sends sends isOpen)
  | answer payload kind isOpen closed =>
    rw [kind] at before ⊢
    exact lawful_answer before (h.goes isOpen) (.inl rfl)
  | refusal f kind isOpen closed =>
    rw [kind] at before ⊢
    exact lawful_answer before (h.goes isOpen) (.inr rfl)
  | opening initial first complete unopened isOpen known closed =>
    rw [unopened.1] at before ⊢
    exact lawful_opening before (h.unopened unopened.2) (h.goes isOpen) complete

/-- The trace goes on with what a move writes. -/
theorem Effect.tracks {s t : Exchange} {frames : List Frame} {l : List Signal}
    (h : Tracks s l) (effect : s.Effect t frames) : Tracks t (l ++ frames.map (·.signal)) := by
  have opens : t.initiated = s.initiated ∨
      ∃ complete, .requestChannel complete ∈ frames.map (·.signal) := by
    rcases effect.opens with same | ⟨initial, first, complete, rfl⟩
    · exact .inl same
    · exact .inr ⟨complete, by simp [Frame.signal, PayloadFrame.requestChannel]⟩
  have kind := effect.kind
  refine h.append effect.toExtends ?_ ?_ ?_ opens ?_
  · cases effect.writes with
    | cancel takes known isOpen closed gone finished =>
      rw [kind]
      exact fun _ => ⟨closed, gone, finished⟩
    | _ => simp
  · cases effect.writes with
    | completion sends isOpen closed => exact fun _ _ _ => closed
    | failure f sends isOpen finished ended => exact fun _ _ _ => (isOver_iff t |>.mp finished).2
    | answer payload kind isOpen closed => exact fun _ _ _ => closed
    | refusal f kind isOpen closed => exact fun _ _ _ => closed
    | opening initial first complete unopened isOpen known closed =>
      simpa [Signal.isEnd] using closed
    | _ => simp [Signal.isEnd]
  · cases effect.writes with
    | failure f sends isOpen finished ended => exact fun _ _ => ⟨finished, ended⟩
    | refusal f response isOpen closed => exact fun _ other => absurd (kind.trans response) other
    | _ => simp
  · cases effect.writes with
    | opening initial first complete unopened isOpen known closed => exact fun _ _ => known
    | _ => simp

end Exchange
end StreamMux
