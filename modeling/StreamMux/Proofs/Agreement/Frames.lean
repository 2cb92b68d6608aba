import StreamMux.Proofs.Agreement.Calls

/-!
# Frames in good order

A frame makes a steady move of one stream, opens one, or ends the connection
(`Connection.dispatch_steady`). The application is told of a stream of the peer once, with the last
part of the request, and until then the way back is open (`Connection.dispatch_work`). So the work
for it takes up a stream that no task sends on (`Endpoint.handle_orderly`).
-/
namespace StreamMux

/-! ### Telling the application -/

namespace Exchange

variable {s : Exchange} {uptake : Uptake} {f : PayloadFrame} {payload : Payload}

/-- A stream that was started, or is one of this end, calls for no more work. -/
theorem receive_started (told : s.kind.isRequester = true ∨ s.started = true) (uptake : Uptake)
    (f : PayloadFrame) : (s.receive uptake f).started = none := by
  have delivered (fragments : Option Payload) (payload : Payload) :
      ({ s with fragments }.deliver uptake payload).started = none := by
    unfold deliver
    split
    · rfl
    · rfl
    · rfl
    next notResponse notStream notChannel =>
      have started : s.started = true := told.resolve_left fun requester => by
        cases kind : s.kind <;> simp_all [StreamKind.isRequester]
      rw [if_pos started]
  unfold receive
  split
  · rfl
  · dsimp only
    split
    · rfl
    · split
      · split
        · exact delivered _ _
        · rfl
      · split
        · exact delivered _ _
        · rfl

theorem completeInbound_started (started : s.started = true) :
    s.completeInbound.started = true := by
  unfold completeInbound
  split
  · exact (s.settle_stays (.ok Payload.empty)).started started
  all_goals exact started

theorem deliver_starts {whole : Payload} :
    (s.deliver uptake whole).started = some payload →
      (s.deliver uptake whole).stream.started = true := by
  unfold deliver
  split
  · exact fun starts => by contradiction
  · exact fun starts => by contradiction
  · exact fun starts => by contradiction
  · split
    · exact fun starts => by contradiction
    · dsimp only
      split
      · exact fun _ => rfl
      next kind =>
        split
        · exact fun _ => rfl
        · rw [dropConsumer_attached { s with started := true } _ rfl (by rw [kind]; rfl)]
          exact fun _ => rfl
      · exact fun _ => rfl

/-- Once the application is told of a stream, that is noted. -/
theorem receive_starts : (s.receive uptake f).started = some payload →
    (s.receive uptake f).stream.started = true := by
  unfold receive
  split
  · exact fun starts => by contradiction
  · dsimp only
    split
    · exact fun starts => by contradiction
    · split
      · split
        · exact fun starts => completeInbound_started (deliver_starts starts)
        · exact fun starts => by contradiction
      · split
        · exact deliver_starts
        · exact fun starts => by contradiction

/-- The way to the peer is open where a stream that it opens has one. -/
theorem responder_tended (id : UInt32) {kind : StreamKind} (initial : UInt32)
    (credit : kind.needsCredit = true) : (responder id kind initial).Tended := fun closed => by
  cases kind <;> contradiction

end Exchange

namespace Connection

variable {c : Connection} {i : Nat} (keepsItems : Payload → Bool) (now : Duration)

/-- The application is told of the stream at a place for the first time, and can send on it. -/
structure Starts (c d : Connection) (i : Nat) : Prop where
  placed : i < d.streams.size
  early : i < c.streams.size → (c.stream i).kind.isRequester = false ∧ (c.stream i).started = false
  responder : (d.stream i).kind.isRequester = false
  started : (d.stream i).started = true
  tended : (d.stream i).kind.needsCredit = true → (d.stream i).Sends ∧ (d.stream i).Tended

/-- A payload starts the work of the stream that receives it. -/
theorem receive_work (coherent : (c.stream i).Coherent) (placed : i < c.streams.size)
    (tended : (c.stream i).kind.isRequester = false → (c.stream i).kind.needsCredit = true →
      (c.stream i).started = false → (c.stream i).Tended)
    {f : PayloadFrame} {work : Work} (calls : (c.receive keepsItems i f).2 = some work) :
    c.Starts (c.receive keepsItems i f).1 i ∧ ∃ payload, Work.ofRequest?
      ((c.receive keepsItems i f).1.stream i).kind i payload = some work := by
  have stream : (c.receive keepsItems i f).1.stream i =
      ((c.stream i).receive { batch := c.config.prefetch, keepsItems } f).stream := by
    rw [receive, stream_commit c placed, if_pos rfl]
  rw [receive] at calls
  obtain ⟨payload, starts, work⟩ := Option.bind_eq_some_iff.mp calls
  have early : (c.stream i).kind.isRequester = false ∧ (c.stream i).started = false := by
    have told (told : (c.stream i).kind.isRequester = true ∨ (c.stream i).started = true) :
        False := by
      rw [Exchange.receive_started told] at starts
      contradiction
    exact ⟨Bool.eq_false_iff.mpr fun requester => told (.inl requester),
      Bool.eq_false_iff.mpr fun started => told (.inr started)⟩
  have steady := Exchange.Move.steady
    (m := .receive { batch := c.config.prefetch, keepsItems } f) coherent trivial trivial
  have kind : ((c.receive keepsItems i f).1.stream i).kind = (c.stream i).kind := by
    rw [stream]
    exact steady.kind
  refine ⟨⟨by rw [receive, size_commit]; exact placed, fun _ => early, kind ▸ early.1, ?_,
    fun credit => ?_⟩, payload, kind ▸ work⟩
  · rw [stream]
    exact Exchange.receive_starts starts
  · rw [kind] at credit
    have known := coherent.initiated fun same => by
      rw [same] at early
      exact absurd early.1 (by decide)
    have sends : (c.stream i).Sends := ⟨credit, known⟩
    rw [stream]
    exact ⟨sends.extends steady.toExtends, steady.tends credit (tended early.1 credit early.2)⟩

/-- Work is started for a stream that the application was not told of before, or for none. -/
theorem dispatch_work (fresh : c.Fresh) (sound : c.Sound) {frame : Frame} {work : Work}
    (calls : (c.dispatch keepsItems now frame).2 = some work) :
    work.place? = none ∨ ∃ i, c.Starts (c.dispatch keepsItems now frame).1 i ∧ ∃ payload,
      Work.ofRequest? ((c.dispatch keepsItems now frame).1.stream i).kind i payload =
        some work := by
  cases frame with
  | metadataPush metadata =>
    cases calls
    exact .inl rfl
  | error id code message =>
    unfold dispatch at calls
    dsimp only at calls
    split at calls <;> contradiction
  | payload f =>
    right
    unfold dispatch at calls ⊢
    dsimp only at calls ⊢
    split at calls
    next i found =>
      split at calls
      · contradiction
      next inner =>
        have placed := (sound.placed found).1
        rw [if_neg inner]
        exact ⟨i, receive_work keepsItems (sound.coherent i placed) placed (fresh i placed) calls⟩
    next free =>
      unfold accept at calls ⊢
      split at calls
      · contradiction
      next kind opens =>
        split at calls
        · contradiction
        next foreign =>
          split at calls
          · contradiction
          next i d opened =>
            rw [if_neg foreign]
            have answers := ofRequest?_answers opens
            have stream := insert?_stream opened
            obtain ⟨registry, inserted, rfl, rfl⟩ := insert?_ok opened
            have bound : c.streams.size <
                (c.streams.push (.responder f.id kind f.initial)).size := by
              rw [Array.size_push]
              exact Nat.lt_succ_self _
            obtain ⟨starts, work⟩ := receive_work keepsItems
              (by rw [stream]; exact responder_coherent f.id f.initial answers) bound
              (by rw [stream]; exact fun _ credit _ => Exchange.responder_tended _ _ credit) calls
            exact ⟨_, { starts with early := fun old => absurd old (Nat.lt_irrefl _) }, work⟩
  | _ => contradiction

/-- What is sent on the streams that were there goes on as before, unless the connection ends. -/
theorem dispatch_steady (fresh : c.Fresh) (sound : c.Sound) (frame : Frame) :
    c.Steady (c.dispatch keepsItems now frame).1 ∧ (c.dispatch keepsItems now frame).1.Fresh := by
  have same {d : Connection} (steady : c.Steady d) (size : d.streams.size = c.streams.size) :
      c.Steady d ∧ d.Fresh := ⟨steady, fresh.same_size steady size⟩
  cases dispatch_course sound keepsItems now frame with
  | quiet streams registry terminal silent => exact same (.of_streams streams) (by rw [streams])
  | moved j m bound fits touches eq =>
    have steadily : m.IsSteady := by cases touches <;> trivial
    rw [eq]
    exact same (.move sound bound fits steadily) (size_commit c j _ _)
  | accepted f kind uptake registry opens foreign inserted eq =>
    have answers := ofRequest?_answers opens
    have coherent := responder_coherent f.id f.initial answers
    have steady := Exchange.Move.steady (m := .receive uptake f) coherent trivial trivial
    have pushed : (c.dispatch keepsItems now (.payload f)).1.streams = c.streams.push
        ((Exchange.responder f.id kind f.initial).receive uptake f).stream := by
      rw [eq]
      simp [commit, Array.setIfInBounds, Array.set_push]
    have named : ((Exchange.responder f.id kind f.initial).receive uptake f).stream.kind = kind :=
      steady.kind
    refine ⟨.of_push pushed, fresh.push pushed fun _ credit => ?_⟩
    rw [named] at credit
    exact steady.tends credit (Exchange.responder_tended _ _ credit)
  | ended cause eq =>
    obtain ⟨steady, size⟩ := Steady.ended sound eq
    exact same steady size

end Connection

namespace Endpoint

variable {e : Endpoint}

theorem keepChannel_orderly {i : Nat} (h : e.Orderly) (placed : i < e.connection.streams.size)
    (p : Producer) : (e.keepChannel i p).Orderly := by
  obtain same | ⟨-, kept⟩ := e.keepChannel_cases i p
  · rw [same]
    exact h
  · rw [kept]
    exact h.of_kept fun j keeps => (List.mem_cons.mp keeps).elim (· ▸ placed) (h.kept j)

section Starting

variable {c : Connection} (h : e.Orderly)
  (earlier : ∀ (k : Nat) (t : Task), e.tasks[k]?.join = some t → t.Suits c)
include h earlier

/-- A task starts to send on a stream that the application was not told of before, so that no other
task sends on it. -/
theorem send_orderly {i : Nat} (starts : c.Starts e.connection i)
    (credit : (e.connection.stream i).kind.needsCredit = true) (p : Producer) :
    (e.spawn (.send i p none)).Orderly := by
  obtain ⟨sends, tended⟩ := starts.tended credit
  refine h.spawn ⟨starts.placed, sends, tended, fun channel => ?_, fun _ => starts.started⟩
    fun j same k u found => ?_
  · have responder := starts.responder
    rw [channel] at responder
    contradiction
  · cases same
    intro sends
    obtain ⟨placed, _, told⟩ := (earlier k u found).producing sends
    obtain ⟨responder, unstarted⟩ := starts.early placed
    rw [told responder] at unstarted
    contradiction

theorem start_orderly {work : Connection.Work}
    (starts : work.place? = none ∨ ∃ i, c.Starts e.connection i ∧ ∃ payload,
      Connection.Work.ofRequest? (e.connection.stream i).kind i payload = some work) :
    (e.start work).Orderly := by
  -- That a call is reported and items are kept changes neither the connection nor the tasks.
  have sends {f : Endpoint} (orderly : f.Orderly) (connection : f.connection = e.connection)
      (tasks : f.tasks = e.tasks) {i : Nat} (starts : c.Starts e.connection i)
      (credit : (e.connection.stream i).kind.needsCredit = true) (p : Producer) :
      (f.spawn (.send i p none)).Orderly :=
    send_orderly orderly (by rw [tasks]; exact earlier) (by rw [connection]; exact starts)
      (by rw [connection]; exact credit) p
  have told (implemented : Bool) (event : Event) : e.Still (e.reportCall implemented event) :=
    (reportCall_rests e implemented event).toStill
  obtain unplaced | ⟨i, starts, payload, calls⟩ := starts
  · cases work with
    | metadataPush metadata => exact h.spawn trivial fun i same => by contradiction
    | _ => contradiction
  · have placed := starts.placed
    cases kind : (e.connection.stream i).kind with
    | responderFireAndForget =>
      rw [kind] at calls
      cases calls
      exact h.spawn trivial fun j same => by contradiction
    | responderResponse =>
      rw [kind] at calls
      cases calls
      exact h.spawn ⟨placed, kind⟩ fun j same => by contradiction
    | responderStream =>
      rw [kind] at calls
      cases calls
      exact sends (h.of_still (told _ _)) (told _ _).connection (told _ _).tasks starts
        (by rw [kind]; rfl) _
    | responderChannel =>
      rw [kind] at calls
      cases calls
      have reported := told e.application.requestChannel.isSome (.requestChannel payload)
      obtain ⟨connection, tasks⟩ := keepChannel_same (e.reportCall
        e.application.requestChannel.isSome (.requestChannel payload)) i
        (e.application.onChannel payload)
      exact sends (keepChannel_orderly (h.of_still reported) (reported.connection ▸ placed) _)
        (connection.trans reported.connection) (tasks.trans reported.tasks) starts
        (by rw [kind]; rfl) _
    | _ =>
      rw [kind] at calls
      contradiction

end Starting

/-- A frame of the peer is handled. -/
theorem handle_orderly (h : e.Orderly) (sound : e.connection.Sound) (frame : Frame) :
    (e.handle frame).Orderly := by
  obtain ⟨steady, fresh⟩ := Connection.dispatch_steady e.application.keepsItems e.clock.now h.fresh
    sound frame
  have works {work : Connection.Work}
      (calls : (e.connection.dispatch e.application.keepsItems e.clock.now frame).2 = some work) :=
    Connection.dispatch_work e.application.keepsItems e.clock.now h.fresh sound calls
  unfold handle
  generalize e.connection.dispatch e.application.keepsItems e.clock.now frame = result
    at steady fresh works
  obtain ⟨d, work⟩ := result
  dsimp only at steady fresh works ⊢
  have handled : ({ e with connection := d } : Endpoint).Orderly :=
    h.steady (f := { e with connection := d }) steady fresh rfl rfl rfl
  cases work with
  | none => exact handled
  | some work => exact start_orderly handled h.tasks (works rfl)

end Endpoint
end StreamMux
