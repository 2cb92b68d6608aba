import StreamMux.Proofs.Agreement.Tasks

/-!
# Calls in good order

What the application calls for makes moves of one stream, and maybe asks for one more, or it ends
the connection (`Endpoint.perform_orderly`). The watchdog makes no moves at all
(`Endpoint.stepWatch_orderly`).
-/
namespace StreamMux

namespace Connection

variable {c d : Connection} {i : Nat}

/-! ### New streams -/

/-- Where a stream of this end is put. -/
theorem register_pushes {make : UInt32 → Exchange} (named : ∀ id, (make id).id = id)
    (made : c.register make = .ok (i, d)) :
    ∃ own, i = c.streams.size ∧ d.streams = c.streams.push (make own) := by
  obtain ⟨_, own, _, _, _, _, rfl, rfl⟩ := register_ok named made
  exact ⟨own, rfl, rfl⟩

theorem requestResponse_pushes {payload : Payload} (made : c.requestResponse payload = .ok (i, d)) :
    ∃ own, i = c.streams.size ∧ d.streams = c.streams.push (.requesterResponse own) := by
  unfold requestResponse at made
  obtain ⟨⟨_, e⟩, registered, eq⟩ := bind_ok made
  cases eq
  obtain ⟨own, last, pushed⟩ := register_pushes (fun _ => rfl) registered
  exact ⟨own, last, pushed⟩

theorem requestStream_pushes {batch : UInt32} {payload : Payload}
    (made : c.requestStream batch payload = .ok (i, d)) :
    ∃ own, i = c.streams.size ∧ d.streams = c.streams.push (.requesterStream batch own) := by
  unfold requestStream at made
  obtain ⟨⟨_, e⟩, registered, eq⟩ := bind_ok made
  cases eq
  obtain ⟨own, last, pushed⟩ := register_pushes (fun _ => rfl) registered
  exact ⟨own, last, pushed⟩

/-- A stream comes about, of this end or with the way to the peer open. -/
theorem Fresh.push {t : Exchange} (fresh : c.Fresh) (pushed : d.streams = c.streams.push t)
    (tended : t.kind.isRequester = false → t.kind.needsCredit = true → t.Tended) : d.Fresh := by
  intro i bound
  rw [pushed, Array.size_push] at bound
  rw [stream_push rfl pushed]
  split
  · exact fun responder credit _ => tended responder credit
  · exact fresh i (by omega)

/-- What is about no stream leaves the streams alone, unless it ends the connection. -/
theorem Serves.steady (made : c.Serves d) (sound : c.Sound) :
    c.Steady d ∧ d.streams.size = c.streams.size := by
  cases serves_course made .serves with
  | quiet streams registry terminal silent => exact ⟨.of_streams streams, by rw [streams]⟩
  | moved i m placed fits touches eq => contradiction
  | ended cause eq => exact Steady.ended sound eq

end Connection

namespace Endpoint

variable {e f g : Endpoint} {n : String} {i : Nat}

/-- The application makes moves of one stream; no task needs to care. -/
structure Moves (i : Nat) (e f : Endpoint) : Prop where
  works : e.connection.Works i f.connection
  steady : e.connection.Steady f.connection
  requests : f.requests = e.requests
  kept : f.kept = e.kept
  tasks : f.tasks = e.tasks

namespace Moves

theorem of_still (still : e.Still f) : Moves i e f where
  works := by rw [still.connection]; exact .still
  steady := .of_streams (by rw [still.connection])
  requests := still.requests
  kept := still.kept
  tasks := still.tasks

theorem trans (h : Moves i e f) (h' : Moves i f g) : Moves i e g where
  works := h.works.trans h'.works
  steady := h.steady.trans h'.steady
  requests := h'.requests.trans h.requests
  kept := h'.kept.trans h.kept
  tasks := h'.tasks.trans h.tasks

theorem move {m : Exchange.Move} (sound : e.connection.Sound)
    (placed : i < e.connection.streams.size) (own : m.isLocal = true)
    (fits : m.Fits (e.connection.stream i)) (fair : m.IsFair (e.connection.stream i))
    (steady : m.IsSteady) : Moves i e (e.mapConnection (·.stepWriting i (m.apply ·))) :=
  ⟨.single m own placed fits fair, .move sound placed fits steady, rfl, rfl, rfl⟩

theorem orderly (h : Moves i e f) (orderly : e.Orderly) : f.Orderly :=
  orderly.steady h.steady (orderly.fresh.same_size h.steady h.works.size) h.requests h.kept
    h.tasks

end Moves

/-! ### Requests -/

/-- A request is kept under a name; nobody else waits for its answer. -/
theorem setRequest_orderly (h : e.Orderly) {request : Request}
    (suits : request.Suits e.connection)
    (unasked : ∀ i, request = .response i → ∀ m, e.request? m ≠ some (.response i)) :
    (e.setRequest n request).Orderly := by
  refine ⟨h.fresh, fun m r found => ?_, fun l m i first second => ?_, h.tasks, h.single,
    h.kept⟩
  · rw [request?_setRequest] at found
    split at found
    · cases found
      exact suits
    · exact h.requests m r found
  · rw [request?_setRequest] at first second
    split at first
    next own =>
      split at second
      next own' => exact own.trans own'.symm
      · exact absurd second (unasked i (Option.some.inj first) m)
    · split at second
      · exact absurd first (unasked i (Option.some.inj second) l)
      · exact h.alone l m i first second

theorem forgetRequest_orderly (h : e.Orderly) : (e.forgetRequest n).Orderly := by
  refine ⟨h.fresh, fun m r found => ?_, fun l m i first second => ?_, h.tasks, h.single,
    h.kept⟩
  · rw [request?_forgetRequest] at found
    split at found
    · contradiction
    · exact h.requests m r found
  · rw [request?_forgetRequest] at first second
    split at first
    · contradiction
    · split at second
      · contradiction
      · exact h.alone l m i first second

/-- The caller of a request-response turns away, and nobody else waits for the answer. -/
theorem abandon_orderly (h : e.Orderly) (sound : e.connection.Sound)
    (suits : (Request.response i).Suits e.connection)
    (unasked : ∀ m, e.request? m ≠ some (.response i)) :
    e.connection.Works i (e.giveUp (.response i)).connection ∧
      (e.giveUp (.response i)).Orderly := by
  obtain ⟨placed, kind, waits⟩ := suits
  have works : e.connection.Works i (e.giveUp (.response i)).connection :=
    .single .abandon rfl placed kind trivial
  refine ⟨works, ?_, fun m request found => ?_, h.alone, fun k task found => ?_, h.single,
    fun j keeps => works.size ▸ h.kept j keeps⟩
  · intro j bound responder credit unstarted
    rw [works.size] at bound
    by_cases own : j = i
    · subst own
      rw [((works.later sound).streams j bound).kind, kind] at responder
      contradiction
    · rw [works.others own] at responder credit unstarted ⊢
      exact h.fresh j bound responder credit unstarted
  · refine (h.requests m request found).works works sound ?_
    rintro rfl
    exact unasked m found
  · refine (h.tasks k task found).works works sound fun sends => ?_
    have credit := ((h.tasks k task found).producing sends).2.1
    rw [kind] at credit
    contradiction

/-- The application lets go of a request. -/
theorem giveUp_orderly (h : e.Orderly) (sound : e.connection.Sound) {request : Request}
    (suits : request.Suits e.connection)
    (unasked : ∀ i, request = .response i → ∀ m, e.request? m ≠ some (.response i)) :
    (∃ i, e.connection.Works i (e.giveUp request).connection) ∧ (e.giveUp request).Orderly := by
  have moved {i : Nat} {f : Endpoint} (moves : Moves i e f) :
      (∃ i, e.connection.Works i f.connection) ∧ f.Orderly :=
    ⟨⟨i, moves.works⟩, moves.orderly h⟩
  cases request with
  | response i =>
    obtain ⟨works, orderly⟩ := abandon_orderly h sound suits (unasked i rfl)
    exact ⟨⟨i, works⟩, orderly⟩
  | opened i => exact moved (.move (m := .dropConsumer) sound suits.1 rfl trivial trivial trivial)
  | unopened opening batch =>
    cases opening with
    | stream payload => exact moved (i := 0) (.of_still (.refl e))
    | channel source => exact moved (i := 0) (.of_still (dropSource_rests e source).toStill)
  | refused => exact moved (i := 0) (.of_still (.refl e))

theorem keepRequest_orderly (h : e.Orderly) (sound : e.connection.Sound) (opening : Opening)
    (batch : UInt32) :
    (∃ i, e.connection.Works i (e.keepRequest n (.unopened opening batch)).connection) ∧
      (e.keepRequest n (.unopened opening batch)).Orderly := by
  have kept : (e.setRequest n (.unopened opening batch)).Orderly :=
    setRequest_orderly h trivial fun i eq => by contradiction
  unfold keepRequest
  dsimp only
  split
  next former found =>
    refine giveUp_orderly kept sound (h.requests n former found) fun i eq m again => ?_
    subst eq
    rw [request?_setRequest] at again
    split at again
    · cases again
    next other => exact other (h.alone m n i again found)
  · exact ⟨⟨0, .still⟩, kept⟩

theorem dropRequest_orderly (h : e.Orderly) (sound : e.connection.Sound) (n : String) :
    (∃ i, e.connection.Works i (e.dropRequest n).connection) ∧ (e.dropRequest n).Orderly := by
  unfold dropRequest
  split
  next request found =>
    refine giveUp_orderly (e := e.forgetRequest n) (forgetRequest_orderly h) sound
      (h.requests n request found) fun i eq m again => ?_
    subst eq
    rw [request?_forgetRequest] at again
    split at again
    · contradiction
    next other => exact other (h.alone m n i again found)
  · exact ⟨⟨0, .still⟩, h⟩

/-- This end asks for a stream. -/
theorem asks_orderly {d : Connection} {t : Exchange} (h : e.Orderly)
    (pushed : d.streams = e.connection.streams.push t) (requester : t.kind.isRequester = true) :
    ({ e with connection := d } : Endpoint).Orderly :=
  h.steady (f := { e with connection := d }) (.of_push pushed)
    (h.fresh.push pushed fun responder => by rw [requester] at responder; contradiction) rfl rfl
    rfl

theorem requestResponse_orderly (h : e.Orderly) (sound : e.connection.Sound) (payload : Payload) :
    e.connection.Acted (e.requestResponse n payload).2.connection ∧
      (e.requestResponse n payload).2.Orderly := by
  obtain ⟨⟨i, works⟩, dropped⟩ := dropRequest_orderly h sound n
  unfold requestResponse
  dsimp only
  split
  · exact ⟨.works i works, dropped⟩
  · exact ⟨.works i works, dropped⟩
  next j d made =>
    obtain ⟨own, rfl, pushed⟩ := Connection.requestResponse_pushes made
    have stream : d.stream (e.dropRequest n).connection.streams.size = .requesterResponse own := by
      rw [Connection.stream_push rfl pushed, if_pos rfl]
    refine ⟨.acts i 0 works (.asks (.response payload made)) .still,
      setRequest_orderly (asks_orderly dropped pushed rfl) ⟨?_, ?_, ?_⟩ fun j eq m again => ?_⟩
    · rw [pushed, Array.size_push]
      exact Nat.lt_succ_self _
    · rw [stream]
      rfl
    · rw [stream]
      exact ⟨(Exchange.requester_receptive own 0).1, fun _ => rfl⟩
    · cases eq
      exact Nat.lt_irrefl _ (dropped.requests m _ again).1

/-! ### Items -/

theorem open_orderly (h : e.Orderly) (opening : Opening) (batch : UInt32) :
    (∀ i, (e.open opening batch).1 = .ok i → e.connection.Asks (e.open opening batch).2.connection ∧
        (Request.opened i).Suits (e.open opening batch).2.connection) ∧
      (∀ f, (e.open opening batch).1 = .error f →
        (e.open opening batch).2.connection = e.connection) ∧
      (e.open opening batch).2.Orderly := by
  unfold «open»
  cases opening with
  | stream payload =>
    dsimp only
    split
    next i d made =>
      obtain ⟨own, rfl, pushed⟩ := Connection.requestStream_pushes made
      refine ⟨fun j eq => ?_, fun f eq => (by cases eq), asks_orderly h pushed rfl⟩
      cases eq
      refine ⟨.stream batch payload made, ?_, ?_⟩
      · rw [pushed, Array.size_push]
        exact Nat.lt_succ_self _
      · rw [Connection.stream_push rfl pushed, if_pos rfl]
        rfl
    · exact ⟨fun j eq => (by cases eq), fun _ _ => rfl, h⟩
  | channel source =>
    dsimp only
    split
    next i d made =>
      obtain ⟨own, rfl, pushed⟩ := Connection.register_pushes (fun _ => rfl) made
      have bound : e.connection.streams.size < d.streams.size := by
        rw [pushed, Array.size_push]
        exact Nat.lt_succ_self _
      have stream : d.stream e.connection.streams.size = .requesterChannel batch own := by
        rw [Connection.stream_push rfl pushed, if_pos rfl]
      refine ⟨fun j eq => ?_, fun f eq => (by cases eq), (asks_orderly h pushed rfl).spawn ?_ ?_⟩
      · cases eq
        exact ⟨.channel batch made, bound, stream ▸ rfl⟩
      · exact ⟨bound, stream ▸ ⟨rfl, rfl⟩, stream ▸ fun closed => (by contradiction), rfl⟩
      · intro j sends k u found sends'
        cases sends
        exact Nat.lt_irrefl _ ((h.tasks k u found).producing sends').1
    · have still := (dropSource_rests e source).toStill
      exact ⟨fun j eq => (by cases eq), fun _ _ => still.connection, h.of_still still⟩
    · exact ⟨fun j eq => (by cases eq), fun _ _ => rfl, h⟩

/-- Asking for an item is a move of one stream. -/
theorem pullInbound_moves (sound : e.connection.Sound) (placed : i < e.connection.streams.size) :
    Moves i e (e.pullInbound i false).2 := by
  have pulls := pullInbound_pulls sound placed false
  have moved := Moves.move (e := e) (m := .poll) sound placed rfl trivial trivial trivial
  have stirs : Stirs (some i) none none e (e.pullInbound i false).2 := pullInbound_stirs e i false
  exact ⟨pulls.works, by rw [(e.pullInbound_same i false).1]; exact moved.steady, stirs.requests,
    stirs.kept, stirs.tasks⟩

/-- The request stays opened from one item to the next. -/
theorem takeItems_moves (limit : Nat) (sound : e.connection.Sound)
    (opened : e.request? n = some (.opened i)) (placed : i < e.connection.streams.size) :
    Moves i e (e.takeItems n limit).2.2 := by
  have step (f : Endpoint) (before : Moves i e f) : Moves i e (f.pollItem n).2 := by
    have sound : f.connection.Sound := before.works.sound sound
    have placed : i < f.connection.streams.size := before.works.size ▸ placed
    have again : f.request? n = some (.opened i) := by
      rw [request?, before.requests]
      exact opened
    rw [pollItem_opened again]
    exact before.trans (pullInbound_moves sound placed)
  exact takeItems_keeps step limit (.of_still (.refl e))

theorem takeItems_orderly (h : e.Orderly) (sound : e.connection.Sound) (limit : Nat) :
    e.connection.Acted (e.takeItems n limit).2.2.connection ∧
      (e.takeItems n limit).2.2.Orderly := by
  rcases e.pollItem_cases n with ⟨i, found⟩ | ⟨opening, batch, found⟩ | idle
  · have moves := takeItems_moves limit sound found (h.requests n _ found).1
    exact ⟨.works i moves.works, moves.orderly h⟩
  · cases limit with
    | zero => exact ⟨.works 0 .still, h⟩
    | succ limit =>
      obtain ⟨asks, refused, orderly⟩ := open_orderly h opening batch
      generalize made : e.open opening batch = result at asks refused orderly
      obtain ⟨(failure | _) | i, f⟩ := result
      · have same : (f.setRequest n .refused).connection = e.connection := refused _ rfl
        rw [(takeItems_unmade found made limit).2, same]
        exact ⟨.works 0 .still, setRequest_orderly orderly trivial fun i eq => by contradiction⟩
      · have waits := pollItem_endless found (congrArg Prod.fst made)
        rw [takeItems_pending (by rw [waits]), waits]
        exact ⟨.works 0 .still, h⟩
      · obtain ⟨asks, suits⟩ := asks i rfl
        have later : (f.setRequest n (.opened i)).connection.Sound :=
          (Connection.Step.asks asks).sound sound
        have kept : (f.setRequest n (.opened i)).Orderly :=
          setRequest_orderly orderly suits fun j eq => by contradiction
        have moves := takeItems_moves (limit + 1) later (f.request?_setRequest_same n _) suits.1
        rw [takeItems_made found made]
        exact ⟨.acts 0 i .still (.asks asks) moves.works, moves.orderly kept⟩
  · rw [(takeItems_idle idle limit).2]
    exact ⟨.works 0 .still, h⟩

/-! ### Items that are kept -/

theorem pollKept_orderly (h : e.Orderly) (sound : e.connection.Sound) (i : Nat) :
    (∃ j, e.connection.Works j (e.pollKept i).2.connection) ∧ (e.pollKept i).2.Orderly := by
  obtain same | ⟨keeps, polled⟩ := e.pollKept_cases i
  · rw [same]
    exact ⟨⟨i, .still⟩, h⟩
  · have moves := pullInbound_moves sound (h.kept i keeps)
    rw [polled]
    exact ⟨⟨i, moves.works⟩, moves.orderly h⟩

theorem dropKept_orderly (h : e.Orderly) (sound : e.connection.Sound) (i : Nat) :
    (∃ j, e.connection.Works j (e.dropKept i).connection) ∧ (e.dropKept i).Orderly := by
  obtain same | ⟨keeps, dropped⟩ := e.dropKept_cases i
  · rw [same]
    exact ⟨⟨i, .still⟩, h⟩
  · have fewer : ({ e with kept := e.kept.filter (· != i) }).Orderly :=
      h.of_kept fun j still => h.kept j (List.mem_filter.mp still).1
    have moves := Moves.move (e := { e with kept := e.kept.filter (· != i) }) (m := .dropConsumer)
      sound (h.kept i keeps) rfl trivial trivial trivial
    rw [dropped]
    exact ⟨⟨i, moves.works⟩, moves.orderly fewer⟩

/-! ### Any call -/

/-- What is done is about no stream. -/
theorem serves_orderly (h : e.Orderly) (sound : e.connection.Sound)
    (serves : e.connection.Serves f.connection) (requests : f.requests = e.requests)
    (kept : f.kept = e.kept) (tasks : f.tasks = e.tasks) :
    e.connection.Acted f.connection ∧ f.Orderly := by
  obtain ⟨steady, size⟩ := serves.steady sound
  exact ⟨.acts 0 0 .still (.serves serves) .still,
    h.steady steady (h.fresh.same_size steady size) requests kept tasks⟩

theorem attempt_orderly (h : e.Orderly) (sound : e.connection.Sound)
    (change : Connection → Except Connection.Refusal Connection)
    (serves : ∀ d, change e.connection = .ok d → e.connection.Serves d) :
    e.connection.Acted (e.attempt change).2.connection ∧ (e.attempt change).2.Orderly := by
  unfold attempt
  split
  next d made =>
    exact serves_orderly (f := { e with connection := d }) h sound (serves d made) rfl rfl rfl
  · exact ⟨.works 0 .still, h⟩
  · exact ⟨.works 0 .still, h⟩

/-- Whatever the application calls for. -/
theorem perform_orderly (h : e.Orderly) (sound : e.connection.Sound) (call : Call) :
    e.connection.Acted (e.perform call).2.connection ∧ (e.perform call).2.Orderly := by
  have worked {f : Endpoint} (done : (∃ i, e.connection.Works i f.connection) ∧ f.Orderly) :
      e.connection.Acted f.connection ∧ f.Orderly := by
    obtain ⟨⟨i, works⟩, orderly⟩ := done
    exact ⟨.works i works, orderly⟩
  have rests {f : Endpoint} (still : e.Still f) : e.connection.Acted f.connection ∧ f.Orderly :=
    worked ⟨⟨0, by rw [still.connection]; exact .still⟩, h.of_still still⟩
  cases call with
  | close => exact serves_orderly h sound (.terminate .closed rfl) rfl rfl rfl
  | closed => exact rests (.refl e)
  | fireAndForget payload =>
    exact attempt_orderly h sound (·.fireAndForget payload) fun d made =>
      .fireAndForget payload made
  | metadataPush metadata =>
    exact attempt_orderly h sound (·.metadataPush metadata) fun d made =>
      .metadataPush metadata made
  | requestResponse n payload => exact requestResponse_orderly h sound payload
  | requestStream n payload batch => exact worked (keepRequest_orderly h sound _ _)
  | requestChannel n source batch => exact worked (keepRequest_orderly h sound _ _)
  | requestFedChannel n label batch =>
    have opened : e.Still (e.openFeed n).2 := ⟨rfl, rfl, rfl, rfl, rfl⟩
    exact worked (keepRequest_orderly (h.of_still opened) sound _ _)
  | poll n limit =>
    unfold perform pollNamed
    dsimp only
    split
    · exact rests (.refl e)
    next i found =>
      unfold pollResponse
      dsimp only
      split
      · exact rests (.refl e)
      · exact worked ⟨⟨0, .still⟩, forgetRequest_orderly h⟩
    · exact takeItems_orderly h sound limit
  | drop n => exact worked (dropRequest_orderly h sound n)
  | pollKept i => exact worked (pollKept_orderly h sound i)
  | dropKept i => exact worked (dropKept_orderly h sound i)
  | feed n item => exact rests (feed_rests e n item).toStill
  | endFeed n => exact rests (endFeed_rests e n).toStill

/-! ### Ticks -/

theorem stepWatch_orderly (h : e.Orderly) (sound : e.connection.Sound) :
    e.connection.Acted e.stepWatch.1.connection ∧ e.stepWatch.1.Orderly := by
  have rests {f : Endpoint} (still : e.Still f) : e.connection.Acted f.connection ∧ f.Orderly :=
    ⟨.works 0 (by rw [still.connection]; exact .still), h.of_still still⟩
  have ticked {f : Endpoint} (connection : f.connection = e.connection.tick e.clock.now)
      (requests : f.requests = e.requests) (kept : f.kept = e.kept) (tasks : f.tasks = e.tasks) :
      e.connection.Acted f.connection ∧ f.Orderly :=
    serves_orderly h sound (.tick e.clock.now connection) requests kept tasks
  unfold stepWatch
  split
  · exact rests ⟨rfl, rfl, rfl, rfl, rfl⟩
  · split
    · exact rests (.refl e)
    · dsimp only
      split
      · split
        · exact ticked rfl rfl rfl rfl
        · exact ticked rfl rfl rfl rfl
      · exact rests (.refl e)
    · exact rests ⟨rfl, rfl, rfl, rfl, rfl⟩

end Endpoint

end StreamMux
