import StreamMux.Proofs.Connection.Step

/-!
# The registry holds the streams that are open

A stream is registered under its id exactly as long as one of its directions is open. What a
connection says of its streams (`Sound`) holds at the start and is kept by every outcome of a step;
a stream leaves the registry in the step that closes its second direction, and never comes back.
-/
namespace StreamMux.Connection

/-- The streams are the same ones later, and more may have come. -/
structure Later (c d : Connection) : Prop where
  size : c.streams.size ≤ d.streams.size
  streams : ∀ i < c.streams.size, (c.stream i).Extends (d.stream i)

theorem Later.refl (c : Connection) : c.Later c := ⟨Nat.le_refl _, fun _ _ => .refl _⟩

theorem Later.trans {c d e : Connection} (h : c.Later d) (h' : d.Later e) : c.Later e where
  size := Nat.le_trans h.size h'.size
  streams i hi := (h.streams i hi).trans (h'.streams i (Nat.lt_of_lt_of_le hi h.size))

/-! ### The end of a connection -/

theorem mem_values_of_get? {r : Registry Nat} {id : UInt32} {i : Nat} (h : r.get? id = some i) :
    i ∈ r.values := by
  obtain ⟨entries⟩ := r
  unfold Registry.get? at h
  unfold Registry.values
  induction entries with
  | nil => simp at h
  | cons e rest ih =>
    rw [List.lookup_cons] at h
    rw [List.map_cons, List.mem_cons]
    split at h
    · exact .inl (Option.some.inj h).symm
    · exact .inr (ih h)

/-- The streams at the given places fail, and the others stay as they are. -/
theorem fail_all (cause : Failure) (places : List Nat) (streams : Array Exchange) {i : Nat}
    {s : Exchange} (at_place : streams[i]? = some s) (h : s.Coherent) :
    ∃ t, (places.foldl (fun streams j => streams.modify j (·.fail cause)) streams)[i]? = some t ∧
      s.Effect t [] ∧ (i ∈ places → t.isOver = true) := by
  induction places generalizing streams s with
  | nil => exact ⟨s, at_place, .stay h, fun absent => by simp at absent⟩
  | cons j rest ih =>
    rw [List.foldl_cons]
    by_cases same : j = i
    · have effect := Exchange.fail_effect h cause
      have failed : (streams.modify j (·.fail cause))[i]? = some (s.fail cause) := by
        rw [Array.getElem?_modify, if_pos same, at_place]
        rfl
      obtain ⟨t, ht, later, _⟩ := ih _ failed effect.coherent
      have finished : (s.fail cause).isOver = true := by
        obtain ⟨inbox, answer, eq⟩ := s.fail_eq cause
        rw [eq]
        exact Exchange.isOver_of_closed rfl
      exact ⟨t, ht, effect.then_silent later, fun _ => later.isOver finished⟩
    · have kept : (streams.modify j (·.fail cause))[i]? = some s := by
        rw [Array.getElem?_modify, if_neg same, at_place]
      obtain ⟨t, ht, later, finished⟩ := ih _ kept h
      refine ⟨t, ht, later, fun member => finished ?_⟩
      rcases List.mem_cons.mp member with equal | rest
      · exact absurd equal.symm same
      · exact rest

theorem size_fail_all (cause : Failure) (places : List Nat) (streams : Array Exchange) :
    (places.foldl (fun streams j => streams.modify j (·.fail cause)) streams).size =
      streams.size := by
  induction places generalizing streams with
  | nil => rfl
  | cons j rest ih => rw [List.foldl_cons, ih, Array.size_modify]

/-! ### Every outcome keeps what holds -/

theorem stream_of_getElem? {c : Connection} {i : Nat} {s : Exchange}
    (h : c.streams[i]? = some s) : c.stream i = s := by
  rw [stream, h]
  rfl

theorem getElem?_of_placed {c : Connection} {i : Nat} (placed : i < c.streams.size) :
    c.streams[i]? = some (c.stream i) := by
  rw [stream, Array.getElem?_eq_getElem placed]
  rfl

/-- The end of a connection, seen from one of its streams. -/
theorem torn_stream {c d : Connection} (h : c.Sound) {cause : Failure}
    (streams : d.streams =
      c.registry.values.foldl (fun s i => s.modify i (·.fail cause)) c.streams) {i : Nat}
    (placed : i < c.streams.size) :
    (c.stream i).Effect (d.stream i) [] ∧ (d.stream i).isOver = true := by
  obtain ⟨t, ht, effect, finished⟩ :=
    fail_all cause c.registry.values c.streams (getElem?_of_placed placed) (h.coherent i placed)
  rw [← streams] at ht
  rw [stream_of_getElem? ht]
  refine ⟨effect, ?_⟩
  cases live : (c.stream i).isOver with
  | true => exact effect.isOver live
  | false => exact finished (mem_values_of_get? ((h.registered i placed).mpr live))

theorem born_coherent {t : Exchange} {frames : List Frame} (h : Born t frames) : t.Coherent := by
  cases h with
  | response id payload => constructor <;> simp [Exchange.requesterResponse]
  | stream id batch payload =>
    constructor <;>
      simp [Exchange.requesterStream, StreamKind.initiallyClosed, StreamKind.hasConsumer,
        Directions.outboundOnly]
  | channel id batch =>
    constructor <;>
      simp [Exchange.requesterChannel, StreamKind.initiallyClosed, StreamKind.hasConsumer]
  | responder id initial answers effect => exact effect.coherent

theorem Outcome.later {c d : Connection} (h : c.Sound) (outcome : c.Outcome d) : c.Later d := by
  cases outcome with
  | still streams registry active accepts enqueued =>
    refine ⟨Nat.le_of_eq (by rw [streams]), fun i _ => ?_⟩
    rw [stream, stream, streams]
    exact .refl _
  | moved i placed effect eq =>
    subst eq
    refine ⟨Nat.le_of_eq (by rw [size_commit]), fun j _ => ?_⟩
    rw [stream_commit c placed]
    split
    next same => exact same ▸ effect.toExtends
    · exact .refl _
  | opened born live free streams registry active accepts enqueued =>
    refine ⟨by rw [streams, Array.size_push]; exact Nat.le_succ _, fun j hj => ?_⟩
    rw [stream_push rfl streams, if_neg (Nat.ne_of_lt hj)]
    exact .refl _
  | torn cause live streams registry finished refuses enqueued =>
    refine ⟨Nat.le_of_eq (by rw [streams, size_fail_all]), fun i hi => ?_⟩
    exact (torn_stream h streams hi).1.toExtends

theorem sound_still {c d : Connection} (h : c.Sound) (streams : d.streams = c.streams)
    (registry : d.registry = c.registry) (active : d.isActive = c.isActive)
    (accepts : d.queue.accepts = c.queue.accepts) : d.Sound := by
  have same (i : Nat) : d.stream i = c.stream i := by rw [stream, stream, streams]
  refine ⟨fun i hi => ?_, fun i hi => ?_, fun found => ?_, ?_⟩
  · rw [same]
    exact h.coherent i (streams ▸ hi)
  · rw [same, registry]
    exact h.registered i (streams ▸ hi)
  · rw [same, streams]
    exact h.placed (registry ▸ found)
  · rw [accepts, active]
    exact h.accepts

/-- A move takes the stream off the registry if it ends it, and nothing else. -/
theorem registered_commit {c : Connection} (h : c.Sound) {i : Nat} (placed : i < c.streams.size)
    {t : Exchange} {frames : List Frame} (id : t.id = (c.stream i).id)
    (mono : (c.stream i).isOver = true → t.isOver = true) (j : Nat) (hj : j < c.streams.size) :
    (c.commit i t frames).Registered j ↔ ((c.commit i t frames).stream j).isOver = false := by
  unfold Registered
  rw [stream_commit c placed]
  have before := h.registered i placed
  have other := h.registered j hj
  simp only [commit]
  by_cases same : j = i
  · subst same
    rw [if_pos rfl, id]
    cases was : (c.stream j).isOver with
    | true => simpa [mono was, was] using before
    | false =>
      cases now : t.isOver with
      | true => simp [Registry.get?_erase]
      | false => simpa [was] using before
  · rw [if_neg same, ← other]
    split
    next ends =>
      have live : (c.stream i).isOver = false := by
        simpa using (Bool.and_eq_true_iff.mp ends).1
      have held := before.mpr live
      rw [Registry.get?_erase]
      split
      next shared =>
        rw [shared, held]
        simp [Ne.symm same]
      · rfl
    · rfl

theorem sound_moved {c : Connection} (h : c.Sound) {i : Nat} (placed : i < c.streams.size)
    {t : Exchange} {frames : List Frame} (effect : (c.stream i).Effect t frames) :
    (c.commit i t frames).Sound := by
  refine ⟨fun j hj => ?_, fun j hj => ?_, fun {id j} found => ?_, ?_⟩
  · rw [size_commit] at hj
    rw [stream_commit c placed]
    split
    · exact effect.coherent
    · exact h.coherent j hj
  · rw [size_commit] at hj
    exact registered_commit h placed effect.id effect.isOver j hj
  · have held : c.registry.get? id = some j := by
      simp only [commit] at found
      split at found
      · rw [Registry.get?_erase] at found
        split at found
        · contradiction
        · exact found
      · exact found
    have place := h.placed held
    rw [size_commit, stream_commit c placed]
    refine ⟨place.1, ?_⟩
    split
    next same => rw [effect.id, ← same, place.2]
    · exact place.2
  · rw [accepts_commit]
    exact h.accepts

theorem sound_opened {c d : Connection} (h : c.Sound) {t : Exchange} {frames : List Frame}
    (born : Born t frames) (free : c.registry.get? t.id = none)
    (streams : d.streams = c.streams.push t)
    (registry : ∀ k, d.registry.get? k =
      if k = t.id then if t.isOver then none else some c.streams.size else c.registry.get? k)
    (active : d.isActive = c.isActive) (accepts : d.queue.accepts = c.queue.accepts) :
    d.Sound := by
  have size : d.streams.size = c.streams.size + 1 := by rw [streams, Array.size_push]
  refine ⟨fun j hj => ?_, fun j hj => ?_, fun {id j} found => ?_, ?_⟩
  · rw [stream_push rfl streams]
    split
    · exact born_coherent born
    · exact h.coherent j (by omega)
  · rw [stream_push rfl streams, registry]
    split
    next last =>
      cases finished : t.isOver with
      | true => simp
      | false => simp [last]
    next earlier =>
      have other := h.registered j (by omega)
      split
      next shared =>
        rw [shared, free] at other
        rw [← other]
        cases finished : t.isOver with
        | true => simp
        | false => simpa using Ne.symm earlier
      · exact other
  · rw [registry] at found
    rw [stream_push rfl streams, size]
    split at found
    next shared =>
      split at found
      · contradiction
      · rw [← Option.some.inj found, if_pos rfl, shared]
        exact ⟨Nat.lt_succ_self _, rfl⟩
    next other =>
      have place := h.placed found
      rw [if_neg (Nat.ne_of_lt place.1)]
      exact ⟨Nat.lt_succ_of_lt place.1, place.2⟩
  · rw [accepts, active]
    exact h.accepts

theorem Outcome.sound {c d : Connection} (h : c.Sound) (outcome : c.Outcome d) : d.Sound := by
  cases outcome with
  | still streams registry active accepts enqueued =>
    exact sound_still h streams registry active accepts
  | moved i placed effect eq =>
    rw [eq]
    exact sound_moved h placed effect
  | opened born live free streams registry active accepts enqueued =>
    exact sound_opened h born free streams registry active accepts
  | torn cause live streams registry finished refuses enqueued =>
    have size : d.streams.size = c.streams.size := by rw [streams, size_fail_all]
    refine ⟨fun i hi => ?_, fun i hi => ?_, fun found => ?_, ?_⟩
    · exact (torn_stream h streams (size ▸ hi)).1.coherent
    · rw [registry, (torn_stream h streams (size ▸ hi)).2]
      simp
    · simp [registry] at found
    · rw [refuses, finished]

/-- A connection that nothing has happened to. -/
theorem sound_new (side : Side) (config : ConnectionConfig) (setup : Option Setup)
    (now : Duration) : (new side config setup now).Sound := by
  refine ⟨fun i hi => ?_, fun i hi => ?_, fun found => ?_, ?_⟩
  · simp [new] at hi
  · simp [new] at hi
  · simp [new] at found
  · cases setup with
    | none => rfl
    | some setup => rfl

theorem Step.sound {c d : Connection} (step : Step c d) (h : c.Sound) : d.Sound :=
  (step.outcome h).sound h

theorem Step.later {c d : Connection} (step : Step c d) (h : c.Sound) : c.Later d :=
  (step.outcome h).later h

theorem Run.sound {c d : Connection} {sent : Nat → List Frame} (run : Run c sent d)
    (h : c.Sound) : d.Sound := by
  induction run with
  | start => exact h
  | step run next ih => exact next.sound ih

theorem Run.later {c d : Connection} {sent : Nat → List Frame} (run : Run c sent d)
    (h : c.Sound) : c.Later d := by
  induction run with
  | start => exact .refl c
  | step run next ih => exact ih.trans (next.later (run.sound h))

/-- In every state that a connection can come to, a stream is registered under its id if and only if
one of its directions is open. So it leaves the registry in the step that closes the second one and
in no other, it never comes back, and what happens to it after that leaves a stream alone that has
its id. -/
theorem registered_iff_open {side : Side} {config : ConnectionConfig} {setup : Option Setup}
    {now : Duration} {c : Connection} {sent : Nat → List Frame}
    (run : Run (new side config setup now) sent c) :
    (∀ i < c.streams.size, c.Registered i ↔ (c.stream i).isOver = false) ∧
    (∀ d, Step c d → ∀ i < c.streams.size, (d.stream i).id = (c.stream i).id ∧
      (c.Registered i ∧ ¬ d.Registered i ↔
        (c.stream i).isOver = false ∧ (d.stream i).isOver = true)) ∧
    (∀ d sent, Run c sent d → ∀ i < c.streams.size, ¬ c.Registered i → ¬ d.Registered i) ∧
    (∀ i < c.streams.size, (c.stream i).isOver = true → ∀ m : Exchange.Move, ∀ j, c.Registered j →
      (c.stepWriting i (m.apply ·)).Registered j) := by
  have h := run.sound (sound_new side config setup now)
  refine ⟨h.registered, fun d next i hi => ?_, fun d sent run i hi gone => ?_, ?_⟩
  · have later := next.later h
    have now := (next.sound h).registered i (Nat.lt_of_lt_of_le hi later.size)
    refine ⟨(later.streams i hi).id, ?_⟩
    unfold Registered
    rw [h.registered i hi, now, Bool.not_eq_false]
  · have later := run.later h
    unfold Registered at gone ⊢
    rw [h.registered i hi, Bool.not_eq_false] at gone
    rw [(run.sound h).registered i (Nat.lt_of_lt_of_le hi later.size), Bool.not_eq_false]
    exact (later.streams i hi).isOver gone
  · intro i hi finished m j held
    have place := h.placed held
    have different : j ≠ i := by
      rintro rfl
      have live := (h.registered j hi).mp held
      simp [finished] at live
    unfold Registered at held ⊢
    unfold stepWriting
    rw [stream_commit c hi, if_neg different]
    simpa [commit, finished] using held

/-- A request of the peer that it takes back: the stream is over, and nothing stands for its id. -/
theorem registered_iff_open_of_cancelled :
    let opened := ((new .server {} none 0).dispatch (fun _ => true) 0
      (.payload (.requestStream 1 8 Payload.empty))).1
    let cancelled := (opened.dispatch (fun _ => true) 0 (.cancel 1)).1
    opened.Registered 0 ∧ ¬ cancelled.Registered 0 := by
  intro opened cancelled
  have first : Step (new .server {} none 0) opened := .dispatch _ _ _ _
  have second : Step opened cancelled := .dispatch _ _ _ _
  have law := registered_iff_open (Run.start.step first)
  exact ((law.2.1 cancelled second 0 (by decide)).2.mpr ⟨by decide, by decide⟩)

end StreamMux.Connection
