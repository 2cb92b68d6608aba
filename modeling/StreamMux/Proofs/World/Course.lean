import StreamMux.Proofs.World.Opening

/-!
# The course of a run

Two endpoints start out with nothing between them. Until the application asks for the first item of
its stream every id is untouched. From then on there is the stream, and what is kept of it by every
step holds as long as the run goes on (`Follows.course`).
-/
namespace StreamMux

/-! ### At the start -/

namespace World

/-- A client and a server that have not made a step. -/
def joined (config config' : ConnectionConfig) (setup setup' : Option Setup)
    (a a' : Application) : World where
  near := newEndpoint .client config setup a
  far := some (newEndpoint .server config' setup' a')

theorem newEndpoint_healthy (side : Side) (config : ConnectionConfig) (setup : Option Setup)
    (a : Application) : (newEndpoint side config setup a).connection.Healthy side where
  role := rfl
  accepts := by cases setup <;> rfl
  placed found := by contradiction
  level f hf := by
    cases setup with
    | none => contradiction
    | some setup =>
      change f ∈ [Frame.setup setup] at hf
      rw [List.mem_singleton.mp hf]
      rfl
  parity := by
    change (StreamIds.forSide side).counter.toNat % 2 = _
    cases side <;> decide

theorem newEndpoint_lacks (id : UInt32) (side : Side) (config : ConnectionConfig)
    (setup : Option Setup) (a : Application) :
    (newEndpoint side config setup a).connection.Lacks id where
  absent _ past := absurd past (Nat.not_lt_zero _)
  free := rfl

theorem newEndpoint_avoids (id : UInt32) (name : Option String) (slot : Option Nat) (side : Side)
    (config : ConnectionConfig) (setup : Option Setup) (a : Application) :
    (newEndpoint side config setup a).Avoids id name slot where
  requests _ _ _ found := by contradiction
  tasks _ _ _ found := by simp [newEndpoint] at found
  kept _ keeps := by simp [newEndpoint] at keeps

variable (config config' : ConnectionConfig) (setup setup' : Option Setup) (a a' : Application)

theorem joined_ends {here : End} {e : Endpoint}
    (found : (joined config config' setup setup' a a').endpoint? here = some e) :
    ∃ config setup a, e = newEndpoint (role here) config setup a := by
  cases here with
  | near => exact ⟨config, setup, a, (Option.some.inj found).symm⟩
  | far => exact ⟨config', setup', a', (Option.some.inj found).symm⟩

theorem joined_live : (joined config config' setup setup' a a').Live := by
  intro here
  cases here with
  | near => exact ⟨_, rfl, rfl⟩
  | far => exact ⟨_, rfl, rfl⟩

theorem joined_untouched (id : UInt32) (name : String) :
    (joined config config' setup setup' a a').Untouched id name a' config' where
  aside :=
    { healthy := fun found => by
        obtain ⟨_, _, _, rfl⟩ := joined_ends _ _ _ _ _ _ found
        exact newEndpoint_healthy _ _ _ _
      avoids := fun found => by
        obtain ⟨_, _, _, rfl⟩ := joined_ends _ _ _ _ _ _ found
        exact newEndpoint_avoids _ _ _ _ _ _ _
      bound := fun {here e} _ k mine => by contradiction }
  lacks found := by
    obtain ⟨_, _, _, rfl⟩ := joined_ends _ _ _ _ _ _ found
    exact newEndpoint_lacks _ _ _ _ _
  silent here := by
    cases here with
    | near => cases setup <;> rfl
    | far => cases setup' <;> rfl
  there := ⟨_, rfl, rfl, rfl⟩

/-! ### On the way -/

/-- Coming back to an open stream gives out no id. -/
theorem ids_perform_poll {e : Endpoint} {name : String} {i : Nat}
    (opened : e.request? name = some (.opened i)) (limit : Nat) :
    (e.perform (.poll name limit)).2.connection.ids = e.connection.ids := by
  have asked : e.Asked name := fun opening batch unopened => by
    rw [opened] at unopened
    cases unopened
  unfold Endpoint.perform Endpoint.pollNamed
  dsimp only
  rw [opened]
  exact Endpoint.ids_takeItems limit asked

/-- What can be said of a stream or a channel under its id, with what its consumer has got. It holds
when the stream is opened, and whatever happens then. -/
structure Upheld (name : String) (opening : Opening) (a : Application) (config : ConnectionConfig)
    (P : UInt32 → List Item → Bool → World → Prop) : Prop where
  opens : ∀ {id batch : UInt32} {i : Nat} {w : World} {e : Endpoint}, 0 < batch →
    batch ≤ maxRequestN → low31 id = id → id ≠ 0 → id.toNat % 2 = 1 →
    w.Untouched id name a config → w.present.open opening batch = (.ok i, e) →
    w.near.connection.spent e.connection = [id] → P id [] false (w.opening name i e)
  steps : ∀ {id : UInt32} {got : List Item} {ended : Bool} {w w' : World}, P id got ended w →
    Step name w w' → w.Live → w'.Live → id ∉ w.spent w' → P id got ended w'
  polls : ∀ {id : UInt32} {got : List Item} {ended : Bool} {w w' : World} {limit : Nat}
    {reply : Reply}, P id got ended w →
    w.act .near (·.perform (.poll name limit)) = (some reply, w') →
    P id (got ++ reply.taken) (ended || reply.isEnd) w'
  requested : ∀ {id : UInt32} {got : List Item} {ended : Bool} {w : World}, P id got ended w →
    w.near.request? name ≠ none

/-- Where a run has got to: nobody has asked for an item yet, or there is the stream. -/
inductive Course (name : String) (opening : Opening) (a : Application) (config : ConnectionConfig)
    (P : UInt32 → List Item → Bool → World → Prop) (log : Log) (w : World) : Prop
  | waits
      (request : w.near.request? name = none ∨ ∃ batch, 0 < batch ∧ batch ≤ maxRequestN ∧
        w.near.request? name = some (.unopened opening batch))
      (nothing : log.got = []) (goes : log.ended = false)
      (untouched : ∀ id, low31 id = id → id ≠ 0 → id ∉ log.issued → w.Untouched id name a config)
  | passes {id : UInt32} (given : id ∈ log.issued) (passes : P id log.got log.ended w)

variable {name : String} {opening : Opening} {a : Application} {config : ConnectionConfig}
  {P : UInt32 → List Item → Bool → World → Prop} {log : Log} {w w' : World}

/-- A step of anything but the request. -/
theorem Course.step (h : Course name opening a config P log w)
    (upheld : Upheld name opening a config P) (next : Step name w w') (live : w.Live)
    (live' : w'.Live) (fresh : ∀ id ∈ w.spent w', id ∉ log.issued) :
    Course name opening a config P { log with issued := log.issued ++ w.spent w' } w' := by
  cases h with
  | waits request nothing goes untouched =>
    refine .waits (by rw [next.request]; exact request) nothing goes fun id low nonzero unused => ?_
    rw [List.mem_append, not_or] at unused
    have before := untouched id low nonzero unused.1
    exact before.turn live (next.turn before.aside low nonzero live live' unused.2)
  | @passes id given passes =>
    exact .passes (List.mem_append_left _ given)
      (upheld.steps passes next live live' fun used => fresh id used given)

/-- The application asks for the stream. -/
theorem Course.asks (h : Course name opening a config P log w)
    (upheld : Upheld name opening a config P) (unasked : w.near.request? name = none)
    (batch : Option UInt32) (positive : 0 < w.near.batchSize batch)
    (bound : w.near.batchSize batch ≤ maxRequestN) (live : w.Live)
    (made : (w.act .near (·.perform (opening.call name batch))).2 = w') :
    w'.Live ∧ Course name opening a config P log w' := by
  have kept : w.present.perform (opening.call name batch) = _ :=
    Endpoint.perform_call (e := w.present) unasked batch
  rw [act_near kept] at made
  have becomes : w.Becomes .near _ _ _ w' := becomes_of_set made.symm
  have writes (here : End) : w'.writes here = w.writes here := by
    cases here with
    | near => exact becomes.mine
    | far => exact becomes.theirs
  refine ⟨fun here => ?_, ?_⟩
  · cases here with
    | near =>
      have active := live.active w.endpoint?_near
      exact ⟨_, becomes.own, active⟩
    | far =>
      obtain ⟨f, there, active⟩ := live .far
      exact ⟨f, becomes.other.trans there, active⟩
  · cases h with
    | waits request nothing goes untouched =>
      refine .waits (.inr ⟨_, positive, bound, ?_⟩) nothing goes fun id low nonzero unused => ?_
      · rw [show w'.near = _ from Option.some.inj becomes.own, Endpoint.request?_setRequest,
          if_pos rfl]
        rfl
      · refine (untouched id low nonzero unused).asks becomes.own rfl becomes.other writes
          (fun n other => ?_) rfl rfl
        rw [Endpoint.request?_setRequest, if_neg (Ne.symm other)]
        rfl
    | passes given passes => exact absurd unasked (upheld.requested passes)

/-- The application asks for the first item: the stream is opened, under an id that was not given
out before. -/
theorem Course.opens {batch : UInt32} {i limit : Nat} {e : Endpoint} {reply : Reply}
    (upheld : Upheld name opening a config P) (nothing : log.got = []) (goes : log.ended = false)
    (untouched : ∀ id, low31 id = id → id ≠ 0 → id ∉ log.issued → w.Untouched id name a config)
    (positive : 0 < batch) (bound : batch ≤ maxRequestN)
    (unopened : w.near.request? name = some (.unopened opening batch))
    (made : w.present.open opening batch = (.ok i, e))
    (answered : w.act .near (·.perform (.poll name (limit + 1))) = (some reply, w'))
    (fresh : ∀ id ∈ w.spent w', id ∉ log.issued) :
    Course name opening a config P
      { got := log.got ++ reply.taken, ended := log.ended || reply.isEnd
        issued := log.issued ++ w.spent w' } w' := by
  obtain ⟨clock, own, spends, nonzero, low, parity⟩ := Endpoint.open_ok made
  rw [act_unopened unopened made] at answered
  have opened : (w.opening name i e).near.request? name = some (.opened i) := by
    rw [request?_opening, if_pos rfl]
  have given : own ∈ w.spent w' := by
    have after : w' = _ := congrArg Prod.snd (answered.symm.trans (act_present _ _))
    have ids : w'.near.connection.ids = e.connection.ids := by
      rw [after]
      exact ids_perform_poll (e := (w.opening name i e).present) opened (limit + 1)
    refine mem_spent w.endpoint?_near w'.endpoint?_near ?_
    have spends : w.near.connection.spent e.connection = [own] := spends
    rw [Connection.spent_congr ids, spends]
    exact List.mem_singleton_self own
  have untouched := untouched own low nonzero (fresh own given)
  have healthy : w.near.connection.Healthy .client := untouched.aside.healthy w.endpoint?_near
  have odd : own.toNat % 2 = 1 := parity.trans healthy.parity
  have passes := upheld.polls (upheld.opens positive bound low nonzero odd untouched made spends)
    answered
  rw [← nothing, ← goes] at passes
  exact .passes (List.mem_append_right _ given) passes

/-- The application asks for items, and is not refused. -/
theorem Course.polls (h : Course name opening a config P log w)
    (upheld : Upheld name opening a config P) (limit : Nat) {reply : Reply}
    (answered : w.act .near (·.perform (.poll name limit)) = (some reply, w')) (live : w.Live)
    (fresh : ∀ id ∈ w.spent w', id ∉ log.issued)
    (granted : w'.near.request? name ≠ some .refused) :
    Course name opening a config P
      { got := log.got ++ reply.taken, ended := log.ended || reply.isEnd
        issued := log.issued ++ w.spent w' } w' := by
  cases h with
  | passes given passes =>
    exact .passes (List.mem_append_left _ given) (upheld.polls passes answered)
  | waits request nothing goes untouched =>
    have rests (acts : w.present.perform (.poll name limit) = (reply, w.present))
        (empty : reply.taken = []) (open' : reply.isEnd = false) :
        Course name opening a config P
          { got := log.got ++ reply.taken, ended := log.ended || reply.isEnd
            issued := log.issued ++ w.spent w' } w' := by
      have made : w' = _ := congrArg Prod.snd (answered.symm.trans (act_near acts))
      refine .waits ?_ (by simp [nothing, empty]) (by simp [goes, open'])
        fun id low nonzero unused => ?_
      · rw [made]
        exact request
      · rw [List.mem_append, not_or] at unused
        have after := (untouched id low nonzero unused.1).rests low live
          (·.perform (.poll name limit)) acts
        rw [answered] at after
        exact after
    rcases request with unasked | ⟨batch, positive, bound, unopened⟩
    · have free : w.present.request? name = none := unasked
      have gone : w.present.perform (.poll name limit) = (.gone, w.present) := by
        rw [Endpoint.perform, Endpoint.pollNamed, free]
      have same : reply = .gone :=
        Option.some.inj (congrArg Prod.fst (answered.symm.trans (act_near gone)))
      subst same
      exact rests gone rfl rfl
    · have waiting : w.present.request? name = some (.unopened opening batch) := unopened
      cases limit with
      | zero =>
        have none : w.present.perform (.poll name 0) =
            (.items [] .enough (w.present.streamId? name), w.present) := by
          rw [Endpoint.perform, Endpoint.pollNamed, waiting]
          rfl
        have same : reply = _ :=
          Option.some.inj (congrArg Prod.fst (answered.symm.trans (act_near none)))
        subst same
        exact rests none rfl rfl
      | succ limit =>
        generalize made : w.present.open opening batch = result
        obtain ⟨(_ | _) | i, e⟩ := result
        · have refused := Endpoint.perform_refused (e := w.present) unopened made limit
          generalize performed : w.present.perform (.poll name (limit + 1)) = result at refused
          have made : w' = _ := congrArg Prod.snd (answered.symm.trans (act_near performed))
          rw [made] at granted
          exact absurd refused granted
        · have waits := Endpoint.perform_endless waiting (congrArg Prod.fst made) limit
          have same : reply = .items [] .pending none :=
            Option.some.inj (congrArg Prod.fst (answered.symm.trans (act_near waits)))
          subst same
          exact rests waits rfl rfl
        · exact Course.opens upheld nothing goes untouched positive bound unopened made answered
            fresh

/-- Every run takes its course. -/
theorem Follows.course {w₀ : World} (upheld : Upheld name opening a config P) (live : w₀.Live)
    (unasked : w₀.near.request? name = none) (untouched : ∀ id, w₀.Untouched id name a config)
    (run : Follows name opening w₀ log w) :
    w.Live ∧ Course name opening a config P log w := by
  induction run with
  | start => exact ⟨live, .waits (.inl unasked) rfl rfl fun id _ _ _ => untouched id⟩
  | step run next live' fresh ih => exact ⟨live', ih.2.step upheld next ih.1 live' fresh⟩
  | asks run unasked batch positive bound ih =>
    exact ih.2.asks upheld unasked batch positive bound ih.1 rfl
  | polls run limit answered live' fresh granted ih =>
    exact ⟨live', ih.2.polls upheld limit answered ih.1 fresh granted⟩

end World
end StreamMux
