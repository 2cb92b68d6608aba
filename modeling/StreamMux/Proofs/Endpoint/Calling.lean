import StreamMux.Proofs.Endpoint.Working

/-!
# Calls, frames and ticks apart from one stream

What the application does under other names, what the peer sends with other ids and what the
watchdog does leaves a stream alone, as long as its id is not given out again and the connection
goes on.
-/
namespace StreamMux

/-- The name of the request that a call makes or comes back to. -/
def Call.request? : Call → Option String
  | .requestResponse name _ | .requestStream name _ _ | .requestChannel name _ _
  | .requestFedChannel name _ _ | .poll name _ | .drop name => some name
  | .close | .closed | .fireAndForget _ | .metadataPush _ | .pollKept _ | .dropKept _ | .feed ..
  | .endFeed _ => none

namespace Endpoint

variable {id : UInt32} {name : Option String} {slot : Option Nat} {e : Endpoint}

/-! ### Frames and ticks -/

theorem keepChannel_apart {i : Nat} (beside : e.connection.Beside id i) (p : Producer) :
    Apart id name slot e (e.keepChannel i p) := by
  obtain same | ⟨-, kept⟩ := e.keepChannel_cases i p
  · rw [same]
    exact .refl _ _ _ e
  · rw [kept]
    refine .of_kept fun j keeps => ?_
    obtain rfl | keeps := List.mem_cons.mp keeps
    · exact .inr beside
    · exact .inl keeps

theorem start_apart {work : Connection.Work} (bound : ∀ k, slot = some k → k < e.tasks.size)
    (places : ∀ i, work.place? = some i → e.connection.Beside id i) :
    Apart id name slot e (e.start work) := by
  have reported (implemented : Bool) (event : Event) :
      Apart id name slot e (e.reportCall implemented event) :=
    .of_still (reportCall_rests e implemented event).toStill
  have spawned {f : Endpoint} (apart : Apart id name slot e f) (task : Task)
      (same : task.place? = work.place?) : Apart id name slot e (f.spawn task) :=
    apart.trans (.spawn (fun k eq => Nat.lt_of_lt_of_le (bound k eq) apart.size) fun i place =>
      apart.connection.beside (places i (same ▸ place)))
  cases work with
  | metadataPush metadata => exact .spawn bound places
  | fireAndForget stream payload => exact .spawn bound places
  | response stream payload => exact .spawn bound places
  | items stream payload => exact spawned (reported _ _) _ rfl
  | channel stream payload =>
    have told := reported e.application.requestChannel.isSome (.requestChannel payload)
    have beside := told.connection.beside (places stream rfl)
    exact spawned (told.trans (keepChannel_apart beside (e.application.onChannel payload))) _ rfl

theorem connection_start (e : Endpoint) (work : Connection.Work) :
    (e.start work).connection = e.connection := by
  cases work with
  | items stream payload => exact (reportCall_rests e _ _).connection
  | channel stream payload =>
    exact (keepChannel_same _ _ _).1.trans (reportCall_rests e _ _).connection
  | _ => rfl

theorem connection_handle (e : Endpoint) (frame : Frame) : (e.handle frame).connection =
    (e.connection.dispatch e.application.keepsItems e.clock.now frame).1 := by
  unfold handle
  dsimp only
  split
  · rfl
  · rw [connection_start]

/-- A frame of another stream. -/
theorem handle_apart (placed : e.connection.Placed)
    (bound : ∀ k, slot = some k → k < e.tasks.size) {frame : Frame}
    (onWire : low31 frame.id = frame.id) (other : frame.id ≠ id)
    (live : (e.connection.dispatch e.application.keepsItems e.clock.now frame).1.isActive = true) :
    Apart id name slot e (e.handle frame) := by
  obtain ⟨apart, places⟩ := Connection.dispatch_apart placed e.application.keepsItems
    e.clock.now onWire other live
  have changed : Apart id name slot e { e with
      connection := (e.connection.dispatch e.application.keepsItems e.clock.now frame).1 } :=
    .of_connection apart rfl rfl rfl rfl
  unfold handle
  dsimp only
  split
  · exact changed
  next work started =>
    exact changed.trans (start_apart bound fun i place => places work started i place)

theorem stepWatch_apart (live : e.stepWatch.1.connection.isActive = true) :
    Apart id name slot e e.stepWatch.1 := by
  unfold stepWatch at live ⊢
  by_cases closed : (!e.connection.isActive) = true
  · rw [if_pos closed]
    exact .of_still ⟨rfl, rfl, rfl, rfl, rfl⟩
  · rw [if_neg closed] at live ⊢
    rcases watch : e.watch with _ | (_ | alarm | _)
    · exact .refl _ _ _ e
    · exact .of_still ⟨rfl, rfl, rfl, rfl, rfl⟩
    · rw [watch] at live
      dsimp only at live ⊢
      by_cases due : e.clock.isDue alarm = true
      · rw [if_pos due] at live ⊢
        have alive :
            (e.mapConnection (·.tick e.clock.now)).connection.isActive = true := by
          split at live
          next alive => exact alive
          next dead => exact absurd live dead
        rw [if_pos alive]
        exact .of_connection (Connection.apart_tick alive) rfl rfl rfl rfl
      · rw [if_neg due]
        exact .refl _ _ _ e
    · exact .of_still ⟨rfl, rfl, rfl, rfl, rfl⟩

/-! ### Calls -/

theorem giveUp_apart (wire : low31 id = id) {request : Request}
    (places : ∀ i, request.place? = some i → e.connection.Beside id i) :
    Apart id name slot e (e.giveUp request) := by
  cases request with
  | response stream => exact .move wire (places stream rfl) .abandon
  | opened stream => exact .move wire (places stream rfl) .dropConsumer
  | unopened opening batch =>
    cases opening with
    | stream payload => exact .refl _ _ _ e
    | channel source => exact .of_still (dropSource_rests e source).toStill
  | refused => exact .refl _ _ _ e

/-- A request that is not opened yet takes a name over. -/
theorem keepRequest_apart (wire : low31 id = id) (avoids : e.Avoids id name slot) {n : String}
    (other : name ≠ some n) {request : Request} (unplaced : request.place? = none) :
    Apart id name slot e (e.keepRequest n request) := by
  have kept : Apart id name slot e (e.setRequest n request) :=
    .setRequest other (by simp [unplaced])
  unfold keepRequest
  dsimp only
  split
  next former found =>
    exact kept.trans (giveUp_apart wire (avoids.requests n former other found))
  · exact kept

theorem dropRequest_apart (wire : low31 id = id) (avoids : e.Avoids id name slot) {n : String}
    (other : name ≠ some n) : Apart id name slot e (e.dropRequest n) := by
  unfold dropRequest
  split
  next request found =>
    have gone : Apart id name slot e (e.forgetRequest n) := .forgetRequest other
    exact gone.trans (giveUp_apart wire (avoids.requests n request other found))
  · exact .refl _ _ _ e

/-- Letting go of a request gives out no id. -/
theorem ids_dropRequest (e : Endpoint) (n : String) :
    (e.dropRequest n).connection.ids = e.connection.ids := by
  unfold dropRequest
  split
  next request _ =>
    cases request with
    | unopened opening batch =>
      cases opening with
      | stream payload => rfl
      | channel source => exact congrArg Connection.ids (dropSource_rests _ source).connection
    | _ => rfl
  · rfl

theorem requestResponse_apart (wire : low31 id = id) (avoids : e.Avoids id name slot) {n : String}
    (other : name ≠ some n) (payload : Payload)
    (unspent : id ∉ e.connection.spent (e.requestResponse n payload).2.connection) :
    Apart id name slot e (e.requestResponse n payload).2 := by
  have dropped := dropRequest_apart wire avoids other
  unfold requestResponse at unspent ⊢
  dsimp only at unspent ⊢
  split at unspent
  · exact dropped
  · exact dropped
  next i d made =>
    have unspent : id ∉ (e.dropRequest n).connection.spent d := by
      rw [Connection.spent, ids_dropRequest]
      exact unspent
    obtain ⟨apart, beside⟩ := Connection.requestResponse_apart wire made unspent
    have moved : Apart id name slot (e.dropRequest n)
        { e.dropRequest n with connection := d } := .of_connection apart rfl rfl rfl rfl
    refine dropped.trans (moved.trans (.setRequest other fun j place => ?_))
    cases place
    exact beside

theorem open_apart (wire : low31 id = id) (bound : ∀ k, slot = some k → k < e.tasks.size)
    (opening : Opening) (batch : UInt32)
    (unspent : id ∉ e.connection.spent (e.open opening batch).2.connection) :
    Apart id name slot e (e.open opening batch).2 ∧
      ∀ i, (e.open opening batch).1 = .ok i → (e.open opening batch).2.connection.Beside id i := by
  unfold «open» at unspent ⊢
  cases opening with
  | stream payload =>
    dsimp only at unspent ⊢
    split at unspent
    next i d made =>
      obtain ⟨apart, beside⟩ := Connection.requestStream_apart wire made unspent
      refine ⟨.of_connection apart rfl rfl rfl rfl, fun j eq => ?_⟩
      cases eq
      exact beside
    · exact ⟨.refl _ _ _ e, fun i eq => by cases eq⟩
  | channel source =>
    dsimp only at unspent ⊢
    split at unspent
    next i d made =>
      obtain ⟨apart, beside⟩ := Connection.apart_register wire (fun _ => rfl) made unspent
      have moved : Apart id name slot e { e with connection := d } :=
        .of_connection apart rfl rfl rfl rfl
      refine ⟨moved.trans (.spawn bound fun j place => ?_), fun j eq => ?_⟩
      · cases place
        exact beside
      · cases eq
        exact beside
    · exact ⟨.of_still (dropSource_rests e source).toStill, fun i eq => by cases eq⟩
    · exact ⟨.refl _ _ _ e, fun i eq => by cases eq⟩

/-! ### Polls -/

/-- Asking a stream for an item is a step of its exchange. -/
theorem pullInbound_eq (e : Endpoint) (i : Nat) : e.pullInbound i false =
    ((e.connection.stream i).poll.1, { e with
      connection := e.connection.commit i (e.connection.stream i).poll.2.1
        (e.connection.stream i).poll.2.2 }) := by
  unfold pullInbound Connection.pollItem
  dsimp only
  split
  next item eq => rw [eq, if_neg Bool.false_ne_true]
  · rfl

theorem pullInbound_same (e : Endpoint) (i : Nat) (reports : Bool) :
    (e.pullInbound i reports).2.connection = (e.connection.pollItem i).2 ∧
      (e.pullInbound i reports).2.requests = e.requests := by
  unfold pullInbound
  dsimp only
  split
  · split
    · exact ⟨rfl, rfl⟩
    · exact ⟨rfl, rfl⟩
  · exact ⟨rfl, rfl⟩

section Asking

variable {f : Endpoint} {n : String} {opening : Opening} {batch : UInt32} {cause : Failure}
  {i : Nat}

theorem pollItem_opened (opened : e.request? n = some (.opened i)) :
    e.pollItem n = e.pullInbound i false := by
  unfold pollItem
  rw [opened]

/-- The first item that is asked for opens the stream, which is then asked like any other. -/
theorem pollItem_made (unopened : e.request? n = some (.unopened opening batch))
    (made : e.open opening batch = (.ok i, f)) :
    e.pollItem n = (f.setRequest n (.opened i)).pollItem n := by
  unfold pollItem
  rw [unopened, request?_setRequest_same]
  dsimp only
  rw [made]

/-- What cannot be opened is refused. -/
theorem pollItem_unmade (unopened : e.request? n = some (.unopened opening batch))
    (made : e.open opening batch = (.error (.failed cause), f)) :
    e.pollItem n = (.ready (some (.error cause)), f.setRequest n .refused) := by
  unfold pollItem
  rw [unopened]
  dsimp only
  rw [made]

/-- What looks for an id in vain leaves everything as it is. -/
theorem open_endless (endless : (e.open opening batch).1 = .error .endless) :
    e.open opening batch = (.error .endless, e) := by
  unfold «open» at endless ⊢
  cases opening with
  | stream payload =>
    dsimp only at endless ⊢
    split at endless
    · contradiction
    · cases endless
      rfl
  | channel source =>
    dsimp only at endless ⊢
    split at endless
    · contradiction
    · cases endless
    · rfl

/-- Nobody gets an item while an id is looked for. -/
theorem pollItem_endless (unopened : e.request? n = some (.unopened opening batch))
    (endless : (e.open opening batch).1 = .error .endless) : e.pollItem n = (.pending, e) := by
  unfold pollItem
  rw [unopened]
  dsimp only
  rw [open_endless endless]

theorem pollItem_of_refused (refused : e.request? n = some .refused) :
    e.pollItem n = (.ready none, e) := by
  unfold pollItem
  rw [refused]

/-- A name stands for a stream, or will, or there is nothing to be asked. -/
theorem pollItem_cases (e : Endpoint) (n : String) :
    (∃ i, e.request? n = some (.opened i)) ∨
      (∃ opening batch, e.request? n = some (.unopened opening batch)) ∨
        e.pollItem n = (.ready none, e) := by
  unfold pollItem
  split
  next i found => exact .inl ⟨i, found⟩
  next opening batch found => exact .inr (.inl ⟨opening, batch, found⟩)
  · exact .inr (.inr rfl)

/-- What asking for one item keeps, asking for several keeps. -/
theorem takeItems_keeps {P : Endpoint → Prop} (step : ∀ f, P f → P (f.pollItem n).2)
    (limit : Nat) {e : Endpoint} (h : P e) : P (e.takeItems n limit).2.2 := by
  induction limit generalizing e with
  | zero => exact h
  | succ limit ih =>
    have polled := step e h
    unfold takeItems
    generalize e.pollItem n = result at polled
    obtain ⟨_ | _ | item, f⟩ := result
    · exact polled
    · exact polled
    · exact ih polled

theorem takeItems_made (unopened : e.request? n = some (.unopened opening batch))
    (made : e.open opening batch = (.ok i, f)) (limit : Nat) :
    e.takeItems n (limit + 1) = (f.setRequest n (.opened i)).takeItems n (limit + 1) := by
  unfold takeItems
  rw [pollItem_made unopened made]

theorem takeItems_pending (waits : (e.pollItem n).1 = .pending) (limit : Nat) :
    (e.takeItems n (limit + 1)).2.2 = (e.pollItem n).2 := by
  unfold takeItems
  generalize e.pollItem n = result at waits
  obtain ⟨answer, f⟩ := result
  cases waits
  rfl

/-- There is nothing to be asked. -/
theorem takeItems_idle (unasked : e.pollItem n = (.ready none, e)) (limit : Nat) :
    (e.takeItems n limit).1 = [] ∧ (e.takeItems n limit).2.2 = e := by
  cases limit with
  | zero => exact ⟨rfl, rfl⟩
  | succ limit =>
    unfold takeItems
    rw [unasked]
    exact ⟨rfl, rfl⟩

/-- The one item of a stream that cannot be opened is why. -/
theorem takeItems_unmade (unopened : e.request? n = some (.unopened opening batch))
    (made : e.open opening batch = (.error (.failed cause), f)) (limit : Nat) :
    (e.takeItems n (limit + 1)).1 = [.error cause] ∧
      (e.takeItems n (limit + 1)).2.2 = f.setRequest n .refused := by
  have refused := pollItem_of_refused (f.request?_setRequest_same n .refused)
  obtain ⟨items, idle⟩ := takeItems_idle refused limit
  unfold takeItems
  rw [pollItem_unmade unopened made]
  dsimp only
  rw [items, idle]
  exact ⟨rfl, rfl⟩

end Asking

/-- The request was opened, or never will be. -/
def Asked (e : Endpoint) (n : String) : Prop :=
  ∀ opening batch, e.request? n ≠ some (.unopened opening batch)

/-- Coming back to a request that was opened gives out no id. -/
theorem pollItem_same {n : String} (asked : e.Asked n) :
    (e.pollItem n).2.connection.ids = e.connection.ids ∧
      (e.pollItem n).2.request? n = e.request? n := by
  unfold pollItem
  split
  next i _ =>
    obtain ⟨connection, requests⟩ := e.pullInbound_same i false
    rw [connection, request?, requests]
    exact ⟨rfl, rfl⟩
  next opening batch found => exact absurd found (asked opening batch)
  · exact ⟨rfl, rfl⟩

theorem Asked.pollItem {n : String} (asked : e.Asked n) : (e.pollItem n).2.Asked n :=
  fun opening batch found => asked opening batch ((pollItem_same asked).2 ▸ found)

/-- The request is to be opened, and the search for its id goes on and on. -/
def Searches (e : Endpoint) (n : String) : Prop :=
  ∃ opening batch, e.request? n = some (.unopened opening batch) ∧
    (e.open opening batch).1 = .error .endless

theorem Searches.pollItem {n : String} (searches : e.Searches n) :
    e.pollItem n = (.pending, e) := by
  obtain ⟨opening, batch, unopened, endless⟩ := searches
  exact pollItem_endless unopened endless

theorem Searches.takeItems {n : String} (searches : e.Searches n) (limit : Nat) :
    e.takeItems n (limit + 1) = ([], .pending, e) := by
  unfold Endpoint.takeItems
  rw [searches.pollItem]

/-- Who came back has a request that was opened, or never will be. -/
theorem asked_pollItem {n : String} (found : ¬ e.Searches n) : (e.pollItem n).2.Asked n := by
  by_cases asked : e.Asked n
  · exact asked.pollItem
  · unfold Asked at asked
    simp only [Classical.not_forall, Classical.not_not] at asked
    obtain ⟨opening, batch, unopened⟩ := asked
    generalize made : e.open opening batch = result
    obtain ⟨(cause | _) | i, f⟩ := result
    · rw [pollItem_unmade unopened made]
      simp [Asked]
    · exact absurd ⟨opening, batch, unopened, congrArg Prod.fst made⟩ found
    · rw [pollItem_made unopened made]
      exact Asked.pollItem (by simp [Asked])

theorem pollItem_apart (wire : low31 id = id) (avoids : e.Avoids id name slot) {n : String}
    (other : name ≠ some n) (bound : ∀ k, slot = some k → k < e.tasks.size)
    (unspent : id ∉ e.connection.spent (e.pollItem n).2.connection) :
    Apart id name slot e (e.pollItem n).2 := by
  rcases e.pollItem_cases n with ⟨i, found⟩ | ⟨opening, batch, found⟩ | idle
  · rw [pollItem_opened found]
    exact pullInbound_apart wire (avoids.requests n _ other found i rfl) false
  · have opens (unspent : id ∉ e.connection.spent (e.open opening batch).2.connection) :
        Apart id name slot e (e.open opening batch).2 ∧ ∀ i, (e.open opening batch).1 = .ok i →
          (e.open opening batch).2.connection.Beside id i :=
      open_apart wire bound opening batch unspent
    generalize made : e.open opening batch = result at opens
    obtain ⟨(cause | _) | i, f⟩ := result
    · rw [pollItem_unmade found made] at unspent ⊢
      exact (opens unspent).1.trans (.setRequest other fun i place => by cases place)
    · rw [pollItem_endless found (congrArg Prod.fst made)]
      exact .refl _ _ _ e
    · rw [pollItem_made found made, pollItem_opened (f.request?_setRequest_same n _)] at unspent ⊢
      rw [(pullInbound_same _ _ _).1] at unspent
      obtain ⟨apart, beside⟩ := opens unspent
      have kept : Apart id name slot f (f.setRequest n (.opened i)) :=
        .setRequest other fun j place => by
          cases place
          exact beside i rfl
      have pulled : Apart id name slot (f.setRequest n (.opened i))
          ((f.setRequest n (.opened i)).pullInbound i false).2 :=
        pullInbound_apart (e := f.setRequest n (.opened i)) wire (beside i rfl) false
      exact apart.trans (kept.trans pulled)
  · rw [idle]
    exact .refl _ _ _ e

/-- Items of a request that was opened are taken. -/
theorem takeItems_apart_of_asked (wire : low31 id = id) {n : String} (other : name ≠ some n)
    (limit : Nat) {e : Endpoint} (avoids : e.Avoids id name slot) (asked : e.Asked n)
    (bound : ∀ k, slot = some k → k < e.tasks.size) :
    Apart id name slot e (e.takeItems n limit).2.2 := by
  have step (f : Endpoint) (before : Apart id name slot e f ∧ f.Asked n) :
      Apart id name slot e (f.pollItem n).2 ∧ (f.pollItem n).2.Asked n := by
    obtain ⟨apart, asked⟩ := before
    have unspent : id ∉ f.connection.spent (f.pollItem n).2.connection := by
      rw [Connection.spent, if_pos (pollItem_same asked).1]
      simp
    exact ⟨apart.trans (pollItem_apart wire (apart.avoids avoids) other
      (fun k eq => Nat.lt_of_lt_of_le (bound k eq) apart.size) unspent), asked.pollItem⟩
  exact (takeItems_keeps step limit ⟨.refl _ _ _ e, asked⟩).1

theorem ids_takeItems {n : String} (limit : Nat) {e : Endpoint} (asked : e.Asked n) :
    (e.takeItems n limit).2.2.connection.ids = e.connection.ids := by
  have step (f : Endpoint) (before : f.connection.ids = e.connection.ids ∧ f.Asked n) :
      (f.pollItem n).2.connection.ids = e.connection.ids ∧ (f.pollItem n).2.Asked n :=
    ⟨(pollItem_same before.2).1.trans before.1, before.2.pollItem⟩
  exact (takeItems_keeps step limit ⟨rfl, asked⟩).1

theorem takeItems_apart (wire : low31 id = id) (avoids : e.Avoids id name slot) {n : String}
    (other : name ≠ some n) (bound : ∀ k, slot = some k → k < e.tasks.size) (limit : Nat)
    (unspent : id ∉ e.connection.spent (e.takeItems n limit).2.2.connection) :
    Apart id name slot e (e.takeItems n limit).2.2 := by
  cases limit with
  | zero => exact .refl _ _ _ e
  | succ limit =>
    have polled := pollItem_apart wire avoids other bound
    have later (told : (e.pollItem n).1 ≠ .pending) : (e.pollItem n).2.Asked n :=
      asked_pollItem fun searches => told (by rw [searches.pollItem])
    unfold takeItems at unspent ⊢
    generalize e.pollItem n = result at unspent polled later
    obtain ⟨_ | _ | item, f⟩ := result
    · exact polled unspent
    · exact polled unspent
    · have later := later (by simp)
      have same := ids_takeItems limit later
      dsimp only at unspent
      rw [Connection.spent, same] at unspent
      have apart := polled unspent
      exact apart.trans (takeItems_apart_of_asked wire other limit (apart.avoids avoids) later
        fun k eq => Nat.lt_of_lt_of_le (bound k eq) apart.size)

/-! ### Any call -/

theorem pollNamed_apart (wire : low31 id = id) (avoids : e.Avoids id name slot) {n : String}
    (other : name ≠ some n) (bound : ∀ k, slot = some k → k < e.tasks.size) (limit : Nat)
    (unspent : id ∉ e.connection.spent (e.pollNamed n limit).2.connection) :
    Apart id name slot e (e.pollNamed n limit).2 := by
  unfold pollNamed at unspent ⊢
  split
  · exact .refl _ _ _ e
  next i found =>
    unfold pollResponse
    dsimp only
    split
    · exact .refl _ _ _ e
    · exact .forgetRequest other
  next request plain found =>
    rw [found] at unspent
    dsimp only at unspent
    split at unspent
    · contradiction
    next i same => exact absurd (Option.some.inj same) (plain i)
    · exact takeItems_apart wire avoids other bound limit unspent

theorem pollKept_apart (wire : low31 id = id) (avoids : e.Avoids id name slot) (i : Nat) :
    Apart id name slot e (e.pollKept i).2 := by
  obtain same | ⟨keeps, polled⟩ := e.pollKept_cases i
  · rw [same]
    exact .refl _ _ _ e
  · rw [polled]
    exact pullInbound_apart wire (avoids.kept i keeps) false

theorem dropKept_apart (wire : low31 id = id) (avoids : e.Avoids id name slot) (i : Nat) :
    Apart id name slot e (e.dropKept i) := by
  obtain same | ⟨keeps, dropped⟩ := e.dropKept_cases i
  · rw [same]
    exact .refl _ _ _ e
  · have fewer : Apart id name slot e { e with kept := e.kept.filter (· != i) } :=
      .of_kept fun j still => .inl (List.mem_filter.mp still).1
    rw [dropped]
    exact fewer.trans (.move wire (fewer.connection.beside (avoids.kept i keeps)) .dropConsumer)

theorem attempt_apart {change : Connection → Except Connection.Refusal Connection}
    (apart : ∀ d, change e.connection = .ok d → id ∉ e.connection.spent d →
      e.connection.Apart id d)
    (unspent : id ∉ e.connection.spent (e.attempt change).2.connection) :
    Apart id name slot e (e.attempt change).2 := by
  unfold attempt at unspent ⊢
  split
  next d made =>
    rw [made] at unspent
    exact .of_connection (apart d made unspent) rfl rfl rfl rfl
  · exact .refl _ _ _ e
  · exact .refl _ _ _ e

theorem openFeed_rests (e : Endpoint) (n : String) : e.Rests (e.openFeed n).2 :=
  ⟨⟨rfl, rfl, rfl, rfl, rfl⟩, rfl, rfl, rfl, rfl, rfl⟩

theorem feed_rests (e : Endpoint) (n : String) (item : Item) : e.Rests (e.feed n item).2 := by
  unfold feed
  split
  · exact .refl e
  · split
    · exact .refl e
    · exact e.setFeedAt_rests _ _

theorem endFeed_rests (e : Endpoint) (n : String) : e.Rests (e.endFeed n).2 := by
  unfold endFeed
  split
  · exact .refl e
  · split
    · exact .refl e
    · exact e.setFeedAt_rests _ _

/-- A call under another name that does not end the connection. -/
theorem perform_apart (wire : low31 id = id) (avoids : e.Avoids id name slot) (call : Call)
    (other : ∀ n, call.request? = some n → name ≠ some n)
    (bound : ∀ k, slot = some k → k < e.tasks.size)
    (live : (e.perform call).2.connection.isActive = true)
    (unspent : id ∉ e.connection.spent (e.perform call).2.connection) :
    Apart id name slot e (e.perform call).2 := by
  cases call with
  | close =>
    have closed : (e.connection.close).isActive = false := Connection.isActive_terminate _ _
    exact absurd live (by rw [perform]; simp [mapConnection, closed])
  | closed => exact .refl _ _ _ e
  | fireAndForget payload =>
    have sent : Apart id name slot e (e.attempt (·.fireAndForget payload)).2 :=
      attempt_apart (fun d made fresh => Connection.fireAndForget_apart made fresh) unspent
    exact sent
  | metadataPush metadata =>
    have pushed : Apart id name slot e (e.attempt (·.metadataPush metadata)).2 :=
      attempt_apart (fun d made _ => Connection.metadataPush_apart made) unspent
    exact pushed
  | requestResponse n payload =>
    exact requestResponse_apart wire avoids (other n rfl) payload unspent
  | requestStream n payload batch => exact keepRequest_apart wire avoids (other n rfl) rfl
  | requestChannel n source batch => exact keepRequest_apart wire avoids (other n rfl) rfl
  | requestFedChannel n label batch =>
    have opened : Apart id name slot e (e.openFeed n).2 := .of_still (e.openFeed_rests n).toStill
    exact opened.trans (keepRequest_apart wire (opened.avoids avoids) (other n rfl) rfl)
  | poll n limit => exact pollNamed_apart wire avoids (other n rfl) bound limit unspent
  | drop n => exact dropRequest_apart wire avoids (other n rfl)
  | pollKept i => exact pollKept_apart wire avoids i
  | dropKept i => exact dropKept_apart wire avoids i
  | feed n item => exact .of_still (feed_rests e n item).toStill
  | endFeed n => exact .of_still (endFeed_rests e n).toStill

end Endpoint
end StreamMux
