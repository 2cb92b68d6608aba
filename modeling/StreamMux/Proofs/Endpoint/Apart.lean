import StreamMux.Endpoint.Calls
import StreamMux.Endpoint.Tasks
import StreamMux.Proofs.Connection.Arrival

/-!
# What an endpoint does apart from one stream

An endpoint works on many streams, each for a request of its own application or for a task. Of
those that are set aside (the request under one name, the task in one slot), and of the stream of
their id, nothing changes as long as the endpoint does anything else (`Apart`). It can be relied
on that no other request or task works on the same stream, and that its items are not kept
(`Avoids`).
-/
namespace StreamMux

/-- The stream that a task works for. -/
def Task.place? : Task → Option Nat
  | .push .. => none
  | .forget stream .. | .respond stream .. | .openChannel stream .. | .send stream .. => some stream

/-- The stream that a request was opened as. -/
def Request.place? : Request → Option Nat
  | .response stream | .opened stream => some stream
  | .unopened .. | .refused => none

namespace Endpoint

/-- No request and no task works on the stream of an id, but for those that are set aside, and the
items of the stream are not kept. -/
structure Avoids (id : UInt32) (name : Option String) (slot : Option Nat) (e : Endpoint) :
    Prop where
  requests : ∀ n request, name ≠ some n → e.request? n = some request →
    ∀ i, request.place? = some i → e.connection.Beside id i
  tasks : ∀ k task, slot ≠ some k → e.tasks[k]?.join = some task →
    ∀ i, task.place? = some i → e.connection.Beside id i
  kept : ∀ i ∈ e.kept, e.connection.Beside id i

/-- Nothing happened to what is set aside. -/
structure Apart (id : UInt32) (name : Option String) (slot : Option Nat) (e f : Endpoint) :
    Prop where
  connection : e.connection.Apart id f.connection
  application : f.application = e.application
  request : ∀ n, name = some n → f.request? n = e.request? n
  task : ∀ k, slot = some k → k < e.tasks.size → f.tasks[k]? = e.tasks[k]?
  size : e.tasks.size ≤ f.tasks.size
  avoids : e.Avoids id name slot → f.Avoids id name slot

/-- Neither the connection changes nor the work under way. -/
structure Still (e f : Endpoint) : Prop where
  connection : f.connection = e.connection
  application : f.application = e.application
  requests : f.requests = e.requests
  kept : f.kept = e.kept
  tasks : f.tasks = e.tasks

/-- The loops and the time stay as they are too: only records, feeds and alarms may change. -/
structure Rests (e f : Endpoint) : Prop extends e.Still f where
  writing : f.writing = e.writing
  reading : f.reading = e.reading
  watch : f.watch = e.watch
  written : f.written = e.written
  now : f.clock.now = e.clock.now

variable {id : UInt32} {name : Option String} {slot : Option Nat} {e f g : Endpoint}

/-- Streams keep their ids, so that those beside a stream stay beside it. -/
theorem Avoids.grows {slot' : Option Nat} (avoids : e.Avoids id name slot)
    (grows : e.connection.Grows f.connection)
    (requests : ∀ n, name ≠ some n → f.request? n = e.request? n) (kept : f.kept = e.kept)
    (tasks : ∀ k task, slot' ≠ some k → f.tasks[k]?.join = some task →
      slot ≠ some k ∧ e.tasks[k]?.join = some task) : f.Avoids id name slot' where
  requests n request other found i place := by
    rw [requests n other] at found
    exact grows.beside (avoids.requests n request other found i place)
  tasks k task other found i place := by
    obtain ⟨other, found⟩ := tasks k task other found
    exact grows.beside (avoids.tasks k task other found i place)
  kept i keeps := grows.beside (avoids.kept i (kept ▸ keeps))

theorem Still.refl (e : Endpoint) : e.Still e := ⟨rfl, rfl, rfl, rfl, rfl⟩

theorem Still.trans (h : e.Still f) (h' : f.Still g) : e.Still g :=
  ⟨h'.connection.trans h.connection, h'.application.trans h.application,
    h'.requests.trans h.requests, h'.kept.trans h.kept, h'.tasks.trans h.tasks⟩

theorem Rests.refl (e : Endpoint) : e.Rests e := ⟨.refl e, rfl, rfl, rfl, rfl, rfl⟩

theorem Rests.trans (h : e.Rests f) (h' : f.Rests g) : e.Rests g where
  toStill := h.toStill.trans h'.toStill
  writing := h'.writing.trans h.writing
  reading := h'.reading.trans h.reading
  watch := h'.watch.trans h.watch
  written := h'.written.trans h.written
  now := h'.now.trans h.now

namespace Apart

theorem trans (h : Apart id name slot e f) (h' : Apart id name slot f g) :
    Apart id name slot e g where
  connection := h.connection.trans h'.connection
  application := h'.application.trans h.application
  request n eq := (h'.request n eq).trans (h.request n eq)
  task k eq hk := (h'.task k eq (Nat.lt_of_lt_of_le hk h.size)).trans (h.task k eq hk)
  size := Nat.le_trans h.size h'.size
  avoids he := h'.avoids (h.avoids he)

/-- Only the connection changes. -/
theorem of_connection (connection : e.connection.Apart id f.connection)
    (application : f.application = e.application) (requests : f.requests = e.requests)
    (kept : f.kept = e.kept) (tasks : f.tasks = e.tasks) : Apart id name slot e f where
  connection := connection
  application := application
  request n _ := by rw [request?, request?, requests]
  task k _ _ := by rw [tasks]
  size := Nat.le_of_eq (by rw [tasks])
  avoids h :=
    { requests := fun n r other found i place => connection.beside
        (h.requests n r other (by rw [request?, ← requests]; exact found) i place)
      tasks := fun k t other found i place => connection.beside
        (h.tasks k t other (by rw [← tasks]; exact found) i place)
      kept := fun i keeps => connection.beside (h.kept i (kept ▸ keeps)) }

theorem of_still (h : e.Still f) : Apart id name slot e f :=
  of_connection (by rw [h.connection]; exact .refl _ _) h.application h.requests h.kept
    h.tasks

theorem refl (id : UInt32) (name : Option String) (slot : Option Nat) (e : Endpoint) :
    Apart id name slot e e :=
  of_still (.refl e)

theorem move {i : Nat} (wire : low31 id = id) (other : e.connection.Beside id i)
    (m : Exchange.Move) :
    Apart id name slot e (e.mapConnection (·.stepWriting i (m.apply ·))) :=
  of_connection (Connection.apart_move wire other m) rfl rfl rfl rfl

/-- Items of other streams are kept. -/
theorem of_kept {places : List Nat}
    (kept : ∀ i ∈ places, i ∈ e.kept ∨ e.connection.Beside id i) :
    Apart id name slot e { e with kept := places } where
  connection := .refl _ _
  application := rfl
  request _ _ := rfl
  task _ _ _ := rfl
  size := Nat.le_refl _
  avoids h :=
    { requests := h.requests
      tasks := h.tasks
      kept := fun i keeps => (kept i keeps).elim (h.kept i) fun beside => beside }

end Apart

/-! ### Items that are kept -/

theorem keepChannel_cases (e : Endpoint) (i : Nat) (p : Producer) : e.keepChannel i p = e ∨
    p.intake = .keep ∧ e.keepChannel i p = { e with kept := i :: e.kept } := by
  unfold keepChannel
  split
  next keeps => exact .inr ⟨keeps, rfl⟩
  · exact .inl rfl

theorem keepChannel_eq_self {p : Producer} (together : p.intake ≠ .keep) (e : Endpoint) (i : Nat) :
    e.keepChannel i p = e :=
  (e.keepChannel_cases i p).resolve_right fun apart => together apart.1

theorem keepChannel_same (e : Endpoint) (i : Nat) (p : Producer) :
    (e.keepChannel i p).connection = e.connection ∧ (e.keepChannel i p).tasks = e.tasks := by
  obtain same | ⟨-, kept⟩ := e.keepChannel_cases i p
  · rw [same]
    exact ⟨rfl, rfl⟩
  · rw [kept]
    exact ⟨rfl, rfl⟩

theorem pollKept_cases (e : Endpoint) (i : Nat) :
    (e.pollKept i).2 = e ∨ i ∈ e.kept ∧ (e.pollKept i).2 = (e.pullInbound i false).2 := by
  unfold pollKept
  split
  next keeps => exact .inr ⟨keeps, rfl⟩
  · exact .inl rfl

theorem dropKept_cases (e : Endpoint) (i : Nat) :
    e.dropKept i = e ∨ i ∈ e.kept ∧
      e.dropKept i = { e with kept := e.kept.filter (· != i) }.dropInbound i := by
  unfold dropKept
  split
  next keeps => exact .inr ⟨keeps, rfl⟩
  · exact .inl rfl

/-! ### Requests and tasks by name and slot -/

theorem lookup_filter_ne {α : Type} (l : List (String × α)) (n m : String) :
    (l.filter (·.1 != n)).lookup m = if m = n then none else l.lookup m := by
  induction l with
  | nil => simp
  | cons p rest ih =>
    obtain ⟨k, a⟩ := p
    rw [List.filter_cons]
    by_cases dropped : k = n
    · subst dropped
      rw [if_neg (by simp), ih]
      by_cases same : m = k
      · simp [same]
      · rw [if_neg same, if_neg same, List.lookup_cons, beq_false_of_ne same]
    · rw [if_pos (by simpa using dropped), List.lookup_cons, List.lookup_cons, ih]
      by_cases same : m = k
      · simp [same, dropped]
      · rw [beq_false_of_ne same]

theorem request?_setRequest (e : Endpoint) (n m : String) (request : Request) :
    (e.setRequest n request).request? m = if m = n then some request else e.request? m := by
  rw [request?, setRequest, List.lookup_cons, lookup_filter_ne]
  by_cases same : m = n
  · simp [same]
  · rw [beq_false_of_ne same, if_neg same, if_neg same, request?]

@[simp]
theorem request?_setRequest_same (e : Endpoint) (n : String) (request : Request) :
    (e.setRequest n request).request? n = some request := by
  rw [request?_setRequest, if_pos rfl]

theorem request?_forgetRequest (e : Endpoint) (n m : String) :
    (e.forgetRequest n).request? m = if m = n then none else e.request? m := by
  rw [request?, forgetRequest, lookup_filter_ne, request?]

theorem task_setTask (e : Endpoint) (k j : Nat) (task : Option Task) :
    (e.setTask k task).tasks[j]? =
      if j = k ∧ k < e.tasks.size then some task else e.tasks[j]? := by
  rw [setTask, Array.getElem?_setIfInBounds]
  by_cases same : j = k
  · subst same
    by_cases bound : j < e.tasks.size
    · simp [bound]
    · simp [bound]
  · simp [same, Ne.symm same]

theorem task_spawn (e : Endpoint) (task : Task) (j : Nat) :
    (e.spawn task).tasks[j]? = if j = e.tasks.size then some (some task) else e.tasks[j]? := by
  rw [spawn, Array.getElem?_push]

namespace Apart

/-- A request under another name, of another stream. -/
theorem setRequest {n : String} {request : Request} (other : name ≠ some n)
    (places : ∀ i, request.place? = some i → e.connection.Beside id i) :
    Apart id name slot e (e.setRequest n request) where
  connection := .refl _ _
  application := rfl
  request m eq := by
    rw [request?_setRequest, if_neg]
    rintro rfl
    exact other eq
  task _ _ _ := rfl
  size := Nat.le_refl _
  avoids h :=
    { requests := fun m r different found i place => by
        rw [request?_setRequest] at found
        split at found
        · cases found
          exact places i place
        · exact h.requests m r different found i place
      tasks := h.tasks
      kept := h.kept }

theorem forgetRequest {n : String} (other : name ≠ some n) :
    Apart id name slot e (e.forgetRequest n) where
  connection := .refl _ _
  application := rfl
  request m eq := by
    rw [request?_forgetRequest, if_neg]
    rintro rfl
    exact other eq
  task _ _ _ := rfl
  size := Nat.le_refl _
  avoids h :=
    { requests := fun m r different found i place => by
        rw [request?_forgetRequest] at found
        split at found
        · contradiction
        · exact h.requests m r different found i place
      tasks := h.tasks
      kept := h.kept }

/-- A task in another slot, for another stream. -/
theorem setTask {k : Nat} {task : Option Task} (other : slot ≠ some k)
    (places : ∀ t, task = some t → ∀ i, t.place? = some i → e.connection.Beside id i) :
    Apart id name slot e (e.setTask k task) where
  connection := .refl _ _
  application := rfl
  request _ _ := rfl
  task j eq _ := by
    rw [task_setTask, if_neg]
    rintro ⟨rfl, _⟩
    exact other eq
  size := by simp [Endpoint.setTask]
  avoids h :=
    { requests := h.requests
      tasks := fun j t different found i place => by
        rw [task_setTask] at found
        split at found
        · exact places t found i place
        · exact h.tasks j t different found i place
      kept := h.kept }

theorem spawn {task : Task} (bound : ∀ k, slot = some k → k < e.tasks.size)
    (places : ∀ i, task.place? = some i → e.connection.Beside id i) :
    Apart id name slot e (e.spawn task) where
  connection := .refl _ _
  application := rfl
  request _ _ := rfl
  task j eq _ := by
    rw [task_spawn, if_neg]
    rintro rfl
    exact Nat.lt_irrefl _ (bound _ eq)
  size := by
    rw [Endpoint.spawn, Array.size_push]
    exact Nat.le_succ _
  avoids h :=
    { requests := h.requests
      tasks := fun j t different found i place => by
        rw [task_spawn] at found
        split at found
        · cases found
          exact places i place
        · exact h.tasks j t different found i place
      kept := h.kept }

end Apart
end Endpoint
end StreamMux
