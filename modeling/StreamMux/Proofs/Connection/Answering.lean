import StreamMux.Proofs.Connection.Terminal
import StreamMux.Proofs.Endpoint.Yielding
import StreamMux.Proofs.Exchange.Answering
import StreamMux.Proofs.Trace

/-!
# A call is answered once

How a call stands can be told from what was done since it was made (`outlook`): the first event that
decides it counts, and none after that. The stream of the call, its registration, and what was
enqueued for it agree with that after every event (`Calls.step`), and so at the end of every history
(`History.calls`). Giving the call up takes the stream off the registry and tells the peer, but only
while the call waits (`Calls.given_up`).

Source: `Connection.dispatch`, `Connection.requestResponse`, `Connection.pollResponse`,
`Endpoint.dropRequest`.
-/
namespace StreamMux

namespace Connection

/-- What a deed makes of the call at a place that waits, and whose stream has this id. -/
def Deed.outlook (id : UInt32) (i : Nat) (parts : List Payload) : Deed → Outlook
  | .handles (.payload f) =>
    if f.id = id ∧ f.type.opensStream = false then f.outlook parts else .waits parts
  | .handles (.error own code message) =>
    if own = id then .answered (.error (.ofErrorFrame code message)) else .waits parts
  | .act j .abandon => if j = i then .abandoned else .waits parts
  | _ => .waits parts

/-- What an event makes of a call. The end of the connection is an answer; a call that is decided
stays as it is. -/
def Event.outlook (event : Event) (id : UInt32) (i : Nat) : Outlook → Outlook
  | .waits parts =>
    match event.after.terminal with
    | some cause => .answered (.error cause)
    | none => event.deed.outlook id i parts
  | decided => decided

/-- How a call stands after all that was done since it was made. -/
def outlook (later : List Event) (id : UInt32) (i : Nat) : Outlook :=
  later.foldl (fun o event => event.outlook id i o) (.waits [])

variable {c d e : Connection} {deed : Deed} {past later : List Event} {id : UInt32} {i : Nat}
  {o : Outlook} {parts : List Payload} {cause : Failure}

@[simp] theorem outlook_snoc (later : List Event) (event : Event) :
    outlook (later ++ [event]) id i = event.outlook id i (outlook later id i) := by
  simp [outlook]

/-- A history up to one of its events, the event, and what came after it. -/
theorem History.split {before after : List Event} {event : Event} (history : History c later d)
    (split : later = before ++ event :: after) :
    History c before event.before ∧ Does event.before event.deed event.after ∧
      History event.after after d := by
  induction history generalizing after with
  | start => simp at split
  | @step d e deed past history does ih =>
    rcases split_snoc split with ⟨rfl, rfl⟩ | ⟨rest, cut⟩
    · have nothing : after = [] := by simpa using split
      subst nothing
      exact ⟨history, does, .start⟩
    · obtain ⟨earlier, between, rest'⟩ := ih cut
      have last : after = rest ++ [⟨d, deed, e⟩] := by simpa [cut] using split.symm
      rw [last]
      exact ⟨earlier, between, rest'.step does⟩

/-! ### What a deed does to the stream of a call -/

/-- What touches a stream makes it move. -/
theorem Does.moves {m : Exchange.Move} (h : c.Sound) (does : Does c deed d)
    (placed : i < c.streams.size) (touches : Touches c i deed m) :
    ∃ m, Touches c i deed m ∧ m.Fits (c.stream i) ∧ d.stream i = (m.apply (c.stream i)).1 ∧
      c.enqueuedFor d i = if c.isActive then (m.apply (c.stream i)).2 else [] := by
  suffices moves : ∃ m, Touches c i deed m ∧ m.Fits (c.stream i) ∧
      d = c.stepWriting i (m.apply ·) by
    obtain ⟨m, touches, fits, rfl⟩ := moves
    have effect := m.effect (h.coherent i placed) fits
    exact ⟨m, touches, fits, (stream_commit c placed _ _ i).trans (if_pos rfl),
      (enqueuedFor_moved h placed effect i).trans (if_pos rfl)⟩
  cases touches with
  | own own =>
    cases does with
    | act _ _ _ _ fits => exact ⟨m, .own own, fits, rfl⟩
  | @receive f uptake named inner =>
    cases does with
    | handles keepsItems now =>
      refine ⟨.receive { batch := c.config.prefetch, keepsItems } f, .receive _ named inner,
        trivial, ?_⟩
      unfold dispatch
      dsimp only
      rw [named]
      dsimp only
      rw [if_neg (Bool.eq_false_iff.mp inner)]
      rfl
  | grant named =>
    cases does with
    | handles keepsItems now =>
      refine ⟨.grant _, .grant named, trivial, ?_⟩
      unfold dispatch
      dsimp only
      rw [stepRegistered, named]
      rfl
  | cancel named =>
    cases does with
    | handles keepsItems now =>
      refine ⟨.cancelByPeer, .cancel named, trivial, ?_⟩
      unfold dispatch
      dsimp only
      rw [stepRegistered, named]
      rfl
  | error named stream =>
    cases does with
    | handles keepsItems now =>
      refine ⟨.fail _, .error named stream, trivial, ?_⟩
      unfold dispatch
      dsimp only
      rw [if_neg stream, stepRegistered, named]
      rfl

/-- A deed that does not touch the stream of a call makes nothing of the call. -/
theorem Deed.outlook_untouched (named : c.registry.get? id = some i) (nonzero : id ≠ 0)
    (untouched : ∀ m, ¬ Touches c i deed m) (parts : List Payload) :
    deed.outlook id i parts = .waits parts := by
  unfold Deed.outlook
  split
  next f =>
    rw [if_neg]
    rintro ⟨rfl, inner⟩
    exact untouched _ (.receive ⟨0, fun _ => true⟩ named inner)
  next own code message =>
    rw [if_neg]
    rintro rfl
    exact untouched _ (.error named nonzero)
  next j =>
    rw [if_neg]
    rintro rfl
    exact untouched _ (.own rfl)
  · rfl

/-- A deed makes of a call what the move makes of it that the deed asks of the stream. -/
theorem Touches.outlook {m : Exchange.Move} (h : c.Sound) (touches : Touches c i deed m)
    (parts : List Payload) : deed.outlook (c.stream i).id i parts = m.outlook parts := by
  cases touches with
  | own own =>
    cases m with
    | abandon => exact if_pos rfl
    | receive uptake f => simp [Exchange.Move.isLocal] at own
    | fail cause => simp [Exchange.Move.isLocal] at own
    | _ => rfl
  | receive uptake named inner => exact if_pos ⟨(h.placed named).2.symm, inner⟩
  | grant named => rfl
  | cancel named => rfl
  | error named stream => exact if_pos (h.placed named).2.symm

/-- A call that waits stands after a deed as the deed makes it stand. -/
theorem Does.stands_waiting (h : c.Sound) (does : Does c deed d) (live : c.isActive = true)
    (placed : i < c.streams.size) (kind : (c.stream i).kind = .requesterResponse)
    (nonzero : (c.stream i).id ≠ 0) (waits : (c.stream i).Stands (.waits parts))
    (goes : d.terminal = none) :
    (d.stream i).Stands (deed.outlook (c.stream i).id i parts) ∧
      c.enqueuedFor d i = (deed.outlook (c.stream i).id i parts).cancels (c.stream i).id := by
  by_cases touched : ∃ m, Touches c i deed m
  · obtain ⟨_, touches⟩ := touched
    obtain ⟨m, touches, fits, stream, sent⟩ := does.moves h placed touches
    have inner (uptake : Exchange.Uptake) (f : PayloadFrame) (same : m = .receive uptake f) :
        f.type.opensStream = false := by
      subst same
      cases touches with
      | own own => simp [Exchange.Move.isLocal] at own
      | receive _ named inner => exact inner
    rw [stream, sent, if_pos live, touches.outlook h]
    exact Exchange.Stands.move (h.coherent i placed) kind fits inner waits
  · have untouched (m : Exchange.Move) : ¬ Touches c i deed m := fun touches => touched ⟨m, touches⟩
    have registered := (h.registered i placed).mpr (Exchange.Waits.goes waits)
    rw [Deed.outlook_untouched registered nonzero untouched]
    cases does.fate h placed with
    | spared same silent =>
      rw [same, silent]
      exact ⟨waits, rfl⟩
    | moved m fits touches eq sent => exact absurd touches (untouched m)
    | failed cause live halted eq silent =>
      -- Only the end of the connection fails a stream without touching it.
      rw [goes] at halted
      contradiction

/-- A call that is decided stays so, and the peer is told nothing more. -/
theorem Does.stands_decided (h : c.Sound) (does : Does c deed d) (placed : i < c.streams.size)
    (kind : (c.stream i).kind = .requesterResponse) (finished : (c.stream i).isOver = true) :
    (d.stream i).isOver = true ∧ c.enqueuedFor d i = [] ∧
      ∀ result, (c.stream i).answer = .given result → (d.stream i).answer = .given result := by
  refine ⟨((does.later h).streams i placed).isOver finished, ?_, fun result given =>
    (History.single does).answer_given h placed given⟩
  cases does.fate h placed with
  | spared same silent => exact silent
  | moved m fits touches eq sent =>
    rw [sent, (Exchange.Move.settled (h.coherent i placed) fits kind finished).2, ite_self]
  | failed cause live halted eq silent => exact silent

/-! ### Calls -/

/-- The call at a place, and how it stands. -/
structure Calls (c : Connection) (id : UInt32) (i : Nat) (o : Outlook) : Prop where
  sound : c.Sound
  placed : i < c.streams.size
  named : (c.stream i).id = id
  nonzero : id ≠ 0
  kind : (c.stream i).kind = .requesterResponse
  stands : (c.stream i).Stands o
  live : ∀ parts, o = .waits parts → c.isActive = true

namespace Calls

/-- A call is registered as long as it waits. -/
theorem registered (h : c.Calls id i o) : c.Registered i ↔ ∃ parts, o = .waits parts := by
  have registered : c.Registered i ↔ (c.stream i).isOver = false := h.sound.registered i h.placed
  have stands := h.stands
  rw [registered]
  cases o with
  | waits parts => simpa using Exchange.Waits.goes stands
  | answered result => simp [stands.1]
  | abandoned =>
    have finished : (c.stream i).isOver = true := stands
    simp [finished]

/-- The caller is told the answer, and nothing before it is there. -/
theorem pollResponse (h : c.Calls id i o) :
    (∀ parts, o = .waits parts → c.pollResponse i = .pending) ∧
      ∀ result, o = .answered result → c.pollResponse i = .ready result := by
  have stands := h.stands
  refine ⟨?_, ?_⟩
  · rintro parts rfl
    rw [Connection.pollResponse, Exchange.Waits.answer stands]
  · rintro result rfl
    rw [Connection.pollResponse, stands.2]

/-- What an event makes of a call. -/
theorem step (h : c.Calls id i o) (does : Does c deed d) :
    d.Calls id i ((Event.mk c deed d).outlook id i o) ∧
      ((Event.mk c deed d).outlook id i o).cancels id = o.cancels id ++ c.enqueuedFor d i := by
  have sound := h.sound
  have later := does.later sound
  have grown := later.streams i h.placed
  suffices stands : (d.stream i).Stands ((Event.mk c deed d).outlook id i o) ∧
      ((Event.mk c deed d).outlook id i o).cancels id = o.cancels id ++ c.enqueuedFor d i ∧
      ∀ parts, (Event.mk c deed d).outlook id i o = .waits parts → d.isActive = true from
    ⟨⟨does.sound sound, Nat.lt_of_lt_of_le h.placed later.size, grown.id.trans h.named, h.nonzero,
      grown.kind.trans h.kind, stands.1, stands.2.2⟩, stands.2.1⟩
  have settled (finished : (c.stream i).isOver = true) :=
    does.stands_decided sound h.placed h.kind finished
  have stands := h.stands
  cases o with
  | waits parts =>
    have live := h.live parts rfl
    have nonzero := h.nonzero
    rw [← h.named] at nonzero ⊢
    unfold Event.outlook
    dsimp only
    cases terminal : d.terminal with
    | some cause =>
      -- A call that waits is registered, and the end fails what is registered.
      have registered := (sound.registered i h.placed).mpr (Exchange.Waits.goes stands)
      obtain ⟨_, ended, _⟩ := does.ends_with sound live terminal
      dsimp only
      rw [ended.stream i h.placed, if_pos (mem_values_of_get? registered), ended.silent i]
      exact ⟨Exchange.Stands.fail stands cause, rfl, by simp⟩
    | none =>
      obtain ⟨stands, sent⟩ :=
        does.stands_waiting sound live h.placed h.kind nonzero stands terminal
      exact ⟨stands, sent.symm, fun _ _ => by simp [isActive, terminal]⟩
  | answered result =>
    obtain ⟨finished, silent, answer⟩ := settled stands.1
    rw [silent]
    exact ⟨⟨finished, answer result stands.2⟩, rfl, by simp [Event.outlook]⟩
  | abandoned =>
    obtain ⟨finished, silent, _⟩ := settled stands
    rw [silent]
    exact ⟨finished, rfl, by simp [Event.outlook]⟩

/-- The caller goes away while the call waits: its stream is given up, and the peer is told. -/
theorem abandon_waiting (h : c.Calls id i (.waits parts)) :
    ¬ (c.stepWriting i Exchange.abandon).Registered i ∧
      (c.stepWriting i Exchange.abandon).queue.frames = c.queue.frames ++ [.cancel id] := by
  have does : Does c (.act i .abandon) (c.stepWriting i Exchange.abandon) :=
    .act c i .abandon rfl h.placed h.kind
  have goes : (c.stepWriting i Exchange.abandon).terminal = none :=
    Option.isNone_iff_eq_none.mp (h.live parts rfl)
  have outlook : (Event.mk c (.act i .abandon) (c.stepWriting i Exchange.abandon)).outlook id i
      (.waits parts) = .abandoned := by
    rw [Event.outlook, goes]
    exact if_pos rfl
  have accepts : c.queue.accepts = true := h.sound.accepts.trans (h.live parts rfl)
  have queue : (c.stepWriting i Exchange.abandon).queue =
      (c.stream i).abandon.2.foldl FrameQueue.enqueue c.queue := rfl
  refine ⟨?_, ?_⟩
  · rw [(h.step does).1.registered, outlook]
    simp
  · rw [FrameQueue.frames, queue, toList_foldl_enqueue, priority_foldl_enqueue, accepts, if_pos rfl,
      (Exchange.Stands.abandon h.stands).2, h.named, FrameQueue.frames, List.append_assoc]

/-- The caller goes away when the call is decided: nothing happens. -/
theorem abandon_decided (h : c.Calls id i o) (decided : ∀ parts, o ≠ .waits parts) :
    c.stepWriting i Exchange.abandon = c := by
  have stands := h.stands
  have finished : (c.stream i).isOver = true := by
    cases o with
    | waits parts => exact absurd rfl (decided parts)
    | answered result => exact stands.1
    | abandoned => exact stands
  rw [stepWriting, Exchange.abandon_over finished]
  exact c.commit_same i

end Calls

/-- How a call stands is told by the history since it was made, and what the peer was told too. -/
theorem History.calls (history : History c later d) (h : c.Calls id i (.waits [])) :
    d.Calls id i (outlook later id i) ∧ sent later i = (outlook later id i).cancels id := by
  induction history with
  | start => exact ⟨h, rfl⟩
  | @step d e deed later history does ih =>
    obtain ⟨call, sent⟩ := ih
    obtain ⟨next, told⟩ := call.step does
    rw [outlook_snoc, sent_append, sent_single, sent, told]
    exact ⟨next, rfl⟩

/-- A call that was made waits. -/
theorem calls_made (h : c.Sound) {payload : Payload}
    (made : c.requestResponse payload = .ok (i, d)) :
    d.Calls (d.stream i).id i (.waits []) := by
  have sound := (Does.asks (.response payload made)).sound h
  unfold requestResponse at made
  obtain ⟨⟨_, e⟩, registered, eq⟩ := bind_ok made
  cases eq
  obtain ⟨live, id, ids, registry, found, _, rfl, rfl⟩ := register_ok (fun _ => rfl) registered
  let e : Connection := { c with ids, registry, streams := c.streams.push (.requesterResponse id) }
  have stream (frame : Frame) : (e.enqueue frame).stream c.streams.size = .requesterResponse id :=
    (stream_push (c := c) rfl rfl _).trans (if_pos rfl)
  refine ⟨sound, ?_, rfl, ?_, ?_, ?_, fun _ _ => live⟩
  · change c.streams.size < (c.streams.push (.requesterResponse id)).size
    simp
  · rw [stream]
    exact (StreamIds.next?_ok found).nonzero
  · rw [stream]
    rfl
  · rw [stream]
    exact ⟨rfl, rfl, rfl⟩

/-- For every call that asks for one answer and is registered, and for all that is done afterwards:

* The stream is registered as long as the call waits. As soon as the call is decided the caller is
  told the answer, and the same ever after. The peer is told of nothing but that the caller went
  away, and of that once.
* The first event that decides the call takes its stream off the registry; the caller is told the
  answer that this event gave, whatever comes later (`Event.outlook`, `PayloadFrame.outlook`).
* If the application lets go of the call while it waits, the stream is taken off the registry and
  one CANCEL is enqueued; if it does so when the call is decided, nothing happens. -/
theorem answered_once {side : Side} {config : ConnectionConfig} {setup : Option Setup}
    {now : Duration} {c d e : Connection} {past later : List Event} {payload : Payload} {i : Nat}
    (history : History (new side config setup now) past c)
    (made : c.requestResponse payload = .ok (i, d)) (after : History d later e) :
    let id := (d.stream i).id
    (match outlook later id i with
      | .waits _ => e.Registered i ∧ e.pollResponse i = .pending ∧ sent later i = []
      | .answered result =>
        ¬ e.Registered i ∧ e.pollResponse i = .ready result ∧ sent later i = []
      | .abandoned => ¬ e.Registered i ∧ sent later i = [.cancel id]) ∧
    (∀ before event rest, later = before ++ event :: rest →
      ∀ parts, outlook before id i = .waits parts →
        event.before.Registered i ∧ event.before.pollResponse i = .pending ∧
        ∀ result, event.outlook id i (.waits parts) = .answered result →
          ¬ event.after.Registered i ∧ event.after.pollResponse i = .ready result ∧
            e.pollResponse i = .ready result) ∧
    ∀ f : Endpoint, f.connection = e → ∀ name, f.request? name = some (.response i) →
      let g := (f.dropRequest name).connection
      match outlook later id i with
      | .waits _ => ¬ g.Registered i ∧ g.queue.frames = e.queue.frames ++ [.cancel id]
      | _ => g = e := by
  intro id
  have call : d.Calls id i (.waits []) :=
    calls_made (history.sound (sound_new side config setup now)) made
  obtain ⟨stands, told⟩ := after.calls call
  refine ⟨?_, ?_, ?_⟩
  · have registered := stands.registered
    have polled := stands.pollResponse
    rw [told]
    cases eq : outlook later id i with
    | waits parts =>
      exact ⟨registered.mpr ⟨parts, eq⟩, polled.1 parts eq, rfl⟩
    | answered result =>
      exact ⟨by simp [registered, eq], polled.2 result eq, rfl⟩
    | abandoned => exact ⟨by simp [registered, eq], rfl⟩
  · intro before event rest split parts waiting
    obtain ⟨earlier, does, following⟩ := after.split split
    obtain ⟨waits, _⟩ := earlier.calls call
    rw [waiting] at waits
    obtain ⟨next, _⟩ := waits.step does
    refine ⟨waits.registered.mpr ⟨parts, rfl⟩, waits.pollResponse.1 parts rfl,
      fun result decides => ?_⟩
    rw [decides] at next
    have answer : (event.after.stream i).answer = .given result := next.stands.2
    refine ⟨by simp [next.registered], next.pollResponse.2 result rfl, ?_⟩
    rw [pollResponse, following.answer_given next.sound next.placed answer]
  · intro f same name waits g
    have dropped : g = e.stepWriting i Exchange.abandon := by
      simp [g, Endpoint.dropRequest, waits, Endpoint.giveUp, Endpoint.forgetRequest,
        Endpoint.mapConnection, same]
    rw [dropped]
    cases eq : outlook later id i with
    | waits parts =>
      rw [eq] at stands
      exact stands.abandon_waiting
    | answered result => exact stands.abandon_decided (by simp [eq])
    | abandoned => exact stands.abandon_decided (by simp [eq])

/-- An answer comes in two fragments, between which the peer sends a CANCEL that means nothing. It
is the answer, although the peer sends an ERROR then and the connection is closed. -/
theorem answered_once_of_fragments :
    let start := new .client {} none 0
    let asked := ((start.requestResponse Payload.empty).toOption.map (·.2)).getD start
    let first : Frame :=
      .payload { id := 1, follows := true, next := true, payload := .ofText "a" }
    let second : Frame := .payload { id := 1, payload := .ofText "b" }
    let error : Frame := .error 1 .applicationError "late"
    let begun := (asked.dispatch (fun _ => true) 0 first).1
    let undisturbed := (begun.dispatch (fun _ => true) 0 (.cancel 1)).1
    let whole := (undisturbed.dispatch (fun _ => true) 0 second).1
    let failed := (whole.dispatch (fun _ => true) 0 error).1
    let closed := failed.terminate .closed
    let answer := Payload.concat [.ofText "a", .ofText "b"]
    undisturbed.Registered 0 ∧ undisturbed.pollResponse 0 = .pending ∧ ¬ whole.Registered 0 ∧
      whole.pollResponse 0 = .ready (.ok answer) ∧ closed.pollResponse 0 = .ready (.ok answer) := by
  intro start asked first second error begun undisturbed whole failed closed answer
  have made : start.requestResponse Payload.empty = .ok (0, asked) := by
    have ready : ((start.requestResponse Payload.empty).toOption.map (·.1)) = some 0 := by
      decide +kernel
    cases placed : start.requestResponse Payload.empty with
    | error cause => simp [placed, Except.toOption] at ready
    | ok placing =>
      obtain ⟨i, c⟩ := placing
      obtain rfl : i = 0 := by simpa [placed, Except.toOption] using ready
      simp [asked, placed, Except.toOption]
  have handles (c : Connection) (frame : Frame) (live : c.isActive = true) :
      Does c (.handles frame) (c.dispatch (fun _ => true) 0 frame).1 := .handles _ _ _ _
  have after := ((((History.start.step (handles asked first (by decide +kernel))).step
    (handles begun (.cancel 1) (by decide +kernel))).step
    (handles undisturbed second (by decide +kernel))).step
    (handles whole error (by decide +kernel))).step (.serves (.terminate .closed rfl))
  obtain ⟨_, decides, _⟩ := answered_once History.start made after
  have id : (asked.stream 0).id = 1 := by decide +kernel
  rw [id] at decides
  have goes (c : Connection) (live : c.isActive = true) : c.terminal = none :=
    Option.isNone_iff_eq_none.mp live
  have waits : outlook [⟨asked, .handles first, begun⟩,
      ⟨begun, .handles (.cancel 1), undisturbed⟩] 1 0 = .waits [.ofText "a"] := by
    simp only [outlook, List.foldl_cons, List.foldl_nil, Event.outlook]
    rw [goes begun (by decide +kernel), goes undisturbed (by decide +kernel)]
    rfl
  obtain ⟨registered, pending, answers⟩ :=
    decides _ ⟨undisturbed, .handles second, whole⟩ _ rfl _ waits
  have answered : (Event.mk undisturbed (.handles second) whole).outlook 1 0
      (.waits [.ofText "a"]) = .answered (.ok answer) := by
    rw [Event.outlook, goes whole (by decide +kernel)]
    rfl
  obtain ⟨gone, ready, stays⟩ := answers _ answered
  exact ⟨registered, pending, gone, ready, stays⟩

end Connection
end StreamMux
