import StreamMux.Proofs.Connection.Isolation
import StreamMux.Proofs.FrameQueue.Lanes

/-!
# What a connection puts into its queue

Whatever is done to a connection, but for taking frames out of its queue, puts frames into the queue
or closes it (`Feeds`), and the queue is closed when the connection is over, with its cause
(`Piped`). Only a KEEPALIVE of the peer changes when the peer was last heard
(`lastHeard_dispatch`).

Source: `Connection.commit`, `Connection.teardown`, `Connection.terminate`, `Connection.dispatch`.
-/
namespace StreamMux

/-- Whether a KEEPALIVE wants an answer; nothing for other frames. -/
def Frame.respond? : Frame → Option Bool
  | .keepAlive respond _ _ => some respond
  | _ => none

namespace Connection

/-- Frames are put into the queue, and the queue is closed as the connection ends. That the peer is
heard may be noted or not. -/
inductive Feeds (notes : Bool) : Connection → Connection → Prop
  | keeps {c d : Connection} (queue : d.queue = c.queue) (terminal : d.terminal = c.terminal)
      (config : d.config = c.config) (lastHeard : d.lastHeard = c.lastHeard) : Feeds notes c d
  | puts {c d : Connection} (lane : FrameQueue.Lane) (frame : Frame)
      (queue : d.queue = c.queue.put frame lane) (terminal : d.terminal = c.terminal)
      (config : d.config = c.config) (lastHeard : d.lastHeard = c.lastHeard) : Feeds notes c d
  | closes {c d : Connection} (cause : Failure) (live : c.terminal = none)
      (queue : d.queue = c.queue.close cause) (terminal : d.terminal = some cause)
      (config : d.config = c.config) (lastHeard : d.lastHeard = c.lastHeard) : Feeds notes c d
  | hears (c : Connection) (now : Duration) (may : notes = true) :
      Feeds notes c { c with lastHeard := now }
  | trans {c d e : Connection} (first : Feeds notes c d) (second : Feeds notes d e) :
      Feeds notes c e

/-- The queue is closed with the connection, for the same cause, and has both its ends. -/
structure Piped (c : Connection) : Prop where
  cause : c.queue.cause = c.terminal
  producer : c.queue.hasProducer = true
  consumer : c.queue.hasConsumer = true

variable {c d : Connection} {notes : Bool}

namespace Piped

theorem isClosed (h : c.Piped) : c.queue.isClosed = !c.isActive := by
  rw [FrameQueue.isClosed, h.cause, isActive]
  cases c.terminal <;> rfl

theorem accepts (h : c.Piped) : c.queue.accepts = c.isActive := by
  rw [FrameQueue.accepts, h.isClosed, h.consumer, Bool.not_not, Bool.and_true]

end Piped

namespace Feeds

theorem refl (c : Connection) : c.Feeds notes c := .keeps rfl rfl rfl rfl

theorem piped (feeds : c.Feeds notes d) (h : c.Piped) : d.Piped := by
  induction feeds with
  | keeps queue terminal =>
    exact ⟨by rw [queue, terminal, h.cause], by rw [queue, h.producer], by rw [queue, h.consumer]⟩
  | puts lane frame queue terminal =>
    obtain ⟨cause, producer, consumer⟩ := FrameQueue.put_same _ frame lane
    exact ⟨by rw [queue, terminal, cause, h.cause], by rw [queue, producer, h.producer],
      by rw [queue, consumer, h.consumer]⟩
  | closes cause live queue terminal =>
    refine ⟨?_, by rw [queue]; exact h.producer, by rw [queue]; exact h.consumer⟩
    rw [queue, terminal, FrameQueue.close, h.cause, live]
    rfl
  | hears c now may => exact ⟨h.cause, h.producer, h.consumer⟩
  | trans first second ih ih' => exact ih' (ih h)

/-- What waits in a lane stays in front. -/
theorem lane (feeds : c.Feeds notes d) (lane : FrameQueue.Lane) :
    ∃ added, d.queue.lane lane = c.queue.lane lane ++ added := by
  induction feeds with
  | keeps queue => exact ⟨[], by rw [queue, List.append_nil]⟩
  | puts into frame queue => exact ⟨_, by rw [queue, FrameQueue.lane_put]⟩
  | closes cause live queue =>
    refine ⟨[], ?_⟩
    rw [queue, List.append_nil]
    cases lane <;> rfl
  | hears c now may => exact ⟨[], (List.append_nil _).symm⟩
  | trans first second ih ih' =>
    obtain ⟨added, first⟩ := ih
    obtain ⟨added', second⟩ := ih'
    exact ⟨added ++ added', by rw [second, first, List.append_assoc]⟩

/-- A connection that is over stays over, and its queue takes in nothing. -/
theorem stays_over (feeds : c.Feeds notes d) (h : c.Piped) {cause : Failure}
    (ended : c.terminal = some cause) : d.terminal = some cause ∧ d.queue = c.queue := by
  induction feeds with
  | keeps queue terminal => exact ⟨terminal.trans ended, queue⟩
  | @puts c d lane frame queue terminal =>
    have refuses : c.queue.accepts = false := by
      rw [h.accepts, isActive, ended]
      rfl
    refine ⟨terminal.trans ended, queue.trans ?_⟩
    cases lane <;> simp [FrameQueue.put, FrameQueue.enqueue, FrameQueue.enqueuePriority, refuses]
  | closes cause live =>
    rw [live] at ended
    contradiction
  | hears c now may => exact ⟨ended, rfl⟩
  | trans first second ih ih' =>
    obtain ⟨halted, queue⟩ := ih h ended
    obtain ⟨halted', queue'⟩ := ih' (first.piped h) halted
    exact ⟨halted', queue'.trans queue⟩

theorem config (feeds : c.Feeds notes d) : d.config = c.config := by
  induction feeds with
  | keeps queue terminal config => exact config
  | puts lane frame queue terminal config => exact config
  | closes cause live queue terminal config => exact config
  | hears c now may => rfl
  | trans first second ih ih' => exact ih'.trans ih

/-- Where nothing is noted, the peer was last heard when it was. -/
theorem lastHeard (feeds : c.Feeds false d) : d.lastHeard = c.lastHeard := by
  induction feeds with
  | keeps queue terminal config lastHeard => exact lastHeard
  | puts lane frame queue terminal config lastHeard => exact lastHeard
  | closes cause live queue terminal config lastHeard => exact lastHeard
  | hears c now may => contradiction
  | trans first second ih ih' => exact ih'.trans ih

/-- Nothing has to be noted. -/
theorem weaken (feeds : c.Feeds false d) : c.Feeds notes d := by
  induction feeds with
  | keeps queue terminal config lastHeard => exact .keeps queue terminal config lastHeard
  | puts lane frame queue terminal config lastHeard =>
    exact .puts lane frame queue terminal config lastHeard
  | closes cause live queue terminal config lastHeard =>
    exact .closes cause live queue terminal config lastHeard
  | hears c now may => contradiction
  | trans first second ih ih' => exact ih.trans ih'

/-- Something may be noted. -/
theorem may_note (feeds : c.Feeds notes d) : c.Feeds true d := by
  cases notes with
  | false => exact feeds.weaken
  | true => exact feeds

/-! ### Operations of a connection -/

theorem enqueue (c : Connection) (frame : Frame) : c.Feeds notes (c.enqueue frame) :=
  .puts .normal frame rfl rfl rfl rfl

theorem enqueuePriority (c : Connection) (frame : Frame) :
    c.Feeds notes (c.enqueuePriority frame) :=
  .puts .priority frame rfl rfl rfl rfl

theorem commit (c : Connection) (i : Nat) (after : Exchange) (frames : List Frame) :
    c.Feeds notes (c.commit i after frames) := by
  have all (frames : List Frame) (c d : Connection) (terminal : d.terminal = c.terminal)
      (config : d.config = c.config) (lastHeard : d.lastHeard = c.lastHeard)
      (queue : d.queue = frames.foldl FrameQueue.enqueue c.queue) : c.Feeds notes d := by
    induction frames generalizing c with
    | nil => exact .keeps queue terminal config lastHeard
    | cons frame frames ih =>
      exact (enqueue c frame).trans (ih (c.enqueue frame) terminal config lastHeard queue)
  exact all frames c _ rfl rfl rfl rfl

theorem stepWriting (c : Connection) (i : Nat) (f : Exchange → Exchange × List Frame) :
    c.Feeds notes (c.stepWriting i f) := commit c i _ _

theorem step (c : Connection) (i : Nat) (f : Exchange → Exchange) : c.Feeds notes (c.step i f) :=
  commit c i _ _

theorem teardown (c : Connection) (cause : Failure) : c.Feeds notes (c.teardown cause) := by
  unfold Connection.teardown
  split
  · exact refl c
  next live => exact .closes cause live rfl rfl rfl rfl

theorem terminate (c : Connection) (cause : Failure) : c.Feeds notes (c.terminate cause) := by
  unfold Connection.terminate
  split
  · exact refl c
  · exact (enqueuePriority c _).trans (teardown _ cause)

theorem tick (c : Connection) (now : Duration) : c.Feeds notes (c.tick now) := by
  unfold Connection.tick
  split
  · exact terminate c _
  · exact enqueuePriority c _

theorem register {make : UInt32 → Exchange} {i : Nat} (named : ∀ id, (make id).id = id)
    (made : c.register make = .ok (i, d)) : c.Feeds notes d := by
  obtain ⟨_, _, _, _, _, _, rfl, rfl⟩ := register_ok named made
  exact .keeps rfl rfl rfl rfl

theorem requestResponse {payload : Payload} {i : Nat}
    (made : c.requestResponse payload = .ok (i, d)) : c.Feeds notes d := by
  unfold Connection.requestResponse at made
  obtain ⟨⟨_, e⟩, registered, eq⟩ := bind_ok made
  cases eq
  exact (register (fun _ => rfl) registered).trans (enqueue e _)

theorem requestStream {batch : UInt32} {payload : Payload} {i : Nat}
    (made : c.requestStream batch payload = .ok (i, d)) : c.Feeds notes d := by
  unfold Connection.requestStream at made
  obtain ⟨⟨_, e⟩, registered, eq⟩ := bind_ok made
  cases eq
  exact (register (fun _ => rfl) registered).trans (enqueue e _)

theorem metadataPush {metadata : ByteArray} (made : c.metadataPush metadata = .ok d) :
    c.Feeds notes d := by
  unfold Connection.metadataPush at made
  split at made
  · contradiction
  · split at made
    · cases made
      exact enqueuePriority c _
    · contradiction

theorem fireAndForget {payload : Payload} (made : c.fireAndForget payload = .ok d) :
    c.Feeds notes d := by
  unfold Connection.fireAndForget at made
  split at made
  · contradiction
  · split at made
    · contradiction
    next ids _ =>
      split at made
      · cases made
        have spent : c.Feeds notes { c with ids } := .keeps rfl rfl rfl rfl
        exact spent.trans (enqueue _ _)
      · contradiction

/-- Of the frames of the peer, a KEEPALIVE is noted. -/
theorem dispatch (c : Connection) (keepsItems : Payload → Bool) (now : Duration) (frame : Frame) :
    c.Feeds frame.respond?.isSome (c.dispatch keepsItems now frame).1 := by
  have registered {notes : Bool} (id : UInt32) (f : Exchange → Exchange) :
      c.Feeds notes (c.stepRegistered id f) := by
    unfold stepRegistered
    split
    · exact step c _ f
    · exact refl c
  have received {notes : Bool} (c : Connection) (i : Nat) (f : PayloadFrame) :
      c.Feeds notes (c.receive keepsItems i f).1 := commit c i _ _
  unfold Connection.dispatch
  split
  · have heard : c.Feeds true { c with lastHeard := now } := hears c now rfl
    unfold hear
    dsimp only
    split
    · exact heard.trans (enqueuePriority _ _)
    · exact heard
  · exact refl c
  · exact refl c
  · exact refl c
  · dsimp only
    split
    · exact teardown c _
    · exact registered _ _
  · exact registered _ _
  · exact registered _ _
  · split
    · split
      · exact refl c
      · exact received c _ _
    · unfold accept
      split
      · exact refl c
      · split
        · exact refl c
        · split
          · exact refl c
          next made =>
            obtain ⟨registry, _, rfl, rfl⟩ := insert?_ok made
            have placed {notes : Bool} (s : Exchange) :
                c.Feeds notes { c with registry, streams := c.streams.push s } :=
              .keeps rfl rfl rfl rfl
            exact (placed _).trans (received _ _ _)

end Feeds

/-- The peer is heard by its KEEPALIVE frames only. -/
theorem lastHeard_dispatch (c : Connection) (keepsItems : Payload → Bool) (now : Duration)
    (frame : Frame) : (c.dispatch keepsItems now frame).1.lastHeard =
      match frame.respond? with
      | some _ => now
      | none => c.lastHeard := by
  have feeds := Feeds.dispatch c keepsItems now frame
  cases frame with
  | keepAlive respond position data => cases respond <;> rfl
  | _ => exact Feeds.lastHeard feeds

end Connection
end StreamMux
