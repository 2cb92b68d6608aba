import StreamMux.Proofs.Connection.History

/-!
# Letting go of a channel

The consumer of a channel of this end goes away before the end of the peer's items. Then the channel
is over at this end, whatever it was still sending; but the peer is told only if its own items were
still coming (`drop_tells`). A peer that had completed is not told, and goes on waiting for items
that nobody sends (`drop_leaves_the_peer_waiting`).
-/
namespace StreamMux

/-- What the consumer of a channel of this end does when it goes away early. -/
theorem Exchange.drop_channel {s : Exchange} {consumer : Consumer}
    (kind : s.kind = .requesterChannel) (waits : s.consumer = some consumer)
    (unfinished : consumer.finished = false) :
    s.dropConsumer.1.isOver = true ∧
      s.dropConsumer.2 = if s.initiated && !s.closed.inbound then [.cancel s.id] else [] := by
  have both : s.dropConsumer = { s with consumer := none }.cancelLocally Directions.both := by
    simp [dropConsumer, waits, unfinished, kind, StreamKind.isRequester]
  rw [both, cancelLocally_eq]
  refine ⟨isOver_of_closed (Directions.union_both _), ?_⟩
  simp

namespace Connection

/-- On an active connection, whose channel the peer knows of and on which this end was still
sending: letting go of the channel takes it off the registry, and tells the peer exactly if its own
direction was open. -/
theorem drop_tells {side : Side} {config : ConnectionConfig} {setup : Option Setup} {now : Duration}
    {c : Connection} {past : List Event} (history : History (new side config setup now) past c)
    (active : c.isActive = true) {i : Nat} (placed : i < c.streams.size)
    (kind : (c.stream i).kind = .requesterChannel) (known : (c.stream i).initiated = true)
    (sending : (c.stream i).closed.outbound = false) {consumer : Consumer}
    (waits : (c.stream i).consumer = some consumer) (unfinished : consumer.finished = false) :
    let d := c.stepWriting i Exchange.dropConsumer
    c.Registered i ∧ ¬ d.Registered i ∧ (d.stream i).isOver = true ∧
      c.enqueuedFor d i =
        if (c.stream i).closed.inbound then [] else [.cancel (c.stream i).id] := by
  have sound := history.sound (sound_new side config setup now)
  have effect := Exchange.dropConsumer_effect (sound.coherent i placed)
  obtain ⟨finished, frames⟩ := Exchange.drop_channel kind waits unfinished
  have after := sound_moved sound placed effect
  have stream : (c.stepWriting i Exchange.dropConsumer).stream i = (c.stream i).dropConsumer.1 :=
    (stream_commit c placed _ _ i).trans (if_pos rfl)
  intro d
  have halted : (d.stream i).isOver = true := by rw [stream, finished]
  refine ⟨?_, ?_, halted, ?_⟩
  · refine (sound.registered i placed).mpr ?_
    simp [Exchange.isOver, sending]
  · intro held
    have bound : i < d.streams.size := Nat.lt_of_lt_of_eq placed (size_commit c i _ _).symm
    have isOpen : (d.stream i).isOver = false := (after.registered i bound).mp held
    rw [halted] at isOpen
    contradiction
  · refine (enqueuedFor_moved sound placed effect i).trans ?_
    rw [if_pos rfl, if_pos active, frames, known]
    cases (c.stream i).closed.inbound with
    | true => rfl
    | false => rfl

/-- A fresh client asks for a channel, and opens it with an empty first item. -/
theorem channel_opened :
    let start := new .client {} none 0
    let asked := ((start.requestChannel 8).toOption.map (·.2)).getD start
    ∃ past, History start past
      (asked.stepWriting 0 ((Exchange.Move.openChannel 8 Payload.empty).apply ·)) := by
  intro start asked
  have made : (start.requestChannel 8).toOption.isSome = true := by decide +kernel
  have first : Does start .asks asked := by
    cases placed : start.requestChannel 8 with
    | error cause => simp [placed, Except.toOption] at made
    | ok placing =>
      have eq : asked = placing.2 := by simp [asked, placed, Except.toOption]
      exact eq ▸ .asks (.channel 8 placed)
  have second : Does asked (.act 0 (.openChannel 8 Payload.empty)) _ :=
    .act _ _ _ rfl (by decide +kernel)
      ⟨⟨by decide +kernel, by decide +kernel⟩, by decide +kernel⟩
  exact ⟨_, (History.start.step first).step second⟩

/-- A channel is let go of while both ends are sending: the peer is told. -/
theorem drop_tells_of_open :
    let start := new .client {} none 0
    let asked := ((start.requestChannel 8).toOption.map (·.2)).getD start
    let opened := asked.stepWriting 0 ((Exchange.Move.openChannel 8 Payload.empty).apply ·)
    let dropped := opened.stepWriting 0 Exchange.dropConsumer
    opened.Registered 0 ∧ ¬ dropped.Registered 0 ∧
      (opened.enqueuedFor dropped 0).map (·.signal) = [.cancel] := by
  intro start asked opened dropped
  obtain ⟨past, history⟩ := channel_opened
  have waits : (opened.stream 0).consumer = some { batch := 8 } := by decide +kernel
  have told := drop_tells history (by decide +kernel) (by decide +kernel) (by decide +kernel)
    (by decide +kernel) (by decide +kernel) waits rfl
  have isOpen : (opened.stream 0).closed.inbound = false := by decide +kernel
  refine ⟨told.1, told.2.1, ?_⟩
  rw [told.2.2.2, isOpen]
  rfl

/-- The peer completes its direction of a channel. The completion is there, but the consumer has not
come to it, and this end is still sending. It lets go of the channel and does not tell the peer,
where the channel stays registered, with the direction open in which nothing will come any more. -/
theorem drop_leaves_the_peer_waiting :
    let start := new .client {} none 0
    let asked := ((start.requestChannel 8).toOption.map (·.2)).getD start
    let opened := asked.stepWriting 0 ((Exchange.Move.openChannel 8 Payload.empty).apply ·)
    let completed := (opened.dispatch (fun _ => true) 0 (.payload (.completion 1))).1
    let dropped := completed.stepWriting 0 Exchange.dropConsumer
    let peer := ((new .server {} none 0).dispatch (fun _ => true) 0
      (.payload (.requestChannel 1 8 Payload.empty false))).1
    let waiting := peer.stepWriting 0 Exchange.complete
    (∃ past, History start past completed) ∧
      (completed.isActive = true ∧ (completed.stream 0).kind = .requesterChannel ∧
        (completed.stream 0).initiated = true ∧ (completed.stream 0).closed.outbound = false ∧
        (completed.stream 0).consumer = some { batch := 8 }) ∧
      (asked.enqueuedFor opened 0).map (·.signal) = [.requestChannel false] ∧
      (peer.enqueuedFor waiting 0).map (·.signal) = [.completion] ∧
      completed.enqueuedFor dropped 0 = [] ∧ dropped.registry.get? 1 = none ∧
      waiting.registry.get? 1 = some 0 ∧ (waiting.stream 0).closed.inbound = false := by
  intro start asked opened completed dropped peer waiting
  obtain ⟨past, history⟩ := channel_opened
  have third : Does opened (.handles (.payload (.completion 1))) completed :=
    .handles _ _ _ _
  refine ⟨⟨_, history.step third⟩, by decide +kernel, by decide +kernel, by decide +kernel, ?_,
    by decide +kernel, by decide +kernel, by decide +kernel⟩
  exact List.isEmpty_iff.mp (by decide +kernel)

end Connection
end StreamMux
