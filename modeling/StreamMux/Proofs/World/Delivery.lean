import StreamMux.Proofs.Transfer.Rest
import StreamMux.Proofs.World.Passing
import StreamMux.Proofs.World.Resting

/-!
# A stream of items arrives

A client asks a server for a stream, and the handler of the server yields payloads for it until it
ends or fails. Whatever else the two ends do, and in which order, the consumer gets the payloads in
their order and nothing else; and when everything has come to rest (`World.Quiet`) it has got all of
them, and the stream is gone from both ends (`World.Run.delivers`).
-/
namespace StreamMux

namespace World

variable {name : String} {payload : Payload} {payloads : List Payload}
  {failure : Option Failure} {log : Log} {w : World}

/-- At rest no end has anything left to send on the stream. -/
theorem Quiet.sent {o : Order} {f : Endpoint} {slot : Option Nat} {t : Exchange} {p : Producer}
    {held : Option Payload} {left : List Payload} (quiet : w.Quiet name)
    (there : w.endpoint? .far = some f) (answers : f.Answers o (.sending t p held) slot)
    (answering : o.Answering t) (yields : p.Yields left failure)
    (granted : held.isSome = true → t.limiter.isDecided = true ∧ t.limiter.parked = false) :
    False := by
  cases answers with
  | @sending j k _ _ _ holds task =>
    cases held with
    | some payload =>
      refine quiet.granted there task ?_
      rw [holds.stream]
      exact granted rfl
    | none =>
      refine quiet.yielded there task .sending yields (.inr ?_)
      rw [holds.stream, answering.consumer]

/-- In every run the consumer gets the beginning of what its stream delivers. At rest it has got
all of it, with the end of the stream unless that failed, and neither end holds the stream. -/
theorem Run.delivers {config config' : ConnectionConfig} {setup setup' : Option Setup}
    {a a' : Application} (fits : payload.Fits) (fitting : ∀ payload ∈ payloads, payload.Fits)
    (yields : (a'.onStream payload).Yields payloads failure)
    (run : Run name payload (joined config config' setup setup' a a') log w) :
    log.got <+: delivery payloads failure ∧
      (log.ended = true → log.got = delivery payloads failure) ∧
      (w.near.request? name ≠ none → w.Quiet name → log.got = delivery payloads failure ∧
        (failure = none → log.ended = true) ∧
        ∃ i, w.near.request? name = some (.opened i) ∧ ∀ here e, w.endpoint? here = some e →
          e.connection.registry.get? (w.near.connection.stream i).id = none) := by
  obtain ⟨live, course⟩ := run.follows.course (streams_upheld fits fitting yields name)
    (joined_live _ _ _ _ _ _) rfl fun id => joined_untouched _ _ _ _ _ _ id name
  cases course with
  | waits request nothing goes untouched =>
    refine ⟨by rw [nothing]; exact List.nil_prefix, by simp [goes], fun asked quiet => ?_⟩
    rcases request with none | ⟨batch, _, _, unopened⟩
    · exact absurd none asked
    · exact absurd unopened quiet.opened
  | passes given streams =>
    obtain ⟨o, _, same, same', valid, odd, i, s, far, slot, f, passes⟩ := streams
    subst same same'
    obtain ⟨begins, ends⟩ := passes.stage.begins
    refine ⟨begins, ends, fun _ quiet => ?_⟩
    have accepts := (passes.aside.healthy w.endpoint?_near).accepts
    have still := quiet.still passes.request passes.holds accepts
    have stage := passes.stage
    rw [quiet.flow, quiet.flow] at stage
    rcases stage.rest valid still with ⟨rfl, finished, all, stopped⟩ |
      ⟨t, p, held, left, rfl, answering, yields, granted⟩
    · cases passes.answers with
      | finished gone =>
        exact ⟨all, stopped, i, passes.request, fun here e found =>
          gone_of_over passes.holds finished passes.there gone found⟩
    · exact (quiet.sent passes.there passes.answers answering yields granted).elim

/-! ### A run that comes to rest -/

/-- A stream of one item, up to the moment when nothing happens any more. -/
theorem echo_rests : ∃ log w,
    Run "r" (.ofText "x") (joined {} {} none none .empty (.echo 1)) log w ∧
      w.near.request? "r" ≠ none ∧ w.Quiet "r" := by
  have run : Run "r" (.ofText "x") (joined {} {} none none .empty (.echo 1)) {} _ := .start
  have run := run.asks rfl (some 1) (by decide) (by decide)
  have run := run.polls 1 (act_present _ _) (by decide +kernel) (by decide +kernel)
    (by decide +kernel)
  have run := run.step (.task .near .write) (by decide +kernel) (by decide +kernel)
  have run := run.step (.task .far .read) (by decide +kernel) (by decide +kernel)
  have run := run.step (.task .far (.work 0)) (by decide +kernel) (by decide +kernel)
  have run := run.step (.task .far (.work 0)) (by decide +kernel) (by decide +kernel)
  have run := run.step (.task .far (.work 0)) (by decide +kernel) (by decide +kernel)
  have run := run.step (.task .far .write) (by decide +kernel) (by decide +kernel)
  have run := run.step (.task .far .write) (by decide +kernel) (by decide +kernel)
  have run := run.step (.task .near .read) (by decide +kernel) (by decide +kernel)
  have run := run.step (.task .near .read) (by decide +kernel) (by decide +kernel)
  have run := run.polls 5 (act_present _ _) (by decide +kernel) (by decide +kernel)
    (by decide +kernel)
  have run := run.step (.task .near .watch) (by decide +kernel) (by decide +kernel)
  have run := run.step (.task .far .watch) (by decide +kernel) (by decide +kernel)
  refine ⟨_, _, run, ?_, quiet_of_idle (i := 0) ?_ ?_ ?_ ?_ ?_ ?_⟩
  · exact Option.isSome_iff_ne_none.mp (by decide +kernel)
  all_goals decide +kernel

/-- Its item arrives, and then its end. -/
theorem delivers_echo : ∃ log w,
    Run "r" (.ofText "x") (joined {} {} none none .empty (.echo 1)) log w ∧ w.Quiet "r" ∧
      log.got = [.ok (.ofText "x")] ∧ log.ended = true := by
  obtain ⟨log, w, run, asked, quiet⟩ := echo_rests
  have fits : (Payload.ofText "x").Fits := by simp [Payload.Fits, Payload.ofText]
  have fitting : ∀ payload ∈ [Payload.ofText "x"], payload.Fits := by simp [fits]
  have yields : ((Application.echo 1).onStream (.ofText "x")).Yields [.ofText "x"] none :=
    ⟨rfl, [], rfl, rfl, rfl⟩
  obtain ⟨_, _, rests⟩ := Run.delivers fits fitting yields run
  obtain ⟨all, ends, _⟩ := rests asked quiet
  exact ⟨log, w, run, quiet, all, ends rfl⟩

end World
end StreamMux
