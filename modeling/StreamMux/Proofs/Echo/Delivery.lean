import StreamMux.Proofs.Echo.Passing
import StreamMux.Proofs.Echo.Rest
import StreamMux.Proofs.World.Resting

/-!
# What is sent on a channel comes back

A client opens a channel to a server whose application sends back what it gets. Each end asks for
items in batches of its own size. Whatever else the two ends do, and in which order, the consumer
gets the payloads in their order and nothing else (an empty one if there are none); and when
everything has come to rest (`World.Settled`) it has got all of them and their end, and the channel
is gone from both ends (`World.Follows.brings_back`).
-/
namespace StreamMux

/-! ### Nothing is left to be done -/

namespace Endpoint

/-- Nothing more is sent back. -/
theorem exhausted_yields : Echo.exhausted.Yields [] none := ⟨rfl, [], rfl, rfl, rfl⟩

/-- A task that sends items back, and holds none, has no reason to ask for one only if none came. -/
theorem producerIsReady_repeater {e : Endpoint} {j : Nat} {first : Option Payload}
    (blocked : e.producerIsReady j (Echo.repeater first) = false) :
    first = none ∧ (e.connection.stream j).inbox.isEmpty = true ∧
      (e.connection.stream j).inboxOpen = true := by
  unfold producerIsReady at blocked
  obtain ⟨none, waits⟩ := Bool.or_eq_false_iff.mp blocked
  have waits : e.inboundIsReady j = false := waits
  unfold inboundIsReady at waits
  dsimp only at waits
  refine ⟨Option.not_isSome_iff_eq_none.mp (Bool.eq_false_iff.mp none), ?_⟩
  split at waits
  · contradiction
  · simp only [Bool.or_eq_false_iff, Bool.not_eq_false'] at waits
    exact ⟨waits.1.2, waits.2⟩

/-- A task that has to ask for the next batch does so when it is run. -/
theorem stepWork_repeater {o : Echo} {e : Endpoint} {j k : Nat} {t u : Exchange}
    {frames : List Frame} (active : e.connection.isActive = true)
    (holds : e.connection.Holds o.id j t)
    (task : e.tasks[k]? = some (some (.send j (Echo.repeater none) none)))
    (goes : t.stopped = false) (polled : t.poll = (.pending, u, frames)) :
    (e.stepWork k).1.connection = e.connection.commit j u frames := by
  unfold stepWork
  rw [task, Option.join_some]
  dsimp only
  unfold stepSend
  rw [goes_of_running active holds goes, if_neg Bool.false_ne_true]
  unfold pull
  dsimp only [Echo.repeater]
  rw [pullInbound_holds holds, polled]
  rfl

end Endpoint

namespace World

variable {o : Echo} {name : String} {got : List Item} {ended : Bool} {w : World} {i : Nat}
  {s : Exchange} {near : Echo.Near} {far : Echo.Far} {slot there : Option Nat} {f : Endpoint}
  {source : Source} {payloads : List Payload} {log : Log}

/-- At rest no task has anything to do for the channel. -/
theorem Settled.idles (settled : w.Settled name) (live : w.Live)
    (h : Bounces o name got ended w i s near far slot there f) (owes : o.Owes s near far) :
    False := by
  have runs := h.runs
  have echoes := h.echoes
  cases owes with
  | opens refuses yields =>
    obtain _ | task := runs
    exact settled.yielded w.endpoint?_near task (.opening _) yields (.inl refuses)
  | fetches refuses yields =>
    obtain _ | task := runs
    exact settled.yielded w.endpoint?_near task .sending yields (.inl refuses)
  | sends credit =>
    obtain _ | task := runs
    refine settled.granted w.endpoint?_near task ?_
    rw [h.holds.stream]
    exact credit
  | repeats =>
    obtain _ | @⟨j, _, _, _, _, holds, runs⟩ := echoes
    obtain _ | task := runs
    have waits := (settled.fetching h.across task .sending).1
    exact absurd (Endpoint.producerIsReady_repeater waits).1 (by simp)
  | returns credit =>
    obtain _ | @⟨j, _, _, _, _, holds, runs⟩ := echoes
    obtain _ | task := runs
    refine settled.granted h.across task ?_
    rw [holds.stream]
    exact credit
  | takes known =>
    obtain _ | @⟨j, _, _, _, _, holds, runs⟩ := echoes
    obtain _ | task := runs
    have waits := (settled.fetching h.across task .sending).1
    obtain ⟨_, empty, goes⟩ := Endpoint.producerIsReady_repeater waits
    rw [holds.stream] at empty goes
    rw [empty, goes] at known
    simp at known
  | @asks _ t u goes polled =>
    obtain _ | @⟨j, _, _, _, _, holds, runs⟩ := echoes
    obtain _ | task := runs
    rcases settled.idle h.across _ with sleeps | same
    · rw [Endpoint.sleeps_of_fetches task .sending] at sleeps
      contradiction
    · have active := live.active h.across
      have asked := Endpoint.stepWork_repeater (e := { f with clock := w.clock }) active holds task
        goes polled
      rw [asked] at same
      have nothing := (holds.of_commit_same (h.aside.healthy h.across).accepts same).2
      contradiction
  | leaves =>
    obtain _ | _ | @⟨j, _, _, holds, runs⟩ := echoes
    obtain _ | task := runs
    exact settled.yielded h.across task .sending Endpoint.exhausted_yields (.inl rfl)

/-- In every run the consumer gets the beginning of what was sent on its channel. At rest it has got
all of it, with the end of the stream, and neither end holds the stream. -/
theorem Follows.brings_back {config config' : ConnectionConfig} {setup setup' : Option Setup}
    {a a' : Application} (positive : 0 < config'.prefetch) (bound : config'.prefetch ≤ maxRequestN)
    (fitting : ∀ payload ∈ payloads, payload.Fits)
    (yields : ({ tail := source } : Producer).Yields payloads none)
    (repeats : ∀ payload, a'.onChannel payload = Echo.repeater (some payload))
    (run : Follows name (.channel source) (joined config config' setup setup' a a') log w) :
    log.got <+: (Echo.reply payloads).map .ok ∧
      (log.ended = true → log.got = (Echo.reply payloads).map .ok) ∧
      (w.near.request? name ≠ none → w.Settled name →
        log.got = (Echo.reply payloads).map .ok ∧ log.ended = true ∧
        ∃ i, w.near.request? name = some (.opened i) ∧ ∀ here e, w.endpoint? here = some e →
          e.connection.registry.get? (w.near.connection.stream i).id = none) := by
  obtain ⟨live, course⟩ := run.course (channels_upheld positive bound fitting yields repeats name)
    (joined_live _ _ _ _ _ _) rfl fun id => joined_untouched _ _ _ _ _ _ id name
  cases course with
  | waits request nothing goes untouched =>
    refine ⟨by rw [nothing]; exact List.nil_prefix, by simp [goes], fun asked settled => ?_⟩
    rcases request with none | ⟨batch, _, _, unopened⟩
    · exact absurd none asked
    · exact absurd unopened settled.opened
  | passes given channels =>
    obtain ⟨o, _, same, valid, odd, i, s, near, far, slot, there, f, bounces⟩ := channels
    subst same
    obtain ⟨begins, ends⟩ := bounces.stage.begins
    refine ⟨begins, ends, fun _ settled => ?_⟩
    have accepts := (bounces.aside.healthy w.endpoint?_near).accepts
    have still := settled.still bounces.request bounces.holds accepts
    have stage := bounces.stage
    rw [settled.flow, settled.flow] at stage
    rcases stage.rest valid still with ⟨rfl, closed, all, stopped⟩ | owes
    · cases bounces.echoes with
      | finished gone =>
        exact ⟨all, stopped, i, bounces.request, fun here e found =>
          gone_of_over bounces.holds closed bounces.across gone found⟩
    · exact (settled.idles live bounces owes).elim

/-! ### A channel that comes to rest -/

/-- Two texts to send. -/
def texts : List Payload := [.ofText "x", .ofText "y"]

/-- A channel of two items, up to the moment when nothing happens any more. -/
theorem channel_rests : ∃ log w,
    Follows "r" (.channel (.ofItems (texts.map .ok))) (joined {} {} none none .empty (.echo 1))
        log w ∧ w.near.request? "r" ≠ none ∧ w.Settled "r" := by
  have run : Follows "r" (.channel (.ofItems (texts.map .ok)))
      (joined {} {} none none .empty (.echo 1)) {} _ := .start
  have run := run.asks rfl (some 2) (by decide) (by decide)
  have run := run.polls 1 (act_present _ _) (by decide +kernel) (by decide +kernel)
    (by decide +kernel)
  -- The first item opens the channel, and is sent back.
  have run := run.step (.task .near (.work 0)) (by decide +kernel) (by decide +kernel)
  have run := run.step (.task .near .write) (by decide +kernel) (by decide +kernel)
  have run := run.step (.task .far .read) (by decide +kernel) (by decide +kernel)
  have run := run.step (.task .far (.work 0)) (by decide +kernel) (by decide +kernel)
  have run := run.step (.task .far (.work 0)) (by decide +kernel) (by decide +kernel)
  have run := run.step (.task .far (.work 0)) (by decide +kernel) (by decide +kernel)
  have run := run.step (.task .far .write) (by decide +kernel) (by decide +kernel)
  have run := run.step (.task .far .write) (by decide +kernel) (by decide +kernel)
  have run := run.step (.task .near .read) (by decide +kernel) (by decide +kernel)
  have run := run.step (.task .near .read) (by decide +kernel) (by decide +kernel)
  -- The second follows on credit, with the end behind it.
  have run := run.step (.task .near (.work 0)) (by decide +kernel) (by decide +kernel)
  have run := run.step (.task .near (.work 0)) (by decide +kernel) (by decide +kernel)
  have run := run.step (.task .near (.work 0)) (by decide +kernel) (by decide +kernel)
  have run := run.step (.task .near .write) (by decide +kernel) (by decide +kernel)
  have run := run.step (.task .near .write) (by decide +kernel) (by decide +kernel)
  have run := run.step (.task .far .read) (by decide +kernel) (by decide +kernel)
  have run := run.step (.task .far .read) (by decide +kernel) (by decide +kernel)
  have run := run.step (.task .far (.work 0)) (by decide +kernel) (by decide +kernel)
  have run := run.step (.task .far (.work 0)) (by decide +kernel) (by decide +kernel)
  have run := run.step (.task .far (.work 0)) (by decide +kernel) (by decide +kernel)
  have run := run.step (.task .far (.work 0)) (by decide +kernel) (by decide +kernel)
  have run := run.step (.task .far .write) (by decide +kernel) (by decide +kernel)
  have run := run.step (.task .far .write) (by decide +kernel) (by decide +kernel)
  have run := run.step (.task .near .read) (by decide +kernel) (by decide +kernel)
  have run := run.step (.task .near .read) (by decide +kernel) (by decide +kernel)
  have run := run.polls 5 (act_present _ _) (by decide +kernel) (by decide +kernel)
    (by decide +kernel)
  have run := run.step (.task .near .watch) (by decide +kernel) (by decide +kernel)
  have run := run.step (.task .far .watch) (by decide +kernel) (by decide +kernel)
  refine ⟨_, _, run, ?_, (quiet_of_idle (i := 0) ?_ ?_ ?_ ?_ ?_ ?_).settled ?_ ?_⟩
  · exact Option.isSome_iff_ne_none.mp (by decide +kernel)
  all_goals decide +kernel

/-- Both items come back, and then their end. -/
theorem brings_back_texts : ∃ log w,
    Follows "r" (.channel (.ofItems (texts.map .ok))) (joined {} {} none none .empty (.echo 1))
        log w ∧ w.Settled "r" ∧ log.got = [.ok (.ofText "x"), .ok (.ofText "y")] ∧
      log.ended = true := by
  obtain ⟨log, w, run, asked, settled⟩ := channel_rests
  have fitting : ∀ payload ∈ texts, payload.Fits := by
    simp [texts, Payload.Fits, Payload.ofText]
  obtain ⟨_, _, rests⟩ := Follows.brings_back (by decide) (by decide) fitting
    (Producer.yields_ofItems texts) (fun _ => rfl) run
  obtain ⟨all, ends, _⟩ := rests asked settled
  exact ⟨log, w, run, settled, all, ends⟩

end World
end StreamMux
