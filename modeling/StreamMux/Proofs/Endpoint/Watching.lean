import StreamMux.Proofs.Outbound.Lanes

/-!
# When the watchdog ends a connection

A schedule is anything that an endpoint does and meets, at any times, as long as time does not pass
by the alarm of the watchdog and nothing but the watchdog ends the connection (`Scheduled`). Its
ticks then come at the multiples of the interval, and one of them ends the connection if and only if
it finds that the peer was not heard for longer than the lifetime.

The invariant (`Watches`) is that the last tick found the peer alive: it came no later than a
lifetime after the peer was last heard, so the next one comes no later than an interval after that.

Source: `Endpoint.stepWatch`, `Connection.tick`, `Connection.hear`.
-/
namespace StreamMux

theorem Duration.ext_nanos {a b : Duration} (same : a.nanos = b.nanos) : a = b := by
  cases a
  cases b
  exact congrArg _ same

/-- Ticks are at least a millisecond apart. -/
theorem ConnectionConfig.nanos_tickInterval (c : ConnectionConfig) :
    c.tickInterval.nanos = max c.keepAlive.nanos (Duration.ofMillis 1).nanos := by
  unfold tickInterval
  split
  next short => exact (Nat.max_eq_right (Nat.le_of_lt short)).symm
  next long => exact (Nat.max_eq_left (Nat.le_of_not_lt long)).symm

namespace Endpoint

/-- An endpoint at the time at which its connection begins. -/
def begun (side : Side) (config : ConnectionConfig) (setup : Option Setup)
    (application : Application) (clock : Clock) : Endpoint :=
  { connection := Connection.new side config setup clock.now, application, clock }

/-! ### When the peer is heard -/

/-- The frame that the loop that reads handles in a step. -/
def hears? (e : Endpoint) : Act → Option Frame
  | .read inp =>
    if e.connection.isActive then
      match inp.read with
      | (.ready (some bytes), _) => Frame.read? bytes
      | _ => none
    else none
  | _ => none

/-- What the KEEPALIVE that is read in a step wants; nothing if none is read. -/
def pulse? (e : Endpoint) (act : Act) : Option Bool := (e.hears? act).bind Frame.respond?

/-- When the peer was last heard, with a step in which it is heard or not. -/
def noted (e : Endpoint) (act : Act) (since : Duration) : Duration :=
  match e.pulse? act with
  | some _ => e.clock.now
  | none => since

/-- The loop that reads notes the KEEPALIVE frames of the peer, and nothing else. -/
theorem lastHeard_stepRead (e : Endpoint) (inp : Pipe) :
    (e.stepRead inp).1.connection.lastHeard = e.noted (.read inp) e.connection.lastHeard := by
  have torn (cause : Failure) :
      (e.connection.teardown cause).lastHeard = e.connection.lastHeard :=
    (Connection.Feeds.teardown e.connection cause).lastHeard
  have ended (cause : Failure) :
      (e.connection.terminate cause).lastHeard = e.connection.lastHeard :=
    (Connection.Feeds.terminate e.connection cause).lastHeard
  have handled (frame : Frame) : (e.handle frame).connection.lastHeard =
      match frame.respond? with
      | some _ => e.clock.now
      | none => e.connection.lastHeard := by
    rw [connection_handle]
    exact Connection.lastHeard_dispatch _ _ _ frame
  cases live : e.connection.isActive with
  | false => simp [stepRead, noted, pulse?, hears?, live, stopReading]
  | true =>
    rcases read : inp.read with ⟨_ | _ | bytes, left⟩
    · simp [stepRead, noted, pulse?, hears?, live, read]
    · simp [stepRead, noted, pulse?, hears?, live, read, stopReading, mapConnection, torn]
    · cases told : Frame.decode bytes with
      | ok frame =>
        simpa [stepRead, noted, pulse?, hears?, live, read, told, Frame.read?, Except.toOption]
          using handled frame
      | error problem =>
        cases ignorable : problem.isIgnorable <;>
          simp [stepRead, noted, pulse?, hears?, live, read, told, ignorable, Frame.read?,
            Except.toOption, stopReading, mapConnection, ended]

/-- Whatever an endpoint does, the peer is heard when a KEEPALIVE is read. -/
theorem lastHeard_after (e : Endpoint) (act : Act) :
    (e.after act).connection.lastHeard = e.noted act e.connection.lastHeard := by
  have idle (own : act.isOwn = true) (silent : act.task? ≠ some .read) :=
    (e.leaves_after own).lastHeard silent
  cases act with
  | read inp => exact e.lastHeard_stepRead inp
  | time clock => rfl
  | turn application => rfl
  | _ => exact idle rfl (by simp [Act.task?])

/-! ### Schedules -/

/-- The alarm that the watchdog waits for. -/
def alarm? (e : Endpoint) : Option Alarm :=
  match e.watch with
  | some (.asleep alarm) => some alarm
  | _ => none

/-- The watchdog wakes up in this step. -/
def ticks (e : Endpoint) : Act → Bool
  | .watch => e.connection.isActive && e.alarm?.any e.clock.isDue
  | _ => false

/-- How often the watchdog woke up. -/
def tickCount (e : Endpoint) : List Act → Nat
  | [] => 0
  | act :: acts => (e.ticks act).toNat + (e.after act).tickCount acts

/-- When the last KEEPALIVE was read; without one, the time that is given. -/
def heardSince (e : Endpoint) (since : Duration) : List Act → Duration
  | [] => since
  | act :: acts => (e.after act).heardSince (e.noted act since) acts

/-- Time does not go back, and does not pass by the alarm of the watchdog. -/
def Punctual (e : Endpoint) : Act → Prop
  | .time clock => e.clock.now ≤ clock.now ∧
      (e.connection.isActive = true → ∃ alarm ∈ e.alarm?, clock.now ≤ alarm.due)
  | _ => True

instance (e : Endpoint) : (act : Act) → Decidable (e.Punctual act)
  | .time clock => inferInstanceAs (Decidable (e.clock.now ≤ clock.now ∧
      (e.connection.isActive = true → ∃ alarm ∈ e.alarm?, clock.now ≤ alarm.due)))
  | .write _ | .read _ | .watch | .work _ | .call _ | .turn _ => .isTrue trivial

/-- Ticks come in time, and nothing but the watchdog ends the connection. -/
inductive Scheduled : Endpoint → List Act → Prop
  | nil (e : Endpoint) : Scheduled e []
  | cons {e : Endpoint} {act : Act} {acts : List Act} (punctual : e.Punctual act)
      (alone : act ≠ .watch → e.connection.isActive = true →
        (e.after act).connection.isActive = true)
      (rest : Scheduled (e.after act) acts) : Scheduled e (act :: acts)

/-- A step puts these frames into the priority lane, and none into the other. -/
def Hastens (e : Endpoint) (act : Act) (frames : List Frame) : Prop :=
  (e.after act).lane .priority = e.lane .priority ++ frames ∧
    (e.after act).lane .normal = e.lane .normal

variable {e f : Endpoint} {act : Act} {acts : List Act} {start heard : Duration} {count : Nat}

/-- A schedule falls into two wherever it is cut. -/
theorem Scheduled.split {past later : List Act} (schedule : e.Scheduled (past ++ later)) :
    e.Scheduled past ∧ (e.afterAll past).Scheduled later := by
  induction past generalizing e with
  | nil => exact ⟨.nil e, schedule⟩
  | cons act past ih =>
    cases schedule with
    | cons punctual alone rest =>
      obtain ⟨front, back⟩ := ih rest
      exact ⟨.cons punctual alone front, back⟩

/-! ### Steps of the watchdog -/

/-- A connection that lasts has not ended before. -/
theorem active_of_active (piped : e.connection.Piped)
    (lasts : (e.afterAll acts).connection.isActive = true) : e.connection.isActive = true := by
  cases ended : e.connection.terminal with
  | none => simp [Connection.isActive, ended]
  | some cause =>
    rw [Connection.isActive, over_afterAll piped ended acts] at lasts
    contradiction

/-- A tick is a step of the watchdog that finds its alarm due. -/
theorem ticks_iff (e : Endpoint) (act : Act) : e.ticks act = true ↔
    act = .watch ∧ e.connection.isActive = true ∧
      ∃ alarm, e.watch = some (.asleep alarm) ∧ e.clock.isDue alarm = true := by
  cases act with
  | watch =>
    rcases watch : e.watch with _ | (_ | alarm | _) <;> simp [ticks, alarm?, watch]
  | _ => simp [ticks]

/-- What a step of the watchdog comes to while the connection lasts. -/
inductive Wakes (e f : Endpoint) : Prop
  | rises (idle : e.ticks .watch = false) (fresh : e.watch = some .fresh)
      (eq : f = { e with
        watch := some (.asleep ⟨e.clock.now + e.connection.config.tickInterval, e.clock.tickets⟩)
        clock := { e.clock with tickets := e.clock.tickets + 1 } })
  | sleeps (idle : e.ticks .watch = false) (eq : f = e)
  | beats (alarm : Alarm) (asleep : e.watch = some (.asleep alarm))
      (due : e.clock.isDue alarm = true) (alive : e.connection.isSilent e.clock.now = false)
      (eq : f = { e with
        connection := e.connection.enqueuePriority (.keepAlive true 0 ByteArray.empty)
        watch := some (.asleep ⟨alarm.due + e.connection.config.tickInterval, e.clock.tickets⟩)
        clock := { e.clock with tickets := e.clock.tickets + 1 } })
  | expires (alarm : Alarm) (asleep : e.watch = some (.asleep alarm))
      (due : e.clock.isDue alarm = true) (silent : e.connection.isSilent e.clock.now = true)
      (eq : f = { e with
        connection := e.connection.terminate (.keepAliveTimeout e.connection.config.lifetime)
        watch := none })

theorem stepWatch_wakes (live : e.connection.isActive = true)
    (awake : e.watch = some .fresh ∨ ∃ alarm, e.watch = some (.asleep alarm)) :
    e.Wakes e.stepWatch.1 := by
  obtain fresh | ⟨alarm, asleep⟩ := awake
  · exact .rises (by simp [ticks, alarm?, fresh]) fresh
      (by simp [stepWatch, live, fresh, awaitTick, setAlarm, Clock.alarm])
  · cases due : e.clock.isDue alarm with
    | false =>
      exact .sleeps (by simp [ticks, alarm?, asleep, due]) (by simp [stepWatch, live, asleep, due])
    | true =>
      cases silent : e.connection.isSilent e.clock.now with
      | false =>
        have lasts : (e.connection.enqueuePriority
            (.keepAlive true 0 ByteArray.empty)).isActive = true := live
        have settings : (e.connection.enqueuePriority
            (.keepAlive true 0 ByteArray.empty)).config = e.connection.config := rfl
        exact .beats alarm asleep due silent (by
          simp [stepWatch, live, asleep, due, mapConnection, Connection.tick, silent, lasts,
            awaitTick, setAlarm, Clock.alarm, settings])
      | true =>
        have ends := Connection.isActive_terminate e.connection
          (.keepAliveTimeout e.connection.config.lifetime)
        exact .expires alarm asleep due silent (by
          simp [stepWatch, live, asleep, due, mapConnection, Connection.tick, silent, ends])

/-- A frame that an open queue takes into the priority lane. -/
theorem hastens_of_put (accepts : e.connection.queue.accepts = true) {frame : Frame}
    (put : (e.after act).connection.queue.lane =
      (e.connection.queue.put frame .priority).lane) : e.Hastens act [frame] := by
  unfold Hastens lane
  rw [put, FrameQueue.lane_put, FrameQueue.lane_put, accepts]
  simp

/-! ### Steps of a schedule -/

/-- How the watchdog stands: the connection began at a time, it woke up so many times since, and the
peer was last heard at another time. -/
structure Watches (e : Endpoint) (start : Duration) (count : Nat) (heard : Duration) : Prop where
  piped : e.connection.Piped
  last : e.connection.lastHeard = heard
  past : heard ≤ e.clock.now
  /-- The last tick, or the start, found that the peer was heard not longer ago than a lifetime. -/
  alive : start.nanos + count * e.connection.config.tickInterval.nanos ≤
    heard.nanos + e.connection.config.lifetime.nanos
  begun : start.nanos + count * e.connection.config.tickInterval.nanos ≤ e.clock.now.nanos
  phase : (e.watch = some .fresh ∧ count = 0 ∧ e.clock.now = start) ∨
    ∃ alarm, e.watch = some (.asleep alarm) ∧ e.clock.now ≤ alarm.due ∧
      alarm.due.nanos = start.nanos + (count + 1) * e.connection.config.tickInterval.nanos

namespace Watches

/-- The next tick comes no later than an interval after the last. -/
theorem soon (watches : e.Watches start count heard) : e.clock.now.nanos ≤
    start.nanos + (count + 1) * e.connection.config.tickInterval.nanos := by
  obtain ⟨_, rfl, now⟩ | ⟨alarm, _, early, due⟩ := watches.phase
  · rw [now]
    omega
  · rw [← due]
    exact early

/-- While the connection lasts, the peer was heard within a lifetime and an interval. -/
theorem heard_lately (watches : e.Watches start count heard) :
    e.clock.now ≤ heard + e.connection.config.lifetime + e.connection.config.tickInterval := by
  have soon := watches.soon
  have alive := watches.alive
  rw [Nat.add_mul, Nat.one_mul, ← Nat.add_assoc] at soon
  change e.clock.now.nanos ≤ heard.nanos + e.connection.config.lifetime.nanos +
    e.connection.config.tickInterval.nanos
  omega

theorem awake (watches : e.Watches start count heard) :
    e.watch = some .fresh ∨ ∃ alarm, e.watch = some (.asleep alarm) := by
  obtain ⟨fresh, _⟩ | ⟨alarm, asleep, _⟩ := watches.phase
  · exact .inl fresh
  · exact .inr ⟨alarm, asleep⟩

/-- The alarm is set to the next multiple of the interval. -/
theorem alarm_due (watches : e.Watches start count heard) {alarm : Alarm}
    (set : alarm ∈ e.alarm?) : e.watch = some (.asleep alarm) ∧ alarm.due.nanos =
      start.nanos + (count + 1) * e.connection.config.tickInterval.nanos := by
  obtain ⟨fresh, _⟩ | ⟨other, asleep, _, due⟩ := watches.phase
  · simp [alarm?, fresh] at set
  · simp only [alarm?, asleep, Option.mem_def, Option.some.injEq] at set
    exact set ▸ ⟨asleep, due⟩

/-- An alarm that is due is due now, at a multiple of the interval. -/
theorem due_now (watches : e.Watches start count heard) {alarm : Alarm}
    (asleep : e.watch = some (.asleep alarm)) (due : e.clock.isDue alarm = true) :
    alarm.due = e.clock.now ∧ e.clock.now.nanos =
      start.nanos + (count + 1) * e.connection.config.tickInterval.nanos := by
  obtain ⟨fresh, _⟩ | ⟨other, asleep', early, time⟩ := watches.phase
  · simp [fresh] at asleep
  · simp only [asleep', Option.some.injEq, Phase.asleep.injEq] at asleep
    subst asleep
    have reached : other.due ≤ e.clock.now := of_decide_eq_true due
    have same : other.due = e.clock.now := Duration.ext_nanos (Nat.le_antisymm reached early)
    exact ⟨same, by rw [← same, time]⟩

theorem tick_time (watches : e.Watches start count heard) (ticks : e.ticks act = true) :
    e.clock.now.nanos = start.nanos + (count + 1) * e.connection.config.tickInterval.nanos := by
  obtain ⟨rfl, live, alarm, asleep, due⟩ := (ticks_iff e act).mp ticks
  exact (watches.due_now asleep due).2

/-- The watchdog finds the peer silent if it was not heard for longer than the lifetime. -/
theorem silent_iff (watches : e.Watches start count heard) :
    e.connection.isSilent e.clock.now = true ↔
      heard + e.connection.config.lifetime < e.clock.now := by
  have past : heard.nanos ≤ e.clock.now.nanos := watches.past
  rw [Connection.isSilent, decide_eq_true_iff, watches.last]
  change e.connection.config.lifetime.nanos < e.clock.now.nanos - heard.nanos ↔
    heard.nanos + e.connection.config.lifetime.nanos < e.clock.now.nanos
  omega

/-- The peer may be heard later, and the rest of what the watchdog goes by stays as it is. -/
theorem of_heard (watches : e.Watches start count heard) (piped : f.connection.Piped)
    (config : f.connection.config = e.connection.config) {later : Duration}
    (order : heard ≤ later) (past : later ≤ e.clock.now) (watch : f.watch = e.watch)
    (now : f.clock.now = e.clock.now) (last : f.connection.lastHeard = later) :
    f.Watches start count later := by
  have alive := watches.alive
  have ordered : heard.nanos ≤ later.nanos := order
  refine ⟨piped, last, now ▸ past, ?_, ?_, ?_⟩
  · rw [config]
    omega
  · rw [config, now]
    exact watches.begun
  · rw [config, now, watch]
    exact watches.phase

/-- A step that leaves the connection active leaves the watchdog well. -/
theorem step (watches : e.Watches start count heard) (live : e.connection.isActive = true)
    (punctual : e.Punctual act) (lasts : (e.after act).connection.isActive = true) :
    (e.after act).Watches start (count + (e.ticks act).toNat) (e.noted act heard) := by
  have piped := piped_after watches.piped act
  have config := config_after watches.piped act
  have alive := watches.alive
  have other (idle : act ≠ .watch) (own : act.isOwn = true) :
      (e.after act).Watches start (count + (e.ticks act).toNat) (e.noted act heard) := by
    have never : e.ticks act = false := by
      rw [← Bool.not_eq_true, ticks_iff]
      exact fun ticks => idle ticks.1
    have leaves := e.leaves_after own
    have unwatched : act.task? ≠ some .watch := by
      cases act with
      | watch => contradiction
      | _ => simp [Act.task?]
    have last := e.lastHeard_after act
    rw [watches.last] at last
    rw [never, Bool.toNat_false, Nat.add_zero]
    have order : heard ≤ e.noted act heard ∧ e.noted act heard ≤ e.clock.now := by
      unfold noted
      split
      · exact ⟨watches.past, Nat.le_refl _⟩
      · exact ⟨Nat.le_refl _, watches.past⟩
    exact watches.of_heard piped config order.1 order.2 (leaves.watch unwatched) leaves.now last
  cases act with
  | watch =>
    have wakes := stepWatch_wakes live watches.awake
    change (e.stepWatch.1).Watches start _ heard
    cases wakes with
    | rises idle fresh eq =>
      -- No time has passed since the start, so the first alarm is one interval from there.
      obtain ⟨rfl, now⟩ : count = 0 ∧ e.clock.now = start := by
        simpa [fresh] using watches.phase
      have next : (e.clock.now + e.connection.config.tickInterval).nanos =
          start.nanos + (0 + 1) * e.connection.config.tickInterval.nanos := by
        rw [now, Nat.zero_add, Nat.one_mul]
        rfl
      rw [eq, idle]
      exact ⟨watches.piped, watches.last, watches.past, alive, watches.begun,
        .inr ⟨_, rfl, Nat.le_add_right _ _, next⟩⟩
    | sleeps idle eq =>
      rw [eq, idle]
      exact watches
    | beats alarm asleep due hears eq =>
      have ticking : e.ticks .watch = true :=
        (ticks_iff e _).mpr ⟨rfl, live, alarm, asleep, due⟩
      obtain ⟨now, time⟩ := watches.due_now asleep due
      have found : ¬ heard + e.connection.config.lifetime < e.clock.now := by
        rw [← watches.silent_iff, hears]
        exact Bool.false_ne_true
      -- This tick is now the last one, and it found the peer alive.
      have within : e.clock.now.nanos ≤ heard.nanos + e.connection.config.lifetime.nanos :=
        Nat.le_of_not_lt found
      have next : (alarm.due + e.connection.config.tickInterval).nanos =
          start.nanos + (count + 1 + 1) * e.connection.config.tickInterval.nanos := by
        change alarm.due.nanos + e.connection.config.tickInterval.nanos = _
        rw [now, time, Nat.add_mul (count + 1), Nat.one_mul, Nat.add_assoc]
      have later : e.clock.now ≤ alarm.due + e.connection.config.tickInterval := by
        rw [now]
        exact Nat.le_add_right _ _
      rw [after, eq] at piped
      rw [eq, ticking]
      exact ⟨piped, watches.last, watches.past, time ▸ within, Nat.le_of_eq time.symm,
        .inr ⟨_, rfl, later, next⟩⟩
    | expires alarm asleep due silent eq =>
      have ended := Connection.isActive_terminate e.connection
        (.keepAliveTimeout e.connection.config.lifetime)
      rw [after, eq, ended] at lasts
      contradiction
  | time clock =>
    obtain ⟨later, early⟩ := punctual
    obtain ⟨alarm, set, early⟩ := early live
    obtain ⟨asleep, due⟩ := watches.alarm_due set
    exact ⟨watches.piped, watches.last, Nat.le_trans watches.past later, alive,
      Nat.le_trans watches.begun later, .inr ⟨alarm, asleep, early, due⟩⟩
  | turn application =>
    exact ⟨watches.piped, watches.last, watches.past, alive, watches.begun, watches.phase⟩
  | write out => exact other (by simp) rfl
  | read inp => exact other (by simp) rfl
  | work k => exact other (by simp) rfl
  | call call => exact other (by simp) rfl

/-- A tick ends the connection if the peer is silent, and reports to the peer otherwise. -/
theorem tick (watches : e.Watches start count heard) (ticks : e.ticks act = true) :
    if heard + e.connection.config.lifetime < e.clock.now then
      (e.after act).connection.terminal =
          some (.keepAliveTimeout e.connection.config.lifetime) ∧
        e.Hastens act [(Failure.keepAliveTimeout e.connection.config.lifetime).closingFrame]
    else
      (e.after act).connection.isActive = true ∧
        e.Hastens act [.keepAlive true 0 ByteArray.empty] := by
  obtain ⟨rfl, live, _⟩ := (ticks_iff e act).mp ticks
  have accepts : e.connection.queue.accepts = true := watches.piped.accepts.trans live
  cases stepWatch_wakes live watches.awake with
  | rises idle fresh eq =>
    rw [idle] at ticks
    contradiction
  | sleeps idle eq =>
    rw [idle] at ticks
    contradiction
  | beats alarm asleep due alive eq =>
    have early : ¬ heard + e.connection.config.lifetime < e.clock.now := by
      rw [← watches.silent_iff, alive]
      exact Bool.false_ne_true
    rw [if_neg early, after, eq]
    exact ⟨live, hastens_of_put accepts (by rw [after, eq]; rfl)⟩
  | expires alarm asleep due silent eq =>
    let cause : Failure := .keepAliveTimeout e.connection.config.lifetime
    have told : (e.connection.enqueuePriority cause.closingFrame).isActive = true := live
    have ended : (e.after .watch).connection =
        (e.connection.enqueuePriority cause.closingFrame).teardown cause := by
      rw [after, eq, ← Connection.terminate_eq live]
    rw [if_pos (watches.silent_iff.mp silent), ended, Connection.teardown_eq told]
    exact ⟨rfl, hastens_of_put accepts (by rw [ended, Connection.teardown_eq told]; rfl)⟩

end Watches

/-- A frame that is heard is one that was read and is handled. -/
theorem handles_of_hears {frame : Frame} (hears : e.hears? act = some frame) :
    e.connection.isActive = true ∧ (e.after act).connection =
      (e.connection.dispatch e.application.keepsItems e.clock.now frame).1 := by
  cases act with
  | read inp =>
    simp only [hears?] at hears
    split at hears
    next live =>
      split at hears
      next bytes left read =>
        cases told : Frame.decode bytes with
        | error problem => simp [Frame.read?, told, Except.toOption] at hears
        | ok other =>
          simp only [Frame.read?, told, Except.toOption, Option.some.injEq] at hears
          rw [← connection_handle, ← hears]
          exact ⟨live, by simp [after, stepRead, live, read, told]⟩
      · contradiction
    · contradiction
  | _ => simp [hears?] at hears

/-- A KEEPALIVE is answered if it asks for that, and nothing else is sent for it. -/
theorem pulse_answered (piped : e.connection.Piped) {respond : Bool}
    (pulse : e.pulse? act = some respond) :
    (e.after act).connection.isActive = true ∧
      e.Hastens act (if respond then [.keepAlive false 0 ByteArray.empty] else []) := by
  obtain ⟨frame, hears, wants⟩ := Option.bind_eq_some_iff.mp pulse
  obtain ⟨live, handled⟩ := handles_of_hears hears
  cases frame with
  | keepAlive asks position data =>
    cases wants
    have accepts : e.connection.queue.accepts = true := piped.accepts.trans live
    cases respond with
    | true =>
      refine ⟨by rw [handled]; exact live, hastens_of_put accepts ?_⟩
      rw [handled]
      rfl
    | false =>
      refine ⟨by rw [handled]; exact live, ?_, ?_⟩
      · rw [lane, handled]
        exact (List.append_nil _).symm
      · rw [lane, handled]
        rfl
  | _ => contradiction

/-- The watchdog stands well as long as the connection lasts. -/
theorem Scheduled.watches (schedule : e.Scheduled acts) (begun : e.Watches start count heard)
    (lasts : (e.afterAll acts).connection.isActive = true) :
    (e.afterAll acts).Watches start (count + e.tickCount acts) (e.heardSince heard acts) := by
  induction schedule generalizing count heard with
  | nil e => exact begun
  | @cons e act acts punctual alone rest ih =>
    have piped := begun.piped
    have before : (e.afterAll [act]).connection.isActive = true :=
      active_of_active (piped_after piped act) lasts
    have live : e.connection.isActive = true := active_of_active piped before
    have next := ih (begun.step live punctual before) lasts
    rw [Nat.add_assoc] at next
    exact next

/-- A step of a schedule ends the connection if and only if it is a tick that comes too late. -/
theorem Watches.ends_iff (watches : e.Watches start count heard)
    (live : e.connection.isActive = true)
    (alone : act ≠ .watch → e.connection.isActive = true →
      (e.after act).connection.isActive = true) :
    (e.after act).connection.isActive = false ↔
      e.ticks act = true ∧ heard + e.connection.config.lifetime < e.clock.now := by
  cases ticking : e.ticks act with
  | true =>
    have outcome := watches.tick ticking
    split at outcome
    next overdue => simp [Connection.isActive, outcome.1, overdue]
    next early => simp [outcome.1, early]
  | false =>
    suffices lasts : (e.after act).connection.isActive = true by simp [lasts]
    by_cases watch : act = .watch
    · subst watch
      rw [after]
      cases stepWatch_wakes live watches.awake with
      | rises idle fresh eq => rw [eq]; exact live
      | sleeps idle eq => rw [eq]; exact live
      | beats alarm asleep due alive eq => rw [eq]; exact live
      | expires alarm asleep due silent eq =>
        rw [(ticks_iff e .watch).mpr ⟨rfl, live, alarm, asleep, due⟩] at ticking
        contradiction
    · exact alone watch live

/-- A tick that comes too long after the peer was last heard. -/
def Overdue (e : Endpoint) (since : Duration) (past : List Act) (act : Act) : Prop :=
  (e.afterAll past).ticks act = true ∧
    e.heardSince since past + e.connection.config.lifetime < (e.afterAll past).clock.now

/-- A schedule leaves the connection active as long as no tick comes too late; else the first of
these has ended it. -/
theorem Scheduled.ends (schedule : e.Scheduled acts) (watches : e.Watches start count heard)
    (live : e.connection.isActive = true) :
    ((e.afterAll acts).connection.isActive = true ∧
      ∀ before act after, acts = before ++ act :: after → ¬ e.Overdue heard before act) ∨
    (e.afterAll acts).connection.terminal =
        some (.keepAliveTimeout e.connection.config.lifetime) ∧
      ∃ before act after, acts = before ++ act :: after ∧ e.Overdue heard before act ∧
        (e.afterAll before).connection.isActive = true := by
  induction schedule generalizing count heard with
  | nil e => exact .inl ⟨live, by simp⟩
  | @cons e act acts punctual alone rest ih =>
    have config := config_after watches.piped act
    have ends := watches.ends_iff live alone
    cases lasts : (e.after act).connection.isActive with
    | true =>
      have early : ¬ e.Overdue heard [] act := by
        intro overdue
        rw [lasts] at ends
        exact Bool.false_ne_true (ends.mpr overdue).symm
      -- A tick that is overdue in the rest of the schedule is so in the whole, and the other way.
      have later (before : List Act) (other : Act) :
          (e.after act).Overdue (e.noted act heard) before other ↔
            e.Overdue heard (act :: before) other := by
        unfold Overdue
        rw [config]
        rfl
      have rest := ih (watches.step live punctual lasts) lasts
      rw [config] at rest
      obtain ⟨active, none⟩ | ⟨ended, before, other, after, split, overdue, was⟩ := rest
      · refine .inl ⟨active, fun before other after split => ?_⟩
        cases before with
        | nil =>
          cases split
          exact early
        | cons first before =>
          cases split
          rw [← later]
          exact none before other after rfl
      · exact .inr ⟨ended, act :: before, other, after, by rw [split]; rfl,
          (later before other).mp overdue, was⟩
    | false =>
      have overdue := ends.mp lasts
      have outcome := watches.tick overdue.1
      rw [if_pos overdue.2] at outcome
      exact .inr ⟨over_afterAll (piped_after watches.piped act) outcome.1 acts, [], act, acts, rfl,
        overdue, live⟩

/-- The first of the ticks that come too late ends the connection. -/
theorem Scheduled.ends_first (schedule : e.Scheduled acts) (watches : e.Watches start count heard)
    (live : e.connection.isActive = true) :
    ((e.afterAll acts).connection.isActive = true ∧
      ∀ before act after, acts = before ++ act :: after → ¬ e.Overdue heard before act) ∨
    (e.afterAll acts).connection.terminal =
        some (.keepAliveTimeout e.connection.config.lifetime) ∧
      ∃ before act after, acts = before ++ act :: after ∧ e.Overdue heard before act ∧
        ∀ earlier other later, before = earlier ++ other :: later →
          ¬ e.Overdue heard earlier other := by
  obtain lasts | ⟨ended, before, act, after, split, overdue, was⟩ := schedule.ends watches live
  · exact .inl lasts
  · refine .inr ⟨ended, before, act, after, split, overdue, ?_⟩
    subst split
    -- The connection was active before that tick, so none of the earlier ones came too late.
    obtain ⟨_, none⟩ | ⟨halted, _⟩ := schedule.split.1.ends watches live
    · exact none
    · rw [Connection.isActive, halted] at was
      contradiction

/-- At its beginning a connection counts as one whose peer was heard. -/
theorem begun_watches (side : Side) (config : ConnectionConfig) (setup : Option Setup)
    (application : Application) (clock : Clock) :
    (begun side config setup application clock).Watches clock.now 0 clock.now := by
  refine ⟨Connection.piped_new side config setup clock.now, rfl, Nat.le_refl _, ?_, ?_,
    .inl ⟨rfl, rfl, rfl⟩⟩
  · simp
  · simp [begun]

/-- For all settings and for every schedule of ticks, frames and whatever else an endpoint does:

* A tick comes at a multiple of the interval, which is at least a millisecond. If it comes more than
  a lifetime after the last KEEPALIVE, or after the start without one, it ends the connection with
  an ERROR frame in the priority lane; otherwise it puts one KEEPALIVE there that wants an answer.
* A KEEPALIVE of the peer is answered in the priority lane if it asks for that, and otherwise not.
* The connection lasts as long as no tick comes too late, and the first that does ends it.
* So it has ended at every time that is later by a lifetime and an interval than a time after which
  no KEEPALIVE was read; and no multiple of the interval goes by without a tick before that.

Other frames are not heard (`noted`). -/
theorem watchdog_exact (side : Side) (config : ConnectionConfig) (setup : Option Setup)
    (application : Application) (clock : Clock) {acts : List Act}
    (schedule : (begun side config setup application clock).Scheduled acts) :
    let e := begun side config setup application clock
    let f := e.afterAll acts
    let cause := Failure.keepAliveTimeout config.lifetime
    config.tickInterval.nanos = max config.keepAlive.nanos (Duration.ofMillis 1).nanos ∧
    (∀ before act after, acts = before ++ act :: after →
      let d := e.afterAll before
      (d.ticks act = true → d.clock.now.nanos =
          clock.now.nanos + (e.tickCount before + 1) * config.tickInterval.nanos ∧
        if e.heardSince clock.now before + config.lifetime < d.clock.now then
          (d.after act).connection.terminal = some cause ∧ d.Hastens act [cause.closingFrame]
        else
          (d.after act).connection.isActive = true ∧
            d.Hastens act [.keepAlive true 0 ByteArray.empty]) ∧
      ∀ respond, d.pulse? act = some respond → (d.after act).connection.isActive = true ∧
        d.Hastens act (if respond then [.keepAlive false 0 ByteArray.empty] else [])) ∧
    (f.connection.isActive = true ∧
        (∀ before act after, acts = before ++ act :: after →
          ¬ e.Overdue clock.now before act) ∨
      f.connection.terminal = some cause ∧
        ∃ before act after, acts = before ++ act :: after ∧ e.Overdue clock.now before act ∧
          ∀ earlier other later, before = earlier ++ other :: later →
            ¬ e.Overdue clock.now earlier other) ∧
    (∀ silent, e.heardSince clock.now acts ≤ silent →
      silent + config.lifetime + config.tickInterval < f.clock.now →
      f.connection.terminal = some cause) ∧
    (f.connection.isActive = true →
      clock.now.nanos + e.tickCount acts * config.tickInterval.nanos ≤ f.clock.now.nanos ∧
      f.clock.now.nanos ≤
        clock.now.nanos + (e.tickCount acts + 1) * config.tickInterval.nanos) := by
  intro e f cause
  have begins : e.Watches clock.now 0 clock.now :=
    begun_watches side config setup application clock
  have piped : e.connection.Piped := begins.piped
  have settings (past : List Act) : (e.afterAll past).connection.config = config :=
    config_afterAll piped past
  have stands (past : List Act) (scheduled : e.Scheduled past)
      (lasts : (e.afterAll past).connection.isActive = true) :
      (e.afterAll past).Watches clock.now (e.tickCount past) (e.heardSince clock.now past) := by
    have watches := scheduled.watches begins lasts
    rwa [Nat.zero_add] at watches
  have ends := schedule.ends_first begins rfl
  refine ⟨config.nanos_tickInterval, ?_, ends, ?_, ?_⟩
  · intro before act after split d
    subst split
    have scheduled := schedule.split.1
    refine ⟨fun ticks => ?_, fun respond pulse => ?_⟩
    · have watches := stands before scheduled ((ticks_iff d act).mp ticks).2.1
      have time := watches.tick_time ticks
      have outcome := watches.tick ticks
      rw [settings before] at time outcome
      exact ⟨time, outcome⟩
    · exact pulse_answered (piped_afterAll piped before) pulse
  · intro silent before late
    obtain ⟨lasts, _⟩ | ⟨ended, _⟩ := ends
    · have lately := (stands acts schedule lasts).heard_lately
      rw [settings acts] at lately
      have lately : f.clock.now.nanos ≤ (e.heardSince clock.now acts).nanos +
        config.lifetime.nanos + config.tickInterval.nanos := lately
      have before : (e.heardSince clock.now acts).nanos ≤ silent.nanos := before
      have late : silent.nanos + config.lifetime.nanos + config.tickInterval.nanos <
        f.clock.now.nanos := late
      omega
    · exact ended
  · intro lasts
    have watches := stands acts schedule lasts
    have begun := watches.begun
    have soon := watches.soon
    rw [settings acts] at begun soon
    exact ⟨begun, soon⟩

/-- A watchdog that wakes up every 10 ms and bears 15 ms of silence. A KEEPALIVE is read after 4 ms
and answered, and the first tick reports to the peer; a CANCEL does not count as a sign of life, and
the second tick ends the connection. -/
theorem watchdog_exact_of_silence :
    let config : ConnectionConfig := { keepAlive := .ofMillis 10, lifetime := .ofMillis 15 }
    let e := begun .client config none {} {}
    let pulse : Pipe :=
      { frames := .ofList [⟨#[0, 0, 0, 0, 0x0C, 0x80, 0, 0, 0, 0, 0, 0, 0, 0]⟩] }
    let cancel : Pipe := { frames := .ofList [⟨#[0, 0, 0, 1, 0x24, 0]⟩] }
    let past : List Act := [.watch, .time { now := .ofMillis 4, tickets := 1 }, .read pulse,
      .time { now := .ofMillis 10, tickets := 1 }, .watch,
      .time { now := .ofMillis 20, tickets := 2 }, .read cancel]
    let cause := Failure.keepAliveTimeout config.lifetime
    e.Scheduled (past ++ [.watch]) ∧ e.tickCount past = 1 ∧ e.heardSince 0 past = .ofMillis 4 ∧
      (e.afterAll past).lane .priority =
        [.keepAlive false 0 ByteArray.empty, .keepAlive true 0 ByteArray.empty] ∧
      ((e.afterAll past).after .watch).connection.terminal = some cause ∧
      (e.afterAll past).Hastens .watch [cause.closingFrame] := by
  intro config e pulse cancel past cause
  have schedule : e.Scheduled (past ++ [.watch]) := by
    refine .cons trivial (absurd rfl) ?_
    refine .cons (by decide +kernel) (fun _ _ => by decide +kernel) ?_
    refine .cons trivial (fun _ _ => by decide +kernel) ?_
    refine .cons (by decide +kernel) (fun _ _ => by decide +kernel) ?_
    refine .cons trivial (absurd rfl) ?_
    refine .cons (by decide +kernel) (fun _ _ => by decide +kernel) ?_
    refine .cons trivial (fun _ _ => by decide +kernel) ?_
    exact .cons trivial (absurd rfl) (.nil _)
  obtain ⟨_, steps, _⟩ := watchdog_exact .client config none {} {} schedule
  obtain ⟨ticking, _⟩ := steps past .watch [] rfl
  have last := ticking (by decide +kernel)
  rw [if_pos (by decide +kernel)] at last
  refine ⟨schedule, by decide +kernel, by decide +kernel, by decide +kernel, ?_⟩
  with_reducible exact last.2

end Endpoint
end StreamMux
