import StreamMux.Proofs.FrameQueue.Lanes

/-!
# A frame queue whose producers go away

Whatever becomes of the two sides of a queue, the frames that were handed out and those that still
wait are those that were accepted (`Receiver.Life.Accounts`). So one who is told that no frame comes
has got every accepted frame, as long as both lanes are empty then. They are, but in one case: the
last producer went away during a wait in which frames had come into the normal lane and none into
the priority lane. The priority lane is looked at first then, and its end is taken for the end of
the queue (`Receiver.Life.error_after_last_frame`, `Receiver.Life.error_leaves_a_frame`).

Source: `FrameQueue.dequeue`, `FrameQueue.resumeDequeue`, `Receiver.dropProducers`, `Receiver.drop`.
-/
namespace StreamMux

namespace Receiver

open FrameQueue (Lane)

variable {r : Receiver}

/-! ### Asking for a frame -/

/-- All frames that wait. -/
def frames (r : Receiver) : List Frame := r.queue.lane .priority ++ r.queue.lane .normal

/-- The last producer went away during a wait, and only the normal lane has frames. -/
structure IsCutOff (r : Receiver) : Prop where
  waiting : r.waiting = true
  producer : r.queue.hasProducer = false
  urgent : r.queue.lane .priority = []
  plain : r.queue.lane .normal ≠ []

/-- What asking for the next frame comes to. -/
inductive Answers (r : Receiver) : Poll (Except Failure Frame) × Receiver → Prop
  | frame {frame : Frame} {queue : FrameQueue} (cutOff : ¬ r.IsCutOff)
      (takes : r.queue.Takes (some (frame, queue))) : Answers r (.ready (.ok frame), { queue })
  | ends (empty : r.frames = [])
      (finished : r.queue.isClosed = true ∨ r.queue.hasProducer = false) :
      Answers r (.ready (.error r.queue.finalCause), { queue := r.queue })
  | cutOff (cutOff : r.IsCutOff) :
      Answers r (.ready (.error r.queue.finalCause), { queue := r.queue })
  | waits (empty : r.frames = []) (lives : r.queue.isClosed = false)
      (producer : r.queue.hasProducer = true) :
      Answers r (.pending, { queue := r.queue, waiting := true })

theorem frames_nil (empty : ∀ lane, r.queue.lane lane = []) : r.frames = [] := by
  rw [frames, empty, empty, List.nil_append]

theorem lane_of_frames (empty : r.frames = []) (lane : Lane) : r.queue.lane lane = [] := by
  obtain ⟨priority, normal⟩ := List.append_eq_nil_iff.mp empty
  cases lane with
  | priority => exact priority
  | normal => exact normal

/-- Asking as if one had not waited. -/
theorem answers_dequeue (cutOff : ¬ r.IsCutOff)
    (same : (if r.waiting then r.queue.resumeDequeue else r.queue.dequeue) = r.queue.dequeue) :
    r.Answers r.next := by
  have takes := r.queue.takes
  rw [next, same, FrameQueue.dequeue]
  generalize r.queue.tryDequeue = taken at takes
  cases taken with
  | some taken => exact .frame cutOff takes
  | none =>
    cases takes with
    | nothing empty =>
      have none := frames_nil empty
      cases closed : r.queue.isClosed with
      | true => exact .ends none (.inl closed)
      | false =>
        cases producer : r.queue.hasProducer with
        | true => exact .waits none closed producer
        | false => exact .ends none (.inr producer)

/-- Going on to wait after the last producer went away: only the priority lane counts. -/
theorem answers_abandoned (waiting : r.waiting = true) (producer : r.queue.hasProducer = false) :
    r.Answers r.next := by
  cases urgent : r.queue.priority.pop? with
  | some taken =>
    have resumed : r.next =
        (.ready (.ok taken.1), { queue := { r.queue with priority := taken.2 } }) := by
      rw [next, if_pos waiting, FrameQueue.resumeDequeue, urgent]
    have first : r.queue.lane .priority = taken.1 :: taken.2.toList := Fifo.pop?_eq_some urgent
    rw [resumed]
    refine .frame (fun cut => ?_) (.urgent first)
    rw [cut.urgent] at first
    contradiction
  | none =>
    have resumed : r.next = (.ready (.error r.queue.finalCause), { queue := r.queue }) := by
      rw [next, if_pos waiting, FrameQueue.resumeDequeue, urgent]
      dsimp only
      rw [if_neg (Bool.eq_false_iff.mp producer)]
    have none : r.queue.lane .priority = [] := (Fifo.pop?_eq_none_iff _).mp urgent
    rw [resumed]
    by_cases plain : r.queue.lane .normal = []
    · refine .ends ?_ (.inr producer)
      rw [frames, none, plain, List.nil_append]
    · exact .cutOff ⟨waiting, producer, none, plain⟩

theorem answers (r : Receiver) : r.Answers r.next := by
  cases waiting : r.waiting with
  | false =>
    refine answers_dequeue (fun cut => ?_) (if_neg (Bool.eq_false_iff.mp waiting))
    exact Bool.false_ne_true (waiting.symm.trans cut.waiting)
  | true =>
    cases producer : r.queue.hasProducer with
    | true =>
      refine answers_dequeue (fun cut => ?_) ?_
      · exact Bool.false_ne_true (cut.producer.symm.trans producer)
      · rw [FrameQueue.resumeDequeue_eq producer, ite_self]
    | false => exact answers_abandoned waiting producer

/-! ### What can happen to a queue -/

/-- Something that happens to a queue. -/
inductive Deed where
  | use (use : Use)
  /-- All that could add frames goes away. -/
  | abandon
  /-- The one that takes frames goes away. -/
  | leave

def act (r : Receiver) : Deed → Given × Receiver
  | .use use => r.use use
  | .abandon => (.nothing, r.dropProducers)
  | .leave => (.nothing, r.drop)

/-- Whoever is gone does nothing, and nobody tries to take a frame while waiting for one. -/
def Allows (r : Receiver) : Deed → Prop
  | .use (.put ..) | .use (.close _) | .abandon => r.queue.hasProducer = true
  | .use .tryNext => r.isBusy = false
  | .use .next | .use .giveUp | .leave => r.queue.hasConsumer = true

/-- A deed, in the state in which it was done. -/
structure Moment where
  before : Receiver
  deed : Deed

namespace Moment

def given (moment : Moment) : Given := (moment.before.act moment.deed).1

def after (moment : Moment) : Receiver := (moment.before.act moment.deed).2

/-- The frame that was accepted. -/
def accepted (moment : Moment) : List Frame :=
  match moment.deed, moment.given with
  | .use (.put _ frame), .accepted true => [frame]
  | _, _ => []

/-- The frame that was handed out. -/
def handed (moment : Moment) : List Frame := moment.given.frame?.toList

/-- The cause, if the queue was closed. -/
def cause? (moment : Moment) : Option Failure :=
  match moment.deed with
  | .use (.close cause) => some cause
  | _ => none

end Moment

/-- A fresh queue, and all that happened to it. -/
inductive Life : List Moment → Receiver → Prop
  | start : Life [] {}
  | step {past : List Moment} {r : Receiver} (life : Life past r) (deed : Deed)
      (allowed : r.Allows deed) : Life (past ++ [⟨r, deed⟩]) (r.act deed).2

namespace Life

/-- All frames that were accepted. -/
def accepted (past : List Moment) : List Frame := past.flatMap (·.accepted)

/-- All frames that were handed out. -/
def handed (past : List Moment) : List Frame := past.flatMap (·.handed)

/-- The causes with which the queue was closed. -/
def causes (past : List Moment) : List Failure := past.filterMap (·.cause?)

end Life

/-! ### What a deed does -/

variable {moment : Moment}

/-- A frame that is taken is the first of those that wait. -/
theorem frames_of_takes {frame : Frame} {queue : FrameQueue}
    (takes : r.queue.Takes (some (frame, queue))) (waiting : Bool) :
    r.frames = frame :: frames { queue, waiting } ∧ queue.cause = r.queue.cause ∧
      queue.hasProducer = r.queue.hasProducer := by
  cases takes with
  | urgent first =>
    refine ⟨?_, rfl, rfl⟩
    rw [frames, first, List.cons_append]
    rfl
  | plain none first =>
    refine ⟨?_, rfl, rfl⟩
    rw [frames, none, first, List.nil_append, frames]
    exact congrArg (frame :: ·) (congrArg (· ++ _) none).symm

/-- What a deed does: no frame is lost, and the first cause stays. Whoever waits afterwards began to
wait just now, for a queue without frames, or waited before and was given none. -/
structure Moment.Counts (moment : Moment) : Prop where
  frames : (moment.handed ++ moment.after.frames).Perm (moment.before.frames ++ moment.accepted)
  cause : moment.after.queue.cause = moment.before.queue.cause.or moment.cause?
  producer : moment.after.queue.hasProducer = false →
    moment.before.queue.hasProducer = false ∨ moment.deed = .abandon
  waits : moment.after.waiting = true →
    moment.given = .answer .pending ∧ moment.after.frames = [] ∧
        moment.after.queue.hasProducer = true ∨
      moment.before.waiting = true ∧ moment.handed = []

theorem counts_put (producer : r.queue.hasProducer = true) (lane : Lane) (frame : Frame) :
    (Moment.mk r (.use (.put lane frame))).Counts := by
  obtain ⟨cause, stays, _⟩ := r.queue.put_same frame lane
  have accepts : r.accepts = r.queue.accepts := by rw [Receiver.accepts, producer, Bool.and_true]
  refine ⟨?_, cause.trans (Option.or_none ..).symm, fun gone => .inl (stays.symm.trans gone),
    fun waiting => .inr ⟨waiting, rfl⟩⟩
  have accepted : (Moment.mk r (.use (.put lane frame))).accepted =
      if r.queue.accepts then [frame] else [] := by
    rw [← accepts]
    cases taken : r.accepts <;> simp [Moment.accepted, Moment.given, act, use, taken]
  have lanes (own : Lane) := r.queue.lane_put frame lane own
  change (({ r with queue := r.queue.put frame lane } : Receiver).frames).Perm _
  rw [accepted, Receiver.frames, Receiver.frames, lanes, lanes]
  cases r.queue.accepts with
  | false => simp
  | true =>
    cases lane with
    | priority =>
      simp only [true_and, if_true, reduceCtorEq, if_false, List.append_nil, List.append_assoc]
      exact List.Perm.append_left _ List.perm_append_comm
    | normal => simp

/-- A frame is handed out. -/
theorem counts_taken {frame : Frame} {queue : FrameQueue}
    (takes : moment.before.queue.Takes (some (frame, queue))) (handed : moment.handed = [frame])
    (after : moment.after = { queue }) (nothing : moment.accepted = [])
    (keeps : moment.cause? = none) : moment.Counts := by
  obtain ⟨frames, cause, producer⟩ := frames_of_takes takes false
  refine ⟨?_, ?_, fun gone => .inl ?_, fun waiting => ?_⟩
  · rw [handed, after, nothing, List.append_nil, frames]
    exact List.Perm.refl _
  · rw [after, keeps, Option.or_none, cause]
  · rw [after, producer] at gone
    exact gone
  · rw [after] at waiting
    contradiction

/-- Nothing but the waiting changes. -/
theorem counts_idle (queue : moment.after.queue = moment.before.queue) (none : moment.handed = [])
    (nothing : moment.accepted = []) (keeps : moment.cause? = Option.none)
    (waits : moment.after.waiting = true → moment.given = .answer .pending ∧
        moment.after.frames = [] ∧ moment.after.queue.hasProducer = true ∨
      moment.before.waiting = true) : moment.Counts := by
  refine ⟨?_, ?_, fun gone => .inl (queue ▸ gone), fun waiting => ?_⟩
  · rw [none, nothing, List.nil_append, List.append_nil, frames, frames, queue]
  · rw [queue, keeps, Option.or_none]
  · exact (waits waiting).imp id fun before => ⟨before, none⟩

theorem counts_tryNext (settled : r.waiting = false) : (Moment.mk r (.use .tryNext)).Counts := by
  have takes := r.queue.takes
  have act : r.act (.use .tryNext) = (.found r.tryNext.1, r.tryNext.2) := rfl
  cases taken : r.queue.tryDequeue with
  | some taken' =>
    obtain ⟨frame, queue⟩ := taken'
    have found : r.tryNext = (some frame, { r with queue }) := by rw [tryNext, taken]
    rw [taken] at takes
    rw [found] at act
    refine counts_taken takes ?_ ?_ rfl rfl
    · rw [Moment.handed, Moment.given, act]
      rfl
    · rw [Moment.after, act, settled]
  | none =>
    have found : r.tryNext = (none, r) := by rw [tryNext, taken]
    rw [found] at act
    refine counts_idle ?_ ?_ rfl rfl fun waiting => .inr ?_
    · rw [Moment.after, act]
    · rw [Moment.handed, Moment.given, act]
      rfl
    · rw [Moment.after, act] at waiting
      exact waiting

theorem counts_next (r : Receiver) : (Moment.mk r (.use .next)).Counts := by
  have answers := r.answers
  have act : r.act (.use .next) = (.answer r.next.1, r.next.2) := rfl
  generalize r.next = result at answers act
  cases answers with
  | frame _ takes =>
    refine counts_taken takes ?_ ?_ rfl rfl
    · rw [Moment.handed, Moment.given, act]
      rfl
    · rw [Moment.after, act]
  | ends | cutOff =>
    refine counts_idle ?_ ?_ rfl rfl fun waiting => ?_
    · rw [Moment.after, act]
    · rw [Moment.handed, Moment.given, act]
      rfl
    · rw [Moment.after, act] at waiting
      contradiction
  | waits empty _ producer =>
    refine counts_idle ?_ ?_ rfl rfl fun _ => .inl ⟨?_, ?_, ?_⟩
    · rw [Moment.after, act]
    · rw [Moment.handed, Moment.given, act]
      rfl
    · rw [Moment.given, act]
    · rw [Moment.after, act]
      exact empty
    · rw [Moment.after, act]
      exact producer

theorem Moment.counts (allowed : moment.before.Allows moment.deed) : moment.Counts := by
  obtain ⟨r, deed⟩ := moment
  have same {a b : List Frame} (eq : a = b) : a.Perm b := eq ▸ List.Perm.refl _
  cases deed with
  | use use =>
    cases use with
    | put lane frame => exact counts_put allowed lane frame
    | close cause =>
      exact ⟨same (List.append_nil _).symm, Option.orElse_eq_or .., fun gone => .inl gone,
        fun waiting => .inr ⟨waiting, rfl⟩⟩
    | tryNext =>
      have free : r.waiting = false := (Bool.or_eq_false_iff.mp allowed).1
      exact counts_tryNext free
    | next => exact counts_next r
    | giveUp => exact counts_idle rfl rfl rfl rfl nofun
  | abandon =>
    exact ⟨same (List.append_nil _).symm, (Option.or_none ..).symm, fun _ => .inr rfl,
      fun waiting => .inr ⟨waiting, rfl⟩⟩
  | leave =>
    exact ⟨same (List.append_nil _).symm, (Option.or_none ..).symm, fun gone => .inl gone, nofun⟩

/-! ### A whole life -/

namespace Life

variable {past : List Moment}

/-- The last wait, if it is still under way: nothing was handed out since, and what waits came in
since. -/
def Waited (past : List Moment) (r : Receiver) : Prop :=
  ∃ earlier wait since, past = earlier ++ wait :: since ∧ wait.given = .answer .pending ∧
    handed since = [] ∧ r.frames.Perm (accepted since) ∧
    (r.queue.hasProducer = false → ∃ moment ∈ since, moment.deed = .abandon)

/-- What the state of a queue says of all that happened to it. -/
structure Accounts (past : List Moment) (r : Receiver) : Prop where
  balance : (handed past ++ r.frames).Perm (accepted past)
  cause : r.queue.cause = (causes past).head?
  waited : r.waiting = true → Waited past r

namespace Accounts

theorem start : Accounts [] {} := ⟨List.Perm.refl _, rfl, nofun⟩

/-- One deed more. -/
theorem snoc (h : Accounts past moment.before) (counts : moment.Counts) :
    Accounts (past ++ [moment]) moment.after := by
  have handed_snoc (l : List Moment) : handed (l ++ [moment]) = handed l ++ moment.handed := by
    simp [handed]
  have accepted_snoc (l : List Moment) :
      accepted (l ++ [moment]) = accepted l ++ moment.accepted := by
    simp [accepted]
  refine ⟨?_, ?_, fun waiting => ?_⟩
  · rw [handed_snoc, accepted_snoc, List.append_assoc]
    refine (counts.frames.append_left _).trans ?_
    rw [← List.append_assoc]
    exact h.balance.append_right _
  · rw [counts.cause, h.cause, causes, causes, List.filterMap_append, List.head?_append]
    cases cause? : moment.cause? <;> simp [cause?]
  · rcases counts.waits waiting with ⟨pending, none, producer⟩ | ⟨waited, none⟩
    · refine ⟨past, moment, [], rfl, pending, rfl, ?_, fun gone => ?_⟩
      · rw [none]
        exact List.Perm.refl _
      · exact absurd (producer.symm.trans gone) Bool.true_eq_false.mp
    · obtain ⟨earlier, wait, since, split, pending, silent, frames, gone⟩ := h.waited waited
      refine ⟨earlier, wait, since ++ [moment], by rw [split]; simp, pending, ?_, ?_,
        fun lost => ?_⟩
      · rw [handed_snoc, silent, none, List.append_nil]
      · have change := counts.frames
        rw [none, List.nil_append] at change
        rw [accepted_snoc]
        exact change.trans (frames.append_right _)
      · rcases counts.producer lost with before | abandon
        · obtain ⟨moment, mem, abandon⟩ := gone before
          exact ⟨moment, List.mem_append_left _ mem, abandon⟩
        · exact ⟨moment, List.mem_append_right _ (List.mem_singleton.mpr rfl), abandon⟩

end Accounts

theorem accounts (life : Life past r) : Accounts past r := by
  induction life with
  | start => exact .start
  | @step past r _ deed allowed ih =>
    have before : Accounts past (Moment.mk r deed).before := ih
    exact before.snoc (Moment.counts allowed)

/-- A part of a life, up to one of its moments, is a life. -/
theorem before {earlier later : List Moment} (life : Life past r)
    (split : past = earlier ++ moment :: later) : Life earlier moment.before := by
  induction life generalizing later with
  | start => simp at split
  | step life deed _ ih =>
    rcases split_snoc split with ⟨rfl, rfl⟩ | ⟨rest, split⟩
    · exact life
    · exact ih split

end Life

/-! ### Errors -/

/-- An error tells the first cause, to one whose queue is empty or who is cut off. -/
theorem error_of_next {cause : Failure} (told : r.next.1 = .ready (.error cause)) :
    cause = r.queue.finalCause ∧ (r.frames = [] ∨ r.IsCutOff) := by
  have answers := r.answers
  generalize r.next = result at answers told
  cases answers with
  | frame | waits => cases told
  | ends empty =>
    cases told
    exact ⟨rfl, .inl empty⟩
  | cutOff cut =>
    cases told
    exact ⟨rfl, .inr cut⟩

theorem next_of_isCutOff (cut : r.IsCutOff) : r.next.1 = .ready (.error r.queue.finalCause) := by
  have answers := r.answers
  generalize r.next = result at answers
  cases answers with
  | frame other => exact absurd cut other
  | ends => rfl
  | cutOff => rfl
  | waits empty => exact absurd (lane_of_frames empty .normal) cut.plain

theorem IsCutOff.frames_eq (cut : r.IsCutOff) : r.frames = r.queue.lane .normal := by
  rw [frames, cut.urgent, List.nil_append]

/-- Only asking for the next frame is answered. -/
theorem Moment.told {answer : Poll (Except Failure Frame)} (given : moment.given = .answer answer) :
    moment.before.next.1 = answer := by
  obtain ⟨r, deed⟩ := moment
  cases deed with
  | use use =>
    cases use with
    | next => exact Given.answer.inj given
    | _ => contradiction
  | _ => contradiction

namespace Life

variable {past earlier later : List Moment}

/-- Whoever is told that no frame comes is told the first cause, and has got every accepted frame,
once, and both lanes are empty; unless one is cut off. Whoever is cut off is told so at the next
asking: one had waited, during the wait the last producer went away, and the frames that were
accepted during the wait are left in the normal lane. They are the only ones one did not get. -/
theorem error_after_last_frame (life : Life past r) (split : past = earlier ++ moment :: later) :
    (∀ cause, moment.given = .answer (.ready (.error cause)) →
      cause = (causes earlier).head?.getD .closed ∧
      ((∀ lane, moment.before.queue.lane lane = []) ∧ (handed earlier).Perm (accepted earlier) ∨
        moment.before.IsCutOff)) ∧
    (moment.deed = .use .next → moment.before.IsCutOff →
      (∃ cause, moment.given = .answer (.ready (.error cause))) ∧
      (handed earlier ++ moment.before.queue.lane .normal).Perm (accepted earlier) ∧
      ∃ before wait since, earlier = before ++ wait :: since ∧ wait.given = .answer .pending ∧
        (∃ event ∈ since, event.deed = .abandon) ∧ handed since = [] ∧
        (moment.before.queue.lane .normal).Perm (accepted since)) := by
  have h : Accounts earlier moment.before := (life.before split).accounts
  refine ⟨fun cause given => ?_, fun asks cut => ⟨?_, ?_, ?_⟩⟩
  · obtain ⟨rfl, found⟩ := error_of_next (Moment.told given)
    refine ⟨by rw [FrameQueue.finalCause, h.cause], found.imp_left fun empty => ?_⟩
    have balance := h.balance
    rw [empty, List.append_nil] at balance
    exact ⟨lane_of_frames empty, balance⟩
  · have given : moment.given = .answer moment.before.next.1 := by
      rw [Moment.given, asks]
      rfl
    exact ⟨_, given.trans (congrArg Given.answer (next_of_isCutOff cut))⟩
  · rw [← cut.frames_eq]
    exact h.balance
  · obtain ⟨before, wait, since, split, pending, silent, during, gone⟩ := h.waited cut.waiting
    rw [cut.frames_eq] at during
    exact ⟨before, wait, since, split, pending, gone cut.producer, silent, during⟩

/-- Two frames are put into the normal lane, and the producers go away before anybody asks: both
frames are handed out before the error. -/
theorem error_after_last_frame_of_left :
    let first : Frame := .cancel 1
    let second : Frame := .cancel 3
    ∃ past r moment, Life (past ++ [moment]) r ∧
      past.map (·.given) = [.accepted true, .accepted true, .nothing,
        .answer (.ready (.ok first)), .answer (.ready (.ok second))] ∧
      moment.given = .answer (.ready (.error .closed)) ∧ (handed past).Perm (accepted past) := by
  intro first second
  have begun := Life.start.step (.use (.put .normal first)) rfl
  have put := begun.step (.use (.put .normal second)) rfl
  have left := put.step .abandon rfl
  have emptied := (left.step (.use .next) rfl).step (.use .next) rfl
  have told := emptied.step (.use .next) rfl
  refine ⟨_, _, _, told, rfl, rfl, ?_⟩
  rcases ((error_after_last_frame told rfl).1 .closed rfl).2 with ⟨_, all⟩ | cut
  · exact all
  · exact absurd cut.waiting Bool.false_ne_true

/-- Somebody waits for a frame. One is accepted into the normal lane, and then the producers go
away. The one who waits is told that no frame comes, while the frame is still there. -/
theorem error_leaves_a_frame :
    let frame : Frame := .cancel 1
    ∃ past r, Life past r ∧
      past.map (·.deed) = [.use .next, .use (.put .normal frame), .abandon, .use .next] ∧
      past.map (·.given) = [.answer .pending, .accepted true, .nothing,
        .answer (.ready (.error .closed))] ∧
      handed past = [] ∧ r.queue.lane .normal = [frame] := by
  intro frame
  have asked := Life.start.step (.use .next) rfl
  have put := asked.step (.use (.put .normal frame)) rfl
  have told := (put.step .abandon rfl).step (.use .next) rfl
  exact ⟨_, _, told, rfl, rfl, rfl, rfl⟩

end Life

end Receiver
end StreamMux
