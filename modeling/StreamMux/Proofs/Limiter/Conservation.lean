import StreamMux.Limiter.Askers
import StreamMux.Proofs.Trace

/-!
# Credit is neither lost nor made

A limiter is granted credit, asked for it and cancelled in any order, by one asker at a time
(`Run`). What it grants out and what it has left is what it was granted (`Accounts`), and an asker
that could be answered was told so (`Waits`). Both are kept by each use, and so hold after any
number of uses.

Source: `Limiter.grant`, `Limiter.acquire`, `Limiter.cancel`, `Askers.ask`, `Askers.drop`.
-/
namespace StreamMux

/-! ### One use of a limiter -/

namespace Limiter

/-- What asking comes to: the answer, and what is left. -/
inductive Acquires (l : Limiter) : Poll (Except Failure Unit) × Limiter → Prop
  | refused (cancelled : l.cancelled = true) : Acquires l (.ready (.error .cancelled), l)
  | unlimited (live : l.cancelled = false) (unbounded : l.unbounded = true) :
      Acquires l (.ready (.ok ()), l)
  | spends (live : l.cancelled = false) (bounded : l.unbounded = false) (some : 0 < l.credit) :
      Acquires l (.ready (.ok ()), { l with credit := l.credit - 1 })
  | parks (undecided : l.isDecided = false) : Acquires l (.pending, { l with parked := true })

/-- What a grant comes to. -/
inductive Grants (l : Limiter) (n : Nat) : Limiter → Prop
  | nothing (none : n = 0 ∨ l.cancelled = true) : Grants l n l
  | kept (some : n ≠ 0) (live : l.cancelled = false) (unbounded : l.unbounded = true) :
      Grants l n { l with parked := false }
  | fills (some : n ≠ 0) (live : l.cancelled = false) (bounded : l.unbounded = false)
      (full : maxRequestN.toNat ≤ l.credit + n) :
      Grants l n { l with unbounded := true, credit := maxRequestN.toNat, parked := false }
  | adds (some : n ≠ 0) (live : l.cancelled = false) (bounded : l.unbounded = false)
      (room : l.credit + n < maxRequestN.toNat) :
      Grants l n { l with credit := l.credit + n, parked := false }

theorem acquires (l : Limiter) : l.Acquires l.acquire := by
  unfold acquire
  split
  next cancelled => exact .refused cancelled
  next live =>
    have live : l.cancelled = false := by simpa using live
    split
    next unbounded => exact .unlimited live unbounded
    next bounded =>
      have bounded : l.unbounded = false := by simpa using bounded
      split
      next some => exact .spends live bounded some
      next none => exact .parks (by simp [isDecided, live, bounded, none])

theorem grants (l : Limiter) (n : Nat) : l.Grants n (l.grant n) := by
  unfold grant add
  split
  next none => exact .nothing none
  next goes =>
    obtain ⟨some, live⟩ : n ≠ 0 ∧ l.cancelled = false := by simpa using goes
    split
    next unbounded => exact .kept some live unbounded
    next bounded =>
      have bounded : l.unbounded = false := by simpa using bounded
      split
      next full => exact .fills some live bounded full
      next room => exact .adds some live bounded (Nat.lt_of_not_le room)

/-- The first credit is a grant to a limiter that has none. -/
theorem new_cases (initial : Nat) :
    (maxRequestN.toNat ≤ initial ∧
      new initial = { credit := maxRequestN.toNat, unbounded := true }) ∨
    (initial < maxRequestN.toNat ∧ new initial = { credit := initial }) := by
  unfold new add
  rw [if_neg Bool.false_ne_true, Nat.zero_add]
  split
  next full => exact .inl ⟨full, rfl⟩
  next room => exact .inr ⟨Nat.lt_of_not_le room, rfl⟩

theorem parked_new (initial : Nat) : (new initial).parked = false := by
  rcases new_cases initial with ⟨_, eq⟩ | ⟨_, eq⟩
  · rw [eq]
  · rw [eq]

theorem parked_of_pending {l m : Limiter} (told : l.acquire = (.pending, m)) : m.parked = true := by
  have acquires := l.acquires
  rw [told] at acquires
  cases acquires
  rfl

theorem parked_of_ready {l m : Limiter} {answer : Except Failure Unit}
    (told : l.acquire = (.ready answer, m)) : m.parked = l.parked := by
  have acquires := l.acquires
  rw [told] at acquires
  cases acquires
  · rfl
  · rfl
  · rfl

end Limiter

namespace Askers

/-! ### A limiter in use -/

/-- Something that was done, with the answer if a credit was asked for. -/
inductive Event where
  | granted (n : Nat)
  | cancelled
  | asked (name : String) (answer : Poll (Except Failure Unit))
  | dropped (name : String)

/-- A limiter with its first credit, and all that was done with it since. An asker may ask again as
often as it likes and go away at any time, but nobody else asks as long as it waits. One that has
not asked yet is not known to the limiter. -/
inductive Run (initial : Nat) : List Event → Askers → Prop
  | start : Run initial [] { limiter := .new initial }
  | grant {past : List Event} {a : Askers} (run : Run initial past a) (n : Nat) :
      Run initial (past ++ [.granted n]) { a with limiter := a.limiter.grant n }
  | cancel {past : List Event} {a : Askers} (run : Run initial past a) :
      Run initial (past ++ [.cancelled]) { a with limiter := a.limiter.cancel }
  | ask {past : List Event} {a : Askers} (run : Run initial past a) (name : String)
      (alone : ∀ other ∈ a.waiting, other = name) :
      Run initial (past ++ [.asked name (a.ask name).1]) (a.ask name).2
  | drop {past : List Event} {a : Askers} (run : Run initial past a) (name : String) :
      Run initial (past ++ [.dropped name]) (a.drop name)

/-- All that was granted before the limiter was cancelled. -/
def granted : List Event → Nat
  | [] => 0
  | .granted n :: later => n + granted later
  | .cancelled :: _ => 0
  | .asked .. :: later | .dropped _ :: later => granted later

/-- An asker got its credit. -/
def Event.isAnswer : Event → Bool
  | .asked _ (.ready (.ok _)) => true
  | _ => false

/-- How many askers got their credit. -/
def answered (past : List Event) : Nat := past.countP (·.isAnswer)

/-- The credit outstanding was at some point the largest, with no cancellation before. -/
def Reached (initial : Nat) (past : List Event) : Prop :=
  ∃ before after, past = before ++ after ∧ .cancelled ∉ before ∧
    maxRequestN.toNat + answered before ≤ initial + granted before

/-- Since the asker asked last, credit was granted or the limiter was cancelled. -/
def wokenSince (name : String) (past : List Event) : Bool :=
  past.foldl (fun woken event =>
    match event with
    | .granted n => woken || n != 0
    | .cancelled => true
    | .asked other _ => if other = name then false else woken
    | .dropped _ => woken) false

variable {initial : Nat} {past : List Event} {a : Askers} {name : String}

theorem granted_append_of_cancelled (h : .cancelled ∈ past) (later : List Event) :
    granted (past ++ later) = granted past := by
  induction past with
  | nil => simp at h
  | cons event past ih => cases event <;> simp_all [granted]

theorem granted_append (h : .cancelled ∉ past) (later : List Event) :
    granted (past ++ later) = granted past + granted later := by
  induction past with
  | nil => simp [granted]
  | cons event past ih =>
    rw [List.mem_cons, not_or] at h
    cases event <;> simp_all [granted, Nat.add_assoc]

@[simp] theorem answered_append (past later : List Event) :
    answered (past ++ later) = answered past + answered later :=
  List.countP_append

theorem wokenSince_snoc (name : String) (past : List Event) (event : Event) :
    wokenSince name (past ++ [event]) =
      match event with
      | .granted n => wokenSince name past || n != 0
      | .cancelled => true
      | .asked other _ => if other = name then false else wokenSince name past
      | .dropped _ => wokenSince name past := by
  simp only [wokenSince, List.foldl_append, List.foldl_cons, List.foldl_nil]

/-- It was so before the last event, or is so after it. -/
theorem Reached.last {event : Event} (h : Reached initial (past ++ [event])) :
    Reached initial past ∨ .cancelled ∉ past ++ [event] ∧
      maxRequestN.toNat + answered (past ++ [event]) ≤ initial + granted (past ++ [event]) := by
  obtain ⟨before, after, eq, live, full⟩ := h
  rcases List.prefix_concat_iff.mp ⟨after, eq.symm⟩ with rfl | ⟨rest, earlier⟩
  · exact .inr ⟨live, full⟩
  · exact .inl ⟨before, rest, earlier.symm, live, full⟩

theorem Reached.append (h : Reached initial past) (later : List Event) :
    Reached initial (past ++ later) := by
  obtain ⟨before, after, rfl, live, full⟩ := h
  exact ⟨before, after ++ later, List.append_assoc .., live, full⟩

/-! ### The account -/

/-- What the state of a limiter says of all that was done with it. -/
structure Accounts (initial : Nat) (past : List Event) (l : Limiter) : Prop where
  cancelled : l.cancelled = true ↔ .cancelled ∈ past
  balance : l.unbounded = false → answered past + l.credit = initial + granted past
  room : l.unbounded = false → l.credit < maxRequestN.toNat
  unbounded : l.unbounded = true ↔ Reached initial past
  /-- Nobody is parked who could be answered. -/
  asleep : l.parked = true → l.isDecided = false
  refused : ∀ before after name answer, past = before ++ .asked name answer :: after →
    .cancelled ∈ before → answer = .ready (.error .cancelled)

namespace Accounts

variable {l : Limiter}

theorem start (initial : Nat) : Accounts initial [] (.new initial) := by
  have none (h : Reached initial []) : maxRequestN.toNat ≤ initial := by
    obtain ⟨before, after, eq, _, full⟩ := h
    obtain ⟨rfl, rfl⟩ := List.append_eq_nil_iff.mp eq.symm
    simpa [answered, granted] using full
  rcases Limiter.new_cases initial with ⟨full, eq⟩ | ⟨room, eq⟩
  · rw [eq]
    have reached : Reached initial [] :=
      ⟨[], [], rfl, by simp, by simpa [answered, granted] using full⟩
    exact ⟨by simp, by simp, by simp, by simp [reached], by simp, by simp⟩
  · rw [eq]
    refine ⟨by simp, by simp [answered, granted], fun _ => room, ?_, by simp, by simp⟩
    constructor
    · intro unbounded
      contradiction
    · intro reached
      have full := none reached
      omega

/-- What a grant adds, as the state tells it. -/
theorem granted_snoc (h : Accounts initial past l) (event : Event) :
    granted (past ++ [event]) = granted past + if l.cancelled then 0 else granted [event] := by
  cases cancelled : l.cancelled with
  | true => rw [granted_append_of_cancelled (h.cancelled.mp cancelled), if_pos rfl, Nat.add_zero]
  | false =>
    have live : .cancelled ∉ past := fun member => by simp [h.cancelled.mpr member] at cancelled
    rw [granted_append live, if_neg Bool.false_ne_true]

/-- One event more. It leaves the account right if what it takes and what it leaves is what there
was, and if credit becomes unlimited only where it reaches the largest. -/
theorem snoc {event : Event} {l' : Limiter} (h : Accounts initial past l)
    (cancelled : l'.cancelled = true ↔ l.cancelled = true ∨ event = .cancelled)
    (stays : l.unbounded = true → l'.unbounded = true)
    (balance : l'.unbounded = false → answered [event] + l'.credit =
      l.credit + if l.cancelled then 0 else granted [event])
    (room : l'.unbounded = false → l'.credit < maxRequestN.toNat)
    (filled : l.unbounded = false → l'.unbounded = true → l.cancelled = false ∧
      event ≠ .cancelled ∧ maxRequestN.toNat + answered [event] ≤ l.credit + granted [event])
    (asleep : l'.parked = true → l'.isDecided = false)
    (refused : ∀ name answer, event = .asked name answer → l.cancelled = true →
      answer = .ready (.error .cancelled)) :
    Accounts initial (past ++ [event]) l' := by
  have total := h.granted_snoc event
  have counted := answered_append past [event]
  have bounded (limit : l'.unbounded = false) : l.unbounded = false :=
    Bool.eq_false_iff.mpr fun unbounded => by simp [stays unbounded] at limit
  have balanced (limit : l'.unbounded = false) :
      answered (past ++ [event]) + l'.credit = initial + granted (past ++ [event]) := by
    have before := h.balance (bounded limit)
    have now := balance limit
    omega
  refine ⟨?_, balanced, room, ⟨fun unlimited => ?_, fun reached => ?_⟩, asleep, ?_⟩
  · rw [cancelled, h.cancelled, List.mem_append, List.mem_singleton, eq_comm (a := event)]
  · cases limit : l.unbounded with
    | true => exact (h.unbounded.mp limit).append _
    | false =>
      obtain ⟨live, other, full⟩ := filled limit unlimited
      have before := h.balance limit
      have fresh : .cancelled ∉ past := fun member => by simp [h.cancelled.mpr member] at live
      rw [if_neg (by simp [live])] at total
      exact ⟨_, [], (List.append_nil _).symm, by simp [fresh, Ne.symm other], by omega⟩
  · refine Bool.of_not_eq_false fun limit => ?_
    rcases reached.last with old | ⟨_, full⟩
    · rw [h.unbounded.mpr old] at bounded
      exact absurd (bounded limit) (by simp)
    · have now := balanced limit
      have room := room limit
      omega
  · intro before after name answer split member
    rcases split_snoc split with ⟨rfl, same⟩ | ⟨rest, earlier⟩
    · exact refused name answer same.symm (h.cancelled.mpr member)
    · exact h.refused before rest name answer earlier member

/-- Credit is granted. -/
theorem grant (h : Accounts initial past l) (n : Nat) :
    Accounts initial (past ++ [.granted n]) (l.grant n) := by
  have amount : granted [.granted n] = n := by simp [granted]
  have none : answered [.granted n] = 0 := rfl
  have grants := l.grants n
  generalize l.grant n = l' at grants ⊢
  cases grants with
  | nothing nothing =>
    refine h.snoc (by simp) id (fun _ => ?_) h.room (by simp_all) h.asleep (by simp)
    rcases nothing with rfl | cancelled
    · simp [none, amount]
    · simp [none, cancelled]
  | kept some live unbounded =>
    exact h.snoc (by simp) id (by simp [unbounded]) (by simp [unbounded]) (by simp [unbounded])
      (by simp) (by simp)
  | fills some live bounded full =>
    exact h.snoc (by simp) (by simp) (by simp) (by simp) (by simp [live, none, amount, full])
      (by simp) (by simp)
  | adds some live bounded room =>
    exact h.snoc (by simp) id (by simp [live, none, amount]) (fun _ => room) (by simp [bounded])
      (by simp) (by simp)

/-- The limiter is cancelled. -/
theorem cancel (h : Accounts initial past l) :
    Accounts initial (past ++ [.cancelled]) l.cancel := by
  refine h.snoc (by simp [Limiter.cancel]) id (fun _ => ?_) h.room (fun limit unbounded => ?_)
    (by simp [Limiter.cancel]) (by simp)
  · simp [Limiter.cancel, granted, answered, Event.isAnswer]
  · simp [Limiter.cancel, limit] at unbounded

/-- Somebody asks, and is not parked. -/
theorem acquire (h : Accounts initial past l) (name : String) :
    Accounts initial (past ++ [.asked name l.acquire.1]) l.acquire.2 := by
  have nothing (answer : Poll (Except Failure Unit)) : granted [.asked name answer] = 0 := rfl
  have acquires := l.acquires
  generalize l.acquire = result at acquires ⊢
  cases acquires with
  | refused cancelled =>
    exact h.snoc (by simp) id (by simp [nothing, answered, Event.isAnswer]) h.room (by simp_all)
      h.asleep (by simp)
  | unlimited live unbounded =>
    exact h.snoc (by simp) id (by simp [unbounded]) h.room (by simp [unbounded]) h.asleep
      (by simp [live])
  | spends live bounded some =>
    refine h.snoc (by simp) id (fun _ => ?_) (fun _ => ?_) (by simp [bounded]) (fun parked => ?_)
      (by simp [live])
    · rw [nothing, ite_self]
      exact Nat.add_sub_cancel' some
    · exact Nat.lt_of_le_of_lt (Nat.sub_le _ _) (h.room bounded)
    · have undecided := h.asleep parked
      simp [Limiter.isDecided, some] at undecided
  | parks undecided =>
    exact h.snoc (by simp) id (by simp [nothing, answered, Event.isAnswer]) h.room (by simp_all)
      (fun _ => undecided) (by simp_all [Limiter.isDecided])

/-- Who is parked asks again, or somebody goes away: the credit is as it was. -/
theorem idle {event : Event} {l' : Limiter} (h : Accounts initial past l)
    (kept : l'.credit = l.credit ∧ l'.unbounded = l.unbounded ∧ l'.cancelled = l.cancelled)
    (asleep : l'.parked = true → l.parked = true)
    (idle : event = .dropped name ∨ event = .asked name .pending ∧ l.parked = true) :
    Accounts initial (past ++ [event]) l' := by
  obtain ⟨credit, unbounded, cancelled⟩ := kept
  have other : event ≠ .cancelled := by rcases idle with rfl | ⟨rfl, _⟩ <;> simp
  have nothing : granted [event] = 0 := by rcases idle with rfl | ⟨rfl, _⟩ <;> rfl
  have none : answered [event] = 0 := by rcases idle with rfl | ⟨rfl, _⟩ <;> rfl
  refine h.snoc (by simp [cancelled, other]) (by simp [unbounded]) (by simp [credit, nothing, none])
    (by simpa [unbounded, credit] using h.room) (by simp_all) (fun parked => ?_) ?_
  · have undecided := h.asleep (asleep parked)
    simpa [Limiter.isDecided, credit, unbounded, cancelled] using undecided
  · rintro name answer rfl cancelled
    rcases idle with same | ⟨_, parked⟩
    · contradiction
    · have undecided := h.asleep parked
      simp [Limiter.isDecided, cancelled] at undecided

end Accounts

/-! ### The asker -/

/-- Who waits for an answer: nobody, or one who was woken or is parked. -/
inductive Waits (past : List Event) (a : Askers) : Prop
  | nobody (none : a.waiting = []) (awake : a.limiter.parked = false)
  | one (name : String) (only : a.waiting = [name]) (last : a.parked = some name)
      (told : a.limiter.parked = !wokenSince name past)

/-- What asking comes to for one who may ask: who is parked stays so, anybody else is parked or gets
an answer. -/
inductive Asks (a : Askers) (name : String) : Poll (Except Failure Unit) × Askers → Prop
  | stays (parked : a.limiter.parked = true) (only : a.waiting = [name])
      (last : a.parked = some name) : Asks a name (.pending, a)
  | parks {limiter : Limiter} (told : a.limiter.acquire = (.pending, limiter)) :
      Asks a name (.pending, { limiter, parked := some name, waiting := [name] })
  | gets {answer : Except Failure Unit} {limiter : Limiter}
      (told : a.limiter.acquire = (.ready answer, limiter)) (awake : a.limiter.parked = false) :
      Asks a name (.ready answer, { a with limiter, waiting := [] })

theorem Waits.asks (h : Waits past a) (alone : ∀ other ∈ a.waiting, other = name) :
    a.Asks name (a.ask name) := by
  have same (awake : a.limiter.parked = false) :
      { a.limiter with parked := false } = a.limiter := by
    rw [← awake]
  cases h with
  | nobody none awake =>
    unfold ask
    rw [none, same awake]
    rcases told : a.limiter.acquire with ⟨_ | answer, limiter⟩
    · exact .parks told
    · exact .gets told awake
  | one own only last _ =>
    obtain rfl : own = name := alone own (by simp [only])
    cases parked : a.limiter.parked with
    | true =>
      have stays : a.ask own = (.pending, a) := by
        obtain ⟨limiter, name, waiting⟩ := a
        simp_all [ask, isParked, Limiter.resume]
      rw [stays]
      exact .stays parked only last
    | false =>
      unfold ask isParked
      rw [only, parked, same parked, Bool.false_and]
      dsimp only
      rw [Bool.and_false, if_neg Bool.false_ne_true]
      rcases told : a.limiter.acquire with ⟨_ | answer, limiter⟩
      · simpa using Asks.parks told
      · simpa using Asks.gets told parked

/-- Credit, or the end of it, reaches the one who waits. -/
theorem Waits.grant (h : Waits past a) (accounts : Accounts initial past a.limiter) (n : Nat) :
    Waits (past ++ [.granted n]) { a with limiter := a.limiter.grant n } := by
  have grants := a.limiter.grants n
  generalize a.limiter.grant n = limiter at grants ⊢
  cases h with
  | nobody none awake =>
    refine .nobody none ?_
    cases grants with
    | nothing _ => exact awake
    | kept | fills | adds => rfl
  | one name only last told =>
    refine .one name only last ?_
    rw [wokenSince_snoc]
    cases grants with
    | nothing nothing =>
      rcases nothing with rfl | cancelled
      · simpa using told
      · have awake : a.limiter.parked = false := Bool.eq_false_iff.mpr fun parked => by
          have undecided := accounts.asleep parked
          simp [Limiter.isDecided, cancelled] at undecided
        rw [awake] at told ⊢
        simp [← told]
    | kept some => simp [some]
    | fills some => simp [some]
    | adds some => simp [some]

/-- The credit is the same when an asker has gone. -/
theorem drop_keeps (a : Askers) (name : String) :
    (a.drop name).limiter.credit = a.limiter.credit ∧
      (a.drop name).limiter.unbounded = a.limiter.unbounded ∧
      (a.drop name).limiter.cancelled = a.limiter.cancelled ∧
      ((a.drop name).limiter.parked = true → a.limiter.parked = true) := by
  unfold Askers.drop
  dsimp only
  split
  · exact ⟨rfl, rfl, rfl, fun parked => by cases parked⟩
  · exact ⟨rfl, rfl, rfl, id⟩

theorem Waits.drop (h : Waits past a) (name : String) :
    Waits (past ++ [.dropped name]) (a.drop name) := by
  obtain ⟨_, _, _, parked⟩ := a.drop_keeps name
  cases h with
  | nobody none awake =>
    refine .nobody (by simp [Askers.drop, none]) ?_
    exact Bool.eq_false_iff.mpr fun still => by simp [parked still] at awake
  | one own only last told =>
    by_cases gone : own = name
    · subst gone
      exact .nobody (by simp [Askers.drop, only]) (by simp [Askers.drop, last, Limiter.abandon])
    · refine .one own (by simp [Askers.drop, only, gone]) last ?_
      rw [wokenSince_snoc]
      simpa [Askers.drop, last, gone] using told

/-- What holds after any number of uses. -/
theorem Run.holds (run : Run initial past a) :
    Accounts initial past a.limiter ∧ Waits past a := by
  induction run with
  | start => exact ⟨.start initial, .nobody rfl (Limiter.parked_new initial)⟩
  | grant run n ih => exact ⟨ih.1.grant n, ih.2.grant ih.1 n⟩
  | cancel run ih =>
    refine ⟨ih.1.cancel, ?_⟩
    cases ih.2 with
    | nobody none awake => exact .nobody none rfl
    | one name only last told => exact .one name only last (by rw [wokenSince_snoc]; rfl)
  | @ask past a run name alone ih =>
    have account := ih.1.acquire name
    have asks := ih.2.asks alone
    generalize a.ask name = result at asks ⊢
    cases asks with
    | stays parked only last =>
      refine ⟨ih.1.idle ⟨rfl, rfl, rfl⟩ id (.inr ⟨rfl, parked⟩), .one name only last ?_⟩
      simp [parked, wokenSince_snoc]
    | parks told =>
      rw [told] at account
      refine ⟨account, .one name rfl rfl ?_⟩
      simp [Limiter.parked_of_pending told, wokenSince_snoc]
    | gets told awake =>
      rw [told] at account
      exact ⟨account, .nobody rfl ((Limiter.parked_of_ready told).trans awake)⟩
  | @drop past a run name ih =>
    obtain ⟨credit, unbounded, cancelled, parked⟩ := a.drop_keeps name
    exact ⟨ih.1.idle ⟨credit, unbounded, cancelled⟩ parked (.inl rfl), ih.2.drop name⟩

/-- Whatever is done with a limiter, in any order, as long as one asker waits at a time.

* Demand is unlimited if and only if the credit outstanding reached the largest before the limiter
  was cancelled. As long as it is not, what was given out and what is left is what was granted
  before the cancellation, and less than the largest is left.
* After a cancellation every asker is refused, also one that was woken before.
* An asker that goes away, woken or not, leaves the credit as it is.
* Who waits although there is something to be told was woken since it asked last. -/
theorem credit_conserved (run : Run initial past a) :
    (a.limiter.unbounded = true ↔ Reached initial past) ∧
    (a.limiter.unbounded = false → answered past + a.limiter.credit = initial + granted past ∧
      a.limiter.credit < maxRequestN.toNat) ∧
    (∀ before after name answer, past = before ++ .asked name answer :: after →
      .cancelled ∈ before → answer = .ready (.error .cancelled)) ∧
    (∀ name, (a.drop name).limiter.credit = a.limiter.credit ∧
      (a.drop name).limiter.unbounded = a.limiter.unbounded ∧
      (a.drop name).limiter.cancelled = a.limiter.cancelled) ∧
    (∀ name ∈ a.waiting, (name ∈ a.woken ↔ wokenSince name past = true) ∧
      (a.limiter.isDecided = true → name ∈ a.woken)) := by
  obtain ⟨accounts, waits⟩ := run.holds
  refine ⟨accounts.unbounded, fun bounded => ⟨accounts.balance bounded, accounts.room bounded⟩,
    accounts.refused, fun name => ?_, fun name member => ?_⟩
  · obtain ⟨credit, unbounded, cancelled, _⟩ := a.drop_keeps name
    exact ⟨credit, unbounded, cancelled⟩
  · cases waits with
    | nobody none awake => simp [none] at member
    | one own only last told =>
      obtain rfl : name = own := by simpa [only] using member
      have woken : name ∈ a.woken ↔ a.limiter.parked = false := by
        simp [Askers.woken, isParked, only, last]
      refine ⟨by rw [woken, told]; simp, fun decided => woken.mpr ?_⟩
      exact Bool.eq_false_iff.mpr fun parked => by simp [accounts.asleep parked] at decided

/-- An asker waits, is woken by a grant, and does not get its credit any more when the limiter is
cancelled before it asks again. -/
theorem credit_conserved_of_woken :
    let waiting := (({ limiter := .new 1 } : Askers).ask "first").2
    let asking := (waiting.ask "second").2
    let woken : Askers := { asking with limiter := asking.limiter.grant 2 }
    let ended : Askers := { woken with limiter := woken.limiter.cancel }
    asking.waiting = ["second"] ∧ asking.limiter.isDecided = false ∧ "second" ∈ woken.woken ∧
      1 + woken.limiter.credit = 1 + 2 ∧ (ended.ask "second").1 = .ready (.error .cancelled) := by
  intro waiting asking woken ended
  have first : Run 1 [.asked "first" (.ready (.ok ()))] waiting := .ask .start "first" (by simp)
  have second : Run 1 [.asked "first" (.ready (.ok ())), .asked "second" .pending] asking :=
    first.ask "second" (by decide)
  have granted : Run 1 _ woken := second.grant 2
  have last := (granted.cancel).ask "second" (by decide)
  have law := credit_conserved granted
  exact ⟨by decide, by decide, (law.2.2.2.2 "second" (by decide)).2 (by decide),
    (law.2.1 (by decide)).1, (credit_conserved last).2.2.1 _ [] "second" _ rfl (by simp)⟩

end Askers
end StreamMux
