import StreamMux.Proofs.Endpoint.Working

/-!
# What a handler yields

A handler answers a stream with a producer: some payloads, and then the end or a failure
(`Producer.Yields`). Asking it for its next item on a stream without a consumer gives them in
their order, with pauses in between, and touches neither the connection nor the work under way.
-/
namespace StreamMux

/-- The item of an entry, unless it is a pause. -/
def Entry.item? : Entry → Option Item
  | .item x => some x
  | .pause _ => none

namespace Supply

/-- The items that a supply holds. What is handed in from outside is not there yet. -/
def items : Supply → List Item
  | entries list => list.filterMap Entry.item?
  | copies payload count => List.replicate count (.ok payload)
  | numbers next bound =>
    (List.range' next (bound - next)).map fun n => .ok (Payload.ofText (toString n))
  | feed _ => []

/-- Its items are handed in from outside. -/
def isFed : Supply → Bool
  | feed _ => true
  | _ => false

theorem next?_none {s : Supply} (h : s.next? = none) : s.items = [] := by
  cases s with
  | entries list =>
    cases list with
    | nil => rfl
    | cons e rest => contradiction
  | copies payload count =>
    cases count with
    | zero => rfl
    | succ count => contradiction
  | numbers next bound =>
    simp only [next?] at h
    split at h
    · contradiction
    next past => simp [items, show bound - next = 0 by omega]
  | feed place => rfl

/-- The next entry is taken off, and with it its item if it has one. -/
theorem next?_some {s t : Supply} {entry : Entry} (h : s.next? = some (entry, t)) :
    s.items = entry.item?.toList ++ t.items ∧ t.isFed = s.isFed := by
  cases s with
  | entries list =>
    cases list with
    | nil => contradiction
    | cons e rest =>
      cases h
      cases entry <;> exact ⟨rfl, rfl⟩
  | copies payload count =>
    cases count with
    | zero => contradiction
    | succ count =>
      cases h
      exact ⟨rfl, rfl⟩
  | numbers next bound =>
    simp only [next?] at h
    split at h
    next more =>
      cases h
      have longer : bound - next = (bound - (next + 1)) + 1 := by omega
      refine ⟨?_, rfl⟩
      rw [items, longer, List.range'_succ]
      rfl
    · contradiction
  | feed place => contradiction

end Supply

namespace Producer

/-- The items that a producer holds: its first one, and those of its source. -/
def items (p : Producer) : List Item := (p.first.map .ok).toList ++ p.tail.supply.items

/-- What stands behind the payloads: nothing, and then the source ends, or the failure. -/
def Closes (p : Producer) (rest : List Item) : Option Failure → Prop
  | none => rest = [] ∧ p.tail.endless = false
  | some e => rest.head? = some (.error e)

/-- The producer yields these payloads, and then ends, with a failure if there is one. -/
structure Yields (p : Producer) (payloads : List Payload) (failure : Option Failure) : Prop where
  own : p.tail.supply.isFed = false
  items : ∃ rest, p.items = payloads.map .ok ++ rest ∧ p.Closes rest failure

variable {p q : Producer} {payloads : List Payload} {failure : Option Failure}

/-- Payloads at hand, whichever they are. -/
theorem yields_ofItems (payloads : List Payload) :
    ({ tail := .ofItems (payloads.map .ok) } : Producer).Yields payloads none where
  own := rfl
  items := by
    have held : (payloads.map (.ok : Payload → Item)).map Entry.item =
        payloads.map fun payload => .item (.ok payload) := List.map_map
    refine ⟨[], ?_, rfl, rfl⟩
    rw [List.append_nil, Producer.items, Option.map_none, Option.toList_none, List.nil_append,
      Source.ofItems, held, Supply.items, List.filterMap_map]
    exact congrFun (List.filterMap_eq_map (f := (.ok : Payload → Item))) payloads

/-- The producer later, when nothing was taken. -/
theorem Yields.later (h : p.Yields payloads failure)
    (own : q.tail.supply.isFed = p.tail.supply.isFed) (items : q.items = p.items)
    (endless : q.tail.endless = p.tail.endless) : q.Yields payloads failure := by
  obtain ⟨rest, eq, closes⟩ := h.items
  refine ⟨own.trans h.own, rest, items.trans eq, ?_⟩
  cases failure with
  | none => exact ⟨closes.1, endless.trans closes.2⟩
  | some e => exact closes

/-- A payload comes first only if there is one. -/
theorem Yields.next_ok (h : p.Yields payloads failure)
    (own : q.tail.supply.isFed = p.tail.supply.isFed) {payload : Payload}
    (items : p.items = .ok payload :: q.items) (endless : q.tail.endless = p.tail.endless) :
    ∃ more, payloads = payload :: more ∧ q.Yields more failure := by
  obtain ⟨rest, eq, closes⟩ := h.items
  rw [items] at eq
  cases payloads with
  | nil =>
    rw [List.map_nil, List.nil_append] at eq
    subst eq
    cases failure with
    | none => exact absurd closes.1 (by simp)
    | some e => exact absurd closes (by simp [Closes])
  | cons first more =>
    rw [List.map_cons, List.cons_append, List.cons.injEq] at eq
    obtain ⟨same, eq⟩ := eq
    cases same
    refine ⟨more, rfl, own.trans h.own, rest, eq, ?_⟩
    cases failure with
    | none => exact ⟨closes.1, endless.trans closes.2⟩
    | some e => exact closes

/-- A failure comes behind all payloads. -/
theorem Yields.next_error (h : p.Yields payloads failure) {f : Failure} {more : List Item}
    (items : p.items = .error f :: more) : payloads = [] ∧ failure = some f := by
  obtain ⟨rest, eq, closes⟩ := h.items
  rw [items] at eq
  cases payloads with
  | nil =>
    rw [List.map_nil, List.nil_append] at eq
    subst eq
    cases failure with
    | none => exact absurd closes.1 (by simp)
    | some e =>
      simp only [Closes, List.head?_cons, Option.some.injEq, Except.error.injEq] at closes
      exact ⟨rfl, by rw [closes]⟩
  | cons first more => simp at eq

/-- Nothing is left. -/
theorem Yields.finished (h : p.Yields payloads failure) (items : p.items = []) :
    payloads = [] ∧ failure = none ∧ p.tail.endless = false := by
  obtain ⟨rest, eq, closes⟩ := h.items
  rw [items] at eq
  obtain ⟨none, empty⟩ := List.append_eq_nil_iff.mp eq.symm
  cases failure with
  | none => exact ⟨List.map_eq_nil_iff.mp none, rfl, closes.2⟩
  | some e => simp [Closes, empty] at closes

end Producer

/-! ### Asking a producer -/

namespace Connection

theorem commit_same (c : Connection) (i : Nat) : c.commit i (c.stream i) [] = c := by
  have streams : c.streams.setIfInBounds i (c.stream i) = c.streams := by
    apply Array.ext_getElem?
    intro j
    rw [Array.getElem?_setIfInBounds]
    split
    next same =>
      subst same
      split
      next bound => rw [getElem?_of_placed bound]
      next past => exact (Array.getElem?_eq_none (Nat.le_of_not_lt past)).symm
    · rfl
  have registry : (if (!(c.stream i).isOver && (c.stream i).isOver) = true
      then c.registry.erase (c.stream i).id else c.registry) = c.registry := by
    rw [if_neg (by simp)]
  unfold commit
  dsimp only [List.foldl_nil]
  rw [streams, registry]

end Connection

namespace Endpoint

variable {e : Endpoint} {i : Nat} {p : Producer} {payloads : List Payload}
  {failure : Option Failure}

/-- What an answer says about a producer that yields the payloads, and what is left after it. -/
def Pulled (payloads : List Payload) (failure : Option Failure) (q : Producer) : Pull → Prop
  | .item (.ok payload) => ∃ more, payloads = payload :: more ∧ q.Yields more failure
  | .item (.error f) => payloads = [] ∧ failure = some f
  | .ended => payloads = [] ∧ failure = none
  | .waiting | .again => q.Yields payloads failure

theorem pullSource_yields (h : p.Yields payloads failure) (none : p.first = none) :
    Pulled payloads failure { p with tail := (e.pullSource p.tail).2.1 }
      (e.pullSource p.tail).1 := by
  have held : p.items = p.tail.supply.items := by simp [Producer.items, none]
  have mine := h.own
  unfold pullSource
  split
  · unfold pullSupply
    split
    next place fed => simp [fed, Supply.isFed] at mine
    · split
      next x rest next =>
        obtain ⟨eq, own⟩ := Supply.next?_some next
        have eq : p.items = x :: rest.items := held.trans eq
        cases x with
        | ok payload =>
          exact h.next_ok own (by rw [eq]; simp [Producer.items, none]) rfl
        | error f => exact h.next_error eq
      next time rest next =>
        obtain ⟨eq, own⟩ := Supply.next?_some next
        have later (source : Source) (supply : source.supply = rest)
            (endless : source.endless = p.tail.endless) :
            Producer.Yields { p with tail := source } payloads failure := by
          refine h.later (by rw [supply, own]) ?_ endless
          rw [held, eq]
          simp [Producer.items, none, supply, Entry.item?]
        split
        · exact later _ rfl rfl
        · exact later _ rfl rfl
      next empty =>
        obtain ⟨all, ends, finite⟩ := h.finished (held.trans (Supply.next?_none empty))
        rw [finite, if_neg Bool.false_ne_true]
        exact ⟨all, ends⟩
  · split
    · exact h.later rfl rfl rfl
    · exact h

theorem pull_first {payload : Payload} (h : p.Yields payloads failure)
    (first : p.first = some payload) :
    Pulled payloads failure { p with first := none } (.item (.ok payload)) := by
  have taken : p.items = .ok payload :: Producer.items { p with first := none } := by
    simp [Producer.items, first]
  exact h.next_ok (q := { p with first := none }) rfl taken rfl

/-- Asking a producer that refuses the items of the peer. -/
theorem pull_refuses (h : p.Yields payloads failure) (refuses : p.intake = .none) :
    Pulled payloads failure (e.pull i p).2.1 (e.pull i p).1 := by
  unfold pull
  split
  next payload first => exact pull_first h first
  next first =>
    split
    · exact pullSource_yields h first
    · exact pullSource_yields h first
    · exact pullSource_yields h first
    all_goals simp_all

theorem pullInbound_none (none : (e.connection.stream i).consumer = none) (reports : Bool) :
    e.pullInbound i reports = (.ready .none, e) := by
  unfold pullInbound Connection.pollItem Exchange.poll
  rw [none]
  dsimp only
  rw [Connection.commit_same]

theorem dropInbound_none (none : (e.connection.stream i).consumer = none) :
    e.dropInbound i = e := by
  have dropped : e.connection.stepWriting i Exchange.dropConsumer = e.connection := by
    unfold Connection.stepWriting Exchange.dropConsumer
    rw [none]
    exact Connection.commit_same _ _
  rw [dropInbound, mapConnection, dropped]

/-- Asking a producer on a stream without a consumer. -/
theorem pull_yields (h : p.Yields payloads failure)
    (none : (e.connection.stream i).consumer = none) :
    e.Still (e.pull i p).2.2 ∧ Pulled payloads failure (e.pull i p).2.1 (e.pull i p).1 := by
  have finished (f : Endpoint) (still : e.Still f) :
      e.Still (f.finishIntake i p).2.2 ∧
        Pulled payloads failure (f.finishIntake i p).2.1 (f.finishIntake i p).1 := by
    unfold finishIntake
    rw [dropInbound_none (by rw [still.connection]; exact none)]
    exact ⟨still, h.later rfl rfl rfl⟩
  unfold pull
  split
  next payload first => exact ⟨.refl e, pull_first h first⟩
  next first =>
    split
    · exact ⟨(pullSource_rests e _).toStill, pullSource_yields h first⟩
    · exact ⟨(pullSource_rests e _).toStill, pullSource_yields h first⟩
    · exact ⟨(pullSource_rests e _).toStill, pullSource_yields h first⟩
    · exact finished e (.refl e)
    · rw [pullInbound_none none]
      exact finished e (.refl e)
    · rw [pullInbound_none none]
      exact finished _ ⟨rfl, rfl, rfl, rfl, rfl⟩

end Endpoint
end StreamMux
