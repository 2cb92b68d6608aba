import StreamMux.Proofs.Frame.RoundTrip
import StreamMux.StreamId

/-!
# Where the search for an id ends

An allocator goes around the numbers of 31 bits in steps of two, and stops at the first that is
neither 0 nor in use (`searched`). The way leads through every number of the counter's parity and
then repeats itself (`exists_ahead`, `ahead_around`). So a search that nothing bounds ends exactly
if some id of this parity is free (`finds_iff_free`), and the bound of `next?` cuts nothing off
(`next?_eq_some_iff`).

Source: `StreamIds.search`, `StreamIds.next?`, `maskId`.
-/
namespace StreamMux

theorem toNat_maskId (n : UInt32) : (maskId n).toNat = n.toNat % 2 ^ 31 := by
  rw [maskId, UInt32.toNat_and]
  exact Nat.and_two_pow_sub_one_eq_mod n.toNat 31

namespace StreamIds

variable {inUse : UInt32 → Bool} {counter id : UInt32} {ids : StreamIds} {limit steps : Nat}

/-! ### The way around -/

/-- A counter after so many steps. -/
def advance (counter : UInt32) (steps : Nat) : UInt32 := UInt32.ofNat (counter.toNat + 2 * steps)

/-- The id that so many steps lead to. -/
def ahead (counter : UInt32) (steps : Nat) : UInt32 :=
  UInt32.ofNat ((counter.toNat + 2 * steps) % 2 ^ 31)

theorem toNat_advance (counter : UInt32) (steps : Nat) :
    (advance counter steps).toNat = (counter.toNat + 2 * steps) % 2 ^ 32 := by
  rw [advance, UInt32.toNat_ofNat']

theorem toNat_ahead (counter : UInt32) (steps : Nat) :
    (ahead counter steps).toNat = (counter.toNat + 2 * steps) % 2 ^ 31 := by
  rw [ahead, UInt32.toNat_ofNat']
  omega

theorem advance_one (counter : UInt32) : advance counter 1 = counter + 2 := by
  rw [← UInt32.toNat_inj, toNat_advance, UInt32.toNat_add]
  rfl

theorem advance_succ (counter : UInt32) (steps : Nat) :
    advance counter (steps + 1) = advance (counter + 2) steps := by
  rw [← advance_one, ← UInt32.toNat_inj, toNat_advance, toNat_advance, toNat_advance]
  omega

theorem ahead_succ (counter : UInt32) (steps : Nat) :
    ahead counter (steps + 1) = ahead (counter + 2) steps := by
  rw [← advance_one, ← UInt32.toNat_inj, toNat_ahead, toNat_ahead, toNat_advance]
  omega

theorem maskId_advance (counter : UInt32) (steps : Nat) :
    maskId (advance counter steps) = ahead counter steps := by
  rw [← UInt32.toNat_inj, toNat_maskId, toNat_advance, toNat_ahead]
  omega

theorem maskId_next (counter : UInt32) : maskId (counter + 2) = ahead counter 1 := by
  rw [← advance_one, maskId_advance]

theorem parity_ahead (counter : UInt32) (steps : Nat) :
    (ahead counter steps).toNat % 2 = counter.toNat % 2 := by
  rw [toNat_ahead]
  omega

/-- Once around, the same ids come again. -/
theorem ahead_around (counter : UInt32) (steps : Nat) :
    ahead counter (steps + 2 ^ 30) = ahead counter steps := by
  rw [← UInt32.toNat_inj, toNat_ahead, toNat_ahead]
  omega

theorem isStreamId_ahead (nonzero : ahead counter steps ≠ 0) :
    IsStreamId (ahead counter steps) := by
  rw [isStreamId_iff_lt, toNat_ahead]
  exact ⟨nonzero, Nat.mod_lt _ (by decide)⟩

/-- Within one round the way leads to every id of the counter's parity. -/
theorem exists_ahead (stream : IsStreamId id) (parity : id.toNat % 2 = counter.toNat % 2) :
    ∃ steps, 1 ≤ steps ∧ steps ≤ 2 ^ 30 ∧ ahead counter steps = id := by
  have size := counter.toNat_lt
  obtain ⟨_, small⟩ := (isStreamId_iff_lt id).mp stream
  -- The way from the counter to the id, around the end of the 31 bits if need be.
  refine ⟨(id.toNat + 2 ^ 31 - 1 - counter.toNat % 2 ^ 31) % 2 ^ 31 / 2 + 1, by omega, by omega, ?_⟩
  rw [← UInt32.toNat_inj, toNat_ahead]
  omega

/-! ### A search with a bound -/

/-- The id can be given out. -/
def IsFree (inUse : UInt32 → Bool) (id : UInt32) : Prop := id ≠ 0 ∧ inUse id = false

/-- The first id on the way that can be given out is so many steps away. -/
structure FirstFree (inUse : UInt32 → Bool) (counter : UInt32) (steps : Nat) : Prop where
  some : 1 ≤ steps
  free : IsFree inUse (ahead counter steps)
  first : ∀ earlier, 1 ≤ earlier → earlier < steps → ¬ IsFree inUse (ahead counter earlier)

/-- What a search of so many steps comes to. -/
inductive Searched (inUse : UInt32 → Bool) (limit : Nat) (counter : UInt32) :
    Option (UInt32 × StreamIds) → Prop
  | found {steps : Nat} (few : steps ≤ limit) (first : FirstFree inUse counter steps) :
      Searched inUse limit counter
        (some (ahead counter steps, { counter := advance counter steps, issued := true }))
  | nothing (taken : ∀ steps, 1 ≤ steps → steps ≤ limit → ¬ IsFree inUse (ahead counter steps)) :
      Searched inUse limit counter none

theorem isFree_iff : (id != 0 && !inUse id) = true ↔ IsFree inUse id := by
  simp [IsFree]

theorem FirstFree.one (free : IsFree inUse (ahead counter 1)) : FirstFree inUse counter 1 :=
  ⟨Nat.le_refl 1, free, fun _ some before => by omega⟩

/-- If the next id is taken, the first free one is that behind it. -/
theorem FirstFree.succ (taken : ¬ IsFree inUse (ahead counter 1))
    (h : FirstFree inUse (counter + 2) steps) : FirstFree inUse counter (steps + 1) where
  some := Nat.le_add_left 1 steps
  free := by
    rw [ahead_succ]
    exact h.free
  first earlier some before := by
    cases earlier with
    | zero => omega
    | succ earlier =>
      rcases Nat.eq_zero_or_pos earlier with rfl | more
      · exact taken
      · rw [ahead_succ]
        exact h.first earlier more (by omega)

theorem searched (inUse : UInt32 → Bool) (limit : Nat) (counter : UInt32) :
    Searched inUse limit counter (search inUse limit counter) := by
  induction limit generalizing counter with
  | zero => exact .nothing fun steps some few => by omega
  | succ limit ih =>
    rw [search, maskId_next]
    split
    next free =>
      rw [← advance_one]
      exact .found (Nat.le_add_left 1 limit) (.one (isFree_iff.mp free))
    next held =>
      have taken : ¬ IsFree inUse (ahead counter 1) := fun free => held (isFree_iff.mpr free)
      have rest := ih (counter + 2)
      generalize search inUse limit (counter + 2) = result at rest
      cases rest with
      | found few first =>
        rw [← ahead_succ, ← advance_succ]
        exact .found (Nat.succ_le_succ few) (first.succ taken)
      | nothing all =>
        refine .nothing fun steps some few => ?_
        cases steps with
        | zero => omega
        | succ steps =>
          rcases Nat.eq_zero_or_pos steps with rfl | more
          · exact taken
          · rw [ahead_succ]
            exact all steps more (by omega)

/-- A search that may go so far ends at the first free id. -/
theorem search_of_first (first : FirstFree inUse counter steps) (few : steps ≤ limit) :
    search inUse limit counter =
      some (ahead counter steps, { counter := advance counter steps, issued := true }) := by
  have searched := searched inUse limit counter
  generalize search inUse limit counter = result at searched
  cases searched with
  | nothing taken => exact absurd first.free (taken steps first.some few)
  | @found reached _ earliest =>
    have same : reached = steps := by
      rcases Nat.lt_trichotomy reached steps with before | same | behind
      · exact absurd earliest.free (first.first reached earliest.some before)
      · exact same
      · exact absurd first.free (earliest.first steps first.some behind)
    rw [same]

/-! ### The search without a bound -/

/-- What a search comes to that goes on until it meets an id that can be given out. -/
inductive Finds (inUse : UInt32 → Bool) : UInt32 → UInt32 × StreamIds → Prop
  | stop {counter : UInt32} (free : IsFree inUse (maskId (counter + 2))) :
      Finds inUse counter (maskId (counter + 2), { counter := counter + 2, issued := true })
  | goOn {counter : UInt32} {result : UInt32 × StreamIds}
      (taken : ¬ IsFree inUse (maskId (counter + 2))) (rest : Finds inUse (counter + 2) result) :
      Finds inUse counter result

theorem Finds.first {result : UInt32 × StreamIds} (h : Finds inUse counter result) :
    ∃ steps, FirstFree inUse counter steps ∧
      result = (ahead counter steps, { counter := advance counter steps, issued := true }) := by
  induction h with
  | @stop counter free =>
    rw [maskId_next] at free
    exact ⟨1, .one free, by rw [maskId_next, advance_one]⟩
  | @goOn counter result taken rest ih =>
    obtain ⟨steps, first, rfl⟩ := ih
    rw [maskId_next] at taken
    exact ⟨steps + 1, first.succ taken, by rw [ahead_succ, advance_succ]⟩

theorem finds_of_search {result : UInt32 × StreamIds}
    (h : search inUse limit counter = some result) : Finds inUse counter result := by
  induction limit generalizing counter with
  | zero => contradiction
  | succ limit ih =>
    rw [search] at h
    split at h
    next free =>
      cases h
      exact .stop (isFree_iff.mp free)
    next held => exact .goOn (fun free => held (isFree_iff.mpr free)) (ih h)

/-- The first free id is met within one round: what is behind was passed before. -/
theorem FirstFree.within (first : FirstFree inUse counter steps) : steps ≤ 2 ^ 30 := by
  rcases Nat.lt_or_ge (2 ^ 30) steps with beyond | within
  · have again := ahead_around counter (steps - 2 ^ 30)
    rw [Nat.sub_add_cancel (Nat.le_of_lt beyond)] at again
    have passed := first.first (steps - 2 ^ 30) (by omega) (by omega)
    rw [← again] at passed
    exact absurd first.free passed
  · exact within

/-- What an allocator gives out is what the search without a bound comes to. -/
theorem next?_eq_some_iff {result : UInt32 × StreamIds} :
    ids.next? inUse = some result ↔ Finds inUse ids.counter result := by
  refine ⟨finds_of_search, fun finds => ?_⟩
  obtain ⟨steps, first, rfl⟩ := finds.first
  exact search_of_first first first.within

/-- What an allocator gives out: an id of its parity that is not in use, which it remembers. -/
structure GivesOut (ids : StreamIds) (inUse : UInt32 → Bool) (id : UInt32) (next : StreamIds) :
    Prop where
  stream : IsStreamId id
  free : inUse id = false
  same : id.toNat % 2 = ids.counter.toNat % 2
  issued : next.issued = true
  latest : id = maskId next.counter
  moved : next ≠ ids
  parity : next.counter.toNat % 2 = ids.counter.toNat % 2

theorem GivesOut.nonzero {next : StreamIds} (h : ids.GivesOut inUse id next) : id ≠ 0 :=
  ((isStreamId_iff_lt id).mp h.stream).1

theorem next?_ok {next : StreamIds} (h : ids.next? inUse = some (id, next)) :
    ids.GivesOut inUse id next := by
  obtain ⟨steps, first, result⟩ := (next?_eq_some_iff.mp h).first
  cases result
  refine ⟨isStreamId_ahead first.free.1, first.free.2, parity_ahead _ _, rfl,
    (maskId_advance _ _).symm, fun same => ?_, ?_⟩
  · have size := ids.counter.toNat_lt
    have within := first.within
    have some := first.some
    have stays := congrArg (fun ids => ids.counter.toNat) same
    simp only [toNat_advance] at stays
    omega
  · rw [toNat_advance]
    omega

/-- An allocator gives up only when every id of its parity is taken. -/
theorem taken_of_next? (h : ids.next? inUse = none) (stream : IsStreamId id)
    (parity : id.toNat % 2 = ids.counter.toNat % 2) : inUse id = true := by
  obtain ⟨steps, some, few, reached⟩ := exists_ahead stream parity
  have searched := searched inUse (2 ^ 30) ids.counter
  rw [show search inUse (2 ^ 30) ids.counter = none from h] at searched
  cases searched with
  | nothing taken =>
    have held := taken steps some few
    rw [reached] at held
    simpa [IsFree, ((isStreamId_iff_lt id).mp stream).1] using held

/-- The search without a bound ends exactly if some id of the counter's parity is free. -/
theorem finds_iff_free (inUse : UInt32 → Bool) (counter : UInt32) :
    (∃ result, Finds inUse counter result) ↔
      ∃ id, IsStreamId id ∧ id.toNat % 2 = counter.toNat % 2 ∧ inUse id = false := by
  constructor
  · rintro ⟨result, finds⟩
    obtain ⟨steps, first, rfl⟩ := finds.first
    exact ⟨_, isStreamId_ahead first.free.1, parity_ahead counter steps, first.free.2⟩
  · rintro ⟨id, stream, parity, free⟩
    cases found : (ofSeed counter).next? inUse with
    | none =>
      rw [taken_of_next? found stream parity] at free
      contradiction
    | some result => exact ⟨result, next?_eq_some_iff.mp found⟩

end StreamIds
end StreamMux
