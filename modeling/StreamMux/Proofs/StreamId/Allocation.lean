import Mathlib.Data.Int.ModEq
import StreamMux.Proofs.StreamId.Search

/-!
# What an allocator gives out

Calls to one allocator follow one another, each with the ids that are in use at its time
(`nextAll?`). A call ends as long as some id of the allocator's parity is free, and gives out the
first such id behind the latest one (`next?_first`). The latest id is what the allocator compares
others with (`isBeforeOrCurrent_iff`). Where nothing is in use, an id comes again exactly after
whole rounds (`nth_eq_iff`): of `2 ^ 30` odd ids, or of one even id fewer, as 0 is none. The result
for all runs is `goes_around`.

Source: `StreamIds.ofSeed`, `StreamIds.next?`, `StreamIds.isBeforeOrCurrent`.
-/
namespace StreamMux.StreamIds

variable {ids last : StreamIds} {inUse : UInt32 → Bool} {calls : List (UInt32 → Bool)}
  {given : List UInt32} {id : UInt32}

/-! ### One call after another -/

/-- The ids that calls give out one after another, each with what is in use at its time. -/
def nextAll? (ids : StreamIds) : List (UInt32 → Bool) → Option (List UInt32 × StreamIds)
  | [] => some ([], ids)
  | inUse :: calls => do
    let (id, ids) ← ids.next? inUse
    let (rest, ids) ← ids.nextAll? calls
    return (id :: rest, ids)

theorem nextAll?_cons (h : ids.nextAll? (inUse :: calls) = some (given, last)) :
    ∃ id mid rest, ids.next? inUse = some (id, mid) ∧ mid.nextAll? calls = some (rest, last) ∧
      given = id :: rest := by
  rw [nextAll?] at h
  obtain ⟨⟨id, mid⟩, found, h⟩ := Option.bind_eq_some_iff.mp h
  obtain ⟨⟨rest, last⟩, others, h⟩ := Option.bind_eq_some_iff.mp h
  cases h
  exact ⟨id, mid, rest, found, others, rfl⟩

theorem parity_nextAll? (h : ids.nextAll? calls = some (given, last)) :
    last.counter.toNat % 2 = ids.counter.toNat % 2 := by
  induction calls generalizing ids given with
  | nil =>
    cases h
    rfl
  | cons inUse calls ih =>
    obtain ⟨id, mid, rest, found, others, rfl⟩ := nextAll?_cons h
    exact (ih others).trans (next?_ok found).parity

/-- The id that was given out last is the one that the allocator remembers. -/
theorem latest_nextAll? (h : ids.nextAll? calls = some (given, last)) :
    (given = [] ∧ last = ids) ∨
      ∃ latest, given.getLast? = some latest ∧ last.issued = true ∧
        latest = maskId last.counter := by
  induction calls generalizing ids given with
  | nil =>
    cases h
    exact .inl ⟨rfl, rfl⟩
  | cons inUse calls ih =>
    obtain ⟨id, mid, rest, found, others, rfl⟩ := nextAll?_cons h
    refine .inr ?_
    rcases ih others with ⟨rfl, rfl⟩ | ⟨latest, ends, issued, same⟩
    · exact ⟨id, rfl, (next?_ok found).issued, (next?_ok found).latest⟩
    · refine ⟨latest, ?_, issued, same⟩
      rw [List.getLast?_cons, ends]
      rfl

/-- An id is before or current once an id was issued that is not below it. -/
theorem isBeforeOrCurrent_iff {seed : UInt32}
    (h : (ofSeed seed).nextAll? calls = some (given, last)) (id : UInt32) :
    last.isBeforeOrCurrent id = true ↔
      ∃ latest, given.getLast? = some latest ∧ 0 < id ∧ id ≤ latest := by
  rcases latest_nextAll? h with ⟨rfl, rfl⟩ | ⟨latest, ends, issued, rfl⟩
  · simp [isBeforeOrCurrent, ofSeed]
  · simp [isBeforeOrCurrent, ends, issued]

/-- A call ends if an id of the allocator's parity is free, and gives out the first one. -/
theorem next?_first (stream : IsStreamId id) (parity : id.toNat % 2 = ids.counter.toNat % 2)
    (free : inUse id = false) :
    ∃ steps, FirstFree inUse ids.counter steps ∧
      ids.next? inUse = some (ahead ids.counter steps,
        { counter := advance ids.counter steps, issued := true }) := by
  obtain ⟨result, finds⟩ :=
    (finds_iff_free inUse ids.counter).mpr ⟨id, stream, parity, free⟩
  obtain ⟨steps, first, rfl⟩ := finds.first
  exact ⟨steps, first, next?_eq_some_iff.mpr finds⟩

example :
    ((forSide .client).nextAll? (List.replicate 4 fun id => id = 5 || id = 9)).map (·.1) =
      some [1, 3, 7, 11] := by
  decide +kernel

/-! ### Nothing in use -/

/-- No id is in use. -/
def unused : UInt32 → Bool := fun _ => false

/-- How many ids of its parity an allocator has. -/
def period (seed : UInt32) : Nat := if seed.toNat % 2 = 1 then 2 ^ 30 else 2 ^ 30 - 1

/-- How many ids of a counter's parity are not above it. -/
def place (counter : UInt32) : Nat := (counter.toNat % 2 ^ 31 + 1) / 2

/-- The id that is given out after so many others, if none is in use. -/
def nth (seed : UInt32) (n : Nat) : Nat :=
  2 * ((place seed + n) % period seed) + 2 - seed.toNat % 2

/-- The next id is at the next place, and behind the last place comes the first. -/
theorem nth_zero (seed : UInt32) :
    nth seed 0 =
      if (seed.toNat + 2) % 2 ^ 31 = 0 then 2 else (seed.toNat + 2) % 2 ^ 31 := by
  have low : (seed.toNat + 2) % 2 ^ 31 = (seed.toNat % 2 ^ 31 + 2) % 2 ^ 31 := by omega
  have parity : seed.toNat % 2 = seed.toNat % 2 ^ 31 % 2 := by omega
  have bound : seed.toNat % 2 ^ 31 < 2 ^ 31 := Nat.mod_lt _ (by decide)
  rw [nth, place, period, low, parity]
  generalize seed.toNat % 2 ^ 31 = counter at bound
  by_cases odd : counter % 2 = 1
  · rw [if_pos odd, if_neg (by omega)]
    omega
  · rw [if_neg odd]
    split
    · omega
    · omega

/-- Behind an id that was given out the others follow in the same order. -/
theorem nth_of_given {seed counter : UInt32} (given : counter.toNat % 2 ^ 31 = nth seed 0)
    (parity : counter.toNat % 2 = seed.toNat % 2) (n : Nat) :
    nth counter n = nth seed (n + 1) := by
  have behind : place counter = place seed % period seed + 1 := by
    rw [place, given, nth, Nat.add_zero (place seed)]
    omega
  have whole : period counter = period seed := by rw [period, period, parity]
  rw [nth, nth, behind, whole, parity, Nat.add_assoc, Nat.mod_add_mod, Nat.add_comm 1 n]

theorem isFree_unused : IsFree unused id ↔ id ≠ 0 := by
  simp [IsFree, unused]

/-- Only 0 is passed over. -/
theorem firstFree_unused (counter : UInt32) :
    ∃ steps, FirstFree unused counter steps ∧ (ahead counter steps).toNat = nth counter 0 := by
  have one := toNat_ahead counter 1
  rw [Nat.mul_one] at one
  by_cases zero : ahead counter 1 = 0
  · rw [zero] at one
    have wraps : (counter.toNat + 2) % 2 ^ 31 = 0 := one.symm
    have two : (ahead counter 2).toNat = 2 := by
      rw [toNat_ahead]
      omega
    have nonzero : ahead counter 2 ≠ 0 := by
      intro zero
      rw [zero] at two
      contradiction
    refine ⟨2, ⟨by decide, isFree_unused.mpr nonzero, fun earlier some before free => ?_⟩, ?_⟩
    · obtain rfl : earlier = 1 := by omega
      exact isFree_unused.mp free zero
    · rw [two, nth_zero, if_pos wraps]
  · have nonzero : (counter.toNat + 2) % 2 ^ 31 ≠ 0 := fun wraps =>
      zero (UInt32.toNat_inj.mp (one.trans wraps))
    refine ⟨1, .one (isFree_unused.mpr zero), ?_⟩
    rw [one, nth_zero, if_neg nonzero]

theorem next?_unused (ids : StreamIds) :
    ∃ id next, ids.next? unused = some (id, next) ∧ id.toNat = nth ids.counter 0 ∧
      ∀ n, nth next.counter n = nth ids.counter (n + 1) := by
  obtain ⟨steps, first, value⟩ := firstFree_unused ids.counter
  have found := search_of_first first first.within
  refine ⟨_, _, found, value, nth_of_given ?_ (next?_ok found).parity⟩
  rw [← toNat_maskId, maskId_advance, value]

theorem nextAll?_unused (ids : StreamIds) (n : Nat) :
    ∃ given last, ids.nextAll? (List.replicate n unused) = some (given, last) ∧
      given.map UInt32.toNat = (List.range n).map (nth ids.counter) := by
  induction n generalizing ids with
  | zero => exact ⟨[], ids, rfl, rfl⟩
  | succ n ih =>
    obtain ⟨id, next, found, value, goesOn⟩ := next?_unused ids
    obtain ⟨rest, last, others, values⟩ := ih next
    refine ⟨id :: rest, last, ?_, ?_⟩
    · rw [List.replicate_succ, nextAll?, found]
      simp [others]
    · rw [List.map_cons, values, value, List.range_succ_eq_map, List.map_cons, List.map_map]
      exact congrArg _ (List.map_congr_left fun k _ => goesOn k)

/-- An id comes again after exactly one period. -/
theorem nth_eq_iff (seed : UInt32) (i j : Nat) :
    nth seed i = nth seed j ↔ (period seed : Int) ∣ (i : Int) - j := by
  have same : nth seed i = nth seed j ↔ place seed + j ≡ place seed + i [MOD period seed] := by
    rw [nth, nth, Nat.ModEq]
    omega
  rw [same, Nat.modEq_iff_dvd]
  push_cast
  rw [add_sub_add_left_eq_sub]

/-- The ids of one allocator, whatever is in use when it is called. A call ends if an id of its
parity is free, and gives out the first such id on the way on from the latest one; no bound on the
search is needed. An id counts as before or current exactly if it is not above the latest one. If
nothing is ever in use, two calls give out the same id exactly if whole periods lie between them. -/
theorem goes_around (seed : UInt32) :
    (∀ calls given ids, (ofSeed seed).nextAll? calls = some (given, ids) →
      (∀ inUse, (∃ id, IsStreamId id ∧ id.toNat % 2 = seed.toNat % 2 ∧ inUse id = false) →
        ∃ id next steps, Finds inUse ids.counter (id, next) ∧
          ids.next? inUse = some (id, next) ∧ FirstFree inUse ids.counter steps ∧
          id = ahead ids.counter steps ∧
          next = { counter := advance ids.counter steps, issued := true } ∧
          IsStreamId id ∧ id.toNat % 2 = seed.toNat % 2 ∧ inUse id = false) ∧
      ∀ id, ids.isBeforeOrCurrent id = true ↔
        ∃ latest, given.getLast? = some latest ∧ 0 < id ∧ id ≤ latest) ∧
    ∀ n, ∃ given ids,
      (ofSeed seed).nextAll? (List.replicate n unused) = some (given, ids) ∧ given.length = n ∧
        ∀ i < n, ∀ j < n, given[i]? = given[j]? ↔ (period seed : Int) ∣ (i : Int) - j := by
  constructor
  · intro calls given ids run
    have kept : ids.counter.toNat % 2 = seed.toNat % 2 := parity_nextAll? run
    refine ⟨?_, isBeforeOrCurrent_iff run⟩
    rintro inUse ⟨id, stream, parity, free⟩
    obtain ⟨steps, first, found⟩ := next?_first stream (parity.trans kept.symm) free
    have out := next?_ok found
    exact ⟨_, _, steps, next?_eq_some_iff.mp found, found, first, rfl, rfl, out.stream,
      out.same.trans kept, out.free⟩
  · intro n
    obtain ⟨given, ids, run, values⟩ := nextAll?_unused (ofSeed seed) n
    have length : given.length = n := by simpa using congrArg List.length values
    have value (k : Nat) (few : k < n) : given[k]?.map UInt32.toNat = some (nth seed k) := by
      rw [← List.getElem?_map, values, List.getElem?_map, List.getElem?_range few]
      rfl
    refine ⟨given, ids, run, length, fun i hi j hj => ?_⟩
    rw [← nth_eq_iff]
    have inj : given[i]? = given[j]? ↔ given[i]?.map UInt32.toNat = given[j]?.map UInt32.toNat :=
      (Option.map_injective fun _ _ => UInt32.toNat_inj.mp).eq_iff.symm
    rw [inj, value i hi, value j hj, Option.some_inj]

/-- An allocator whose way leads over the end of the 31 bits: the last even id and the first are in
use, and 0 is none, so that 4 is given out, and only ids up to 4 count as issued then. -/
theorem goes_around_of_wrap :
    let seed : UInt32 := 0xFFFFFFFC
    let inUse : UInt32 → Bool := fun id => id = 0x7FFFFFFE || id = 2
    (IsStreamId 4 ∧ (4 : UInt32).toNat % 2 = seed.toNat % 2 ∧ inUse 4 = false) ∧
    (ofSeed seed).nextAll? [inUse] = some ([4], { counter := 4, issued := true }) ∧
    Finds inUse seed (4, { counter := 4, issued := true }) ∧
    ∀ id, isBeforeOrCurrent { counter := 4, issued := true } id = true ↔ 0 < id ∧ id ≤ 4 := by
  intro seed inUse
  have free : IsStreamId 4 ∧ (4 : UInt32).toNat % 2 = seed.toNat % 2 ∧ inUse 4 = false :=
    ⟨⟨by decide, by decide⟩, by decide, by decide⟩
  have found : (ofSeed seed).next? inUse = some (4, { counter := 4, issued := true }) := by
    decide +kernel
  have run : (ofSeed seed).nextAll? [inUse] = some ([4], { counter := 4, issued := true }) := by
    rw [nextAll?, found]
    rfl
  obtain ⟨id, next, steps, finds, same, _⟩ := ((goes_around seed).1 [] [] _ rfl).1 inUse ⟨4, free⟩
  cases found.symm.trans same
  refine ⟨free, run, finds, fun id => ?_⟩
  simpa using ((goes_around seed).1 _ _ _ run).2 id

end StreamMux.StreamIds
