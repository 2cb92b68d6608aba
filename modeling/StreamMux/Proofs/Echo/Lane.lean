import StreamMux.Limiter
import StreamMux.Frame.Basic

/-!
# One direction of a channel

On a channel items go both ways. A consumer asks its peer for one batch at a time, and for the next
one when it has taken the last. So a batch is always in one of these places (`Lent`): left with the
peer as credit, on the wire as a request, or spent on items that the consumer has not made up for
yet. On the wire the items of an end, with their end behind them, mix with what it asks for
(`Lane`).
-/
namespace StreamMux.Echo

/-! ### Credit -/

/-- The limiter of an end whose peer asks for one batch at a time. So many requests for a batch are
on the wire, and so many items were not made up for; as long as the first request is due, none were
asked for. -/
structure Lent (batch : UInt32) (l : Limiter) (asked used : Nat) (due : Bool) : Prop where
  goes : l.cancelled = false
  unasked : due = true → l.unbounded = false ∧ l.credit = 0 ∧ asked = 0 ∧ used = 0
  counted : due = false → batch ≠ maxRequestN →
    l.unbounded = false ∧ l.credit + batch.toNat * asked + used = batch.toNat
  unlimited : due = false → batch = maxRequestN → l.unbounded = true ∨ 0 < asked
  /-- Nobody waits for credit that is there. -/
  asleep : l.parked = true → l.isDecided = false

namespace Lent

variable {batch : UInt32} {l : Limiter} {asked used : Nat} {due : Bool}

/-- Before anything was asked for there is no credit. -/
theorem start (batch : UInt32) : Lent batch {} 0 0 true where
  goes := rfl
  unasked _ := ⟨rfl, rfl, rfl, rfl⟩
  counted given := by contradiction
  unlimited given := by contradiction
  asleep parked := by contradiction

/-- The items that were not made up for, counted in another way. -/
theorem recount {used' : Nat} (h : Lent batch l asked used due) (same : used' = used) :
    Lent batch l asked used' due :=
  same ▸ h

/-- The first batch is asked for. -/
theorem first (h : Lent batch l asked used true) : Lent batch l (asked + 1) used false := by
  obtain ⟨bounded, poor, rfl, rfl⟩ := h.unasked rfl
  exact
    { goes := h.goes
      unasked := fun due => by contradiction
      counted := fun _ _ => ⟨bounded, by omega⟩
      unlimited := fun _ _ => .inr Nat.one_pos
      asleep := h.asleep }

/-- The next batch is asked for when the last was taken. -/
theorem again {rest taken : Nat} (h : Lent batch l asked (rest + taken) false)
    (limited : batch < maxRequestN) (spent : batch.toNat ≤ taken) :
    Lent batch l (asked + 1) (rest + 0) false where
  goes := h.goes
  unasked due := by contradiction
  counted _ apart := by
    obtain ⟨bounded, eq⟩ := h.counted rfl apart
    refine ⟨bounded, ?_⟩
    rw [Nat.mul_succ]
    omega
  unlimited _ same := by
    subst same
    exact absurd limited (by decide)
  asleep := h.asleep

/-- A request for a batch arrives. -/
theorem grant (positive : 0 < batch.toNat) (bound : batch ≤ maxRequestN)
    (h : Lent batch l (asked + 1) used due) : due = false ∧
      Lent batch (l.grant batch.toNat) asked used due := by
  obtain rfl : due = false := by
    cases due with
    | false => rfl
    | true => exact absurd (h.unasked rfl).2.2.1 (Nat.succ_ne_zero asked)
  have fits : batch.toNat ≤ maxRequestN.toNat := UInt32.le_iff_toNat_le.mp bound
  have mine : ¬ (batch.toNat = 0 ∨ l.cancelled = true) := by
    rw [h.goes]
    simp only [Bool.false_eq_true, or_false]
    omega
  refine ⟨rfl, ?_⟩
  unfold Limiter.grant Limiter.add
  rw [if_neg mine]
  refine ⟨?_, fun due => by contradiction, fun _ limited => ?_, fun _ unlimited => .inl ?_,
    by simp⟩
  · split
    · exact h.goes
    · split
      · exact h.goes
      · exact h.goes
  · obtain ⟨bounded, eq⟩ := h.counted rfl limited
    have below : batch.toNat ≠ maxRequestN.toNat := fun same =>
      limited (UInt32.toNat_inj.mp same)
    rw [Nat.mul_succ] at eq
    rw [bounded, if_neg Bool.false_ne_true, if_neg (by omega)]
    exact ⟨rfl, by simp only; omega⟩
  · split
    next unbounded => exact unbounded
    · rw [if_pos (by rw [unlimited]; omega)]

/-- With its request an end asks for the first batch at once. -/
theorem new (positive : 0 < batch.toNat) (bound : batch ≤ maxRequestN) :
    Lent batch (Limiter.new batch.toNat) 0 0 false := by
  have granted := (((start batch).first).grant positive bound).2
  have mine : ¬ (batch.toNat = 0 ∨ ({} : Limiter).cancelled = true) := by
    simp only [Bool.false_eq_true, or_false]
    omega
  have same : ({} : Limiter).grant batch.toNat = Limiter.new batch.toNat := by
    unfold Limiter.grant Limiter.new Limiter.add
    rw [if_neg mine, if_neg Bool.false_ne_true]
    split
    · rfl
    · rfl
  rwa [same] at granted

/-- Asking for credit: there is none, or one unit of it is used. -/
theorem acquire (h : Lent batch l asked used due) :
    (l.acquire = (.pending, { l with parked := true }) ∧
      Lent batch { l with parked := true } asked used due) ∨
    due = false ∧ ∃ l', l.acquire = (.ready (.ok ()), l') ∧
      Lent batch l' asked (used + 1) false := by
  by_cases decided : l.isDecided = true
  · obtain rfl : due = false := by
      cases due with
      | false => rfl
      | true =>
        obtain ⟨bounded, poor, _⟩ := h.unasked rfl
        simp [Limiter.isDecided, h.goes, bounded, poor] at decided
    have awake : l.parked = false := Bool.eq_false_iff.mpr fun parked => by
      rw [h.asleep parked] at decided
      contradiction
    refine .inr ⟨rfl, ?_⟩
    unfold Limiter.acquire
    rw [h.goes, if_neg Bool.false_ne_true]
    by_cases unbounded : l.unbounded = true
    · rw [if_pos unbounded]
      refine ⟨l, rfl, h.goes, fun due => by contradiction, fun _ limited => ?_,
        fun _ _ => .inl unbounded, h.asleep⟩
      rw [(h.counted rfl limited).1] at unbounded
      contradiction
    · have some : 0 < l.credit := by
        simpa [Limiter.isDecided, h.goes, unbounded] using decided
      rw [if_neg unbounded, if_pos some]
      refine ⟨_, rfl, rfl, fun due => by contradiction, fun _ limited => ?_,
        h.unlimited, fun parked => ?_⟩
      · obtain ⟨bounded, eq⟩ := h.counted rfl limited
        exact ⟨bounded, by simp only; omega⟩
      · rw [awake] at parked
        contradiction
  · have poor : l.unbounded = false ∧ l.credit = 0 := by
      simpa [Limiter.isDecided, h.goes] using decided
    refine .inl ⟨?_, h.goes, h.unasked, h.counted, h.unlimited, fun _ => ?_⟩
    · unfold Limiter.acquire
      rw [h.goes, if_neg Bool.false_ne_true, poor.1, if_neg Bool.false_ne_true, if_neg (by omega)]
    · exact Bool.eq_false_iff.mpr decided

/-- Where no request is on the wire and the last batch is not used up, there is credit. -/
theorem decided (h : Lent batch l 0 used false) (bound : batch ≤ maxRequestN)
    (ahead : batch < maxRequestN → used < batch.toNat) :
    l.isDecided = true ∧ l.parked = false := by
  suffices decided : l.isDecided = true by
    refine ⟨decided, Bool.eq_false_iff.mpr fun parked => ?_⟩
    rw [h.asleep parked] at decided
    contradiction
  unfold Limiter.isDecided
  by_cases unlimited : batch = maxRequestN
  · rcases h.unlimited rfl unlimited with unbounded | asked
    · simp [unbounded]
    · exact absurd asked (Nat.lt_irrefl 0)
  · obtain ⟨bounded, eq⟩ := h.counted rfl unlimited
    have short : batch < maxRequestN := by
      rw [UInt32.lt_iff_toNat_lt]
      exact Nat.lt_of_le_of_ne (UInt32.le_iff_toNat_le.mp bound) fun same =>
        unlimited (UInt32.toNat_inj.mp same)
    have less := ahead short
    have some : 0 < l.credit := by omega
    simp [some]

end Lent

/-! ### The wire -/

/-- What an end has sent: its items in their order, their end behind them if it was reached, and
mixed with that so many requests for a batch. -/
inductive Lane (id batch : UInt32) : List Frame → List Payload → Nat → Bool → Prop
  | nil : Lane id batch [] [] 0 false
  | item {frames : List Frame} {items : List Payload} {asked : Nat} {ends : Bool}
      (payload : Payload) (rest : Lane id batch frames items asked ends) :
      Lane id batch (.payload (.item id payload) :: frames) (payload :: items) asked ends
  | last {frames : List Frame} {asked : Nat} (rest : Lane id batch frames [] asked false) :
      Lane id batch (.payload (.completion id) :: frames) [] asked true
  | asks {frames : List Frame} {items : List Payload} {asked : Nat} {ends : Bool}
      (rest : Lane id batch frames items asked ends) :
      Lane id batch (.requestN id batch :: frames) items (asked + 1) ends

namespace Lane

variable {id batch : UInt32} {frames : List Frame} {items : List Payload} {asked : Nat}
  {ends : Bool}

/-- One item more. -/
theorem snoc_item (h : Lane id batch frames items asked ends) (goes : ends = false)
    (payload : Payload) :
    Lane id batch (frames ++ [.payload (.item id payload)]) (items ++ [payload]) asked false := by
  induction h with
  | nil => exact .item payload .nil
  | item first rest ih => exact .item first (ih goes)
  | last rest ih => contradiction
  | asks rest ih => exact .asks (ih goes)

/-- The items come to their end. -/
theorem snoc_last (h : Lane id batch frames items asked ends) (goes : ends = false) :
    Lane id batch (frames ++ [.payload (.completion id)]) items asked true := by
  induction h with
  | nil => exact .last .nil
  | item first rest ih => exact .item first (ih goes)
  | last rest ih => contradiction
  | asks rest ih => exact .asks (ih goes)

/-- One batch more is asked for. -/
theorem snoc_asks (h : Lane id batch frames items asked ends) :
    Lane id batch (frames ++ [.requestN id batch]) items (asked + 1) ends := by
  induction h with
  | nil => exact .asks .nil
  | item first rest ih => exact .item first ih
  | last rest ih => exact .last ih
  | asks rest ih => exact .asks ih

theorem empty (h : Lane id batch [] items asked ends) :
    items = [] ∧ asked = 0 ∧ ends = false := by
  cases h
  exact ⟨rfl, rfl, rfl⟩

/-- Behind all items there are only requests. -/
theorem cons {f : Frame} (h : Lane id batch (f :: frames) [] asked false) :
    f = .requestN id batch ∧ ∃ fewer, asked = fewer + 1 ∧ Lane id batch frames [] fewer false := by
  cases h with
  | asks rest => exact ⟨rfl, _, rfl, rest⟩

end Lane

end StreamMux.Echo
