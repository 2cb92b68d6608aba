/-!
A first-in first-out queue as two lists, so that neither end costs a walk through the queue.
What it holds is read off with `toList`, oldest first; each operation is pinned down through
that view.
-/
namespace StreamMux

/-- Elements to be taken in the order in which they came: `front` oldest first, `back` latest first.
-/
structure Fifo (α : Type) where
  front : List α := []
  back : List α := []
  deriving Repr

namespace Fifo

variable {α : Type}

def empty : Fifo α := {}

instance : Inhabited (Fifo α) := ⟨empty⟩

/-- The elements, oldest first. -/
def toList (q : Fifo α) : List α := q.front ++ q.back.reverse

def isEmpty (q : Fifo α) : Bool := q.front.isEmpty && q.back.isEmpty

def push (q : Fifo α) (a : α) : Fifo α := { q with back := a :: q.back }

/-- The oldest element, and the queue without it. -/
def pop? (q : Fifo α) : Option (α × Fifo α) :=
  match q.front with
  | a :: front => some (a, { q with front })
  | [] =>
    match q.back.reverse with
    | a :: front => some (a, { front })
    | [] => none

def ofList (l : List α) : Fifo α := { front := l }

@[simp] theorem toList_empty : (empty : Fifo α).toList = [] := rfl

@[simp] theorem toList_ofList (l : List α) : (ofList l).toList = l := by simp [ofList, toList]

@[simp] theorem toList_push (q : Fifo α) (a : α) : (q.push a).toList = q.toList ++ [a] := by
  simp [push, toList]

@[simp] theorem isEmpty_iff (q : Fifo α) : q.isEmpty = true ↔ q.toList = [] := by
  simp [isEmpty, toList, List.isEmpty_iff]

theorem pop?_eq_none_iff (q : Fifo α) : q.pop? = none ↔ q.toList = [] := by
  obtain ⟨front, back⟩ := q
  cases front with
  | cons a front => simp [pop?, toList]
  | nil =>
    cases h : back.reverse with
    | nil => simp [pop?, toList, h]
    | cons a rest => simp [pop?, toList, h]

theorem pop?_eq_some {q r : Fifo α} {a : α} (h : q.pop? = some (a, r)) :
    q.toList = a :: r.toList := by
  obtain ⟨front, back⟩ := q
  cases front with
  | cons b front =>
    simp only [pop?, Option.some.injEq, Prod.mk.injEq] at h
    obtain ⟨rfl, rfl⟩ := h
    simp [toList]
  | nil =>
    cases hr : back.reverse with
    | nil => simp [pop?, hr] at h
    | cons b rest =>
      simp only [pop?, hr, Option.some.injEq, Prod.mk.injEq] at h
      obtain ⟨rfl, rfl⟩ := h
      simp [toList, hr]

end Fifo
end StreamMux
