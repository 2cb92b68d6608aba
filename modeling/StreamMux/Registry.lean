/-!
The live streams of a connection by id. An id is held by at most one stream: inserting under an
id that is taken changes nothing.
-/
namespace StreamMux

/-- Streams with their ids, the latest first. -/
structure Registry (α : Type) where
  entries : List (UInt32 × α) := []
  deriving DecidableEq, Repr

namespace Registry

variable {α : Type}

def empty : Registry α := {}

instance : Inhabited (Registry α) := ⟨empty⟩

def get? (r : Registry α) (id : UInt32) : Option α := r.entries.lookup id

def contains (r : Registry α) (id : UInt32) : Bool := (r.get? id).isSome

/-- The registry with one more stream, unless the id is taken. -/
def insert? (r : Registry α) (id : UInt32) (a : α) : Option (Registry α) :=
  if r.contains id then none else some ⟨(id, a) :: r.entries⟩

/-- The registry without the stream of an id. -/
def erase (r : Registry α) (id : UInt32) : Registry α :=
  ⟨r.entries.filter (·.1 != id)⟩

def size (r : Registry α) : Nat := r.entries.length

def isEmpty (r : Registry α) : Bool := r.entries.isEmpty

/-- The ids in ascending order. -/
def ids (r : Registry α) : List UInt32 := (r.entries.map (·.1)).mergeSort (· ≤ ·)

/-- The streams, the latest first. -/
def values (r : Registry α) : List α := r.entries.map (·.2)

@[simp] theorem get?_empty (id : UInt32) : (empty : Registry α).get? id = none := rfl

theorem get?_insert? {r s : Registry α} {id : UInt32} {a : α} (h : r.insert? id a = some s)
    (k : UInt32) : s.get? k = if k = id then some a else r.get? k := by
  unfold insert? at h
  split at h
  · contradiction
  · rw [Option.some.injEq] at h
    subst h
    by_cases hk : k = id
    · simp [get?, hk]
    · have : (k == id) = false := by simpa using hk
      simp [get?, List.lookup_cons, hk, this]

theorem get?_erase (r : Registry α) (id k : UInt32) :
    (r.erase id).get? k = if k = id then none else r.get? k := by
  obtain ⟨entries⟩ := r
  simp only [get?, erase]
  induction entries with
  | nil => simp
  | cons e rest ih =>
    obtain ⟨i, a⟩ := e
    by_cases hi : i = id
    · subst hi
      have same : (i != i) = false := by simp
      rw [List.filter_cons, same]
      by_cases hk : k = i
      · subst hk; simpa using ih
      · have : (k == i) = false := by simpa using hk
        simpa [List.lookup_cons, hk, this] using ih
    · have keep : (i != id) = true := by simpa using hi
      rw [List.filter_cons, keep]
      by_cases hk : k = i
      · subst hk; simp [hi]
      · have : (k == i) = false := by simpa using hk
        simpa [List.lookup_cons, this] using ih

end Registry
end StreamMux
