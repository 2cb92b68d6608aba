import StreamMux.ByteStream
import StreamMux.Proofs.Frame.Reencoding

/-!
# Streams of bytes and the frames in them

A stream falls into bodies behind their lengths in one way only (`Splits`). A buffer finds these
bodies however the stream is cut into pieces and whenever it is asked, and what it cannot take yet
stays as it is (`FrameBuffer.Took`). So what was written is what is read, and a reader of a stream
hands out each body and then tells how the stream ended.

Source: `FrameBuffer.next?`, `FrameBuffer.nextFrame?`, `encodeFramed`, `StreamReader.readFrame`.
-/
namespace StreamMux

/-! ### How a stream falls into bodies -/

/-- A body behind its length. -/
def framed (body : ByteArray) : ByteArray := encodeNat 3 body.size ++ body

/-- Byte strings one behind the other. -/
def joined : List ByteArray → ByteArray
  | [] => ByteArray.empty
  | piece :: pieces => piece ++ joined pieces

/-- No body is whole at the front. -/
def Partial (bytes : ByteArray) : Prop :=
  ∀ body more : ByteArray, body.size ≤ maxLength → bytes ≠ framed body ++ more

/-- The stream is these bodies, each behind its length, and a rest in which none is whole. -/
structure Splits (stream : ByteArray) (bodies : List ByteArray) (rest : ByteArray) : Prop where
  whole : stream = joined (bodies.map framed) ++ rest
  fits : ∀ body ∈ bodies, body.size ≤ maxLength
  short : Partial rest

theorem encodeFramed_eq {body : ByteArray} (fits : body.size ≤ maxLength) :
    encodeFramed body = .ok (framed body) := by
  rw [encodeFramed, if_pos fits, framed]

namespace FrameBuffer

/-- A body that stands whole at the front is the next. -/
theorem next?_framed {body : ByteArray} (fits : body.size ≤ maxLength) (more : ByteArray) :
    next? ⟨framed body ++ more⟩ = some (body, ⟨more⟩) := by
  have length : body.size < 256 ^ 3 := Nat.lt_succ_of_le fits
  have head : (framed body ++ more).extract 0 3 = encodeNat 3 body.size := by
    rw [framed, ByteArray.append_assoc]
    exact ByteArray.extract_append_eq_left (size_encodeNat 3 _).symm
  have announced : announced ⟨framed body ++ more⟩ = body.size := by
    rw [announced, head, decodeNat_encodeNat, Nat.mod_eq_of_lt length]
  have front : (framed body).size = 3 + body.size := by
    rw [framed, ByteArray.size_append, size_encodeNat]
  have enough :
      ¬ (size ⟨framed body ++ more⟩ < 3 ∨ size ⟨framed body ++ more⟩ < 3 + body.size) := by
    simp only [size, ByteArray.size_append, front]
    omega
  have taken : (framed body ++ more).extract 3 (3 + body.size) = body := by
    rw [framed, ByteArray.append_assoc]
    exact (ByteArray.extract_append_size_add' (i := 0) (size_encodeNat 3 _).symm).trans
      (ByteArray.extract_append_eq_left rfl)
  have left : (framed body ++ more).extract (3 + body.size) (size ⟨framed body ++ more⟩) = more :=
    ByteArray.extract_append_eq_right front.symm ByteArray.size_append
  rw [next?, announced, if_neg enough, taken, left]

/-- The next body stood at the front behind its length. -/
theorem framed_of_next? {b left : FrameBuffer} {body : ByteArray}
    (next : b.next? = some (body, left)) :
    body.size ≤ maxLength ∧ b.bytes = framed body ++ left.bytes := by
  unfold next? at next
  split at next
  · contradiction
  next enough =>
    simp only [Option.some.injEq, Prod.mk.injEq] at next
    obtain ⟨rfl, rfl⟩ := next
    have three : (b.bytes.extract 0 3).size = 3 := by
      rw [ByteArray.size_extract]
      unfold size at enough
      omega
    have length : (b.bytes.extract 3 (3 + b.announced)).size = b.announced := by
      rw [ByteArray.size_extract]
      unfold size at enough
      omega
    have small : b.announced < 256 ^ (b.bytes.extract 0 3).size := ofBigEndian_lt _
    have head : encodeNat 3 b.announced = b.bytes.extract 0 3 := by
      have written := encodeNat_decodeNat (b.bytes.extract 0 3)
      rwa [three] at written
    refine ⟨?_, ?_⟩
    · rw [length]
      rw [three] at small
      exact Nat.le_of_lt_succ small
    · unfold size at enough ⊢
      dsimp only
      rw [framed, length, head, ByteArray.extract_append_extract, Nat.min_eq_left (by omega),
        Nat.max_eq_right (by omega), ByteArray.extract_append_extract, Nat.min_eq_left (by omega),
        Nat.max_eq_right (by omega), ByteArray.extract_zero_size]

theorem next?_eq_none_iff (b : FrameBuffer) : b.next? = none ↔ Partial b.bytes := by
  constructor
  · intro none body more fits same
    have next := next?_framed fits more
    rw [← same] at next
    rw [none] at next
    contradiction
  · intro short
    cases next : b.next? with
    | none => rfl
    | some found =>
      obtain ⟨fits, same⟩ := framed_of_next? next
      exact absurd same (short _ _ fits)

end FrameBuffer

/-- What stands in front is determined: its length is. -/
theorem framed_inj {a b x y : ByteArray} (ha : a.size ≤ maxLength) (hb : b.size ≤ maxLength)
    (same : framed a ++ x = framed b ++ y) : a = b ∧ x = y := by
  have first := FrameBuffer.next?_framed ha x
  rw [same, FrameBuffer.next?_framed hb y] at first
  cases first
  exact ⟨rfl, rfl⟩

namespace Splits

variable {stream rest : ByteArray} {bodies : List ByteArray}

theorem cons {body : ByteArray} (fits : body.size ≤ maxLength)
    (splits : Splits stream bodies rest) :
    Splits (framed body ++ stream) (body :: bodies) rest := by
  refine ⟨?_, ?_, splits.short⟩
  · rw [splits.whole, List.map_cons, joined, ByteArray.append_assoc]
  · rintro other (_ | ⟨_, later⟩)
    · exact fits
    · exact splits.fits other later

theorem nil (splits : Splits stream [] rest) : stream = rest := by
  rw [splits.whole, List.map_nil, joined, ByteArray.empty_append]

/-- Behind the first body stands a stream that the others are split off. -/
theorem tail {body : ByteArray} (splits : Splits stream (body :: bodies) rest) :
    body.size ≤ maxLength ∧ ∃ more, stream = framed body ++ more ∧ Splits more bodies rest := by
  obtain ⟨whole, fits, short⟩ := splits
  rw [List.map_cons, joined, ByteArray.append_assoc] at whole
  exact ⟨fits _ List.mem_cons_self, _, whole, rfl,
    fun other member => fits other (List.mem_cons_of_mem _ member), short⟩

/-- A body that stands whole at the front is the first. -/
theorem uncons {body more : ByteArray} (fits : body.size ≤ maxLength)
    (splits : Splits (framed body ++ more) bodies rest) :
    ∃ others, bodies = body :: others ∧ Splits more others rest := by
  cases bodies with
  | nil => exact absurd splits.nil.symm (splits.short body more fits)
  | cons first others =>
    obtain ⟨small, left, whole, later⟩ := splits.tail
    obtain ⟨rfl, rfl⟩ := framed_inj fits small whole
    exact ⟨others, rfl, later⟩

/-- A stream in which no body is whole is all rest. -/
theorem of_partial (splits : Splits stream bodies rest) (short : Partial stream) :
    bodies = [] ∧ rest = stream := by
  cases bodies with
  | nil => exact ⟨rfl, splits.nil.symm⟩
  | cons body others =>
    obtain ⟨small, more, whole, _⟩ := splits.tail
    exact absurd whole (short _ _ small)

/-- Bodies that were taken off the front are the first. -/
theorem of_taken {taken : List ByteArray} {more : ByteArray}
    (fits : ∀ body ∈ taken, body.size ≤ maxLength)
    (splits : Splits (joined (taken.map framed) ++ more) bodies rest) :
    ∃ others, bodies = taken ++ others ∧ Splits more others rest := by
  induction taken generalizing bodies with
  | nil =>
    rw [List.map_nil, joined, ByteArray.empty_append] at splits
    exact ⟨bodies, rfl, splits⟩
  | cons body taken ih =>
    rw [List.map_cons, joined, ByteArray.append_assoc] at splits
    obtain ⟨others, rfl, later⟩ := splits.uncons (fits body List.mem_cons_self)
    obtain ⟨last, rfl, done⟩ :=
      ih (fun other member => fits other (List.mem_cons_of_mem _ member)) later
    exact ⟨last, rfl, done⟩

/-- There is one way to split. -/
theorem unique {others : List ByteArray} {left : ByteArray} (splits : Splits stream bodies rest)
    (again : Splits stream others left) : others = bodies ∧ left = rest := by
  rw [splits.whole] at again
  obtain ⟨more, rfl, last⟩ := again.of_taken splits.fits
  obtain ⟨rfl, rfl⟩ := last.of_partial splits.short
  exact ⟨List.append_nil _, rfl⟩

/-- There is a way to split: what stands whole at the front is taken as long as something does. -/
theorem exist (stream : ByteArray) : ∃ bodies rest, Splits stream bodies rest := by
  induction h : stream.size using Nat.strongRecOn generalizing stream with
  | _ size ih =>
    subst h
    cases next : FrameBuffer.next? ⟨stream⟩ with
    | none =>
      have short := (FrameBuffer.next?_eq_none_iff _).mp next
      exact ⟨[], stream, ByteArray.empty_append.symm, by simp, short⟩
    | some found =>
      obtain ⟨body, left⟩ := found
      obtain ⟨fits, same⟩ := FrameBuffer.framed_of_next? next
      dsimp only at same
      have less : left.bytes.size < stream.size := by
        rw [same, framed, ByteArray.size_append, ByteArray.size_append, size_encodeNat]
        omega
      obtain ⟨bodies, rest, splits⟩ := ih _ less _ rfl
      exact ⟨body :: bodies, rest, same ▸ splits.cons fits⟩

end Splits

/-! ### A buffer in use -/

namespace FrameBuffer

/-- What is done with a buffer: bytes are appended, a body is asked for, or a frame. -/
inductive Use where
  | append (piece : ByteArray)
  | body
  | frame

/-- What it gives: nothing, a body, or what a body is read as. -/
inductive Given where
  | nothing
  | body (body : ByteArray)
  | frame (read : Except FrameError Frame)

def use (b : FrameBuffer) : Use → Given × FrameBuffer
  | .append piece => (.nothing, b.append piece)
  | .body =>
    match b.next? with
    | none => (.nothing, b)
    | some (body, left) => (.body body, left)
  | .frame =>
    match b.nextFrame? with
    | none => (.nothing, b)
    | some (read, left) => (.frame read, left)

/-- One use after the other. -/
def run (b : FrameBuffer) : List Use → List Given × FrameBuffer
  | [] => ([], b)
  | u :: uses =>
    let (given, b) := b.use u
    let (later, b) := run b uses
    (given :: later, b)

/-- All bytes that are appended. -/
def arrived : List Use → ByteArray
  | [] => ByteArray.empty
  | .append piece :: uses => piece ++ arrived uses
  | .body :: uses | .frame :: uses => arrived uses

/-- The bodies that were taken off, as told by what each use gave. Asking for a body gives it as it
stood; asking for a frame takes it off whether it can be read or not. -/
inductive Took : List Use → List Given → List ByteArray → Prop
  | nil : Took [] [] []
  | nothing {u uses given taken} :
      Took uses given taken → Took (u :: uses) (.nothing :: given) taken
  | body {uses given taken} (body : ByteArray) :
      Took uses given taken → Took (.body :: uses) (.body body :: given) (body :: taken)
  | frame {uses given taken} (body : ByteArray) :
      Took uses given taken →
        Took (.frame :: uses) (.frame (Frame.decode body) :: given) (body :: taken)

/-- Whatever is done with a buffer, the bodies that were taken off and what is left make up what was
there and what arrived. -/
theorem run_took (b : FrameBuffer) (uses : List Use) :
    ∃ taken, Took uses (b.run uses).1 taken ∧ (∀ body ∈ taken, body.size ≤ maxLength) ∧
      b.bytes ++ arrived uses = joined (taken.map framed) ++ (b.run uses).2.bytes := by
  induction uses generalizing b with
  | nil => exact ⟨[], .nil, by simp, by simp [arrived, run, joined]⟩
  | cons u uses ih =>
    -- A body that is taken off stands before all that is taken off later.
    have off {body : ByteArray} {left : FrameBuffer} (next : b.next? = some (body, left))
        {taken : List ByteArray} (fits : ∀ body ∈ taken, body.size ≤ maxLength)
        (whole : left.bytes ++ arrived uses =
          joined (taken.map framed) ++ (left.run uses).2.bytes) :
        (∀ other ∈ body :: taken, other.size ≤ maxLength) ∧
          b.bytes ++ arrived uses =
            joined ((body :: taken).map framed) ++ (left.run uses).2.bytes := by
      obtain ⟨small, same⟩ := framed_of_next? next
      refine ⟨List.forall_mem_cons.mpr ⟨small, fits⟩, ?_⟩
      rw [same, ByteArray.append_assoc, whole, List.map_cons, joined, ByteArray.append_assoc]
    cases u with
    | append piece =>
      obtain ⟨taken, took, fits, whole⟩ := ih (b.append piece)
      exact ⟨taken, .nothing took, fits, ByteArray.append_assoc.symm.trans whole⟩
    | body =>
      cases next : b.next? with
      | none =>
        obtain ⟨taken, took, fits, whole⟩ := ih b
        simp only [run, use, next, arrived]
        exact ⟨taken, .nothing took, fits, whole⟩
      | some found =>
        obtain ⟨body, left⟩ := found
        obtain ⟨taken, took, fits, whole⟩ := ih left
        simp only [run, use, next, arrived]
        exact ⟨body :: taken, .body body took, off next fits whole⟩
    | frame =>
      cases next : b.next? with
      | none =>
        obtain ⟨taken, took, fits, whole⟩ := ih b
        simp only [run, use, nextFrame?, next, arrived, Option.map_none]
        exact ⟨taken, .nothing took, fits, whole⟩
      | some found =>
        obtain ⟨body, left⟩ := found
        obtain ⟨taken, took, fits, whole⟩ := ih left
        simp only [run, use, nextFrame?, next, arrived, Option.map_some]
        exact ⟨body :: taken, .frame body took, off next fits whole⟩

/-- What is asked of a buffer gives nothing just if no body is whole; the buffer stays as it is. -/
theorem use_nothing {b : FrameBuffer} {u : Use} (asks : u = .body ∨ u = .frame)
    (nothing : (b.use u).1 = .nothing) : (b.use u).2 = b ∧ Partial b.bytes := by
  rw [← next?_eq_none_iff]
  rcases asks with rfl | rfl
  · unfold use at *
    cases next : b.next? with
    | none => simp
    | some found => simp [next] at nothing
  · unfold use at *
    cases next : b.next? with
    | none => simp [nextFrame?, next]
    | some found => simp [nextFrame?, next] at nothing

/-- Uses of a fresh buffer, and how a stream splits that starts with what arrived: the bodies taken
off are the first, and they are all once everything has arrived and nothing more is given. -/
theorem run_splits {uses : List Use} {later rest : ByteArray} {bodies : List ByteArray}
    (splits : Splits (arrived uses ++ later) bodies rest) :
    ∃ taken, Took uses (empty.run uses).1 taken ∧ taken <+: bodies ∧
      ∀ u, u = .body ∨ u = .frame → ((empty.run uses).2.use u).1 = .nothing →
        ((empty.run uses).2.use u).2 = (empty.run uses).2 ∧
        (later = ByteArray.empty → taken = bodies ∧ (empty.run uses).2.size = rest.size ∧
          (empty.run uses).2.bytes = rest) := by
  obtain ⟨taken, took, fits, whole⟩ := empty.run_took uses
  rw [show empty.bytes = ByteArray.empty from rfl, ByteArray.empty_append] at whole
  rw [whole, ByteArray.append_assoc] at splits
  obtain ⟨others, rfl, left⟩ := splits.of_taken fits
  refine ⟨taken, took, List.prefix_append _ _, fun u asks nothing => ?_⟩
  obtain ⟨same, short⟩ := use_nothing asks nothing
  refine ⟨same, fun all => ?_⟩
  rw [all, ByteArray.append_empty] at left
  obtain ⟨rfl, rfl⟩ := left.of_partial short
  exact ⟨(List.append_nil _).symm, rfl, rfl⟩

end FrameBuffer

/-! ### What was written -/

theorem mapM_encodeFramed {bodies : List ByteArray}
    (fits : ∀ body ∈ bodies, body.size ≤ maxLength) :
    bodies.mapM encodeFramed = .ok (bodies.map framed) := by
  induction bodies with
  | nil => rfl
  | cons body bodies ih =>
    rw [List.mapM_cons, encodeFramed_eq (fits _ List.mem_cons_self),
      ih fun other member => fits other (List.mem_cons_of_mem _ member)]
    rfl

theorem partial_empty : Partial ByteArray.empty := by
  intro body more _ same
  have size := congrArg ByteArray.size same
  rw [framed, ByteArray.size_append, ByteArray.size_append, size_encodeNat, ByteArray.size_empty]
    at size
  omega

theorem splits_framed {bodies : List ByteArray} (fits : ∀ body ∈ bodies, body.size ≤ maxLength) :
    Splits (joined (bodies.map framed)) bodies ByteArray.empty :=
  ⟨ByteArray.append_empty.symm, fits, partial_empty⟩

/-! ### A stream that is read -/

/-- What one of several calls gives; the first has number 0. -/
def StreamReader.call (r : StreamReader) : Nat → Except Failure (Option ByteArray)
  | 0 => r.readFrame.1
  | number + 1 => r.readFrame.2.call number

theorem Partial.of_append {a b : ByteArray} (short : Partial (a ++ b)) : Partial a := by
  intro body more fits same
  rw [same, ByteArray.append_assoc] at short
  exact short body _ fits rfl

namespace FrameBuffer

variable {pieces : List ByteArray}

/-- The first body of what has arrived and what is still to come is read, and nothing is lost. -/
theorem readFrame_body {b : FrameBuffer} {body more : ByteArray} (fits : body.size ≤ maxLength)
    (full : ∀ piece ∈ pieces, piece.size ≠ 0)
    (whole : b.bytes ++ joined pieces = framed body ++ more) :
    ∃ left later, b.readFrame (pieces.map .ok) =
        (.ok (some body), { buffer := left, reads := later.map .ok }) ∧
      (∀ piece ∈ later, piece.size ≠ 0) ∧ left.bytes ++ joined later = more := by
  induction pieces generalizing b with
  | nil =>
    rw [joined, ByteArray.append_empty] at whole
    have next : b.next? = some (body, ⟨more⟩) := by
      have found := next?_framed fits more
      rwa [← whole] at found
    exact ⟨⟨more⟩, [], by simp [readFrame, next], by simp, by simp [joined]⟩
  | cons piece pieces ih =>
    rw [List.map_cons, readFrame]
    cases next : b.next? with
    | some found =>
      obtain ⟨other, left⟩ := found
      obtain ⟨small, same⟩ := framed_of_next? next
      rw [same, ByteArray.append_assoc] at whole
      obtain ⟨rfl, rest⟩ := framed_inj small fits whole
      exact ⟨left, piece :: pieces, rfl, full, rest⟩
    | none =>
      have some : piece.size ≠ 0 := full _ List.mem_cons_self
      dsimp only
      rw [if_neg some]
      refine ih (fun other member => full other (List.mem_cons_of_mem _ member)) ?_
      rw [← whole, joined, append, ByteArray.append_assoc]

/-- Where no body comes to its end, everything is read up to the end of the stream. -/
theorem readFrame_end {b : FrameBuffer} (full : ∀ piece ∈ pieces, piece.size ≠ 0)
    (short : Partial (b.bytes ++ joined pieces)) :
    b.readFrame (pieces.map .ok) = (ending ⟨b.bytes ++ joined pieces⟩,
      { buffer := ⟨b.bytes ++ joined pieces⟩ }) := by
  induction pieces generalizing b with
  | nil =>
    have none : b.next? = none := (next?_eq_none_iff b).mpr short.of_append
    simp [readFrame, none, joined]
  | cons piece pieces ih =>
    have none : b.next? = none := (next?_eq_none_iff b).mpr short.of_append
    have some : piece.size ≠ 0 := full _ List.mem_cons_self
    have split : (b.append piece).bytes ++ joined pieces = b.bytes ++ joined (piece :: pieces) := by
      rw [joined, append, ByteArray.append_assoc]
    rw [← split] at short ⊢
    rw [List.map_cons, readFrame, none]
    dsimp only
    rw [if_neg some]
    exact ih (fun other member => full other (List.mem_cons_of_mem _ member)) short

end FrameBuffer

namespace StreamReader

/-- Each call gives the next body; those behind the last tell how the stream ended. -/
theorem call_eq {b : FrameBuffer} {pieces bodies : List ByteArray} {rest : ByteArray}
    (full : ∀ piece ∈ pieces, piece.size ≠ 0)
    (splits : Splits (b.bytes ++ joined pieces) bodies rest) (number : Nat) :
    call { buffer := b, reads := pieces.map .ok } number =
      match bodies[number]? with
      | some body => .ok (some body)
      | none => FrameBuffer.ending ⟨rest⟩ := by
  induction number generalizing b pieces bodies with
  | zero =>
    cases bodies with
    | nil =>
      have short : Partial (b.bytes ++ joined pieces) := splits.nil ▸ splits.short
      rw [call, readFrame, FrameBuffer.readFrame_end full short, splits.nil]
      rfl
    | cons body bodies =>
      obtain ⟨small, more, whole, _⟩ := splits.tail
      obtain ⟨left, later, read, _⟩ := FrameBuffer.readFrame_body small full whole
      rw [call, readFrame, read]
      rfl
  | succ number ih =>
    cases bodies with
    | nil =>
      have short : Partial (b.bytes ++ joined pieces) := splits.nil ▸ splits.short
      rw [call, readFrame, FrameBuffer.readFrame_end full short]
      refine @ih ⟨b.bytes ++ joined pieces⟩ [] [] (by simp) ?_
      rwa [joined, ByteArray.append_empty]
    | cons body bodies =>
      obtain ⟨small, more, whole, splits⟩ := splits.tail
      obtain ⟨left, later, read, full, same⟩ := FrameBuffer.readFrame_body small full whole
      rw [call, readFrame, read]
      exact ih full (same ▸ splits)

end StreamReader

/-- A stream falls into bodies in one way, and the pieces in which it comes make no difference.

* A buffer that is asked at any time gives the first of the bodies in order, and all of them once
  the whole stream has arrived and nothing more is given; what is left then is the rest. A buffer
  that gives nothing stays as it is.
* So bodies that were written behind their lengths are taken off as they were.
* A stream that is read gives each body and then tells how it ended: behind a frame, or within one.
-/
theorem split_in_any_pieces :
    (∀ stream, ∃! split : List ByteArray × ByteArray, Splits stream split.1 split.2) ∧
    (∀ (uses : List FrameBuffer.Use) (later rest : ByteArray) (bodies : List ByteArray),
      Splits (FrameBuffer.arrived uses ++ later) bodies rest →
      ∃ taken, FrameBuffer.Took uses (FrameBuffer.empty.run uses).1 taken ∧ taken <+: bodies ∧
        ∀ u, u = .body ∨ u = .frame →
          ((FrameBuffer.empty.run uses).2.use u).1 = .nothing →
          ((FrameBuffer.empty.run uses).2.use u).2 = (FrameBuffer.empty.run uses).2 ∧
          (later = ByteArray.empty →
            taken = bodies ∧ (FrameBuffer.empty.run uses).2.size = rest.size ∧
              (FrameBuffer.empty.run uses).2.bytes = rest)) ∧
    (∀ bodies : List ByteArray, (∀ body ∈ bodies, body.size ≤ maxLength) →
      ∃ written, bodies.mapM encodeFramed = .ok written ∧
        ∀ uses, FrameBuffer.arrived uses = joined written →
        ∃ taken, FrameBuffer.Took uses (FrameBuffer.empty.run uses).1 taken ∧ taken <+: bodies ∧
          ∀ u, u = .body ∨ u = .frame →
            ((FrameBuffer.empty.run uses).2.use u).1 = .nothing →
            taken = bodies ∧ (FrameBuffer.empty.run uses).2.size = 0) ∧
    (∀ (pieces bodies : List ByteArray) (rest : ByteArray),
      (∀ piece ∈ pieces, piece.size ≠ 0) → Splits (joined pieces) bodies rest →
      ∀ number, StreamReader.call { reads := pieces.map .ok } number =
        match bodies[number]? with
        | some body => .ok (some body)
        | none =>
          if rest.size = 0 then .ok none
          else .error (.connection ("connection closed with " ++ toString rest.size ++
            " bytes of a partial frame"))) := by
  refine ⟨fun stream => ?_, fun uses later rest bodies splits => FrameBuffer.run_splits splits,
    fun bodies fits => ?_, fun pieces bodies rest full splits number => ?_⟩
  · obtain ⟨bodies, rest, splits⟩ := Splits.exist stream
    refine ⟨(bodies, rest), splits, fun other again => ?_⟩
    obtain ⟨same, left⟩ := splits.unique again
    exact Prod.ext same left
  · refine ⟨_, mapM_encodeFramed fits, fun uses whole => ?_⟩
    have splits : Splits (FrameBuffer.arrived uses ++ ByteArray.empty) bodies ByteArray.empty := by
      rw [ByteArray.append_empty, whole]
      exact splits_framed fits
    obtain ⟨taken, took, first, done⟩ := FrameBuffer.run_splits splits
    refine ⟨taken, took, first, fun u asks nothing => ?_⟩
    obtain ⟨all, size, _⟩ := (done u asks nothing).2 rfl
    exact ⟨all, size⟩
  · refine StreamReader.call_eq full ?_ number
    rwa [show FrameBuffer.empty.bytes = ByteArray.empty from rfl, ByteArray.empty_append]

end StreamMux
