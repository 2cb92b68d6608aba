import StreamMux.Proofs.Connection.History
import StreamMux.Proofs.Exchange.Credit

/-!
# Credit along a history

The peer grants credit for a stream with the request that opens it and with every REQUEST_N that
reaches it (`granted`). What is left of it, and the items that were written, never add up to more
(`Within`); unless at some point all that may be asked for was outstanding, which stands for demand
without a bound (`Filled`).
-/
namespace StreamMux.Connection

/-- The credit that the peer grants for the stream at a place: at first with the request that opens
it, then with each REQUEST_N under its id. -/
def Event.grants (event : Event) (i : Nat) : Nat :=
  match event.deed with
  | .handles (.requestN id n) =>
    if event.before.registry.get? id = some i then n.toNat else 0
  | .handles (.payload f) =>
    if event.before.streams.size ≤ i ∧ i < event.after.streams.size then f.initial.toNat else 0
  | _ => 0

/-- All the credit that the peer granted for the stream at a place. -/
def granted : List Event → Nat → Nat
  | [], _ => 0
  | event :: past, i => event.grants i + granted past i

/-- At some point the credit outstanding for the stream was the largest. -/
def Filled (past : List Event) (i : Nat) : Prop :=
  ∃ before after, past = before ++ after ∧
    maxRequestN.toNat + countItems (sent before i) ≤ granted before i

/-- What is left of the credit of a stream, and what was spent of it, was granted. As long as items
can be written on a connection that goes on, none of it is lost. -/
structure Within (goesOn : Bool) (s : Exchange) (past : List Event) (i : Nat) : Prop where
  bounded : s.limiter.unbounded = false →
    countItems (sent past i) + s.limiter.credit ≤ granted past i
  exact : goesOn = true → s.limiter.unbounded = false → s.limiter.cancelled = false →
    s.closed.outbound = false → countItems (sent past i) + s.limiter.credit = granted past i
  room : s.limiter.unbounded = false → s.limiter.credit < maxRequestN.toNat
  unbounded : s.limiter.unbounded = true → Filled past i
  filled : Filled past i → goesOn = true → s.limiter.cancelled = false →
    s.closed.outbound = false → s.limiter.unbounded = true

variable {c d : Connection} {deed : Deed} {past : List Event} {i : Nat} {s t : Exchange}
  {goesOn wentOn : Bool}

@[simp] theorem granted_append (past next : List Event) (i : Nat) :
    granted (past ++ next) i = granted past i + granted next i := by
  induction past with
  | nil => simp [granted]
  | cons event past ih => rw [List.cons_append, granted, granted, ih, Nat.add_assoc]

@[simp] theorem granted_single (event : Event) (i : Nat) : granted [event] i = event.grants i := rfl

theorem Filled.append (h : Filled past i) (next : List Event) : Filled (past ++ next) i := by
  obtain ⟨before, after, rfl, full⟩ := h
  exact ⟨before, after ++ next, by rw [List.append_assoc], full⟩

/-- It was so before the last event, or is so after it. -/
theorem Filled.last {event : Event} (h : Filled (past ++ [event]) i) :
    Filled past i ∨ maxRequestN.toNat + countItems (sent (past ++ [event]) i) ≤
      granted (past ++ [event]) i := by
  obtain ⟨before, after, eq, full⟩ := h
  rcases List.prefix_concat_iff.mp ⟨after, eq.symm⟩ with rfl | ⟨rest, earlier⟩
  · exact .inr full
  · exact .inl ⟨before, rest, earlier.symm, full⟩

/-- An account that is exact and leaves room was not filled by the last event. -/
theorem Within.of_last {event : Event}
    (bounded : s.limiter.unbounded = false →
      countItems (sent (past ++ [event]) i) + s.limiter.credit ≤ granted (past ++ [event]) i)
    (exact : goesOn = true → s.limiter.unbounded = false → s.limiter.cancelled = false →
      s.closed.outbound = false →
      countItems (sent (past ++ [event]) i) + s.limiter.credit = granted (past ++ [event]) i)
    (room : s.limiter.unbounded = false → s.limiter.credit < maxRequestN.toNat)
    (unbounded : s.limiter.unbounded = true → Filled (past ++ [event]) i)
    (before : goesOn = true → s.limiter.unbounded = false → s.limiter.cancelled = false →
      s.closed.outbound = false → ¬ Filled past i) :
    Within goesOn s (past ++ [event]) i := by
  refine ⟨bounded, exact, room, unbounded, fun filled goes live isOpen => ?_⟩
  cases limit : s.limiter.unbounded with
  | true => rfl
  | false =>
    rcases filled.last with old | now
    · exact absurd old (before goes limit live isOpen)
    · have account := exact goes limit live isOpen
      have room := room limit
      omega

/-- What is paid for what it writes stays within the credit. -/
theorem Within.spend {event : Event} {frames : List Frame} (h : Within wentOn s past i)
    (spends : s.Spends t frames) (stays : goesOn = true → wentOn = true)
    (opens : t.closed.outbound = false → s.closed.outbound = false)
    (none : event.grants i = 0 ∨ s.limiter.unbounded = true ∨ s.limiter.cancelled = true)
    (sent : event.before.enqueuedFor event.after i = if wentOn then frames else []) :
    Within goesOn t (past ++ [event]) i := by
  have total : countItems (Connection.sent (past ++ [event]) i) =
      countItems (Connection.sent past i) + countItems (if wentOn then frames else []) := by
    simp [sent]
  -- What is not enqueued any more was paid for nevertheless.
  have fewer : countItems (if wentOn then frames else []) ≤ countItems frames := by
    cases wentOn
    · exact Nat.zero_le _
    · exact Nat.le_refl _
  have more : granted (past ++ [event]) i = granted past i + event.grants i := by simp
  refine .of_last (fun bounded => ?_) (fun goes bounded live isOpen => ?_) (fun bounded => ?_)
    (fun unbounded => ?_) (fun goes bounded live isOpen filled => ?_)
  · rw [spends.unbounded] at bounded
    have before := h.bounded bounded
    have paid := spends.paid bounded
    omega
  · rw [spends.unbounded] at bounded
    have before := h.exact (stays goes) bounded (spends.live live) (opens isOpen)
    have paid := spends.exact bounded isOpen
    rw [stays goes, if_pos rfl] at total
    have same : event.grants i = 0 := by
      rcases none with zero | unbounded | cancelled
      · exact zero
      · simp [bounded] at unbounded
      · simp [spends.live live] at cancelled
    omega
  · rw [spends.unbounded] at bounded
    have before := h.room bounded
    have paid := spends.paid bounded
    omega
  · exact (h.unbounded (spends.unbounded ▸ unbounded)).append _
  · have unbounded := h.filled filled (stays goes) (spends.live live) (opens isOpen)
    rw [spends.unbounded, unbounded] at bounded
    contradiction

/-- Nothing is written, and nothing is spent. -/
theorem Within.keep {event : Event} (h : Within wentOn s past i) (kept : s.limiter.Kept t.limiter)
    (stays : goesOn = true → wentOn = true)
    (opens : t.closed.outbound = false → s.closed.outbound = false)
    (none : event.grants i = 0 ∨ s.limiter.unbounded = true ∨ s.limiter.cancelled = true)
    (silent : event.before.enqueuedFor event.after i = []) :
    Within goesOn t (past ++ [event]) i := by
  have unspent : s.Spends t [] := .of_kept kept rfl
  exact h.spend unspent stays opens none (by simp [silent])

/-- What the peer grants is added. -/
theorem Within.grant {event : Event} {n : Nat} (h : Within wentOn s past i)
    (sends : s.kind.needsCredit = true) (stays : goesOn = true → wentOn = true)
    (given : event.grants i = n) (silent : event.before.enqueuedFor event.after i = []) :
    Within goesOn (s.grant n) (past ++ [event]) i := by
  have total : countItems (sent (past ++ [event]) i) = countItems (sent past i) := by simp [silent]
  have more : granted (past ++ [event]) i = granted past i + n := by simp [given]
  have closed : (s.grant n).closed = s.closed := by rw [Exchange.grant, if_pos sends]
  rcases s.grant_adds n sends with
    ⟨kept, nothing⟩ | ⟨was, now, live, added, room⟩ | ⟨was, now, full⟩
  · refine h.keep kept stays (fun isOpen => closed ▸ isOpen) ?_ silent
    rw [given]
    exact nothing.imp_right Or.symm
  · have before := h.bounded was
    refine .of_last (fun _ => by omega) (fun goes _ alive isOpen => ?_) (fun _ => by omega)
      (fun unbounded => by simp [now] at unbounded) fun goes _ alive isOpen filled => ?_
    · have before := h.exact (stays goes) was (live ▸ alive) (closed ▸ isOpen)
      omega
    · have unbounded := h.filled filled (stays goes) (live ▸ alive) (closed ▸ isOpen)
      simp [was] at unbounded
  · have before := h.bounded was
    refine .of_last (fun bounded => by simp [now] at bounded)
      (fun _ bounded => by simp [now] at bounded) (fun bounded => by simp [now] at bounded)
      (fun _ => ⟨past ++ [event], [], by simp, by omega⟩)
      (fun _ bounded => by simp [now] at bounded)

/-- A stream starts with the credit that the request which opens it grants. -/
theorem Within.born {event : Event} {initial : Nat} (fresh : sent past i = [])
    (ungranted : granted past i = 0) (unfilled : ¬ Filled past i)
    (kept : (Limiter.new initial).Kept s.limiter) (given : event.grants i = initial)
    (silent : countItems (event.before.enqueuedFor event.after i) = 0) :
    Within goesOn s (past ++ [event]) i := by
  have total : countItems (sent (past ++ [event]) i) = 0 := by simp [fresh, silent]
  have all : granted (past ++ [event]) i = initial := by simp [given, ungranted]
  by_cases full : maxRequestN.toNat ≤ 0 + initial
  · have start : Limiter.new initial = { credit := maxRequestN.toNat, unbounded := true } := by
      simp only [Limiter.new, Limiter.add, Bool.false_eq_true, if_false]
      rw [if_pos full]
    have unbounded : s.limiter.unbounded = true := by rw [kept.unbounded, start]
    refine .of_last (fun bounded => by simp [unbounded] at bounded)
      (fun _ bounded => by simp [unbounded] at bounded)
      (fun bounded => by simp [unbounded] at bounded)
      (fun _ => ⟨past ++ [event], [], by simp, by omega⟩)
      (fun _ bounded => by simp [unbounded] at bounded)
  · have start : Limiter.new initial = { credit := 0 + initial } := by
      simp only [Limiter.new, Limiter.add, Bool.false_eq_true, if_false]
      rw [if_neg full]
    have credit : s.limiter.credit = initial := by rw [kept.credit, start, Nat.zero_add]
    have bounded : s.limiter.unbounded = false := by rw [kept.unbounded, start]
    exact .of_last (fun _ => by omega) (fun _ _ _ _ => by omega) (fun _ => by omega)
      (fun unbounded => by simp [bounded] at unbounded) (fun _ _ _ _ => unfilled)

/-! ### Histories -/

theorem Does.grants_unplaced (h : c.Sound) (later : c.Later d) (beyond : d.streams.size ≤ i) :
    Event.grants ⟨c, deed, d⟩ i = 0 := by
  unfold Event.grants
  dsimp only
  split
  · split
    next named =>
      exact absurd (h.placed named).1 (Nat.not_lt_of_le (Nat.le_trans later.size beyond))
    · rfl
  · rw [if_neg fun placed => Nat.not_lt_of_le beyond placed.2]
  · rfl

/-- Nothing is granted for a stream before it is there. -/
theorem History.granted_unplaced (history : History c past d) (h : c.Sound)
    (beyond : d.streams.size ≤ i) : granted past i = 0 := by
  induction history with
  | start => rfl
  | step history does ih =>
    have sound := history.sound h
    have later := does.later sound
    rw [granted_append, granted_single, ih (Nat.le_trans later.size beyond),
      Does.grants_unplaced sound later beyond]

/-- Less than the largest number was granted in all, so that less was outstanding. -/
theorem not_filled_of_granted (less : granted past i < maxRequestN.toNat) : ¬ Filled past i := by
  rintro ⟨before, after, rfl, full⟩
  rw [granted_append] at less
  omega

/-- Where credit is granted for a stream that was there, the stream gets it. -/
theorem Does.gets (h : c.Sound) (does : Does c deed d) (placed : i < c.streams.size)
    (more : Event.grants ⟨c, deed, d⟩ i ≠ 0) :
    d.stream i = (c.stream i).grant (Event.grants ⟨c, deed, d⟩ i) ∧ c.enqueuedFor d i = [] := by
  unfold Event.grants at more ⊢
  dsimp only at more ⊢
  cases does with
  | handles keepsItems now frame =>
    cases frame with
    | requestN id n =>
      dsimp only at more ⊢
      split at more
      next named =>
        have eq : (c.dispatch keepsItems now (.requestN id n)).1 =
            c.stepWriting i ((Exchange.Move.grant n.toNat).apply ·) := by
          simp only [dispatch, stepRegistered, named]
          rfl
        have effect := (Exchange.Move.grant n.toNat).effect (h.coherent i placed) trivial
        rw [eq, if_pos named]
        refine ⟨(stream_commit c placed _ _ i).trans (if_pos rfl), ?_⟩
        refine (enqueuedFor_moved h placed effect i).trans ?_
        simp [Exchange.Move.apply]
      · contradiction
    | payload f =>
      dsimp only at more
      rw [if_neg fun fresh => Nat.not_lt_of_le fresh.1 placed] at more
      contradiction
    | _ => contradiction
  | _ => contradiction

/-- A deed keeps every stream within its credit. -/
theorem Does.within (h : c.Sound) (does : Does c deed d) (placed : i < c.streams.size)
    (kind : (c.stream i).kind.needsCredit = true)
    (before : Within c.isActive (c.stream i) past i) :
    Within d.isActive (d.stream i) (past ++ [⟨c, deed, d⟩]) i := by
  have stays : d.isActive = true → c.isActive = true := (does.outcome h).isActive
  have opens (isOpen : (d.stream i).closed.outbound = false) :
      (c.stream i).closed.outbound = false := by
    refine Bool.eq_false_iff.mpr fun closed => ?_
    simp [((does.later h).streams i placed).outbound closed] at isOpen
  by_cases given : Event.grants ⟨c, deed, d⟩ i = 0
  · cases does.fate h placed with
    | spared same silent =>
      exact before.keep (same ▸ .refl _) stays opens (.inl given) silent
    | failed cause live halted eq silent =>
      rw [eq] at opens ⊢
      exact before.keep (Exchange.fail_credit _ cause) stays opens (.inl given) silent
    | moved m fits touches eq sent =>
      rw [eq] at opens ⊢
      cases touches with
      | @grant id n named =>
        refine before.grant kind stays (by simp [Event.grants, named]) ?_
        simpa [Exchange.Move.apply] using sent
      | own own =>
        refine before.spend (Exchange.Move.spends fits kind ?_) stays opens (.inl given) sent
        rintro n rfl
        simp [Exchange.Move.isLocal] at own
      | _ =>
        exact before.spend (Exchange.Move.spends fits kind (by simp)) stays opens (.inl given) sent
  · obtain ⟨eq, silent⟩ := does.gets h placed given
    rw [eq]
    exact before.grant kind stays rfl silent

theorem Birth.within (birth : Birth c d i deed) (fresh : c.streams.size ≤ i)
    (placed : i < d.streams.size) (kind : (d.stream i).kind.needsCredit = true)
    (unsent : sent past i = []) (ungranted : granted past i = 0) :
    Within goesOn (d.stream i) (past ++ [⟨c, deed, d⟩]) i := by
  have unfilled : ¬ Filled past i := not_filled_of_granted (by rw [ungranted]; decide)
  cases birth with
  | response id payload nonzero eq sent =>
    simp [eq, Exchange.requesterResponse, StreamKind.needsCredit] at kind
  | stream id batch payload nonzero eq sent =>
    simp [eq, Exchange.requesterStream, StreamKind.needsCredit] at kind
  | channel id batch nonzero eq silent =>
    have kept : (Limiter.new 0).Kept (d.stream i).limiter := by
      rw [eq]
      exact .refl _
    exact .born unsent ungranted unfilled kept rfl (by rw [silent]; rfl)
  | responder f kind uptake opens foreign eq sent =>
    have credit := Exchange.receive_credit (.responder f.id kind f.initial) uptake f
    refine .born unsent ungranted unfilled (eq ▸ credit.1) ?_ ?_
    · simp [Event.grants, fresh, placed]
    · dsimp only
      rw [sent]
      split
      · exact credit.2
      · rfl

/-- Every stream of which items leave this end is within its credit, at every point. -/
theorem History.within (history : History c past d) (h : c.Sound) (empty : c.streams.size = 0)
    (placed : i < d.streams.size) (kind : (d.stream i).kind.needsCredit = true) :
    Within d.isActive (d.stream i) past i := by
  induction history with
  | start => omega
  | @step d e deed past history does ih =>
    have sound := history.sound h
    by_cases before : i < d.streams.size
    · rw [((does.later sound).streams i before).kind] at kind
      exact does.within sound before kind (ih before kind)
    · have fresh := Nat.le_of_not_lt before
      exact (does.birth sound fresh placed).within fresh placed kind
        ((history.run.disciplined h empty).unplaced i fresh) (history.granted_unplaced h fresh)

end StreamMux.Connection
