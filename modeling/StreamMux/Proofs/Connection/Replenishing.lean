import StreamMux.Proofs.Connection.Terminal
import StreamMux.Proofs.Exchange.Replenishing
import StreamMux.Proofs.Trace

/-!
# How a consumer replenishes the credit of the peer

The peer of a stream may send as many items as the request of this end asks for, and as many more
as each REQUEST_N says (`requested`). Between what was asked for and what the consumer has taken
(`delivered`) stands an exact account (`Account`), as long as the request asks for one batch
(`OpenedFor`), the peer sends no more than it may (`Honest`) and the connection goes on. Hence never
more than one batch is outstanding, a consumer that waits has something to wait for once the peer
knows of the stream, and more is asked for only once all was taken (`Replenished`).
-/
namespace StreamMux
namespace Connection

/-- How many items a frame of the peer makes come in for the stream at a place. -/
def Event.brings (event : Event) (i : Nat) : Nat :=
  match event.deed with
  | .handles _ => (event.after.stream i).buffered - (event.before.stream i).buffered
  | _ => 0

/-- All items of the peer that came in for the stream at a place. -/
def brought (past : List Event) (i : Nat) : Nat := (past.map (·.brings i)).sum

/-- How many items the consumer of the stream at a place was given. -/
def delivered (past : List Event) (i : Nat) : Nat := (told past i).countP isDelivery

/-- How many items this end asked for, with its request for the stream and with REQUEST_N. -/
def requested (past : List Event) (i : Nat) : Nat := ((sent past i).map (·.asksFor)).sum

/-- The request of this end for the stream at a place, if there was one, asked for one batch. -/
def OpenedFor (batch : UInt32) (past : List Event) (i : Nat) : Prop :=
  ∀ f, .payload f ∈ sent past i → f.type.hasInitialRequest = true → f.initial = batch

/-- At no point has the peer sent more items than it may. -/
def Honest (past : List Event) (i : Nat) : Prop :=
  ∀ before after, past = before ++ after → brought before i ≤ requested before i

/-- It is enough to look at as many points as there are events. -/
theorem honest_iff (past : List Event) (i : Nat) : Honest past i ↔
    ∀ n ≤ past.length, brought (past.take n) i ≤ requested (past.take n) i := by
  refine ⟨fun honest n _ => honest _ _ (List.take_append_drop n past).symm,
    fun honest before after split => ?_⟩
  have bound : before.length ≤ past.length := by simp [split]
  have early := honest before.length bound
  rwa [split, List.take_left] at early

instance (past : List Event) (i : Nat) : Decidable (Honest past i) :=
  decidable_of_iff _ (honest_iff past i).symm

/-- What was asked for up to each point, and when. -/
structure Replenished (batch : UInt32) (past : List Event) (i : Nat) : Prop where
  /-- Not more than one batch is outstanding. -/
  bounded : ∀ before after, past = before ++ after →
    requested before i ≤ delivered before i + batch.toNat
  /-- As long as the connection goes on, a consumer that waits on a stream that the peer knows of
  has something to wait for. -/
  waiting : batch < maxRequestN → ∀ before event after, past = before ++ event :: after →
    event.before.isActive = true → (event.before.stream i).initiated = true →
    event.told i = [.pending] →
      delivered (before ++ [event]) i + 1 ≤ requested (before ++ [event]) i
  /-- A batch is asked for by a consumer that finds nothing, when all that was asked for before was
  taken. -/
  asks : ∀ before event after, past = before ++ event :: after →
    ∀ id n, .requestN id n ∈ event.before.enqueuedFor event.after i →
      n = batch ∧ event.deed = .act i .poll ∧ event.told i = [.pending] ∧
        delivered before i = requested before i
  /-- What stands for "without end" is asked for only where nothing was asked for before. -/
  once : ¬ batch < maxRequestN → ∀ before event after, past = before ++ event :: after →
    ∀ id n, .requestN id n ∈ event.before.enqueuedFor event.after i → requested before i = 0

variable {c d e : Connection} {deed : Deed} {past : List Event} {i : Nat} {s t : Exchange}

/-! ### Accounts of events -/

@[simp] theorem brought_append (past next : List Event) (i : Nat) :
    brought (past ++ next) i = brought past i + brought next i := by
  simp [brought]

@[simp] theorem delivered_append (past next : List Event) (i : Nat) :
    delivered (past ++ next) i = delivered past i + delivered next i := by
  simp [delivered]

@[simp] theorem requested_append (past next : List Event) (i : Nat) :
    requested (past ++ next) i = requested past i + requested next i := by
  simp [requested]

@[simp] theorem brought_single (event : Event) (i : Nat) : brought [event] i = event.brings i := by
  simp [brought]

theorem delivered_single (event : Event) (i : Nat) :
    delivered [event] i = (event.told i).countP isDelivery := by
  simp [delivered, told]

theorem requested_single (event : Event) (i : Nat) : requested [event] i =
    ((event.before.enqueuedFor event.after i).map (·.asksFor)).sum := by
  simp [requested]

theorem Honest.of_append {next : List Event} (h : Honest (past ++ next) i) : Honest past i :=
  fun before after split => h before (after ++ next) (by rw [split, List.append_assoc])

theorem Honest.now (h : Honest past i) : brought past i ≤ requested past i :=
  h past [] (List.append_nil _).symm

theorem OpenedFor.of_append {batch : UInt32} {next : List Event}
    (h : OpenedFor batch (past ++ next) i) : OpenedFor batch past i :=
  fun f written => h f (by rw [sent_append]; exact List.mem_append_left _ written)

/-- What the last event asked for with a request. -/
theorem OpenedFor.last {batch : UInt32} {event : Event} (h : OpenedFor batch (past ++ [event]) i) :
    ∀ f, .payload f ∈ event.before.enqueuedFor event.after i → f.type.hasInitialRequest = true →
      f.initial = batch :=
  fun f written => h f (by rw [sent_append, sent_single]; exact List.mem_append_right _ written)

/-! ### Before anything is taken -/

/-- Nobody waited, took an item or asked for any. -/
def Plain (past : List Event) (i : Nat) : Prop :=
  ∀ event ∈ past, (∀ answer ∈ event.told i, answer = .ready none) ∧
    ∀ f ∈ event.before.enqueuedFor event.after i, f.isAsking = false

theorem Plain.snoc {event : Event} (plain : Plain past i)
    (told : ∀ answer ∈ event.told i, answer = .ready none)
    (silent : ∀ f ∈ event.before.enqueuedFor event.after i, f.isAsking = false) :
    Plain (past ++ [event]) i := by
  intro other member
  rcases List.mem_append.mp member with early | last
  · exact plain other early
  · rw [List.mem_singleton.mp last]
    exact ⟨told, silent⟩

theorem Plain.none (plain : Plain past i) : requested past i = 0 ∧ delivered past i = 0 := by
  induction past with
  | nil => exact ⟨rfl, rfl⟩
  | cons event past ih =>
    obtain ⟨requests, deliveries⟩ := ih fun other member =>
      plain other (List.mem_cons_of_mem _ member)
    obtain ⟨told, silent⟩ := plain event List.mem_cons_self
    rw [← List.singleton_append, requested_append, delivered_append, requests, deliveries,
      requested_single, delivered_single, sum_asksFor_eq_zero silent]
    refine ⟨rfl, List.countP_eq_zero.mpr fun answer member => ?_⟩
    rw [told answer member]
    simp [isDelivery]

theorem History.plain_unplaced (history : History c past d) (h : c.Sound)
    (empty : c.streams.size = 0) (beyond : d.streams.size ≤ i) : Plain past i := by
  induction history with
  | start => simp [Plain]
  | @step d e deed past history does ih =>
    have sound := history.sound h
    have before := Nat.le_trans (does.later sound).size beyond
    have unsent := ((history.step does).run.disciplined h empty).unplaced i beyond
    rw [sent_append, sent_single, List.append_eq_nil_iff] at unsent
    refine (ih before).snoc ?_ ?_
    · rw [told_other _ ?_]
      · simp
      · rintro rfl
        cases does with
        | act _ _ own placed fits => omega
    · rw [unsent.2]
      simp

/-! ### What a deed does to those who take items -/

/-- Whatever is done but asking for the next item, who takes items stays, what comes in is the
peer's, and what is written asks for nothing but what the request for a channel does. -/
theorem Does.tends (h : c.Sound) (does : Does c deed d) (placed : i < c.streams.size)
    (other : deed ≠ .act i .poll) : ∃ frames,
      (c.stream i).Tends (d.stream i) frames (Event.brings ⟨c, deed, d⟩ i) ∧
      (c.stream i).Opens (d.stream i) frames ∧
      c.enqueuedFor d i = if c.isActive then frames else [] := by
  -- What comes in is counted by the inbox: where the deed is not the peer's, nothing does.
  have counted {frames : List Frame} {come : Nat}
      (tends : (c.stream i).Tends (d.stream i) frames come)
      (own : (∀ frame, deed ≠ .handles frame) → come = 0) :
      Event.brings ⟨c, deed, d⟩ i = come := by
    unfold Event.brings
    dsimp only
    split
    · rw [tends.buffered, Nat.add_sub_cancel_left]
    next other => exact (own other).symm
  have still (tends : (c.stream i).Tends (d.stream i) [] 0)
      (same : (d.stream i).initiated = (c.stream i).initiated)
      (silent : c.enqueuedFor d i = []) : ∃ frames,
        (c.stream i).Tends (d.stream i) frames (Event.brings ⟨c, deed, d⟩ i) ∧
        (c.stream i).Opens (d.stream i) frames ∧
        c.enqueuedFor d i = if c.isActive then frames else [] := by
    rw [counted tends fun _ => rfl]
    exact ⟨[], tends, .silent same (by simp), by rw [silent, ite_self]⟩
  cases does.fate h placed with
  | spared same silent =>
    exact still (.of_same (same ▸ rfl) (same ▸ rfl) (by simp)) (same ▸ rfl) silent
  | failed cause live halted eq silent =>
    refine still (eq ▸ Exchange.fail_tends _ cause) ?_ silent
    obtain ⟨inbox, answer, failed⟩ := (c.stream i).fail_eq cause
    rw [eq, failed]
  | moved m fits touches eq sent =>
    have asks : m ≠ .poll := by
      rintro rfl
      exact other (touches.own_eq rfl)
    obtain ⟨come, tends, none⟩ := Exchange.Move.tends (s := c.stream i) asks
    have opens := (m.effect (h.coherent i placed) fits).opening tends.silent
    rw [← eq] at tends opens
    rw [counted tends fun quiet => none fun uptake f same => ?_]
    · exact ⟨_, tends, opens, sent⟩
    · subst same
      cases touches with
      | own own => simp [Exchange.Move.isLocal] at own
      | receive uptake named inner => exact quiet _ rfl

/-- A stream that the peer knows of is not asked for anything but by its consumer. -/
theorem Does.unasking (h : c.Sound) (does : Does c deed d) (placed : i < c.streams.size)
    (other : deed ≠ .act i .poll) (known : (c.stream i).initiated = true) :
    ∀ f ∈ c.enqueuedFor d i, f.isAsking = false := by
  obtain ⟨frames, _, opens, sent⟩ := does.tends h placed other
  rw [sent]
  split
  · exact (opens.of_known known).2
  · simp

/-- Once the connection is over, nothing is enqueued for a stream that was there. -/
theorem Does.silent (h : c.Sound) (does : Does c deed d) (placed : i < c.streams.size)
    (halted : c.isActive = false) : c.enqueuedFor d i = [] := by
  cases does.fate h placed with
  | spared same silent => exact silent
  | moved m fits touches eq sent => rw [sent, halted, if_neg (by simp)]
  | failed cause live halted eq silent => exact silent

/-- A consumer that asks for the next item. -/
theorem Does.polls (h : c.Sound) (does : Does c (.act i .poll) d) : i < c.streams.size ∧
    d.stream i = (c.stream i).poll.2.1 ∧
    Event.told ⟨c, .act i .poll, d⟩ i = [(c.stream i).poll.1] ∧
    Event.brings ⟨c, .act i .poll, d⟩ i = 0 ∧
    c.enqueuedFor d i = if c.isActive then (c.stream i).poll.2.2 else [] := by
  cases does with
  | act _ _ own placed fits =>
    have effect := Exchange.poll_effect (h.coherent i placed)
    refine ⟨placed, (stream_commit c placed _ _ i).trans (if_pos rfl), ?_, rfl, ?_⟩
    · simp [Event.told, pollItem]
    · exact (enqueuedFor_moved h placed effect i).trans (if_pos rfl)

theorem Does.keeps_kind (h : c.Sound) (does : Does c deed d) (placed : i < c.streams.size) :
    (d.stream i).kind = (c.stream i).kind := ((does.later h).streams i placed).kind

/-- How a stream starts for those who take items from it. -/
structure Begins (c d : Connection) (deed : Deed) (i : Nat) : Prop where
  untold : Event.told ⟨c, deed, d⟩ i = []
  brings : Event.brings ⟨c, deed, d⟩ i = (d.stream i).buffered
  taker : ∀ taker, (d.stream i).consumer = some taker → 1 ≤ taker.batch.toNat ∧
    taker.delivered = 0 ∧ (d.stream i).Starts taker (c.enqueuedFor d i)
  silent : (d.stream i).kind.isRequester = false → ∀ f ∈ c.enqueuedFor d i, f.isAsking = false
  fresh : (d.stream i).kind = .responderChannel → (d.stream i).started = false →
    (d.stream i).consumer = none

theorem buffered_unplaced (beyond : c.streams.size ≤ i) : (c.stream i).buffered = 0 := by
  rw [Connection.stream, Array.getElem?_eq_none beyond]
  rfl

theorem Birth.begins (birth : Birth c d i deed) (fresh : c.streams.size ≤ i) :
    Begins c d deed i := by
  cases birth with
  | response id payload nonzero eq sent =>
    exact
      { untold := rfl
        brings := by rw [eq]; rfl
        taker := fun taker takes => by rw [eq] at takes; cases takes
        silent := fun foreign => by rw [eq] at foreign; cases foreign
        fresh := fun kind => by rw [eq] at kind; cases kind }
  | stream id batch payload nonzero eq sent =>
    refine
      { untold := rfl
        brings := by rw [eq]; rfl
        taker := fun taker takes => ?_
        silent := fun foreign => by rw [eq] at foreign; cases foreign
        fresh := fun kind => by rw [eq] at kind; cases kind }
    rw [eq] at takes ⊢
    cases takes
    exact ⟨Exchange.at_least_one batch, rfl, .stream _ rfl rfl rfl sent⟩
  | channel id batch nonzero eq silent =>
    refine
      { untold := rfl
        brings := by rw [eq]; rfl
        taker := fun taker takes => ?_
        silent := fun foreign => by rw [eq] at foreign; cases foreign
        fresh := fun kind => by rw [eq] at kind; cases kind }
    rw [eq] at takes ⊢
    cases takes
    exact ⟨Exchange.at_least_one batch, rfl, .channel rfl rfl silent⟩
  | responder f kind uptake opens foreign eq sent =>
    obtain ⟨come, tends⟩ := (Exchange.responder f.id kind f.initial).receive_tends uptake f
    have answers := ofRequest?_answers opens
    have effect := Exchange.receive_effect (responder_coherent f.id f.initial answers) uptake f
    obtain ⟨known, quiet⟩ := (effect.opening tends.silent).of_known rfl
    have silent : ∀ g ∈ c.enqueuedFor d i, g.isAsking = false := by
      rw [sent]
      split
      · exact quiet
      · simp
    refine
      { untold := rfl
        brings := by simp [Event.brings, buffered_unplaced fresh]
        taker := fun taker takes => ?_
        silent := fun _ => silent
        fresh := fun _ unstarted => ?_ }
    · rw [eq] at takes ⊢
      rcases tends.taker taker takes with former | ⟨_, _, _, due, none, positive⟩
      · cases former
      · exact ⟨positive, none, .due known due silent⟩
    · rw [eq] at unstarted ⊢
      cases takes : ((Exchange.responder f.id kind f.initial).receive uptake f).stream.consumer with
      | none => rfl
      | some taker =>
        rcases tends.taker taker takes with former | ⟨_, _, started, _⟩
        · cases former
        · rw [started] at unstarted
          contradiction

/-! ### Histories -/

theorem History.brought_unplaced (history : History c past d) (h : c.Sound)
    (beyond : d.streams.size ≤ i) : brought past i = 0 := by
  induction history with
  | start => rfl
  | @step d e deed past history does ih =>
    have before := Nat.le_trans (does.later (history.sound h)).size beyond
    rw [brought_append, brought_single, ih before, Event.brings]
    split
    · simp [buffered_unplaced before, buffered_unplaced beyond]
    · rfl

/-- All that came in was taken or waits. -/
theorem History.taken (history : History c past d) (h : c.Sound) (empty : c.streams.size = 0)
    (placed : i < d.streams.size) : brought past i = delivered past i + (d.stream i).buffered := by
  induction history with
  | start => omega
  | @step d e deed past history does ih =>
    have sound := history.sound h
    rw [brought_append, brought_single, delivered_append, delivered_single]
    by_cases before : i < d.streams.size
    · have former := ih before
      by_cases asks : deed = .act i .poll
      · subst asks
        obtain ⟨_, eq, told, none, _⟩ := does.polls sound
        have given := (d.stream i).poll_buffered
        rw [told, none, eq]
        omega
      · obtain ⟨_, tends, _⟩ := does.tends sound before asks
        have come := tends.buffered
        rw [told_other ⟨d, deed, e⟩ asks, List.countP_nil]
        omega
    · have beyond := Nat.le_of_not_lt before
      have begins := (does.birth sound beyond placed).begins beyond
      rw [begins.untold, begins.brings, history.brought_unplaced h beyond,
        (history.plain_unplaced h empty beyond).none.2]
      simp

/-- A channel of the peer that was not taken up yet. -/
theorem History.fresh (history : History c past d) (h : c.Sound) (empty : c.streams.size = 0)
    (placed : i < d.streams.size) (kind : (d.stream i).kind = .responderChannel)
    (unstarted : (d.stream i).started = false) : (d.stream i).consumer = none ∧ Plain past i := by
  induction history with
  | start => omega
  | @step d e deed past history does ih =>
    have sound := history.sound h
    by_cases before : i < d.streams.size
    · have kind : (d.stream i).kind = .responderChannel :=
        (does.keeps_kind sound before).symm.trans kind
      have earlier : (d.stream i).started = false := Bool.eq_false_iff.mpr fun started => by
        simp [((does.later sound).streams i before).started started] at unstarted
      obtain ⟨nobody, plain⟩ := ih before kind earlier
      by_cases asks : deed = .act i .poll
      · subst asks
        obtain ⟨_, eq, told, _, sent⟩ := does.polls sound
        rw [(d.stream i).poll_nobody nobody] at eq told sent
        exact ⟨eq ▸ nobody, plain.snoc (by simp [told]) (by simp [sent])⟩
      · obtain ⟨_, tends, _⟩ := does.tends sound before asks
        have known := (sound.coherent i before).initiated (by simp [kind])
        refine ⟨?_, plain.snoc (by simp [told_other ⟨d, deed, e⟩ asks])
          (does.unasking sound before asks known)⟩
        cases takes : (e.stream i).consumer with
        | none => rfl
        | some taker =>
          rcases tends.taker taker takes with former | ⟨_, _, started, _⟩
          · rw [nobody] at former
            contradiction
          · rw [started] at unstarted
            contradiction
    · have beyond := Nat.le_of_not_lt before
      have begins := (does.birth sound beyond placed).begins beyond
      exact ⟨begins.fresh kind unstarted, (history.plain_unplaced h empty beyond).snoc
        (by simp [begins.untold]) (begins.silent (by rw [kind]; rfl))⟩

/-! ### The account of a consumer -/

/-- Where a consumer stands: how much was asked for, how much it was given, and how much of its
batch it has taken. -/
structure Account (s : Exchange) (taker : Consumer) (past : List Event) (i : Nat) : Prop where
  positive : 1 ≤ taker.batch.toNat
  /-- Nothing was asked for yet. -/
  due : taker.grantDue = true → s.initiated = true ∧ taker.delivered = 0 ∧
    requested past i = 0 ∧ delivered past i = 0
  exact : taker.grantDue = false → taker.batch < maxRequestN →
    s.pledged taker.batch + requested past i + taker.delivered =
      delivered past i + taker.batch.toNat
  endless : ¬ taker.batch < maxRequestN → s.pledged taker.batch + requested past i ≤
    taker.batch.toNat

theorem pledged_known (known : s.initiated = true) (batch : UInt32) : s.pledged batch = 0 :=
  if_pos known

/-- Not more than one batch is outstanding or pledged. -/
theorem Account.bounded {taker : Consumer} (account : Account s taker past i) :
    s.pledged taker.batch + requested past i ≤ delivered past i + taker.batch.toNat := by
  by_cases limited : taker.batch < maxRequestN
  · cases due : taker.grantDue with
    | true =>
      obtain ⟨known, _, unasked, _⟩ := account.due due
      rw [pledged_known known]
      omega
    | false =>
      have exact := account.exact due limited
      omega
  · have endless := account.endless limited
    omega

namespace Replenished

variable {batch : UInt32}

/-- One event more. -/
theorem snoc {event : Event} (h : Replenished batch past i)
    (bounded : requested (past ++ [event]) i ≤ delivered (past ++ [event]) i + batch.toNat)
    (waiting : batch < maxRequestN → event.before.isActive = true →
      (event.before.stream i).initiated = true → event.told i = [.pending] →
      delivered (past ++ [event]) i + 1 ≤ requested (past ++ [event]) i)
    (asks : ∀ id n, .requestN id n ∈ event.before.enqueuedFor event.after i →
      (n = batch ∧ event.deed = .act i .poll ∧ event.told i = [.pending] ∧
        delivered past i = requested past i) ∧
      (¬ batch < maxRequestN → requested past i = 0)) :
    Replenished batch (past ++ [event]) i where
  bounded before after split := by
    rcases List.prefix_concat_iff.mp ⟨after, split.symm⟩ with rfl | ⟨rest, earlier⟩
    · exact bounded
    · exact h.bounded before rest earlier.symm
  waiting limited before other after split active known told := by
    rcases split_snoc split with ⟨rfl, rfl⟩ | ⟨rest, split⟩
    · exact waiting limited active known told
    · exact h.waiting limited before other rest split active known told
  asks before other after split id n written := by
    rcases split_snoc split with ⟨rfl, rfl⟩ | ⟨rest, split⟩
    · exact (asks id n written).1
    · exact h.asks before other rest split id n written
  once endless before other after split id n written := by
    rcases split_snoc split with ⟨rfl, rfl⟩ | ⟨rest, split⟩
    · exact (asks id n written).2 endless
    · exact h.once endless before other rest split id n written

/-- One event more, at which nobody waits and no REQUEST_N is written. -/
theorem still {event : Event} (h : Replenished batch past i)
    (told : ∀ answer ∈ event.told i, answer = .ready none)
    (unasked : ∀ f ∈ event.before.enqueuedFor event.after i, f.isRequestN = false)
    (bounded : requested (past ++ [event]) i ≤ delivered (past ++ [event]) i + batch.toNat) :
    Replenished batch (past ++ [event]) i := by
  refine h.snoc bounded (fun _ _ _ pending => ?_) fun id n written => ?_
  · have none := told .pending (by simp [pending])
    contradiction
  · have silent := unasked _ written
    contradiction

/-- One event more, after the end of the connection. -/
theorem halted {event : Event} (h : Replenished batch past i)
    (halted : event.before.isActive = false)
    (silent : event.before.enqueuedFor event.after i = []) :
    Replenished batch (past ++ [event]) i := by
  refine h.snoc ?_ (fun _ active => ?_) fun id n written => ?_
  · have bounded := h.bounded past [] (List.append_nil _).symm
    rw [requested_append, requested_single, silent, delivered_append]
    exact Nat.le_trans bounded (by omega)
  · rw [halted] at active
    contradiction
  · rw [silent] at written
    contradiction

end Replenished

/-- What one event means for the account of a consumer. -/
structure Settles (s : Exchange) (taker : Consumer) (past : List Event) (event : Event) (i : Nat) :
    Prop where
  account : Account s taker (past ++ [event]) i
  waiting : taker.batch < maxRequestN → s.initiated = true → event.told i = [.pending] →
    delivered (past ++ [event]) i + 1 ≤ requested (past ++ [event]) i
  asks : ∀ id n, .requestN id n ∈ event.before.enqueuedFor event.after i →
    (n = taker.batch ∧ event.deed = .act i .poll ∧ event.told i = [.pending] ∧
      delivered past i = requested past i) ∧
    (¬ taker.batch < maxRequestN → requested past i = 0)

namespace Account

variable {taker later : Consumer} {event : Event}

/-- An event at which no REQUEST_N is written. -/
theorem unasking (account : Account s taker past i)
    (batch : later.batch = taker.batch) (stays : later.grantDue = taker.grantDue)
    (counts : later.delivered = taker.delivered + (event.told i).countP isDelivery)
    (given : taker.grantDue = true → (event.told i).countP isDelivery = 0)
    (waiting : event.told i = [.pending] → taker.grantDue = false ∧
      (taker.batch < maxRequestN → taker.delivered < taker.batch.toNat))
    (opens : s.Opens t (event.before.enqueuedFor event.after i))
    (asked : OpenedFor taker.batch (past ++ [event]) i)
    (unasked : ∀ f ∈ event.before.enqueuedFor event.after i, f.isRequestN = false) :
    Settles t later past event i := by
  have pledged := opens.pledged asked.last
  have requests : requested (past ++ [event]) i = requested past i +
      ((event.before.enqueuedFor event.after i).map (·.asksFor)).sum := by
    rw [requested_append, requested_single]
  have deliveries : delivered (past ++ [event]) i =
      delivered past i + (event.told i).countP isDelivery := by
    rw [delivered_append, delivered_single]
  have exact (asked : taker.grantDue = false) (limited : taker.batch < maxRequestN) :
      t.pledged later.batch + requested (past ++ [event]) i + later.delivered =
        delivered (past ++ [event]) i + later.batch.toNat := by
    have before := account.exact asked limited
    rw [requests, deliveries, counts, batch]
    omega
  refine ⟨⟨batch ▸ account.positive, fun due => ?_, fun asked limited => ?_, fun endless => ?_⟩,
    fun limited known pending => ?_, fun id n written => ?_⟩
  · obtain ⟨known, fresh, none, ungiven⟩ := account.due (stays ▸ due)
    obtain ⟨known, silent⟩ := opens.of_known known
    rw [requests, sum_asksFor_eq_zero silent, deliveries, counts, given (stays ▸ due)]
    exact ⟨known, fresh, none, ungiven⟩
  · exact exact (stays ▸ asked) (batch ▸ limited)
  · have before := account.endless (batch ▸ endless)
    rw [requests, batch]
    omega
  · obtain ⟨asked, ahead⟩ := waiting pending
    have after := exact asked (batch ▸ limited)
    have ahead := ahead (batch ▸ limited)
    have none : (event.told i).countP isDelivery = 0 := by
      rw [pending]
      rfl
    rw [pledged_known known, batch] at after
    omega
  · have silent := unasked _ written
    contradiction

/-- An event that asks for a batch, when all that was asked for before was taken. -/
theorem asking {id : UInt32} (account : Account s taker past i)
    (same : t.initiated = s.initiated) (batch : later.batch = taker.batch)
    (asked : later.grantDue = false) (anew : later.delivered = 0)
    (polls : event.deed = .act i .poll) (pending : event.told i = [.pending])
    (written : event.before.enqueuedFor event.after i = [.requestN id taker.batch])
    (known : s.pledged taker.batch = 0) (spent : delivered past i = requested past i)
    (endless : ¬ taker.batch < maxRequestN → requested past i = 0) :
    Settles t later past event i := by
  have requests : requested (past ++ [event]) i = requested past i + taker.batch.toNat := by
    rw [requested_append, requested_single, written]
    rfl
  have deliveries : delivered (past ++ [event]) i = delivered past i := by
    rw [delivered_append, delivered_single, pending]
    rfl
  have positive := account.positive
  have pledged : t.pledged later.batch = 0 := by
    rw [Exchange.pledged, same, batch]
    exact known
  refine ⟨⟨batch ▸ positive, fun due => ?_, fun _ _ => ?_, fun unlimited => ?_⟩, fun _ _ _ => ?_,
    fun other n asks => ?_⟩
  · rw [asked] at due
    contradiction
  · rw [pledged, requests, deliveries, anew, batch]
    omega
  · have none := endless (batch ▸ unlimited)
    rw [pledged, requests, batch]
    omega
  · rw [requests, deliveries]
    omega
  · rw [written, List.mem_singleton] at asks
    cases asks
    rw [batch]
    exact ⟨⟨rfl, polls, pending, spent⟩, endless⟩

/-- A consumer that asks for the next item and writes nothing. -/
theorem polls_silently {answer : Poll (Option Item)} {kept : Option Consumer} {rest : Fifo Item}
    (account : Account (c.stream i) taker past i) (h : c.Sound)
    (does : Does c (.act i .poll) d)
    (asked : OpenedFor taker.batch (past ++ [⟨c, .act i .poll, d⟩]) i)
    (polled : (c.stream i).poll =
      (answer, { c.stream i with inbox := rest, consumer := kept }, []))
    (batch : later.batch = taker.batch) (stays : later.grantDue = taker.grantDue)
    (counts : later.delivered = taker.delivered + [answer].countP isDelivery)
    (given : taker.grantDue = true → [answer].countP isDelivery = 0)
    (waiting : answer = .pending → taker.grantDue = false ∧
      (taker.batch < maxRequestN → taker.delivered < taker.batch.toNat)) :
    Settles (d.stream i) later past ⟨c, .act i .poll, d⟩ i := by
  obtain ⟨_, eq, told, _, sent⟩ := does.polls h
  rw [polled] at eq told sent
  rw [ite_self] at sent
  have opens : (c.stream i).Opens (d.stream i) (c.enqueuedFor d i) := by
    rw [sent]
    exact .silent (by rw [eq]) (by simp)
  refine account.unasking batch stays (by rw [told]; exact counts)
    (fun due => by rw [told]; exact given due) (fun pending => waiting ?_) opens asked
    (by simp [sent])
  rw [told] at pending
  exact List.head_eq_of_cons_eq pending

/-- A consumer that asks for the next item, finds nothing and asks the peer for a batch. -/
theorem polls_asking {anew : Consumer}
    (account : Account (c.stream i) taker past i) (h : c.Sound)
    (does : Does c (.act i .poll) d) (active : c.isActive = true)
    (polled : (c.stream i).poll = (.pending, { c.stream i with consumer := some anew },
      [.requestN (c.stream i).id taker.batch]))
    (batch : anew.batch = taker.batch) (granted : anew.grantDue = false)
    (fresh : anew.delivered = 0)
    (known : (c.stream i).pledged taker.batch = 0) (spent : delivered past i = requested past i)
    (endless : ¬ taker.batch < maxRequestN → requested past i = 0) :
    Settles (d.stream i) anew past ⟨c, .act i .poll, d⟩ i := by
  obtain ⟨_, eq, told, _, sent⟩ := does.polls h
  rw [polled] at eq told sent
  rw [active, if_pos rfl] at sent
  exact account.asking (by rw [eq]) batch granted fresh rfl told sent known spent endless

/-- A consumer that asks for the next item: it is given one that came in, or finds nothing and asks
the peer if it has taken its batch. The peer has sent no more than it may, so that then all that was
asked for was taken. -/
theorem polls (account : Account (c.stream i) taker past i) (h : c.Sound)
    (does : Does c (.act i .poll) d) (active : c.isActive = true)
    (taken : brought past i = delivered past i + (c.stream i).buffered)
    (honest : brought past i ≤ requested past i)
    (asked : OpenedFor taker.batch (past ++ [⟨c, .act i .poll, d⟩]) i)
    (takes : (c.stream i).consumer = some taker) (after : (d.stream i).consumer = some later) :
    Settles (d.stream i) later past ⟨c, .act i .poll, d⟩ i := by
  have unbuffered (empty : (c.stream i).inbox.toList = []) : (c.stream i).buffered = 0 := by
    rw [Exchange.buffered, empty, List.countP_nil]
  rw [(does.polls h).2.1] at after
  cases (c.stream i).poll_asked with
  | finish consumer stays nobody polled =>
    rw [polled] at after
    obtain ⟨former, was, batch, counts, due⟩ := stays later after
    cases takes.symm.trans was
    exact account.polls_silently h does asked polled batch due counts (fun _ => rfl)
      (fun pending => by cases pending)
  | item former payload rest was next polled =>
    rw [polled] at after
    cases takes.symm.trans was
    cases after
    have waits : 1 ≤ (c.stream i).buffered := by
      rw [Exchange.buffered, Fifo.pop?_eq_some next, List.countP_cons_of_pos rfl]
      omega
    refine account.polls_silently h does asked polled rfl rfl rfl (fun due => ?_)
      (fun pending => by cases pending)
    -- Nothing comes in before anything was asked for.
    obtain ⟨_, _, unasked, _⟩ := account.due due
    omega
  | failure former f rest was next polled =>
    rw [polled] at after
    cases takes.symm.trans was
    cases after
    exact account.polls_silently h does asked polled rfl rfl rfl (fun _ => rfl)
      (fun pending => by cases pending)
  | first former was empty isOpen due polled =>
    rw [polled] at after
    cases takes.symm.trans was
    cases after
    obtain ⟨known, fresh, none, ungiven⟩ := account.due due
    exact account.polls_asking h does active polled rfl rfl fresh (pledged_known known _)
      (by omega) (fun _ => none)
  | again former was empty isOpen granted limited spent polled =>
    rw [polled] at after
    cases takes.symm.trans was
    cases after
    have exact := account.exact granted limited
    have nothing := unbuffered empty
    exact account.polls_asking h does active polled rfl granted rfl (by omega) (by omega)
      (absurd limited)
  | waits former was empty isOpen granted ahead polled =>
    rw [polled] at after
    cases takes.symm.trans was
    cases takes.symm.trans after
    exact account.polls_silently h does asked polled rfl rfl rfl (fun _ => rfl)
      (fun _ => ⟨granted, ahead⟩)

end Account

end Connection
end StreamMux
