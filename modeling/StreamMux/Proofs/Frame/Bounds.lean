import StreamMux.Frame.Decode

/-!
# No read runs past the end

`Reader.take` looks at how many bytes are left each time it reads. It suffices to look in front of a
group of fields, and before a part whose length was itself read: the blind decoder below looks only
there (`BlindReader.ensure`) and takes bytes without looking (`BlindReader.grab`), where a read past
the end is a fault of its own. It decodes every byte string as `Frame.decode` does, so no look is
missing (`decodeBlindly_eq`).

The proof follows how many bytes are known to be there (`Mirrors`): a look makes some known, a read
spends them, and no read spends more than is known.
-/
namespace StreamMux

/-- How a decoder that does not always look can fail. -/
inductive ReadFault where
  | frame (error : FrameError)
  | overrun
  deriving DecidableEq, Repr

/-- A step that reads from the front of the bytes that are left, and may run past their end. -/
abbrev BlindReader := StateT ByteArray (Except ReadFault)

namespace BlindReader

/-- Fails as a frame that is cut short unless `count` more bytes are there. -/
def ensure (count : Nat) : BlindReader Unit := fun bytes =>
  if bytes.size < count then .error (.frame (.incomplete (count - bytes.size)))
  else .ok ((), bytes)

/-- The next `count` bytes, whether they are there or not. -/
def grab (count : Nat) : BlindReader ByteArray := fun bytes =>
  if bytes.size < count then .error .overrun
  else .ok (bytes.extract 0 count, bytes.extract count bytes.size)

def rest : BlindReader ByteArray := fun bytes => .ok (bytes, ByteArray.empty)

def number (count : Nat) : BlindReader Nat := return decodeNat (← grab count)

def number31 : BlindReader UInt32 := return UInt32.ofNat ((← number 4) % 2 ^ 31)

def millis : BlindReader Duration := return Duration.ofMillis (← number 4)

/-- One look for the whole header. -/
def header : BlindReader Header := do
  ensure 6
  let id ← number31
  let word ← number 2
  match FrameType.ofCode? (word / 1024) with
  | none => throw (.frame (.unknownType (word / 1024)))
  | some type =>
    let misplaced := if type.isConnectionLevel then id != 0 else type != .error && id == 0
    if misplaced then throw (.frame (.badStreamId id type))
    return { id, type, flags := ⟨UInt16.ofNat (word % 1024)⟩ }

/-- A byte string behind its length: one look for the length, one for as many bytes as it says. -/
def sized (count : Nat) : BlindReader ByteArray := do
  ensure count
  let length ← number count
  ensure length
  grab length

def mime : BlindReader String := do
  let raw ← sized 1
  match String.fromUTF8? raw with
  | none => throw (.frame (.badText .mimeType))
  | some text => if isAscii text then return text else throw (.frame (.badMimeType text))

def payload (hasMetadata : Bool) : BlindReader Payload := do
  let metadata ← if hasMetadata then some <$> sized 3 else pure none
  return { data := ← rest, metadata }

/-- One look for the four numbers in front, then one for each part that has its own length. -/
def setup (flags : Flags) : BlindReader Frame := do
  ensure 12
  let major ← number 2
  let minor ← number 2
  let keepAlive ← millis
  let lifetime ← millis
  let resumeToken ← if flags.contains Flags.resumeBit then some <$> sized 2 else pure none
  let metadataMime ← mime
  let dataMime ← mime
  let payload ← payload flags.metadata
  return .setup {
    major := UInt16.ofNat major, minor := UInt16.ofNat minor, keepAlive, lifetime, resumeToken
    lease := flags.contains Flags.leaseBit, metadataMime, dataMime, payload }

def lease (flags : Flags) : BlindReader Frame := do
  ensure 8
  let ttl ← millis
  let requests ← number 4
  let metadata ← rest
  return .lease ttl (UInt32.ofNat requests) (if flags.metadata then some metadata else none)

def keepAlive (flags : Flags) : BlindReader Frame := do
  ensure 8
  let position ← number 8
  return .keepAlive (flags.contains Flags.respondBit) (UInt64.ofNat position) (← rest)

/-- A request count, where the type has one. -/
def initial (type : FrameType) : BlindReader UInt32 := do
  if type.hasInitialRequest then
    ensure 4
    number31
  else
    return 0

def payloadFrame (h : Header) : BlindReader Frame := do
  let initial ← initial h.type
  let payload ← payload h.flags.metadata
  return .payload {
    type := h.type, id := h.id, follows := h.flags.follows
    complete := h.flags.complete && (h.type = .requestChannel || h.type = .payload)
    next := h.flags.next && h.type = .payload
    initial, payload }

def requestN (id : UInt32) : BlindReader Frame := do
  ensure 4
  return .requestN id (← number31)

def errorFrame (id : UInt32) : BlindReader Frame := do
  ensure 4
  let code ← number 4
  match String.fromUTF8? (← rest) with
  | none => throw (.frame (.badText .errorMessage))
  | some message => return .error id (ErrorCode.ofCode (UInt32.ofNat code)) message

def body (h : Header) : BlindReader Frame :=
  match h.type with
  | .setup => setup h.flags
  | .lease => lease h.flags
  | .keepAlive => keepAlive h.flags
  | .metadataPush => return .metadataPush (← rest)
  | .requestResponse | .requestFnf | .requestStream | .requestChannel | .payload => payloadFrame h
  | .requestN => requestN h.id
  | .cancel => return .cancel h.id
  | .error => errorFrame h.id
  | .resume | .resumeOk | .extension => throw (.frame (.unsupportedType h.type h.flags.ignore))

end BlindReader

/-- What a decoder gets that looks at the bytes that are left only where a length is told. -/
def Frame.decodeBlindly (bytes : ByteArray) : Except ReadFault Frame :=
  (BlindReader.header >>= BlindReader.body).run' bytes

/-! ### Too few bytes -/

namespace Reader

theorem take_short {count : Nat} {bytes : ByteArray} (short : bytes.size < count) :
    take count bytes = .error (.incomplete (count - bytes.size)) := if_pos short

/-- A sequence stops where its first reader fails. -/
theorem bind_short {α β : Type} {r : Reader α} {k : α → Reader β} {bytes : ByteArray}
    {e : FrameError} (h : r bytes = .error e) : (r >>= k) bytes = .error e := by
  simp [bind, StateT.bind, h, Except.bind]

theorem number_short {count : Nat} {bytes : ByteArray} (short : bytes.size < count) :
    number count bytes = .error (.incomplete (count - bytes.size)) :=
  bind_short (take_short short)

theorem number31_short {bytes : ByteArray} (short : bytes.size < 4) :
    number31 bytes = .error (.incomplete (4 - bytes.size)) :=
  bind_short (number_short short)

end Reader

/-! ### Bytes that are known to be there -/

/-- With `known` bytes there for sure, the blind reader does what the other one does, and `left`
bytes are there for sure behind what they read. -/
def Mirrors {α : Type} (known : Nat) (b : BlindReader α) (r : Reader α) (left : Nat) : Prop :=
  ∀ bytes : ByteArray, known ≤ bytes.size →
    b bytes = (r bytes).mapError .frame ∧ ∀ a tail, r bytes = .ok (a, tail) → left ≤ tail.size

namespace Mirrors

variable {α β : Type} {known middle left : Nat}

theorem bind {b : BlindReader α} {r : Reader α} {f : α → BlindReader β} {k : α → Reader β}
    (first : Mirrors known b r middle) (second : ∀ a, Mirrors middle (f a) (k a) left) :
    Mirrors known (b >>= f) (r >>= k) left := by
  intro bytes there
  obtain ⟨same, enough⟩ := first bytes there
  cases read : r bytes with
  | error e =>
    have fails : b bytes = .error (.frame e) := by
      rw [same, read]
      rfl
    simp only [Bind.bind, StateT.bind, fails, read, Except.bind, reduceCtorEq, false_implies,
      implies_true, and_true]
    rfl
  | ok p =>
    obtain ⟨a, tail⟩ := p
    have goesOn : b bytes = .ok (a, tail) := by
      rw [same, read]
      rfl
    have next := second a tail (enough a tail read)
    simpa [Bind.bind, StateT.bind, goesOn, read, Except.bind] using next

theorem pure (a : α) : Mirrors known (Pure.pure a) (Pure.pure a) known := by
  intro bytes there
  refine ⟨rfl, fun b tail read => ?_⟩
  cases read
  exact there

theorem throw (e : FrameError) : Mirrors (α := α) known (throw (.frame e)) (throw e) left := by
  intro bytes there
  refine ⟨rfl, fun a tail read => ?_⟩
  cases read

theorem map {b : BlindReader α} {r : Reader α} (h : Mirrors known b r left) (f : α → β) :
    Mirrors known (f <$> b) (f <$> r) left := by
  rw [map_eq_pure_bind, map_eq_pure_bind]
  exact h.bind fun a => pure (f a)

/-! ### Looks and reads -/

theorem ensure (count : Nat) :
    Mirrors 0 (BlindReader.ensure count) (Reader.require count) count := by
  intro bytes _
  unfold BlindReader.ensure Reader.require
  split
  next short => exact ⟨rfl, fun a tail read => by cases read⟩
  next enough =>
    refine ⟨rfl, fun a tail read => ?_⟩
    cases read
    omega

/-- A read spends bytes that are known to be there. -/
theorem grab (count left : Nat) :
    Mirrors (count + left) (BlindReader.grab count) (Reader.take count) left := by
  intro bytes there
  have enough : ¬ bytes.size < count := by omega
  unfold BlindReader.grab Reader.take
  rw [if_neg enough, if_neg enough]
  refine ⟨rfl, fun a tail read => ?_⟩
  cases read
  rw [ByteArray.size_extract]
  omega

theorem number (count left : Nat) :
    Mirrors (count + left) (BlindReader.number count) (Reader.number count) left :=
  (grab count left).bind fun raw => pure (decodeNat raw)

theorem number31 (left : Nat) : Mirrors (4 + left) BlindReader.number31 Reader.number31 left :=
  (number 4 left).bind fun n => pure (UInt32.ofNat (n % 2 ^ 31))

theorem millis (left : Nat) : Mirrors (4 + left) BlindReader.millis Reader.millis left :=
  (number 4 left).bind fun n => pure (Duration.ofMillis n)

theorem rest : Mirrors known BlindReader.rest Reader.rest 0 := by
  intro bytes _
  exact ⟨rfl, fun _ _ _ => Nat.zero_le _⟩

/-- One look in front of a reader that fails for lack of just these bytes. -/
theorem guarded {count : Nat} {b : BlindReader α} {r : Reader α} (h : Mirrors count b r left)
    (needs : ∀ bytes : ByteArray, bytes.size < count →
      r bytes = .error (.incomplete (count - bytes.size))) :
    Mirrors 0 (do BlindReader.ensure count; b) r left := by
  intro bytes _
  by_cases short : bytes.size < count
  · have cut : (do BlindReader.ensure count; b) bytes =
        .error (.frame (.incomplete (count - bytes.size))) := by
      simp [Bind.bind, StateT.bind, BlindReader.ensure, short, Except.bind]
    rw [cut, needs bytes short]
    exact ⟨rfl, fun a tail read => by cases read⟩
  · have run : (do BlindReader.ensure count; b) bytes = b bytes := by
      simp [Bind.bind, StateT.bind, BlindReader.ensure, short, Except.bind]
    rw [run]
    exact h bytes (Nat.le_of_not_lt short)

/-- The length of a part is looked for, and then as many bytes as it says. -/
theorem sized (count : Nat) :
    Mirrors 0 (BlindReader.sized count) (do Reader.take (← Reader.number count)) 0 := by
  refine guarded ((number count 0).bind fun length => ?_) fun bytes short =>
    Reader.bind_short (Reader.number_short short)
  exact guarded (grab length 0) fun bytes short => Reader.take_short short

/-! ### Fields of a frame -/

theorem header : Mirrors 0 BlindReader.header Reader.header 0 := by
  refine (ensure 6).bind fun _ => (number31 2).bind fun id => (number 2 0).bind fun word => ?_
  cases FrameType.ofCode? (word / 1024) with
  | none => exact throw _
  | some type =>
    dsimp only
    split
    · split
      · exact (throw _).bind fun _ => pure _
      · exact pure _
    · split
      · exact (throw _).bind fun _ => pure _
      · exact pure _

theorem mime : Mirrors 0 BlindReader.mime Reader.mime 0 := by
  -- The other reader is one sequence; here its first two steps are taken together.
  have same : Reader.mime = (do Reader.take (← Reader.number 1)) >>= fun raw =>
      match String.fromUTF8? raw with
      | none => MonadExcept.throw (.badText .mimeType)
      | some text =>
        if isAscii text then Pure.pure text else MonadExcept.throw (.badMimeType text) := by
    rw [bind_assoc]
    rfl
  rw [same]
  refine (sized 1).bind fun raw => ?_
  cases String.fromUTF8? raw with
  | none => exact throw _
  | some text =>
    dsimp only
    split
    · exact pure _
    · exact throw _

theorem optional (flag : Bool) (count : Nat) :
    Mirrors 0 (if flag then some <$> BlindReader.sized count else Pure.pure none)
      (if flag then some <$> (do Reader.take (← Reader.number count)) else Pure.pure none) 0 := by
  cases flag with
  | false => exact pure _
  | true => exact (sized count).map _

theorem payload (flag : Bool) : Mirrors 0 (BlindReader.payload flag) (Reader.payload flag) 0 := by
  have h := (optional flag 3).bind fun metadata => rest.bind fun data =>
    pure ({ data, metadata } : Payload)
  cases flag <;> exact h

theorem setup (flags : Flags) : Mirrors 0 (BlindReader.setup flags) (Reader.setup flags) 0 := by
  -- Twelve bytes are known to be there, and each field leaves those that the next ones need.
  refine (ensure 12).bind fun _ => (number 2 10).bind fun major => (number 2 8).bind fun minor =>
    (millis 4).bind fun keepAlive => (millis 0).bind fun lifetime => ?_
  have h := (optional (flags.contains Flags.resumeBit) 2).bind fun token =>
    mime.bind fun metadataMime => mime.bind fun dataMime => (payload flags.metadata).bind fun p =>
      pure (Frame.setup {
        major := UInt16.ofNat major, minor := UInt16.ofNat minor, keepAlive, lifetime
        resumeToken := token, lease := flags.contains Flags.leaseBit, metadataMime, dataMime
        payload := p })
  generalize flags.contains Flags.resumeBit = resumes at h ⊢
  cases resumes <;> exact h

theorem lease (flags : Flags) : Mirrors 0 (BlindReader.lease flags) (Reader.lease flags) 0 :=
  (ensure 8).bind fun _ => (millis 4).bind fun _ => (number 4 0).bind fun _ => rest.bind fun _ =>
    pure _

theorem keepAlive (flags : Flags) :
    Mirrors 0 (BlindReader.keepAlive flags) (Reader.keepAlive flags) 0 :=
  guarded ((number 8 0).bind fun _ => rest.bind fun _ => pure _) fun _ short =>
    Reader.bind_short (Reader.number_short short)

theorem initial (type : FrameType) : Mirrors 0 (BlindReader.initial type)
    (if type.hasInitialRequest then Reader.number31 else Pure.pure 0) 0 := by
  unfold BlindReader.initial
  split
  · exact guarded (number31 0) fun _ short => Reader.number31_short short
  · exact pure _

theorem payloadFrame (head : Header) :
    Mirrors 0 (BlindReader.payloadFrame head) (Reader.payloadFrame head) 0 := by
  have h := (initial head.type).bind fun initial => (payload head.flags.metadata).bind fun p =>
    pure (Frame.payload {
      type := head.type, id := head.id, follows := head.flags.follows
      complete := head.flags.complete && (head.type = .requestChannel || head.type = .payload)
      next := head.flags.next && head.type = .payload
      initial, payload := p })
  unfold Reader.payloadFrame
  split
  next asks =>
    rw [if_pos asks] at h
    exact h
  next silent =>
    rw [if_neg silent] at h
    exact h

theorem requestN (id : UInt32) :
    Mirrors 0 (BlindReader.requestN id) (do return .requestN id (← Reader.number31)) 0 :=
  guarded ((number31 0).bind fun _ => pure _) fun _ short =>
    Reader.bind_short (Reader.number31_short short)

theorem errorFrame (id : UInt32) :
    Mirrors 0 (BlindReader.errorFrame id) (Reader.errorFrame id) 0 := by
  refine guarded ((number 4 0).bind fun code => rest.bind fun raw => ?_) fun _ short =>
    Reader.bind_short (Reader.number_short short)
  cases String.fromUTF8? raw with
  | none => exact throw _
  | some message => exact pure _

theorem body (h : Header) : Mirrors 0 (BlindReader.body h) (Reader.body h) 0 := by
  unfold BlindReader.body Reader.body
  cases h.type with
  | setup => exact setup h.flags
  | lease => exact lease h.flags
  | keepAlive => exact keepAlive h.flags
  | metadataPush => exact rest.bind fun _ => pure _
  | requestN => exact requestN h.id
  | cancel => exact pure _
  | error => exact errorFrame h.id
  | resume | resumeOk | extension => exact throw _
  | _ => exact payloadFrame h

end Mirrors

/-- The decoder that looks only where a length is told never runs past the end, and gets what the
decoder gets that looks at each read. -/
theorem decodeBlindly_eq (bytes : ByteArray) :
    Frame.decodeBlindly bytes = (Frame.decode bytes).mapError .frame := by
  have same := ((Mirrors.header.bind fun h => Mirrors.body h) bytes (Nat.zero_le _)).1
  unfold Frame.decodeBlindly Frame.decode StateT.run'
  rw [same]
  cases (Reader.header >>= Reader.body) bytes <;> rfl

end StreamMux
