import StreamMux.Bytes
import StreamMux.Frame.Basic
import StreamMux.Frame.Flags

/-!
Frames to bytes. A header of six bytes (stream id, type, flags) is followed by the fields of the
type. Encoding fails only on text or lengths that do not fit their field.
-/
namespace StreamMux

/-- A duration as a 32-bit number of milliseconds; what does not fit becomes the largest one. -/
def Duration.toWireMillis (d : Duration) : Nat := min d.millis 0xFFFFFFFF

/-- All bytes of a text are below 128. -/
def isAscii (text : String) : Bool := text.toUTF8.data.all (· < 128)

/-- Stream id (31 bits), type (6 bits) and flags (10 bits). -/
def encodeHeader (id : UInt32) (type : FrameType) (flags : Flags) : ByteArray :=
  encodeNat 4 (id.toNat % 2 ^ 31) ++ encodeNat 2 (type.code * 1024 + flags.bits.toNat)

/-- A mime type after its length in one byte. -/
def encodeMime (text : String) : Except FrameError ByteArray :=
  if isAscii text ∧ text.utf8ByteSize ≤ 255 then
    .ok (encodeNat 1 text.utf8ByteSize ++ text.toUTF8)
  else .error (.badMimeType text)

/-- A resume token after its length in two bytes. -/
def encodeToken : Option ByteArray → Except FrameError ByteArray
  | none => .ok ByteArray.empty
  | some token =>
    if token.size ≤ 0xFFFF then .ok (encodeNat 2 token.size ++ token)
    else .error (.tooLarge token.size 0xFFFF)

/-- Metadata after its length in three bytes, if there is any; then the data up to the end. -/
def encodePayload (payload : Payload) : Except FrameError ByteArray :=
  match payload.metadata with
  | none => .ok payload.data
  | some metadata =>
    if metadata.size ≤ maxLength then
      .ok (encodeNat 3 metadata.size ++ metadata ++ payload.data)
    else .error (.tooLarge metadata.size maxLength)

def Setup.flags (s : Setup) : Flags :=
  Flags.none
    |>.setIf Flags.metadataBit s.payload.hasMetadata
    |>.setIf Flags.resumeBit s.resumeToken.isSome
    |>.setIf Flags.leaseBit s.lease

/-- Completion is written on REQUEST_CHANNEL and PAYLOAD only, the item flag on PAYLOAD only. -/
def PayloadFrame.flags (f : PayloadFrame) : Flags :=
  Flags.none
    |>.setIf Flags.metadataBit f.payload.hasMetadata
    |>.setIf Flags.followsBit f.follows
    |>.setIf Flags.completeBit (f.complete && (f.type = .requestChannel || f.type = .payload))
    |>.setIf Flags.nextBit (f.next && f.type = .payload)

def Setup.encode (s : Setup) : Except FrameError ByteArray := do
  let token ← encodeToken s.resumeToken
  let metadataMime ← encodeMime s.metadataMime
  let dataMime ← encodeMime s.dataMime
  let payload ← encodePayload s.payload
  return encodeHeader 0 .setup s.flags
    ++ encodeNat 2 s.major.toNat ++ encodeNat 2 s.minor.toNat
    ++ encodeNat 4 s.keepAlive.toWireMillis ++ encodeNat 4 s.lifetime.toWireMillis
    ++ token ++ metadataMime ++ dataMime ++ payload

def PayloadFrame.encode (f : PayloadFrame) : Except FrameError ByteArray := do
  let payload ← encodePayload f.payload
  let initial := if f.type.hasInitialRequest then encodeNat 4 f.initial.toNat else ByteArray.empty
  return encodeHeader f.id f.type f.flags ++ initial ++ payload

/-- The bytes of a frame, without a length in front. -/
def Frame.encode : Frame → Except FrameError ByteArray
  | setup s => s.encode
  | lease ttl requests metadata =>
    .ok (encodeHeader 0 .lease (Flags.none.setIf Flags.metadataBit metadata.isSome)
      ++ encodeNat 4 ttl.toWireMillis ++ encodeNat 4 requests.toNat
      ++ metadata.getD ByteArray.empty)
  | keepAlive respond position data =>
    .ok (encodeHeader 0 .keepAlive (Flags.none.setIf Flags.respondBit respond)
      ++ encodeNat 8 position.toNat ++ data)
  | metadataPush metadata =>
    .ok (encodeHeader 0 .metadataPush ⟨Flags.metadataBit⟩ ++ metadata)
  | payload f => f.encode
  | requestN id n => .ok (encodeHeader id .requestN Flags.none ++ encodeNat 4 n.toNat)
  | cancel id => .ok (encodeHeader id .cancel Flags.none)
  | error id code message =>
    .ok (encodeHeader id .error Flags.none ++ encodeNat 4 code.code.toNat ++ message.toUTF8)

end StreamMux
