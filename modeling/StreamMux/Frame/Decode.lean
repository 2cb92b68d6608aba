import StreamMux.Frame.Encode
import StreamMux.Frame.Reader

/-!
Bytes to frames. Lengths are checked before contents, and the header decides on everything after
it. Types that this library does not handle are known by name, so that a frame whose sender
allows it to be ignored can be told from one that is broken.
-/
namespace StreamMux

/-- A header as read: the reserved top bit is gone. -/
structure Header where
  id : UInt32
  type : FrameType
  flags : Flags
  deriving DecidableEq, Repr

namespace Reader

/-- A number of 31 bits in four bytes, the top bit being reserved. -/
def number31 : Reader UInt32 := return UInt32.ofNat ((← number 4) % 2 ^ 31)

def millis : Reader Duration := return Duration.ofMillis (← number 4)

/-- Stream 0 is for frames of the connection; ERROR may stand on it or on a stream. -/
def header : Reader Header := do
  require 6
  let id ← number31
  let word ← number 2
  match FrameType.ofCode? (word / 1024) with
  | none => throw (.unknownType (word / 1024))
  | some type =>
    let misplaced := if type.isConnectionLevel then id != 0 else type != .error && id == 0
    if misplaced then throw (.badStreamId id type)
    return { id, type, flags := ⟨UInt16.ofNat (word % 1024)⟩ }

/-- A mime type after its length: valid UTF-8, and ASCII. -/
def mime : Reader String := do
  let raw ← take (← number 1)
  match String.fromUTF8? raw with
  | none => throw (.badText .mimeType)
  | some text => if isAscii text then return text else throw (.badMimeType text)

/-- Metadata after its length, if the header announces it; the rest is data. -/
def payload (hasMetadata : Bool) : Reader Payload := do
  let metadata ← if hasMetadata then some <$> do take (← number 3) else pure none
  return { data := ← rest, metadata }

def setup (flags : Flags) : Reader Frame := do
  require 12
  let major ← number 2
  let minor ← number 2
  let keepAlive ← millis
  let lifetime ← millis
  let resumeToken ←
    if flags.contains Flags.resumeBit then some <$> do take (← number 2) else pure none
  let metadataMime ← mime
  let dataMime ← mime
  let payload ← payload flags.metadata
  return .setup {
    major := UInt16.ofNat major, minor := UInt16.ofNat minor, keepAlive, lifetime, resumeToken
    lease := flags.contains Flags.leaseBit, metadataMime, dataMime, payload }

def lease (flags : Flags) : Reader Frame := do
  require 8
  let ttl ← millis
  let requests ← number 4
  let metadata ← rest
  return .lease ttl (UInt32.ofNat requests) (if flags.metadata then some metadata else none)

def keepAlive (flags : Flags) : Reader Frame := do
  let position ← number 8
  return .keepAlive (flags.contains Flags.respondBit) (UInt64.ofNat position) (← rest)

def payloadFrame (h : Header) : Reader Frame := do
  let initial ← if h.type.hasInitialRequest then number31 else pure 0
  let payload ← payload h.flags.metadata
  return .payload {
    type := h.type, id := h.id, follows := h.flags.follows
    complete := h.flags.complete && (h.type = .requestChannel || h.type = .payload)
    next := h.flags.next && h.type = .payload
    initial, payload }

def errorFrame (id : UInt32) : Reader Frame := do
  let code ← number 4
  match String.fromUTF8? (← rest) with
  | none => throw (.badText .errorMessage)
  | some message => return .error id (ErrorCode.ofCode (UInt32.ofNat code)) message

/-- The fields that a type has after the header. -/
def body (h : Header) : Reader Frame :=
  match h.type with
  | .setup => setup h.flags
  | .lease => lease h.flags
  | .keepAlive => keepAlive h.flags
  | .metadataPush => return .metadataPush (← rest)
  | .requestResponse | .requestFnf | .requestStream | .requestChannel | .payload => payloadFrame h
  | .requestN => return .requestN h.id (← number31)
  | .cancel => return .cancel h.id
  | .error => errorFrame h.id
  | .resume | .resumeOk | .extension => throw (.unsupportedType h.type h.flags.ignore)

end Reader

/-- The frame that a byte string holds. Bytes after the fields of a type are ignored. -/
def Frame.decode (bytes : ByteArray) : Except FrameError Frame :=
  (Reader.header >>= Reader.body).run' bytes

end StreamMux
