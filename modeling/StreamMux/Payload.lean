import StreamMux.Instances

/-!
What an application sends: data, with metadata beside it if it chooses to. Metadata that is
present but empty is not the same as no metadata.
-/
namespace StreamMux

/-- Data with metadata beside it. -/
structure Payload where
  data : ByteArray := ByteArray.empty
  metadata : Option ByteArray := none
  deriving DecidableEq, Inhabited

namespace Payload

def empty : Payload := {}

def ofText (text : String) : Payload := { data := text.toUTF8 }

def hasMetadata (p : Payload) : Bool := p.metadata.isSome

/-- Data and metadata together. -/
def size (p : Payload) : Nat := p.data.size + (p.metadata.map ByteArray.size).getD 0

def dataText? (p : Payload) : Option String := String.fromUTF8? p.data

def metadataText? (p : Payload) : Option String := p.metadata.bind String.fromUTF8?

/-- One payload after another: data after data, metadata after metadata. -/
def append (p q : Payload) : Payload where
  data := p.data ++ q.data
  metadata :=
    match p.metadata, q.metadata with
    | some a, some b => some (a ++ b)
    | some a, none => some a
    | none, b => b

end Payload
end StreamMux
