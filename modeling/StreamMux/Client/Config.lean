import StreamMux.Client.Error
import StreamMux.Connection.Config
import StreamMux.Frame.Encode
import StreamMux.Network.Address

/-!
Settings of a client, and the SETUP frame that announces them. A mime type has to be ASCII and at
most 255 bytes long, because its length is written in one byte.
-/
namespace StreamMux

/-- Where a client connects to, and what it announces there. -/
structure ClientConfig where
  address : SocketAddress
  connectTimeout : Duration := Duration.ofSeconds 10
  connection : ConnectionConfig := {}
  metadataMime : String := "application/binary"
  dataMime : String := "application/binary"
  setupPayload : Option Payload := none
  deriving Inhabited

namespace ClientConfig

/-- The frame with which the client announces itself. -/
def setup (c : ClientConfig) : Setup where
  keepAlive := c.connection.keepAlive
  lifetime := c.connection.lifetime
  metadataMime := c.metadataMime
  dataMime := c.dataMime
  payload := c.setupPayload.getD {}

/-- A mime type that fits its place in a SETUP frame. -/
def isMimeType (text : String) : Bool := isAscii text && text.utf8ByteSize ≤ 255

/-- The first thing that is wrong with the settings. -/
def violation? (c : ClientConfig) : Option String :=
  if !isMimeType c.dataMime then some ("invalid data mime type: " ++ c.dataMime)
  else if !isMimeType c.metadataMime then some ("invalid metadata mime type: " ++ c.metadataMime)
  else none

def validate (c : ClientConfig) : Except ClientError Unit :=
  match c.violation? with
  | some message => .error (.config message)
  | none => .ok ()

end ClientConfig
end StreamMux
