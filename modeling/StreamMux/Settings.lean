import StreamMux.Connection.Config
import StreamMux.IoError
import StreamMux.Network.Address
import StreamMux.Yaml.Document

/-!
Settings of a server. They come from three layers: defaults, a file, and variables of the
environment. Each field is taken from the topmost layer that has it; what results is checked
only then.
-/
namespace StreamMux

/-- Where a server listens, and the limits that it sets. -/
structure Settings where
  bindAddress : SocketAddress := { ip := .loopback, port := 7878 }
  maxConnections : Nat := 1000
  prefetch : UInt32 := 64
  setupTimeout : Duration := Duration.ofSeconds 10
  deriving DecidableEq, Repr, Inhabited

/-- A file whose text is no settings, and what its reader says about it. -/
structure Malformed where
  path : String
  reason : String
  deriving DecidableEq, Repr

/-- Why there are no settings. -/
inductive SettingsError where
  | unreadable (path : String) (error : IoError)
  | malformed (file : Malformed)
  | invalid (message : String)
  deriving DecidableEq, Repr

def SettingsError.text : SettingsError → String
  | unreadable path error => "failed to read config file '" ++ path ++ "': " ++ error.text
  | malformed file => "failed to parse config file '" ++ file.path ++ "': " ++ file.reason
  | invalid message => "configuration validation failed: " ++ message

namespace Settings

/-- Some of the fields. -/
structure Layer where
  bindAddress : Option SocketAddress := none
  maxConnections : Option Nat := none
  prefetch : Option UInt32 := none
  setupMillis : Option Nat := none
  deriving DecidableEq, Repr, Inhabited

namespace Layer

/-- The fields of one layer, and of another where the first has none. -/
def above (a b : Layer) : Layer where
  bindAddress := a.bindAddress <|> b.bindAddress
  maxConnections := a.maxConnections <|> b.maxConnections
  prefetch := a.prefetch <|> b.prefetch
  setupMillis := a.setupMillis <|> b.setupMillis

/-- The fields of a layer, and the defaults where it has none. -/
def complete (a : Layer) : Settings :=
  let d : Settings := {}
  { bindAddress := a.bindAddress.getD d.bindAddress
    maxConnections := a.maxConnections.getD d.maxConnections
    prefetch := a.prefetch.getD d.prefetch
    setupTimeout := (a.setupMillis.map Duration.ofMillis).getD d.setupTimeout }

/-- The entries of a node whose keys are all scalars, each with its key. -/
def keyed? (d : Yaml.Document) (node : Yaml.Node) : Option (List (String × Yaml.Node)) := do
  (← d.entries? node).mapM fun (key, value) => return (← d.text? key, value)

/-- The value under a key, read by a function. A key must not be given twice. -/
def field? {α : Type} (entries : List (String × Yaml.Node)) (key : String)
    (read : Yaml.Node → Option α) : Option (Option α) :=
  match entries.filter (·.1 = key) with
  | [] => some none
  | [(_, value)] => (read value).map some
  | _ => none

/-- The layer that a file holds. Keys that are not known are passed over. -/
def ofDocument? (d : Yaml.Document) : Option Layer := do
  let entries ← keyed? d d.root
  let network := (← field? entries "network" (keyed? d)).getD []
  let connection := (← field? entries "connection" (keyed? d)).getD []
  return {
    bindAddress := ← field? network "bind_addr" (d.text? · >>= SocketAddress.parse?)
    maxConnections := ← field? network "max_connections" (d.natural? (2 ^ 64))
    prefetch := ← field? connection "prefetch" (d.natural? (2 ^ 32) · |>.map UInt32.ofNat)
    setupMillis := ← field? connection "setup_timeout_ms" (d.natural? (2 ^ 64)) }

def ofText? (text : String) : Option Layer := Yaml.Document.parse? text >>= ofDocument?

/-- The reader of files that runs. It does not say what is wrong with a text. -/
def ofText (text : String) : Except String Layer :=
  match ofText? text with
  | some layer => .ok layer
  | none => .error ""

/-- The layer of the environment. A variable whose value cannot be read counts as missing. -/
def ofEnvironment (lookup : String → Option String) : Layer where
  bindAddress := lookup "RSOCKET_BIND" >>= SocketAddress.parse?
  maxConnections := lookup "RSOCKET_MAX_CONNECTIONS" >>= parseUnsigned? (2 ^ 64)
  prefetch := (lookup "RSOCKET_PREFETCH" >>= parseUnsigned? (2 ^ 32)).map UInt32.ofNat
  setupMillis := lookup "RSOCKET_SETUP_TIMEOUT_MS" >>= parseUnsigned? (2 ^ 64)

end Layer

/-- The first thing that is wrong with settings. -/
def violation? (s : Settings) : Option String :=
  if s.maxConnections = 0 then some "max_connections must be at least 1"
  else if s.prefetch = 0 ∨ maxRequestN < s.prefetch then
    some ("prefetch must be between 1 and " ++ toString maxRequestN.toNat)
  else if s.setupTimeout = 0 then some "setup_timeout_ms must be positive"
  else none

def validate (s : Settings) : Except SettingsError Unit :=
  match s.violation? with
  | some message => .error (.invalid message)
  | none => .ok ()

/-- What is found under a path. -/
abbrev FileContent := Except IoError ByteArray

/-- What makes a layer of the text of a file, or says what is wrong with it. -/
abbrev LayerReader := String → Except String Layer

/-- The layer of a file. -/
def readFile (path : String) (content : FileContent) (parse : LayerReader) :
    Except SettingsError Layer :=
  match content with
  | .error e => .error (.unreadable path e)
  | .ok bytes =>
    match String.fromUTF8? bytes with
    | none => .error (.unreadable path (.other "stream did not contain valid UTF-8"))
    | some text =>
      match parse text with
      | .error reason => .error (.malformed { path, reason })
      | .ok layer => .ok layer

/-- The settings of a file alone, not checked. -/
def ofFile (path : String) (content : FileContent) (parse : LayerReader := Layer.ofText) :
    Except SettingsError Settings :=
  (readFile path content parse).map Layer.complete

/-- The settings from all layers, if they pass the check. -/
def load (file : Option (String × FileContent)) (environment : Layer)
    (parse : LayerReader := Layer.ofText) : Except SettingsError Settings := do
  let layer ←
    match file with
    | none => .ok {}
    | some (path, content) => readFile path content parse
  let settings := (environment.above layer).complete
  settings.validate
  return settings

/-- An address as a scalar: one that starts with a bracket is quoted. -/
def addressScalar (a : SocketAddress) : String :=
  match a.ip with
  | .v4 _ => a.text
  | .v6 _ => "'" ++ a.text ++ "'"

/-- The settings as a file. -/
def fileText (s : Settings) : String :=
  "network:\n  bind_addr: " ++ addressScalar s.bindAddress
    ++ "\n  max_connections: " ++ toString s.maxConnections
    ++ "\nconnection:\n  prefetch: " ++ toString s.prefetch.toNat
    ++ "\n  setup_timeout_ms: " ++ toString s.setupTimeout.millis ++ "\n"

end Settings
end StreamMux
