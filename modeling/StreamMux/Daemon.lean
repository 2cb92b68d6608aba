import StreamMux.Server.Basic

/-!
The echo server as a program: from its settings to what it logs. Settings from a file have to be
right; a wrong environment alone is passed over with a warning.
-/
namespace StreamMux.Daemon

/-- How grave a line of the log is. -/
inductive Level where
  | info | warn | error
  deriving DecidableEq, Repr

def Level.text : Level → String
  | info => "INFO"
  | warn => "WARN"
  | error => "ERROR"

/-- A line of the log. -/
structure LogLine where
  level : Level
  message : String
  deriving DecidableEq, Repr

def LogLine.text (l : LogLine) : String := l.level.text ++ " " ++ l.message

/-- How a start went. -/
inductive Start where
  | failed (cause : SettingsError) (log : List LogLine)
  | started (server : Server) (log : List LogLine)

/-- What is logged about the settings in force. -/
def settingsLog (s : Settings) : List LogLine :=
  ["Starting rsocket server",
    "  Bind address: " ++ s.bindAddress.text,
    "  Max connections: " ++ toString s.maxConnections,
    "  Prefetch: " ++ toString s.prefetch.toNat,
    "  Setup timeout: " ++ s.setupTimeout.text].map (⟨.info, ·⟩)

/-- Starts with the settings of a file, if one is named, and of the environment. -/
def start (file : Option (String × Settings.FileContent)) (environment : Settings.Layer) : Start :=
  match Settings.load file environment, file with
  | .ok settings, some (path, _) =>
    .started { settings } (⟨.info, "Loaded config from " ++ path⟩ :: settingsLog settings)
  | .ok settings, none => .started { settings } (settingsLog settings)
  | .error cause, some _ => .failed cause [⟨.error, "Failed to load config: " ++ cause.text⟩]
  | .error cause, none =>
    let warning := "Invalid environment configuration (" ++ cause.text ++ "), using defaults"
    .started { settings := {} } (⟨.warn, warning⟩ :: settingsLog {})

/-- What is logged when the server is told to stop, and has stopped. -/
def stopLog (t : Tally) : List LogLine :=
  ["Received shutdown signal, stopping server...",
    "Server stopped connections=" ++ toString t.total ++ " errors=" ++ toString t.errors].map
      (⟨.info, ·⟩)

end StreamMux.Daemon
