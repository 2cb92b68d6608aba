import StreamMux.Console.Command
import StreamMux.Text.Blank
import StreamMux.Text.Lowercase

/-!
The interactive part of the console. Each line is a command and what it is applied to; the first
word decides, in capital or small letters. A failure is shown and the next line is read.
-/
namespace StreamMux.Console

def helpText : String :=
  "\n".intercalate [
    "",
    "Available commands:",
    "  help                          Show this help",
    "",
    "  rr <data>                     Request-response",
    "  fnf <data>                    Fire-and-forget",
    "  stream <data> [take]          Request-stream, optionally cancelled after [take] items",
    "  channel <item> [item...]      Request-channel, one payload per item",
    "  push <metadata>               Metadata push",
    "",
    "  meta <metadata>               Attach metadata to later requests",
    "  meta                          Stop attaching metadata",
    "  status                        Show connection status",
    "",
    "  quit, exit                    Exit the REPL",
    ""]

/-- What a line asks for. -/
inductive Line where
  | help
  | quit
  | status
  | clearMetadata
  | setMetadata (metadata : String)
  | run (command : Command)
  /-- The command needs something to be applied to. -/
  | usage (text : String)
  | unknown (word : String)

/-- Data, and a number of items behind the last blank if there is one. -/
def streamArguments (rest : List Char) : List Char × Option Nat :=
  match cutAtLastBlank? rest with
  | some (data, last) =>
    match parseUnsigned? (2 ^ 64) (String.ofList last) with
    | some limit => (trimBlanks data, some limit)
    | none => (rest, none)
  | none => (rest, none)

/-- The meaning of a line without blanks at its ends. -/
def Line.ofChars (line : List Char) : Line :=
  let (word, rest) :=
    match cutAtBlank? line with
    | some (word, rest) => (word, trimBlanks rest)
    | none => (line, [])
  let text := String.ofList rest
  let applied (usage : String) (command : Command) : Line :=
    if rest.isEmpty then .usage ("Usage: " ++ usage) else .run command
  match String.ofList (lowercase word) with
  | "help" | "?" => .help
  | "quit" | "exit" | "q" => .quit
  | "status" => .status
  | "meta" => if rest.isEmpty then .clearMetadata else .setMetadata text
  | "rr" | "request-response" => applied "rr <data>" (.requestResponse text)
  | "fnf" | "fire-and-forget" => applied "fnf <data>" (.fireAndForget text)
  | "stream" | "s" =>
    let (data, limit) := streamArguments rest
    if data.isEmpty then .usage "Usage: stream <data> [take]"
    else .run (.stream (String.ofList data) limit)
  | "channel" | "ch" =>
    applied "channel <item> [item...]" (.channel ((words rest).map String.ofList))
  | "push" => applied "push <metadata>" (.metadataPush text)
  | word => .unknown word

/-- The console at work: what was printed so far, oldest last. -/
structure Session where
  options : RequestOptions
  client : Client
  printed : List String := []

namespace Session

def print (s : Session) (text : String) : Session := { s with printed := text :: s.printed }

/-- Prints an answer and an empty line. -/
def answer (s : Session) (text : String) : Session := s.print (text ++ "\n\n")

def statusText (s : Session) : String :=
  let status :=
    if s.client.isConnected then paint s.options.colored .green "connected"
    else paint s.options.colored .red "disconnected"
  let streams := (s.client.link.map (·.near.connection.registry.size)).getD 0
  status ++ " (" ++ toString streams ++ " active streams)"

/-- Carries out a command of the prompt; a failure is printed. -/
def carryOut (s : Session) (command : Command) : Session :=
  let (result, client) := (command.run s.options).on s.client
  let s := { s with client }
  match result with
  | .ok output => s.answer (output.getD "")
  | .error e => s.answer (paint s.options.colored .red "Error" ++ ": " ++ e.text)

/-- Carries out a line. The flag tells whether the prompt goes on. -/
def execute (s : Session) (line : List Char) : Session × Bool :=
  match Line.ofChars line with
  | .help => (s.answer helpText, true)
  | .quit => (s, false)
  | .status => (s.answer s.statusText, true)
  | .clearMetadata =>
    ({ s with options.metadata := none }.answer
      (paint s.options.colored .dimmed "Metadata cleared"), true)
  | .setMetadata metadata =>
    ({ s with options.metadata := some metadata }.answer
      ("Metadata set to " ++ paint s.options.colored .cyan metadata), true)
  | .run command => (s.carryOut command, true)
  | .usage text => (s.answer text, true)
  | .unknown word =>
    (s.answer ("Unknown command: " ++ word ++ ". Type 'help' for help."), true)

/-- Carries out lines until one of them quits or there are no more. -/
def loop : Session → List (List Char) → Session
  | s, [] => s.print "^D\n"
  | s, line :: rest =>
    let line := trimBlanks line
    if line.isEmpty then s.loop rest
    else
      match s.execute line with
      | (s, true) => s.loop rest
      | (s, false) => s

def output (s : Session) : String := String.join s.printed.reverse

end Session

/-- The lines of a text; what stands behind the last line end counts if it is not empty. -/
def inputLines (text : String) : List (List Char) :=
  let lines := (text.splitOn "\n").map (·.toList)
  if lines.getLast? = some [] then lines.dropLast else lines

end StreamMux.Console
