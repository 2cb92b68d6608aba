import StreamMux.Console.Prompt
import StreamMux.Text.Quoted

/-!
The console as a whole: from its arguments, its input and the network to what it prints and how
it ends.
-/
namespace StreamMux.Console

/-- What a run leaves behind. -/
structure Outcome where
  exit : Nat
  stdout : String := ""
  stderr : String := ""
  deriving DecidableEq, Repr

/-- What surrounds a run. -/
structure Surroundings where
  /-- The server's address, as the environment gives it. -/
  server : Option String := none
  input : String := ""
  colored : Bool := false
  network : Network

def versionText : String := "rsocket-cli 0.1.0\n"

/-- A client's failure in its long form, with which a run ends. -/
def errorDetails : ClientError → String
  | .io error => "Io(" ++ error.details ++ ")"
  | .failure cause => "RSocket(" ++ quoted cause.text ++ ")"
  | .notConnected => "NotConnected"
  | .alreadyConnected => "AlreadyConnected"
  | .timeout => "Timeout"
  | .config message => "Config(" ++ quoted message ++ ")"

def lastWords (e : ClientError) : String := "Error: " ++ errorDetails e ++ "\n"

def Options.client (o : Options) : Client where
  config :=
    let connection : ConnectionConfig := {}
    { address := o.server
      connection := (o.prefetch.map connection.withPrefetch).getD connection
      metadataMime := o.metadataMime
      dataMime := o.dataMime }

/-- The interactive console. -/
def runPrompt (around : Surroundings) (o : Options) (requests : RequestOptions) : Outcome :=
  let colored := around.colored
  let banner :=
    paint colored .boldCyan "rsocket CLI" ++ "\nConnecting to " ++ o.server.text ++ "...\n"
  match o.client.connect around.network with
  | .error e => { exit := 1, stdout := banner, stderr := lastWords e }
  | .ok client =>
    let greeting :=
      paint colored .green "Connected!" ++ "\nType 'help' for available commands.\n\n"
    let session : Session := { options := requests, client }
    let farewell := paint colored .dimmed "Disconnected." ++ "\n"
    { exit := 0
      stdout := banner ++ greeting ++ (session.loop (inputLines around.input)).output ++ farewell }

/-- One command. -/
def runCommand (around : Surroundings) (o : Options) (requests : RequestOptions) : Outcome :=
  let failed (what : String) (e : ClientError) : String :=
    paint around.colored .red what ++ ": " ++ e.text ++ "\n"
  match o.client.connect around.network with
  | .error e => { exit := 1, stderr := failed "Connection failed" e ++ lastWords e }
  | .ok client =>
    match ((o.command.run requests).on client).1 with
    | .error e => { exit := 1, stderr := failed "Error" e }
    | .ok output =>
      let output := output.getD ""
      { exit := 0, stdout := if output.isEmpty then "" else output ++ "\n" }

/-- Runs the console. -/
def run (around : Surroundings) (arguments : List String) : Outcome :=
  match Invocation.ofArguments around.server arguments with
  | .version => { exit := 0, stdout := versionText }
  | .help => { exit := 0 }
  | .misuse => { exit := 2 }
  | .run o =>
    let requests : RequestOptions :=
      { colored := around.colored, metadata := o.metadata, prefetch := o.prefetch }
    match o.command with
    | .prompt => runPrompt around o requests
    | _ => runCommand around o requests

end StreamMux.Console
