import StreamMux.Network.Address

/-!
The arguments of the console: options of the program, a command, and the command's own options
and operands. Options with a value take it after `=`, joined to their letter, or as the next
argument, which then must not look like an option. Metadata and prefetch may be given on either
side of the command; the later side counts.

Arguments are judged from left to right, so help that is asked for early hides mistakes behind it.
A value that is an argument of its own is judged late: once the next option or operand of its scope
begins, or the scope ends. The scope of the program ends behind the command.
-/
namespace StreamMux.Console

/-- What a run of the console does; without a command it prompts for them. -/
inductive Command where
  | prompt
  | requestResponse (data : String)
  | fireAndForget (data : String)
  | stream (data : String) (limit : Option Nat)
  | channel (items : List String)
  | metadataPush (metadata : String)
  deriving DecidableEq, Repr

/-- The arguments, read. -/
structure Options where
  server : SocketAddress
  metadata : Option String := none
  prefetch : Option UInt32 := none
  dataMime : String := "text/plain"
  metadataMime : String := "text/plain"
  command : Command := .prompt
  deriving Inhabited

/-- What the arguments ask for. -/
inductive Invocation where
  | version
  | help
  /-- The arguments make no sense. -/
  | misuse
  | run (options : Options)

/-- Options by what they set. -/
inductive Flag where
  | server | metadata | prefetch | dataMime | metadataMime | limit
  deriving DecidableEq, Repr

/-- The flags of the program itself, and of a command. -/
inductive Scope where
  | program
  | command (name : String)
  deriving DecidableEq, Repr

def Scope.flags : Scope → List (Flag × String × Option Char)
  | program =>
    [(.server, "server", some 's'), (.metadata, "metadata", some 'm'),
      (.prefetch, "prefetch", some 'p'), (.dataMime, "data-mime-type", none),
      (.metadataMime, "metadata-mime-type", none)]
  | command name =>
    let prefetch := (Flag.prefetch, "prefetch", some 'p')
    let shared := [(Flag.metadata, "metadata", some 'm'), prefetch]
    if name = "stream" then (.limit, "take", some 't') :: shared
    else if name = "metadata-push" then [prefetch]
    else shared

def commandNames : List String :=
  ["repl", "request-response", "fire-and-forget", "stream", "channel", "metadata-push"]

/-- Another operand is allowed behind so many. -/
def Scope.takesOperand (scope : Scope) (count : Nat) : Bool :=
  match scope with
  | program | command "repl" => false
  | command "channel" => true
  | command _ => count = 0

/-- One argument, taken apart. -/
inductive Token where
  | version
  | help
  | option (flag : Flag) (value : Option String)
  /-- From here on there are only operands. -/
  | operandsOnly
  | operand (text : String)
  | unknown

def Token.ofLong (scope : Scope) (body : List Char) : Token :=
  let (name, rest) := body.span (· ≠ '=')
  let name := String.ofList name
  let value := if rest.isEmpty then none else some (String.ofList (rest.drop 1))
  if name = "help" ∧ value.isNone then .help
  else if name = "version" ∧ value.isNone ∧ scope = .program then .version
  else
    match scope.flags.find? (·.2.1 = name) with
    | some (flag, _) => .option flag value
    | none => .unknown

def Token.ofShort (scope : Scope) (letter : Char) (rest : List Char) : Token :=
  let rest' := if rest.head? = some '=' then rest.drop 1 else rest
  if letter = 'h' then .help
  else if letter = 'V' ∧ scope = .program then .version
  else
    match scope.flags.find? (·.2.2 = some letter) with
    | some (flag, _) => .option flag (if rest.isEmpty then none else some (String.ofList rest'))
    | none => .unknown

def Token.ofArgument (scope : Scope) (argument : String) : Token :=
  match argument.toList with
  | ['-', '-'] => .operandsOnly
  | '-' :: '-' :: body => ofLong scope body
  | '-' :: letter :: rest => ofShort scope letter rest
  | _ => .operand argument

/-- The argument can be the value of an option. -/
def isValue (argument : String) : Bool :=
  match argument.toList with
  | '-' :: _ :: _ => false
  | _ => true

/-- What was given in one scope. -/
structure Given where
  flags : List (Flag × String) := []
  operands : List String := []
  /-- An option whose value was the next argument, not judged yet. -/
  pending : Option (Flag × String) := none

def Given.value? (g : Given) (flag : Flag) : Option String := g.flags.lookup flag

/-- The number of items to ask for at a time, as an option gives it. -/
def parsePrefetch? (text : String) : Option UInt32 :=
  match parseInteger? text with
  | some (.ofNat n) => if n < 2 ^ 32 then some (.ofNat n) else none
  | _ => none

/-- The value can be read as what the flag sets. -/
def Flag.accepts (flag : Flag) (value : String) : Bool :=
  match flag with
  | server => (SocketAddress.parse? value).isSome
  | prefetch => (parsePrefetch? value).isSome
  | limit => (parseUnsigned? (2 ^ 64) value).isSome
  | metadata | dataMime | metadataMime => true

/-- What reading the arguments of a scope came to. -/
inductive Scan where
  | version
  | help
  | misuse
  | done (given : Given)
  /-- A command begins. -/
  | command (given : Given) (name : String) (rest : List String)

/-- A flag with its value. It must not be given twice, and the value must be readable. -/
def Given.withFlag? (g : Given) (flag : Flag) (value : String) : Option Given :=
  if (g.value? flag).isSome || !flag.accepts value then none
  else some { g with flags := (flag, value) :: g.flags }

/-- Judges the option that is pending. -/
def Given.settle? (g : Given) : Option Given :=
  match g.pending with
  | some (flag, value) => { g with pending := none }.withFlag? flag value
  | none => some g

/-- What is asked for behind the word for help: the program, or one command. -/
def helpOn (rest : List String) : Scan :=
  match rest with
  | [] => .help
  | [topic] => if topic = "help" ∨ commandNames.contains topic then .help else .misuse
  | _ => .misuse

/-- Takes operands as far as the scope allows. -/
def takeOperands (scope : Scope) : Given → List String → Scan
  | g, [] => .done g
  | g, text :: rest =>
    if scope.takesOperand g.operands.length then
      takeOperands scope { g with operands := g.operands ++ [text] } rest
    else .misuse

/-- Reads the arguments of a scope, up to a command if the scope is the program's. -/
def scan (scope : Scope) : Given → List String → Scan
  | g, [] => .done g
  | g, argument :: rest =>
    match Token.ofArgument scope argument with
    | .unknown => .misuse
    | .operandsOnly => takeOperands scope g rest
    | .version => if g.settle?.isSome then .version else .misuse
    | .help => if g.settle?.isSome then .help else .misuse
    | .option flag (some value) =>
      match g.settle? >>= (·.withFlag? flag value) with
      | some g => scan scope g rest
      | none => .misuse
    | .option flag none =>
      match g.settle?, rest with
      | some g, value :: rest =>
        if isValue value then scan scope { g with pending := some (flag, value) } rest else .misuse
      | _, _ => .misuse
    | .operand text =>
      if scope = .program ∧ text = "help" then helpOn rest
      else if scope = .program ∧ commandNames.contains text then .command g text rest
      else
        match g.settle? with
        | some g =>
          if scope.takesOperand g.operands.length then
            scan scope { g with operands := g.operands ++ [text] } rest
          else .misuse
        | none => .misuse

def commandOf? (name : String) (g : Given) : Option Command :=
  match name, g.operands with
  | "repl", [] => some .prompt
  | "request-response", [data] => some (.requestResponse data)
  | "fire-and-forget", [data] => some (.fireAndForget data)
  | "stream", [data] => some (.stream data (g.value? .limit >>= parseUnsigned? (2 ^ 64)))
  | "metadata-push", [metadata] => some (.metadataPush metadata)
  | "channel", item :: items => some (.channel (item :: items))
  | _, _ => none

/-- Puts together what the two scopes gave. The server's address may come from the environment,
which is asked only if no argument gives it. -/
def Invocation.assemble (environment : Option String) (program inner : Given)
    (command : Command) : Invocation :=
  let address :=
    match program.value? .server <|> environment with
    | some text => SocketAddress.parse? text
    | none => some { ip := .loopback, port := 7878 }
  let shared (flag : Flag) : Option String := inner.value? flag <|> program.value? flag
  match address with
  | none => .misuse
  | some server =>
    .run {
      server
      metadata := shared .metadata
      prefetch := shared .prefetch >>= parsePrefetch?
      dataMime := (program.value? .dataMime).getD "text/plain"
      metadataMime := (program.value? .metadataMime).getD "text/plain"
      command }

/-- What a list of arguments asks for. -/
def Invocation.ofArguments (environment : Option String) (arguments : List String) : Invocation :=
  match scan .program {} arguments with
  | .version => .version
  | .help => .help
  | .misuse => .misuse
  | .done program =>
    match program.settle? with
    | some program => assemble environment program {} .prompt
    | none => .misuse
  | .command program name rest =>
    match scan (.command name) {} rest with
    | .help => .help
    | .done inner =>
      match inner.settle?, program.settle? with
      | some inner, some program =>
        match commandOf? name inner with
        | some command => assemble environment program inner command
        | none => .misuse
      | _, _ => .misuse
    | _ => .misuse

end StreamMux.Console
