import StreamMux.Console.Run

/-!
The console as a program. It opens no sockets of its own: whatever it dials is out of reach.
-/
namespace StreamMux.Console

/-- All that can be read from a stream. -/
partial def readAll (input : IO.FS.Stream) (text : String := "") : IO String := do
  let line ← input.getLine
  if line.isEmpty then return text else readAll input (text ++ line)

/-- Colours are wanted although the output may not be a terminal. -/
def wantsColours : IO Bool := do
  return (← IO.getEnv "CLICOLOR_FORCE").any (· ≠ "0")

/-- The input is read only if the prompt will take it. -/
def inputFor (server : Option String) (arguments : List String) : IO String := do
  match Invocation.ofArguments server arguments with
  | .run { command := .prompt, .. } => readAll (← IO.getStdin)
  | _ => return ""

end StreamMux.Console

open StreamMux in
def main (arguments : List String) : IO UInt32 := do
  let server ← IO.getEnv "RSOCKET_SERVER"
  let around : Console.Surroundings :=
    { server, input := ← Console.inputFor server arguments, colored := ← Console.wantsColours
      network := .unreachable }
  let outcome := Console.run around arguments
  IO.print outcome.stdout
  IO.eprint outcome.stderr
  return UInt32.ofNat outcome.exit
