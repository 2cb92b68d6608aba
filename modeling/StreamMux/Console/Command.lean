import StreamMux.Client.Basic
import StreamMux.Console.Arguments
import StreamMux.Console.Style

/-!
Running one command on a client, and how its outcome is shown: payloads as text, the items of a
stream as numbered lines, the first failure instead of everything.
-/
namespace StreamMux.Console

/-- What requests are made with. -/
structure RequestOptions where
  colored : Bool := false
  metadata : Option String := none
  prefetch : Option UInt32 := none

/-- A payload from text. -/
def RequestOptions.payload (o : RequestOptions) (data : String) : Payload :=
  { data := data.toUTF8, metadata := o.metadata.map String.toUTF8 }

/-- A payload as text, with its metadata if it has any. -/
def showPayload (colored : Bool) (p : Payload) : String :=
  let data := lossyText p.data
  match p.metadata with
  | none => data
  | some metadata =>
    data ++ " " ++ paint colored .dimmed ("(metadata: " ++ lossyText metadata ++ ")")

/-- Items as lines with their numbers. -/
def showItems (colored : Bool) (items : List Item) : Except Failure String := do
  let payloads ← items.mapM id
  let lines := payloads.zipIdx.map fun (payload, i) =>
    paint colored .cyan ("[" ++ toString i ++ "]") ++ " " ++ showPayload colored payload
  return if lines.isEmpty then paint colored .yellow "No items" else "\n".intercalate lines

/-- Prints items, or fails with the failure among them. -/
def printItems (colored : Bool) (items : List Item) : Operation (Option String) :=
  match showItems colored items with
  | .ok text => return some text
  | .error cause => throw (.failure cause)

/-- Runs a command. The result is what it prints, or nothing if it waits forever. -/
def Command.run (command : Command) (o : RequestOptions) : Operation (Option String) := do
  match command with
  | prompt => return some ""
  | requestResponse data =>
    let answer ← Operation.requestResponse (o.payload data)
    return answer.map (showPayload o.colored)
  | fireAndForget data =>
    let sent ← Operation.fireAndForget (o.payload data)
    return sent.map fun _ => paint o.colored .green "Sent"
  | stream data limit =>
    printItems o.colored (← Operation.requestStream (o.payload data) o.prefetch limit)
  | channel items =>
    let sent := items.map fun item => .ok (o.payload item)
    printItems o.colored (← Operation.requestChannel sent o.prefetch none)
  | metadataPush metadata =>
    let pushed ← Operation.metadataPush metadata.toUTF8
    return pushed.map fun _ => paint o.colored .green "Pushed"

end StreamMux.Console
