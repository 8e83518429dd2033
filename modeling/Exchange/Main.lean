-- SUMMARY: The command line: a daemon on standard input and output, and the two commands.
import Exchange.Standalone

/-!
# The command line

`serve` is a daemon that serves one connection over standard input and output.
`request` and `subscribe` take their settings from the environment and are run
against a daemon of their own; a number says after how many lines to stop.
-/

namespace Exchange.CommandLine

def usage : String :=
  "usage: exchange serve | exchange request [LINES] | exchange subscribe [LINES]"

/-! ## Serving -/

def writeAll (out : IO.FS.Stream) (bytes : Bytes) : IO Unit := do
  out.write ⟨bytes.toArray⟩
  out.flush

/-- Serves until the input ends or the daemon closes the connection; `second` counts the seconds
that have gone by for the daemon. -/
partial def serve (input out : IO.FS.Stream) (start second : Nat) (line : Line) : IO Unit := do
  let chunk ← input.read 65536
  let now := ((← IO.monoMsNow) - start) / 1000
  let (line, bytes) := ((line.elapse (now - second)).write chunk.toList).take
  writeAll out bytes
  if chunk.isEmpty || line.isOver then return ()
  serve input out start now line

/-! ## Commands -/

/-- The variables of the environment that commands look at. -/
def environment : IO Command.Environment :=
  Command.variableNames.filterMapM fun name => do
    return (← IO.getEnv name).map fun value => (name, value)

/-- The exit code of a command that was stopped. -/
def stopped : UInt32 := 130

def runCommand (command : Command) (lines : Nat) : IO UInt32 := do
  let outcome := command.runAlone (← environment) lines
  for text in outcome.output do
    IO.println text
  if let some text := outcome.error then
    IO.eprintln ("Error: " ++ text)
  match outcome.exit with
  | some code => return UInt32.ofNat code
  | none => return stopped

def refuse : IO UInt32 := do
  IO.eprintln usage
  return 2

def runWith (command : Command) : List String → IO UInt32
  | [] => runCommand command 0
  | [text] =>
    match text.toNat? with
    | some lines => runCommand command lines
    | none => refuse
  | _ => refuse

end Exchange.CommandLine

open Exchange in
def main (args : List String) : IO UInt32 := do
  match args with
  | ["serve"] =>
    CommandLine.serve (← IO.getStdin) (← IO.getStdout) (← IO.monoMsNow) 0 Line.fresh
    return 0
  | "request" :: rest => CommandLine.runWith .request rest
  | "subscribe" :: rest => CommandLine.runWith .subscribe rest
  | _ => CommandLine.refuse
