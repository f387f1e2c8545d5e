import WebCapture.Simulation.Desk

set_option autoImplicit false

/-! # The program on a terminal

Here the program meets the real terminal, environment and files. It reaches no broker, so that the
commands that need one end with the failure to connect.

The calls about lines, files and the environment are answered here; all others are answered by a
`Desk` whose broker does not answer. What is printed goes to the standard output together with the
log, and complaints go to where errors are written.
-/

namespace WebCapture

open CommandLine (Call)
open Simulation (Desk)

def bytesOfFile (path : String) : IO (Option Text.Utf8.Bytes) := do
  try return some (← IO.FS.readBinFile path).toList
  catch _ => return none

/-- What comes back from a call on a terminal. -/
def answerOnTerminal : (call : Call) → StateT Desk IO call.Answer
  | .print line => IO.println line
  | .log level text => IO.println (level.name ++ " " ++ text)
  | .complain line => IO.eprintln line
  | .environment name => IO.getEnv name
  | .readFile path => do return CommandLine.textOfFile (← bytesOfFile path)
  | call => modifyGet fun desk => desk.answer call

def usageLines (error : CommandLine.UsageError) : List String :=
  match error with
  | .displayVersion => []
  | _ => [
    "Usage: " ++ CommandLine.Application.name ++ " [OPTIONS] <COMMAND>", "",
    "Commands: " ++ ", ".intercalate CommandLine.topLevel.subcommands, "",
    "Options: " ++ ", ".intercalate (CommandLine.topLevel.choices.map ("--" ++ ·.name))]

/-- The world of a program that reaches no broker. -/
def unconnected : Desk :=
  { Desk.start (.start .standard (.broker ⟨[], [], []⟩)) with brokerAnswers := false }

end WebCapture

def main (words : List String) : IO UInt32 := do
  let program := WebCapture.CommandLine.Application.run words
  let (exit, _) ← (program.run WebCapture.answerOnTerminal).run WebCapture.unconnected
  match exit with
  | .usage error => (WebCapture.usageLines error).forM IO.eprintln
  | _ => pure ()
  return UInt32.ofNat exit.code
