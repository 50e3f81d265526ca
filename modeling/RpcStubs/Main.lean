/-
The programs: the command line, and the part of a compiler.

The second is chosen by the name under which the program is called.
-/
import RpcStubs.CommandLine.Run
import RpcStubs.Plugin

namespace RpcStubs.Main

/-- Carry out a step of a run on the real disk. -/
def carryOut (level : Level) : CommandLine.Action → IO Unit
  | .report event => do (← IO.getStderr).putStr (Event.log level [event])
  | .write path content => do
    let directory := DiskPath.directory path
    unless directory = "" do IO.FS.createDirAll directory
    IO.FS.writeFile path content

/-- Break off, since a map entry refers to itself. -/
def breakOffCyclic : IO UInt32 :=
  throw (IO.userError "a map entry refers to itself")

/-- Break off, since the input cannot be read. -/
def breakOffUndecodable : IO UInt32 :=
  throw (IO.userError "the input is not encoded as it should be")

/-- Run with options, from the working directory. -/
def runHere (o : CommandLine.Options) : IO UInt32 := do
  let root := (← IO.currentDir).toString
  carryOut o.level (.report (.workingFrom root))
  let bytes ← match o.descriptorPath? root with
    | some path => IO.FS.readBinFile path
    | none => throw (IO.userError "no schema set is named")
  let plan := CommandLine.plan root o fun _ => .ok bytes.toList
  for action in plan.actions do
    carryOut o.level action
  match plan.ending with
  | .ok code => return UInt32.ofNat code
  | .error .undecodable => breakOffUndecodable
  | .error _ => breakOffCyclic

/-- Answer the request on standard input. -/
def answerRequest : IO UInt32 := do
  let input ← (← IO.getStdin).readBinToEnd
  match Plugin.respondTo input.toList with
  | .ok (response, log) =>
    (← IO.getStderr).putStr log
    let output ← IO.getStdout
    output.write ⟨(Wire.writeResponse response).toArray⟩
    output.flush
    return 0
  | .error .undecodable => breakOffUndecodable
  | .error .cyclic => breakOffCyclic

def runCommandLine (arguments : List String) : IO UInt32 := do
  match CommandLine.parse arguments with
  | .error e =>
    (← IO.getStderr).putStr (CommandLine.refusal e)
    return 2
  | .ok .help =>
    (← IO.getStdout).putStr CommandLine.help
    return 0
  | .ok (.run o) => runHere o

end RpcStubs.Main

def main (arguments : List String) : IO UInt32 := do
  let called := (← IO.appPath).fileName.getD ""
  if called.startsWith "protoc-gen-" then RpcStubs.Main.answerRequest
  else RpcStubs.Main.runCommandLine arguments
