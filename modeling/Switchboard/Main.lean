import Switchboard.App

/-!
# The program

Finds out what a run depends on, runs it, and shows how it ended.
-/

namespace Switchboard.Program

/-- The bytes of a file, if it can be read. -/
def readBytes? (path : String) : IO (Option (List UInt8)) := do
  try
    let bytes ← IO.FS.readBinFile path
    return some bytes.toList
  catch _ => return none

/-- The variables that make a difference, each asked for by its name. What is no text cannot be told
from a text in this way. -/
def askEnvironment : IO Environment := do
  let texts : Entries String ← App.variableNames.foldlM
    (fun texts name => do
      match ← IO.getEnv name with
      | some word => return Entries.insert name word texts
      | none => return texts)
    []
  return texts

/-- The environment, in bytes if the system shows it so. -/
def readEnvironment : IO Environment := do
  match ← readBytes? "/proc/self/environ" with
  | some block => return .ofBlock block
  | none => askEnvironment

/-- Whether there is anything at a path that can be opened. -/
def canOpen (path : String) : IO Bool := do
  try
    let _ ← IO.FS.Handle.mk path .read
    return true
  catch _ => return false

/-- Adds what stands at a path, if anything does. -/
def lookAt (files : Files) (path : String) : IO Files := do
  match ← readBytes? path with
  | some bytes => return files.withFile path bytes
  | none => return if ← canOpen path then files.withDirectory path else files

/-- What a run depends on besides its arguments. -/
def readWorld : IO World := do
  let env ← readEnvironment
  let current ← IO.currentDir
  let files := Files.emptyAt ((Files.emptyAt []).place current.toString)
  return ⟨env, ← (App.paths env).foldlM lookAt files⟩

/-- Shows how a run ended. -/
def tell (colors : Bool) (ending : App.Ending) : IO Unit :=
  match ending with
  | .success => return
  | .stopped .displayVersion => return
  | .stopped .displayHelp => IO.println App.usage
  | .stopped fault => IO.eprintln ("error: " ++ fault.message ++ "\n\n" ++ App.usage)
  | .failed _ report => IO.eprintln (report.format colors)

/-- Runs the program and answers its exit code. -/
def run (words : List String) : IO UInt32 := do
  let world ← readWorld
  let exit := App.process world words
  IO.print exit.printed
  let output ← IO.getStdout
  tell (App.usesColors world.env (← output.isTty)) exit.ending
  return exit.ending.code.toUInt32

end Switchboard.Program

def main (words : List String) : IO UInt32 := Switchboard.Program.run words
