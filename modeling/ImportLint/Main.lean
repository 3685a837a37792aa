import ImportLint.CommandLine.DiskImage
import ImportLint.CommandLine.Program

/-!
# The command line

Reads an image of the disk from standard input and runs the program on it.  The environment
names the working directory (`PWD`), further package directories (`NODE_PATH`) and the place of the
program on that disk (`TOOL_DIR`).
-/

open ImportLint

/-- The lines that are left of an input. -/
def remainingInput (input : IO.FS.Stream) : IO String := do
  let mut found := ""
  repeat
    let line ← input.getLine
    if line.isEmpty then break
    found := found ++ line
  return found

/-- The disk, where a request needs one. -/
def requestedDisk (arguments : List Text) : IO (Option Disk) := do
  match CommandLine.Request.ofArguments arguments with
  | .ok (.check _) => return Disk.ofImage? (← remainingInput (← IO.getStdin)).toList
  | _ => return some {}

def main (arguments : List String) : IO UInt32 := do
  let arguments := arguments.map String.toList
  let cwd : Path := ⟨((← IO.getEnv "PWD").getD "/").toList⟩
  let nodePath := (← IO.getEnv "NODE_PATH").map String.toList
  let toolDir := (← IO.getEnv "TOOL_DIR").map Path.ofString
  let outcome := match ← requestedDisk arguments with
    | some disk => CommandLine.run disk cwd nodePath arguments toolDir
    | none => CommandLine.failed "standard input is not an image of a disk" none
  IO.print outcome.output
  IO.eprint outcome.errors
  return UInt32.ofNat outcome.exitCode
