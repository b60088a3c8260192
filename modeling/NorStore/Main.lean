/-
# The program

Reads the image file, runs the command line on its bytes, prints what the command has to
say, and writes the file back if it changed.
-/

import NorStore.Command.Line

namespace NorStore.Program

/-- What stands at a path. A file that cannot be read counts as absent. -/
def readImage (path : String) : IO Host.Entry := do
  try
    let content ← IO.FS.readBinFile path
    return .file content.data
  catch _ =>
    try
      let _ ← IO.FS.realPath (path ++ "/.")
      return .directory
    catch _ =>
      return .absent

/-- Write a file, and the directories it is in. -/
def writeImage (path : String) (content : Flash.Cells) : IO Unit := do
  let above := (path.toList.reverse.dropWhile (· ≠ '/')).drop 1
  unless above.isEmpty do
    IO.FS.createDirAll (String.ofList above.reverse)
  IO.FS.writeBinFile path ⟨content⟩

end NorStore.Program

open NorStore

/-- The exit code that a shell sees of a program that the host stopped. -/
def Program.stoppedCode : Nat := 134

def main (arguments : List String) : IO UInt32 := do
  let invocation := Command.Invocation.ofArguments arguments
  let path := invocation.toOption.bind Command.Invocation.path?
  let image ← match path with
    | some path => Program.readImage path
    | none => pure .absent
  let exit := Command.runProgram invocation image
  if let (some path, some content) := (path, exit.image.content?) then
    if exit.image != image then
      Program.writeImage path content
  exit.lines.forM fun line => IO.println line
  if let some complaint := exit.complaint then
    IO.eprintln s!"Error: {complaint}"
  return UInt32.ofNat (exit.code.getD Program.stoppedCode)
