import MathHeader.CommandLine.Program

/-!
# Entry point

The program on a disk.  What it decides is decided by `MathHeader.CommandLine.run`; here files are
read and replaced, in the same three steps as in a file tree.
-/

namespace MathHeader.CommandLine

/-- How often another name for a temporary file is tried. -/
def nameAttempts : Nat := 65536

def besidePath (path name : String) : String :=
  let folder := FileTree.parentPath path
  if folder.isEmpty && !path.startsWith "/" then name else folder ++ "/" ++ name

/-- Opens a new file beside the one that a path leads to, under a name that nothing has. -/
def createTemporary (path : String) : Nat → IO (String × IO.FS.Handle)
  | 0 => throw (IO.userError "no name is left for a temporary file")
  | attempts + 1 => do
    let temporary := besidePath path (".tmp" ++ toString (← IO.rand 0 999999999))
    try
      return (temporary, ← IO.FS.Handle.mk temporary .writeNew)
    catch
      | .alreadyExists .. => createTemporary path attempts
      | e => throw e

/-- Writes a text to an open file, and says whether that succeeded. -/
def fill (file : IO.FS.Handle) (text : String) : IO Bool := do
  try
    file.putStr text
    file.flush
    return true
  catch _ => return false

def discard (path : String) : IO Unit := do
  try IO.FS.removeFile path catch _ => pure ()

/-- Replaces the file that a path leads to.  A temporary file that is left is removed. -/
def replaceFile (path text : String) : IO (Except OutputError Unit) := do
  try
    let (temporary, file) ← createTemporary path nameAttempts
    if ← fill file text then
      try
        IO.FS.rename temporary path
        return .ok ()
      catch _ =>
        discard temporary
        return .error (.unplaced (FileTree.pathNames temporary))
    else
      discard temporary
      return .error .unwritten
  catch _ => return .error .unwritten

/-- The disk as a file system. -/
def disk : FileSystem IO where
  read? path := do try return some (← IO.FS.readFile path) catch _ => return none
  write a path := replaceFile path a.text

end MathHeader.CommandLine

open MathHeader.CommandLine

/-- Runs the program and gives its exit code. -/
def main (arguments : List String) : IO UInt32 := do
  let report ← run disk arguments
  IO.print report.stdout
  IO.eprint report.stderr
  pure report.code
