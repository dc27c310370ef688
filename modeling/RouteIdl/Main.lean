import RouteIdl.CommandLine.Commands

/-!
# Command line

The program itself: its session is carried out on the files of the computer. All that is decided is
decided by the session.
-/

namespace RouteIdl.CommandLine

/-- The bytes of a file, if it can be read. -/
def fileContent? (path : String) : IO (Option ByteArray) := do
  try
    return some (← IO.FS.readBinFile path)
  catch _ => return none

/-- Whether a path names a file. -/
def namesFile (path : String) : IO Bool := do
  try
    let place ← IO.FS.realPath path
    return (← place.pathExists) && !(← place.isDir)
  catch _ => return false

/-- Write a file; the result tells whether this succeeds. -/
def writeFile (path : String) (bytes : ByteArray) : IO Bool := do
  try
    IO.FS.writeBinFile path bytes
    return true
  catch _ => return false

/-- Carry out a session on the files and the terminal. -/
def perform {α : Type} : Session α → IO α
  | .done value => return value
  | .read path next => do perform (next (← fileContent? path))
  | .isFile path next => do perform (next (← namesFile path))
  | .write path bytes next => do perform (next (← writeFile path bytes))
  | .print text next => do
      IO.print text
      perform next
  | .note line next => do
      IO.eprintln line
      perform next

/-- The environment variable with the log directives of the user. -/
def directivesVariable : String := "RUST_LOG"

end RouteIdl.CommandLine

def main (arguments : List String) : IO UInt32 := do
  let directives ← IO.getEnv RouteIdl.CommandLine.directivesVariable
  let code ← RouteIdl.CommandLine.perform (RouteIdl.CommandLine.session arguments directives)
  return code.toUInt32
