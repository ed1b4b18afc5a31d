import TypeTags.Command.Run

/-!
# The command line

A command that works on sources reads a snapshot of the working directory from the standard input:
its files with their syntax trees, and the environment. The other commands read nothing.
-/

namespace TypeTags.Main

/-- All that is left of a stream, after a text that was read from it. -/
partial def readAll (stream : IO.FS.Stream) (read : String) : IO String := do
  let line ← stream.getLine
  if line.isEmpty then return read else readAll stream (read ++ line)

/-- Whether arguments ask for work on sources. -/
def needsSources (arguments : List String) : Bool :=
  match Invocation.parse? arguments with
  | some ⟨_, .scan ..⟩ => true
  | some ⟨_, .inspect ..⟩ => true
  | _ => false

def surroundings (arguments : List String) : IO Surroundings := do
  if needsSources arguments then
    match Json.parse (← readAll (← IO.getStdin) "") with
    | .ok v => return Surroundings.ofJson v
    | .error _ => throw (IO.userError "The snapshot on the standard input is not JSON")
  else return { workspace := {} }

end TypeTags.Main

open TypeTags in
/-- Run the program: write what it says, and the files it was told to write. -/
def main (arguments : List String) : IO UInt32 := do
  let session := (← Main.surroundings arguments).run arguments
  for (path, text) in session.saved do
    IO.FS.writeFile path text
  (← IO.getStdout).putStr session.stdout
  (← IO.getStderr).putStr session.stderr
  if let some failure := session.failure then
    (← IO.getStderr).putStr (failure.message ++ "\n")
  return session.exitCode.toUInt32
