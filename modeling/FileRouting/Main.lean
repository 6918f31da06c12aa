import FileRouting.Archive
import FileRouting.CommandLine

/-!
# The program

The arguments of the program are those of the command line, and its standard
input is an archive of the working directory.
-/

namespace FileRouting

/-- All lines of a stream, after those read already. -/
partial def readLines (stream : IO.FS.Stream) (read : String) : IO String := do
  let line ← stream.getLine
  if line.isEmpty then return read
  readLines stream (read ++ line)

end FileRouting

open FileRouting in
def main (arguments : List String) : IO UInt32 := do
  let archive ← readLines (← IO.getStdin) ""
  let outcome := runArguments (FileTree.ofArchive archive.toList) false
    (arguments.map String.toList)
  (← IO.getStdout).putStr (String.ofList outcome.output)
  match outcome.error with
  | some message => (← IO.getStderr).putStrLn (String.ofList message)
  | none => pure ()
  return outcome.code.toUInt32
