import Stratum.CommandLine.Run

/-!
# The program

Runs one command on the files of the machine. Which paths the program is to know is read from
standard input, one in a line, as `find` prints them: a path whose content can be read is a file,
any other a directory. There is no link to the web, so commands that need one fail as they do
where no server answers.
-/

namespace Stratum

/-- The files with what the machine has at a path. -/
def addPath (f : Files) (path : String) : IO Files := do
  try return f.put path (.file (← IO.FS.readBinFile path).toList)
  catch _ => return f.put path .dir

/-- The files with what the machine has at the paths in the lines of a stream. -/
partial def addPaths (input : IO.FS.Stream) (f : Files) : IO Files := do
  let line ← input.getLine
  if line.isEmpty then return f
  addPaths input (← addPath f (String.ofList (line.toList.filter (· != '\n'))))

end Stratum

open Stratum in
/-- Runs the command that the arguments ask for, and shows how it ends. -/
def main (args : List String) : IO UInt32 := do
  let files ← addPaths (← IO.getStdin) Files.bare
  let ended := CommandLine.execute { files, web := { up := false } } args
  (← IO.getStdout).putStr ended.output
  ended.complaint.forM IO.eprintln
  return ended.exit.toUInt32
