import SearchBar.CommandLine.Answer

/-!
# The program

Reads the configuration file, answers the request of the command line, and
prints the answer.
-/

namespace SearchBar

open CommandLine

/-- The usual configuration file of the user whose files are in this directory. -/
def usualConfigPath (home : String) : String := home ++ "/.config/monkimap-search/config.toml"

/-- The content of a file, unless there is none that can be read. -/
def contentOf (path : String) : IO (Option ByteArray) := do
  try
    return some (← IO.FS.readBinFile path)
  catch _ =>
    return none

/-- Prints what a run ended with and gives its status. Of a run that stops nothing is printed but a
misuse of the arguments. -/
def finish : Answer → IO UInt32
  | .ok report => do
    IO.print report.output
    IO.eprint report.errors
    return report.status.toUInt32
  | .error (.misuse fault) => do
    IO.eprintln ("Error: " ++ fault.message)
    return 2
  | .error (.brokenMarkup _) | .error (.brokenConfig _) => return 1

/-- Answers the request of a command line. -/
def runProgram (arguments : List String) : IO UInt32 := do
  match Request.ofArguments arguments with
  | .error fault => finish (.error (.misuse fault))
  | .ok request =>
    let home := (← IO.getEnv "HOME").getD ""
    let path := request.configPath?.getD (usualConfigPath home)
    finish (request.answer .terse path (← contentOf path))

end SearchBar

/-- Runs the program. -/
def main (arguments : List String) : IO UInt32 := SearchBar.runProgram arguments
