import MessageCard.CommandLine.Run

/-!
The program `card`.  It reads the files that a command names and leaves the rest to the library.
The files of a folder that is to be tested are named on standard input, one path on a line.
-/

namespace MessageCard

/-- Why a file was not read. -/
def ReadError.ofIO : IO.Error → ReadError
  | .noFileOrDirectory .. => .missing
  | .permissionDenied .. => .denied
  | .inappropriateType _ code _ => if code = 20 then .notFolder else .isFolder
  | _ => .notText

/-- Reads the text of a file. -/
def loadText (path : String) : IO (Except ReadError String) := do
  match ← (IO.FS.readFile path).toBaseIO with
  | .ok text => return .ok text
  | .error error => return .error (.ofIO error)

/-- Reads the files whose paths stand on the lines of standard input. -/
def loadListed : IO FileTree := do
  let listing ← (← IO.getStdin).readToEnd
  let mut files := []
  for line in Text.lines listing.toList do
    let path := String.ofList line
    match ← loadText path with
    | .ok text => files := (path, text) :: files
    | .error _ => pure ()
  return FileTree.ofFiles files.reverse

/-- What stands at a path: a file, or a folder with its files when it is to be tested. -/
def load (isTested : Bool) (path : String) : IO (Except ReadError FileTree) := do
  match ← loadText path with
  | .ok text => return .ok (.file (.ok text))
  | .error .notText => return .ok (.file (.error .notText))
  | .error .isFolder =>
      if isTested then return (← loadListed).find path else return .ok (.folder [])
  | .error error => return .error error

/-- What each path that a command reads leads to. -/
def loadFiles (command : Command) : IO Files := do
  let (paths, isTested) :=
    match command with
    | .compile command => (command.config.toList ++ [command.file], false)
    | .test command => ([command.path], true)
  let found ← paths.mapM fun path => return (path, ← load isTested path)
  return fun path => (found.lookup path).getD (.error .missing)

/-- Carries out a command line. -/
def carryOut (words : List String) : IO Printout := do
  match Invocation.ofWords (withDefaultCommand words) with
  | .error error => return error.printout
  | .ok invocation => return invocation.run (← loadFiles invocation.command)

end MessageCard

open MessageCard in
/-- Runs the program and ends with its exit status. -/
def main (arguments : List String) : IO UInt32 := do
  let printout ← carryOut ("card" :: arguments)
  IO.print printout.stdout
  IO.eprint printout.stderr
  return printout.exit.toUInt32
