import TypedSheets.CommandLine.Execution

/-!
# The program

The program reads its command line and runs the command on the files of the machine. Output goes to
standard output; log lines, and the error of a command that fails, go to standard error.
-/

namespace TypedSheets

/-- The fault behind an error of the machine. -/
def FileFault.ofError : IO.Error → FileFault
  | .noFileOrDirectory .. => .notFound
  | .inappropriateType _ code _ => if code = 21 ∨ code = -21 then .isDirectory else .notDirectory
  | error => .host (toString error)

/-- Runs an action on files, with its error as a fault. -/
def catchFault {α : Type} (action : IO α) : IO (Except FileFault α) := do
  match ← action.toBaseIO with
  | .ok a => return .ok a
  | .error e => return .error (.ofError e)

/-- The place of a path on the machine. -/
def Path.place (p : Path) :=
  (do return (← IO.currentDir) / p.text : IO _)

/-- Bytes as the text that they encode, if they encode one. -/
def Content.ofBytes (bytes : ByteArray) : Content :=
  match String.fromUTF8? bytes with
  | some s => .text s
  | none => .bytes bytes.toList

/-- Whether a path leads to something of a type. -/
def hasType (p : Path) (type : IO.FS.FileType) : IO Bool := do
  if p.text = "" then return false
  match ← catchFault do (← p.place).metadata with
  | .error _ => return false
  | .ok found => return found.type == type

/-- The names of the files in a directory. -/
def machineFiles (dir : Path) : IO (List String) := do
  let entries ← (← dir.place).readDir
  let names := entries.toList.map (·.fileName)
  names.filterM fun name => hasType (dir.join name) .file

instance : FileStore IO where
  readContent p := catchFault do return .ofBytes (← IO.FS.readBinFile p.text)
  isFile p := hasType p .file
  isDirectory p := hasType p .dir
  files dir := catchFault (machineFiles dir)
  write p text := catchFault (IO.FS.writeFile p.text text)
  remove p := catchFault (IO.FS.removeFile p.text)

namespace Usage

/-- The version of the program. -/
def versionText : String := "0.1.0"

/-- The commands with their options. -/
def helpText : String :=
  "compile [--config FILE] SOURCE...\n" ++
  "remove [--config FILE] SOURCE...\n" ++
  "check [--prefix TEXT] SOURCE\n" ++
  "render [--language NAME] [--template FILE] [--prefix TEXT] SOURCE\n" ++
  "load [--skip-invalid-rows] [--prefix TEXT] SOURCE\n" ++
  "\n" ++
  "--quiet  log warnings and errors only\n"

/-- What is said in place of running a command. -/
def message : Usage → String
  | .help | .nothingGiven => helpText
  | .version => versionText ++ "\n"
  | .missingCommand => "error: a command is missing\n"
  | .missingSource => "error: a source is missing\n"
  | .unknownCommand => "error: there is no such command\n"
  | .unknownArgument => "error: an argument is not expected\n"
  | .missingValue => "error: a value is missing\n"
  | .badValue => "error: a value is not valid\n"
  | .unexpectedValue => "error: a value is not expected\n"
  | .repeated => "error: an argument is given twice\n"

/-- Whether the command line asks for the text. -/
def isRequest : Usage → Bool
  | .help | .version => true
  | _ => false

end Usage

/-- Runs a command and returns the exit code. -/
def Invocation.run (i : Invocation) : IO UInt32 := do
  let ran ← i.command.run
  let errors ← IO.getStderr
  for line in Event.lines i.threshold ran.events do
    errors.putStr line
  IO.print ran.output
  match ran.failure with
  | none => return 0
  | some e =>
    errors.putStr (e.text ++ "\n")
    return 1

/-- Runs a command line and returns the exit code. -/
def runCommandLine (args : List String) : IO UInt32 := do
  match Invocation.parse args with
  | .ok i => i.run
  | .error usage =>
    if usage.isRequest then
      IO.print usage.message
      return 0
    else
      (← IO.getStderr).putStr usage.message
      return 2

end TypedSheets

/-- Runs the program on its arguments. -/
def main (args : List String) : IO UInt32 :=
  TypedSheets.runCommandLine args
