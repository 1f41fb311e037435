import ShaderConversion.CommandLine.Run

namespace ShaderConversion.CommandLine

def fileErrorOf : IO.Error → FileError
  | .noFileOrDirectory .. => .notFound
  | .noSuchThing .. => .notFound
  | .inappropriateType _ code details =>
    if code = 21 then .isDirectory else if code = 20 then .notDirectory else .other details
  | .invalidArgument _ code details => if code = 36 then .nameTooLong else .other details
  | error => .other error.toString

def access {α : Type} (path : Path) (action : String → IO α) : IO (Except FileError α) := do
  match path.checked with
  | .error error => return .error error
  | .ok path =>
    try return .ok (← action (String.ofList path.text))
    catch error => return .error (fileErrorOf error)

def readFile (path : Path) : IO (Except FileError (List UInt8)) :=
  access path fun name => return (← IO.FS.readBinFile name).toList

def writeFile (path : Path) (content : List UInt8) : IO (Except FileError Unit) :=
  access path fun name => IO.FS.writeBinFile name ⟨content.toArray⟩

def Command.input : Command → Path
  | validate input => input
  | convert input _ => input

def conclude (ending : Ending) : IO UInt32 := do
  IO.print ending.stdout
  IO.eprint ending.stderr
  return UInt32.ofNat ending.exit

def printJournal (verbose : Bool) (events : List Event) : IO Unit := do
  for event in events do
    if event.level.isWithin (if verbose then .debug else .info) then
      IO.eprintln s!"{event.level.name} {event.message}"

def runOptions (options : Options) : IO UInt32 := do
  let paths := options.config?.toList ++ [options.command.input]
  let contents ← paths.mapM fun path => return (path, ← readFile path)
  let p := plan .reduced options fun path => (contents.lookup path).getD (.error .notFound)
  printJournal options.verbose p.events
  match p.action with
  | .fail error => conclude (.failed error)
  | .report input report => conclude (.validated input report)
  | .write output m => conclude (.ofWrite output m (← writeFile output m.bytes))

end ShaderConversion.CommandLine

open ShaderConversion.CommandLine in
def main (arguments : List String) : IO UInt32 :=
  match Options.ofArguments Build.reduced.preferred (arguments.map String.toList) with
  | .error refusal => conclude (.refused refusal)
  | .ok options => runOptions options
