import CacheDepot.Command.Execution

/-!
# The program

Reads the configuration file that the command line names, if any, and prints what
the command line asks for.
-/

open CacheDepot

/-- Numbers of errors come with either sign. -/
def errorNumber (code : UInt32) : Nat :=
  min code.toNat (0 - code).toNat

/-- What the system reports on a file. -/
def fileErrorOf : IO.Error → Files.FileError
  | .noFileOrDirectory _ code text
  | .inappropriateType _ code text
  | .permissionDenied _ code text
  | .invalidArgument _ code text
  | .resourceExhausted _ code text => .ofNumber (errorNumber code) text.capitalize
  | .otherError code text => .ofNumber (errorNumber code) text.capitalize
  | other => .system (toString other) 0

/-- Reads the file that a command line names. -/
def readNamed (arguments : List String) : IO Files.Reader := do
  match Command.Invocation.ofArguments arguments with
  | .perform _ { file := some path, .. } =>
      try
        let content ← IO.FS.readBinFile path
        return fun _ => .ok (some content)
      catch failure =>
        let error := fileErrorOf failure
        return fun _ => if error.meansAbsent then .ok none else .error error
  | _ => return fun _ => .ok none

def main (arguments : List String) : IO UInt32 := do
  let outcome := Command.run (← readNamed arguments) arguments
  IO.print outcome.output
  IO.eprint outcome.errors
  return outcome.exit.toUInt32
