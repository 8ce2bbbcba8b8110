import Weblog.Program.Run
/-!
# The program

* the file system of the machine.
* `main`: **runs a command line**.
-/

namespace Weblog

open Files

/-! ## Files -/

/-- The number of a system error, which some operations report with the opposite sign. -/
def systemErrorNumber (code : UInt32) : UInt32 :=
  if 0x80000000 < code then 0 - code else code

/-- The file error that the system reports. -/
def fileErrorOf (e : IO.Error) : FileError :=
  match e with
  | .noFileOrDirectory .. => .notFound
  | .alreadyExists .. => .alreadyExists
  | .inappropriateType _ code _ =>
    if systemErrorNumber code = 20 then .notDirectory else .isDirectory
  | .invalidArgument _ code _ =>
    if systemErrorNumber code = 36 then .nameTooLong else .other (toString e)
  | .unsatisfiedConstraints .. => .notEmpty
  | .resourceBusy .. => .busy
  | _ => .other (toString e)

/-- An action and how it ends. -/
def attempt {α : Type} (action : IO α) : IO (Except FileError α) := do
  match ← action.toBaseIO with
  | .ok a => return .ok a
  | .error e => return .error (fileErrorOf e)

/-- The text of some bytes. -/
def decodeText (bytes : ByteArray) : Except FileError String :=
  match String.fromUTF8? bytes with
  | some text => .ok text
  | none => .error .notText

/-- The first byte of a file, if it has one. -/
def readStart (path : String) : IO ByteArray := do
  (← IO.FS.Handle.mk path .read).read 1

instance : FileSystem IO where
  pathExists path := return match ← attempt (IO.FS.Handle.mk path .read) with
    | .error .notFound | .error .notDirectory | .error .nameTooLong => false
    | _ => true
  isDirectory path := return match ← attempt (readStart path) with
    | .error .isDirectory => true
    | _ => false
  readText path := return (← attempt (IO.FS.readBinFile path)).bind decodeText
  writeText path text := attempt (IO.FS.writeFile path text)
  createDir path := attempt (IO.FS.createDir path)
  rename path new := attempt (IO.FS.rename path new)

/-! ## Running -/

/-- All that is read from the standard input. -/
def readInput : IO (Except FileError String) := do
  return (← attempt (← IO.getStdin).readBinToEnd).bind decodeText

def readEnvironment : IO Environment := do
  let found ← Environment.names.mapM fun name => return (name, ← IO.getEnv name)
  return .ofVariables fun name => (found.lookup name).join

end Weblog

open Weblog in
/-- Runs a command line: prints what it writes and gives its exit status. -/
def main (arguments : List String) : IO UInt32 := do
  let ending ← runArguments (← readEnvironment) readInput arguments
  IO.print ending.output
  IO.eprint ending.errorOutput
  return ending.exitStatus
