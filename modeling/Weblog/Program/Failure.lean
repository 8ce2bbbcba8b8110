import Weblog.Blog.Store
import Weblog.Config.File
/-!
# Failures

* `Failure`: why a command fails, `Failure.message`, the wording, and `Failure.code`, a short name.
* `Failure.exitStatus`: the exit status of the program.
* `Failure.toJson`: a failure as JSON.
-/

namespace Weblog

open Files

/-- Input that is read but of no use. -/
inductive InputError
  | dataFileExists (path : String)
  | noArray
  deriving DecidableEq

def InputError.message : InputError → String
  | dataFileExists path =>
    "data file already exists at " ++ path ++ " (use --force to overwrite)"
  | noArray => "expected a JSON array of objects"

/-- Why a command fails. -/
inductive Failure
  | store (error : StoreError)
  | noPost (id : String)
  | settings (error : SettingsError)
  | input (error : InputError)
  | read (error : FileError)
  | malformedJson

namespace Failure

def message : Failure → String
  | store error => "store error: " ++ error.message
  | noPost id => "Post not found: " ++ id
  | settings error => "configuration error: " ++ error.message
  | input error => "invalid input: " ++ error.message
  | read error => "I/O error: " ++ error.message
  | malformedJson => "serialization error: malformed text"

/-- The name of a failure for other programs. -/
def code : Failure → String
  | store _ => "STORE_ERROR"
  | noPost _ => "NOT_FOUND"
  | settings _ => "CONFIG_ERROR"
  | input _ => "INPUT_ERROR"
  | read _ => "IO_ERROR"
  | malformedJson => "JSON_ERROR"

def exitStatus : Failure → UInt32
  | input _ | malformedJson => 1
  | read _ => 3
  | store _ => 4
  | settings _ | noPost _ => 5

def toJson (f : Failure) : Json :=
  .object [("error", .object [("code", .string f.code), ("message", .string f.message)])]

end Failure

end Weblog
