import Weblog.Files.Path
/-!
# File systems

* `FileError`: why a file operation fails, and its wording.
* `FileSystem`: the operations that the program uses, in any monad.
* `createDirs`: a directory and its missing parents.
-/

namespace Weblog.Files

/-- Why a file operation fails. -/
inductive FileError
  | notFound
  | alreadyExists
  | notDirectory
  | isDirectory
  | notEmpty
  | busy
  | nameTooLong
  | nulInPath
  | notText
  | other (message : String)
  deriving DecidableEq

/-- The wording of an error. -/
def FileError.message : FileError → String
  | notFound => "No such file or directory (os error 2)"
  | alreadyExists => "File exists (os error 17)"
  | notDirectory => "Not a directory (os error 20)"
  | isDirectory => "Is a directory (os error 21)"
  | notEmpty => "Directory not empty (os error 39)"
  | busy => "Device or resource busy (os error 16)"
  | nameTooLong => "File name too long (os error 36)"
  | nulInPath => "file name contained an unexpected NUL byte"
  | notText => "stream did not contain valid UTF-8"
  | other message => message

/-- The operations on files that the program uses. -/
class FileSystem (m : Type → Type) where
  /-- Whether something has the path. -/
  pathExists : String → m Bool
  /-- Whether a directory has the path. -/
  isDirectory : String → m Bool
  readText : String → m (Except FileError String)
  /-- Writes a file, new or in place of the old one. -/
  writeText : String → String → m (Except FileError Unit)
  /-- Makes one directory. -/
  createDir : String → m (Except FileError Unit)
  /-- Gives a file another path, in place of a file that has it. -/
  rename : String → String → m (Except FileError Unit)

variable {m : Type → Type} [Monad m] [FileSystem m]

open FileSystem

/-- Makes one directory, unless there is one. -/
def ensureDir (path : String) : m (Except FileError Unit) := do
  match ← createDir path with
  | .ok () => return .ok ()
  | .error e => if ← FileSystem.isDirectory path then return .ok () else return .error e

/-- Makes the first of some directories, each being the parent of the one before it, and those of
its parents that are missing. -/
def createDirsOf : List String → m (Except FileError Unit)
  | [] => return .ok ()
  | path :: parents => do
    match ← createDir path with
    | .ok () => return .ok ()
    | .error .notFound =>
      match ← createDirsOf parents with
      | .error e => return .error e
      | .ok () => ensureDir path
    | .error e => if ← FileSystem.isDirectory path then return .ok () else return .error e

/-- Makes a directory and those of its parents that are missing. -/
def createDirs (path : String) : m (Except FileError Unit) :=
  createDirsOf (ancestors path)

end Weblog.Files
