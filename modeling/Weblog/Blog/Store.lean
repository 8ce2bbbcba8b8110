import Weblog.Blog.Repository
import Weblog.Files.System
import Weblog.Json.Printer
/-!
# The data file

The data of a blog is one JSON file. Saving writes a temporary file beside it, whose name differs in
the ending only, and then gives it the name of the data file.

* `Store.load`, `Store.loadOrEmpty`: the data in the file; without a file there may be none.
* `Store.save`: **replaces the data**.
* `Store.repository`: the repository that reads the file for every question.
* `StoreError`: why the data is not read or written.
-/

namespace Weblog

open Files

/-- Why the data of a blog is not read or written. -/
inductive StoreError
  | noDataDirectory
  | read (path : String) (error : FileError)
  | write (path : String) (error : FileError)
  | createDirectory (path : String) (error : FileError)
  | json (error : Json.ReadError)

/-- The wording of an error about a path. -/
def StoreError.about (action path : String) (error : FileError) : String :=
  "failed to " ++ action ++ " '" ++ path ++ "': " ++ error.message

def StoreError.message : StoreError → String
  | noDataDirectory => "failed to determine data directory: no valid home directory found"
  | read path error => about "read data file" path error
  | write path error => about "write data file" path error
  | createDirectory path error => about "create data directory" path error
  | json .malformed => "JSON error: malformed text"
  | json (.data error) => "JSON error: " ++ error.message

/-- A data file, known by its path. -/
structure Store where
  path : String
  deriving DecidableEq

namespace Store

variable {m : Type → Type} [Monad m] [FileSystem m]

/-- Where new data is written before it replaces the old. -/
def temporaryPath (s : Store) : String := withExtension "tmp" s.path

/-- Whether something has the path. -/
def fileExists (s : Store) : m Bool := FileSystem.pathExists s.path

/-- The data that the text of a file denotes. -/
def parse (text : String) : Except StoreError BlogData :=
  (BlogData.codec.ofText text).mapError .json

/-- The text of a file that holds the data. -/
def render (data : BlogData) : String := (BlogData.codec.write data).render

/-- The data in the file. -/
def load (s : Store) : m (Except StoreError BlogData) := do
  match ← FileSystem.readText s.path with
  | .ok text => return parse text
  | .error e => return .error (.read s.path e)

/-- The data in the file, and no data if there is no file. -/
def loadOrEmpty (s : Store) : m (Except StoreError BlogData) := do
  match ← s.load with
  | .error (.read _ .notFound) => return .ok .empty
  | outcome => return outcome

/-- Makes the directories of the file. -/
def prepare (s : Store) : m (Except StoreError Unit) := do
  match parent? s.path with
  | none => return .ok ()
  | some directory => return (← createDirs directory).mapError (.createDirectory directory)

/-- Writes the data to the temporary file and gives it the name of the data file. -/
def save (s : Store) (data : BlogData) : m (Except StoreError Unit) := do
  match ← s.prepare with
  | .error e => return .error e
  | .ok () =>
    match ← FileSystem.writeText s.temporaryPath (render data) with
    | .error e => return .error (.write s.temporaryPath e)
    | .ok () => return (← FileSystem.rename s.temporaryPath s.path).mapError (.write s.path)

/-- The repository that reads the file for every question. -/
def repository (s : Store) : Repository (ExceptT StoreError m) :=
  .ofSnapshots (ExceptT.mk s.loadOrEmpty)

end Store

end Weblog
