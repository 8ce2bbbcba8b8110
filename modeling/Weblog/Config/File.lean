import Weblog.Config.Change
import Weblog.Config.Environment
import Weblog.Files.System
/-!
# The settings file

* `loadSettings`: the settings in the file; without a file nothing is set.
* `saveSettings`: writes the settings.
* `changeSetting`: **changes one setting in the file**.
* `SettingsError`: why settings are not read or written.
-/

namespace Weblog

open Files

inductive SettingsError
  | noDirectory
  | read (error : FileError)
  | parse
  | change (error : ChangeError)
  | makeDirectory (error : FileError)
  | outOfRange
  | write (error : FileError)
  deriving DecidableEq

def SettingsError.message : SettingsError → String
  | noDirectory => "Could not determine config directory"
  | read error => "Failed to read config: " ++ error.message
  | parse => "Failed to parse config: no settings in TOML"
  | change error => error.message
  | makeDirectory error => "Failed to create config directory: " ++ error.message
  | outOfRange => "Failed to serialize config: out-of-range value for u64 type"
  | write error => "Failed to write config: " ++ error.message

variable {m : Type → Type} [Monad m] [FileSystem m]

/-- The settings in a file, and none if there is no file. -/
def loadSettings (path : String) : ExceptT SettingsError m Settings := do
  if ← FileSystem.pathExists (m := m) path then
    match ← FileSystem.readText (m := m) path with
    | .error e => throw (.read e)
    | .ok text =>
      match Settings.ofText text with
      | some s => return s
      | none => throw .parse
  else return {}

/-- Writes the settings, after making the directory of the file. -/
def saveSettings (path : String) (s : Settings) : ExceptT SettingsError m Unit := do
  match parent? path with
  | none => pure ()
  | some directory =>
    match ← createDirs (m := m) directory with
    | .error e => throw (.makeDirectory e)
    | .ok () => pure ()
  if s.isWritable then
    match ← FileSystem.writeText (m := m) path s.render with
    | .error e => throw (.write e)
    | .ok () => return ()
  else throw .outOfRange

/-- Loads the settings, changes one of them and saves them. -/
def changeSetting (path key value : String) : ExceptT SettingsError m Unit := do
  let s ← loadSettings path
  match s.change key value with
  | .error e => throw (.change e)
  | .ok s => saveSettings path s

end Weblog
