import Weblog.Files.Path
/-!
# The environment

What a run learns from the variables of its environment: above all, where its files are.

* `Environment`: the variables that count, and `Environment.ofVariables`.
* `Environment.settingsPath?`: the path of the settings file.
* `Environment.dataPath?`: the path of the data file, unless another one is chosen.
-/

namespace Weblog

open Files

/-- The variables that count, as far as they are set. -/
structure Environment where
  /-- The user's directory. -/
  home : Option String := none
  /-- The settings file. -/
  settingsFile : Option String := none
  /-- The data file. -/
  dataFile : Option String := none
  /-- The directory of all settings. -/
  settingsHome : Option String := none
  /-- The directory of all data. -/
  dataHome : Option String := none
  /-- A wish for reports without colors; any value will do. -/
  noColor : Option String := none

namespace Environment

def names : List String :=
  ["HOME", "BLOGQ_CONFIG", "BLOGQ_DATA", "XDG_CONFIG_HOME", "XDG_DATA_HOME", "NO_COLOR"]

/-- The environment in which variables have some values. -/
def ofVariables (valueOf : String → Option String) : Environment where
  home := valueOf "HOME"
  settingsFile := valueOf "BLOGQ_CONFIG"
  dataFile := valueOf "BLOGQ_DATA"
  settingsHome := valueOf "XDG_CONFIG_HOME"
  dataHome := valueOf "XDG_DATA_HOME"
  noColor := valueOf "NO_COLOR"

/-- The name of the directories that hold the program's files. -/
def directoryName : String := "blogq"

/-- The user's directory, if the variable names one. -/
def home? (e : Environment) : Option String :=
  e.home.filter (· != "")

/-- The path of the settings file: the file chosen by a variable, or else the one in the directory
of all settings. -/
def settingsPath? (e : Environment) : Option String :=
  let inDirectory (base : String) : String := join (join base directoryName) "config.toml"
  match e.settingsFile, e.settingsHome with
  | some path, _ => some path
  | none, some base => some (inDirectory base)
  | none, none => e.home?.map fun home => inDirectory (join home ".config")

/-- The path of the data file in the directory of all data. That directory counts only if its path
is absolute, and only for a user with a directory. -/
def dataPath? (e : Environment) : Option String :=
  e.home?.map fun home =>
    let base := (e.dataHome.filter (isAbsolute ·)).getD (join home ".local/share")
    join (join base directoryName) "posts.json"

end Environment

end Weblog
