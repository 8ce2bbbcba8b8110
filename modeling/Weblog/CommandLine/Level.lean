/-!
# Levels

A command line is read level by level: the program's own arguments, those of a command, and those of
a command below it.

* `Level`: the levels, `Level.commands`, the ones below, and `Level.command?`, the one with a name.
* `Level.words`: the words that lead to a level.
-/

namespace Weblog.CommandLine

/-- Where in the command line a word stands: in front of all commands, or after one. -/
inductive Level
  | program
  | posts
  | post
  | comments
  | statistics
  | create
  | filter
  | explain
  | settings
  | listSettings
  | setSetting
  | settingsPath
  | completions
  deriving DecidableEq

namespace Level

/-- The levels below a level, each with its names. -/
def commands : Level → List (List String × Level)
  | program => [
      (["posts", "p"], posts),
      (["show", "s"], post),
      (["comments", "c"], comments),
      (["stats"], statistics),
      (["init"], create),
      (["filter", "f"], filter),
      (["parse"], explain),
      (["config"], settings),
      (["completions"], completions)]
  | settings => [
      (["show"], listSettings),
      (["set"], setSetting),
      (["path"], settingsPath)]
  | _ => []

def hasCommands (level : Level) : Bool :=
  !level.commands.isEmpty

/-- The level with a name below a level. -/
def command? (level : Level) (name : String) : Option Level :=
  (level.commands.find? fun (names, _) => names.contains name).map (·.2)

/-- The words that lead to a level. -/
def words : Level → List String
  | program => []
  | posts => ["posts"]
  | post => ["show"]
  | comments => ["comments"]
  | statistics => ["stats"]
  | create => ["init"]
  | filter => ["filter"]
  | explain => ["parse"]
  | settings => ["config"]
  | listSettings => ["config", "show"]
  | setSetting => ["config", "set"]
  | settingsPath => ["config", "path"]
  | completions => ["completions"]

/-- The command that asks for help about the ones beside it. -/
def helpName : String := "help"

/-- Whether a word names a command of a level. -/
def isCommand (level : Level) (name : String) : Bool :=
  (level.command? name).isSome || level.hasCommands && name == helpName

end Level

end Weblog.CommandLine
