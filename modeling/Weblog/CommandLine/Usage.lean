import Weblog.CommandLine.Argument
/-!
# Help

* `helpText`: **how a level is used**.
* `versionText`: the version of the program.
* `UsageError.message`: the wording of an error.
-/

namespace Weblog.CommandLine

def programName : String := "blogq"

def versionText : String := programName ++ " 0.1.0"

/-- What a level is for. -/
def Level.purpose : Level → String
  | program => "Query, list and summarize blog posts"
  | posts => "List posts"
  | post => "Show a post with its category"
  | comments => "List the comments on a post"
  | statistics => "Show blog statistics"
  | create => "Write the starter blog data to the data file"
  | filter => "Filter a JSON array of objects with a query"
  | explain => "Show how a query is tokenized and parsed"
  | settings => "Manage the configuration"
  | listSettings => "Show the current configuration"
  | setSetting => "Set a configuration value"
  | settingsPath => "Print the path of the configuration file"
  | completions => "Generate shell completions"

namespace Argument

def purpose : Argument → String
  | verbose => "Verbose output"
  | quiet => "Errors only"
  | json => "JSON output"
  | noColor => "No colors in the output"
  | data => "Blog data file"
  | help => "Print help"
  | version => "Print the version"
  | query => "Structured query"
  | author => "Filter by author"
  | state => "Filter by state"
  | tag => "Filter by tag"
  | category => "Filter by category id"
  | search => "Search title and body"
  | order => "Sort order: titulo, visitas or fecha-creacion"
  | page => "Page number"
  | size => "Page size"
  | viewer => "Username used to mark what is liked"
  | force => "Overwrite an existing data file"
  | field => "Field searched by free-text terms"
  | postId => "Post id"
  | file => "JSON file, or - for the standard input"
  | text => "Query"
  | key => "Configuration key"
  | value => "Configuration value"
  | shell => "Shell: bash, zsh, fish or powershell"

/-- How an operand appears in a line about the usage. -/
def placeholder : Argument → String
  | postId => "<ID>"
  | file => "<FILE>"
  | text => "<QUERY>"
  | key => "<KEY>"
  | shell => "<SHELL>"
  | _ => "<VALUE>"

/-- How an argument appears in a list of arguments. -/
def label (a : Argument) : String :=
  match a.longNames with
  | [] => a.placeholder
  | name :: _ =>
    (match a.letter? with
      | some c => "-" ++ String.singleton c ++ ", "
      | none => "    ") ++ "--" ++ name ++ if a.isFlag then "" else " " ++ a.placeholder

/-- The line of an argument in a list. -/
def helpLine (a : Argument) : String :=
  "  " ++ a.label ++ "  " ++ a.purpose

end Argument

/-- The line of a command in a list. -/
def commandLine (names : List String) (level : Level) : String :=
  "  " ++ ", ".intercalate names ++ "  " ++ level.purpose

def titled (title : String) (lines : List String) : List String :=
  if lines.isEmpty then [] else ["", title ++ ":"] ++ lines

/-- The line that shows how a level is used. -/
def usageLine (level : Level) : String :=
  " ".intercalate (["Usage:", programName] ++ level.words ++ ["[OPTIONS]"] ++
    level.operands.map Argument.placeholder ++ if level.hasCommands then ["[COMMAND]"] else [])

/-- The help about a level. -/
def helpText (level : Level) : String :=
  "\n".intercalate ([level.purpose, "", usageLine level] ++
    titled "Commands" (level.commands.map fun (names, below) => commandLine names below) ++
    titled "Arguments" (level.operands.map Argument.helpLine) ++
    titled "Options" (level.options.map Argument.helpLine))

/-- The name of an argument without its letter. -/
def Argument.shortLabel (a : Argument) : String :=
  match a.longNames with
  | [] => a.placeholder
  | name :: _ => "--" ++ name

/-- The wording of an error, or the answer to a question. -/
def UsageError.message : UsageError → String
  | help level => helpText level
  | version => versionText
  | unknownArgument word => "error: unexpected argument '" ++ word ++ "'"
  | unknownCommand word => "error: unrecognized command '" ++ word ++ "'"
  | conflict a => "error: '" ++ a.shortLabel ++ "' is given twice or with an argument it excludes"
  | missingArgument a => "error: missing argument '" ++ a.shortLabel ++ "'"
  | tooManyValues a => "error: '" ++ a.shortLabel ++ "' takes no value"
  | invalidValue a => "error: no possible value for '" ++ a.shortLabel ++ "'"
  | malformedValue a => "error: the value of '" ++ a.shortLabel ++ "' is no number"

/-- The exit status: asking for help is no error. -/
def UsageError.exitStatus : UsageError → UInt32
  | help _ | version => 0
  | _ => 2

end Weblog.CommandLine
