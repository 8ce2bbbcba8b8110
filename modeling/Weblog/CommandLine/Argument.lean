import Weblog.CommandLine.Command
import Weblog.CommandLine.Level
import Weblog.Config.Settings
import Weblog.Number.Numeral
/-!
# Arguments

An argument is an option, which is introduced by its name, or an operand, which is known by its
place.

* `Argument`: all arguments, `Argument.Value`, what they have for a value, and their names.
* `UsageError`: what stops the reading of a command line.
* `Argument.read`: **the value that a text denotes**.
* `Level.options`, `Level.operands`: the arguments of a level.
* `Given`: an argument with a value, and `valuesOf`, the values of an argument.
-/

namespace Weblog.CommandLine

open Listing

/-- The arguments of the program and its commands. -/
inductive Argument
  | verbose
  | quiet
  | json
  | noColor
  | data
  | help
  | version
  | query
  | author
  | state
  | tag
  | category
  | search
  | order
  | page
  | size
  | viewer
  | force
  | field
  | postId
  | file
  | text
  | key
  | value
  | shell
  deriving DecidableEq

/-- What stops the reading of a command line: a question about the program, or an error. -/
inductive UsageError
  | help (level : Level)
  | version
  | unknownArgument (word : String)
  | unknownCommand (word : String)
  /-- An argument that is given twice, or together with one that excludes it. -/
  | conflict (a : Argument)
  | missingArgument (a : Argument)
  | tooManyValues (a : Argument)
  /-- No value, or none of those that are possible. -/
  | invalidValue (a : Argument)
  /-- A value that is no number. -/
  | malformedValue (a : Argument)
  deriving DecidableEq

/-- What an argument is given. -/
@[reducible] def Argument.Value : Argument → Type
  | .verbose | .quiet | .json | .noColor | .help | .version | .force => Unit
  | .page | .size => UInt64
  | .order => PostOrder
  | .shell => Shell
  | .data | .query | .author | .state | .tag | .category | .search | .viewer | .field | .postId
  | .file | .text | .key | .value => String

namespace Argument

/-- The long names of an option, without the dashes. -/
def longNames : Argument → List String
  | verbose => ["verbose"]
  | quiet => ["quiet"]
  | json => ["json"]
  | noColor => ["no-color"]
  | data => ["data"]
  | help => ["help"]
  | version => ["version"]
  | query => ["query", "q"]
  | author => ["autor"]
  | state => ["estado"]
  | tag => ["etiqueta"]
  | category => ["categoria"]
  | search => ["busqueda"]
  | order => ["ordenar"]
  | page => ["pagina"]
  | size => ["limite"]
  | viewer => ["viewer"]
  | force => ["force"]
  | field => ["field"]
  | postId | file | text | key | value | shell => []

/-- The letter of an option, if it has one. -/
def letter? : Argument → Option Char
  | verbose => some 'v'
  | quiet => some 'q'
  | help => some 'h'
  | version => some 'V'
  | query => some 'Q'
  | field => some 'f'
  | _ => none

def isFlag : Argument → Bool
  | verbose | quiet | json | noColor | help | version | force => true
  | _ => false

/-- Whether an option may be given more than once. -/
def isRepeatable (a : Argument) : Bool :=
  a == field

/-! ## Values -/

def shellNames : List (String × Shell) :=
  [("bash", .bash), ("zsh", .zsh), ("fish", .fish), ("powershell", .powershell)]

/-- The value of a name in a list. -/
def readName {α : Type} (a : Argument) (names : List (String × α)) (s : String) :
    Except UsageError α :=
  match names.lookup s with
  | some found => .ok found
  | none => .error (.invalidValue a)

/-- A number of a page or a size. -/
def readSize (a : Argument) (s : String) : Except UsageError UInt64 :=
  match Number.readCount s with
  | some n => .ok n
  | none => .error (.malformedValue a)

/-- A path, which must not be empty. -/
def readPath (a : Argument) (s : String) : Except UsageError String :=
  if s = "" then .error (.invalidValue a) else .ok s

/-- The value that a text gives to an argument. -/
def read : (a : Argument) → String → Except UsageError a.Value
  | .verbose, _ | .quiet, _ | .json, _ | .noColor, _ | .help, _ | .version, _ | .force, _ => .ok ()
  | .page, s => readSize .page s
  | .size, s => readSize .size s
  | .order, s => readName .order orderNames s
  | .shell, s => readName .shell shellNames s
  | .data, s => readPath .data s
  | .file, s => readPath .file s
  | .query, s | .author, s | .state, s | .tag, s | .category, s | .search, s | .viewer, s
  | .field, s | .postId, s | .text, s | .key, s | .value, s => .ok s

end Argument

/-! ## The arguments of a level -/

namespace Level

/-- The options of every level. -/
def commonOptions : List Argument :=
  [.verbose, .quiet, .json, .noColor, .data, .help, .version]

/-- The options of one level only. -/
def ownOptions : Level → List Argument
  | posts => [.query, .author, .state, .tag, .category, .search, .order, .page, .size, .viewer]
  | post => [.viewer]
  | comments => [.state, .page, .size, .viewer]
  | create => [.force]
  | filter => [.field]
  | _ => []

def options (level : Level) : List Argument :=
  commonOptions ++ level.ownOptions

/-- The operands of a level, in order. -/
def operands : Level → List Argument
  | post | comments => [.postId]
  | filter => [.file, .text]
  | explain => [.text]
  | setSetting => [.key, .value]
  | completions => [.shell]
  | _ => []

end Level

/-! ## Given arguments -/

/-- An argument with its value. -/
abbrev Given := (a : Argument) × a.Value

/-- The values of an argument, in the order in which they are given. -/
def valuesOf (a : Argument) : List Given → List a.Value
  | [] => []
  | ⟨b, value⟩ :: rest => if h : b = a then (h ▸ value) :: valuesOf a rest else valuesOf a rest

/-- The value of an argument, if it is given. -/
def value? (a : Argument) (given : List Given) : Option a.Value :=
  (valuesOf a given).head?

def isGiven (a : Argument) (given : List Given) : Bool :=
  (value? a given).isSome

/-- The value of an operand, which has to be given. -/
def required (a : Argument) (given : List Given) : Except UsageError a.Value :=
  match value? a given with
  | some value => .ok value
  | none => .error (.missingArgument a)

end Weblog.CommandLine
