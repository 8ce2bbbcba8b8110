import Weblog.CommandLine.Argument
import Weblog.Config.Environment
/-!
# Reading a command line

A value is examined not where it stands but when it is settled: at the next option or operand, or at
the end of its level. Of several errors the one that is met first counts, and a level is finished
before the level above it.

* `Draft`: what has been read of a level.
* `Draft.step`: one more word.
* `finish`: the end of a level.
* `parse`: **the invocation that a command line denotes**.
-/

namespace Weblog.CommandLine

/-- What is known after some words of a command line. -/
structure Draft where
  /-- The settled arguments. -/
  given : List Given := []
  /-- An argument that is not settled yet, with its value as far as it has been met. -/
  pending : Option (Argument × Option String) := none
  /-- The operands that have not been met. -/
  operands : List Argument
  /-- Whether there are only operands from here on. -/
  onlyOperands : Bool := false

/-- An outcome that may be a question about the usage or an error in it. -/
abbrev Result := Except UsageError

namespace Draft

/-- Whether the next word is the value of an option. -/
def awaitsValue (d : Draft) : Bool :=
  match d.pending with
  | some (_, none) => !d.onlyOperands
  | _ => false

/-- Adds an argument with a value. Most arguments may be given only once. -/
def add (level : Level) (a : Argument) (text : String) (d : Draft) : Result Draft :=
  if a = .help then .error (.help level)
  else if a = .version then .error .version
  else if isGiven a d.given && !a.isRepeatable then .error (.conflict a)
  else return { d with given := d.given ++ [⟨a, ← a.read text⟩] }

/-- Ends an option that waits for values. -/
def settle (level : Level) (d : Draft) : Result Draft :=
  match d.pending with
  | none => .ok d
  | some (a, none) => .error (.invalidValue a)
  | some (a, some text) => add level a text { d with pending := none }

/-- An option with the value that is attached to it. -/
def attach (level : Level) (a : Argument) (text : String) (d : Draft) : Result Draft := do
  add level a text (← d.settle level)

/-- An option that takes the next word as its value. -/
def await (level : Level) (a : Argument) (d : Draft) : Result Draft :=
  return { ← d.settle level with pending := some (a, none) }

/-! ## Words -/

/-- A word and what follows the first equals sign in it. -/
def splitEquals (word : List Char) : List Char × Option (List Char) :=
  (word.takeWhile (· != '='), (word.dropWhile (· != '=')).tail?)

/-- Reads a word that begins with two hyphens. -/
def readLong (level : Level) (word : List Char) (d : Draft) : Result Draft :=
  let (name, value) := splitEquals word
  match level.options.find? fun a => a.longNames.contains (String.ofList name) with
  | none => .error (.unknownArgument (String.ofList ('-' :: '-' :: word)))
  | some a =>
    match a.isFlag, value with
    | true, some _ => .error (.tooManyValues a)
    | true, none => d.attach level a ""
    | false, some value => d.attach level a (String.ofList value)
    | false, none => d.await level a

/-- Options with their letters. The first one that has a value takes the rest of the word. -/
def readLetters (level : Level) : List Char → Draft → Result Draft
  | [], d => .ok d
  | c :: rest, d =>
    match level.options.find? fun a => a.letter? == some c with
    | none => .error (.unknownArgument (String.ofList ['-', c]))
    | some a =>
      if a.isFlag then do readLetters level rest (← d.attach level a "")
      else
        match rest with
        | [] => d.await level a
        | '=' :: value => d.attach level a (String.ofList value)
        | value => d.attach level a (String.ofList value)

/-- The error of a word that a level has no place for. -/
def misplaced (level : Level) (d : Draft) (word : String) : UsageError :=
  if d.onlyOperands && level.isCommand word then .unknownArgument word
  else if level.hasCommands then .unknownCommand word
  else .unknownArgument word

def readOperand (level : Level) (word : String) (d : Draft) : Result Draft :=
  match d.operands with
  | [] => .error (misplaced level d word)
  | a :: operands =>
    return { ← d.settle level with pending := some (a, some word), operands }

/-- A word that does not introduce an option: a value or an operand. -/
def readPlain (level : Level) (word : String) (d : Draft) : Result Draft :=
  match d.pending with
  | some (a, none) => .ok { d with pending := some (a, some word) }
  | _ => d.readOperand level word

def step (level : Level) (word : String) (d : Draft) : Result Draft :=
  if d.onlyOperands then d.readOperand level word
  else
    match word.toList with
    | ['-', '-'] => .ok { d with onlyOperands := true }
    | '-' :: '-' :: rest => d.readLong level rest
    | '-' :: c :: rest => d.readLetters level (c :: rest)
    | _ => d.readPlain level word

end Draft

/-! ## Levels -/

/-- The command of a level with its arguments. -/
def commandOf (level : Level) (given : List Given) : Result (Option Command) :=
  match level with
  | .program => .ok none
  | .posts =>
    .ok (some (.posts {
      filter := {
        author := value? .author given
        state := value? .state given
        tag := value? .tag given
        category := value? .category given
        search := value? .search given
        query := value? .query given }
      order := value? .order given
      page := (value? .page given).getD 1
      size := value? .size given
      viewer := value? .viewer given }))
  | .post => return some (.post (← required .postId given) (value? .viewer given))
  | .comments =>
    return some (.comments {
      postId := ← required .postId given
      state := value? .state given
      page := (value? .page given).getD 1
      size := value? .size given
      viewer := value? .viewer given })
  | .statistics => .ok (some .statistics)
  | .create => .ok (some (.create (isGiven .force given)))
  | .filter =>
    return some (.filter (← required .file given) (← required .text given)
      (valuesOf .field given))
  | .explain => return some (.explain (← required .text given))
  | .settings | .listSettings => .ok (some (.settings .list))
  | .setSetting =>
    return some (.settings (.set (← required .key given) (← required .value given)))
  | .settingsPath => .ok (some (.settings .path))
  | .completions => return some (.completions (← required .shell given))

/-- An invocation with the choices of the level above it. What is said further down counts. -/
def Invocation.below (i : Invocation) (given : List Given) : Invocation where
  verbose := i.verbose || isGiven .verbose given
  quiet := i.quiet || isGiven .quiet given
  json := i.json || isGiven .json given
  noColor := i.noColor || isGiven .noColor given
  dataFile := i.dataFile <|> value? .data given
  command := i.command

/-- A data file that the environment names has to have a path. -/
def checkDataFile (e : Environment) (given : List Given) : Result Unit :=
  match isGiven .data given, e.dataFile with
  | false, some path => (Argument.readPath .data path).map fun _ => ()
  | _, _ => .ok ()

/-- The end of a level: the invocation of the level below it, if there is one, or else its own
command. -/
def finish (e : Environment) (level : Level) (below : Option Invocation) (d : Draft) :
    Result Invocation := do
  let d ← d.settle level
  checkDataFile e d.given
  if isGiven .verbose d.given && isGiven .quiet d.given then throw (.conflict .quiet)
  match below with
  | some i => return i.below d.given
  | none =>
    let i : Invocation := { command := ← commandOf level d.given }
    return i.below d.given

/-- The answer to a question for help about a command below a level. -/
def helpAbout (level : Level) : List String → UsageError
  | [] => .help level
  | name :: names =>
    match level.command? name with
    | some below => helpAbout below names
    | none =>
      if level.hasCommands && name == Level.helpName && names.isEmpty then .help level
      else .unknownCommand name

/-- Reads the words of a level and of the levels below it. -/
def readLevel (e : Environment) (level : Level) (d : Draft) : List String → Result Invocation
  | [] => finish e level none d
  | word :: rest =>
    if !d.onlyOperands && !d.awaitsValue && level.isCommand word then
      match level.command? word with
      | none => .error (helpAbout level rest)
      | some below => do
        let i ← readLevel e below { operands := below.operands } rest
        finish e level (some i) d
    else do readLevel e level (← d.step level word) rest

/-- The invocation that a command line denotes. A data file that no option names may be named by the
environment. -/
def parse (e : Environment) (arguments : List String) : Result Invocation := do
  let i ← readLevel e .program { operands := Level.program.operands } arguments
  return { i with dataFile := i.dataFile <|> e.dataFile }

end Weblog.CommandLine
