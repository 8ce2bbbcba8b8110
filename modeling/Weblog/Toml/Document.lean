import Weblog.Toml.Scalar
import Weblog.Toml.Tables
import Weblog.Toml.Text
/-!
# TOML documents

A document is a sequence of lines: a key with its value, the header of a table or nothing, each with
a comment after it or none. Only arrays and strings go on over several lines.

* `scanKey`: a key, possibly with dots.
* `scanValue`: a value on the right-hand side.
* `readLines`: the lines of a document.
* `Toml.ofText`: **the table that a text denotes**.
-/

namespace Weblog.Toml

/-! ## Blank space -/

def skipSpace (s : List Char) : List Char :=
  s.dropWhile isSpace

/-- The text without the blank space, line ends and comments that it begins with. -/
def skipFiller (comment : Bool) : List Char → List Char
  | [] => []
  | c :: rest =>
    if c = '\n' then skipFiller false rest
    else if comment then if isControl c then c :: rest else skipFiller true rest
    else if isSpace c then skipFiller false rest
    else if c = '#' then skipFiller true rest
    else c :: rest

/-- The text from the end of a line on, with a comment that may stand in front of it. -/
def lineEnd (s : List Char) : Option (List Char) :=
  match skipSpace s with
  | [] => some []
  | c :: rest => if c = '\n' ∨ c = '#' then some (c :: rest) else none

/-- A text without what has to stand at its beginning. -/
def expect (expected : List Char) (s : List Char) : Option (List Char) :=
  if expected.isPrefixOf s then some (s.drop expected.length) else none

/-! ## Keys -/

/-- Whether a character can stand in a name without quotes. -/
def isNameChar (c : Char) : Bool :=
  c.isAlphanum || c == '_' || c == '-'

/-- Reads a name, with quotes or without. -/
def scanName : List Char → Option (String × List Char)
  | '"' :: rest => (scanText .basic .plain rest).map fun p => (String.ofList p.1, p.2)
  | '\'' :: rest => (scanText .literal .plain rest).map fun p => (String.ofList p.1, p.2)
  | s =>
    let name := s.takeWhile isNameChar
    if name.isEmpty then none else some (String.ofList name, s.dropWhile isNameChar)

/-- How many levels deep keys and values may go. -/
def depthLimit : Nat := 79

/-- At most so many names with dots between them, and what follows them. -/
def scanNames : Nat → List Char → Option (Key × List Char)
  | 0, _ => none
  | most + 1, s => do
    let (name, rest) ← scanName (skipSpace s)
    match skipSpace rest with
    | '.' :: rest =>
      let (key, rest) ← scanNames most rest
      return (⟨name :: key.path, key.name⟩, rest)
    | rest => return (⟨[], name⟩, rest)

/-- A key with the blank space around it. -/
def scanKey (s : List Char) : Option (Key × List Char) :=
  scanNames depthLimit s

/-! ## Values -/

mutual

/-- A value, nested at most `depth` levels deep, and what follows it. -/
def scanValue : Nat → Nat → List Char → Option (Toml × List Char)
  | 0, _, _ => none
  | fuel + 1, depth, s =>
    match s with
    | '[' :: rest =>
      if depth = 0 then none
      else do
        let (items, rest) ← scanItems fuel (depth - 1) (skipFiller false rest)
        return (.array items, rest)
    | '\x7b' :: rest =>
      if depth = 0 then none
      else do
        let (assignments, rest) ← match skipSpace rest with
          | '\x7d' :: rest => some ([], rest)
          | rest => scanAssignments fuel (depth - 1) rest
        return (← ofAssignments assignments, rest)
    | '"' :: _ | '\'' :: _ => (scanQuoted s).map fun p => (.string (String.ofList p.1), p.2)
    | s => scanWord s

/-- The items of an array from a place where one may begin. -/
def scanItems : Nat → Nat → List Char → Option (List Toml × List Char)
  | 0, _, _ => none
  | _ + 1, _, ']' :: rest => some ([], rest)
  | fuel + 1, depth, s => do
    let (item, rest) ← scanValue fuel depth s
    match skipFiller false rest with
    | ',' :: rest =>
      let (items, rest) ← scanItems fuel depth (skipFiller false rest)
      return (item :: items, rest)
    | ']' :: rest => return ([item], rest)
    | _ => none

/-- The keys and values of a table on one line, from a place where a key has to begin. -/
def scanAssignments : Nat → Nat → List Char → Option (List (Key × Toml) × List Char)
  | 0, _, _ => none
  | fuel + 1, depth, s => do
    let (key, rest) ← scanKey s
    let rest ← expect ['='] rest
    let (value, rest) ← scanValue fuel depth (skipSpace rest)
    match skipSpace rest with
    | ',' :: rest =>
      let (assignments, rest) ← scanAssignments fuel depth rest
      return ((key, value) :: assignments, rest)
    | '\x7d' :: rest => return ([(key, value)], rest)
    | _ => none

end

/-! ## Lines -/

/-- A line with a header, without its first bracket. -/
def readHeader (root : Entries) : List Char → Option (List String × Entries × List Char)
  | '[' :: rest => do
    let (key, rest) ← scanKey rest
    let rest ← lineEnd (← expect [']', ']'] rest)
    return (key.names, ← openItem key root, rest)
  | rest => do
    let (key, rest) ← scanKey rest
    let rest ← lineEnd (← expect [']'] rest)
    return (key.names, ← openTable key root, rest)

/-- A line with a key and its value, below a header. -/
def readAssignment (header : List String) (root : Entries) (s : List Char) :
    Option (Entries × List Char) := do
  let (key, rest) ← scanKey s
  let rest ← expect ['='] rest
  let (value, rest) ← scanValue (2 * rest.length + 2) depthLimit (skipSpace rest)
  let rest ← lineEnd rest
  return (← assignIn header key value root, rest)

/-- The lines of a document below a header, added to the tables in front of them. -/
def readLines : Nat → List String → Entries → List Char → Option Entries
  | 0, _, _, _ => none
  | fuel + 1, header, root, s =>
    match skipFiller false s with
    | [] => some root
    | '[' :: rest => do
      let (header, root, rest) ← readHeader root rest
      readLines fuel header root rest
    | s => do
      let (root, rest) ← readAssignment header root s
      readLines fuel header root rest

/-- A text in which every line ends with a line feed only. -/
def plainLineEnds : List Char → List Char
  | '\r' :: '\n' :: rest => '\n' :: plainLineEnds rest
  | c :: rest => c :: plainLineEnds rest
  | [] => []

/-- A text without a byte order mark at its beginning. -/
def dropMark : List Char → List Char
  | c :: rest => if c.toNat = 0xFEFF then rest else c :: rest
  | [] => []

/-- The value of a TOML text. -/
def ofText (text : String) : Option Toml := do
  let s := plainLineEnds (dropMark text.toList)
  let root ← readLines (s.length + 1) [] [] s
  return .table (finishEntries root)

end Weblog.Toml
