import Weblog.Number.Numeral
/-!
# TOML strings

TOML has four notations for strings: with escapes between double quotes or without between single
quotes, and each on one line between one quote or on several lines between three.

* `Notation`: the four notations.
* `scanQuoted`: the string that begins with a quote.
* `plainest`: the notation that shows a text with the fewest escapes.
* `quote`: **a text as a TOML string**.
-/

namespace Weblog.Toml

/-- How a string is written: with escapes or without, on one line or on several. -/
structure Notation where
  escapes : Bool
  multiLine : Bool
  deriving DecidableEq

namespace Notation

def basic : Notation := ⟨true, false⟩
def literal : Notation := ⟨false, false⟩
def multiLineBasic : Notation := ⟨true, true⟩
def multiLineLiteral : Notation := ⟨false, true⟩

def quoteChar (n : Notation) : Char :=
  if n.escapes then '"' else '\''

/-- What stands on both sides of the string. -/
def delimiter (n : Notation) : List Char :=
  List.replicate (if n.multiLine then 3 else 1) n.quoteChar

end Notation

/-- A control character. The tab does not count as one. -/
def isControl (c : Char) : Bool :=
  (c.toNat < 0x20 && c != '\t') || c.toNat == 0x7F

def isSpace (c : Char) : Bool :=
  c == ' ' || c == '\t'

/-! ## Reading -/

/-- Where in an escape a place lies: in none, after the backslash, in front of some hexadecimal
digits of a code point, or in the blank space after a backslash at the end of a line. -/
inductive Escape
  | plain
  | started
  | code (left value : Nat)
  | lineEnd
  | indent
  deriving DecidableEq

/-- The character that a letter after a backslash stands for. -/
def escapedChar (c : Char) : Option Char :=
  match c with
  | 'b' => some '\x08'
  | 't' => some '\t'
  | 'n' => some '\n'
  | 'f' => some '\x0c'
  | 'r' => some '\r'
  | '"' => some '"'
  | '\\' => some '\\'
  | _ => none

def charOfCode (n : Nat) : Option Char :=
  if n.isValidChar then some (Char.ofNat n) else none

def twoQuotes (quote : Char) (s : List Char) : Bool :=
  [quote, quote].isPrefixOf s

/-- The end of a string on several lines after its first three quotes. Up to two more quotes belong
to the string. -/
def closeLines (quote : Char) (s : List Char) : List Char × List Char :=
  if twoQuotes quote s then ([quote, quote], s.drop 2)
  else if [quote].isPrefixOf s then ([quote], s.drop 1)
  else ([], s)

/-- A string after its opening quote, and what follows its closing one. -/
def scanText (n : Notation) (state : Escape) : List Char → Option (List Char × List Char)
  | [] => none
  | c :: rest =>
    if state = .indent ∧ (c = '\n' ∨ isSpace c) then scanText n .indent rest
    else
      match state with
      | .plain | .indent =>
        if c = n.quoteChar ∧ n.multiLine = false then some ([], rest)
        else if c = n.quoteChar ∧ twoQuotes c rest then some (closeLines c (rest.drop 2))
        else if c = '\\' ∧ n.escapes then scanText n .started rest
        else if isControl c ∧ ¬ (c = '\n' ∧ n.multiLine) then none
        else (scanText n .plain rest).map fun p => (c :: p.1, p.2)
      | .started =>
        if c = 'u' then scanText n (.code 4 0) rest
        else if c = 'U' then scanText n (.code 8 0) rest
        else if c = '\n' ∧ n.multiLine then scanText n .indent rest
        else if isSpace c ∧ n.multiLine then scanText n .lineEnd rest
        else do
          let c ← escapedChar c
          let p ← scanText n .plain rest
          return (c :: p.1, p.2)
      | .code left value => do
        let value := value * 16 + (← Number.digitValue 16 c)
        if left ≤ 1 then
          let c ← charOfCode value
          let p ← scanText n .plain rest
          return (c :: p.1, p.2)
        else scanText n (.code (left - 1) value) rest
      | .lineEnd =>
        if c = '\n' then scanText n .indent rest
        else if isSpace c then scanText n .lineEnd rest
        else none

/-- A string that begins with a quote. A line feed after three opening quotes does not belong to
it. -/
def scanQuoted (s : List Char) : Option (List Char × List Char) :=
  let scan (escapes : Bool) (quote : Char) (rest : List Char) :=
    if twoQuotes quote rest then
      match rest.drop 2 with
      | '\n' :: rest => scanText ⟨escapes, true⟩ .plain rest
      | rest => scanText ⟨escapes, true⟩ .plain rest
    else scanText ⟨escapes, false⟩ .plain rest
  match s with
  | '"' :: rest => scan true '"' rest
  | '\'' :: rest => scan false '\'' rest
  | _ => none

/-! ## Writing -/

/-- The longest run of a character, a run of the given length standing in front of the text. -/
def longestRun (c : Char) (run : Nat) : List Char → Nat
  | [] => run
  | d :: rest =>
    if d = c then longestRun c (run + 1) rest else max run (longestRun c 0 rest)

/-- Whether a text can be written in a notation without an escape. A tab in a notation with escapes
is written as one all the same. -/
def isPlain (n : Notation) (text : List Char) : Bool :=
  text.all (fun c => !isControl c || c == '\n') &&
    (n.multiLine || !text.contains '\n') &&
    (!n.escapes || !text.contains '\\') &&
    longestRun n.quoteChar 0 text ≤ (if n.multiLine then 2 else 0)

/-- The notation that shows a text with the fewest escapes. -/
def plainest (text : List Char) : Notation :=
  match [.basic, .literal, .multiLineBasic, .multiLineLiteral].find? fun n => isPlain n text with
  | some n => n
  | none => ⟨true, text.contains '\n'⟩

/-- Four hexadecimal digits of a code point below 256. -/
def codeDigits (n : Nat) : List Char :=
  let digit (d : Nat) : Char := (Nat.digitChar d).toUpper
  ['0', '0', digit (n / 16), digit (n % 16)]

/-- A character that has to be escaped. -/
def escape (c : Char) : List Char :=
  if c = '\x08' then ['\\', 'b']
  else if c = '\t' then ['\\', 't']
  else if c = '\n' then ['\\', 'n']
  else if c = '\x0c' then ['\\', 'f']
  else if c = '\r' then ['\\', 'r']
  else if c = '"' ∨ c = '\\' then ['\\', c]
  else '\\' :: 'u' :: codeDigits c.toNat

/-- A text with escapes after a number of quotes without one. On one line every quote has an
escape, and on several lines every third one of a run. -/
def escapeText (multiLine : Bool) (quotes : Nat) : List Char → List Char
  | [] => []
  | c :: rest =>
    if c = '"' then
      if multiLine ∧ quotes < 2 then c :: escapeText multiLine (quotes + 1) rest
      else escape c ++ escapeText multiLine 0 rest
    else if c = '\n' ∧ multiLine then c :: escapeText multiLine 0 rest
    else if isControl c ∨ c = '\t' ∨ c = '\\' then escape c ++ escapeText multiLine 0 rest
    else c :: escapeText multiLine 0 rest

/-- A text as a string in the plainest notation that can hold it. -/
def quote (text : List Char) : List Char :=
  let n := plainest text
  n.delimiter ++ (if n.multiLine ∧ text.contains '\n' then ['\n'] else []) ++
    (if n.escapes then escapeText n.multiLine 0 text else text) ++ n.delimiter

end Weblog.Toml
