/-!
# JSON strings

A string between quotes, with escapes for quotes, backslashes and control characters.

* `quote`: a text as a JSON string.
* `scanQuoted`: the pieces of a string after its opening quote. An escape of four hexadecimal
  digits gives a UTF-16 code unit, any other piece a character.
* `joinPieces`: the text of the pieces, if every surrogate code unit has its partner.
-/

namespace Weblog.Json

/-! ## Writing -/

def hexDigit (n : Nat) : Char :=
  (Nat.digitChar n)

/-- A character in a string, escaped if it has to be. -/
def quotedChar (c : Char) : List Char :=
  if c = '"' then ['\\', '"']
  else if c = '\\' then ['\\', '\\']
  else if c = '\n' then ['\\', 'n']
  else if c = '\r' then ['\\', 'r']
  else if c = '\t' then ['\\', 't']
  else if c = '\x08' then ['\\', 'b']
  else if c = '\x0c' then ['\\', 'f']
  else if c.toNat < 0x20 then
    ['\\', 'u', '0', '0', hexDigit (c.toNat / 16), hexDigit (c.toNat % 16)]
  else [c]

/-- A text between quotes. -/
def quote (text : List Char) : List Char :=
  '"' :: text.flatMap quotedChar ++ ['"']

/-! ## Reading -/

/-- A piece of a string: a character, or a UTF-16 code unit written as an escape. -/
inductive Piece
  | char (c : Char)
  | unit (n : Nat)
  deriving DecidableEq

def hexValue (c : Char) : Option Nat :=
  if '0' ≤ c ∧ c ≤ '9' then some (c.toNat - '0'.toNat)
  else if 'a' ≤ c ∧ c ≤ 'f' then some (c.toNat - 'a'.toNat + 10)
  else if 'A' ≤ c ∧ c ≤ 'F' then some (c.toNat - 'A'.toNat + 10)
  else none

/-- The number of four hexadecimal digits. -/
def codeUnit (a b c d : Char) : Option Nat := do
  return (((← hexValue a) * 16 + (← hexValue b)) * 16 + (← hexValue c)) * 16 + (← hexValue d)

/-- The character that a letter after a backslash stands for. -/
def escapedChar (c : Char) : Option Char :=
  match c with
  | '"' => some '"'
  | '\\' => some '\\'
  | '/' => some '/'
  | 'b' => some '\x08'
  | 'f' => some '\x0c'
  | 'n' => some '\n'
  | 'r' => some '\r'
  | 't' => some '\t'
  | _ => none

/-- The pieces of a string up to its closing quote, and what follows it. -/
def scanQuoted : List Char → Option (List Piece × List Char)
  | [] => none
  | '"' :: rest => some ([], rest)
  | '\\' :: 'u' :: a :: b :: c :: d :: rest => do
    let unit ← codeUnit a b c d
    let (pieces, rest) ← scanQuoted rest
    return (.unit unit :: pieces, rest)
  | '\\' :: c :: rest => do
    let char ← escapedChar c
    let (pieces, rest) ← scanQuoted rest
    return (.char char :: pieces, rest)
  | c :: rest =>
    if c.toNat < 0x20 then none
    else if c = '\\' then none
    else do
      let (pieces, rest) ← scanQuoted rest
      return (.char c :: pieces, rest)

/-- The first half of a pair of code units. -/
def isLeading (n : Nat) : Bool := 0xD800 ≤ n && n ≤ 0xDBFF

/-- The second half of a pair of code units. -/
def isTrailing (n : Nat) : Bool := 0xDC00 ≤ n && n ≤ 0xDFFF

/-- The text of some pieces; surrogates have to come in pairs. -/
def joinPieces : List Piece → Option (List Char)
  | [] => some []
  | .char c :: rest => (joinPieces rest).map (c :: ·)
  | .unit n :: .unit m :: rest =>
    if isLeading n && isTrailing m then
      (joinPieces rest).map
        (Char.ofNat (0x10000 + (n - 0xD800) * 0x400 + (m - 0xDC00)) :: ·)
    else if isLeading n || isTrailing n then none
    else (joinPieces (.unit m :: rest)).map (Char.ofNat n :: ·)
  | .unit n :: rest =>
    if isLeading n || isTrailing n then none
    else (joinPieces rest).map (Char.ofNat n :: ·)

end Weblog.Json
