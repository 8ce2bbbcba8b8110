import Weblog.Text.LowerCase.Table
/-!
# Lower case

The lower-case form of a text after the Unicode default algorithm. Two letters do not follow the
one-to-one table: a capital I with a dot becomes an i and a combining dot, and a capital sigma
becomes a final sigma at the end of a word.

* `lowerChar`: one character on its own.
* `endsWord`: whether a place between two texts is the end of a word.
* `lower`: a whole text.
-/

namespace Weblog.Text

/-- Whether some range of the list contains the code point. -/
def inRanges (ranges : List (Nat × Nat)) (n : Nat) : Bool :=
  ranges.any fun r => r.1 ≤ n && n ≤ r.2

def isCased (c : Char) : Bool :=
  inRanges casedRanges c.toNat

/-- Whether a character does not count between letters. -/
def isCaseIgnorable (c : Char) : Bool :=
  inRanges caseIgnorableRanges c.toNat

/-- The code point `shift` places after the character. -/
def shiftChar (c : Char) (shift : Int) : Char :=
  Char.ofNat (c.toNat + shift).toNat

/-- The lower-case form of a character on its own. -/
def lowerChar (c : Char) : List Char :=
  let n := c.toNat
  if n < 0x80 then [c.toLower]
  else if n = 0x130 then ['i', Char.ofNat 0x307]
  else
    match lowerShifts.find? fun r => r.1 ≤ n && n ≤ r.2.1 && (n - r.1) % r.2.2.1 == 0 with
    | some r => [shiftChar c r.2.2.2]
    | none => [c]

/-! ## The final sigma -/

/-- Whether the first character that counts for letter case is a letter with case. -/
def startsCased (s : List Char) : Bool :=
  match s.dropWhile isCaseIgnorable with
  | c :: _ => isCased c
  | [] => false

/-- Whether the place after `before` (in reverse order) and in front of `after` ends a word. -/
def endsWord (before after : List Char) : Bool :=
  startsCased before && !startsCased after

def capitalSigma : Char := Char.ofNat 0x3A3
def smallSigma : Char := Char.ofNat 0x3C3
def finalSigma : Char := Char.ofNat 0x3C2

/-- The lower-case form of a character between two texts, the one before it in reverse order. -/
def lowerCharIn (before : List Char) (c : Char) (after : List Char) : List Char :=
  if c = capitalSigma then
    if endsWord before after then [finalSigma] else [smallSigma]
  else lowerChar c

/-- The lower-case form of a text that follows `before` (in reverse order). -/
def lowerAfter (before : List Char) : List Char → List Char
  | [] => []
  | c :: cs => lowerCharIn before c cs ++ lowerAfter (c :: before) cs

/-- A text in lower case. -/
def lower (s : String) : String :=
  String.ofList (lowerAfter [] s.toList)

/-- The lower-case form of a text, as a list of characters. -/
theorem toList_lower (s : String) : (lower s).toList = lowerAfter [] s.toList :=
  String.toList_ofList

end Weblog.Text
