import Weblog.Text.Blank
/-!
# Lines and substrings

* `lines`: the lines of a text; a line ends with a line feed or with a carriage return and a line
  feed, and the end of the last line may be missing.
* `occursIn`: whether a text contains another one.
-/

namespace Weblog.Text

/-! ## Lines -/

/-- A line without the carriage return before its line feed. -/
def dropReturn (l : List Char) : List Char :=
  if l.getLast? = some '\r' then l.dropLast else l

/-- The lines of a text. What follows the last line feed is a line only if it is not empty. -/
def lines (s : List Char) : List (List Char) :=
  let pieces := s.splitOn '\n'
  let complete := pieces.dropLast.map dropReturn
  match pieces.getLast? with
  | some [] | none => complete
  | some rest => complete ++ [rest]

/-! ## Substrings -/

/-- Whether `hay` contains `needle` as a run of neighbouring characters. -/
def occursIn (needle : List Char) : List Char → Bool
  | [] => needle.isEmpty
  | c :: cs => needle.isPrefixOf (c :: cs) || occursIn needle cs

theorem occursIn_iff_isInfix {needle hay : List Char} :
    occursIn needle hay = true ↔ needle <:+: hay := by
  induction hay with
  | nil => simp [occursIn]
  | cons c cs ih => simp [occursIn, ih, List.infix_cons_iff]

end Weblog.Text
