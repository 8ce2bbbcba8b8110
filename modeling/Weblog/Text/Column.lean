/-!
# Texts in columns

Widths count characters.

* `truncate`: at most so many characters, with an ellipsis when the text is cut.
* `padRight`, `padLeft`: at least so many characters.
-/

namespace Weblog.Text

/-- The first characters of a text. -/
def clip (width : Nat) (s : String) : String :=
  String.ofList (s.toList.take width)

def ellipsis : String := "..."

/-- A text that is too long keeps room for the ellipsis as far as the width allows. -/
def truncate (width : Nat) (s : String) : String :=
  if s.toList.length ≤ width then s else clip (width - 3) s ++ ellipsis

/-- The text with blanks after it up to the width. -/
def padRight (width : Nat) (s : String) : String :=
  s ++ String.ofList (List.replicate (width - s.toList.length) ' ')

/-- The text with blanks in front of it up to the width. -/
def padLeft (width : Nat) (s : String) : String :=
  String.ofList (List.replicate (width - s.toList.length) ' ') ++ s

end Weblog.Text
