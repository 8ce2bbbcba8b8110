import Weblog.Text.Column
import Weblog.Calendar.Instant
/-!
# Styles and cells

* `paint`: a text in a style, if colors are on.
* `stateCell`, `dateCell`, `tagsText`, `likesText`: the parts of a report about posts and comments.
* `row`, `block`: parts of a line, and lines of a report.
-/

namespace Weblog.Report

open Text

/-! ## Styles -/

/-- The styles of a terminal that reports use. -/
inductive Style
  | bold
  | dimmed
  | red
  | green
  | yellow
  deriving DecidableEq

def Style.beginCode : Style → Nat
  | bold => 1
  | dimmed => 2
  | red => 31
  | green => 32
  | yellow => 33

/-- The terminal code that ends a style: colors return to the default color, weights to normal. -/
def Style.endCode : Style → Nat
  | bold | dimmed => 0
  | red | green | yellow => 39

/-- A terminal code. -/
def escape (code : Nat) : String :=
  "\x1b[" ++ toString code ++ "m"

/-- A text in a style, if colors are on. -/
def paint (colors : Bool) (style : Style) (text : String) : String :=
  if colors then escape style.beginCode ++ text ++ escape style.endCode else text

/-! ## Cells -/

/-- The style of a state: visible, waiting, rejected or any other. -/
def stateStyle (state : String) : Style :=
  if state = "publicado" ∨ state = "aprobado" then .green
  else if state = "borrador" ∨ state = "pendiente" then .yellow
  else if state = "rechazado" then .red
  else .dimmed

/-- A state, padded first so that its style does not move the next column. -/
def stateCell (colors : Bool) (width : Nat) (state : String) : String :=
  paint colors (stateStyle state) (padRight width state)

/-- An id in its column of eight characters. -/
def idCell (id : String) : String :=
  padRight 8 (clip 8 id)

/-- A date in its column of ten characters. -/
def dateCell (created : String) : String :=
  padRight 10 (Calendar.displayDate created)

/-- A name in a column of some characters. -/
def nameCell (width : Nat) (name : String) : String :=
  padRight width (truncate width name)

/-- Tags with a number sign in front of each. -/
def tagList (tags : List String) : String :=
  " ".intercalate (tags.map ("#" ++ ·))

/-- Tags in a column of some characters. -/
def tagsText (width : Nat) (tags : List String) : String :=
  truncate width (tagList tags)

/-- The number of likes, with a star if the viewer is among them. -/
def likesText (count : Nat) (liked : Bool) : String :=
  toString count ++ if liked then "*" else ""

/-! ## Lines -/

/-- Cells with a blank between two of them. -/
def row (cells : List String) : String :=
  " ".intercalate cells

/-- Lines, each with a line feed after it. -/
def block (lines : List String) : String :=
  String.join (lines.map (· ++ "\n"))

end Weblog.Report
