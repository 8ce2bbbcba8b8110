/-!
# Paths

Paths are texts; slashes separate their pieces. Empty pieces and single dots say nothing, except for
a dot at the beginning of a path.

* `parent?`: a path without its last piece.
* `ancestors`: a path and its parents, as far as they name something below the starting place.
* `withExtension`: a path with another ending after the last dot of its name.
* `isName`: whether a path is a single name.
* `join`: a path below another one.
-/

namespace Weblog.Files

/-- The pieces of a path between its slashes. -/
def pieces (path : String) : List (List Char) :=
  path.toList.splitOn '/'

/-- The path with some pieces. -/
def ofPieces (pieces : List (List Char)) : String :=
  String.ofList (['/'].intercalate pieces)

/-- The pieces of a path without the empty ones. -/
def steps (path : String) : List String :=
  ((pieces path).map String.ofList).filter (· != "")

/-- Pieces without those at the end that say nothing, given in reverse order. -/
def dropIdle : List (List Char) → List (List Char)
  | [] => []
  | piece :: before =>
    if piece = [] ∨ (piece = ['.'] ∧ before ≠ []) then dropIdle before else piece :: before

/-- The pieces of a path up to the last one that names something, in reverse order. -/
def namingPieces (path : String) : List (List Char) :=
  dropIdle (pieces path).reverse

def isAbsolute (path : String) : Bool :=
  path.toList.head? == some '/'

/-- The path without its last piece. The empty path and the root have no parent. -/
def parent? (path : String) : Option String :=
  match namingPieces path with
  | [] => none
  | _ :: before =>
    let before := dropIdle before
    if before.isEmpty && isAbsolute path then some "/" else some (ofPieces before.reverse)

/-- A path and its parents, the longest one first; those without a parent are left out. -/
def ancestorsUpTo : Nat → String → List String
  | 0, _ => []
  | most + 1, path =>
    match parent? path with
    | none => []
    | some up => path :: ancestorsUpTo most up

/-- A path and its parents, the longest one first. -/
def ancestors (path : String) : List String :=
  ancestorsUpTo path.toList.length path

/-- The part of a name in front of its last dot; a dot at the beginning does not count. -/
def stem (name : List Char) : List Char :=
  match (name.reverse.dropWhile (· != '.')).reverse with
  | [] | ['.'] => name
  | front => front.dropLast

/-- Whether a path stops right after its last name. -/
def endsInName (path : String) : Bool :=
  namingPieces path == (pieces path).reverse

/-- The path with another ending of its last piece. A path that does not end in a name stays. The
old ending goes first: a name of two dots and an ending is then no name any more, and the path leads
to the parent directory, unless a slash follows. -/
def withExtension (ending : String) (path : String) : String :=
  match namingPieces path with
  | [] | ['.'] :: _ | ['.', '.'] :: _ => path
  | name :: before =>
    let last :=
      if stem name = ['.'] ∧ endsInName path then ['.', '.'] else stem name ++ '.' :: ending.toList
    ofPieces (before.reverse ++ [last])

/-- Whether a path is a single name, perhaps with slashes and dots after it. -/
def isName (name path : String) : Bool :=
  namingPieces path == [name.toList]

/-- A path below another one; an absolute path stays as it is. -/
def join (base path : String) : String :=
  if isAbsolute path ∨ base = "" then path
  else if base.toList.getLast? = some '/' then base ++ path
  else base ++ "/" ++ path

end Weblog.Files
