import Weblog.Entries
import Weblog.Files.System
/-!
# File trees

A file tree is a file, or a directory with named trees. A path is walked from the root: every piece
but the last has to name a directory, a dot stays, and two dots go up, at the root nowhere.

* `FileTree.get?`, `FileTree.set`, `FileTree.erase`: the tree below some names.
* `FileTree.walk`: the directory that a path leads through.
* `FileTree.find`: what has a path.
* `FileTree.write`, `FileTree.makeDir`, `FileTree.move`: **the operations that change a tree**.
* the file system whose state is a tree.
-/

namespace Weblog.Files

/-- A file with its bytes, or a directory with named trees. -/
inductive FileTree
  | file (content : ByteArray)
  | directory (entries : List (String × FileTree))

namespace FileTree

def emptyDirectory : FileTree := directory []

def isDir : FileTree → Bool
  | file _ => false
  | directory _ => true

/-! ## Names -/

/-- The tree below some names. -/
def get? (tree : FileTree) : List String → Option FileTree
  | [] => some tree
  | name :: names =>
    match tree with
    | file _ => none
    | directory entries =>
      match entries.lookup name with
      | none => none
      | some tree => tree.get? names

/-- The tree with another tree below some names. Without a directory for it nothing changes. -/
def set (tree : FileTree) (names : List String) (new : FileTree) : FileTree :=
  match names, tree with
  | [], _ => new
  | _ :: _, file content => file content
  | [name], directory entries => directory (setEntry name new entries)
  | name :: names, directory entries =>
    match entries.lookup name with
    | none => directory entries
    | some tree => directory (setEntry name (tree.set names new) entries)

/-- The tree without what is below some names. -/
def erase (tree : FileTree) (names : List String) : FileTree :=
  match names, tree with
  | [], tree => tree
  | _ :: _, file content => file content
  | [name], directory entries => directory (eraseEntry name entries)
  | name :: names, directory entries =>
    match entries.lookup name with
    | none => directory entries
    | some tree => directory (setEntry name (tree.erase names) entries)

/-! ## Paths -/

/-- The longest name of a directory entry and the longest path, in bytes. -/
def longestName : Nat := 255
def longestPath : Nat := 4095

/-- The tree that a name has in a directory, if the name can be one. -/
def lookupName (root : FileTree) (here : List String) (name : String) :
    Except FileError (Option FileTree) :=
  if longestName < name.utf8ByteSize then .error .nameTooLong
  else .ok (root.get? (here ++ [name]))

/-- The directory that some pieces of a path lead to from a directory. -/
def walk (root : FileTree) : List String → List String → Except FileError (List String)
  | here, [] => .ok here
  | here, piece :: pieces =>
    if piece = "" ∨ piece = "." then walk root here pieces
    else if piece = ".." then walk root here.dropLast pieces
    else
      match root.lookupName here piece with
      | .error e => .error e
      | .ok none => .error .notFound
      | .ok (some (file _)) => .error .notDirectory
      | .ok (some (directory _)) => walk root (here ++ [piece]) pieces

/-- What a path ends with: a directory that needs no name, or a name in a directory, perhaps with a
slash after it. -/
inductive Target
  | directory (names : List String)
  | entry (parent : List String) (name : String) (slash : Bool)
  deriving DecidableEq

/-- What a path ends with, if the directories that it leads through are there. -/
def target (root : FileTree) (path : String) : Except FileError Target :=
  if path.toList.contains '\x00' then .error .nulInPath
  else if path = "" then .error .notFound
  else if longestPath < path.utf8ByteSize then .error .nameTooLong
  else
    let slash := path.toList.getLast? == some '/'
    match (steps path).reverse with
    | [] => .ok (.directory [])
    | last :: before =>
      if last = "." ∨ last = ".." then
        (root.walk [] (last :: before).reverse).map .directory
      else (root.walk [] before.reverse).map fun parent => .entry parent last slash

/-- What has a path, with its names from the root on. -/
def find (root : FileTree) (path : String) : Except FileError (List String × FileTree) := do
  match ← root.target path with
  | .directory names =>
    match root.get? names with
    | some tree => .ok (names, tree)
    | none => .error .notFound
  | .entry parent name slash =>
    match ← root.lookupName parent name with
    | none => .error .notFound
    | some (file content) =>
      if slash then .error .notDirectory else .ok (parent ++ [name], file content)
    | some tree => .ok (parent ++ [name], tree)

/-- The text of the file at a path. -/
def read (root : FileTree) (path : String) : Except FileError String := do
  match ← root.find path with
  | (_, directory _) => .error .isDirectory
  | (_, file content) =>
    match String.fromUTF8? content with
    | some text => .ok text
    | none => .error .notText

/-- The tree after a file has been written. -/
def write (root : FileTree) (path : String) (content : ByteArray) : Except FileError FileTree := do
  match ← root.target path with
  | .directory _ | .entry _ _ true => .error .isDirectory
  | .entry parent name false =>
    match ← root.lookupName parent name with
    | some (directory _) => .error .isDirectory
    | _ => .ok (root.set (parent ++ [name]) (file content))

/-- The tree after one directory has been made. -/
def makeDir (root : FileTree) (path : String) : Except FileError FileTree := do
  match ← root.target path with
  | .directory _ => .error .alreadyExists
  | .entry parent name _ =>
    match ← root.lookupName parent name with
    | some _ => .error .alreadyExists
    | none => .ok (root.set (parent ++ [name]) emptyDirectory)

/-- The tree after something has got another path. A file cannot take the place of a directory,
and a directory only that of an empty one. -/
def move (root : FileTree) (path new : String) : Except FileError FileTree := do
  match ← root.target path, ← root.target new with
  | .entry parent name slash, .entry newParent newName newSlash =>
    let source ← root.lookupName parent name
    let old ← root.lookupName newParent newName
    match source, old with
    | none, _ => .error .notFound
    | some (file content), old =>
      if slash || newSlash then .error .notDirectory
      else if old.any isDir then .error .isDirectory
      else if parent ++ [name] = newParent ++ [newName] then .ok root
      else .ok ((root.erase (parent ++ [name])).set (newParent ++ [newName]) (file content))
    | some (directory _), some (file _) => .error .notDirectory
    | some (directory _), some (directory (_ :: _)) => .error .notEmpty
    | some (directory entries), _ =>
      .ok ((root.erase (parent ++ [name])).set (newParent ++ [newName]) (directory entries))
  | _, _ => .error .busy

/-! ## The file system of a tree -/

/-- Runs an operation that changes the tree; if it fails, the tree stays. Only the tree decides:
nothing fails for another reason, such as a full disk after a part of a text has been written. -/
def change (operation : FileTree → Except FileError FileTree) :
    StateM FileTree (Except FileError Unit) := fun root =>
  match operation root with
  | .ok root => (.ok (), root)
  | .error e => (.error e, root)

instance : FileSystem (StateM FileTree) where
  pathExists path := return ((← get).find path).toBool
  isDirectory path := return match (← get).find path with
    | .ok (_, tree) => tree.isDir
    | .error _ => false
  readText path := return (← get).read path
  writeText path text := change fun root => root.write path text.toUTF8
  createDir path := change fun root => root.makeDir path
  rename path new := change fun root => root.move path new

end FileTree

end Weblog.Files
