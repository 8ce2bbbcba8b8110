import Weblog.Listing.Comments
/-!
# Commands

* `Command`: what the program can be asked to do.
* `Invocation`: a command with the choices that every command has.
* `LogLevel`: which messages about its work the program writes.
-/

namespace Weblog.CommandLine

open Listing

inductive Shell
  | bash
  | zsh
  | fish
  | powershell
  deriving DecidableEq

/-- A page of posts that is asked for, as far as the settings do not decide. -/
structure PostsRequest where
  filter : PostFilter := {}
  order : Option PostOrder := none
  page : UInt64 := 1
  size : Option UInt64 := none
  viewer : Option String := none
  deriving DecidableEq

/-- A page of comments that is asked for. -/
structure CommentsRequest where
  postId : String
  state : Option String := none
  page : UInt64 := 1
  size : Option UInt64 := none
  viewer : Option String := none
  deriving DecidableEq

/-- What can be done with the settings. -/
inductive SettingsCommand
  | list
  | set (key value : String)
  | path
  deriving DecidableEq

/-- What the program is asked to do. -/
inductive Command
  /-- Lists posts. -/
  | posts (request : PostsRequest)
  /-- Shows one post. -/
  | post (id : String) (viewer : Option String)
  /-- Lists the comments on a post. -/
  | comments (request : CommentsRequest)
  /-- Shows the figures of the blog. -/
  | statistics
  /-- Writes the data of a new blog. -/
  | create (force : Bool)
  /-- Filters records in a JSON file. -/
  | filter (file query : String) (fields : List String)
  /-- Shows how a query is read. -/
  | explain (query : String)
  /-- Shows or changes the settings. -/
  | settings (command : SettingsCommand)
  /-- Writes a script with completions. -/
  | completions (shell : Shell)
  deriving DecidableEq

/-- Which messages about its work the program writes. -/
inductive LogLevel
  | errors
  | warnings
  | everything
  deriving DecidableEq

/-- A command, or none, with the choices that every command has. -/
structure Invocation where
  verbose : Bool := false
  quiet : Bool := false
  json : Bool := false
  noColor : Bool := false
  dataFile : Option String := none
  command : Option Command := none
  deriving DecidableEq

/-- The messages that are written; between a quiet and a verbose run the verbose one wins. -/
def Invocation.logLevel (i : Invocation) : LogLevel :=
  if i.verbose then .everything else if i.quiet then .errors else .warnings

end Weblog.CommandLine
