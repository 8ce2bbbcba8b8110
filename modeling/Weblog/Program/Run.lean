import Weblog.CommandLine.Completions
import Weblog.CommandLine.Parse
import Weblog.CommandLine.Usage
import Weblog.Listing.Detail
import Weblog.Listing.Statistics
import Weblog.Program.Failure
import Weblog.Report.Comments
import Weblog.Report.Posts
import Weblog.Report.Query
import Weblog.Report.Settings
import Weblog.Report.Statistics
/-!
# Running commands

A command works on a file system and ends with the text that it prints, or with a failure.

* `Context`: what a command knows besides its own arguments.
* `postOptions`, `commentOptions`: a listing as the arguments and the settings ask for it.
* `runCommand`: one command.
* `run`: an invocation.
* `Ending`, `runArguments`: **how the run of a command line ends**.
-/

namespace Weblog

open CommandLine Files Listing

/-- What a command knows besides its own arguments. -/
structure Context where
  environment : Environment
  settings : Settings
  json : Bool
  quiet : Bool
  noColor : Bool
  dataFile : Option String

namespace Context

def of (e : Environment) (i : Invocation) (s : Settings) : Context where
  environment := e
  settings := s
  json := i.json
  quiet := i.quiet
  noColor := i.noColor
  dataFile := i.dataFile

/-- Whether reports have colors: unless an option, the environment or a setting says no. -/
def colors (c : Context) : Bool :=
  !c.noColor && c.environment.noColor.isNone && c.settings.colors.getD true

/-- The path of the data file: the one that is asked for, or the one that is set, or the usual
one. -/
def dataPath? (c : Context) : Option String :=
  c.dataFile <|> c.settings.dataFile <|> c.environment.dataPath?

/-- How long a page is unless the arguments say so. -/
def pageSize (c : Context) (size : Option UInt64) : UInt64 :=
  (size <|> c.settings.pageSize).getD defaultSize

/-- The fields that a filter searches: those that are given, or those that are set, or those of
posts. -/
def searchFields (c : Context) (fields : List String) : List String :=
  if !fields.isEmpty then fields
  else c.settings.searchFields?.getD Post.searchFields

/-- A line of output, which a quiet run leaves out. -/
def remark (c : Context) (text : String) : String :=
  if c.quiet then "" else text

/-- A report as JSON or as text. A quiet run leaves out the text only. -/
def report (c : Context) (json : Json) (text : String) : String :=
  if c.json then json.render ++ "\n" else c.remark text

end Context

/-! ## Options -/

/-- A post listing as the arguments and the settings ask for it. -/
def postOptions (c : Context) (r : PostsRequest) : PostOptions :=
  { r.filter with
    order := (r.order <|> c.settings.postOrder?).getD .newest
    page := r.page
    size := c.pageSize r.size
    viewer := r.viewer }

/-- A comment listing as the arguments and the settings ask for it. -/
def commentOptions (c : Context) (r : CommentsRequest) : CommentOptions where
  state := r.state
  page := r.page
  size := c.pageSize r.size
  viewer := r.viewer

/-! ## Commands -/

/-- A command in a monad with files: the text that it prints, or a failure. -/
abbrev Run (m : Type → Type) := ExceptT Failure m

variable {m : Type → Type} [Monad m]

/-- An outcome whose errors are failures of the command. -/
def orFail {ε α : Type} (failure : ε → Failure) (outcome : ExceptT ε m α) : Run m α :=
  ExceptT.mk do return (← outcome.run).mapError failure

/-- The data file of a run. -/
def openStore (c : Context) : Run m Store :=
  match c.dataPath? with
  | some path => return ⟨path⟩
  | none => throw (.store .noDataDirectory)

/-- The path of the settings file of a run. -/
def openSettings (e : Environment) : Run m String :=
  match e.settingsPath? with
  | some path => return path
  | none => throw (.settings .noDirectory)

variable [FileSystem m]

/-- The answer of the data file to a question about the blog. -/
def ask {α : Type} (c : Context) (question : Repository (ExceptT StoreError m) →
    ExceptT StoreError m α) : Run m α := do
  let s : Store ← openStore c
  orFail .store (question s.repository)

def runPosts (c : Context) (r : PostsRequest) : Run m String := do
  let page ← ask c fun repo => listPosts repo (postOptions c r)
  return c.report page.toJson (Report.postsTable c.colors page)

def runPost (c : Context) (id : String) (viewer : Option String) : Run m String := do
  match ← ask c fun repo => getPost repo id viewer with
  | some d => return c.report d.toJson (Report.postText c.colors d)
  | none => throw (.noPost id)

def runComments (c : Context) (r : CommentsRequest) : Run m String := do
  match ← ask c fun repo => listComments repo r.postId (commentOptions c r) with
  | some page => return c.report page.toJson (Report.commentsTable c.colors page)
  | none => throw (.noPost r.postId)

def runStatistics (c : Context) : Run m String := do
  let s ← ask c fun repo => statistics repo
  return c.report s.toJson (Report.statisticsText c.colors s)

/-- Writes the data of a new blog. An existing data file is replaced only if that is forced. -/
def runCreate (c : Context) (force : Bool) : Run m String := do
  let s : Store ← openStore c
  if (← (s.fileExists : m Bool)) && !force then throw (.input (.dataFileExists s.path))
  orFail .store (ExceptT.mk (s.save .sample))
  return c.report (.sortedObject [("status", .string "success"), ("path", .string s.path)])
    (Report.block [Report.paint c.colors .green ("Blog data written to " ++ s.path)])

/-- The items of a JSON array that satisfy a query. -/
def filterText (fields : List String) (query text : String) : Except Failure (List Json) :=
  match Json.ofText text with
  | none => .error .malformedJson
  | some (.array records) => .ok ((Query.parse query).stream fields records)
  | some _ => .error (.input .noArray)

/-- Filters the records in a file; a dash stands for the standard input, also one that slashes and
idle dots follow. -/
def runFilter (c : Context) (input : m (Except FileError String)) (file query : String)
    (fields : List String) : Run m String := do
  let text ← orFail .read (ExceptT.mk (if isName "-" file then input else FileSystem.readText file))
  match filterText (c.searchFields fields) query text with
  | .ok records => return (Json.array records).render ++ "\n"
  | .error e => throw e

/-- Shows how a query is read. -/
def runExplain (c : Context) (query : String) : String :=
  let tokens := Query.tokens query
  let parsed := Query.parse query
  c.report (Report.queryJson tokens parsed) (Report.queryText c.colors tokens parsed)

/-- Shows or changes the settings. -/
def runSettings (c : Context) : SettingsCommand → Run m String
  | .list => do
    let path ← openSettings c.environment
    let fileExists ← (FileSystem.pathExists path : m Bool)
    return c.report
      (.sortedObject [("path", .string path), ("exists", .bool fileExists),
        ("config", c.settings.toJson)])
      (Report.settingsText c.colors path fileExists c.settings)
  | .set key value => do
    let path ← openSettings c.environment
    orFail .settings (changeSetting path key value)
    return c.report
      (.sortedObject [("status", .string "success"), ("key", .string key),
        ("value", .string value), ("path", .string path)])
      (Report.block ["Set " ++ key ++ " = " ++ value])
  | .path => do
    let path ← openSettings c.environment
    let fileExists ← (FileSystem.pathExists path : m Bool)
    if c.json then
      let shown := Json.sortedObject [("path", .string path), ("exists", .bool fileExists)]
      return shown.render ++ "\n"
    else return path ++ "\n"

/-- What a run without a command prints. -/
def welcome : String :=
  Report.block ["blogq - query, list and summarize blog posts",
    "Use --help for usage information"]

/-- What a command prints, or why it fails. -/
def runCommand (c : Context) (input : m (Except FileError String)) : Command → Run m String
  | .posts r => runPosts c r
  | .post id viewer => runPost c id viewer
  | .comments r => runComments c r
  | .statistics => runStatistics c
  | .create force => runCreate c force
  | .filter file query fields => runFilter c input file query fields
  | .explain query => return runExplain c query
  | .settings command => runSettings c command
  | .completions shell => return completions shell

/-- An invocation in an environment. Nothing is done unless the settings can be read. -/
def run (e : Environment) (input : m (Except FileError String)) (i : Invocation) :
    Run m String := do
  let path ← openSettings e
  let s ← orFail .settings (loadSettings path)
  let c := Context.of e i s
  match i.command with
  | some command => runCommand c input command
  | none => return c.remark welcome

/-! ## Command lines -/

/-- How a run ends: with a question about the usage or an error in it, or with the outcome of an
invocation. -/
inductive Ending
  | usage (error : UsageError)
  | failed (i : Invocation) (failure : Failure)
  | done (i : Invocation) (output : String)

namespace Ending

def exitStatus : Ending → UInt32
  | usage e => e.exitStatus
  | failed _ failure => failure.exitStatus
  | done .. => 0

/-- What is written to the standard output. -/
def output : Ending → String
  | usage e => if e.exitStatus = 0 then e.message ++ "\n" else ""
  | failed .. => ""
  | done _ output => output

/-- What is written to the standard error: a failure as JSON, if that is asked for, or as text. -/
def errorOutput : Ending → String
  | usage e =>
    if e.exitStatus = 0 then "" else e.message ++ "\n\nFor more information, try '--help'.\n"
  | failed i failure =>
    (if i.json then failure.toJson.render else "Error: " ++ failure.message) ++ "\n"
  | done .. => ""

end Ending

/-- How the run of a command line ends. -/
def runArguments (e : Environment) (input : m (Except FileError String))
    (arguments : List String) : m Ending := do
  match parse e arguments with
  | .error error => return .usage error
  | .ok i =>
    match ← (run e input i).run with
    | .ok output => return .done i output
    | .error failure => return .failed i failure

end Weblog
