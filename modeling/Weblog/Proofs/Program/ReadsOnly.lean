import Mathlib.Tactic.Common
import Weblog.Program.Run
import Weblog.Proofs.Config.Saving
import Weblog.Proofs.Listing.Questions
/-!
# Commands that read

Every command but two only reads: whatever its outcome is and whatever goes wrong, the files stay as
they are.

* `related_repository`: whatever a data file is asked, it is only read.
* `Command.writes`: whether a command writes; **`readsOnly_runCommand`**: the others only read.
-/

namespace Weblog

open CommandLine Files FaultyTree Listing

/-! ## Parts of commands -/

theorem readsOnly_openSettings (e : Environment) :
    ReadsOnly (openSettings e : Run (StateM FaultyTree) String) := by
  unfold openSettings
  cases e.settingsPath? with
  | none => exact readsOnly_throw _
  | some path => exact readsOnly_pure path

theorem readsOnly_openStore (c : Context) :
    ReadsOnly (openStore c : Run (StateM FaultyTree) Store) := by
  unfold openStore
  cases c.dataPath? with
  | none => exact readsOnly_throw _
  | some path => exact readsOnly_pure _

theorem readsOnly_orFail {ε α : Type} (failure : ε → Failure)
    {work : ExceptT ε (StateM FaultyTree) α} (h : ReadsOnly work) :
    ReadsOnly (orFail failure work) :=
  Looks.bind h fun _ => Later.refl

theorem looks_load (s : Store) : Looks (s.load : StateM FaultyTree _) := by
  refine Looks.bind (looks_readText s.path) fun outcome => ?_
  cases outcome <;> exact Later.refl

theorem looks_loadOrEmpty (s : Store) : Looks (s.loadOrEmpty : StateM FaultyTree _) := by
  refine Looks.bind (looks_load s) fun outcome => ?_
  cases outcome with
  | ok data => exact Later.refl
  | error e => cases e with
    | read path cause => cases cause <;> exact Later.refl
    | _ => exact Later.refl

open Repository

theorem related_repository (s : Store) :
    Related (fun α (c _ : ExceptT StoreError (StateM FaultyTree) α) => ReadsOnly c)
      s.repository s.repository :=
  related_ofSnapshots respects_readsOnly (looks_loadOrEmpty s)

variable {c : Context}

theorem readsOnly_ask {α : Type} {question : Repository (ExceptT StoreError (StateM FaultyTree)) →
    ExceptT StoreError (StateM FaultyTree) α}
    (h : ∀ s : Store, ReadsOnly (question s.repository)) : ReadsOnly (ask c question) :=
  (readsOnly_openStore c).bind fun s => readsOnly_orFail _ (h s)

theorem readsOnly_runPosts (r : PostsRequest) :
    ReadsOnly (runPosts c r : Run (StateM FaultyTree) String) :=
  (readsOnly_ask fun s => (related_repository s).listPosts respects_readsOnly _).bind fun _ =>
    readsOnly_pure _

theorem readsOnly_runPost (id : String) (viewer : Option String) :
    ReadsOnly (runPost c id viewer : Run (StateM FaultyTree) String) := by
  refine (readsOnly_ask fun s =>
    (related_repository s).getPost respects_readsOnly id viewer).bind fun found => ?_
  cases found with
  | none => exact readsOnly_throw _
  | some d => exact readsOnly_pure _

theorem readsOnly_runComments (r : CommentsRequest) :
    ReadsOnly (runComments c r : Run (StateM FaultyTree) String) := by
  refine (readsOnly_ask fun s =>
    (related_repository s).listComments respects_readsOnly r.postId _).bind fun found => ?_
  cases found with
  | none => exact readsOnly_throw _
  | some page => exact readsOnly_pure _

theorem readsOnly_runStatistics : ReadsOnly (runStatistics c : Run (StateM FaultyTree) String) :=
  (readsOnly_ask fun s => (related_repository s).statistics respects_readsOnly).bind fun _ =>
    readsOnly_pure _

theorem readsOnly_runFilter (input : Except FileError String) (file query : String)
    (fields : List String) :
    ReadsOnly (runFilter c (pure input : StateM FaultyTree _) file query fields) := by
  refine ReadsOnly.bind (readsOnly_orFail _ ?_) fun text => ?_
  · split_ifs
    · exact Later.refl
    · exact looks_readText file
  · cases filterText (c.searchFields fields) query text with
    | error e => exact readsOnly_throw _
    | ok records => exact readsOnly_pure _

/-- Whether a command writes. -/
def CommandLine.Command.writes : Command → Bool
  | .create _ => true
  | .settings (.set _ _) => true
  | _ => false

/-- **Every command but two only reads.** -/
theorem readsOnly_runCommand (input : Except FileError String) {command : Command}
    (h : command.writes = false) :
    ReadsOnly (runCommand c (pure input : StateM FaultyTree _) command) := by
  cases command with
  | posts r => exact readsOnly_runPosts r
  | post id viewer => exact readsOnly_runPost id viewer
  | comments r => exact readsOnly_runComments r
  | statistics => exact readsOnly_runStatistics
  | create force => cases h
  | filter file query fields => exact readsOnly_runFilter input file query fields
  | explain query => exact readsOnly_pure _
  | settings command => cases command with
    | set key value => cases h
    | list =>
      exact (readsOnly_openSettings c.environment).bind fun _ =>
        ReadsOnly.bind (readsOnly_lift (looks_pathExists _)) fun _ => readsOnly_pure _
    | path =>
      refine (readsOnly_openSettings c.environment).bind fun _ =>
        ReadsOnly.bind (readsOnly_lift (looks_pathExists _)) fun _ => ?_
      split_ifs
      · exact readsOnly_pure _
      · exact readsOnly_pure _
  | completions shell => exact readsOnly_pure _

end Weblog
