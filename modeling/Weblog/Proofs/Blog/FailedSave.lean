import Mathlib.Tactic.Common
import Weblog.Proofs.Blog.Stored
import Weblog.Proofs.Files.Faults
/-!
# Saving that fails

Saving can stop at each of its steps: a directory is not made, the temporary file is not written or
only in part, or it does not get the name of the data file. Whatever has happened until then, the
data file answers as before.

* `Store.answers`: what a data file answers; it depends on what the path shows.
* `Store.faultless_save`: saving without faults is saving to the tree.
* `Store.keeps_prepare`, `Store.shows_writeText`, `Store.tree_of_rename_error`: the steps of saving.
* **`Store.answers_failed_save`**: a data file answers as before after saving has failed.
-/

namespace Weblog

open Files FaultyTree

namespace Store

/-! ## Answers -/

/-- What a data file answers: whether it exists, and the outcomes of loading. -/
structure Answers where
  fileExists : Bool
  load : Except StoreError BlogData
  loadOrEmpty : Except StoreError BlogData

def answers (s : Store) (tree : FileTree) : Answers where
  fileExists := ((s.fileExists : StateM FileTree _).run tree).1
  load := ((s.load : StateM FileTree _).run tree).1
  loadOrEmpty := ((s.loadOrEmpty : StateM FileTree _).run tree).1

variable {s : Store} {data : BlogData}

theorem run_loadOrEmpty (s : Store) (tree : FileTree) :
    (s.loadOrEmpty : StateM FileTree _).run tree =
      (match ((s.load : StateM FileTree _).run tree).1 with
        | .error (.read _ .notFound) => .ok .empty
        | outcome => outcome, tree) := by
  have htree : ((s.load : StateM FileTree _).run tree).2 = tree := by rw [run_load]
  rcases hload : (s.load : StateM FileTree _).run tree with ⟨outcome, after⟩
  rw [hload] at htree
  obtain rfl : after = tree := htree
  rw [loadOrEmpty, run_bind hload]
  cases outcome with
  | ok data => rfl
  | error e => cases e with
    | read path e => cases e <;> rfl
    | _ => rfl

/-- **The answers depend on what the path shows.** -/
theorem answers_congr {root other : FileTree} (h : root.shows s.path = other.shows s.path) :
    s.answers root = s.answers other := by
  have hread : root.read s.path = other.read s.path := by
    rw [FileTree.read_eq, FileTree.read_eq, h]
  have hload : ((s.load : StateM FileTree _).run root).1 =
      ((s.load : StateM FileTree _).run other).1 := by rw [run_load, run_load, hread]
  unfold answers
  rw [run_fileExists, run_fileExists, FileTree.toBool_find, FileTree.toBool_find, h,
    run_loadOrEmpty, run_loadOrEmpty, hload]

/-! ## The steps of saving -/

theorem prepare_related {m n : Type → Type} [Monad m] [Monad n] [FileSystem m] [FileSystem n]
    {R : (α : Type) → m α → n α → Prop} (h : Respects R)
    (hfound : ∀ path, R _ (FileSystem.isDirectory path) (FileSystem.isDirectory path))
    (hcreate : ∀ directory, parent? s.path = some directory → ∀ path ∈ ancestors directory,
      R _ (FileSystem.createDir path) (FileSystem.createDir path)) :
    R _ s.prepare s.prepare := by
  unfold prepare
  cases hparent : parent? s.path with
  | none => exact h.pure _
  | some directory =>
    exact h.bind (h.createDirs hfound (hcreate directory hparent)) fun _ => h.pure _

/-- **Saving without faults is saving to the tree.** -/
theorem faultless_save (s : Store) (data : BlogData) : Faultless (s.save data) (s.save data) := by
  have hprepare : Faultless s.prepare s.prepare := prepare_related respects_faultless
    (fun _ => faultless_attempt) fun _ _ _ _ => faultless_attempt
  refine respects_faultless.bind hprepare fun prepared => ?_
  cases prepared with
  | error e => exact respects_faultless.pure _
  | ok =>
    refine respects_faultless.bind faultless_attempt fun written => ?_
    cases written with
    | error e => exact respects_faultless.pure _
    | ok => exact respects_faultless.bind faultless_attempt fun _ => respects_faultless.pure _

theorem keeps_prepare (s : Store) : Keeps s.path s.prepare :=
  prepare_related (respects_keeps s.path) keeps_isDirectory fun _ hparent _ hup =>
    keeps_createDir (isAbove_of_mem_ancestors hparent hup)

theorem shows_writeText (hending : hasEnding "tmp" s.path = false) {text : String}
    {state after : FaultyTree} {outcome : Except FileError Unit}
    (h : (FileSystem.writeText s.temporaryPath text : StateM FaultyTree _).run state =
      (outcome, after)) : after.tree.shows s.path = state.tree.shows s.path := by
  have hbeside : ∀ {root after : FileTree} {content : ByteArray},
      root.write s.temporaryPath content = .ok after → after.shows s.path = root.shows s.path :=
    FileTree.shows_write_beside (by decide) hending
  rcases writeText_cases h with ⟨-, hwrite⟩ | ⟨-, hsame | ⟨count, hwrite⟩⟩
  · exact hbeside hwrite
  · rw [hsame]
  · exact hbeside hwrite

theorem tree_of_rename_error {path new : String} {state after : FaultyTree} {e : FileError}
    (h : (FileSystem.rename path new : StateM FaultyTree _).run state = (.error e, after)) :
    after.tree = state.tree := by
  rcases rename_cases h with ⟨hok, -⟩ | ⟨-, hsame⟩
  · cases hok
  · exact hsame

/-! ## Failed saves -/

/-- **After saving has failed the path of the data file shows what it showed before.** -/
theorem shows_failed_save {state after : FaultyTree} {e : StoreError}
    (hfailed : (s.save data : StateM FaultyTree _).run state = (.error e, after))
    (hending : hasEnding "tmp" s.path = false) (hsteady : state.tree.Steady s.path) :
    after.tree.shows s.path = state.tree.shows s.path := by
  obtain ⟨-, hprepared⟩ := s.keeps_prepare state hsteady
  rcases save_cases hfailed with ⟨_, hprepare, -⟩ |
    ⟨prepared, hprepare, ⟨_, hwrite, -⟩ | ⟨written, moved, hwrite, hrename, hmoved⟩⟩
  · rwa [hprepare] at hprepared
  · rw [hprepare] at hprepared
    exact (shows_writeText hending hwrite).trans hprepared
  · rw [hprepare] at hprepared
    cases moved with
    | ok => cases hmoved
    | error cause =>
      rw [tree_of_rename_error hrename]
      exact (shows_writeText hending hwrite).trans hprepared

/-- **A data file answers as before after saving has failed**, at whichever step. The path does not
have the ending of the temporary file, and where it is missing, only short names that lead down
follow the first name that is. -/
theorem answers_failed_save (s : Store) (data : BlogData) (state after : FaultyTree)
    (e : StoreError) (hfailed : (s.save data : StateM FaultyTree _).run state = (.error e, after))
    (hending : hasEnding "tmp" s.path = false) (hsteady : state.tree.Steady s.path) :
    s.answers after.tree = s.answers state.tree :=
  answers_congr (shows_failed_save hfailed hending hsteady)

/-! ## Failures -/

/-- A directory with a data file and perhaps a temporary one. -/
def blogDirectory (content : ByteArray) (others : List (String × FileTree)) : FileTree :=
  .directory [("blog", .directory (("posts.json", .file content) :: others))]

/-- The disk is full after five bytes of the temporary file. -/
theorem run_save_full_disk (content : ByteArray) (data : BlogData) (e : FileError) :
    ((⟨"blog/posts.json"⟩ : Store).save data : StateM FaultyTree _).run
        ⟨blogDirectory content [], [none, none, some ⟨e, some 5⟩]⟩ =
      (.error (.write "blog/posts.tmp" e),
        ⟨blogDirectory content [("posts.tmp", .file ((render data).toUTF8.extract 0 5))], []⟩) := by
  rfl

theorem behindMissing_blogDirectory (content : ByteArray) :
    (blogDirectory content []).behindMissing [] (steps "blog/posts.json") = none := by rfl

theorem answers_failed_save_full_disk :
    let s : Store := ⟨"blog/posts.json"⟩
    let content := (render .sample).toUTF8
    let e : FileError := .other "No space left on device (os error 28)"
    let state : FaultyTree := ⟨blogDirectory content [], [none, none, some ⟨e, some 5⟩]⟩
    let after : FaultyTree :=
      ⟨blogDirectory content [("posts.tmp", .file ((render .empty).toUTF8.extract 0 5))], []⟩
    (s.save .empty : StateM FaultyTree _).run state = (.error (.write "blog/posts.tmp" e), after) ∧
      hasEnding "tmp" s.path = false ∧ state.tree.Steady s.path ∧
      s.answers after.tree = s.answers state.tree := by
  intro s content e state after
  have hfailed := run_save_full_disk content .empty e
  have hending : hasEnding "tmp" s.path = false := by decide
  have hsteady : state.tree.Steady s.path := by
    intro more hmore
    cases (behindMissing_blogDirectory content).symm.trans hmore
  exact ⟨hfailed, hending, hsteady,
    answers_failed_save s .empty state after _ hfailed hending hsteady⟩

/-- A data file, a directory in place of the temporary file, and perhaps a new directory. -/
def blockedDirectory (content : ByteArray) (others : List (String × FileTree)) : FileTree :=
  .directory (("posts.json", .file content) :: ("posts.tmp", .emptyDirectory) :: others)

theorem run_save_blocked (content : ByteArray) (data : BlogData) :
    ((⟨"new/../posts.json"⟩ : Store).save data : StateM FileTree _).run
        (blockedDirectory content []) =
      (.error (.write "new/../posts.tmp" .isDirectory),
        blockedDirectory content [("new", .emptyDirectory)]) := by rfl

theorem shows_blocked (content : ByteArray) :
    ((blockedDirectory content []).shows "new/../posts.json").toBool = false ∧
      ((blockedDirectory content [("new", .emptyDirectory)]).shows
        "new/../posts.json").toBool = true := ⟨by rfl, by rfl⟩

/-- The directories that saving has made stay, so a path that goes through a missing directory and
back finds another file after saving has failed. -/
theorem not_answers_failed_save_blocked :
    let s : Store := ⟨"new/../posts.json"⟩
    let content := (render .empty).toUTF8
    let root := blockedDirectory content []
    let after := blockedDirectory content [("new", .emptyDirectory)]
    (s.save .sample : StateM FaultyTree _).run ⟨root, []⟩ =
        (.error (.write "new/../posts.tmp" .isDirectory), ⟨after, []⟩) ∧
      (s.answers root).fileExists = false ∧ (s.answers after).fileExists = true ∧
      s.answers after ≠ s.answers root := by
  intro s content root after
  have hfailed := faultless_save s .sample root
  rw [run_save_blocked content .sample] at hfailed
  have hbefore : (s.answers root).fileExists = false :=
    (FileTree.toBool_find root s.path).trans (shows_blocked content).1
  have hafter : (s.answers after).fileExists = true :=
    (FileTree.toBool_find after s.path).trans (shows_blocked content).2
  refine ⟨hfailed, hbefore, hafter, fun heq => ?_⟩
  rw [heq, hbefore] at hafter
  cases hafter

end Store

end Weblog
