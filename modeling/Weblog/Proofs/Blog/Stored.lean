import Mathlib.Tactic.Common
import Weblog.Listing.Comments
import Weblog.Listing.Detail
import Weblog.Listing.Statistics
import Weblog.Proofs.Blog.Codecs
import Weblog.Proofs.Files.Missing
import Weblog.Proofs.Listing.Questions
/-!
# The data file as a repository

* `Agrees`: a computation over a file tree succeeds with the result of one in memory and leaves the
  tree.
* `Store.Mirrors`: whatever is asked of the data file is answered as from some data in memory.
* `Store.mirrors_of_loadOrEmpty`: a file that loads as the data mirrors it.
* `Store.save_cases`: the steps of saving.
* `Store.holds_of_save`: the data file holds the text of the data that has been saved.
* **`Store.mirrors_saved_and_missing`**: a data file mirrors what has been saved last, and no data
  as long as there is no file.
-/

namespace Weblog

open Files Listing

/-! ## Agreement with memory -/

/-- Whether a computation over a file tree succeeds with the result of another one in memory and
leaves the tree. -/
def Agrees {α : Type} (tree : FileTree) (stored : ExceptT StoreError (StateM FileTree) α)
    (memory : Id α) : Prop :=
  stored.run.run tree = (.ok memory.run, tree)

section Agrees

variable {α β : Type} {tree : FileTree}

theorem Agrees.pure (a : α) : Agrees tree (pure a) (pure a) := rfl

theorem Agrees.bind {stored : ExceptT StoreError (StateM FileTree) α} {memory : Id α}
    {next : α → ExceptT StoreError (StateM FileTree) β} {nextMemory : α → Id β}
    (h : Agrees tree stored memory) (hnext : ∀ a, Agrees tree (next a) (nextMemory a)) :
    Agrees tree (stored >>= next) (memory >>= nextMemory) := by
  have hrun : (stored >>= next).run.run tree = (next memory.run).run.run tree := by
    rw [ExceptT.run_bind, StateT.run_bind, h]
    rfl
  exact hrun.trans (hnext memory.run)

theorem respects_agrees : Respects fun α (stored : ExceptT StoreError (StateM FileTree) α)
    (memory : Id α) => Agrees tree stored memory := ⟨Agrees.pure, Agrees.bind⟩

end Agrees

open Repository

namespace Store

/-- Whether whatever is asked of the data file is answered as from the data in memory. -/
structure Mirrors (s : Store) (tree : FileTree) (data : BlogData) : Prop where
  loadOrEmpty : Agrees tree (.mk s.loadOrEmpty) (pure data)
  posts : Agrees tree s.repository.posts (Repository.ofData data).posts
  comments : Agrees tree s.repository.comments (Repository.ofData data).comments
  commentsFor : ∀ postId, Agrees tree (s.repository.commentsFor postId)
    ((Repository.ofData data).commentsFor postId)
  categories : Agrees tree s.repository.categories (Repository.ofData data).categories
  category? : ∀ id, Agrees tree (s.repository.category? id) ((Repository.ofData data).category? id)
  listPosts : ∀ opts, Agrees tree (listPosts s.repository opts) (listPosts (.ofData data) opts)
  getPost : ∀ id viewer, Agrees tree (getPost s.repository id viewer)
    (getPost (.ofData data) id viewer)
  listComments : ∀ postId opts, Agrees tree (listComments s.repository postId opts)
    (listComments (.ofData data) postId opts)
  statistics : Agrees tree (statistics s.repository) (statistics (.ofData data))

variable {s : Store} {tree : FileTree} {data : BlogData}

/-- **A file that loads as the data mirrors it.** -/
theorem mirrors_of_loadOrEmpty (h : Agrees tree (.mk s.loadOrEmpty) (pure data)) :
    s.Mirrors tree data := by
  have hrepo : Related (fun _ => Agrees tree) s.repository (ofData data : Repository Id) :=
    related_ofSnapshots respects_agrees h
  exact ⟨h, hrepo.posts, hrepo.comments, hrepo.commentsFor, hrepo.categories, hrepo.category?,
    hrepo.listPosts respects_agrees, hrepo.getPost respects_agrees,
    hrepo.listComments respects_agrees, hrepo.statistics respects_agrees⟩

/-! ## Loading -/

theorem run_bind {σ α β : Type} {first : StateM σ α} {next : α → StateM σ β} {a : α}
    {state after : σ} (h : first.run state = (a, after)) :
    (first >>= next).run state = (next a).run after := by
  rw [StateT.run_bind, h]
  rfl

theorem run_fileExists (s : Store) (tree : FileTree) :
    (s.fileExists : StateM FileTree _).run tree = ((tree.find s.path).toBool, tree) := rfl

theorem run_load (s : Store) (tree : FileTree) :
    (s.load : StateM FileTree _).run tree =
      (match tree.read s.path with
        | .ok text => parse text
        | .error e => .error (.read s.path e), tree) := by
  have hread : (FileSystem.readText s.path : StateM FileTree _).run tree =
      (tree.read s.path, tree) := rfl
  rw [load, run_bind hread]
  cases tree.read s.path <;> rfl

theorem agrees_load (h : tree.read s.path = .ok (render data)) :
    Agrees tree (.mk s.load) (pure data) := by
  have hrun := run_load s tree
  simp only [h, parse_render] at hrun
  exact hrun

theorem agrees_loadOrEmpty (h : tree.read s.path = .ok (render data)) :
    Agrees tree (.mk s.loadOrEmpty) (pure data) := by
  have hload : (s.load : StateM FileTree _).run tree = (.ok data, tree) := agrees_load h
  unfold Agrees loadOrEmpty
  exact run_bind hload

theorem agrees_loadOrEmpty_missing (h : tree.read s.path = .error .notFound) :
    Agrees tree (.mk s.loadOrEmpty) (pure BlogData.empty) := by
  have hload := run_load s tree
  simp only [h] at hload
  unfold Agrees loadOrEmpty
  exact run_bind hload

/-! ## Saving -/

theorem run_writeText (path text : String) (tree : FileTree) :
    (FileSystem.writeText path text : StateM FileTree _).run tree =
      match tree.write path text.toUTF8 with
      | .ok after => (.ok (), after)
      | .error e => (.error e, tree) := rfl

/-- **Saving stops at the first step that fails.** -/
theorem save_cases {σ : Type} [FileSystem (StateM σ)] {state after : σ}
    {outcome : Except StoreError Unit}
    (h : (s.save data : StateM σ _).run state = (outcome, after)) :
    (∃ e, (s.prepare : StateM σ _).run state = (.error e, after) ∧ outcome = .error e) ∨
      ∃ prepared, (s.prepare : StateM σ _).run state = (.ok (), prepared) ∧
        ((∃ cause, (FileSystem.writeText s.temporaryPath (render data) : StateM σ _).run prepared =
            (.error cause, after) ∧ outcome = .error (.write s.temporaryPath cause)) ∨
          ∃ written moved, (FileSystem.writeText s.temporaryPath (render data) :
              StateM σ _).run prepared = (.ok (), written) ∧
            (FileSystem.rename s.temporaryPath s.path : StateM σ _).run written = (moved, after) ∧
            outcome = moved.mapError (.write s.path)) := by
  unfold save at h
  rcases run_step_cases s.prepare h (fun _ => rfl) with hprepare | ⟨_, prepared, hprepare, h⟩
  · exact .inl hprepare
  refine .inr ⟨prepared, hprepare, ?_⟩
  rcases run_step_cases (FileSystem.writeText s.temporaryPath (render data)) h
    (fun _ => rfl) with hwrite | ⟨_, written, hwrite, h⟩
  · exact .inl hwrite
  rcases hrename : (FileSystem.rename s.temporaryPath s.path : StateM σ _).run written with
    ⟨moved, renamed⟩
  have hmoved : (pure (moved.mapError (StoreError.write s.path)) : StateM σ _).run renamed =
      (outcome, after) := (run_bind hrename).symm.trans h
  obtain ⟨rfl, rfl⟩ := Prod.mk.inj hmoved
  exact .inr ⟨written, moved, hwrite, hrename, rfl⟩

theorem save_eq_ok {root after : FileTree}
    (h : (s.save data : StateM FileTree _).run root = (.ok (), after)) :
    ∃ prepared written, (s.prepare : StateM FileTree _).run root = (.ok (), prepared) ∧
      prepared.write s.temporaryPath (render data).toUTF8 = .ok written ∧
      written.move s.temporaryPath s.path = .ok after := by
  rcases save_cases h with ⟨_, -, herror⟩ |
    ⟨prepared, hprepare, ⟨_, -, herror⟩ | ⟨written, moved, hwrite, hrename, hmoved⟩⟩
  · cases herror
  · cases herror
  · cases moved with
    | error e => cases hmoved
    | ok => exact ⟨prepared, written, hprepare, FileTree.eq_ok_of_change hwrite,
        FileTree.eq_ok_of_change hrename⟩

/-- **Saved data is in the file.** -/
theorem holds_of_save {root after : FileTree}
    (h : (s.save data : StateM FileTree _).run root = (.ok (), after)) :
    after.Holds s.path (render data).toUTF8 := by
  obtain ⟨prepared, written, -, hwrite, hmove⟩ := save_eq_ok h
  have hroot := FileTree.kind_of_write hwrite (FileTree.kind_of_move hmove)
  have hheld := FileTree.holds_write hroot hwrite
  exact FileTree.holds_move hheld hmove

/-! ## The data file and memory -/

/-- **A data file mirrors what has been saved**, as long as its text stays, and it mirrors no data
where there is no file, if the system takes its path and no file stands in the way. -/
theorem mirrors_saved_and_missing (s : Store) :
    (∀ (data : BlogData) (root after : FileTree),
      (s.save data : StateM FileTree _).run root = (.ok (), after) →
      ∀ now : FileTree, now.read s.path = after.read s.path →
        Agrees now (.mk s.load) (pure data) ∧ s.Mirrors now data) ∧
      ∀ root : FileTree, Accepted s.path →
        (s.fileExists : StateM FileTree _).run root = (false, root) →
        root.NoFileAbove s.path → s.Mirrors root .empty := by
  refine ⟨fun data root after hsave now hnow => ?_, fun root hpath hmissing habove => ?_⟩
  · have hread : now.read s.path = .ok (render data) :=
      hnow.trans (FileTree.read_of_holds (holds_of_save hsave))
    exact ⟨agrees_load hread, mirrors_of_loadOrEmpty (agrees_loadOrEmpty hread)⟩
  · rw [run_fileExists] at hmissing
    have hnone : (root.find s.path).toBool = false := congrArg Prod.fst hmissing
    have hread := FileTree.read_missing hpath (FileTree.find_ne_ok hnone) habove
    exact mirrors_of_loadOrEmpty (agrees_loadOrEmpty_missing hread)

theorem run_save_posts (data : BlogData) :
    ((⟨"posts.json"⟩ : Store).save data : StateM FileTree _).run .emptyDirectory =
      (.ok (), .directory [("posts.json", .file (render data).toUTF8)]) := by rfl

theorem mirrors_saved_and_missing_posts :
    let s : Store := ⟨"posts.json"⟩
    let after : FileTree := .directory [("posts.json", .file (render .sample).toUTF8)]
    (s.save .sample : StateM FileTree _).run .emptyDirectory = (.ok (), after) ∧
      (Agrees after (.mk s.load) (pure .sample) ∧ s.Mirrors after .sample) ∧
      Accepted s.path ∧
      (s.fileExists : StateM FileTree _).run .emptyDirectory = (false, .emptyDirectory) ∧
      FileTree.emptyDirectory.NoFileAbove s.path ∧ s.Mirrors .emptyDirectory .empty := by
  intro s after
  have hsave : (s.save .sample : StateM FileTree _).run .emptyDirectory = (.ok (), after) :=
    run_save_posts .sample
  have hpath : Accepted s.path := ⟨by decide, by decide, by decide⟩
  have hnothing : (FileTree.emptyDirectory.find s.path).toBool = false := by decide
  have hmissing : (s.fileExists : StateM FileTree _).run .emptyDirectory =
      (false, .emptyDirectory) := by rw [run_fileExists, hnothing]
  have habove : FileTree.emptyDirectory.NoFileAbove s.path :=
    FileTree.noFileAbove_of_not_mem (by decide)
  obtain ⟨hsaved, hnone⟩ := mirrors_saved_and_missing s
  exact ⟨hsave, hsaved .sample .emptyDirectory after hsave after rfl, hpath, hmissing, habove,
    hnone .emptyDirectory hpath hmissing habove⟩

/-- Where the system refuses a path, there is no file, but the data is not read as none. -/
theorem not_mirrors_long_name :
    let s : Store := ⟨String.ofList (List.replicate 256 'n')⟩
    (s.fileExists : StateM FileTree _).run .emptyDirectory = (false, .emptyDirectory) ∧
      FileTree.emptyDirectory.NoFileAbove s.path ∧
      (s.loadOrEmpty : StateM FileTree _).run .emptyDirectory =
        (.error (.read s.path .nameTooLong), .emptyDirectory) ∧
      ¬ s.Mirrors .emptyDirectory .empty := by
  intro s
  have hchars : ∀ c ∈ s.path.toList, c = 'n' := by
    intro c hc
    rw [String.toList_ofList] at hc
    exact List.eq_of_mem_replicate hc
  have hslash : '/' ∉ s.path.toList := fun h => absurd (hchars '/' h) (by decide)
  have hsize : s.path.utf8ByteSize = 256 := by decide +kernel
  have hpath : FileTree.IsPath s.path :=
    ⟨fun h => absurd (hchars _ h) (by decide), fun h => absurd (h ▸ hsize) (by decide),
      by rw [hsize]; decide⟩
  have hfind : FileTree.emptyDirectory.find s.path = .error .nameTooLong :=
    FileTree.find_nameTooLong hpath hslash (by rw [hsize]; decide)
  have hread : FileTree.emptyDirectory.read s.path = .error .nameTooLong := by
    rw [FileTree.read, hfind]
    rfl
  have hload := run_load s .emptyDirectory
  simp only [hread] at hload
  have hempty : (s.loadOrEmpty : StateM FileTree _).run .emptyDirectory =
      (.error (.read s.path .nameTooLong), .emptyDirectory) := run_bind hload
  refine ⟨by rw [run_fileExists, hfind]; rfl, FileTree.noFileAbove_of_not_mem hslash, hempty,
    fun h => ?_⟩
  have hagrees : (s.loadOrEmpty : StateM FileTree _).run .emptyDirectory =
      (.ok .empty, .emptyDirectory) := h.loadOrEmpty
  exact absurd (congrArg Prod.fst (hempty.symm.trans hagrees)) (by simp)

end Store

end Weblog
