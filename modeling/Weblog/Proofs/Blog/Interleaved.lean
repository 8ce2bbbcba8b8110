import Mathlib.Tactic.Common
import Weblog.Proofs.Blog.FailedSave
import Weblog.Proofs.Listing.Views
/-!
# A data file that others replace

A listing over a data file reads the file for every question that it asks. Other processes can save
data in between, so the answers can come from different data.

* `SharedTree`: a tree at which others work as well; each operation waits for what they do first.
* `Store.saves`, `Store.Saved`: others save data one after the other.
* `Store.heldAt`: the data in the file at a certain reading.
* `Store.Sees`: what a process sees of the data file; **`Store.run_snapshot`**: one more reading.
* **`Store.mixed_of_saves`**: a listing over the file is the listing over the collections that were
  in the file when they were read.
-/

namespace Weblog

open Files Listing

/-- A tree at which others work as well, and what they do before the next operations, one entry for
each of them. -/
structure SharedTree where
  tree : FileTree
  meanwhile : List (StateM FileTree Unit)

namespace SharedTree

/-- Lets the others work, and does an operation. -/
def turn {α : Type} (operation : StateM FileTree α) : StateM SharedTree α := fun state =>
  let waited := ((state.meanwhile.head?.getD (pure ())).run state.tree).2
  let outcome := operation.run waited
  (outcome.1, ⟨outcome.2, state.meanwhile.tail⟩)

instance : FileSystem (StateM SharedTree) where
  pathExists path := turn (FileSystem.pathExists path)
  isDirectory path := turn (FileSystem.isDirectory path)
  readText path := turn (FileSystem.readText path)
  writeText path text := turn (FileSystem.writeText path text)
  createDir path := turn (FileSystem.createDir path)
  rename path new := turn (FileSystem.rename path new)

end SharedTree

namespace Store

variable {s : Store} {d data : BlogData} {root after : FileTree}

/-! ## Saves of others -/

/-- Saves data one after the other. -/
def saves (s : Store) (all : List BlogData) : StateM FileTree Unit :=
  all.forM fun data => do let _ ← s.save data

/-- Whether data can be saved one after the other. -/
inductive Saved (s : Store) : FileTree → List BlogData → FileTree → Prop
  | nil (root : FileTree) : Saved s root [] root
  | cons {root between after : FileTree} {data : BlogData} {all : List BlogData}
      (first : (s.save data : StateM FileTree _).run root = (.ok (), between))
      (rest : Saved s between all after) : Saved s root (data :: all) after

/-- The data in the file at a certain reading, if others save some data before each of them. -/
def heldAt : BlogData → List (List BlogData) → Nat → BlogData
  | d, _, 0 => d
  | d, others, n + 1 => heldAt ((others.head?.getD []).getLast?.getD d) others.tail n

theorem run_saves {all : List BlogData} (h : s.Saved root all after) :
    (s.saves all).run root = ((), after) := by
  induction h with
  | nil => rfl
  | @cons root between after data all first rest ih =>
    change (s.saves all).run ((s.save data : StateM FileTree _).run root).2 = ((), after)
    rw [first]
    exact ih

theorem Saved.of_append {all more : List BlogData} (h : s.Saved root (all ++ more) after) :
    ∃ between, s.Saved root all between ∧ s.Saved between more after := by
  induction all generalizing root with
  | nil => exact ⟨root, .nil root, h⟩
  | cons data all ih =>
    cases h with
    | cons first rest =>
      obtain ⟨between, hall, hmore⟩ := ih rest
      exact ⟨between, .cons first hall, hmore⟩

theorem Saved.agrees {all : List BlogData} (h : s.Saved root all after)
    (hheld : Agrees root (.mk s.loadOrEmpty) (pure d)) :
    Agrees after (.mk s.loadOrEmpty) (pure (all.getLast?.getD d)) := by
  induction h generalizing d with
  | nil => exact hheld
  | cons first rest ih =>
    have hsaved := agrees_loadOrEmpty (FileTree.read_of_holds (holds_of_save first))
    rw [List.getLast?_cons]
    exact ih hsaved

/-! ## Readings -/

/-- Whether a process sees some data in the file, and others are going to save more. -/
structure Sees (s : Store) (state : SharedTree) (d : BlogData) (others : List (List BlogData)) :
    Prop where
  held : Agrees state.tree (.mk s.loadOrEmpty) (pure d)
  meanwhile : state.meanwhile = others.map s.saves
  saved : ∃ last, s.Saved state.tree others.flatten last

theorem run_loadOrEmpty_shared (s : Store) (state : SharedTree) :
    (s.loadOrEmpty : StateM SharedTree _).run state =
      (SharedTree.turn (s.loadOrEmpty : StateM FileTree _)).run state := by
  let waited := ((state.meanwhile.head?.getD (pure ())).run state.tree).2
  change _ = (((s.loadOrEmpty : StateM FileTree _).run waited).1,
    (⟨((s.loadOrEmpty : StateM FileTree _).run waited).2, state.meanwhile.tail⟩ : SharedTree))
  have hread : (FileSystem.readText s.path : StateM SharedTree _).run state =
      (waited.read s.path, ⟨waited, state.meanwhile.tail⟩) := rfl
  have hload : (s.load : StateM SharedTree _).run state =
      (((s.load : StateM FileTree _).run waited).1, ⟨waited, state.meanwhile.tail⟩) := by
    rw [load, StateT.run_bind, hread, run_load]
    cases waited.read s.path <;> rfl
  rw [loadOrEmpty, StateT.run_bind, hload, run_loadOrEmpty]
  cases ((s.load : StateM FileTree _).run waited).1 with
  | ok data => rfl
  | error e => cases e with
    | read path e => cases e <;> rfl
    | _ => rfl

/-- **One more reading** finds what others have saved in the meantime. -/
theorem run_snapshot {state : SharedTree} {others : List (List BlogData)}
    (h : s.Sees state d others) :
    ∃ next, (ExceptT.mk s.loadOrEmpty : ExceptT StoreError (StateM SharedTree) _).run.run state =
        (.ok (heldAt d others 1), next) ∧ s.Sees next (heldAt d others 1) others.tail := by
  obtain ⟨hheld, hmeanwhile, last, hsaved⟩ := h
  obtain ⟨waited, hwaited, hlast, hnext⟩ : ∃ waited,
      ((state.meanwhile.head?.getD (pure ())).run state.tree).2 = waited ∧
        (∃ last, s.Saved waited others.tail.flatten last) ∧
        Agrees waited (.mk s.loadOrEmpty) (pure (heldAt d others 1)) := by
    rw [hmeanwhile]
    cases others with
    | nil => exact ⟨state.tree, rfl, ⟨last, hsaved⟩, hheld⟩
    | cons all others =>
      obtain ⟨waited, hall, hrest⟩ := hsaved.of_append
      exact ⟨waited, congrArg Prod.snd (run_saves hall), ⟨last, hrest⟩, hall.agrees hheld⟩
  -- what the others have left is read, and they keep what they are going to do later
  refine ⟨⟨waited, others.tail.map s.saves⟩, ?_, hnext, rfl, hlast⟩
  change (s.loadOrEmpty : StateM SharedTree _).run state = _
  have hread : (s.loadOrEmpty : StateM FileTree _).run waited = (.ok (heldAt d others 1), waited) :=
    hnext
  rw [run_loadOrEmpty_shared]
  change (((s.loadOrEmpty : StateM FileTree _).run _).1,
    (⟨((s.loadOrEmpty : StateM FileTree _).run _).2, state.meanwhile.tail⟩ : SharedTree)) = _
  rw [hwaited, hread, hmeanwhile, List.map_tail]

/-! ## Listings -/

/-- A computation that reads and writes while others work. -/
abbrev Shared := ExceptT StoreError (StateM SharedTree)

/-- How a question about the data file ends. -/
def outcome {α : Type} (s : Store) (state : SharedTree) (question : Repository Shared → Shared α) :
    Except StoreError α :=
  ((question s.repository).run.run state).1

section Listings

variable {state : SharedTree} {others : List (List BlogData)}

/-- **Every answer comes from one reading.** -/
theorem run_answer {α : Type} (question : Shared α) (answer : BlogData → α)
    (h : s.Sees state d others)
    (hquestion : question = (ExceptT.mk s.loadOrEmpty >>= fun data => pure (answer data))) :
    ∃ after, question.run.run state = (.ok (answer (heldAt d others 1)), after) ∧
      s.Sees after (heldAt d others 1) others.tail := by
  obtain ⟨after, hrun, hsees⟩ := run_snapshot h
  rw [hquestion]
  exact ⟨after, run_bind_ok hrun, hsees⟩

theorem outcome_listPosts (h : s.Sees state d others) (opts : PostOptions) :
    s.outcome state (listPosts · opts) = .ok ((heldAt d others 1).postPage opts) := by
  obtain ⟨after, hposts, -⟩ := run_answer s.repository.posts BlogData.posts h rfl
  exact congrArg Prod.fst (run_bind_ok hposts)

theorem categoryOf_ofData (data : BlogData) (p : Post) :
    (categoryOf (.ofData data) p : Id PostCategory).run =
      match p.categoryId with
      | none => .none
      | some id => match data.category? id with
        | none => .unknown id
        | some c => .known c := by
  unfold categoryOf
  cases p.categoryId with
  | none => rfl
  | some id =>
    change Id.run (match data.category? id with
      | none => pure (PostCategory.unknown id)
      | some c => pure (PostCategory.known c)) = _
    dsimp only
    cases data.category? id <;> rfl

theorem outcome_categoryOf (h : s.Sees state d others) (p : Post) :
    s.outcome state (categoryOf · p) =
      .ok (categoryOf (.ofData (heldAt d others 1)) p : Id PostCategory).run := by
  rw [categoryOf_ofData]
  unfold outcome categoryOf
  cases p.categoryId with
  | none => rfl
  | some id =>
    obtain ⟨after, hcategory, -⟩ :=
      run_answer (s.repository.category? id) (·.category? id) h rfl
    dsimp only
    rw [run_bind_ok hcategory]
    cases (heldAt d others 1).category? id <;> rfl

theorem outcome_getPost (h : s.Sees state d others) (id : String) (viewer : Option String) :
    s.outcome state (getPost · id viewer) =
      .ok (BlogData.detail? { heldAt d others 1 with categories := (heldAt d others 2).categories }
        id viewer) := by
  obtain ⟨first, hposts, h⟩ := run_answer s.repository.posts BlogData.posts h rfl
  rw [detail?_eq]
  unfold outcome getPost
  rw [run_bind_ok hposts]
  cases (heldAt d others 1).posts.find? (·.id == id) with
  | none => rfl
  | some p =>
    have hcategory := outcome_categoryOf h p
    rcases hrun : (categoryOf s.repository p : Shared PostCategory).run.run first with
      ⟨result, after⟩
    unfold outcome at hcategory
    rw [hrun] at hcategory
    subst hcategory
    dsimp only
    rw [run_bind_ok hrun]
    rfl

theorem outcome_listComments (h : s.Sees state d others) (postId : String)
    (opts : CommentOptions) :
    s.outcome state (listComments · postId opts) =
      .ok (BlogData.commentPage? { heldAt d others 1 with comments := (heldAt d others 2).comments }
        postId opts) := by
  obtain ⟨first, hposts, h⟩ := run_answer s.repository.posts BlogData.posts h rfl
  obtain ⟨second, hcomments, -⟩ :=
    run_answer (s.repository.commentsFor postId) (·.commentsFor postId) h rfl
  unfold BlogData.commentPage?
  rw [run_listComments]
  unfold outcome listComments
  rw [run_bind_ok hposts]
  split_ifs
  · rw [run_bind_ok hcomments]
    rfl
  · rfl

theorem outcome_statistics (h : s.Sees state d others) :
    s.outcome state statistics = .ok (BlogData.figures ⟨(heldAt d others 1).posts,
      (heldAt d others 2).comments, (heldAt d others 3).categories⟩) := by
  obtain ⟨first, hposts, h⟩ := run_answer s.repository.posts BlogData.posts h rfl
  obtain ⟨second, hcomments, h⟩ := run_answer s.repository.comments BlogData.comments h rfl
  obtain ⟨third, hcategories, -⟩ := run_answer s.repository.categories BlogData.categories h rfl
  unfold outcome statistics
  rw [run_bind_ok hposts, run_bind_ok hcomments, run_bind_ok hcategories]
  rfl

end Listings

/-! ## One reading or several -/

/-- How the listings over a data file end, if these data are in it at the first three readings. A
collection comes from the reading that it is asked for at. Some listings are those over the data of
one reading. -/
structure Mixed (s : Store) (state : SharedTree) (first second third : BlogData) : Prop where
  posts : ∀ opts, s.outcome state (listPosts · opts) = .ok (first.postPage opts)
  post : ∀ id viewer, s.outcome state (getPost · id viewer) =
    .ok (BlogData.detail? { first with categories := second.categories } id viewer)
  comments : ∀ postId opts, s.outcome state (listComments · postId opts) =
    .ok (BlogData.commentPage? { first with comments := second.comments } postId opts)
  figures : s.outcome state statistics =
    .ok (BlogData.figures ⟨first.posts, second.comments, third.categories⟩)
  /-- Unless the category of the post has changed. -/
  postOfFirst : ∀ id viewer, (∀ p, first.posts.find? (·.id == id) = some p →
    ∀ c, p.categoryId = some c → second.category? c = first.category? c) →
      s.outcome state (getPost · id viewer) = .ok (first.detail? id viewer)
  /-- Where there is no such post. -/
  commentsOfFirst : ∀ postId opts, first.posts.any (·.id == postId) = false →
    s.outcome state (listComments · postId opts) = .ok (first.commentPage? postId opts)
  /-- Where the post is still there. -/
  commentsOfSecond : ∀ postId opts, first.posts.any (·.id == postId) = true →
    second.posts.any (·.id == postId) = true →
      s.outcome state (listComments · postId opts) = .ok (second.commentPage? postId opts)
  /-- Unless the comments or the categories have changed. -/
  figuresOfFirst : second.comments = first.comments → third.categories = first.categories →
    s.outcome state statistics = .ok first.figures

theorem detail?_congr {first second : BlogData} {id : String} {viewer : Option String}
    (h : ∀ p, first.posts.find? (·.id == id) = some p →
      ∀ c, p.categoryId = some c → second.category? c = first.category? c) :
    BlogData.detail? { first with categories := second.categories } id viewer =
      first.detail? id viewer := by
  rw [detail?_eq, detail?_eq]
  cases hfind : first.posts.find? (·.id == id) with
  | none => rfl
  | some p =>
    simp only [Option.map_some, categoryOf_ofData]
    cases hcategory : p.categoryId with
    | none => rfl
    | some c =>
      have hsame : BlogData.category? { first with categories := second.categories } c =
        first.category? c := h p hfind c hcategory
      simp only [hsame]

/-- **A listing over a data file** is the listing over the collections that were in the file when
they were read. -/
theorem mixed_of_saves (s : Store) (root : FileTree) (d : BlogData) (others : List (List BlogData))
    (hheld : Agrees root (.mk s.loadOrEmpty) (pure d))
    (hsaved : ∃ last, s.Saved root others.flatten last) :
    s.Mixed ⟨root, others.map s.saves⟩ (heldAt d others 1) (heldAt d others 2)
      (heldAt d others 3) := by
  have hsees : s.Sees ⟨root, others.map s.saves⟩ d others := ⟨hheld, rfl, hsaved⟩
  refine ⟨outcome_listPosts hsees, outcome_getPost hsees, outcome_listComments hsees,
    outcome_statistics hsees, fun id viewer hsame => ?_, fun postId opts hnone => ?_,
    fun postId opts hfirst hsecond => ?_, fun hcomments hcategories => ?_⟩
  · rw [outcome_getPost hsees, detail?_congr hsame]
  · rw [outcome_listComments hsees]
    unfold BlogData.commentPage?
    rw [run_listComments, run_listComments, hnone]
    rfl
  · rw [outcome_listComments hsees]
    unfold BlogData.commentPage?
    rw [run_listComments, run_listComments, hfirst, hsecond]
    rfl
  · rw [outcome_statistics hsees, hcomments, hcategories]

/-! ## A blog that is emptied in between -/

/-- A blog with a comment on its post, and with the category of the post. -/
def filedSample : BlogData :=
  { BlogData.sample with posts := [{ BlogData.samplePost with categoryId := some "cat-1" }] }

/-- A directory with a data file. -/
def dataDirectory (data : BlogData) : FileTree :=
  .directory [("posts.json", .file (render data).toUTF8)]

theorem run_save_again (old data : BlogData) :
    ((⟨"posts.json"⟩ : Store).save data : StateM FileTree _).run (dataDirectory old) =
      (.ok (), dataDirectory data) := by rfl

theorem sees_emptied (data : BlogData) : Sees ⟨"posts.json"⟩
    ⟨dataDirectory data, [[], [.empty], []].map (saves ⟨"posts.json"⟩)⟩ data
      [[], [.empty], []] :=
  ⟨agrees_loadOrEmpty (FileTree.read_of_holds (holds_of_save (run_save_again data data))), rfl,
    _, .cons (run_save_again data .empty) (.nil _)⟩

theorem mixed_of_saves_emptied :
    let s : Store := ⟨"posts.json"⟩
    let others : List (List BlogData) := [[], [.empty], []]
    Agrees (dataDirectory filedSample) (.mk s.loadOrEmpty) (pure filedSample) ∧
      (∃ last, s.Saved (dataDirectory filedSample) others.flatten last) ∧
      s.Mixed ⟨dataDirectory filedSample, others.map s.saves⟩ filedSample .empty .empty := by
  intro s others
  have hsees := sees_emptied filedSample
  exact ⟨hsees.held, hsees.saved,
    mixed_of_saves s (dataDirectory filedSample) filedSample others hsees.held hsees.saved⟩

/-- A listing over a data file that is emptied after the first reading is a listing neither over the
old data nor over the new. -/
theorem not_of_one_reading :
    let s : Store := ⟨"posts.json"⟩
    let others : List (List BlogData) := [[], [.empty], []]
    let state : SharedTree := ⟨dataDirectory filedSample, others.map s.saves⟩
    s.Sees state filedSample others ∧ ∀ d ∈ [filedSample, .empty],
      s.outcome state statistics ≠ .ok d.figures ∧
      s.outcome state (getPost · "post-1" none) ≠ .ok (d.detail? "post-1" none) ∧
      s.outcome state (listComments · "post-1" {}) ≠ .ok (d.commentPage? "post-1" {}) := by
  intro s others state
  have hsees : s.Sees state filedSample others := sees_emptied filedSample
  refine ⟨hsees, fun d hd => ?_⟩
  rw [outcome_statistics hsees, outcome_getPost hsees, outcome_listComments hsees]
  simp only [ne_eq, Except.ok.injEq]
  rcases List.mem_pair.mp hd with rfl | rfl
  · decide +kernel
  · decide +kernel

end Store

end Weblog
