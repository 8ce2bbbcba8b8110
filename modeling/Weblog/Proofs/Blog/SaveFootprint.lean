import Mathlib.Tactic.Common
import Weblog.Proofs.Blog.FailedSave
import Weblog.Proofs.Files.Footprints
/-!
# What saving reaches

Saving makes the directories of the data file, writes the temporary file beside it and renames that.
Nothing else in the tree changes.

* `Store.makesOnly_prepare`: making the directories of the data file makes nothing else.
* `Store.Reaches`, `Store.reaches_of_save`: what has changed after saving.
* `Store.LeftBy`, `Store.leftBy_failed_save`: what is left when saving has failed.
* **`Store.saves_only_its_files`**: saving changes the data file and the temporary file, and other
  stores answer as before.
-/

namespace Weblog

open Files FileTree FaultyTree

namespace Store

variable {s : Store} {data : BlogData} {root after : FileTree}

/-- **Making the directories of the data file makes nothing else**, whatever goes wrong. -/
theorem makesOnly_prepare (s : Store) :
    MakesOnly (directoriesAbove s.path) (s.prepare : StateM FaultyTree _) := by
  refine prepare_related (respects_makesOnly _)
    (fun path => makesOnly_of_looks _ (looks_isDirectory path))
    fun directory hparent path hmem => makesOnly_createDir ?_
  rwa [directoriesAbove, hparent]

theorem changesOnly_prepare {state prepared : FaultyTree} {outcome : Except StoreError Unit}
    (h : (s.prepare : StateM FaultyTree _).run state = (outcome, prepared)) :
    ChangesOnly (directoriesAbove s.path) [] state.tree prepared.tree := by
  have hmade := s.makesOnly_prepare state
  rwa [h] at hmade

/-- What has changed after saving: the data file has its new text, the temporary file is gone, and
there may be new directories above them. -/
structure Reaches (s : Store) (data : BlogData) (root after : FileTree)
    (file temporary : List String) : Prop where
  leadsToFile : after.LeadsTo s.path file
  leadsToTemporary : after.LeadsTo s.temporaryPath temporary
  saved : after.kind? file = some (.file (render data).toUTF8)
  gone : temporary ≠ file → after.kind? temporary = none
  changesOnly : ChangesOnly (directoriesAbove s.path) [file, temporary] root after

theorem reaches_of_save {state after : FaultyTree}
    (h : (s.save data : StateM FaultyTree _).run state = (.ok (), after)) :
    ∃ file temporary, s.Reaches data state.tree after.tree file temporary := by
  rcases save_cases h with ⟨_, -, herror⟩ |
    ⟨prepared, hprepare, ⟨_, -, herror⟩ | ⟨written, moved, hwrite, hrename, hmoved⟩⟩
  · cases herror
  · cases herror
  obtain ⟨-, hwrite⟩ | ⟨⟨_, herror⟩, -⟩ := writeText_cases hwrite
  · obtain ⟨-, hmove⟩ | ⟨⟨_, rfl⟩, -⟩ := rename_cases hrename
    · have hroot := kind_of_write hwrite (kind_of_move hmove)
      obtain ⟨temporary, hleads, htext, hwrites⟩ :=
        changesOnly_write (directoriesAbove s.path) hroot hwrite
      have hthere := hleads.mono hwrites.directories
      obtain ⟨file, hnew, hsaved, hgone, hmoves⟩ :=
        changesOnly_move (directoriesAbove s.path) hthere htext hmove
      exact ⟨file, temporary, hnew.mono hmoves.directories, hthere.mono hmoves.directories, hsaved,
        hgone, (((changesOnly_prepare hprepare).trans hwrites).trans hmoves).widen (by simp)⟩
    · cases hmoved
  · cases herror

theorem Reaches.kind {file temporary : List String} (h : s.Reaches data root after file temporary) :
    root.kind = .directory := by
  obtain ⟨parent, name, -, rfl⟩ := h.leadsToFile
  obtain ⟨tmpParent, tmpName, -, rfl⟩ := h.leadsToTemporary
  rw [← h.changesOnly.kind_eq (by simp)]
  exact kind_eq_directory h.saved

/-- **Saving changes the data file and the temporary file**, and makes the directories above them.
Other data files answer as before, if their paths go by the two files and name no new directory. -/
theorem saves_only_its_files (s : Store) (data : BlogData) (root after : FileTree)
    (hsave : (s.save data : StateM FileTree _).run root = (.ok (), after)) :
    ∃ file temporary, s.Reaches data root after file temporary ∧
      ∀ other : Store, root.Steady other.path →
        (∀ names ∈ after.lookedUp [] (steps other.path), names ≠ file ∧ names ≠ temporary) →
        (after.shows other.path = .ok .directory → root.shows other.path = .ok .directory) →
        other.answers after = other.answers root := by
  have hplain := faultless_save s data root
  rw [hsave] at hplain
  obtain ⟨file, temporary, hreaches⟩ := reaches_of_save hplain
  refine ⟨file, temporary, hreaches, fun other hsteady hlooked hold => answers_congr ?_⟩
  refine hreaches.changesOnly.shows_eq hreaches.kind hsteady (fun names hmem => ?_) hold
  simpa using hlooked names hmem

/-- Some drafts, and perhaps a blog beside them. -/
def draftsDirectory (drafts : ByteArray) (others : List (String × FileTree)) : FileTree :=
  .directory (("drafts.json", .file drafts) :: others)

/-- The directory of a blog. -/
def blogEntry (content : ByteArray) : String × FileTree :=
  ("blog", .directory [("posts.json", .file content)])

theorem run_save_beside_drafts (drafts : ByteArray) (data : BlogData) :
    ((⟨"blog/posts.json"⟩ : Store).save data : StateM FileTree _).run (draftsDirectory drafts []) =
      (.ok (), draftsDirectory drafts [blogEntry (render data).toUTF8]) := by rfl

theorem target_beside_drafts (drafts content : ByteArray) :
    (draftsDirectory drafts [blogEntry content]).target "blog/posts.json" =
        .ok (.entry ["blog"] "posts.json" false) ∧
      (draftsDirectory drafts [blogEntry content]).target
          (⟨"blog/posts.json"⟩ : Store).temporaryPath =
        .ok (.entry ["blog"] "posts.tmp" false) := ⟨by rfl, by rfl⟩

theorem lookedUp_drafts (drafts content : ByteArray) :
    (draftsDirectory drafts [blogEntry content]).lookedUp [] (steps "drafts.json") =
      [["drafts.json"]] := by rfl

theorem shows_drafts (drafts : ByteArray) (others : List (String × FileTree)) :
    (draftsDirectory drafts others).shows "drafts.json" = .ok (.file drafts) := by rfl

theorem saves_only_its_files_drafts :
    let s : Store := ⟨"blog/posts.json"⟩
    let drafts := (render .empty).toUTF8
    let root := draftsDirectory drafts []
    let after := draftsDirectory drafts [blogEntry (render .sample).toUTF8]
    (s.save .sample : StateM FileTree _).run root = (.ok (), after) ∧
      s.Reaches .sample root after ["blog", "posts.json"] ["blog", "posts.tmp"] ∧
      (⟨"drafts.json"⟩ : Store).answers after = (⟨"drafts.json"⟩ : Store).answers root := by
  intro s drafts root after
  have hsave : (s.save .sample : StateM FileTree _).run root = (.ok (), after) :=
    run_save_beside_drafts drafts .sample
  obtain ⟨file, temporary, hreaches, hothers⟩ := saves_only_its_files s .sample root after hsave
  obtain ⟨htarget, htemporary⟩ := target_beside_drafts drafts (render .sample).toUTF8
  obtain rfl := hreaches.leadsToFile.eq_of_target htarget
  obtain rfl := hreaches.leadsToTemporary.eq_of_target htemporary
  have hshows := shows_drafts drafts []
  have hshows' := shows_drafts drafts [blogEntry (render .sample).toUTF8]
  refine ⟨hsave, hreaches, hothers ⟨"drafts.json"⟩ ?_ (fun names hmem => ?_) fun hdir => ?_⟩
  · exact steady_of_shows rfl (by rw [hshows]; rfl)
  · rw [lookedUp_drafts] at hmem
    rw [List.mem_singleton.mp hmem]
    decide
  · rw [hshows'] at hdir
    cases hdir

/-- The temporary file takes the place of another file, and it is gone after saving. -/
theorem not_saves_only_data_file :
    let notes := "notes".toUTF8
    let root : FileTree := .directory [("posts.tmp", .file notes)]
    let after : FileTree := .directory [("posts.json", .file (render .empty).toUTF8)]
    ((⟨"posts.json"⟩ : Store).save .empty : StateM FileTree _).run root = (.ok (), after) ∧
      root.find "posts.tmp" = .ok (["posts.tmp"], .file notes) ∧
      after.find "posts.tmp" = .error .notFound := ⟨by rfl, by rfl, by rfl⟩

/-! ## Failures -/

/-- What is left when saving has failed: perhaps new directories, and the temporary file with some
first bytes of the text, or with all of it if that file did not get the name of the data file. -/
inductive LeftBy (s : Store) (data : BlogData) (root : FileTree) : StoreError → FileTree → Prop
  | directories {after : FileTree} (e : StoreError)
      (changesOnly : ChangesOnly (directoriesAbove s.path) [] root after) :
      LeftBy s data root e after
  | cutOff {after : FileTree} (cause : FileError) (count : Nat) (left : LeavesFile s.path
      s.temporaryPath ((render data).toUTF8.extract 0 count) root after) :
      LeftBy s data root (.write s.temporaryPath cause) after
  | notMoved {after : FileTree} (cause : FileError)
      (left : LeavesFile s.path s.temporaryPath (render data).toUTF8 root after) :
      LeftBy s data root (.write s.path cause) after

/-- **What a failed save leaves**, at whichever step it stops. -/
theorem leftBy_failed_save {state after : FaultyTree} {e : StoreError}
    (h : (s.save data : StateM FaultyTree _).run state = (.error e, after)) :
    s.LeftBy data state.tree e after.tree := by
  rcases save_cases h with ⟨_, hprepare, -⟩ |
    ⟨prepared, hprepare, ⟨cause, hwrite, he⟩ | ⟨written, moved, hwrite, hrename, hmoved⟩⟩
  · exact .directories e (changesOnly_prepare hprepare)
  · cases he
    obtain ⟨hok, -⟩ | ⟨-, hsame | ⟨count, hwrite⟩⟩ := writeText_cases hwrite
    · cases hok
    · exact .directories _ (hsame ▸ changesOnly_prepare hprepare)
    · rcases leavesFile_of_write (changesOnly_prepare hprepare) hwrite with hsame | hleft
      · exact .directories _ (hsame ▸ changesOnly_prepare hprepare)
      · exact .cutOff cause count hleft
  · cases moved with
    | ok => cases hmoved
    | error cause =>
      cases hmoved
      obtain ⟨-, hwrite⟩ | ⟨⟨_, herror⟩, -⟩ := writeText_cases hwrite
      · rw [tree_of_rename_error hrename]
        rcases leavesFile_of_write (changesOnly_prepare hprepare) hwrite with hsame | hleft
        · exact .directories _ (hsame ▸ changesOnly_prepare hprepare)
        · exact .notMoved cause hleft
      · cases herror

end Store

end Weblog
