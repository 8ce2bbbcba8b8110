import Weblog.Proofs.Calendar.UtcDates
import Weblog.Proofs.Listing.Ties
import Weblog.Proofs.Listing.Views
/-!
# Dates in the rows of a listing

A row shows the creation date of a post, and the rows are in the order of the creation instants. So
the dates that are shown go back in time from row to row, although they are made from texts with
all kinds of offsets.

* `IsTimestamp`: the texts that are shown as another date.
* `PostPage.pairwise_newest`: the rows of a page by date are in the order of dates.
* **`shown_dates_follow_instants`**: the date that is shown is that of the instant, and the dates do
  not go forward from row to row.
-/

namespace Weblog.Listing

open Calendar

/-- Whether a text is a timestamp without a leap second. -/
def IsTimestamp (text : String) : Prop :=
  ∃ t, readTimestamp text.toList = some t ∧ t.second < 60

/-- Whether a text is shown as the date of a day. -/
def ShowsDay (text : String) (day : Int) : Prop :=
  ∃ date, IsDay date day ∧ displayDate text = date.text

theorem showsDay_of_isTimestamp {text : String} (h : IsTimestamp text) :
    ∃ instant, readInstant text = some instant ∧ ShowsDay text (instant / 86400000) := by
  obtain ⟨t, ht, hsecond⟩ := h
  obtain ⟨date, instant, hinstant, hday, hshown⟩ := exists_utcDate ht hsecond
  exact ⟨instant, hinstant, date, hday, hshown⟩

/-- **The rows of a page by date are in the order of dates.** -/
theorem PostPage.pairwise_newest {opts : PostOptions} (h : opts.order = .newest)
    (posts : List Post) : (PostPage.of opts posts).posts.Pairwise fun a b =>
      IsNotEarlier a.post.created b.post.created := by
  have hsorted : (opts.sequence posts).Pairwise fun a b => IsNotEarlier a.created b.created := by
    have horder := IsTotalPreorder.of_transCmp PostOrder.newest.compare
    rw [PostOptions.sequence, h]
    exact (List.pairwise_mergeSort horder.trans horder.isLE_or _).imp fun {a b} hle =>
      (PostOrder.newest.isLE_compare a b).mp hle
  have hpage : ((pageOf (opts.sequence posts) opts.page opts.size).1).Sublist
      (opts.sequence posts) :=
    (List.take_sublist _ _).trans (List.drop_sublist _ _)
  exact List.pairwise_map.mpr (hsorted.sublist hpage)

/-- **The date that is shown of a timestamp is that of its instant**, other texts are shown as they
are, and from row to row of a page by date the dates that are shown do not go forward. -/
theorem shown_dates_follow_instants :
    (∀ text, IsTimestamp text →
      ∃ instant, readInstant text = some instant ∧ ShowsDay text (instant / 86400000)) ∧
    (∀ text, readTimestamp text.toList = none → displayDate text = text) ∧
    ∀ (data : BlogData) (opts : PostOptions), opts.order = .newest →
      (data.postPage opts).posts.Pairwise fun above below =>
        IsTimestamp above.post.created → IsTimestamp below.post.created →
          ∃ later earlier, ShowsDay above.post.created later ∧
            ShowsDay below.post.created earlier ∧ earlier ≤ later := by
  refine ⟨fun text h => showsDay_of_isTimestamp h, fun text h => ?_, fun data opts hopts => ?_⟩
  · rw [displayDate, h]
  · refine (PostPage.pairwise_newest hopts data.posts).imp fun {above below} horder hup hdown => ?_
    obtain ⟨i, hi, hshown⟩ := showsDay_of_isTimestamp hup
    obtain ⟨j, hj, hshown'⟩ := showsDay_of_isTimestamp hdown
    obtain ⟨x, hx, hle⟩ := horder j hj
    obtain rfl : x = i := Option.some.inj (hx.symm.trans hi)
    exact ⟨_, _, hshown, hshown', Int.ediv_le_ediv (by decide) hle⟩

/-- Posts from the beginning of 1970 and from the end of a leap day, by the dates in UTC. Where they
were written it was still 1969, and already March. -/
def aroundMidnight : BlogData where
  posts := ["1969-12-31T23:30:00.5-00:30", "2024-03-01T00:15:00+01:00"].map fun created =>
    ⟨created, "", "", "", [], none, "publicado", created, none, 0, []⟩
  comments := []
  categories := []

theorem sort_aroundMidnight :
    PostOrder.newest.sort aroundMidnight.posts = aroundMidnight.posts.reverse := by
  have hcompare : newestFirst "1969-12-31T23:30:00.5-00:30" "2024-03-01T00:15:00+01:00" = .gt := by
    decide +kernel
  simp [aroundMidnight, PostOrder.sort, PostOrder.compare, List.mergeSort,
    List.MergeSort.Internal.splitInTwo, hcompare]

theorem shown_dates_follow_instants_around_midnight :
    (IsTimestamp "1969-12-31T23:59:59.999Z" ∧
      ∃ instant, readInstant "1969-12-31T23:59:59.999Z" = some instant ∧
        ShowsDay "1969-12-31T23:59:59.999Z" (instant / 86400000)) ∧
    (readTimestamp "2024-02-30T00:00:00Z".toList = none ∧
      displayDate "2024-02-30T00:00:00Z" = "2024-02-30T00:00:00Z") ∧
    (aroundMidnight.postPage {}).posts.map (fun l => displayDate l.post.created) =
      ["2024-02-29", "1970-01-01"] ∧
    (aroundMidnight.postPage {}).posts.Pairwise fun above below =>
      IsTimestamp above.post.created → IsTimestamp below.post.created →
        ∃ later earlier, ShowsDay above.post.created later ∧
          ShowsDay below.post.created earlier ∧ earlier ≤ later := by
  obtain ⟨hshown, hother, hrows⟩ := shown_dates_follow_instants
  have htimestamp : IsTimestamp "1969-12-31T23:59:59.999Z" :=
    ⟨⟨⟨1969, 12, 31⟩, 23, 59, 59, 999000000, 0⟩, by decide +kernel, by decide⟩
  have hnone : readTimestamp "2024-02-30T00:00:00Z".toList = none := by decide +kernel
  have hdates : (aroundMidnight.postPage {}).posts.map (fun l => displayDate l.post.created) =
      ["2024-02-29", "1970-01-01"] := by
    change ((pageOf (PostOrder.newest.sort aroundMidnight.posts) 1 defaultSize).1.map
      (ListedPost.of none)).map _ = _
    rw [sort_aroundMidnight]
    decide +kernel
  exact ⟨⟨htimestamp, hshown _ htimestamp⟩, ⟨hnone, hother _ hnone⟩, hdates,
    hrows aroundMidnight {} rfl⟩

end Weblog.Listing
