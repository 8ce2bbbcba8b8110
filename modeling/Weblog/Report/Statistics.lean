import Weblog.Listing.Statistics
import Weblog.Report.Style
/-!
# The dashboard

* `statisticsText`: the figures of a blog in four sections.
-/

namespace Weblog.Report

open Listing Text

def recentLine (p : RecentPost) : String :=
  "  " ++ dateCell p.created ++ " " ++ nameCell 12 p.author ++ " " ++
    padLeft 6 (toString p.views.toNat) ++ " views " ++ padLeft 4 (toString p.comments) ++
    " comments  " ++ p.title

def categoryLine (c : CategoryCount) : String :=
  "  " ++ nameCell 20 c.name ++ " " ++ toString c.posts

/-- The lines of a list, or a line that there are none. -/
def orNone (lines : List String) : List String :=
  if lines.isEmpty then ["  (none)"] else lines

/-- The dashboard as text. -/
def statisticsText (colors : Bool) (s : Statistics) : String :=
  let heading := paint colors .bold
  block (
    [heading "Totals:",
      s!"  Posts: {s.posts}",
      s!"  Comments: {s.comments}",
      s!"  Categories: {s.categories}",
      "",
      heading "Comments:",
      s!"  Approved: {s.states.approved}",
      s!"  Pending: {s.states.pending}",
      s!"  Rejected: {s.states.rejected}",
      "",
      heading "Recent posts:"] ++
    orNone (s.recent.map recentLine) ++
    ["", heading "Categories:"] ++
    orNone (s.perCategory.map categoryLine))

end Weblog.Report
