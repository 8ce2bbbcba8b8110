import Weblog.Files.Tree
import Weblog.Main
import Weblog.Proofs.Blog.Codecs
import Weblog.Proofs.Blog.FailedSave
import Weblog.Proofs.Blog.Fields
import Weblog.Proofs.Blog.Interleaved
import Weblog.Proofs.Blog.Schema
import Weblog.Proofs.Calendar.Moments
import Weblog.Proofs.Config.Limits
import Weblog.Proofs.Listing.Conditions
import Weblog.Proofs.Listing.ShownDates
import Weblog.Proofs.Listing.Verbatim
import Weblog.Proofs.Program.FailedRun
import Weblog.Proofs.Program.Filters
import Weblog.Proofs.Program.Sequences
import Weblog.Proofs.Report.Colors
import Weblog.Proofs.Report.TableLines
import Weblog.Proofs.Number.Reading
import Weblog.Proofs.Query.Conjunction
import Weblog.Proofs.Query.Domains
import Weblog.Proofs.Query.Spans
import Weblog.Proofs.Query.ViewCounts
