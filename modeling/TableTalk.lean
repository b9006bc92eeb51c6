import TableTalk.Decimal.Signed
import TableTalk.Main
import TableTalk.Proofs.Calendar.Written
import TableTalk.Proofs.Cleaning.Conversion
import TableTalk.Proofs.Cleaning.Numerals
import TableTalk.Proofs.Cleaning.Passes
import TableTalk.Proofs.Cleaning.Reordering
import TableTalk.Proofs.Cleaning.TidyTexts
import TableTalk.Proofs.Cleaning.WholeNumbers
import TableTalk.Proofs.Comparisons
import TableTalk.Proofs.DefaultTargets
import TableTalk.Proofs.Delimited
import TableTalk.Proofs.Engine.EmptySets
import TableTalk.Proofs.Engine.GroupingPaths
import TableTalk.Proofs.Engine.Leaders
import TableTalk.Proofs.Engine.Limits
import TableTalk.Proofs.Engine.Partitions
import TableTalk.Proofs.Engine.Projection
import TableTalk.Proofs.Engine.StandIns
import TableTalk.Proofs.Engine.Summaries
import TableTalk.Proofs.Hints
import TableTalk.Proofs.Json.Documents
import TableTalk.Proofs.Literals
import TableTalk.Proofs.Matching.BestMatches
import TableTalk.Proofs.Matching.Edits
import TableTalk.Proofs.Matching.FirstTokens
import TableTalk.Proofs.Series.Buckets
import TableTalk.Proofs.Series.Averages
import TableTalk.Proofs.Series.Ranks
import TableTalk.Proofs.Session.Inheritance
import TableTalk.Proofs.Session.Stores
import TableTalk.Proofs.SharedGroups
import TableTalk.Proofs.Statistics.Slices
import TableTalk.Proofs.Trends
import TableTalk.Proofs.Vocabulary
import TableTalk.Proofs.Matching.Phrases
import TableTalk.Proofs.Json.Numbers
import TableTalk.Proofs.Session.Histories
import TableTalk.Proofs.BuiltRows
import TableTalk.Proofs.Rendering
