import TaskSearch.CommandLine.FileTree
import TaskSearch.Main
import TaskSearch.Proofs.Result
import TaskSearch.Proofs.Query.Grammar
import TaskSearch.Proofs.Query.Segments
import TaskSearch.Proofs.Conversion.Edit
import TaskSearch.Proofs.Conversion.Isolation
import TaskSearch.Proofs.Query.Span
import TaskSearch.Proofs.Query.Tiling
import TaskSearch.Proofs.Query.Calls
import TaskSearch.Proofs.Query.Quoting
import TaskSearch.Proofs.Query.Unreadable
import TaskSearch.Proofs.Query.Streaming
import TaskSearch.Proofs.Query.Concatenation
import TaskSearch.Proofs.Query.Respacing
import TaskSearch.Proofs.Query.Juxtaposition
import TaskSearch.Proofs.Query.Localization
import TaskSearch.Proofs.Calendar.LocalDay
import TaskSearch.Proofs.Calendar.DayBoundaries
import TaskSearch.Proofs.Calendar.Months
import TaskSearch.Proofs.Date.Spelling
import TaskSearch.Proofs.Date.NamedDay
import TaskSearch.Proofs.Date.Bounds
import TaskSearch.Proofs.Date.Comparison
import TaskSearch.Proofs.Date.Offset
import TaskSearch.Proofs.Date.OutOfRange
import TaskSearch.Proofs.Date.FixedZone
import TaskSearch.Proofs.Date.DayOffset
import TaskSearch.Proofs.Query.Spelling
import TaskSearch.Proofs.Query.Rendering
import TaskSearch.Proofs.Date.Narrowing
import TaskSearch.Proofs.Date.Request
import TaskSearch.Proofs.Conversion.Fields
import TaskSearch.Proofs.Conversion.DateClauses
import TaskSearch.Proofs.Conversion.DateRanges
import TaskSearch.Proofs.Conversion.Meaning
import TaskSearch.Proofs.Fuzzy.Ranking
import TaskSearch.Proofs.Project.Search
import TaskSearch.Proofs.Conversion.ProjectClauses
import TaskSearch.Proofs.Query.Routing
import TaskSearch.Proofs.Query.Values
import TaskSearch.Proofs.Text.Words
import TaskSearch.Proofs.Conversion.PlainText
import TaskSearch.Proofs.Mention.Splitting
import TaskSearch.Proofs.Conversion.FrontEnds
import TaskSearch.Proofs.Toml.Lines
import TaskSearch.Proofs.Configuration.RoundTrip
import TaskSearch.Proofs.Configuration.Replacement
import TaskSearch.Proofs.CommandLine.ConfigurationFile
import TaskSearch.Proofs.CommandLine.Commands
import TaskSearch.Proofs.CommandLine.PlainPath
import TaskSearch.Proofs.CommandLine.MemoryFile
import TaskSearch.Proofs.CommandLine.Runs
import TaskSearch.Proofs.Mention.Cutting
import TaskSearch.Proofs.Text.EditDistance
import TaskSearch.Proofs.Conversion.Suggestions
import TaskSearch.Proofs.Date.Formats
import TaskSearch.Proofs.Date.WrittenDates
import TaskSearch.Proofs.Query.Spacing
import TaskSearch.Proofs.Fuzzy.Embedding
import TaskSearch.Proofs.Fuzzy.Scoring
import TaskSearch.Proofs.Fuzzy.LongerTexts
