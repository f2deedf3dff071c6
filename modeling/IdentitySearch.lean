import IdentitySearch.Directory.Memory
import IdentitySearch.Main
import IdentitySearch.Proofs.Condition.Spellings
import IdentitySearch.Proofs.Dialect.Interleavings
import IdentitySearch.Proofs.Directory.Agreement
import IdentitySearch.Proofs.Directory.Schemas
import IdentitySearch.Proofs.Engine.Degraded
import IdentitySearch.Proofs.Engine.Noninterference
import IdentitySearch.Proofs.Engine.Ordering
import IdentitySearch.Proofs.Engine.Pages
import IdentitySearch.Proofs.Engine.Recursion
import IdentitySearch.Proofs.Engine.WellFormed
import IdentitySearch.Proofs.Scope.Unordered
import IdentitySearch.Proofs.Selection.Dates
import IdentitySearch.Proofs.Selection.LetterCase
import IdentitySearch.Proofs.Selection.Memberships
import IdentitySearch.Proofs.Selection.Negations
import IdentitySearch.Proofs.Selection.Validity
import IdentitySearch.Proofs.Sort.Picks
import IdentitySearch.Proofs.Directory.Descendants
import IdentitySearch.Proofs.Report.Csv
import IdentitySearch.Proofs.Report.Numbers
import IdentitySearch.Proofs.CommandLine.Numbers
import IdentitySearch.Proofs.CommandLine.SortClauses
import IdentitySearch.Proofs.Sql.Dialects
import IdentitySearch.Proofs.Selection.Dialects
import IdentitySearch.Proofs.Engine.Dialects
