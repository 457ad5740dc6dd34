import Concordance.Collection
import Concordance.Builder
import Concordance.Index.Lines
import Concordance.Registry.Lines
import Concordance.Text.Utf8
import Concordance.Json.Forms
import Concordance.Store
import Concordance.Pages
import Concordance.Settings.Expand
import Concordance.Main
import Concordance.Query.Canonical
import Concordance.Query.Grammar
import Concordance.Proofs.Text.Lower
import Concordance.Proofs.Builder.Additions
import Concordance.Proofs.Index.RoundTrip
import Concordance.Proofs.Query.Lossless
import Concordance.Proofs.Query.Derivations
import Concordance.Proofs.Query.Evaluation
import Concordance.Proofs.Collection.Search
import Concordance.Proofs.Query.Canonical
import Concordance.Proofs.Query.Cap
import Concordance.Proofs.Text.Letters
import Concordance.Proofs.Query.Lexing
import Concordance.Proofs.Query.Printing
import Concordance.Proofs.Query.Composition
import Concordance.Proofs.Collection.Algebra
import Concordance.Proofs.Collection.Independence
import Concordance.Proofs.File.Saving
import Concordance.Proofs.Query.Reordering
import Concordance.Proofs.File.Location
import Concordance.Proofs.Settings.Locality
import Concordance.Proofs.Builder.Rearrangement
import Concordance.Proofs.Text.Numbers
import Concordance.Proofs.Index.Reading
import Concordance.Proofs.Index.CanonicalText
import Concordance.Proofs.Command.Building
import Concordance.Proofs.Registry.Malformed
import Concordance.Proofs.Pages.Directory
import Concordance.Proofs.Builder.Holdings
import Concordance.Proofs.Query.LexicalRule
import Concordance.Proofs.Query.Respelling
import Concordance.Proofs.File.Linkless
import Concordance.Proofs.File.Resaving
import Concordance.Proofs.Pages.Frame
import Concordance.Proofs.Command.Rebuilding
import Concordance.Proofs.Collection.TypedWords
import Concordance.Proofs.Collection.Complement
import Concordance.Proofs.Query.Footprint
import Concordance.Proofs.Settings.Loading
import Concordance.Proofs.Query.Scanning
import Concordance.Proofs.Command.Reporting
import Concordance.Proofs.Command.Querying
