import Concordance.Query.Evaluate
import Concordance.Query.Parse

/-!
# Searching a collection

A collection is an index, a registry and the universe that negations count. A query finds documents
by its expression alone; tokens left over have no influence.

Model of `SearchEngine`: `new`, `with_universe` (the universe is a field), `search`, `search_hits`.

Out of scope: log lines, and searches at the same time, which share what none of them changes.
-/

namespace Concordance

/-- An index with its registry and universe (`SearchEngine`). -/
structure Collection where
  index : Index
  registry : Registry
  known : Universe
  deriving DecidableEq

namespace Collection

/-- The collection of an index and a registry, with the universe that they give
(`SearchEngine.new`). -/
def of (x : Index) (r : Registry) : Collection := ⟨x, r, .derive r x⟩

/-- The documents that a query finds. -/
def search (c : Collection) (q : Text) : Postings :=
  Query.evaluate c.index c.known (Query.parseQuery q).expr

/-- The documents that a query finds, with their addresses (`search_hits`). -/
def hits (c : Collection) (q : Text) : List Hit := c.registry.annotate (c.search q)

end Collection

end Concordance
