import FeatLoom.Main
import FeatLoom.Proofs.Artifacts
import FeatLoom.Proofs.CandidateLists
import FeatLoom.Proofs.DeclaredOrder
import FeatLoom.Proofs.Expansion.Budget
import FeatLoom.Proofs.Expansion.Feasibility
import FeatLoom.Proofs.Expansion.Search
import FeatLoom.Proofs.LoadOrder.Least
import FeatLoom.Proofs.LoadOrder.Outcome
import FeatLoom.Proofs.LoadOrder.Precedence
import FeatLoom.Proofs.Lookup
import FeatLoom.Proofs.Lookup.Inheritance
import FeatLoom.Proofs.Merge
import FeatLoom.Proofs.Merge.Laws
import FeatLoom.Proofs.Merge.Patches
import FeatLoom.Proofs.Merge.Repetition
import FeatLoom.Proofs.Merge.Trimming
import FeatLoom.Proofs.OrderedMap.Gather
import FeatLoom.Proofs.Package.Change
import FeatLoom.Proofs.Package.Isolation
import FeatLoom.Proofs.Package.Skipped
import FeatLoom.Proofs.Package.Trace
import FeatLoom.Proofs.Resource.Conversion
import FeatLoom.Proofs.Selector.Chain
import FeatLoom.Proofs.Selector.Reading
import FeatLoom.Proofs.StatEntry.Locality
import FeatLoom.Proofs.StatEntry.RoundTrip
import FeatLoom.Proofs.Version
import FeatLoom.Proofs.Visibility
import FeatLoom.Proofs.Weaving.Accounting
import FeatLoom.Proofs.Weaving.Agreement
import FeatLoom.Proofs.Weaving.Anchored
import FeatLoom.Proofs.Weaving.BaseTiers
import FeatLoom.Proofs.Weaving.Conditions
import FeatLoom.Proofs.Weaving.DistinctNames
import FeatLoom.Proofs.Weaving.Growth
import FeatLoom.Proofs.Weaving.Limit
import FeatLoom.Proofs.Weaving.Links
import FeatLoom.Proofs.Weaving.Overriding
import FeatLoom.Proofs.Weaving.PickTree
import FeatLoom.Proofs.Weaving.Pruning
import FeatLoom.Proofs.Weaving.Refinement
import FeatLoom.Proofs.Weaving.Site
import FeatLoom.Proofs.Weaving.Spot
import FeatLoom.Proofs.Weaving.Suppliers
import FeatLoom.Proofs.Weaving.Walk
import FeatLoom.Proofs.Xml.Plain
