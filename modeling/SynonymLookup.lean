import SynonymLookup.Argument
import SynonymLookup.Condition.Json
import SynonymLookup.Http.Lookups
import SynonymLookup.ListField
import SynonymLookup.Proofs.Argument
import SynonymLookup.Proofs.Autocomplete.Hiding
import SynonymLookup.Proofs.Autocomplete.Size
import SynonymLookup.Proofs.Configuration.Addressing
import SynonymLookup.Proofs.Configuration.Runs
import SynonymLookup.Proofs.Http.Search
import SynonymLookup.Proofs.Lookup.ByName
import SynonymLookup.Proofs.Query.Guarded
import SynonymLookup.Proofs.Query.Limit
import SynonymLookup.Proofs.Query.Reference
import SynonymLookup.Proofs.SearchIndex.Counting
import SynonymLookup.Proofs.SearchIndex.Dependence
import SynonymLookup.Proofs.SearchIndex.Fragment
import SynonymLookup.Proofs.SearchIndex.Marking
import SynonymLookup.Proofs.Select.Selected
import SynonymLookup.SearchIndex
import SynonymLookup.Select
import SynonymLookup.Startup.Launch
import SynonymLookup.Startup.Sources
import SynonymLookup.Proofs.Lookup.Isolation
import SynonymLookup.Proofs.Lookup.Coverage
import SynonymLookup.Proofs.Lookup.Union
import SynonymLookup.Proofs.Behavior.Resubmission
import SynonymLookup.Proofs.Provider.Definitions
import SynonymLookup.Proofs.Schema.Edits
import SynonymLookup.Proofs.Autocomplete.Registered
import SynonymLookup.Proofs.Http.Autocomplete
import SynonymLookup.Proofs.Startup.Serving
import SynonymLookup.Proofs.Startup.Layering
import SynonymLookup.Proofs.Condition.Json
import SynonymLookup.Proofs.Condition.Resolution
import SynonymLookup.Proofs.Like.Typed
import SynonymLookup.Proofs.Lookup.Filtered
import SynonymLookup.Proofs.Wording.Fallback
import SynonymLookup.Proofs.Configuration.Naming
import SynonymLookup.Proofs.Evaluation.Ordering
import SynonymLookup.Proofs.ListField
import SynonymLookup.Proofs.Query.Alternatives
import SynonymLookup.Proofs.Startup.Seeding
import SynonymLookup.Proofs.Settings.Staleness
import SynonymLookup.Proofs.Behavior.Agreement
