import CatalogSearch.Keyed.Lookup
import CatalogSearch.Main
import CatalogSearch.Rehearsal
import CatalogSearch.Proofs.Cluster.BulkAnswers
import CatalogSearch.Proofs.Cluster.BulkBody
import CatalogSearch.Proofs.Cluster.DocumentPath
import CatalogSearch.Proofs.Cluster.Scan
import CatalogSearch.Proofs.Cluster.SearchBody
import CatalogSearch.Proofs.Command.Retrying
import CatalogSearch.Proofs.Config.Accepted
import CatalogSearch.Proofs.Config.HostUrl
import CatalogSearch.Proofs.Config.Overriding
import CatalogSearch.Proofs.Document.Decoded
import CatalogSearch.Proofs.Drift.Between
import CatalogSearch.Proofs.Drift.Difference
import CatalogSearch.Proofs.Drift.Listing
import CatalogSearch.Proofs.Index.Accepting
import CatalogSearch.Proofs.Index.Delayed
import CatalogSearch.Proofs.Index.Keywords
import CatalogSearch.Proofs.Index.Operations
import CatalogSearch.Proofs.Index.Outcomes
import CatalogSearch.Proofs.Index.Ranking
import CatalogSearch.Proofs.Index.Resubmission
import CatalogSearch.Proofs.Index.Schema
import CatalogSearch.Proofs.Index.Settled
import CatalogSearch.Proofs.Index.Sound
import CatalogSearch.Proofs.Index.Upsert
import CatalogSearch.Proofs.Index.Writing
import CatalogSearch.Proofs.Job.Confined
import CatalogSearch.Proofs.Job.Ends
import CatalogSearch.Proofs.Job.Interleaving
import CatalogSearch.Proofs.Job.Quiet
import CatalogSearch.Proofs.Job.Recorded
import CatalogSearch.Proofs.Job.Scene
import CatalogSearch.Proofs.Job.Sharing
import CatalogSearch.Proofs.Json.InOrder
import CatalogSearch.Proofs.Json.Numbers
import CatalogSearch.Proofs.Json.Reread
import CatalogSearch.Proofs.Json.Strings
import CatalogSearch.Proofs.Query.Clauses
import CatalogSearch.Proofs.Query.Fused
import CatalogSearch.Proofs.Query.Matching
import CatalogSearch.Proofs.Query.Operators
import CatalogSearch.Proofs.Query.Unquoted
import CatalogSearch.Proofs.Query.Words
import CatalogSearch.Proofs.Rehearsal.Connected
import CatalogSearch.Proofs.Rehearsal.Disturbed
import CatalogSearch.Proofs.Rehearsal.Struck
import CatalogSearch.Proofs.Repair.Accounted
import CatalogSearch.Proofs.Repair.Batches
import CatalogSearch.Proofs.Repair.Keeping
import CatalogSearch.Proofs.Repair.Residue
import CatalogSearch.Proofs.Repair.Restart
import CatalogSearch.Proofs.Repair.Sizes
import CatalogSearch.Proofs.Repair.Stale
import CatalogSearch.Proofs.Retry.Attempts
import CatalogSearch.Proofs.Retry.Classifying
import CatalogSearch.Proofs.Retry.Counted
import CatalogSearch.Proofs.Seed.Again
import CatalogSearch.Proofs.Seed.Lines
import CatalogSearch.Proofs.Seed.Run
import CatalogSearch.Proofs.Seed.Storing
import CatalogSearch.Proofs.Store.Agreement
import CatalogSearch.Proofs.Store.Answers
import CatalogSearch.Proofs.Store.Pages
import CatalogSearch.Proofs.Store.PastEnd
import CatalogSearch.Proofs.Store.Upserts
import CatalogSearch.Proofs.Sync.Aborted
import CatalogSearch.Proofs.Sync.Board
import CatalogSearch.Proofs.Sync.Concurrent
import CatalogSearch.Proofs.Sync.Convergence
import CatalogSearch.Proofs.Sync.Findable
import CatalogSearch.Proofs.Sync.FullSync
import CatalogSearch.Proofs.Sync.Opening
import CatalogSearch.Proofs.Sync.Order
import CatalogSearch.Proofs.Sync.Pages
import CatalogSearch.Proofs.Sync.Phases
import CatalogSearch.Proofs.Sync.Rebuild
import CatalogSearch.Proofs.Sync.Shifting
import CatalogSearch.Proofs.Sync.Single
import CatalogSearch.Proofs.Text.QueryString
import CatalogSearch.Proofs.Time.Instants
import CatalogSearch.Proofs.Time.Seconds
