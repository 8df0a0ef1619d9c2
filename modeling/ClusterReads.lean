import ClusterReads.Assembly
import ClusterReads.Config.Load
import ClusterReads.Config.Toml
import ClusterReads.Ledger
import ClusterReads.Logging.Output
import ClusterReads.Lookup
import ClusterReads.Record.Sample
import ClusterReads.Proofs.Cache.History
import ClusterReads.Proofs.Cache.Balance
import ClusterReads.Proofs.Cache.Failure
import ClusterReads.Proofs.Cache.Recency
import ClusterReads.Proofs.Frame
import ClusterReads.Proofs.Layer.Auditing
import ClusterReads.Proofs.Layer.Books
import ClusterReads.Proofs.Layer.Bypass
import ClusterReads.Proofs.Layer.Fate
import ClusterReads.Proofs.Layer.Hits
import ClusterReads.Proofs.Layer.Interleaving
import ClusterReads.Proofs.Layer.Sharing
import ClusterReads.Proofs.Layer.Staleness
import ClusterReads.Proofs.Layer.Transparency
import ClusterReads.Proofs.Run
import ClusterReads.Proofs.Ledger.History
import ClusterReads.Proofs.Ledger.Reads
import ClusterReads.Proofs.Decimal.Finite
import ClusterReads.Proofs.Record.RoundTrip
import ClusterReads.Proofs.Toml.Parser
import ClusterReads.Proofs.Config.Toml
import ClusterReads.Proofs.Toml.Names
import ClusterReads.Proofs.Config.Setting
import ClusterReads.Proofs.Config.Load
import ClusterReads.Proofs.Composition
import ClusterReads.Proofs.Layer.Invalidation
import ClusterReads.Proofs.Layer.Timely
import ClusterReads.Proofs.Assembly
import ClusterReads.Proofs.Config.Tree
import ClusterReads.Proofs.Config.Scalars
import ClusterReads.Proofs.Config.Override
import ClusterReads.Proofs.Layer.Validation
import ClusterReads.Proofs.Ledger.Jobs
import ClusterReads.Proofs.Lookup.Validated
import ClusterReads.Proofs.Lookup.Replies
import ClusterReads.Proofs.Ledger.Consumption
import ClusterReads.Proofs.Record.TaskSet
import ClusterReads.Proofs.Layer.Subjects
