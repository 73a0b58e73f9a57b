import PairCache.Main
import PairCache.Session.Play
import PairCache.Proofs.Store
import PairCache.Proofs.Cache.Agreement
import PairCache.Proofs.Cache.Linearization
import PairCache.Proofs.Cache.SingleFlight
import PairCache.Proofs.Cache.Places
import PairCache.Proofs.Cache.Progress
import PairCache.Proofs.Cache.Counters
import PairCache.Proofs.Cache.Atomicity
import PairCache.Proofs.Cache.Alone
import PairCache.Proofs.Cache.Permits
import PairCache.Proofs.Cache.Pruning
import PairCache.Proofs.Cache.Removal
import PairCache.Proofs.Cache.Ownership
import PairCache.Proofs.Cache.Sharing
import PairCache.Proofs.Runner.Serving
import PairCache.Proofs.Runner.Reporting
import PairCache.Proofs.Runner.Execution
import PairCache.Proofs.Runner.Accounting
import PairCache.Proofs.Bundle.Interchange
import PairCache.Proofs.Bundle.Derivation
import PairCache.Proofs.Bundle.Flag
import PairCache.Proofs.Bundle.Rendering
import PairCache.Proofs.CommandLine.Order
import PairCache.Proofs.Settings.RoundTrip
import PairCache.Proofs.Time.Timestamp
import PairCache.Proofs.Time.Timing
