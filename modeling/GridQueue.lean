import GridQueue.Main
import GridQueue.Metrics.Export
import GridQueue.Periodic
import GridQueue.Proofs.Accounting.History
import GridQueue.Proofs.Claim
import GridQueue.Proofs.Configuration
import GridQueue.Proofs.Counter.Alone
import GridQueue.Proofs.Counter.Shared
import GridQueue.Proofs.ErrorCode
import GridQueue.Proofs.FairShare.Gate
import GridQueue.Proofs.FairShare.Isolation
import GridQueue.Proofs.FairShare.Order
import GridQueue.Proofs.FrontDoor.Pairing
import GridQueue.Proofs.HandOut
import GridQueue.Proofs.Liveness.Reprieve
import GridQueue.Proofs.Lookup.Agreement
import GridQueue.Proofs.Matching.Admission
import GridQueue.Proofs.Matching.Blocking
import GridQueue.Proofs.Matching.Draining
import GridQueue.Proofs.Matching.Installation
import GridQueue.Proofs.Matching.Issuance
import GridQueue.Proofs.Matching.Patience
import GridQueue.Proofs.Matching.Ranking
import GridQueue.Proofs.Matching.Seniority
import GridQueue.Proofs.Matching.Tiers
import GridQueue.Proofs.Numbering
import GridQueue.Proofs.Ownership
import GridQueue.Proofs.Pool.Answers
import GridQueue.Proofs.Retry
import GridQueue.Proofs.Schema.Order
import GridQueue.Proofs.Site
import GridQueue.Proofs.Sql.Keyed
import GridQueue.Proofs.Store.Agreement
import GridQueue.Proofs.Store.Bookkeeping
import GridQueue.Proofs.Store.Requested
import GridQueue.Proofs.Turns
import GridQueue.Proofs.Wire.RoundTrip
import GridQueue.Simulation.Session
