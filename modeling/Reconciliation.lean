import Reconciliation.Dict
import Reconciliation.Digits
import Reconciliation.Binary64
import Reconciliation.Json.Basic
import Reconciliation.Json.Raw
import Reconciliation.Json.Writer
import Reconciliation.Json.Reader
import Reconciliation.Json.Override
import Reconciliation.Json.Codec
import Reconciliation.Text.Quoted
import Reconciliation.Http.Message
import Reconciliation.Instant
import Reconciliation.Base64
import Reconciliation.Identity
import Reconciliation.Objects.Core
import Reconciliation.Objects.Access
import Reconciliation.Objects.Ingress
import Reconciliation.Objects.Managed
import Reconciliation.Mutation.Policies
import Reconciliation.Mutation.InPlace
import Reconciliation.Mutation.Registry
import Reconciliation.Owner
import Reconciliation.Health
import Reconciliation.Backoff
import Reconciliation.Settings
import Reconciliation.Metrics
import Reconciliation.Store.Call
import Reconciliation.Store.Memory
import Reconciliation.Store.Request
import Reconciliation.Pass.Reconcile
import Reconciliation.Rehearsal
import Reconciliation.Contention
import Reconciliation.Watch
import Reconciliation.Cluster
import Reconciliation.Definition
import Reconciliation.Main
import Reconciliation.Proofs.Wire.Override
import Reconciliation.Proofs.Wire.Codec
import Reconciliation.Proofs.Wire.Structure
import Reconciliation.Proofs.Wire.Timestamp
import Reconciliation.Proofs.Wire.Template
import Reconciliation.Proofs.Mutation.Idempotence
import Reconciliation.Proofs.Store.Memory
import Reconciliation.Proofs.Store.History
import Reconciliation.Proofs.Pass.Prune
import Reconciliation.Proofs.Pass.Sync
import Reconciliation.Proofs.Mutation.Settled
import Reconciliation.Proofs.Pass.SecondPass
import Reconciliation.Proofs.Pass.Reconcile
import Reconciliation.Proofs.Pass.Ownership
import Reconciliation.Proofs.Pass.SharedCalls
import Reconciliation.Proofs.Pass.LostUpdate
import Reconciliation.Proofs.Pass.Deletion
import Reconciliation.Proofs.Pass.Stability
import Reconciliation.Proofs.Health
import Reconciliation.Proofs.Pass.Readiness
import Reconciliation.Proofs.Pass.Sampling
import Reconciliation.Proofs.Pass.Logbook
import Reconciliation.Proofs.Pass.Attempts
import Reconciliation.Proofs.Pass.Independence
import Reconciliation.Proofs.Pass.Retries
import Reconciliation.Proofs.Pass.Stages
import Reconciliation.Proofs.Conditions
import Reconciliation.Proofs.Pass.Calls
import Reconciliation.Proofs.Pass.Rest
import Reconciliation.Proofs.Pass.Quiet
import Reconciliation.Proofs.Store.Invariant
import Reconciliation.Proofs.Wire.Text
import Reconciliation.Proofs.Wire.Objects
import Reconciliation.Proofs.Wire.Query
import Reconciliation.Proofs.Wire.Legible
import Reconciliation.Proofs.Wire.Managed
import Reconciliation.Proofs.Cluster.Refinement
import Reconciliation.Proofs.Cluster.StatusPatch
import Reconciliation.Proofs.Wire.RoundTrip
import Reconciliation.Proofs.Mutation.Immutable
import Reconciliation.Proofs.Pass.Delays
import Reconciliation.Proofs.Mutation.Metadata
import Reconciliation.Proofs.Mutation.Repair
import Reconciliation.Proofs.Mutation.Injection
import Reconciliation.Proofs.Pass.Control
import Reconciliation.Proofs.Mutation.Exact
import Reconciliation.Proofs.Wire.Paths
import Reconciliation.Proofs.Wire.Absorption
import Reconciliation.Proofs.Mutation.Atomic
import Reconciliation.Proofs.Metrics
import Reconciliation.Proofs.Pass.Failures
import Reconciliation.Proofs.Counters
import Reconciliation.Proofs.Pass.Notes
import Reconciliation.Proofs.Pass.Reports
import Reconciliation.Proofs.Pass.Tally
import Reconciliation.Proofs.Store.Journal
import Reconciliation.Proofs.Cluster.Selectors
import Reconciliation.Proofs.Mutation.Construction
import Reconciliation.Proofs.Wire.Version
import Reconciliation.Proofs.Cluster.Exchange
import Reconciliation.Proofs.Cluster.Dialogue
