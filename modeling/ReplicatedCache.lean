import ReplicatedCache.Api.Service
import ReplicatedCache.Cluster
import ReplicatedCache.Node.Settings
import ReplicatedCache.Replication.Timeline
import ReplicatedCache.Proofs.Api.Addressing
import ReplicatedCache.Proofs.Api.Bodies
import ReplicatedCache.Proofs.Api.Effects
import ReplicatedCache.Proofs.Api.Logging
import ReplicatedCache.Proofs.Api.Requests
import ReplicatedCache.Proofs.Cache.Bounds
import ReplicatedCache.Proofs.Cache.Counting
import ReplicatedCache.Proofs.Cache.Expiry
import ReplicatedCache.Proofs.Cache.Inclusion
import ReplicatedCache.Proofs.Cache.RecentUse
import ReplicatedCache.Proofs.Cache.Runs
import ReplicatedCache.Proofs.Cache.Sequence
import ReplicatedCache.Proofs.Cache.Slots
import ReplicatedCache.Proofs.Cache.Survival
import ReplicatedCache.Proofs.Json.Records
import ReplicatedCache.Proofs.Json.Strings
import ReplicatedCache.Proofs.Log.Attempts
import ReplicatedCache.Proofs.Log.Composition
import ReplicatedCache.Proofs.Log.Crash
import ReplicatedCache.Proofs.Log.Grammar
import ReplicatedCache.Proofs.Log.Repetition
import ReplicatedCache.Proofs.Node.Durability
import ReplicatedCache.Proofs.Node.Freshness
import ReplicatedCache.Proofs.Node.Recovery
import ReplicatedCache.Proofs.Replication.Conservation
import ReplicatedCache.Proofs.Replication.Convergence
import ReplicatedCache.Proofs.Replication.Delivery
import ReplicatedCache.Proofs.Replication.Forwarding
import ReplicatedCache.Proofs.Replication.Independence
import ReplicatedCache.Proofs.Replication.Order
