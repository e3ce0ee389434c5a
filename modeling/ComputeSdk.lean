import ComputeSdk.Shared.Loop
import ComputeSdk.Shared.Run
import ComputeSdk.Shared.Frame
import ComputeSdk.Shared.Area
import ComputeSdk.Shared.StreamBuf
import ComputeSdk.Shared.Interaction
import ComputeSdk.Shared.Handlers
import ComputeSdk.Shared.Tables
import ComputeSdk.Shared.Completion
import ComputeSdk.Shared.Linearization
import ComputeSdk.Shared.Changes
import ComputeSdk.Shared.Counted
import ComputeSdk.Shared.Slots
import ComputeSdk.Shared.RawBoxes
import ComputeSdk.Shared.Narrow
import ComputeSdk.Shared.Split
import ComputeSdk.Shared.Cursor
import ComputeSdk.Shared.Drain
import ComputeSdk.Shared.Signed
import ComputeSdk.Shared.Vectors
import ComputeSdk.Model.HostBody
import ComputeSdk.Model.Writer
import ComputeSdk.Model.Body
import ComputeSdk.Model.KvStore
import ComputeSdk.Model.Message
import ComputeSdk.Model.Cache.Host
import ComputeSdk.Model.Cache.Options
import ComputeSdk.Model.Cache.Core
import ComputeSdk.Model.Cache.Found
import ComputeSdk.Model.Cache.Simple
import ComputeSdk.Model.Bridge.Crates
import ComputeSdk.Model.Bridge.Plain
import ComputeSdk.Model.Bridge.Http
import ComputeSdk.Model.Bridge.Services
import ComputeSdk.Model.Bridge.Kv
import ComputeSdk.Model.Bridge.Getters
import ComputeSdk.Model.Bridge.Builders
import ComputeSdk.Model.Bridge.KvBuilders
import ComputeSdk.Model.Bridge.Ranges
import ComputeSdk.Model.Bridge.Lists
import ComputeSdk.Model.Bridge.Select
import ComputeSdk.Model.Bridge.Backends
import ComputeSdk.Model.Erl
import ComputeSdk.Model.Esi
import ComputeSdk.Verification.Body.Input
import ComputeSdk.Verification.Body.Output
import ComputeSdk.Verification.Body.Order
import ComputeSdk.Verification.Body.Refusal
import ComputeSdk.Verification.Body.Retry
import ComputeSdk.Verification.Body.Finish
import ComputeSdk.Verification.Body.Fifo
import ComputeSdk.Verification.Body.Move
import ComputeSdk.Verification.Body.Handover
import ComputeSdk.Verification.Body.MoveOn
import ComputeSdk.Verification.Body.Pipe
import ComputeSdk.Verification.Body.Objects
import ComputeSdk.Verification.Body.Messages
import ComputeSdk.Verification.Cache.Chain
import ComputeSdk.Verification.Cache.RequestHandles
import ComputeSdk.Verification.Cache.Ledger
import ComputeSdk.Verification.Cache.Ownership
import ComputeSdk.Verification.Cache.Rules
import ComputeSdk.Verification.Cache.Region
import ComputeSdk.Verification.Cache.SurrogateKeys
import ComputeSdk.Verification.Cache.Encoding
import ComputeSdk.Verification.Cache.Lifetimes
import ComputeSdk.Verification.Cache.Collapse
import ComputeSdk.Verification.Cache.Storage
import ComputeSdk.Verification.Cache.FirstWrite
import ComputeSdk.Verification.Cache.Purge
import ComputeSdk.Verification.Cache.Discharge
import ComputeSdk.Verification.Cache.PurgeMap
import ComputeSdk.Verification.Cache.SharedHost
import ComputeSdk.Verification.Cache.Callers
import ComputeSdk.Verification.Cache.Linearization
import ComputeSdk.Verification.Cache.ExpiringHost
import ComputeSdk.Verification.Cache.Visitors
import ComputeSdk.Verification.Cache.Expiring
import ComputeSdk.Verification.Cache.Forgetting
import ComputeSdk.Verification.Cache.Usable
import ComputeSdk.Verification.Cache.Settings
import ComputeSdk.Verification.Cache.KeyLists
import ComputeSdk.Verification.Cache.HeaderValues
import ComputeSdk.Verification.Cache.RemainingTtl
import ComputeSdk.Verification.Cache.UserMetadata
import ComputeSdk.Verification.Bridge.Errors
import ComputeSdk.Verification.Bridge.OutSlots
import ComputeSdk.Verification.Bridge.Builders
import ComputeSdk.Verification.Bridge.Chains
import ComputeSdk.Verification.Bridge.TimesToLive
import ComputeSdk.Verification.Bridge.Backends
import ComputeSdk.Verification.Bridge.Mutations
import ComputeSdk.Verification.Bridge.StoreStrings
import ComputeSdk.Verification.Bridge.Traversal
import ComputeSdk.Verification.Bridge.Lists
import ComputeSdk.Verification.Bridge.Select
import ComputeSdk.Verification.Bridge.Esi
