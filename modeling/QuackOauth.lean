import QuackOauth.Lib.Base64
import QuackOauth.Lib.Calendar
import QuackOauth.Lib.Checked
import QuackOauth.Lib.Code
import QuackOauth.Lib.Machine
import QuackOauth.Lib.UnorderedMap
import QuackOauth.Lib.Component
import QuackOauth.Lib.Cooldown
import QuackOauth.Lib.Decimal
import QuackOauth.Lib.Delimited
import QuackOauth.Lib.Distinct
import QuackOauth.Lib.Fallible
import QuackOauth.Lib.Hex
import QuackOauth.Lib.Separator
import QuackOauth.Lib.Form
import QuackOauth.Lib.Glob
import QuackOauth.Lib.JsonObject
import QuackOauth.Lib.LinkedList
import QuackOauth.Lib.Lru
import QuackOauth.Lib.Matching
import QuackOauth.Lib.Ranked
import QuackOauth.Lib.Retry
import QuackOauth.Lib.RingBuffer
import QuackOauth.Lib.Scan
import QuackOauth.Lib.TimedLru
import QuackOauth.Lib.Unfolding
import QuackOauth.Json
import QuackOauth.Jwks.Key
import QuackOauth.Jwks.Cache
import QuackOauth.Jwks.Evolution
import QuackOauth.Jwks.Operation
import QuackOauth.Jwks.Absence
import QuackOauth.Jwks.Material
import QuackOauth.Jwks.KeyLists
import QuackOauth.Jwks.Recency
import QuackOauth.Jwks.Reservation
import QuackOauth.Jwt.Backend
import QuackOauth.Jwt.Parse
import QuackOauth.Text
import QuackOauth.Jwt.Verify
import QuackOauth.Jwt.KeyBytes
import QuackOauth.Validator.Select
import QuackOauth.Validator.Validate
import QuackOauth.Validator.Pieces
import QuackOauth.Validator.Document
import QuackOauth.Validator.Soundness
import QuackOauth.Validator.System
import QuackOauth.Validator.Operations
import QuackOauth.Validator.Absence
import QuackOauth.Validator.LastGood
import QuackOauth.Validator.Retention
import QuackOauth.Validator.Contents
import QuackOauth.Validator.CacheInvariant
import QuackOauth.Validator.RateLimit
import QuackOauth.Validator.Sequential
import QuackOauth.Validator.Refresh
import QuackOauth.Validator.Audit
import QuackOauth.Validator.Budget
import QuackOauth.Validator.Delivery
import QuackOauth.Validator.Ingest
import QuackOauth.Validator.Isolation
import QuackOauth.Validator.LostUpdate
import QuackOauth.Validator.NegativeCache
import QuackOauth.Validator.Revocation
import QuackOauth.Validator.StableProvider
import QuackOauth.Validator.Rotation
import QuackOauth.Policy.Evaluate
import QuackOauth.Opaque.DecisionCache
import QuackOauth.Opaque.DecisionRefinement
import QuackOauth.Opaque.Responses
import QuackOauth.Opaque.Validators
import QuackOauth.Session.Store
import QuackOauth.Opaque.Expiry
import QuackOauth.Opaque.DecisionInt64
import QuackOauth.Opaque.TrustContext
import QuackOauth.Opaque.Delivery
import QuackOauth.Policy.GlobMatch
import QuackOauth.Policy.Star
import QuackOauth.Sql.Ast
import QuackOauth.Sql.Surface
import QuackOauth.Policy.Table
import QuackOauth.Session.Eviction
import QuackOauth.Session.System
import QuackOauth.Sql.Walk
import QuackOauth.Sql.Tree
import QuackOauth.Sql.Contribution
import QuackOauth.Sql.Descent
import QuackOauth.Sql.Effect
import QuackOauth.Sql.Refine
import QuackOauth.Sql.Inspect
import QuackOauth.Sql.Naming
import QuackOauth.Sql.Ambiguity
import QuackOauth.Sql.Coverage
import QuackOauth.Sql.Batch
import QuackOauth.Sql.Binding
import QuackOauth.Sql.Columns
import QuackOauth.Sql.Concatenation
import QuackOauth.Sql.HiddenWrite
import QuackOauth.Sql.Objects
import QuackOauth.Sql.QualifiedName
import QuackOauth.Sql.Target
import QuackOauth.Sql.Reach
import QuackOauth.Acquire.Flow
import QuackOauth.Http.Url
import QuackOauth.Acquire.Timestamp
import QuackOauth.Acquire.Tokens
import QuackOauth.Http.Requests
import QuackOauth.Secret.Accessor
import QuackOauth.Secret.Manager
import QuackOauth.Acquire.Client
import QuackOauth.Acquire.Copies
import QuackOauth.Acquire.Lineage
import QuackOauth.Acquire.Origin
import QuackOauth.Http.Loopback
import QuackOauth.Http.Contact
import QuackOauth.Secret.Create
import QuackOauth.Acquire.Endpoints
import QuackOauth.Acquire.Logout
import QuackOauth.Acquire.Polling
import QuackOauth.Acquire.WriteBack
import QuackOauth.Acquire.Reuse
import QuackOauth.Audit.Line
import QuackOauth.Audit.Ring
import QuackOauth.Http.PlaintextGuard
import QuackOauth.Http.Retry
import QuackOauth.Server.Provider
import QuackOauth.Server.Config
import QuackOauth.Server.Row
import QuackOauth.Server.System
import QuackOauth.Server.Waiting
import QuackOauth.Server.Provenance
import QuackOauth.Server.Authorized
import QuackOauth.Server.Trail
import QuackOauth.Server.Diagnose
import QuackOauth.Server.Enforcement
import QuackOauth.Server.MinRefresh
import QuackOauth.Server.ThrottleLog
