import GridLoad.Cache.Calls
import GridLoad.Config.Server
import GridLoad.Json.Access
import GridLoad.Sample
import GridLoad.Serving.Launch
import GridLoad.Web.Api
import GridLoad.Zone.Watch
import GridLoad.Proofs.Program.Transcript
import GridLoad.Proofs.Serving.World
import GridLoad.Proofs.Forecast.Undated
import GridLoad.Proofs.Group.Gathered
import GridLoad.Proofs.Cache.Contents
import GridLoad.Proofs.Cache.Locks
import GridLoad.Proofs.Cache.Interleaving
import GridLoad.Proofs.Cache.Standing
import GridLoad.Proofs.Cache.Single
import GridLoad.Proofs.Feature.Captured
import GridLoad.Proofs.Serving.Ledger
import GridLoad.Proofs.Serving.EngineSteps
import GridLoad.Proofs.Forecast.SameText
import GridLoad.Proofs.Group.Accepted
import GridLoad.Proofs.Serving.Lookups
import GridLoad.Proofs.Serving.Basis
import GridLoad.Proofs.Serving.Operations
import GridLoad.Proofs.Serving.Conducted
import GridLoad.Proofs.Serving.Nesting
import GridLoad.Proofs.Serving.Invariant
import GridLoad.Proofs.Serving.Waiting
import GridLoad.Proofs.Serving.Deadlock
import GridLoad.Proofs.Serving.Numbers
import GridLoad.Proofs.Serving.Outcomes
import GridLoad.Proofs.Serving.Transparency
import GridLoad.Proofs.Forecast.Failures
import GridLoad.Proofs.Serving.Provenance
import GridLoad.Proofs.Serving.Aggregation
import GridLoad.Proofs.Decimal.Shortest
import GridLoad.Proofs.Serving.Endpoints
import GridLoad.Proofs.Text.Digits
import GridLoad.Proofs.Decimal.Written
import GridLoad.Proofs.Json.Escaped
import GridLoad.Proofs.Json.Written
import GridLoad.Proofs.Time.Calendar
import GridLoad.Proofs.Time.Written
import GridLoad.Proofs.Serving.Sequential
import GridLoad.Proofs.Serving.Schedule
import GridLoad.Proofs.Forecast.Fingerprint
import GridLoad.Proofs.Cache.Recall
import GridLoad.Proofs.Serving.Refreshing
import GridLoad.Proofs.Zone.Loading
import GridLoad.Proofs.Model.Valid
import GridLoad.Proofs.Forecast.Division
import GridLoad.Proofs.Zone.Accepted
import GridLoad.Proofs.Serving.Isolation
import GridLoad.Proofs.Serving.Tokens
import GridLoad.Proofs.Program.Questions
import GridLoad.Proofs.Serving.Questions
import GridLoad.Proofs.Serving.Turns
import GridLoad.Proofs.Serving.Succession
import GridLoad.Proofs.Serving.Reloading
import GridLoad.Proofs.Serving.Runs
import GridLoad.Proofs.Serving.LookupRuns
import GridLoad.Proofs.Serving.Renumbered
import GridLoad.Proofs.Serving.Redeployed
import GridLoad.Proofs.Cache.Unweighted
import GridLoad.Proofs.Json.Blanked
import GridLoad.Proofs.Serving.Availability
import GridLoad.Proofs.Serving.Driven
import GridLoad.Proofs.Serving.Mirrored
import GridLoad.Proofs.Serving.Weightless
import GridLoad.Proofs.Serving.Findings
import GridLoad.Proofs.Serving.HealthFollows
import GridLoad.Proofs.Serving.Recorded
import GridLoad.Proofs.Table
import GridLoad.Proofs.Feature.Overridden
import GridLoad.Proofs.Serving.Uneventful
import GridLoad.Proofs.Serving.Overrides
import GridLoad.Proofs.Serving.Refusals
import GridLoad.Proofs.Serving.Listing
import GridLoad.Proofs.Decimal.Bounded
import GridLoad.Proofs.Json.Decoded
import GridLoad.Proofs.Model.Stored
import GridLoad.Proofs.Feature.Stored
import GridLoad.Proofs.Forecast.Stored
import GridLoad.Proofs.Feature.Supplied
import GridLoad.Proofs.Forecast.Decided
import GridLoad.Proofs.Forecast.BreakingOff
import GridLoad.Proofs.Group.Consulted
import GridLoad.Proofs.Decimal.Exact
import GridLoad.Proofs.Group.Bounds
import GridLoad.Proofs.Feature.Overlay
import GridLoad.Proofs.Group.Definable
import GridLoad.Proofs.Zone.Built
import GridLoad.Proofs.Forecast.Blended
import GridLoad.Proofs.Feature.Retried
import GridLoad.Proofs.Feature.Aged
import GridLoad.Proofs.Zone.Watched
import GridLoad.Proofs.Web.Horizons
import GridLoad.Proofs.Cache.Capacity
import GridLoad.Proofs.Serving.Overtaken
