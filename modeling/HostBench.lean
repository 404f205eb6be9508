import HostBench.Duration
import HostBench.Instant
import HostBench.Place
import HostBench.Trace
import HostBench.Text.Hex
import HostBench.Text.Hidden
import HostBench.Text.Quoted
import HostBench.Text.Blank
import HostBench.Text.Dump
import HostBench.Decimal.Binary64
import HostBench.Decimal.Shortest
import HostBench.Json.Basic
import HostBench.Json.Number
import HostBench.Json.Reader
import HostBench.Json.Shape
import HostBench.Toml.Value
import HostBench.Toml.Quoted
import HostBench.Toml.Number
import HostBench.Toml.Moment
import HostBench.Toml.Table
import HostBench.Toml.Statement
import HostBench.Toml.Document
import HostBench.Settings
import HostBench.Timer
import HostBench.Roster
import HostBench.Clock
import HostBench.EventLog
import HostBench.Adapter
import HostBench.Lifetime
import HostBench.Service.Registry
import HostBench.Service.Provider
import HostBench.Shutdown
import HostBench.Host
import HostBench.Scope
import HostBench.Builder
import HostBench.Scenario.Key
import HostBench.Scenario.Command
import HostBench.Scenario.Answer
import HostBench.Scenario.World
import HostBench.Scenario.Services
import HostBench.Scenario.Clocks
import HostBench.Scenario.Recording
import HostBench.Scenario.Tasks
import HostBench.Scenario.Routine
import HostBench.Scenario.Hosting
import HostBench.Scenario.Resolving
import HostBench.Scenario.Perform
import HostBench.Scenario.Blocked
import HostBench.Scenario.Turns
import HostBench.Scenario.Session
import HostBench.Proofs.Service.Recipe
import HostBench.Proofs.Service.Chronicle
import HostBench.Proofs.Service.Kept
import HostBench.Proofs.Service.Singletons
import HostBench.Proofs.Service.Overtaken
import HostBench.Proofs.Service.Plan
import HostBench.Proofs.Service.Orders
import HostBench.Proofs.Service.Finality
import HostBench.Proofs.Disposal.Course
import HostBench.Proofs.Basics
import HostBench.Proofs.Disposal.Others
import HostBench.Proofs.Disposal.Limits
import HostBench.Proofs.Disposal.Steady
import HostBench.Proofs.Disposal.Accounts
import HostBench.Proofs.Disposal.Returning
import HostBench.Proofs.Disposal.Rehearsal
import HostBench.Proofs.Disposal.Orderly
import HostBench.Proofs.Disposal.Interrupted
import HostBench.Proofs.Clock.Reach
import HostBench.Proofs.Clock.Sane
import HostBench.Proofs.Clock.Observed
import HostBench.Proofs.Clock.Tale
import HostBench.Proofs.Clock.Wakes
import HostBench.Proofs.Clock.Readiness
import HostBench.Proofs.Clock.Nested
import HostBench.Proofs.Clock.Elapsed
import HostBench.Proofs.Clock.Sleepers
import HostBench.Proofs.Disposal.Keeping
import HostBench.Proofs.Disposal.Watched
import HostBench.Proofs.Disposal.Estate
import HostBench.Proofs.Disposal.Eras
import HostBench.Proofs.Disposal.Within
import HostBench.Proofs.Scenario.Unnamed
import HostBench.Proofs.Scenario.Acts
import HostBench.Proofs.Scenario.Commands
import HostBench.Proofs.Scenario.Guarded
import HostBench.Proofs.Disposal.Diary
import HostBench.Proofs.Disposal.Told
import HostBench.Proofs.Service.Offers
import HostBench.Proofs.Building.Histories
import HostBench.Proofs.Building.Inventory
import HostBench.Proofs.Disposal.Tenure
import HostBench.Proofs.Disposal.Composed
import HostBench.Proofs.Neighbours.Memory
import HostBench.Proofs.Neighbours.Dealings
import HostBench.Proofs.Neighbours.Street
import HostBench.Proofs.Neighbours.Apart
import HostBench.Proofs.Records.Growth
import HostBench.Proofs.Adapter.Script
import HostBench.Proofs.Disposal.Obeyed
import HostBench.Proofs.Records.Streams
import HostBench.Proofs.Waiting.Vigil
import HostBench.Proofs.Waiting.Attended
import HostBench.Proofs.Clock.Sleeping
import HostBench.Proofs.Building.Premises
import HostBench.Proofs.Building.Views
import HostBench.Proofs.Disposal.Scoped
import HostBench.Proofs.Service.FirstCome
import HostBench.Proofs.Service.Retries
import HostBench.Proofs.Adapter.Reentry
import HostBench.Proofs.Records.Dated
import HostBench.Proofs.Records.Decoded
import HostBench.Proofs.Disposal.Announced
import HostBench.Proofs.Clock.Bisection
import HostBench.Proofs.Toml.Spelling
import HostBench.Proofs.Toml.Lines
import HostBench.Proofs.Settings.Survival
