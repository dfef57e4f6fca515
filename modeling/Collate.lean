import Collate.Assoc
import Collate.Channel.Queue
import Collate.Channel.Registry
import Collate.Config.Document
import Collate.Config.Environment
import Collate.Config.Ini
import Collate.Config.Loader
import Collate.Config.Path
import Collate.Config.Reading
import Collate.Config.Settings
import Collate.Config.Toml.Moment
import Collate.Config.Toml.Reader
import Collate.Config.Toml.Scalar
import Collate.Config.Toml.Text
import Collate.Config.Toml.Tree
import Collate.Config.Value
import Collate.Config.Yaml.Block
import Collate.Config.Yaml.Character
import Collate.Config.Yaml.Cursor
import Collate.Config.Yaml.Fold
import Collate.Config.Yaml.Lexer
import Collate.Config.Yaml.Node
import Collate.Config.Yaml.Plain
import Collate.Config.Yaml.Quoted
import Collate.Config.Yaml.Reader
import Collate.Config.Yaml.Scalar
import Collate.Config.Yaml.Tag
import Collate.Config.Yaml.Token
import Collate.Correlation
import Collate.Engine.Request
import Collate.Error
import Collate.Group
import Collate.Handler
import Collate.Header
import Collate.Json.Basic
import Collate.Json.Number
import Collate.Json.Printer
import Collate.Json.Reader
import Collate.Key
import Collate.LockTable
import Collate.Log.Directive
import Collate.Log.Event
import Collate.Log.Filter
import Collate.Log.Line
import Collate.Log.Logger
import Collate.Message
import Collate.Number.Binary64
import Collate.Number.Hexadecimal
import Collate.Number.Integer
import Collate.Number.Layout
import Collate.Number.Literal
import Collate.Number.Shortest
import Collate.Outcome
import Collate.Processing
import Collate.Program
import Collate.Proofs.Config.HeaderName
import Collate.Proofs.Config.Layers
import Collate.Proofs.Config.Wording
import Collate.Proofs.Handler.Agreement
import Collate.Proofs.Handler.Arrival
import Collate.Proofs.Handler.Attendance
import Collate.Proofs.Handler.Batching
import Collate.Proofs.Handler.Clearing
import Collate.Proofs.Handler.Conservation
import Collate.Proofs.Handler.Correspondence
import Collate.Proofs.Handler.Course
import Collate.Proofs.Handler.CutOff
import Collate.Proofs.Handler.Deeds
import Collate.Proofs.Handler.Delivery
import Collate.Proofs.Handler.Errands
import Collate.Proofs.Handler.Flow
import Collate.Proofs.Handler.Indifference
import Collate.Proofs.Handler.Lapses
import Collate.Proofs.Handler.Ledger
import Collate.Proofs.Handler.Lengths
import Collate.Proofs.Handler.Lifetime
import Collate.Proofs.Handler.Linearization
import Collate.Proofs.Handler.Presenting
import Collate.Proofs.Handler.Readiness
import Collate.Proofs.Handler.Record
import Collate.Proofs.Handler.Refusals
import Collate.Proofs.Handler.Releases
import Collate.Proofs.Handler.Resequencing
import Collate.Proofs.Handler.Separation
import Collate.Proofs.Handler.Sequence
import Collate.Proofs.Handler.Sight
import Collate.Proofs.Handler.Snapshot
import Collate.Proofs.Handler.Staleness
import Collate.Proofs.Handler.Stream
import Collate.Proofs.Handler.Succession
import Collate.Proofs.Handler.Tidiness
import Collate.Proofs.Handler.Upshot
import Collate.Proofs.Interleaving.Advance
import Collate.Proofs.Interleaving.Alone
import Collate.Proofs.Interleaving.Calm
import Collate.Proofs.Interleaving.Coherence
import Collate.Proofs.Interleaving.Discipline
import Collate.Proofs.Interleaving.Drain
import Collate.Proofs.Interleaving.Generations
import Collate.Proofs.Interleaving.Holders
import Collate.Proofs.Interleaving.Interruption
import Collate.Proofs.Interleaving.Likeness
import Collate.Proofs.Interleaving.Replay
import Collate.Proofs.Interleaving.Rules
import Collate.Proofs.Interleaving.Serial
import Collate.Proofs.Interleaving.System
import Collate.Proofs.Interleaving.View
import Collate.Proofs.Locks.Exclusion
import Collate.Proofs.Locks.Leavings
import Collate.Proofs.Locks.Standing
import Collate.Proofs.Locks.Table
import Collate.Proofs.Message.Numbering
import Collate.Proofs.Number.Written
import Collate.Proofs.Processing.Equality
import Collate.Proofs.Processing.Order
import Collate.Proofs.Processing.Union
import Collate.Proofs.Queue.Conduct
import Collate.Proofs.Queue.Crowd
import Collate.Proofs.Queue.FanOut
import Collate.Proofs.Queue.Line
import Collate.Proofs.Queue.Passage
import Collate.Proofs.Queue.Places
import Collate.Proofs.Queue.Solitude
import Collate.Proofs.Queue.Taking
import Collate.Proofs.Reaper.Freshness
import Collate.Proofs.Reaper.Loops
import Collate.Proofs.Reaper.Upkeep
import Collate.Proofs.Release.Batches
import Collate.Proofs.Release.Runs
import Collate.Proofs.Release.Verdicts
import Collate.Proofs.Router.Dispatch
import Collate.Proofs.Store.Admission
import Collate.Proofs.Store.Sharing
import Collate.Proofs.Store.Soundness
import Collate.Proofs.Sweep.Company
import Collate.Proofs.Sweep.Conduct
import Collate.Reaper
import Collate.Release
import Collate.Router
import Collate.Simulation.Activity
import Collate.Simulation.Execution
import Collate.Simulation.Growth
import Collate.Simulation.LockSession
import Collate.Simulation.Roster
import Collate.Simulation.Schedule
import Collate.Simulation.Script
import Collate.Simulation.Session
import Collate.Simulation.Surroundings
import Collate.Simulation.World
import Collate.Store
import Collate.Sweep
import Collate.Text.Blank
import Collate.Text.Cased
import Collate.Text.Duration
import Collate.Text.Letter
import Collate.Text.Lowercase
import Collate.Text.Quoted
import Collate.Text.Unprintable
