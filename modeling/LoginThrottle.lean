import LoginThrottle.Action
import LoginThrottle.App
import LoginThrottle.Bucket
import LoginThrottle.BucketKey
import LoginThrottle.Client
import LoginThrottle.CommandLine
import LoginThrottle.CommandLine.Help
import LoginThrottle.Config
import LoginThrottle.Config.Document
import LoginThrottle.Config.File
import LoginThrottle.Config.Schema
import LoginThrottle.Config.Setting
import LoginThrottle.Config.Yaml
import LoginThrottle.Daemon
import LoginThrottle.Decimal.Binary64
import LoginThrottle.Document
import LoginThrottle.Fault
import LoginThrottle.Guard
import LoginThrottle.Guard.Concurrent
import LoginThrottle.Health
import LoginThrottle.Housekeeper
import LoginThrottle.Identity
import LoginThrottle.Keyed
import LoginThrottle.Limit
import LoginThrottle.Log
import LoginThrottle.Log.Directive
import LoginThrottle.Log.Pattern
import LoginThrottle.Main
import LoginThrottle.Meter
import LoginThrottle.Net.Address
import LoginThrottle.Net.Network
import LoginThrottle.Net.Numeral
import LoginThrottle.Net.SocketAddress
import LoginThrottle.Net.Target
import LoginThrottle.Proofs.App.AtStation
import LoginThrottle.Proofs.App.Attempts
import LoginThrottle.Proofs.App.Lists
import LoginThrottle.Proofs.App.Reclaiming
import LoginThrottle.Proofs.App.RemoteCalls
import LoginThrottle.Proofs.App.Respelling
import LoginThrottle.Proofs.Bucket
import LoginThrottle.Proofs.Bucket.AnyClock
import LoginThrottle.Proofs.Bucket.HalfRate
import LoginThrottle.Proofs.Bucket.Looks
import LoginThrottle.Proofs.BucketKey
import LoginThrottle.Proofs.Config
import LoginThrottle.Proofs.Config.Defaults
import LoginThrottle.Proofs.Config.FirstFlaw
import LoginThrottle.Proofs.Config.Loaded
import LoginThrottle.Proofs.Config.Omission
import LoginThrottle.Proofs.Guard.Alike
import LoginThrottle.Proofs.Guard.Decision
import LoginThrottle.Proofs.Guard.Deeds
import LoginThrottle.Proofs.Guard.Linearization
import LoginThrottle.Proofs.Guard.Order
import LoginThrottle.Proofs.Guard.Overlap
import LoginThrottle.Proofs.Guard.Settlement
import LoginThrottle.Proofs.Guard.Spelling
import LoginThrottle.Proofs.Guard.Turns
import LoginThrottle.Proofs.Housekeeper
import LoginThrottle.Proofs.Identity
import LoginThrottle.Proofs.Keyed
import LoginThrottle.Proofs.Limit
import LoginThrottle.Proofs.Net.Numeral
import LoginThrottle.Proofs.Net.Prefix
import LoginThrottle.Proofs.Net.ReadBack
import LoginThrottle.Proofs.Net.SocketAddress
import LoginThrottle.Proofs.Net.Spelling
import LoginThrottle.Proofs.RefillRate
import LoginThrottle.Proofs.Rpc.AccessLog
import LoginThrottle.Proofs.Rpc.RequestId
import LoginThrottle.Proofs.Rule.Chronology
import LoginThrottle.Proofs.Rule.Interruption
import LoginThrottle.Proofs.Rule.Journal
import LoginThrottle.Proofs.Rule.Membership
import LoginThrottle.Proofs.Rule.Numbering
import LoginThrottle.Proofs.Rule.Removal
import LoginThrottle.Proofs.Rule.Store
import LoginThrottle.Proofs.Rule.TextSets
import LoginThrottle.Proofs.Station.Agreement
import LoginThrottle.Proofs.Station.Countdown
import LoginThrottle.Proofs.Station.Invariant
import LoginThrottle.Proofs.Station.Isolation
import LoginThrottle.Proofs.Station.Log
import LoginThrottle.Proofs.Station.Opening
import LoginThrottle.Proofs.Station.RateBound
import LoginThrottle.Proofs.Station.Schedule
import LoginThrottle.Proofs.Station.Screening
import LoginThrottle.Proofs.Station.Service
import LoginThrottle.Proofs.Station.Unswept
import LoginThrottle.Proofs.Station.Usage
import LoginThrottle.Proofs.Station.View
import LoginThrottle.Proofs.Text.ByteOrder
import LoginThrottle.Proofs.Throttle.Attempt
import LoginThrottle.Proofs.Throttle.Eviction
import LoginThrottle.Proofs.Throttle.ExactSweep
import LoginThrottle.Proofs.Throttle.FailedSweep
import LoginThrottle.Proofs.Throttle.Layout
import LoginThrottle.Proofs.Throttle.Move
import LoginThrottle.Proofs.Throttle.OpenSweep
import LoginThrottle.Proofs.Throttle.Opening
import LoginThrottle.Proofs.Throttle.Operations
import LoginThrottle.Proofs.Throttle.PrefixCharging
import LoginThrottle.Proofs.Throttle.Refusal
import LoginThrottle.Proofs.Throttle.Remaining
import LoginThrottle.Proofs.Throttle.Renewal
import LoginThrottle.Proofs.Throttle.Sound
import LoginThrottle.Proofs.Throttle.Stops
import LoginThrottle.Proofs.Throttle.Sweep
import LoginThrottle.Proofs.Throttle.Unswept
import LoginThrottle.Proofs.Throttle.Upkeep
import LoginThrottle.Proofs.Throttle.View
import LoginThrottle.Proofs.Throttle.Walk
import LoginThrottle.RefillRate
import LoginThrottle.Rpc.Call
import LoginThrottle.Rpc.Delivery
import LoginThrottle.Rpc.Exchange
import LoginThrottle.Rpc.Frame
import LoginThrottle.Rpc.Message
import LoginThrottle.Rpc.Metadata
import LoginThrottle.Rpc.Status
import LoginThrottle.Rule.Membership
import LoginThrottle.Rule.Store
import LoginThrottle.Rule.Table
import LoginThrottle.Station
import LoginThrottle.Sweep
import LoginThrottle.Text.Alphanumeric
import LoginThrottle.Text.Percent
import LoginThrottle.Text.Quoted
import LoginThrottle.Text.Ranges
import LoginThrottle.Text.Space
import LoginThrottle.Text.Unassigned
import LoginThrottle.Text.Utf8
import LoginThrottle.Text.Visible
import LoginThrottle.Throttle
import LoginThrottle.Throttle.Description
import LoginThrottle.Time
import LoginThrottle.Yaml.Composition
import LoginThrottle.Yaml.Dialect
import LoginThrottle.Yaml.Lexer
import LoginThrottle.Yaml.Node
import LoginThrottle.Yaml.Scalar
import LoginThrottle.Yaml.Tag
import LoginThrottle.Yaml.Text
import LoginThrottle.Yaml.Token
import LoginThrottle.Yaml12.Cursor
import LoginThrottle.Yaml12.Lexer
import LoginThrottle.Yaml12.Scalar
import LoginThrottle.Yaml12.Tag
import LoginThrottle.Yaml12.Value
