import CourierTrack.Bench.Clock
import CourierTrack.Bench.Happening
import CourierTrack.Bench.Node
import CourierTrack.Bench.Schedule
import CourierTrack.Bench.Stage
import CourierTrack.Bench.Trip
import CourierTrack.Bench.Viewing
import CourierTrack.Bench.World
import CourierTrack.Channel.Backoff
import CourierTrack.Channel.Basic
import CourierTrack.Channel.Event
import CourierTrack.Channel.Machine
import CourierTrack.Channel.Machine.Run
import CourierTrack.Channel.Run
import CourierTrack.Command.Arguments
import CourierTrack.Command.Basic
import CourierTrack.Command.Error
import CourierTrack.Command.Flag
import CourierTrack.Command.Performance
import CourierTrack.Command.Program
import CourierTrack.Command.Setup
import CourierTrack.Command.Target
import CourierTrack.Courier.Basic
import CourierTrack.Courier.Desk
import CourierTrack.Courier.Record
import CourierTrack.Courier.Task
import CourierTrack.Courier.Task.Run
import CourierTrack.Decimal.Binary
import CourierTrack.Decimal.Grammar
import CourierTrack.Decimal.Layout
import CourierTrack.Decimal.Literal
import CourierTrack.Decimal.Rounding
import CourierTrack.Decimal.Shortest
import CourierTrack.Delivery.Basic
import CourierTrack.Delivery.Status
import CourierTrack.Delivery.Trail
import CourierTrack.Eta
import CourierTrack.Files.Basic
import CourierTrack.Files.Path
import CourierTrack.Files.Tree
import CourierTrack.Frame.Basic
import CourierTrack.Frame.Decode
import CourierTrack.Frame.Encode
import CourierTrack.Frame.Grammar
import CourierTrack.Frame.Same
import CourierTrack.Frame.Timestamp
import CourierTrack.Gate
import CourierTrack.Gate.Run
import CourierTrack.Geo.Distance
import CourierTrack.Geo.Point
import CourierTrack.Geo.Sample
import CourierTrack.Ini.Basic
import CourierTrack.Ini.Reader
import CourierTrack.Json.Basic
import CourierTrack.Json.Reader
import CourierTrack.Json.Writer
import CourierTrack.Main
import CourierTrack.Proofs.Acknowledgements
import CourierTrack.Proofs.AdvisoryTimes
import CourierTrack.Proofs.ArrivalEstimates
import CourierTrack.Proofs.ChannelConservation
import CourierTrack.Proofs.ChannelLifecycle
import CourierTrack.Proofs.ChannelStop
import CourierTrack.Proofs.ChannelTurns
import CourierTrack.Proofs.ClearedWatches
import CourierTrack.Proofs.CourierBooks
import CourierTrack.Proofs.CourierSteps
import CourierTrack.Proofs.CoveringBackfill
import CourierTrack.Proofs.DecodedFrames
import CourierTrack.Proofs.DoublingWaits
import CourierTrack.Proofs.FixLines
import CourierTrack.Proofs.FloatRange
import CourierTrack.Proofs.FrameGrammar
import CourierTrack.Proofs.FrameReadback
import CourierTrack.Proofs.GateAdmissions
import CourierTrack.Proofs.Handover
import CourierTrack.Proofs.InboundTexts
import CourierTrack.Proofs.IniLines
import CourierTrack.Proofs.IniMisreadings
import CourierTrack.Proofs.IniValues
import CourierTrack.Proofs.JsonNumbers
import CourierTrack.Proofs.JsonReadback
import CourierTrack.Proofs.JsonValues
import CourierTrack.Proofs.KnownSettings
import CourierTrack.Proofs.MachineRules
import CourierTrack.Proofs.MergedTrail
import CourierTrack.Proofs.NodeTurns
import CourierTrack.Proofs.NumberLiterals
import CourierTrack.Proofs.PathSpelling
import CourierTrack.Proofs.PointEquality
import CourierTrack.Proofs.PublishingNode
import CourierTrack.Proofs.ReconnectSchedule
import CourierTrack.Proofs.RelayLink
import CourierTrack.Proofs.RelayOrder
import CourierTrack.Proofs.Rendering
import CourierTrack.Proofs.SessionRounds
import CourierTrack.Proofs.SettingsFields
import CourierTrack.Proofs.SettingsRange
import CourierTrack.Proofs.SettingsReadback
import CourierTrack.Proofs.SettingsRoundTrip
import CourierTrack.Proofs.SourceDelivery
import CourierTrack.Proofs.TapReading
import CourierTrack.Proofs.TapTurns
import CourierTrack.Proofs.TrailCollapse
import CourierTrack.Proofs.TrailReplication
import CourierTrack.Proofs.WalkedRoutes
import CourierTrack.Proofs.WatcherUpdates
import CourierTrack.Proofs.WatchingNode
import CourierTrack.Proofs.WrittenSettings
import CourierTrack.Relay
import CourierTrack.Relay.Run
import CourierTrack.Settings.Basic
import CourierTrack.Settings.File
import CourierTrack.Settings.Reader
import CourierTrack.Settings.Writer
import CourierTrack.Site
import CourierTrack.Source.Feed
import CourierTrack.Source.Grammar
import CourierTrack.Source.Line
import CourierTrack.Source.Rota
import CourierTrack.Source.Run
import CourierTrack.Source.Watch
import CourierTrack.Text.Blank
import CourierTrack.Text.Combining
import CourierTrack.Text.Composition
import CourierTrack.Text.Direction
import CourierTrack.Text.Joining
import CourierTrack.Text.Ranges
import CourierTrack.Text.Replace
import CourierTrack.Time.Calendar
import CourierTrack.Time.Instant
import CourierTrack.Time.Span
import CourierTrack.Url.Basic
import CourierTrack.Url.Domain
import CourierTrack.Url.Host
import CourierTrack.Url.Label
import CourierTrack.Url.Mapping
import CourierTrack.Url.Percent
import CourierTrack.Url.Punycode
import CourierTrack.Url.Reader
import CourierTrack.Watcher.Basic
import CourierTrack.Watcher.History
import CourierTrack.Watcher.Reconciler
import CourierTrack.Watcher.Render
import CourierTrack.Watcher.Run
import CourierTrack.Watcher.Session
import CourierTrack.Watcher.Session.Run
