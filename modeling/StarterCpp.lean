import StarterCpp.CommonUtils.DataDelivery
import StarterCpp.CommonUtils.DataHandler
import StarterCpp.CommonUtils.DataHandlerShutdown
import StarterCpp.CommonUtils.SnoozableTimer
import StarterCpp.CommonUtils.SnoozableWatch
import StarterCpp.CommonUtils.SnoozeArming
import StarterCpp.CommonUtils.SnoozeDeadline
import StarterCpp.CommonUtils.Timer
import StarterCpp.CommonUtils.TimerCalls
import StarterCpp.CommonUtils.TimerRestart
import StarterCpp.CommonUtils.TimerStop
import StarterCpp.CycloneDDS.DeclarationMatching
import StarterCpp.CycloneDDS.EmittedLines
import StarterCpp.CycloneDDS.FieldMatching
import StarterCpp.CycloneDDS.FieldRoundTrip
import StarterCpp.CycloneDDS.GeneratedCode
import StarterCpp.CycloneDDS.HeaderOfFiles
import StarterCpp.CycloneDDS.HeaderRoundTrip
import StarterCpp.CycloneDDS.Idl
import StarterCpp.CycloneDDS.IdlLayout
import StarterCpp.CycloneDDS.IdlParser
import StarterCpp.CycloneDDS.IdlReadBack
import StarterCpp.CycloneDDS.JsonHelperGenerator
import StarterCpp.CycloneDDS.SchemaOrder
import StarterCpp.CycloneDDS.StructRoundTrip
import StarterCpp.CycloneDDS.StructTable
import StarterCpp.CycloneDDS.TopologicalSort
import StarterCpp.CycloneDDS.TypeText
import StarterCpp.Library.BitFields
import StarterCpp.Library.Collector
import StarterCpp.Library.DependencyOrder
import StarterCpp.Library.Endian
import StarterCpp.Library.Entries
import StarterCpp.Library.Framing
import StarterCpp.Library.History
import StarterCpp.Library.Interleaving
import StarterCpp.Library.Pieces
import StarterCpp.Library.Refinement
import StarterCpp.Library.Regex
import StarterCpp.Library.RegexMatching
import StarterCpp.Library.RegexSearch
import StarterCpp.Library.Run
import StarterCpp.Library.Scanner
import StarterCpp.Library.SearchWays
import StarterCpp.Library.Text
import StarterCpp.Library.ThreadSlot
import StarterCpp.Library.Waiting
import StarterCpp.Omniscope.Clock
import StarterCpp.Omniscope.Crow
import StarterCpp.Omniscope.DdsDelivery
import StarterCpp.Omniscope.DdsProgress
import StarterCpp.Omniscope.DdsRefinement
import StarterCpp.Omniscope.DdsThreads
import StarterCpp.Omniscope.EmptyPlayback
import StarterCpp.Omniscope.MonitorBroadcasts
import StarterCpp.Omniscope.MonitorConnections
import StarterCpp.Omniscope.MonitorPage
import StarterCpp.Omniscope.MonitorRecording
import StarterCpp.Omniscope.MonitorServer
import StarterCpp.Omniscope.MonitorViews
import StarterCpp.Omniscope.Playback
import StarterCpp.Omniscope.PlaybackControl
import StarterCpp.Omniscope.PlaybackEngine
import StarterCpp.Omniscope.PlaybackEvents
import StarterCpp.Omniscope.PlaybackThread
import StarterCpp.Omniscope.PlaybackWakeup
import StarterCpp.Omniscope.RecordedPlayback
import StarterCpp.Omniscope.RecordedSessions
import StarterCpp.Omniscope.Recorder
import StarterCpp.Omniscope.SkippedLines
import StarterCpp.Omniscope.Transport
import StarterCpp.Omniscope.TransportDds
import StarterCpp.Omniscope.TransportZyre
import StarterCpp.Omniscope.UninterruptedPlayback
import StarterCpp.Omniscope.UploadedPlayback
import StarterCpp.PubSub.BufferInvariant
import StarterCpp.PubSub.Completeness
import StarterCpp.PubSub.FragmentHeader
import StarterCpp.PubSub.Fragmentation
import StarterCpp.PubSub.Isolation
import StarterCpp.PubSub.ManySenders
import StarterCpp.PubSub.PublishBounds
import StarterCpp.PubSub.Publisher
import StarterCpp.PubSub.Reassembly
import StarterCpp.PubSub.ReceiveLoop
import StarterCpp.PubSub.Restart
import StarterCpp.PubSub.SingleSender
import StarterCpp.PubSub.Subscriber
import StarterCpp.PubSub.SubscriberSocket
import StarterCpp.PubSub.Traffic
import StarterCpp.Vita49.ByteSwap
import StarterCpp.Vita49.ContextFixedPoint
import StarterCpp.Vita49.ContextLayout
import StarterCpp.Vita49.ContextPacket
import StarterCpp.Vita49.ContextRoundTrip
import StarterCpp.Vita49.DecodedValues
import StarterCpp.Vita49.FileRoundTrip
import StarterCpp.Vita49.HeaderRoundTrip
import StarterCpp.Vita49.PacketBounds
import StarterCpp.Vita49.PacketHeader
import StarterCpp.Vita49.Quantization
import StarterCpp.Vita49.Saturation
import StarterCpp.Vita49.SignalDataPacket
import StarterCpp.Vita49.SignalRoundTrip
import StarterCpp.Vita49.SignalSplitting
import StarterCpp.Vita49.StreamComposition
import StarterCpp.Vita49.StreamFraming
import StarterCpp.Vita49.Types
import StarterCpp.Vita49.Vita49Codec
