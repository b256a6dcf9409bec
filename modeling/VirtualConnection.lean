import VirtualConnection.Android.AdapterCycles
import VirtualConnection.Android.ControlMessages
import VirtualConnection.Android.NetworkSwitcher
import VirtualConnection.Android.ProtocolManager
import VirtualConnection.Android.QueueWatcher
import VirtualConnection.Android.Receiving
import VirtualConnection.Android.RetransmitRequests
import VirtualConnection.Android.SegmentManager
import VirtualConnection.Android.Sending
import VirtualConnection.Android.SendingThreads
import VirtualConnection.Android.Streams
import VirtualConnection.Lib.Backlog
import VirtualConnection.Lib.Bytes
import VirtualConnection.Lib.FirstMin
import VirtualConnection.Lib.Gaps
import VirtualConnection.Lib.Keyed
import VirtualConnection.Lib.Ownership
import VirtualConnection.Lib.Resequence
import VirtualConnection.Lib.Reservations
import VirtualConnection.Lib.RingBuffer
import VirtualConnection.Lib.Runs
import VirtualConnection.Lib.Search
import VirtualConnection.Lib.Streaks
import VirtualConnection.Lib.Text
import VirtualConnection.Lib.Transfer
import VirtualConnection.Lib.Truncation
import VirtualConnection.Linux.AdapterResources
import VirtualConnection.Linux.AdapterRun
import VirtualConnection.Linux.BlockingReceive
import VirtualConnection.Linux.BufferOwnership
import VirtualConnection.Linux.Callbacks
import VirtualConnection.Linux.ControlMessages
import VirtualConnection.Linux.Core
import VirtualConnection.Linux.CoreCalls
import VirtualConnection.Linux.Counter
import VirtualConnection.Linux.CsvReader
import VirtualConnection.Linux.DequeueWaits
import VirtualConnection.Linux.EnergyPredictor
import VirtualConnection.Linux.FailedDisconnect
import VirtualConnection.Linux.FinalNumbers
import VirtualConnection.Linux.Holding
import VirtualConnection.Linux.HostileFrames
import VirtualConnection.Linux.LineReader
import VirtualConnection.Linux.MalformedMessages
import VirtualConnection.Linux.Monitor
import VirtualConnection.Linux.NMPolicyHistoryBased
import VirtualConnection.Linux.NMPolicyThroughputAware
import VirtualConnection.Linux.NetworkSwitcher
import VirtualConnection.Linux.PeerCommands
import VirtualConnection.Linux.PredictedBandwidth
import VirtualConnection.Linux.PredictedEnergy
import VirtualConnection.Linux.ProtocolManager
import VirtualConnection.Linux.QuietPeriod
import VirtualConnection.Linux.ReceivePath
import VirtualConnection.Linux.ReceiverLoop
import VirtualConnection.Linux.Reconnect
import VirtualConnection.Linux.Segment
import VirtualConnection.Linux.SegmentManager
import VirtualConnection.Linux.SegmentQueue
import VirtualConnection.Linux.SenderLoop
import VirtualConnection.Linux.Sending
import VirtualConnection.Linux.SentLists
import VirtualConnection.Linux.ServerAdapter
import VirtualConnection.Linux.ServerSocket
import VirtualConnection.Linux.SleepCycle
import VirtualConnection.Linux.Streams
import VirtualConnection.Linux.SwitchDecisions
import VirtualConnection.Linux.SwitcherThreads
import VirtualConnection.Linux.TraceRunner
import VirtualConnection.Linux.Traffic
import VirtualConnection.Linux.TrafficHistoryFile
import VirtualConnection.Linux.TrafficHistoryTable
import VirtualConnection.Linux.TrafficMerge
import VirtualConnection.Linux.Transactions
import VirtualConnection.Linux.WaitReceiving
import VirtualConnection.Linux.WrapAround
import VirtualConnection.System.AndroidToLinux
import VirtualConnection.System.ControlMessages
import VirtualConnection.System.Delivery
import VirtualConnection.System.LinuxToAndroid
import VirtualConnection.System.Messages
import VirtualConnection.System.Upstream
