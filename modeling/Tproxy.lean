import Tproxy.Lib.LinkedChain
import Tproxy.Lib.StrictScan
import Tproxy.Lib.RingWindow
import Tproxy.Lib.ByteBuffer
import Tproxy.Lib.CString
import Tproxy.Lib.Inet
import Tproxy.Lib.ProbeChain
import Tproxy.Lib.StridedOrbit
import Tproxy.Lib.SwapPartition
import Tproxy.Lib.DoublyLinked
import Tproxy.Lib.FdLog
import Tproxy.Lib.Program
import Tproxy.Lib.DnsMessage
import Tproxy.Lib.UseLog
import Tproxy.Lib.FirstFailure
import Tproxy.Lib.LastWins
import Tproxy.Mempool.Pool
import Tproxy.Mempool.Growth
import Tproxy.Mempool.Invariant
import Tproxy.Mempool.Steps
import Tproxy.Mempool.Calls
import Tproxy.Mempool.Safety
import Tproxy.Mempool.Accounting
import Tproxy.Selector.State
import Tproxy.Selector.Candidate
import Tproxy.Selector.Update
import Tproxy.Selector.Choice
import Tproxy.Selector.Run
import Tproxy.Selector.Attempts
import Tproxy.Selector.Freshness
import Tproxy.Selector.Score
import Tproxy.Selector.Window
import Tproxy.Selector.Monotone
import Tproxy.Selector.TcpProbe
import Tproxy.Selector.ProbeStream
import Tproxy.Selector.ProbeVerdict
import Tproxy.Selector.ProbeRounds
import Tproxy.Selector.Probes
import Tproxy.Selector.ProbeCounts
import Tproxy.Selector.TcpProbes
import Tproxy.Selector.TcpProbeMoves
import Tproxy.Selector.UdpProbes
import Tproxy.Selector.ProbesOnce
import Tproxy.Selector.ProbeTrace
import Tproxy.Selector.ProbeSockets
import Tproxy.Selector.ServerSelector
import Tproxy.Tcp.Socket
import Tproxy.Tcp.Session
import Tproxy.Tcp.Chunks
import Tproxy.Tcp.Relay
import Tproxy.Tcp.Handshake
import Tproxy.Tcp.Accept
import Tproxy.Tcp.Stream
import Tproxy.Tcp.OpenChunk
import Tproxy.Tcp.DownFrame
import Tproxy.Tcp.Downstream
import Tproxy.Tcp.Opening
import Tproxy.Tcp.Upstream
import Tproxy.Tcp.RelayEvent
import Tproxy.Tcp.Servers
import Tproxy.Tcp.States
import Tproxy.Tcp.Connecting
import Tproxy.Tcp.Retry
import Tproxy.Tcp.Start
import Tproxy.Tcp.Run
import Tproxy.Tcp.Replay
import Tproxy.Tcp.Integrity
import Tproxy.Tcp.Failover
import Tproxy.Tcp.SelectorCalls
import Tproxy.Tcp.ServerEof
import Tproxy.Tcp.Progress
import Tproxy.Tcp.Thread
import Tproxy.Tcp.ThreadRelay
import Tproxy.Tcp.ThreadHandshake
import Tproxy.Tcp.ThreadLoop
import Tproxy.Tcp.ThreadInv
import Tproxy.Tcp.ThreadSteps
import Tproxy.Tcp.ThreadRelease
import Tproxy.Tcp.ThreadClose
import Tproxy.Tcp.ThreadPhases
import Tproxy.Tcp.ThreadRelaySteps
import Tproxy.Tcp.ThreadConnect
import Tproxy.Tcp.ThreadServe
import Tproxy.Tcp.ThreadAccept
import Tproxy.Tcp.ThreadRuns
import Tproxy.Fakedns.Lookup
import Tproxy.Fakedns.Reverse
import Tproxy.Fakedns.Init
import Tproxy.Fakedns.World
import Tproxy.Fakedns.Chain
import Tproxy.Fakedns.Cache
import Tproxy.Fakedns.Run
import Tproxy.Lib.TimedRun
import Tproxy.Fakedns.Lease
import Tproxy.Fakedns.LeaseSafety
import Tproxy.Fakedns.Threads
import Tproxy.Fakedns.Coherence
import Tproxy.Fakedns.Save
import Tproxy.Fakedns.SaveFile
import Tproxy.Fakedns.SaveAtomic
import Tproxy.Fakedns.Restart
import Tproxy.Fakedns.Shape
import Tproxy.Fakedns.RestartSafety
import Tproxy.Fakedns.OneSlot
import Tproxy.Fakedns.Probing
import Tproxy.Fakedns.Expired
import Tproxy.Fakedns.RoundTrip
import Tproxy.Fakedns.Loading
import Tproxy.Fakedns.Refusal
import Tproxy.Fakedns.ProbeCycle
import Tproxy.Fakedns.FewNames
import Tproxy.Fakedns.Query
import Tproxy.Fakedns.Names
import Tproxy.Fakedns.Queries
import Tproxy.Fakedns.Answers
import Tproxy.Fakedns.Distinct
import Tproxy.Fakedns.Pointer
import Tproxy.Fakedns.PtrAnswers
import Tproxy.Fakedns.Grammar
import Tproxy.Fakedns.Encoding
import Tproxy.Fakedns.Encoder
import Tproxy.Fakedns.Replies
import Tproxy.Fakedns.Responses
import Tproxy.Fakedns.HeaderLaw
import Tproxy.Fakedns.Packet
import Tproxy.Fakedns.PacketSteps
import Tproxy.Fakedns.PacketRuns
import Tproxy.Fakedns.PacketLaws
import Tproxy.Fakedns.PtrGrammar
import Tproxy.Fakedns.PacketFrame
import Tproxy.Fakedns.Server
import Tproxy.Fakedns.ServerRuns
import Tproxy.Lib.LruTable
import Tproxy.Mempool.Arena
import Tproxy.Udp.Ss2022
import Tproxy.Udp.Session
import Tproxy.Udp.Ingress
import Tproxy.Udp.Create
import Tproxy.Udp.Reply
import Tproxy.Udp.Flush
import Tproxy.Udp.Batches
import Tproxy.Udp.Loop
import Tproxy.Lib.Ownership
import Tproxy.Lib.TableSweep
import Tproxy.Udp.Links
import Tproxy.Udp.Ledger
import Tproxy.Udp.Invariant
import Tproxy.Udp.Records
import Tproxy.Udp.Close
import Tproxy.Udp.Register
import Tproxy.Udp.Serve
import Tproxy.Udp.Replies
import Tproxy.Udp.Preserve
import Tproxy.Udp.Run
import Tproxy.Udp.NatTable
import Tproxy.Udp.Deferred
import Tproxy.Udp.Limits
import Tproxy.Udp.Sweep
import Tproxy.Udp.Actions
import Tproxy.Udp.Activity
import Tproxy.Udp.Arrivals
import Tproxy.Udp.ReplyActivity
import Tproxy.Udp.Expiry
import Tproxy.Udp.Timely
import Tproxy.Udp.Conserved
import Tproxy.Udp.Flows
import Tproxy.Udp.Delivery
import Tproxy.Udp.Translation
import Tproxy.Udp.Mapping
import Tproxy.Fakedns.Resolve
import Tproxy.Fakedns.Targets
import Tproxy.Main.ServerGroup
import Tproxy.Main.ServerFormat
import Tproxy.Main.Options
import Tproxy.Main.OptionsLaw
import Tproxy.Main.CommandLine
import Tproxy.Main.Threads
import Tproxy.Main.ThreadLives
import Tproxy.Main.ThreadSteps
import Tproxy.Main.WorkerSteps
import Tproxy.Main.ExitCode
import Tproxy.Main.ThreadSafety
import Tproxy.Main.Ranks
import Tproxy.Main.Shutdown
import Tproxy.Main.Settings
import Tproxy.Main.EventLoop
import Tproxy.Main.EventLoopSetup
import Tproxy.Main.EventLoopSockets
import Tproxy.Main.EventLoopCleanup
import Tproxy.Main.EventLoopRuns
