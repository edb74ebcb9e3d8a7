import H3ntun.Foundation.StructPack
import H3ntun.Foundation.OrderedDict
import H3ntun.Foundation.ErasureBlocks
import H3ntun.Foundation.TransitionSystem
import H3ntun.Foundation.SlidingBitmap
import H3ntun.Basic
import H3ntun.ReplayWindow
import H3ntun.ReplayReference
import H3ntun.SessionRestart
import H3ntun.FrameCodec
import H3ntun.FrameCodecRoundTrip
import H3ntun.Fragment
import H3ntun.Reassembler
import H3ntun.GenuineAssembly
import H3ntun.ReassemblerSteps
import H3ntun.ReassemblyExact
import H3ntun.ReliableSender
import H3ntun.Agent
import H3ntun.World
import H3ntun.AgentSteps
import H3ntun.SealedFrames
import H3ntun.ReceiverSound
import H3ntun.Delivery
import H3ntun.Acknowledgement
import H3ntun.Reflection
import H3ntun.Retransmission
import H3ntun.SenderQueues
import H3ntun.Foundation.Numerals
import H3ntun.JsonValue
import H3ntun.JsonDecoding
import H3ntun.ReplayState
import H3ntun.RestoreErrors
import H3ntun.RestoredWindows
import H3ntun.PersistentReplay
import H3ntun.Checkpoints
import H3ntun.CompletedExpiry
import H3ntun.RejectedFragments
import H3ntun.Nonces
import H3ntun.SendingThreads
import H3ntun.Foundation.Lifecycle
import H3ntun.SenderLifecycle
import H3ntun.LateFragments
import H3ntun.Configuration
import H3ntun.SenderDeadlines
import H3ntun.PacketAge
import H3ntun.SenderSteps
import H3ntun.SenderBounds
import H3ntun.SenderSpacing
import H3ntun.ReassemblerBounds
import H3ntun.EncodeChecks
import H3ntun.SendPath
import H3ntun.PumpedPackets
import H3ntun.ForwardingLoops
import H3ntun.Foundation.OnesComplement
import H3ntun.Ipv4
import H3ntun.RawUdp
import H3ntun.PacketChecksums
import H3ntun.Foundation.Ranking
import H3ntun.SourceScanner
import H3ntun.ScannerSelection
import H3ntun.ProbePackets
import H3ntun.ScannerVerdict
import H3ntun.CandidateSources
import H3ntun.CandidateExpansion
import H3ntun.ConfigValues
import H3ntun.ProbeRoundTrip
import H3ntun.WriterWakeups
import H3ntun.ConfigUsable
import H3ntun.ConfigErrors
import H3ntun.Foundation.Ledger
import H3ntun.Metrics
import H3ntun.MeteredAgent
import H3ntun.MeteredSteps
import H3ntun.MetricsLedger
import H3ntun.MessageFlow
import H3ntun.ReceptionLedger
import H3ntun.MessageLedger
import H3ntun.TunnelTotals
import H3ntun.Health
import H3ntun.Keepalive
import H3ntun.StatusChecks
import H3ntun.ScanRun
import H3ntun.Foundation.RankedQueue
import H3ntun.LinkEmulator
import H3ntun.LinkFaults
import H3ntun.AsymmetricLab
