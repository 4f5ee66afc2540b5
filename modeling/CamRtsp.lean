import CamRtsp.Foundation.RustText
import CamRtsp.Foundation.CrlfLines
import CamRtsp.Foundation.IncrementalFraming
import CamRtsp.Foundation.BigEndian
import CamRtsp.Core
import CamRtsp.Request
import CamRtsp.RequestFraming
import CamRtsp.RequestRoundTrip
import CamRtsp.Foundation.AnnexB
import CamRtsp.SplitH264
import CamRtsp.SplitLengthPrefixed
import CamRtsp.Foundation.ResyncQueue
import CamRtsp.Broadcaster
import CamRtsp.BroadcasterDelivery
import CamRtsp.Foundation.H264Payload
import CamRtsp.Foundation.RtpFormat
import CamRtsp.Rtp
import CamRtsp.RtpStream
import CamRtsp.Auth
import CamRtsp.Target
import CamRtsp.DigestCompleteness
import CamRtsp.Transport
import CamRtsp.Handle
import CamRtsp.HandleSteps
import CamRtsp.SessionMachine
import CamRtsp.AccessControl
import CamRtsp.Foundation.StepTrace
import CamRtsp.MediaSession
import CamRtsp.ClientReader
import CamRtsp.ResponseFraming
import CamRtsp.ParsedRequest
import CamRtsp.ResponseTexts
import CamRtsp.ControlStream
import CamRtsp.KeyframeRequests
import CamRtsp.RecoveryPoints
import CamRtsp.Foundation.NearestRate
import CamRtsp.CameraFormats
import CamRtsp.ControlUrls
import CamRtsp.SplitAnnexB
import CamRtsp.SequenceHeader
import CamRtsp.WindowsEncoder
import CamRtsp.Foundation.PastTime
import CamRtsp.LiveConnection
import CamRtsp.PublicSide
import CamRtsp.PlayPause
import CamRtsp.StreamService
import CamRtsp.StreamOwnership
import CamRtsp.Foundation.LengthPrefix
import CamRtsp.UnitTiling
import CamRtsp.AvccRecords
import CamRtsp.TransportNegotiation
import CamRtsp.RequestBodies
import CamRtsp.Foundation.Unwinding
import CamRtsp.ViewerIsolation
import CamRtsp.NonceExpiry
import CamRtsp.Foundation.PassLoop
import CamRtsp.ControlBuffer
import CamRtsp.FuFragments
import CamRtsp.Foundation.SwapSweep
import CamRtsp.RtspServer
import CamRtsp.ConnectionWorkers
import CamRtsp.NativeBridge
import CamRtsp.ServerHandles
import CamRtsp.NativeStreams
import CamRtsp.ServiceServers
import CamRtsp.ServerSystem
import CamRtsp.SystemViewers
import CamRtsp.SystemConnections
import CamRtsp.Foundation.Obligation
import CamRtsp.MacOsCapture
import CamRtsp.WindowsCapture
import CamRtsp.WindowsTransform
import CamRtsp.WindowsQueues
import CamRtsp.Foundation.BoundedQueue
import CamRtsp.KeyframeObligation
import CamRtsp.WindowsKeyframes
import CamRtsp.Foundation.CallContract
import CamRtsp.CameraEncoder
import CamRtsp.EncoderThread
import CamRtsp.EncoderShutdown
import CamRtsp.EncoderSteps
import CamRtsp.EncoderResources
import CamRtsp.EncoderKeyframes
import CamRtsp.ConnectionTiming
import CamRtsp.Foundation.Base64
import CamRtsp.SessionDescription
import CamRtsp.CliProcess
import CamRtsp.CliShutdown
import CamRtsp.CliAnnouncements
import CamRtsp.CliArguments
