import LamcoRdp.Lib.Runs
import LamcoRdp.Egfx.FlowController
import LamcoRdp.Egfx.FlowInvariant
import LamcoRdp.Egfx.FlowRace
import LamcoRdp.Egfx.Handler
import LamcoRdp.Server.Reinit
import LamcoRdp.Egfx.ColorConvert
import LamcoRdp.Egfx.ColorConvertSimd
import LamcoRdp.Egfx.ChromaSubsample
import LamcoRdp.Egfx.Yuv444Packing
import LamcoRdp.Damage.Detector
import LamcoRdp.Lib.Raster
import LamcoRdp.Egfx.Encoder
import LamcoRdp.Egfx.IdrRequests
import LamcoRdp.Lib.Buffer
import LamcoRdp.Lib.RowMajor
import LamcoRdp.Server.AvcCoherence
import LamcoRdp.Server.LastFrame
import LamcoRdp.Server.PlanarCoherence
import LamcoRdp.Server.PlanarEncoder
import LamcoRdp.Server.PlanarRoundTrip
import LamcoRdp.Server.PaddingChecked
import LamcoRdp.Server.PlanarHistory
import LamcoRdp.Server.PlanarChecked
import LamcoRdp.Lib.Gop
import LamcoRdp.Server.Decodability
import LamcoRdp.Server.Orientation
import LamcoRdp.Server.Stride
import LamcoRdp.Egfx.Negotiation
import LamcoRdp.Server.FrameSymmetry
import LamcoRdp.Server.Reactivation
import LamcoRdp.Server.Stress
import LamcoRdp.Clipboard.Answers
import LamcoRdp.Damage.Drift
import LamcoRdp.Damage.Merge
import LamcoRdp.Damage.Tiles
import LamcoRdp.Damage.EdgeTiles
import LamcoRdp.Damage.TwoFrames
import LamcoRdp.Egfx.AuxStream
import LamcoRdp.Lib.Mailbox
import LamcoRdp.Server.Resize
import LamcoRdp.Clipboard.CacheAge
import LamcoRdp.Clipboard.Download
import LamcoRdp.Clipboard.Outgoing
import LamcoRdp.Clipboard.Ownership
import LamcoRdp.Clipboard.ReadyGate
import LamcoRdp.Lib.AsyncIo
import LamcoRdp.Lib.Pairing
import LamcoRdp.Lib.RunLength
import LamcoRdp.Security.RateLimit
import LamcoRdp.Server.BitmapPath
import LamcoRdp.Server.GraphicsDrain
import LamcoRdp.Session.TokenManager
import LamcoRdp.Session.TokenStore
import LamcoRdp.Transport.Dispatcher
import LamcoRdp.Transport.Lockout
import LamcoRdp.Transport.PreFedStream
import LamcoRdp.Clipboard.MutterListeners
import LamcoRdp.Clipboard.TextPayload
import LamcoRdp.Clipboard.TextReadings
import LamcoRdp.Clipboard.TextRoundTrip
import LamcoRdp.Clipboard.KlipperCache
import LamcoRdp.Clipboard.KlipperBudget
import LamcoRdp.Lib.LastWrite
import LamcoRdp.Lib.UnixPath
import LamcoRdp.Clipboard.FuseNames
import LamcoRdp.Lib.PercentCode
import LamcoRdp.Clipboard.FileUris
import LamcoRdp.Session.MutterEis
import LamcoRdp.Session.MutterLifecycle
import LamcoRdp.Performance.AdaptiveFps
import LamcoRdp.Performance.EncodingAdaptation
import LamcoRdp.Performance.QpConvergence
import LamcoRdp.Damage.ReferenceDiscipline
import LamcoRdp.Damage.Checked
import LamcoRdp.Damage.PixelKernels
import LamcoRdp.Server.Metablock
import LamcoRdp.Server.PlanarDamage
import LamcoRdp.Lib.Chunks
import LamcoRdp.Lib.Utf8
import LamcoRdp.Lib.Utf16
import LamcoRdp.Lib.Signed16
import LamcoRdp.Audio.Adpcm
import LamcoRdp.Audio.AdpcmLockStep
import LamcoRdp.Audio.AdpcmBlocks
import LamcoRdp.Audio.AdpcmExact
import LamcoRdp.Config.Validate
import LamcoRdp.Lib.NestedMaps
import LamcoRdp.Config.EnvOverlay
import LamcoRdp.Server.StartPipeline
import LamcoRdp.Lib.Word32
import LamcoRdp.Lib.Coalesce
import LamcoRdp.Lib.Histories
import LamcoRdp.Lib.Utf16Stream
import LamcoRdp.Input.MouseBatch
import LamcoRdp.Input.Keyboard
import LamcoRdp.Input.Batching
import LamcoRdp.Input.UnicodeTyping
import LamcoRdp.Input.CjkPaste
import LamcoRdp.Transport.PeerCharging
import LamcoRdp.Health.Monitor
import LamcoRdp.Lib.Rectangles
import LamcoRdp.Multimon.Layout
import LamcoRdp.Multimon.Transform
import LamcoRdp.Server.StressAux
import LamcoRdp.Lib.TokenBucket
import LamcoRdp.Server.FrameRegulator
import LamcoRdp.Lib.SlidingWindow
import LamcoRdp.Performance.FpsConvergence
import LamcoRdp.Lib.Sojourn
import LamcoRdp.Performance.ActivityTimes
import LamcoRdp.Audio.Pipeline
import LamcoRdp.Egfx.AuxInterval
import LamcoRdp.Lib.Publishing
import LamcoRdp.Clipboard.WlClipboard
import LamcoRdp.Clipboard.RemoteCopies
import LamcoRdp.Clipboard.WaylandMonitor
import LamcoRdp.Lib.Throttle
import LamcoRdp.Clipboard.LastChange
import LamcoRdp.Lib.Delimited
import LamcoRdp.Egfx.NalUnits
import LamcoRdp.Egfx.HardwareEncoder
import LamcoRdp.Egfx.Nvenc
import LamcoRdp.Egfx.Vaapi
import LamcoRdp.Clipboard.DataRequests
import LamcoRdp.Lib.Watch
import LamcoRdp.Health.ClipboardReports
import LamcoRdp.Health.DbusBridge
import LamcoRdp.Lib.Paging
import LamcoRdp.Clipboard.FuseListing
import LamcoRdp.Transport.RdCleanPath
import LamcoRdp.Performance.LatencyGovernor
import LamcoRdp.Lib.Locks
import LamcoRdp.Session.LibeiInput
import LamcoRdp.Session.LibeiLocks
import LamcoRdp.Session.LibeiDeadlock
import LamcoRdp.Session.LibeiRouting
import LamcoRdp.Lib.Companding
import LamcoRdp.Audio.G711
import LamcoRdp.Lib.Standing
import LamcoRdp.Health.PortalBridge
import LamcoRdp.Session.PortalHandle
import LamcoRdp.Session.PortalFactory
