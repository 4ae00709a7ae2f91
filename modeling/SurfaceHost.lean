import SurfaceHost.Main
import SurfaceHost.Backlog.Machine
import SurfaceHost.Surface.Basic
import SurfaceHost.View.Frame
import SurfaceHost.Proofs.Backlog
import SurfaceHost.Proofs.Monitor
import SurfaceHost.Proofs.InputSide
import SurfaceHost.Proofs.View.Elementary
import SurfaceHost.Proofs.View.Input
import SurfaceHost.Proofs.View.Turn
import SurfaceHost.Proofs.View.Run
import SurfaceHost.Proofs.PointerCalls
import SurfaceHost.Proofs.PrimaryPointer
import SurfaceHost.Proofs.MouseButton
import SurfaceHost.Proofs.FramePlacement
import SurfaceHost.Proofs.Surface.History
import SurfaceHost.Proofs.SurfaceCallbacks
import SurfaceHost.Proofs.RenderRequests
import SurfaceHost.Proofs.BatchTransport
import SurfaceHost.Proofs.Alarms
import SurfaceHost.Proofs.BatchRequests
import SurfaceHost.Proofs.GestureGrammar
import SurfaceHost.Proofs.ResponseFormat
import SurfaceHost.Proofs.View.Threads
import SurfaceHost.Proofs.LongPress
import SurfaceHost.Proofs.Batch.Flushing
import SurfaceHost.Proofs.FlushFaults
import SurfaceHost.Proofs.BufferGrowth
import SurfaceHost.Proofs.TaskQueue
import SurfaceHost.Proofs.BatchFailures
import SurfaceHost.Proofs.FlushOutcome
import SurfaceHost.Proofs.View.Engine
import SurfaceHost.Proofs.FailedJobs
import SurfaceHost.Proofs.View.Growth
import SurfaceHost.Proofs.FlingBounds
import SurfaceHost.Proofs.View.Lasting
import SurfaceHost.Proofs.KineticScroll
import SurfaceHost.Proofs.Script.Plays
import SurfaceHost.Proofs.Replay
import SurfaceHost.Proofs.FlingStates
import SurfaceHost.Proofs.LongPressTiming
import SurfaceHost.Proofs.Presses
import SurfaceHost.Proofs.ScrollDistances
import SurfaceHost.Proofs.Floats
import SurfaceHost.Proofs.VelocityWindow
import SurfaceHost.Proofs.CleanPaths
import SurfaceHost.Proofs.NearestSettings
