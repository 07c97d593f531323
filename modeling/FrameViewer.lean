import FrameViewer.Engine.Scripted
import FrameViewer.Errand
import FrameViewer.Loop.Rehearsal
import FrameViewer.Main
import FrameViewer.Proofs.ActionOutcomes
import FrameViewer.Proofs.EventReports
import FrameViewer.Proofs.FirstFailure
import FrameViewer.Proofs.ResourceLifecycle
import FrameViewer.Proofs.StaleCallbacks
import FrameViewer.Proofs.FrameRequests
import FrameViewer.Proofs.RequestAccounts
import FrameViewer.Proofs.StaleRequests
import FrameViewer.Proofs.FrameUploads
import FrameViewer.Proofs.PictureTurns
import FrameViewer.Proofs.PictureMoves
import FrameViewer.Proofs.PicturesInOrder
import FrameViewer.Proofs.ParkedTasks
import FrameViewer.Proofs.RedrawRequests
import FrameViewer.Proofs.NextFrame
import FrameViewer.Proofs.SharedBooks
import FrameViewer.Proofs.ProbeTrials
import FrameViewer.Proofs.TierNegotiation
import FrameViewer.Proofs.ErrorTelling
import FrameViewer.Proofs.TierRejection
import FrameViewer.Proofs.ObjectLifetimes
import FrameViewer.Proofs.FrameShapes
import FrameViewer.Proofs.HeldKeys
import FrameViewer.Proofs.ExactStints
import FrameViewer.Proofs.NegotiationOutcome
import FrameViewer.Proofs.SurfaceFollowsWindow
import FrameViewer.Proofs.FrozenPlayback
import FrameViewer.Proofs.ShaderChecks
import FrameViewer.Proofs.BuildFailures
import FrameViewer.Proofs.BeepQueue
import FrameViewer.Proofs.ExecutorRounds
import FrameViewer.Proofs.TimelyDelays
import FrameViewer.Proofs.StoppedLoops
import FrameViewer.Proofs.LoopHandling
import FrameViewer.Proofs.ProgramLoads
import FrameViewer.Proofs.AlignedWords
import FrameViewer.Proofs.NumberedStorage
import FrameViewer.Proofs.HandOvers
import FrameViewer.Proofs.CentredViewport
import FrameViewer.Proofs.BeepMaking
