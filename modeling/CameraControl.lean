import CameraControl.Controller.Handling
import CameraControl.Simulator
import CameraControl.Stage.Watch
import CameraControl.Output
import CameraControl.Dispatcher.Gated
import CameraControl.Dispatcher.Callers
import CameraControl.Agent.Calls
import CameraControl.Agent.Crew
import CameraControl.Main
import CameraControl.Proofs.Primitives
import CameraControl.Proofs.Guise
import CameraControl.Proofs.Recording
import CameraControl.Proofs.Runs
import CameraControl.Proofs.Layers
import CameraControl.Proofs.Quiet
import CameraControl.Proofs.Custody
import CameraControl.Proofs.Tenure
import CameraControl.Proofs.Serials
import CameraControl.Proofs.Awaiting
import CameraControl.Proofs.Ownership
import CameraControl.Proofs.Openings
import CameraControl.Proofs.Release
import CameraControl.Proofs.OpenDevice
import CameraControl.Proofs.Shutdown
import CameraControl.Proofs.Reopening
import CameraControl.Proofs.Lockstep
import CameraControl.Proofs.Isolation
import CameraControl.Proofs.Sketches
import CameraControl.Proofs.Submissions
import CameraControl.Proofs.Mailbox
import CameraControl.Proofs.Stages
import CameraControl.Proofs.ActionTable
import CameraControl.Proofs.Strays
import CameraControl.Proofs.Waiters
import CameraControl.Proofs.Dispatching
import CameraControl.Proofs.Callers
import CameraControl.Proofs.Labelled
import CameraControl.Proofs.Courses
import CameraControl.Proofs.Threads
import CameraControl.Proofs.Posting
import CameraControl.Proofs.Standstill
import CameraControl.Proofs.InTurn
import CameraControl.Proofs.Draining
import CameraControl.Proofs.Crews
import CameraControl.Proofs.WindingUp
import CameraControl.Proofs.Indices
import CameraControl.Proofs.Enrollment
import CameraControl.Proofs.Rigs
import CameraControl.Proofs.Rigging
import CameraControl.Proofs.Surfaces
import CameraControl.Proofs.Generations
import CameraControl.Proofs.Streaming
import CameraControl.Proofs.Stocktaking
import CameraControl.Proofs.Stranded
import CameraControl.Proofs.Traced
import CameraControl.Proofs.Closing
import CameraControl.Proofs.Stopping
import CameraControl.Proofs.OwnShutdown
import CameraControl.Proofs.Cues
import CameraControl.Proofs.FocusCallbacks
import CameraControl.Proofs.Triggers
import CameraControl.Proofs.Attribution
import CameraControl.Proofs.FocusLock
import CameraControl.Proofs.StaleSessions
import CameraControl.Proofs.Frames
import CameraControl.Proofs.Targets
import CameraControl.Proofs.StaleCameras
import CameraControl.Proofs.Refusals
import CameraControl.Proofs.Fallbacks
import CameraControl.Proofs.PreviewStarts
import CameraControl.Proofs.Textures
import CameraControl.Proofs.Rounding
import CameraControl.Proofs.Projection
import CameraControl.Proofs.Reporting
import CameraControl.Proofs.Movement
import CameraControl.Proofs.Inventories
import CameraControl.Proofs.Histories
import CameraControl.Proofs.Drafts
import CameraControl.Proofs.Settling
