import TaskBarrier.Barrier.Promise
import TaskBarrier.Identifier
import TaskBarrier.Phase
import TaskBarrier.Barrier.Task
import TaskBarrier.Time.Duration
import TaskBarrier.Text.Invisible
import TaskBarrier.Text.Quoted
import TaskBarrier.Config
import TaskBarrier.Time.Instant
import TaskBarrier.Time.Cadence
import TaskBarrier.Failure
import TaskBarrier.Event
import TaskBarrier.Timer.Agenda
import TaskBarrier.Timer.Arming
import TaskBarrier.Timer.Basic
import TaskBarrier.Timer.Registry
import TaskBarrier.Timer.Facility
import TaskBarrier.Barrier.Basic
import TaskBarrier.Barrier.Accept
import TaskBarrier.Barrier.Await
import TaskBarrier.Barrier.Cancel
import TaskBarrier.Barrier.Firing
import TaskBarrier.Cooperative
import TaskBarrier.Scheduler.Frame
import TaskBarrier.Timer.Worker
import TaskBarrier.Scheduler.Basic
import TaskBarrier.Scheduler.Proceed
import TaskBarrier.Scheduler.Request
import TaskBarrier.Scheduler.Step
import TaskBarrier.Script.Action
import TaskBarrier.Script.Outcome
import TaskBarrier.Script.Session
import TaskBarrier.Script.Exchange
import TaskBarrier.Script.Perform
import TaskBarrier.Script.Run
import TaskBarrier.Script.TimerAction
import TaskBarrier.Script.TimerSession
import TaskBarrier.Proofs.Run
import TaskBarrier.Proofs.Transition
import TaskBarrier.Proofs.Sections
import TaskBarrier.Proofs.Course
import TaskBarrier.Proofs.Coherence
import TaskBarrier.Proofs.Shape
import TaskBarrier.Proofs.Soundness
import TaskBarrier.Proofs.Preservation
import TaskBarrier.Proofs.Orderly
import TaskBarrier.Proofs.Upkeep
import TaskBarrier.Proofs.Armed
import TaskBarrier.Proofs.Shift
import TaskBarrier.Proofs.Mirror
import TaskBarrier.Proofs.Graft
import TaskBarrier.Proofs.Tandem
import TaskBarrier.Proofs.OwnSteps
import TaskBarrier.Proofs.Accounting
import TaskBarrier.Proofs.Awaiting
import TaskBarrier.Proofs.ExactlyOnce
import TaskBarrier.Proofs.Locking
import TaskBarrier.Proofs.Execution
import TaskBarrier.Proofs.Guarding
import TaskBarrier.Proofs.Success
import TaskBarrier.Proofs.Guarantee
import TaskBarrier.Proofs.HoldQueue
import TaskBarrier.Proofs.CleanSlate
import TaskBarrier.Proofs.Conservation
import TaskBarrier.Proofs.Agreement
import TaskBarrier.Proofs.TimerRun
import TaskBarrier.Proofs.Timetable
import TaskBarrier.Proofs.Punctual
import TaskBarrier.Proofs.OnTimer
import TaskBarrier.Proofs.Survival
import TaskBarrier.Proofs.Closing
import TaskBarrier.Proofs.Amend
import TaskBarrier.Proofs.Bodies
import TaskBarrier.Proofs.Handling
import TaskBarrier.Proofs.Delivery
import TaskBarrier.Proofs.Orphaned
import TaskBarrier.Proofs.Cancelling
import TaskBarrier.Proofs.Outliving
import TaskBarrier.Proofs.Without
import TaskBarrier.Proofs.Late
import TaskBarrier.Proofs.Undisturbed
import TaskBarrier.Proofs.Lineup
import TaskBarrier.Proofs.Plan
import TaskBarrier.Proofs.Scene
import TaskBarrier.Proofs.Moment
import TaskBarrier.Proofs.Station
import TaskBarrier.Proofs.Vigil
import TaskBarrier.Proofs.Completion
import TaskBarrier.Proofs.Returning
import TaskBarrier.Proofs.CycleEnd
import TaskBarrier.Proofs.Expiry
import TaskBarrier.Proofs.Replayed
import TaskBarrier.Proofs.BrokenReplay
import TaskBarrier.Proofs.Journey
import TaskBarrier.Proofs.Overtaking
import TaskBarrier.Proofs.Rhythm
import TaskBarrier.Proofs.Renaming
import TaskBarrier.Proofs.Renamed
import TaskBarrier.Proofs.Beside
import TaskBarrier.Proofs.Drawn
import TaskBarrier.Proofs.Traceless
import TaskBarrier.Proofs.Lifecycle
import TaskBarrier.Proofs.Interchange
import TaskBarrier.Proofs.Reader
import TaskBarrier.Proofs.Logging
import TaskBarrier.Proofs.Chronicle
