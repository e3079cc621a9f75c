import ArrivalManager.Main
import ArrivalManager.Proofs.Time
import ArrivalManager.Proofs.Result
import ArrivalManager.Proofs.Schedule.Conflict
import ArrivalManager.Proofs.RunwayRanking
import ArrivalManager.Proofs.Schedule.Resolution
import ArrivalManager.Proofs.Flight
import ArrivalManager.Proofs.Schedule.Turn
import ArrivalManager.Proofs.Schedule.Pass
import ArrivalManager.Proofs.Schedule.Spacing
import ArrivalManager.Proofs.Schedule.Placement
import ArrivalManager.Proofs.Estimation
import ArrivalManager.Proofs.Sequence.Routine
import ArrivalManager.Proofs.Estimate
import ArrivalManager.Proofs.Service.Routine
import ArrivalManager.Proofs.Service.Execution
import ArrivalManager.Proofs.Schedule.Trail
import ArrivalManager.Proofs.Service.Run
import ArrivalManager.Proofs.Schedule.Orderly
import ArrivalManager.Proofs.Service.Spacing
import ArrivalManager.Proofs.Flight.Identity
import ArrivalManager.Proofs.Sequence.Partition
import ArrivalManager.Proofs.Sequence.Run
import ArrivalManager.Proofs.Sequence.Rejection
import ArrivalManager.Proofs.Service.Effect
import ArrivalManager.Proofs.Service.Sound
import ArrivalManager.Proofs.Service.Atomicity
import ArrivalManager.Proofs.Service.Commitment
import ArrivalManager.Proofs.Schedule.Uniqueness
import ArrivalManager.Proofs.Schedule.Determinism
import ArrivalManager.Proofs.Schedule.Fairness
import ArrivalManager.Proofs.Schedule.Precedence
import ArrivalManager.Proofs.Schedule.Priority
import ArrivalManager.Proofs.Schedule.Attempts
import ArrivalManager.Proofs.Schedule.Candidates
import ArrivalManager.Proofs.Service.Succession
import ArrivalManager.Proofs.Service.Conservation
import ArrivalManager.Proofs.Service.Retirement
import ArrivalManager.Proofs.Service.Assignment
import ArrivalManager.Proofs.FlightState
import ArrivalManager.Proofs.Sequence.Order
import ArrivalManager.Proofs.Service.Publication
import ArrivalManager.Proofs.Schedule.ModeSwap
import ArrivalManager.Proofs.Flight.Run
import ArrivalManager.Proofs.Flight.Progress
import ArrivalManager.Proofs.Flight.Crossing
import ArrivalManager.Proofs.Schedule.Idempotence
import ArrivalManager.Proofs.Flight.Knowledge
import ArrivalManager.Proofs.Service.Origin
import ArrivalManager.Proofs.Service.Invariant
import ArrivalManager.Proofs.Service.Activation
import ArrivalManager.Proofs.Service.Provenance
import ArrivalManager.Proofs.Service.Settlement
import ArrivalManager.Proofs.Flight.Current
import ArrivalManager.Proofs.Replay.Course
import ArrivalManager.Proofs.Replay.Delivery
import ArrivalManager.Proofs.Schedule.Exactness
import ArrivalManager.Proofs.Schedule.Containment
import ArrivalManager.Proofs.Schedule.Frame
import ArrivalManager.Proofs.Estimate.Independence
import ArrivalManager.Proofs.Schedule.Floor
import ArrivalManager.Sequence.InPlace
import ArrivalManager.Proofs.Sequence.InPlace
import ArrivalManager.Proofs.Sequence.Rollback
import ArrivalManager.Proofs.Sequence.Reposition
import ArrivalManager.Proofs.Sequence.Insertion
import ArrivalManager.Proofs.Estimate.Fusion
import ArrivalManager.Proofs.Schedule.Horizon
import ArrivalManager.Proofs.Schedule.Ascent
import ArrivalManager.Proofs.Settings
import ArrivalManager.Proofs.Text.Integer
import ArrivalManager.Proofs.Replay.Pace
import ArrivalManager.Proofs.Text.Lines
import ArrivalManager.Proofs.Text.Numeral
import ArrivalManager.Proofs.Text.Utf8
import ArrivalManager.Proofs.Replay.Listing
import ArrivalManager.Proofs.Publisher
