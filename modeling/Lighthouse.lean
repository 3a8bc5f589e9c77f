import Lighthouse.Binary64
import Lighthouse.Binary64.Arctangent
import Lighthouse.Binary64.Fused
import Lighthouse.Binary64.Reciprocal
import Lighthouse.Binary64.Tangent
import Lighthouse.Calibration.Document
import Lighthouse.Calibration.Record
import Lighthouse.Calibration.Table
import Lighthouse.Cli.Arguments
import Lighthouse.Cli.Commands
import Lighthouse.Cli.Program
import Lighthouse.Cli.Truth
import Lighthouse.Config
import Lighthouse.Crc32
import Lighthouse.Decimal.Read
import Lighthouse.Decimal.Shortest
import Lighthouse.Decimal.Text
import Lighthouse.Device
import Lighthouse.Disk
import Lighthouse.Fault
import Lighthouse.Geometry.AxisAngle
import Lighthouse.Geometry.Rotation
import Lighthouse.Geometry.Sweep
import Lighthouse.Geometry.Transform
import Lighthouse.Geometry.Vec3
import Lighthouse.Half
import Lighthouse.Journal
import Lighthouse.Json.Array
import Lighthouse.Json.Basic
import Lighthouse.Json.Coerce
import Lighthouse.Json.Dynamic
import Lighthouse.Json.Read
import Lighthouse.Json.Write
import Lighthouse.Keyed
import Lighthouse.Light
import Lighthouse.Linear.Broadcast
import Lighthouse.Linear.Compressed
import Lighthouse.Linear.Factor
import Lighthouse.Linear.Jacobi
import Lighthouse.Linear.Ordering
import Lighthouse.Linear.Products
import Lighthouse.Log.Recorder
import Lighthouse.Log.Replay
import Lighthouse.Main
import Lighthouse.Measurement
import Lighthouse.Measurement.Keys
import Lighthouse.Ootx.Decoder
import Lighthouse.Ootx.Frame
import Lighthouse.Order.Introsort
import Lighthouse.Order.RunSort
import Lighthouse.Playback
import Lighthouse.Pose.Correction
import Lighthouse.Pose.Estimator
import Lighthouse.Pose.Perspective
import Lighthouse.Pose.Table
import Lighthouse.Random.Normal
import Lighthouse.Random.Pcg
import Lighthouse.Receiver
import Lighthouse.Registration
import Lighthouse.Session
import Lighthouse.Sim.Scenario
import Lighthouse.Sim.Sensors
import Lighthouse.Sim.Tracker
import Lighthouse.Site.Calibration
import Lighthouse.Solver.Loss
import Lighthouse.Solver.Options
import Lighthouse.Solver.Problem
import Lighthouse.Solver.Residuals
import Lighthouse.Solver.Solve
import Lighthouse.Text.Blank
import Lighthouse.Text.Hex
import Lighthouse.Text.Lines
import Lighthouse.Text.Numeral
import Lighthouse.Text.Quoted
import Lighthouse.Text.Unicode
import Lighthouse.Ticks
import Lighthouse.Proofs.Ootx.Bits
import Lighthouse.Proofs.Ootx.Words
import Lighthouse.Proofs.Ootx.Stream
import Lighthouse.Proofs.Ootx.Resync
import Lighthouse.Proofs.Receiver.Run
import Lighthouse.Proofs.Receiver.Feeds
import Lighthouse.Proofs.Receiver.Sweeps
import Lighthouse.Proofs.Receiver.Shift
import Lighthouse.Proofs.Calibration.Table
import Lighthouse.Proofs.Device.Fleet
import Lighthouse.Proofs.Binary64.Interchange
import Lighthouse.Proofs.Binary64.Rounding
import Lighthouse.Proofs.Half.Conversion
import Lighthouse.Proofs.Text.Numeral
import Lighthouse.Proofs.Calibration.Payload
import Lighthouse.Proofs.Calibration.Slots
import Lighthouse.Proofs.Receiver.Safety
import Lighthouse.Proofs.Session.Frame
import Lighthouse.Proofs.Session.Trigger
import Lighthouse.Proofs.Json.ReadBack
import Lighthouse.Proofs.Json.Scan
import Lighthouse.Proofs.Disk.Files
import Lighthouse.Proofs.Json.Ascii
import Lighthouse.Proofs.Binary64.Order
import Lighthouse.Proofs.Solver.State
import Lighthouse.Proofs.Solver.Descent
import Lighthouse.Proofs.Session.Gate
import Lighthouse.Proofs.Solver.Blocks
import Lighthouse.Proofs.Registration.Build
import Lighthouse.Proofs.Geometry.Undefined
import Lighthouse.Proofs.Registration.Contract
import Lighthouse.Proofs.Binary64.Growth
import Lighthouse.Proofs.Ootx.Soundness
import Lighthouse.Proofs.Site.CalibrationFile
import Lighthouse.Proofs.Binary64.Defined
import Lighthouse.Proofs.Measurement.Bundle
import Lighthouse.Proofs.Pose.Correspondences
import Lighthouse.Proofs.Solver.Damping
import Lighthouse.Proofs.Log.RoundTrip
import Lighthouse.Proofs.Ootx.Bounds
import Lighthouse.Proofs.Log.Validation
import Lighthouse.Proofs.Config.Validation
import Lighthouse.Proofs.Binary64.Arithmetic
import Lighthouse.Proofs.Sim.Schedule
import Lighthouse.Proofs.Sim.Reception
