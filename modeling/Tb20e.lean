import Tb20e.Theory.Runs
import Tb20e.Theory.Since
import Tb20e.Control.FeedbackVelocity
import Tb20e.Control.VelocityStream
import Tb20e.Control.TargetIntegration
import Tb20e.Control.GamepadMapping
import Tb20e.Control.GamepadSafety
import Tb20e.Control.StickMapping
import Tb20e.Gamepad.Arming
import Tb20e.Gamepad.Node
import Tb20e.Gamepad.JoyWatchdog
import Tb20e.Gamepad.UnityTargets
import Tb20e.Gamepad.UnityRange
import Tb20e.Gamepad.StartSequence
import Tb20e.Hardware.JointWiring
import Tb20e.Hardware.Threads
import Tb20e.Hardware.FaultLatch
import Tb20e.Hardware.Stamps
import Tb20e.Hardware.Sequential
import Tb20e.Hardware.LeverMessage
import Tb20e.Hardware.DeadBand
import Tb20e.Hardware.VelocityMonitor
import Tb20e.Hardware.PublishFailure
import Tb20e.Hardware.AxisIsolation
import Tb20e.Hardware.EndStop
import Tb20e.Hardware.LeverOrder
import Tb20e.Hardware.PositionStates
import Tb20e.Hardware.VelocityStates
import Tb20e.Hardware.Hearing
import Tb20e.Hardware.Healthy
import Tb20e.Hardware.Lifecycle
import Tb20e.Bringup.Steady
import Tb20e.Bringup.Stopping
import Tb20e.Bringup.TakingControl
import Tb20e.Bringup.TwinRange
import Tb20e.Launch.Agreement
import Tb20e.Launch.TuningFile
