import Go2Sensors.ForStd.Ascii
import Go2Sensors.ForStd.Beam
import Go2Sensors.ForStd.BigEndian
import Go2Sensors.ForStd.Buffer
import Go2Sensors.ForStd.Chunks
import Go2Sensors.ForStd.Circle
import Go2Sensors.ForStd.Decimal
import Go2Sensors.ForStd.Follow
import Go2Sensors.ForStd.Grouping
import Go2Sensors.ForStd.KeepLast
import Go2Sensors.ForStd.Layout
import Go2Sensors.ForStd.Locking
import Go2Sensors.ForStd.PieceStream
import Go2Sensors.ForStd.Ring
import Go2Sensors.ForStd.Run
import Go2Sensors.ForStd.Schedule
import Go2Sensors.ForStd.Sharing
import Go2Sensors.ForStd.TextStream
import Go2Sensors.ForStd.Traced
import Go2Sensors.ForStd.Trap
import Go2Sensors.ForStd.Workers
import Go2Sensors.Native.Calc
import Go2Sensors.Native.Correction
import Go2Sensors.Native.Gps
import Go2Sensors.Native.Init
import Go2Sensors.Native.Input
import Go2Sensors.Native.Instances
import Go2Sensors.Native.Launch
import Go2Sensors.Native.Live
import Go2Sensors.Native.Node
import Go2Sensors.Native.Packet
import Go2Sensors.Native.PacketsBuffer
import Go2Sensors.Native.Parse
import Go2Sensors.Native.PcapReader
import Go2Sensors.Native.Process
import Go2Sensors.Native.Relay
import Go2Sensors.Native.Replay
import Go2Sensors.Native.Scripts
import Go2Sensors.Native.Sdk
import Go2Sensors.Native.TcpClient
import Go2Sensors.Native.TcpCommand
import Go2Sensors.Spec.Accumulation
import Go2Sensors.Spec.CalibrationBounds
import Go2Sensors.Spec.CloudWellFormed
import Go2Sensors.Spec.CorrectionRoundTrip
import Go2Sensors.Spec.CorrectionText
import Go2Sensors.Spec.Definedness
import Go2Sensors.Spec.Emission
import Go2Sensors.Spec.FrameCut
import Go2Sensors.Spec.FrameStamp
import Go2Sensors.Spec.Framing
import Go2Sensors.Spec.GpsCorrect
import Go2Sensors.Spec.Ingestion
import Go2Sensors.Spec.Isolation
import Go2Sensors.Spec.Live
import Go2Sensors.Spec.MeasuredDistance
import Go2Sensors.Spec.PacketBytes
import Go2Sensors.Spec.PacketsBufferCorrect
import Go2Sensors.Spec.ParseBounds
import Go2Sensors.Spec.PcapClock
import Go2Sensors.Spec.PcapPacing
import Go2Sensors.Spec.PlayedRecording
import Go2Sensors.Spec.PointCloudBounds
import Go2Sensors.Spec.QtCorrection
import Go2Sensors.Spec.Recording
import Go2Sensors.Spec.RejectedPackets
import Go2Sensors.Spec.RelayCorrect
import Go2Sensors.Spec.Replay
import Go2Sensors.Spec.ScriptInterrupts
import Go2Sensors.Spec.SdkLifecycle
import Go2Sensors.Spec.SdkThreads
import Go2Sensors.Spec.StructuredMode
import Go2Sensors.Spec.TableCoverage
import Go2Sensors.Spec.TcpClientCorrect
import Go2Sensors.Spec.TcpCommandCorrect
import Go2Sensors.Spec.ThreadSteps
import Go2Sensors.Spec.WireFormat
import Go2Sensors.Spec.WireRoundTrip
import Go2Sensors.Spec.WireToCloud
import Go2Sensors.Spec.WithoutXyz
