import GhostBlade.Library.Resync
import GhostBlade.Library.Fifo
import GhostBlade.Library.Ring
import GhostBlade.Library.Spsc
import GhostBlade.Library.Ledger
import GhostBlade.Library.FixedPoint
import GhostBlade.Host.Frame
import GhostBlade.Host.IqRead
import GhostBlade.Host.Libapex
import GhostBlade.Host.SgLifetime
import GhostBlade.Host.SgFill
import GhostBlade.Host.SgOverrun
import GhostBlade.Host.SgMmap
import GhostBlade.Host.Sessions
import GhostBlade.Host.WriteReport
import GhostBlade.Host.ReadCalls
import GhostBlade.Host.SpiErrors
import GhostBlade.Host.RuntimePm
import GhostBlade.Host.ResetLine
import GhostBlade.Host.Brownout
import GhostBlade.Firmware.SpiProtocolScan
import GhostBlade.Firmware.Spi0IsrScan
import GhostBlade.Firmware.MainLoop
import GhostBlade.Firmware.Response
import GhostBlade.Firmware.RxPath
import GhostBlade.Firmware.ParserInvariant
import GhostBlade.Firmware.RxRing
import GhostBlade.Firmware.Cc1101
import GhostBlade.Firmware.FrameHandoff
import GhostBlade.Firmware.Spi0Tx
import GhostBlade.Firmware.SdrDelivery
import GhostBlade.Firmware.SdrStreaming
import GhostBlade.Firmware.PowerState
import GhostBlade.Firmware.BatteryMonitor
import GhostBlade.Firmware.BrownoutMarker
import GhostBlade.Firmware.SleepDepth
import GhostBlade.Firmware.SleepWake
import GhostBlade.Firmware.PeripheralPower
import GhostBlade.Firmware.PowerSequence
import GhostBlade.Firmware.LineRaces
import GhostBlade.Firmware.Residue
import GhostBlade.Firmware.Telemetry
import GhostBlade.Firmware.TxStatistics
import GhostBlade.Firmware.Erasure
import GhostBlade.Firmware.AdcCalibration
import GhostBlade.Firmware.CalibrationRecord
import GhostBlade.Library.Interaction
import GhostBlade.Firmware.St25r3916
import GhostBlade.Firmware.NfcFootprint
import GhostBlade.Firmware.NfcPolls
import GhostBlade.Bridge.Language
import GhostBlade.Bridge.Linked
import GhostBlade.Bridge.Resync
import GhostBlade.Bridge.Noninterference
import GhostBlade.Bridge.Delivery
import GhostBlade.Bridge.Cc1101
import GhostBlade.Bridge.Nfc
import GhostBlade.Bridge.Integrity
import GhostBlade.Bridge.TelemetryTrip
import GhostBlade.Host.SgFrames
import GhostBlade.Firmware.CalibrationArithmetic
import GhostBlade.Firmware.NfcOutcome
import GhostBlade.Firmware.NfcTransmit
import GhostBlade.Firmware.NfcFifos
import GhostBlade.Firmware.Lms7002mPll
import GhostBlade.Library.Routines
import GhostBlade.Firmware.Lms7002m
import GhostBlade.Firmware.SdrRegisters
import GhostBlade.Firmware.SdrWait
import GhostBlade.Firmware.SdrBringUp
import GhostBlade.Firmware.SdrStreams
import GhostBlade.Firmware.SdrCalibration
import GhostBlade.Firmware.SdrReads
import GhostBlade.Firmware.SdrTuning
import GhostBlade.Firmware.Cc1101Select
import GhostBlade.Firmware.Cc1101Strobes
import GhostBlade.Library.CrcOrder
import GhostBlade.Protocol.BodyDamage
import GhostBlade.Bridge.BodyIntegrity
import GhostBlade.Library.Periodic
import GhostBlade.Firmware.LoopTiming
import GhostBlade.Library.Simulation
import GhostBlade.Firmware.Supervision
import GhostBlade.Host.Requests
import GhostBlade.Firmware.RadioBoard
import GhostBlade.Bridge.Radio
import GhostBlade.Bridge.RemoteControl
import GhostBlade.Host.Lifetime
import GhostBlade.Host.Waiting
import GhostBlade.Library.LockOrder
import GhostBlade.Host.KernelCalls
import GhostBlade.Host.Locking
import GhostBlade.Firmware.Cc1101Configuration
import GhostBlade.Firmware.NfcField
import GhostBlade.Bridge.Sysfs
import GhostBlade.Bridge.LibraryControl
