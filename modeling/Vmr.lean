import Vmr.Lib.Prog
import Vmr.Lib.Counter
import Vmr.Lib.Memory
import Vmr.Lib.Transition
import Vmr.Xgq.Ring
import Vmr.Xgq.Channel
import Vmr.Xgq.Protocol
import Vmr.Lib.Word
import Vmr.Xgq.Command
import Vmr.Xgq.Server
import Vmr.Xgq.Accounting
import Vmr.Xgq.Client
import Vmr.Xgq.Matching
import Vmr.Lib.Crc
import Vmr.Lib.Stuffing
import Vmr.Sc.Transmit
import Vmr.Sc.Receive
import Vmr.Sc.Bsl
import Vmr.Sc.Parser
import Vmr.Sc.TiTxt
import Vmr.Sc.Framing
import Vmr.Sc.VersionQuery
import Vmr.Sc.Interference
import Vmr.Sc.Update
import Vmr.Sc.Programmed
import Vmr.Sc.PacketBounds
import Vmr.Sc.Ordering
import Vmr.Asdm.Init
import Vmr.Asdm.Construction
import Vmr.Asdm.Platforms
import Vmr.Asdm.Request
import Vmr.Lib.Area
import Vmr.Xgq.Alloc
import Vmr.Xgq.Agreement
import Vmr.Lib.Cell
import Vmr.Xclbin.Axlf
import Vmr.Xclbin.Removal
import Vmr.Xclbin.Remove
import Vmr.Lib.Bus
import Vmr.Lib.Print
import Vmr.Shm.Copy
import Vmr.Rmgmt.LogPage
import Vmr.Rmgmt.LogWindow
import Vmr.Flash.Ospi
import Vmr.Flash.Erase
import Vmr.Flash.Write
import Vmr.Flash.ReadBack
import Vmr.Flash.WriteBounds
import Vmr.Flash.Programmed
import Vmr.Flash.Copy
import Vmr.Flash.SafeWrite
import Vmr.Vmc.ClockScaling
import Vmr.Vmc.Qsfp
import Vmr.Rmgmt.Fpt
import Vmr.Rmgmt.VmrControl
import Vmr.Rmgmt.FlashImage
import Vmr.Rmgmt.BootTag
import Vmr.Rmgmt.XclbinDownload
import Vmr.Apu.Client
import Vmr.Rmgmt.PayloadWindow
import Vmr.Xclbin.Lookup
import Vmr.Xgq.SlotCount
import Vmr.Apu.Probe
import Vmr.Apu.LogPageLength
import Vmr.Apu.Download
import Vmr.Rmgmt.Multiboot
import Vmr.Rmgmt.LogServe
import Vmr.Lib.DeviceTree
import Vmr.Rmgmt.Fdt
import Vmr.Rmgmt.FdtReads
import Vmr.Rmgmt.UuidGate
import Vmr.Flash.Reach
import Vmr.Rmgmt.BackupGuard
import Vmr.Xclbin.Cells
import Vmr.Rmgmt.SharedMemory
import Vmr.Lib.Updates
import Vmr.Sc.SensorValues
import Vmr.Asdm.Statistics
import Vmr.Asdm.Bulk
import Vmr.Asdm.Decode
import Vmr.Asdm.Upkeep
import Vmr.Asdm.SdrSize
import Vmr.Asdm.Thresholds
import Vmr.Lib.Scanner
import Vmr.Sc.Containment
import Vmr.Sc.Attempts
import Vmr.Sc.AttemptBound
import Vmr.Lib.Runs
import Vmr.Vmc.PowerMonitor
import Vmr.Rmgmt.PdiDownload
import Vmr.Lib.BitField
import Vmr.Rmgmt.ClockWizard
import Vmr.Rmgmt.ClockTopology
import Vmr.Vmc.BoardInfo
import Vmr.Vmc.MacTable
import Vmr.Sc.UartLocks
import Vmr.Vmc.EepromRead
import Vmr.Asdm.RmiMirror
import Vmr.Asdm.RmiSdr
import Vmr.Vmc.ClockThrottling
import Vmr.Lib.History
import Vmr.Vmc.MovingAverage
import Vmr.Rmgmt.LogChain
import Vmr.Rmgmt.SharedLog
import Vmr.Flash.Content
import Vmr.Rmgmt.BootLayout
import Vmr.Rmgmt.BasePdi
import Vmr.Rmgmt.BackupCopy
import Vmr.Rmgmt.BackupExact
import Vmr.Rmgmt.Redundancy
import Vmr.Rmgmt.LeftFlash
import Vmr.Rmgmt.LostImage
import Vmr.Rmgmt.BackedRequests
import Vmr.Sc.Session
import Vmr.Sc.Exchange
import Vmr.Sc.Conversation
import Vmr.Sc.SessionRuns
import Vmr.Sc.Recovery
import Vmr.Lib.Loop
import Vmr.Asdm.SensorPass
