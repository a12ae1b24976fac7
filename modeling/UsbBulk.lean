import UsbBulk.CircularList
import UsbBulk.RingBuffer
import UsbBulk.BoundedChannel
import UsbBulk.BlockPool
import UsbBulk.UnitCounter
import UsbBulk.FlagGroup
import UsbBulk.WaitGraph
import UsbBulk.PriorityInheritance
import UsbBulk.Kernel.State
import UsbBulk.Kernel.Utils
import UsbBulk.Kernel.Sequences
import UsbBulk.Kernel.Port
import UsbBulk.Kernel.Tasks
import UsbBulk.Kernel.FindFirst
import UsbBulk.Kernel.Objects
import UsbBulk.Kernel.Mutex
import UsbBulk.Kernel.System
import UsbBulk.Kernel.Ready
import UsbBulk.Kernel.Invariant
import UsbBulk.Kernel.Run
import UsbBulk.Kernel.Services
import UsbBulk.Kernel.ObjectServices
import UsbBulk.Kernel.Tick
import UsbBulk.Kernel.Start
import UsbBulk.Kernel.Schedule
import UsbBulk.Kernel.Effects
import UsbBulk.Kernel.Shared
import UsbBulk.Kernel.QueueOrder
import UsbBulk.Kernel.QueueRun
import UsbBulk.Kernel.PoolOrder
import UsbBulk.Kernel.PoolRun
import UsbBulk.Kernel.PoolCreate
import UsbBulk.Kernel.Context
import UsbBulk.Kernel.Frames
import UsbBulk.Kernel.SemRun
import UsbBulk.Kernel.EventRun
import UsbBulk.ByteMemory
import UsbBulk.Decimal
import UsbBulk.Usb.Ep0
import UsbBulk.Usb.Utils
import UsbBulk.Usb.TestLines
import UsbBulk.Usb.Requests
import UsbBulk.Usb.ControlTransfer
import UsbBulk.Usb.DescriptorTable
import UsbBulk.Usb.DescriptorSearch
import UsbBulk.Usb.DataStage
import UsbBulk.Usb.SetConfiguration
import UsbBulk.WordMemory
import UsbBulk.ArmMachine
import UsbBulk.Kernel.SwitchContext
import UsbBulk.Kernel.RestoreContext
import UsbBulk.Kernel.Clients
import UsbBulk.Kernel.Searches
import UsbBulk.Kernel.Inherit
import UsbBulk.Kernel.Ownership
import UsbBulk.Kernel.Guarded
import UsbBulk.Kernel.Propagation
import UsbBulk.Kernel.MutexSteps
import UsbBulk.Kernel.CeilingSteps
import UsbBulk.Kernel.LockRun
import UsbBulk.Kernel.Script
import UsbBulk.Kernel.TimeSlice
import UsbBulk.Kernel.TaskEnd
import UsbBulk.Kernel.Registry
import UsbBulk.Kernel.LockPair
import UsbBulk.Kernel.BlockedScan
import UsbBulk.Kernel.UnlockEnds
import UsbBulk.Kernel.Holders
import UsbBulk.Kernel.EarlyEnds
import UsbBulk.Kernel.EventClear
import UsbBulk.Kernel.Wakeups
import UsbBulk.Kernel.Sleeps
import UsbBulk.Kernel.Deletions
import UsbBulk.Kernel.Refusals
import UsbBulk.Kernel.InterruptMask
import UsbBulk.Kernel.MutexRun
import UsbBulk.Kernel.ExactPriority
import UsbBulk.Kernel.ExactRun
import UsbBulk.Kernel.CeilingOrder
import UsbBulk.Kernel.CeilingRun
import UsbBulk.Kernel.Terminate
import UsbBulk.Kernel.Background
import UsbBulk.Usb.Blocks
import UsbBulk.Usb.DmaLayout
import UsbBulk.Usb.Dma
import UsbBulk.Usb.DmaReception
import UsbBulk.Usb.DmaFirmware
import UsbBulk.Usb.DmaZones
import UsbBulk.Usb.DmaFirmwareSteps
import UsbBulk.Usb.DmaTx
import UsbBulk.Usb.Bulk
import UsbBulk.Usb.TxPipe
import UsbBulk.Usb.TxStream
import UsbBulk.Usb.Firmware
import UsbBulk.Usb.Lanes
import UsbBulk.Usb.LaneNet
import UsbBulk.Usb.FirmwareData
import UsbBulk.Usb.FirmwareOrder
import UsbBulk.Usb.FirmwareSteps
import UsbBulk.Usb.FirmwareStart
import UsbBulk.Usb.FirmwareScript
import UsbBulk.Usb.Loopback
import UsbBulk.Usb.DmaFirmwareScript
import UsbBulk.Usb.DmaLoopback
