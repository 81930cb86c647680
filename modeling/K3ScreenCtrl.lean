import K3ScreenCtrl.Lib.Run
import K3ScreenCtrl.Lib.Layout
import K3ScreenCtrl.Lib.ByteStuffing
import K3ScreenCtrl.Lib.CString
import K3ScreenCtrl.Lib.Pieces
import K3ScreenCtrl.Lib.Place
import K3ScreenCtrl.Lib.History
import K3ScreenCtrl.Lib.Cursor
import K3ScreenCtrl.Lib.ShiftRegister
import K3ScreenCtrl.Lib.ErrorPattern
import K3ScreenCtrl.Lib.Block
import K3ScreenCtrl.Lib.Stream
import K3ScreenCtrl.Lib.Interleaving
import K3ScreenCtrl.Lib.Getopt
import K3ScreenCtrl.Lib.Ownership
import K3ScreenCtrl.Lib.AlarmClock
import K3ScreenCtrl.Lib.Syscall
import K3ScreenCtrl.Lib.HeapUse
import K3ScreenCtrl.Proto
import K3ScreenCtrl.Checksum
import K3ScreenCtrl.Frame
import K3ScreenCtrl.FrameCodec
import K3ScreenCtrl.FrameContent
import K3ScreenCtrl.ChecksumErrors
import K3ScreenCtrl.Receiver
import K3ScreenCtrl.ReceiverRecovery
import K3ScreenCtrl.ReceiverSafety
import K3ScreenCtrl.Coalescing
import K3ScreenCtrl.Scripts
import K3ScreenCtrl.Tokenizer
import K3ScreenCtrl.InfoCenter
import K3ScreenCtrl.UpdateStatus
import K3ScreenCtrl.HostList
import K3ScreenCtrl.ScriptBuffer
import K3ScreenCtrl.Requests
import K3ScreenCtrl.Pages
import K3ScreenCtrl.Daemon
import K3ScreenCtrl.Dispatch
import K3ScreenCtrl.Transmit
import K3ScreenCtrl.Power
import K3ScreenCtrl.TableInvariants
import K3ScreenCtrl.HostConsistency
import K3ScreenCtrl.ScriptFormats
import K3ScreenCtrl.WanScript
import K3ScreenCtrl.RequestFormat
import K3ScreenCtrl.Mirror
import K3ScreenCtrl.UpdateOrder
import K3ScreenCtrl.Allocations
import K3ScreenCtrl.WanSpeeds
import K3ScreenCtrl.LossyLine
import K3ScreenCtrl.HostPages
import K3ScreenCtrl.Navigation
import K3ScreenCtrl.HostFields
import K3ScreenCtrl.HostMessages
import K3ScreenCtrl.RequestBuffers
import K3ScreenCtrl.Machine
import K3ScreenCtrl.MemoryIsolation
import K3ScreenCtrl.EventLoop
import K3ScreenCtrl.Survival
import K3ScreenCtrl.ScreenView
import K3ScreenCtrl.CommandLine
import K3ScreenCtrl.Refresh
import K3ScreenCtrl.Startup
import K3ScreenCtrl.MaskedByte
import K3ScreenCtrl.Lifecycle
