import AvatarKernel.Mm.PmmAlloc
import AvatarKernel.Mm.SharedPageRefinement
import AvatarKernel.Task.Ready
import AvatarKernel.Task.WakeupWindow
import AvatarKernel.Task.AddressSpace
import AvatarKernel.Task.FutexIsolation
import AvatarKernel.Task.FutexWakeup
import AvatarKernel.Mm.PageMapRefinement
import AvatarKernel.Fs.PipeWakeup
import AvatarKernel.Net.UdpDatagram
import AvatarKernel.Syscall.Dispatch
import AvatarKernel.Fd.EpollRegistration
import AvatarKernel.Fs.Readiness
import AvatarKernel.Fd.Cloexec
import AvatarKernel.Net.KsockWakeup
import AvatarKernel.Net.TcpStream
import AvatarKernel.Vmm.VgicDelivery
import AvatarKernel.Driver.GemIsolation
import AvatarKernel.Vmm.RvIpi
import AvatarKernel.Vmm.Vnpu
import AvatarKernel.Vmm.Vplic
import AvatarKernel.Vmm.VmStop
import AvatarKernel.Vmm.VmmDev
import AvatarKernel.Vmm.NpuWindow
import AvatarKernel.Vmm.Spi
import AvatarKernel.Vmm.VmxEvents
import AvatarKernel.Fs.Sendfile
import AvatarKernel.Mm.PmmFree
import AvatarKernel.Syscall.GapSearch
import AvatarKernel.Fs.Getdents
import AvatarKernel.Signal.Unblockable
import AvatarKernel.Task.Completion
import AvatarKernel.Syscall.Trace
import AvatarKernel.Vmm.VgicPriority
import AvatarKernel.Vmm.ApicDestination
import AvatarKernel.Vmm.Pit
import AvatarKernel.Vmm.MmioLoad
import AvatarKernel.Fs.PtyStream
import AvatarKernel.Fs.Path
import AvatarKernel.Syscall.UserString
