import Mathlib.Algebra.GroupWithZero.Nat
import Mathlib.Data.List.Basic

/- The x86_64 system call path: `x86_translate_syscall`, which turns a native number into the
number of the generic table, composed with the switch of `syscall_handler`, which is written over
the generic numbers. -/

namespace AvatarKernel

/-- The numbers of the kernel's own calls (`SYS_*`). -/
inductive SysNr
  | sysExit | sysYield | sysGetpid | sysSleep | sysExecve | sysBrk | sysSbrk | sysWrite
  | sysRead | sysOpen | sysClose | sysGettimeofday
  deriving DecidableEq

def SysNr.num : SysNr → Nat
  | .sysExit => 0 | .sysYield => 1 | .sysGetpid => 2 | .sysSleep => 3 | .sysExecve => 4
  | .sysBrk => 10 | .sysSbrk => 11 | .sysWrite => 0x4000 | .sysRead => 0x4001
  | .sysOpen => 0x4002 | .sysClose => 0x4003 | .sysGettimeofday => 30

/-- The numbers of the generic table that AArch64 and RISC-V share (`LINUX_SYS_*`), followed by
those the switch writes as plain numbers. -/
inductive LinuxSysNr
  | getcwd | dup | dup3 | fcntl | ioctl | mkdirat | unlinkat | renameat | ftruncate
  | faccessat | chdir | openat | close | pipe2 | getdents64 | lseek | read | write | readv
  | writev | pread64 | pwrite64 | sendfile | pselect6 | ppoll | readlinkat | newfstatat
  | fstat | fsync | fdatasync | exit | exitGroup | waitid | setTidAddr | futex
  | setRobustList | nanosleep | clockGettime | getcpu | schedYield | kill | tkill | tgkill
  | rtSigaction | rtSigprocmask | rtSigpending | rtSigreturn | setgid | setuid | setresuid
  | getresuid | setresgid | getresgid | setpgid | getpgid | getsid | setsid | getgroups
  | setgroups | uname | getrlimit | setrlimit | getrusage | umask | prctl | getpid | getppid
  | getuid | geteuid | getgid | getegid | gettid | sysinfo | socket | socketpair | bind
  | listen | accept | connect | getsockname | getpeername | sendto | recvfrom | setsockopt
  | getsockopt | shutdown | sendmsg | recvmsg | accept4 | brk | munmap | clone | execve
  | mmap | mprotect | madvise | wait4 | prlimit64 | renameat2 | getrandom | faccessat2
  | epollCreate1 | epollCtl | epollPwait | nrSync | nrMembarrier | nrLinkat | nrFchmodat
  | nrFchownat | nrFchown | nrSetitimer | nrGetitimer | nrSchedSetaffinity
  | nrSchedGetaffinity | nrUtimensat | nrMsync | nrRiscvHwprobe | nrRiscvFlushIcache
  | nrStatfs | nrFstatfs
  deriving DecidableEq

def LinuxSysNr.num : LinuxSysNr → Nat
  | .getcwd => 17 | .dup => 23 | .dup3 => 24 | .fcntl => 25 | .ioctl => 29 | .mkdirat => 34
  | .unlinkat => 35 | .renameat => 38 | .ftruncate => 46 | .faccessat => 48 | .chdir => 49
  | .openat => 56 | .close => 57 | .pipe2 => 59 | .getdents64 => 61 | .lseek => 62
  | .read => 63 | .write => 64 | .readv => 65 | .writev => 66 | .pread64 => 67
  | .pwrite64 => 68 | .sendfile => 71 | .pselect6 => 72 | .ppoll => 73 | .readlinkat => 78
  | .newfstatat => 79 | .fstat => 80 | .fsync => 82 | .fdatasync => 83 | .exit => 93
  | .exitGroup => 94 | .waitid => 95 | .setTidAddr => 96 | .futex => 98
  | .setRobustList => 99 | .nanosleep => 101 | .clockGettime => 113 | .getcpu => 168
  | .schedYield => 124 | .kill => 129 | .tkill => 130 | .tgkill => 131 | .rtSigaction => 134
  | .rtSigprocmask => 135 | .rtSigpending => 136 | .rtSigreturn => 139 | .setgid => 144
  | .setuid => 146 | .setresuid => 147 | .getresuid => 148 | .setresgid => 149
  | .getresgid => 150 | .setpgid => 154 | .getpgid => 155 | .getsid => 156 | .setsid => 157
  | .getgroups => 158 | .setgroups => 159 | .uname => 160 | .getrlimit => 163
  | .setrlimit => 164 | .getrusage => 165 | .umask => 166 | .prctl => 167 | .getpid => 172
  | .getppid => 173 | .getuid => 174 | .geteuid => 175 | .getgid => 176 | .getegid => 177
  | .gettid => 178 | .sysinfo => 179 | .socket => 198 | .socketpair => 199 | .bind => 200
  | .listen => 201 | .accept => 202 | .connect => 203 | .getsockname => 204
  | .getpeername => 205 | .sendto => 206 | .recvfrom => 207 | .setsockopt => 208
  | .getsockopt => 209 | .shutdown => 210 | .sendmsg => 211 | .recvmsg => 212
  | .accept4 => 242 | .brk => 214 | .munmap => 215 | .clone => 220 | .execve => 221
  | .mmap => 222 | .mprotect => 226 | .madvise => 233 | .wait4 => 260 | .prlimit64 => 261
  | .renameat2 => 276 | .getrandom => 278 | .faccessat2 => 439 | .epollCreate1 => 20
  | .epollCtl => 21 | .epollPwait => 22 | .nrSync => 81 | .nrMembarrier => 283
  | .nrLinkat => 37 | .nrFchmodat => 53 | .nrFchownat => 54 | .nrFchown => 52
  | .nrSetitimer => 103 | .nrGetitimer => 102 | .nrSchedSetaffinity => 123
  | .nrSchedGetaffinity => 122 | .nrUtimensat => 88 | .nrMsync => 227
  | .nrRiscvHwprobe => 258 | .nrRiscvFlushIcache => 259 | .nrStatfs => 43 | .nrFstatfs => 44

/-- The marker numbers the translator invents for calls the generic table lacks (`X86_SYS_*`),
followed by the native x86_64 numbers the switch lists itself. -/
inductive X86SysNr
  | archPrctl | rseq | poll | select | nrSync | nrMembarrier | nrLinkat | nrStatfs
  | nrFstatfs
  deriving DecidableEq

def X86SysNr.num : X86SysNr → Nat
  | .archPrctl => 0x7FFFFFFD | .rseq => 0x7FFFFFFC | .poll => 0x7FFFFFFB
  | .select => 0x7FFFFFFA | .nrSync => 162 | .nrMembarrier => 324 | .nrLinkat => 265
  | .nrStatfs => 137 | .nrFstatfs => 138

/-- The calls a build with `TASK_INFRA_TEST` adds. -/
inductive AvatarSysNr
  | completionWait | completionComplete | completionReset
  deriving DecidableEq

def AvatarSysNr.num : AvatarSysNr → Nat
  | .completionWait => 0x7FFF1000 | .completionComplete => 0x7FFF1001
  | .completionReset => 0x7FFF1002

inductive SysLabel
  | custom (nr : SysNr)
  | linux (nr : LinuxSysNr)
  | x86 (nr : X86SysNr)
  | avatar (nr : AvatarSysNr)
  deriving DecidableEq

def SysLabel.num : SysLabel → Nat
  | .custom nr => nr.num
  | .linux nr => nr.num
  | .x86 nr => nr.num
  | .avatar nr => nr.num

def enosys : Int := 38

def eperm : Int := 1

/-- What the bodies of the switch call; a body written out in the switch carries the name of the
call it implements. -/
inductive SyscallHandler
  | sysExit | sysYield | sysGetpid | sysSleep | sysExecve | sysBrk | sysSbrk | sysWrite
  | sysRead | sysOpen | sysClose | sysGettimeofday | exitHandler | exitGroupHandler
  | cloneHandler | execveHandler | waitHandler | procIdsHandler | futexHandler
  | archPrctlHandler | killHandler | tkillHandler | tgkillHandler | schedYieldHandler
  | readHandler | readvHandler | pread64Handler | writeHandler | writevHandler
  | pwrite64Handler | lseekHandler | faccessatHandler | renameatHandler | renameat2Handler
  | unlinkatHandler | mkdirat | openatHandler | closeHandler | dupHandler | dup3Handler
  | fcntlHandler | pipe2Handler | getdents64Handler | fstatHandler | newfstatatHandler
  | readlinkatHandler | ftruncate | sendfileHandler | getcwdHandler | chdirHandler
  | ioctlHandler | pollHandler | selectHandler | epollCreate1Handler | epollCtlHandler
  | epollPwaitHandler | sigactionHandler | sigprocmaskHandler | sigpendingHandler
  | sigreturnHandler | uname | sysinfo | getcpu | clockGettime | nanosleepHandler | rlimit
  | getrusage | sysMunmap | socketHandler | bindHandler | listenHandler | acceptHandler
  | connectHandler | getsocknameHandler | getpeernameHandler | sendtoHandler | recvfromHandler
  | setsockoptHandler | getsockoptHandler | shutdownHandler | getrandomHandler | sysMmap
  | itimer | schedAffinity | statfs | completionWait | completionComplete | completionReset
  deriving DecidableEq

/-- A body either calls a handler or stores a constant in `regs[0]`. -/
inductive SyscallBody
  | call (handler : SyscallHandler)
  | ret (value : Int)
  deriving DecidableEq

/-- The switch, one entry for each group of labels. -/
def syscallCases : List (List SysLabel × SyscallBody) :=
  [
   ([.custom .sysExit], .call .sysExit),
   ([.custom .sysYield], .call .sysYield),
   ([.custom .sysGetpid], .call .sysGetpid),
   ([.custom .sysSleep], .call .sysSleep),
   ([.custom .sysExecve], .call .sysExecve),
   ([.custom .sysBrk], .call .sysBrk),
   ([.custom .sysSbrk], .call .sysSbrk),
   ([.custom .sysWrite], .call .sysWrite),
   ([.custom .sysRead], .call .sysRead),
   ([.custom .sysOpen], .call .sysOpen),
   ([.custom .sysClose], .call .sysClose),
   ([.custom .sysGettimeofday], .call .sysGettimeofday),
   ([.linux .exit], .call .exitHandler),
   ([.linux .exitGroup], .call .exitGroupHandler),
   ([.linux .clone], .call .cloneHandler),
   ([.linux .execve], .call .execveHandler),
   ([.linux .wait4], .call .waitHandler),
   ([.linux .waitid], .ret (-enosys)),
   ([.linux .setTidAddr, .linux .gettid, .linux .getpid, .linux .getppid, .linux .getuid,
     .linux .geteuid, .linux .getgid, .linux .getegid, .linux .setuid, .linux .setgid,
     .linux .setresuid, .linux .getresuid, .linux .setresgid, .linux .getresgid,
     .linux .setpgid, .linux .getpgid, .linux .getsid, .linux .setsid, .linux .getgroups,
     .linux .setgroups],
    .call .procIdsHandler),
   ([.linux .futex], .call .futexHandler),
   ([.x86 .archPrctl], .call .archPrctlHandler),
   ([.x86 .rseq], .ret (-enosys)),
   ([.linux .kill], .call .killHandler),
   ([.linux .tkill], .call .tkillHandler),
   ([.linux .tgkill], .call .tgkillHandler),
   ([.linux .schedYield], .call .schedYieldHandler),
   ([.linux .read], .call .readHandler),
   ([.linux .readv], .call .readvHandler),
   ([.linux .pread64], .call .pread64Handler),
   ([.linux .write], .call .writeHandler),
   ([.linux .writev], .call .writevHandler),
   ([.linux .pwrite64], .call .pwrite64Handler),
   ([.linux .lseek], .call .lseekHandler),
   ([.linux .faccessat, .linux .faccessat2], .call .faccessatHandler),
   ([.linux .renameat], .call .renameatHandler),
   ([.linux .renameat2], .call .renameat2Handler),
   ([.linux .unlinkat], .call .unlinkatHandler),
   ([.linux .mkdirat], .call .mkdirat),
   ([.linux .openat], .call .openatHandler),
   ([.linux .close], .call .closeHandler),
   ([.linux .dup], .call .dupHandler),
   ([.linux .dup3], .call .dup3Handler),
   ([.linux .fcntl], .call .fcntlHandler),
   ([.linux .pipe2], .call .pipe2Handler),
   ([.linux .getdents64], .call .getdents64Handler),
   ([.linux .fstat], .call .fstatHandler),
   ([.linux .newfstatat], .call .newfstatatHandler),
   ([.linux .readlinkat], .call .readlinkatHandler),
   ([.linux .fsync, .linux .fdatasync], .ret 0),
   ([.linux .ftruncate], .call .ftruncate),
   ([.linux .sendfile], .call .sendfileHandler),
   ([.linux .getcwd], .call .getcwdHandler),
   ([.linux .chdir], .call .chdirHandler),
   ([.linux .ioctl], .call .ioctlHandler),
   ([.x86 .poll, .linux .ppoll], .call .pollHandler),
   ([.x86 .select, .linux .pselect6], .call .selectHandler),
   ([.linux .epollCreate1], .call .epollCreate1Handler),
   ([.linux .epollCtl], .call .epollCtlHandler),
   ([.linux .epollPwait], .call .epollPwaitHandler),
   ([.linux .rtSigaction], .call .sigactionHandler),
   ([.linux .rtSigprocmask], .call .sigprocmaskHandler),
   ([.linux .rtSigpending], .call .sigpendingHandler),
   ([.linux .rtSigreturn], .call .sigreturnHandler),
   ([.linux .uname], .call .uname),
   ([.linux .sysinfo], .call .sysinfo),
   ([.linux .getcpu], .call .getcpu),
   ([.linux .clockGettime], .call .clockGettime),
   ([.linux .nanosleep], .call .nanosleepHandler),
   ([.linux .getrlimit, .linux .setrlimit, .linux .prlimit64], .call .rlimit),
   ([.linux .getrusage], .call .getrusage),
   ([.linux .umask], .ret 0o22),
   ([.linux .prctl, .linux .setRobustList, .linux .mprotect, .linux .madvise], .ret 0),
   ([.linux .munmap], .call .sysMunmap),
   ([.linux .socket], .call .socketHandler),
   ([.linux .bind], .call .bindHandler),
   ([.linux .listen], .call .listenHandler),
   ([.linux .accept, .linux .accept4], .call .acceptHandler),
   ([.linux .connect], .call .connectHandler),
   ([.linux .getsockname], .call .getsocknameHandler),
   ([.linux .getpeername], .call .getpeernameHandler),
   ([.linux .sendto], .call .sendtoHandler),
   ([.linux .recvfrom], .call .recvfromHandler),
   ([.linux .setsockopt], .call .setsockoptHandler),
   ([.linux .getsockopt], .call .getsockoptHandler),
   ([.linux .shutdown], .call .shutdownHandler),
   ([.linux .sendmsg, .linux .recvmsg, .linux .socketpair], .ret (-enosys)),
   ([.linux .getrandom], .call .getrandomHandler),
   ([.linux .brk], .call .sysBrk),
   ([.linux .mmap], .call .sysMmap),
   ([.linux .nrSync, .x86 .nrSync, .linux .nrMembarrier, .x86 .nrMembarrier], .ret 0),
   ([.linux .nrLinkat, .x86 .nrLinkat], .ret (-eperm)),
   ([.linux .nrFchmodat, .linux .nrFchownat, .linux .nrFchown], .ret 0),
   ([.linux .nrSetitimer, .linux .nrGetitimer], .call .itimer),
   ([.linux .nrSchedSetaffinity, .linux .nrSchedGetaffinity], .call .schedAffinity),
   ([.linux .nrUtimensat, .linux .nrMsync], .ret 0),
   ([.linux .nrRiscvHwprobe], .ret (-enosys)),
   ([.linux .nrRiscvFlushIcache], .ret 0),
   ([.linux .nrStatfs, .linux .nrFstatfs, .x86 .nrStatfs, .x86 .nrFstatfs], .call .statfs)]

/-- The three cases under `TASK_INFRA_TEST`. -/
def completionCases : List (List SysLabel × SyscallBody) :=
  [([.avatar .completionWait], .call .completionWait),
   ([.avatar .completionComplete], .call .completionComplete),
   ([.avatar .completionReset], .call .completionReset)]

/-- All labels of a build with their bodies. -/
def syscallLabels (infraTest : Bool) : List (SysLabel × SyscallBody) :=
  (syscallCases ++ if infraTest then completionCases else []).flatMap
    fun group => group.1.map fun label => (label, group.2)

/-- The label a number jumps to; `none` is `default:`. -/
def syscallCase (infraTest : Bool) (nr : Nat) : Option (SysLabel × SyscallBody) :=
  (syscallLabels infraTest).find? fun entry => entry.1.num == nr

/-- The argument array `regs[9]`. -/
abbrev Regs := Fin 9 → BitVec 64

/-- The argument array with its first entries replaced. -/
def Regs.withArgs (regs : Regs) (values : List (BitVec 64)) : Regs :=
  fun i => values.getD i (regs i)

/-- `(uint64_t)(int64_t)AT_FDCWD`. -/
def atFdcwd : BitVec 64 := BitVec.ofInt 64 (-100)

def stubMarker : Nat := 0x7FFFFFFE

-- The argument changes of the translator's cases.
def openArgs (r : Regs) : Regs := r.withArgs [atFdcwd, r 0, r 1, r 2]
def statArgs (r : Regs) : Regs := r.withArgs [atFdcwd, r 0, r 1, 0]
def renameArgs (r : Regs) : Regs := r.withArgs [atFdcwd, r 0, atFdcwd, r 1]
def mkdirArgs (r : Regs) : Regs := r.withArgs [atFdcwd, r 0, r 1]
def unlinkArgs (flags : BitVec 64) (r : Regs) : Regs := r.withArgs [atFdcwd, r 0, flags]
def creatArgs (r : Regs) : Regs := r.withArgs [atFdcwd, r 0, 0x241, r 1]
def dup2Args (r : Regs) : Regs := r.withArgs [r 0, r 1, 0]
def cloneArgs (r : Regs) : Regs := r.withArgs [r 0, r 1, r 2, r 4, r 3]
def forkArgs (r : Regs) : Regs := r.withArgs [17, 0, 0, 0, 0, 0]
def firstZero (r : Regs) : Regs := r.withArgs [0]
def epollWaitArgs (r : Regs) : Regs := r.withArgs [r 0, r 1, r 2, r 3, 0, 0]

/-- What a case of the translator assigns. -/
inductive X86Case
  | linux (target : LinuxSysNr) (args : Regs → Regs)
  | x86 (target : X86SysNr)
  | stub
  | keep

/-- The translator, one entry for each case. -/
def x86Cases : List (Nat × X86Case) :=
  [(0, .linux .read id), (1, .linux .write id), (2, .linux .openat openArgs),
   (3, .linux .close id), (4, .linux .newfstatat statArgs), (5, .linux .fstat id),
   (6, .linux .newfstatat statArgs), (7, .x86 .poll), (8, .linux .lseek id),
   (9, .linux .mmap id), (10, .linux .mprotect id), (11, .linux .munmap id),
   (12, .linux .brk id), (13, .linux .rtSigaction id), (14, .linux .rtSigprocmask id),
   (15, .linux .rtSigreturn id), (16, .linux .ioctl id), (17, .linux .read id),
   (19, .linux .readv id), (20, .linux .writev id), (21, .linux .faccessat statArgs),
   (22, .linux .pipe2 id), (23, .x86 .select), (24, .linux .schedYield id), (26, .stub),
   (32, .keep), (33, .linux .dup3 dup2Args), (35, .linux .nanosleep id),
   (36, .linux .nrGetitimer id), (38, .linux .nrSetitimer id), (39, .linux .getpid id),
   (40, .linux .sendfile id), (187, .linux .sendfile id), (41, .linux .socket id),
   (42, .linux .connect id), (43, .linux .accept id), (44, .linux .sendto id),
   (45, .linux .recvfrom id), (46, .linux .sendmsg id), (47, .linux .recvmsg id),
   (48, .linux .shutdown id), (49, .linux .bind id), (50, .linux .listen id),
   (51, .linux .getsockname id), (52, .linux .getpeername id), (53, .linux .socketpair id),
   (54, .linux .setsockopt id), (55, .linux .getsockopt id), (56, .linux .clone cloneArgs),
   (57, .linux .clone forkArgs), (58, .linux .clone forkArgs), (59, .linux .execve id),
   (60, .linux .exit id), (61, .linux .wait4 id), (62, .linux .kill id),
   (63, .linux .uname id), (72, .linux .fcntl id), (74, .linux .fsync id),
   (75, .linux .fdatasync id), (77, .linux .ftruncate id), (79, .linux .getcwd id),
   (80, .linux .chdir id), (82, .linux .renameat renameArgs), (83, .linux .mkdirat mkdirArgs),
   (84, .linux .unlinkat (unlinkArgs 0x200)), (85, .linux .openat creatArgs), (86, .stub),
   (87, .linux .unlinkat (unlinkArgs 0)), (90, .stub), (91, .stub), (92, .stub), (93, .stub),
   (89, .linux .readlinkat openArgs), (95, .linux .umask id), (97, .linux .getrlimit id),
   (98, .linux .getrusage id), (99, .linux .sysinfo id), (100, .stub),
   (102, .linux .getuid id), (104, .linux .getgid id), (105, .linux .setuid id),
   (106, .linux .setgid id), (107, .linux .geteuid id), (108, .linux .getegid id),
   (109, .linux .setpgid id), (110, .linux .getppid id), (111, .linux .getpgid firstZero),
   (112, .linux .setsid id), (115, .linux .getgroups id), (116, .linux .setgroups id),
   (121, .linux .getpgid id), (124, .linux .getsid id), (127, .linux .rtSigpending id),
   (131, .stub), (157, .linux .prctl id), (158, .x86 .archPrctl), (160, .linux .setrlimit id),
   (165, .linux .getrusage id), (186, .linux .gettid id), (202, .linux .futex id),
   (213, .linux .epollCreate1 firstZero), (217, .linux .getdents64 id),
   (218, .linux .setTidAddr id), (228, .linux .clockGettime id), (231, .linux .exitGroup id),
   (309, .linux .getcpu id), (232, .linux .epollPwait epollWaitArgs),
   (233, .linux .epollCtl id), (234, .linux .tgkill id), (247, .linux .waitid id),
   (257, .linux .openat id), (258, .linux .mkdirat id), (262, .linux .newfstatat id),
   (260, .stub), (263, .linux .unlinkat id), (264, .linux .renameat id),
   (267, .linux .readlinkat id), (268, .stub), (269, .linux .faccessat id),
   (270, .linux .pselect6 id), (271, .linux .ppoll id), (273, .linux .setRobustList id),
   (292, .linux .dup3 id), (293, .linux .pipe2 id), (288, .linux .accept4 id),
   (291, .linux .epollCreate1 id), (281, .linux .epollPwait id), (302, .linux .prlimit64 id),
   (318, .linux .getrandom id), (334, .x86 .rseq)]

def X86Case.num (nr : Nat) : X86Case → Nat
  | .linux target _ => target.num
  | .x86 target => target.num
  | .stub => stubMarker
  | .keep => nr

def X86Case.args : X86Case → Regs → Regs
  | .linux _ args => args
  | _ => id

/-- `x86_translate_syscall`: the number and the arguments handed on to the switch. -/
def x86TranslateSyscall (nr : BitVec 64) (regs : Regs) : Nat × Regs :=
  match x86Cases.lookup nr.toNat with
  | some change => (change.num nr.toNat, change.args regs)
  | none => (nr.toNat, regs)

/-- What surrounds the switch and what its bodies call, over any state `σ`: the bookkeeping at
entry, the handlers, and the bookkeeping at exit. -/
structure SyscallEnv (σ : Type) where
  enter : Nat → Regs → σ → σ
  run : SyscallHandler → Nat → Regs → σ → σ × BitVec 64
  leave : BitVec 64 → σ → σ

def SyscallEnv.dispatch {σ : Type} (env : SyscallEnv σ) (infraTest : Bool) (nr : Nat) (regs : Regs)
    (s : σ) : σ × BitVec 64 :=
  match syscallCase infraTest nr with
  | some (_, .call handler) => env.run handler nr regs s
  | some (_, .ret value) => (s, BitVec.ofInt 64 value)
  | none => (s, BitVec.ofInt 64 (-enosys))

/-- `syscall_handler` on x86_64: the state afterwards and the value the call returns. -/
def SyscallEnv.syscallHandler {σ : Type} (env : SyscallEnv σ) (infraTest : Bool) (nr : BitVec 64)
    (regs : Regs) (s : σ) : σ × BitVec 64 :=
  let call := x86TranslateSyscall nr regs
  if call.1 = stubMarker then (s, 0)
  else
    let done := env.dispatch infraTest call.1 call.2 (env.enter call.1 call.2 s)
    (env.leave done.2 done.1, done.2)

/-- The number has a case of its own in the translator. -/
def Translated (nr : BitVec 64) : Prop := (x86Cases.lookup nr.toNat).isSome

/-- Whatever the handlers do, the call does nothing but the bookkeeping every call does and returns
`-ENOSYS`. -/
def Refuses (infraTest : Bool) (nr : BitVec 64) : Prop :=
  ∀ (σ : Type) (env : SyscallEnv σ) (regs : Regs) (s : σ), env.syscallHandler infraTest nr regs s =
      (env.leave (BitVec.ofInt 64 (-enosys)) (env.enter nr.toNat regs s), BitVec.ofInt 64 (-enosys))

/-- The native number reaches the switch unchanged and is executed there under the label the generic
table gives that number. -/
def ReadAsGeneric (infraTest : Bool) (nr : BitVec 64) : Prop :=
  ∃ label body, (∀ regs, (x86TranslateSyscall nr regs).1 = nr.toNat) ∧
    syscallCase infraTest nr.toNat = some (.linux label, body) ∧ body ≠ .ret (-enosys)

/-- The native numbers that the translator lets through to a case that does something, the stub
marker, and 165, `mount`, which it sends to the generic `getrusage` of that number. -/
def strayNumbers (infraTest : Bool) : List Nat :=
  [25, 29, 30, 34, 37, 64, 65, 66, 67, 68, 71, 73, 78, 81, 88, 94, 96, 101, 103, 113, 122, 123,
   129, 130, 134, 135, 136, 137, 138, 139, 144, 146, 147, 148, 149, 150, 154, 155, 156, 159,
   162, 163, 164, 165, 166, 167, 168, 172, 173, 174, 175, 176, 177, 178, 179, 198, 200, 201,
   203, 204, 205, 206, 207, 208, 209, 210, 214, 215, 220, 221, 222, 226, 227, 242, 259, 261,
   265, 276, 278, 283, 324, 439, 0x4000, 0x4001, 0x4002, 0x4003, 0x7FFFFFFA, 0x7FFFFFFB,
   0x7FFFFFFD, 0x7FFFFFFE]
    ++ if infraTest then [0x7FFF1000, 0x7FFF1001, 0x7FFF1002] else []

variable (infraTest : Bool) (nr : BitVec 64)

theorem x86TranslateSyscall_untranslated (regs : Regs) (passed : x86Cases.lookup nr.toNat = none) :
    x86TranslateSyscall nr regs = (nr.toNat, regs) := by
  simp only [x86TranslateSyscall, passed]

theorem x86TranslateSyscall_translated (regs : Regs) (change : X86Case)
    (changed : x86Cases.lookup nr.toNat = some change) :
    (x86TranslateSyscall nr regs).1 = change.num nr.toNat := by
  simp only [x86TranslateSyscall, changed]

/-- Every label of the switch is translated from, lies among the stray numbers, or refuses. -/
theorem syscallLabels_accounted : ∀ entry ∈ syscallLabels infraTest,
    entry.1.num ∈ strayNumbers infraTest ∨ (x86Cases.lookup entry.1.num).isSome ∨
      entry.2 = .ret (-enosys) := by
  cases infraTest <;> decide +kernel

theorem strayNumbers_untranslated : ∀ nr ∈ strayNumbers infraTest,
    nr = 165 ∨ (x86Cases.lookup nr).isSome = false := by
  cases infraTest <;> decide +kernel

theorem x86Cases_kept : ∀ entry ∈ x86Cases,
    entry.2.num entry.1 = entry.1 → entry.1 = 165 ∨
      (syscallCase infraTest entry.1).isSome = false := by
  cases infraTest <;> decide +kernel

theorem syscallCase_spec (nr : Nat) (label : SysLabel) (body : SyscallBody)
    (found : syscallCase infraTest nr = some (label, body)) :
    (label, body) ∈ syscallLabels infraTest ∧ label.num = nr := by
  have named := List.find?_some found
  exact ⟨List.mem_of_find?_eq_some found, by simpa using named⟩

theorem syscallCase_refuses (nr : Nat) (passed : x86Cases.lookup nr = none)
    (outside : nr ∉ strayNumbers infraTest) (label : SysLabel) (body : SyscallBody)
    (found : syscallCase infraTest nr = some (label, body)) : body = .ret (-enosys) := by
  obtain ⟨listed, rfl⟩ := syscallCase_spec infraTest nr label body found
  rcases syscallLabels_accounted infraTest (label, body) listed with stray | translated | refuses
  · exact absurd stray outside
  · rw [passed] at translated
    cases translated
  · exact refuses

theorem refuses_of_outside (passed : x86Cases.lookup nr.toNat = none)
    (outside : nr.toNat ∉ strayNumbers infraTest) :
    Refuses infraTest nr := by
  intro σ env regs s
  have real : nr.toNat ≠ stubMarker := by
    intro marker
    apply outside
    rw [marker]
    cases infraTest <;> decide
  have silent (t : σ) :
      env.dispatch infraTest nr.toNat regs t = (t, BitVec.ofInt 64 (-enosys)) := by
    cases found : syscallCase infraTest nr.toNat with
    | none => simp only [SyscallEnv.dispatch, found]
    | some entry =>
      have constant := syscallCase_refuses infraTest nr.toNat passed outside entry.1 entry.2 found
      obtain ⟨label, body⟩ := entry
      subst constant
      simp only [SyscallEnv.dispatch, found]
  simp only [SyscallEnv.syscallHandler, x86TranslateSyscall_untranslated nr regs passed,
    real, if_false, silent]

def markEnv : SyscallEnv Bool where
  enter _ _ s := s
  run _ _ _ _ := (true, 0)
  leave _ s := s

theorem strayNumbers_executed : ∀ nr ∈ strayNumbers infraTest,
    markEnv.syscallHandler infraTest (BitVec.ofNat 64 nr) (fun _ => 0) false ≠
      (false, BitVec.ofInt 64 (-enosys)) := by
  cases infraTest <;> decide +kernel

theorem not_refuses_of_stray (stray : nr.toNat ∈ strayNumbers infraTest) :
    ¬ Refuses infraTest nr := by
  intro refuses
  apply strayNumbers_executed infraTest nr.toNat stray
  rw [BitVec.ofNat_toNat, BitVec.setWidth_eq]
  exact refuses Bool markEnv (fun _ => 0) false

theorem readAsGeneric_165 : ReadAsGeneric infraTest 165 := by
  refine ⟨.getrusage, .call .getrusage, fun _ => rfl, ?_, nofun⟩
  cases infraTest <;> decide +kernel

theorem not_readAsGeneric_of_translated (change : X86Case)
    (changed : x86Cases.lookup nr.toNat = some change) (other : nr.toNat ≠ 165) :
    ¬ ReadAsGeneric infraTest nr := by
  intro ⟨label, body, unchanged, found, _⟩
  have kept : change.num nr.toNat = nr.toNat := by
    rw [← x86TranslateSyscall_translated nr (fun _ => 0) change changed]
    exact unchanged _
  have listed : (nr.toNat, change) ∈ x86Cases := by
    obtain ⟨before, after, split, _⟩ := List.lookup_eq_some_iff.mp changed
    rw [split]
    simp
  rcases x86Cases_kept infraTest (nr.toNat, change) listed kept with special | unlabelled
  · exact other special
  · rw [found] at unlabelled
    cases unlabelled

/-- A native number is handled as the two tables intend it, and refused when the translator does not
know it, exactly outside the stray numbers. -/
theorem syscall_numbering (infraTest : Bool) (nr : BitVec 64) :
    ((¬ Translated nr → Refuses infraTest nr) ∧ ¬ ReadAsGeneric infraTest nr) ↔
      nr.toNat ∉ strayNumbers infraTest := by
  cases changed : x86Cases.lookup nr.toNat with
  | some change =>
    have translated : Translated nr := by simp only [Translated, changed, Option.isSome_some]
    by_cases special : nr.toNat = 165
    · have value : nr = 165 := BitVec.eq_of_toNat_eq special
      have stray : nr.toNat ∈ strayNumbers infraTest := by
        rw [special]
        cases infraTest <;> decide
      have generic := readAsGeneric_165 infraTest
      rw [← value] at generic
      exact iff_of_false (fun both => both.2 generic) (fun outside => outside stray)
    · have outside : nr.toNat ∉ strayNumbers infraTest := by
        intro stray
        rcases strayNumbers_untranslated infraTest nr.toNat stray with isMount | passed
        · exact special isMount
        · rw [changed] at passed
          cases passed
      have distinct := not_readAsGeneric_of_translated infraTest nr change changed special
      exact iff_of_true ⟨fun unknown => absurd translated unknown, distinct⟩ outside
  | none =>
    have unknown : ¬ Translated nr := by simp [Translated, changed]
    by_cases stray : nr.toNat ∈ strayNumbers infraTest
    · have executed := not_refuses_of_stray infraTest nr stray
      exact iff_of_false (fun both => executed (both.1 unknown)) (fun outside => outside stray)
    · have refuses := refuses_of_outside infraTest nr changed stray
      have distinct : ¬ ReadAsGeneric infraTest nr := by
        intro ⟨label, body, _, found, acts⟩
        exact acts (syscallCase_refuses infraTest nr.toNat changed stray _ body found)
      exact iff_of_true ⟨fun _ => refuses, distinct⟩ stray

/-- Native 25 is `mremap`; the translator has no case for it and the switch runs `fcntl_handler`. -/
theorem syscall_mremap_runs_fcntl : ¬ Translated 25 ∧ ¬ Refuses false 25 ∧ ReadAsGeneric false 25 ∧
    syscallCase false 25 = some (.linux .fcntl, .call .fcntlHandler) := by
  have unknown : x86Cases.lookup (25 : BitVec 64).toNat = none := by rfl
  have found : syscallCase false 25 = some (.linux .fcntl, .call .fcntlHandler) := by decide +kernel
  refine ⟨by rw [Translated, unknown]; exact Bool.false_ne_true,
    not_refuses_of_stray false 25 (by decide), ?_, found⟩
  refine ⟨.fcntl, .call .fcntlHandler, ?_, found, nofun⟩
  intro regs
  rw [x86TranslateSyscall_untranslated 25 regs unknown]

end AvatarKernel
