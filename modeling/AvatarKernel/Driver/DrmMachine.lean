import AvatarKernel.Driver.DmaBuf
import AvatarKernel.Lib.Transition

namespace AvatarKernel

open Function

/-- What is known of a call on a DRM file (history): which opening of the file it was made on and
which GEM objects were gone when it started. -/
structure Origin where
  opening : Nat
  gone : List Nat
  deriving DecidableEq

/-- What a new descriptor is for: a buffer that `dma_heap_dev_ioctl` has just allocated, a buffer
that `PRIME_HANDLE_TO_FD` exports, or another kind of object. -/
inductive NewFd where
  | own (i : Fin dmaBufMax)
  | prime (i : Fin dmaBufMax) (origin : Origin)
  | other

def NewFd.object : NewFd → PoolObj
  | .own i => .dmabuf i
  | .prime i _ => .dmabuf i
  | .other => .other

/-- What `dma_buf_alloc` was called for. -/
inductive DmaFor where
  | heap (pid : Nat)
  | gem (file : Nat) (origin : Origin)

/-- What `PRIME_HANDLE_TO_FD`, `MEM_SYNC` and `SUBMIT` do with the buffer of a handle. -/
inductive GemUse where
  | fd (pid : Nat)
  | sync (offset size : Nat) (toDevice fromDevice : Bool)
  | submit

/-- Where a copied pool object goes: `dup_to_fd`, `F_DUPFD`, the fork path of `clone_handler` or
`fd_table_inherit`. -/
inductive CopyTo where
  | dup (pid : Nat) (newfd : Fin taskMaxFd)
  | fcntl (pid floor : Nat)
  | fork (child : Nat) (fd : Fin taskMaxFd)
  | inherit (child : Nat) (fd : Fin taskMaxFd)

/-- What follows the closing of a descriptor: nothing, or the copy of `dup_to_fd`. -/
inductive AfterClose where
  | done
  | copy (src : Fin fdPoolSize) (pid : Nat) (newfd : Fin taskMaxFd)

inductive AfterPut where
  | done
  | copyOut (pid : Nat) (fd : Fin taskMaxFd)
  | poolFree (p : Fin fdPoolSize) (next : AfterClose)
  | closeFile (file : Nat) (c : Fin rknpuDrmMaxFiles) (k : Nat)

/-- Where a thread stands in a call: the section under a lock, or the unlocked look at a table, that
it does next. `owed`, `paid` and the slots of `submit` and `map` are history. -/
inductive DmaPc where
  | idle
  | lost
  | heapAlloc (why : DmaFor) (size : Nat)
  | insert (why : DmaFor) (size : Nat) (region : DmaRegion)
  | poolAlloc (pid : Nat) (what : NewFd)
  | publish (pid : Nat) (what : NewFd) (p : Fin fdPoolSize)
  | unpublish (what : NewFd) (p : Fin fdPoolSize)
  | get (pid : Nat) (what : NewFd) (p : Fin fdPoolSize) (fd : Fin taskMaxFd)
  | putIndex (i : Fin dmaBufMax) (next : AfterPut)
  | put (i : Fin dmaBufMax) (next : AfterPut)
  | heapFree (region : DmaRegion) (next : AfterPut)
  | copyOut (pid : Nat) (fd : Fin taskMaxFd)
  | takeFd (pid : Nat) (fd : Fin taskMaxFd) (next : AfterClose)
  | objClose (p : Fin fdPoolSize) (next : AfterClose)
  | poolFree (p : Fin fdPoolSize) (paid : Bool) (next : AfterClose)
  | look (pid : Nat) (fd : Fin taskMaxFd) (dest : CopyTo)
  | copyAlloc (src : Fin fdPoolSize) (dest : CopyTo)
  | copyObj (src p : Fin fdPoolSize) (dest : CopyTo)
  | refIndex (p : Fin fdPoolSize) (dest : CopyTo)
  | refGet (i : Fin dmaBufMax) (p : Fin fdPoolSize) (dest : CopyTo)
  | install (p : Fin fdPoolSize) (dest : CopyTo)
  | lookFd (file pid : Nat) (fd : Fin taskMaxFd) (origin : Origin)
  | gemCreate (file : Nat) (i : Fin dmaBufMax) (created : Bool) (origin : Origin)
  | find (file handle : Nat) (use : GemUse) (origin : Origin)
  | fromIndex (i : Fin dmaBufMax) (use : GemUse) (origin : Origin)
  | sync (i : Fin dmaBufMax) (offset size : Nat) (origin : Origin)
  | submitRead (i : Fin dmaBufMax) (origin : Origin)
  | submit (paddr size : Nat) (i : Fin dmaBufMax) (origin : Origin)
  | mmapLookup (file offset len : Nat) (origin : Origin)
  | map (paddr size len : Nat) (i : Fin dmaBufMax) (origin : Origin)
  | destroy (file handle : Nat)
  | closeStart (file : Nat)
  | closeNext (file : Nat) (c : Fin rknpuDrmMaxFiles) (k : Nat)
  | closeGem (file : Nat) (c : Fin rknpuDrmMaxFiles) (k : Fin rknpuGemMax) (owed : Fin dmaBufMax)

/-- The `vfs_file_t` at an address as an opening of the render node (history: its number). -/
inductive NodeFile where
  | absent
  | live (opening : Nat)
  | closing (opening : Nat)
  deriving DecidableEq

/-- A GEM object was made for an opening of the render node, over the memory of an allocation. -/
structure Grant where
  opening : Nat
  number : Nat
  gen : Nat
  deriving DecidableEq

/-- `n` threads over the dma-buf table, the GEM objects of the open files, the descriptor pool and
the descriptor tables. The last five fields are history: memory taken and given back, GEM objects
made and destroyed, and openings of the node. -/
structure DmaState (n : Nat) where
  bufs : DmaBufs
  drmFiles : DrmFiles
  nextId : Nat
  pool : Fin fdPoolSize → PoolObj
  table : Nat → Fin taskMaxFd → Option (Fin fdPoolSize)
  nodes : Nat → NodeFile
  pc : Fin n → DmaPc
  allocated : List DmaRegion
  released : List DmaRegion
  grants : List Grant
  gone : List Nat
  openings : Nat

/-- What the rest of the kernel answers to a step: the address that `pmm_alloc_pages` returns and
whether a copy to the user's memory succeeds. -/
structure Answer where
  paddr : Nat
  copied : Bool

namespace DmaState

variable {n : Nat}

def goto (s : DmaState n) (t : Fin n) (pc : DmaPc) : DmaState n :=
  { s with pc := update s.pc t pc }

def setObj (s : DmaState n) (p : Fin fdPoolSize) (obj : PoolObj) : DmaState n :=
  { s with pool := update s.pool p obj }

def setFd (s : DmaState n) (pid : Nat) (fd : Fin taskMaxFd) (entry : Option (Fin fdPoolSize)) :
    DmaState n :=
  { s with table := update s.table pid (update (s.table pid) fd entry) }

def getFd (s : DmaState n) (pid : Nat) (fd : Fin taskMaxFd) : Option (Fin fdPoolSize) :=
  (s.table pid fd).filter fun p => s.pool p ≠ .free

end DmaState

def AfterClose.pc : AfterClose → DmaPc
  | .done => .idle
  | .copy src pid newfd => .copyAlloc src (.dup pid newfd)

def AfterPut.pc (paid : Bool) : AfterPut → DmaPc
  | .done => .idle
  | .copyOut pid fd => .copyOut pid fd
  | .poolFree p next => .poolFree p paid next
  | .closeFile file c k => .closeNext file c k

/-- What is left to do after `dma_buf_alloc_fd_current` has failed. -/
def NewFd.failed : NewFd → DmaPc
  | .own i => .put i .done
  | .prime _ _ => .idle
  | .other => .idle

def NewFd.published (pid : Nat) (p : Fin fdPoolSize) (fd : Fin taskMaxFd) : NewFd → DmaPc
  | .own i => .get pid (.own i) p fd
  | .prime i origin => .get pid (.prime i origin) p fd
  | .other => .idle

def DmaFor.pc (i : Fin dmaBufMax) : DmaFor → DmaPc
  | .heap pid => .poolAlloc pid (.own i)
  | .gem file origin => .gemCreate file i true origin

def GemUse.pc (i : Fin dmaBufMax) (origin : Origin) : GemUse → DmaPc
  | .fd pid => .poolAlloc pid (.prime i origin)
  | .sync offset size toDevice fromDevice =>
    if toDevice || fromDevice then .sync i offset size origin else .idle
  | .submit => .submitRead i origin

/-- What `rknpu_ioctl_mem_create` and `drm_ioctl_prime_fd_to_handle` do after the section that
makes the GEM object. -/
def afterGem (i : Fin dmaBufMax) (created : Bool) : DmaPc :=
  if created then .put i .done else .idle

def rknpuMmapBase : Nat := 2 ^ 40

section Sections

variable {n : Nat} (s : DmaState n) (t : Fin n)

/-- `dma_heap_alloc`. A page count that does not fit `uint32_t` is cut, and the kernel does not
survive the assertion on 0 pages or the `memset` of the bytes that were asked for. -/
def heapAlloc (why : DmaFor) (size : Nat) (paddr : Nat) : DmaState n :=
  let pages := (size + 4095) % 2 ^ 64 / 4096
  if pages = 0 ∨ 2 ^ 32 ≤ pages then s.goto t .lost
  else if paddr = 0 then s.goto t .idle
  else
    let region := ⟨s.allocated.length, paddr, alignUp size⟩
    { s.goto t (.insert why size region) with allocated := region :: s.allocated }

/-- The rest of `dma_buf_impl_alloc`. -/
def insertBuf (why : DmaFor) (size : Nat) (region : DmaRegion) : DmaState n :=
  match dmaBufInsert s.bufs size region with
  | none => s.goto t (.heapFree region .done)
  | some (bufs, i) =>
    { s.goto t (why.pc i) with bufs := bufs }

/-- `fd_pool_alloc` in `task_alloc_dmabuf_fd`. -/
def poolAlloc (pid : Nat) (what : NewFd) : DmaState n :=
  match freeObj s.pool with
  | none => s.goto t what.failed
  | some p => (s.setObj p .allocated).goto t (.publish pid what p)

/-- The rest of `task_alloc_dmabuf_fd`: the object is filled in and `task_alloc_fd` publishes it. -/
def publish (pid : Nat) (what : NewFd) (p : Fin fdPoolSize) : DmaState n :=
  match descriptorFree (s.table pid) 3 with
  | none => (s.setObj p what.object).goto t (.unpublish what p)
  | some fd => ((s.setObj p what.object).setFd pid fd (some p)).goto t (what.published pid p fd)

/-- The `dma_buf_get` at the end of `dma_buf_impl_alloc_fd_current`. -/
def getBuf (pid : Nat) (what : NewFd) (fd : Fin taskMaxFd) : DmaState n :=
  match what with
  | .own i => { s.goto t (.put i (.copyOut pid fd)) with bufs := dmaBufGet s.bufs i }
  | .prime i _ => { s.goto t .idle with bufs := dmaBufGet s.bufs i }
  | .other => s.goto t .idle

def putBuf (i : Fin dmaBufMax) (next : AfterPut) : DmaState n :=
  match dmaBufPut s.bufs i with
  | (_, .unused) => s.goto t (next.pc false)
  | (bufs, .dropped) => { s.goto t (next.pc true) with bufs := bufs }
  | (bufs, .last region) => { s.goto t (.heapFree region next) with bufs := bufs }

def takeFd (pid : Nat) (fd : Fin taskMaxFd) (next : AfterClose) : DmaState n :=
  match s.table pid fd with
  | none => s.goto t next.pc
  | some p => (s.setFd pid fd none).goto t (.objClose p next)

/-- The look at the object in `fd_obj_close`. -/
def objClose (p : Fin fdPoolSize) (next : AfterClose) : DmaState n :=
  match s.pool p with
  | .dmabuf i => s.goto t (.putIndex i (.poolFree p next))
  | _ => s.goto t (.poolFree p false next)

/-- The look at the source of a copy. `dup_to_fd` closes what is open at `newfd` before it
copies. -/
def lookSrc (pid : Nat) (fd : Fin taskMaxFd) (dest : CopyTo) : DmaState n :=
  match s.getFd pid fd, dest with
  | none, _ => s.goto t .idle
  | some src, .dup pid newfd => s.goto t (.takeFd pid newfd (.copy src pid newfd))
  | some src, dest => s.goto t (.copyAlloc src dest)

def copyAlloc (src : Fin fdPoolSize) (dest : CopyTo) : DmaState n :=
  match freeObj s.pool with
  | none => s.goto t .idle
  | some p => (s.setObj p .allocated).goto t (.copyObj src p dest)

/-- The look at the object in `fd_obj_ref`, and the index it has. `dup_to_fd` and
`fd_table_inherit` give up where it returns -1, the others do not look. -/
def refIndex (p : Fin fdPoolSize) (dest : CopyTo) : DmaState n :=
  match s.pool p, dest with
  | .dmabuf i, dest =>
    s.goto t (if dmaBufFromIndex s.bufs i then .refGet i p dest else .install p dest)
  | .free, .dup _ _ => s.goto t (.poolFree p false .done)
  | .free, .inherit _ _ => s.goto t (.poolFree p false .done)
  | _, dest => s.goto t (.install p dest)

/-- The copy enters the descriptor table. `F_DUPFD` gives the slot back without closing the object
where there is no descriptor for it. -/
def installFd (p : Fin fdPoolSize) (dest : CopyTo) : DmaState n :=
  match dest with
  | .dup pid newfd => (s.setFd pid newfd (some p)).goto t .idle
  | .fork child fd => (s.setFd child fd (some p)).goto t .idle
  | .inherit child fd => (s.setFd child fd (some p)).goto t .idle
  | .fcntl pid floor =>
    match descriptorFree (s.table pid) floor with
    | none => s.goto t (.poolFree p false .done)
    | some fd => (s.setFd pid fd (some p)).goto t .idle

/-- `dma_buf_impl_from_user_fd` -/
def lookFd (file pid : Nat) (fd : Fin taskMaxFd) (origin : Origin) : DmaState n :=
  match (s.table pid fd).map s.pool with
  | some (.dmabuf i) =>
    s.goto t (if dmaBufFromIndex s.bufs i then .gemCreate file i false origin else .idle)
  | _ => s.goto t .idle

/-- The section of `MEM_CREATE` and `PRIME_FD_TO_HANDLE` under `g_drm_lock`:
`drm_file_get_or_create` and `gem_create`. -/
def gemCreate (file : Nat) (i : Fin dmaBufMax) (created : Bool) (origin : Origin) : DmaState n :=
  match drmFileGetOrCreate s.drmFiles file with
  | none => s.goto t (afterGem i created)
  | some (files, c) =>
    match gemFree (files c) with
    | none => { s.goto t (afterGem i created) with drmFiles := files }
    | some k =>
      let gem := ⟨true, s.nextId, i, (s.bufs i).size, s.grants.length⟩
      { s.goto t (afterGem i created) with
        drmFiles := setGem files c k gem
        nextId := s.nextId + 1
        bufs := dmaBufGet s.bufs i
        grants := ⟨origin.opening, s.grants.length, (s.bufs i).region.gen⟩ :: s.grants }

/-- The section of `PRIME_HANDLE_TO_FD`, `MEM_SYNC` and `SUBMIT` under `g_drm_lock`. -/
def findGem (file handle : Nat) (use : GemUse) (origin : Origin) : DmaState n :=
  match handleFind s.drmFiles file handle with
  | none => s.goto t .idle
  | some (c, k) => s.goto t (.fromIndex ((s.drmFiles c).gems k).dmaIdx use origin)

/-- `rknpu_drm_impl_mmap_lookup` -/
def mmapLookup (file offset len : Nat) (origin : Origin) : DmaState n :=
  if offset < rknpuMmapBase ∨ offset % 4096 ≠ 0 then s.goto t .idle
  else
    match handleFind s.drmFiles file ((offset - rknpuMmapBase) / 4096) with
    | none => s.goto t .idle
    | some (c, k) =>
      let i := ((s.drmFiles c).gems k).dmaIdx
      s.goto t (if dmaBufFromIndex s.bufs i then
        .map (s.bufs i).region.paddr (s.bufs i).size len i origin else .idle)

def dropGem (c : Fin rknpuDrmMaxFiles) (k : Fin rknpuGemMax) : DmaState n :=
  { s with
    drmFiles := setGem s.drmFiles c k { (s.drmFiles c).gems k with used := false }
    gone := ((s.drmFiles c).gems k).grant :: s.gone }

/-- The section of `rknpu_ioctl_mem_destroy` under `g_drm_lock`. -/
def destroyGem (file handle : Nat) : DmaState n :=
  match handleFind s.drmFiles file handle with
  | none => s.goto t .idle
  | some (c, k) =>
    (dropGem s c k).goto t (.putIndex ((s.drmFiles c).gems k).dmaIdx .done)

/-- The loop of `rknpu_drm_impl_close_file` from one release of `g_drm_lock` to the next: the next
object in use, or the end, where the context is cleared and `vfs_close` frees the file. -/
def closeFrom (file : Nat) (c : Fin rknpuDrmMaxFiles) (first : Nat) : DmaState n :=
  match (List.finRange rknpuGemMax).find? fun k =>
      decide (first ≤ k.val) && ((s.drmFiles c).gems k).used with
  | some k => (dropGem s c k).goto t (.closeGem file c k ((s.drmFiles c).gems k).dmaIdx)
  | none =>
    { s.goto t .idle with
      drmFiles := update s.drmFiles c .empty
      nodes := update s.nodes file .absent }

def closeStart (file : Nat) : DmaState n :=
  match drmFileFind s.drmFiles file with
  | none => { s.goto t .idle with nodes := update s.nodes file .absent }
  | some c => closeFrom s t file c 0

end Sections

def advance {n : Nat} (s : DmaState n) (t : Fin n) (answer : Answer) : DmaState n :=
  match s.pc t with
  | .idle => s
  | .lost => s
  | .heapAlloc why size => heapAlloc s t why size answer.paddr
  | .insert why size region => insertBuf s t why size region
  | .poolAlloc pid what => poolAlloc s t pid what
  | .publish pid what p => publish s t pid what p
  | .unpublish what p => (s.setObj p .free).goto t what.failed
  | .get pid what _ fd => getBuf s t pid what fd
  | .putIndex i next => s.goto t (if dmaBufFromIndex s.bufs i then .put i next else next.pc false)
  | .put i next => putBuf s t i next
  | .heapFree region next => { s.goto t (next.pc true) with released := region :: s.released }
  | .copyOut pid fd => s.goto t (if answer.copied then .idle else .takeFd pid fd .done)
  | .takeFd pid fd next => takeFd s t pid fd next
  | .objClose p next => objClose s t p next
  | .poolFree p _ next => (s.setObj p .free).goto t next.pc
  | .look pid fd dest => lookSrc s t pid fd dest
  | .copyAlloc src dest => copyAlloc s t src dest
  | .copyObj src p dest => (s.setObj p (s.pool src)).goto t (.refIndex p dest)
  | .refIndex p dest => refIndex s t p dest
  | .refGet i p dest => { s.goto t (.install p dest) with bufs := dmaBufGet s.bufs i }
  | .install p dest => installFd s t p dest
  | .lookFd file pid fd origin => lookFd s t file pid fd origin
  | .gemCreate file i created origin => gemCreate s t file i created origin
  | .find file handle use origin => findGem s t file handle use origin
  | .fromIndex i use origin =>
    s.goto t (if dmaBufFromIndex s.bufs i then use.pc i origin else .idle)
  | .sync _ _ _ _ => s.goto t .idle
  | .submitRead i origin => s.goto t (.submit (s.bufs i).region.paddr (s.bufs i).size i origin)
  | .submit _ _ _ _ => s.goto t .idle
  | .mmapLookup file offset len origin => mmapLookup s t file offset len origin
  | .map _ _ _ _ _ => s.goto t .idle
  | .destroy file handle => destroyGem s t file handle
  | .closeStart file => closeStart s t file
  | .closeNext file c k => closeFrom s t file c k
  | .closeGem file c k _ =>
    s.goto t (.putIndex ((s.drmFiles c).gems k).dmaIdx (.closeFile file c (k.val + 1)))

/-- The calls. `execve`, `exit` and `fork` are, for each descriptor, a `close` or a copy. -/
inductive DmaCall where
  | heapAlloc (pid : Nat) (len : U64)
  | openOther (pid : Nat)
  | close (pid : Nat) (fd : Fin taskMaxFd)
  | copy (pid : Nat) (fd : Fin taskMaxFd) (dest : CopyTo)
  | drmClose (file : Nat)
  | memCreate (file : Nat) (size : U64)
  | memDestroy (file handle objAddr : Nat)
  | memSync (file objAddr offset size : Nat) (toDevice fromDevice : Bool)
  | submit (file objAddr : Nat)
  | mmap (file offset len : Nat)
  | handleToFd (pid file handle : Nat)
  | fdToHandle (file pid : Nat) (fd : Fin taskMaxFd)

def onNode {n : Nat} (s : DmaState n) (t : Fin n) (file : Nat) (pc : Origin → DmaPc) : DmaState n :=
  match s.nodes file with
  | .live opening => s.goto t (pc ⟨opening, s.gone⟩)
  | _ => s

def enterCall {n : Nat} (s : DmaState n) (t : Fin n) : DmaCall → DmaState n
  | .heapAlloc pid len => s.goto t (if len.val = 0 then .idle else .heapAlloc (.heap pid) len.val)
  | .openOther pid => s.goto t (.poolAlloc pid .other)
  | .close pid fd => s.goto t (.takeFd pid fd .done)
  | .copy pid fd dest => s.goto t (.look pid fd dest)
  | .drmClose file =>
    match s.nodes file with
    | .live opening =>
      { s.goto t (.closeStart file) with
        nodes := update s.nodes file (.closing opening) }
    | _ => s
  | .memCreate file size =>
    onNode s t file fun origin =>
      if size.val = 0 then .idle else .heapAlloc (.gem file origin) size.val
  | .memDestroy file handle objAddr =>
    onNode s t file fun _ => .destroy file (if handle ≠ 0 then handle else objAddr)
  | .memSync file objAddr offset size toDevice fromDevice =>
    onNode s t file (.find file objAddr (.sync offset size toDevice fromDevice))
  | .submit file objAddr => onNode s t file (.find file objAddr .submit)
  | .mmap file offset len => onNode s t file (.mmapLookup file offset len)
  | .handleToFd pid file handle => onNode s t file (.find file handle (.fd pid))
  | .fdToHandle file pid fd => onNode s t file (.lookFd file pid fd)

/-- What can happen: the render node is opened and its `vfs_file_t` gets an address, a thread that
is in no call enters one, or a thread goes on in its call. -/
inductive DmaAction (n : Nat) where
  | openNode (file : Nat)
  | enter (t : Fin n) (call : DmaCall)
  | advance (t : Fin n) (answer : Answer)

def dmaStep {n : Nat} (s : DmaState n) : DmaAction n → DmaState n
  | .openNode file =>
    if s.nodes file = .absent then
      { s with nodes := update s.nodes file (.live s.openings), openings := s.openings + 1 }
    else s
  | .enter t call =>
    match s.pc t with
    | .idle => enterCall s t call
    | _ => s
  | .advance t answer => advance s t answer

def DmaState.boot (n : Nat) : DmaState n where
  bufs := fun _ => .empty
  drmFiles := fun _ => .empty
  nextId := 1
  pool := fun _ => .free
  table := fun _ _ => none
  nodes := fun _ => .absent
  pc := fun _ => .idle
  allocated := []
  released := []
  grants := []
  gone := []
  openings := 0

end AvatarKernel
