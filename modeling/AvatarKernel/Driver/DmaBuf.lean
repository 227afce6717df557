import AvatarKernel.Fd.Pool
import AvatarKernel.Types

namespace AvatarKernel

open Function

def dmaBufMax : Nat := 128

def rknpuDrmMaxFiles : Nat := 16

def rknpuGemMax : Nat := 64

instance dmaBufMaxNeZero : NeZero dmaBufMax := ⟨by decide⟩

instance rknpuGemMaxNeZero : NeZero rknpuGemMax := ⟨by decide⟩

/-- Memory from `dma_heap_alloc`. `gen` is history: the number of the allocation. -/
structure DmaRegion where
  gen : Nat
  paddr : Nat
  bytes : Nat
  deriving DecidableEq

structure DmaBuf where
  used : Bool
  refcount : Nat
  region : DmaRegion
  size : Nat

abbrev DmaBufs := Fin dmaBufMax → DmaBuf

def DmaBuf.empty : DmaBuf := ⟨false, 0, ⟨0, 0, 0⟩, 0⟩

def dmaBufFromIndex (bufs : DmaBufs) (i : Fin dmaBufMax) : Bool := (bufs i).used

/-- The section of `dma_buf_impl_alloc` under the lock: the first unused slot gets the memory. -/
def dmaBufInsert (bufs : DmaBufs) (size : Nat) (region : DmaRegion) :
    Option (DmaBufs × Fin dmaBufMax) :=
  match (List.finRange dmaBufMax).find? fun i => !(bufs i).used with
  | none => none
  | some i => some (update bufs i ⟨true, 1, region, size⟩, i)

def dmaBufGet (bufs : DmaBufs) (i : Fin dmaBufMax) : DmaBufs :=
  if (bufs i).used then
    update bufs i { bufs i with refcount := (bufs i).refcount + 1 }
  else bufs

/-- What `dma_buf_impl_put` comes to: the slot was unused, a reference was dropped, or the last one
was and the memory is to be given back. -/
inductive DmaPut where
  | unused
  | dropped
  | last (region : DmaRegion)

/-- The section of `dma_buf_impl_put` under the lock. -/
def dmaBufPut (bufs : DmaBufs) (i : Fin dmaBufMax) : DmaBufs × DmaPut :=
  if !(bufs i).used then (bufs, .unused)
  else if 1 < (bufs i).refcount then
    (update bufs i { bufs i with refcount := (bufs i).refcount - 1 }, .dropped)
  else (update bufs i .empty, .last (bufs i).region)

/-- `rknpu_gem_t`; `grant` is history: the number of its creation. -/
structure Gem where
  used : Bool
  id : Nat
  dmaIdx : Fin dmaBufMax
  size : Nat
  grant : Nat

/-- `rknpu_drm_file_t`; `file` is the address of the `vfs_file_t`. -/
structure DrmFile where
  used : Bool
  file : Nat
  gems : Fin rknpuGemMax → Gem

abbrev DrmFiles := Fin rknpuDrmMaxFiles → DrmFile

def Gem.empty : Gem := ⟨false, 0, ⟨0, by decide⟩, 0, 0⟩

def DrmFile.empty : DrmFile := ⟨false, 0, fun _ => .empty⟩

def DrmFile.setGem (ctx : DrmFile) (k : Fin rknpuGemMax) (gem : Gem) : DrmFile :=
  { ctx with gems := update ctx.gems k gem }

def setGem (files : DrmFiles) (c : Fin rknpuDrmMaxFiles) (k : Fin rknpuGemMax) (gem : Gem) :
    DrmFiles :=
  update files c ((files c).setGem k gem)

def drmFileFind (files : DrmFiles) (file : Nat) : Option (Fin rknpuDrmMaxFiles) :=
  (List.finRange rknpuDrmMaxFiles).find? fun c => (files c).used && (files c).file == file

def drmFileGetOrCreate (files : DrmFiles) (file : Nat) :
    Option (DrmFiles × Fin rknpuDrmMaxFiles) :=
  match drmFileFind files file with
  | some c => some (files, c)
  | none =>
    match (List.finRange rknpuDrmMaxFiles).find? fun c => !(files c).used with
    | none => none
    | some c =>
      some (update files c { DrmFile.empty with used := true, file := file }, c)

def gemFind (ctx : DrmFile) (handle : Nat) : Option (Fin rknpuGemMax) :=
  (List.finRange rknpuGemMax).find? fun k => (ctx.gems k).used && (ctx.gems k).id == handle

/-- The slot that `gem_create` takes. -/
def gemFree (ctx : DrmFile) : Option (Fin rknpuGemMax) :=
  (List.finRange rknpuGemMax).find? fun k => !(ctx.gems k).used

/-- `drm_file_find` and `gem_find`, as every ioctl that is given a handle does them. -/
def handleFind (files : DrmFiles) (file handle : Nat) :
    Option (Fin rknpuDrmMaxFiles × Fin rknpuGemMax) :=
  match drmFileFind files file with
  | none => none
  | some c => (gemFind (files c) handle).map fun k => (c, k)

/-- A slot of `g_fd_pool`, as far as dma-buf objects are concerned. -/
inductive PoolObj where
  | free
  | allocated
  | other
  | dmabuf (idx : Fin dmaBufMax)
  deriving DecidableEq

/-- The slot that `fd_pool_alloc` takes. -/
def freeObj (pool : Fin fdPoolSize → PoolObj) : Option (Fin fdPoolSize) :=
  (List.finRange fdPoolSize).find? fun p => pool p = .free

/-- The lowest unused descriptor from `floor` on. -/
def descriptorFree (table : Fin taskMaxFd → Option (Fin fdPoolSize)) (floor : Nat) :
    Option (Fin taskMaxFd) :=
  (List.finRange taskMaxFd).find? fun fd => decide (floor ≤ fd.val) && (table fd).isNone

end AvatarKernel
