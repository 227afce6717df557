import AvatarKernel.Lib.Memory
import AvatarKernel.Mm.Pte
import AvatarKernel.Mm.SharedPage

namespace AvatarKernel

open Function
open Memory (wordOf byteAt)

/-- Physical memory by page address and index of the 64-bit word in the page. -/
abbrev PhysMem := Nat → Nat → Word

/-- The global state of memory management: `g_pmm`, the shared-page table and physical memory, in
which the page tables live. -/
structure Mm where
  pmm : Pmm
  shared : SharedTable
  mem : PhysMem

def putWord (mem : PhysMem) (page index : Nat) (w : Word) : PhysMem :=
  update mem page (update (mem page) index w)

def Mm.setWord (m : Mm) (page index : Nat) (w : Word) : Mm :=
  { m with mem := putWord m.mem page index w }

/-- `memset` or `memcpy` of one whole page -/
def Mm.fillPage (m : Mm) (page : Nat) (content : Nat → Word) : Mm :=
  { m with mem := update m.mem page content }

def Mm.allocPages (m : Mm) (count : Nat) : Mm × Nat :=
  ({ m with pmm := (pmmAllocPages m.pmm count).1 }, (pmmAllocPages m.pmm count).2)

def Mm.freePages (m : Mm) (paddr count : Nat) : Mm :=
  { m with pmm := (pmmFreePages m.pmm paddr count).1 }

def Mm.sharedUnref (m : Mm) (paddr : Nat) : Mm :=
  { m with shared := (sharedPageUnref m.shared m.pmm paddr).1,
           pmm := (sharedPageUnref m.shared m.pmm paddr).2 }

/-- The table walk without allocation, from a table `level` levels above the leaf tables: the leaf
table and the index of the entry, or NULL. -/
def findPte (a : Arch) (mem : PhysMem) : (level table key : Nat) → Option (Nat × Nat)
  | 0, table, key => some (table, key % 512)
  | level + 1, table, key =>
    let e := mem table (key / 512 ^ (level + 1) % 512)
    if pteValid e && !a.endsWalk e then findPte a mem level (a.pteAddr e) key else none

/-- The table walk with `alloc`: missing tables are allocated and zeroed on the way. -/
def walkPt (a : Arch) : (level : Nat) → Mm → (table key : Nat) → Mm × Option (Nat × Nat)
  | 0, m, table, key => (m, some (table, key % 512))
  | level + 1, m, table, key =>
    let index := key / 512 ^ (level + 1) % 512
    let e := m.mem table index
    if pteValid e then
      if a.endsWalk e then (m, none) else walkPt a level m (a.pteAddr e) key
    else
      let r := m.allocPages 1
      if r.2 = 0 then (r.1, none)
      else
        let entry := a.tablePte r.2
        walkPt a level ((r.1.fillPage r.2 fun _ => 0#64).setWord table index entry)
          (a.pteAddr entry) key

/-- One round of the loop of `mm_vm_map_pages`, with `VM_PERM_USER`. -/
def mapPage (a : Arch) (m : Mm) (pgd vaddr paddr : Nat) : Mm × Bool :=
  match walkPt a a.upperLevels m pgd (a.key vaddr) with
  | (m, none) => (m, false)
  | (m, some (table, index)) =>
    if pteValid (m.mem table index) then (m, false)
    else (m.setWord table index (a.leafPte (m.mem table index) paddr), true)

/-- `mm_vm_map_pages`; the pages mapped before a failure stay mapped. -/
def mapPages (a : Arch) : (count : Nat) → Mm → (pgd vaddr paddr : Nat) → Mm × Bool
  | 0, m, _, _, _ => (m, true)
  | count + 1, m, pgd, vaddr, paddr =>
    match mapPage a m pgd vaddr paddr with
    | (m, false) => (m, false)
    | (m, true) => mapPages a count m pgd (vaddr + 4096) (paddr + 4096)

def getPaddr (a : Arch) (mem : PhysMem) (pgd vaddr : Nat) : Nat :=
  match findPte a mem a.upperLevels pgd (a.key vaddr) with
  | none => 0
  | some (table, index) =>
    if a.leafValid (mem table index) then a.pteAddr (mem table index) + vaddr % 4096 else 0

/-- What becomes of the frame of a leaf entry that is taken out of a table: a device buffer stays,
a private page is freed, a shared page loses one reference. -/
def releaseLeaf (a : Arch) (m : Mm) (e : Word) : Mm :=
  if e.getLsbD a.keepBit then m
  else if e.getLsbD a.nofreeBit then m.sharedUnref (a.pteAddr e)
  else m.freePages (a.pteAddr e) 1

/-- `mm_vm_unmap_page`. The AArch64 version asks `mm_vm_get_paddr` first and so leaves a mapping
of frame 0 alone. -/
def unmapPage (a : Arch) (m : Mm) (pgd vaddr : Nat) : Mm × Bool :=
  match findPte a m.mem a.upperLevels pgd (a.key vaddr) with
  | none => (m, false)
  | some (table, index) =>
    let e := m.mem table index
    if !a.leafValid e || (decide (a = .aarch64) && getPaddr a m.mem pgd vaddr == 0) then (m, false)
    else ((releaseLeaf a m e).setWord table index 0#64, true)

def leafOf (a : Arch) (mem : PhysMem) (pgd key : Nat) : Option Leaf :=
  match findPte a mem a.upperLevels pgd key with
  | none => none
  | some (table, index) => a.decode (mem table index)

theorem getPaddr_of_aligned (a : Arch) (mem : PhysMem) (pgd : Nat) (aligned : vaddr % 4096 = 0) :
    getPaddr a mem pgd vaddr = ((leafOf a mem pgd (a.key vaddr)).map Leaf.pa).getD 0 := by
  unfold getPaddr leafOf
  cases findPte a mem a.upperLevels pgd (a.key vaddr) with
  | none => rfl
  | some =>
    dsimp only
    rw [aligned, Nat.add_zero, Arch.decode]
    split <;> rfl

def walkTables (a : Arch) (mem : PhysMem) : (level table key : Nat) → List Nat
  | 0, table, _ => [table]
  | level + 1, table, key =>
    let e := mem table (key / 512 ^ (level + 1) % 512)
    table :: if pteValid e && !a.endsWalk e then walkTables a mem level (a.pteAddr e) key else []

end AvatarKernel
