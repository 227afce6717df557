import AvatarKernel.Types
import AvatarKernel.Lib.Transition
import AvatarKernel.Mm.BitmapSearch

namespace AvatarKernel

/-- `pmm_reserved_t`: the half-open physical range `[start, stop)`. -/
structure Reserved where
  start : Nat
  stop : Nat
  tag : String
  deriving DecidableEq, Repr

/-- `pmm_t` without its lock. `page_size` is the constant `pageSize`, and the length of `reserved`
is `reserved_count`. -/
structure Pmm where
  bitmap : Bitmap
  startAddr : Nat
  totalSize : Nat
  totalPages : Nat
  freePages : Nat
  reserved : List Reserved
  reservedPages : Nat
  allocHint : Nat
  deriving DecidableEq, Repr

def pmmMaxReservedRanges : Nat := 16

/-- `pmm->start_addr + index * pmm->page_size` -/
def Pmm.pageAddr (p : Pmm) (index : Nat) : Nat := (p.startAddr + index * 4096) % 2 ^ 64

def Pmm.endAddr (p : Pmm) : Nat := (p.startAddr + p.totalSize) % 2 ^ 64

/-- `pmm_init`; `none` where one of its assertions stops the machine. -/
def pmmInit (startAddr size bitmapSize : Nat) : Option Pmm :=
  if 0 < size ∧ (size / 4096 + 7) / 8 ≤ bitmapSize then
    some { bitmap := bitmapInit (size / 4096), startAddr := startAddr, totalSize := size,
           totalPages := size / 4096, freePages := size / 4096, reserved := [],
           reservedPages := 0, allocHint := 0 }
  else none

def twoPagesAt (start : Nat) : Pmm :=
  { bitmap := bitmapInit 2, startAddr := start, totalSize := 0x2000, totalPages := 2,
    freePages := 2, reserved := [], reservedPages := 0, allocHint := 0 }

/-- The next-fit search of `pmm_alloc_pages`: from the hint, then once more from the start. -/
def pmmFindPages (p : Pmm) (pageCount : Nat) : Option Nat :=
  match bitmapFindContiguousFreeFrom p.bitmap pageCount p.allocHint with
  | some index => some index
  | none => if p.allocHint ≠ 0 then bitmapFindContiguousFree p.bitmap pageCount else none

/-- The bookkeeping of a successful `pmm_alloc_pages`. -/
def Pmm.take (p : Pmm) (index pageCount : Nat) : Pmm :=
  { p with bitmap := bitmapSetRange p.bitmap index pageCount,
           freePages := (p.freePages + 2 ^ 64 - pageCount) % 2 ^ 64,
           allocHint := index + pageCount }

/-- `pmm_alloc_pages`: the new state and the returned address, with 0 for a failure. -/
def pmmAllocPages (p : Pmm) (pageCount : Nat) : Pmm × Nat :=
  match pmmFindPages p pageCount with
  | some index => (p.take index pageCount, p.pageAddr index)
  | none => (p, 0)

/-- The reserved-range test of `pmm_free_pages`. -/
def overlapsReserved (p : Pmm) (paddr freeEnd : Nat) : Bool :=
  p.reserved.any fun r => decide (paddr < r.stop) && decide (freeEnd > r.start)

/-- The double-free test of `pmm_free_pages`: some page of the request is already clear. -/
def anyClear (b : Bitmap) (index : Nat) : Nat → Bool
  | 0 => false
  | count + 1 => if bitmapTest b index then anyClear b (index + 1) count else true

/-- The bookkeeping of a successful `pmm_free_pages`. -/
def Pmm.release (p : Pmm) (index pageCount : Nat) : Pmm :=
  { p with bitmap := bitmapClearLoop p.bitmap index pageCount,
           freePages := (p.freePages + pageCount) % 2 ^ 64 }

def pmmFreePages (p : Pmm) (paddr pageCount : Nat) : Pmm × Bool :=
  if paddr % 4096 ≠ 0 then (p, false)
  else if paddr < p.startAddr ∨ paddr ≥ p.endAddr then (p, false)
  else
    let index := (paddr - p.startAddr) / 4096
    if index ≥ p.totalPages ∨ pageCount > p.totalPages - index then (p, false)
    else
      let freeEnd := (paddr + pageCount * 4096) % 2 ^ 64
      if overlapsReserved p paddr freeEnd then (p, false)
      else if anyClear p.bitmap index pageCount then (p, false)
      else (p.release index pageCount, true)

/-- The marking loop of `pmm_reserve` over `count` pages from `i` on; `newly` is `newly_marked`. -/
def reservePages : (count i : Nat) → Pmm → (newly : Nat) → Pmm × Nat
  | 0, _, p, newly => (p, newly)
  | count + 1, i, p, newly =>
    if bitmapTest p.bitmap i then reservePages count (i + 1) p newly
    else reservePages count (i + 1)
      { p with bitmap := bitmapSet p.bitmap i, freePages := (p.freePages + 2 ^ 64 - 1) % 2 ^ 64 }
      ((newly + 1) % 2 ^ 64)

def Pmm.record (p : Pmm) (start stop : Nat) (tag : String) : Pmm :=
  { p with reserved := p.reserved ++ [⟨start, stop, tag⟩] }

def Pmm.pageIndex (p : Pmm) (addr : Nat) : Nat :=
  (addr + 2 ^ 64 - p.startAddr) % 2 ^ 64 / 4096

def pmmReserve (p : Pmm) (startAddr endAddr : Nat) (tag : String) : Pmm × Bool :=
  if endAddr ≤ startAddr then (p, true)
  else
    let start := alignDown startAddr
    let stop := alignUp endAddr
    if start < p.startAddr ∨ stop > p.endAddr then (p, false)
    else
      let startPage := p.pageIndex start
      let endPage := p.pageIndex stop
      if p.reserved.length ≥ pmmMaxReservedRanges then (p, false)
      else
        let marked := reservePages (endPage - startPage) startPage (p.record start stop tag) 0
        ({ marked.1 with reservedPages := (marked.1.reservedPages + marked.2) % 2 ^ 64 }, true)

inductive PmmCall
  | alloc (pageCount : PageCount)
  | free (paddr : U64) (pageCount : PageCount)
  | reserve (startAddr endAddr : U64) (tag : String)

def pmmCall (p : Pmm) : PmmCall → Pmm
  | .alloc n => (pmmAllocPages p n).1
  | .free paddr n => (pmmFreePages p paddr n).1
  | .reserve startAddr endAddr tag => (pmmReserve p startAddr endAddr tag).1

end AvatarKernel
