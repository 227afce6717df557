import AvatarKernel.Lib.Chain
import AvatarKernel.Mm.Pmm

namespace AvatarKernel

open Function

abbrev sharedPageMax : Nat := 4096

abbrev sharedPageBuckets : Nat := 512

/-- `shared_page_entry_t`; the index -1 in `next` is `none`. -/
structure SharedEntry where
  paddr : Nat
  refcount : Nat
  next : Option (Fin sharedPageMax)

/-- The static tables of shared_page.c, without the lock. -/
structure SharedTable where
  entries : Fin sharedPageMax → SharedEntry
  buckets : Fin sharedPageBuckets → Option (Fin sharedPageMax)
  freeHead : Option (Fin sharedPageMax)
  initialized : Bool

def sharedBoot : SharedTable :=
  { entries := fun _ => ⟨0, 0, some 0⟩, buckets := fun _ => some 0, freeHead := some 0,
    initialized := false }

def sharedPagesInitLocked (t : SharedTable) : SharedTable :=
  if t.initialized then t
  else
    { entries := fun i =>
      ⟨0, 0, if h : i.val + 1 < sharedPageMax then some ⟨i.val + 1, h⟩ else none⟩,
      buckets := fun _ => none, freeHead := some 0, initialized := true }

def sharedPageHash (paddr : Nat) : Nat :=
  let x := paddr / 4096
  let y := (x ^^^ (x >>> 33)) * 0xff51afd7ed558ccd % 2 ^ 64
  y ^^^ (y >>> 33)

def sharedPageBucket (paddr : Nat) : Fin sharedPageBuckets :=
  ⟨sharedPageHash paddr % sharedPageBuckets, Nat.mod_lt _ (by decide)⟩

def SharedTable.next (t : SharedTable) (i : Fin sharedPageMax) : Option (Fin sharedPageMax) :=
  (t.entries i).next

/-- `shared_page_find_locked`. No chain is longer than the table, so that many steps are enough. -/
def sharedPageFindLocked (t : SharedTable) (paddr : Nat) : Option (Fin sharedPageMax) :=
  Chain.walk t.next (fun i => (t.entries i).paddr == paddr) sharedPageMax
    (t.buckets (sharedPageBucket paddr))

def SharedTable.setEntry (t : SharedTable) (i : Fin sharedPageMax) (e : SharedEntry) :
    SharedTable :=
  { t with entries := update t.entries i e }

def SharedTable.setBucket (t : SharedTable) (b : Fin sharedPageBuckets)
    (head : Option (Fin sharedPageMax)) : SharedTable :=
  { t with buckets := update t.buckets b head }

def SharedTable.setCount (t : SharedTable) (i : Fin sharedPageMax) (count : Nat) : SharedTable :=
  t.setEntry i { t.entries i with refcount := count }

/-- A new record at the front of its bucket's chain, in the entry taken from the free list. -/
def SharedTable.insert (t : SharedTable) (b : Fin sharedPageBuckets) (i : Fin sharedPageMax)
    (paddr : Nat) : SharedTable :=
  (({ t with freeHead := t.next i }).setEntry i ⟨paddr, 1, t.buckets b⟩).setBucket b (some i)

def sharedPageRef (t : SharedTable) (paddr : Nat) : SharedTable × Bool :=
  if paddr = 0 ∨ paddr % 4096 ≠ 0 then (t, false)
  else
    let t := sharedPagesInitLocked t
    match sharedPageFindLocked t paddr with
    | some i =>
      if (t.entries i).refcount = 0xFFFFFFFF then (t, false)
      else (t.setCount i ((t.entries i).refcount + 1), true)
    | none =>
      match t.freeHead with
      | none => (t, false)
      | some i => (t.insert (sharedPageBucket paddr) i paddr, true)

/-- Unlinking the last record of a page: `prev` is its predecessor in the chain. -/
def SharedTable.unlink (t : SharedTable) (b : Fin sharedPageBuckets)
    (prev : Option (Fin sharedPageMax)) (i : Fin sharedPageMax) : SharedTable :=
  let t :=
    match prev with
    | none => t.setBucket b (t.next i)
    | some p => t.setEntry p { t.entries p with next := t.next i }
  { t.setEntry i ⟨0, 0, t.freeHead⟩ with freeHead := some i }

/-- `shared_page_unref`; the page goes back to the physical memory manager with its last record. -/
def sharedPageUnref (t : SharedTable) (pmm : Pmm) (paddr : Nat) : SharedTable × Pmm :=
  if paddr = 0 then (t, pmm)
  else if paddr % 4096 ≠ 0 then (t, pmm)
  else
    let t := sharedPagesInitLocked t
    let b := sharedPageBucket paddr
    let place := Chain.walkPrev t.next (fun i => (t.entries i).paddr == paddr) sharedPageMax none
      (t.buckets b)
    match place.2 with
    | none => (t, pmm)
    | some i =>
      if (t.entries i).refcount > 1 then (t.setCount i ((t.entries i).refcount - 1), pmm)
      else (t.unlink b place.1 i, (pmmFreePages pmm paddr 1).1)

def sharedCount (t : SharedTable) (paddr : Nat) : Nat :=
  match sharedPageFindLocked (sharedPagesInitLocked t) paddr with
  | some i => ((sharedPagesInitLocked t).entries i).refcount
  | none => 0

end AvatarKernel
