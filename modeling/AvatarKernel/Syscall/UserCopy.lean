import AvatarKernel.Lib.Memory
import AvatarKernel.Types

namespace AvatarKernel

/-- The first address no user pointer may reach. -/
def userPtrLimit : Nat := 0x80000000

/-- Memory as the current user process sees it: its page table, as `mm_vm_get_paddr` answers on
page-aligned addresses (0 for an unmapped page), over the bytes of physical memory. -/
structure UserMemory where
  getPaddr : Nat → Nat
  bytes : Nat → BitVec 8

def UserMemory.place (m : UserMemory) (va : Nat) : Nat :=
  m.getPaddr (alignDown va) + va % pageSize

def userRangeOk (ptr len : Nat) : Bool :=
  if ptr = 0 then false
  else if len = 0 then true
  else
    let last := (ptr + len - 1) % 2 ^ 64
    if last < ptr then false else decide (last < userPtrLimit)

/-- The page loop of `user_range_accessible` over `va`, `va + 4096`, … : the page of `va` and
`more` pages after it. -/
def userPagesMapped (m : UserMemory) (va : Nat) : Nat → Bool
  | 0 => m.getPaddr va ≠ 0
  | more + 1 => m.getPaddr va ≠ 0 && userPagesMapped m (va + pageSize) more

def userRangeAccessible (m : UserMemory) (ptr len : Nat) : Bool :=
  if userRangeOk ptr len then
    if len = 0 then true
    else
      let first := alignDown ptr
      let last := alignDown (ptr + len - 1)
      userPagesMapped m first ((last - first) / pageSize)
  else false

def UserMemory.bytesAt (m : UserMemory) (ptr : Nat) : Nat → BitVec 8 :=
  fun k => m.bytes (m.place (ptr + k))

def copyFromUserBytes (m : UserMemory) (usrc len : Nat) : Option (Nat → BitVec 8) :=
  if userRangeAccessible m usrc len then some (m.bytesAt usrc) else none

def copyToUserBytes (m : UserMemory) (ksrc : Nat → BitVec 8) (udst len : Nat) :
    Option UserMemory :=
  if userRangeAccessible m udst len then
    some { m with bytes := Memory.scatter m.bytes (fun k => m.place (udst + k)) ksrc len }
  else none

/-- No two user addresses lie at one physical address. -/
def UserMemory.Unaliased (m : UserMemory) : Prop :=
  ∀ x y, x < userPtrLimit → y < userPtrLimit → m.place x = m.place y → x = y

section Copy

variable {m after : UserMemory} {source : Nat → BitVec 8} {ptr len : Nat}

theorem copyToUserBytes_some (copied : copyToUserBytes m source ptr len = some after) :
    userRangeAccessible m ptr len = true ∧
      after =
        { m with bytes := Memory.scatter m.bytes (fun k => m.place (ptr + k)) source len } := by
  unfold copyToUserBytes at copied
  split at copied
  · next accessible => exact ⟨accessible, (Option.some.inj copied).symm⟩
  · cases copied

theorem copyToUserBytes_getPaddr (copied : copyToUserBytes m source ptr len = some after) :
    after.getPaddr = m.getPaddr := by
  rw [(copyToUserBytes_some copied).2]

theorem userRangeAccessible_pos (accessible : userRangeAccessible m ptr len = true) : ptr ≠ 0 := by
  intro null
  rw [null] at accessible
  simp [userRangeAccessible, userRangeOk] at accessible

theorem userRangeAccessible_bound (accessible : userRangeAccessible m ptr len = true)
    (short : len < 2 ^ 32) : ptr + len ≤ userPtrLimit ∨ len = 0 := by
  by_cases empty : len = 0
  · exact .inr empty
  simp [userRangeAccessible, userRangeOk, empty] at accessible
  obtain ⟨⟨-, lower, upper⟩, -⟩ := accessible
  unfold userPtrLimit at *
  omega

theorem userPagesMapped_congr (same : after.getPaddr = m.getPaddr) (va more : Nat) :
    userPagesMapped after va more = userPagesMapped m va more := by
  induction more generalizing va with
  | zero => simp only [userPagesMapped, same]
  | succ _ ih => simp only [userPagesMapped, same, ih]

theorem userRangeAccessible_congr (same : after.getPaddr = m.getPaddr) (ptr len : Nat) :
    userRangeAccessible after ptr len = userRangeAccessible m ptr len := by
  simp only [userRangeAccessible, userPagesMapped_congr same]

theorem UserMemory.place_congr (same : after.getPaddr = m.getPaddr) (va : Nat) :
    after.place va = m.place va := by
  simp only [UserMemory.place, same]

theorem copyToUserBytes_bytesAt (copied : copyToUserBytes m source ptr len = some after)
    (unaliased : m.Unaliased) (short : len < 2 ^ 32) (below : k < len) :
    after.bytesAt ptr k = source k := by
  have same := copyToUserBytes_getPaddr copied
  have bound := userRangeAccessible_bound (copyToUserBytes_some copied).1 short
  rw [UserMemory.bytesAt, UserMemory.place_congr same, (copyToUserBytes_some copied).2]
  show Memory.scatter m.bytes (fun i => m.place (ptr + i)) source len
    ((fun i => m.place (ptr + i)) k) = source k
  apply Memory.scatter_of_hit _ below
  intro i j left right place
  have sum := unaliased _ _ (by omega) (by omega) place
  omega

theorem copyToUserBytes_other (copied : copyToUserBytes m source ptr len = some after)
    (unaliased : m.Unaliased) (short : len < 2 ^ 32) (inside : other + k < userPtrLimit)
    (apart : other + k < ptr ∨ ptr + len ≤ other + k) :
    after.bytesAt other k = m.bytesAt other k := by
  have same := copyToUserBytes_getPaddr copied
  have bound := userRangeAccessible_bound (copyToUserBytes_some copied).1 short
  rw [UserMemory.bytesAt, UserMemory.place_congr same, (copyToUserBytes_some copied).2]
  apply Memory.scatter_of_miss
  intro i below place
  have sum := unaliased _ _ (by omega) inside place
  omega

end Copy

end AvatarKernel
