import AvatarKernel.Mm.PmmEffect
import AvatarKernel.Mm.Pte
import AvatarKernel.Mm.SharedPage

namespace AvatarKernel

/-- A physical memory manager over frames that a page-table entry can name. -/
structure Pmm.Fits (p : Pmm) : Prop where
  sound : p.Sound
  small : p.startAddr + p.totalSize ≤ physLimit

/-- The frame at this address is one of the manager's. -/
def Pmm.Manages (p : Pmm) (page : Nat) : Prop :=
  ∃ i, i < p.totalPages ∧ page = p.startAddr + i * 4096

/-- The frame at this address is marked in the bitmap. -/
def Pmm.Allocated (p : Pmm) (page : Nat) : Prop :=
  ∃ i, i < p.totalPages ∧ bitmapTest p.bitmap i = true ∧ page = p.startAddr + i * 4096

/-- The allocator does not hand out this page: it is marked, or none of its frames. -/
def Pmm.Busy (p : Pmm) (page : Nat) : Prop := p.Manages page → p.Allocated page

structure AllocatesOne (p q : Pmm) (page : Nat) : Prop where
  fits : q.Fits
  busy : ∀ {other}, p.Busy other → q.Busy other
  fresh : page ≠ 0 → ¬ p.Busy page ∧ q.Busy page ∧ page % 4096 = 0 ∧ page < physLimit

section

variable {p : Pmm} {page : Nat}

theorem Pmm.Fits.whole (fits : p.Fits) : ¬ p.Wraps := by
  have small : p.startAddr + p.totalSize ≤ 2 ^ 48 := fits.small
  unfold Pmm.Wraps
  omega

theorem Pmm.Manages.bounds (fits : p.Fits) (managed : p.Manages page) :
    page % 4096 = 0 ∧ page < physLimit := by
  obtain ⟨i, inside, rfl⟩ := managed
  have small := fits.small
  have pages := fits.sound.geo.pages
  have start := fits.sound.geo.aligned
  omega

theorem Pmm.Fits.alloc (fits : p.Fits) :
    AllocatesOne p (pmmAllocPages p 1).1 (pmmAllocPages p 1).2 := by
  rcases pmmAllocPages_cases p 1 (by decide) with ⟨index, found, result⟩ | ⟨_, result⟩
  · have window := found.1
    have geo := fits.sound.geo
    have inside : index < p.totalPages := geo.bits ▸ window.1
    have place : p.pageAddr index = p.startAddr + index * 4096 := geo.pageAddr_eq fits.whole inside
    have clear := window.test (le_refl index) (Nat.lt_succ_self index)
    have managed : p.Manages (p.pageAddr index) := ⟨index, inside, place⟩
    obtain ⟨aligned, small⟩ := managed.bounds fits
    rw [result]
    refine ⟨⟨fits.sound.take window, fits.small⟩, ?_, fun _ => ⟨?_, ?_, aligned, small⟩⟩
    · intro other busy mine
      obtain ⟨i, below, set, same⟩ := busy mine
      exact ⟨i, below, (Pmm.take_test window i).mpr (.inl set), same⟩
    · intro busy
      obtain ⟨i, _, set, same⟩ := busy managed
      obtain rfl : i = index := by omega
      rw [set] at clear
      cases clear
    · exact fun _ => ⟨index, inside, (Pmm.take_test window _).mpr (.inr (by omega)), place⟩
  · rw [result]
    exact ⟨fits, fun busy => busy, fun nonzero => absurd rfl nonzero⟩

theorem Pmm.Fits.free (fits : p.Fits) (paddr : Nat) :
    (pmmFreePages p paddr 1).1.Fits ∧
      ∀ other, other ≠ paddr → p.Busy other → (pmmFreePages p paddr 1).1.Busy other := by
  rcases pmmFreePages_cases fits.sound.geo paddr 1 with result | ⟨index, ok, result⟩
  · rw [result]
    exact ⟨fits, fun _ _ busy => busy⟩
  · have addr := ok.addr
    rw [result]
    refine ⟨⟨fits.sound.release ok, fits.small⟩, ?_⟩
    intro other away busy mine
    obtain ⟨i, below, set, rfl⟩ := busy mine
    exact ⟨i, below, (p.release_test index 1 i).mpr ⟨set, by omega⟩, rfl⟩

end

end AvatarKernel
