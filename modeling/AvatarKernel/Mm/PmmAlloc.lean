import AvatarKernel.Mm.PmmEffect

namespace AvatarKernel

open Transition

def pagesFrom (addr count : Nat) : List Nat :=
  (List.range count).map fun j => (addr + j * 4096) % 2 ^ 64

/-- A manager together with the pages its callers hold, as the return values tell them. -/
structure Lent where
  pmm : Pmm
  held : List Nat

def Lent.call (s : Lent) : PmmCall → Lent
  | .alloc n =>
    let result := pmmAllocPages s.pmm n
    ⟨result.1, if result.2 = 0 then s.held else s.held ++ pagesFrom result.2 n⟩
  | .free paddr n =>
    let result := pmmFreePages s.pmm paddr n
    ⟨result.1, if result.2 then s.held.filter (· ∉ pagesFrom paddr n) else s.held⟩
  | .reserve startAddr endAddr tag => ⟨(pmmReserve s.pmm startAddr endAddr tag).1, s.held⟩

structure AllocContract (s : Lent) (count : Nat) : Prop where
  complete : (pmmAllocPages s.pmm count).2 ≠ 0 ↔ ∃ index, index + count ≤ s.pmm.totalPages ∧
      ∀ j, j < count → bitmapTest s.pmm.bitmap (index + j) = false
  pages : (pmmAllocPages s.pmm count).2 ≠ 0 → ∃ index, index + count ≤ s.pmm.totalPages ∧
      (pmmAllocPages s.pmm count).2 = s.pmm.pageAddr index ∧
      ∀ j, j < count → s.pmm.pageAddr (index + j) % 4096 = 0 ∧
        bitmapTest s.pmm.bitmap (index + j) = false ∧
        (∀ r ∈ s.pmm.reserved, ¬ s.pmm.inRange r (index + j)) ∧
        s.pmm.pageAddr (index + j) ∉ s.held
  unchanged : (pmmAllocPages s.pmm count).2 = 0 → (pmmAllocPages s.pmm count).1 = s.pmm

/-- What every run keeps: reserved pages and pages in use are set. -/
structure Lent.Inv (s : Lent) : Prop where
  sound : s.pmm.Sound
  held : ∀ a ∈ s.held, ∃ i, i < s.pmm.totalPages ∧ a = s.pmm.pageAddr i ∧
    bitmapTest s.pmm.bitmap i = true

section Addresses

variable {p : Pmm}

theorem Pmm.Geometry.pageAddr_mod (geo : p.Geometry) (i : Nat) : p.pageAddr i % 4096 = 0 := by
  have aligned := geo.aligned
  unfold Pmm.pageAddr
  omega

theorem Pmm.Geometry.pageAddr_inj (geo : p.Geometry) (left : i < p.totalPages)
    (right : j < p.totalPages) (same : p.pageAddr i = p.pageAddr j) : i = j := by
  have pages := geo.pages
  have size := geo.size_lt
  unfold Pmm.pageAddr at same
  omega

theorem Pmm.pageAddr_add (p : Pmm) (i j : Nat) :
    (p.pageAddr i + j * 4096) % 2 ^ 64 = p.pageAddr (i + j) := by
  unfold Pmm.pageAddr
  omega

theorem mem_pagesFrom :
    a ∈ pagesFrom (p.pageAddr index) count ↔ ∃ j, j < count ∧ a = p.pageAddr (index + j) := by
  simp only [pagesFrom, List.mem_map, List.mem_range, Pmm.pageAddr_add]
  constructor
  · rintro ⟨j, below, rfl⟩
    exact ⟨j, below, rfl⟩
  · rintro ⟨j, below, rfl⟩
    exact ⟨j, below, rfl⟩

end Addresses

section Steps

variable {s : Lent}

theorem Lent.Inv.take {held : List Nat} (inv : s.Inv)
    (window : ClearWindow s.pmm.bitmap count index)
    (grown : ∀ a ∈ held, a ∈ s.held ∨ a ∈ pagesFrom (s.pmm.pageAddr index) count) :
    Lent.Inv ⟨s.pmm.take index count, held⟩ := by
  refine ⟨inv.sound.take window, fun a member => ?_⟩
  have bits := inv.sound.geo.bits
  have fits := window.1
  rcases grown a member with old | new
  · obtain ⟨i, inside, place, set⟩ := inv.held a old
    exact ⟨i, inside, place, (Pmm.take_test window i).mpr (.inl set)⟩
  · obtain ⟨j, below, place⟩ := mem_pagesFrom.mp new
    refine ⟨index + j, ?_, place, (Pmm.take_test window _).mpr (.inr (by omega))⟩
    change index + j < s.pmm.totalPages
    omega

theorem Lent.Inv.release (inv : s.Inv) (ok : Releasable s.pmm paddr index count) :
    Lent.Inv ⟨s.pmm.release index count, s.held.filter (· ∉ pagesFrom paddr count)⟩ := by
  refine ⟨inv.sound.release ok, fun a member => ?_⟩
  rw [List.mem_filter, decide_eq_true_eq] at member
  obtain ⟨i, inside, place, set⟩ := inv.held a member.1
  refine ⟨i, inside, place, (Pmm.release_test index count i).mpr ⟨set, fun window => ?_⟩⟩
  apply member.2
  have start : paddr = s.pmm.pageAddr index := by
    rw [inv.sound.geo.pageAddr_eq ok.whole (by have := ok.fits; omega)]
    exact ok.addr
  rw [start, mem_pagesFrom]
  exact ⟨i - index, by omega, by rw [place, Nat.add_sub_cancel' window.1]⟩

theorem Lent.Inv.call (inv : s.Inv) (c : PmmCall) : (s.call c).Inv := by
  cases c with
  | alloc n =>
    simp only [Lent.call]
    rcases pmmAllocPages_cases s.pmm n n.2.1 with ⟨index, fit, result⟩ | ⟨_, result⟩
    · rw [result]
      apply inv.take fit.1
      intro a member
      split at member
      · exact .inl member
      · exact List.mem_append.mp member
    · rw [result]
      exact inv
  | free paddr n =>
    simp only [Lent.call]
    rcases pmmFreePages_cases inv.sound.geo paddr n with result | ⟨index, ok, result⟩
    · rw [result]
      exact inv
    · rw [result]
      exact inv.release ok
  | reserve startAddr endAddr tag =>
    simp only [Lent.call]
    rcases pmmReserve_cases s.pmm startAddr endAddr tag with
      ⟨_, result⟩ | ⟨ok, q, newly, marked, result⟩
    · rw [result]
      exact inv
    · rw [result]
      refine ⟨inv.sound.mark ok endAddr.isLt marked, fun a member => ?_⟩
      obtain ⟨i, inside, place, set⟩ := inv.held a member
      have pages : q.totalPages = s.pmm.totalPages := marked.totalPages
      have starts : q.startAddr = s.pmm.startAddr := marked.startAddr
      refine ⟨i, ?_, ?_, (marked.test i).mpr (.inl set)⟩
      · change i < q.totalPages
        omega
      · rw [place, Pmm.pageAddr, Pmm.pageAddr, starts]

theorem run_lent (initial : start.Inv) (run : Run (graph Lent.call) start calls last) :
    last.Inv := by
  refine run.invariant (fun before c after inv taken => ?_) initial
  have same : before.call c = after := taken
  exact same ▸ inv.call c

end Steps

theorem Lent.Inv.window_free {s : Lent} (inv : s.Inv)
    (window : ClearWindow s.pmm.bitmap count index) (below : j < count) :
    s.pmm.pageAddr (index + j) % 4096 = 0 ∧ bitmapTest s.pmm.bitmap (index + j) = false ∧
      (∀ r ∈ s.pmm.reserved, ¬ s.pmm.inRange r (index + j)) ∧
      s.pmm.pageAddr (index + j) ∉ s.held := by
  have clear := window.2 j below
  have inside : index + j < s.pmm.totalPages := by
    rw [← inv.sound.geo.bits]
    have fits := window.1
    omega
  refine ⟨inv.sound.geo.pageAddr_mod _, clear, fun r member range => ?_, fun member => ?_⟩
  · have set := inv.sound.reserved r member _ inside range
    rw [clear] at set
    contradiction
  · obtain ⟨i, below', place, set⟩ := inv.held _ member
    rw [← inv.sound.geo.pageAddr_inj inside below' place, clear] at set
    contradiction

theorem clearWindow_iff {p : Pmm} (geo : p.Geometry) (count index : Nat) :
    ClearWindow p.bitmap count index ↔ index + count ≤ p.totalPages ∧
      ∀ j, j < count → bitmapTest p.bitmap (index + j) = false := by
  rw [ClearWindow, geo.bits]

/-- In every reachable state an allocation keeps its contract exactly when the window that
next-fit takes does not start at physical address 0, the value that stands for failure. -/
theorem pmm_alloc_contract_iff (startAddr size : U64) (bitmapSize : Nat)
    (aligned : startAddr.val % 4096 = 0) (start : Pmm)
    (started : pmmInit startAddr size bitmapSize = some start) (calls : List PmmCall) (s : Lent)
    (run : Run (graph Lent.call) ⟨start, []⟩ calls s) (n : PageCount) :
    AllocContract s n ↔ ¬ ∃ index, NextFit s.pmm n index ∧ s.pmm.pageAddr index = 0 := by
  have inv : s.Inv := by
    refine run_lent ⟨pmmInit_sound aligned startAddr.isLt size.isLt started, ?_⟩ run
    intro a member
    exact absurd member (List.not_mem_nil)
  have windows := clearWindow_iff inv.sound.geo n
  rcases pmmAllocPages_cases s.pmm n n.2.1 with ⟨index, fit, result⟩ | ⟨nothing, result⟩
  · constructor
    · rintro contract ⟨other, fit', zero⟩
      rw [fit'.unique fit] at zero
      have found := contract.complete.mpr ⟨index, (windows index).mp fit.1⟩
      rw [result] at found
      exact found zero
    · intro nonzero
      have address : (pmmAllocPages s.pmm n).2 ≠ 0 := by
        rw [result]
        exact fun zero => nonzero ⟨index, fit, zero⟩
      refine ⟨⟨fun _ => ⟨index, (windows index).mp fit.1⟩, fun _ => address⟩, fun _ => ?_,
        fun zero => absurd zero address⟩
      rw [result]
      exact ⟨index, ((windows index).mp fit.1).1, rfl, fun j below => inv.window_free fit.1 below⟩
  · constructor
    · rintro _ ⟨index, fit, _⟩
      exact nothing index fit.1
    · intro _
      refine ⟨?_, ?_, ?_⟩
      · rw [result]
        constructor
        · intro nonzero
          exact absurd rfl nonzero
        · rintro ⟨index, window⟩
          exact absurd ((windows index).mpr window) (nothing index)
      · rw [result]
        exact fun nonzero => absurd rfl nonzero
      · rw [result]
        exact fun _ => rfl

theorem pmm_alloc_contract_at_one_gib :
    AllocContract ((Lent.mk (twoPagesAt 0x40000000) []).call (.alloc ⟨1, by decide⟩)) 1 := by
  refine (pmm_alloc_contract_iff 0x40000000 0x2000 131072 (by decide) (twoPagesAt 0x40000000)
    (by decide) [.alloc ⟨1, by decide⟩] _ (run_foldl Lent.call _ _) ⟨1, by decide⟩).mpr ?_
  rintro ⟨index, fit, zero⟩
  have fits : index + 1 ≤ 2 := fit.1.1
  change (0x40000000 + index * 4096) % 2 ^ 64 = 0 at zero
  omega

/-- Memory that starts at address 0: the first allocation reports a failure, yet it has marked
page 0 as used and moved the hint. -/
theorem pmm_alloc_contract_broken_at_zero :
    pmmInit 0 0x2000 131072 = some (twoPagesAt 0) ∧ ¬ AllocContract ⟨twoPagesAt 0, []⟩ 1 :=
  ⟨by decide, fun contract => absurd (contract.unchanged (by decide)) (by decide)⟩

end AvatarKernel
