import AvatarKernel.Mm.PmmEffect

namespace AvatarKernel

open Transition

structure Pmm.Accounting (p : Pmm) : Prop where
  free : p.freePages = Nat.count (fun i => bitmapTest p.bitmap i = false) p.totalPages
  size : p.bitmap.size = p.totalPages
  reserved : ∀ r ∈ p.reserved, ∀ i, i < p.totalPages → p.inRange r i → bitmapTest p.bitmap i = true
  reservedPages : p.reservedPages ≤ p.totalPages

/-- A reservation that is accepted although rounding its end up leaves the 64-bit range, by a
manager whose memory neither starts at address 0 nor reaches the last address. -/
def RoundsPastEnd (p : Pmm) : PmmCall → Prop
  | .reserve startAddr endAddr _ =>
    startAddr < endAddr ∧ 2 ^ 64 - 4096 < endAddr.val ∧ p.startAddr ≤ alignDown startAddr ∧
      p.startAddr ≠ 0 ∧ ¬ p.Wraps ∧ p.reserved.length < pmmMaxReservedRanges
  | _ => False

/-- A page that no call can free any more: it is set, and it lies in a recorded range or the
managed range wraps, in which case `pmm_free_pages` refuses every address. -/
def Pmm.Locked (p : Pmm) (index : Nat) : Prop :=
  bitmapTest p.bitmap index = true ∧ (p.Wraps ∨ ∃ r ∈ p.reserved, p.inRange r index)

instance (p : Pmm) : DecidablePred p.Locked := fun _ => inferInstanceAs (Decidable (_ ∧ _))

/-- The accounting up to a drift `d`: the number of pages that marking loops have counted beyond
the map so far. -/
structure Drifted (p : Pmm) (d : Nat) : Prop where
  sound : p.Sound
  free_lt : p.freePages < 2 ^ 64
  free : (p.freePages + d) % 2 ^ 64 = clearBits p.bitmap
  entries : p.reserved.length ≤ pmmMaxReservedRanges
  bound : d ≤ p.reserved.length * 2 ^ 52
  locked : d = 0 → p.reservedPages ≤ Nat.count p.Locked p.totalPages

variable {p : Pmm}

theorem Pmm.Geometry.clearBits_lt (geo : p.Geometry) : clearBits p.bitmap < 2 ^ 52 := by
  have le := clearBits_le p.bitmap
  have bits := geo.bits
  have pages := geo.pages
  have size := geo.size_lt
  omega

variable {startAddr : Nat}

theorem drifted_init (aligned : startAddr % 4096 = 0) (start_lt : startAddr < 2 ^ 64)
    (size_lt : size < 2 ^ 64) (started : pmmInit startAddr size bitmapSize = some p) :
    Drifted p 0 := by
  have sound := pmmInit_sound aligned start_lt size_lt started
  have shape := pmmInit_eq_some started
  subst shape
  refine ⟨sound, ?_, ?_, by simp [pmmMaxReservedRanges], by simp, fun _ => Nat.zero_le _⟩
  · change size / 4096 < 2 ^ 64
    omega
  · change (size / 4096 + 0) % 2 ^ 64 = clearBits (bitmapInit (size / 4096))
    rw [clearBits_init]
    omega

variable {d : Nat}

theorem Drifted.take (inv : Drifted p d) (window : ClearWindow p.bitmap count index) :
    Drifted (p.take index count) d := by
  have bits := Pmm.take_clearBits window
  have free := inv.free
  refine ⟨inv.sound.take window, Nat.mod_lt _ (by omega), ?_, inv.entries, inv.bound, ?_⟩
  · change ((p.freePages + 2 ^ 64 - count) % 2 ^ 64 + d) % 2 ^ 64 = _
    omega
  · intro zero
    refine (inv.locked zero).trans (Nat.count_mono_left fun i _ lock => ?_)
    exact ⟨(Pmm.take_test window i).mpr (.inl lock.1), lock.2⟩

theorem Drifted.release (inv : Drifted p d) (ok : Releasable p paddr index count) :
    Drifted (p.release index count) d := by
  have bits := Pmm.release_clearBits inv.sound.geo ok
  have free := inv.free
  have sound := inv.sound.release ok
  have small := sound.geo.clearBits_lt
  refine ⟨sound, Nat.mod_lt _ (by omega), ?_, inv.entries, inv.bound, ?_⟩
  · change ((p.freePages + count) % 2 ^ 64 + d) % 2 ^ 64 = _
    omega
  · intro zero
    refine (inv.locked zero).trans (Nat.count_mono_left fun i _ lock => ?_)
    -- a page of the request is in no recorded range, and the managed range does not wrap
    have outside : ¬ (index ≤ i ∧ i < index + count) := by
      intro window
      rcases lock.2 with wraps | ⟨r, member, range⟩
      · exact ok.whole wraps
      · exact ok.unreserved r member i window.1 window.2 range
    exact ⟨(p.release_test index count i).mpr ⟨lock.1, outside⟩, lock.2⟩

theorem Marked.locked (marked : Marked (p.record (alignDown startAddr) (alignUp endAddr) tag)
      (p.pageIndex (alignDown startAddr))
      (p.pageIndex (alignUp endAddr) - p.pageIndex (alignDown startAddr)) 0 q newly)
    (geo : p.Geometry) (ok : Reservable p startAddr endAddr) (word : endAddr < 2 ^ 64)
    (fits : ¬ (2 ^ 64 - 4096 < endAddr ∧ p.startAddr ≠ 0 ∧ ¬ p.Wraps)) :
    Nat.count p.Locked p.totalPages + newly ≤ Nat.count q.Locked q.totalPages := by
  have pages : q.totalPages = p.totalPages := marked.totalPages
  have starts : q.startAddr = p.startAddr := marked.startAddr
  have wraps : q.Wraps ↔ p.Wraps := by
    simp only [Pmm.Wraps, starts, show q.totalSize = p.totalSize from marked.totalSize]
  have place : ∀ r i, q.inRange r i ↔ p.inRange r i := by
    intro r i
    simp only [Pmm.inRange, Pmm.pageAddr, starts]
  have table : q.reserved = p.reserved ++ [⟨alignDown startAddr, alignUp endAddr, tag⟩] :=
    marked.reserved
  have test : ∀ i, bitmapTest q.bitmap i = true ↔ bitmapTest p.bitmap i = true ∨
      p.pageIndex (alignDown startAddr) ≤ i ∧ i < p.pageIndex (alignDown startAddr) +
        (p.pageIndex (alignUp endAddr) - p.pageIndex (alignDown startAddr)) ∧ i < p.bitmap.size :=
    marked.test
  -- the pages that the loop found clear, counted through the clear bits that are left
  have fresh : Nat.count (fun i => bitmapTest p.bitmap i = false ∧ bitmapTest q.bitmap i = true)
      p.totalPages = newly := by
    have total : clearBits q.bitmap + (newly - 0) = clearBits p.bitmap + overrun p.bitmap.size
        (p.pageIndex (alignDown startAddr))
        (p.pageIndex (alignUp endAddr) - p.pageIndex (alignDown startAddr)) := marked.clear
    have size : q.bitmap.size = p.bitmap.size := marked.size
    rw [geo.bits, (ok.overrun_eq_zero_iff geo word).mpr fits] at total
    have split : clearBits p.bitmap = clearBits q.bitmap +
        Nat.count (fun i => bitmapTest p.bitmap i = false ∧ bitmapTest q.bitmap i = true)
          p.totalPages := by
      unfold clearBits
      rw [size, geo.bits]
      apply Counting.count_disjoint
      · intro i _
        have grown : bitmapTest p.bitmap i = true → bitmapTest q.bitmap i = true :=
          fun old => (test i).mpr (.inl old)
        revert grown
        cases bitmapTest p.bitmap i <;> cases bitmapTest q.bitmap i <;> simp
      · intro i _ both
        rw [both.1] at both
        exact absurd both.2.2 (by simp)
    omega
  rw [← fresh, pages]
  rw [← Counting.count_disjoint (r := fun i => p.Locked i ∨
    bitmapTest p.bitmap i = false ∧ bitmapTest q.bitmap i = true) (fun _ _ => Iff.rfl)]
  · refine Nat.count_mono_left fun i inside either => ?_
    rcases either with lock | ⟨clear, set⟩
    · refine ⟨(test i).mpr (.inl lock.1), lock.2.imp wraps.mpr fun reserved => ?_⟩
      obtain ⟨r, member, range⟩ := reserved
      exact ⟨r, by rw [table]; exact List.mem_append_left _ member, (place r i).mpr range⟩
    · refine ⟨set, ?_⟩
      rcases (test i).mp set with old | window
      · rw [old] at clear
        contradiction
      · have range := ok.inRange_of_window geo word fits inside window.1 (by omega)
        refine range.imp wraps.mpr fun bounds =>
          ⟨⟨alignDown startAddr, alignUp endAddr, tag⟩, ?_, ?_⟩
        · rw [table]
          exact List.mem_append_right _ (List.mem_singleton.mpr rfl)
        · exact (place _ i).mpr bounds
  · intro i _ both
    rw [both.1.1] at both
    exact absurd both.2.1 (by simp)

theorem Drifted.mark (inv : Drifted p d) (ok : Reservable p startAddr endAddr)
    (word : endAddr < 2 ^ 64)
    (marked : Marked (p.record (alignDown startAddr) (alignUp endAddr) tag)
      (p.pageIndex (alignDown startAddr))
      (p.pageIndex (alignUp endAddr) - p.pageIndex (alignDown startAddr)) 0 q newly) :
    Drifted { q with reservedPages := (q.reservedPages + newly) % 2 ^ 64 }
      (d + overrun p.totalPages (p.pageIndex (alignDown startAddr))
        (p.pageIndex (alignUp endAddr) - p.pageIndex (alignDown startAddr))) := by
  have sound := inv.sound.mark ok word marked
  have total : clearBits q.bitmap + (newly - 0) = clearBits p.bitmap + overrun p.bitmap.size
      (p.pageIndex (alignDown startAddr))
      (p.pageIndex (alignUp endAddr) - p.pageIndex (alignDown startAddr)) := marked.clear
  have counted : (q.freePages + (newly - 0)) % 2 ^ 64 = p.freePages % 2 ^ 64 := marked.free
  have short : overrun p.totalPages (p.pageIndex (alignDown startAddr))
      (p.pageIndex (alignUp endAddr) - p.pageIndex (alignDown startAddr)) ≤ 2 ^ 52 := by
    have index := p.pageIndex_lt (alignUp endAddr)
    exact (overrun_le _ _ _).trans (by omega)
  rw [inv.sound.geo.bits] at total
  have free := inv.free
  have lt := inv.free_lt
  have bound := inv.bound
  have small : clearBits q.bitmap < 2 ^ 52 := sound.geo.clearBits_lt
  have length : q.reserved.length = p.reserved.length + 1 := by
    rw [show q.reserved = _ from marked.reserved]
    exact List.length_append
  refine ⟨sound, marked.free_lt lt, ?_, ?_, ?_, ?_⟩
  · change (q.freePages + (d + overrun _ _ _)) % 2 ^ 64 = clearBits q.bitmap
    omega
  · change q.reserved.length ≤ pmmMaxReservedRanges
    have room := ok.room
    omega
  · rw [length, Nat.succ_mul]
    omega
  · intro zero
    have fits := (ok.overrun_eq_zero_iff inv.sound.geo word).mp (by omega)
    have grown := marked.locked inv.sound.geo ok word fits
    have before := inv.locked (by omega)
    have same : q.reservedPages = p.reservedPages := marked.reservedPages
    change (q.reservedPages + newly) % 2 ^ 64 ≤ Nat.count q.Locked q.totalPages
    exact (Nat.mod_le _ _).trans (by omega)

theorem Drifted.call (inv : Drifted p d) (c : PmmCall) :
    ∃ k, Drifted (pmmCall p c) (d + k) ∧ (k = 0 ↔ ¬ RoundsPastEnd p c) := by
  cases c with
  | alloc n =>
    refine ⟨0, ?_, by simp [RoundsPastEnd]⟩
    rcases pmmAllocPages_cases p n n.2.1 with ⟨index, fit, result⟩ | ⟨_, result⟩
    · rw [pmmCall, result]
      exact inv.take fit.1
    · rw [pmmCall, result]
      exact inv
  | free paddr n =>
    refine ⟨0, ?_, by simp [RoundsPastEnd]⟩
    rcases pmmFreePages_cases inv.sound.geo paddr n with result | ⟨index, ok, result⟩
    · rw [pmmCall, result]
      exact inv
    · rw [pmmCall, result]
      exact inv.release ok
  | reserve startAddr endAddr tag =>
    rcases pmmReserve_cases p startAddr endAddr tag with
      ⟨refused, result⟩ | ⟨ok, q, newly, marked, result⟩
    · refine ⟨0, ?_, ?_⟩
      · rw [pmmCall, result]
        exact inv
      · refine ⟨fun _ past => refused ?_, fun _ => rfl⟩
        obtain ⟨nonempty, high, lower, -, -, room⟩ := past
        refine ⟨nonempty, lower, ?_, room⟩
        rw [alignUp_of_gt high endAddr.isLt]
        exact Nat.zero_le _
    · refine ⟨_, ?_, (ok.overrun_eq_zero_iff inv.sound.geo endAddr.isLt).trans ?_⟩
      · rw [pmmCall, result]
        exact inv.mark ok endAddr.isLt marked
      · apply not_congr
        constructor
        · rintro ⟨high, nonzero, whole⟩
          exact ⟨ok.nonempty, high, ok.lower, nonzero, whole, ok.room⟩
        · rintro ⟨-, high, -, nonzero, whole, -⟩
          exact ⟨high, nonzero, whole⟩

/-- After a run the drift is zero exactly when no call of the run rounded past the end. -/
theorem run_drifted (initial : Drifted start 0) (run : Run (graph pmmCall) start calls last) :
    ∃ d, Drifted last d ∧
      (d = 0 ↔ Run (Guarded (graph pmmCall) fun p c => ¬ RoundsPastEnd p c) start calls last) := by
  induction run with
  | nil => exact ⟨0, initial, fun _ => .nil, fun _ => rfl⟩
  | @snoc calls middle last c before taken ih =>
    obtain ⟨d, inv, exact'⟩ := ih
    obtain ⟨k, next, moved⟩ := inv.call c
    have same : pmmCall middle c = last := taken
    rw [same] at next
    refine ⟨d + k, next, ?_⟩
    rw [run_snoc_iff, Nat.add_eq_zero_iff, exact', moved]
    constructor
    · rintro ⟨guarded, fits⟩
      exact ⟨middle, guarded, fits, taken⟩
    · rintro ⟨other, guarded, fits, step⟩
      have unique : other = middle := guarded.unguarded.eq_foldl.trans before.eq_foldl.symm
      subst unique
      exact ⟨guarded, fits⟩

theorem Drifted.accounting_iff (inv : Drifted p d) : p.Accounting ↔ d = 0 := by
  have free := inv.free
  have lt := inv.free_lt
  have bound := inv.bound
  have entries := inv.entries
  have clear : clearBits p.bitmap =
      Nat.count (fun i => bitmapTest p.bitmap i = false) p.totalPages := by
    rw [clearBits, inv.sound.geo.bits]
  constructor
  · intro ok
    have counted := ok.free
    have small : p.reserved.length * 2 ^ 52 ≤ 16 * 2 ^ 52 := Nat.mul_le_mul_right _ entries
    omega
  · intro zero
    refine ⟨by omega, inv.sound.geo.bits, inv.sound.reserved, ?_⟩
    exact (inv.locked zero).trans (Nat.count_le _)

/-- The accounting invariant holds after a run of allocations, releases and reservations exactly
when none of the reservations rounded past the end of the address space. -/
theorem pmm_accounting_iff (startAddr size : U64) (bitmapSize : Nat)
    (aligned : startAddr.val % 4096 = 0)
    (start last : Pmm) (started : pmmInit startAddr size bitmapSize = some start)
    (calls : List PmmCall) (run : Run (graph pmmCall) start calls last) :
    last.Accounting ↔
      Run (Guarded (graph pmmCall) fun p c => ¬ RoundsPastEnd p c) start calls last := by
  obtain ⟨d, inv, exact'⟩ :=
    run_drifted (drifted_init aligned startAddr.isLt size.isLt started) run
  rw [inv.accounting_iff, exact']

theorem pmm_accounting_after_reserve_and_alloc :
    ([.reserve 0x40000001 0x40000002 "kernel-image", .alloc ⟨1, by decide⟩].foldl pmmCall
      (twoPagesAt 0x40000000)).Accounting :=
  (pmm_accounting_iff 0x40000000 0x2000 131072 (by decide) (twoPagesAt 0x40000000) _ (by decide) _
    (run_foldl pmmCall _ _)).mpr
    (.snoc (.snoc .nil ⟨fun past => absurd past.2.1 (by decide), rfl⟩) ⟨id, rfl⟩)

/-- Reserving the last bytes of the address space is accepted, and `free_pages` drops to 1 while
both pages stay clear. -/
theorem pmm_accounting_broken_by_last_page :
    pmmInit 0x40000000 0x2000 131072 = some (twoPagesAt 0x40000000) ∧
      ¬ (pmmCall (twoPagesAt 0x40000000)
        (.reserve 0xFFFFFFFFFFFFF001 0xFFFFFFFFFFFFFFFF "device")).Accounting :=
  ⟨by decide, fun ok => absurd ok.free (by decide +kernel)⟩

end AvatarKernel
