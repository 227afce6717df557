import AvatarKernel.Mm.PmmAccounting

namespace AvatarKernel

open Transition

/-- The pages of `[paddr, paddr + count * 4096)` may be given back. No sum is taken modulo 2^64. -/
structure Pmm.MayFree (p : Pmm) (paddr count : Nat) : Prop where
  aligned : paddr % 4096 = 0
  lower : p.startAddr ≤ paddr
  upper : paddr + count * 4096 ≤ p.startAddr + p.totalSize
  unreserved : ∀ r ∈ p.reserved, ∀ addr, r.start ≤ addr → addr < r.stop →
    ¬ (paddr ≤ addr ∧ addr < paddr + count * 4096)
  allocated : ∀ i, paddr ≤ p.startAddr + i * 4096 →
    p.startAddr + i * 4096 < paddr + count * 4096 → bitmapTest p.bitmap i = true

/-- `q` is `p` with exactly the pages of the range given back. -/
structure Pmm.Freed (p : Pmm) (paddr count : Nat) (q : Pmm) : Prop where
  bits : ∀ i, bitmapTest q.bitmap i = true ↔ bitmapTest p.bitmap i = true ∧
    ¬ (paddr ≤ p.startAddr + i * 4096 ∧ p.startAddr + i * 4096 < paddr + count * 4096)
  size : q.bitmap.size = p.bitmap.size
  free : q.freePages = p.freePages + count
  rest : q = { p with bitmap := q.bitmap, freePages := q.freePages }

/-- Recorded ranges start at a page, and are not empty unless rounding their end up has wrapped
it to 0. -/
def Pmm.Ranged (p : Pmm) : Prop :=
  ∀ r ∈ p.reserved, r.start % 4096 = 0 ∧ (r.start < r.stop ∨ r.stop = 0)

section Ranges

variable {p : Pmm}

theorem Pmm.Ranged.call (ranged : p.Ranged) (geo : p.Geometry) (c : PmmCall) :
    (pmmCall p c).Ranged := by
  cases c with
  | alloc n =>
    rcases pmmAllocPages_cases p n n.2.1 with ⟨index, -, result⟩ | ⟨-, result⟩ <;>
      rw [pmmCall, result] <;> exact ranged
  | free paddr n =>
    rcases pmmFreePages_cases geo paddr n with result | ⟨index, -, result⟩ <;>
      rw [pmmCall, result] <;> exact ranged
  | reserve startAddr endAddr tag =>
    rcases pmmReserve_cases p startAddr endAddr tag with ⟨-, result⟩ | ⟨ok, q, _, marked, result⟩
    · rw [pmmCall, result]
      exact ranged
    · rw [pmmCall, result]
      intro r member
      have table : q.reserved = p.reserved ++ [_] := marked.reserved
      rw [table, List.mem_append, List.mem_singleton] at member
      rcases member with old | rfl
      · exact ranged r old
      · have order := ok.nonempty
        simp only [alignDown, alignUp]
        omega

theorem run_tidy (drifted : ∃ d, Drifted start d) (ranged : start.Ranged)
    (run : Run (graph pmmCall) start calls last) : (∃ d, Drifted last d) ∧ last.Ranged := by
  induction run with
  | nil => exact ⟨drifted, ranged⟩
  | @snoc _ middle _ c _ taken ih =>
    obtain ⟨⟨d, inv⟩, kept⟩ := ih
    obtain ⟨k, next, -⟩ := inv.call c
    have same : pmmCall middle c = _ := taken
    exact same ▸ ⟨⟨d + k, next⟩, kept.call inv.sound.geo c⟩

theorem Pmm.Ranged.overlaps_iff (ranged : p.Ranged) (positive : 0 < count) :
    overlapsReserved p paddr (paddr + count * 4096) = false ↔
      ∀ r ∈ p.reserved, ∀ addr, r.start ≤ addr → addr < r.stop →
        ¬ (paddr ≤ addr ∧ addr < paddr + count * 4096) := by
  rw [overlapsReserved, List.any_eq_false]
  refine forall₂_congr fun r member => ?_
  rw [Bool.and_eq_true, decide_eq_true_eq, decide_eq_true_eq]
  constructor
  · intro apart addr lower upper inside
    exact apart ⟨by omega, by omega⟩
  · rintro apart ⟨below, above⟩
    have order := (ranged r member).2
    exact apart (max r.start paddr) (by omega) (by omega) ⟨by omega, by omega⟩

theorem anyClear_eq_false_iff (b : Bitmap) (index count : Nat) :
    anyClear b index count = false ↔ ∀ i, index ≤ i → i < index + count →
      bitmapTest b i = true := by
  refine ⟨anyClear_eq_false b index count, fun full => ?_⟩
  induction count generalizing index with
  | zero => rfl
  | succ count ih =>
    rw [anyClear, if_pos (full index le_rfl (by omega))]
    exact ih (index + 1) fun i lower upper => full i (by omega) (by omega)

end Ranges

section Release

variable {p : Pmm} {paddr count : Nat}

theorem pmmFreePages_of_mayFree (geo : p.Geometry) (whole : ¬ p.Wraps) (ranged : p.Ranged)
    (positive : 0 < count) (may : p.MayFree paddr count) :
    pmmFreePages p paddr count = (p.release ((paddr - p.startAddr) / 4096) count, true) := by
  obtain ⟨aligned, lower, upper, unreserved, allocated⟩ := may
  have start := geo.aligned
  have pages := geo.pages
  have finish := Pmm.endAddr_of_whole whole
  have last : (paddr + count * 4096) % 2 ^ 64 = paddr + count * 4096 := by
    unfold Pmm.Wraps at whole
    omega
  have full : anyClear p.bitmap ((paddr - p.startAddr) / 4096) count = false :=
    (anyClear_eq_false_iff ..).mpr fun i low high => allocated i (by omega) (by omega)
  rw [pmmFreePages, if_neg (by omega), if_neg (by omega)]
  dsimp only
  rw [if_neg (by omega), last, (ranged.overlaps_iff positive).mpr unreserved, full]
  rfl

theorem mayFree_of_pmmFreePages (geo : p.Geometry) (ranged : p.Ranged)
    (done : (pmmFreePages p paddr count).2 = true) : p.MayFree paddr count := by
  have start := geo.aligned
  have pages := geo.pages
  rcases pmmFreePages_cases geo paddr count with result | ⟨index, ok, -⟩
  · rw [result] at done
    contradiction
  have addr := ok.addr
  have fits := ok.fits
  refine ⟨by omega, by omega, by omega, ?_, fun i low high => ok.occupied i (by omega) (by omega)⟩
  intro r member addr low high inside
  -- the page that holds a shared address starts inside the range, too
  have edge := (ranged r member).1
  have place := geo.pageAddr_eq ok.whole (i := (addr - p.startAddr) / 4096) (by omega)
  refine ok.unreserved r member ((addr - p.startAddr) / 4096) (by omega) (by omega) ⟨?_, ?_⟩ <;>
    rw [place] <;> omega

theorem freed_release (aligned : p.startAddr % 4096 = 0) (may : p.MayFree paddr count)
    (room : p.freePages + count < 2 ^ 64) :
    p.Freed paddr count (p.release ((paddr - p.startAddr) / 4096) count) := by
  obtain ⟨page, lower, -, -, -⟩ := may
  refine ⟨fun i => ?_, bitmapClearLoop_size .., Nat.mod_eq_of_lt room, rfl⟩
  rw [p.release_test]
  exact and_congr_right fun _ => not_congr (by omega)

end Release

/-- What a release has to do: it answers true exactly for a range that may be given back, gives back
exactly that range then, and changes nothing otherwise. -/
structure Pmm.AllOrNothing (p : Pmm) (paddr count : Nat) : Prop where
  exactly : (pmmFreePages p paddr count).2 = true ↔ p.MayFree paddr count
  freed : (pmmFreePages p paddr count).2 = true → p.Freed paddr count (pmmFreePages p paddr count).1
  kept : (pmmFreePages p paddr count).2 = false → (pmmFreePages p paddr count).1 = p

/-- The checks of `pmm_free_pages`, for a manager that may start inside a page. -/
structure Pmm.Accepts (p : Pmm) (paddr count : Nat) : Prop where
  aligned : paddr % 4096 = 0
  inside : p.startAddr ≤ paddr ∧ paddr < p.endAddr
  fits : (paddr - p.startAddr) / 4096 < p.totalPages ∧
    count ≤ p.totalPages - (paddr - p.startAddr) / 4096
  unreserved : overlapsReserved p paddr ((paddr + count * 4096) % 2 ^ 64) = false
  allocated : anyClear p.bitmap ((paddr - p.startAddr) / 4096) count = false

section Exactness

variable {p : Pmm} {paddr count : Nat}

theorem pmmFreePages_accepts (p : Pmm) (paddr count : Nat) :
    p.Accepts paddr count ∧
        pmmFreePages p paddr count = (p.release ((paddr - p.startAddr) / 4096) count, true) ∨
      ¬ p.Accepts paddr count ∧ pmmFreePages p paddr count = (p, false) := by
  unfold pmmFreePages
  split
  next odd => exact .inr ⟨fun ok => odd ok.aligned, rfl⟩
  next aligned =>
    split
    next outside => exact .inr ⟨fun ok => by have := ok.inside; omega, rfl⟩
    next inside =>
      dsimp only
      split
      next large => exact .inr ⟨fun ok => by have := ok.fits; omega, rfl⟩
      next fits =>
        split
        next overlaps =>
          exact .inr ⟨fun ok => Bool.noConfusion (overlaps.symm.trans ok.unreserved), rfl⟩
        next apart =>
          split
          next clear =>
            exact .inr ⟨fun ok => Bool.noConfusion (clear.symm.trans ok.allocated), rfl⟩
          next set =>
            exact .inl
              ⟨⟨by omega, by omega, by omega, by simpa using apart, by simpa using set⟩, rfl⟩

theorem pmmCall_startAddr (p : Pmm) (c : PmmCall) : (pmmCall p c).startAddr = p.startAddr := by
  cases c with
  | alloc n =>
    rcases pmmAllocPages_cases p n n.2.1 with ⟨_, -, result⟩ | ⟨-, result⟩ <;>
      exact congrArg (·.1.startAddr) result
  | free paddr n =>
    rcases pmmFreePages_accepts p paddr n with ⟨-, result⟩ | ⟨-, result⟩ <;>
      exact congrArg (·.1.startAddr) result
  | reserve startAddr endAddr tag =>
    rcases pmmReserve_cases p startAddr endAddr tag with ⟨-, result⟩ | ⟨-, q, _, marked, result⟩
    · rw [pmmCall, result]
    · rw [pmmCall, result]
      exact marked.startAddr

theorem run_startAddr {start : Pmm} {calls : List PmmCall}
    (run : Run (graph pmmCall) start calls p) : p.startAddr = start.startAddr := by
  induction run with
  | nil => rfl
  | @snoc _ middle _ c _ taken ih =>
    have step : pmmCall middle c = _ := taken
    rw [← step, pmmCall_startAddr, ih]

/-- A manager that starts at a page is held up only by a range it may give back: by memory that ends
at or above 2^64, or by a count of free pages that would wrap. -/
theorem Pmm.allOrNothing_iff (geo : p.Geometry) (ranged : p.Ranged) (positive : 0 < count) :
    p.AllOrNothing paddr count ↔
      (p.MayFree paddr count → ¬ p.Wraps ∧ p.freePages + count < 2 ^ 64) := by
  constructor
  · intro all may
    have done := all.exactly.mpr may
    have whole : ¬ p.Wraps := by
      rcases pmmFreePages_cases geo paddr count with result | ⟨_, ok, -⟩
      · rw [result] at done
        contradiction
      · exact ok.whole
    have free := (all.freed done).free
    rw [pmmFreePages_of_mayFree geo whole ranged positive may] at free
    have wrapped : (p.freePages + count) % 2 ^ 64 = p.freePages + count := free
    exact ⟨whole, wrapped ▸ Nat.mod_lt _ (by decide)⟩
  · intro ready
    refine ⟨⟨mayFree_of_pmmFreePages geo ranged, fun may => ?_⟩, fun done => ?_, fun refused => ?_⟩
    · rw [pmmFreePages_of_mayFree geo (ready may).1 ranged positive may]
    · have may := mayFree_of_pmmFreePages geo ranged done
      rw [pmmFreePages_of_mayFree geo (ready may).1 ranged positive may]
      exact freed_release geo.aligned may (ready may).2
    · rcases pmmFreePages_accepts p paddr count with ⟨-, result⟩ | ⟨-, result⟩
      · rw [result] at refused
        contradiction
      · rw [result]

/-- A manager that starts inside a page gives back the page before the first one of the range
instead of the last one, so it is right only where it refuses. -/
theorem Pmm.allOrNothing_iff_of_odd (odd : p.startAddr % 4096 ≠ 0) (positive : 0 < count) :
    p.AllOrNothing paddr count ↔ ¬ p.MayFree paddr count ∧ ¬ p.Accepts paddr count := by
  rcases pmmFreePages_accepts p paddr count with ⟨ok, result⟩ | ⟨refused, result⟩
  · refine ⟨fun all => ?_, fun neither => absurd ok neither.2⟩
    have freed := all.freed (by rw [result])
    rw [result] at freed
    have page := ok.aligned
    have low := ok.inside.1
    have set := anyClear_eq_false p.bitmap _ _ ok.allocated ((paddr - p.startAddr) / 4096)
      (Nat.le_refl _) (by omega)
    have still := (freed.bits ((paddr - p.startAddr) / 4096)).mpr ⟨set, by omega⟩
    rw [p.release_test] at still
    exact absurd ⟨Nat.le_refl _, by omega⟩ still.2
  · constructor
    · intro all
      refine ⟨fun may => ?_, refused⟩
      have done := all.exactly.mpr may
      rw [result] at done
      contradiction
    · rintro ⟨may, -⟩
      refine ⟨?_, ?_, ?_⟩ <;> rw [result]
      · exact ⟨fun done => by contradiction, fun allowed => absurd allowed may⟩
      · exact fun done => by contradiction
      · exact fun _ => rfl

end Exactness

/-- When a release of a reachable state does what it has to. -/
def Pmm.ReleasesRight (p : Pmm) (paddr count : Nat) : Prop :=
  if p.startAddr % 4096 = 0 then
    p.MayFree paddr count → p.startAddr + p.totalSize < 2 ^ 64 ∧ p.freePages + count < 2 ^ 64
  else ¬ p.MayFree paddr count ∧ ¬ p.Accepts paddr count

/-- In every reachable state and for all arguments `pmm_free_pages` is all-or-nothing exactly if a
range that may be given back belongs to a manager which starts at a page and ends below 2^64, its
count of free pages does not wrap, and a manager that starts inside a page does not accept the
range. -/
theorem pmm_free_all_or_nothing (startAddr size : U64) (bitmapSize : Nat) (start p : Pmm)
    (started : pmmInit startAddr size bitmapSize = some start) (calls : List PmmCall)
    (run : Run (graph pmmCall) start calls p) (paddr : U64) (n : PageCount) :
    p.AllOrNothing paddr n ↔ p.ReleasesRight paddr n := by
  unfold Pmm.ReleasesRight
  split
  next aligned =>
    have same : p.startAddr = startAddr := by
      rw [run_startAddr run, pmmInit_eq_some started]
    obtain ⟨⟨d, drifted⟩, ranged⟩ := run_tidy
      ⟨_, drifted_init (same ▸ aligned) startAddr.isLt size.isLt started⟩
      (by rw [pmmInit_eq_some started]; exact fun r member => absurd member List.not_mem_nil) run
    rw [Pmm.allOrNothing_iff drifted.sound.geo ranged n.2.1, Pmm.Wraps, Nat.not_le]
  next odd => exact Pmm.allOrNothing_iff_of_odd odd n.2.1

/-- Two pages at the very end of the address space. The page handed out is allocated, managed and
in no reserved range, but the end of the memory wraps to 0, and it cannot be given back. -/
theorem pmm_free_refused_at_end :
    pmmInit 0xFFFFFFFFFFFFE000 0x2000 131072 = some (twoPagesAt 0xFFFFFFFFFFFFE000) ∧
      (pmmAllocPages (twoPagesAt 0xFFFFFFFFFFFFE000) 1).2 = 0xFFFFFFFFFFFFE000 ∧
      (pmmCall (twoPagesAt 0xFFFFFFFFFFFFE000)
        (.alloc ⟨1, by decide⟩)).MayFree 0xFFFFFFFFFFFFE000 1 ∧
      (pmmFreePages (pmmCall (twoPagesAt 0xFFFFFFFFFFFFE000) (.alloc ⟨1, by decide⟩))
        0xFFFFFFFFFFFFE000 1).2 = false := by
  refine ⟨by decide, by decide, ⟨by decide, by decide, by decide, ?_, ?_⟩, by decide⟩
  · exact fun r member => absurd member List.not_mem_nil
  · intro i lower upper
    obtain rfl : i = 0 := by
      change 0xFFFFFFFFFFFFE000 + i * 4096 < 0xFFFFFFFFFFFFE000 + 1 * 4096 at upper
      omega
    decide

theorem pmm_free_after_reserve_and_alloc :
    let p := [.reserve 0x40000001 0x40000002 "kernel-image", .alloc ⟨1, by decide⟩].foldl pmmCall
      (twoPagesAt 0x40000000)
    p.MayFree 0x40001000 1 ∧ p.Freed 0x40001000 1 (pmmFreePages p 0x40001000 1).1 ∧
      ¬ p.MayFree 0x40000000 1 := by
  have contract := fun paddr => (pmm_free_all_or_nothing 0x40000000 0x2000 131072
    (twoPagesAt 0x40000000) _ (by decide)
    [.reserve 0x40000001 0x40000002 "kernel-image", .alloc ⟨1, by decide⟩] (run_foldl pmmCall _ _)
    paddr ⟨1, by decide⟩).mpr (show if _ then _ else _ from
      (if_pos (by decide)).mpr fun _ => ⟨by decide, by decide⟩)
  obtain ⟨exactly, freed, -⟩ := contract 0x40001000
  refine ⟨exactly.mp (by decide), freed (by decide), fun may => ?_⟩
  exact absurd ((contract 0x40000000).exactly.mpr may) (by decide)

/-- What a releasing caller relies on: a block that was handed out is taken back, the map and the
count are then what they were, and a second release of it is refused. -/
def Pmm.TakesBack (p : Pmm) (n : Nat) : Prop :=
  let taken := pmmAllocPages p n
  let back := pmmFreePages taken.1 taken.2 n
  back.2 = true ∧ (∀ i, bitmapTest back.1.bitmap i = bitmapTest p.bitmap i) ∧
    back.1.freePages = p.freePages ∧ pmmFreePages back.1 taken.2 n = (back.1, false)

theorem Pmm.Sound.mayFree_take {p : Pmm} (sound : p.Sound) (ranged : p.Ranged)
    (whole : ¬ p.Wraps) (window : ClearWindow p.bitmap count index) :
    (p.take index count).MayFree (p.startAddr + index * 4096) count := by
  have start := sound.geo.aligned
  have pages := sound.geo.pages
  have fits : index + count ≤ p.totalPages := sound.geo.bits ▸ window.1
  refine ⟨by omega, Nat.le_add_right .., ?_, ?_, ?_⟩
  · show p.startAddr + index * 4096 + count * 4096 ≤ p.startAddr + p.totalSize
    omega
  · intro r member addr low high inside
    -- the page that holds a shared address is clear, and so outside of every recorded range
    have edge := (ranged r member).1
    have inBlock := inside.1
    have place := sound.geo.pageAddr_eq whole (i := (addr - p.startAddr) / 4096) (by omega)
    have set := sound.reserved r member ((addr - p.startAddr) / 4096) (by omega)
       ⟨by rw [place]; omega, by rw [place]; omega⟩
    rw [window.test (by omega) (by omega)] at set
    contradiction
  · intro i low high
    change p.startAddr + index * 4096 ≤ p.startAddr + i * 4096 at low
    change p.startAddr + i * 4096 < _ at high
    exact (Pmm.take_test window i).mpr (.inr ⟨by omega, by omega⟩)

/-- In every reachable state of a manager whose memory starts at a page and ends below 2^64, what
`pmm_alloc_pages` hands out can be given back once, and leaves no trace then. -/
theorem pmm_free_undoes_alloc (startAddr size : U64) (bitmapSize : Nat) (start p : Pmm)
    (started : pmmInit startAddr size bitmapSize = some start) (calls : List PmmCall)
    (run : Run (graph pmmCall) start calls p) (n : PageCount) (aligned : startAddr.val % 4096 = 0)
    (ends : p.startAddr + p.totalSize < 2 ^ 64) (handed : (pmmAllocPages p n).2 ≠ 0) :
    p.TakesBack n := by
  obtain ⟨⟨d, drifted⟩, ranged⟩ :=
    run_tidy ⟨_, drifted_init aligned startAddr.isLt size.isLt started⟩
    (by rw [pmmInit_eq_some started]; exact fun r member => absurd member List.not_mem_nil) run
  have whole : ¬ p.Wraps := Nat.not_le.mpr ends
  rcases pmmAllocPages_cases p n n.2.1 with ⟨index, fit, result⟩ | ⟨-, result⟩
  case inr => exact absurd (congrArg Prod.snd result) handed
  have window := fit.1
  have sound := (drifted.take window).sound
  have may := drifted.sound.mayFree_take ranged whole window
  have inside : index < p.totalPages := by
    have fits : index + n ≤ p.totalPages := drifted.sound.geo.bits ▸ window.1
    have positive := n.2.1
    omega
  have back : pmmFreePages (p.take index n) (p.startAddr + index * 4096) n =
      ((p.take index n).release index n, true) := by
    rw [pmmFreePages_of_mayFree sound.geo whole ranged n.2.1 may]
    show ((p.take index n).release ((p.startAddr + index * 4096 - p.startAddr) / 4096) n, true) = _
    rw [Nat.add_sub_cancel_left, Nat.mul_div_cancel _ (by decide)]
  have clear : ∀ i, bitmapTest ((p.take index n).release index n).bitmap i =
      bitmapTest p.bitmap i := by
    intro i
    rw [Bool.eq_iff_iff, Pmm.release_test, Pmm.take_test window]
    constructor
    · rintro ⟨set | within, outside⟩
      · exact set
      · exact absurd within outside
    · intro set
      refine ⟨.inl set, fun within => ?_⟩
      rw [window.test within.1 within.2] at set
      contradiction
  unfold Pmm.TakesBack
  rw [result, drifted.sound.geo.pageAddr_eq whole inside]
  dsimp only
  rw [back]
  refine ⟨rfl, clear, ?_, ?_⟩
  · have free := drifted.free_lt
    have few := n.2.2
    show ((p.freePages + 2 ^ 64 - n) % 2 ^ 64 + n) % 2 ^ 64 = p.freePages
    omega
  · have geo : ((p.take index n).release index n).Geometry :=
      { sound.geo with bits := (bitmapClearLoop_size ..).trans sound.geo.bits }
    rcases pmmFreePages_cases geo (p.startAddr + index * 4096) n with refused | ⟨other, ok, -⟩
    · exact refused
    · have same : p.startAddr + index * 4096 = p.startAddr + other * 4096 := ok.addr
      have set := ok.occupied index (by omega) (by have positive := n.2.1; omega)
      rw [clear, window.test (Nat.le_refl _) (Nat.lt_add_of_pos_right n.2.1)] at set
      contradiction

theorem pmm_free_undoes_alloc_once : (twoPagesAt 0x40000000).TakesBack 2 :=
  pmm_free_undoes_alloc 0x40000000 0x2000 131072 _ _ (by decide) [] .nil ⟨2, by decide⟩ (by decide)
    (by decide) (by decide)

end AvatarKernel
