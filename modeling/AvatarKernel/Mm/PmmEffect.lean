import AvatarKernel.Mm.Pmm

namespace AvatarKernel

/-- What `pmm_init` fixes and no later call changes. -/
structure Pmm.Geometry (p : Pmm) : Prop where
  aligned : p.startAddr % 4096 = 0
  start_lt : p.startAddr < 2 ^ 64
  size_lt : p.totalSize < 2 ^ 64
  pages : p.totalPages = p.totalSize / 4096
  bits : p.bitmap.size = p.totalPages

def Pmm.inRange (p : Pmm) (r : Reserved) (index : Nat) : Prop :=
  r.start ≤ p.pageAddr index ∧ p.pageAddr index < r.stop

instance (p : Pmm) (r : Reserved) (index : Nat) : Decidable (p.inRange r index) :=
  inferInstanceAs (Decidable (_ ∧ _))

def Pmm.Wraps (p : Pmm) : Prop := 2 ^ 64 ≤ p.startAddr + p.totalSize

instance (p : Pmm) : Decidable p.Wraps := inferInstanceAs (Decidable (_ ≤ _))

section Init

variable {startAddr size bitmapSize : Nat} {p : Pmm}

theorem pmmInit_eq_some (started : pmmInit startAddr size bitmapSize = some p) :
    p = { bitmap := bitmapInit (size / 4096), startAddr := startAddr, totalSize := size,
          totalPages := size / 4096, freePages := size / 4096, reserved := [],
          reservedPages := 0, allocHint := 0 } := by
  unfold pmmInit at started
  split at started
  · exact (Option.some.inj started).symm
  · contradiction

theorem pmmInit_geometry (aligned : startAddr % 4096 = 0) (start_lt : startAddr < 2 ^ 64)
    (size_lt : size < 2 ^ 64) (started : pmmInit startAddr size bitmapSize = some p) :
    p.Geometry := by
  rw [pmmInit_eq_some started]
  exact ⟨aligned, start_lt, size_lt, rfl, rfl⟩

end Init

section Alloc

variable (p : Pmm) (count : Nat)

def triedBefore (hint i k : Nat) : Prop :=
  (hint ≤ i → hint ≤ k → i ≤ k) ∧ (i < hint → k < hint ∧ i ≤ k)

def NextFit (index : Nat) : Prop :=
  ClearWindow p.bitmap count index ∧
    ∀ k, ClearWindow p.bitmap count k → triedBefore p.allocHint index k

theorem pmmFindPages_spec (positive : 0 < count) :
    match pmmFindPages p count with
    | some index => NextFit p count index
    | none => ∀ index, ¬ ClearWindow p.bitmap count index := by
  have first := bitmapFindContiguousFreeFrom_spec p.bitmap count p.allocHint positive
  have second := bitmapFindContiguousFree_spec p.bitmap count positive
  unfold pmmFindPages
  cases ahead : bitmapFindContiguousFreeFrom p.bitmap count p.allocHint with
  | some =>
    rw [ahead] at first
    obtain ⟨above, window, lowest⟩ := first
    refine ⟨window, fun k clear => ⟨fun _ high => ?_, by omega⟩⟩
    exact Nat.le_of_not_lt fun below => lowest k high below clear
  | none =>
    rw [ahead] at first
    dsimp only
    by_cases hint : p.allocHint ≠ 0
    · rw [if_pos hint]
      cases wrapped : bitmapFindContiguousFree p.bitmap count with
      | some index =>
        rw [wrapped] at second
        obtain ⟨_, window, lowest⟩ := second
        refine ⟨window, fun k clear => ?_⟩
        have low : k < p.allocHint := Nat.lt_of_not_le fun high => first k high clear
        have order : index ≤ k :=
          Nat.le_of_not_lt fun below => lowest k (Nat.zero_le k) below clear
        exact ⟨fun _ _ => order, fun _ => ⟨low, order⟩⟩
      | none =>
        rw [wrapped] at second
        exact fun index => second index (Nat.zero_le index)
    · rw [if_neg hint]
      exact fun index => first index (by omega)

theorem NextFit.unique {p : Pmm} {count i j : Nat} (left : NextFit p count i)
    (right : NextFit p count j) : i = j := by
  have forward := left.2 j right.1
  have backward := right.2 i left.1
  unfold triedBefore at forward backward
  omega

theorem pmmAllocPages_cases (positive : 0 < count) :
    (∃ index, NextFit p count index ∧
      pmmAllocPages p count = (p.take index count, p.pageAddr index)) ∨
    ((∀ index, ¬ ClearWindow p.bitmap count index) ∧ pmmAllocPages p count = (p, 0)) := by
  have found := pmmFindPages_spec p count positive
  unfold pmmAllocPages
  cases result : pmmFindPages p count with
  | some index =>
    rw [result] at found
    exact .inl ⟨index, found, rfl⟩
  | none =>
    rw [result] at found
    exact .inr ⟨found, rfl⟩

end Alloc

section Take

variable {p : Pmm} {count index : Nat}

theorem Pmm.take_test (window : ClearWindow p.bitmap count index) (i : Nat) :
    bitmapTest (p.take index count).bitmap i = true ↔
      bitmapTest p.bitmap i = true ∨ index ≤ i ∧ i < index + count :=
  bitmapSetRange_test p.bitmap index count i window.1

theorem ClearWindow.test (window : ClearWindow b count index) (lower : index ≤ i)
    (upper : i < index + count) : bitmapTest b i = false := by
  have clear := window.2 (i - index) (by omega)
  rwa [Nat.add_sub_cancel' lower] at clear

theorem Pmm.take_clearBits (window : ClearWindow p.bitmap count index) :
    clearBits p.bitmap = clearBits (p.take index count).bitmap + count :=
  clearBits_of_set p.bitmap (p.take index count).bitmap index count
    (bitmapSetRange_size p.bitmap index count) window.1 (fun _ => window.test)
    (Pmm.take_test window)

end Take

section Free

variable {p : Pmm}

theorem anyClear_eq_false (b : Bitmap) (index count : Nat) (full : anyClear b index count = false) :
    ∀ i, index ≤ i → i < index + count → bitmapTest b i = true := by
  induction count generalizing index with
  | zero => intro i lower upper; omega
  | succ _ ih =>
    rw [anyClear] at full
    split at full
    · rename_i here
      intro i lower upper
      by_cases first : i = index
      · rw [first, here]
      · exact ih (index + 1) full i (by omega) (by omega)
    · contradiction

/-- What `pmm_free_pages` has checked when it clears the pages from `index` on. -/
structure Releasable (p : Pmm) (paddr index count : Nat) : Prop where
  addr : paddr = p.startAddr + index * 4096
  fits : index + count ≤ p.totalPages
  whole : ¬ p.Wraps
  occupied : ∀ i, index ≤ i → i < index + count → bitmapTest p.bitmap i = true
  unreserved : ∀ r ∈ p.reserved, ∀ i, index ≤ i → i < index + count → ¬ p.inRange r i

namespace Pmm

theorem Geometry.pageAddr_eq (geo : p.Geometry) (whole : ¬ p.Wraps) (inside : i < p.totalPages) :
    p.pageAddr i = p.startAddr + i * 4096 := by
  have pages := geo.pages
  unfold Wraps at whole
  unfold pageAddr
  omega

theorem endAddr_of_whole (whole : ¬ p.Wraps) : p.endAddr = p.startAddr + p.totalSize := by
  unfold Wraps at whole
  exact Nat.mod_eq_of_lt (by omega)

theorem Geometry.endAddr_lt (geo : p.Geometry) (wraps : p.Wraps) : p.endAddr < p.startAddr := by
  have start := geo.start_lt
  have size := geo.size_lt
  unfold Wraps at wraps
  unfold endAddr
  omega

theorem Geometry.pageIndex_of_le (geo : p.Geometry) (above : p.startAddr ≤ addr)
    (word : addr < 2 ^ 64) : p.pageIndex addr = (addr - p.startAddr) / 4096 := by
  have start := geo.start_lt
  unfold pageIndex
  congr 1
  omega

theorem Geometry.pageIndex_zero (geo : p.Geometry) (above : p.startAddr ≠ 0) :
    p.pageIndex 0 = (2 ^ 64 - p.startAddr) / 4096 := by
  have start := geo.start_lt
  unfold pageIndex
  congr 1
  omega

end Pmm

theorem pmmFreePages_cases (geo : p.Geometry) (paddr count : Nat) :
    pmmFreePages p paddr count = (p, false) ∨ ∃ index, Releasable p paddr index count ∧
        pmmFreePages p paddr count = (p.release index count, true) := by
  unfold pmmFreePages
  split
  · exact .inl rfl
  rename_i aligned
  split
  · exact .inl rfl
  rename_i range
  dsimp only
  split
  · exact .inl rfl
  rename_i request
  split
  · exact .inl rfl
  rename_i reserved
  split
  · exact .inl rfl
  rename_i double
  have start := geo.aligned
  have pages := geo.pages
  have startLt := geo.start_lt
  have sizeLt := geo.size_lt
  have addr : paddr = p.startAddr + (paddr - p.startAddr) / 4096 * 4096 := by omega
  have whole : ¬ p.Wraps := by
    unfold Pmm.endAddr at range
    unfold Pmm.Wraps
    omega
  refine .inr ⟨(paddr - p.startAddr) / 4096, ⟨addr, by omega, whole, ?_, ?_⟩, rfl⟩
  · exact anyClear_eq_false p.bitmap _ _ (by simpa using double)
  · intro r member i lower upper inside
    apply reserved
    have place := geo.pageAddr_eq whole (show i < p.totalPages by omega)
    have bounds := inside
    rw [Pmm.inRange, place] at bounds
    unfold Pmm.Wraps at whole
    have last : (paddr + count * 4096) % 2 ^ 64 = paddr + count * 4096 := by omega
    rw [overlapsReserved, List.any_eq_true]
    refine ⟨r, member, ?_⟩
    rw [Bool.and_eq_true, decide_eq_true_eq, decide_eq_true_eq, last]
    omega

theorem Pmm.release_test (index count i : Nat) :
    bitmapTest (p.release index count).bitmap i = true ↔
      bitmapTest p.bitmap i = true ∧ ¬ (index ≤ i ∧ i < index + count) :=
  bitmapClearLoop_test p.bitmap index count i

theorem Pmm.release_clearBits (geo : p.Geometry) (ok : Releasable p paddr index count) :
    clearBits (p.release index count).bitmap = clearBits p.bitmap + count := by
  apply clearBits_of_set _ _ index count
  · exact (bitmapClearLoop_size p.bitmap index count).symm
  · change index + count ≤ (bitmapClearLoop p.bitmap index count).size
    rw [bitmapClearLoop_size, geo.bits]
    exact ok.fits
  · intro i lower upper
    rw [← Bool.not_eq_true, p.release_test]
    exact fun kept => kept.2 ⟨lower, upper⟩
  · intro i
    rw [p.release_test]
    constructor
    · intro old
      by_cases window : index ≤ i ∧ i < index + count
      · exact .inr window
      · exact .inl ⟨old, window⟩
    · intro new
      rcases new with kept | window
      · exact kept.1
      · exact ok.occupied i window.1 window.2

end Free

section Reserve

def overrun (size start count : Nat) : Nat := start + count - max start size

theorem overrun_le (size start count : Nat) : overrun size start count ≤ count := by
  unfold overrun
  omega

theorem Pmm.pageIndex_lt (p : Pmm) (addr : Nat) : p.pageIndex addr < 2 ^ 52 := by
  unfold Pmm.pageIndex
  omega

/-- What the marking loop does: it sets the window's bits that the map has, and counts every page
that it found clear, those beyond the map included. -/
structure Marked (p : Pmm) (start count newly : Nat) (q : Pmm) (total : Nat) : Prop where
  startAddr : q.startAddr = p.startAddr
  totalSize : q.totalSize = p.totalSize
  totalPages : q.totalPages = p.totalPages
  reserved : q.reserved = p.reserved
  reservedPages : q.reservedPages = p.reservedPages
  allocHint : q.allocHint = p.allocHint
  size : q.bitmap.size = p.bitmap.size
  test : ∀ i, bitmapTest q.bitmap i = true ↔
    bitmapTest p.bitmap i = true ∨ start ≤ i ∧ i < start + count ∧ i < p.bitmap.size
  lower : newly ≤ total
  upper : total ≤ newly + count
  free : (q.freePages + (total - newly)) % 2 ^ 64 = p.freePages % 2 ^ 64
  free_lt : p.freePages < 2 ^ 64 → q.freePages < 2 ^ 64
  clear : clearBits q.bitmap + (total - newly) =
    clearBits p.bitmap + overrun p.bitmap.size start count

theorem reservePages_marked (count start : Nat) (p : Pmm) (newly : Nat)
    (small : newly + count < 2 ^ 64) :
    Marked p start count newly (reservePages count start p newly).1
      (reservePages count start p newly).2 := by
  induction count generalizing start p newly with
  | zero =>
    simp only [reservePages]
    exact ⟨rfl, rfl, rfl, rfl, rfl, rfl, rfl, fun i => ⟨.inl, fun new => new.elim id (by omega)⟩,
      le_refl _, le_refl _, by simp, id, by simp [overrun]⟩
  | succ _ ih =>
    rw [reservePages]
    cases here : bitmapTest p.bitmap start with
    | true =>
      have inside := bitmapTest_lt p.bitmap start here
      have rest := ih (start + 1) p newly (by omega)
      simp only [↓reduceIte]
      refine ⟨rest.startAddr, rest.totalSize, rest.totalPages, rest.reserved, rest.reservedPages,
        rest.allocHint, rest.size, ?_, rest.lower, ?_, rest.free, rest.free_lt, ?_⟩
      · intro i
        rw [rest.test i]
        constructor
        · rintro (old | window)
          · exact .inl old
          · exact .inr (by omega)
        · rintro (old | window)
          · exact .inl old
          · by_cases first : i = start
            · exact .inl (first ▸ here)
            · exact .inr (by omega)
      · have := rest.upper
        omega
      · have := rest.clear
        unfold overrun at this ⊢
        omega
    | false =>
      simp only [Bool.false_eq_true, ↓reduceIte]
      have wrapped : (newly + 1) % 2 ^ 64 = newly + 1 := by omega
      rw [wrapped]
      have rest := ih (start + 1)
        { p with bitmap := bitmapSet p.bitmap start,
                 freePages := (p.freePages + 2 ^ 64 - 1) % 2 ^ 64 } (newly + 1) (by omega)
      have lower := rest.lower
      have upper := rest.upper
      have free := rest.free
      have clear := rest.clear
      dsimp only at free clear
      rw [bitmapSet_size] at clear
      refine ⟨rest.startAddr, rest.totalSize, rest.totalPages, rest.reserved, rest.reservedPages,
        rest.allocHint, rest.size.trans (bitmapSet_size _ _), ?_, by omega, by omega, by omega,
        fun _ => rest.free_lt (Nat.mod_lt _ (by omega)), ?_⟩
      · intro i
        rw [rest.test i, bitmapSet_test, bitmapSet_size]
        simp only [Bool.or_eq_true, Bool.and_eq_true, decide_eq_true_eq]
        constructor
        · rintro ((old | ⟨rfl, inside⟩) | window)
          · exact .inl old
          · exact .inr (by omega)
          · exact .inr (by omega)
        · rintro (old | window)
          · exact .inl (.inl old)
          · by_cases first : i = start
            · exact .inl (.inr ⟨first, by omega⟩)
            · exact .inr (by omega)
      · by_cases inside : start < p.bitmap.size
        · have one := clearBits_of_set p.bitmap (bitmapSet p.bitmap start) start 1
            (bitmapSet_size _ _) (by omega)
            (fun i lower upper => by rw [show i = start by omega, here])
            (fun i => by
              rw [bitmapSet_test]
              simp only [inside, decide_true, Bool.and_true, Bool.or_eq_true,
                decide_eq_true_eq]
              exact or_congr_right (by omega))
          unfold overrun at clear ⊢
          omega
        · have same : clearBits (bitmapSet p.bitmap start) = clearBits p.bitmap := by
            rw [bitmapSet, if_neg inside]
          unfold overrun at clear ⊢
          omega

/-- What `pmm_reserve` has checked when it records a range. -/
structure Reservable (p : Pmm) (startAddr endAddr : Nat) : Prop where
  nonempty : startAddr < endAddr
  lower : p.startAddr ≤ alignDown startAddr
  upper : alignUp endAddr ≤ p.endAddr
  room : p.reserved.length < pmmMaxReservedRanges

theorem pmmReserve_cases (p : Pmm) (startAddr endAddr : Nat) (tag : String) :
    (¬ Reservable p startAddr endAddr ∧ (pmmReserve p startAddr endAddr tag).1 = p) ∨
      (Reservable p startAddr endAddr ∧ ∃ q newly,
        Marked (p.record (alignDown startAddr) (alignUp endAddr) tag)
          (p.pageIndex (alignDown startAddr))
          (p.pageIndex (alignUp endAddr) - p.pageIndex (alignDown startAddr)) 0 q newly ∧
        (pmmReserve p startAddr endAddr tag).1 =
          { q with reservedPages := (q.reservedPages + newly) % 2 ^ 64 }) := by
  unfold pmmReserve
  split
  · rename_i empty
    exact .inl ⟨fun ok => absurd ok.nonempty (by omega), rfl⟩
  rename_i nonempty
  dsimp only
  split
  · rename_i range
    refine .inl ⟨fun ok => ?_, rfl⟩
    have lower := ok.lower
    have upper := ok.upper
    omega
  rename_i range
  split
  · rename_i full
    exact .inl ⟨fun ok => absurd ok.room (by omega), rfl⟩
  rename_i room
  have short := p.pageIndex_lt (alignUp endAddr)
  exact .inr ⟨⟨by omega, by omega, by omega, by omega⟩, _, _,
    reservePages_marked _ _ _ _ (by omega), rfl⟩

end Reserve

section ReserveWindow

variable {p : Pmm} {startAddr endAddr : Nat}

section

variable (ok : Reservable p startAddr endAddr)
include ok

theorem Reservable.below_end (geo : p.Geometry) (small : endAddr ≤ 2 ^ 64 - 4096) :
    ¬ p.Wraps ∧ p.pageIndex (alignUp endAddr) = (alignUp endAddr - p.startAddr) / 4096 := by
  have low := ok.lower
  have high := ok.upper
  have nonempty := ok.nonempty
  have downLe := alignDown_le startAddr
  have bounds := alignUp_of_le small
  refine ⟨fun wraps => ?_, geo.pageIndex_of_le (by omega) (alignUp_lt endAddr)⟩
  have below := geo.endAddr_lt wraps
  omega

section

variable (geo : p.Geometry) (word : endAddr < 2 ^ 64)

include geo word

theorem Reservable.startIndex :
    p.pageIndex (alignDown startAddr) = (alignDown startAddr - p.startAddr) / 4096 := by
  have nonempty := ok.nonempty
  have downLe := alignDown_le startAddr
  exact geo.pageIndex_of_le ok.lower (by omega)

theorem Reservable.window_of_inRange (inside : i < p.totalPages)
    (lower : alignDown startAddr ≤ p.pageAddr i) (upper : p.pageAddr i < alignUp endAddr) :
    p.pageIndex (alignDown startAddr) ≤ i ∧ i < p.pageIndex (alignUp endAddr) := by
  by_cases small : endAddr ≤ 2 ^ 64 - 4096
  · obtain ⟨whole, last⟩ := ok.below_end geo small
    rw [geo.pageAddr_eq whole inside] at lower upper
    rw [last, ok.startIndex geo word]
    have aligned := geo.aligned
    have upMod := alignUp_mod endAddr
    omega
  · rw [alignUp_of_gt (by omega) word] at upper
    omega

theorem Reservable.overrun_eq_zero_iff :
    overrun p.totalPages (p.pageIndex (alignDown startAddr))
        (p.pageIndex (alignUp endAddr) - p.pageIndex (alignDown startAddr)) = 0 ↔
      ¬ (2 ^ 64 - 4096 < endAddr ∧ p.startAddr ≠ 0 ∧ ¬ p.Wraps) := by
  have pages := geo.pages
  have aligned := geo.aligned
  rw [ok.startIndex geo word]
  by_cases small : endAddr ≤ 2 ^ 64 - 4096
  · obtain ⟨whole, last⟩ := ok.below_end geo small
    have high := ok.upper
    rw [Pmm.endAddr_of_whole whole] at high
    have fits : (alignUp endAddr - p.startAddr) / 4096 ≤ p.totalPages := by omega
    rw [last]
    unfold overrun
    omega
  · have down := alignDown_mod startAddr
    have downLe := alignDown_le startAddr
    have nonempty := ok.nonempty
    rw [alignUp_of_gt (by omega) word]
    by_cases zero : p.startAddr = 0
    · have none : p.pageIndex 0 = 0 := by simp [Pmm.pageIndex, zero]
      rw [none]
      unfold overrun
      omega
    · rw [geo.pageIndex_zero zero]
      unfold overrun Pmm.Wraps
      omega

theorem Reservable.inRange_of_window
    (fits : ¬ (2 ^ 64 - 4096 < endAddr ∧ p.startAddr ≠ 0 ∧ ¬ p.Wraps)) (inside : i < p.totalPages)
    (lower : p.pageIndex (alignDown startAddr) ≤ i) (upper : i < p.pageIndex (alignUp endAddr)) :
    p.Wraps ∨ alignDown startAddr ≤ p.pageAddr i ∧ p.pageAddr i < alignUp endAddr := by
  by_cases wraps : p.Wraps
  · exact .inl wraps
  right
  by_cases small : endAddr ≤ 2 ^ 64 - 4096
  · obtain ⟨whole, last⟩ := ok.below_end geo small
    rw [last] at upper
    rw [ok.startIndex geo word] at lower
    rw [geo.pageAddr_eq whole inside]
    have aligned := geo.aligned
    have down := alignDown_mod startAddr
    have low := ok.lower
    omega
  · have zero : p.startAddr = 0 := by
      by_contra nonzero
      exact fits ⟨by omega, nonzero, wraps⟩
    rw [alignUp_of_gt (by omega) word] at upper
    simp [Pmm.pageIndex, zero] at upper

end

end

end ReserveWindow

/-- What holds of every manager that `pmm_init` has set up, whatever is called afterwards: the
pages of every recorded range stay set. -/
structure Pmm.Sound (p : Pmm) : Prop where
  geo : p.Geometry
  reserved : ∀ r ∈ p.reserved, ∀ i, i < p.totalPages → p.inRange r i → bitmapTest p.bitmap i = true

section Sound

variable {p : Pmm}

theorem pmmInit_sound (aligned : startAddr % 4096 = 0) (start_lt : startAddr < 2 ^ 64)
    (size_lt : size < 2 ^ 64) (started : pmmInit startAddr size bitmapSize = some p) : p.Sound := by
  have geo := pmmInit_geometry aligned start_lt size_lt started
  have shape := pmmInit_eq_some started
  subst shape
  exact ⟨geo, by simp⟩

theorem Pmm.Sound.take (sound : p.Sound) (window : ClearWindow p.bitmap count index) :
    (p.take index count).Sound := by
  obtain ⟨⟨aligned, startLt, sizeLt, pages, bits⟩, reserved⟩ := sound
  refine ⟨⟨aligned, startLt, sizeLt, pages, ?_⟩, ?_⟩
  · exact (bitmapSetRange_size p.bitmap index count).trans bits
  · intro r member i inside range
    exact (Pmm.take_test window i).mpr (.inl (reserved r member i inside range))

theorem Pmm.Sound.release (sound : p.Sound) (ok : Releasable p paddr index count) :
    (p.release index count).Sound := by
  obtain ⟨⟨aligned, startLt, sizeLt, pages, bits⟩, reserved⟩ := sound
  refine ⟨⟨aligned, startLt, sizeLt, pages, ?_⟩, ?_⟩
  · exact (bitmapClearLoop_size p.bitmap index count).trans bits
  · intro r member i inside range
    refine (p.release_test index count i).mpr ⟨reserved r member i inside range, fun window => ?_⟩
    exact ok.unreserved r member i window.1 window.2 range

theorem Pmm.Sound.mark {newly startAddr endAddr : Nat} (sound : p.Sound)
    (ok : Reservable p startAddr endAddr) (word : endAddr < 2 ^ 64)
    (marked : Marked (p.record (alignDown startAddr) (alignUp endAddr) tag)
      (p.pageIndex (alignDown startAddr))
      (p.pageIndex (alignUp endAddr) - p.pageIndex (alignDown startAddr)) 0 q newly) :
    Pmm.Sound { q with reservedPages := (q.reservedPages + newly) % 2 ^ 64 } := by
  have starts : q.startAddr = p.startAddr := marked.startAddr
  have sizes : q.totalSize = p.totalSize := marked.totalSize
  have pages : q.totalPages = p.totalPages := marked.totalPages
  have table : q.reserved = p.reserved ++ [⟨alignDown startAddr, alignUp endAddr, tag⟩] :=
    marked.reserved
  have bits : q.bitmap.size = p.bitmap.size := marked.size
  have geo := sound.geo
  refine ⟨⟨?_, ?_, ?_, ?_, ?_⟩, ?_⟩
  · exact starts ▸ geo.aligned
  · exact starts ▸ geo.start_lt
  · exact sizes ▸ geo.size_lt
  · exact pages.trans (geo.pages.trans (by rw [← sizes]))
  · exact bits.trans (geo.bits.trans pages.symm)
  · intro r member i inside range
    change r ∈ q.reserved at member
    change i < q.totalPages at inside
    change r.start ≤ q.pageAddr i ∧ q.pageAddr i < r.stop at range
    rw [show q.pageAddr i = p.pageAddr i by simp only [Pmm.pageAddr, starts]] at range
    rw [pages] at inside
    rw [table, List.mem_append, List.mem_singleton] at member
    rcases member with old | rfl
    · exact (marked.test i).mpr (.inl (sound.reserved r old i inside range))
    · have window := ok.window_of_inRange geo word inside range.1 range.2
      refine (marked.test i).mpr (.inr ⟨window.1, by omega, ?_⟩)
      change i < p.bitmap.size
      rw [geo.bits]
      exact inside

end Sound

end AvatarKernel
