import AvatarKernel.Mm.PageTable

namespace AvatarKernel

/-- `USER_STACK_TOP - USER_STACK_SIZE`. -/
def userStackBottom : Nat := 0x6ff00000

/-- The search of `sys_mmap` for `size / PAGE_SIZE` free pages in a row. The page `va` under the
loop's bound is the last one of the candidate run. The scan goes through all pages of the 64-bit
range at most once. -/
def gapSearch (a : Arch) (mem : PhysMem) (pgd size : Nat) : (fuel va run cand : Nat) → Option Nat
  | 0, _, _, _ => none
  | fuel + 1, va, run, cand =>
    if (va + size) % 2 ^ 64 ≤ userStackBottom then
      if getPaddr a mem pgd va = 0 then
        let cand := if run = 0 then va else cand
        if run + 1 ≥ size / 4096 then some cand
        else gapSearch a mem pgd size fuel ((va + 4096) % 2 ^ 64) (run + 1) cand
      else gapSearch a mem pgd size fuel ((va + 4096) % 2 ^ 64) 0 cand
    else none

/-- Unmapped pages for a mapping of `size` bytes, inside `[lo, USER_STACK_TOP -
USER_STACK_SIZE)`. -/
structure FreeRun (a : Arch) (mem : PhysMem) (pgd lo size base : Nat) : Prop where
  aligned : base % 4096 = 0
  low : lo ≤ base
  high : base + size ≤ userStackBottom
  free : ∀ j, j < size / 4096 → leafOf a mem pgd (a.key (base + j * 4096)) = none

/-- What a complete search answers: the lowest run, and nothing only where there is none. -/
def FindsLowest (a : Arch) (mem : PhysMem) (pgd lo size : Nat) : Option Nat → Prop
  | none => ∀ base, ¬ FreeRun a mem pgd lo size base
  | some base => FreeRun a mem pgd lo size base ∧
      ∀ other, FreeRun a mem pgd lo size other → base ≤ other

/-- Page `i` of the scan, which goes on at 0 after the last page of the 64-bit range. -/
def scanPage (lo i : Nat) : Nat := (lo + i * 4096) % 2 ^ 64

/-- A request that rounds to no page at all is answered with one. -/
def wantedPages (size : Nat) : Nat := max 1 (size / 4096)

/-- The run that starts at page `k` of the scan is one that the loop goes through to its last page,
and `mm_vm_get_paddr` answers 0 for all of it. -/
structure Seen (a : Arch) (mem : PhysMem) (pgd lo size k : Nat) : Prop where
  looked : ∀ i, i < k + wantedPages size → (scanPage lo i + size) % 2 ^ 64 ≤ userStackBottom
  empty : ∀ j, j < wantedPages size → getPaddr a mem pgd (scanPage lo (k + j)) = 0

/-- What the search answers: the first run of the scan that it sees. -/
def FindsSeen (a : Arch) (mem : PhysMem) (pgd lo size : Nat) : Option Nat → Prop
  | none => ∀ k, ¬ Seen a mem pgd lo size k
  | some base => ∃ k, Seen a mem pgd lo size k ∧ (∀ k', k' < k → ¬ Seen a mem pgd lo size k') ∧
      base = scanPage lo k

section Search

variable {a : Arch} {mem : PhysMem} {pgd lo size : Nat}

/-- Where the loop stands at page `start + run`: the last `run` pages are empty, and no run that
starts before them is one the search sees. -/
structure Scanned (a : Arch) (mem : PhysMem) (pgd lo size start run : Nat) : Prop where
  looked : ∀ i, i < start + run → (scanPage lo i + size) % 2 ^ 64 ≤ userStackBottom
  short : run < wantedPages size
  empty : ∀ j, j < run → getPaddr a mem pgd (scanPage lo (start + j)) = 0
  passed : ∀ k, k < start → ¬ Seen a mem pgd lo size k

theorem scanPage_succ (lo i : Nat) : (scanPage lo i + 4096) % 2 ^ 64 = scanPage lo (i + 1) := by
  unfold scanPage
  omega

theorem Scanned.exhausted {start run : Nat} (scanned : Scanned a mem pgd lo size start run)
    (beyond : ¬ (scanPage lo (start + run) + size) % 2 ^ 64 ≤ userStackBottom) :
    FindsSeen a mem pgd lo size none := by
  intro k seen
  have short := scanned.short
  by_cases before : k < start
  · exact scanned.passed k before seen
  · exact beyond (seen.looked _ (by omega))

/-- One more empty page. -/
theorem Scanned.extend {start run : Nat} (scanned : Scanned a mem pgd lo size start run)
    (below : (scanPage lo (start + run) + size) % 2 ^ 64 ≤ userStackBottom)
    (empty : getPaddr a mem pgd (scanPage lo (start + run)) = 0) :
    (∀ i, i < start + (run + 1) → (scanPage lo i + size) % 2 ^ 64 ≤ userStackBottom) ∧
      ∀ j, j < run + 1 → getPaddr a mem pgd (scanPage lo (start + j)) = 0 := by
  constructor
  · intro i inside
    by_cases last : i = start + run
    · exact last ▸ below
    · exact scanned.looked i (by omega)
  · intro j inside
    by_cases last : j = run
    · exact last ▸ empty
    · exact scanned.empty j (by omega)

/-- A mapped page ends every run that contains it. -/
theorem Scanned.restart {start run : Nat} (scanned : Scanned a mem pgd lo size start run)
    (below : (scanPage lo (start + run) + size) % 2 ^ 64 ≤ userStackBottom)
    (mapped : ¬ getPaddr a mem pgd (scanPage lo (start + run)) = 0) :
    Scanned a mem pgd lo size (start + run + 1) 0 := by
  refine ⟨fun i inside => ?_, by unfold wantedPages; omega,
    fun j none => absurd none (Nat.not_lt_zero j), fun k before seen => ?_⟩
  · by_cases last : i = start + run
    · exact last ▸ below
    · exact scanned.looked i (by omega)
  · have short := scanned.short
    by_cases early : k < start
    · exact scanned.passed k early seen
    · have inside := seen.empty (start + run - k) (by omega)
      rw [show k + (start + run - k) = start + run by omega] at inside
      exact mapped inside

theorem gapSearch_findsSeen : ∀ (fuel start run cand : Nat), Scanned a mem pgd lo size start run →
    (run ≠ 0 → cand = scanPage lo start) →
    (∃ i, i < start + run + fuel ∧ ¬ (scanPage lo i + size) % 2 ^ 64 ≤ userStackBottom) →
    FindsSeen a mem pgd lo size
      (gapSearch a mem pgd size fuel (scanPage lo (start + run)) run cand) := by
  intro fuel
  induction fuel with
  | zero =>
    rintro start run cand scanned _ ⟨i, inside, beyond⟩
    exact absurd (scanned.looked i inside) beyond
  | succ fuel ih =>
    intro start run cand scanned mine ends
    rw [gapSearch, scanPage_succ]
    split
    case isFalse beyond => exact scanned.exhausted beyond
    case isTrue below =>
      split
      case isFalse mapped =>
        refine ih (start + run + 1) 0 cand (scanned.restart below mapped) (absurd rfl) ?_
        obtain ⟨i, inside, beyond⟩ := ends
        exact ⟨i, by omega, beyond⟩
      case isTrue empty =>
        obtain ⟨looked, free⟩ := scanned.extend below empty
        have first : (if run = 0 then scanPage lo (start + run) else cand) = scanPage lo start := by
          split
          next zero => rw [zero, Nat.add_zero]
          next more => exact mine more
        have short := scanned.short
        rw [first]
        dsimp only
        split
        case isTrue done =>
          have full : wantedPages size = run + 1 := by
            unfold wantedPages at short ⊢
            omega
          exact ⟨start, ⟨full ▸ looked, full ▸ free⟩, scanned.passed, rfl⟩
        case isFalse more =>
          refine ih start (run + 1) _ ⟨looked, ?_, free, scanned.passed⟩ (fun _ => rfl) ?_
          · unfold wantedPages
            omega
          · obtain ⟨i, inside, beyond⟩ := ends
            exact ⟨i, by omega, beyond⟩

/-- The scan comes to a page so high that the loop ends, within one round of the 64-bit range. -/
theorem scan_ends (even : lo % 4096 = 0) (whole : size % 4096 = 0) :
    ∃ i, i < 2 ^ 52 ∧ ¬ (scanPage lo i + size) % 2 ^ 64 ≤ userStackBottom := by
  refine ⟨(2 ^ 64 - 4096 - (lo + size) % 2 ^ 64) / 4096, by omega, ?_⟩
  unfold scanPage userStackBottom
  omega

theorem gapSearch_sees (even : lo % 4096 = 0) (whole : size % 4096 = 0) (word : lo < 2 ^ 64) :
    FindsSeen a mem pgd lo size (gapSearch a mem pgd size (2 ^ 52) lo 0 0) := by
  have start : Scanned a mem pgd lo size 0 0 :=
    ⟨fun i none => absurd none (Nat.not_lt_zero i), by unfold wantedPages; omega,
      fun j none => absurd none (Nat.not_lt_zero j), fun k none => absurd none (Nat.not_lt_zero k)⟩
  have answer := gapSearch_findsSeen (2 ^ 52) 0 0 0 start (absurd rfl)
    (by simpa only [Nat.zero_add] using scan_ends even whole)
  rwa [Nat.zero_add, scanPage, Nat.zero_mul, Nat.add_zero, Nat.mod_eq_of_lt word] at answer

/-- Pages for which `mm_vm_get_paddr` answers 0, as it also does for a page that is mapped to frame
0. -/
structure EmptyRun (a : Arch) (mem : PhysMem) (pgd lo size base : Nat) : Prop where
  aligned : base % 4096 = 0
  low : lo ≤ base
  empty : ∀ j, j < size / 4096 → getPaddr a mem pgd (base + j * 4096) = 0

theorem FreeRun.emptyRun {base : Nat} (run : FreeRun a mem pgd lo size base) :
    EmptyRun a mem pgd lo size base := by
  refine ⟨run.aligned, run.low, fun j inside => ?_⟩
  have aligned := run.aligned
  rw [getPaddr_of_aligned a mem pgd (by omega), run.free j inside]
  rfl

/-- Below every free run there is an empty one that starts low enough for the loop's bound on its
last page, and the lowest such run has no page that is mapped to frame 0. -/
structure LowestInSight (a : Arch) (mem : PhysMem) (pgd lo size : Nat) : Prop where
  sight : ∀ base, FreeRun a mem pgd lo size base →
    ∃ first, first ≤ base ∧ EmptyRun a mem pgd lo size first ∧
      first + 2 * size ≤ userStackBottom + 4096
  free : ∀ first, EmptyRun a mem pgd lo size first → first + 2 * size ≤ userStackBottom + 4096 →
    (∀ other, EmptyRun a mem pgd lo size other → first ≤ other) → FreeRun a mem pgd lo size first

/-- When the search is complete. The last case is a heap end so high that the sum with the size
wraps: there is no run then, and none must be seen beyond the wrap. -/
def SearchComplete (a : Arch) (mem : PhysMem) (pgd lo size : Nat) : Prop :=
  if size = 0 then lo ≤ userStackBottom → getPaddr a mem pgd lo = 0
  else if lo + size < 2 ^ 64 then LowestInSight a mem pgd lo size
  else ∀ k, ¬ Seen a mem pgd lo size k

theorem scanPage_add {i : Nat} (small : lo + i * 4096 + size < 2 ^ 64) :
    (scanPage lo i + size) % 2 ^ 64 = lo + i * 4096 + size := by
  have inside : lo + i * 4096 < 2 ^ 64 := Nat.lt_of_le_of_lt (Nat.le_add_right _ size) small
  rw [scanPage, Nat.mod_eq_of_lt inside, Nat.mod_eq_of_lt small]

theorem below_word {x : Nat} (below : x + size ≤ userStackBottom) : x < 2 ^ 64 :=
  Nat.lt_of_le_of_lt (Nat.le_trans (Nat.le_add_right x size) below) (by decide)

/-- As long as the loop goes on, the page it looks at lies below the stack. -/
theorem looked_low (room : lo + size < 2 ^ 64) {n : Nat}
    (looked : ∀ i, i < n → (scanPage lo i + size) % 2 ^ 64 ≤ userStackBottom) :
    ∀ i, i < n → lo + i * 4096 + size ≤ userStackBottom := by
  intro i
  induction i with
  | zero =>
    intro inside
    have here := looked 0 inside
    rwa [scanPage_add (by omega)] at here
  | succ i ih =>
    intro inside
    have before : lo + i * 4096 + size ≤ 0x6ff00000 := ih (by omega)
    have here := looked (i + 1) inside
    rwa [scanPage_add (by omega)] at here

/-- Without a wrap the pages that the loop looks at are those from `lo` up to its bound. -/
theorem seen_iff (even : lo % 4096 = 0) (whole : size % 4096 = 0) (positive : size ≠ 0)
    (room : lo + size < 2 ^ 64) (k : Nat) : Seen a mem pgd lo size k ↔
      EmptyRun a mem pgd lo size (lo + k * 4096) ∧
        lo + k * 4096 + 2 * size ≤ userStackBottom + 4096 := by
  obtain ⟨n, rfl⟩ : ∃ n, size = n * 4096 := ⟨size / 4096, by omega⟩
  have count : n * 4096 / 4096 = n := Nat.mul_div_cancel n (by decide)
  have pages : wantedPages (n * 4096) = n := by
    rw [wantedPages, count]
    omega
  constructor
  · rintro ⟨looked, empty⟩
    rw [pages] at looked empty
    have low := looked_low room looked
    have last := low (k + n - 1) (by omega)
    refine ⟨⟨by omega, Nat.le_add_right lo _, fun j inside => ?_⟩, ?_⟩
    · rw [count] at inside
      have small := low (k + j) (by omega)
      have page := empty j inside
      rwa [scanPage, Nat.mod_eq_of_lt (below_word small), Nat.add_mul, ← Nat.add_assoc] at page
    · have ends : lo + (k + n - 1) * 4096 + n * 4096 + 4096 = lo + k * 4096 + 2 * (n * 4096) := by
        omega
      exact ends ▸ Nat.add_le_add_right last 4096
  · rintro ⟨run, low⟩
    have inside (i : Nat) (looked : i < k + n) : lo + i * 4096 + n * 4096 ≤ userStackBottom := by
      have before : lo + i * 4096 + n * 4096 + 4096 ≤ lo + k * 4096 + 2 * (n * 4096) := by omega
      exact Nat.le_of_add_le_add_right (Nat.le_trans before low)
    refine ⟨fun i looked => ?_, fun j wanted => ?_⟩
    · rw [pages] at looked
      rw [scanPage_add (Nat.lt_of_le_of_lt (inside i looked) (by decide))]
      exact inside i looked
    · rw [pages] at wanted
      have small := inside (k + j) (Nat.add_lt_add_left wanted k)
      rw [scanPage, Nat.mod_eq_of_lt (below_word small), Nat.add_mul, ← Nat.add_assoc]
      exact run.empty j (count.symm ▸ wanted)

theorem EmptyRun.index {base : Nat} (even : lo % 4096 = 0) (run : EmptyRun a mem pgd lo size base) :
    lo + (base - lo) / 4096 * 4096 = base := by
  have aligned := run.aligned
  have low := run.low
  omega

/-- The first run that the search sees is the lowest of all empty runs. -/
theorem first_seen_lowest (even : lo % 4096 = 0) (whole : size % 4096 = 0) (positive : size ≠ 0)
    (room : lo + size < 2 ^ 64) {k : Nat} (seen : Seen a mem pgd lo size k)
    (first : ∀ k', k' < k → ¬ Seen a mem pgd lo size k') {other : Nat}
    (run : EmptyRun a mem pgd lo size other) : lo + k * 4096 ≤ other := by
  by_contra above
  have inside := ((seen_iff even whole positive room k).mp seen).2
  have index := run.index even
  refine first ((other - lo) / 4096) (by omega) ((seen_iff even whole positive room _).mpr ?_)
  rw [index]
  exact ⟨run, by omega⟩

theorem findsLowest_of_room (even : lo % 4096 = 0) (whole : size % 4096 = 0) (positive : size ≠ 0)
    (room : lo + size < 2 ^ 64) {answer : Option Nat} (sees : FindsSeen a mem pgd lo size answer) :
    FindsLowest a mem pgd lo size answer ↔ LowestInSight a mem pgd lo size := by
  have bottom : userStackBottom = 0x6ff00000 := rfl
  have seen (k : Nat) : Seen a mem pgd lo size k ↔ _ := seen_iff even whole positive room k
  cases answer with
  | none =>
    have unseen : ∀ first, EmptyRun a mem pgd lo size first →
        ¬ first + 2 * size ≤ userStackBottom + 4096 := by
      intro first run low
      refine sees ((first - lo) / 4096) ((seen _).mpr ?_)
      rw [run.index even]
      exact ⟨run, low⟩
    constructor
    · exact fun complete => ⟨fun base found => absurd found (complete base),
        fun first run low _ => absurd low (unseen first run)⟩
    · intro inSight base found
      obtain ⟨first, _, run, low⟩ := inSight.sight base found
      exact unseen first run low
  | some base =>
    obtain ⟨k, here, first, rfl⟩ := sees
    obtain ⟨run, low⟩ := (seen k).mp here
    have lowest : ∀ other, EmptyRun a mem pgd lo size other → lo + k * 4096 ≤ other :=
      fun other found => first_seen_lowest even whole positive room here first found
    rw [scanPage, Nat.mod_eq_of_lt (by omega)]
    constructor
    · rintro ⟨found, _⟩
      refine ⟨fun base other => ⟨_, lowest base other.emptyRun, run, low⟩, ?_⟩
      intro other emptyRun _ least
      rw [Nat.le_antisymm (least _ run) (lowest _ emptyRun)]
      exact found
    · intro inSight
      exact ⟨inSight.free _ run low lowest, fun other found => lowest other found.emptyRun⟩

theorem findsLowest_of_size_zero (word : lo < 2 ^ 64) (even : lo % 4096 = 0) {answer : Option Nat}
    (sees : FindsSeen a mem pgd lo 0 answer) :
    FindsLowest a mem pgd lo 0 answer ↔ (lo ≤ userStackBottom → getPaddr a mem pgd lo = 0) := by
  have here : scanPage lo 0 = lo := by
    unfold scanPage
    omega
  have start (below : lo ≤ userStackBottom) : FreeRun a mem pgd lo 0 lo :=
    ⟨even, Nat.le_refl lo, below, fun j none => absurd none (by omega)⟩
  have seen (below : lo ≤ userStackBottom) (empty : getPaddr a mem pgd lo = 0) :
      Seen a mem pgd lo 0 0 := by
    refine ⟨fun i inside => ?_, fun j inside => ?_⟩
    · obtain rfl : i = 0 := by unfold wantedPages at inside; omega
      rw [here]
      omega
    · obtain rfl : j = 0 := by unfold wantedPages at inside; omega
      rw [Nat.add_zero, here]
      exact empty
  cases answer with
  | none =>
    constructor
    · exact fun complete below => absurd (start below) (complete lo)
    · intro empty base found
      have below := Nat.le_trans found.low found.high
      exact sees 0 (seen below (empty below))
  | some base =>
    obtain ⟨k, there, first, rfl⟩ := sees
    constructor
    · rintro ⟨found, lowest⟩ below
      have same := Nat.le_antisymm (lowest lo (start below)) found.low
      have empty := there.empty 0 (by unfold wantedPages; omega)
      rwa [Nat.add_zero, same] at empty
    · intro empty
      have below : lo ≤ userStackBottom := by
        have bound := there.looked 0 (by unfold wantedPages; omega)
        rw [here] at bound
        omega
      have zero : k = 0 := by
        by_contra later
        exact first 0 (Nat.pos_of_ne_zero later) (seen below (empty below))
      rw [zero, here]
      exact ⟨start below, fun other found => found.low⟩

theorem findsLowest_of_wrap (wraps : 2 ^ 64 ≤ lo + size) {answer : Option Nat}
    (sees : FindsSeen a mem pgd lo size answer) :
    FindsLowest a mem pgd lo size answer ↔ ∀ k, ¬ Seen a mem pgd lo size k := by
  have none : ∀ base, ¬ FreeRun a mem pgd lo size base := by
    intro base run
    have low := run.low
    have high := run.high
    unfold userStackBottom at high
    omega
  cases answer with
  | none => exact ⟨fun _ => sees, fun _ => none⟩
  | some base =>
    obtain ⟨k, seen, _, _⟩ := sees
    exact ⟨fun found => absurd found.1 (none base), fun unseen => absurd seen (unseen k)⟩

end Search

/-- The search of `sys_mmap` is complete exactly when, in the usual case, the lowest run, if there
is one, ends so far below the stack that the bound on its last page does not hide it, and no page
that is mapped to frame 0 passes for a free one. -/
theorem gapSearch_complete_iff (a : Arch) (mem : PhysMem) (pgd heapEnd len : Nat) :
    FindsLowest a mem pgd (alignUp heapEnd) (alignUp len)
        (gapSearch a mem pgd (alignUp len) (2 ^ 52) (alignUp heapEnd) 0 0) ↔
      SearchComplete a mem pgd (alignUp heapEnd) (alignUp len) := by
  have even := alignUp_mod heapEnd
  have whole := alignUp_mod len
  have word := alignUp_lt heapEnd
  have sees : FindsSeen a mem pgd (alignUp heapEnd) (alignUp len) _ :=
    gapSearch_sees even whole word
  unfold SearchComplete
  split
  next zero =>
    rw [zero] at sees ⊢
    exact findsLowest_of_size_zero word even sees
  next positive =>
    split
    next room => exact findsLowest_of_room even whole positive room sees
    next wraps => exact findsLowest_of_wrap (Nat.not_lt.mp wraps) sees

def blankTable : PhysMem := fun _ _ => 0#64

theorem leafOf_blankTable (a : Arch) (pgd key : Nat) : leafOf a blankTable pgd key = none := by
  cases a <;> simp [leafOf, findPte, Arch.upperLevels, blankTable, pteValid]

/-- A single free page below the stack is found. -/
theorem lastPage_found :
    FindsLowest .riscv64 blankTable 0x40000000 (alignUp 0x6fefefff) (alignUp 0x1000)
      (gapSearch .riscv64 blankTable 0x40000000 (alignUp 0x1000) (2 ^ 52)
        (alignUp 0x6fefefff) 0 0) := by
  refine (gapSearch_complete_iff .riscv64 blankTable 0x40000000 0x6fefefff 0x1000).mpr ?_
  refine ⟨fun base run => ⟨base, Nat.le_refl base, run.emptyRun, ?_⟩, fun first run low _ => ?_⟩
  · exact Nat.add_le_add_right run.high 4096
  · have high : first + 0x1000 + 0x1000 ≤ userStackBottom + 0x1000 := low
    exact ⟨run.aligned, run.low, Nat.le_of_add_le_add_right high, fun _ _ =>
      leafOf_blankTable _ _ _⟩

/-- Two unmapped pages between the heap and the stack are not found. -/
theorem lastPages_missed :
    FreeRun .riscv64 blankTable 0x40000000 (alignUp 0x6fefe000) (alignUp 0x2000) 0x6fefe000 ∧
      gapSearch .riscv64 blankTable 0x40000000 (alignUp 0x2000) (2 ^ 52) (alignUp 0x6fefe000) 0 0 =
        none :=
  ⟨⟨rfl, by decide, by decide, fun _ _ => leafOf_blankTable _ _ _⟩, by decide +kernel⟩

end AvatarKernel
