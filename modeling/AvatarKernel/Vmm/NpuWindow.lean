import AvatarKernel.Lib.Transition
import AvatarKernel.Types

namespace AvatarKernel

open Transition

/-! The guest pages of the VM that owns the NPU: the leaves of its stage-2 table (`stage2.c`) with
the window that is mapped to itself, and the entries of the NPU's IOMMU (`npu_mmu.c`) that
`npu_mmu_impl_sync` copies from them. Pages go by their number. -/

/-- The RAM range and the window of `s2_ctx_t`. The window is made of whole 2 MiB blocks. -/
structure NpuCfg where
  ramBase : Nat
  ramEnd : Nat
  npuDmaBase : Nat
  npuDmaEnd : Nat
  ramFits : ramEnd ≤ 0x10000000000
  baseAligned : npuDmaBase % 0x200000 = 0
  endAligned : npuDmaEnd % 0x200000 = 0

/-- The ranges of `guest_loader.h`. -/
def NpuCfg.guestLinux : NpuCfg :=
  ⟨0x70000000, 0x7C000000, 0x79000000, 0x7C000000, by decide, by decide, by decide⟩

structure NpuFrame where
  pa : Nat
  positive : 0 < pa
  aligned : pa % 4096 = 0
  fits : pa < 0x10000000000

/-- `leaf` is the address in a valid leaf, `range` the bounds `g_mmu_ipa_base` and `g_mmu_ipa_end`,
and `pte` the entry of the NPU's tables, 0 where there is none. -/
structure NpuSpace where
  leaf : Nat → Option Nat
  range : Nat × Nat
  pte : Nat → Nat

namespace NpuCfg

variable (cfg : NpuCfg)

def ipaIsRam (ipa : Nat) : Bool := cfg.ramBase ≤ ipa && ipa < cfg.ramEnd

def ipaIsNpuDma (ipa : Nat) : Bool :=
  cfg.npuDmaBase < cfg.npuDmaEnd && (cfg.npuDmaBase ≤ ipa && ipa < cfg.npuDmaEnd)

theorem ipaIsNpuDma_block (inside : index < 512)
    (window : cfg.ipaIsNpuDma ((page / 512 * 512 + index) * 4096) = true) :
    cfg.ipaIsNpuDma (page * 4096) = true := by
  obtain ⟨_, _, low, high, _, lowAligned, highAligned⟩ := cfg
  simp only [ipaIsNpuDma, Bool.and_eq_true, decide_eq_true_eq] at window ⊢
  obtain ⟨proper, above, below⟩ := window
  omega

/-- `l3_ensure`; `table` says that the block has its table or the allocator had a page for it. -/
def l3Ensure (page : Nat) (table : Bool) : Bool := cfg.ipaIsRam (page * 4096) && table

end NpuCfg

/-- `npu_mmu_mk_pte` for a writable page. -/
def mkPte (pa : Nat) : Nat :=
  pa / 4096 % 0x100000 * 4096 + pa / 0x100000000 % 16 * 256 + pa / 0x1000000000 % 16 * 16 + 7

def ptePa (pte : Nat) : Nat :=
  pte / 4096 * 4096 + pte / 256 % 16 * 0x100000000 + pte / 16 % 16 * 0x1000000000

theorem ptePa_mkPte (aligned : pa % 4096 = 0) (fits : pa < 0x10000000000) :
    ptePa (mkPte pa) = pa := by
  -- the three digits of the entry, and the address they are digits of
  have entry (low middle high : Nat) (small : middle < 16 ∧ high < 16) :
      ptePa (low * 4096 + middle * 256 + high * 16 + 7) =
        low * 4096 + middle * 0x100000000 + high * 0x1000000000 := by
    have first : (low * 4096 + middle * 256 + high * 16 + 7) / 4096 = low := by omega
    have second : (low * 4096 + middle * 256 + high * 16 + 7) / 256 % 16 = middle := by omega
    have third : (low * 4096 + middle * 256 + high * 16 + 7) / 16 % 16 = high := by omega
    rw [ptePa, first, second, third]
  have top : pa / 0x1000000000 = pa / 0x100000000 / 16 := by rw [Nat.div_div_eq_div_mul]
  have middle : pa / 0x100000000 = pa / 4096 / 0x100000 := by rw [Nat.div_div_eq_div_mul]
  rw [mkPte, entry _ _ _ ⟨Nat.mod_lt _ (by decide), Nat.mod_lt _ (by decide)⟩]
  omega

namespace NpuSpace

variable (cfg : NpuCfg) (s : NpuSpace)

def setLeaf (page pa : Nat) : NpuSpace :=
  { s with leaf := fun other => if other = page then some pa else s.leaf other }

/-- `stage2_map_page`. -/
def mapPage (page : Nat) (table : Bool) (frame : Option NpuFrame) : NpuSpace :=
  if cfg.l3Ensure page table then
    match s.leaf page, frame with
    | none, some fresh => s.setLeaf page fresh.pa
    | _, _ => s
  else s

/-- The loop of `stage2_map_block` from the page `first` on: it ends where the allocator has
none. -/
def blockLoop (frames : Nat → Option NpuFrame) : Nat → Nat → NpuSpace → NpuSpace
  | _, 0, s => s
  | first, left + 1, s =>
    match s.leaf first, frames first with
    | some _, _ => blockLoop frames (first + 1) left s
    | none, some fresh => blockLoop frames (first + 1) left (s.setLeaf first fresh.pa)
    | none, none => s

def identityLoop : Nat → Nat → NpuSpace → NpuSpace
  | _, 0, s => s
  | first, left + 1, s =>
    match s.leaf first with
    | some _ => identityLoop (first + 1) left s
    | none => identityLoop (first + 1) left (s.setLeaf first (first * 4096))

def mapBlock (page : Nat) (table : Bool) (frames : Nat → Option NpuFrame) : NpuSpace :=
  if cfg.l3Ensure (page / 512 * 512) table then blockLoop frames (page / 512 * 512) 512 s else s

def mapIdentityBlock (page : Nat) (table : Bool) : NpuSpace :=
  if cfg.l3Ensure (page / 512 * 512) table then identityLoop (page / 512 * 512) 512 s else s

/-- The part of `handle_dabt` that maps pages: the window comes before RAM. -/
def handleDabt (page : Nat) (table : Bool) (frames : Nat → Option NpuFrame) : NpuSpace :=
  if cfg.ipaIsNpuDma (page * 4096) then s.mapIdentityBlock cfg page table
  else if cfg.ipaIsRam (page * 4096) then s.mapBlock cfg page table frames
  else s

/-- `handle_iabt`, which does not ask for the window. -/
def handleIabt (page : Nat) (table : Bool) (frame : Option NpuFrame) : NpuSpace :=
  if cfg.ipaIsRam (page * 4096) then s.mapPage cfg page table frame else s

def gpaPtr (page : Nat) (alloc table : Bool) (frame : Option NpuFrame) : NpuSpace :=
  if (s.leaf page).isNone && alloc then s.mapPage cfg page table frame else s

/-- `npu_mmu_impl_enable` and, with an empty range at 0, `npu_mmu_impl_disable`. -/
def setRange (ipaBase ipaSize : Nat) : NpuSpace :=
  { s with range := (ipaBase, ipaBase + ipaSize), pte := fun _ => 0 }

/-- What the allocator answers in one pass of `npu_mmu_impl_sync`: for a leaf's table, for the leaf
and for a table of the NPU. -/
structure SyncAnswers where
  table : Nat → Bool
  frame : Nat → Option NpuFrame
  pt : Nat → Bool

/-- `pt_for` and `pte_set` for a page whose leaf has been looked up. -/
def mirror (page pa : Nat) (pt : Bool) : NpuSpace :=
  if page / 1024 < 1024 ∧ pt = true ∧ s.pte page = 0 then
    { s with pte := fun other => if other = page then mkPte pa else s.pte other }
  else s

def syncPage (answers : SyncAnswers) (s : NpuSpace) (page : Nat) : NpuSpace :=
  let s :=
    if s.leaf page = none then s.mapPage cfg page (answers.table page) (answers.frame page) else s
  match s.leaf page with
  | none | some 0 => s
  | some pa => s.mirror page pa (answers.pt page)

def syncPages : List Nat :=
  List.range' (s.range.1 / 4096) ((s.range.2 - s.range.1 + 4095) / 4096)

def sync (answers : SyncAnswers) : NpuSpace := s.syncPages.foldl (syncPage cfg answers) s

end NpuSpace

inductive WindowAction where
  | dabt (page : Nat) (table : Bool) (frames : Nat → Option NpuFrame)
  | iabt (page : Nat) (table : Bool) (frame : Option NpuFrame)
  | load (page : Nat) (alloc table : Bool) (frame : Option NpuFrame)
  | enable (ipaBase ipaSize : Nat)
  | disable
  | submit (answers : NpuSpace.SyncAnswers)

namespace NpuSpace

variable {cfg : NpuCfg} {s : NpuSpace} {page pa : Nat}

def boot : NpuSpace := ⟨fun _ => none, (0, 0), fun _ => 0⟩

def next (cfg : NpuCfg) (s : NpuSpace) : WindowAction → NpuSpace
  | .dabt page table frames => s.handleDabt cfg page table frames
  | .iabt page table frame => s.handleIabt cfg page table frame
  | .load page alloc table frame => s.gpaPtr cfg page alloc table frame
  | .enable ipaBase ipaSize => s.setRange ipaBase ipaSize
  | .disable => s.setRange 0 0
  | .submit answers => s.sync cfg answers

/-- The window is mapped to itself, and the NPU reaches what the guest reaches, inside the range. -/
structure Windowed (cfg : NpuCfg) (s : NpuSpace) : Prop where
  identity : ∀ page pa, cfg.ipaIsNpuDma (page * 4096) = true → s.leaf page = some pa →
    pa = page * 4096
  mirrored : ∀ page, s.pte page ≠ 0 →
    (s.range.1 ≤ page * 4096 ∧ page * 4096 < s.range.2) ∧ s.leaf page = some (ptePa (s.pte page))

/-- A page of the window is left to the data fault: the paths that take a frame for it meet its
leaf. -/
def windowGuard (cfg : NpuCfg) (s : NpuSpace) : WindowAction → Prop
  | .dabt _ _ _ | .disable => True
  | .iabt page _ _ | .load page _ _ _ =>
    cfg.ipaIsNpuDma (page * 4096) = true → (s.leaf page).isSome = true
  | .enable ipaBase _ => ipaBase % 4096 = 0
  | .submit _ => ∀ page ∈ s.syncPages,
      cfg.ipaIsNpuDma (page * 4096) = true → (s.leaf page).isSome = true

structure Inv (cfg : NpuCfg) (s : NpuSpace) : Prop where
  windowed : s.Windowed cfg
  framed : ∀ page pa, s.leaf page = some pa → pa % 4096 = 0 ∧ pa < 0x10000000000
  baseAligned : s.range.1 % 4096 = 0

theorem Inv.setLeaf (inv : s.Inv cfg) (empty : s.leaf page = none)
    (framed : pa % 4096 = 0 ∧ pa < 0x10000000000)
    (same : cfg.ipaIsNpuDma (page * 4096) = true → pa = page * 4096) :
    (s.setLeaf page pa).Inv cfg := by
  have leaf_eq (other : Nat) (address : Nat)
    (valid : (s.setLeaf page pa).leaf other = some address) :
      other = page ∧ address = pa ∨ s.leaf other = some address := by
    by_cases isPage : other = page <;> simp_all [NpuSpace.setLeaf]
  refine ⟨⟨?_, ?_⟩, ?_, inv.baseAligned⟩
  · intro other address window valid
    rcases leaf_eq other address valid with ⟨rfl, rfl⟩ | valid
    · exact same window
    · exact inv.windowed.identity other address window valid
  · intro other present
    obtain ⟨inside, valid⟩ := inv.windowed.mirrored other present
    -- the mirrored page had a leaf, so it is not the one filled
    have apart : other ≠ page := by
      rintro rfl
      simp [empty] at valid
    exact ⟨inside, by simpa [NpuSpace.setLeaf, apart] using valid⟩
  · intro other address valid
    rcases leaf_eq other address valid with ⟨_, rfl⟩ | valid
    · exact framed
    · exact inv.framed other address valid

theorem Inv.mapPage (inv : s.Inv cfg) (table : Bool) (frame : Option NpuFrame)
    (window : cfg.ipaIsNpuDma (page * 4096) = true → (s.leaf page).isSome = true) :
    (s.mapPage cfg page table frame).Inv cfg := by
  simp only [NpuSpace.mapPage]
  split
  · split
    · rename_i fresh empty
      exact inv.setLeaf empty ⟨fresh.aligned, fresh.fits⟩ (by simp_all)
    · exact inv
  · exact inv

theorem Inv.blockLoop (inv : s.Inv cfg)
    (outside : ∀ index < left, cfg.ipaIsNpuDma ((first + index) * 4096) = false) :
    (NpuSpace.blockLoop frames first left s).Inv cfg := by
  induction left generalizing first s with
  | zero => exact inv
  | succ left ih =>
    have here := outside 0 (Nat.succ_pos left)
    have later (index : Nat) (bound : index < left) :
        cfg.ipaIsNpuDma ((first + 1 + index) * 4096) = false := by
      have := outside (index + 1) (Nat.succ_lt_succ bound)
      rwa [show first + (index + 1) = first + 1 + index by omega] at this
    simp only [NpuSpace.blockLoop]
    split
    · exact ih inv later
    · rename_i fresh empty _
      exact ih (inv.setLeaf empty ⟨fresh.aligned, fresh.fits⟩ (by simp_all)) later
    · exact inv

theorem Inv.identityLoop (inv : s.Inv cfg) (fits : first + left ≤ 0x10000000) :
    (NpuSpace.identityLoop first left s).Inv cfg := by
  induction left generalizing first s with
  | zero => exact inv
  | succ left ih =>
    have later : first + 1 + left ≤ 0x10000000 := by omega
    simp only [NpuSpace.identityLoop]
    split
    · exact ih inv later
    · rename_i empty
      exact ih (inv.setLeaf empty (by omega) fun _ => rfl) later

theorem Inv.handleDabt (inv : s.Inv cfg) (table : Bool) (frames : Nat → Option NpuFrame) :
    (s.handleDabt cfg page table frames).Inv cfg := by
  simp only [NpuSpace.handleDabt]
  split
  · simp only [NpuSpace.mapIdentityBlock]
    split
    · rename_i ensured
      apply inv.identityLoop
      have small := cfg.ramFits
      simp only [NpuCfg.l3Ensure, NpuCfg.ipaIsRam, Bool.and_eq_true, decide_eq_true_eq] at ensured
      omega
    · exact inv
  · rename_i outside
    split
    · simp only [NpuSpace.mapBlock]
      split
      · apply inv.blockLoop
        intro index bound
        by_contra window
        exact outside (cfg.ipaIsNpuDma_block bound (by simpa using window))
      · exact inv
    · exact inv

theorem Inv.mirror (inv : s.Inv cfg) (pt : Bool) (valid : s.leaf page = some pa)
    (inside : s.range.1 ≤ page * 4096 ∧ page * 4096 < s.range.2) :
    (s.mirror page pa pt).Inv cfg := by
  simp only [NpuSpace.mirror]
  split
  · refine ⟨⟨inv.windowed.identity, ?_⟩, inv.framed, inv.baseAligned⟩
    intro other present
    by_cases same : other = page
    · subst same
      obtain ⟨aligned, fits⟩ := inv.framed other pa valid
      simpa [ptePa_mkPte aligned fits, inside] using valid
    · simp only [same, if_false] at present ⊢
      exact inv.windowed.mirrored other present
  · exact inv

theorem mapPage_range (table : Bool) (frame : Option NpuFrame) :
    (s.mapPage cfg page table frame).range = s.range := by
  simp only [mapPage]
  repeat' split
  all_goals rfl

theorem syncPage_keeps (answers : SyncAnswers) (other : Nat) :
    (syncPage cfg answers s page).range = s.range ∧
      ((s.leaf other).isSome = true →
        ((syncPage cfg answers s page).leaf other).isSome = true) := by
  simp only [syncPage, mapPage, mirror, setLeaf]
  repeat' split
  all_goals simp_all
  all_goals split <;> simp_all

theorem Inv.syncPage (inv : s.Inv cfg)
    (inside : s.range.1 ≤ page * 4096 ∧ page * 4096 < s.range.2)
    (window : cfg.ipaIsNpuDma (page * 4096) = true → (s.leaf page).isSome = true) :
    (NpuSpace.syncPage cfg answers s page).Inv cfg := by
  have filled : (if s.leaf page = none then
      s.mapPage cfg page (answers.table page) (answers.frame page) else s).Inv cfg ∧
      (if s.leaf page = none then
        s.mapPage cfg page (answers.table page) (answers.frame page) else s).range = s.range := by
    split
    · exact ⟨inv.mapPage _ _ window, mapPage_range _ _⟩
    · exact ⟨inv, rfl⟩
  simp only [NpuSpace.syncPage]
  split
  · exact filled.1
  · exact filled.1
  · rename_i valid
    exact filled.1.mirror _ valid (filled.2 ▸ inside)

theorem Inv.syncLoop {pages : List Nat} (inv : s.Inv cfg)
    (ready : ∀ page ∈ pages, (s.range.1 ≤ page * 4096 ∧ page * 4096 < s.range.2) ∧
      (cfg.ipaIsNpuDma (page * 4096) = true → (s.leaf page).isSome = true)) :
    (pages.foldl (NpuSpace.syncPage cfg answers) s).Inv cfg := by
  induction pages generalizing s with
  | nil => exact inv
  | cons page _ ih =>
    obtain ⟨inside, window⟩ := ready page List.mem_cons_self
    apply ih (inv.syncPage inside window)
    intro other member
    obtain ⟨inside, window⟩ := ready other (List.mem_cons_of_mem page member)
    have kept := @syncPage_keeps cfg s page answers other
    exact ⟨kept.1 ▸ inside, fun inWindow => kept.2 (window inWindow)⟩

theorem mem_syncPages (aligned : s.range.1 % 4096 = 0) (member : page ∈ s.syncPages) :
    s.range.1 ≤ page * 4096 ∧ page * 4096 < s.range.2 := by
  simp only [syncPages, List.mem_range'_1] at member
  omega

theorem Inv.setRange (inv : s.Inv cfg) (aligned : ipaBase % 4096 = 0) :
    (s.setRange ipaBase ipaSize).Inv cfg :=
  ⟨⟨inv.windowed.identity, fun _ present => absurd rfl present⟩, inv.framed, aligned⟩

theorem Inv.step (inv : s.Inv cfg) {action : WindowAction} (guard : s.windowGuard cfg action) :
    (s.next cfg action).Inv cfg := by
  cases action with
  | dabt _ table frames => exact inv.handleDabt table frames
  | iabt _ table frame =>
    simp only [next, handleIabt]
    split
    · exact inv.mapPage table frame guard
    · exact inv
  | load _ _ table frame =>
    simp only [next, gpaPtr]
    split
    · exact inv.mapPage table frame guard
    · exact inv
  | enable => exact inv.setRange guard
  | disable => exact inv.setRange (Nat.zero_mod _)
  | submit =>
    exact inv.syncLoop fun page member => ⟨mem_syncPages inv.baseAligned member, guard page member⟩

end NpuSpace

/-- In every run that leaves the window to the data fault, the window is mapped to itself and the
NPU's entries agree with the stage-2 table. -/
theorem window_identity {cfg : NpuCfg} {actions : List WindowAction} {s : NpuSpace}
    (run : Run (Guarded (graph (NpuSpace.next cfg)) (NpuSpace.windowGuard cfg))
      .boot actions s) : s.Windowed cfg := by
  have inv : s.Inv cfg := by
    refine run.guarded (fun _ _ inv guard => inv.step guard) ?_
    constructor <;> simp [NpuSpace.boot]
    constructor <;> simp
  exact inv.windowed

instance NpuSpace.windowGuardDecidable (cfg : NpuCfg) (s : NpuSpace) :
    (action : WindowAction) → Decidable (s.windowGuard cfg action)
  | .dabt _ _ _ | .disable => inferInstanceAs (Decidable True)
  | .iabt _ _ _ | .load _ _ _ _ => inferInstanceAs (Decidable (_ → _))
  | .enable _ _ => inferInstanceAs (Decidable (_ = _))
  | .submit _ => inferInstanceAs (Decidable (∀ page ∈ s.syncPages, _ → _))

def sampleFrame : NpuFrame := ⟨0x10000000, by decide, by decide, by decide⟩

def windowTouched : List WindowAction :=
  [.dabt 0x79000 true fun _ => none, .enable 0x79000000 0x2000,
    .submit ⟨fun _ => true, fun _ => none, fun _ => true⟩]

theorem windowTouched_identity :
    (windowTouched.foldl (NpuSpace.next .guestLinux) .boot).Windowed .guestLinux ∧
      (windowTouched.foldl (NpuSpace.next .guestLinux) .boot).pte 0x79001 = mkPte 0x79001000 :=
  ⟨window_identity (run_of_passes (fun _ _ => of_decide_eq_true) (by decide +kernel)),
    by decide +kernel⟩

def windowFetched : List WindowAction := [.iabt 0x79000 true (some sampleFrame)]

theorem windowFetched_moved :
    Run (graph (NpuSpace.next .guestLinux)) .boot windowFetched
        (windowFetched.foldl (NpuSpace.next .guestLinux) .boot) ∧
      ¬ (windowFetched.foldl (NpuSpace.next .guestLinux) .boot).Windowed .guestLinux := by
  apply And.intro (run_foldl _ _ _)
  intro windowed
  have same := windowed.identity 0x79000 0x10000000 (by decide +kernel) (by decide +kernel)
  revert same
  decide

end AvatarKernel
