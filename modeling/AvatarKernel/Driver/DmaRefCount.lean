import AvatarKernel.Driver.DrmReferences

namespace AvatarKernel

open Function Transition
open Tally

variable {n : Nat}

def DmaBuf.memory (buf : DmaBuf) : Option DmaRegion := if buf.used then some buf.region else none

/-- Memory from the heap is behind a slot, in the hands of one call, or given back. -/
structure Regions (s : DmaState n) : Prop where
  kept : ∀ r, s.allocated.count r = s.released.count r + tally (fun i => (s.bufs i).memory) r +
    tally (fun t => (s.pc t).region) r
  numbered : ∀ r ∈ s.allocated, r.gen < s.allocated.length
  distinct : s.allocated.Nodup

variable {s s' : DmaState n} {t : Fin n} {x : DmaPc}

theorem region_step (pcs : s'.pc = update s.pc t x) (r : DmaRegion) :
    tally (fun u => (s'.pc u).region) r + names (s.pc t).region r =
      tally (fun u => (s.pc u).region) r + names x.region r := by
  rw [pcs]
  exact tally_map_update DmaPc.region s.pc t x r

theorem memory_get (bufs : DmaBufs) (i : Fin dmaBufMax) :
    (fun j => (dmaBufGet bufs i j).memory) = fun j => (bufs j).memory := by
  funext j
  obtain ⟨used, region, _⟩ := dmaBufGet_other bufs i j
  unfold DmaBuf.memory
  rw [used, region]

theorem count_cons_names (r first : DmaRegion) (rest : List DmaRegion) :
    (first :: rest).count r = rest.count r + names (some first) r := by
  rw [List.count_cons, names_some]
  simp only [beq_iff_eq]

theorem Regions.exchange (inv : Regions s) (pcs : s'.pc = update s.pc t x)
    (allocated : s'.allocated = s.allocated)
    (balance : ∀ r, s'.released.count r + tally (fun i => (s'.bufs i).memory) r +
      names x.region r = s.released.count r + tally (fun i => (s.bufs i).memory) r +
        names (s.pc t).region r) : Regions s' where
  kept := by
    intro r
    have before := inv.kept r
    have carried := region_step pcs r
    have balanced := balance r
    rw [allocated]
    omega
  numbered := by
    rw [allocated]
    exact inv.numbered
  distinct := by
    rw [allocated]
    exact inv.distinct

theorem Regions.same (inv : Regions s) (pcs : s'.pc = update s.pc t x)
    (allocated : s'.allocated = s.allocated) (released : s'.released = s.released)
    (memory : (fun i => (s'.bufs i).memory) = fun i => (s.bufs i).memory)
    (region : x.region = (s.pc t).region) : Regions s' :=
  inv.exchange pcs allocated fun r => by rw [released, memory, region]

theorem Regions.move (inv : Regions s) (move : Move s t (s.pc t) s') : Regions s' := by
  generalize here : s.pc t = pc at move
  have plain : ∀ (x : DmaPc) (after : DmaState n), after.pc = update s.pc t x →
      after.allocated = s.allocated → after.released = s.released →
      ((fun i => (after.bufs i).memory) = fun i => (s.bufs i).memory) → x.region = pc.region →
      Regions after := by
    intro x after pcs allocated released memory region
    exact inv.same pcs allocated released memory (by rw [here]; exact region)
  cases move with
  | rest => exact inv
  | hop hop => exact plain _ _ rfl rfl rfl rfl hop.follows.region
  | @allocate why size paddr fits small =>
    refine ⟨?_, ?_, ?_⟩
    · generalize (⟨s.allocated.length, paddr, alignUp size⟩ : DmaRegion) = region
      intro r
      have before := inv.kept r
      have carried := @region_step _ s (s.goto t (.insert why size region)) t
        (.insert why size region) rfl r
      have nothing : (DmaPc.heapAlloc why size).region = none := rfl
      have hand : (DmaPc.insert why size region).region = some region := rfl
      rw [here, nothing, hand, names_none] at carried
      show List.count r (region :: s.allocated) = s.released.count r +
        tally (fun i => (s.bufs i).memory) r +
        tally (fun u => ((s.goto t (.insert why size region)).pc u).region) r
      rw [count_cons_names]
      omega
    · intro r member
      rcases List.mem_cons.mp member with new | old
      · rw [new]
        exact Nat.lt_succ_self _
      · exact Nat.lt_succ_of_lt (inv.numbered r old)
    · apply List.nodup_cons.mpr
      refine ⟨?_, inv.distinct⟩
      intro member
      exact Nat.lt_irrefl _ (inv.numbered _ member)
  | @insert why size region i unused =>
    refine inv.exchange rfl rfl fun r => ?_
    have stored := tally_map_update DmaBuf.memory s.bufs i ⟨true, 1, region, size⟩ r
    have old : (s.bufs i).memory = none := by
      unfold DmaBuf.memory
      rw [unused]
      rfl
    rw [old, names_none] at stored
    rw [here, (DmaFor.pc_goes i why).region, names_none]
    change _ = _ + names (some region) r at stored
    show s.released.count r + tally (fun j => (update s.bufs i _ j).memory) r + 0 =
      _ + _ + names (some region) r
    omega
  | newSlot | copySlot | noFd | take | copyObj | install | destroy | closeNone =>
    exact plain _ _ rfl rfl rfl rfl rfl
  | publish => exact plain _ _ rfl rfl rfl rfl (NewFd.published_goes _ _ _ _).region
  | unpublish => exact plain _ _ rfl rfl rfl rfl (NewFd.failed_goes _).region
  | poolFree => exact plain _ _ rfl rfl rfl rfl (AfterClose.pc_goes _).region
  | getOwn | getPrime | refGet => exact plain _ _ rfl rfl rfl (memory_get _ _) rfl
  | @put i next used more =>
    refine plain _ _ rfl rfl rfl ?_ (AfterPut.pc_goes _ _).region
    funext j
    show (update s.bufs i _ j).memory = (s.bufs j).memory
    by_cases self : j = i
    · rw [self, update_self]
      rfl
    · rw [update_of_ne self]
  | @putLast i next used last =>
    refine inv.exchange rfl rfl fun r => ?_
    have stored := tally_map_update DmaBuf.memory s.bufs i .empty r
    have old : (s.bufs i).memory = some (s.bufs i).region := if_pos used
    rw [old] at stored
    rw [here]
    change _ = _ + names none r at stored
    show s.released.count r + tally (fun j => (update s.bufs i .empty j).memory) r +
      names (some _) r = _ + _ + names none r
    omega
  | @heapFree region next =>
    refine inv.exchange rfl rfl fun r => ?_
    rw [here, (AfterPut.pc_goes true next).region]
    show List.count r (region :: s.released) + tally (fun j => (s.bufs j).memory) r +
      names none r = _ + _ + names (some region) r
    rw [count_cons_names, names_none]
    omega
  | gemCreate =>
    exact plain _ _ rfl rfl rfl (memory_get _ _) (afterGem_goes _ _).region
  | closeGem closing | closeEnd closing =>
    refine plain _ _ rfl rfl rfl rfl ?_
    rcases closing with ⟨same, _⟩ | same <;> rw [same] <;> rfl

structure Entry (s : DmaState n) (x : DmaPc) : Prop where
  slot : x.slot = none
  src : x.src = none
  owes : x.owes = none
  held : x.held = none
  watched : ∀ pool, x.watched pool = none
  region : x.region = none
  loop : x.loop = none
  ends : x.ends = none
  takesGem : x.takesGem = false
  fit : ∀ s : DmaState n, Fit s x
  onFile : ∀ file, x.onFile = some file → ∃ opening, s.nodes file = .live opening

inductive Entered (s : DmaState n) (t : Fin n) : DmaCall → DmaState n → Prop
  | nothing {call : DmaCall} : Entered s t call s
  | call {call : DmaCall} {x : DmaPc} (entry : Entry s x) : Entered s t call (s.goto t x)
  | close {file opening : Nat} (live : s.nodes file = .live opening) :
      Entered s t (.drmClose file)
        { s.goto t (.closeStart file) with
          nodes := update s.nodes file (.closing opening) }

theorem entry_idle (s : DmaState n) : Entry s .idle :=
  ⟨rfl, rfl, rfl, rfl, fun _ => rfl, rfl, rfl, rfl, rfl, fun _ => trivial, nofun⟩

theorem onNode_entered (s : DmaState n) (t : Fin n) (call : DmaCall) (file : Nat)
    (pc : Origin → DmaPc)
    (entry : ∀ opening, s.nodes file = .live opening → Entry s (pc ⟨opening, s.gone⟩)) :
    Entered s t call (onNode s t file pc) := by
  unfold onNode
  split
  · rename_i opening live
    exact .call (entry opening live)
  · exact .nothing

theorem enterCall_entered (s : DmaState n) (t : Fin n) (call : DmaCall) :
    Entered s t call (enterCall s t call) := by
  cases call with
  | heapAlloc =>
    apply Entered.call
    split
    · exact entry_idle s
    · exact ⟨rfl, rfl, rfl, rfl, fun _ => rfl, rfl, rfl, rfl, rfl, fun _ => trivial, nofun⟩
  | openOther | close | copy =>
    exact .call ⟨rfl, rfl, rfl, rfl, fun _ => rfl, rfl, rfl, rfl, rfl, fun _ => trivial, nofun⟩
  | drmClose =>
    unfold enterCall
    dsimp only
    split
    · rename_i opening live
      exact .close live
    · exact .nothing
  | memCreate =>
    rw [enterCall]
    apply onNode_entered
    intro opening live
    split
    · exact entry_idle s
    · exact ⟨rfl, rfl, rfl, rfl, fun _ => rfl, rfl, rfl, rfl, rfl, fun _ => trivial,
        fun _ calls => ⟨opening, Option.some.inj calls ▸ live⟩⟩
  | memDestroy | memSync | submit | mmap | handleToFd | fdToHandle =>
    rw [enterCall]
    apply onNode_entered
    intro opening live
    exact ⟨rfl, rfl, rfl, rfl, fun _ => rfl, rfl, rfl, rfl, rfl, fun _ => trivial,
        fun _ calls => ⟨opening, Option.some.inj calls ▸ live⟩⟩

structure DmaInv (s : DmaState n) : Prop where
  custody : Custody s
  nodes : Nodes s
  contexts : Contexts s
  ledger : BufLedger s
  regions : Regions s

theorem DmaInv.boot (n : Nat) : DmaInv (DmaState.boot n) where
  custody := by
    constructor
    · intro t u p slot
      cases slot
    · intro p _ t slot
      cases slot
    · intro pid fd pid' fd' p entry
      cases entry
    · rintro p ((⟨_, _, entry⟩ | ⟨_, copies⟩) | ⟨_, slot⟩)
      · cases entry
      · cases copies
      · cases slot
  nodes := by
    constructor
    · intro t file calls
      cases calls
    · intro t file ends
      cases ends
    · intro t u file ends
      cases ends
  contexts := by
    constructor
    · intro t file c k loop
      cases loop
    · intro t file c k owed closing
      cases closing
    · intro c _ k
      rfl
  ledger := by
    constructor
    · intro i
      have claims : tally (DmaState.boot n).claimed i = 0 := by
        apply tally_none
        intro p
        exact ite_self none
      have objects : tally (fun place => (gemOf (DmaState.boot n).drmFiles place).buf) i = 0 :=
        tally_none fun _ => rfl
      have holders : tally (fun t => ((DmaState.boot n).pc t).held) i = 0 :=
        tally_none fun _ => rfl
      unfold DmaState.refs
      rw [claims, objects, holders]
      rfl
    · intro i used
      cases used
    · intro t i watch
      cases watch
    · intro t
      trivial
  regions := by
    constructor
    · intro r
      have slots : tally (fun i => ((DmaState.boot n).bufs i).memory) r = 0 :=
        tally_none fun _ => rfl
      have hands : tally (fun t => ((DmaState.boot n).pc t).region) r = 0 := tally_none fun _ => rfl
      rw [slots, hands]
      rfl
    · intro r member
      cases member
    · exact List.nodup_nil

theorem DmaInv.entered (inv : DmaInv s) (free : s.pc t = .idle)
    (guard : ∀ file ∈ call.closesFile, ∀ u, (s.pc u).onFile ≠ some file)
    (entered : Entered s t call s') : DmaInv s' := by
  -- what does not concern the files themselves
  have rest : ∀ (x : DmaPc) (after : DmaState n), after.pc = update s.pc t x →
      after.table = s.table → after.pool = s.pool → after.bufs = s.bufs →
      after.drmFiles = s.drmFiles → after.allocated = s.allocated →
      after.released = s.released → x.slot = none → x.src = none → x.owes = none →
      x.held = none → (∀ pool, x.watched pool = none) → x.region = none → x.loop = none →
      x.takesGem = false → Fit after x →
      Custody after ∧ Contexts after ∧ BufLedger after ∧ Regions after := by
    intro x after pcs tables pool bufs files allocated released slot src owes held watched region
      loop takesGem fit
    refine ⟨?_, ?_, ?_, ?_⟩
    · exact inv.custody.keep pcs tables (fun q used => pool ▸ used) (.inl slot)
        (exposed_of_none src)
    · exact inv.contexts.same pcs files (.inr loop) takesGem
    · exact inv.ledger.calm free pcs bufs (by rw [files]) (fun _ => by rw [pool]) owes held
        (fun u _ p _ => by rw [pool]) (none_watched (watched _)) fit
    · exact inv.regions.same pcs allocated released (by rw [bufs]) (by rw [region, free]; rfl)
  cases entered with
  | nothing => exact inv
  | @call _ x entry =>
    obtain ⟨custody, contexts, ledger, regions⟩ := rest x (s.goto t x) rfl rfl rfl rfl rfl rfl rfl
      entry.slot entry.src entry.owes entry.held entry.watched entry.region entry.loop
      entry.takesGem (entry.fit _)
    refine ⟨custody, ?_, contexts, ledger, regions⟩
    refine inv.nodes.step rfl entry.onFile ?_ (fun _ _ _ _ => rfl)
    intro file ends
    rw [entry.ends] at ends
    cases ends
  | @close file opening live =>
    obtain ⟨custody, contexts, ledger, regions⟩ := rest (.closeStart file)
      { s.goto t (.closeStart file) with
        nodes := update s.nodes file (.closing opening) }
      rfl rfl rfl rfl rfl rfl rfl rfl rfl rfl rfl (fun _ => rfl) rfl rfl rfl trivial
    refine ⟨custody, ?_, contexts, ledger, regions⟩
    have quiet := guard file rfl
    have open_ : ∀ u, (s.pc u).ends ≠ some file := by
      intro u ends
      obtain ⟨_, closing⟩ := inv.nodes.ending u file ends
      rw [live] at closing
      cases closing
    apply inv.nodes.step rfl
    · intro file' calling
      cases calling
    · intro file' ends
      cases ends
      exact ⟨⟨opening, update_self _ _ _⟩, fun u _ => open_ u⟩
    · intro u file' _ busy
      apply update_of_ne
      rintro rfl
      exact busy.elim (quiet u) (open_ u)

theorem node_kept (absent : s.nodes file = .absent) (same : s.nodes file' = node)
    (present : node ≠ .absent) : update s.nodes file new file' = node := by
  have other : file' ≠ file := by
    rintro rfl
    exact present (same.symm.trans absent)
  rw [update_of_ne other]
  exact same

theorem DmaInv.openNode (inv : DmaInv s) (absent : s.nodes file = .absent) :
    DmaInv { s with nodes := update s.nodes file (.live s.openings),
                    openings := s.openings + 1 } := by
  refine ⟨⟨inv.custody.apart, inv.custody.exposed, inv.custody.once, inv.custody.inUse⟩, ?_,
    ⟨inv.contexts.loop, inv.contexts.owed, inv.contexts.idle⟩,
    ⟨inv.ledger.counted, inv.ledger.positive, inv.ledger.watched, ?_⟩,
    ⟨inv.regions.kept, inv.regions.numbered, inv.regions.distinct⟩⟩
  · constructor
    · intro t file' calls
      obtain ⟨opening, live⟩ := inv.nodes.calls t file' calls
      exact ⟨opening, node_kept absent live (by simp)⟩
    · intro t file' ends
      obtain ⟨opening, closing⟩ := inv.nodes.ending t file' ends
      exact ⟨opening, node_kept absent closing (by simp)⟩
    · exact inv.nodes.single
  · intro t
    exact (inv.ledger.fit t).congr fun _ _ => rfl

theorem DmaInv.step (inv : DmaInv s) (action : DmaAction n) (guard : DmaGuard s action) :
    DmaInv (dmaStep s action) := by
  cases action with
  | openNode =>
    unfold dmaStep
    dsimp only
    split
    · rename_i absent
      exact inv.openNode absent
    · exact inv
  | enter t call =>
    unfold dmaStep
    dsimp only
    split
    · rename_i free
      exact inv.entered free guard (enterCall_entered s t call)
    · exact inv
  | advance t answer =>
    have move := advance_move s t answer
    exact ⟨inv.custody.move guard move, inv.nodes.move move, inv.contexts.move inv.nodes move,
      inv.ledger.move inv.custody inv.contexts guard move, inv.regions.move move⟩

/-- The runs from the boot of the machine in which every step meets the condition. -/
abbrev DmaRun (n : Nat) (actions : List (DmaAction n)) (s : DmaState n) : Prop :=
  Run (Guarded (graph dmaStep) DmaGuard) (DmaState.boot n) actions s

theorem DmaInv.of_run (run : DmaRun n actions s) : DmaInv s :=
  run.guarded (fun _ action inv guard => inv.step action guard) (DmaInv.boot n)

def DmaState.descriptors (s : DmaState n) (i : Fin dmaBufMax) : Nat :=
  (Finset.univ.filter fun p => s.pool p = .dmabuf i).card

def DmaState.gemObjects (s : DmaState n) (i : Fin dmaBufMax) : Nat :=
  (Finset.univ.filter fun place => (gemOf s.drmFiles place).buf = some i).card

/-- The references of the calls that run: those in their hands, less those of the pool objects that
a call has filled in without a reference yet, or whose reference it has given back already. -/
def DmaState.inFlight (s : DmaState n) (i : Fin dmaBufMax) : Int :=
  (Finset.univ.filter fun t => (s.pc t).held = some i).card -
    (Finset.univ.filter fun p => s.pool p = .dmabuf i ∧ ∃ t, (s.pc t).owes = some p).card

/-- Every count is the number of references, and memory from the heap is behind one slot with
references, or in the hands of one call, or has been given back once. -/
structure DmaState.Counted (s : DmaState n) : Prop where
  refcount : ∀ i, (s.bufs i).used = true →
    ((s.bufs i).refcount : Int) = s.descriptors i + s.gemObjects i + s.inFlight i
  referred : ∀ i, (s.bufs i).used = true → 0 < (s.bufs i).refcount
  once : ∀ r ∈ s.allocated, s.released.count r +
    (Finset.univ.filter fun i => (s.bufs i).used = true ∧ (s.bufs i).region = r).card +
    (Finset.univ.filter fun t => (s.pc t).region = some r).card = 1
  own : ∀ i, (s.bufs i).used = true → (s.bufs i).region ∈ s.allocated
  released : ∀ r ∈ s.released, r ∈ s.allocated

theorem descriptors_eq (s : DmaState n) (i : Fin dmaBufMax) :
    s.descriptors i = tally s.claimed i +
      (Finset.univ.filter fun p => s.pool p = .dmabuf i ∧ ∃ t, (s.pc t).owes = some p).card := by
  unfold DmaState.descriptors tally
  rw [← Finset.card_filter_add_card_filter_not (fun p => ∃ t, (s.pc t).owes = some p),
    Finset.filter_filter, Finset.filter_filter, Nat.add_comm]
  congr 2
  apply Finset.filter_congr
  intro p _
  unfold DmaState.claimed
  by_cases owed : ∃ t, (s.pc t).owes = some p
  · simp [owed]
  · cases object : s.pool p <;> simp [owed, PoolObj.buf]

theorem DmaInv.counted (inv : DmaInv s) : s.Counted where
  refcount := by
    intro i used
    have counted := inv.ledger.counted i
    have value : bufCount s.bufs i = (s.bufs i).refcount := if_pos used
    have objects := descriptors_eq s i
    unfold DmaState.refs at counted
    unfold DmaState.inFlight DmaState.gemObjects
    have gems : tally (fun place => (gemOf s.drmFiles place).buf) i =
        (Finset.univ.filter fun place => (gemOf s.drmFiles place).buf = some i).card := rfl
    have held : tally (fun t => (s.pc t).held) i =
        (Finset.univ.filter fun t => (s.pc t).held = some i).card := rfl
    omega
  referred := inv.ledger.positive
  once := by
    intro r member
    have kept := inv.regions.kept r
    have one : s.allocated.count r = 1 := List.count_eq_one_of_mem inv.regions.distinct member
    have slots : tally (fun i => (s.bufs i).memory) r =
        (Finset.univ.filter fun i => (s.bufs i).used = true ∧ (s.bufs i).region = r).card := by
      unfold tally
      congr 1
      apply Finset.filter_congr
      intro i _
      unfold DmaBuf.memory
      by_cases used : (s.bufs i).used = true
      · simp [used]
      · simp [used]
    have hands : tally (fun t => (s.pc t).region) r =
        (Finset.univ.filter fun t => (s.pc t).region = some r).card := rfl
    omega
  own := by
    intro i used
    have kept := inv.regions.kept (s.bufs i).region
    have entry : (s.bufs i).memory = some (s.bufs i).region := if_pos used
    have positive := @tally_pos _ _ _ _ (fun i => (s.bufs i).memory) _ i entry
    apply List.count_pos_iff.mp
    omega
  released := by
    intro r member
    have kept := inv.regions.kept r
    have positive := List.count_pos_iff.mpr member
    apply List.count_pos_iff.mp
    omega

/-- In every run that meets the condition every reference count is the number of descriptors, GEM
objects and running calls that refer to the buffer, and memory is given back once, at zero. -/
theorem dma_buf_references_counted (n : Nat) (actions : List (DmaAction n)) (s : DmaState n)
    (run : DmaRun n actions s) : s.Counted :=
  (DmaInv.of_run run).counted

def go {n : Nat} (t : Fin n) (paddr : Nat) : DmaAction n := .advance t ⟨paddr, true⟩

open scoped Numerals

/-- A buffer is made through a GEM object, exported while another thread allocates from the heap,
and the GEM object is destroyed before the descriptor is closed. -/
def exportRun : List (DmaAction 2) :=
  [.openNode 7, .enter 0 (.memCreate 7 8192), go 0 0x1000, go 0 0, go 0 0, go 0 0,
    .enter 0 (.handleToFd 1 7 1), go 0 0, go 0 0, .enter 1 (.heapAlloc 2 4096), go 1 0x4000,
    go 0 0, go 1 0, go 0 0, go 1 0, go 0 0, go 1 0, go 1 0, go 1 0, go 1 0,
    .enter 1 (.memDestroy 7 1 0), go 1 0, go 1 0, go 1 0, .enter 0 (.close 1 3), go 0 0, go 0 0,
    go 0 0, go 0 0, go 0 0]

theorem dma_buf_references_counted_exported :
    ((exportRun.foldl dmaStep (DmaState.boot 2)).Counted) ∧
      ((exportRun.foldl dmaStep (DmaState.boot 2)).released = [⟨0, 0x1000, 8192⟩]) :=
  ⟨dma_buf_references_counted 2 exportRun _
    (run_of_passes (fun _ _ => of_decide_eq_true) (by decide +kernel)), by decide +kernel⟩

def dupRun : List (DmaAction 1) :=
  [.enter 0 (.heapAlloc 1 4096), go 0 0x1000, go 0 0, go 0 0, go 0 0, go 0 0, go 0 0, go 0 0,
    .enter 0 (.copy 1 3 (.fcntl 1 256)), go 0 0, go 0 0, go 0 0, go 0 0, go 0 0, go 0 0, go 0 0]

/-- The copy that `F_DUPFD` cannot place keeps its reference: one descriptor, a count of two. -/
theorem dma_buf_reference_lost :
    Run (graph dmaStep) (DmaState.boot 1) dupRun
        (dupRun.foldl dmaStep (DmaState.boot 1)) ∧
      ¬ (dupRun.foldl dmaStep (DmaState.boot 1)).Counted := by
  refine ⟨run_foldl dmaStep _ _, ?_⟩
  intro counted
  have equal := counted.refcount 0 (by decide +kernel)
  have two : ((dupRun.foldl dmaStep (DmaState.boot 1)).bufs 0).refcount = 2 := by decide +kernel
  have one : (dupRun.foldl dmaStep (DmaState.boot 1)).descriptors 0 = 1 := by decide +kernel
  have none_ : (dupRun.foldl dmaStep (DmaState.boot 1)).gemObjects 0 = 0 := by decide +kernel
  have idle : (dupRun.foldl dmaStep (DmaState.boot 1)).inFlight 0 = 0 := by decide +kernel
  rw [two, one, none_, idle] at equal
  cases equal

end AvatarKernel
