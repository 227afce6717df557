import AvatarKernel.Driver.DrmCustody
import AvatarKernel.Lib.Tally

namespace AvatarKernel

open Function
open Tally

variable {n : Nat}

def Gem.buf (gem : Gem) : Option (Fin dmaBufMax) := if gem.used then some gem.dmaIdx else none

def gemOf (files : DrmFiles) (place : Fin rknpuDrmMaxFiles × Fin rknpuGemMax) : Gem :=
  (files place.1).gems place.2

/-- The buffer that a pool object has a reference to. -/
def DmaState.claimed (s : DmaState n) (p : Fin fdPoolSize) : Option (Fin dmaBufMax) :=
  if ∃ t, (s.pc t).owes = some p then none else (s.pool p).buf

def bufCount (bufs : DmaBufs) (i : Fin dmaBufMax) : Nat :=
  if (bufs i).used then (bufs i).refcount else 0

def DmaState.refs (s : DmaState n) (i : Fin dmaBufMax) : Nat :=
  tally s.claimed i + tally (fun place => (gemOf s.drmFiles place).buf) i +
    tally (fun t => (s.pc t).held) i

theorem gemOf_setGem (files : DrmFiles) (c : Fin rknpuDrmMaxFiles) (k : Fin rknpuGemMax)
    (gem : Gem) :
    gemOf (setGem files c k gem) = update (gemOf files) (c, k) gem := by
  funext place
  obtain ⟨c', k'⟩ := place
  show (setGem files c k gem c').gems k' = _
  unfold setGem
  by_cases file : c' = c
  · subst file
    rw [update_self]
    show update (files c').gems k gem k' = _
    by_cases slot : k' = k
    · subst slot
      rw [update_self, update_self]
    · rw [update_of_ne slot, update_of_ne (fun same => slot (congrArg Prod.snd same))]
      rfl
  · rw [update_of_ne file, update_of_ne (fun same => file (congrArg Prod.fst same))]
    rfl

theorem setGem_context (files : DrmFiles) (c c' : Fin rknpuDrmMaxFiles) (k : Fin rknpuGemMax)
    (gem : Gem) : (setGem files c k gem c').used = (files c').used ∧
      (setGem files c k gem c').file = (files c').file := by
  unfold setGem
  by_cases here : c' = c
  · rw [here, update_self]
    exact ⟨rfl, rfl⟩
  · rw [update_of_ne here]
    exact ⟨rfl, rfl⟩

theorem setGem_gems (files : DrmFiles) (c c' : Fin rknpuDrmMaxFiles) (k k' : Fin rknpuGemMax)
    (gem : Gem) : (setGem files c k gem c').gems k' =
      if (c', k') = (c, k) then gem else (files c').gems k' := by
  have all := congrFun (gemOf_setGem files c k gem) (c', k')
  rw [update_apply] at all
  exact all

variable {pc : DmaPc}

theorem DmaPc.owes_slot (owes : pc.owes = some p) : pc.slot = some p := by
  cases pc with
  | poolFree _ paid =>
    cases paid with
    | false => cases owes
    | true => exact owes
  | _ => first | exact owes | cases owes

section Claims

variable {s s' : DmaState n} {t : Fin n} {x : DmaPc}

theorem exists_pc_iff (P : DmaPc → Prop) (pcs : s'.pc = update s.pc t x) (kept : P x ↔ P (s.pc t)) :
    (∃ u, P (s'.pc u)) ↔ ∃ u, P (s.pc u) := by
  apply exists_congr
  intro u
  by_cases self : u = t
  · rw [self, pc_self pcs]
    exact kept
  · rw [pc_other pcs self]

theorem claimed_step (inv : Custody s) (pcs : s'.pc = update s.pc t x)
    (mine : (s.pc t).slot = some p) (kept : ∀ q, x.slot = some q → q = p)
    (pool : ∀ q, q ≠ p → s'.pool q = s.pool q) :
    s'.claimed = update s.claimed p (if x.owes = some p then none else (s'.pool p).buf) := by
  funext q
  by_cases here : q = p
  · subst here
    rw [update_self]
    unfold DmaState.claimed
    have only : (∃ u, (s'.pc u).owes = some q) ↔ x.owes = some q := by
      constructor
      · rintro ⟨u, owes⟩
        rcases pc_cases (fun pc => pc.owes = some q) pcs owes with ⟨_, due⟩ | ⟨other, due⟩
        · exact due
        · exact absurd (inv.apart u t q (DmaPc.owes_slot due) mine) other
      · intro owes
        exact ⟨t, by rw [pc_self pcs]; exact owes⟩
    simp only [only]
  · rw [update_of_ne here]
    unfold DmaState.claimed
    have same := exists_pc_iff (fun pc => pc.owes = some q) pcs <| iff_of_false
      (fun owes => here (kept q (DmaPc.owes_slot owes)))
      (fun owes => here (Option.some.inj ((DmaPc.owes_slot owes).symm.trans mine)))
    simp only [same, pool q here]

theorem claimed_of_slot (inv : Custody s) (mine : (s.pc t).slot = some p) :
    s.claimed p = if (s.pc t).owes = some p then none else (s.pool p).buf := by
  unfold DmaState.claimed
  have only : (∃ u, (s.pc u).owes = some p) ↔ (s.pc t).owes = some p := by
    constructor
    · rintro ⟨u, owes⟩
      rw [← inv.apart u t p (DmaPc.owes_slot owes) mine]
      exact owes
    · intro owes
      exact ⟨t, owes⟩
  simp only [only]

theorem claimed_same (pcs : s'.pc = update s.pc t x)
    (owes : ∀ q, (s.pool q).buf ≠ none → (x.owes = some q ↔ (s.pc t).owes = some q))
    (pool : ∀ q, (s'.pool q).buf = (s.pool q).buf) : s'.claimed = s.claimed := by
  funext q
  unfold DmaState.claimed
  rw [pool q]
  by_cases plain : (s.pool q).buf = none
  · rw [plain, ite_self, ite_self]
  · have same := exists_pc_iff (fun pc => pc.owes = some q) pcs (owes q plain)
    simp only [same]

theorem held_step (pcs : s'.pc = update s.pc t x) (i : Fin dmaBufMax) :
    tally (fun u => (s'.pc u).held) i + names (s.pc t).held i =
      tally (fun u => (s.pc u).held) i + names x.held i := by
  rw [pcs]
  exact tally_map_update DmaPc.held s.pc t x i

theorem gem_step (files : DrmFiles) (c : Fin rknpuDrmMaxFiles) (k : Fin rknpuGemMax) (gem : Gem)
    (i : Fin dmaBufMax) :
    tally (fun place => (gemOf (setGem files c k gem) place).buf) i + names
      ((files c).gems k).buf i =
      tally (fun place => (gemOf files place).buf) i + names gem.buf i := by
  rw [gemOf_setGem]
  exact tally_map_update Gem.buf (gemOf files) (c, k) gem i

end Claims

/-- What is known of the object a call works on. -/
def Fit (s : DmaState n) : DmaPc → Prop
  | .publish _ _ p => s.pool p = .allocated
  | .copyObj _ p _ => s.pool p = .allocated
  | .unpublish what p => s.pool p = what.object
  | .get _ what p _ => s.pool p = what.object
  | .putIndex i (.poolFree p _) => s.pool p = .dmabuf i
  | .put i (.poolFree p _) => s.pool p = .dmabuf i
  | .poolFree p false _ => (s.pool p).buf = none
  | .refGet i p _ => s.pool p = .dmabuf i
  | _ => True

/-- The reference count of every slot is the number of references to it, and a buffer that a call
has looked up is there. -/
structure BufLedger (s : DmaState n) : Prop where
  counted : ∀ i, bufCount s.bufs i = s.refs i
  positive : ∀ i, (s.bufs i).used = true → 0 < (s.bufs i).refcount
  watched : ∀ t i, (s.pc t).watched s.pool = some i → (s.bufs i).used = true
  fit : ∀ t, Fit s (s.pc t)

/-- The loop over the objects of a closing file has the file's context to itself, and the object it
has just taken out still has its index. A context that is not in use has no objects. -/
structure Contexts (s : DmaState n) : Prop where
  loop : ∀ t file c k, (s.pc t).loop = some (file, c, k) →
    (s.drmFiles c).used = true ∧ (s.drmFiles c).file = file ∧
      ∀ j : Fin rknpuGemMax, j.val < k → ((s.drmFiles c).gems j).used = false
  owed : ∀ t file c k owed, s.pc t = .closeGem file c k owed → ((s.drmFiles c).gems k).dmaIdx = owed
  idle : ∀ c, (s.drmFiles c).used = false → ∀ k, ((s.drmFiles c).gems k).used = false

structure Nodes (s : DmaState n) : Prop where
  calls : ∀ t file, (s.pc t).onFile = some file → ∃ opening, s.nodes file = .live opening
  ending : ∀ t file, (s.pc t).ends = some file → ∃ opening, s.nodes file = .closing opening
  single : ∀ t u file, (s.pc t).ends = some file → (s.pc u).ends = some file → t = u

section Used

variable {s : DmaState n}

variable {i : Fin dmaBufMax}

theorem BufLedger.used_of_refs (inv : BufLedger s) (referred : 0 < s.refs i) :
    (s.bufs i).used = true := by
  have counted := inv.counted i
  unfold bufCount at counted
  by_cases used : (s.bufs i).used = true
  · exact used
  · rw [if_neg used] at counted
    omega

theorem BufLedger.used_of_held (inv : BufLedger s) (held : (s.pc t).held = some i) :
    (s.bufs i).used = true := by
  apply inv.used_of_refs
  have positive := @tally_pos _ _ _ _ (fun t => (s.pc t).held) i t held
  unfold DmaState.refs
  omega

theorem BufLedger.used_of_claimed (inv : BufLedger s) (claimed : s.claimed p = some i) :
    (s.bufs i).used = true := by
  apply inv.used_of_refs
  have positive := tally_pos claimed
  unfold DmaState.refs
  omega

theorem BufLedger.used_of_gem (inv : BufLedger s) {c : Fin rknpuDrmMaxFiles} {k : Fin rknpuGemMax}
    (used : ((s.drmFiles c).gems k).used = true) :
    (s.bufs ((s.drmFiles c).gems k).dmaIdx).used = true := by
  apply inv.used_of_refs
  have entry : (gemOf s.drmFiles (c, k)).buf = some ((s.drmFiles c).gems k).dmaIdx := if_pos used
  have positive := @tally_pos _ _ _ _ (fun place => (gemOf s.drmFiles place).buf) _ (c, k) entry
  unfold DmaState.refs
  omega

theorem handleFind_used (found : handleFind files file handle = some (c, k)) :
    (files c).used = true ∧ (files c).file = file ∧ ((files c).gems k).used = true := by
  unfold handleFind at found
  split at found
  · cases found
  · rename_i context
    obtain ⟨k, object, same⟩ := Option.map_eq_some_iff.mp found
    cases same
    obtain ⟨used, own⟩ := drmFileFind_some context
    have there := List.find?_some object
    rw [Bool.and_eq_true] at there
    exact ⟨used, own, there.1⟩

end Used

section Files

variable (paid : Bool) (i : Fin dmaBufMax) (origin : Origin)

def DmaPc.takesGem : DmaPc → Bool
  | .closeGem _ _ _ _ => true
  | _ => false

structure Goes (pc : DmaPc) (file : Option Nat)
    (place : Option (Nat × Fin rknpuDrmMaxFiles × Nat)) : Prop where
  onFile : pc.onFile = file
  loop : pc.loop = place
  ends : pc.ends = place.map fun at_ => at_.1
  takesGem : pc.takesGem = false
  region : pc.region = none

theorem AfterPut.pc_goes (next : AfterPut) : Goes (next.pc paid) none next.loop := by
  cases next <;> exact ⟨rfl, rfl, rfl, rfl, rfl⟩

theorem AfterClose.pc_goes (next : AfterClose) : Goes next.pc none none := by
  cases next <;> exact ⟨rfl, rfl, rfl, rfl, rfl⟩

theorem NewFd.failed_goes (what : NewFd) : Goes what.failed none none := by
  cases what <;> exact ⟨rfl, rfl, rfl, rfl, rfl⟩

theorem NewFd.published_goes (what : NewFd) (pid : Nat) (p : Fin fdPoolSize) (fd : Fin taskMaxFd) :
    Goes (what.published pid p fd) none none := by
  cases what <;> exact ⟨rfl, rfl, rfl, rfl, rfl⟩

theorem DmaFor.pc_goes (why : DmaFor) : Goes (why.pc i) why.file none := by
  cases why <;> exact ⟨rfl, rfl, rfl, rfl, rfl⟩

theorem GemUse.pc_cases (use : GemUse) :
    use.pc i origin = .idle ∨ (∃ pid, use.pc i origin = .poolAlloc pid (.prime i origin)) ∨
      (∃ offset size, use.pc i origin = .sync i offset size origin) ∨
      use.pc i origin = .submitRead i origin := by
  cases use with
  | fd pid => exact .inr (.inl ⟨pid, rfl⟩)
  | submit => exact .inr (.inr (.inr rfl))
  | sync offset size =>
    unfold GemUse.pc
    dsimp only
    split
    · exact .inr (.inr (.inl ⟨offset, size, rfl⟩))
    · exact .inl rfl

theorem GemUse.pc_goes (use : GemUse) : Goes (use.pc i origin) none none := by
  rcases GemUse.pc_cases i origin use with same | ⟨_, same⟩ | ⟨_, _, same⟩ | same <;> rw [same] <;>
    exact ⟨rfl, rfl, rfl, rfl, rfl⟩

theorem afterGem_goes (created : Bool) : Goes (afterGem i created) none none := by
  cases created <;> exact ⟨rfl, rfl, rfl, rfl, rfl⟩

end Files

variable {next : DmaPc} {s : DmaState n}

structure Follows (pc next : DmaPc) : Prop where
  onFile : next.onFile = pc.onFile ∨ next.onFile = none
  loop : next.loop = pc.loop ∨ next.loop = none
  ends : next.ends = pc.ends ∨ next.ends = none
  takesGem : next.takesGem = false
  region : next.region = pc.region

theorem Goes.follows (goes : Goes next none none) (region : pc.region = none) : Follows pc next :=
  ⟨.inr goes.onFile, .inr goes.loop, .inr goes.ends, goes.takesGem, goes.region.trans region.symm⟩

theorem Hop.follows (hop : Hop s pc next) : Follows pc next := by
  cases hop with
  | poolFull => exact (NewFd.failed_goes _).follows rfl
  | @indexUnused _ next | @putUnused _ next =>
    have goes := AfterPut.pc_goes false next
    exact ⟨.inr goes.onFile, .inl goes.loop, .inl goes.ends, goes.takesGem, goes.region⟩
  | notOpen => exact (AfterClose.pc_goes _).follows rfl
  | noGem => exact (afterGem_goes _ _).follows rfl
  | usable => exact (GemUse.pc_goes _ _ _).follows rfl
  | _ => constructor <;> first | rfl | exact .inr rfl | exact .inl rfl

structure FileStep (s s' : DmaState n) (t : Fin n) (x : DmaPc) : Prop where
  pcs : s'.pc = update s.pc t x
  onFile : x.onFile = (s.pc t).onFile ∨ x.onFile = none
  ends : x.ends = (s.pc t).ends ∨ x.ends = none
  nodes : s'.nodes = s.nodes ∨ ∃ file, (s.pc t).ends = some file ∧ x = .idle ∧
    s'.nodes = update s.nodes file .absent

variable {c : Fin rknpuDrmMaxFiles} {file : Nat}

theorem ends_of_closing
    (here : (pc = .closeStart file ∧ first = 0 ∧ drmFileFind s.drmFiles file = some c) ∨
      pc = .closeNext file c first) : pc.ends = some file := by
  rcases here with ⟨start, _⟩ | next
  · rw [start]
    rfl
  · rw [next]
    rfl

variable {s' : DmaState n} {t : Fin n}

theorem Move.files (move : Move s t (s.pc t) s') : ∃ x, FileStep s s' t x := by
  generalize here : s.pc t = pc at move
  have plain : ∀ (x : DmaPc) (after : DmaState n), after.pc = update s.pc t x →
      after.nodes = s.nodes → (x.onFile = pc.onFile ∨ x.onFile = none) →
      (x.ends = pc.ends ∨ x.ends = none) → ∃ x, FileStep s after t x := by
    intro x after pcs nodes onFile ends
    refine ⟨x, pcs, ?_, ?_, .inl nodes⟩
    · rw [here]
      exact onFile
    · rw [here]
      exact ends
  have quiet : ∀ (x : DmaPc) (after : DmaState n), after.pc = update s.pc t x →
      after.nodes = s.nodes → Goes x none none → ∃ x, FileStep s after t x :=
    fun x after pcs nodes goes => plain x after pcs nodes (.inr goes.onFile) (.inr goes.ends)
  have ending : ∀ (file : Nat) (after : DmaState n),
      after.pc = update s.pc t .idle → pc.ends = some file →
      after.nodes = update s.nodes file .absent → ∃ x, FileStep s after t x := by
    intro file after pcs ends nodes
    refine ⟨.idle, pcs, .inr rfl, .inr rfl, .inr ⟨file, ?_, rfl, nodes⟩⟩
    rw [here]
    exact ends
  cases move with
  | rest => exact plain pc s (by rw [← here, update_eq_self]) rfl (.inl rfl) (.inl rfl)
  | hop hop => exact plain _ _ rfl rfl hop.follows.onFile hop.follows.ends
  | allocate => exact plain _ _ rfl rfl (.inl rfl) (.inr rfl)
  | insert =>
    exact plain _ _ rfl rfl (.inl (DmaFor.pc_goes _ _).onFile) (.inr (DmaFor.pc_goes _ _).ends)
  | newSlot | copySlot | noFd | getOwn | getPrime | refGet | take | copyObj | install | destroy =>
    exact plain _ _ rfl rfl (.inr rfl) (.inr rfl)
  | publish => exact quiet _ _ rfl rfl (NewFd.published_goes _ _ _ _)
  | unpublish => exact quiet _ _ rfl rfl (NewFd.failed_goes _)
  | poolFree => exact quiet _ _ rfl rfl (AfterClose.pc_goes _)
  | put | heapFree =>
    exact plain _ _ rfl rfl (.inr (AfterPut.pc_goes _ _).onFile) (.inl (AfterPut.pc_goes _ _).ends)
  | putLast => exact plain _ _ rfl rfl (.inr rfl) (.inl rfl)
  | gemCreate => exact quiet _ _ rfl rfl (afterGem_goes _ _)
  | closeGem closing =>
    exact plain _ _ rfl rfl (.inr rfl) (.inl (ends_of_closing closing).symm)
  | closeEnd closing => exact ending _ _ rfl (ends_of_closing closing) rfl
  | closeNone => exact ending _ _ rfl rfl rfl

theorem Nodes.step (inv : Nodes s) (pcs : s'.pc = update s.pc t x)
    (calls : ∀ file, x.onFile = some file → ∃ opening, s'.nodes file = .live opening)
    (ending : ∀ file, x.ends = some file → (∃ opening, s'.nodes file = .closing opening) ∧
      ∀ u, u ≠ t → (s.pc u).ends ≠ some file)
    (frame : ∀ u file, u ≠ t → (s.pc u).onFile = some file ∨ (s.pc u).ends = some file →
      s'.nodes file = s.nodes file) : Nodes s' where
  calls := by
    intro u file calling
    rcases pc_cases (fun pc => pc.onFile = some file) pcs calling with ⟨_, mine⟩ | ⟨other, theirs⟩
    · exact calls file mine
    · rw [frame u file other (.inl theirs)]
      exact inv.calls u file theirs
  ending := by
    intro u file ends
    rcases pc_cases (fun pc => pc.ends = some file) pcs ends with ⟨_, mine⟩ | ⟨other, theirs⟩
    · exact (ending file mine).1
    · rw [frame u file other (.inr theirs)]
      exact inv.ending u file theirs
  single := by
    intro u v file left right
    rcases pc_cases (fun pc => pc.ends = some file) pcs left with ⟨same, mine⟩ | ⟨other, theirs⟩ <;>
      rcases pc_cases (fun pc => pc.ends = some file) pcs right with
        ⟨same', mine'⟩ | ⟨other', theirs'⟩
    · rw [same, same']
    · exact absurd theirs' ((ending file mine).2 v other')
    · exact absurd theirs ((ending file mine').2 u other)
    · exact inv.single u v file theirs theirs'

theorem eq_some_of_kept (kept : a = b ∨ a = none) (found : a = some v) : b = some v := by
  rcases kept with same | nothing
  · exact same.symm.trans found
  · cases nothing.symm.trans found

theorem Nodes.move (inv : Nodes s) (move : Move s t (s.pc t) s') : Nodes s' := by
  obtain ⟨x, step⟩ := move.files
  rcases step.nodes with same | ⟨gone, closing, rfl, nodes⟩
  · apply inv.step step.pcs
    · intro file calling
      rw [same]
      exact inv.calls t file (eq_some_of_kept step.onFile calling)
    · intro file ends
      have mine := eq_some_of_kept step.ends ends
      rw [same]
      exact ⟨inv.ending t file mine, fun u other theirs => other (inv.single u t file theirs mine)⟩
    · exact fun _ file _ _ => congrFun same file
  · apply inv.step step.pcs
    · intro file calling
      cases calling
    · intro file ends
      cases ends
    · intro u file other busy
      rw [nodes]
      apply update_of_ne
      rintro rfl
      rcases busy with calling | ends
      · obtain ⟨_, live⟩ := inv.calls u file calling
        obtain ⟨_, ending⟩ := inv.ending t file closing
        cases live.symm.trans ending
      · exact other (inv.single u t file ends closing)

structure DrmFile.Keeps (old new : DrmFile) : Prop where
  used : new.used = old.used
  file : new.file = old.file
  dmaIdx : ∀ k, (new.gems k).dmaIdx = (old.gems k).dmaIdx
  gone : ∀ k, (old.gems k).used = false → (new.gems k).used = false

theorem DrmFile.Keeps.refl (ctx : DrmFile) : ctx.Keeps ctx :=
  ⟨rfl, rfl, fun _ => rfl, fun _ gone => gone⟩

theorem dropGem_gems (s : DmaState n) (c c' : Fin rknpuDrmMaxFiles) (k k' : Fin rknpuGemMax) :
    ((dropGem s c k).drmFiles c').gems k' =
      if (c', k') = (c, k) then { (s.drmFiles c).gems k with used := false }
      else (s.drmFiles c').gems k' :=
  setGem_gems _ _ _ _ _ _

theorem dropGem_gone (s : DmaState n) (c : Fin rknpuDrmMaxFiles) (k : Fin rknpuGemMax) :
    (((dropGem s c k).drmFiles c).gems k).used = false := by
  rw [dropGem_gems, if_pos rfl]

theorem dropGem_keeps (s : DmaState n) (c c' : Fin rknpuDrmMaxFiles) (k : Fin rknpuGemMax) :
    (s.drmFiles c').Keeps ((dropGem s c k).drmFiles c') := by
  obtain ⟨used, file⟩ := setGem_context s.drmFiles c c' k _
  refine ⟨used, file, ?_, ?_⟩ <;> intro j <;> rw [dropGem_gems]
  · split
    · rename_i here
      cases here
      rfl
    · rfl
  · intro gone
    split
    · rfl
    · exact gone

def LoopAt (files : DrmFiles) (file : Nat) (c : Fin rknpuDrmMaxFiles) (k : Nat) : Prop :=
  (files c).used = true ∧ (files c).file = file ∧
    ∀ j : Fin rknpuGemMax, j.val < k → ((files c).gems j).used = false

variable {files : DrmFiles}

theorem LoopAt.keeps (loop : LoopAt files file c k) (keeps : (files c).Keeps (files' c)) :
    LoopAt files' file c k :=
  ⟨keeps.used.trans loop.1, keeps.file.trans loop.2.1,
    fun j below => keeps.gone j (loop.2.2 j below)⟩

theorem Contexts.step (inv : Contexts s) (pcs : s'.pc = update s.pc t x)
    (mine : ∀ file c k, x.loop = some (file, c, k) → LoopAt s'.drmFiles file c k)
    (owed : ∀ file c k owed, x = .closeGem file c k owed → ((s'.drmFiles c).gems k).dmaIdx = owed)
    (keeps : ∀ u, u ≠ t → ∀ file c k, (s.pc u).loop = some (file, c, k) →
      (s.drmFiles c).Keeps (s'.drmFiles c))
    (idle : ∀ c, (s'.drmFiles c).used = false → ∀ k, ((s'.drmFiles c).gems k).used = false) :
    Contexts s' where
  idle := idle
  loop := by
    intro u file c k loop
    by_cases self : u = t
    · rw [self, pc_self pcs] at loop
      exact mine file c k loop
    · rw [pc_other pcs self] at loop
      exact LoopAt.keeps (inv.loop u file c k loop) (keeps u self file c k loop)
  owed := by
    intro u file c k owed' closing
    by_cases self : u = t
    · rw [self, pc_self pcs] at closing
      exact owed file c k owed' closing
    · rw [pc_other pcs self] at closing
      have loop : (s.pc u).loop = some (file, c, k.val + 1) := by
        rw [closing]
        rfl
      rw [(keeps u self file c _ loop).dmaIdx]
      exact inv.owed u file c k owed' closing

section Steps

variable {x : DmaPc} (inv : Contexts s) (pcs : s'.pc = update s.pc t x)

include inv pcs

theorem Contexts.quiet (loop : x.loop = none) (takesGem : x.takesGem = false)
    (keeps : ∀ u, u ≠ t → ∀ file c k, (s.pc u).loop = some (file, c, k) →
      (s.drmFiles c).Keeps (s'.drmFiles c))
    (idle : ∀ c, (s'.drmFiles c).used = false → ∀ k, ((s'.drmFiles c).gems k).used = false) :
    Contexts s' := by
  refine inv.step pcs ?_ ?_ keeps idle
  · intro file c k mine
    cases loop.symm.trans mine
  · rintro file c k owed rfl
    cases takesGem

theorem Contexts.same (files : s'.drmFiles = s.drmFiles)
    (loop : x.loop = (s.pc t).loop ∨ x.loop = none) (takesGem : x.takesGem = false) :
    Contexts s' := by
  refine inv.step pcs ?_ ?_ ?_ ?_ <;> rw [files]
  · intro file c k mine
    exact inv.loop t file c k (eq_some_of_kept loop mine)
  · rintro file c k owed rfl
    cases takesGem
  · intro u _ file c k _
    exact .refl _
  · exact inv.idle

end Steps

theorem Contexts.closing (inv : Contexts s) (here : s.pc t = pc)
    (closing : (pc = .closeStart file ∧ first = 0 ∧ drmFileFind s.drmFiles file = some c) ∨
      pc = .closeNext file c first) : LoopAt s.drmFiles file c first := by
  rcases closing with ⟨_, rfl, found⟩ | next
  · obtain ⟨used, own⟩ := drmFileFind_some found
    exact ⟨used, own, fun _ below => absurd below (Nat.not_lt_zero _)⟩
  · exact inv.loop t file c first (by rw [here, next]; rfl)

theorem DmaPc.ends_of_loop (loop : pc.loop = some (file, c, k)) : pc.ends = some file := by
  cases pc with
  | closeStart => cases loop
  | _ => simp only [DmaPc.ends, loop, Option.map_some]

theorem Nodes.other_file (inv : Nodes s) (calls : (s.pc t).onFile = some file)
    (loop : (s.pc u).loop = some (file', c, k)) : file' ≠ file := by
  intro same
  obtain ⟨_, live⟩ := inv.calls t file calls
  obtain ⟨_, ending⟩ := inv.ending u file' (DmaPc.ends_of_loop loop)
  rw [same, live] at ending
  cases ending

theorem Contexts.move (inv : Contexts s) (nodes : Nodes s) (move : Move s t (s.pc t) s') :
    Contexts s' := by
  generalize here : s.pc t = pc at move
  -- the sections that leave the contexts alone
  have plain : ∀ (x : DmaPc) (after : DmaState n), after.pc = update s.pc t x →
      after.drmFiles = s.drmFiles → (x.loop = pc.loop ∨ x.loop = none) → x.takesGem = false →
      Contexts after := by
    intro x after pcs files loop
    exact inv.same pcs files (by rw [here]; exact loop)
  have quiet : ∀ {onFile : Option Nat} (x : DmaPc) (after : DmaState n),
      after.pc = update s.pc t x → after.drmFiles = s.drmFiles → Goes x onFile none →
      Contexts after :=
    fun x after pcs files goes => plain x after pcs files (.inr goes.loop) goes.takesGem
  -- the sections that take an object out of a context
  have dropped : ∀ (c : Fin rknpuDrmMaxFiles) (k : Fin rknpuGemMax) (c' : Fin rknpuDrmMaxFiles),
      ((dropGem s c k).drmFiles c').used = false →
      ∀ j, (((dropGem s c k).drmFiles c').gems j).used = false := by
    intro c k c' unused j
    have keeps := dropGem_keeps s c c' k
    exact keeps.gone j (inv.idle c' (keeps.used.symm.trans unused) j)
  cases move with
  | rest => exact inv
  | hop hop => exact plain _ _ rfl rfl hop.follows.loop hop.follows.takesGem
  | allocate | newSlot | copySlot | noFd | getOwn | getPrime | refGet | take | copyObj | install
  | closeNone => exact plain _ _ rfl rfl (.inr rfl) rfl
  | insert => exact quiet _ _ rfl rfl (DmaFor.pc_goes _ _)
  | publish => exact quiet _ _ rfl rfl (NewFd.published_goes _ _ _ _)
  | unpublish => exact quiet _ _ rfl rfl (NewFd.failed_goes _)
  | poolFree => exact quiet _ _ rfl rfl (AfterClose.pc_goes _)
  | put | heapFree =>
    exact plain _ _ rfl rfl (.inl (AfterPut.pc_goes _ _).loop) (AfterPut.pc_goes _ _).takesGem
  | putLast => exact plain _ _ rfl rfl (.inl rfl) rfl
  | @gemCreate file i created origin files c k context free =>
    have goes := afterGem_goes i created
    refine inv.quiet rfl goes.loop goes.takesGem ?_ ?_
    · intro u _ file' c' k' loop
      have elsewhere : c' ≠ c := by
        intro same
        obtain ⟨used, own, _⟩ := inv.loop u file' c' k' loop
        rw [same] at used own
        rcases drmFileGetOrCreate_cases context with ⟨_, _, mine⟩ | ⟨unused, _, _⟩
        · exact nodes.other_file (by rw [here]; rfl) loop (own.symm.trans mine)
        · rw [unused] at used
          cases used
      show (s.drmFiles c').Keeps (update files c _ c')
      rw [update_of_ne elsewhere, drmFileGetOrCreate_elsewhere context elsewhere]
      exact .refl _
    · intro c'
      show (update files c _ c').used = false → ∀ j, ((update files c _ c').gems j).used = false
      by_cases self : c' = c
      · intro unused
        rw [self, update_self] at unused
        cases (drmFileGetOrCreate_own context).1.symm.trans unused
      · rw [update_of_ne self, drmFileGetOrCreate_elsewhere context self]
        exact inv.idle c'
  | destroy =>
    exact inv.quiet rfl rfl rfl (fun _ _ _ c _ _ => dropGem_keeps s _ c _) (dropped _ _)
  | @closeGem _ file c first k closing used before reached =>
    have start := inv.closing here closing
    have kept := start.keeps (dropGem_keeps s c c k)
    refine inv.step rfl ?_ ?_ ?_ (dropped _ _)
    · intro file' c' k' loop
      cases loop
      refine ⟨kept.1, kept.2.1, ?_⟩
      intro j below
      by_cases self : j = k
      · rw [self]
        exact dropGem_gone s c k
      · apply (dropGem_keeps s c c k).gone
        have under : j.val < k.val := by
          omega
        by_cases early : j.val < first
        · exact start.2.2 j early
        · exact before j (by omega) under
    · intro file' c' k' owed closing
      cases closing
      exact (dropGem_keeps s c c k).dmaIdx k
    · intro u _ file' c' k' _
      exact dropGem_keeps s c c' k
  | @closeEnd _ file c first closing rest =>
    have own := (inv.closing here closing).2.1
    have ends : (s.pc t).ends = some file := by
      rw [here]
      exact ends_of_closing closing
    refine inv.quiet rfl rfl rfl ?_ ?_
    · intro u other file' c' k' loop
      have elsewhere : c' ≠ c := by
        intro same
        have theirs := (inv.loop u file' c' k' loop).2.1
        rw [same, own] at theirs
        exact other (nodes.single u t file' (DmaPc.ends_of_loop loop) (theirs ▸ ends))
      show (s.drmFiles c').Keeps (update s.drmFiles c .empty c')
      rw [update_of_ne elsewhere]
      exact .refl _
    · intro c' unused
      change (update s.drmFiles c .empty c').used = false at unused
      show ∀ j, ((update s.drmFiles c .empty c').gems j).used = false
      by_cases self : c' = c
      · rw [self, update_self]
        exact fun _ => rfl
      · rw [update_of_ne self] at unused ⊢
        exact inv.idle c' unused

end AvatarKernel
