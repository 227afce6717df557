import AvatarKernel.Driver.DmaRefCount

namespace AvatarKernel

open Function Transition

variable {n : Nat}

/-- What a call yields from a handle: a descriptor of a slot, or a mapping of, a cache operation on
or a job in a range of physical memory. -/
inductive GemEffect where
  | fd (i : Fin dmaBufMax)
  | memory (paddr len : Nat)
  deriving DecidableEq

/-- The range on which `dma_buf_impl_sync_region` works. -/
def syncRegion (buf : DmaBuf) (offset len : Nat) : Option GemEffect :=
  if !buf.used ∨ len = 0 ∨ buf.region.bytes ≤ offset then none
  else some (.memory (buf.region.paddr + offset) (min len (buf.region.bytes - offset)))

theorem syncRegion_some (yields : syncRegion buf offset asked = some effect) :
    ∃ len, offset + len ≤ buf.region.bytes ∧ effect = .memory (buf.region.paddr + offset) len := by
  unfold syncRegion at yields
  by_cases outside : (!buf.used) = true ∨ asked = 0 ∨ buf.region.bytes ≤ offset
  · rw [if_pos outside] at yields
    cases yields
  · rw [if_neg outside] at yields
    exact ⟨min asked (buf.region.bytes - offset), by omega, (Option.some.inj yields).symm⟩

/-- What the next section of a call yields, and the call it yields it to. `MEM_SYNC` with size 0
works on the whole buffer, `SUBMIT` cleans the cache before it starts the job, and `sys_mmap` maps
nothing where the length is beyond that of the buffer. -/
def DmaPc.effects (bufs : DmaBufs) : DmaPc → List (Origin × GemEffect)
  | .publish _ (.prime i origin) _ => [(origin, .fd i)]
  | .get _ (.prime i origin) _ _ => [(origin, .fd i)]
  | .sync i offset size origin =>
    (syncRegion (bufs i) offset (if size ≠ 0 then size else (bufs i).size)).toList.map (origin, ·)
  | .submit paddr size i origin =>
    (syncRegion (bufs i) 0 size).toList.map (origin, ·) ++ [(origin, .memory paddr size)]
  | .map paddr size len _ origin =>
    if alignUp size < alignUp len then [] else [(origin, .memory paddr (alignUp len))]
  | _ => []

/-- The file of a call has a GEM object over the memory of an allocation, made through the same
opening and not destroyed before the call started. -/
def Allowed (s : DmaState n) (origin : Origin) (gen : Nat) : Prop :=
  ∃ grant ∈ s.grants, grant.opening = origin.opening ∧ grant.gen = gen ∧ grant.number ∉ origin.gone

/-- What is yielded is a buffer that is there and that the call's file made or imported. -/
def Confined (s : DmaState n) (origin : Origin) : GemEffect → Prop
  | .fd i => (s.bufs i).used = true ∧ Allowed s origin (s.bufs i).region.gen
  | .memory paddr len => ∃ i, (s.bufs i).used = true ∧ Allowed s origin (s.bufs i).region.gen ∧
      (s.bufs i).region.paddr ≤ paddr ∧
      paddr + len ≤ (s.bufs i).region.paddr + (s.bufs i).region.bytes

def DmaState.Isolated (s : DmaState n) : Prop :=
  ∀ t origin effect, (origin, effect) ∈ (s.pc t).effects s.bufs → Confined s origin effect

def DmaPc.view : DmaPc → Option (Fin dmaBufMax × Origin)
  | .poolAlloc _ (.prime i origin) => some (i, origin)
  | .publish _ (.prime i origin) _ => some (i, origin)
  | .get _ (.prime i origin) _ _ => some (i, origin)
  | .fromIndex i _ origin => some (i, origin)
  | .sync i _ _ origin => some (i, origin)
  | .submitRead i origin => some (i, origin)
  | .submit _ _ i origin => some (i, origin)
  | .map _ _ _ i origin => some (i, origin)
  | _ => none

def DmaFor.call : DmaFor → Option (Nat × Origin)
  | .gem file origin => some (file, origin)
  | .heap _ => none

def DmaPc.call : DmaPc → Option (Nat × Origin)
  | .heapAlloc why _ => why.call
  | .insert why _ _ => why.call
  | .lookFd file _ _ origin => some (file, origin)
  | .gemCreate file _ _ origin => some (file, origin)
  | .find file _ _ origin => some (file, origin)
  | .mmapLookup file _ _ origin => some (file, origin)
  | _ => none

/-- What a call has read out of its buffer's slot, or asked the heap for. -/
def Reads (s : DmaState n) : DmaPc → Prop
  | .heapAlloc _ size => size < 2 ^ 64
  | .insert _ size region => size ≤ region.bytes ∧ region.bytes = alignUp size
  | .submit paddr size i _ => paddr = (s.bufs i).region.paddr ∧ size = (s.bufs i).size
  | .map paddr size _ i _ => paddr = (s.bufs i).region.paddr ∧ size = (s.bufs i).size
  | _ => True

/-- The GEM object was made through the opening of its file that is still there, over the memory
that is behind its slot now, and has not been destroyed. -/
def GrantedBy (s : DmaState n) (file : Nat) (gem : Gem) : Prop :=
  ∃ grant ∈ s.grants, grant.number = gem.grant ∧
    grant.gen = (s.bufs gem.dmaIdx).region.gen ∧ gem.grant ∉ s.gone ∧
    (s.nodes file = .live grant.opening ∨ s.nodes file = .closing grant.opening)

structure Knows (s : DmaState n) (x : DmaPc) : Prop where
  view : ∀ i origin, x.view = some (i, origin) → Allowed s origin (s.bufs i).region.gen
  call : ∀ file origin, x.call = some (file, origin) →
    s.nodes file = .live origin.opening ∧ ∀ number ∈ origin.gone, number ∈ s.gone
  reads : Reads s x

/-- What the running calls know: the buffers they looked up are their file's, they are on a file
that is open, and what they have read is what is in the slot. -/
structure Known (s : DmaState n) : Prop where
  knows : ∀ t, Knows s (s.pc t)
  sized : ∀ i, (s.bufs i).used = true →
    (s.bufs i).size ≤ (s.bufs i).region.bytes ∧ (s.bufs i).region.bytes = alignUp (s.bufs i).size

def OneContext (files : DrmFiles) : Prop :=
  ∀ c c', (files c).used = true → (files c').used = true → (files c).file = (files c').file → c = c'

/-- Every GEM object in use is one of those made, each of them once, in the only context of its
file. -/
structure Grants (s : DmaState n) : Prop extends Known s where
  granted : ∀ c k, ((s.drmFiles c).gems k).used = true →
    GrantedBy s (s.drmFiles c).file ((s.drmFiles c).gems k)
  distinct : ∀ c k c' k', ((s.drmFiles c).gems k).used = true →
    ((s.drmFiles c').gems k').used = true →
    ((s.drmFiles c).gems k).grant = ((s.drmFiles c').gems k').grant → c = c' ∧ k = k'
  single : OneContext s.drmFiles
  numbered : ∀ grant ∈ s.grants, grant.number < s.grants.length
  past : ∀ number ∈ s.gone, number < s.grants.length

variable {i : Fin dmaBufMax} {origin : Origin} {pc : DmaPc}

theorem DmaPc.view_watched (view : pc.view = some (i, origin)) (pool : Fin fdPoolSize → PoolObj) :
    pc.watched pool = some i := by
  cases pc with
  | poolAlloc _ what | publish _ what | get _ what =>
    cases what with
    | prime =>
      cases view
      rfl
    | _ => cases view
  | _ =>
    cases view
    try rfl

variable {s s' : DmaState n}

theorem Allowed.mono (more : ∀ grant ∈ s.grants, grant ∈ s'.grants)
    (allowed : Allowed s origin gen) : Allowed s' origin gen := by
  obtain ⟨grant, member, rest⟩ := allowed
  exact ⟨grant, more grant member, rest⟩

variable {c : Fin rknpuDrmMaxFiles} {file : Nat} {t : Fin n}

theorem Grants.found (inv : Grants s) {handle : Nat} {k : Fin rknpuGemMax}
    (call : (s.pc t).call = some (file, origin))
    (found : handleFind s.drmFiles file handle = some (c, k)) :
    Allowed s origin (s.bufs ((s.drmFiles c).gems k).dmaIdx).region.gen := by
  obtain ⟨_, own, used⟩ := handleFind_used found
  obtain ⟨grant, member, number, gen, alive, node⟩ := inv.granted c k used
  obtain ⟨live, gone⟩ := (inv.knows t).call file origin call
  rw [own, live] at node
  refine ⟨grant, member, ?_, gen, ?_⟩
  · rcases node with same | same
    · exact (NodeFile.live.inj same).symm
    · cases same
  · rw [number]
    intro earlier
    exact alive (gone _ earlier)

theorem Grants.isolated (inv : Grants s) (ledger : BufLedger s) : s.Isolated := by
  intro t origin effect yields
  have view := (inv.knows t).view
  have used := ledger.watched t
  have reads := (inv.knows t).reads
  generalize s.pc t = pc at yields view used reads
  have seen : ∀ {i : Fin dmaBufMax} {origin : Origin}, pc.view = some (i, origin) →
      (s.bufs i).used = true ∧ Allowed s origin (s.bufs i).region.gen := by
    intro i origin same
    exact ⟨used i (DmaPc.view_watched same s.pool), view i origin same⟩
  have synced : ∀ {i : Fin dmaBufMax} {own : Origin} {offset len : Nat},
      pc.view = some (i, own) →
        (origin, effect) ∈ (syncRegion (s.bufs i) offset len).toList.map (own, ·) →
          Confined s origin effect := by
    intro i own offset len same inside
    obtain ⟨range, found, both⟩ := List.mem_map.mp inside
    cases both
    obtain ⟨there, allowed⟩ := seen same
    obtain ⟨len, inside, is⟩ := syncRegion_some (Option.mem_toList.mp found)
    rw [is]
    exact ⟨i, there, allowed, by omega, by omega⟩
  cases pc with
  | publish _ what | get _ what =>
    cases what with
    | prime =>
      cases List.mem_singleton.mp yields
      exact seen rfl
    | _ => cases yields
  | sync i => exact synced rfl yields
  | submit _ _ i =>
    rcases List.mem_append.mp yields with cleans | job
    · exact synced rfl cleans
    · cases List.mem_singleton.mp job
      obtain ⟨there, allowed⟩ := seen rfl
      obtain ⟨base, length⟩ := reads
      have bound := (inv.sized i there).1
      exact ⟨i, there, allowed, by omega, by omega⟩
  | map _ _ _ i =>
    unfold DmaPc.effects at yields
    dsimp only at yields
    split at yields
    · cases yields
    · cases List.mem_singleton.mp yields
      obtain ⟨there, allowed⟩ := seen rfl
      obtain ⟨base, length⟩ := reads
      have bound := (inv.sized i there).2
      rw [← length] at bound
      exact ⟨i, there, allowed, by omega, by omega⟩
  | _ => cases yields

theorem Reads.kept (reads : Reads s pc) (same : ∀ i origin, pc.view = some (i, origin) →
      (s'.bufs i).region = (s.bufs i).region ∧ (s'.bufs i).size = (s.bufs i).size) :
    Reads s' pc := by
  cases pc with
  | submit _ _ i origin | map _ _ _ i origin =>
    obtain ⟨region, length⟩ := same i origin rfl
    exact ⟨reads.1.trans (by rw [region]), reads.2.trans length.symm⟩
  | _ => exact reads

/-- What a step of one thread does to the slots: those in use before and after keep their memory,
and memory enters a slot with its size. -/
structure SlotStep (s s' : DmaState n) : Prop where
  kept : ∀ i, (s.bufs i).used = true → (s'.bufs i).used = true →
    (s'.bufs i).region = (s.bufs i).region ∧ (s'.bufs i).size = (s.bufs i).size
  fresh : ∀ i, (s.bufs i).used = false → (s'.bufs i).used = true →
    (s'.bufs i).size ≤ (s'.bufs i).region.bytes ∧
      (s'.bufs i).region.bytes = alignUp (s'.bufs i).size

namespace SlotStep

theorem same (used : ∀ i, (s'.bufs i).used = (s.bufs i).used)
    (region : ∀ i, (s'.bufs i).region = (s.bufs i).region)
    (size : ∀ i, (s'.bufs i).size = (s.bufs i).size) : SlotStep s s' where
  kept i _ _ := ⟨region i, size i⟩
  fresh i unused now := by
    rw [used i, unused] at now
    cases now

theorem of_bufs (bufs : s'.bufs = s.bufs) : SlotStep s s' := by
  apply same <;> intro i <;> rw [bufs]

theorem get (bufs : s'.bufs = dmaBufGet s.bufs i) : SlotStep s s' := by
  apply same <;> intro j <;> rw [bufs]
  · exact (dmaBufGet_other s.bufs i j).1
  · exact (dmaBufGet_other s.bufs i j).2.1
  · exact (dmaBufGet_other s.bufs i j).2.2.1

theorem update (bufs : s'.bufs = Function.update s.bufs i buf)
    (kept : (s.bufs i).used = true → buf.used = true →
      buf.region = (s.bufs i).region ∧ buf.size = (s.bufs i).size)
    (fresh : (s.bufs i).used = false → buf.used = true →
      buf.size ≤ buf.region.bytes ∧ buf.region.bytes = alignUp buf.size) : SlotStep s s' := by
  constructor <;> intro j before now <;> by_cases here : j = i
  · subst here
    rw [bufs, update_self] at now ⊢
    exact kept before now
  · rw [bufs, update_of_ne here]
    exact ⟨rfl, rfl⟩
  · subst here
    rw [bufs, update_self] at now ⊢
    exact fresh before now
  · rw [bufs, update_of_ne here, before] at now
    cases now

end SlotStep

section Step

variable {s s' : DmaState n} {t : Fin n} {x : DmaPc}

theorem Knows.other (inv : Knows s (s.pc u)) (ledger : BufLedger s) (ledger' : BufLedger s')
    (stays : s'.pc u = s.pc u) (slots : SlotStep s s')
    (grants : ∀ grant ∈ s.grants, grant ∈ s'.grants) (gone : ∀ number ∈ s.gone, number ∈ s'.gone)
    (nodes : ∀ file origin, (s.pc u).call = some (file, origin) → s'.nodes file = s.nodes file) :
    Knows s' (s.pc u) := by
  -- a buffer that a call has looked up is there before and after
  have same : ∀ i origin, (s.pc u).view = some (i, origin) →
      (s'.bufs i).region = (s.bufs i).region ∧ (s'.bufs i).size = (s.bufs i).size := by
    intro i origin seen
    apply slots.kept i
    · exact ledger.watched u i (DmaPc.view_watched seen s.pool)
    · apply ledger'.watched u i
      rw [stays]
      exact DmaPc.view_watched seen s'.pool
  constructor
  · intro i origin seen
    rw [(same i origin seen).1]
    exact (inv.view i origin seen).mono grants
  · intro file origin calls
    obtain ⟨live, before⟩ := inv.call file origin calls
    rw [nodes file origin calls]
    exact ⟨live, fun number old => gone number (before number old)⟩
  · exact inv.reads.kept same

theorem Known.step (inv : Known s) (ledger : BufLedger s) (ledger' : BufLedger s')
    (pcs : s'.pc = update s.pc t x) (slots : SlotStep s s')
    (grants : ∀ grant ∈ s.grants, grant ∈ s'.grants) (gone : ∀ number ∈ s.gone, number ∈ s'.gone)
    (nodes : ∀ u, u ≠ t → ∀ file origin, (s.pc u).call = some (file, origin) →
      s'.nodes file = s.nodes file)
    (knows : Knows s' x) : Known s' := by
  constructor
  · intro u
    by_cases self : u = t
    · rw [self, pc_self pcs]
      exact knows
    · have stays := pc_other pcs self
      rw [stays]
      exact (inv.knows u).other ledger ledger' stays slots grants gone (nodes u self)
  · intro i now
    cases before : (s.bufs i).used with
    | false => exact slots.fresh i before now
    | true =>
      obtain ⟨region, length⟩ := slots.kept i before now
      rw [region, length]
      exact inv.sized i before

theorem GrantedBy.kept (granted : GrantedBy s file gem)
    (region : (s'.bufs gem.dmaIdx).region = (s.bufs gem.dmaIdx).region)
    (grants : ∀ grant ∈ s.grants, grant ∈ s'.grants)
    (gone : gem.grant ∉ s.gone → gem.grant ∉ s'.gone)
    (nodes : ∀ opening, (s.nodes file = .live opening ∨ s.nodes file = .closing opening) →
      s'.nodes file = .live opening ∨ s'.nodes file = .closing opening) :
    GrantedBy s' file gem := by
  obtain ⟨grant, member, number, gen, alive, node⟩ := granted
  exact ⟨grant, grants grant member, number, by rw [region]; exact gen, gone alive,
    nodes grant.opening node⟩

theorem Grants.plain (inv : Grants s) (ledger : BufLedger s) (ledger' : BufLedger s')
    (pcs : s'.pc = update s.pc t x) (files : s'.drmFiles = s.drmFiles)
    (nodes : s'.nodes = s.nodes) (grants : s'.grants = s.grants) (gone : s'.gone = s.gone)
    (slots : SlotStep s s') (knows : Knows s' x) : Grants s' := by
  have more : ∀ grant ∈ s.grants, grant ∈ s'.grants := by
    rw [grants]
    exact fun _ => id
  have known := inv.toKnown.step ledger ledger' pcs slots more (by rw [gone]; exact fun _ => id)
    (by intro u _ file origin _; rw [nodes]) knows
  refine ⟨known, ?_, ?_, ?_, ?_, ?_⟩
  · rw [files]
    intro c k used
    have after := @BufLedger.used_of_gem _ _ ledger' c k (by rw [files]; exact used)
    rw [files] at after
    apply (inv.granted c k used).kept (slots.kept _ (ledger.used_of_gem used) after).1 more
    · rw [gone]
      exact id
    · rw [nodes]
      exact fun _ => id
  · rw [files]
    exact inv.distinct
  · rw [files]
    exact inv.single
  · rw [grants]
    exact inv.numbered
  · rw [gone, grants]
    exact inv.past

end Step

structure DmaPc.Quiet (x : DmaPc) : Prop where
  view : x.view = none
  call : x.call = none
  reads : ∀ (n : Nat) (s : DmaState n), Reads s x

section Quiet

variable (paid : Bool) (i : Fin dmaBufMax)

theorem idle_quiet : DmaPc.idle.Quiet := ⟨rfl, rfl, fun _ _ => trivial⟩

theorem AfterClose.pc_quiet (next : AfterClose) : next.pc.Quiet := by
  cases next <;> exact ⟨rfl, rfl, fun _ _ => trivial⟩

theorem AfterPut.pc_quiet (next : AfterPut) : (next.pc paid).Quiet := by
  cases next <;> exact ⟨rfl, rfl, fun _ _ => trivial⟩

theorem NewFd.failed_quiet (what : NewFd) : what.failed.Quiet := by
  cases what <;> exact ⟨rfl, rfl, fun _ _ => trivial⟩

theorem afterGem_quiet (created : Bool) : (afterGem i created).Quiet := by
  cases created <;> exact ⟨rfl, rfl, fun _ _ => trivial⟩

end Quiet

variable {x : DmaPc}

theorem forall_of_none {P : α → β → Prop} (nothing : entry = none) (a : α) (b : β)
    (found : entry = some (a, b)) : P a b := by
  rw [nothing] at found
  cases found

theorem Knows.nothing (view : x.view = none) (call : x.call = none) (reads : Reads s x) :
    Knows s x := ⟨forall_of_none view, forall_of_none call, reads⟩

theorem DmaPc.Quiet.knows (quiet : x.Quiet) (s : DmaState n) : Knows s x :=
  .nothing quiet.view quiet.call (quiet.reads n s)

theorem Knows.congr (knows : Knows s x) (bufs : s'.bufs = s.bufs) (nodes : s'.nodes = s.nodes)
    (grants : s'.grants = s.grants) (gone : s'.gone = s.gone) : Knows s' x := by
  refine ⟨?_, ?_, ?_⟩
  · rw [bufs]
    unfold Allowed
    rw [grants]
    exact knows.view
  · rw [nodes, gone]
    exact knows.call
  · apply knows.reads.kept
    intro i origin _
    rw [bufs]
    exact ⟨rfl, rfl⟩

theorem Knows.same_view (knows : Knows s pc) (view : x.view = pc.view) (call : x.call = none)
    (reads : Reads s x) : Knows s x :=
  ⟨by rw [view]; exact knows.view, forall_of_none call, reads⟩

theorem Knows.same_call (knows : Knows s pc) (view : x.view = none) (call : x.call = pc.call)
    (reads : Reads s x) : Knows s x :=
  ⟨forall_of_none view, by rw [call]; exact knows.call, reads⟩

theorem Knows.found (view : x.view = some (i, origin)) (call : x.call = none)
    (allowed : Allowed s origin (s.bufs i).region.gen) (reads : Reads s x) : Knows s x := by
  refine ⟨?_, forall_of_none call, reads⟩
  intro j origin' seen
  rw [view] at seen
  cases seen
  exact allowed

theorem GemUse.knows (use : GemUse) (allowed : Allowed s origin (s.bufs i).region.gen) :
    Knows s (use.pc i origin) := by
  rcases GemUse.pc_cases i origin use with same | ⟨_, same⟩ | ⟨_, _, same⟩ | same <;> rw [same]
  · exact idle_quiet.knows s
  · exact .found rfl rfl allowed trivial
  · exact .found rfl rfl allowed trivial
  · exact .found rfl rfl allowed trivial

theorem Grants.hop {next : DmaPc} (inv : Grants s) (hop : Hop s (s.pc t) next) : Knows s next := by
  have before := inv.knows t
  have found {origin c file} := @Grants.found n origin s c file t inv
  generalize s.pc t = pc at hop before found
  cases hop with
  | poolFull => exact (NewFd.failed_quiet _).knows s
  | indexUnused | putUnused => exact (AfterPut.pc_quiet _ _).knows s
  | notOpen => exact (AfterClose.pc_quiet _).knows s
  | fdBuf => exact before.same_call rfl rfl trivial
  | noGem => exact (afterGem_quiet _ _).knows s
  | handle place => exact .found rfl rfl (found rfl place) trivial
  | usable => exact GemUse.knows _ (before.view _ _ rfl)
  | read => exact before.same_view rfl rfl ⟨rfl, rfl⟩
  | mapping place names =>
    rw [names]
    exact .found rfl rfl (found rfl place) ⟨rfl, rfl⟩
  | _ => exact .nothing rfl rfl trivial

theorem Grants.quiet (inv : Grants s) (ledger : BufLedger s) (ledger' : BufLedger s')
    (pcs : s'.pc = update s.pc t x) (files : s'.drmFiles = s.drmFiles) (nodes : s'.nodes = s.nodes)
    (grants : s'.grants = s.grants) (gone : s'.gone = s.gone) (slots : SlotStep s s')
    (quiet : x.Quiet) : Grants s' :=
  inv.plain ledger ledger' pcs files nodes grants gone slots (quiet.knows s')

variable {files : DrmFiles}

theorem OneContext.setGem (single : OneContext files) (c : Fin rknpuDrmMaxFiles)
    (k : Fin rknpuGemMax) (gem : Gem) : OneContext (setGem files c k gem) := by
  intro c₁ c₂
  obtain ⟨used₁, file₁⟩ := setGem_context files c c₁ k gem
  obtain ⟨used₂, file₂⟩ := setGem_context files c c₂ k gem
  rw [used₁, file₁, used₂, file₂]
  exact single c₁ c₂

theorem drmFileFind_none (missing : drmFileFind files file = none) (c : Fin rknpuDrmMaxFiles)
    (used : (files c).used = true) : (files c).file ≠ file := by
  intro same
  have other := List.find?_eq_none.mp missing c (List.mem_finRange c)
  rw [used, same, Bool.true_and, beq_self_eq_true] at other
  exact other rfl

variable {made : DrmFiles}

theorem OneContext.getOrCreate (single : OneContext files)
    (context : drmFileGetOrCreate files file = some (made, c)) : OneContext made := by
  rcases drmFileGetOrCreate_cases context with ⟨rfl, _⟩ | ⟨_, rfl, missing⟩
  · exact single
  · intro c₁ c₂ used₁ used₂ same
    by_cases first : c₁ = c
    · by_cases second : c₂ = c
      · rw [first, second]
      · rw [first, update_self, update_of_ne second] at same
        rw [update_of_ne second] at used₂
        exact absurd same.symm (drmFileFind_none missing c₂ used₂)
    · rw [update_of_ne first] at used₁ same
      by_cases second : c₂ = c
      · rw [second, update_self] at same
        exact absurd same (drmFileFind_none missing c₁ used₁)
      · rw [update_of_ne second] at used₂ same
        exact single c₁ c₂ used₁ used₂ same

theorem OneContext.clear (single : OneContext files) (c : Fin rknpuDrmMaxFiles) :
    OneContext (update files c .empty) := by
  have stays : ∀ c', (update files c .empty c').used = true →
      update files c .empty c' = files c' := by
    intro c' used
    by_cases here : c' = c
    · rw [here, update_self] at used
      cases used
    · exact update_of_ne here _ _
  intro c₁ c₂ used₁ used₂ same
  have first := stays c₁ used₁
  have second := stays c₂ used₂
  rw [first] at used₁ same
  rw [second] at used₂ same
  exact single c₁ c₂ used₁ used₂ same

theorem drmFileGetOrCreate_gem (context : drmFileGetOrCreate files file = some (made, c))
    (used : ((made c').gems k').used = true) : made c' = files c' := by
  by_cases here : c' = c
  · rcases drmFileGetOrCreate_cases context with ⟨same, _⟩ | ⟨_, new, _⟩
    · rw [same]
    · rw [new, here, update_self] at used
      cases used
  · exact drmFileGetOrCreate_elsewhere context here

section Objects

variable {s s' : DmaState n} {t : Fin n} {x : DmaPc}

variable {c : Fin rknpuDrmMaxFiles} {k : Fin rknpuGemMax}

theorem Grants.grant_lt (inv : Grants s) (used : ((s.drmFiles c).gems k).used = true) :
    ((s.drmFiles c).gems k).grant < s.grants.length := by
  obtain ⟨grant, member, number, _⟩ := inv.granted c k used
  rw [← number]
  exact inv.numbered grant member

theorem Grants.distinct_of (inv : Grants s)
    (gems : ∀ c k, ((s'.drmFiles c).gems k).used = true →
      (s'.drmFiles c).gems k = (s.drmFiles c).gems k) :
    ∀ c k c' k', ((s'.drmFiles c).gems k).used = true → ((s'.drmFiles c').gems k').used = true →
      ((s'.drmFiles c).gems k).grant = ((s'.drmFiles c').gems k').grant → c = c' ∧ k = k' := by
  intro c k c' k' used used' equal
  have same := gems c k used
  have same' := gems c' k' used'
  rw [same] at used equal
  rw [same'] at used' equal
  exact inv.distinct c k c' k' used used' equal

section

variable (inv : Grants s) (ledger : BufLedger s) (ledger' : BufLedger s')

include inv ledger ledger'

theorem Grants.create (context : drmFileGetOrCreate s.drmFiles file = some (files, c))
    (call : (s.pc t).call = some (file, origin)) (quiet : x.Quiet) (pcs : s'.pc = update s.pc t x)
    (bufs : s'.bufs = dmaBufGet s.bufs i)
    (made : s'.drmFiles = setGem files c k ⟨true, handle, i, size, s.grants.length⟩)
    (nodes : s'.nodes = s.nodes) (gone : s'.gone = s.gone)
    (grants : s'.grants = ⟨origin.opening, s.grants.length, (s.bufs i).region.gen⟩ :: s.grants) :
    Grants s' := by
  have slots : SlotStep s s' := .get bufs
  have region : ∀ j, (s'.bufs j).region = (s.bufs j).region := by
    intro j
    rw [bufs]
    exact (dmaBufGet_other s.bufs i j).2.1
  have more : ∀ grant ∈ s.grants, grant ∈ s'.grants := by
    intro grant member
    rw [grants]
    exact List.mem_cons_of_mem _ member
  -- an object in use is the new one or was there before
  have object : ∀ c' k', ((s'.drmFiles c').gems k').used = true →
      ((c', k') = (c, k) ∧ (s'.drmFiles c').gems k' = ⟨true, handle, i, size, s.grants.length⟩) ∨
      ((s'.drmFiles c').gems k' = (s.drmFiles c').gems k' ∧
        ((s.drmFiles c').gems k').used = true ∧ (s'.drmFiles c').file = (s.drmFiles c').file) := by
    intro c' k'
    rw [made, setGem_gems, (setGem_context files c c' k _).2]
    intro used
    by_cases here : (c', k') = (c, k)
    · rw [if_pos here]
      exact .inl ⟨here, rfl⟩
    · rw [if_neg here] at used ⊢
      have same := drmFileGetOrCreate_gem context used
      rw [same] at used ⊢
      exact .inr ⟨rfl, used, rfl⟩
  refine ⟨?_, ?_, ?_, ?_, ?_, ?_⟩
  · apply inv.toKnown.step ledger ledger' pcs slots more
    · rw [gone]
      exact fun _ => id
    · intro u _ file' origin' _
      rw [nodes]
    · exact quiet.knows s'
  · intro c' k' used
    rcases object c' k' used with ⟨here, new⟩ | ⟨same, before, file'⟩
    · rw [new]
      obtain ⟨live, _⟩ := (inv.knows t).call file origin call
      refine ⟨⟨origin.opening, s.grants.length, (s.bufs i).region.gen⟩, ?_, rfl, ?_, ?_, .inl ?_⟩
      · rw [grants]
        exact List.mem_cons_self
      · rw [region]
      · rw [gone]
        intro earlier
        exact Nat.lt_irrefl _ (inv.past _ earlier)
      · cases here
        rw [nodes, made, (setGem_context files c c k _).2, (drmFileGetOrCreate_own context).2]
        exact live
    · rw [same, file']
      apply (inv.granted c' k' before).kept (region _) more
      · rw [gone]
        exact id
      · rw [nodes]
        exact fun _ => id
  · intro c₁ k₁ c₂ k₂ used₁ used₂ equal
    rcases object c₁ k₁ used₁ with ⟨here₁, new₁⟩ | ⟨same₁, before₁, _⟩
    · rcases object c₂ k₂ used₂ with ⟨here₂, _⟩ | ⟨same₂, before₂, _⟩
      · exact Prod.mk.inj (here₁.trans here₂.symm)
      · rw [new₁, same₂] at equal
        have older := inv.grant_lt before₂
        exact absurd equal.symm (Nat.ne_of_lt older)
    · rcases object c₂ k₂ used₂ with ⟨_, new₂⟩ | ⟨same₂, before₂, _⟩
      · rw [new₂, same₁] at equal
        have older := inv.grant_lt before₁
        exact absurd equal (Nat.ne_of_lt older)
      · rw [same₁, same₂] at equal
        exact inv.distinct c₁ k₁ c₂ k₂ before₁ before₂ equal
  · rw [made]
    exact (inv.single.getOrCreate context).setGem c k _
  · rw [grants]
    intro grant member
    rcases List.mem_cons.mp member with new | old
    · rw [new]
      exact Nat.lt_succ_self _
    · exact Nat.lt_succ_of_lt (inv.numbered grant old)
  · rw [gone, grants]
    intro number member
    exact Nat.lt_succ_of_lt (inv.past number member)

theorem Grants.drop (used : ((s.drmFiles c).gems k).used = true) (quiet : x.Quiet)
    (same : s' = (dropGem s c k).goto t x) : Grants s' := by
  subst same
  have gems : ∀ c' k', ((((dropGem s c k).goto t x).drmFiles c').gems k').used = true →
      (c', k') ≠ (c, k) ∧
        (((dropGem s c k).goto t x).drmFiles c').gems k' = (s.drmFiles c').gems k' := by
    intro c' k'
    show (((dropGem s c k).drmFiles c').gems k').used = true →
      _ ∧ ((dropGem s c k).drmFiles c').gems k' = _
    rw [dropGem_gems]
    by_cases here : (c', k') = (c, k)
    · rw [if_pos here]
      intro dropped
      cases dropped
    · rw [if_neg here]
      exact fun _ => ⟨here, rfl⟩
  have file : ∀ c', (((dropGem s c k).goto t x).drmFiles c').file = (s.drmFiles c').file :=
    fun c' => (setGem_context s.drmFiles c c' k _).2
  refine ⟨?_, ?_, ?_, ?_, ?_, ?_⟩
  · apply inv.toKnown.step ledger ledger' rfl (.of_bufs rfl) (fun _ => id)
    · intro number old
      exact List.mem_cons_of_mem _ old
    · intro u _ file' origin _
      rfl
    · exact quiet.knows _
  · intro c' k' stays
    obtain ⟨apart, same⟩ := gems c' k' stays
    rw [same] at stays
    rw [same, file c']
    refine (inv.granted c' k' stays).kept rfl (fun _ => id) ?_ (fun _ => id)
    intro alive earlier
    rcases List.mem_cons.mp earlier with this | before
    · obtain ⟨context, slot⟩ := inv.distinct c' k' c k stays used this
      exact apart (by rw [context, slot])
    · exact alive before
  · exact inv.distinct_of fun c' k' stays => (gems c' k' stays).2
  · exact inv.single.setGem c k _
  · exact inv.numbered
  · intro number member
    rcases List.mem_cons.mp member with this | before
    · rw [this]
      exact inv.grant_lt used
    · exact inv.past number before

theorem Grants.ended (files : Nodes s) (ends : (s.pc t).ends = some file)
    (pcs : s'.pc = update s.pc t .idle) (bufs : s'.bufs = s.bufs)
    (nodes : s'.nodes = update s.nodes file .absent) (grants : s'.grants = s.grants)
    (gone : s'.gone = s.gone) (single : OneContext s'.drmFiles)
    (stays : ∀ c k, ((s'.drmFiles c).gems k).used = true →
      s'.drmFiles c = s.drmFiles c ∧ (s.drmFiles c).file ≠ file) : Grants s' := by
  have more : ∀ grant ∈ s.grants, grant ∈ s'.grants := by
    rw [grants]
    exact fun _ => id
  refine ⟨?_, ?_, ?_, single, ?_, ?_⟩
  · apply inv.toKnown.step ledger ledger' pcs (.of_bufs bufs) more
    · rw [gone]
      exact fun _ => id
    · intro u _ file' origin calls
      have other : file' ≠ file := by
        intro same
        obtain ⟨live, _⟩ := (inv.knows u).call file' origin calls
        obtain ⟨_, closing⟩ := files.ending t file ends
        rw [same, closing] at live
        cases live
      rw [nodes, update_of_ne other]
    · exact idle_quiet.knows s'
  · intro c k used
    obtain ⟨same, other⟩ := stays c k used
    rw [same] at used ⊢
    apply (inv.granted c k used).kept (by rw [bufs]) more
    · rw [gone]
      exact id
    · rw [nodes, update_of_ne other]
      exact fun _ => id
  · apply inv.distinct_of
    intro c k used
    rw [(stays c k used).1]
  · rw [grants]
    exact inv.numbered
  · rw [gone, grants]
    exact inv.past

end

end Objects

theorem Contexts.used_of_gem (inv : Contexts s) (used : ((s.drmFiles c).gems k).used = true) :
    (s.drmFiles c).used = true := by
  cases context : (s.drmFiles c).used with
  | true => rfl
  | false =>
    rw [inv.idle c context k] at used
    cases used

theorem Reads.allocated (small : size < 2 ^ 64) (fits : 0 < (size + 4095) % 2 ^ 64 / 4096) :
    Reads s (.insert why size ⟨gen, paddr, alignUp size⟩) := by
  refine ⟨?_, rfl⟩
  by_cases large : 2 ^ 64 - 4096 < size
  · have none_ := alignUp_of_gt large small
    omega
  · exact (alignUp_of_le (Nat.le_of_not_lt large)).1

theorem NewFd.published_knows (knows : Knows s (.publish pid what p)) :
    Knows s (what.published pid p fd) := by
  cases what with
  | own | prime => exact knows.same_view rfl rfl trivial
  | other => exact idle_quiet.knows s

theorem DmaFor.pc_knows (knows : Knows s (.insert why size region)) : Knows s (why.pc i) := by
  cases why with
  | heap | gem => exact knows.same_call rfl rfl trivial

theorem Grants.move (inv : Grants s) (before : DmaInv s) (after : BufLedger s')
    (move : Move s t (s.pc t) s') : Grants s' := by
  have knows := inv.knows t
  have ledger := before.ledger
  generalize here : s.pc t = pc at move knows
  cases move with
  | rest => exact inv
  | hop hop =>
    refine inv.plain ledger after rfl rfl rfl rfl rfl (.of_bufs rfl) ?_
    rw [← here] at hop
    exact (inv.hop hop).congr rfl rfl rfl rfl
  | allocate fits =>
    refine inv.plain ledger after rfl rfl rfl rfl rfl (.of_bufs rfl) ?_
    refine Knows.congr (s := s) ?_ rfl rfl rfl rfl
    exact knows.same_call rfl rfl (.allocated knows.reads fits)
  | @insert why size region i unused =>
    refine inv.plain ledger after rfl rfl rfl rfl rfl ?_ ?_
    · exact .update rfl (fun used => absurd (unused.symm.trans used) Bool.false_ne_true)
        fun _ _ => knows.reads
    · have next := @DmaFor.pc_knows _ i _ _ _ _ knows
      refine ⟨?_, next.call, ?_⟩
      · intro j origin seen
        cases why <;> cases seen
      · cases why <;> trivial
  | @newSlot pid what p free =>
    refine inv.plain ledger after rfl rfl rfl rfl rfl (.of_bufs rfl) ?_
    refine Knows.congr (s := s) ?_ rfl rfl rfl rfl
    exact knows.same_view (by cases what <;> rfl) rfl trivial
  | copySlot | noFd | take | copyObj =>
    exact inv.quiet ledger after rfl rfl rfl rfl rfl (.of_bufs rfl) ⟨rfl, rfl, fun _ _ => trivial⟩
  | publish =>
    refine inv.plain ledger after rfl rfl rfl rfl rfl (.of_bufs rfl) ?_
    exact (NewFd.published_knows knows).congr rfl rfl rfl rfl
  | unpublish =>
    exact inv.quiet ledger after rfl rfl rfl rfl rfl (.of_bufs rfl) (NewFd.failed_quiet _)
  | poolFree =>
    exact inv.quiet ledger after rfl rfl rfl rfl rfl (.of_bufs rfl) (AfterClose.pc_quiet _)
  | getOwn | refGet =>
    exact inv.quiet ledger after rfl rfl rfl rfl rfl (.get rfl) ⟨rfl, rfl, fun _ _ => trivial⟩
  | getPrime => exact inv.quiet ledger after rfl rfl rfl rfl rfl (.get rfl) idle_quiet
  | @put i next used more =>
    refine inv.quiet ledger after rfl rfl rfl rfl rfl ?_ (AfterPut.pc_quiet _ _)
    exact .update rfl (fun _ _ => ⟨rfl, rfl⟩)
      fun unused => absurd (unused.symm.trans used) Bool.false_ne_true
  | @putLast i next used last =>
    refine inv.quiet ledger after rfl rfl rfl rfl rfl ?_ ⟨rfl, rfl, fun _ _ => trivial⟩
    exact .update rfl (fun _ now => absurd now Bool.false_ne_true)
      fun _ now => absurd now Bool.false_ne_true
  | heapFree =>
    exact inv.quiet ledger after rfl rfl rfl rfl rfl (.of_bufs rfl) (AfterPut.pc_quiet _ _)
  | install => exact inv.quiet ledger after rfl rfl rfl rfl rfl (.of_bufs rfl) idle_quiet
  | gemCreate context =>
    exact inv.create ledger after context (by rw [here]; rfl) (afterGem_quiet _ _) rfl rfl
      rfl rfl rfl rfl
  | destroy found =>
    refine inv.drop ledger after (handleFind_used found).2.2 ?_ rfl
    exact ⟨rfl, rfl, fun _ _ => trivial⟩
  | closeGem _ used =>
    refine inv.drop ledger after used ?_ rfl
    exact ⟨rfl, rfl, fun _ _ => trivial⟩
  | @closeEnd _ file c first closing rest =>
    obtain ⟨inUse, own, _⟩ := before.contexts.closing here closing
    refine inv.ended ledger after before.nodes (by rw [here]; exact ends_of_closing closing)
      rfl rfl rfl rfl rfl (inv.single.clear c) ?_
    intro c' k
    show ((update s.drmFiles c .empty c').gems k).used = true →
      update s.drmFiles c .empty c' = _ ∧ _
    by_cases same : c' = c
    · rw [same, update_self]
      intro used
      cases used
    · rw [update_of_ne same]
      intro used
      refine ⟨rfl, ?_⟩
      intro equal
      exact same (inv.single c' c (before.contexts.used_of_gem used) inUse (equal.trans own.symm))
  | @closeNone file missing =>
    refine inv.ended ledger after before.nodes (by rw [here]; rfl) rfl rfl rfl rfl rfl
      inv.single ?_
    intro c k used
    exact ⟨rfl, drmFileFind_none missing c (before.contexts.used_of_gem used)⟩

theorem DmaPc.call_onFile (call : pc.call = some (file, origin)) : pc.onFile = some file := by
  cases pc with
  | heapAlloc why | insert why =>
    cases why <;> cases call
    rfl
  | _ =>
    cases call
    try rfl

theorem Knows.begin {opening : Nat} (live : s.nodes file = .live opening) (view : x.view = none)
    (call : x.call = some (file, ⟨opening, s.gone⟩)) (reads : Reads s x) : Knows s x := by
  refine ⟨forall_of_none view, ?_, reads⟩
  intro file' origin calls
  rw [call] at calls
  cases calls
  exact ⟨live, fun _ => id⟩

theorem onNode_knows {pc : Origin → DmaPc} (free : s.pc t = .idle)
    (begins : ∀ opening, s.nodes file = .live opening → Knows s (pc ⟨opening, s.gone⟩)) :
    Knows s ((onNode s t file pc).pc t) := by
  unfold onNode
  split
  · rename_i opening live
    show Knows s (update s.pc t _ t)
    rw [update_self]
    exact begins opening live
  · rw [free]
    exact idle_quiet.knows s

theorem enterCall_knows (free : s.pc t = .idle) (call : DmaCall) :
    Knows s ((enterCall s t call).pc t) := by
  have plain : ∀ x : DmaPc, Knows s x → Knows s ((s.goto t x).pc t) := by
    intro x knows
    show Knows s (update s.pc t x t)
    rw [update_self]
    exact knows
  cases call with
  | heapAlloc _ len =>
    apply plain
    split
    · exact idle_quiet.knows s
    · exact .nothing rfl rfl len.isLt
  | openOther | close | copy => exact plain _ (.nothing rfl rfl trivial)
  | drmClose =>
    unfold enterCall
    dsimp only
    split
    · exact plain _ (.nothing rfl rfl trivial)
    · rw [free]
      exact idle_quiet.knows s
  | memCreate _ size =>
    apply onNode_knows free
    intro opening live
    split
    · exact idle_quiet.knows s
    · exact .begin live rfl rfl size.isLt
  | memDestroy =>
    apply onNode_knows free
    intro opening live
    exact .nothing rfl rfl trivial
  | memSync | submit | mmap | handleToFd | fdToHandle =>
    apply onNode_knows free
    intro opening live
    exact .begin live rfl rfl trivial

theorem Grants.entered (inv : Grants s) (before : DmaInv s) (after : DmaInv s')
    (guard : ∀ file ∈ call.closesFile, ∀ u, (s.pc u).onFile ≠ some file)
    (knows : Knows s (s'.pc t)) (entered : Entered s t call s') : Grants s' := by
  cases entered with
  | nothing => exact inv
  | call =>
    rw [pc_self rfl] at knows
    refine inv.plain before.ledger after.ledger rfl rfl rfl rfl rfl (.of_bufs rfl) ?_
    exact knows.congr rfl rfl rfl rfl
  | @close file opening live =>
    refine ⟨?_, ?_, inv.distinct, inv.single, inv.numbered, inv.past⟩
    · refine inv.toKnown.step before.ledger after.ledger rfl (.of_bufs rfl) (fun _ => id)
        (fun _ => id) ?_ (.nothing rfl rfl trivial)
      intro u _ file' origin calls
      have other : file' ≠ file := by
        intro same
        exact guard file rfl u (same ▸ DmaPc.call_onFile calls)
      exact update_of_ne other _ _
    · intro c k used
      refine (inv.granted c k used).kept rfl (fun _ => id) id ?_
      intro opening'
      show _ → update s.nodes file _ _ = _ ∨ update s.nodes file _ _ = _
      by_cases same : (s.drmFiles c).file = file
      · rw [same, update_self, live]
        rintro (open_ | closing)
        · exact .inr (by rw [NodeFile.live.inj open_])
        · cases closing
      · rw [update_of_ne same]
        exact id

theorem Grants.openNode (inv : Grants s) (absent : s.nodes file = .absent) :
    Grants { s with nodes := update s.nodes file (.live s.openings),
                    openings := s.openings + 1 } := by
  refine ⟨⟨?_, inv.sized⟩, ?_, inv.distinct, inv.single, inv.numbered, inv.past⟩
  · intro t
    obtain ⟨view, call, reads⟩ := inv.knows t
    refine ⟨view, ?_, reads.kept fun i origin _ => ⟨rfl, rfl⟩⟩
    intro file' origin calls
    obtain ⟨live, gone⟩ := call file' origin calls
    exact ⟨node_kept absent live (by simp), gone⟩
  · intro c k used
    refine (inv.granted c k used).kept rfl (fun _ => id) id ?_
    rintro opening (live | closing)
    · exact .inl (node_kept absent live (by simp))
    · exact .inr (node_kept absent closing (by simp))

theorem Grants.step (inv : Grants s) (before : DmaInv s) (action : DmaAction n)
    (guard : DmaGuard s action) : Grants (dmaStep s action) := by
  have after := before.step action guard
  cases action with
  | openNode =>
    unfold dmaStep
    dsimp only
    split
    · rename_i absent
      exact inv.openNode absent
    · exact inv
  | enter t call =>
    unfold dmaStep at after ⊢
    dsimp only at after ⊢
    split at after
    · rename_i free
      exact inv.entered before after guard (enterCall_knows free call) (enterCall_entered s t call)
    · exact inv
  | advance t answer => exact inv.move before after.ledger (advance_move s t answer)

theorem Grants.boot (n : Nat) : Grants (DmaState.boot n) where
  knows := fun _ => idle_quiet.knows _
  sized := by
    intro i used
    cases used
  granted := by
    intro c k used
    cases used
  distinct := by
    intro c k c' k' used
    cases used
  single := by
    intro c c' used
    cases used
  numbered := by
    intro grant member
    cases member
  past := by
    intro number member
    cases member

/-- In every run whose steps meet the condition, a handle, an `obj_addr` or an mmap offset only ever
yields a buffer that its file made or imported and had not destroyed when the call started. -/
theorem gem_handles_isolated (n : Nat) (actions : List (DmaAction n)) (s : DmaState n)
    (run : DmaRun n actions s) : s.Isolated := by
  have inv : DmaInv s ∧ Grants s :=
    run.guarded (P := fun s => DmaInv s ∧ Grants s)
      (fun _ action inv guard => ⟨inv.1.step action guard, inv.2.step inv.1 action guard⟩)
      ⟨DmaInv.boot n, Grants.boot n⟩
  exact inv.2.isolated inv.1.ledger

open scoped Numerals

theorem gem_handles_isolated_export :
    (((exportRun.take 12).foldl dmaStep (DmaState.boot 2)).Isolated) ∧
      (((exportRun.take 12).foldl dmaStep (DmaState.boot 2)).pc 0).effects
        ((exportRun.take 12).foldl dmaStep (DmaState.boot 2)).bufs = [(⟨0, []⟩, .fd 0)] :=
  ⟨gem_handles_isolated 2 (exportRun.take 12) _
    (run_of_passes (fun _ _ => of_decide_eq_true) (by decide +kernel)), by decide +kernel⟩

/-- While a thread of one process is in `PRIME_HANDLE_TO_FD`, past the section that finds the
handle, another destroys the handle and a second process makes a GEM object, whose buffer gets the
slot. -/
def reuseRun : List (DmaAction 2) :=
  [.openNode 7, .openNode 8, .enter 0 (.memCreate 7 4096), go 0 0x1000, go 0 0, go 0 0, go 0 0,
    .enter 0 (.handleToFd 1 7 1), go 0 0,
    .enter 1 (.memDestroy 7 1 0), go 1 0, go 1 0, go 1 0, go 1 0,
    .enter 1 (.memCreate 8 4096), go 1 0x9000, go 1 0, go 1 0, go 1 0, go 0 0, go 0 0]

/-- The descriptor that the first process gets is one of the second process's buffer. -/
theorem gem_handle_reaches_other_buffer :
    Run (graph dmaStep) (DmaState.boot 2) reuseRun
        (reuseRun.foldl dmaStep (DmaState.boot 2)) ∧
      ¬ (reuseRun.foldl dmaStep (DmaState.boot 2)).Isolated := by
  refine ⟨run_foldl dmaStep _ _, ?_⟩
  intro isolated
  have confined := isolated 0 ⟨0, []⟩ (.fd 0) (by decide +kernel)
  have foreign : ¬ Allowed (reuseRun.foldl dmaStep (DmaState.boot 2)) ⟨0, []⟩
      ((reuseRun.foldl dmaStep (DmaState.boot 2)).bufs 0).region.gen := by
    unfold Allowed
    decide +kernel
  exact foreign confined.2

end AvatarKernel
