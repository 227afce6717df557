import AvatarKernel.Driver.DrmMachine

namespace AvatarKernel

open Function

/-- The pool slot that is closed after a `dma_buf_put`. -/
def AfterPut.slot : AfterPut → Option (Fin fdPoolSize)
  | .poolFree p _ => some p
  | _ => none

def AfterClose.src : AfterClose → Option (Fin fdPoolSize)
  | .copy src _ _ => some src
  | .done => none

def AfterPut.src : AfterPut → Option (Fin fdPoolSize)
  | .poolFree _ next => next.src
  | _ => none

def AfterPut.loop : AfterPut → Option (Nat × Fin rknpuDrmMaxFiles × Nat)
  | .closeFile file c k => some (file, c, k)
  | _ => none

def NewFd.held : NewFd → Option (Fin dmaBufMax)
  | .own i => some i
  | _ => none

def NewFd.watched : NewFd → Option (Fin dmaBufMax)
  | .prime i _ => some i
  | _ => none

def PoolObj.buf : PoolObj → Option (Fin dmaBufMax)
  | .dmabuf i => some i
  | _ => none

def DmaFor.file : DmaFor → Option Nat
  | .gem file _ => some file
  | .heap _ => none

namespace DmaPc

def slot : DmaPc → Option (Fin fdPoolSize)
  | .publish _ _ p => some p
  | .unpublish _ p => some p
  | .get _ _ p _ => some p
  | .putIndex _ next => next.slot
  | .put _ next => next.slot
  | .heapFree _ next => next.slot
  | .objClose p _ => some p
  | .poolFree p _ _ => some p
  | .copyObj _ p _ => some p
  | .refIndex p _ => some p
  | .refGet _ p _ => some p
  | .install p _ => some p
  | _ => none

def making : DmaPc → Bool
  | .get _ _ _ _ => true
  | _ => false

def src : DmaPc → Option (Fin fdPoolSize)
  | .takeFd _ _ next => next.src
  | .objClose _ next => next.src
  | .putIndex _ next => next.src
  | .put _ next => next.src
  | .heapFree _ next => next.src
  | .poolFree _ _ next => next.src
  | .copyAlloc src _ => some src
  | .copyObj src _ _ => some src
  | _ => none

def owes : DmaPc → Option (Fin fdPoolSize)
  | .unpublish _ p => some p
  | .get _ _ p _ => some p
  | .heapFree _ next => next.slot
  | .poolFree p true _ => some p
  | .refIndex p _ => some p
  | .refGet _ p _ => some p
  | _ => none

def held : DmaPc → Option (Fin dmaBufMax)
  | .poolAlloc _ what => what.held
  | .publish _ what _ => what.held
  | .unpublish what _ => what.held
  | .get _ what _ _ => what.held
  | .putIndex i next => if next.slot.isSome then none else some i
  | .put i next => if next.slot.isSome then none else some i
  | .gemCreate _ i true _ => some i
  | .closeGem _ _ _ owed => some owed
  | _ => none

def watched (pool : Fin fdPoolSize → PoolObj) : DmaPc → Option (Fin dmaBufMax)
  | .poolAlloc _ what => what.watched
  | .publish _ what _ => what.watched
  | .get _ what _ _ => what.watched
  | .refIndex p _ => (pool p).buf
  | .refGet i _ _ => some i
  | .gemCreate _ i false _ => some i
  | .fromIndex i _ _ => some i
  | .sync i _ _ _ => some i
  | .submitRead i _ => some i
  | .submit _ _ i _ => some i
  | .map _ _ _ i _ => some i
  | _ => none

def region : DmaPc → Option DmaRegion
  | .insert _ _ region => some region
  | .heapFree region _ => some region
  | _ => none

def onFile : DmaPc → Option Nat
  | .heapAlloc why _ => why.file
  | .insert why _ _ => why.file
  | .lookFd file _ _ _ => some file
  | .gemCreate file _ _ _ => some file
  | .find file _ _ _ => some file
  | .mmapLookup file _ _ _ => some file
  | .destroy file _ => some file
  | _ => none

def loop : DmaPc → Option (Nat × Fin rknpuDrmMaxFiles × Nat)
  | .closeNext file c k => some (file, c, k)
  | .closeGem file c k _ => some (file, c, k.val + 1)
  | .putIndex _ next => next.loop
  | .put _ next => next.loop
  | .heapFree _ next => next.loop
  | _ => none

def ends : DmaPc → Option Nat
  | .closeStart file => some file
  | pc => pc.loop.map fun at_ => at_.1

end DmaPc

section Moves

variable {n : Nat}

inductive Hop (s : DmaState n) : DmaPc → DmaPc → Prop
  | noMemory : Hop s (.heapAlloc why size) .idle
  | lose : Hop s (.heapAlloc why size) .lost
  | tableFull : Hop s (.insert why size region) (.heapFree region .done)
  | poolFull : Hop s (.poolAlloc pid what) what.failed
  | getOther : Hop s (.get pid .other p fd) .idle
  | index (used : (s.bufs i).used = true) : Hop s (.putIndex i next) (.put i next)
  | indexUnused (unused : (s.bufs i).used = false) : Hop s (.putIndex i next) (next.pc false)
  | putUnused (unused : (s.bufs i).used = false) : Hop s (.put i next) (next.pc false)
  | copied : Hop s (.copyOut pid fd) .idle
  | uncopied : Hop s (.copyOut pid fd) (.takeFd pid fd .done)
  | notOpen : Hop s (.takeFd pid fd next) next.pc
  | objBuf (object : s.pool p = .dmabuf i) : Hop s (.objClose p next)
    (.putIndex i (.poolFree p next))
  | objPlain (object : (s.pool p).buf = none) : Hop s (.objClose p next) (.poolFree p false next)
  | noSrc : Hop s (.look pid fd dest) .idle
  | srcDup (entry : s.table pid fd = some src) (inUse : s.pool src ≠ .free) :
      Hop s (.look pid fd (.dup pid' newfd)) (.takeFd pid' newfd (.copy src pid' newfd))
  | srcCopy (entry : s.table pid fd = some src) (inUse : s.pool src ≠ .free) :
      Hop s (.look pid fd dest) (.copyAlloc src dest)
  | copyFull : Hop s (.copyAlloc src dest) .idle
  | refBuf (object : s.pool p = .dmabuf i) (used : (s.bufs i).used = true) :
      Hop s (.refIndex p dest) (.refGet i p dest)
  | refUnused {p dest i} (object : s.pool p = .dmabuf i) (unused : (s.bufs i).used = false) :
      Hop s (.refIndex p dest) (.install p dest)
  | refPlain (object : (s.pool p).buf = none) : Hop s (.refIndex p dest) (.install p dest)
  | refFree (object : s.pool p = .free) : Hop s (.refIndex p dest) (.poolFree p false .done)
  | noFd (full : descriptorFree (s.table pid) floor = none) :
      Hop s (.install p (.fcntl pid floor)) (.poolFree p false .done)
  | notBuf : Hop s (.lookFd file pid fd origin) .idle
  | fdBuf (used : (s.bufs i).used = true) :
      Hop s (.lookFd file pid fd origin) (.gemCreate file i false origin)
  | noGem : Hop s (.gemCreate file i created origin) (afterGem i created)
  | noHandle : Hop s (.find file handle use origin) .idle
  | handle (found : handleFind s.drmFiles file handle = some (c, k)) :
      Hop s (.find file handle use origin)
        (.fromIndex ((s.drmFiles c).gems k).dmaIdx use origin)
  | unusable : Hop s (.fromIndex i use origin) .idle
  | usable : Hop s (.fromIndex i use origin) (use.pc i origin)
  | synced : Hop s (.sync i offset size origin) .idle
  | read : Hop s (.submitRead i origin) (.submit (s.bufs i).region.paddr (s.bufs i).size i origin)
  | submitted : Hop s (.submit paddr size i origin) .idle
  | noMap : Hop s (.mmapLookup file offset len origin) .idle
  | mapping {file offset len handle origin c k i}
      (found : handleFind s.drmFiles file handle = some (c, k))
      (names : i = ((s.drmFiles c).gems k).dmaIdx) :
      Hop s (.mmapLookup file offset len origin)
        (.map (s.bufs i).region.paddr (s.bufs i).size len i origin)
  | mapped : Hop s (.map paddr size len i origin) .idle
  | noDestroy : Hop s (.destroy file handle) .idle
  | closeIndex :
      Hop s (.closeGem file c k owed)
        (.putIndex ((s.drmFiles c).gems k).dmaIdx (.closeFile file c (k.val + 1)))

inductive Move (s : DmaState n) (t : Fin n) : DmaPc → DmaState n → Prop
  | rest : Move s t pc s
  | hop (hop : Hop s pc next) : Move s t pc (s.goto t next)
  | allocate {why size paddr} (fits : 0 < (size + 4095) % 2 ^ 64 / 4096)
      (small : (size + 4095) % 2 ^ 64 / 4096 < 2 ^ 32) :
      Move s t (.heapAlloc why size)
        { s.goto t (.insert why size ⟨s.allocated.length, paddr, alignUp size⟩) with
          allocated := ⟨s.allocated.length, paddr, alignUp size⟩ :: s.allocated }
  | insert {why size region i} (unused : (s.bufs i).used = false) :
      Move s t (.insert why size region)
        { s.goto t (why.pc i) with bufs := update s.bufs i ⟨true, 1, region, size⟩ }
  | newSlot {pid what p} (free : s.pool p = .free) :
      Move s t (.poolAlloc pid what) ((s.setObj p .allocated).goto t (.publish pid what p))
  | copySlot (free : s.pool p = .free) :
      Move s t (.copyAlloc src dest) ((s.setObj p .allocated).goto t (.copyObj src p dest))
  | publish :
      Move s t (.publish pid what p)
        (((s.setObj p what.object).setFd pid fd (some p)).goto t (what.published pid p fd))
  | noFd : Move s t (.publish pid what p) ((s.setObj p what.object).goto t (.unpublish what p))
  | unpublish : Move s t (.unpublish what p) ((s.setObj p .free).goto t what.failed)
  | poolFree : Move s t (.poolFree p paid next) ((s.setObj p .free).goto t next.pc)
  | getOwn :
      Move s t (.get pid (.own i) p fd)
        { s.goto t (.put i (.copyOut pid fd)) with bufs := dmaBufGet s.bufs i }
  | getPrime :
      Move s t (.get pid (.prime i origin) p fd)
        { s.goto t .idle with bufs := dmaBufGet s.bufs i }
  | refGet :
      Move s t (.refGet i p dest) { s.goto t (.install p dest) with bufs := dmaBufGet s.bufs i }
  | put (used : (s.bufs i).used = true) (more : 1 < (s.bufs i).refcount) :
      Move s t (.put i next)
        { s.goto t (next.pc true) with
          bufs := update s.bufs i
            { s.bufs i with refcount := (s.bufs i).refcount - 1 } }
  | putLast (used : (s.bufs i).used = true) (last : (s.bufs i).refcount ≤ 1) :
      Move s t (.put i next)
        { s.goto t (.heapFree (s.bufs i).region next) with
          bufs := update s.bufs i .empty }
  | heapFree :
      Move s t (.heapFree region next)
        { s.goto t (next.pc true) with released := region :: s.released }
  | take (entry : s.table pid fd = some p) :
      Move s t (.takeFd pid fd next) ((s.setFd pid fd none).goto t (.objClose p next))
  | copyObj : Move s t (.copyObj src p dest) ((s.setObj p (s.pool src)).goto t (.refIndex p dest))
  | install : Move s t (.install p dest) ((s.setFd pid fd (some p)).goto t .idle)
  | gemCreate {file i created origin files c k}
      (context : drmFileGetOrCreate s.drmFiles file = some (files, c))
      (free : ((files c).gems k).used = false) :
      Move s t (.gemCreate file i created origin)
        { s.goto t (afterGem i created) with
          drmFiles := setGem files c k ⟨true, s.nextId, i, (s.bufs i).size, s.grants.length⟩
          nextId := s.nextId + 1
          bufs := dmaBufGet s.bufs i
          grants := ⟨origin.opening, s.grants.length, (s.bufs i).region.gen⟩ :: s.grants }
  | destroy (found : handleFind s.drmFiles file handle = some (c, k)) :
      Move s t (.destroy file handle)
        ((dropGem s c k).goto t (.putIndex ((s.drmFiles c).gems k).dmaIdx .done))
  | closeGem {pc file c first k}
      (here : (pc = .closeStart file ∧ first = 0 ∧ drmFileFind s.drmFiles file = some c) ∨
        pc = .closeNext file c first)
      (used : ((s.drmFiles c).gems k).used = true)
      (before : ∀ j : Fin rknpuGemMax, first ≤ j.val → j.val < k.val →
        ((s.drmFiles c).gems j).used = false)
      (reached : first ≤ k.val) :
      Move s t pc
        ((dropGem s c k).goto t (.closeGem file c k ((s.drmFiles c).gems k).dmaIdx))
  | closeEnd {pc file c first}
      (here : (pc = .closeStart file ∧ first = 0 ∧ drmFileFind s.drmFiles file = some c) ∨
        pc = .closeNext file c first)
      (rest : ∀ j : Fin rknpuGemMax, first ≤ j.val → ((s.drmFiles c).gems j).used = false) :
      Move s t pc
        { s.goto t .idle with
          drmFiles := update s.drmFiles c .empty
          nodes := update s.nodes file .absent }
  | closeNone (missing : drmFileFind s.drmFiles file = none) :
      Move s t (.closeStart file)
        { s.goto t .idle with nodes := update s.nodes file .absent }

variable (s : DmaState n) (t : Fin n)

theorem heapAlloc_move (why : DmaFor) (size paddr : Nat) :
    Move s t (.heapAlloc why size) (heapAlloc s t why size paddr) := by
  unfold heapAlloc
  dsimp only
  split
  · exact .hop .lose
  · split
    · exact .hop .noMemory
    · apply Move.allocate
      · omega
      · omega

theorem insertBuf_move (why : DmaFor) (size : Nat) (region : DmaRegion) :
    Move s t (.insert why size region) (insertBuf s t why size region) := by
  unfold insertBuf dmaBufInsert
  cases found : (List.finRange dmaBufMax).find? fun i => !(s.bufs i).used with
  | none => exact .hop .tableFull
  | some =>
    have unused := List.find?_some found
    rw [Bool.not_eq_true'] at unused
    exact .insert unused

theorem freeObj_free (found : freeObj pool = some p) : pool p = .free := by
  have free := List.find?_some found
  exact of_decide_eq_true free

variable (pid : Nat)

theorem poolAlloc_move (what : NewFd) :
    Move s t (.poolAlloc pid what) (poolAlloc s t pid what) := by
  unfold poolAlloc
  cases found : freeObj s.pool with
  | none => exact .hop .poolFull
  | some => exact .newSlot (freeObj_free found)

theorem publish_move (what : NewFd) (p : Fin fdPoolSize) :
    Move s t (.publish pid what p) (publish s t pid what p) := by
  unfold publish
  cases descriptorFree (s.table pid) 3 with
  | none => exact .noFd
  | some => exact .publish

theorem getBuf_move (what : NewFd) (p : Fin fdPoolSize) (fd : Fin taskMaxFd) :
    Move s t (.get pid what p fd) (getBuf s t pid what fd) := by
  cases what with
  | own => exact .getOwn
  | prime => exact .getPrime
  | other => exact .hop .getOther

variable (i : Fin dmaBufMax)

theorem putIndex_move (next : AfterPut) :
    Move s t (.putIndex i next)
      (s.goto t (if dmaBufFromIndex s.bufs i then .put i next else next.pc false)) := by
  unfold dmaBufFromIndex
  cases used : (s.bufs i).used with
  | true => exact .hop (.index used)
  | false => exact .hop (.indexUnused used)

theorem putBuf_move (next : AfterPut) :
    Move s t (.put i next) (putBuf s t i next) := by
  unfold putBuf dmaBufPut
  cases used : (s.bufs i).used with
  | false => exact .hop (.putUnused used)
  | true =>
    by_cases more : 1 < (s.bufs i).refcount
    · rw [if_pos more]
      exact .put used more
    · rw [if_neg more]
      exact .putLast used (Nat.le_of_not_lt more)

variable (fd : Fin taskMaxFd)

theorem copyOut_move (copied : Bool) :
    Move s t (.copyOut pid fd) (s.goto t (if copied then .idle else .takeFd pid fd .done)) := by
  cases copied with
  | true => exact .hop .copied
  | false => exact .hop .uncopied

theorem takeFd_move (next : AfterClose) :
    Move s t (.takeFd pid fd next) (takeFd s t pid fd next) := by
  unfold takeFd
  cases entry : s.table pid fd with
  | none => exact .hop .notOpen
  | some => exact .take entry

theorem objClose_move (p : Fin fdPoolSize) (next : AfterClose) :
    Move s t (.objClose p next) (objClose s t p next) := by
  unfold objClose
  cases object : s.pool p with
  | dmabuf => exact .hop (.objBuf object)
  | free | allocated | other => exact .hop (.objPlain (by rw [object]; rfl))

theorem getFd_some {s : DmaState n} {pid : Nat} {fd : Fin taskMaxFd} {p : Fin fdPoolSize}
    (found : s.getFd pid fd = some p) : s.table pid fd = some p ∧ s.pool p ≠ .free := by
  unfold DmaState.getFd at found
  rw [Option.filter_eq_some_iff] at found
  exact ⟨found.1, of_decide_eq_true found.2⟩

theorem lookSrc_move (dest : CopyTo) :
    Move s t (.look pid fd dest) (lookSrc s t pid fd dest) := by
  unfold lookSrc
  cases found : s.getFd pid fd with
  | none => exact .hop .noSrc
  | some =>
    obtain ⟨entry, inUse⟩ := getFd_some found
    cases dest with
    | dup => exact .hop (.srcDup entry inUse)
    | fcntl | fork | inherit => exact .hop (.srcCopy entry inUse)

theorem copyAlloc_move (src : Fin fdPoolSize) (dest : CopyTo) :
    Move s t (.copyAlloc src dest) (copyAlloc s t src dest) := by
  unfold copyAlloc
  cases found : freeObj s.pool with
  | none => exact .hop .copyFull
  | some => exact .copySlot (freeObj_free found)

theorem refIndex_move (p : Fin fdPoolSize) (dest : CopyTo) :
    Move s t (.refIndex p dest) (refIndex s t p dest) := by
  unfold refIndex dmaBufFromIndex
  cases object : s.pool p with
  | dmabuf i =>
    dsimp only
    cases used : (s.bufs i).used with
    | true => exact .hop (.refBuf object used)
    | false => exact .hop (.refUnused object used)
  | free =>
    have plain : (s.pool p).buf = none := by rw [object]; rfl
    cases dest with
    | dup | inherit => exact .hop (.refFree object)
    | fcntl | fork => exact .hop (.refPlain plain)
  | allocated | other => exact .hop (.refPlain (by rw [object]; rfl))

theorem installFd_move (p : Fin fdPoolSize) (dest : CopyTo) :
    Move s t (.install p dest) (installFd s t p dest) := by
  unfold installFd
  cases dest with
  | dup | fork | inherit => exact .install
  | fcntl pid floor =>
    dsimp only
    cases full : descriptorFree (s.table pid) floor with
    | none => exact .hop (.noFd full)
    | some => exact .install

variable (file : Nat)

theorem lookFd_move (origin : Origin) :
    Move s t (.lookFd file pid fd origin) (lookFd s t file pid fd origin) := by
  unfold lookFd dmaBufFromIndex
  cases (s.table pid fd).map s.pool with
  | none => exact .hop .notBuf
  | some object =>
    cases object with
    | dmabuf i =>
      dsimp only
      cases used : (s.bufs i).used with
      | true => exact .hop (.fdBuf used)
      | false => exact .hop .notBuf
    | free | allocated | other => exact .hop .notBuf

section Contexts

variable {files made : DrmFiles} {file : Nat} {c : Fin rknpuDrmMaxFiles}

theorem drmFileFind_some (found : drmFileFind files file = some c) :
    (files c).used = true ∧ (files c).file = file := by
  have here := List.find?_some found
  rw [Bool.and_eq_true, beq_iff_eq] at here
  exact here

variable (context : drmFileGetOrCreate files file = some (made, c))

include context

theorem drmFileGetOrCreate_cases :
    (made = files ∧ (files c).used = true ∧ (files c).file = file) ∨ ((files c).used = false ∧
        made = update files c { DrmFile.empty with used := true, file := file } ∧
        drmFileFind files file = none) := by
  unfold drmFileGetOrCreate at context
  split at context
  · rename_i found
    cases context
    exact .inl ⟨rfl, drmFileFind_some found⟩
  · rename_i missing
    split at context
    · cases context
    · rename_i found
      cases context
      have unused := List.find?_some found
      rw [Bool.not_eq_true'] at unused
      exact .inr ⟨unused, rfl, missing⟩

theorem drmFileGetOrCreate_own : (made c).used = true ∧ (made c).file = file := by
  rcases drmFileGetOrCreate_cases context with ⟨rfl, own⟩ | ⟨_, new, _⟩
  · exact own
  · rw [new, update_self]
    exact ⟨rfl, rfl⟩

theorem drmFileGetOrCreate_elsewhere (elsewhere : c' ≠ c) : made c' = files c' := by
  rcases drmFileGetOrCreate_cases context with ⟨same, _⟩ | ⟨_, new, _⟩
  · rw [same]
  · rw [new, update_of_ne elsewhere]

theorem drmFileGetOrCreate_full (full : gemFree (made c) = none) : made = files := by
  rcases drmFileGetOrCreate_cases context with ⟨same, _⟩ | ⟨_, new, _⟩
  · exact same
  · have room := List.find?_eq_none.mp full 0 (List.mem_finRange 0)
    rw [new, update_self] at room
    exact absurd rfl room

end Contexts

theorem gemCreate_move (created : Bool) (origin : Origin) :
    Move s t (.gemCreate file i created origin) (gemCreate s t file i created origin) := by
  unfold gemCreate
  cases context : drmFileGetOrCreate s.drmFiles file with
  | none => exact .hop .noGem
  | some result =>
    obtain ⟨files, c⟩ := result
    dsimp only
    cases found : gemFree (files c) with
    | none =>
      rw [drmFileGetOrCreate_full context found]
      exact .hop .noGem
    | some =>
      have free := List.find?_some found
      rw [Bool.not_eq_true'] at free
      exact .gemCreate context free

theorem findGem_move (handle : Nat) (use : GemUse) (origin : Origin) :
    Move s t (.find file handle use origin) (findGem s t file handle use origin) := by
  unfold findGem
  cases found : handleFind s.drmFiles file handle with
  | none => exact .hop .noHandle
  | some => exact .hop (.handle found)

theorem fromIndex_move (use : GemUse) (origin : Origin) :
    Move s t (.fromIndex i use origin)
      (s.goto t (if dmaBufFromIndex s.bufs i then use.pc i origin else .idle)) := by
  split
  · exact .hop .usable
  · exact .hop .unusable

theorem mmapLookup_move (offset len : Nat) (origin : Origin) :
    Move s t (.mmapLookup file offset len origin) (mmapLookup s t file offset len origin) := by
  unfold mmapLookup
  split
  · exact .hop .noMap
  · cases found : handleFind s.drmFiles file ((offset - rknpuMmapBase) / 4096) with
    | none => exact .hop .noMap
    | some place =>
      dsimp only
      split
      · exact .hop (.mapping found rfl)
      · exact .hop .noMap

theorem destroyGem_move (handle : Nat) :
    Move s t (.destroy file handle) (destroyGem s t file handle) := by
  unfold destroyGem
  cases found : handleFind s.drmFiles file handle with
  | none => exact .hop .noDestroy
  | some => exact .destroy found

theorem closeFrom_move {pc : DmaPc} {file : Nat} {c : Fin rknpuDrmMaxFiles} {first : Nat}
    (here : (pc = .closeStart file ∧ first = 0 ∧ drmFileFind s.drmFiles file = some c) ∨
      pc = .closeNext file c first) :
    Move s t pc (closeFrom s t file c first) := by
  unfold closeFrom
  rw [← Fin.find?_eq_find?_finRange]
  cases found : Fin.find? fun k : Fin rknpuGemMax =>
      decide (first ≤ k.val) && ((s.drmFiles c).gems k).used with
  | none =>
    rw [Fin.find?_eq_none_iff] at found
    apply Move.closeEnd here
    intro j reached
    have unused := found j
    rw [decide_eq_true reached, Bool.true_and] at unused
    exact unused
  | some k =>
    rw [Fin.find?_eq_some_iff] at found
    obtain ⟨holds, least⟩ := found
    rw [Bool.and_eq_true, decide_eq_true_eq] at holds
    apply Move.closeGem here holds.2 _ holds.1
    intro j reached below
    have unused := least j below
    rw [decide_eq_true reached, Bool.true_and] at unused
    exact unused

theorem closeStart_move :
    Move s t (.closeStart file) (closeStart s t file) := by
  unfold closeStart
  cases found : drmFileFind s.drmFiles file with
  | none => exact .closeNone found
  | some => exact closeFrom_move s t (.inl ⟨rfl, rfl, found⟩)

theorem advance_move (answer : Answer) : Move s t (s.pc t) (advance s t answer) := by
  unfold advance
  cases s.pc t with
  | idle | lost => exact .rest
  | heapAlloc why size => exact heapAlloc_move s t why size answer.paddr
  | insert why size region => exact insertBuf_move s t why size region
  | poolAlloc pid what => exact poolAlloc_move s t pid what
  | publish pid what p => exact publish_move s t pid what p
  | unpublish => exact .unpublish
  | get pid what p fd => exact getBuf_move s t pid what p fd
  | putIndex i next => exact putIndex_move s t i next
  | put i next => exact putBuf_move s t i next
  | heapFree => exact .heapFree
  | copyOut pid fd => exact copyOut_move s t pid fd answer.copied
  | takeFd pid fd next => exact takeFd_move s t pid fd next
  | objClose p next => exact objClose_move s t p next
  | poolFree => exact .poolFree
  | look pid fd dest => exact lookSrc_move s t pid fd dest
  | copyAlloc src dest => exact copyAlloc_move s t src dest
  | copyObj => exact .copyObj
  | refIndex p dest => exact refIndex_move s t p dest
  | refGet => exact .refGet
  | install p dest => exact installFd_move s t p dest
  | lookFd file pid fd origin => exact lookFd_move s t pid fd file origin
  | gemCreate file i created origin => exact gemCreate_move s t i file created origin
  | find file handle use origin => exact findGem_move s t file handle use origin
  | fromIndex i use origin => exact fromIndex_move s t i use origin
  | sync => exact .hop .synced
  | submitRead => exact .hop .read
  | submit => exact .hop .submitted
  | mmapLookup file offset len origin => exact mmapLookup_move s t file offset len origin
  | map => exact .hop .mapped
  | destroy file handle => exact destroyGem_move s t file handle
  | closeStart file => exact closeStart_move s t file
  | closeNext => exact closeFrom_move s t (.inr rfl)
  | closeGem => exact .hop .closeIndex

end Moves

end AvatarKernel
