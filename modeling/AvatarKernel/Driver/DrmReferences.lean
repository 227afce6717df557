import AvatarKernel.Driver.DrmLedger

namespace AvatarKernel

open Function
open Tally

variable {n : Nat}

section Counts

variable {bufs : DmaBufs} {i : Fin dmaBufMax}

theorem bufCount_change {buf : DmaBuf} {a b : Nat}
    (change : (if buf.used then buf.refcount else 0) + a = bufCount bufs i + b)
    (j : Fin dmaBufMax) :
    bufCount (update bufs i buf) j + (if j = i then a else 0) =
      bufCount bufs j + if j = i then b else 0 := by
  unfold bufCount at *
  by_cases here : j = i
  · rw [if_pos here, if_pos here, here, update_self]
    exact change
  · rw [if_neg here, if_neg here, update_of_ne here]

theorem names_self (i j : Fin dmaBufMax) : names (some i) j = if j = i then 1 else 0 := by
  rw [names_some]
  simp only [eq_comm]

theorem bufCount_more {buf : DmaBuf}
    (more : (if buf.used then buf.refcount else 0) = bufCount bufs i + 1) (j : Fin dmaBufMax) :
    bufCount (update bufs i buf) j = bufCount bufs j + names (some i) j := by
  have change := @bufCount_change bufs i buf 0 1 more j
  rwa [ite_self, ← names_self] at change

theorem bufCount_less {buf : DmaBuf}
    (less : (if buf.used then buf.refcount else 0) + 1 = bufCount bufs i) (j : Fin dmaBufMax) :
    bufCount (update bufs i buf) j + names (some i) j = bufCount bufs j := by
  have change := @bufCount_change bufs i buf 1 0 less j
  rwa [ite_self, ← names_self] at change

theorem bufCount_get (used : (bufs i).used = true) (j : Fin dmaBufMax) :
    bufCount (dmaBufGet bufs i) j = bufCount bufs j + names (some i) j := by
  unfold dmaBufGet
  rw [if_pos used]
  apply bufCount_more
  rw [bufCount, if_pos used, if_pos used]

theorem bufCount_put (used : (bufs i).used = true) (more : 1 < (bufs i).refcount)
    (j : Fin dmaBufMax) :
    bufCount (update bufs i { bufs i with refcount := (bufs i).refcount - 1 }) j +
      names (some i) j = bufCount bufs j := by
  apply bufCount_less
  rw [bufCount, if_pos used, if_pos used]
  exact Nat.sub_add_cancel (Nat.le_of_lt more)

theorem bufCount_putLast (used : (bufs i).used = true) (one : (bufs i).refcount = 1)
    (j : Fin dmaBufMax) :
    bufCount (update bufs i .empty) j + names (some i) j = bufCount bufs j := by
  apply bufCount_less
  rw [bufCount, if_pos used, one]
  rfl

theorem bufCount_insert (unused : (bufs i).used = false) (size : Nat) (region : DmaRegion)
    (j : Fin dmaBufMax) :
    bufCount (update bufs i ⟨true, 1, region, size⟩) j = bufCount bufs j + names (some i) j := by
  apply bufCount_more
  rw [bufCount, unused]
  rfl

theorem dmaBufGet_other (bufs : DmaBufs) (i j : Fin dmaBufMax) :
    (dmaBufGet bufs i j).used = (bufs j).used ∧ (dmaBufGet bufs i j).region = (bufs j).region ∧
      (dmaBufGet bufs i j).size = (bufs j).size ∧
      (bufs j).refcount ≤ (dmaBufGet bufs i j).refcount := by
  unfold dmaBufGet
  split
  · by_cases here : j = i
    · rw [here, update_self]
      exact ⟨rfl, rfl, rfl, Nat.le_succ _⟩
    · rw [update_of_ne here]
      exact ⟨rfl, rfl, rfl, Nat.le_refl _⟩
  · exact ⟨rfl, rfl, rfl, Nat.le_refl _⟩

theorem positive_update (positive : ∀ j, (bufs j).used = true → 0 < (bufs j).refcount)
    (new : buf.used = true → 0 < buf.refcount) :
    ∀ j, (update bufs i buf j).used = true → 0 < (update bufs i buf j).refcount :=
  (forall_update_iff bufs (p := fun _ buf => buf.used = true → 0 < buf.refcount)).mpr
    ⟨new, fun j _ => positive j⟩

theorem positive_get (positive : ∀ j, (bufs j).used = true → 0 < (bufs j).refcount)
    (i j : Fin dmaBufMax) (used : (dmaBufGet bufs i j).used = true) :
    0 < (dmaBufGet bufs i j).refcount := by
  obtain ⟨same, _, _, more⟩ := dmaBufGet_other bufs i j
  rw [same] at used
  exact Nat.lt_of_lt_of_le (positive j used) more

end Counts

section Steps

variable {s s' : DmaState n} {t : Fin n} {x : DmaPc}

def DmaPc.claim (pc : DmaPc) (object : PoolObj) (p : Fin fdPoolSize) : Option (Fin dmaBufMax) :=
  if pc.owes = some p then none else object.buf

variable {p : Fin fdPoolSize}

theorem claims_step (inv : Custody s) (pcs : s'.pc = update s.pc t x)
    (mine : (s.pc t).slot = some p) (kept : ∀ q, x.slot = some q → q = p)
    (pool : ∀ q, q ≠ p → s'.pool q = s.pool q) (i : Fin dmaBufMax) :
    tally s'.claimed i + names ((s.pc t).claim (s.pool p) p) i =
      tally s.claimed i + names (x.claim (s'.pool p) p) i := by
  have after := claimed_step inv pcs mine kept pool
  have before : s.claimed p = (s.pc t).claim (s.pool p) p := claimed_of_slot inv mine
  have update := tally_update s.claimed p (x.claim (s'.pool p) p) i
  rw [before] at update
  rw [after]
  exact update

theorem claimed_kept (inv : Custody s) (pcs : s'.pc = update s.pc t x)
    (mine : (s.pc t).slot = some p) (kept : ∀ q, x.slot = some q → q = p)
    (pool : ∀ q, q ≠ p → s'.pool q = s.pool q) (old : (s.pc t).claim (s.pool p) p = none)
    (new : x.claim (s'.pool p) p = none) : s'.claimed = s.claimed := by
  have after := claimed_step inv pcs mine kept pool
  have before : s.claimed p = none := (claimed_of_slot inv mine).trans old
  have value : (if x.owes = some p then none else (s'.pool p).buf) = none := new
  rw [after, value, ← before, update_eq_self]

theorem claimed_calm (here : s.pc t = pc) (pcs : s'.pc = update s.pc t x)
    (pool : s'.pool = s.pool) (owes : x.owes = pc.owes) : s'.claimed = s.claimed :=
  claimed_same pcs (fun _ _ => by rw [owes, here]) fun _ => by rw [pool]

theorem none_watched {pool : Fin fdPoolSize → PoolObj} {bufs : DmaBufs}
    (nothing : x.watched pool = none) (i : Fin dmaBufMax) (watch : x.watched pool = some i) :
    (bufs i).used = true := by
  cases nothing.symm.trans watch

theorem watched_congr {pc : DmaPc} (same : ∀ p, pc.slot = some p → pool' p = pool p) :
    pc.watched pool' = pc.watched pool := by
  cases pc with
  | refIndex p => exact congrArg PoolObj.buf (same p rfl)
  | gemCreate _ _ created => cases created <;> rfl
  | _ => rfl

theorem Fit.congr (fit : Fit s pc) (same : ∀ p, pc.slot = some p → s'.pool p = s.pool p) :
    Fit s' pc := by
  cases pc with
  | publish _ _ p | copyObj _ p | unpublish _ p | get _ _ p | refGet _ p =>
    exact (same p rfl).trans fit
  | putIndex _ next | put _ next =>
    cases next with
    | poolFree p => exact (same p rfl).trans fit
    | _ => trivial
  | poolFree p paid =>
    cases paid with
    | false => exact (congrArg PoolObj.buf (same p rfl)).trans fit
    | true => trivial
  | _ => trivial

theorem BufLedger.step (inv : BufLedger s) (pcs : s'.pc = update s.pc t x)
    (counted : ∀ i, bufCount s'.bufs i = s'.refs i)
    (positive : ∀ i, (s'.bufs i).used = true → 0 < (s'.bufs i).refcount)
    (frame : ∀ u, u ≠ t → ∀ p, (s.pc u).slot = some p → s'.pool p = s.pool p)
    (used : ∀ u, u ≠ t → ∀ i, (s.pc u).watched s.pool = some i → (s'.bufs i).used = true)
    (watched : ∀ i, x.watched s'.pool = some i → (s'.bufs i).used = true) (fit : Fit s' x) :
    BufLedger s' where
  counted := counted
  positive := positive
  watched := by
    intro u i watch
    by_cases self : u = t
    · rw [self, pc_self pcs] at watch
      exact watched i watch
    · rw [pc_other pcs self, watched_congr (frame u self)] at watch
      exact used u self i watch
  fit := by
    intro u
    by_cases self : u = t
    · rw [self, pc_self pcs]
      exact fit
    · rw [pc_other pcs self]
      exact (inv.fit u).congr (frame u self)

theorem frame_of_slot (inv : Custody s) (mine : (s.pc t).slot = some p) (object : PoolObj)
    (u : Fin n) (other : u ≠ t) (q : Fin fdPoolSize) (theirs : (s.pc u).slot = some q) :
    update s.pool p object q = s.pool q := by
  apply update_of_ne
  intro same
  rw [same] at theirs
  exact other (inv.apart u t p theirs mine)

theorem frame_of_free (inv : Custody s) (free : s.pool p = .free) (object : PoolObj) (u : Fin n)
    (q : Fin fdPoolSize) (theirs : (s.pc u).slot = some q) :
    update s.pool p object q = s.pool q := by
  apply update_of_ne
  intro same
  rw [same] at theirs
  exact inv.inUse p (.inr ⟨u, theirs⟩) free

variable {pc : DmaPc}

theorem buf_of_free (free : s.pool p = .free) (q : Fin fdPoolSize) :
    (update s.pool p .allocated q).buf = (s.pool q).buf := by
  by_cases self : q = p
  · rw [self, update_self, free]
    rfl
  · rw [update_of_ne self]

theorem BufLedger.same (inv : BufLedger s) (here : s.pc t = pc) (pcs : s'.pc = update s.pc t x)
    (bufs : s'.bufs = s.bufs)
    (objects : (fun place => (gemOf s'.drmFiles place).buf) = fun place =>
      (gemOf s.drmFiles place).buf)
    (claims : s'.claimed = s.claimed) (held : x.held = pc.held)
    (frame : ∀ u, u ≠ t → ∀ p, (s.pc u).slot = some p → s'.pool p = s.pool p)
    (watched : ∀ i, x.watched s'.pool = some i → (s.bufs i).used = true) (fit : Fit s' x) :
    BufLedger s' := by
  apply inv.step pcs
  · intro i
    have before := inv.counted i
    have holders := held_step pcs i
    rw [held, here] at holders
    unfold DmaState.refs at before ⊢
    rw [bufs, claims, objects]
    omega
  · rw [bufs]
    exact inv.positive
  · exact frame
  · rw [bufs]
    intro u _ i watch
    exact inv.watched u i watch
  · rw [bufs]
    exact watched
  · exact fit

theorem BufLedger.calm (inv : BufLedger s) (here : s.pc t = pc) (pcs : s'.pc = update s.pc t x)
    (bufs : s'.bufs = s.bufs)
    (objects : (fun place => (gemOf s'.drmFiles place).buf) = fun place =>
      (gemOf s.drmFiles place).buf)
    (pool : ∀ q, (s'.pool q).buf = (s.pool q).buf) (owes : x.owes = pc.owes)
    (held : x.held = pc.held)
    (frame : ∀ u, u ≠ t → ∀ p, (s.pc u).slot = some p → s'.pool p = s.pool p)
    (watched : ∀ i, x.watched s'.pool = some i → (s.bufs i).used = true) (fit : Fit s' x) :
    BufLedger s' := by
  refine inv.same here pcs bufs objects (claimed_same pcs ?_ pool) held frame watched fit
  intro q _
  rw [owes, here]

theorem BufLedger.refill (inv : BufLedger s) (custody : Custody s) (here : s.pc t = pc)
    (pcs : s'.pc = update s.pc t x) (bufs : s'.bufs = s.bufs) (files : s'.drmFiles = s.drmFiles)
    (pool : s'.pool = update s.pool p object) (mine : pc.slot = some p)
    (kept : ∀ q, x.slot = some q → q = p) (old : pc.claim (s.pool p) p = none)
    (new : x.claim object p = none) (held : x.held = pc.held)
    (watched : ∀ i, x.watched s'.pool = some i → (s.bufs i).used = true) (fit : Fit s' x) :
    BufLedger s' := by
  subst here
  refine inv.same rfl pcs bufs (by rw [files]) ?_ held ?_ watched fit
  · apply claimed_kept custody pcs mine kept _ old
    · rw [pool, update_self]
      exact new
    · intro q other
      rw [pool, update_of_ne other]
  · rw [pool]
    exact frame_of_slot custody mine object

theorem BufLedger.get (inv : BufLedger s) (custody : Custody s) (here : s.pc t = pc)
    (pcs : s'.pc = update s.pc t x) (used : (s.bufs i).used = true)
    (bufs : s'.bufs = dmaBufGet s.bufs i) (pool : s'.pool = s.pool)
    (files : s'.drmFiles = s.drmFiles) (mine : pc.slot = some p)
    (kept : ∀ q, x.slot = some q → q = p) (object : s.pool p = .dmabuf i)
    (owed : pc.owes = some p) (taken : x.owes ≠ some p) (held : x.held = pc.held)
    (watched : x.watched s'.pool = none) (fit : Fit s' x) : BufLedger s' := by
  subst here
  apply inv.step pcs
  · intro j
    have before := inv.counted j
    have holders := held_step pcs j
    have claims := claims_step custody pcs mine kept (fun q _ => by rw [pool]) j
    have old : (s.pc t).claim (s.pool p) p = none := if_pos owed
    have new : x.claim (s'.pool p) p = some i := by
      rw [DmaPc.claim, if_neg taken, pool, object]
      rfl
    rw [old, new, names_none] at claims
    rw [held] at holders
    unfold DmaState.refs at before ⊢
    rw [bufs, bufCount_get used, files]
    omega
  · rw [bufs]
    exact positive_get inv.positive i
  · intro u _ q _
    rw [pool]
  · intro u _ j watch
    rw [bufs, (dmaBufGet_other s.bufs i j).1]
    exact inv.watched u j watch
  · exact none_watched watched
  · exact fit

theorem BufLedger.put (inv : BufLedger s) (custody : Custody s) (pcs : s'.pc = update s.pc t x)
    (here : s.pc t = .put i next)
    (count : ∀ j, bufCount s'.bufs j + names (some i) j = bufCount s.bufs j)
    (positive : ∀ j, (s'.bufs j).used = true → 0 < (s'.bufs j).refcount) (pool : s'.pool = s.pool)
    (files : s'.drmFiles = s.drmFiles) (slot : x.slot = next.slot) (owes : x.owes = next.slot)
    (held : x.held = none) (watched : x.watched s'.pool = none)
    (used : ∀ u, u ≠ t → ∀ j, (s.pc u).watched s.pool = some j → (s'.bufs j).used = true)
    (fit : Fit s' x) : BufLedger s' := by
  apply inv.step pcs
  · intro j
    have before := inv.counted j
    have holders := held_step pcs j
    have drop := count j
    rw [held, names_none, here] at holders
    have moved : tally s'.claimed j + names (DmaPc.put i next).held j + names (some i) j =
        tally s.claimed j + names (DmaPc.put i next).held j + names (DmaPc.put i next).held j := by
      cases next with
      | poolFree p after =>
        have mine : (s.pc t).slot = some p := by
          rw [here]
          rfl
        have kept : ∀ q, x.slot = some q → q = p := by
          intro q same
          rw [slot] at same
          exact (Option.some.inj same).symm
        have claims := claims_step custody pcs mine kept (fun q _ => by rw [pool]) j
        have object := inv.fit t
        rw [here] at object
        have old : (s.pc t).claim (s.pool p) p = some i := by
          rw [here]
          exact congrArg PoolObj.buf object
        have new : x.claim (s'.pool p) p = none := if_pos owes
        rw [old, new, names_none] at claims
        have nothing : (DmaPc.put i (.poolFree p after)).held = none := rfl
        rw [nothing, names_none]
        omega
      | _ =>
        rw [claimed_calm here pcs pool owes]
        rfl
    unfold DmaState.refs at before ⊢
    rw [files]
    omega
  · exact positive
  · intro u _ q _
    rw [pool]
  · exact used
  · exact none_watched watched
  · exact fit

end Steps

structure Works (x : DmaPc) (owes : Option (Fin fdPoolSize)) (held : Option (Fin dmaBufMax)) :
    Prop where
  owes : x.owes = owes
  held : x.held = held
  watched : ∀ pool, x.watched pool = none
  fit : ∀ {n : Nat} (s : DmaState n), Fit s x

theorem AfterPut.pc_works (next : AfterPut) : Works (next.pc true) next.slot none := by
  cases next <;> exact ⟨rfl, rfl, fun _ => rfl, fun _ => trivial⟩

theorem AfterClose.pc_works (next : AfterClose) : Works next.pc none none := by
  cases next <;> exact ⟨rfl, rfl, fun _ => rfl, fun _ => trivial⟩

theorem NewFd.failed_works (what : NewFd) : Works what.failed none what.held := by
  cases what <;> exact ⟨rfl, rfl, fun _ => rfl, fun _ => trivial⟩

theorem DmaFor.pc_works (why : DmaFor) (i : Fin dmaBufMax) : Works (why.pc i) none (some i) := by
  cases why <;> exact ⟨rfl, rfl, fun _ => rfl, fun _ => trivial⟩

theorem afterGem_works (i : Fin dmaBufMax) (created : Bool) :
    Works (afterGem i created) none (DmaPc.gemCreate file i created origin).held := by
  cases created <;> exact ⟨rfl, rfl, fun _ => rfl, fun _ => trivial⟩

section Moves

variable {s s' : DmaState n} {t : Fin n}

variable {i : Fin dmaBufMax}

theorem BufLedger.put_used (inv : BufLedger s) (custody : Custody s)
    (here : s.pc t = .putIndex i next ∨ s.pc t = .put i next) : (s.bufs i).used = true := by
  cases next with
  | poolFree p =>
    apply inv.used_of_claimed (p := p)
    have mine : (s.pc t).slot = some p := by
      rcases here with same | same <;> rw [same] <;> rfl
    have object := inv.fit t
    rw [claimed_of_slot custody mine]
    rcases here with same | same <;> rw [same] at object ⊢ <;>
      exact congrArg PoolObj.buf object
  | _ =>
    apply inv.used_of_held (t := t)
    rcases here with same | same <;> rw [same] <;> rfl

theorem BufLedger.hop (inv : BufLedger s) (custody : Custody s) (contexts : Contexts s)
    (guard : SectionGuard s t) (here : s.pc t = pc) (hop : Hop s pc next) :
    BufLedger (s.goto t next) := by
  have watched := inv.watched t
  rw [here] at watched
  have fit := inv.fit t
  rw [here] at fit
  have move : (∀ q, (s.pool q).buf ≠ none → (next.owes = some q ↔ pc.owes = some q)) →
      next.held = pc.held →
      (∀ i, next.watched s.pool = some i → (s.bufs i).used = true) → Fit s next →
      BufLedger (s.goto t next) := by
    intro owes held watch fits
    exact inv.same here rfl rfl rfl (claimed_same rfl (by rw [here]; exact owes) fun _ => rfl) held
      (fun _ _ _ _ => rfl) watch (fits.congr fun _ _ => rfl)
  have calm : next.owes = pc.owes → next.held = pc.held →
      (∀ i, next.watched s.pool = some i → (s.bufs i).used = true) → Fit s next →
      BufLedger (s.goto t next) :=
    fun owes => move fun q _ => by rw [owes]
  have works : Works next pc.owes pc.held → BufLedger (s.goto t next) :=
    fun works => calm works.owes works.held (none_watched (works.watched _)) (works.fit s)
  cases hop with
  | poolFull => exact works (NewFd.failed_works _)
  | @getOther pid p fd =>
    apply move _ rfl (none_watched rfl) trivial
    intro q plain
    constructor
    · intro owes
      cases owes
    · intro owes
      have object : s.pool p = .other := fit
      rw [← Option.some.inj owes, object] at plain
      exact absurd rfl plain
  | index used =>
    apply calm rfl rfl (none_watched rfl)
    rename_i i next
    cases next <;> exact fit
  | indexUnused unused =>
    rw [inv.put_used custody (.inl here)] at unused
    cases unused
  | putUnused unused =>
    rw [inv.put_used custody (.inr here)] at unused
    cases unused
  | notOpen => exact works (AfterClose.pc_works _)
  | objBuf object | objPlain object => exact calm rfl rfl (none_watched rfl) object
  | refBuf object used =>
    apply calm rfl rfl _ object
    intro i watch
    cases watch
    exact used
  | @refUnused p dest i object unused =>
    rw [watched i (congrArg PoolObj.buf object)] at unused
    cases unused
  | refPlain object =>
    apply move _ rfl (none_watched rfl) trivial
    intro q plain
    constructor
    · intro owes
      cases owes
    · intro owes
      cases owes
      exact absurd object plain
  | refFree object =>
    have used := custody.inUse _ (.inr ⟨t, by rw [here]; rfl⟩)
    exact absurd object used
  | noFd full =>
    have found := guard.2.2
    rw [here] at found
    have some_ := found _ rfl
    rw [full] at some_
    cases some_
  | fdBuf used =>
    apply calm rfl rfl _ trivial
    intro i watch
    cases watch
    exact used
  | noGem => exact works (afterGem_works _ _)
  | handle found =>
    apply calm rfl rfl _ trivial
    intro i watch
    cases watch
    exact inv.used_of_gem (handleFind_used found).2.2
  | @usable i use origin =>
    have seen := watched i rfl
    rcases GemUse.pc_cases i origin use with same | ⟨_, same⟩ | ⟨_, _, same⟩ | same <;>
      rw [same] at move calm ⊢
    · exact calm rfl rfl (none_watched rfl) trivial
    all_goals
      apply calm rfl rfl _ trivial
      intro j watch
      cases watch
      exact seen
  | @read i origin =>
    apply calm rfl rfl _ trivial
    exact watched
  | @mapping file offset len handle origin c k i found same =>
    apply calm rfl rfl _ trivial
    intro j watch
    cases watch
    rw [same]
    exact inv.used_of_gem (handleFind_used found).2.2
  | @closeIndex file c k owed =>
    apply calm rfl _ (none_watched rfl) trivial
    exact congrArg some (contexts.owed t file c k owed here)
  | _ => exact calm rfl rfl (none_watched rfl) trivial

variable {c : Fin rknpuDrmMaxFiles} {files : DrmFiles}

theorem gems_replaced (before : ∀ k, ((files c).gems k).used = false)
    (after : ∀ k, (ctx.gems k).used = false) :
    (fun place => (gemOf (update files c ctx) place).buf) =
      fun place => (gemOf files place).buf := by
  funext place
  unfold gemOf Gem.buf
  by_cases here : place.1 = c
  · rw [here, update_self, after, before]
    rfl
  · rw [update_of_ne here]

theorem drmFileGetOrCreate_gems (context : drmFileGetOrCreate files file = some (made, c))
    (idle : ∀ c, (files c).used = false → ∀ k, ((files c).gems k).used = false) :
    (fun place => (gemOf made place).buf) = fun place => (gemOf files place).buf := by
  rcases drmFileGetOrCreate_cases context with ⟨same, _⟩ | ⟨unused, new, _⟩
  · rw [same]
  · rw [new]
    exact gems_replaced (idle c unused) fun _ => rfl

protected theorem BufLedger.dropGem (inv : BufLedger s) (here : s.pc t = pc)
    (used : ((s.drmFiles c).gems k).used = true) (empty : pc.held = none)
    (settled : pc.owes = none) (owes : x.owes = none)
    (held : x.held = some ((s.drmFiles c).gems k).dmaIdx)
    (watched : ∀ pool, x.watched pool = none) (fit : Fit ((dropGem s c k).goto t x) x) :
    BufLedger ((dropGem s c k).goto t x) := by
  subst here
  refine inv.step rfl ?_ inv.positive (fun _ _ _ _ => rfl)
    (fun u _ i watch => inv.watched u i watch)
    (none_watched (watched _)) fit
  intro i
  have before := inv.counted i
  have holders := @held_step _ s ((dropGem s c k).goto t x) t x rfl i
  rw [empty, held, names_none] at holders
  have objects := gem_step s.drmFiles c k { (s.drmFiles c).gems k with used := false } i
  have old : ((s.drmFiles c).gems k).buf = some ((s.drmFiles c).gems k).dmaIdx := if_pos used
  have new : Gem.buf { (s.drmFiles c).gems k with used := false } = none := rfl
  rw [old, new, names_none] at objects
  have claims : ((dropGem s c k).goto t x).claimed = s.claimed :=
    claimed_calm rfl rfl rfl (owes.trans settled.symm)
  unfold DmaState.refs at before ⊢
  rw [claims]
  change bufCount s.bufs i = tally s.claimed i +
    tally (fun place => (gemOf (setGem s.drmFiles c k _) place).buf) i + _
  omega

theorem BufLedger.gemCreate (inv : BufLedger s) (contexts : Contexts s)
    (here : s.pc t = .gemCreate file i created origin)
    (context : drmFileGetOrCreate s.drmFiles file = some (files, c))
    (free : ((files c).gems k).used = false) (made : gem.buf = some i)
    (pcs : s'.pc = update s.pc t (afterGem i created)) (pool : s'.pool = s.pool)
    (bufs : s'.bufs = dmaBufGet s.bufs i) (objects : s'.drmFiles = setGem files c k gem) :
    BufLedger s' := by
  have used : (s.bufs i).used = true := by
    cases created with
    | true => exact inv.used_of_held (t := t) (by rw [here]; rfl)
    | false => exact inv.watched t i (by rw [here]; rfl)
  have works : Works (afterGem i created) none (DmaPc.gemCreate file i created origin).held :=
    afterGem_works i created
  apply inv.step pcs
  · intro j
    have before := inv.counted j
    have holders := held_step pcs j
    rw [here, works.held] at holders
    have more := gem_step files c k gem j
    have old : ((files c).gems k).buf = none := by
      unfold Gem.buf
      rw [free]
      rfl
    rw [old, made, names_none, drmFileGetOrCreate_gems context contexts.idle] at more
    have claims := claimed_calm here pcs pool works.owes
    unfold DmaState.refs at before ⊢
    rw [bufs, bufCount_get used, claims, objects]
    omega
  · rw [bufs]
    exact positive_get inv.positive i
  · intro u _ q _
    rw [pool]
  · intro u _ j watch
    rw [bufs, (dmaBufGet_other s.bufs i j).1]
    exact inv.watched u j watch
  · exact none_watched (works.watched _)
  · exact works.fit s'

theorem BufLedger.insert (inv : BufLedger s) (here : s.pc t = .insert why size region)
    (unused : (s.bufs i).used = false) :
    BufLedger { s.goto t (why.pc i) with
      bufs := update s.bufs i ⟨true, 1, region, size⟩ } := by
  have works := DmaFor.pc_works why i
  refine inv.step rfl ?_ ?_ (fun _ _ _ _ => rfl) ?_ (none_watched (works.watched _)) (works.fit _)
  · intro j
    have before := inv.counted j
    have holders := @held_step _ s { s.goto t (why.pc i) with
      bufs := update s.bufs i ⟨true, 1, region, size⟩ } t (why.pc i) rfl j
    rw [here, works.held] at holders
    have nothing : (DmaPc.insert why size region).held = none := rfl
    rw [nothing, names_none] at holders
    have claims : DmaState.claimed { s.goto t (why.pc i) with
        bufs := update s.bufs i ⟨true, 1, region, size⟩ } = s.claimed :=
      claimed_calm here rfl rfl works.owes
    unfold DmaState.refs at before ⊢
    rw [claims, bufCount_insert unused]
    change _ = _ + tally (fun place => (gemOf s.drmFiles place).buf) j + _
    omega
  · exact positive_update inv.positive fun _ => Nat.one_pos
  · intro u _ j watch
    have used := inv.watched u j watch
    have other : j ≠ i := by
      intro same
      rw [same, unused] at used
      cases used
    show (update s.bufs i _ j).used = true
    rw [update_of_ne other]
    exact used

/-- The buffer of an object that others can reach is there: the object has its reference, or the
call that made it still has the buffer in hand. -/
theorem BufLedger.used_of_exposed (inv : BufLedger s) (custody : Custody s)
    (exposed : s.Exposed p) (object : s.pool p = .dmabuf i) : (s.bufs i).used = true := by
  by_cases owed : ∃ u, (s.pc u).owes = some p
  · obtain ⟨u, owes⟩ := owed
    have slot := DmaPc.owes_slot owes
    have making := custody.exposed p exposed u slot
    have fit := inv.fit u
    cases at_ : s.pc u with
    | get _ what =>
      rw [at_] at slot fit
      have filled : s.pool p = what.object := by
        rw [← Option.some.inj slot]
        exact fit
      rw [object] at filled
      cases what with
      | own =>
        cases filled
        exact inv.used_of_held (t := u) (by rw [at_]; rfl)
      | prime =>
        cases filled
        exact inv.watched u i (by rw [at_]; rfl)
      | other => cases filled
    | _ =>
      rw [at_] at making
      cases making
  · apply inv.used_of_claimed (p := p)
    rw [DmaState.claimed, if_neg owed, object]
    rfl

section

variable (what : NewFd) (pid : Nat) (p : Fin fdPoolSize) (fd : Fin taskMaxFd)

theorem NewFd.published_held :
    (what.published pid p fd).held = what.held := by
  cases what <;> rfl

theorem NewFd.published_watched (pool : Fin fdPoolSize → PoolObj) :
    (what.published pid p fd).watched pool = what.watched := by
  cases what <;> rfl

theorem NewFd.published_claim :
    (what.published pid p fd).claim what.object p = none := by
  cases what with
  | own | prime => exact if_pos rfl
  | other => rfl

theorem NewFd.published_kept (q : Fin fdPoolSize) (slot : (what.published pid p fd).slot = some q) :
    q = p := by
  cases what with
  | own | prime => exact (Option.some.inj slot).symm
  | other => cases slot

end

theorem none_kept {x : DmaPc} (nothing : x.slot = none) (q : Fin fdPoolSize)
    (slot : x.slot = some q) : q = p := by
  rw [nothing] at slot
  cases slot

theorem BufLedger.move (inv : BufLedger s) (custody : Custody s) (contexts : Contexts s)
    (guard : SectionGuard s t) (move : Move s t (s.pc t) s') : BufLedger s' := by
  generalize here : s.pc t = pc at move
  have watched := inv.watched t
  have fit := inv.fit t
  rw [here] at watched fit
  cases move with
  | rest => exact inv
  | hop hop => exact inv.hop custody contexts guard here hop
  | allocate | take | install | closeNone =>
    exact inv.calm here rfl rfl rfl (fun _ => rfl) rfl rfl (fun _ _ _ _ => rfl) (none_watched rfl)
      trivial
  | insert unused => exact inv.insert here unused
  | newSlot free =>
    exact inv.calm here rfl rfl rfl (buf_of_free free) rfl rfl
      (fun u _ => frame_of_free custody free _ u) watched (update_self _ _ _)
  | copySlot free =>
    exact inv.calm here rfl rfl rfl (buf_of_free free) rfl rfl
      (fun u _ => frame_of_free custody free _ u) (none_watched rfl) (update_self _ _ _)
  | @publish pid what p fd =>
    refine inv.refill custody here rfl rfl rfl rfl rfl (NewFd.published_kept what pid p fd)
      (congrArg PoolObj.buf fit) (NewFd.published_claim what pid p fd)
      (NewFd.published_held what pid p fd) ?_ ?_
    · intro i watch
      rw [NewFd.published_watched] at watch
      exact watched i watch
    · cases what with
      | own | prime => exact update_self _ _ _
      | other => trivial
  | @noFd pid what p =>
    exact inv.refill custody here rfl rfl rfl rfl rfl (fun q slot => (Option.some.inj slot).symm)
      (congrArg PoolObj.buf fit) (if_pos rfl) rfl (none_watched rfl) (update_self _ _ _)
  | @unpublish what p =>
    have works := NewFd.failed_works what
    exact inv.refill custody here rfl rfl rfl rfl rfl (none_kept (NewFd.places what).slot)
      (if_pos rfl) (ite_self _) works.held (none_watched (works.watched _)) (works.fit _)
  | @poolFree p paid next =>
    have works := AfterClose.pc_works next
    refine inv.refill custody here rfl rfl rfl rfl rfl (none_kept (AfterClose.places next).slot) ?_
      (ite_self _) works.held (none_watched (works.watched _)) (works.fit _)
    cases paid with
    | true => exact if_pos rfl
    | false => exact fit
  | @getOwn pid i p fd =>
    have used := inv.used_of_held (t := t) (i := i) (by rw [here]; rfl)
    exact inv.get custody here rfl used rfl rfl rfl rfl (none_kept rfl) fit rfl
      (Option.some_ne_none p).symm rfl rfl trivial
  | @getPrime pid i origin p fd =>
    exact inv.get custody here rfl (watched i rfl) rfl rfl rfl rfl (none_kept rfl) fit rfl
      (Option.some_ne_none p).symm rfl rfl trivial
  | @refGet i p dest =>
    exact inv.get custody here rfl (watched i rfl) rfl rfl rfl rfl
      (fun q slot => (Option.some.inj slot).symm) fit rfl
        (Option.some_ne_none p).symm rfl rfl trivial
  | @put i next used more =>
    have works := AfterPut.pc_works next
    refine inv.put custody rfl here (bufCount_put used more) ?_ rfl rfl (AfterPut.places _ _).slot
      works.owes works.held (works.watched _) ?_ (works.fit _)
    · exact positive_update inv.positive fun _ => Nat.sub_pos_of_lt more
    · intro u _ j watch
      show (update s.bufs i _ j).used = true
      by_cases self : j = i
      · rw [self, update_self]
        exact used
      · rw [update_of_ne self]
        exact inv.watched u j watch
  | @putLast i next used last =>
    have one : (s.bufs i).refcount = 1 := by
      have positive := inv.positive i used
      omega
    have alone := guard.2.1
    rw [here] at alone
    refine inv.put custody rfl here (bufCount_putLast used one) ?_ rfl rfl rfl rfl rfl rfl ?_
      trivial
    · exact positive_update inv.positive fun used => absurd used Bool.false_ne_true
    · intro u other j watch
      have elsewhere : j ≠ i := by
        intro same
        rw [same] at watch
        exact alone i rfl last u other watch
      show (update s.bufs i .empty j).used = true
      rw [update_of_ne elsewhere]
      exact inv.watched u j watch
  | @heapFree region next =>
    have works := AfterPut.pc_works next
    exact inv.calm here rfl rfl rfl (fun _ => rfl) works.owes works.held (fun _ _ _ _ => rfl)
      (none_watched (works.watched _)) (works.fit _)
  | @copyObj src p dest =>
    refine inv.refill custody here rfl rfl rfl rfl rfl (fun q slot => (Option.some.inj slot).symm)
      (congrArg PoolObj.buf fit) (if_pos rfl) rfl ?_ trivial
    intro i watch
    change (update s.pool p (s.pool src) p).buf = some i at watch
    rw [update_self] at watch
    apply inv.used_of_exposed custody (p := src) (.inr ⟨t, by rw [here]; rfl⟩)
    cases object : s.pool src with
    | dmabuf =>
      rw [object] at watch
      rw [Option.some.inj watch]
    | _ =>
      rw [object] at watch
      cases watch
  | gemCreate context free =>
    exact inv.gemCreate contexts here context free rfl rfl rfl rfl rfl
  | destroy found =>
    exact inv.dropGem here (handleFind_used found).2.2 rfl rfl rfl rfl (fun _ => rfl) trivial
  | closeGem closing used =>
    have started : pc.held = none ∧ pc.owes = none := by
      rcases closing with ⟨same, _⟩ | same <;> rw [same] <;> exact ⟨rfl, rfl⟩
    exact inv.dropGem here used started.1 started.2 rfl rfl (fun _ => rfl) trivial
  | @closeEnd _ file c first closing rest =>
    have started : pc.held = none ∧ pc.owes = none := by
      rcases closing with ⟨same, _⟩ | same <;> rw [same] <;> exact ⟨rfl, rfl⟩
    have empty : ∀ k, ((s.drmFiles c).gems k).used = false := by
      intro k
      by_cases early : k.val < first
      · exact (contexts.closing here closing).2.2 k early
      · exact rest k (Nat.le_of_not_lt early)
    exact inv.calm here rfl rfl (gems_replaced empty fun _ => rfl) (fun _ => rfl) started.2.symm
      started.1.symm (fun _ _ _ _ => rfl) (none_watched rfl) trivial

end Moves

end AvatarKernel
