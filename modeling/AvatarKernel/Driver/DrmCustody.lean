import AvatarKernel.Driver.DrmMoves

namespace AvatarKernel

open Function

variable {n : Nat}

def DmaCall.closesFile : DmaCall → Option Nat
  | .drmClose file => some file
  | _ => none

def DmaPc.closesFd : DmaPc → Option (Nat × Fin taskMaxFd)
  | .takeFd pid fd _ => some (pid, fd)
  | _ => none

def DmaPc.puts : DmaPc → Option (Fin dmaBufMax)
  | .put i _ => some i
  | _ => none

/-- The table, and the lowest descriptor, in which `F_DUPFD` enters its copy next. -/
def DmaPc.dups : DmaPc → Option (Nat × Nat)
  | .install _ (.fcntl pid floor) => some (pid, floor)
  | _ => none

/-- A descriptor is not closed while a call still makes or copies its object; the last reference to
a buffer is not dropped while another call has looked the buffer up without a reference to it;
`F_DUPFD` finds a descriptor. -/
def SectionGuard (s : DmaState n) (t : Fin n) : Prop :=
  (∀ fd ∈ (s.pc t).closesFd, ∀ p ∈ s.table fd.1 fd.2, ∀ u,
    (s.pc u).src ≠ some p ∧ (s.pc u).slot ≠ some p) ∧
  (∀ i ∈ (s.pc t).puts, (s.bufs i).refcount ≤ 1 → ∀ u, u ≠ t → (s.pc u).watched s.pool ≠ some i) ∧
  ∀ dup ∈ (s.pc t).dups, (descriptorFree (s.table dup.1) dup.2).isSome = true

instance sectionGuardDecidable (s : DmaState n) (t : Fin n) : Decidable (SectionGuard s t) :=
  inferInstanceAs (Decidable (_ ∧ _ ∧ _))

/-- The condition on a step: that on a section, and a DRM file is not closed while a call has still
to look into its context. -/
def DmaGuard (s : DmaState n) : DmaAction n → Prop
  | .openNode _ => True
  | .enter _ call => ∀ file ∈ call.closesFile, ∀ u, (s.pc u).onFile ≠ some file
  | .advance t _ => SectionGuard s t

instance dmaGuardDecidable (s : DmaState n) : (action : DmaAction n) → Decidable (DmaGuard s action)
  | .openNode _ => .isTrue trivial
  | .enter .. => inferInstanceAs (Decidable (∀ _ ∈ _, ∀ _, _ ≠ _))
  | .advance t _ => inferInstanceAs (Decidable (SectionGuard s t))

def DmaState.Exposed (s : DmaState n) (p : Fin fdPoolSize) : Prop :=
  (∃ pid fd, s.table pid fd = some p) ∨ ∃ t, (s.pc t).src = some p

/-- At most one call works on a pool slot, and on one that others can reach only the call that still
has to take the reference of the object it made. -/
structure Custody (s : DmaState n) : Prop where
  apart : ∀ t u p, (s.pc t).slot = some p → (s.pc u).slot = some p → t = u
  exposed : ∀ p, s.Exposed p → ∀ t, (s.pc t).slot = some p → (s.pc t).making = true
  once : ∀ pid fd pid' fd' p, s.table pid fd = some p → s.table pid' fd' = some p →
    pid = pid' ∧ fd = fd'
  inUse : ∀ p, s.Exposed p ∨ (∃ t, (s.pc t).slot = some p) → s.pool p ≠ .free

section Steps

variable {s s' : DmaState n} {t : Fin n} {x : DmaPc}

theorem pc_self (pcs : s'.pc = update s.pc t x) : s'.pc t = x := by
  rw [pcs, update_self]

theorem pc_other (pcs : s'.pc = update s.pc t x) (other : u ≠ t) : s'.pc u = s.pc u := by
  rw [pcs, update_of_ne other]

theorem pc_cases (P : DmaPc → Prop) (pcs : s'.pc = update s.pc t x) (holds : P (s'.pc u)) :
    (u = t ∧ P x) ∨ (u ≠ t ∧ P (s.pc u)) := by
  by_cases same : u = t
  · rw [same, pc_self pcs] at holds
    exact .inl ⟨same, holds⟩
  · rw [pc_other pcs same] at holds
    exact .inr ⟨same, holds⟩

variable {p : Fin fdPoolSize}

theorem DmaState.Exposed.before (pcs : s'.pc = update s.pc t x) (tables : s'.table = s.table)
    (src : ∀ p, x.src = some p → s.Exposed p) (exposed : s'.Exposed p) : s.Exposed p := by
  rcases exposed with ⟨pid, fd, entry⟩ | ⟨u, copies⟩
  · rw [tables] at entry
    exact .inl ⟨pid, fd, entry⟩
  · rcases pc_cases (fun pc => pc.src = some p) pcs copies with ⟨_, mine⟩ | ⟨_, theirs⟩
    · exact src p mine
    · exact .inr ⟨u, theirs⟩

theorem slot_cases (pcs : s'.pc = update s.pc t x) (slot : (s'.pc u).slot = some p) :
    (u = t ∧ x.slot = some p) ∨ (u ≠ t ∧ (s.pc u).slot = some p) :=
  pc_cases (fun pc => pc.slot = some p) pcs slot

theorem Custody.unexposed (inv : Custody s) (holds : (s.pc t).slot = some p)
    (quiet : (s.pc t).making = false) : ¬ s.Exposed p := by
  intro exposed
  cases quiet.symm.trans (inv.exposed p exposed t holds)

theorem Custody.shrink (inv : Custody s) (pcs : s'.pc = update s.pc t x)
    (tables : s'.table = s.table)
    (slot : x.slot = none ∨ (x.slot = (s.pc t).slot ∧ (s.pc t).making = false))
    (src : ∀ p, x.src = some p → s.Exposed p)
    (pool : ∀ q, s.Exposed q ∨ (∃ u, (s'.pc u).slot = some q ∧ (s.pc u).slot = some q) →
      s.pool q ≠ .free → s'.pool q ≠ .free) : Custody s' := by
  have old : ∀ {u : Fin n} {q : Fin fdPoolSize}, (s'.pc u).slot = some q →
      (s.pc u).slot = some q ∧ (u = t → (s.pc t).making = false) := by
    intro u q holds
    rcases slot_cases pcs holds with ⟨rfl, mine⟩ | ⟨other, theirs⟩
    · rcases slot with none_ | ⟨kept, quiet⟩
      · cases none_.symm.trans mine
      · exact ⟨kept.symm.trans mine, fun _ => quiet⟩
    · exact ⟨theirs, fun same => absurd same other⟩
  constructor
  · intro u v q left right
    exact inv.apart u v q (old left).1 (old right).1
  · intro q exposed u holds
    have before := exposed.before pcs tables src
    by_cases same : u = t
    · subst same
      exact absurd before (inv.unexposed (old holds).1 ((old holds).2 rfl))
    · rw [pc_other pcs same]
      exact inv.exposed q before u (old holds).1
  · rw [tables]
    exact inv.once
  · intro q reached
    rcases reached with exposed | ⟨u, holds⟩
    · have before := exposed.before pcs tables src
      exact pool q (.inl before) (inv.inUse q (.inl before))
    · have before := (old holds).1
      exact pool q (.inr ⟨u, holds, before⟩) (inv.inUse q (.inr ⟨u, before⟩))

theorem Custody.keep (inv : Custody s) (pcs : s'.pc = update s.pc t x)
    (tables : s'.table = s.table) (pool : ∀ q, s.pool q ≠ .free → s'.pool q ≠ .free)
    (slot : x.slot = none ∨ (x.slot = (s.pc t).slot ∧ (s.pc t).making = false))
    (src : ∀ p, x.src = some p → s.Exposed p) : Custody s' :=
  inv.shrink pcs tables slot src fun q _ => pool q

theorem Custody.fresh (inv : Custody s) (free : s.pool p = .free) (pcs : s'.pc = update s.pc t x)
    (tables : s'.table = s.table) (pool : s'.pool = update s.pool p .allocated)
    (slot : x.slot = some p) (src : ∀ q, x.src = some q → s.Exposed q) : Custody s' := by
  have unreached : ¬ s.Exposed p := fun exposed => inv.inUse p (.inl exposed) free
  have unheld : ∀ u, (s.pc u).slot ≠ some p := fun u holds => inv.inUse p (.inr ⟨u, holds⟩) free
  constructor
  · intro u v q left right
    rcases slot_cases pcs left with ⟨same, mine⟩ | ⟨_, theirs⟩
    · rw [slot, Option.some.injEq] at mine
      rcases slot_cases pcs right with ⟨same', _⟩ | ⟨_, theirs'⟩
      · rw [same, same']
      · rw [← mine] at theirs'
        exact absurd theirs' (unheld v)
    · rcases slot_cases pcs right with ⟨_, mine'⟩ | ⟨_, theirs'⟩
      · rw [slot, Option.some.injEq] at mine'
        rw [← mine'] at theirs
        exact absurd theirs (unheld u)
      · exact inv.apart u v q theirs theirs'
  · intro q exposed u holds
    have before := exposed.before pcs tables src
    rcases slot_cases pcs holds with ⟨_, mine⟩ | ⟨other, theirs⟩
    · rw [slot, Option.some.injEq] at mine
      rw [← mine] at before
      exact absurd before unreached
    · rw [pc_other pcs other]
      exact inv.exposed q before u theirs
  · rw [tables]
    exact inv.once
  · intro q reached
    rw [pool]
    by_cases here : q = p
    · rw [here, update_self]
      decide
    · rw [update_of_ne here]
      apply inv.inUse
      rcases reached with exposed | ⟨u, holds⟩
      · exact .inl (exposed.before pcs tables src)
      · rcases slot_cases pcs holds with ⟨_, mine⟩ | ⟨_, theirs⟩
        · rw [slot, Option.some.injEq] at mine
          exact absurd mine.symm here
        · exact .inr ⟨u, theirs⟩

theorem Custody.free (inv : Custody s) (holds : (s.pc t).slot = some p)
    (quiet : (s.pc t).making = false) (pcs : s'.pc = update s.pc t x) (tables : s'.table = s.table)
    (pool : s'.pool = update s.pool p .free) (slot : x.slot = none)
    (src : ∀ q, x.src = some q → s.Exposed q) : Custody s' := by
  refine inv.shrink pcs tables (.inl slot) src ?_
  intro q reached inUse
  have here : q ≠ p := by
    rintro rfl
    rcases reached with exposed | ⟨u, holds', before⟩
    · exact inv.unexposed holds quiet exposed
    · rw [inv.apart u t q before holds, pc_self pcs, slot] at holds'
      cases holds'
  rw [pool, update_of_ne here]
  exact inUse

variable {fd : Fin taskMaxFd}

theorem setFd_entry {entry : Option (Fin fdPoolSize)}
    (tables : table' = update table pid (update (table pid) fd entry)) (pid' : Nat)
    (fd' : Fin taskMaxFd) :
    table' pid' fd' = if pid' = pid ∧ fd' = fd then entry else table pid' fd' := by
  rw [tables]
  by_cases process : pid' = pid
  · subst process
    rw [update_self]
    by_cases number : fd' = fd
    · subst number
      rw [update_self, if_pos ⟨rfl, rfl⟩]
    · rw [update_of_ne number, if_neg (fun both => number both.2)]
  · rw [update_of_ne process, if_neg (fun both => process both.1)]

theorem Custody.enter (inv : Custody s) {pid : Nat} (holds : (s.pc t).slot = some p)
    (quiet : (s.pc t).making = false) (pcs : s'.pc = update s.pc t x)
    (tables : s'.table = update s.table pid (update (s.table pid) fd (some p)))
    (pool : ∀ q, s.pool q ≠ .free → s'.pool q ≠ .free)
    (slot : x.slot = none ∨ (x.slot = some p ∧ x.making = true)) (src : x.src = none) :
    Custody s' := by
  have unreached := inv.unexposed holds quiet
  have entries := setFd_entry tables
  have before : ∀ {q : Fin fdPoolSize}, s'.Exposed q → q = p ∨ s.Exposed q := by
    intro q exposed
    rcases exposed with ⟨pid', fd', entry⟩ | ⟨u, copies⟩
    · rw [entries] at entry
      split at entry
      · exact .inl (Option.some.inj entry).symm
      · exact .inr (.inl ⟨pid', fd', entry⟩)
    · rcases pc_cases (fun pc => pc.src = some q) pcs copies with ⟨_, mine⟩ | ⟨_, theirs⟩
      · cases src.symm.trans mine
      · exact .inr (.inr ⟨u, theirs⟩)
  have elsewhere : ∀ {u : Fin n} {q : Fin fdPoolSize}, (s'.pc u).slot = some q →
      (u = t ∧ q = p ∧ x.making = true) ∨ (u ≠ t ∧ (s.pc u).slot = some q) := by
    intro u q held
    rcases slot_cases pcs held with ⟨same, mine⟩ | theirs
    · rcases slot with none_ | ⟨kept, making⟩
      · cases none_.symm.trans mine
      · cases kept.symm.trans mine
        exact .inl ⟨same, rfl, making⟩
    · exact .inr theirs
  have old : ∀ {u : Fin n} {q : Fin fdPoolSize}, (s'.pc u).slot = some q →
      (s.pc u).slot = some q := by
    intro u q held
    rcases elsewhere held with ⟨same, here, _⟩ | ⟨_, theirs⟩
    · rw [same, here]
      exact holds
    · exact theirs
  constructor
  · intro u v q left right
    exact inv.apart u v q (old left) (old right)
  · intro q exposed u held
    rcases elsewhere held with ⟨same, _, making⟩ | ⟨other, theirs⟩
    · rw [same, pc_self pcs]
      exact making
    · rw [pc_other pcs other]
      rcases before exposed with here | reached
      · rw [here] at theirs
        exact absurd (inv.apart u t p theirs holds) other
      · exact inv.exposed q reached u theirs
  · intro pid₁ fd₁ pid₂ fd₂ q left right
    rw [entries] at left right
    split at left
    · rename_i first
      split at right
      · rename_i second
        rw [first.1, first.2, second.1, second.2]
        exact ⟨rfl, rfl⟩
      · rw [← Option.some.inj left] at right
        exact absurd (.inl ⟨pid₂, fd₂, right⟩) unreached
    · split at right
      · rw [← Option.some.inj right] at left
        exact absurd (.inl ⟨pid₁, fd₁, left⟩) unreached
      · exact inv.once pid₁ fd₁ pid₂ fd₂ q left right
  · intro q reached
    apply pool
    apply inv.inUse
    rcases reached with exposed | ⟨u, held⟩
    · rcases before exposed with here | reached
      · exact .inr ⟨t, here ▸ holds⟩
      · exact .inl reached
    · exact .inr ⟨u, old held⟩

theorem Custody.take (inv : Custody s) {pid : Nat} (entry : s.table pid fd = some p)
    (alone : ∀ u, (s.pc u).src ≠ some p ∧ (s.pc u).slot ≠ some p) (pcs : s'.pc = update s.pc t x)
    (tables : s'.table = update s.table pid (update (s.table pid) fd none))
    (pool : s'.pool = s.pool) (slot : x.slot = some p) (src : x.src = (s.pc t).src) :
    Custody s' := by
  have entries := setFd_entry tables
  have before : ∀ {q : Fin fdPoolSize}, s'.Exposed q → q ≠ p ∧ s.Exposed q := by
    intro q exposed
    rcases exposed with ⟨pid', fd', entry'⟩ | ⟨u, copies⟩
    · rw [entries] at entry'
      split at entry'
      · cases entry'
      · rename_i other
        refine ⟨?_, .inl ⟨pid', fd', entry'⟩⟩
        intro here
        rw [here] at entry'
        exact other (inv.once pid' fd' pid fd p entry' entry)
    · have old : (s.pc u).src = some q := by
        rcases pc_cases (fun pc => pc.src = some q) pcs copies with ⟨rfl, mine⟩ | ⟨_, theirs⟩
        · exact src.symm.trans mine
        · exact theirs
      refine ⟨?_, .inr ⟨u, old⟩⟩
      intro here
      rw [here] at old
      exact (alone u).1 old
  have cases_ : ∀ {u : Fin n} {q : Fin fdPoolSize}, (s'.pc u).slot = some q →
      (u = t ∧ q = p) ∨ (u ≠ t ∧ q ≠ p ∧ (s.pc u).slot = some q) := by
    intro u q held
    rcases slot_cases pcs held with ⟨same, mine⟩ | ⟨other, theirs⟩
    · rw [slot, Option.some.injEq] at mine
      exact .inl ⟨same, mine.symm⟩
    · refine .inr ⟨other, ?_, theirs⟩
      intro here
      rw [here] at theirs
      exact (alone u).2 theirs
  constructor
  · intro u v q left right
    rcases cases_ left with ⟨same, here⟩ | ⟨_, away, theirs⟩
    · rcases cases_ right with ⟨same', _⟩ | ⟨_, away, _⟩
      · rw [same, same']
      · exact absurd here away
    · rcases cases_ right with ⟨_, here⟩ | ⟨_, _, theirs'⟩
      · exact absurd here away
      · exact inv.apart u v q theirs theirs'
  · intro q exposed u held
    obtain ⟨away, reached⟩ := before exposed
    rcases cases_ held with ⟨_, here⟩ | ⟨other, _, theirs⟩
    · exact absurd here away
    · rw [pc_other pcs other]
      exact inv.exposed q reached u theirs
  · intro pid₁ fd₁ pid₂ fd₂ q left right
    rw [entries] at left right
    split at left
    · cases left
    · split at right
      · cases right
      · exact inv.once pid₁ fd₁ pid₂ fd₂ q left right
  · intro q reached
    rw [pool]
    apply inv.inUse
    rcases reached with exposed | ⟨u, held⟩
    · exact .inl (before exposed).2
    · rcases cases_ held with ⟨_, here⟩ | ⟨_, _, theirs⟩
      · rw [here]
        exact .inl (.inl ⟨pid, fd, entry⟩)
      · exact .inr ⟨u, theirs⟩

end Steps

section Next

structure Places (x : DmaPc) (slot src : Option (Fin fdPoolSize)) : Prop where
  slot : x.slot = slot
  src : x.src = src

theorem AfterPut.places (next : AfterPut) (paid : Bool) : Places
    (next.pc paid) next.slot next.src := by
  cases next <;> exact ⟨rfl, rfl⟩

theorem AfterClose.places (next : AfterClose) : Places next.pc none next.src := by
  cases next <;> exact ⟨rfl, rfl⟩

theorem DmaFor.places (why : DmaFor) (i : Fin dmaBufMax) : Places (why.pc i) none none := by
  cases why <;> exact ⟨rfl, rfl⟩

theorem GemUse.places (use : GemUse) (i : Fin dmaBufMax) (origin : Origin) :
    Places (use.pc i origin) none none := by
  cases use with
  | sync _ _ toDevice fromDevice => cases toDevice <;> cases fromDevice <;> exact ⟨rfl, rfl⟩
  | fd | submit => exact ⟨rfl, rfl⟩

theorem afterGem_places (i : Fin dmaBufMax) (created : Bool) : Places
    (afterGem i created) none none := by
  cases created <;> exact ⟨rfl, rfl⟩

variable (what : NewFd)

theorem NewFd.places : Places what.failed none none := by
  cases what <;> exact ⟨rfl, rfl⟩

theorem NewFd.published_slot (pid : Nat) (p : Fin fdPoolSize) (fd : Fin taskMaxFd) :
    (what.published pid p fd).slot = none ∨
      ((what.published pid p fd).slot = some p ∧ (what.published pid p fd).making = true) := by
  cases what with
  | own | prime => exact .inr ⟨rfl, rfl⟩
  | other => exact .inl rfl

theorem NewFd.published_src (pid : Nat) (p : Fin fdPoolSize) (fd : Fin taskMaxFd) :
    (what.published pid p fd).src = none := by
  cases what <;> rfl

theorem NewFd.object_ne_free : what.object ≠ .free := by
  cases what <;> simp [NewFd.object]

end Next

variable {s : DmaState n}

theorem Hop.slot (hop : Hop s pc next) :
    next.slot = none ∨ (next.slot = pc.slot ∧ pc.making = false) := by
  cases hop with
  | poolFull => exact .inl (NewFd.places _).slot
  | indexUnused | putUnused => exact .inr ⟨(AfterPut.places _ _).slot, rfl⟩
  | notOpen => exact .inl (AfterClose.places _).slot
  | noGem => exact .inl (afterGem_places _ _).slot
  | usable => exact .inl (GemUse.places _ _ _).slot
  | _ => first | exact .inl rfl | exact .inr ⟨rfl, rfl⟩

theorem Hop.src (hop : Hop s pc next) (p : Fin fdPoolSize) (copies : next.src = some p) :
    pc.src = some p ∨ ∃ pid fd, s.table pid fd = some p := by
  cases hop with
  | srcDup entry | srcCopy entry =>
    cases copies
    exact .inr ⟨_, _, entry⟩
  | poolFull => cases (NewFd.places _).src.symm.trans copies
  | indexUnused | putUnused => exact .inl ((AfterPut.places _ _).src.symm.trans copies)
  | notOpen => exact .inl ((AfterClose.places _).src.symm.trans copies)
  | noGem => cases (afterGem_places _ _).src.symm.trans copies
  | usable => cases (GemUse.places _ _ _).src.symm.trans copies
  | _ => first | exact .inl copies | cases copies

theorem exposed_of_src {x : DmaPc} (kept : ∀ p, x.src = some p → (s.pc t).src = some p)
    (p : Fin fdPoolSize) (copies : x.src = some p) : s.Exposed p :=
  .inr ⟨t, kept p copies⟩

theorem exposed_of_none {x : DmaPc} (nothing : x.src = none) (p : Fin fdPoolSize)
    (copies : x.src = some p) : s.Exposed p := by
  cases nothing.symm.trans copies

theorem setObj_inUse {object : PoolObj} (filled : object ≠ .free) (q : Fin fdPoolSize)
    (used : pool q ≠ .free) : update pool p object q ≠ .free := by
  by_cases here : q = p
  · rw [here, update_self]
    exact filled
  · rw [update_of_ne here]
    exact used

theorem Custody.move (inv : Custody s) (guard : SectionGuard s t) (move : Move s t (s.pc t) s') :
    Custody s' := by
  generalize here : s.pc t = pc at move
  -- the steps that leave the pool and the tables alone and the thread without a slot
  have leave : ∀ (x : DmaPc) (after : DmaState n), after.pc = update s.pc t x →
      after.table = s.table → after.pool = s.pool → x.slot = none → x.src = none →
      Custody after := by
    intro x after pcs tables pool slot src
    apply inv.keep pcs tables (fun q used => pool ▸ used) (.inl slot)
    intro p copies
    exact exposed_of_none src p copies
  cases move with
  | rest => exact inv
  | hop hop =>
    refine inv.keep rfl rfl (fun _ used => used) ?_ ?_
    · rw [here]
      exact hop.slot
    · intro p copies
      rcases hop.src p copies with kept | entry
      · exact .inr ⟨t, here ▸ kept⟩
      · exact .inl entry
  | allocate | getOwn | getPrime | destroy | closeGem | closeEnd | closeNone =>
    exact leave _ _ rfl rfl rfl rfl rfl
  | insert => exact leave _ _ rfl rfl rfl (DmaFor.places _ _).slot (DmaFor.places _ _).src
  | newSlot free =>
    exact inv.fresh free rfl rfl rfl rfl (exposed_of_none rfl)
  | copySlot free =>
    refine inv.fresh free rfl rfl rfl rfl ?_
    apply exposed_of_src
    rw [here]
    exact fun p copies => copies
  | publish =>
    exact inv.enter (by rw [here]; rfl) (by rw [here]; rfl) rfl rfl
      (setObj_inUse (NewFd.object_ne_free _)) (NewFd.published_slot _ _ _ _)
      (NewFd.published_src _ _ _ _)
  | noFd =>
    exact inv.keep rfl rfl (setObj_inUse (NewFd.object_ne_free _))
      (by rw [here]; exact .inr ⟨rfl, rfl⟩) (exposed_of_none rfl)
  | unpublish =>
    exact inv.free (by rw [here]; rfl) (by rw [here]; rfl) rfl rfl rfl (NewFd.places _).slot
      (exposed_of_none (NewFd.places _).src)
  | @poolFree p paid next =>
    refine inv.free (by rw [here]; rfl) (by rw [here]; rfl) rfl rfl rfl
      (AfterClose.places _).slot ?_
    apply exposed_of_src
    rw [here]
    intro q copies
    rw [(AfterClose.places next).src] at copies
    exact copies
  | refGet =>
    exact inv.keep rfl rfl (fun _ used => used) (by rw [here]; exact .inr ⟨rfl, rfl⟩)
      (exposed_of_none rfl)
  | put | heapFree =>
    refine inv.keep rfl rfl (fun _ used => used) ?_ ?_
    · rw [here]
      exact .inr ⟨(AfterPut.places _ _).slot, rfl⟩
    · apply exposed_of_src
      rw [here, (AfterPut.places _ _).src]
      exact fun p copies => copies
  | putLast used =>
    refine inv.keep rfl rfl (fun _ used => used) ?_ ?_
    · rw [here]
      exact .inr ⟨rfl, rfl⟩
    · apply exposed_of_src
      rw [here]
      exact fun p copies => copies
  | take entry =>
    have alone := guard.1
    rw [here] at alone
    exact inv.take entry (alone _ rfl _ entry) rfl rfl rfl rfl (by rw [here]; rfl)
  | @copyObj src p dest =>
    have used : s.pool src ≠ .free := inv.inUse src (.inl (.inr ⟨t, by rw [here]; rfl⟩))
    exact inv.keep rfl rfl (setObj_inUse used) (by rw [here]; exact .inr ⟨rfl, rfl⟩)
      (exposed_of_none rfl)
  | install =>
    exact inv.enter (by rw [here]; rfl) (by rw [here]; rfl) rfl rfl (fun _ used => used)
      (.inl rfl) rfl
  | gemCreate =>
    exact leave _ _ rfl rfl rfl (afterGem_places _ _).slot (afterGem_places _ _).src

end AvatarKernel
