import AvatarKernel.Vmm.VmPool

namespace AvatarKernel

open Function Transition

def maxVcpus : Nat := 12

def pfsEnoent : Int := 2

def pfsEio : Int := 5

def pfsEbusy : Int := 16

def pfsEinval : Int := 22

/-- A boot request with its argument; `argOk` says that the argument could be read. -/
inductive BootReq where
  | boot
  | bootEx (argOk : Bool)
  | bootCfg (argOk : Bool) (flags rsv nrVcpus : Nat)

/-- The tests on the argument before `vmm_dev_boot` is called. `VMM_BOOT_F_NEW` is bit 0. -/
def BootReq.rejected : BootReq → Bool
  | .boot => false
  | .bootEx argOk => !argOk
  | .bootCfg argOk flags rsv _ => !argOk || rsv != 0 || flags / 2 != 0

def BootReq.forceNew : BootReq → Bool
  | .boot => false
  | .bootEx _ => true
  | .bootCfg _ flags _ _ => flags % 2 != 0

def BootReq.wantVcpus : BootReq → Nat
  | .bootCfg _ _ _ nrVcpus => nrVcpus
  | _ => 0

/-- `g_vmm_detached`, `g_vmm_fg_vmid` and `g_vmm_owner_pid` with the pool. `loading` lists the boots
in `guest_loader_run_linux`, by process, slot and VM, and `holds` the VMs, by number of allocation,
that a process has booted or attached to and not detached from. -/
structure VmmDev where
  pool : VmPool
  detached : Bool
  fgVmid : Nat
  ownerPid : Nat
  loading : List (Nat × Nat × Nat)
  holds : Nat → List Nat

def VmmDev.init : VmmDev := ⟨.boot, false, 0, 0, [], fun _ => []⟩

def VmmDev.isOwner (s : VmmDev) (pid : Nat) : Bool := s.ownerPid != 0 && pid == s.ownerPid

def VmmDev.claim (s : VmmDev) (pid vmid born : Nat) : VmmDev :=
  { s with
    fgVmid := vmid
    ownerPid := pid
    holds := update s.holds pid (born :: s.holds pid) }

def VmPool.runningVm (p : VmPool) (vmid : Nat) : Option Nat :=
  (p.vmGet vmid).filter fun slot => (p.vm slot).state == .running

/-- The VM that `vmm_dev_boot` attaches to: the last foreground VM, or the first one that runs. -/
def VmmDev.bootTarget (s : VmmDev) : Option Nat :=
  (s.pool.runningVm s.fgVmid).or
    (((List.range 255).map (· + 1)).findSome? fun vmid => s.pool.runningVm vmid)

/-- `vmm_dev_boot` up to the loader, with the result if it ends before. `sameCount`: the VM found
has the vCPUs wanted; `countOk`: the answer of `guest_loader_check_vcpus`; `copied`: the result
reaches the caller. -/
def VmmDev.boot (s : VmmDev) (pid : Nat) (req : BootReq) (sameCount countOk copied : Bool) :
    VmmDev × Option Int :=
  if req.rejected then (s, some (-pfsEinval))
  else
    let s := { s with detached := false }
    if maxVcpus < req.wantVcpus then (s, some (-pfsEinval))
    else if req.forceNew = false ∧ 0 < s.pool.vmCountUsed then
      match s.bootTarget with
      | none => (s, some (-pfsEbusy))
      | some slot =>
        if req.wantVcpus ≠ 0 ∧ sameCount = false then (s, some (-pfsEinval))
        else (s.claim pid (s.pool.vm slot).vmid (s.pool.vm slot).born,
          some (if copied then 0 else -pfsEinval))
    else if countOk = false then (s, some (-pfsEinval))
    else
      match s.pool.freeSlot with
      | none => (s, some (-pfsEbusy))
      | some slot =>
        ({ s with
          pool := s.pool.allocAt slot
          loading := (pid, slot, s.pool.allocs) :: s.loading }, none)

def VmPool.vmFree (p : VmPool) (slot : Nat) : VmPool :=
  if (p.vmFreeBegin slot).2 then (p.vmFreeBegin slot).1.vmFreeEnd slot else p

/-- The rest of a boot once `guest_loader_run_linux` has returned. -/
def VmmDev.loaded (s : VmmDev) (pid : Nat) (ok copied : Bool) : VmmDev × Option Int :=
  match s.loading.lookup pid with
  | none => (s, none)
  | some (slot, born) =>
    let s := { s with loading := s.loading.filter fun entry => entry.1 != pid }
    if ok then (s.claim pid (s.pool.vm slot).vmid born, some (if copied then 0 else -pfsEinval))
    else ({ s with pool := s.pool.vmFree slot }, some (-pfsEio))

def VmmDev.attach (s : VmmDev) (pid vmid : Nat) : VmmDev × Option Int :=
  match s.pool.vmGet vmid with
  | none => (s, some (-pfsEnoent))
  | some slot =>
    if (s.pool.vm slot).state ≠ .running then (s, some (-pfsEbusy))
    else (s.claim pid vmid (s.pool.vm slot).born, some 0)

def VmmDev.detach (s : VmmDev) (pid : Nat) : VmmDev × Option Int :=
  if s.isOwner pid then
    ({ s with detached := true, holds := update s.holds pid (s.holds pid).tail }, some 0)
  else (s, some (-pfsEinval))

/-- `vm_request_stop(vm_get(vmid))`, where NULL is let through. -/
def VmPool.requestStop (p : VmPool) (vmid : Nat) : VmPool :=
  match p.vmGet vmid with
  | none => p
  | some slot => p.setStopReq slot

def VmmDev.close (s : VmmDev) (pid : Nat) : VmmDev :=
  let left := { s with holds := update s.holds pid [] }
  if s.isOwner pid = false then left
  else if s.detached then { left with ownerPid := 0, detached := false }
  else { left with ownerPid := 0, fgVmid := 0, pool := s.pool.requestStop s.fgVmid }

/-- The calls of the processes, and what the tasks of the VMs do to the pool. `open` reaches no
handler of the device. -/
inductive VmmCall where
  | boot (pid : Nat) (req : BootReq) (sameCount countOk copied : Bool)
  | loaded (pid : Nat) (ok copied : Bool)
  | attach (pid vmid : Nat)
  | detach (pid : Nat)
  | stopVm (vmid : Nat)
  | stop
  | close (pid : Nat)
  | vm (action : PoolAction)

def VmmDev.call (s : VmmDev) : VmmCall → VmmDev × Option Int
  | .boot pid req sameCount countOk copied => s.boot pid req sameCount countOk copied
  | .loaded pid ok copied => s.loaded pid ok copied
  | .attach pid vmid => s.attach pid vmid
  | .detach pid => s.detach pid
  | .stopVm vmid =>
    ({ s with pool := s.pool.requestStop vmid },
      some (if (s.pool.vmGet vmid).isNone then -pfsEnoent else 0))
  | .stop => ({ s with pool := s.pool.requestStop s.fgVmid }, some 0)
  | .close pid => (s.close pid, some 0)
  | .vm action => ({ s with pool := s.pool.next action }, none)

def VmmDev.next (s : VmmDev) (call : VmmCall) : VmmDev := (s.call call).1

variable {p : VmPool}

theorem requestStop_sound (sound : p.Sound) (vmid : Nat) :
    p.Keeps (p.requestStop vmid) ∧ (p.requestStop vmid).Sound := by
  have keeps : p.Keeps (p.requestStop vmid) := by
    unfold VmPool.requestStop
    split
    · exact .refl p
    · exact .edit p _ rfl rfl rfl
  exact ⟨keeps, sound.keeps keeps⟩

variable {slot : Nat}

theorem requestStop_stops (sound : p.Sound) (live : ((p.requestStop vmid).vm slot).live = true)
    (named : (p.vm slot).vmid = vmid) : ((p.requestStop vmid).vm slot).stopReq = true := by
  have before := ((requestStop_sound sound vmid).1.named slot live).1
  have found : p.vmGet vmid = some slot := by
    rw [← named]
    exact sound.distinct.vmGet sound.inside before
  simp [VmPool.requestStop, found, VmPool.setStopReq]

theorem vmFree_sound (sound : p.Sound) (slot : Nat) :
    p.Keeps (p.vmFree slot) ∧ (p.vmFree slot).Sound := by
  have keeps : p.Keeps (p.vmFree slot) := by
    unfold VmPool.vmFree
    split
    · exact (vmFreeBegin_keeps p slot).trans (vmFreeEnd_keeps _ slot)
    · exact .refl p
  exact ⟨keeps, sound.keeps keeps⟩

theorem vmFree_running (idle : (p.vm slot).nrVcpuAlive = 0)
    (runs : ((p.vmFree slot).vm other).state = .running) :
    other ≠ slot ∧ (p.vm other).state = .running := by
  by_cases gone : (p.vm slot).state = .free ∨ (p.vm slot).state = .dying
  · have same : p.vmFree slot = p := by
      rcases gone with state | state <;> simp [VmPool.vmFree, VmPool.vmFreeBegin, state]
    rw [same] at runs
    refine ⟨fun here => ?_, runs⟩
    rw [← here, runs] at gone
    simp at gone
  · have freed : (p.vmFree slot).vm = update p.vm slot .zero := by
      simp [VmPool.vmFree, VmPool.vmFreeBegin, VmPool.vmFreeEnd, VmPool.set, gone, idle]
    rw [freed] at runs
    by_cases here : other = slot
    · simp [here, Vm.zero] at runs
    · rw [update_of_ne here] at runs
      exact ⟨here, runs⟩

theorem vmGet_live (found : p.vmGet vmid = some slot) :
    (p.vm slot).live = true ∧ (p.vm slot).vmid = vmid := by
  simpa using List.find?_some found

variable {s : VmmDev}

theorem bootTarget_live (found : s.bootTarget = some slot) : (s.pool.vm slot).live = true := by
  have running : ∀ vmid, s.pool.runningVm vmid = some slot → (s.pool.vm slot).live = true := by
    intro vmid runs
    exact (vmGet_live (Option.filter_eq_some_iff.mp runs).1).1
  rcases Option.or_eq_some_iff.mp found with front | ⟨-, first⟩
  · exact running _ front
  · obtain ⟨vmid, -, runs⟩ := List.exists_of_findSome?_eq_some first
    exact running vmid runs

namespace VmmDev

/-- A process that holds a VM owns the session and the VM is in the foreground; an owner that holds
none has detached; and a VM is loaded only while there is no session. -/
structure Sessions (s : VmmDev) : Prop where
  pool : s.pool.Sound
  holder : ∀ pid, ∀ born ∈ s.holds pid, pid ≠ 0 ∧ s.ownerPid = pid ∧ s.detached = false ∧
    s.holds pid = [born] ∧ ∀ slot, (s.pool.vm slot).live = true → (s.pool.vm slot).born = born →
      (s.pool.vm slot).vmid = s.fgVmid
  owner : s.ownerPid ≠ 0 → s.detached = true ∨ s.holds s.ownerPid ≠ []
  nobody : s.ownerPid = 0 → s.detached = false
  loads : s.loading = [] ∨ ∃ pid slot born, s.loading = [(pid, slot, born)] ∧ pid ≠ 0 ∧
    s.ownerPid = 0 ∧ ∀ other, (s.pool.vm other).live = true → (s.pool.vm other).born = born →
      other = slot

section Steps

variable {s : VmmDev} (inv : s.Sessions)

include inv

theorem Sessions.keeps {pool : VmPool} (keeps : s.pool.Keeps pool) (sound : pool.Sound) :
    { s with pool := pool }.Sessions where
  pool := sound
  holder := by
    intro pid born held
    obtain ⟨process, owner, attached, one, front⟩ := inv.holder pid born held
    refine ⟨process, owner, attached, one, fun slot live same => ?_⟩
    obtain ⟨before, vmid, age⟩ := keeps.named slot live
    exact vmid.trans (front slot before (age.symm.trans same))
  owner := inv.owner
  nobody := inv.nobody
  loads := by
    rcases inv.loads with none | ⟨pid, slot, born, one, process, free, place⟩
    · exact .inl none
    · refine .inr ⟨pid, slot, born, one, process, free, fun other live same => ?_⟩
      obtain ⟨before, -, age⟩ := keeps.named other live
      exact place other before (age.symm.trans same)

theorem Sessions.requestStop (vmid : Nat) :
    { s with pool := s.pool.requestStop vmid }.Sessions :=
  inv.keeps (requestStop_sound inv.pool vmid).1 (requestStop_sound inv.pool vmid).2

variable {pid : Nat}

theorem Sessions.none_held (other : s.ownerPid = 0 ∨ pid ≠ s.ownerPid) :
    s.holds pid = [] := by
  cases held : s.holds pid with
  | nil => rfl
  | cons born =>
    have holder := inv.holder pid born (by rw [held]; exact List.mem_cons_self)
    rcases other with free | other
    · exact absurd (holder.2.1.symm.trans free) holder.1
    · exact absurd holder.2.1.symm other

theorem Sessions.claim (free : s.ownerPid = 0) {vmid born : Nat} (process : pid ≠ 0)
    (front : ∀ slot, (s.pool.vm slot).live = true → (s.pool.vm slot).born = born →
      (s.pool.vm slot).vmid = vmid) : { s.claim pid vmid born with loading := [] }.Sessions where
  pool := inv.pool
  holder := by
    intro other age held
    by_cases here : other = pid
    · subst here
      simp only [VmmDev.claim, update_self, inv.none_held (.inl free), List.mem_singleton] at held ⊢
      subst held
      exact ⟨process, trivial, inv.nobody free, rfl, front⟩
    · simp [VmmDev.claim, here, inv.none_held (.inl free)] at held
  owner := fun _ => .inr (by simp [VmmDev.claim])
  nobody := fun none => absurd none process
  loads := .inl rfl

theorem Sessions.claimLive (free : s.ownerPid = 0) (quiet : s.loading = []) (process : pid ≠ 0)
    (live : (s.pool.vm slot).live = true) (named : (s.pool.vm slot).vmid = vmid) :
    (s.claim pid vmid (s.pool.vm slot).born).Sessions := by
  have same : s.claim pid vmid (s.pool.vm slot).born =
      { s.claim pid vmid (s.pool.vm slot).born with loading := [] } := by
    simp [VmmDev.claim, quiet]
  rw [same]
  apply inv.claim free process
  intro other alive age
  rw [inv.pool.numbered.vmid other alive, age, ← inv.pool.numbered.vmid slot live, named]

theorem Sessions.close (pid : Nat) : (s.close pid).Sessions := by
  unfold VmmDev.close
  simp only [isOwner, Bool.and_eq_false_iff, bne_eq_false_iff_eq, beq_eq_false_iff_ne]
  have left : s.ownerPid = 0 ∨ pid ≠ s.ownerPid →
      { s with holds := update s.holds pid [] }.Sessions := by
    intro other
    constructor
    · exact inv.pool
    · intro who born held
      by_cases here : who = pid
      · simp [here] at held
      · simp only [update_of_ne here] at held ⊢
        exact inv.holder who born held
    · intro owned
      have elsewhere : s.ownerPid ≠ pid := fun same => other.elim owned fun ne => ne same.symm
      simp only [update_of_ne elsewhere]
      exact inv.owner owned
    · exact inv.nobody
    · exact inv.loads
  -- When the owner leaves, nobody holds anything any more.
  have ends : ∀ pool fgVmid, s.pool.Keeps pool → pool.Sound → pid = s.ownerPid → s.ownerPid ≠ 0 →
      { s with pool := pool, detached := false, fgVmid := fgVmid, ownerPid := 0,
               holds := update s.holds pid [] }.Sessions := by
    intro pool fgVmid keeps sound mine owned
    have nothing : ∀ who, update s.holds pid [] who = [] := by
      intro who
      by_cases here : who = pid
      · simp [here]
      · rw [update_of_ne here]
        exact inv.none_held (.inr (mine ▸ here))
    constructor
    · exact sound
    · intro who born held
      simp [nothing who] at held
    · exact fun owns => absurd rfl owns
    · exact fun _ => rfl
    · rcases inv.loads with none | ⟨_, _, _, _, _, free, _⟩
      · exact .inl none
      · exact absurd free owned
  split
  · rename_i other
    exact left other
  · rename_i mine
    rw [not_or, not_not] at mine
    split
    · exact ends s.pool s.fgVmid (.refl _) inv.pool mine.2 mine.1
    · rename_i attached
      have stopped := requestStop_sound inv.pool s.fgVmid
      simp only [attached]
      exact ends _ 0 stopped.1 stopped.2 mine.2 mine.1

theorem Sessions.detach (pid : Nat) : (s.detach pid).1.Sessions := by
  unfold VmmDev.detach
  split
  · rename_i mine
    simp only [isOwner, Bool.and_eq_true, bne_iff_ne, beq_iff_eq] at mine
    have nothing : ∀ who, update s.holds pid (s.holds pid).tail who = [] := by
      intro who
      by_cases here : who = pid
      · subst here
        rw [update_self]
        cases held : s.holds who with
        | nil => rfl
        | cons born =>
          have holder := inv.holder who born (by rw [held]; exact List.mem_cons_self)
          rw [← held, holder.2.2.2.1, List.tail_cons]
      · rw [update_of_ne here]
        exact inv.none_held (.inr (mine.2 ▸ here))
    constructor
    · exact inv.pool
    · intro who born held
      simp [nothing who] at held
    · exact fun _ => .inl rfl
    · exact fun free => absurd free mine.1
    · exact inv.loads
  · exact inv

theorem Sessions.alloc (free : s.ownerPid = 0) (quiet : s.loading = []) (process : pid ≠ 0)
    (unworn : s.pool.Unworn) (found : s.pool.freeSlot = some slot) :
    { s with
      pool := s.pool.allocAt slot
      loading := (pid, slot, s.pool.allocs) :: s.loading }.Sessions where
  pool := by
    have sound := @VmPool.Sound.step _ inv.pool .alloc unworn
    simpa [VmPool.next, VmPool.vmAlloc, found] using sound
  holder := fun who born held => by simp [inv.none_held (.inl free)] at held
  owner := inv.owner
  nobody := inv.nobody
  loads := by
    refine .inr ⟨pid, slot, s.pool.allocs, by rw [quiet], process, free, fun other live age => ?_⟩
    by_contra elsewhere
    simp only [allocAt_vm_of_ne s.pool elsewhere] at live age
    exact absurd (inv.pool.numbered.born other live) (by omega)

end Steps

theorem boot_cases (attached : s.detached = false) (pid : Nat) (req : BootReq)
    (sameCount countOk copied : Bool) :
    (∃ error, s.boot pid req sameCount countOk copied = (s, some error)) ∨
    (∃ slot, (s.pool.vm slot).live = true ∧ s.boot pid req sameCount countOk copied =
      (s.claim pid (s.pool.vm slot).vmid (s.pool.vm slot).born,
        some (if copied then 0 else -pfsEinval))) ∨
    ∃ slot, s.pool.freeSlot = some slot ∧ s.boot pid req sameCount countOk copied =
      ({ s with pool := s.pool.allocAt slot, loading := (pid, slot, s.pool.allocs) :: s.loading },
        none) := by
  have same : { s with detached := false } = s := by rw [← attached]
  unfold boot
  simp only [same]
  split
  · exact .inl ⟨_, rfl⟩
  · split
    · exact .inl ⟨_, rfl⟩
    · split
      · cases found : s.bootTarget with
        | none => exact .inl ⟨_, rfl⟩
        | some slot =>
          simp only
          split
          · exact .inl ⟨_, rfl⟩
          · exact .inr (.inl ⟨slot, bootTarget_live found, rfl⟩)
      · split
        · exact .inl ⟨_, rfl⟩
        · cases found : s.pool.freeSlot with
          | none => exact .inl ⟨_, rfl⟩
          | some slot => exact .inr (.inr ⟨slot, rfl, by rw [attached]⟩)

theorem Sessions.loaded_cases (inv : s.Sessions) (pid : Nat) (ok copied : Bool) :
    s.loaded pid ok copied = (s, none) ∨
    ∃ slot born, s.loading = [(pid, slot, born)] ∧ s.loaded pid ok copied =
      if ok then ({ s.claim pid (s.pool.vm slot).vmid born with loading := [] },
        some (if copied then 0 else -pfsEinval))
      else ({ s with loading := [], pool := s.pool.vmFree slot }, some (-pfsEio)) := by
  rcases inv.loads with none | ⟨who, slot, born, one, -⟩
  · simp [loaded, none]
  · by_cases here : pid = who
    · subst here
      refine .inr ⟨slot, born, one, ?_⟩
      simp [loaded, one, VmmDev.claim]
    · have other : (pid == who) = false := beq_eq_false_iff_ne.mpr here
      simp [loaded, one, List.lookup_cons, other]

/-- The condition on a call: a process boots or attaches only while there is no session and none is
being opened, its result reaches it, no VM is worn when one is handed out, and a load fails only
before a vCPU task was started. -/
def sessionGuard (s : VmmDev) : VmmCall → Prop
  | .boot pid req _ _ copied => req.rejected = true ∨
      s.ownerPid = 0 ∧ s.loading = [] ∧ pid ≠ 0 ∧ copied = true ∧ s.pool.Unworn
  | .loaded pid ok copied => if ok then copied = true else
      ∀ entry ∈ s.loading, entry.1 = pid → (s.pool.vm entry.2.1).nrVcpuAlive = 0
  | .attach pid vmid => s.pool.runningVm vmid = none ∨ s.ownerPid = 0 ∧ s.loading = [] ∧ pid ≠ 0
  | .vm action => action ≠ .alloc
  | _ => True

theorem Sessions.step (inv : s.Sessions) {call : VmmCall} (guard : s.sessionGuard call) :
    (s.next call).Sessions := by
  cases call with
  | boot pid req sameCount countOk copied =>
    show (s.boot pid req sameCount countOk copied).1.Sessions
    rcases guard with rejected | ⟨free, quiet, process, -, unworn⟩
    · simpa [boot, rejected] using inv
    · rcases boot_cases (inv.nobody free) pid req sameCount countOk copied with
        ⟨error, result⟩ | ⟨slot, live, result⟩ | ⟨slot, found, result⟩ <;> rw [result]
      · exact inv
      · exact inv.claimLive free quiet process live rfl
      · exact inv.alloc free quiet process unworn found
  | loaded pid ok copied =>
    show (s.loaded pid ok copied).1.Sessions
    rcases inv.loaded_cases pid ok copied with result | ⟨slot, born, one, result⟩ <;> rw [result]
    · exact inv
    · rcases inv.loads with none | ⟨_, _, _, same, process, free, unique⟩
      · simp [none] at one
      · rw [one] at same
        cases same
        cases ok with
        | true =>
          apply inv.claim free process
          intro other live age
          rw [unique other live age]
        | false =>
          have freed := vmFree_sound inv.pool slot
          exact { inv.keeps freed.1 freed.2 with loads := .inl rfl }
  | attach pid vmid =>
    show (s.attach pid vmid).1.Sessions
    unfold attach
    cases found : s.pool.vmGet vmid with
    | none => exact inv
    | some =>
      have live := vmGet_live found
      simp only
      split
      · exact inv
      · rcases guard with nothing | ⟨free, quiet, process⟩
        · simp_all [VmPool.runningVm]
        · exact inv.claimLive free quiet process live.1 live.2
  | detach pid => exact inv.detach pid
  | stopVm vmid => exact inv.requestStop vmid
  | stop => exact inv.requestStop s.fgVmid
  | close pid => exact inv.close pid
  | vm =>
    have keeps := s.pool.next_keeps guard
    exact inv.keeps keeps (inv.pool.keeps keeps)

/-- What a close is to do: a VM that the process holds and that is still there has a stop request
afterwards, and a process that holds none stops nothing. -/
structure CloseOk (s : VmmDev) (pid : Nat) : Prop where
  stops : ∀ born ∈ s.holds pid, ∀ slot, ((s.close pid).pool.vm slot).live = true →
    ((s.close pid).pool.vm slot).born = born → ((s.close pid).pool.vm slot).stopReq = true
  spares : s.holds pid = [] → (s.close pid).pool = s.pool

/-- What a boot that fails is to leave: the owner and the detach flag, and no new VM that runs, not
even the one that it was loading. -/
structure FailOk (s after : VmmDev) : Prop where
  ownerPid : after.ownerPid = s.ownerPid
  detached : after.detached = s.detached
  runs : ∀ slot, (after.pool.vm slot).state = .running → (s.pool.vm slot).state = .running ∧
    ∀ entry ∈ s.loading, entry.2.1 = slot → entry ∈ after.loading

end VmmDev

def VmmCall.boots : VmmCall → Bool
  | .boot _ _ _ _ _ => true
  | .loaded _ _ _ => true
  | _ => false

namespace VmmDev

theorem Sessions.closeOk (inv : s.Sessions) (pid : Nat) : s.CloseOk pid where
  stops := by
    intro born held slot live age
    obtain ⟨process, owner, attached, -, front⟩ := inv.holder pid born held
    have stopped : (s.close pid).pool = s.pool.requestStop s.fgVmid := by
      simp [VmmDev.close, isOwner, owner, process, attached]
    rw [stopped] at live age ⊢
    obtain ⟨before, vmid, same⟩ := (requestStop_sound inv.pool s.fgVmid).1.named slot live
    exact requestStop_stops inv.pool live (front slot before (same.symm.trans age))
  spares := by
    intro nothing
    unfold VmmDev.close
    simp only [isOwner, Bool.and_eq_false_iff, bne_eq_false_iff_eq, beq_eq_false_iff_ne]
    split
    · rfl
    · rename_i mine
      rw [not_or, not_not] at mine
      have detached : s.detached = true := by
        rcases inv.owner mine.1 with detached | holds
        · exact detached
        · rw [← mine.2] at holds
          exact absurd nothing holds
      rw [if_pos detached]

theorem FailOk.refl (s : VmmDev) : s.FailOk s :=
  ⟨rfl, rfl, fun _ runs => ⟨runs, fun _ loading _ => loading⟩⟩

theorem Sessions.failOk (inv : s.Sessions) {call : VmmCall} (boots : call.boots = true)
    (guard : s.sessionGuard call) (negative : error < 0) (fails : (s.call call).2 = some error) :
    s.FailOk (s.next call) := by
  cases call with
  | boot pid req sameCount countOk copied =>
    show s.FailOk (s.boot pid req sameCount countOk copied).1
    change (s.boot pid req sameCount countOk copied).2 = some error at fails
    rcases guard with rejected | ⟨free, quiet, process, reaches, -⟩
    · simpa [boot, rejected] using FailOk.refl s
    · rcases boot_cases (inv.nobody free) pid req sameCount countOk copied with
        ⟨_, result⟩ | ⟨slot, -, result⟩ | ⟨slot, -, result⟩ <;> rw [result] at fails ⊢
      · exact .refl s
      · simp only [reaches, if_true, Option.some.injEq] at fails
        omega
      · cases fails
  | loaded pid ok copied =>
    show s.FailOk (s.loaded pid ok copied).1
    change (s.loaded pid ok copied).2 = some error at fails
    rcases inv.loaded_cases pid ok copied with result | ⟨slot, born, one, result⟩ <;>
      rw [result] at fails ⊢
    · exact .refl s
    · cases ok with
      | true =>
        have reaches : copied = true := guard
        simp only [reaches, if_true, Option.some.injEq] at fails
        omega
      | false =>
        have idle : (s.pool.vm slot).nrVcpuAlive = 0 := guard (pid, slot, born) (by simp [one]) rfl
        refine ⟨rfl, rfl, fun other runs => ?_⟩
        obtain ⟨elsewhere, before⟩ := vmFree_running idle runs
        refine ⟨before, fun entry loading same => ?_⟩
        rw [one, List.mem_singleton] at loading
        rw [loading] at same
        exact absurd same.symm elsewhere
  | _ => simp [VmmCall.boots] at boots

end VmmDev

/-- In every run that meets the condition a close stops what its process holds and nothing else, and
a boot that fails leaves no VM behind and the other sessions as they were. -/
theorem sessions_kept {calls : List VmmCall} {s : VmmDev}
    (run : Run (Guarded (graph VmmDev.next) VmmDev.sessionGuard)
      .init calls s) :
    (∀ pid, s.CloseOk pid) ∧ ∀ call error, call.boots = true → s.sessionGuard call → error < 0 →
      (s.call call).2 = some error → s.FailOk (s.next call) := by
  have inv : s.Sessions := by
    refine run.guarded (fun _ _ inv guard => inv.step guard) ?_
    constructor
    · exact sound_boot
    · simp [VmmDev.init]
    · simp [VmmDev.init]
    · exact fun _ => rfl
    · exact .inl rfl
  exact ⟨inv.closeOk, fun call error boots guard negative fails =>
    inv.failOk boots guard negative fails⟩

instance VmmDev.sessionGuardDecidable (s : VmmDev) :
    (call : VmmCall) → Decidable (s.sessionGuard call)
  | .boot _ _ _ _ _ => inferInstanceAs (Decidable (_ ∨ _ ∧ _ ∧ _ ∧ _ ∧ _))
  | .loaded _ true _ => inferInstanceAs (Decidable (_ = true))
  | .loaded _ false _ => inferInstanceAs (Decidable (∀ _ ∈ _, _ → _))
  | .attach _ _ => inferInstanceAs (Decidable (_ ∨ _ ∧ _ ∧ _))
  | .vm _ => inferInstanceAs (Decidable (_ ≠ _))
  | .detach _ | .stopVm _ | .stop | .close _ => inferInstanceAs (Decidable True)

def bootOf (pid slot : Nat) : List VmmCall :=
  [.boot pid (.bootEx true) true true true, .vm (.vcpuStarted slot), .vm (.run slot),
    .loaded pid true true]

def handOver : List VmmCall := bootOf 5 0 ++ [.detach 5, .close 5, .attach 6 1]

theorem handOver_stops :
    (handOver.foldl VmmDev.next .init).CloseOk 6 ∧
    (handOver.foldl VmmDev.next .init).holds 6 = [0] :=
  ⟨(sessions_kept (run_of_passes (fun _ _ => of_decide_eq_true) (by decide +kernel))).1 6,
    by decide +kernel⟩

def twoBoots : List VmmCall := bootOf 5 0 ++ bootOf 6 1

/-- The first one is no longer the owner, and its close does nothing. -/
theorem twoBoots_left :
    Run (graph VmmDev.next) .init twoBoots (twoBoots.foldl VmmDev.next .init) ∧
      ¬ (twoBoots.foldl VmmDev.next .init).CloseOk 5 := by
  apply And.intro (run_foldl _ _ _)
  intro ok
  have stopped := ok.stops 0 (by decide +kernel) 0 (by decide +kernel) (by decide +kernel)
  revert stopped
  decide +kernel

end AvatarKernel
