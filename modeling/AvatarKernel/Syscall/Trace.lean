import AvatarKernel.Lib.Transition

namespace AvatarKernel

open Function Transition

def syscallTraceDepth : Nat := 512

instance syscallTraceDepthNeZero : NeZero syscallTraceDepth := ⟨by decide⟩

/-- `SYSCALL_TRACE_PENDING`: entered and not returned -/
def syscallTracePending : BitVec 64 := 0x5A5A5A5A5A5A5A5A

/-- `syscall_trace_rec_t`. Bit 0 of `flags` says that the call returned, bit 1 that `path` is
valid. -/
structure TraceRec where
  seq : BitVec 64
  a0 : BitVec 64
  a1 : BitVec 64
  a2 : BitVec 64
  ret : BitVec 64
  atMs : BitVec 32
  pid : BitVec 16
  nr : BitVec 16
  flags : BitVec 8
  path : List UInt8

/-- What `syscall_trace_enter` reads: its arguments, the uptime, and the path that the call names
where it could be copied from the user. -/
structure TraceArgs where
  pid : BitVec 16
  nr : BitVec 32
  a0 : BitVec 64
  a1 : BitVec 64
  a2 : BitVec 64
  uptimeMs : BitVec 64
  path : Option (List UInt8)

/-- The rings of all CPUs; `ring (c, i)` is `s_ring[c][i]`. -/
structure SyscallTrace where
  ring : Fin 8 × Fin syscallTraceDepth → TraceRec
  head : Fin 8 → Fin syscallTraceDepth
  seq : Fin 8 → BitVec 64
  pending : Fin 8 → Fin syscallTraceDepth
  pendingValid : Fin 8 → Bool

/-- `trace_cpu`, with `AVATAR_MAX_CPUS` rings -/
def traceCpu (cpu : Nat) : Fin 8 := if inside : cpu < 8 then ⟨cpu, inside⟩ else 0

namespace SyscallTrace

def boot : SyscallTrace where
  ring := fun _ => ⟨0, 0, 0, 0, 0, 0, 0, 0, 0, []⟩
  head := fun _ => 0
  seq := fun _ => 0
  pending := fun _ => 0
  pendingValid := fun _ => false

/-- The record that `syscall_trace_enter` writes. -/
def entered (s : SyscallTrace) (c : Fin 8) (args : TraceArgs) : TraceRec where
  seq := s.seq c
  a0 := args.a0
  a1 := args.a1
  a2 := args.a2
  ret := syscallTracePending
  atMs := args.uptimeMs.truncate 32
  pid := args.pid
  nr := args.nr.truncate 16
  flags := if args.path.isSome then 2 else 0
  path := (args.path.getD []).take 31

def enter (s : SyscallTrace) (cpu : Nat) (args : TraceArgs) : SyscallTrace :=
  let c := traceCpu cpu
  { ring := update s.ring (c, s.head c) (s.entered c args)
    head := update s.head c (s.head c + 1)
    seq := update s.seq c (s.seq c + 1)
    pending := update s.pending c (s.head c)
    pendingValid := update s.pendingValid c true }

def exit (s : SyscallTrace) (cpu : Nat) (ret : BitVec 64) : SyscallTrace :=
  let c := traceCpu cpu
  let last := s.ring (c, s.pending c)
  if s.pendingValid c = false then s
  else
    { s with
      ring := update s.ring (c, s.pending c) { last with ret := ret, flags := last.flags ||| 1 }
      pendingValid := update s.pendingValid c false }

end SyscallTrace

/-- What a system call does to the rings, on the CPU its task runs on at that moment. A call that
blocks or is preempted leaves on any CPU, and one that does not return never leaves. -/
inductive TraceEvent (κ : Type) where
  | enter (cpu : Nat) (call : κ) (args : TraceArgs)
  | exit (cpu : Nat) (call : κ) (ret : BitVec 64)

/-- The rings among the calls that use them. The other fields only keep books: which call created
each record, what each call returned, and which call entered last on each ring. -/
structure TracedCalls (κ : Type) where
  trace : SyscallTrace
  maker : Fin 8 × Fin syscallTraceDepth → Option κ
  begun : κ → Bool
  result : κ → Option (BitVec 64)
  last : Fin 8 → Option κ

namespace TracedCalls

variable {κ : Type} [DecidableEq κ]

def boot : TracedCalls κ := ⟨.boot, fun _ => none, fun _ => false, fun _ => none, fun _ => none⟩

def next (s : TracedCalls κ) : TraceEvent κ → TracedCalls κ
  | .enter cpu call args =>
    let c := traceCpu cpu
    { s with
      trace := s.trace.enter cpu args
      maker := update s.maker (c, s.trace.head c) (some call)
      begun := update s.begun call true
      last := update s.last c (some call) }
  | .exit cpu call ret =>
    { s with trace := s.trace.exit cpu ret, result := update s.result call (some ret) }

/-- A call enters once, and leaves at most once after that. -/
def Possible (s : TracedCalls κ) : TraceEvent κ → Prop
  | .enter _ call _ => s.begun call = false
  | .exit _ call _ => s.begun call = true ∧ s.result call = none

/-- No call entered on the CPU a call leaves on since that call entered there. -/
def Nested (s : TracedCalls κ) : TraceEvent κ → Prop
  | .enter .. => True
  | .exit cpu call _ => s.last (traceCpu cpu) = some call

instance decidablePossible (s : TracedCalls κ) : DecidablePred s.Possible
  | .enter .. => inferInstanceAs (Decidable (_ = _))
  | .exit .. => inferInstanceAs (Decidable (_ ∧ _))

instance decidableNested (s : TracedCalls κ) : DecidablePred s.Nested
  | .enter .. => inferInstanceAs (Decidable True)
  | .exit .. => inferInstanceAs (Decidable (_ = _))

/-- Every record shows what the call that created it returned, or that it is pending. -/
def Truthful (s : TracedCalls κ) : Prop :=
  ∀ place call, s.maker place = some call →
    (s.trace.ring place).ret = (s.result call).getD syscallTracePending

structure Paired (s : TracedCalls κ) : Prop where
  truthful : s.Truthful
  unbegun : ∀ call, s.begun call = false → s.result call = none ∧ ∀ place, s.maker place ≠ some call
  single : ∀ place other call, s.maker place = some call → s.maker other = some call → place = other
  last : ∀ c call, s.last c = some call → s.result call = none →
    s.trace.pendingValid c = true ∧ s.maker (c, s.trace.pending c) = some call

theorem Paired.enter {s : TracedCalls κ} (inv : s.Paired) (fresh : s.begun call = false) :
    (s.next (.enter cpu call args)).Paired := by
  obtain ⟨unreturned, unmade⟩ := inv.unbegun call fresh
  refine ⟨fun place other made => ?_, fun other idle => ?_, fun place place' other made made' => ?_,
    fun c other top open' => ?_⟩
  · rcases update_value made with ⟨rfl, same⟩ | ⟨apart, old⟩
    · cases same
      simp only [next, SyscallTrace.enter, update_self, unreturned, SyscallTrace.entered,
        Option.getD_none]
    · simp only [next, SyscallTrace.enter, update_of_ne apart]
      exact inv.truthful place other old
  · have apart : other ≠ call := fun same => by simp [next, same] at idle
    simp only [next, update_of_ne apart] at idle
    obtain ⟨none, unmade'⟩ := inv.unbegun other idle
    refine ⟨none, fun place made => ?_⟩
    rcases update_value made with ⟨-, same⟩ | ⟨-, old⟩
    · exact apart (Option.some.inj same).symm
    · exact unmade' place old
  · rcases update_value made with ⟨here, same⟩ | ⟨-, old⟩ <;>
      rcases update_value made' with ⟨here', same'⟩ | ⟨-, old'⟩
    · rw [here, here']
    · cases same
      exact absurd old' (unmade place')
    · cases same'
      exact absurd old (unmade place)
    · exact inv.single place place' other old old'
  · rcases update_value top with ⟨rfl, same⟩ | ⟨apart, old⟩
    · simp only [next, SyscallTrace.enter, update_self, same, and_self]
    · obtain ⟨valid, mine⟩ := inv.last c other old open'
      have elsewhere : (c, s.trace.pending c) ≠ (traceCpu cpu, s.trace.head (traceCpu cpu)) :=
        fun same => apart (Prod.mk.inj same).1
      simp only [next, SyscallTrace.enter, update_of_ne apart, update_of_ne elsewhere]
      exact ⟨valid, mine⟩

theorem Paired.exit {s : TracedCalls κ} (inv : s.Paired) (begun : s.begun call = true)
    (open' : s.result call = none) (top : s.last (traceCpu cpu) = some call) :
    (s.next (.exit cpu call ret)).Paired := by
  obtain ⟨valid, mine⟩ := inv.last _ call top open'
  have taken : ¬ s.trace.pendingValid (traceCpu cpu) = false := by simp [valid]
  refine ⟨fun place other made => ?_, fun other idle =>
    ?_, inv.single, fun c other last still => ?_⟩
  · by_cases same : other = call
    · -- the record of the call that leaves is the one `pending` names
      subst same
      rw [inv.single place _ other made mine]
      simp only [next, SyscallTrace.exit, if_neg taken, update_self, Option.getD_some]
    · have apart : place ≠ (traceCpu cpu, s.trace.pending (traceCpu cpu)) :=
        fun here => same (Option.some.inj ((here ▸ made : _ = some other).symm.trans mine))
      simp only [next, SyscallTrace.exit, if_neg taken, update_of_ne apart, update_of_ne same]
      exact inv.truthful place other made
  · have apart : other ≠ call := fun same => by simp [next, same, begun] at idle
    simp only [next, update_of_ne apart]
    exact inv.unbegun other idle
  · rcases update_value still with ⟨-, same⟩ | ⟨apart, old⟩
    · cases same
    · obtain ⟨valid', mine'⟩ := inv.last c other last old
      have elsewhere : c ≠ traceCpu cpu := fun same =>
        apart (Option.some.inj ((same ▸ last : _ = some other).symm.trans top))
      simp only [next, SyscallTrace.exit, if_neg taken, update_of_ne elsewhere]
      exact ⟨valid', mine'⟩

/-- In every run in which each call leaves while it is the last one that entered on its CPU, every
record of every ring tells what its own call returned. -/
theorem records_truthful {last : TracedCalls κ} {events : List (TraceEvent κ)}
    (run : Run (Guarded (graph next) fun s event => s.Possible event ∧ s.Nested event) boot events
      last) : last.Truthful := by
  suffices paired : last.Paired from paired.truthful
  refine run.guarded (fun s event inv taken => ?_) ?_
  · cases event with
    | enter => exact inv.enter taken.1
    | exit => exact inv.exit taken.1.1 taken.1.2 taken.2
  · exact ⟨nofun, fun _ _ => ⟨rfl, nofun⟩, nofun, nofun⟩

end TracedCalls

def traceRead : TraceArgs := ⟨1, 63, 0, 0, 0, 5, none⟩

/-- A call that waits, one that enters and leaves on CPUs that share its ring, and one elsewhere. -/
theorem records_truthful_nested :
    ([.enter 0 0 traceRead, .enter 9 1 traceRead, .exit 8 1 3, .enter 3 2 traceRead].foldl
      TracedCalls.next (.boot : TracedCalls Nat)).Truthful :=
  TracedCalls.records_truthful (run_of_passes (fun _ _ => of_decide_eq_true) (by decide +kernel))

/-- A call blocks, another task enters one on the same CPU and blocks, and the first call returns 1:
the value is stored in the record of the second, which has not returned. -/
theorem blocked_call_takes_result :
    ∃ events : List (TraceEvent Nat), ∃ last,
      Run (Guarded (graph TracedCalls.next) TracedCalls.Possible) .boot events last ∧
        last.maker (0, 1) = some 1 ∧ last.result 1 = none ∧ (last.trace.ring (0, 1)).ret = 1 :=
  ⟨[.enter 0 0 traceRead, .enter 0 1 traceRead, .exit 0 0 1], _,
    run_of_passes (fun _ _ => of_decide_eq_true) (by decide +kernel), by decide +kernel⟩

end AvatarKernel
