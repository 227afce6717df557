import AvatarKernel.Syscall.UserCopy

namespace AvatarKernel

/-- How `copy_string_from_user` ends: with its result and the bytes stored, or with a read of a page
that is not mapped, on which the kernel stops. -/
inductive StringCopy
  | done (result : Int) (kbuf : List (BitVec 8))
  | fault (va : Nat)

/-- The loop with `room` bytes to go. Only the first byte of a page is checked. -/
def copyStringLoop (m : UserMemory) (ustr : Nat) :
    (room : Nat) → (kbuf : List (BitVec 8)) → StringCopy
  | 0, kbuf => .done kbuf.length (kbuf ++ [0])
  | room + 1, kbuf =>
    let va := ustr + kbuf.length
    if va % pageSize = 0 ∧ userRangeAccessible m va 1 = false then .done (-1) kbuf
    else if m.getPaddr (alignDown va) = 0 then .fault va
    else
      let c := m.bytes (m.place va)
      if c = 0 then .done kbuf.length (kbuf ++ [c]) else copyStringLoop m ustr room (kbuf ++ [c])

def copyStringFromUser (m : UserMemory) (ustr maxlen : Nat) : StringCopy :=
  if userRangeOk ustr maxlen then copyStringLoop m ustr (maxlen - 1) [] else .done (-1) []

/-- The string begins inside a page that is not mapped. -/
structure StartsUnmapped (m : UserMemory) (ustr : Nat) : Prop where
  inside : ustr % pageSize ≠ 0
  unmapped : m.getPaddr (alignDown ustr) = 0

/-- The string runs into a page that is not mapped: at a page's first byte, before its end and
before the last byte of the buffer. -/
structure RunsInto (m : UserMemory) (ustr maxlen k : Nat) : Prop where
  room : k + 1 < maxlen
  nonzero : ∀ j < k, m.bytesAt ustr j ≠ 0
  edge : (ustr + k) % pageSize = 0
  inaccessible : userRangeAccessible m (ustr + k) 1 = false

/-- The `n` bytes before the end of the string, or as many as fit, with a 0 after them. -/
structure CopiedString (m : UserMemory) (ustr maxlen n : Nat) (kbuf : List (BitVec 8)) : Prop where
  bytes : kbuf = (List.range n).map (m.bytesAt ustr) ++ [0]
  nonzero : ∀ k < n, m.bytesAt ustr k ≠ 0
  fits : n < maxlen
  ends : m.bytesAt ustr n = 0 ∨ n + 1 = maxlen
  readable : ∀ k ≤ n, ¬ RunsInto m ustr maxlen k

/-- The kernel stops where the string begins inside an unmapped page, and nowhere else; a failure is
a range that no user has or a page that the string runs into; and what is copied is the string. -/
def StringCopy.Meets (m : UserMemory) (ustr maxlen : Nat) : StringCopy → Prop
  | .fault va => va = ustr ∧ userRangeOk ustr maxlen ∧ 1 < maxlen ∧ StartsUnmapped m ustr
  | .done result kbuf => ¬ (userRangeOk ustr maxlen ∧ 1 < maxlen ∧ StartsUnmapped m ustr) ∧
    (result = -1 ∧ userRangeOk ustr maxlen = false ∧ kbuf = [] ∨
    userRangeOk ustr maxlen ∧
      ((∃ k, result = -1 ∧ RunsInto m ustr maxlen k ∧ kbuf = (List.range k).map (m.bytesAt ustr)) ∨
      ∃ n : Nat, result = n ∧ CopiedString m ustr maxlen n kbuf))

/-- What the loop knows when it has stored `kbuf`. -/
structure CopyProgress (m : UserMemory) (ustr maxlen : Nat) (kbuf : List (BitVec 8)) : Prop where
  bytes : kbuf = (List.range kbuf.length).map (m.bytesAt ustr)
  nonzero : ∀ k < kbuf.length, m.bytesAt ustr k ≠ 0
  mapped : 0 < kbuf.length → m.getPaddr (alignDown (ustr + kbuf.length - 1)) ≠ 0
  started : 0 < kbuf.length → ¬ StartsUnmapped m ustr
  readable : ∀ k < kbuf.length, ¬ RunsInto m ustr maxlen k

section Loop

variable {m : UserMemory} {ustr maxlen : Nat} {kbuf : List (BitVec 8)}

theorem getPaddr_of_accessible (accessible : userRangeAccessible m va 1 ≠ false) :
    m.getPaddr (alignDown va) ≠ 0 := by
  unfold userRangeAccessible at accessible
  split at accessible
  · simpa [userPagesMapped] using accessible
  · contradiction

/-- An unchecked read is of a page that has been read before, unless it is the first one. -/
theorem CopyProgress.startsUnmapped (progress : CopyProgress m ustr maxlen kbuf)
    (unchecked : ¬ ((ustr + kbuf.length) % pageSize = 0 ∧
      userRangeAccessible m (ustr + kbuf.length) 1 = false))
    (unmapped : m.getPaddr (alignDown (ustr + kbuf.length)) = 0) :
    kbuf.length = 0 ∧ StartsUnmapped m ustr := by
  have inside : (ustr + kbuf.length) % pageSize ≠ 0 := by
    intro edge
    exact getPaddr_of_accessible (fun bad => unchecked ⟨edge, bad⟩) unmapped
  by_cases first : kbuf.length = 0
  · rw [first] at inside unmapped
    exact ⟨first, inside, unmapped⟩
  · have same : alignDown (ustr + kbuf.length - 1) = alignDown (ustr + kbuf.length) := by
      unfold alignDown
      unfold pageSize at inside
      omega
    exact absurd unmapped (same ▸ progress.mapped (Nat.pos_of_ne_zero first))

theorem CopyProgress.not_startsUnmapped (progress : CopyProgress m ustr maxlen kbuf)
    (first : kbuf.length = 0 → ¬ StartsUnmapped m ustr) : ¬ StartsUnmapped m ustr := by
  rcases Nat.eq_zero_or_pos kbuf.length with empty | stored
  · exact first empty
  · exact progress.started stored

theorem CopyProgress.readable_here (progress : CopyProgress m ustr maxlen kbuf)
    (here : ¬ RunsInto m ustr maxlen kbuf.length) (k : Nat) (inside : k ≤ kbuf.length) :
    ¬ RunsInto m ustr maxlen k := by
  rcases Nat.lt_or_eq_of_le inside with earlier | rfl
  · exact progress.readable k earlier
  · exact here

theorem CopyProgress.copied (progress : CopyProgress m ustr maxlen kbuf)
    (fits : kbuf.length < maxlen)
    (ends : m.bytesAt ustr kbuf.length = 0 ∨ kbuf.length + 1 = maxlen)
    (here : ¬ RunsInto m ustr maxlen kbuf.length) :
    CopiedString m ustr maxlen kbuf.length (kbuf ++ [0]) :=
  ⟨congrArg (· ++ [0]) progress.bytes, progress.nonzero, fits, ends, progress.readable_here here⟩

theorem CopyProgress.push (progress : CopyProgress m ustr maxlen kbuf)
    (more : m.bytesAt ustr kbuf.length ≠ 0)
    (mapped : m.getPaddr (alignDown (ustr + kbuf.length)) ≠ 0) (started : ¬ StartsUnmapped m ustr)
    (here : ¬ RunsInto m ustr maxlen kbuf.length) :
    CopyProgress m ustr maxlen (kbuf ++ [m.bytesAt ustr kbuf.length]) := by
  have length : (kbuf ++ [m.bytesAt ustr kbuf.length]).length = kbuf.length + 1 :=
    List.length_append
  constructor <;> rw [length]
  · rw [List.range_succ, List.map_append, ← progress.bytes]
    rfl
  · intro k below
    rcases Nat.lt_succ_iff_lt_or_eq.mp below with earlier | rfl
    · exact progress.nonzero k earlier
    · exact more
  · exact fun _ => mapped
  · exact fun _ => started
  · exact fun k below => progress.readable_here here k (Nat.le_of_lt_succ below)

theorem copyStringLoop_meets (ok : userRangeOk ustr maxlen = true) (room : Nat) :
    ∀ kbuf, CopyProgress m ustr maxlen kbuf → kbuf.length + room + 1 = maxlen →
      (copyStringLoop m ustr room kbuf).Meets m ustr maxlen := by
  induction room with
  | zero =>
    intro kbuf progress total
    have last : ¬ RunsInto m ustr maxlen kbuf.length := fun bad => by
      have more := bad.room
      omega
    refine ⟨fun ⟨_, long, start⟩ => progress.started (by omega) start, .inr ⟨ok, .inr ?_⟩⟩
    exact ⟨_, rfl, progress.copied (by omega) (.inr total) last⟩
  | succ room ih =>
    intro kbuf progress total
    rw [copyStringLoop]
    dsimp only
    split
    case isTrue bad =>
      refine ⟨fun fault => ?_, .inr ⟨ok, .inl ⟨kbuf.length, rfl, ?_, progress.bytes⟩⟩⟩
      · refine progress.not_startsUnmapped (fun first start => ?_) fault.2.2
        rw [first] at bad
        exact start.inside bad.1
      · exact ⟨by omega, progress.nonzero, bad.1, bad.2⟩
    case isFalse unchecked =>
      split
      case isTrue unmapped =>
        obtain ⟨first, start⟩ := progress.startsUnmapped unchecked unmapped
        exact ⟨by rw [first, Nat.add_zero], ok, by omega, start⟩
      case isFalse mapped =>
        have started : ¬ StartsUnmapped m ustr := by
          refine progress.not_startsUnmapped fun first start => ?_
          rw [first] at mapped
          exact mapped start.unmapped
        have here : ¬ RunsInto m ustr maxlen kbuf.length :=
          fun bad => unchecked ⟨bad.edge, bad.inaccessible⟩
        split
        case isTrue nul =>
          rw [nul]
          exact ⟨fun fault => started fault.2.2,
            .inr ⟨ok, .inr ⟨_, rfl, progress.copied (by omega) (.inl nul) here⟩⟩⟩
        case isFalse more =>
          refine ih _ (progress.push more mapped started here) ?_
          rw [List.length_append, List.length_singleton]
          omega

end Loop

/-- `copy_string_from_user` does what its callers expect of it, up to the stop of the kernel at a
string that begins inside an unmapped page. -/
theorem copy_string_from_user_meets (m : UserMemory) (ustr maxlen : Nat) (positive : 0 < maxlen) :
    (copyStringFromUser m ustr maxlen).Meets m ustr maxlen := by
  unfold copyStringFromUser
  split
  next ok =>
    have start : CopyProgress m ustr maxlen [] := ⟨rfl, by simp, by simp, by simp, by simp⟩
    exact copyStringLoop_meets ok (maxlen - 1) [] start (by simp; omega)
  next bad =>
    rw [Bool.not_eq_true] at bad
    refine ⟨fun fault => ?_, .inl ⟨rfl, bad, rfl⟩⟩
    rw [bad] at fault
    exact Bool.noConfusion fault.1

theorem copy_string_from_user_stops : let m : UserMemory := ⟨fun _ => 0, fun _ => 0⟩
    copyStringFromUser m 0x1001 64 = .fault 0x1001 ∧ (StringCopy.fault 0x1001).Meets m 0x1001 64 :=
  ⟨rfl, copy_string_from_user_meets ⟨fun _ => 0, fun _ => 0⟩ 0x1001 64 (by decide)⟩

end AvatarKernel
