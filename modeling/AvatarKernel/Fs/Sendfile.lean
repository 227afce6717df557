import AvatarKernel.Fs.FilePosition
import AvatarKernel.Fd.Handlers

namespace AvatarKernel

/-- What `sendfile_handler` uses of the `vfs_file_t` it reads from. -/
structure VfsInput (ι : Type) where
  offset : ι → Nat
  setOffset : ι → Nat → ι
  read : ι → Nat → ι × Int × List UInt8

/-- A regular file reads at the position of lwext4, whatever its `offset`. -/
def regularInput {φ : Type} (B : Lwext4 φ) : VfsInput (RegularFile φ) where
  offset := RegularFile.offset
  setOffset file offset := { file with offset }
  read := vfsRead B

/-- `in_fd`: a descriptor that is not open, one without a file, or a file. -/
inductive SendInput (ι : Type)
  | closed
  | fileless
  | file (input : ι)

/-- `out_fd`: 0 to 2, a file, or a descriptor without a file. -/
inductive SendTarget
  | console
  | file
  | fileless

/-- The outputs, with the bytes they have taken. `vfs_write` also says how many it took. -/
structure VfsOutput (ω : Type) where
  taken : ω → List UInt8
  klogWrite : ω → List UInt8 → ω
  write : ω → List UInt8 → ω × Int

structure Sent (ι ω : Type) where
  input : SendInput ι
  output : ω
  poff : Option Nat
  result : Int

section Send

variable {ι ω : Type} (I : VfsInput ι) (O : VfsOutput ω)

/-- One chunk goes out. What `vfs_write` returns is not looked at. -/
def VfsOutput.put (target : SendTarget) (output : ω) (bytes : List UInt8) : ω :=
  match target with
  | .console => O.klogWrite output bytes
  | .file => (O.write output bytes).1
  | .fileless => output

/-- The loop of `sendfile_handler`. Every round but the last adds to `total`, so `count` rounds
do. -/
def sendLoop (target : SendTarget) (count : Nat) :
    (fuel : Nat) → ι → ω → (total : Nat) → ι × ω × Nat
  | 0, input, output, total => (input, output, total)
  | fuel + 1, input, output, total =>
    if count ≤ total then (input, output, total)
    else
      let (input, nr, bytes) := I.read input (min (count - total) 1024)
      if nr ≤ 0 then (input, output, total)
      else sendLoop target count fuel input (O.put target output bytes) (total + nr.toNat)

def sendfileHandler (source : SendInput ι) (target : SendTarget) (output : ω) (poff : Option Nat)
    (count : Nat) : Sent ι ω :=
  match source with
  | .closed => ⟨.closed, output, poff, -ebadf⟩
  | .fileless => ⟨.fileless, output, poff, 0⟩
  | .file input =>
    match poff with
    | none =>
      let (input, output, total) := sendLoop I O target count count input output 0
      ⟨.file input, output, none, total⟩
    | some start =>
      let (after, output, total) :=
        sendLoop I O target count count (I.setOffset input start) output 0
      ⟨.file (I.setOffset after (I.offset input)), output, some (I.offset after), total⟩

end Send

/-- The reads of `sendfile_handler` alone: the chunks that they deliver, whatever becomes of them,
and the input that they leave. -/
def readAhead {ι : Type} (I : VfsInput ι) : (fuel : Nat) → ι → (left : Nat) → List (List UInt8) × ι
  | 0, input, _ => ([], input)
  | fuel + 1, input, left =>
    if left = 0 then ([], input)
    else
      let (input, nr, bytes) := I.read input (min left 1024)
      if nr ≤ 0 then ([], input)
      else
        let rest := readAhead I fuel input (left - nr.toNat)
        (bytes :: rest.1, rest.2)

section Regular

variable {φ ω : Type} (B : Lwext4 φ) (O : VfsOutput ω)

/-- What `sendfile` is for: the bytes that the output has taken are those of the file at the given
offset, or else at the position, the result is their number, and exactly that position has
advanced. -/
def SendsRight (target : SendTarget) (file : RegularFile φ) (output : ω) (poff : Option Nat)
    (count : Nat) : Prop :=
  let after := sendfileHandler (regularInput B) O (.file file) target output poff count
  ∃ sent : List UInt8, after.result = sent.length ∧
    sent <+: (B.content file.ext4).drop (poff.getD (B.fpos file.ext4)) ∧
    O.taken after.output = O.taken output ++ sent ∧
    match poff with
    | none => ∃ offset,
      after.input = .file ⟨B.setPos file.ext4 (B.fpos file.ext4 + sent.length), offset⟩
    | some start => after.input = .file file ∧ after.poff = some (start + sent.length)

/-- When it does so. Without an offset pointer: the position is not beyond the end, a read that
fails leaves it, and the output takes every byte that the reads deliver. With one: nothing is
read. -/
def SendCondition (target : SendTarget) (file : RegularFile φ) (output : ω) (poff : Option Nat)
    (count : Nat) : Prop :=
  match poff with
  | none =>
    let ahead := readAhead (regularInput B) count file count
    (B.fpos file.ext4 ≤ B.fsize file.ext4 ∨ ahead.1 = []) ∧
      B.fpos ahead.2.ext4 = B.fpos file.ext4 + ahead.1.flatten.length ∧
      O.taken (ahead.1.foldl (O.put target) output) = O.taken output ++ ahead.1.flatten
  | some start =>
    let first := B.fread file.ext4 (min count 1024)
    count = 0 ∨ first.2 = some [] ∧ start = B.fpos file.ext4 ∨
      first.2 = none ∧ B.fpos first.1 = B.fpos file.ext4

/-- What the reads are known to do. -/
structure ReadsAhead (file : RegularFile φ) (ahead : List (List UInt8) × RegularFile φ) : Prop where
  filled : ∀ chunk ∈ ahead.1, chunk ≠ []
  forward : B.fpos file.ext4 + ahead.1.flatten.length ≤ B.fpos ahead.2.ext4
  same : ∀ p, B.setPos ahead.2.ext4 p = B.setPos file.ext4 p
  bytes : B.fpos file.ext4 ≤ B.fsize file.ext4 →
    ahead.1.flatten <+: (B.content file.ext4).drop (B.fpos file.ext4)

variable {B O} (law : B.Lawful)
include law

/-- A read of at most 1024 bytes returns the number of bytes it delivers. -/
theorem vfsRead_some {file : RegularFile φ} {n : Nat} (small : n ≤ 1024) {bytes : List UInt8}
    (read : (B.fread file.ext4 n).2 = some bytes) :
    vfsRead B file n = (RegularFile.mk (B.fread file.ext4 n).1 (B.fpos (B.fread file.ext4 n).1),
      (bytes.length : Int), bytes) := by
  have short := law.fread_length read
  rw [← toCInt_of_lt (show bytes.length < 2 ^ 31 by omega), vfsRead]
  rcases h : B.fread file.ext4 n with ⟨f, _ | other⟩
  · rw [h] at read
    contradiction
  · rw [h] at read
    rw [Option.some.inj read]

omit law in
theorem vfsRead_none {file : RegularFile φ} {n : Nat} (fails : (B.fread file.ext4 n).2 = none) :
    vfsRead B file n = (⟨(B.fread file.ext4 n).1, file.offset⟩, -vfsEio, []) := by
  rw [vfsRead]
  rcases h : B.fread file.ext4 n with ⟨f, _ | other⟩
  · rfl
  · rw [h] at fails
    contradiction

omit law in
theorem readAhead_nil {file : RegularFile φ} : ReadsAhead B file ([], file) :=
  ⟨by simp, Nat.le_refl _, fun _ => rfl, fun _ => List.nil_prefix⟩

/-- The loop sends what the reads deliver. -/
theorem sendLoop_eq (target : SendTarget) (count fuel : Nat) :
    ∀ (file : RegularFile φ) (output : ω) (total : Nat),
    let ahead := readAhead (regularInput B) fuel file (count - total)
    sendLoop (regularInput B) O target count fuel file output total =
      (ahead.2, ahead.1.foldl (O.put target) output, total + ahead.1.flatten.length) := by
  induction fuel with
  | zero => exact fun _ _ _ => rfl
  | succ fuel ih =>
    intro file output total
    rw [sendLoop, readAhead]
    by_cases done : count ≤ total
    · simp [done, Nat.sub_eq_zero_of_le done]
    rw [if_neg done, if_neg (by omega)]
    simp only [show (regularInput B).read = vfsRead B from rfl]
    cases read : (B.fread file.ext4 (min (count - total) 1024)).2 with
    | none =>
      rw [vfsRead_none read]
      rfl
    | some bytes =>
      rw [vfsRead_some law (Nat.min_le_right _ _) read]
      by_cases empty : bytes = []
      · simp [empty]
      · have filled := List.length_pos_iff.mpr empty
        simp only [if_neg (show ¬ (bytes.length : Int) ≤ 0 by omega), Int.toNat_natCast]
        rw [ih, Nat.sub_sub]
        simp only [List.foldl_cons, List.flatten_cons, List.length_append, Nat.add_assoc]

section FirstRead

variable {file : RegularFile φ} {left : Nat} (more : left ≠ 0) (fuel : Nat)
include more

omit law in
theorem readAhead_fails (fails : (B.fread file.ext4 (min left 1024)).2 = none) :
    readAhead (regularInput B) (fuel + 1) file left =
      ([], ⟨(B.fread file.ext4 (min left 1024)).1, file.offset⟩) := by
  rw [readAhead, if_neg more]
  simp only [show (regularInput B).read = vfsRead B from rfl, vfsRead_none fails]
  exact if_pos (by decide)

theorem readAhead_ends (ends : (B.fread file.ext4 (min left 1024)).2 = some []) :
    readAhead (regularInput B) (fuel + 1) file left = ([], ⟨file.ext4, B.fpos file.ext4⟩) := by
  have stays := law.fread_moves ends
  rw [List.length_nil, Nat.add_zero, law.setPos_fpos] at stays
  rw [readAhead, if_neg more]
  simp only [show (regularInput B).read = vfsRead B from rfl,
    vfsRead_some law (Nat.min_le_right _ _) ends, stays]
  exact if_pos (by decide)

theorem readAhead_more {bytes : List UInt8} (filled : bytes ≠ [])
    (read : (B.fread file.ext4 (min left 1024)).2 = some bytes) :
    let next := B.setPos file.ext4 (B.fpos file.ext4 + bytes.length)
    let rest := readAhead (regularInput B) fuel ⟨next, B.fpos next⟩ (left - bytes.length)
    readAhead (regularInput B) (fuel + 1) file left = (bytes :: rest.1, rest.2) := by
  have some_bytes := List.length_pos_iff.mpr filled
  rw [readAhead, if_neg more]
  simp only [show (regularInput B).read = vfsRead B from rfl,
    vfsRead_some law (Nat.min_le_right _ _) read, law.fread_moves read, Int.toNat_natCast]
  exact if_neg (by omega)

end FirstRead

theorem readAhead_readsAhead (fuel : Nat) : ∀ (file : RegularFile φ) (left : Nat),
    ReadsAhead B file (readAhead (regularInput B) fuel file left) := by
  induction fuel with
  | zero => exact fun _ _ => readAhead_nil
  | succ fuel ih =>
    intro file left
    by_cases more : left = 0
    · rw [readAhead, if_pos more]
      exact readAhead_nil
    cases read : (B.fread file.ext4 (min left 1024)).2 with
    | none =>
      rw [readAhead_fails more fuel read]
      exact ⟨by simp, law.fread_forward _ _, law.setPos_fread _ _, fun _ => List.nil_prefix⟩
    | some bytes =>
      by_cases empty : bytes = []
      · rw [readAhead_ends law more fuel (empty ▸ read)]
        exact ⟨by simp, Nat.le_refl _, fun _ => rfl, fun _ => List.nil_prefix⟩
      rw [readAhead_more law more fuel empty read]
      have rest := ih ⟨B.setPos file.ext4 (B.fpos file.ext4 + bytes.length),
        B.fpos (B.setPos file.ext4 (B.fpos file.ext4 + bytes.length))⟩ (left - bytes.length)
      generalize readAhead (regularInput B) fuel _ (left - bytes.length) = ahead at rest ⊢
      obtain ⟨chunks, farther, others, following⟩ := rest
      dsimp only at farther others following
      rw [law.fpos_setPos] at farther
      rw [Lwext4.fsize, law.fpos_setPos, law.content_setPos] at following
      refine ⟨List.forall_mem_cons.mpr ⟨empty, chunks⟩, ?_, fun p => ?_, fun inside => ?_⟩
      · rw [List.flatten_cons, List.length_append, ← Nat.add_assoc]
        exact farther
      · rw [others, law.setPos_setPos]
      · have here : bytes <+: (B.content file.ext4).drop (B.fpos file.ext4) := by
          rw [law.fread_bytes inside read]
          exact List.take_prefix _ _
        have within := law.fread_within file.ext4 (min left 1024) inside
        rw [law.fread_moves read, law.fpos_setPos] at within
        rw [List.flatten_cons, ← List.prefix_iff_eq_append.mp here, List.prefix_append_right_inj,
          List.drop_drop]
        exact following within

theorem sendsRight_none_iff (target : SendTarget) (file : RegularFile φ) (output : ω)
    (count : Nat) :
    SendsRight B O target file output none count ↔
      SendCondition B O target file output none count := by
  have loop := sendLoop_eq (O := O) law target count count file output 0
  have reads := readAhead_readsAhead law count file count
  rw [Nat.sub_zero] at loop
  simp only [SendsRight, SendCondition, sendfileHandler, Option.getD_none]
  rw [loop]
  generalize readAhead (regularInput B) count file count = ahead at reads ⊢
  dsimp only
  rw [Nat.zero_add]
  constructor
  · rintro ⟨sent, result, part, taken, offset, input⟩
    have length : ahead.1.flatten.length = sent.length := Int.ofNat.inj result
    have stops : ahead.2.ext4 = B.setPos file.ext4 (B.fpos file.ext4 + sent.length) :=
      congrArg RegularFile.ext4 (SendInput.file.inj input)
    have position : B.fpos ahead.2.ext4 = B.fpos file.ext4 + ahead.1.flatten.length := by
      rw [stops, law.fpos_setPos, length]
    by_cases inside : B.fpos file.ext4 ≤ B.fsize file.ext4
    · have equal : ahead.1.flatten = sent :=
        (List.prefix_of_prefix_length_le (reads.bytes inside) part length.le).eq_of_length length
      exact ⟨.inl inside, position, equal ▸ taken⟩
    · have nothing : sent = [] := by
        rw [List.drop_eq_nil_of_le (Nat.le_of_not_le inside)] at part
        exact List.prefix_nil.mp part
      have empty : ahead.1 = [] := by
        rw [nothing, List.length_nil, List.length_eq_zero_iff, List.flatten_eq_nil_iff] at length
        exact List.eq_nil_iff_forall_not_mem.mpr fun chunk inside =>
          reads.filled chunk inside (length chunk inside)
      exact ⟨.inr empty, position, by rw [taken, nothing, empty]; rfl⟩
  · rintro ⟨start, position, taken⟩
    refine ⟨ahead.1.flatten, rfl, ?_, taken, ahead.2.offset, ?_⟩
    · rcases start with inside | empty
      · exact reads.bytes inside
      · rw [empty]
        exact List.nil_prefix
    · rw [← position, ← reads.same, law.setPos_fpos]

theorem sendsRight_some_iff (target : SendTarget) (file : RegularFile φ) (output : ω)
    (start count : Nat) :
    SendsRight B O target file output (some start) count ↔
      SendCondition B O target file output (some start) count := by
  have loop := sendLoop_eq (O := O) law target count count ⟨file.ext4, start⟩ output 0
  have reads := readAhead_readsAhead law count ⟨file.ext4, start⟩ count
  rw [Nat.sub_zero] at loop
  simp only [SendsRight, SendCondition, sendfileHandler, Option.getD_some]
  rw [show (regularInput B).setOffset file start = ⟨file.ext4, start⟩ from rfl, loop]
  cases count with
  | zero =>
    exact iff_of_true ⟨[], rfl, List.nil_prefix, (List.append_nil _).symm, rfl, rfl⟩ (.inl rfl)
  | succ k =>
    rw [or_iff_right (Nat.succ_ne_zero k)]
    let input : RegularFile φ := ⟨file.ext4, start⟩
    cases read : (B.fread input.ext4 (min (k + 1) 1024)).2 with
    | none =>
      rw [readAhead_fails (Nat.succ_ne_zero k) k read]
      have back := law.fread_eq_iff file.ext4 (B.fpos file.ext4) (min (k + 1) 1024)
      rw [law.setPos_fpos] at back
      simp only [← back, reduceCtorEq, false_and, true_and, false_or]
      constructor
      · rintro ⟨-, -, -, -, input, -⟩
        exact congrArg RegularFile.ext4 (SendInput.file.inj input)
      · intro same
        refine ⟨[], rfl, List.nil_prefix, (List.append_nil _).symm, ?_, rfl⟩
        rw [same]
        rfl
    | some bytes =>
      by_cases empty : bytes = []
      · rw [readAhead_ends law (Nat.succ_ne_zero k) k (empty ▸ read)]
        simp only [empty, reduceCtorEq, true_and, false_and, or_false]
        constructor
        · rintro ⟨sent, result, -, -, -, offset⟩
          have none : 0 = sent.length := Int.ofNat.inj result
          rw [← none] at offset
          exact (Option.some.inj offset).symm
        · intro here
          exact ⟨[], rfl, List.nil_prefix, (List.append_nil _).symm, rfl, congrArg some here.symm⟩
      · -- the position has moved
        simp only [Option.some.injEq, empty, reduceCtorEq, false_and, or_false, iff_false]
        rintro ⟨-, -, -, -, after, -⟩
        have stays : B.fpos (readAhead (regularInput B) (k + 1) input (k + 1)).2.ext4 =
            B.fpos file.ext4 := congrArg (fun f => B.fpos f.ext4) (SendInput.file.inj after)
        have forward := reads.forward
        rw [stays, readAhead_more law (Nat.succ_ne_zero k) k empty read, List.flatten_cons,
          List.length_append] at forward
        have filled := List.length_pos_iff.mpr empty
        dsimp only at forward
        omega

/-- `sendfile` from a regular file is right exactly under the condition. -/
theorem sendfile_sends_from_position (target : SendTarget) (file : RegularFile φ) (output : ω)
    (poff : Option Nat)
    (count : Nat) :
    SendsRight B O target file output poff count ↔
      SendCondition B O target file output poff count := by
  cases poff with
  | none => exact sendsRight_none_iff law target file output count
  | some start => exact sendsRight_some_iff law target file output start count

end Regular

/-- The console, and a file that takes bytes until it holds `room` of them. -/
def boundedOutput (room : Nat) : VfsOutput (List UInt8) where
  taken output := output
  klogWrite output bytes := output ++ bytes
  write output bytes :=
    (output ++ bytes.take (room - output.length), min (room - output.length) bytes.length)

theorem sendfile_to_console :
    SendsRight plainFile (boundedOutput 0) .console ⟨([1, 2, 3, 4], 1), 1⟩ [7] none 2 :=
  (sendfile_sends_from_position plainFile_lawful .console ⟨([1, 2, 3, 4], 1), 1⟩ [7] none 2).mpr
    ⟨.inl (by decide), by decide +kernel, by decide +kernel⟩

/-- With an offset pointer the bytes still come from the position, which moves; and bytes that the
output refuses are counted as sent. -/
theorem sendfile_ignores_offset_and_refusals :
    let from_two := sendfileHandler (regularInput plainFile) (boundedOutput 0)
      (.file ⟨([1, 2, 3, 4], 0), 0⟩) .console [] (some 2) 1
    let refused := sendfileHandler (regularInput plainFile) (boundedOutput 1)
      (.file ⟨([1, 2, 3, 4], 0), 0⟩) .file [] none 4
    from_two = ⟨.file ⟨([1, 2, 3, 4], 1), 0⟩, [1], some 1, 1⟩ ∧
      refused = ⟨.file ⟨([1, 2, 3, 4], 4), 4⟩, [1], none, 4⟩ :=
  ⟨rfl, rfl⟩

end AvatarKernel
