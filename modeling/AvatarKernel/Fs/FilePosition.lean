import AvatarKernel.Types
import Mathlib.Data.List.TakeDrop

/- Regular files have two positions: the one of lwext4, at which it reads and writes, and the
`offset` of `vfs_file_t`. -/

namespace AvatarKernel

/-- An open file of lwext4 as `vfs.c` uses it. `fread` and `fwrite` give `none` for an error. -/
structure Lwext4 (φ : Type) where
  content : φ → List UInt8
  fpos : φ → Nat
  setPos : φ → Nat → φ
  fread : φ → Nat → φ × Option (List UInt8)
  fwrite : φ → List UInt8 → φ × Option Nat

/-- What is assumed of it: a read moves nothing but the position, forward by the bytes it delivers,
which are those at the position unless that is beyond the end; a read that fails may move it, but
not back and not beyond the end; a write does not shrink the file, and one that works stays inside
it. -/
structure Lwext4.Lawful {φ : Type} (B : Lwext4 φ) : Prop where
  content_setPos : ∀ f p, B.content (B.setPos f p) = B.content f
  fpos_setPos : ∀ f p, B.fpos (B.setPos f p) = p
  setPos_setPos : ∀ f p q, B.setPos (B.setPos f p) q = B.setPos f q
  setPos_fpos : ∀ f, B.setPos f (B.fpos f) = f
  fread_length : ∀ {f n bytes}, (B.fread f n).2 = some bytes → bytes.length ≤ n
  fread_moves : ∀ {f n bytes}, (B.fread f n).2 = some bytes →
    (B.fread f n).1 = B.setPos f (B.fpos f + bytes.length)
  fread_bytes : ∀ {f n bytes}, B.fpos f ≤ (B.content f).length → (B.fread f n).2 = some bytes →
    bytes = ((B.content f).drop (B.fpos f)).take n
  setPos_fread : ∀ f n p, B.setPos (B.fread f n).1 p = B.setPos f p
  fread_forward : ∀ f n, B.fpos f ≤ B.fpos (B.fread f n).1
  fread_within : ∀ f n, B.fpos f ≤ (B.content f).length →
    B.fpos (B.fread f n).1 ≤ (B.content f).length
  fwrite_grows : ∀ f buf, (B.content f).length ≤ (B.content (B.fwrite f buf).1).length
  fwrite_within : ∀ {f buf n}, B.fpos f ≤ (B.content f).length → (B.fwrite f buf).2 = some n →
    B.fpos (B.fwrite f buf).1 ≤ (B.content (B.fwrite f buf).1).length

structure RegularFile (φ : Type) where
  ext4 : φ
  offset : Nat
deriving DecidableEq

def vfsEio : Int := 5

def toCInt (n : Nat) : Int := (n : Int).bmod (2 ^ 32)

theorem toCInt_of_lt (small : n < 2 ^ 31) : toCInt n = n :=
  Int.bmod_eq_of_le (by omega) (by omega)

section Vfs

variable {φ : Type} (B : Lwext4 φ)

def Lwext4.fsize (f : φ) : Nat := (B.content f).length

/-- `ext4_fseek` with `SEEK_SET`, `none` for its `EINVAL`. -/
def Lwext4.fseek (f : φ) (offset : Nat) : Option φ :=
  if offset ≤ B.fsize f then some (B.setPos f offset) else none

/-- `ext4_file_seek` with `SEEK_SET`. Where lwext4 refuses, the position is written over. -/
def vfsSeek (file : RegularFile φ) (offset : Nat) : RegularFile φ :=
  match B.fseek file.ext4 offset with
  | some f => ⟨f, B.fpos f⟩
  | none => ⟨B.setPos file.ext4 offset, offset⟩

def vfsRead (file : RegularFile φ) (len : Nat) : RegularFile φ × Int × List UInt8 :=
  match B.fread file.ext4 len with
  | (f, some bytes) => (⟨f, B.fpos f⟩, toCInt bytes.length, bytes)
  | (f, none) => (⟨f, file.offset⟩, -vfsEio, [])

/-- The loop of `ext4_file_write` over the gap between the end of the file and the position. -/
def fillGap (f : φ) : (fuel gap : Nat) → φ × Bool
  | 0, _ => (f, true)
  | fuel + 1, gap =>
    if gap = 0 then (f, true)
    else
      match B.fwrite f (List.replicate (min gap 64) 0) with
      | (f, some n) => if n = min gap 64 then fillGap f fuel (gap - min gap 64) else (f, false)
      | (f, none) => (f, false)

/-- The part of `ext4_file_write` before the write itself, `false` where it gives up. -/
def writeAtGap (f : φ) : φ × Bool :=
  if B.fsize f < B.fpos f then
    match B.fseek f (B.fsize f) with
    | none => (f, false)
    | some start =>
      match fillGap B start (B.fpos f - B.fsize f) (B.fpos f - B.fsize f) with
      | (filled, false) => (filled, false)
      | (filled, true) =>
        match B.fseek filled (B.fpos f) with
        | none => (filled, false)
        | some f => (f, true)
  else (f, true)

def vfsWrite (file : RegularFile φ) (buf : List UInt8) : RegularFile φ × Int :=
  match writeAtGap B file.ext4 with
  | (f, false) => (⟨f, file.offset⟩, -vfsEio)
  | (f, true) =>
    match B.fwrite f buf with
    | (f, some n) => (⟨f, B.fpos f⟩, toCInt n)
    | (f, none) => (⟨f, file.offset⟩, -vfsEio)

/-- `vfs_pread`, for an offset that is not negative. -/
def vfsPread (file : RegularFile φ) (len offset : Nat) : RegularFile φ × Int × List UInt8 :=
  match B.fseek file.ext4 offset with
  | none => (file, -vfsEio, [])
  | some f =>
    match B.fread f len, B.fseek (B.fread f len).1 (B.fpos file.ext4) with
    | (_, some bytes), some back => (⟨back, file.offset⟩, toCInt bytes.length, bytes)
    | (_, none), some back => (⟨back, file.offset⟩, -vfsEio, [])
    | (f, _), none => (⟨f, file.offset⟩, -vfsEio, [])

/-- `vfs_pwrite`, for an offset that is not negative. -/
def vfsPwrite (file : RegularFile φ) (buf : List UInt8) (offset : Nat) : RegularFile φ × Int :=
  match B.fseek file.ext4 offset with
  | none => (file, -vfsEio)
  | some f =>
    match B.fwrite f buf, B.fseek (B.fwrite f buf).1 (B.fpos file.ext4) with
    | (_, some n), some back => (⟨back, file.offset⟩, toCInt n)
    | (_, none), some back => (⟨back, file.offset⟩, -vfsEio)
    | (f, _), none => (⟨f, file.offset⟩, -vfsEio)

/-- `vfs_read_to_phys`, which reads the pages of a file mapping. -/
def vfsReadToPhys (file : RegularFile φ) (offset len : Nat) : RegularFile φ × Int × List UInt8 :=
  match B.fseek file.ext4 offset with
  | none => (file, -vfsEio, [])
  | some f =>
    match B.fread f len with
    | (f, some bytes) => (⟨f, file.offset⟩, toCInt bytes.length, bytes)
    | (f, none) => (⟨f, file.offset⟩, -vfsEio, [])

end Vfs

section Positioned

variable {φ : Type} {B : Lwext4 φ} (law : B.Lawful)
include law

theorem Lwext4.Lawful.fsize_setPos (f : φ) (p : Nat) : B.fsize (B.setPos f p) = B.fsize f := by
  rw [Lwext4.fsize, law.content_setPos, Lwext4.fsize]

theorem Lwext4.Lawful.fsize_fread (f : φ) (n : Nat) : B.fsize (B.fread f n).1 = B.fsize f := by
  rw [← law.fsize_setPos (B.fread f n).1 0, law.setPos_fread, law.fsize_setPos]

theorem vfsSeek_eq (file : RegularFile φ) (offset : Nat) :
    vfsSeek B file offset = ⟨B.setPos file.ext4 offset, offset⟩ := by
  by_cases inside : offset ≤ B.fsize file.ext4 <;>
    simp [vfsSeek, Lwext4.fseek, inside, law.fpos_setPos]

/-- A file is what it was as soon as its position is. -/
theorem Lwext4.Lawful.fread_eq_iff (f : φ) (p n : Nat) :
    (B.fread (B.setPos f p) n).1 = f ↔ B.fpos (B.fread (B.setPos f p) n).1 = B.fpos f := by
  refine ⟨congrArg B.fpos, fun same => ?_⟩
  have whole := law.setPos_fpos (B.fread (B.setPos f p) n).1
  rw [← whole, same, law.setPos_fread, law.setPos_setPos, law.setPos_fpos]

theorem vfsReadToPhys_of_le {file : RegularFile φ} {offset : Nat}
    (inside : offset ≤ B.fsize file.ext4) (len : Nat) :
    vfsReadToPhys B file offset len = (⟨(B.fread (B.setPos file.ext4 offset) len).1, file.offset⟩,
      (vfsRead B (vfsSeek B file offset) len).2) := by
  rw [vfsSeek_eq law]
  simp only [vfsReadToPhys, vfsRead, Lwext4.fseek, if_pos inside]
  rcases B.fread (B.setPos file.ext4 offset) len with ⟨f, _ | bytes⟩ <;> rfl

/-- Reading after a seek that lwext4 refuses answers an error only if lwext4's read does. -/
theorem vfsRead_eq_error_iff (file : RegularFile φ) (offset len : Nat) :
    (vfsRead B (vfsSeek B file offset) len).2 = (-vfsEio, []) ↔
      (B.fread (B.setPos file.ext4 offset) len).2 = none := by
  rw [vfsSeek_eq law, vfsRead]
  rcases B.fread (B.setPos file.ext4 offset) len with ⟨f, _ | bytes⟩
  · exact ⟨fun _ => rfl, fun _ => rfl⟩
  · refine ⟨fun same => ?_, fun none => by contradiction⟩
    obtain ⟨count, empty⟩ := Prod.mk.injEq _ _ _ _ ▸ same
    rw [empty] at count
    exact absurd count (by decide)

end Positioned

section Exactness

variable {φ : Type} (B : Lwext4 φ) (file : RegularFile φ)

/-- `vfs_pread` can seek to its offset and back; or the read there fails anyway. -/
def PreadRight (offset len : Nat) : Prop :=
  if offset ≤ B.fsize file.ext4 then B.fpos file.ext4 ≤ B.fsize file.ext4
  else (B.fread (B.setPos file.ext4 offset) len).2 = none

/-- `vfs_pwrite` can seek to its offset and, in the file it leaves, back to the old position, or a
failed write happens to end there; beyond the end, the seek and the write fail as well and leave the
file. -/
def PwriteRight (offset : Nat) (buf : List UInt8) : Prop :=
  if offset ≤ B.fsize file.ext4 then
    let written := B.fwrite (B.setPos file.ext4 offset) buf
    B.fpos file.ext4 ≤ B.fsize written.1 ∨
      written.2 = none ∧ B.fpos written.1 = B.fpos file.ext4
  else
    let written := vfsWrite B (vfsSeek B file offset) buf
    written.2 = -vfsEio ∧ B.setPos written.1.ext4 (B.fpos file.ext4) = file.ext4

/-- The page read ends at the position that the file had; beyond the end, the read fails anyway. -/
def PageReadRight (offset len : Nat) : Prop :=
  if offset ≤ B.fsize file.ext4 then
    B.fpos (B.fread (B.setPos file.ext4 offset) len).1 = B.fpos file.ext4
  else (B.fread (B.setPos file.ext4 offset) len).2 = none

/-- A positioned write is a seek, the write and a seek back. -/
def PwriteLikeSeek (offset : Nat) (buf : List UInt8) : Prop :=
  let written := vfsWrite B (vfsSeek B file offset) buf
  let after := vfsPwrite B file buf offset
  after = (⟨(vfsSeek B written.1 (B.fpos file.ext4)).ext4, file.offset⟩, written.2) ∧
    B.fpos after.1.ext4 = B.fpos file.ext4

variable {B file} (law : B.Lawful)
include law

theorem vfsPread_iff (offset len : Nat) :
    vfsPread B file len offset = (file, (vfsRead B (vfsSeek B file offset) len).2) ↔
      PreadRight B file offset len := by
  unfold PreadRight
  split
  next inside =>
    have size : B.fsize (B.fread (B.setPos file.ext4 offset) len).1 = B.fsize file.ext4 := by
      rw [law.fsize_fread, law.fsize_setPos]
    rw [vfsSeek_eq law]
    by_cases settled : B.fpos file.ext4 ≤ B.fsize file.ext4
    · have back : B.fseek (B.fread (B.setPos file.ext4 offset) len).1 (B.fpos file.ext4) =
          some file.ext4 := by
        rw [Lwext4.fseek, size, if_pos settled, law.setPos_fread, law.setPos_setPos,
          law.setPos_fpos]
      refine iff_of_true ?_ settled
      simp only [vfsPread, vfsRead, Lwext4.fseek, if_pos inside] at back ⊢
      rw [back]
      rcases B.fread (B.setPos file.ext4 offset) len with ⟨f, _ | bytes⟩ <;> rfl
    · -- the position cannot be restored, and the read has not ended there
      refine iff_of_false (fun same => ?_) settled
      have refused : B.fseek (B.fread (B.setPos file.ext4 offset) len).1
          (B.fpos file.ext4) = none := by
        rw [Lwext4.fseek, size, if_neg settled]
      have ends := law.fread_within (B.setPos file.ext4 offset) len
        (by rwa [law.fpos_setPos, law.content_setPos])
      rw [law.content_setPos] at ends
      have moved : (vfsPread B file len offset).1.ext4 =
          (B.fread (B.setPos file.ext4 offset) len).1 := by
        simp only [vfsPread, Lwext4.fseek, if_pos inside] at refused ⊢
        rw [refused]
        rcases B.fread (B.setPos file.ext4 offset) len with ⟨f, _ | bytes⟩ <;> rfl
      rw [same] at moved
      rw [← moved] at ends
      exact settled ends
  next beyond =>
    have refused : vfsPread B file len offset = (file, -vfsEio, []) := by
      simp only [vfsPread, Lwext4.fseek, if_neg beyond]
    rw [refused, ← vfsRead_eq_error_iff law]
    exact ⟨fun same => (Prod.mk.inj same).2.symm, fun same => by rw [same]⟩

/-- A seek inside the file leaves no gap to fill before the write. -/
theorem vfsWrite_inside {offset : Nat} (inside : offset ≤ B.fsize file.ext4) (buf : List UInt8) :
    vfsWrite B (vfsSeek B file offset) buf =
      match B.fwrite (B.setPos file.ext4 offset) buf with
      | (f, some n) => (⟨f, B.fpos f⟩, toCInt n)
      | (f, none) => (⟨f, offset⟩, -vfsEio) := by
  have gapless : writeAtGap B (B.setPos file.ext4 offset) = (B.setPos file.ext4 offset, true) :=
    if_neg (by rwa [law.fpos_setPos, law.fsize_setPos, Nat.not_lt])
  rw [vfsSeek_eq law, vfsWrite, gapless]

theorem vfsPwrite_iff (offset : Nat) (buf : List UInt8) :
    PwriteLikeSeek B file offset buf ↔ PwriteRight B file offset buf := by
  unfold PwriteLikeSeek PwriteRight
  dsimp only
  rw [vfsSeek_eq law (vfsWrite B (vfsSeek B file offset) buf).1]
  split
  next inside =>
    have within : ∀ n, (B.fwrite (B.setPos file.ext4 offset) buf).2 = some n →
        B.fpos (B.fwrite (B.setPos file.ext4 offset) buf).1 ≤
          B.fsize (B.fwrite (B.setPos file.ext4 offset) buf).1 := fun n =>
      law.fwrite_within (by rwa [law.fpos_setPos, law.content_setPos])
    rw [vfsWrite_inside law inside]
    simp only [vfsPwrite, Lwext4.fseek, if_pos inside]
    revert within
    rcases B.fwrite (B.setPos file.ext4 offset) buf with ⟨f, result⟩
    intro within
    by_cases room : B.fpos file.ext4 ≤ B.fsize f
    · refine iff_of_true ?_ (.inl room)
      cases result <;> simp only [if_pos room, law.fpos_setPos, and_self]
    · rw [or_iff_right room]
      cases result with
      | none =>
        simp only [if_neg room, true_and, and_iff_right_iff_imp]
        intro position
        have stays : B.setPos f (B.fpos file.ext4) = f := by rw [← position, law.setPos_fpos]
        rw [stays]
      | some n =>
        simp only [if_neg room]
        refine iff_of_false (fun ⟨_, position⟩ => room ?_) (fun failed => nomatch failed.1)
        exact position ▸ within n rfl
  next beyond =>
    have refused : vfsPwrite B file buf offset = (file, -vfsEio) := by
      simp only [vfsPwrite, Lwext4.fseek, if_neg beyond]
    rw [refused]
    constructor
    · rintro ⟨same, -⟩
      obtain ⟨left, right⟩ := Prod.mk.inj same
      exact ⟨right.symm, (congrArg RegularFile.ext4 left).symm⟩
    · rintro ⟨failed, left⟩
      rw [left, failed]
      exact ⟨rfl, rfl⟩

theorem vfsReadToPhys_iff (offset len : Nat) :
    vfsReadToPhys B file offset len = (file, (vfsRead B (vfsSeek B file offset) len).2) ↔
      PageReadRight B file offset len := by
  unfold PageReadRight
  split
  next inside =>
    rw [vfsReadToPhys_of_le law inside, ← law.fread_eq_iff]
    constructor
    · exact fun same => congrArg (·.1.ext4) same
    · exact fun same => by rw [same]
  next beyond =>
    have refused : vfsReadToPhys B file offset len = (file, -vfsEio, []) := by
      simp only [vfsReadToPhys, Lwext4.fseek, if_neg beyond]
    rw [refused, ← vfsRead_eq_error_iff law]
    exact ⟨fun same => (Prod.mk.inj same).2.symm, fun same => by rw [same]⟩

/-- When positioned reads and writes are a seek, the read or write and a seek back, and when the
reading of a page leaves the file as it was. -/
theorem positioned_io_like_seek (file : RegularFile φ) (offset : Nat) :
    (∀ len, vfsPread B file len offset = (file, (vfsRead B (vfsSeek B file offset) len).2) ↔
      PreadRight B file offset len) ∧
    (∀ buf, PwriteLikeSeek B file offset buf ↔ PwriteRight B file offset buf) ∧
    ∀ len, vfsReadToPhys B file offset len = (file, (vfsRead B (vfsSeek B file offset) len).2) ↔
      PageReadRight B file offset len :=
  ⟨vfsPread_iff law offset, vfsPwrite_iff law offset, vfsReadToPhys_iff law offset⟩

end Exactness

def plainFile : Lwext4 (List UInt8 × Nat) where
  content f := f.1
  fpos f := f.2
  setPos f p := (f.1, p)
  fread f n := ((f.1, f.2 + ((f.1.drop f.2).take n).length), some ((f.1.drop f.2).take n))
  fwrite f buf :=
    ((f.1.take f.2 ++ buf ++ f.1.drop (f.2 + buf.length), f.2 + buf.length), some buf.length)

theorem plainFile_lawful : plainFile.Lawful where
  content_setPos _ _ := rfl
  fpos_setPos _ _ := rfl
  setPos_setPos _ _ _ := rfl
  setPos_fpos _ := rfl
  fread_length := by
    rintro f n bytes is
    obtain rfl := Option.some.inj is
    exact List.length_take_le n _
  fread_moves := by
    rintro f n bytes is
    obtain rfl := Option.some.inj is
    rfl
  fread_bytes := by
    rintro f n bytes - is
    obtain rfl := Option.some.inj is
    rfl
  setPos_fread _ _ _ := rfl
  fread_forward f n := Nat.le_add_right _ _
  fread_within f n inside := by
    simp only [plainFile, List.length_take, List.length_drop] at inside ⊢
    omega
  fwrite_grows f buf := by
    simp only [plainFile, List.length_append, List.length_take, List.length_drop]
    omega
  fwrite_within := by
    rintro f buf n inside -
    simp only [plainFile, List.length_append, List.length_take, List.length_drop] at inside ⊢
    omega

theorem positioned_io_in_four_bytes :
    vfsPread plainFile ⟨([1, 2, 3, 4], 4), 4⟩ 2 1 = (⟨([1, 2, 3, 4], 4), 4⟩, 2, [2, 3]) ∧
    PwriteLikeSeek plainFile ⟨([1, 2, 3, 4], 4), 4⟩ 4 [9] ∧
    vfsReadToPhys plainFile ⟨([1, 2, 3, 4], 4), 4⟩ 0 4096 =
      (⟨([1, 2, 3, 4], 4), 4⟩, 4, [1, 2, 3, 4]) := by
  obtain ⟨pread, -, -⟩ := positioned_io_like_seek plainFile_lawful ⟨([1, 2, 3, 4], 4), 4⟩ 1
  obtain ⟨-, pwrite, -⟩ := positioned_io_like_seek plainFile_lawful ⟨([1, 2, 3, 4], 4), 4⟩ 4
  obtain ⟨-, -, page⟩ := positioned_io_like_seek plainFile_lawful ⟨([1, 2, 3, 4], 4), 4⟩ 0
  have settled : PreadRight plainFile ⟨([1, 2, 3, 4], 4), 4⟩ 1 2 := by
    rw [PreadRight, if_pos (by decide)]
    decide
  have room : PwriteRight plainFile ⟨([1, 2, 3, 4], 4), 4⟩ 4 [9] := by
    rw [PwriteRight, if_pos (by decide)]
    exact .inl (by decide)
  have stays : PageReadRight plainFile ⟨([1, 2, 3, 4], 4), 4⟩ 0 4096 := by
    rw [PageReadRight, if_pos (by decide)]
    decide +kernel
  refine ⟨((pread 2).mpr settled).trans ?_, (pwrite [9]).mpr room, ((page 4096).mpr stays).trans ?_⟩
  · decide +kernel
  · decide +kernel

/-- Reading a page moves the position, and a positioned write beyond the end fails where a write
after a seek fills the gap. -/
theorem page_read_moves_position :
    (vfsReadToPhys plainFile ⟨([1, 2, 3, 4], 0), 0⟩ 0 4096).1.ext4 = ([1, 2, 3, 4], 4) ∧
    vfsPwrite plainFile ⟨([1, 2, 3, 4], 0), 0⟩ [9] 5 = (⟨([1, 2, 3, 4], 0), 0⟩, -5) ∧
    vfsWrite plainFile (vfsSeek plainFile ⟨([1, 2, 3, 4], 0), 0⟩ 5) [9] =
      (⟨([1, 2, 3, 4, 0, 9], 6), 6⟩, 1) := by
  decide +kernel

end AvatarKernel
