import AvatarKernel.Fs.FilePosition
import AvatarKernel.Lib.Transition

namespace AvatarKernel

open Transition

/-- What a `struct kernel_dirent64` says of an entry. `name_length` of lwext4 is a byte, and the
names of the pseudo files are not longer. -/
structure DirEntry where
  ino : Nat
  type : Nat
  name : List Char
  short : name.length < 256
deriving DecidableEq

structure Dirent where
  entry : DirEntry
  off : Nat
deriving DecidableEq

def DirEntry.reclen (e : DirEntry) : Nat := ((19 + e.name.length + 1) % 2 ^ 16 + 7) / 8 * 8 % 2 ^ 16

def direntBytes (out : List Dirent) : Nat := (out.map (·.entry.reclen)).sum

def direntEntries (out : List Dirent) : List DirEntry := out.map (·.entry)

structure Ext4Direntry where
  inode : Nat
  inodeType : Nat
  name : List Char
  short : name.length < 256

def Ext4Direntry.entry (de : Ext4Direntry) : DirEntry :=
  ⟨de.inode, match de.inodeType with | 1 => 8 | 2 => 4 | 7 => 10 | _ => 0, de.name, de.short⟩

/-- The loop of `ext4_dir_getdents` over the entries that `ext4_dir_entry_next` has still to give.
It has taken an entry before it sees that the record does not fit. -/
def ext4DirGetdents (bufsz written : Nat) : List Ext4Direntry → List Dirent × List Ext4Direntry
  | [] => ([], [])
  | de :: left =>
    if written + 32 < bufsz then
      if bufsz < written + de.entry.reclen then ([], left)
      else
        let next := ext4DirGetdents bufsz (written + de.entry.reclen) left
        (⟨de.entry, written + de.entry.reclen⟩ :: next.1, next.2)
    else ([], de :: left)

inductive PseudoType where
  | dir
  | reg
  | chr
  | lnk
deriving DecidableEq

def PseudoType.dirent : PseudoType → Nat
  | .dir => 4
  | .reg => 8
  | .chr => 2
  | .lnk => 10

structure PseudoNode where
  path : String
  type : PseudoType
  short : path.toList.length < 256

/-- `g_nodes`, `pfs_node_available` and the ids of the live tasks in the order of their slots. -/
structure PseudoFs where
  nodes : List PseudoNode
  available : PseudoNode → Bool
  pids : List (Fin (2 ^ 32))

def isDirectChild (dir child : List Char) : Bool :=
  match child.drop (if dir = ['/'] then 0 else dir.length) with
  | '/' :: rest => !rest.contains '/' && if dir = ['/'] then !rest.isEmpty else dir.isPrefixOf child
  | _ => false

/-- `pfs_node_name` -/
def PseudoNode.name (node : PseudoNode) : List Char :=
  (node.path.toList.reverse.takeWhile (· ≠ '/')).reverse

def PseudoNode.entry (node : PseudoNode) (i : Nat) : DirEntry where
  ino := i + 1
  type := node.type.dirent
  name := node.name
  short := by
    unfold PseudoNode.name
    rw [List.length_reverse]
    have shorter := (node.path.toList.reverse.takeWhile_sublist (· ≠ '/')).length_le
    rw [List.length_reverse] at shorter
    exact Nat.lt_of_le_of_lt shorter node.short

def pidEntry (pid : Fin (2 ^ 32)) : DirEntry where
  ino := 2000 + pid
  type := 4
  name := Nat.toDigits 10 pid
  short := by
    have digits : (Nat.toDigits 10 pid).length ≤ 10 :=
      (Nat.length_toDigits_le_iff (by decide) (by decide)).mpr (by omega)
    omega

/-- The entries of a directory node that stand in the table, or the one entry of the directory of a
process; `none` where `pfs_getdents_node` gives `-PFS_EINVAL`. -/
def PseudoFs.fixed (fs : PseudoFs) (nid : Nat) : Option (List DirEntry) :=
  if 2000 ≤ nid ∧ nid < 3000 then some [⟨nid + 1000, 8, "status".toList, by decide⟩]
  else
    match fs.nodes[nid]? with
    | none => none
    | some dir =>
      if dir.type = .dir then
        some ((fs.nodes.zipIdx.filter fun child => child.2 ≠ nid && fs.available child.1 &&
          isDirectChild dir.path.toList child.1.path.toList).map fun child => child.1.entry child.2)
      else none

/-- The entries that `emit_proc_pid_dirs` makes for `/proc`. -/
def PseudoFs.generated (fs : PseudoFs) (nid : Nat) : List DirEntry :=
  if ¬ (2000 ≤ nid ∧ nid < 3000) ∧ fs.nodes[nid]?.map (·.path) = some "/proc" then
    fs.pids.map pidEntry
  else []

structure Emit where
  out : List Dirent
  written : Nat
  off : Nat
  idx : Nat

/-- The loops of `pfs_getdents_node` and `emit_proc_pid_dirs` over their entries, with
`emit_dirent`. -/
def emitDirents (bufsz : Nat) (s : Emit) : List DirEntry → Emit
  | [] => s
  | e :: entries =>
    if s.idx < s.off then emitDirents bufsz { s with idx := s.idx + 1 } entries
    else if bufsz < s.written + e.reclen then s
    else
      emitDirents bufsz
        ⟨s.out ++ [⟨e, s.idx + 1⟩], s.written + e.reclen, s.off + 1, s.idx + 1⟩ entries

/-- `pfs_getdents_node`. The generated entries come also where the fixed ones stopped. -/
def pfsGetdentsNode (fs : PseudoFs) (nid off bufsz : Nat) : Option Emit :=
  (fs.fixed nid).map fun fixed =>
    emitDirents bufsz (emitDirents bufsz ⟨[], 0, off, 0⟩ fixed) (fs.generated nid)

/-- An open directory: what the iterator of lwext4 has left, or a node and the offset in it. -/
inductive DirFile where
  | ext4 (left : List Ext4Direntry)
  | pseudo (fs : PseudoFs) (nid off : Nat)

def DirFile.left : DirFile → List DirEntry
  | .ext4 left => left.map (·.entry)
  | .pseudo fs nid off => ((fs.fixed nid).getD [] ++ fs.generated nid).drop off

/-- `getdents64_handler` with a buffer: the directory, the records in the buffer and the result. -/
def getdents64 (file : DirFile) (count : Nat) : DirFile × List Dirent × Int :=
  if count < 32 then (file, [], -22)
  else
    match file with
    | .ext4 left =>
      let r := ext4DirGetdents count 0 left
      (.ext4 r.2, r.1, toCInt (direntBytes r.1))
    | .pseudo fs nid off =>
      match pfsGetdentsNode fs nid off count with
      | none => (file, [], -22)
      | some s => (.pseudo fs nid s.off, s.out, toCInt s.written)

def returned (out : List Dirent) (result : Int) : List DirEntry :=
  if 0 < result then direntEntries out else []

variable {bufsz : Nat}

end AvatarKernel
