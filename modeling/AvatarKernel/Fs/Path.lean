import AvatarKernel.Lib.PathNames

namespace AvatarKernel

open PathNames

/-- `sizeof(tmp) - 1` in `resolve_path` -/
def pathTextMax : Nat := 127

/-- A directory as `resolve_path` puts it before a relative path. -/
def endSlash (dir : List Char) : List Char :=
  if dir ≠ [] ∧ dir.getLast? ≠ some '/' ∧ dir.length < pathTextMax then dir ++ ['/'] else dir

/-- `tmp` of `resolve_path` -/
def pathText (cwd path : List Char) : List Char :=
  if path.head? = some '/' then path.take pathTextMax
  else
    let dir := endSlash (cwd.take pathTextMax)
    dir ++ path.take (pathTextMax - dir.length)

/-- What a segment does to the 64 entries of `seg_start` and `seg_len`. -/
def keepSegment (segs : List (List Char)) (seg : List Char) : List (List Char) :=
  if seg = [] ∨ seg = ['.'] then segs
  else if seg = ['.', '.'] then segs.dropLast
  else if segs.length < 64 then segs ++ [seg]
  else segs

/-- The loop over `tmp`: the segments found, and the one it is in. -/
structure PathScan where
  segs : List (List Char) := []
  seg : List Char := []

def PathScan.close (s : PathScan) : List (List Char) := keepSegment s.segs s.seg

def PathScan.next (s : PathScan) (c : Char) : PathScan :=
  if c = '/' then { segs := s.close } else { s with seg := s.seg ++ [c] }

def pathSegments (text : List Char) : List (List Char) := (text.foldl PathScan.next {}).close

/-- `resolve_path`; `none` if it leaves the buffer alone. -/
def resolvePath (cwd path : List Char) (outlen : Int) : Option (List Char) :=
  if path = [] then some ['/']
  else if outlen ≤ 0 then none
  else
    let segs := pathSegments (pathText cwd path)
    some ('/' :: (List.intercalate ['/'] segs).take (outlen.toNat - 2))

/-- `resolve_path_at`, with the paths of the open directories. -/
def resolvePathAt (cwd : List Char) (dirs : Int → Option (List Char)) (dirfd : Int)
    (pathname : Option (List Char)) (outlen : Int) : Except Int (Option (List Char)) :=
  match pathname with
  | none => .error (-2)
  | some path =>
    if path.head? = some '/' then .ok (resolvePath cwd path outlen)
    else if dirfd = -100 then .ok (resolvePath cwd path outlen)
    else
      match dirs dirfd with
      | none => .error (-9)
      | some base => .ok (resolvePath base path outlen)

theorem walk_endSlash (filled : dir ≠ []) (fits : dir.length < pathTextMax) (path : List Char) :
    walk [] (endSlash dir ++ path) = walk (walk [] dir) path := by
  rw [endSlash]
  split
  case isTrue =>
    rw [List.append_assoc]
    exact walk_under [] dir path
  case isFalse closed =>
    have slash : dir.getLast? = some '/' := by
      by_contra other
      exact closed ⟨filled, other, fits⟩
    obtain ⟨init, rfl⟩ := List.getLast?_eq_some_iff.mp slash
    rw [List.append_assoc, walk_under [] init []]
    exact walk_under [] init path

section Scan

variable {s : PathScan} {n : Nat}

/-- The state of the scan after `n` bytes, the first of which is a slash. -/
structure PathScan.Good (s : PathScan) (n : Nat) : Prop where
  plain : ∀ seg ∈ s.segs, Plain seg
  slashless : '/' ∉ s.seg
  size : (slashed s.segs).length + s.seg.length + 1 ≤ n

/-- The table has room: in 127 bytes there are less than 64 segments. -/
theorem PathScan.Good.close_eq_walkName (good : s.Good n) (short : n ≤ pathTextMax) :
    s.close = walkName s.segs s.seg := by
  have size := good.size
  have double := two_mul_length_le_slashed s.segs good.plain
  have room : s.segs.length < 64 := by
    unfold pathTextMax at short
    omega
  rw [PathScan.close, keepSegment, walkName, if_pos room]

theorem PathScan.Good.close (good : s.Good n) (short : n ≤ pathTextMax) :
    Good { segs := s.close } (n + 1) := by
  have size := good.size
  have shorter := length_slashed_dropLast s.segs
  rw [good.close_eq_walkName short, walkName]
  split
  · exact ⟨good.plain, List.not_mem_nil, by dsimp only [List.length_nil]; omega⟩
  next named =>
  obtain ⟨filled, notDot⟩ := not_or.mp named
  split
  · refine ⟨fun seg inside => good.plain seg (List.dropLast_subset _ inside), List.not_mem_nil, ?_⟩
    dsimp only [List.length_nil]
    omega
  next notDots =>
    refine ⟨?_, List.not_mem_nil, ?_⟩
    · intro seg inside
      rcases List.mem_append.mp inside with old | new
      · exact good.plain seg old
      · exact List.mem_singleton.mp new ▸ ⟨filled, good.slashless, notDot, notDots⟩
    · dsimp only [slashed, List.length_nil] at size ⊢
      rw [List.flatMap_append, List.length_append, List.flatMap_singleton, List.length_cons]
      omega

theorem PathScan.Good.next (good : s.Good n) (short : n ≤ pathTextMax) (c : Char) :
    (s.next c).Good (n + 1) := by
  rw [PathScan.next]
  split
  · exact good.close short
  next other =>
    refine ⟨good.plain, ?_, ?_⟩
    · intro inside
      rcases List.mem_append.mp inside with old | new
      · exact good.slashless old
      · exact other (List.mem_singleton.mp new).symm
    · have size := good.size
      dsimp only
      rw [List.length_append, List.length_singleton]
      omega

/-- The scan of the rest of a text walks along it. -/
theorem PathScan.Good.run (text : List Char) : ∀ {s : PathScan} {n : Nat}, s.Good n →
    n + text.length ≤ pathTextMax →
    (text.foldl PathScan.next s).Good (n + text.length) ∧
      (text.foldl PathScan.next s).close = walk s.segs (s.seg ++ text) := by
  induction text with
  | nil =>
    intro s n good short
    rw [List.append_nil, walk_slashless good.slashless]
    exact ⟨good, good.close_eq_walkName short⟩
  | cons c text ih =>
    intro s n good short
    rw [List.length_cons] at short ⊢
    obtain ⟨last, rest⟩ := ih (good.next (by omega) c) (by omega)
    rw [Nat.add_assoc, Nat.add_comm 1] at last
    refine ⟨last, rest.trans ?_⟩
    rw [PathScan.next]
    split
    case isTrue slash =>
      rw [slash, walk_under, walk_slashless good.slashless, good.close_eq_walkName (by omega)]
      rfl
    case isFalse =>
      rw [List.append_assoc]
      rfl

/-- What the scan makes of an absolute text that fits. -/
structure AbsoluteText (text : List Char) : Prop where
  walked : pathSegments text = walk [] text
  plain : ∀ seg ∈ walk [] text, Plain seg
  length : (render (walk [] text)).length ≤ text.length

theorem AbsoluteText.of_head {text : List Char} (absolute : text.head? = some '/')
    (short : text.length ≤ pathTextMax) : AbsoluteText text := by
  cases text with
  | nil => cases absolute
  | cons c text =>
    cases absolute
    rw [List.length_cons, Nat.add_comm] at short
    have start : PathScan.Good {} 1 :=
      ⟨fun _ inside => (List.not_mem_nil inside).elim, List.not_mem_nil, Nat.le_refl _⟩
    obtain ⟨last, walked⟩ := start.run text short
    have good := last.close short
    rw [walked, List.nil_append, ← walk_rooted] at good
    refine ⟨walked.trans (walk_rooted text).symm, good.plain, ?_⟩
    have size := good.size
    by_cases empty : walk [] ('/' :: text) = []
    · rw [empty]
      exact Nat.le_add_left ..
    · rw [render_eq_slashed empty, List.length_cons]
      dsimp only [List.length_nil] at size
      omega

end Scan

section Resolution

variable {cwd path : List Char} {outlen : Int}

theorem length_endSlash (dir : List Char) : (endSlash dir).length ≤ dir.length + 1 := by
  rw [endSlash]
  split
  · exact Nat.le_of_eq List.length_append
  · exact Nat.le_succ _

theorem head_pathText (absolute : cwd.head? = some '/') : (pathText cwd path).head? = some '/' := by
  rw [pathText]
  split
  case isTrue rooted =>
    rw [List.head?_take]
    exact rooted
  case isFalse =>
    cases cwd with
    | nil => cases absolute
    | cons c cwd =>
      cases absolute
      dsimp only [endSlash]
      split <;> rfl

theorem length_pathText : (pathText cwd path).length ≤ pathTextMax := by
  rw [pathText, endSlash]
  split
  · exact List.length_take_le ..
  · dsimp only
    split <;> simp only [List.length_append, List.length_take, List.length_singleton] at * <;> omega

theorem length_pathText_le : (pathText cwd path).length ≤ cwd.length + path.length + 1 := by
  have dir := length_endSlash (cwd.take pathTextMax)
  rw [pathText]
  split <;> simp only [List.length_append, List.length_take] at * <;> omega

theorem pathText_rooted (rooted : path.head? = some '/') (fits : path.length ≤ pathTextMax) :
    pathText cwd path = path := by
  rw [pathText, if_pos rooted, List.take_of_length_le fits]

theorem pathText_relative (relative : path.head? ≠ some '/')
    (fits : cwd.length + path.length < pathTextMax) : pathText cwd path = endSlash cwd ++ path := by
  have whole : cwd.take pathTextMax = cwd := List.take_of_length_le (by omega)
  have room := length_endSlash cwd
  rw [pathText, if_neg relative, whole]
  dsimp only
  rw [List.take_of_length_le (by omega)]

theorem pathText_longer (filled : path ≠ [])
    (fits : cwd.length + path.length + name.length + 1 < pathTextMax) :
    pathText cwd (path ++ '/' :: name) = pathText cwd path ++ '/' :: name := by
  have first : (path ++ '/' :: name).head? = path.head? := by
    rw [List.head?_append, Option.or_eq_left_of_isSome]
    exact List.isSome_head?.mpr filled
  have length : (path ++ '/' :: name).length = path.length + name.length + 1 := by
    rw [List.length_append, List.length_cons, Nat.add_assoc]
  by_cases rooted : path.head? = some '/'
  · rw [pathText_rooted rooted (by omega), pathText_rooted (first.trans rooted) (by omega)]
  · rw [pathText_relative rooted (by omega), pathText_relative (first ▸ rooted) (by omega),
      List.append_assoc]

/-- A buffer of 128 bytes has room for what comes out. -/
theorem resolvePath_eq_render (filled : path ≠ []) (absolute : (pathText cwd path).head? = some '/')
    (room : 128 ≤ outlen) :
    resolvePath cwd path outlen = some (render (walk [] (pathText cwd path))) := by
  have bound := @length_pathText cwd path
  have text := AbsoluteText.of_head absolute bound
  have short := text.length
  rw [render, List.length_cons] at short
  unfold pathTextMax at bound
  rw [resolvePath, if_neg filled, if_neg (by omega)]
  dsimp only
  rw [text.walked, List.take_of_length_le (by omega)]
  rfl

/-- `resolve_path` finds the place that the path names, by its names alone: from the root, or from
the current directory. -/
theorem resolve_path_walks {cwd path : List Char} {outlen : Int}
    (absolute : cwd.head? = some '/') (filled : path ≠ [])
    (fits : cwd.length + path.length < 127) (room : 128 ≤ outlen) :
    resolvePath cwd path outlen =
      some (render (walk (if path.head? = some '/' then [] else walk [] cwd) path)) := by
  rw [resolvePath_eq_render filled (head_pathText absolute) room]
  split
  case isTrue rooted => rw [pathText_rooted rooted (by unfold pathTextMax; omega)]
  case isFalse relative =>
    have real : cwd ≠ [] := by
      rintro rfl
      cases absolute
    rw [pathText_relative relative fits, walk_endSlash real (by unfold pathTextMax; omega)]

theorem resolve_path_walks_up :
    resolvePath ['/', 'a', '/', 'b'] ['.', '.', '/', '/', 'c'] 128 = some ['/', 'a', '/', 'c'] :=
  (resolve_path_walks rfl (by decide) (by decide) (by decide)).trans (by decide)

/-- What `resolve_path` gives a process whose directory is absolute: an absolute path of less than
128 bytes without empty segments, `.` and `..`, which is resolved to itself from any directory. -/
def ResolvesNormally (cwd path : List Char) (outlen : Int) : Prop :=
  ∃ segs, resolvePath cwd path outlen = some (render segs) ∧
    (∀ seg ∈ segs, Plain seg) ∧ (render segs).length < 128 ∧
    ∀ base, resolvePath base (render segs) outlen = some (render segs)

/-- Whatever the path, also one that is cut off at the end of the buffer, the result is a normal
one. -/
theorem resolve_path_normal {cwd : List Char} {outlen : Int} (path : List Char)
    (absolute : cwd.head? = some '/') (room : 128 ≤ outlen) :
    ResolvesNormally cwd path outlen := by
  obtain ⟨text, rooted, bound, resolved⟩ : ∃ text : List Char, text.head? = some '/' ∧
      text.length ≤ pathTextMax ∧ resolvePath cwd path outlen = some (render (walk [] text)) := by
    by_cases filled : path = []
    · rw [filled]
      exact ⟨['/'], rfl, by decide, rfl⟩
    · have rooted := @head_pathText cwd path absolute
      exact ⟨_, rooted, length_pathText, resolvePath_eq_render filled rooted room⟩
  have normal := AbsoluteText.of_head rooted bound
  have short := Nat.le_trans normal.length bound
  refine ⟨_, resolved, normal.plain, Nat.lt_succ_of_le short, ?_⟩
  intro base
  have same := @pathText_rooted base (render (walk [] text)) rfl short
  have again := @resolvePath_eq_render base (render _) outlen (render_ne_nil _)
    (congrArg List.head? same) room
  rwa [same, walk_render normal.plain] at again

theorem resolve_path_normal_up :
    ResolvesNormally ['/', 'a', '/', 'b'] ['.', '.', '/', '/', 'c'] 128 :=
  resolve_path_normal _ rfl (by decide)

/-- Opening a directory and then a name in it resolves to what the whole path resolves to. -/
theorem openat_composes {cwd path : List Char} {outlen : Int} {name dir : List Char}
    {dirs : Int → Option (List Char)} {fd : Int} (absolute : cwd.head? = some '/')
    (filled : path ≠ []) (room : 128 ≤ outlen)
    (named : name ≠ []) (relative : name.head? ≠ some '/')
    (fits : cwd.length + path.length + name.length + 1 < 127)
    (opened : resolvePath cwd path outlen = some dir) (kept : dirs fd = some dir)
    (real : fd ≠ -100) :
    resolvePathAt cwd dirs fd (some name) outlen =
      resolvePathAt cwd dirs (-100) (some (path ++ '/' :: name)) outlen := by
  have rooted := @head_pathText cwd path absolute
  have text := @length_pathText_le cwd path
  have normal := AbsoluteText.of_head rooted length_pathText
  have short := normal.length
  cases opened.symm.trans (resolvePath_eq_render filled rooted room)
  have below : resolvePath (render (walk [] (pathText cwd path))) name outlen =
      resolvePath cwd (path ++ '/' :: name) outlen := by
    rw [resolvePath_eq_render named (head_pathText rfl) room,
      resolvePath_eq_render (List.append_ne_nil_of_left_ne_nil filled _)
        (head_pathText absolute) room, pathText_relative relative (by unfold pathTextMax; omega),
      walk_endSlash (render_ne_nil _) (by unfold pathTextMax; omega),
      walk_render normal.plain, pathText_longer filled fits, walk_under]
  rw [resolvePathAt, resolvePathAt, if_neg relative, if_neg real, kept]
  dsimp only
  rw [below, if_pos rfl, ite_self]

theorem openat_composes_up :
    let dirs : Int → Option (List Char) := fun _ => some ['/', 'a', '/', 'b']
    resolvePathAt ['/', 'a'] dirs 3 (some ['.', '.']) 128 =
      resolvePathAt ['/', 'a'] dirs (-100) (some ['b', '/', '.', '.']) 128 :=
  @openat_composes ['/', 'a'] ['b'] 128 ['.', '.'] ['/', 'a', '/', 'b'] _ 3 rfl
    (by decide) (by decide)
    (by decide) (by decide) (by decide) (by decide) rfl (by decide)

end Resolution

end AvatarKernel
