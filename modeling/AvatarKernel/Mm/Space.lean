import AvatarKernel.Mm.PageTable

namespace AvatarKernel

open Function

/-- An address space as two partial maps: the table page that serves each block of virtual pages
(level 0 holds leaf entries, a table of level `n` serves `512 ^ (n + 1)` pages), and the leaf entry
of each virtual page. -/
structure Space where
  table : (level number : Nat) → Option Nat
  leaf : (key : Nat) → Option Leaf

def Space.empty : Space := ⟨fun _ _ => none, fun _ => none⟩

def Space.setLeaf (s : Space) (key : Nat) (x : Option Leaf) : Space :=
  { s with leaf := update s.leaf key x }

def Space.setTable (s : Space) (level number : Nat) (page : Option Nat) : Space :=
  { s with table := update s.table level (update (s.table level) number page) }

def tableNumber (level key : Nat) : Nat := key / 512 ^ (level + 1)

theorem tableNumber_zero (key : Nat) : tableNumber 0 key = key / 512 := by
  rw [tableNumber, Nat.zero_add, pow_one]

theorem tableNumber_succ (level key : Nat) :
    tableNumber (level + 1) key = tableNumber level key / 512 := by
  rw [tableNumber, tableNumber, pow_succ _ (level + 1), Nat.div_div_eq_div_mul]

theorem tableNumber_index (level key : Nat) :
    tableNumber (level + 1) key * 512 + key / 512 ^ (level + 1) % 512 = tableNumber level key := by
  rw [tableNumber_succ]
  exact Nat.div_add_mod' (tableNumber level key) 512

theorem putWord_self (mem : PhysMem) (page index : Nat) (w : Word) :
    putWord mem page index w page index = w := by
  rw [putWord, update_self, update_self]

theorem putWord_of_ne (w : Word) (away : ¬ (other = page ∧ place = index)) :
    putWord mem page index w other place = mem other place := by
  rw [putWord]
  by_cases same : other = page
  · subst same
    rw [update_self, update_of_ne fun eq => away ⟨rfl, eq⟩]
  · rw [update_of_ne same]

theorem putWord_page_of_ne (w : Word) (away : other ≠ page) :
    putWord mem page index w other = mem other :=
  update_of_ne away ..

namespace Space

variable {s : Space}

@[simp] theorem setLeaf_leaf_self (key : Nat) (x : Option Leaf) : (s.setLeaf key x).leaf key = x :=
  update_self ..

theorem setLeaf_leaf_of_ne (x : Option Leaf) (away : other ≠ key) :
    (s.setLeaf key x).leaf other = s.leaf other :=
  update_of_ne away ..

@[simp] theorem setTable_leaf (level number : Nat) (page : Option Nat) :
    (s.setTable level number page).leaf = s.leaf := rfl

@[simp] theorem setTable_table_self (level number : Nat) (page : Option Nat) :
    (s.setTable level number page).table level number = page := by
  rw [setTable]
  simp only [update_self]

theorem setTable_table_of_ne (page : Option Nat) (away : ¬ (other = level ∧ place = number)) :
    (s.setTable level number page).table other place = s.table other place := by
  show update s.table level _ other place = _
  by_cases same : other = level
  · subst same
    rw [update_self, update_of_ne fun eq => away ⟨rfl, eq⟩]
  · rw [update_of_ne same]

theorem setTable_cases (present : (s.setTable level number new).table other place = some page) :
    (other = level ∧ place = number ∧ new = some page) ∨
      (¬ (other = level ∧ place = number) ∧ s.table other place = some page) := by
  by_cases here : other = level ∧ place = number
  · obtain ⟨rfl, rfl⟩ := here
    rw [setTable_table_self] at present
    exact .inl ⟨rfl, rfl, present⟩
  · rw [setTable_table_of_ne _ here] at present
    exact .inr ⟨here, present⟩

theorem setTable_none_iff :
    (s.setTable level number (some page)).table other place = none ↔
      s.table other place = none ∧ ¬ (other = level ∧ place = number) := by
  by_cases here : other = level ∧ place = number
  · obtain ⟨rfl, rfl⟩ := here
    rw [setTable_table_self]
    exact iff_of_false (Option.some_ne_none _) fun both => both.2 ⟨rfl, rfl⟩
  · rw [setTable_table_of_ne _ here]
    exact (and_iff_left here).symm

theorem setLeaf_cases (present : (s.setLeaf key new).leaf other = some x) :
    (other = key ∧ new = some x) ∨ (other ≠ key ∧ s.leaf other = some x) := by
  by_cases here : other = key
  · subst here
    rw [setLeaf_leaf_self] at present
    exact .inl ⟨rfl, present⟩
  · rw [setLeaf_leaf_of_ne _ here] at present
    exact .inr ⟨here, present⟩

/-- A page table in memory holds the address space. Where a table is missing the entry is 0, apart
from the kernel's entries in the upper half of the root. -/
structure Represents (a : Arch) (mem : PhysMem) (s : Space) : Prop where
  upper : ∀ {level number page index child : Nat}, s.table (level + 1) number = some page →
    index < 512 → s.table level (number * 512 + index) = some child →
      pteValid (mem page index) = true ∧ a.endsWalk (mem page index) = false ∧
        a.descends (mem page index) = true ∧ a.pteAddr (mem page index) = child
  vacant : ∀ {level number page index : Nat}, s.table (level + 1) number = some page →
    index < 512 → s.table level (number * 512 + index) = none → mem page index = 0#64 ∨
        (level + 1 = a.upperLevels ∧ 256 ≤ index ∧ pteValid (mem page index) = true ∧
          a.endsWalk (mem page index) = true)
  lower : ∀ {number page index : Nat}, s.table 0 number = some page → index < 512 →
    a.decode (mem page index) = s.leaf (number * 512 + index)
  clear : ∀ {number page index : Nat}, s.table 0 number = some page → index < 512 →
    s.leaf (number * 512 + index) = none → mem page index = 0#64
  parent : ∀ {level number page : Nat}, s.table level number = some page →
    (level = a.upperLevels ∧ number = 0) ∨
      (level < a.upperLevels ∧ ∃ up, s.table (level + 1) (number / 512) = some up)
  leafTable : ∀ {key : Nat} {x : Leaf}, s.leaf key = some x →
    ∃ page, s.table 0 (key / 512) = some page
  distinct : ∀ {level number other place page : Nat}, s.table level number = some page →
    s.table other place = some page → level = other ∧ number = place

namespace Represents

variable {a : Arch} {mem : PhysMem}

section

variable (rep : s.Represents a mem)

include rep

theorem above (bottom : s.table base (tableNumber base key) = some page) :
    ∀ level, base ≤ level → level ≤ a.upperLevels →
      ∃ up, s.table level (tableNumber level key) = some up := by
  intro level high
  induction level, high using Nat.le_induction with
  | base => exact fun _ => ⟨page, bottom⟩
  | succ _ _ ih =>
    intro bound
    obtain ⟨below, present⟩ := ih (by omega)
    rw [tableNumber_succ]
    rcases rep.parent present with ⟨top, _⟩ | ⟨_, up⟩
    · omega
    · exact up

protected theorem findPte (key : Nat) :
    ∀ {level table : Nat}, level ≤ a.upperLevels →
      s.table level (tableNumber level key) = some table → findPte a mem level table key =
          (s.table 0 (key / 512)).map fun page => (page, key % 512)
  | 0, table, _, present => by
    rw [tableNumber_zero] at present
    rw [present]
    rfl
  | level + 1, table, bound, present => by
    have inside : key / 512 ^ (level + 1) % 512 < 512 := Nat.mod_lt _ (by decide)
    cases below : s.table level (tableNumber level key) with
    | some =>
      rw [← tableNumber_index] at below
      obtain ⟨valid, goes, _, leads⟩ := rep.upper present inside below
      rw [tableNumber_index] at below
      rw [findPte, valid, goes, leads]
      exact Represents.findPte key (by omega) below
    | none =>
      have missing : s.table 0 (key / 512) = none := by
        cases bottom : s.table 0 (key / 512) with
        | none => rfl
        | some =>
          obtain ⟨up, there⟩ := rep.above bottom level (Nat.zero_le _) (by omega)
          rw [below] at there
          cases there
      rw [← tableNumber_index] at below
      rw [missing, findPte]
      rcases rep.vacant present inside below with zero | ⟨_, _, _, ends⟩
      · rw [zero, pteValid_zero]
        rfl
      · rw [ends, Bool.not_true, Bool.and_false]
        rfl

protected theorem leafOf (root : s.table a.upperLevels 0 = some pgd)
    (bound : key < 512 ^ (a.upperLevels + 1)) : leafOf a mem pgd key = s.leaf key := by
  have top : s.table a.upperLevels (tableNumber a.upperLevels key) = some pgd := by
    rw [tableNumber, Nat.div_eq_of_lt bound, root]
  rw [leafOf, rep.findPte key (le_refl _) top]
  cases bottom : s.table 0 (key / 512) with
  | none =>
    cases there : s.leaf key with
    | none => rfl
    | some =>
      obtain ⟨page, present⟩ := rep.leafTable there
      rw [bottom] at present
      cases present
  | some =>
    have reads := rep.lower bottom (Nat.mod_lt key (by decide))
    rw [Nat.div_add_mod'] at reads
    exact reads

theorem setLeaf (bottom : s.table 0 (key / 512) = some page)
    (blank : a.decode w = none → w = 0#64) :
    (s.setLeaf key (a.decode w)).Represents a (putWord mem page (key % 512) w) := by
  have above {level number up : Nat} (present : s.table (level + 1) number = some up) :
      up ≠ page := by
    rintro rfl
    exact absurd (rep.distinct present bottom).1 (Nat.succ_ne_zero level)
  have away {number up index : Nat} (present : s.table 0 number = some up) (inside : index < 512)
      (other : number * 512 + index ≠ key) : ¬ (up = page ∧ index = key % 512) := by
    rintro ⟨rfl, rfl⟩
    obtain ⟨_, rfl⟩ := rep.distinct present bottom
    exact other (Nat.div_add_mod' key 512)
  have here {number up index : Nat} (present : s.table 0 number = some up) (inside : index < 512)
      (same : number * 512 + index = key) : up = page ∧ index = key % 512 := by
    have place : number = key / 512 := by omega
    subst place
    rw [bottom] at present
    exact ⟨(Option.some.inj present).symm, by omega⟩
  exact {
    upper := fun present inside below => by
      rw [putWord_page_of_ne _ (above present)]
      exact rep.upper present inside below
    vacant := fun present inside below => by
      rw [putWord_page_of_ne _ (above present)]
      exact rep.vacant present inside below
    lower := fun {number up index} present inside => by
      by_cases same : number * 512 + index = key
      · obtain ⟨rfl, rfl⟩ := here present inside same
        rw [putWord_self, same, setLeaf_leaf_self]
      · rw [putWord_of_ne _ (away present inside same), setLeaf_leaf_of_ne _ same]
        exact rep.lower present inside
    clear := fun {number up index} present inside none => by
      by_cases same : number * 512 + index = key
      · obtain ⟨rfl, rfl⟩ := here present inside same
        rw [same, setLeaf_leaf_self] at none
        rw [putWord_self, blank none]
      · rw [setLeaf_leaf_of_ne _ same] at none
        rw [putWord_of_ne _ (away present inside same)]
        exact rep.clear present inside none
    parent := rep.parent
    leafTable := fun present => by
      rcases setLeaf_cases present with ⟨rfl, _⟩ | ⟨_, old⟩
      · exact ⟨page, bottom⟩
      · exact rep.leafTable old
    distinct := rep.distinct }

theorem no_child (bound : level < a.upperLevels) (missing : s.table (level + 1) number = none)
    (inside : index < 512) : s.table level (number * 512 + index) = none := by
  cases below : s.table level (number * 512 + index) with
  | none => rfl
  | some =>
    have back : (number * 512 + index) / 512 = number := by omega
    rcases rep.parent below with ⟨top, _⟩ | ⟨_, up, present⟩
    · omega
    · rw [back, missing] at present
      cases present

theorem no_leaf (missing : s.table 0 number = none) (inside : index < 512) :
    s.leaf (number * 512 + index) = none := by
  cases there : s.leaf (number * 512 + index) with
  | none => rfl
  | some =>
    have back : (number * 512 + index) / 512 = number := by omega
    obtain ⟨page, present⟩ := rep.leafTable there
    rw [back, missing] at present
    cases present

theorem addTable (bound : level < a.upperLevels)
    (up : s.table (level + 1) (tableNumber (level + 1) key) = some page)
    (missing : s.table level (tableNumber level key) = none)
    (fresh : ∀ other place, s.table other place ≠ some new) (aligned : new % 4096 = 0)
    (small : new < physLimit) :
    (s.setTable level (tableNumber level key) (some new)).Represents a
      (putWord (update mem new fun _ => 0#64) page (key / 512 ^ (level + 1) % 512)
        (a.tablePte new)) := by
  have apart {other place old : Nat} (present : s.table other place = some old) : old ≠ new :=
    fun same => fresh other place (same ▸ present)
  have index := tableNumber_index level key
  have inside : key / 512 ^ (level + 1) % 512 < 512 := Nat.mod_lt _ (by decide)
  generalize key / 512 ^ (level + 1) % 512 = slot at index inside ⊢
  -- reading an entry of an old table that is not the new link
  have old {other place table i : Nat} (present : s.table other place = some table)
      (away : ¬ (other = level + 1 ∧ place * 512 + i = tableNumber level key)) (small : i < 512) :
      putWord (update mem new fun _ => 0#64) page slot (a.tablePte new) table i = mem table i := by
    rw [putWord_of_ne, update_of_ne (apart present)]
    rintro ⟨rfl, rfl⟩
    obtain ⟨rfl, rfl⟩ := rep.distinct present up
    exact away ⟨rfl, index⟩
  have zero (i : Nat) :
      putWord (update mem new fun _ => 0#64) page slot (a.tablePte new) new i = 0#64 := by
    rw [putWord_page_of_ne _ (apart up).symm, update_self]
  have link : putWord (update mem new fun _ => 0#64) page slot (a.tablePte new) page slot =
      a.tablePte new := putWord_self ..
  exact {
    upper := fun {other place table i child} present small' below => by
      rcases setTable_cases present with ⟨rfl, rfl, _⟩ | ⟨_, held⟩
      · rw [setTable_table_of_ne _ (by omega), rep.no_child (by omega) missing small'] at below
        cases below
      · rcases setTable_cases below with ⟨rfl, place', same⟩ | ⟨away, below⟩
        · have where' : place = tableNumber (other + 1) key := by omega
          subst where'
          have slot' : i = slot := by omega
          subst slot'
          rw [up] at held
          cases held
          cases same
          rw [link]
          exact tablePte_spec a aligned small
        · rw [old held (fun hit => away ⟨by omega, hit.2⟩) small']
          exact rep.upper held small' below
    vacant := fun {other place table i} present small' below => by
      rcases setTable_cases present with ⟨here, rfl, same⟩ | ⟨_, present⟩
      · cases same
        exact .inl (zero i)
      · by_cases hit : other = level ∧ place * 512 + i = tableNumber level key
        · rw [hit.1, hit.2, setTable_table_self] at below
          cases below
        · rw [setTable_table_of_ne _ hit] at below
          rw [old present (fun same => hit ⟨by omega, same.2⟩) small']
          exact rep.vacant present small' below
    lower := fun {place table i} present small' => by
      rcases setTable_cases present with ⟨here, rfl, same⟩ | ⟨_, present⟩
      · cases same
        subst here
        rw [zero, decode_zero, setTable_leaf, rep.no_leaf missing small']
      · rw [old present (fun same => absurd same.1 (Nat.succ_ne_zero level).symm) small']
        exact rep.lower present small'
    clear := fun {place table i} present small' none => by
      rcases setTable_cases present with ⟨here, rfl, same⟩ | ⟨_, present⟩
      · cases same
        exact zero i
      · rw [old present (fun same => absurd same.1 (Nat.succ_ne_zero level).symm) small']
        exact rep.clear present small' none
    parent := fun {other place table} present => by
      rcases setTable_cases present with ⟨rfl, rfl, _⟩ | ⟨_, present⟩
      · refine .inr ⟨bound, page, ?_⟩
        rw [setTable_table_of_ne _ (by omega), ← tableNumber_succ]
        exact up
      · rcases rep.parent present with top | ⟨below, above, there⟩
        · exact .inl top
        · refine .inr ⟨below, ?_⟩
          by_cases hit : other + 1 = level ∧ place / 512 = tableNumber level key
          · exact ⟨new, by rw [hit.1, hit.2, setTable_table_self]⟩
          · exact ⟨above, by rw [setTable_table_of_ne _ hit]; exact there⟩
    leafTable := fun {place x} present => by
      obtain ⟨table, there⟩ := rep.leafTable present
      by_cases hit : 0 = level ∧ place / 512 = tableNumber level key
      · exact ⟨new, by rw [hit.1, hit.2, setTable_table_self]⟩
      · exact ⟨table, by rw [setTable_table_of_ne _ hit]; exact there⟩
    distinct := fun {l n l' n' table} first second => by
      rcases setTable_cases first with ⟨rfl, rfl, same⟩ | ⟨_, left⟩ <;>
        rcases setTable_cases second with ⟨rfl, rfl, same'⟩ | ⟨_, right⟩
      · exact ⟨rfl, rfl⟩
      · cases same
        exact absurd right (fresh _ _)
      · cases same'
        exact absurd left (fresh _ _)
      · exact rep.distinct left right }

end

end Represents

end Space

end AvatarKernel
