import Mathlib.Algebra.GroupWithZero.Nat
import Mathlib.Data.List.FinRange

namespace Chain

universe u v

variable {ι : Type u} {κ : Type v}

/-- Following `next` from `head` visits exactly the nodes of the list, in this order, and ends. -/
inductive IsChain (next : ι → Option ι) : Option ι → List ι → Prop
  | nil : IsChain next none []
  | cons {i : ι} {rest : List ι} : IsChain next (next i) rest → IsChain next (some i) (i :: rest)

/-- `for (i = head; i >= 0; i = next[i]) if (found(i)) return i;` -/
def walk (next : ι → Option ι) (found : ι → Bool) : Nat → Option ι → Option ι
  | 0, _ => none
  | _ + 1, none => none
  | steps + 1, some i => if found i then some i else walk next found steps (next i)

/-- `while (i >= 0 && !found(i)) { prev = i; i = next[i]; }` with its final `prev` and `i` -/
def walkPrev (next : ι → Option ι) (found : ι → Bool) :
    Nat → Option ι → Option ι → Option ι × Option ι
  | 0, prev, _ => (prev, none)
  | _ + 1, prev, none => (prev, none)
  | steps + 1, prev, some i =>
    if found i then (prev, some i) else walkPrev next found steps (some i) (next i)

section Lists

variable {next other : ι → Option ι} {head : Option ι} {l : List ι}

namespace IsChain

theorem head_nil (chain : IsChain next head []) : head = none := by
  cases chain
  rfl

theorem head_cons (chain : IsChain next head (i :: l)) : head = some i := by
  cases chain
  rfl

theorem tail (chain : IsChain next head (i :: l)) : IsChain next (next i) l := by
  cases chain
  assumption

theorem unique (left : IsChain next head l) (right : IsChain next head m) : l = m := by
  induction left generalizing m with
  | nil =>
    cases right
    rfl
  | cons _ ih =>
    cases right with
    | cons rest => rw [ih rest]

theorem suffix (chain : IsChain next head (pre ++ i :: post)) : IsChain next (next i) post := by
  induction pre generalizing head with
  | nil => exact chain.tail
  | cons _ _ ih => exact ih chain.tail

theorem nodup (chain : IsChain next head l) : l.Nodup := by
  induction chain with
  | nil => exact List.nodup_nil
  | @cons i l rest ih =>
    refine List.nodup_cons.mpr ⟨fun again => ?_, ih⟩
    obtain ⟨pre, post, split⟩ := List.append_of_mem again
    rw [split] at rest
    have lengths := congrArg List.length (rest.suffix.unique rest)
    simp only [List.length_append, List.length_cons] at lengths
    omega

theorem congr (chain : IsChain next head l) (same : ∀ i ∈ l, other i = next i) :
    IsChain other head l := by
  induction chain with
  | nil => exact .nil
  | @cons i l _ ih =>
    refine .cons ?_
    rw [same i (List.mem_cons_self ..)]
    exact ih fun j member => same j (List.mem_cons_of_mem i member)

theorem unlink (chain : IsChain next head (front ++ p :: i :: post)) (link : other p = next i)
    (same : ∀ j, j ∈ front ∨ j ∈ post → other j = next j) :
    IsChain other head (front ++ p :: post) := by
  induction front generalizing head with
  | nil =>
    rw [chain.head_cons]
    refine .cons ?_
    rw [link]
    exact chain.tail.tail.congr fun j member => same j (.inr member)
  | cons q _ ih =>
    rw [chain.head_cons]
    refine .cons ?_
    rw [same q (.inl (List.mem_cons_self ..))]
    exact ih chain.tail fun j member => same j (member.imp_left (List.mem_cons_of_mem q))

end IsChain

theorem isChain_finRange [NeZero n] {next : Fin n → Option (Fin n)}
    (link : ∀ i, next i = if h : i.val + 1 < n then some ⟨i.val + 1, h⟩ else none) :
    IsChain next (some 0) (List.finRange n) := by
  suffices tail : ∀ left k, k + left = n →
      IsChain next (if h : k < n then some ⟨k, h⟩ else none) ((List.finRange n).drop k) by
    have whole := tail n 0 (Nat.zero_add n)
    rwa [dif_pos (Nat.pos_of_neZero n), List.drop_zero] at whole
  intro left
  induction left with
  | zero =>
    intro k last
    have past : ¬ k < n := by omega
    rw [dif_neg past, List.drop_eq_nil_of_le (by simp; omega)]
    exact .nil
  | succ _ ih =>
    intro k more
    have inside : k < n := by omega
    rw [dif_pos inside, List.drop_eq_getElem_cons (by simpa using inside)]
    have rest := ih (k + 1) (by omega)
    rw [← link ⟨k, inside⟩] at rest
    simpa using IsChain.cons rest

theorem walk_eq_find (found : ι → Bool) (steps : Nat) (chain : IsChain next head l)
    (enough : l.length ≤ steps) : walk next found steps head = l.find? found := by
  induction l generalizing head steps with
  | nil =>
    have empty := chain.head_nil
    subst empty
    cases steps <;> rfl
  | cons i _ ih =>
    cases steps with
    | zero => simp at enough
    | succ steps =>
      rw [chain.head_cons, walk, List.find?_cons]
      cases found i with
      | true => rfl
      | false => exact ih steps chain.tail (by simpa using enough)

theorem walk_found (hit : walk next found steps head = some i) : found i = true := by
  induction steps generalizing head with
  | zero => cases hit
  | succ _ ih =>
    cases head with
    | none => cases hit
    | some =>
      rw [walk] at hit
      split at hit
      · rename_i here
        cases hit
        exact here
      · exact ih hit

theorem walkPrev_spec (found : ι → Bool) (steps : Nat) (prev : Option ι)
    (chain : IsChain next head l) (enough : l.length ≤ steps) :
    ((∀ i ∈ l, found i = false) ∧ (walkPrev next found steps prev head).2 = none) ∨
      ∃ pre i post, l = pre ++ i :: post ∧ found i = true ∧
        walkPrev next found steps prev head = (pre.getLast?.or prev, some i) := by
  induction l generalizing head steps prev with
  | nil =>
    have empty := chain.head_nil
    subst empty
    refine .inl ⟨by simp, ?_⟩
    cases steps <;> rfl
  | cons i l ih =>
    cases steps with
    | zero => simp at enough
    | succ steps =>
      rw [chain.head_cons, walkPrev]
      cases here : found i with
      | true => exact .inr ⟨[], i, l, rfl, here, rfl⟩
      | false =>
        rcases ih steps (some i) chain.tail (by simpa using enough) with
          ⟨none', stop⟩ | ⟨pre, j, post, split, hit, stop⟩
        · left
          refine ⟨fun j member => ?_, stop⟩
          rcases List.mem_cons.mp member with rfl | later
          · exact here
          · exact none' j later
        · right
          refine ⟨i :: pre, j, post, by rw [split, List.cons_append], hit, ?_⟩
          simp only [Bool.false_eq_true, ↓reduceIte, stop]
          cases pre with
          | nil => rfl
          | cons q pre =>
            rw [List.getLast?_cons_cons]
            cases last : (q :: pre).getLast? with
            | none => simp at last
            | some => rfl

end Lists

/-- A family of chains through one `next` field that shares the nodes out: every node is on exactly
one of them. -/
structure Forest (next : ι → Option ι) (heads : κ → Option ι) (lists : κ → List ι) : Prop where
  chain : ∀ k, IsChain next (heads k) (lists k)
  cover : ∀ i, ∃ k, i ∈ lists k
  apart : ∀ i k m, i ∈ lists k → i ∈ lists m → k = m

section Forests

variable [DecidableEq κ] {next other : ι → Option ι} {heads newHeads : κ → Option ι}
variable {lists : κ → List ι} {src dst : κ} {pre post : List ι} {i : ι}

/-- The lists after a node has been taken out of one chain and put in front of another. -/
def moved (lists : κ → List ι) (src dst : κ) (pre post : List ι) (i : ι) : κ → List ι :=
  fun k => if k = dst then i :: lists dst else if k = src then pre ++ post else lists k

theorem mem_moved (place : lists src = pre ++ i :: post) (ne : src ≠ dst) (j : ι) (k : κ)
    (other : j ≠ i) : j ∈ moved lists src dst pre post i k ↔ j ∈ lists k := by
  unfold moved
  by_cases atDst : k = dst
  · subst atDst
    simp [other]
  · by_cases atSrc : k = src
    · subst atSrc
      simp [ne, place, other]
    · simp [atDst, atSrc]

theorem mem_moved_self (forest : Forest next heads lists) (place : lists src = pre ++ i :: post)
    (k : κ) : i ∈ moved lists src dst pre post i k ↔ k = dst := by
  have here : i ∈ lists src := by simp [place]
  have nodup : (pre ++ i :: post).Nodup := by
    rw [← place]
    exact (forest.chain src).nodup
  unfold moved
  by_cases atDst : k = dst
  · simp [atDst]
  · by_cases atSrc : k = src
    · have gone : i ∉ pre ++ post := by
        have split := List.nodup_middle.mp nodup
        exact (List.nodup_cons.mp split).1
      rw [if_neg atDst, if_pos atSrc]
      exact ⟨fun member => absurd member gone, fun equal => absurd equal atDst⟩
    · have away : i ∉ lists k := fun member => atSrc (forest.apart i k src member here)
      simp [atDst, atSrc, away]

/-- Moving a node from one chain to the front of another keeps the sharing. The links that change
are the moved node's own and the one that led to it. -/
theorem Forest.move (forest : Forest next heads lists) (ne : src ≠ dst)
    (place : lists src = pre ++ i :: post) (link : other i = heads dst)
    (front : newHeads dst = some i) (headSame : ∀ k, k ≠ src → k ≠ dst → newHeads k = heads k)
    (unlinked : (pre = [] ∧ newHeads src = next i ∧ ∀ j, j ≠ i → other j = next j) ∨
      ∃ before p, pre = before ++ [p] ∧ newHeads src = heads src ∧ other p = next i ∧
        ∀ j, j ≠ i → j ≠ p → other j = next j) :
    Forest other newHeads (moved lists src dst pre post i) := by
  have chainSrc := forest.chain src
  rw [place] at chainSrc
  have nodup := chainSrc.nodup
  have gone : i ∉ pre ++ post := (List.nodup_cons.mp (List.nodup_middle.mp nodup)).1
  have here : i ∈ lists src := by simp [place]
  -- a chain other than the source keeps its links
  have keep : ∀ k, k ≠ src → ∀ j ∈ lists k, other j = next j := by
    intro k away j member
    have notI : j ≠ i := fun same => away (forest.apart i k src (same ▸ member) here)
    rcases unlinked with ⟨-, -, same⟩ | ⟨before, p, shape, -, -, same⟩
    · exact same j notI
    · refine same j notI fun atP => away (forest.apart j k src member ?_)
      rw [place, shape, atP]
      simp
  refine ⟨fun k => ?_, fun j => ?_, fun j k m left right => ?_⟩
  · by_cases atDst : k = dst
    · subst atDst
      rw [moved, if_pos rfl]
      rw [front]
      refine .cons ?_
      rw [link]
      exact (forest.chain k).congr (keep k (Ne.symm ne))
    · by_cases atSrc : k = src
      · subst atSrc
        rw [moved, if_neg ne, if_pos rfl]
        rcases unlinked with ⟨shape, head, same⟩ | ⟨before, p, shape, head, joint, same⟩
        · subst shape
          rw [head]
          exact chainSrc.tail.congr fun j member => same j fun equal =>
            gone (by simp [← equal, member])
        · subst shape
          rw [head, List.append_assoc]
          rw [List.append_assoc] at chainSrc nodup
          refine chainSrc.unlink joint fun j member => same j ?_ ?_
          · intro equal
            apply gone
            rw [← equal]
            rcases member with left | right
            · simp [left]
            · simp [right]
          · intro equal
            have once : p ∉ before ++ i :: post :=
              (List.nodup_cons.mp (List.nodup_middle.mp nodup)).1
            apply once
            rw [← equal]
            rcases member with left | right
            · simp [left]
            · simp [right]
      · rw [moved, if_neg atDst, if_neg atSrc, headSame k atSrc atDst]
        exact (forest.chain k).congr (keep k atSrc)
  · by_cases same : j = i
    · subst same
      exact ⟨dst, (mem_moved_self forest place dst).mpr rfl⟩
    · obtain ⟨k, member⟩ := forest.cover j
      exact ⟨k, (mem_moved place ne j k same).mpr member⟩
  · by_cases same : j = i
    · subst same
      rw [mem_moved_self forest place] at left right
      rw [left, right]
    · rw [mem_moved place ne j _ same] at left right
      exact forest.apart j k m left right

end Forests

end Chain
