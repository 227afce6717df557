import AvatarKernel.Lib.Counting
import Mathlib.Data.Fintype.Prod

/-! Finite families of entries that name things, and how many entries name each thing. -/

namespace Tally

variable {ι κ : Type} [DecidableEq κ]

def names (entry : Option κ) (k : κ) : Nat := if entry = some k then 1 else 0

theorem names_some (a k : κ) : names (some a) k = if a = k then 1 else 0 := by
  simp only [names, Option.some.injEq]

theorem names_none (k : κ) : names none k = 0 := by
  rw [names, if_neg (Option.some_ne_none k).symm]

def tally [Fintype ι] (entries : ι → Option κ) (k : κ) : Nat :=
  (Finset.univ.filter fun i => entries i = some k).card

variable [Fintype ι] {entries : ι → Option κ} {k : κ}

theorem tally_update [DecidableEq ι] (entries : ι → Option κ) (i : ι) (entry : Option κ) (k : κ) :
    tally (Function.update entries i entry) k + names (entries i) k =
      tally entries k + names entry k :=
  Counting.card_update (fun e => e = some k) entries i entry

theorem tally_map_update [DecidableEq ι] (entry : β → Option κ) (things : ι → β) (i : ι) (b : β)
    (k : κ) :
    tally (fun j => entry (Function.update things i b j)) k + names (entry (things i)) k =
      tally (fun j => entry (things j)) k + names (entry b) k := by
  rw [show (fun j => entry (Function.update things i b j)) = _ from
    Function.comp_update entry things i b]
  exact tally_update (fun j => entry (things j)) i (entry b) k

theorem tally_pos (entry : entries i = some k) : 0 < tally entries k :=
  Finset.card_pos.mpr ⟨i, Finset.mem_filter.mpr ⟨Finset.mem_univ i, entry⟩⟩

theorem tally_none (nothing : ∀ i, entries i = none) : tally entries k = 0 := by
  apply Finset.card_eq_zero.mpr
  apply Finset.filter_eq_empty_iff.mpr
  intro i _ entry
  rw [nothing i] at entry
  cases entry

end Tally
