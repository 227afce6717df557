import AvatarKernel.Mm.Bitmap

namespace AvatarKernel

def ClearWindow (b : Bitmap) (count i : Nat) : Prop :=
  i + count ≤ b.size ∧ ∀ j, j < count → bitmapTest b (i + j) = false

def FindsFirst (b : Bitmap) (count start : Nat) : Option Nat → Prop
  | some i => start ≤ i ∧ ClearWindow b count i ∧ ∀ k, start ≤ k → k < i → ¬ ClearWindow b count k
  | none => ∀ k, start ≤ k → ¬ ClearWindow b count k

variable {b : Bitmap} {count : Nat}

theorem not_clearWindow_of_set (occupied : bitmapTest b at' = true) (lower : k ≤ at')
    (upper : at' < k + count) : ¬ ClearWindow b count k := by
  rintro ⟨-, clear⟩
  have free := clear (at' - k) (by omega)
  rw [Nat.add_sub_cancel' lower, occupied] at free
  contradiction

theorem not_clearWindow_of_beyond (beyond : b.size < k + count) : ¬ ClearWindow b count k := by
  rintro ⟨fits, -⟩
  omega

theorem bitmapScan_spec (b : Bitmap) (i remaining j : Nat) :
    j ≤ bitmapScan b i remaining j ∧ bitmapScan b i remaining j ≤ j + remaining ∧
      (∀ k, j ≤ k → k < bitmapScan b i remaining j → bitmapTest b (i + k) = false) ∧
      (bitmapScan b i remaining j < j + remaining →
        bitmapTest b (i + bitmapScan b i remaining j) = true) := by
  induction remaining generalizing j with
  | zero =>
    rw [bitmapScan]
    exact ⟨le_refl j, le_refl j, fun k lower below => absurd below (by omega),
      fun early => absurd early (by omega)⟩
  | succ _ ih =>
    rw [bitmapScan]
    cases here : bitmapTest b (i + j) with
    | true =>
      simp only [↓reduceIte]
      exact ⟨le_refl j, by omega, by omega, fun _ => here⟩
    | false =>
      obtain ⟨lower, upper, clear, stopped⟩ := ih (j + 1)
      simp only [Bool.false_eq_true, ↓reduceIte]
      refine ⟨by omega, by omega, ?_, fun early => stopped (by omega)⟩
      intro k from' below
      by_cases first : k = j
      · rw [first, here]
      · exact clear k (by omega) below

theorem bitmapScan_window (b : Bitmap) (i count : Nat) (fits : i + count ≤ b.size)
    (whole : bitmapScan b i count 0 = count) : ClearWindow b count i := by
  obtain ⟨-, -, clear, -⟩ := bitmapScan_spec b i count 0
  exact ⟨fits, fun j below => clear j (Nat.zero_le j) (by omega)⟩

theorem bitmapScan_stopped (b : Bitmap) (i count : Nat) (early : bitmapScan b i count 0 ≠ count) :
    bitmapScan b i count 0 < count ∧ bitmapTest b (i + bitmapScan b i count 0) = true := by
  obtain ⟨-, upper, -, stopped⟩ := bitmapScan_spec b i count 0
  exact ⟨by omega, stopped (by omega)⟩

theorem FindsFirst.skip (found : FindsFirst b count next result) (ahead : start ≤ next)
    (skipped : ∀ k, start ≤ k → k < next → ¬ ClearWindow b count k) :
    FindsFirst b count start result := by
  cases result with
  | none =>
    intro k lower
    by_cases before : k < next
    · exact skipped k lower before
    · exact found k (by omega)
  | some =>
    obtain ⟨lower, window, lowest⟩ := found
    refine ⟨by omega, window, fun k from' below => ?_⟩
    by_cases before : k < next
    · exact skipped k from' before
    · exact lowest k (by omega) below

theorem findsFirst_here (window : ClearWindow b count start) :
    FindsFirst b count start (some start) :=
  ⟨le_refl start, window, fun k lower below => absurd below (by omega)⟩

theorem findsFirst_exhausted (beyond : b.size < start + count) : FindsFirst b count start none :=
  fun k lower => not_clearWindow_of_beyond (by omega)

/-- A round of a search: the window is here, or the search goes on at a start that is not beyond the
first occupied bit, which every window up to it contains. -/
theorem findsFirst_round (found : FindsFirst b count next rest) (lower : i ≤ next)
    (upper : next ≤ i + bitmapScan b i count 0 + 1) :
    FindsFirst b count i
      (if i + count ≤ b.size then if bitmapScan b i count 0 = count then some i else rest
        else none) := by
  by_cases fits : i + count ≤ b.size
  · rw [if_pos fits]
    by_cases whole : bitmapScan b i count 0 = count
    · rw [if_pos whole]
      exact findsFirst_here (bitmapScan_window b i count fits whole)
    · rw [if_neg whole]
      obtain ⟨below, occupied⟩ := bitmapScan_stopped b i count whole
      exact found.skip lower fun k first last =>
        not_clearWindow_of_set occupied (by omega) (by omega)
  · rw [if_neg fits]
    exact findsFirst_exhausted (by omega)

theorem bitmapFindFromLoop_spec (b : Bitmap) (count rounds i : Nat)
    (enough : b.size < i + rounds + count) :
    FindsFirst b count i (bitmapFindFromLoop b count rounds i) := by
  induction rounds generalizing i with
  | zero => exact findsFirst_exhausted enough
  | succ _ ih => exact findsFirst_round (ih _ (by omega)) (by omega) le_rfl

theorem bitmapFindLoop_spec (b : Bitmap) (count rounds i : Nat)
    (enough : b.size < i + rounds + count) :
    FindsFirst b count i (bitmapFindLoop b count rounds i) := by
  induction rounds generalizing i with
  | zero => exact findsFirst_exhausted enough
  | succ _ ih => exact findsFirst_round (ih _ (by omega)) (by omega) (by omega)

theorem bitmapFindContiguousFreeFrom_spec (b : Bitmap) (count start : Nat) (positive : 0 < count) :
    FindsFirst b count start (bitmapFindContiguousFreeFrom b count start) := by
  unfold bitmapFindContiguousFreeFrom
  split
  · exact findsFirst_exhausted (by omega)
  · split
    · exact findsFirst_exhausted (by omega)
    · exact bitmapFindFromLoop_spec b count _ start (by omega)

theorem bitmapFindContiguousFree_spec (b : Bitmap) (count : Nat) (positive : 0 < count) :
    FindsFirst b count 0 (bitmapFindContiguousFree b count) := by
  unfold bitmapFindContiguousFree
  split
  · exact findsFirst_exhausted (by omega)
  · exact bitmapFindLoop_spec b count _ 0 (by omega)

end AvatarKernel
