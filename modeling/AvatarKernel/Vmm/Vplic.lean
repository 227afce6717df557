import AvatarKernel.Lib.BitScan
import AvatarKernel.Lib.Transition

namespace AvatarKernel

open Function Transition

/-- `vplic_state_t`. Pending is kept per source, the rest per hart context. -/
structure Vplic where
  nrVcpus : Nat
  priority : Nat → BitVec 32
  pending : BitVec 64
  active : Nat → BitVec 64
  enable : Nat → BitVec 64
  threshold : Nat → BitVec 32

def vplicMaxIrqs : Nat := 64

def vplicMaxVcpus : Nat := 12

def vplicInit (nrVcpus : Nat) : Vplic where
  nrVcpus := if nrVcpus < 1 then 1 else if nrVcpus > vplicMaxVcpus then vplicMaxVcpus else nrVcpus
  priority := fun _ => 0#32
  pending := 0#64
  active := fun _ => 0#64
  enable := fun _ => 0#64
  threshold := fun _ => 0#32

def sourceBit (irq : Nat) : BitVec 64 := 1#64 <<< irq

/-- `~1ULL`: source 0 does not exist. -/
def validIrqMask : BitVec 64 := ~~~1#64

def Vplic.candidates (s : Vplic) (ctx : Nat) : BitVec 64 :=
  s.pending &&& s.enable ctx &&& ~~~s.active ctx &&& validIrqMask

def Vplic.better (s : Vplic) (best : Nat × BitVec 32) (irq : Nat) : Nat × BitVec 32 :=
  if s.priority irq > best.2 then (irq, s.priority irq) else best

/-- `vplic_next_deliverable_locked` -/
def Vplic.nextDeliverable (s : Vplic) (ctx : Nat) : Nat :=
  if ctx ≥ s.nrVcpus ∨ ctx ≥ vplicMaxVcpus then 0
  else (BitScan.foldBits s.better vplicMaxIrqs (s.candidates ctx) (0, s.threshold ctx)).1

def Vplic.grant (s : Vplic) (ctx irq : Nat) : Vplic :=
  { s with
    pending := s.pending &&& ~~~sourceBit irq
    active := update s.active ctx (s.active ctx ||| sourceBit irq) }

/-- `vplic_claim_locked` -/
def Vplic.claim (s : Vplic) (ctx : Nat) : Vplic × Nat :=
  if ctx ≥ vplicMaxVcpus then (s, 0)
  else if s.nextDeliverable ctx = 0 then (s, 0)
  else (s.grant ctx (s.nextDeliverable ctx), s.nextDeliverable ctx)

/-- `vplic_complete_locked` -/
def Vplic.complete (s : Vplic) (ctx irq : Nat) : Vplic :=
  if ctx ≥ vplicMaxVcpus ∨ irq = 0 ∨ irq ≥ vplicMaxIrqs then s
  else { s with active := update s.active ctx (s.active ctx &&& ~~~sourceBit irq) }

def Vplic.setPending (s : Vplic) (irq : Nat) : Vplic :=
  if irq = 0 ∨ irq ≥ vplicMaxIrqs then s else { s with pending := s.pending ||| sourceBit irq }

/-- The context and the register in it that an offset from `CONTEXT_OFFSET` on denotes. -/
def contextOf (off : Nat) : Nat := (off - 0x200000) / 0x1000 % 2 ^ 32

def contextReg (off : Nat) : Nat := (off - 0x200000) % 0x1000

def Vplic.readContext (s : Vplic) (ctx reg : Nat) : Vplic × Nat :=
  if ctx < s.nrVcpus then
    if reg = 0 then (s, (s.threshold ctx).toNat) else if reg = 4 then s.claim ctx else (s, 0)
  else (s, 0)

def Vplic.writeContext (s : Vplic) (ctx reg : Nat) (v : BitVec 32) : Vplic :=
  if ctx < s.nrVcpus then
    if reg = 0 then { s with threshold := update s.threshold ctx v }
    else if reg = 4 then s.complete ctx v.toNat
    else s
  else s

def Vplic.read (s : Vplic) (off : Nat) : Vplic × Nat :=
  if off < vplicMaxIrqs * 4 then (s, (s.priority (off / 4)).toNat)
  else if 0x1000 ≤ off ∧ off < 0x1000 + 8 then
    (s, (s.pending >>> ((off - 0x1000) / 4 * 32)).toNat % 2 ^ 32)
  else if 0x2000 ≤ off ∧ off < 0x2000 + 0x80 * vplicMaxVcpus then
    if (off - 0x2000) / 0x80 < s.nrVcpus ∧ (off - 0x2000) % 0x80 / 4 < 2 then
      (s, (s.enable ((off - 0x2000) / 0x80) >>> ((off - 0x2000) % 0x80 / 4 * 32)).toNat % 2 ^ 32)
    else (s, 0)
  else if 0x200000 ≤ off then s.readContext (contextOf off) (contextReg off)
  else (s, 0)

def enableWord (old : BitVec 64) (word : Nat) (v : BitVec 32) : BitVec 64 :=
  (old &&& ~~~(0xFFFFFFFF#64 <<< (word * 32))) |||
    ((v.setWidth 64 <<< (word * 32)) &&& validIrqMask)

/-- `vplic_write` with the low 32 bits of the value. -/
def Vplic.write (s : Vplic) (off : Nat) (v : BitVec 32) : Vplic :=
  if off < vplicMaxIrqs * 4 then
    if off / 4 > 0 then { s with priority := update s.priority (off / 4) v } else s
  else if 0x2000 ≤ off ∧ off < 0x2000 + 0x80 * vplicMaxVcpus then
    if (off - 0x2000) / 0x80 < s.nrVcpus ∧ (off - 0x2000) % 0x80 / 4 < 2 then
      { s with
        enable := update s.enable ((off - 0x2000) / 0x80)
          (enableWord (s.enable ((off - 0x2000) / 0x80)) ((off - 0x2000) % 0x80 / 4) v) }
    else s
  else if 0x200000 ≤ off then s.writeContext (contextOf off) (contextReg off) v
  else s

/-- The vPLIC of a guest. `held` is what the guest knows: which context has got which source from a
claim and has not completed it since. -/
structure PlicGuest where
  plic : Vplic
  held : Nat → Nat → Bool

inductive PlicAction where
  | raise (irq : Nat)
  | claim (ctx : Nat)
  | complete (ctx irq : Nat)
  | read (off : Nat)
  | write (off : Nat) (value : BitVec 32)

def claimContext (off : Nat) : Option Nat :=
  if 0x200000 ≤ off ∧ contextReg off = 4 then some (contextOf off) else none

def PlicGuest.take (m : PlicGuest) (ctx irq : Nat) : Nat → Nat → Bool :=
  fun c i => m.held c i || (c == ctx && i == irq && irq != 0)

def PlicGuest.release (m : PlicGuest) (ctx irq : Nat) : Nat → Nat → Bool :=
  fun c i => m.held c i && !(c == ctx && i == irq)

/-- Each function and each register access holds the lock of the vPLIC throughout. -/
def PlicGuest.next (m : PlicGuest) : PlicAction → PlicGuest
  | .raise irq => { m with plic := m.plic.setPending irq }
  | .claim ctx => ⟨(m.plic.claim ctx).1, m.take ctx (m.plic.claim ctx).2⟩
  | .complete ctx irq => ⟨m.plic.complete ctx irq, m.release ctx irq⟩
  | .read off =>
    ⟨(m.plic.read off).1,
      match claimContext off with
      | some ctx => m.take ctx (m.plic.read off).2
      | none => m.held⟩
  | .write off value =>
    ⟨m.plic.write off value,
      match claimContext off with
      | some ctx => m.release ctx value.toNat
      | none => m.held⟩

def PlicGuest.start (nrVcpus : Nat) : PlicGuest := ⟨vplicInit nrVcpus, fun _ _ => false⟩

@[simp] theorem getLsbD_sourceBit (irq i : Nat) :
    (sourceBit irq).getLsbD i = (decide (irq = i) && decide (i < 64)) := by
  have same : sourceBit irq = BitVec.twoPow 64 irq := (BitVec.twoPow_eq 64 irq).symm
  rw [same, BitVec.getLsbD_twoPow]
  by_cases here : irq = i
  · simp [here]
  · simp [here]

@[simp] theorem getLsbD_validIrqMask (i : Nat) :
    validIrqMask.getLsbD i = (decide (i < 64) && decide (i ≠ 0)) := by
  unfold validIrqMask
  rw [BitVec.getLsbD_not, BitVec.getLsbD_one]
  cases i <;> simp

variable (s : Vplic)

theorem getLsbD_candidates (ctx irq : Nat) :
    (s.candidates ctx).getLsbD irq = true ↔
      s.pending.getLsbD irq = true ∧ (s.enable ctx).getLsbD irq = true ∧
        (s.active ctx).getLsbD irq = false ∧ irq ≠ 0 := by
  unfold Vplic.candidates
  simp only [BitVec.getLsbD_and, BitVec.getLsbD_not, getLsbD_validIrqMask, Bool.and_eq_true,
    decide_eq_true_eq, Bool.not_eq_true']
  constructor
  · rintro ⟨⟨⟨pending, enable⟩, _, active⟩, _, source⟩
    exact ⟨pending, enable, active, source⟩
  · rintro ⟨pending, enable, active, source⟩
    have inside := BitVec.lt_of_getLsbD pending
    exact ⟨⟨⟨pending, enable⟩, inside, active⟩, inside, source⟩

/-- A source out of a set that has the highest priority above a threshold, the first such. -/
structure Vplic.Chosen (s : Vplic) (ctx : Nat) (among : Nat → Prop) (irq : Nat) : Prop where
  member : among irq
  above : s.threshold ctx < s.priority irq
  best : ∀ other, among other → s.priority other < s.priority irq ∨
    (s.priority other = s.priority irq ∧ irq ≤ other)

/-- The loop over the candidates with `rest` still to come: the bits seen so far have no priority
above `best`, and only a bit with its priority that comes later. -/
structure Vplic.Scan (s : Vplic) (ctx : Nat) (rest : BitVec 64) (best : Nat × BitVec 32) :
    Prop where
  within : ∀ i, rest.getLsbD i = true → (s.candidates ctx).getLsbD i = true
  none : best.1 = 0 → best.2 = s.threshold ctx
  some : best.1 ≠ 0 → (s.candidates ctx).getLsbD best.1 = true ∧ s.threshold ctx < best.2 ∧
    best.2 = s.priority best.1 ∧ ∀ i, rest.getLsbD i = true → best.1 < i
  seen : ∀ i, (s.candidates ctx).getLsbD i = true → rest.getLsbD i = false →
    s.priority i < best.2 ∨ (s.priority i = best.2 ∧ best.1 ≤ i)

theorem Vplic.Scan.start (ctx : Nat) :
    s.Scan ctx (s.candidates ctx) (0, s.threshold ctx) where
  within := fun _ set => set
  none := fun _ => rfl
  some := fun absurd => (absurd rfl).elim
  seen := by
    intro i set clear
    rw [set] at clear
    cases clear

variable {ctx : Nat}

theorem Vplic.Scan.round {s : Vplic} {rest : BitVec 64} {best : Nat × BitVec 32}
    (more : rest ≠ 0#64) (scan : s.Scan ctx rest best) :
    s.Scan ctx (BitScan.clearLowest rest) (s.better best (BitScan.lowest rest)) := by
  have set := BitScan.lowest_set more
  have left := BitScan.clearLowest_iff rest
  have candidate := scan.within _ set
  have source : BitScan.lowest rest ≠ 0 := ((getLsbD_candidates _ _ _).mp candidate).2.2.2
  have within : ∀ i, (BitScan.clearLowest rest).getLsbD i = true →
      (s.candidates ctx).getLsbD i = true := fun i bit => scan.within i ((left i).mp bit).1
  -- A candidate that is not left over was seen before, or is the lowest bit.
  have seen : ∀ i, (BitScan.clearLowest rest).getLsbD i = false →
      i = BitScan.lowest rest ∨ rest.getLsbD i = false := by
    intro i gone
    cases bit : rest.getLsbD i with
    | false => exact .inr rfl
    | true =>
      have first := BitScan.lowest_le bit
      have kept : ¬ BitScan.lowest rest < i := by
        intro above
        rw [(left i).mpr ⟨bit, above⟩] at gone
        cases gone
      exact .inl (by omega)
  have threshold : s.threshold ctx ≤ best.2 := by
    by_cases first : best.1 = 0
    · exact BitVec.le_of_eq (scan.none first).symm
    · exact BitVec.le_of_lt (scan.some first).2.1
  unfold Vplic.better
  split
  · rename_i higher
    refine ⟨within, fun zero => (source zero).elim, fun _ => ⟨candidate, ?_, rfl, ?_⟩, ?_⟩
    · bv_omega
    · exact fun i bit => ((left i).mp bit).2
    · intro i set gone
      rcases seen i gone with same | before
      · exact .inr (by simp [same])
      · rcases scan.seen i set before with lower | equal
        · exact .inl (BitVec.lt_trans lower higher)
        · exact .inl (by rw [equal.1]; exact higher)
  · refine ⟨within, scan.none, fun some => ?_, ?_⟩
    · have found := scan.some some
      exact ⟨found.1, found.2.1, found.2.2.1, fun i bit => found.2.2.2 i ((left i).mp bit).1⟩
    · intro i bit gone
      rcases seen i gone with same | before
      · subst same
        have reach : s.priority (BitScan.lowest rest) < best.2 ∨
            s.priority (BitScan.lowest rest) = best.2 := by bv_omega
        rcases reach with less | equal
        · exact .inl less
        · refine .inr ⟨equal, ?_⟩
          by_cases first : best.1 = 0
          · omega
          · exact Nat.le_of_lt ((scan.some first).2.2.2 _ set)
      · exact scan.seen i bit before

theorem nextDeliverable_spec (mine : ctx < s.nrVcpus) (small : ctx < vplicMaxVcpus) :
    (s.nextDeliverable ctx = 0 ∧
        ∀ i, (s.candidates ctx).getLsbD i = true → ¬ s.threshold ctx < s.priority i) ∨
      (s.nextDeliverable ctx ≠ 0 ∧
        s.Chosen ctx (fun i => (s.candidates ctx).getLsbD i = true) (s.nextDeliverable ctx)) := by
  have value : s.nextDeliverable ctx = (BitScan.foldBits s.better vplicMaxIrqs (s.candidates ctx)
      (0, s.threshold ctx)).1 := by
    unfold Vplic.nextDeliverable
    rw [if_neg (by omega)]
  have scan : s.Scan ctx 0#64 (BitScan.foldBits s.better vplicMaxIrqs (s.candidates ctx)
      (0, s.threshold ctx)) :=
    BitScan.foldBits_invariant (fun _ _ more scan => scan.round more) vplicMaxIrqs (.start s ctx)
      (fun i _ => Nat.le_add_left 64 i)
  rw [value]
  generalize BitScan.foldBits s.better vplicMaxIrqs (s.candidates ctx) (0, s.threshold ctx) = best
    at scan
  by_cases none : best.1 = 0
  · refine .inl ⟨none, fun i bit higher => ?_⟩
    have seen := scan.seen i bit (by simp)
    rw [scan.none none] at seen
    rcases seen with lower | equal
    · exact BitVec.lt_irrefl _ (BitVec.lt_trans lower higher)
    · rw [equal.1] at higher
      exact BitVec.lt_irrefl _ higher
  · obtain ⟨member, above, prio, -⟩ := scan.some none
    refine .inr ⟨none, member, prio ▸ above, fun i bit => ?_⟩
    have seen := scan.seen i bit (by simp)
    rw [prio] at seen
    exact seen

/-- What the claims of a guest rest on: a source that some context holds is not pending and is held
by that context alone. -/
structure PlicGuest.Exclusive (m : PlicGuest) : Prop where
  held : ∀ ctx irq, m.held ctx irq = (m.plic.active ctx).getLsbD irq
  mine : ∀ ctx irq, (m.plic.active ctx).getLsbD irq = true → ctx < m.plic.nrVcpus
  small : m.plic.nrVcpus ≤ vplicMaxVcpus
  source : m.plic.pending.getLsbD 0 = false
  claimed : ∀ ctx, (m.plic.active ctx).getLsbD 0 = false
  quiet : ∀ ctx irq, m.plic.pending.getLsbD irq = true → (m.plic.active ctx).getLsbD irq = false
  alone : ∀ ctx other irq, (m.plic.active ctx).getLsbD irq = true →
    (m.plic.active other).getLsbD irq = true → ctx = other

theorem vplicInit_small (nrVcpus : Nat) : (vplicInit nrVcpus).nrVcpus ≤ vplicMaxVcpus := by
  unfold vplicInit vplicMaxVcpus
  by_cases none : nrVcpus < 1
  · simp [none]
  · by_cases many : nrVcpus > 12
    · simp [none, many]
    · simp only [none, many, if_false]
      omega

theorem exclusive_start (nrVcpus : Nat) : (PlicGuest.start nrVcpus).Exclusive where
  held := by simp [PlicGuest.start, vplicInit]
  mine := by simp [PlicGuest.start, vplicInit]
  small := vplicInit_small nrVcpus
  source := by simp [PlicGuest.start, vplicInit]
  claimed := by simp [PlicGuest.start, vplicInit]
  quiet := by simp [PlicGuest.start, vplicInit]
  alone := by simp [PlicGuest.start, vplicInit]

variable {m : PlicGuest}

theorem PlicGuest.Exclusive.configure (inv : m.Exclusive) {s : Vplic}
    (nrVcpus : s.nrVcpus = m.plic.nrVcpus) (pending : s.pending = m.plic.pending)
    (active : s.active = m.plic.active) : (PlicGuest.mk s m.held).Exclusive where
  held := by simpa only [active] using inv.held
  mine := by simpa only [active, nrVcpus] using inv.mine
  small := by simpa only [nrVcpus] using inv.small
  source := by simpa only [pending] using inv.source
  claimed := by simpa only [active] using inv.claimed
  quiet := by simpa only [active, pending] using inv.quiet
  alone := by simpa only [active] using inv.alone

theorem PlicGuest.Exclusive.raise (inv : m.Exclusive) (irq : Nat)
    (idle : ∀ ctx < m.plic.nrVcpus, (m.plic.active ctx).getLsbD irq = false) :
    (PlicGuest.mk (m.plic.setPending irq) m.held).Exclusive := by
  unfold Vplic.setPending
  split
  · exact inv
  · refine ⟨inv.held, inv.mine, inv.small, ?_, inv.claimed, ?_, inv.alone⟩
    · simp only [BitVec.getLsbD_or, inv.source, getLsbD_sourceBit, Bool.false_or]
      simp
      omega
    · intro ctx i pending
      simp only [BitVec.getLsbD_or, getLsbD_sourceBit, Bool.or_eq_true, Bool.and_eq_true,
        decide_eq_true_eq] at pending
      rcases pending with before | ⟨same, _⟩
      · exact inv.quiet ctx i before
      · subst same
        by_cases mine : ctx < m.plic.nrVcpus
        · exact idle ctx mine
        · simpa using mt (inv.mine ctx irq) mine

theorem release_idle {irq : Nat} (idle : m.held ctx irq = false) : m.release ctx irq = m.held := by
  funext c i
  unfold PlicGuest.release
  by_cases here : c = ctx ∧ i = irq
  · rw [here.1, here.2, idle]
    rfl
  · have other : (c == ctx && i == irq) = false := by
      simpa using here
    simp [other]

theorem PlicGuest.Exclusive.complete (inv : m.Exclusive) (ctx irq : Nat) :
    (PlicGuest.mk (m.plic.complete ctx irq) (m.release ctx irq)).Exclusive := by
  unfold Vplic.complete
  split
  · rename_i ignored
    have idle : m.held ctx irq = false := by
      rw [inv.held]
      rcases ignored with outside | none | outside
      · apply Bool.eq_false_iff.mpr
        intro set
        have mine := inv.mine ctx irq set
        have small := inv.small
        omega
      · rw [none]
        exact inv.claimed ctx
      · exact BitVec.getLsbD_of_ge _ _ outside
    rw [release_idle idle]
    exact inv
  · -- What is active afterwards was active before.
    have shrink : ∀ c i, (update m.plic.active ctx
        (m.plic.active ctx &&& ~~~sourceBit irq) c).getLsbD i = m.release ctx irq c i := by
      intro c i
      unfold PlicGuest.release
      rw [inv.held]
      by_cases here : c = ctx
      · subst here
        rw [update_self, BitVec.getLsbD_and, BitVec.getLsbD_not, getLsbD_sourceBit]
        by_cases same : i = irq
        · subst same
          by_cases inside : i < 64
          · simp [inside]
          · simp [inside]
        · by_cases inside : i < 64
          · simp [inside, same, Ne.symm same]
          · simp [BitVec.getLsbD_of_ge _ i (Nat.le_of_not_lt inside)]
      · simp [here]
    have before : ∀ c i, m.release ctx irq c i = true → (m.plic.active c).getLsbD i = true := by
      intro c i set
      simp only [PlicGuest.release, Bool.and_eq_true] at set
      rw [← inv.held]
      exact set.1
    refine ⟨fun c i => (shrink c i).symm, ?_, inv.small, inv.source, ?_, ?_, ?_⟩
    · intro c i set
      exact inv.mine c i (before c i (shrink c i ▸ set))
    · intro c
      rw [shrink]
      apply Bool.eq_false_iff.mpr
      intro set
      have active := before c 0 set
      rw [inv.claimed c] at active
      cases active
    · intro c i pending
      rw [shrink]
      apply Bool.eq_false_iff.mpr
      intro set
      have active := before c i set
      rw [inv.quiet c i pending] at active
      cases active
    · intro c d i set setOther
      exact inv.alone c d i (before c i (shrink c i ▸ set)) (before d i (shrink d i ▸ setOther))

theorem claim_cases (ctx : Nat) :
    s.claim ctx = (s, 0) ∨ (ctx < s.nrVcpus ∧ ctx < vplicMaxVcpus ∧ s.nextDeliverable ctx ≠ 0 ∧
        s.claim ctx = (s.grant ctx (s.nextDeliverable ctx), s.nextDeliverable ctx)) := by
  unfold Vplic.claim
  split
  · exact .inl rfl
  · split
    · exact .inl rfl
    · rename_i found
      refine .inr ⟨?_, by omega, found, rfl⟩
      by_contra foreign
      apply found
      unfold Vplic.nextDeliverable
      rw [if_pos (.inl (Nat.le_of_not_lt foreign))]

theorem grant_pending (ctx irq i : Nat) :
    (s.grant ctx irq).pending.getLsbD i = true ↔ s.pending.getLsbD i = true ∧ i ≠ irq := by
  simp only [Vplic.grant, BitVec.getLsbD_and, BitVec.getLsbD_not, getLsbD_sourceBit]
  constructor
  · intro both
    simp only [Bool.and_eq_true, decide_eq_true_eq, Bool.not_eq_true', Bool.and_eq_false_iff,
      decide_eq_false_iff_not] at both
    exact ⟨both.1, by omega⟩
  · rintro ⟨set, other⟩
    simp [set, BitVec.lt_of_getLsbD set, Ne.symm other]

theorem PlicGuest.Exclusive.deliverable (inv : m.Exclusive) (mine : ctx < m.plic.nrVcpus)
    (found : m.plic.nextDeliverable ctx ≠ 0) :
    ∀ other, (m.plic.active other).getLsbD (m.plic.nextDeliverable ctx) = false := by
  intro other
  rcases nextDeliverable_spec m.plic mine (Nat.lt_of_lt_of_le mine inv.small) with none | some
  · exact absurd none.1 found
  · exact inv.quiet other _ ((getLsbD_candidates _ _ _).mp some.2.member).1

theorem take_zero (m : PlicGuest) (ctx : Nat) : m.take ctx 0 = m.held := by
  funext c i
  simp [PlicGuest.take]

theorem PlicGuest.Exclusive.claim (inv : m.Exclusive) (ctx : Nat) :
    (PlicGuest.mk (m.plic.claim ctx).1 (m.take ctx (m.plic.claim ctx).2)).Exclusive := by
  rcases claim_cases m.plic ctx with none | ⟨mine, small, found, some⟩
  · rw [none]
    rw [take_zero]
    exact inv
  · have idle := inv.deliverable mine found
    have inside : m.plic.nextDeliverable ctx < 64 := by
      rcases nextDeliverable_spec m.plic mine small with none | chosen
      · exact absurd none.1 found
      · exact BitVec.lt_of_getLsbD chosen.2.member
    rw [some]
    generalize m.plic.nextDeliverable ctx = irq at found idle inside
    have active : ∀ c i, ((m.plic.grant ctx irq).active c).getLsbD i = m.take ctx irq c i := by
      intro c i
      unfold Vplic.grant PlicGuest.take
      rw [inv.held]
      by_cases here : c = ctx
      · subst here
        simp only [update_self, BitVec.getLsbD_or, getLsbD_sourceBit]
        by_cases same : i = irq
        · subst same
          simp [inside, found]
        · simp [same, Ne.symm same]
      · simp [here]
    have held : ∀ c i, m.take ctx irq c i = true ↔
        (m.plic.active c).getLsbD i = true ∨ (c = ctx ∧ i = irq) := by
      intro c i
      simp [PlicGuest.take, inv.held, found]
    have pending := grant_pending m.plic ctx irq
    refine ⟨fun c i => (active c i).symm, ?_, inv.small, ?_, ?_, ?_, ?_⟩
    · intro c i set
      rw [active, held] at set
      rcases set with before | here
      · exact inv.mine c i before
      · rw [here.1]
        exact mine
    · apply Bool.eq_false_iff.mpr
      intro set
      have before := ((pending 0).mp set).1
      rw [inv.source] at before
      cases before
    · intro c
      apply Bool.eq_false_iff.mpr
      intro set
      rw [active, held] at set
      rcases set with before | here
      · rw [inv.claimed c] at before
        cases before
      · exact found here.2.symm
    · intro c i set
      have before := (pending i).mp set
      apply Bool.eq_false_iff.mpr
      intro taken
      rw [active, held] at taken
      rcases taken with old | here
      · rw [inv.quiet c i before.1] at old
        cases old
      · exact before.2 here.2
    · intro c d i set setOther
      rw [active, held] at set setOther
      rcases set with before | here
      · rcases setOther with beforeOther | there
        · exact inv.alone c d i before beforeOther
        · rw [there.2, idle c] at before
          cases before
      · rcases setOther with beforeOther | there
        · rw [here.2, idle d] at beforeOther
          cases beforeOther
        · rw [here.1, there.1]

theorem context_apart (context : 0x200000 ≤ off) :
    ¬ off < vplicMaxIrqs * 4 ∧ ¬ (0x1000 ≤ off ∧ off < 0x1000 + 8) ∧
      ¬ (0x2000 ≤ off ∧ off < 0x2000 + 0x80 * vplicMaxVcpus) := by
  unfold vplicMaxIrqs vplicMaxVcpus
  omega

theorem read_context (context : 0x200000 ≤ off) :
    s.read off = s.readContext (contextOf off) (contextReg off) := by
  obtain ⟨priority, pending, enable⟩ := context_apart context
  unfold Vplic.read
  rw [if_neg priority, if_neg pending, if_neg enable, if_pos context]

theorem write_context (v : BitVec 32) (context : 0x200000 ≤ off) :
    s.write off v = s.writeContext (contextOf off) (contextReg off) v := by
  obtain ⟨priority, _, enable⟩ := context_apart context
  unfold Vplic.write
  rw [if_neg priority, if_neg enable, if_pos context]

theorem read_cases (off : Nat) :
    (∃ ctx, claimContext off = some ctx ∧ s.read off = s.claim ctx) ∨
      ((s.read off).1 = s ∧ ∀ ctx, claimContext off = some ctx → (s.read off).2 = 0) := by
  by_cases context : 0x200000 ≤ off
  · rw [read_context s context]
    unfold Vplic.readContext
    by_cases mine : contextOf off < s.nrVcpus
    · rw [if_pos mine]
      by_cases claim : contextReg off = 4
      · have value : claimContext off = some (contextOf off) := if_pos ⟨context, claim⟩
        rw [if_neg (by rw [claim]; decide), if_pos claim]
        exact .inl ⟨contextOf off, value, rfl⟩
      · have value : claimContext off = none := if_neg fun both => claim both.2
        apply Or.inr
        rw [if_neg claim, value]
        split <;> simp
    · rw [if_neg mine]
      exact .inr ⟨rfl, fun _ _ => rfl⟩
  · have value : claimContext off = none := if_neg fun both => context both.1
    apply Or.inr
    rw [value]
    unfold Vplic.read
    constructor
    · repeat' split
      all_goals rfl
    · simp

theorem write_cases (off : Nat) (v : BitVec 32) :
    (∃ ctx, claimContext off = some ctx ∧ s.write off v = s.complete ctx v.toNat) ∨
      ((s.write off v).nrVcpus = s.nrVcpus ∧ (s.write off v).pending = s.pending ∧
        (s.write off v).active = s.active ∧
          ∀ ctx, claimContext off = some ctx → s.nrVcpus ≤ ctx) := by
  by_cases context : 0x200000 ≤ off
  · rw [write_context s v context]
    unfold Vplic.writeContext
    by_cases mine : contextOf off < s.nrVcpus
    · rw [if_pos mine]
      by_cases claim : contextReg off = 4
      · have value : claimContext off = some (contextOf off) := if_pos ⟨context, claim⟩
        rw [if_neg (by rw [claim]; decide), if_pos claim]
        exact .inl ⟨contextOf off, value, rfl⟩
      · have value : claimContext off = none := if_neg fun both => claim both.2
        apply Or.inr
        rw [if_neg claim, value]
        split <;> simp
    · rw [if_neg mine]
      refine .inr ⟨rfl, rfl, rfl, fun ctx here => ?_⟩
      unfold claimContext at here
      split at here
      · cases here
        exact Nat.le_of_not_lt mine
      · cases here
  · have value : claimContext off = none := if_neg fun both => context both.1
    apply Or.inr
    rw [value]
    unfold Vplic.write
    refine ⟨?_, ?_, ?_, by simp⟩
    all_goals repeat' split
    all_goals rfl

def PlicGuest.raiseGuard (m : PlicGuest) : PlicAction → Prop
  | .raise irq => ∀ ctx < m.plic.nrVcpus, (m.plic.active ctx).getLsbD irq = false
  | _ => True

instance PlicGuest.raiseGuardDecidable (m : PlicGuest) (action : PlicAction) :
    Decidable (m.raiseGuard action) :=
  match action with
  | .raise _ => inferInstanceAs (Decidable (∀ _ < m.plic.nrVcpus, _))
  | .claim _ | .complete _ _ | .read _ | .write _ _ => inferInstanceAs (Decidable True)

theorem PlicGuest.Exclusive.step (inv : m.Exclusive) {action : PlicAction}
    (guard : m.raiseGuard action) : (m.next action).Exclusive := by
  cases action with
  | raise irq => exact inv.raise irq guard
  | claim ctx => exact inv.claim ctx
  | complete ctx irq => exact inv.complete ctx irq
  | read off =>
    show (PlicGuest.mk (m.plic.read off).1 (match claimContext off with
      | some ctx => m.take ctx (m.plic.read off).2
      | none => m.held)).Exclusive
    rcases read_cases m.plic off with ⟨ctx, here, claim⟩ | ⟨same, zero⟩
    · rw [claim, here]
      exact inv.claim ctx
    · cases here : claimContext off with
      | none =>
        rw [same]
        exact inv
      | some ctx =>
        dsimp only
        rw [same, zero ctx here, take_zero]
        exact inv
  | write off value =>
    show (PlicGuest.mk (m.plic.write off value) (match claimContext off with
      | some ctx => m.release ctx value.toNat
      | none => m.held)).Exclusive
    rcases write_cases m.plic off value with ⟨ctx, here, done⟩ | ⟨nr, pending, active, foreign⟩
    · rw [done, here]
      exact inv.complete ctx value.toNat
    · cases here : claimContext off with
      | none => exact inv.configure nr pending active
      | some ctx =>
        have idle : m.held ctx value.toNat = false := by
          apply Bool.eq_false_iff.mpr
          intro set
          rw [inv.held] at set
          have mine := inv.mine ctx _ set
          have outside := foreign ctx here
          omega
        dsimp only
        rw [release_idle idle]
        exact inv.configure nr pending active

def Vplic.Ready (s : Vplic) (ctx irq : Nat) : Prop :=
  s.pending.getLsbD irq = true ∧ (s.enable ctx).getLsbD irq = true ∧
    s.threshold ctx < s.priority irq

/-- What a claim of a context should do: return the ready source of the highest priority, or 0 if
none is ready, and end its pending state for all contexts, where no context holds what it
returns. -/
structure PlicGuest.ClaimOk (m : PlicGuest) (ctx : Nat) : Prop where
  register : m.plic.read (0x200004 + 0x1000 * ctx) = m.plic.claim ctx
  none : (m.plic.claim ctx).2 = 0 ↔ ∀ irq, ¬ m.plic.Ready ctx irq
  chosen : (m.plic.claim ctx).2 ≠ 0 → m.plic.Chosen ctx (m.plic.Ready ctx) (m.plic.claim ctx).2
  cleared : ∀ irq, (m.plic.claim ctx).1.pending.getLsbD irq = true ↔
    m.plic.pending.getLsbD irq = true ∧ irq ≠ (m.plic.claim ctx).2
  exclusive : ∀ other, m.held other (m.plic.claim ctx).2 = false

theorem PlicGuest.Exclusive.candidates (inv : m.Exclusive) (ctx irq : Nat) :
    (m.plic.candidates ctx).getLsbD irq = true ↔
      m.plic.pending.getLsbD irq = true ∧ (m.plic.enable ctx).getLsbD irq = true := by
  rw [getLsbD_candidates]
  constructor
  · intro all
    exact ⟨all.1, all.2.1⟩
  · rintro ⟨pending, enable⟩
    refine ⟨pending, enable, inv.quiet ctx irq pending, ?_⟩
    rintro rfl
    rw [inv.source] at pending
    cases pending

theorem read_claimReg (mine : ctx < s.nrVcpus) (small : ctx < 2 ^ 32) :
    s.read (0x200004 + 0x1000 * ctx) = s.claim ctx := by
  have here : contextOf (0x200004 + 0x1000 * ctx) = ctx := by
    unfold contextOf
    omega
  have reg : contextReg (0x200004 + 0x1000 * ctx) = 4 := by
    unfold contextReg
    omega
  rw [read_context s (by omega), here, reg]
  unfold Vplic.readContext
  rw [if_pos mine, if_neg (by decide), if_pos rfl]

theorem PlicGuest.Exclusive.claimOk (inv : m.Exclusive) (mine : ctx < m.plic.nrVcpus) :
    m.ClaimOk ctx := by
  have small := Nat.lt_of_lt_of_le mine inv.small
  have register := read_claimReg m.plic mine (Nat.lt_trans small (by decide))
  have spec := nextDeliverable_spec m.plic mine small
  rcases claim_cases m.plic ctx with none | ⟨-, -, found, some⟩
  · have nothing : ∀ irq, ¬ m.plic.Ready ctx irq := by
      have zero : m.plic.nextDeliverable ctx = 0 := by
        by_contra found
        unfold Vplic.claim at none
        rw [if_neg (Nat.not_le.mpr small), if_neg found] at none
        exact found (congrArg Prod.snd none)
      intro irq ready
      rcases spec with quiet | chosen
      · exact quiet.2 irq ((inv.candidates ctx irq).mpr ⟨ready.1, ready.2.1⟩) ready.2.2
      · exact chosen.1 zero
    refine ⟨none ▸ register, ?_, ?_, ?_, ?_⟩
    · simp [none, nothing]
    · simp [none]
    · intro irq
      rw [none]
      constructor
      · intro pending
        refine ⟨pending, ?_⟩
        rintro rfl
        rw [inv.source] at pending
        cases pending
      · exact fun both => both.1
    · intro other
      rw [none, inv.held]
      exact inv.claimed other
  · have chosen : m.plic.Chosen ctx (m.plic.Ready ctx) (m.plic.nextDeliverable ctx) := by
      rcases spec with quiet | chosen
      · exact absurd quiet.1 found
      · have member := (inv.candidates ctx _).mp chosen.2.member
        refine ⟨⟨member.1, member.2, chosen.2.above⟩, chosen.2.above, fun other ready => ?_⟩
        exact chosen.2.best other ((inv.candidates ctx other).mpr ⟨ready.1, ready.2.1⟩)
    refine ⟨register, ?_, ?_, ?_, ?_⟩
    · rw [some]
      constructor
      · intro zero
        exact absurd zero found
      · intro nothing
        exact absurd chosen.member (nothing _)
    · intro _
      rw [some]
      exact chosen
    · intro irq
      rw [some]
      exact grant_pending m.plic ctx _ irq
    · intro other
      rw [some, inv.held]
      exact inv.deliverable mine found other

/-- As long as a source is raised only while no context holds it, every claim of every context of a
guest does what it should. -/
theorem vplic_claims {nrVcpus : Nat} {actions : List PlicAction} {m : PlicGuest}
    (run : Run (Guarded (graph PlicGuest.next) PlicGuest.raiseGuard)
      (.start nrVcpus) actions m) {ctx : Nat} (mine : ctx < m.plic.nrVcpus) : m.ClaimOk ctx := by
  have inv : m.Exclusive :=
    run.guarded (fun _ _ inv guard => inv.step guard) (exclusive_start nrVcpus)
  exact inv.claimOk mine

def firstClaim : List PlicAction :=
  [.write (4 * 10) 1#32, .write 0x2000 0x400#32, .write 0x2080 0x400#32, .raise 10, .read 0x200004]

theorem firstClaim_ok :
    ((firstClaim.take 4).foldl PlicGuest.next (.start 2)).ClaimOk 1 ∧
      (((firstClaim.take 4).foldl PlicGuest.next (.start 2)).plic.claim 1).2 = 10 :=
  ⟨vplic_claims (run_of_passes (fun _ _ => of_decide_eq_true) (by decide +kernel))
    (by decide +kernel), by decide +kernel⟩

def raisedAgain : List PlicAction := firstClaim ++ [PlicAction.raise 10]

/-- The second context gets the source that the first one has not completed. -/
theorem second_claim :
    Run (graph PlicGuest.next) (.start 2) raisedAgain
        (raisedAgain.foldl PlicGuest.next (.start 2)) ∧
      ((raisedAgain.foldl PlicGuest.next (.start 2)).plic.claim 1).2 = 10 ∧
      (raisedAgain.foldl PlicGuest.next (.start 2)).held 0 10 = true :=
  ⟨run_foldl _ _ _, by decide +kernel, by decide +kernel⟩

end AvatarKernel
